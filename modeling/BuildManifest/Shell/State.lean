import BuildManifest.Shell.Octets
import BuildManifest.Shell.Tree
import BuildManifest.Table
import BuildManifest.World

/-!
What a shell carries along while it runs: the world, its parameters and
variables, and its open files. The open files are shared by all the commands of
a run, while every shell has its own streams that lead to them. Time is counted
only while a command sleeps.
-/

namespace BuildManifest

namespace Shell

/-- What an open file reads from and writes to. -/
inductive Device where
  | screen
  | complaints
  | nowhere
  | full
  | zeros
  | directory
  | file (location : Location)
  /-- Something to read that is in no file. -/
  | text (t : Text)
  /-- What has been written for another command to read, the last part first. -/
  | collected (parts : List Text)

structure OpenFile where
  device : Device
  /-- How much has been read or written. -/
  position : Nat
  appends : Bool
  reads : Bool
  writes : Bool

/-- Why a shell does not go on. -/
inductive Halt where
  | exit
  /-- A signal has ended the shell with this number. -/
  | killed (signal : Nat)
  | outOfTime
  | leaveLoop (levels : Nat)
  | nextRound (levels : Nat)
  | leaveFunction
  deriving DecidableEq

/-- A command in the background that is still to be run, with what it knows of
the shell that began it. -/
structure Job where
  process : Nat
  command : Command
  bindings : Table
  arguments : List Text
  streams : List (Nat × Nat)
  current : Location
  begun : Nat

structure State where
  world : World
  /-- What has been printed and what has been complained of, the last part
  first. -/
  shown : List Text
  complained : List Text
  opened : Array OpenFile
  /-- The open files that the streams of this shell lead to. -/
  streams : List (Nat × Nat)
  /-- Whether something could not be written. -/
  unwritable : Bool
  /-- The number of the shell, and the last one that was given to any command. -/
  process : Nat
  lastProcess : Nat
  /-- The name the shell was called by, and the line it has got to. -/
  name : Text
  line : Nat
  arguments : List Text
  bindings : Table
  /-- The variables that the commands of the shell get to see. -/
  exported : List Text
  frozen : List Text
  /-- What the functions that are running will put back. -/
  frames : List (List (Text × Option Text))
  functions : List (Text × Command)
  aliases : Table
  options : List Char
  optionOffset : Nat
  status : Nat
  /-- The status of the last script whose output was filled in. -/
  outputStatus : Nat
  jobs : List Job
  finished : List (Nat × Nat)
  lastJob : Option Nat
  /-- What is to be done when signals come; zero stands for the end. -/
  traps : List (Nat × Text)
  /-- The signals that have come for the outermost shell. -/
  pending : List Nat
  mask : Nat
  loops : Nat
  depth : Nat
  /-- How many subshells this one is in. -/
  level : Nat
  /-- Milliseconds slept, and how many there may be. -/
  slept : Nat
  limit : Option Nat
  /-- Whether a failure is being asked about, so that it does not end the shell. -/
  guarded : Bool
  halt : Option Halt

namespace State

/-- The open file that a stream leads to. -/
def openedAt? (st : State) (stream : Nat) : Option (Nat × OpenFile) :=
  match st.streams.lookup stream with
  | some i => (st.opened[i]?).map (i, ·)
  | none => none

def update (st : State) (i : Nat) (f : OpenFile) : State :=
  { st with opened := st.opened.setIfInBounds i f }

def lead (st : State) (stream i : Nat) : State :=
  { st with streams := (stream, i) :: st.streams.filter fun s => s.1 ≠ stream }

def close (st : State) (stream : Nat) : State :=
  { st with streams := st.streams.filter fun s => s.1 ≠ stream }

/-- Adds an open file and gives its number. -/
def add (st : State) (f : OpenFile) : Nat × State :=
  (st.opened.size, { st with opened := st.opened.push f })

def reading (t : Text) : OpenFile := ⟨.text t, 0, false, true, false⟩

def collecting : OpenFile := ⟨.collected [], 0, false, false, true⟩

/-- Everything that was written to an open file for others to read. -/
def gathered (st : State) (i : Nat) : Text :=
  match (st.opened[i]?).map OpenFile.device with
  | some (.collected parts) => parts.reverse.flatten
  | _ => []

/-- The bytes that are put into a file from a position on. -/
def overwrite (old : ByteArray) (position : Nat) (t : Text) : ByteArray :=
  let gap : ByteArray := ⟨(List.replicate (position - old.size) (0 : UInt8)).toArray⟩
  old.extract 0 position ++ gap ++ bytesOf t ++ old.extract (position + t.length) old.size

def send (st : State) (stream : Nat) (t : Text) : State :=
  if t.isEmpty then st
  else
    match st.openedAt? stream with
    | none => { st with unwritable := true }
    | some (i, f) =>
      if !f.writes then { st with unwritable := true }
      else
        match f.device with
        | .screen => { st with shown := t :: st.shown }
        | .complaints => { st with complained := t :: st.complained }
        | .collected parts =>
          st.update i { f with device := .collected (t :: parts), position := f.position + t.length }
        | .file location =>
          match st.world.tree.at? location with
          | some (.file content executable) =>
            let position := if f.appends then content.size else f.position
            let node : Node := .file (overwrite content position t) executable
            { st.update i { f with position := position + t.length } with
              world := st.world.putAt location node }
          | _ => st
        | .full => { st with unwritable := true }
        | _ => st

def print (st : State) (t : Text) : State := st.send 1 t

def printLine (st : State) (t : Text) : State := st.send 1 (t ++ ['\n'])

def complain (st : State) (t : Text) : State :=
  { st.send 2 (t ++ ['\n']) with unwritable := st.unwritable }

def withStatus (st : State) (n : Nat) : State := { st with status := n }

/-- Complains and sets the status. -/
def failing (st : State) (n : Nat) (t : Text) : State := (st.complain t).withStatus n

/-- What the shell itself complains of. -/
def shellFault (st : State) (n : Nat) (t : Text) : State :=
  st.failing n (st.name ++ (": " : Text) ++ Text.ofNat st.line ++ (": " : Text) ++ t)

/-- Complains and ends the shell. -/
def abort (st : State) (t : Text) : State := { st.shellFault 2 t with halt := some .exit }

/-- What can still be read from an open file, but no more than so much of what
never ends. -/
def left (st : State) (f : OpenFile) (most : Nat) : Except SystemError Text :=
  if !f.reads then .error (.number 9)
  else
    match f.device with
    | .text t => .ok (t.drop f.position)
    | .file location =>
      match st.world.tree.at? location with
      | some (.file content _) => .ok (octetsOf (content.extract f.position content.size))
      | _ => .ok []
    | .zeros => .ok (List.replicate most '\x00')
    | .directory => .error .isDirectory
    | _ => .ok []

def waiting (st : State) (stream most : Nat) : Except SystemError Text :=
  match st.openedAt? stream with
  | none => .error (.number 9)
  | some (_, f) => st.left f most

/-- Takes so many characters from what a stream has to read. -/
def advance (st : State) (stream n : Nat) : State :=
  match st.openedAt? stream with
  | none => st
  | some (i, f) => st.update i { f with position := f.position + n }

def readAll (st : State) (stream most : Nat) : Except SystemError Text × State :=
  match st.waiting stream most with
  | .error e => (.error e, st)
  | .ok t => (.ok t, st.advance stream t.length)

def lookup (st : State) (name : Text) : Option Text := st.bindings.get? name

def set (st : State) (name value : Text) : State :=
  { st with
    bindings := st.bindings.insert name value
    optionOffset := if name = ("OPTIND" : Text) then 0 else st.optionOffset
    exported := if st.options.contains 'a' && !st.exported.contains name then
        name :: st.exported else st.exported }

def unset (st : State) (name : Text) : State :=
  { st with
    bindings := ⟨st.bindings.entries.filter fun e => e.1 ≠ name⟩
    exported := st.exported.filter (· ≠ name) }

/-- Sets a variable, which ends the shell if it must not be changed. -/
def assign (st : State) (name value : Text) : State :=
  if st.frozen.contains name then st.abort (name ++ (": is read only" : Text))
  else st.set name value

def exports (st : State) (name : Text) : State :=
  { st with exported := if st.exported.contains name then st.exported else name :: st.exported }

/-- The variables that commands get to see. -/
def environment (st : State) : List (Text × Text) :=
  st.bindings.entries.filter fun e => st.exported.contains e.1

/-- What is left of a run inside a shell of its own: the world, the open files
and the clock. -/
def rejoin (st inner : State) : State :=
  { st with
    world := { inner.world with current := st.world.current }
    shown := inner.shown
    complained := inner.complained
    opened := inner.opened
    lastProcess := inner.lastProcess
    slept := inner.slept
    status := inner.status
    pending := inner.pending
    halt := if inner.halt = some .outOfTime then some .outOfTime else none }

/-- Runs something and gives what it printed. -/
def capturing (f : State → State) (st : State) : Text × State :=
  let (i, opened) := st.add collecting
  let inner := f (opened.lead 1 i)
  (inner.gathered i, { inner with
    streams := st.streams
    opened := inner.opened.setIfInBounds i ⟨.nowhere, 0, false, false, false⟩ })

/-- Runs something that has a text to read. -/
def feeding (t : Text) (f : State → State) (st : State) : State :=
  let (i, opened) := st.add (reading t)
  let inner := f (opened.lead 0 i)
  { inner with
    streams := st.streams
    opened := inner.opened.setIfInBounds i ⟨.nowhere, 0, false, false, false⟩ }

/-- Sleeps, or gives up when there is no time for it. -/
def sleep (st : State) (milliseconds : Nat) : State :=
  let slept := st.slept + milliseconds
  if st.limit.any (· < slept) then { st with slept, halt := some .outOfTime }
  else { st with slept }

def find (st : State) (p : Path) : Except SystemError FileTree.Place := st.world.find (written p)

def findSelf (st : State) (p : Path) : Except SystemError FileTree.Place :=
  st.world.findSelf (written p)

def isDirectory (st : State) (p : Path) : Bool := st.world.isDirectory (written p)

def list (st : State) (p : Path) : Except SystemError (List (Text × Kind)) :=
  (st.world.list (written p)).map fun es => es.map fun e => (octets e.1, e.2)

/-- The files of the system that are no files of the tree. -/
def specialFile? (p : Path) : Option Device :=
  match String.ofList p with
  | "/dev/null" => some .nowhere
  | "/dev/zero" => some .zeros
  | "/dev/full" => some .full
  | _ => none

/-- The stream that a path stands for. -/
def streamPath? (p : Path) : Option Nat :=
  match String.ofList p with
  | "/dev/stdin" => some 0
  | "/dev/stdout" => some 1
  | "/dev/stderr" => some 2
  | _ => (Text.after? "/dev/fd/" p).bind natural?

def readFile (st : State) (p : Path) : Except SystemError Text :=
  match specialFile? p with
  | some .zeros => .ok (List.replicate 65536 '\x00')
  | some _ => .ok []
  | none => (st.world.readFile (written p)).map octetsOf

def writeFile (st : State) (p : Path) (t : Text) : Except SystemError State :=
  match specialFile? p with
  | some .full => .error (.number 28)
  | some _ => .ok st
  | none => (st.world.writeFile (written p) (bytesOf t)).map fun world => { st with world }

/-- Opens a file for an open file of its own, or finds the one that its path
stands for. -/
def openFile (st : State) (p : Path) (opening : Opening) : Except SystemError (Nat × State) :=
  let reads := opening = .read || opening = .readWrite
  let writes := opening ≠ .read
  let appends := opening = .append
  let make (st : State) (device : Device) : Except SystemError (Nat × State) :=
    .ok (st.add ⟨device, 0, appends, reads, writes⟩)
  match streamPath? p, specialFile? p with
  | some stream, _ =>
    match st.streams.lookup stream with
    | some i => .ok (i, st)
    | none => .error .noSuchFile
  | none, some device => make st device
  | none, none =>
    if p.isEmpty then .error .noSuchFile
    else
      match st.find p with
      | .error e => .error e
      | .ok (.found location (.file _ executable)) =>
        if opening = .write || opening = .clobber then
          make { st with world := st.world.putAt location (.file ByteArray.empty executable) }
            (.file location)
        else make st (.file location)
      | .ok (.found _ _) => if writes then .error .isDirectory else make st .directory
      | .ok (.vacant _ _ true) => .error (if writes then .isDirectory else .noSuchFile)
      | .ok (.vacant directory name false) =>
        if opening = .read then .error .noSuchFile
        else
          let location := directory ++ [name]
          make { st with world := st.world.putAt location (.file ByteArray.empty false) }
            (.file location)

end State

/-- Runs a command by its name, with its arguments, if there is one of that name. -/
abbrev Runner := List Text → State → Except SystemError State

def reason (e : SystemError) : Text := e.description

/-- Goes over operands; the status is the first that is not zero. -/
def eachOperand (f : State → Text → State) (st : State) (operands : List Text) : State :=
  operands.foldl (fun st t =>
    let before := st.status
    let st := f (st.withStatus 0) t
    if before = 0 then st else st.withStatus before) (st.withStatus 0)

/-- A name in quotes, as complaints show it. -/
def quotedName (p : Path) : Text :=
  if p.contains '\'' then '"' :: p ++ ['"'] else '\'' :: p ++ ['\'']

end Shell

end BuildManifest
