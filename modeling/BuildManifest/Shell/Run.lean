import BuildManifest.Shell.Builtins
import BuildManifest.Shell.Finding
import BuildManifest.Shell.Launching
import BuildManifest.Shell.Records
import BuildManifest.Shell.Streams

/-!
Running shell scripts. Every script, every part of a pipeline and every script whose
output is filled in runs in a shell of its own, which leaves nothing behind but what
it did to the world. Commands in the background are run as soon as they are waited
for. The fuel bounds how deep commands nest and how often a loop goes round; a shell
that uses it up is stopped.
-/

namespace BuildManifest

namespace Shell

/-- How deep functions may call each other. -/
def deepestCall : Nat := 1000

/-- What a loop does after a round: the state, and whether to go on. -/
def afterRound (st : State) : State × Bool :=
  match st.halt with
  | none => (st, !overflows st)
  | some (.leaveLoop n) =>
    ({ st with halt := if n ≤ 1 then none else some (.leaveLoop (n - 1)) }, false)
  | some (.nextRound n) =>
    if n ≤ 1 then ({ st with halt := none }, true)
    else ({ st with halt := some (.nextRound (n - 1)) }, false)
  | some _ => (st, false)

/-- Runs something whose failure is being asked about. -/
def guarding (f : State → State) (st : State) : State :=
  { f { st with guarded := true } with guarded := st.guarded }

def breaks (t : Text) : Nat := (t.filter (· = '\n')).length

/-- Runs a script line by line, given how to run a command. -/
def runLines (eval : Command → State → State) : (fuel : Nat) → Text → State → State
  | 0, _, st => st
  | fuel + 1, t, st =>
    if st.halt.isSome || st.options.contains 'n' then st
    else
      let start := toCommand t
      let st := { st with line := st.line + (breaks t - breaks start) }
      match nextLine st.aliases start with
      | none => st
      | some none => st.abort "Syntax error"
      | some (some (c, rest)) =>
        let after := eval c st
        runLines eval fuel rest { after with line := after.line + (breaks start - breaks rest) }

def runScript (eval : Command → State → State) (t : Text) (st : State) : State :=
  runLines eval (t.length + 1) t st

/-- A shell within a shell. Its traps are forgotten, unless they let signals pass. -/
def enter (st : State) : State :=
  { st with
    level := st.level + 1
    traps := st.traps.filter fun t => t.2.isEmpty
    jobs := [] }

/-- The directories of the system's commands, as a shell knows them from the start. -/
def defaultPath : Text := "/usr/local/sbin:/usr/local/bin:/usr/sbin:/usr/bin:/sbin:/bin"

/-- The variables that a shell has from the start. -/
def initialBindings : List (Text × Text) :=
  [("IFS", " \t\n"), ("OPTIND", "1"), ("PATH", defaultPath), ("PPID", "1"), ("PS1", "# "),
    ("PS2", "> "), ("PS4", "+ ")]

/-- A shell that is a program of its own. -/
def newShell (st : State) (name : Text) (arguments : List Text) : State :=
  { st with
    name
    arguments
    process := st.lastProcess + 1
    lastProcess := st.lastProcess + 1
    line := 1
    bindings := Table.ofList (st.environment ++ initialBindings.filter fun v =>
      (st.environment.lookup v.1).isNone)
    frozen := []
    frames := []
    functions := []
    aliases := ⟨[]⟩
    options := []
    optionOffset := 0
    status := 0
    outputStatus := 0
    jobs := []
    finished := []
    lastJob := none
    traps := st.traps.filter fun t => t.2.isEmpty
    pending := []
    loops := 0
    depth := 0
    level := 0
    guarded := false
    halt := none }

/-- What a shell leaves behind that was a program of its own. A signal that ended it
is passed on. -/
def leaveShell (st inner : State) : State :=
  let after := { st.rejoin inner with pending := st.pending }
  match inner.halt with
  | some (.killed n) => { after with halt := some (.killed n), status := 128 + n }
  | _ => after

/-- What is left of a program that has been run, with a report if a signal ended it. -/
def leaveProgram (st inner : State) : State :=
  let after := { st.rejoin inner with unwritable := false }
  match inner.halt with
  | some (.killed n) =>
    let report := signalReport n
    if report.isEmpty then after else after.complain report
  | _ => after

def valueAtoms (st : State) (name : Text) (quoted : Bool) : List Atom :=
  let between (joint : Text) : List Atom :=
    match st.arguments with
    | [] => [.absent]
    | first :: others =>
      others.foldl (fun atoms a => atoms ++ .cut joint :: atomsOf quoted a) (atomsOf quoted first)
  match String.ofList name, quoted with
  | "@", true => between [' ']
  | "@", false | "*", false => if st.arguments.isEmpty then [] else between (joint st)
  | _, _ => atomsOf quoted ((parameter? st name).getD [])

def launchFault (lead name : Text) (e : SystemError) (st : State) : State :=
  let (status, why) : Nat × Text :=
    if e = .noSuchFile || e = .notDirectory then (127, "not found")
    else if name.contains '/' then (launchStatus e, reason e)
    else (127, reason e)
  st.shellFault status (lead ++ name ++ (": " : Text) ++ why)

/-- Complains about output that could not be written. -/
def checkOutput (complain : State → State) (st : State) : State :=
  if st.unwritable && st.halt.isNone then
    { complain st with unwritable := false, status := if st.status = 0 then 1 else st.status }
  else { st with unwritable := false }

/-- Whether the arguments of a command are taken as assignments. -/
def declares (texts : List Text) : Bool :=
  match texts with
  | name :: rest =>
    let name := if name = ("command" : Text) then rest.head?.getD [] else name
    name = ("export" : Text) || name = ("readonly" : Text) || name = ("local" : Text)
  | [] => false

/-- Puts back the variables that were set for one command only. -/
def putBack (before : State) (names : List Text) (st : State) : State :=
  names.foldl (fun st name =>
    let st := match before.lookup name with
      | some v => { st with bindings := st.bindings.insert name v }
      | none => { st with bindings := ⟨st.bindings.entries.filter fun e => e.1 ≠ name⟩ }
    { st with exported := if before.exported.contains name then st.exported
        else st.exported.filter (· ≠ name) }) st

mutual

def fill : (fuel : Nat) → Word → State → List Atom × State
  | 0, _, st => ([], { st with halt := some .outOfTime })
  | _ + 1, [], st => ([], st)
  | fuel + 1, p :: rest, st =>
    let (atoms, st) := fillPiece fuel p st
    if st.halt.isSome then (atoms, st)
    else
      let (more, st) := fill fuel rest st
      (atoms ++ more, st)

def fillPiece : (fuel : Nat) → Piece → State → List Atom × State
  | 0, _, st => ([], { st with halt := some .outOfTime })
  | fuel + 1, p, st =>
    match p with
    | .text t quoted => (if quoted then atomsOf true t else t.map (.char · false), st)
    | .output script quoted =>
      let run (st : State) : State :=
        finish fuel (eval fuel script (enter { st with guarded := false, frames := st.frames }))
      let (t, inner) := State.capturing run st
      let after := { st.rejoin inner with status := st.status, outputStatus := inner.status }
      let t := (t.reverse.dropWhile (· = '\n')).reverse.filter (· ≠ '\x00')
      (atomsOf quoted t, after)
    | .sum expression quoted =>
      let (atoms, st) := fill fuel expression st
      if st.halt.isSome then ([], st)
      else
        match sum st.lookup (textOfAtoms atoms) with
        | .error what => ([], st.abort what)
        | .ok (n, memory) =>
          (atomsOf quoted (Text.ofInt n),
            memory.foldl (fun st (name, v) => st.assign name (Text.ofInt v)) st)
    | .parameter name change operand quoted =>
      let value? := parameter? st name
      let ofOperand (st : State) : List Atom × State :=
        let (atoms, st) := fill fuel (withHome st operand) st
        (if quoted then atoms else loosened atoms, st)
      let missing (ifEmpty : Bool) : Bool := match value? with
        | none => true
        | some v => v.isEmpty && ifEmpty
      let isList := name = ['@'] || name = ['*']
      if value?.isNone && st.options.contains 'u' && !isList && (match change with
          | .nothing | .length | .trim _ _ => true
          | _ => false) then
        ([], st.abort (name ++ (": parameter not set" : Text)))
      else
        match change with
        | .nothing => (valueAtoms st name quoted, st)
        | .length => (atomsOf quoted (Text.ofNat (value?.getD []).length), st)
        | .default ifEmpty =>
          if missing ifEmpty then ofOperand st else (valueAtoms st name quoted, st)
        | .replace ifEmpty => if missing ifEmpty then ([], st) else ofOperand st
        | .assign ifEmpty =>
          if missing ifEmpty then
            let (atoms, st) := ofOperand st
            if st.halt.isSome then ([], st)
            else if !isName name then ([], st.abort (name ++ (": bad variable name" : Text)))
            else
              let t := textOfAtoms atoms
              (atomsOf quoted t, st.assign name t)
          else (valueAtoms st name quoted, st)
        | .demand ifEmpty =>
          if missing ifEmpty then
            let (atoms, st) := ofOperand st
            let what : Text :=
              if operand.isEmpty then
                (if ifEmpty then "parameter not set or null" else "parameter not set")
              else textOfAtoms atoms
            if st.halt.isSome then ([], st)
            else ([], st.abort (name ++ (": " : Text) ++ what))
          else (valueAtoms st name quoted, st)
        | .trim atEnd longest =>
          let (atoms, st) := fill fuel (withHome st operand) st
          (atomsOf quoted (takeOff atEnd longest (patternOfAtoms atoms) (value?.getD [])), st)
        | .unknown => ([], st.abort "Bad substitution")

/-- The texts that words stand for, behind those that have been filled in before. -/
def fillWords : (fuel : Nat) → (before : List Text) → List Word → State → List Text × State
  | 0, before, _, st => (before, { st with halt := some .outOfTime })
  | _ + 1, before, [], st => (before, st)
  | fuel + 1, before, w :: rest, st =>
    if st.halt.isSome then (before, st)
    else
      match (if declares before then assignment? w else none) with
      | some (name, value) =>
        let (atoms, st) := fill fuel (withHomes st value) st
        fillWords fuel (before ++ [name ++ '=' :: textOfAtoms atoms]) rest st
      | none =>
        let (atoms, st) := fill fuel (withHome st w) st
        let texts := (wordsOf (separators st) atoms).flatMap (filesOf st)
        fillWords fuel (before ++ texts) rest st

def assignAll : (fuel : Nat) → List (Text × Word) → State → State
  | 0, _, st => { st with halt := some .outOfTime }
  | _ + 1, [], st => st
  | fuel + 1, (name, w) :: rest, st =>
    if st.halt.isSome then st
    else
      let (atoms, st) := fill fuel (withHomes st w) st
      if st.halt.isSome then st
      else assignAll fuel rest (st.assign name (textOfAtoms atoms))

/-- Applies redirections until one fails. -/
def redirectAll : (fuel : Nat) → List Redirection → State → State × Bool
  | 0, _, st => (st, false)
  | _ + 1, [], st => (st, true)
  | fuel + 1, .mk stream opening target :: rest, st =>
    let (atoms, st) := fill fuel (if opening = .document then target else withHome st target) st
    if st.halt.isSome then (st, false)
    else
      match redirect st stream opening (textOfAtoms atoms) with
      | (st, true) => redirectAll fuel rest st
      | (st, false) => (st, false)

def finish : (fuel : Nat) → State → State
  | 0, st => st
  | fuel + 1, st =>
    match st.halt with
    | some (.killed _) | some .outOfTime => st
    | _ =>
      let st := match st.traps.lookup 0 with
        | some script =>
          let inner := runScript (eval fuel) script
            { st with halt := none, guarded := false, traps := st.traps.filter fun t => t.1 ≠ 0 }
          if inner.halt.isSome then inner else inner.withStatus st.status
        | none => st
      let status := st.status
      let inner := runJobs fuel st.slept st.jobs { st with halt := none }
      { inner with halt := st.halt, status }

/-- Runs commands in the background that need no longer than up to some moment. -/
def runJobs : (fuel : Nat) → (deadline : Nat) → List Job → State → State
  | 0, _, _, st => st
  | _ + 1, _, [], st => st
  | fuel + 1, deadline, j :: rest, st =>
    if st.halt.isSome then st
    else
      let (i, opened) := st.add ⟨.nowhere, 0, false, true, false⟩
      let start := { enter opened with
        bindings := j.bindings
        arguments := j.arguments
        streams := (0, i) :: j.streams.filter fun s => s.1 ≠ 0
        world := { opened.world with current := j.current }
        slept := j.begun
        limit := some deadline
        guarded := false
        loops := 0 }
      let inner := finish fuel (eval fuel j.command start)
      if inner.halt = some .outOfTime then
        let shows := { st with shown := inner.shown }
        runJobs fuel deadline rest (if deadline = st.slept && st.halt.isNone then shows else st)
      else
        let after := st.rejoin inner
        runJobs fuel deadline rest { after with
          slept := max st.slept inner.slept
          status := st.status
          jobs := after.jobs.filter fun k => k.process ≠ j.process
          finished := (j.process, inner.status) :: after.finished }

def wait : (fuel : Nat) → List Text → State → State
  | 0, _, st => st
  | fuel + 1, arguments, st =>
    let deadline := st.limit.getD (st.slept + Nat.pow 10 12)
    let before := st.jobs
    let st := runJobs fuel deadline st.jobs st
    let late (st : State) : Bool := before.any fun j => st.jobs.any fun k => k.process = j.process
    match arguments with
    | [] =>
      if late st then { st with halt := some .outOfTime } else { st.withStatus 0 with finished := [] }
    | ts =>
      ts.foldl (fun st t =>
        let process? : Option Nat := match t with
          | '%' :: n =>
            match natural? n with
            | some n => (before.reverse[before.length - n]?).map (·.process)
            | none => st.lastJob
          | n => natural? n
        match process? with
        | none => st.shellFault 2 (("wait: Illegal number: " : Text) ++ t)
        | some p =>
          match st.finished.lookup p with
          | some status =>
            let report := if status > 128 then signalReport (status - 128) else []
            (if report.isEmpty then st else st.complain report).withStatus status
          | none =>
            if st.jobs.any fun j => j.process = p then { st with halt := some .outOfTime }
            else st.withStatus 127) st

/-- Does what the signals ask for that have come for the shell. -/
def settle : (fuel : Nat) → List Nat → State → State
  | 0, _, st => st
  | _ + 1, [], st => st
  | fuel + 1, signal :: rest, st =>
    match verdict st signal with
    | .ignored => settle fuel rest st
    | .fatal => { st with halt := some (.killed signal), status := 128 + signal }
    | .action script =>
      let after := runScript (eval fuel) script st
      if after.halt.isSome then after else settle fuel rest (after.withStatus st.status)

/-- What follows a command: signals are minded, and a failure may end the shell. -/
def afterCommand : (fuel : Nat) → State → State
  | 0, st => st
  | fuel + 1, st =>
    let st := if st.level = 0 && !st.pending.isEmpty && st.halt.isNone then
        settle fuel st.pending { st with pending := [] }
      else st
    if st.options.contains 'e' && !st.guarded && st.status ≠ 0 && st.halt.isNone then
      { st with halt := some .exit }
    else st

/-- Runs a script of its own shell, which has been read from somewhere. -/
def runOwn : (fuel : Nat) → Text → (fresh : State) → State → State
  | 0, _, _, st => { st with halt := some .outOfTime }
  | fuel + 1, script, fresh, st => leaveShell st (finish fuel (runScript (eval fuel) script fresh))

def runFile : (fuel : Nat) → (called : Text) → Path → (fresh : State) → State → State
  | 0, _, _, _, st => { st with halt := some .outOfTime }
  | fuel + 1, called, p, fresh, st =>
    match st.readFile p with
    | .ok script => runOwn fuel script { fresh with name := p } st
    | .error .isDirectory => st.withStatus 0
    | .error e =>
      st.failing 2 (called ++ (": 0: cannot open " : Text) ++ p ++ (": " : Text) ++
        openingReason false e)

def runShell : (fuel : Nat) → (called : Text) → List Text → State → State
  | 0, _, _, st => { st with halt := some .outOfTime }
  | fuel + 1, called, arguments, st =>
    let fault (st : State) (t : Text) : State :=
      { st.failing 2 (called ++ (": 0: " : Text) ++ t) with halt := some .exit }
    let (fresh, rest) := readOptions fault "cl" (arguments.length + 1)
      (newShell st called []) arguments
    let operands := rest.getD []
    let own := { fresh with options := fresh.options.filter fun c => c ≠ 'c' && c ≠ 'l' }
    if fresh.halt.isSome then leaveShell st fresh
    else if fresh.options.contains 'c' then
      match operands with
      | [] => leaveShell st (fault fresh "-c requires an argument")
      | script :: more =>
        runOwn fuel script { own with name := more.head?.getD called, arguments := more.tail } st
    else
      match operands, fresh.options.contains 's' with
      | p :: more, false => runFile fuel called p { own with arguments := more } st
      | operands, _ =>
        let (t, st) := st.readAll 0 plenty
        runOwn fuel (t.toOption.getD []) { own with arguments := operands, opened := st.opened } st

def runSystem : (fuel : Nat) → (called command : Text) → List Text → State → State
  | 0, _, _, _, st => { st with halt := some .outOfTime }
  | fuel + 1, called, command, arguments, st =>
    let shell (t : Text) (st : State) : State :=
      leaveProgram st (runShell fuel "sh" ["-c".toList, t] st)
    match String.ofList command with
    | "sh" | "dash" | "bash" => runShell fuel called arguments st
    | "awk" | "mawk" | "nawk" => Records.run shell fuel st arguments
    | "find" => find (launch fuel) st arguments
    | "xargs" => launchWithWords (launch fuel) st arguments
    | "env" => launchInEnvironment (launch fuel) st arguments
    | "timeout" => launchForTime (launch fuel) st arguments
    | "nohup" => launchPlainly "nohup" [] (launch fuel) st arguments
    | "nice" => launchPlainly "nice" "n:" (launch fuel) st arguments
    | "stdbuf" => launchPlainly "stdbuf" "i:o:e:" (launch fuel) st arguments
    | "setsid" => launchPlainly "setsid" "cfw" (launch fuel) st arguments
    | "which" => showPaths arguments st
    | _ =>
      match utility? command with
      | some f => f st arguments
      | none => st.withStatus 127
where
  /-- Prints where commands are found. -/
  showPaths (arguments : List Text) (st : State) : State :=
    arguments.foldl (fun st name =>
      if name.head? = some '-' then st
      else
        match commandPath st name with
        | .ok p =>
          match programAt st scriptDepth p with
          | .ok _ | .error (.number 8) => st.printLine p
          | .error _ => st.withStatus 1
        | .error _ => st.withStatus 1) (st.withStatus 0)

def launch : (fuel : Nat) → List Text → State → Except SystemError State
  | 0, _, st => .ok { st with halt := some .outOfTime }
  | _ + 1, [], st => .ok st
  | fuel + 1, name :: arguments, st =>
    match commandPath st name with
    | .error e => .error e
    | .ok p =>
      match programAt st scriptDepth p with
      | .ok program =>
        let inner := runSystem fuel name program.command (program.before ++ arguments)
          { st with unwritable := false, lastProcess := st.lastProcess + 1, status := 0 }
        .ok (leaveProgram st (checkOutput (fun st =>
          st.complain (program.command ++ (": write error" : Text))) inner))
      | .error e =>
        let isScript : Bool := match st.find p with
          | .ok (.found _ (.file content _)) => e = execFormat && !isMachineCode content
          | _ => false
        if isScript then .ok (leaveProgram st (runFile fuel p p (newShell st p arguments) st))
        else .error e

/-- Runs a command by its name: a function, one of the shell's own, or a program. -/
def runCommand : (fuel : Nat) → (functions : Bool) → List Text → State → State
  | 0, _, _, st => { st with halt := some .outOfTime }
  | _ + 1, _, [], st => st.withStatus 0
  | fuel + 1, functions, name :: arguments, st =>
    match (if functions then st.functions.lookup name else none) with
    | some body => callFunction fuel body arguments st
    | none =>
      match builtin? name with
      | some f =>
        checkOutput (fun st => st.shellFault 1 (name ++ (": " : Text) ++ name ++
          (": I/O error" : Text))) (f { st with unwritable := false } arguments)
      | none =>
        match String.ofList name with
        | "eval" =>
          let t := Text.joined [' '] arguments
          if (toCommand t).isEmpty then st.withStatus 0 else runScript (eval fuel) t st
        | "exec" => replaceShell fuel arguments st
        | "." => runDot fuel arguments st
        | "command" => runPlain fuel arguments st
        | "type" => describe false st arguments
        | "wait" => wait fuel arguments st
        | _ =>
          match launch fuel (name :: arguments) st with
          | .ok st => st
          | .error e => launchFault [] name e st

def callFunction : (fuel : Nat) → Command → List Text → State → State
  | 0, _, _, st => { st with halt := some .outOfTime }
  | fuel + 1, body, arguments, st =>
    if st.depth ≥ deepestCall then
      st.abort "Maximum function recursion depth (1000) reached"
    else
      let inner := eval fuel body
        { st with
          arguments
          frames := [] :: st.frames
          loops := 0
          depth := st.depth + 1
          optionOffset := 0 }
      let inner := restore (inner.frames.head?.getD []) inner
      { inner with
        arguments := st.arguments
        frames := st.frames
        loops := st.loops
        depth := st.depth
        optionOffset := st.optionOffset
        halt := if inner.halt = some .leaveFunction then none else inner.halt }

/-- Runs a program in place of the shell. -/
def replaceShell : (fuel : Nat) → List Text → State → State
  | 0, _, st => { st with halt := some .outOfTime }
  | fuel + 1, arguments, st =>
    match (match arguments with
      | ['-', '-'] :: rest => rest
      | rest => rest) with
    | [] => st.withStatus 0
    | name :: rest =>
      let st := match launch fuel (name :: rest) st with
        | .ok st => st
        | .error e => launchFault "exec: " name e st
      { st with
        traps := st.traps.filter fun t => t.1 ≠ 0
        halt := some (st.halt.getD .exit) }

def runDot : (fuel : Nat) → List Text → State → State
  | 0, _, st => { st with halt := some .outOfTime }
  | fuel + 1, arguments, st =>
    match arguments with
    | [] => st.shellFault 2 ".: arg count"
    | name :: _ =>
      let path? : Option Path :=
        if name.contains '/' then some name
        else (Text.pieces ':' ((st.lookup "PATH").getD [])).findSome? fun dir =>
          let p := if dir.isEmpty then name else dir ++ '/' :: name
          match st.find p with
          | .ok (.found _ (.file _ _)) => some p
          | _ => none
      match path? with
      | none => st.abort ((".: " : Text) ++ name ++ (": not found" : Text))
      | some p =>
        match st.readFile p with
        | .error e =>
          st.abort ((".: cannot open " : Text) ++ p ++ (": " : Text) ++ openingReason false e)
        | .ok script =>
          let inner := runScript (eval fuel) script { st with line := 1, status := 0 }
          { inner with
            line := st.line
            halt := if inner.halt = some .leaveFunction then none else inner.halt }

/-- Runs a command that is no function, or says which one it is. A fault in it does
not end the shell. -/
def runPlain : (fuel : Nat) → List Text → State → State
  | 0, _, st => { st with halt := some .outOfTime }
  | fuel + 1, arguments, st =>
    match arguments with
    | ['-', 'v'] :: names => describe true st (names.take 1)
    | ['-', 'V'] :: names => describe false st (names.take 1)
    | ['-', 'p'] :: rest =>
      putBack st ["PATH".toList] (runPlain fuel rest (st.set "PATH" defaultPath))
    | ['-', '-'] :: rest => runPlain fuel rest st
    | [] => st.withStatus 0
    | name :: rest =>
      let after := runCommand fuel false (name :: rest) st
      let leaves := List.map String.toList ["exit", "eval", "return", "break", "continue", "exec"]
      if after.halt = some .exit && specialBuiltins.contains name && !leaves.contains name then
        { after with halt := none }
      else after

/-- Goes round a loop whose last round ended with the status `last`. -/
def goRound : (fuel : Nat) → (onSuccess : Bool) → (condition body : Command) → (last : Nat) →
    State → State
  | 0, _, _, _, _, st => { st with halt := some .outOfTime }
  | fuel + 1, onSuccess, condition, body, last, st =>
    match afterRound (guarding (eval fuel condition) st) with
    | (st, false) => st
    | (st, true) =>
      if (st.status = 0) ≠ onSuccess then st.withStatus last
      else
        match afterRound (eval fuel body st) with
        | (st, true) => goRound fuel onSuccess condition body st.status st
        | (st, false) => st

/-- Runs the body of a loop once for each text. -/
def goOver : (fuel : Nat) → (name : Text) → (body : Command) → List Text → State → State
  | 0, _, _, _, st => { st with halt := some .outOfTime }
  | _ + 1, _, _, [], st => st
  | fuel + 1, name, body, t :: rest, st =>
    let st := st.assign name t
    if st.halt.isSome then st
    else
      match afterRound (eval fuel body st) with
      | (st, true) => goOver fuel name body rest st
      | (st, false) => st

/-- The body of the first branch that the subject fits. -/
def branchFor : (fuel : Nat) → Text → List (List Word × Command) → State → Option Command × State
  | 0, _, _, st => (none, st)
  | _ + 1, _, [], st => (none, st)
  | fuel + 1, subject, (alternatives, body) :: rest, st =>
    match alternatives with
    | [] => branchFor fuel subject rest st
    | w :: more =>
      let (atoms, st) := fill fuel (withHome st w) st
      if st.halt.isSome then (none, st)
      else if fits (patternOfAtoms atoms) subject then (some body, st)
      else branchFor fuel subject ((more, body) :: rest) st

def runSimple : (fuel : Nat) → List (Text × Word) → List Word → List Redirection → State → State
  | 0, _, _, _, st => { st with halt := some .outOfTime }
  | fuel + 1, assignments, words, targets, st =>
    let (texts, st) := fillWords fuel [] words { st with outputStatus := 0 }
    if st.halt.isSome then st
    else
      let (opened, works) := redirectAll fuel targets st
      let special := specialBuiltins.contains (texts.head?.getD [])
      if !works then
        { opened with
          streams := st.streams
          halt := if special && opened.halt.isNone then some .exit else opened.halt }
      else
        let assigned := assignAll fuel assignments opened
        if assigned.halt.isSome then { assigned with streams := st.streams }
        else
          let assigned := trace (assignments.map (·.1)) texts st.streams assigned
          match texts with
          | [] => { assigned with streams := st.streams, status := assigned.outputStatus }
          | name :: _ =>
            let names := assignments.map (·.1)
            if special then
              let inner := runCommand fuel true texts assigned
              let keeps := name = ("exec" : Text) && texts.length = 1
              { inner with streams := if keeps then assigned.streams else st.streams }
            else
              let rushed := if name = ("sleep" : Text) then
                  runJobs fuel (assigned.slept + napOf texts) assigned.jobs assigned
                else assigned
              let inner := runCommand fuel true texts (names.foldl State.exports rushed)
              { (if names.isEmpty then inner else putBack st names inner) with
                streams := st.streams }
where
  /-- Shows a command before it is run, if that is asked for. -/
  trace (names texts : List Text) (streams : List (Nat × Nat)) (st : State) : State :=
    if st.options.contains 'x' then
      let given := names.map fun n => n ++ '=' :: ((st.lookup n).getD [])
      let shown := { st with streams }.complain
        ((st.lookup "PS4").getD [] ++ Text.joined [' '] (given ++ texts))
      { shown with streams := st.streams }
    else st
  /-- How long a command is going to sleep. -/
  napOf (texts : List Text) : Nat :=
    ((texts.drop 1).filterMap milliseconds?).foldl (· + ·) 0

def eval : (fuel : Nat) → Command → State → State
  | 0, _, st => { st with halt := some .outOfTime }
  | fuel + 1, c, st =>
    if st.halt.isSome || st.options.contains 'n' then st
    else
      match c with
      | .nothing => st
      | .simple assignments words targets =>
        afterCommand fuel (runSimple fuel assignments words targets st)
      | .pipe left right =>
        let run (c : Command) (st : State) : State :=
          st.rejoin (finish fuel (eval fuel c (enter st)))
        let (t, after) := State.capturing (run left) st
        if after.halt.isSome then after
        else
          let before := after.slept
          let after := State.feeding t (run right) { after with slept := st.slept, status := st.status }
          afterCommand fuel { after with slept := max before after.slept }
      | .negated c =>
        let st := guarding (eval fuel c) st
        if st.halt.isSome then st else st.withStatus (if st.status = 0 then 1 else 0)
      | .both left right =>
        let st := guarding (eval fuel left) st
        if st.halt.isNone && st.status = 0 then eval fuel right st else st
      | .either left right =>
        let st := guarding (eval fuel left) st
        if st.halt.isNone && st.status ≠ 0 then eval fuel right st else st
      | .inOrder left right => eval fuel right (eval fuel left st)
      | .background c =>
        let process := st.lastProcess + 1
        let job : Job := ⟨process, c, st.bindings, st.arguments, st.streams, st.world.current,
          st.slept⟩
        { st with
          lastProcess := process
          lastJob := some process
          jobs := st.jobs ++ [job]
          status := 0 }
      | .subshell c => afterCommand fuel (st.rejoin (finish fuel (eval fuel c (enter st))))
      | .redirected c targets =>
        let (opened, works) := redirectAll fuel targets st
        let inner := if works then eval fuel c opened else afterCommand fuel opened
        { inner with streams := st.streams }
      | .choice condition body otherwise =>
        let st := guarding (eval fuel condition) st
        if st.halt.isSome then st
        else if st.status = 0 then eval fuel body st
        else
          match otherwise with
          | .nothing => st.withStatus 0
          | c => eval fuel c st
      | .loop onSuccess condition body =>
        let inner := goRound fuel onSuccess condition body 0 { st with loops := st.loops + 1 }
        { inner with loops := st.loops }
      | .each name words body =>
        let (texts, st) := match words with
          | some ws => fillWords fuel [] ws st
          | none => (st.arguments, st)
        if st.halt.isSome then st
        else
          let inner := goOver fuel name body texts { st.withStatus 0 with loops := st.loops + 1 }
          { inner with loops := st.loops }
      | .select subject branches =>
        let (atoms, st) := fill fuel (withHome st subject) st
        if st.halt.isSome then st
        else
          match branchFor fuel (textOfAtoms atoms) branches st with
          | (some .nothing, st) | (none, st) => if st.halt.isSome then st else st.withStatus 0
          | (some body, st) => eval fuel body st
      | .define name body =>
        { st with
          functions := (name, body) :: st.functions.filter fun f => f.1 ≠ name
          status := 0 }

end

end Shell

end BuildManifest
