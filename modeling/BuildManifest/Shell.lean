import BuildManifest.Session
import BuildManifest.Shell.Run

/-!
The executor that runs commands through a shell. Which shell it is, and how a
command is handed to it, may be overridden; a command that takes longer than it
is given is killed.
-/

namespace BuildManifest

namespace Shell

/-- The shell to start and the arguments that come before the command. -/
def commandLine (shell : Option Text) : Text × List Text :=
  match shell with
  | none => ("/bin/sh", ["-c"])
  | some name =>
    if name.has "powershell" || name.has "pwsh" then (name, ["-NoProfile", "-Command"])
    else if name.has "cmd" then (name, ["/C"])
    else (name, ["-c"])

/-- The bound on how deep commands nest and how often a loop goes round. -/
def fuel : Nat := 300000

def systemPlaces : List Location :=
  List.map (List.map String.toList)
    [["bin"], ["dev"], ["etc"], ["home"], ["opt"], ["proc"], ["root"], ["sbin"], ["tmp"],
      ["usr", "bin"], ["usr", "lib"], ["usr", "local", "bin"], ["usr", "local", "sbin"],
      ["usr", "sbin"], ["usr", "share"], ["var", "tmp"]]

/-- A world with the places that every system has. -/
def furnished (w : World) : World :=
  systemPlaces.foldl (fun w location =>
    if (w.tree.at? location).isSome then w else w.putAt location (.dir [])) w

/-- The files that every shell is given: nothing to read, and the two to write to. -/
def standardFiles : Array OpenFile :=
  #[⟨.nowhere, 0, false, true, false⟩, ⟨.screen, 0, false, false, true⟩,
    ⟨.complaints, 0, false, false, true⟩]

def firstProcess : Nat := 4711

/-- A program at its start, with nothing to read. -/
def start (home : Path) (limit : Option Nat) (w : World) : State :=
  let w := furnished w
  { world := w
    shown := []
    complained := []
    opened := standardFiles
    streams := [(0, 0), (1, 1), (2, 2)]
    unwritable := false
    process := firstProcess
    lastProcess := firstProcess
    name := []
    line := 1
    arguments := []
    bindings := Table.ofList [("HOME", octets home),
      ("PATH", defaultPath),
      ("PWD", octets w.currentPath)]
    exported := ["HOME", "PATH", "PWD"]
    frozen := []
    frames := []
    functions := []
    aliases := ⟨[]⟩
    options := []
    optionOffset := 0
    status := 0
    outputStatus := 0
    jobs := []
    finished := []
    lastJob := none
    traps := []
    pending := []
    mask := 18
    loops := 0
    depth := 0
    level := 0
    slept := 0
    limit
    guarded := false
    halt := none }

/-- The world after a run, with all that was printed and complained of. -/
def settled (w : World) (st : State) : World :=
  let shown := written st.shown.reverse.flatten
  let complained := written st.complained.reverse.flatten
  let after := { st.world with current := w.current }
  let after := if shown.isEmpty then after else after.print shown
  if complained.isEmpty then after else after.report complained

def execute (home : Path) (limit : Option Nat) (program : Text) (arguments : List Text)
    (command : Text) : World → Except Failure Int × World := fun w =>
  if program.contains '\x00' || command.contains '\x00' then
    (.error (.io (.other "nul byte found in provided data")), w)
  else
    let st := start home limit w
    match programOf st (octets program) with
    | .error e => (.error (.io (.system e)), w)
    | .ok found =>
      let seconds := limit.getD 0 / 1000
      if limit = some 0 then (.error (.timeout command seconds), w)
      else
        let all := found.before ++ (arguments ++ [command]).map octets
        let st := runSystem fuel (octets program) found.command all st
        let after := settled w st
        match st.halt, limit with
        | some .outOfTime, some _ => (.error (.timeout command seconds), after)
        | some .outOfTime, none => (.ok 1, after)
        | some (.killed n), _ => (.ok (128 + n), after)
        | _, _ => (.ok st.status, after)

/-- The executor of a shell, with a limit in milliseconds. -/
def executor (home : Path) (shell : Option Text) (limit : Option Nat) : Executor :=
  fun command w =>
    let (program, arguments) := commandLine shell
    execute home limit program arguments command w

end Shell

end BuildManifest
