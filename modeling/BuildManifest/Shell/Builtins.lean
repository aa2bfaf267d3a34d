import BuildManifest.Shell.Program
import BuildManifest.Shell.Reading
import BuildManifest.Shell.Settings
import BuildManifest.Shell.Utilities

/-!
The commands that a shell carries out itself and that run no others, and what the
shell says of the commands it knows.
-/

namespace BuildManifest

namespace Shell

/-- The commands whose faults end the shell and whose assignments stay. -/
def specialBuiltins : List Text :=
  List.map String.toList
    [":", ".", "break", "continue", "eval", "exec", "exit", "export", "readonly", "return", "set",
      "shift", "times", "trap", "unset", "local"]

/-- The commands of a shell that need the shell itself to run others. -/
def runningBuiltins : List Text :=
  List.map String.toList ["eval", ".", "exec", "command", "type", "wait"]

/-- The words that mean something to the shell where a command may begin. -/
def keywords : List Text :=
  List.map String.toList
    ["!", "\x7b", "\x7d", "case", "do", "done", "elif", "else", "esac", "fi", "for", "if", "in",
      "then", "until", "while"]

/-- Leaves a script, a function or the shell with a status. -/
def leave (command : String) (halt : Halt) (st : State) (arguments : List Text) : State :=
  match arguments with
  | [] => { st with halt := some halt }
  | t :: _ =>
    match natural? t with
    | some n => { st with status := n % 256, halt := some halt }
    | none => st.abort (command.toList ++ (": Illegal number: " : Text) ++ t)

/-- Leaves loops or goes on to their next round. -/
def leaveLoops (command : String) (halt : Nat → Halt) (st : State) (arguments : List Text) :
    State :=
  let levels? : Option Nat := match arguments with
    | [] => some 1
    | t :: _ => (natural? t).filter (· > 0)
  match levels? with
  | none =>
    st.abort (command.toList ++ (": Illegal number: " : Text) ++ (arguments.head?).getD [])
  | some n =>
    if st.loops = 0 then st.withStatus 0
    else { st with halt := some (halt (min n st.loops)), status := 0 }

def forget (st : State) (arguments : List Text) : State :=
  arguments.foldl (fun st name =>
    if name.head? = some '-' || (commandPath st name).toOption.isSome then st
    else st.shellFault 1 (("hash: " : Text) ++ name ++ (": not found" : Text))) (st.withStatus 0)

def listJobs (st : State) (_ : List Text) : State :=
  let one (st : State) (i : Nat) : State :=
    let sign := if i + 1 = st.jobs.length then '+' else if i + 2 = st.jobs.length then '-' else ' '
    st.printLine ('[' :: Text.ofNat (i + 1) ++ [']', ' ', sign, ' '] ++ padRight 27 "Running")
  ((List.range st.jobs.length).foldl one st).withStatus 0

def builtin? (name : Text) : Option (State → List Text → State) :=
  match String.ofList name with
  | ":" | "true" => some fun st _ => st.withStatus 0
  | "false" => some fun st _ => st.withStatus 1
  | "echo" => some echo
  | "printf" => some (printf State.shellFault)
  | "test" | "[" => some (test name)
  | "cd" | "chdir" => some changeDirectory
  | "pwd" => some printDirectory
  | "export" => some exportNames
  | "readonly" => some freezeNames
  | "local" => some localNames
  | "unset" => some unsetNames
  | "set" => some setOptions
  | "shift" => some shift
  | "getopts" => some nextOption
  | "read" => some readLineInto
  | "alias" => some aliasNames
  | "unalias" => some unaliasNames
  | "umask" => some changeMask
  | "ulimit" => some fun st _ => (st.printLine "unlimited").withStatus 0
  | "times" => some fun st _ =>
    (st.print "0m0.000000s 0m0.000000s\n0m0.000000s 0m0.000000s\n").withStatus 0
  | "hash" => some forget
  | "jobs" => some listJobs
  | "fg" | "bg" => some fun st _ =>
    st.shellFault 2 (name ++ (": job (null) not created under job control" : Text))
  | "trap" => some trap
  | "kill" => some kill
  | "break" => some (leaveLoops "break" .leaveLoop)
  | "continue" => some (leaveLoops "continue" .nextRound)
  | "return" => some (leave "return" .leaveFunction)
  | "exit" => some (leave "exit" .exit)
  | _ => none

def isBuiltin (name : Text) : Bool := (builtin? name).isSome || runningBuiltins.contains name

/-- What the shell says of a command: what it is, or in short how it is called. -/
def description? (st : State) (inShort : Bool) (name : Text) : Option Text :=
  let say (long short : Text) : Option Text := some (if inShort then short else name ++ long)
  if keywords.contains name then say " is a shell keyword" name
  else
    match st.aliases.get? name with
    | some value =>
      say ((" is an alias for " : Text) ++ value)
        (("alias " : Text) ++ name ++ '=' :: singleQuoted value)
    | none =>
      if (st.functions.lookup name).isSome then say " is a shell function" name
      else if isBuiltin name then
        say (if specialBuiltins.contains name && name ≠ ("local" : Text) then
          " is a special shell builtin" else " is a shell builtin") name
      else
        match commandPath st name with
        | .error _ => none
        | .ok p =>
          let isThere := (systemCommand? p).isSome || match st.find p with
            | .ok (.found _ (.file _ executable)) => executable
            | _ => false
          if isThere then say ((" is " : Text) ++ p) p else none

/-- Describes commands; the status tells whether all of them are known. -/
def describe (inShort : Bool) (st : State) (names : List Text) : State :=
  names.foldl (fun st name =>
    match description? st inShort name with
    | some t => st.printLine t
    | none =>
      (if inShort then st else st.printLine (name ++ (": not found" : Text))).withStatus 127)
    (st.withStatus 0)

end Shell

end BuildManifest
