import BuildManifest.Shell.Conditions

/-!
Which program a name stands for. A name without a slash is looked for in the
directories of the path; the directories of the system hold its commands. Any other
program is a file in the tree, which has to be executable and says in its first line
what runs it.
-/

namespace BuildManifest

namespace Shell

/-- A program: the command of the system that it comes down to and the arguments
that it gets before all others. -/
structure Program where
  command : Text
  before : List Text

/-- The command that runs a file, by its first line, and an argument for it. -/
def interpreter? (content : ByteArray) : Option (Text × List Text) :=
  let blank (c : Char) : Bool := c = ' ' || c = '\t'
  match octetsOf ⟨(content.toList.takeWhile (· ≠ 10)).toArray⟩ with
  | '#' :: '!' :: line =>
    let line := ((line.dropWhile blank).reverse.dropWhile blank).reverse
    let name := line.takeWhile fun c => !blank c
    let argument := (line.drop name.length).dropWhile blank
    if name.isEmpty then none else some (name, if argument.isEmpty then [] else [argument])
  | _ => none

/-- The number for a file that is no program. -/
def execFormat : SystemError := .number 8

/-- The program at a path. Scripts may be run by scripts a few times. -/
def programAt (st : State) : (fuel : Nat) → Path → Except SystemError Program
  | fuel, p =>
    match systemCommand? p with
    | some command => .ok ⟨command, []⟩
    | none =>
      match st.find p with
      | .error e => .error e
      | .ok (.vacant _ _ _) => .error .noSuchFile
      | .ok (.found _ (.file content true)) =>
        match fuel, interpreter? content with
        | 0, _ => .error .tooManyLinks
        | _, none => .error execFormat
        | fuel + 1, some (name, arguments) =>
          (programAt st fuel name).map fun program =>
            ⟨program.command, program.before ++ arguments ++ [p]⟩
      | .ok (.found _ _) => .error .permissionDenied

/-- How often scripts may be run by scripts. -/
def scriptDepth : Nat := 4

/-- The program of a name outside any shell: one of the system, if it has no slash. -/
def programOf (st : State) (name : Text) : Except SystemError Program :=
  if name.contains '/' then programAt st scriptDepth name
  else if systemCommands.contains name then .ok ⟨name, []⟩
  else .error .noSuchFile

/-- The path that a name is found at by the directories of a path; a file that may
not be run is passed over, but remembered. -/
def searchPath (st : State) (name : Text) (refused : Bool) :
    (directories : List Path) → Except SystemError Path
  | [] => .error (if refused then .permissionDenied else .noSuchFile)
  | directory :: rest =>
    let p := if directory.isEmpty then name
      else if directory.getLast? = some '/' then directory ++ name
      else directory ++ '/' :: name
    if (systemCommand? p).isSome then .ok p
    else
      match st.find p with
      | .ok (.found _ (.file _ true)) => .ok p
      | .ok (.found _ _) => searchPath st name true rest
      | _ => searchPath st name refused rest

def commandPath (st : State) (name : Text) : Except SystemError Path :=
  if name.isEmpty then .error .noSuchFile
  else if name.contains '/' then .ok name
  else
    match st.lookup "PATH" with
    | none => .error .noSuchFile
    | some t => searchPath st name false (Text.pieces ':' t)

def isMachineCode (content : ByteArray) : Bool :=
  (content.extract 0 4).toList = [127, 69, 76, 70]

end Shell

end BuildManifest
