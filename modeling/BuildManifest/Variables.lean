import BuildManifest.Table
import BuildManifest.Failure

/-!
The variables of a manifest: a table in which two names are reserved for the
program itself, the variables every manifest starts with, and the flags of an
invocation that add to them.
-/

namespace BuildManifest

/-- Names with their unexpanded values. -/
abbrev Variables := Table

/-- The names that no manifest and no flag may define. -/
def reservedNames : List Text := ["root", "file"]

def isReserved (name : Text) : Bool := reservedNames.contains name

inductive VariableFault where
  | redefinition (name : Text)
  | seededReserved (name : Text)
  | undefinedKey (name : Text)
  deriving DecidableEq, Repr

def VariableFault.message : VariableFault → Text
  | .redefinition name =>
      ("redefinition of built-in variable '" : Text) ++ name ++ ("'" : Text)
  | .seededReserved name =>
      ("'" : Text) ++ name ++ ("' is a built-in variable and cannot be seeded" : Text)
  | .undefinedKey name =>
      ("making condition on undefined key \"" : Text) ++ name ++ ("\"" : Text)

namespace Variables

/-- An assignment that a manifest asks for. -/
def assign (v : Variables) (name value : Text) : Except VariableFault Variables :=
  if isReserved name then .error (.redefinition name) else .ok (v.insert name value)

/-- The name of this platform as manifests spell it. -/
def platform : Text := "linux"

/-- What every manifest starts with, given the user's home directory. -/
def builtin (home : Path) : Variables :=
  Table.ofList [("windows", "win32"), ("linux", "linux"), ("macos", "darwin"),
    ("platform", platform), ("home", home)]

/-- Reads a flag: `name:value`, or a name alone for the empty value. -/
def readFlag (flag : Text) : Text × Text :=
  match Text.cut? [':'] flag with
  | some (name, value) => (name.trim, value.trim)
  | none => (flag.trim, [])

/-- Adds the variable of one flag; a flag without a name adds nothing. -/
def addFlag (v : Variables) (flag : Text) : Except VariableFault Variables :=
  let (name, value) := readFlag flag
  if name = [] then .ok v
  else if isReserved name then .error (.seededReserved name)
  else .ok (v.insert name value)

/-- The variables an invocation with these flags starts with. -/
def seeded (home : Path) (flags : List Text) : Except VariableFault Variables :=
  flags.foldlM addFlag (builtin home)

end Variables

end BuildManifest
