import BuildManifest.Glob.Expression

/-!
Exclusion rules. An entry with a wildcard character is a glob, matched against
a path made relative to a base directory; any other entry names a place in the
tree, and everything under it is excluded. Globs are put to use together, and
only then does one that nests too deep show.
-/

namespace BuildManifest

namespace Exclusion

/-- Whether an entry is a glob rather than the name of a place. -/
def isPattern (entry : Text) : Bool :=
  entry.any fun c => c = '*' || c = '?' || c = '[' || c = '\x7b'

/-- A glob entry that cannot be read. -/
structure BadEntry where
  entry : Text
  fault : Glob.Fault
  deriving DecidableEq, Repr

/-- What is wrong with the glob, without naming who asked. -/
def BadEntry.reason (e : BadEntry) : Text :=
  ("error parsing glob '" : Text) ++ e.entry ++ ("': " : Text) ++ e.fault.message

/-- Whether an entry can be used. The name of a place always can. -/
def check (entry : Text) : Except BadEntry Unit :=
  if isPattern entry then
    match Glob.parse entry with
    | .ok _ => .ok ()
    | .error fault => .error ⟨entry, fault⟩
  else .ok ()

/-- Why entries make no rules. A glob that nests too deep is named by its number
among those that need a regular expression, or, if they all match one extension
only, by its own expression. -/
inductive Fault where
  | unreadable (bad : BadEntry)
  | tooDeep (number : Nat)
  | tooDeepAlone (expression : Text)
  deriving DecidableEq, Repr

def Fault.reason : Fault → Text
  | .unreadable bad => ("invalid pattern '" : Text) ++ bad.entry ++ ("': " : Text) ++ bad.reason
  | .tooDeep n => ("error parsing pattern " : Text) ++ Text.ofNat n
  | .tooDeepAlone e =>
    ("error parsing glob '" : Text) ++ e ++ ("': error parsing pattern 0" : Text)

/-- What keeps globs from being put to use together. That they nest too deep is all
that is told; how large their expressions may be together is not. -/
def globFault? (globs : List Glob) : Option Fault :=
  let of (m : Glob.Method) := globs.filter fun g => Glob.method g.tokens = m
  match (of .expressionAfterExtension).find? Glob.isTooDeep with
  | some g => some (.tooDeepAlone (Glob.fullExpression g.tokens))
  | none => ((of .expression).findIdx? Glob.isTooDeep).map .tooDeep

end Exclusion

/-- Rules made from entries: the places, and the globs with the directory they
are relative to. -/
structure Exclusions where
  base : Path
  places : List Path
  globs : List Glob

namespace Exclusions

def empty : Exclusions := ⟨[], [], []⟩

def add (workDir : Path) (x : Exclusions) (entry : Text) :
    Except Exclusion.BadEntry Exclusions :=
  if Exclusion.isPattern entry then
    match Glob.parse entry with
    | .ok g => .ok { x with globs := x.globs ++ [g] }
    | .error fault => .error ⟨entry, fault⟩
  else .ok { x with places := x.places ++ [Path.absolutize workDir entry] }

/-- The rules of all entries. Globs are relative to `base`, places to
`workDir`. -/
def ofEntries (base workDir : Path) (entries : List Text) :
    Except Exclusion.Fault Exclusions :=
  match entries.foldlM (add workDir) ⟨base, [], []⟩ with
  | .error bad => .error (.unreadable bad)
  | .ok x =>
    match Exclusion.globFault? x.globs with
    | some fault => .error fault
    | none => .ok x

/-- A path is excluded if it lies under a place or a glob matches it. A path
outside the base is matched as it is written. -/
def excludes (x : Exclusions) (p : Path) : Bool :=
  x.places.any (fun place => place.isUnder p) ||
    x.globs.any (fun g => g.isMatch ((Path.relativeTo? x.base p).getD p))

end Exclusions

end BuildManifest
