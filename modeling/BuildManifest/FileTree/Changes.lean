import BuildManifest.FileTree

/-!
The steps that lead from one file tree to another, in an order in which they can
be taken: whatever is in the way goes first, and a directory comes before what
is in it. Links are left alone.
-/

namespace BuildManifest

inductive Change where
  | remove (location : Location)
  | makeDirectory (location : Location)
  | write (location : Location) (content : ByteArray)

namespace Node

mutual

/-- The steps that make a node where there is none. -/
def making : Location → Node → List Change
  | here, .file content _ => [.write here content]
  | _, .link _ => []
  | here, .dir entries => .makeDirectory here :: makingAll here entries

def makingAll : Location → List (Text × Node) → List Change
  | _, [] => []
  | here, (name, n) :: rest => n.making (here ++ [name]) ++ makingAll here rest

end

/-- The entries of a directory that are gone. -/
def removals (here : Location) (old new : List (Text × Node)) : List Change :=
  (old.filter fun e => (Entries.get? e.1 new).isNone).map fun e => .remove (here ++ [e.1])

mutual

/-- The steps that turn the first node into the second. -/
def changes : Location → Node → Node → List Change
  | here, .file old _, .file new _ => if old = new then [] else [.write here new]
  | _, .link _, .link _ => []
  | here, .dir old, .dir new => removals here old new ++ changesAll here old new
  | here, _, new => .remove here :: new.making here

def changesAll : Location → List (Text × Node) → List (Text × Node) → List Change
  | _, _, [] => []
  | here, old, (name, n) :: rest =>
    (match Entries.get? name old with
    | some before => changes (here ++ [name]) before n
    | none => n.making (here ++ [name])) ++ changesAll here old rest

end

end Node

end BuildManifest
