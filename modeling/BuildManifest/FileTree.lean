import BuildManifest.Text

/-!
A file tree: regular files with their bytes, symbolic links with their target as
written, and directories. A place in the tree is the list of names that leads to
it from the root, without passing any link.
-/

namespace BuildManifest

inductive Node where
  | file (content : ByteArray) (executable : Bool)
  | link (target : Text)
  | dir (entries : List (Text × Node))

/-- What a node is, without what is in it. -/
inductive Kind where
  | file
  | link
  | dir
  deriving DecidableEq, Repr

/-- The names from the root down to a node. -/
abbrev Location := List Text

def Node.kind : Node → Kind
  | .file _ _ => .file
  | .link _ => .link
  | .dir _ => .dir

namespace Entries

def get? (name : Text) : List (Text × Node) → Option Node
  | [] => none
  | (n, node) :: rest => if n = name then some node else get? name rest

/-- Replaces the entry of this name, or adds one. -/
def alter (name : Text) (f : Option Node → Node) : List (Text × Node) → List (Text × Node)
  | [] => [(name, f none)]
  | (n, node) :: rest =>
    if n = name then (n, f (some node)) :: rest else (n, node) :: alter name f rest

def remove (name : Text) : List (Text × Node) → List (Text × Node)
  | [] => []
  | (n, node) :: rest => if n = name then rest else (n, node) :: remove name rest

/-- Puts an entry before the first one with a later name. -/
def place (e : Text × Kind) : List (Text × Kind) → List (Text × Kind)
  | [] => [e]
  | f :: rest => if Text.le e.1 f.1 then e :: f :: rest else f :: place e rest

/-- The names with the kinds of their nodes, in the order of the names. -/
def listing : List (Text × Node) → List (Text × Kind)
  | [] => []
  | (n, node) :: rest => place (n, node.kind) (listing rest)

end Entries

namespace Node

def at? : Node → Location → Option Node
  | n, [] => some n
  | .dir entries, name :: rest =>
    match Entries.get? name entries with
    | some n => n.at? rest
    | none => none
  | _, _ :: _ => none

/-- Puts a node at a place, making the directories that lead to it. A place
below a file or a link does not exist, and nothing happens. -/
def put (new : Node) : Location → Node → Node
  | [], _ => new
  | name :: rest, .dir entries =>
    .dir (Entries.alter name (fun n => put new rest (n.getD (.dir []))) entries)
  | _ :: _, n => n

def remove : Location → Node → Node
  | [], n => n
  | [name], .dir entries => .dir (Entries.remove name entries)
  | name :: rest, .dir entries =>
    match Entries.get? name entries with
    | some n => .dir (Entries.alter name (fun _ => remove rest n) entries)
    | none => .dir entries
  | _ :: _, n => n

end Node

end BuildManifest
