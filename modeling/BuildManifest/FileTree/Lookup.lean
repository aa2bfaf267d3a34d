import BuildManifest.FileTree
import BuildManifest.Failure.SystemError
import BuildManifest.Path

/-!
How the system finds what a path means: piece by piece from the root or the
current directory, through symbolic links, of which it follows at most forty. A
path may also lead to a vacant name in an existing directory, where something
can be made.
-/

namespace BuildManifest

namespace FileTree

inductive Place where
  | found (location : Location) (node : Node)
  /-- A name that is free in a directory. The path may ask for a directory there
  by ending in a slash. -/
  | vacant (directory : Location) (name : Text) (endsInSlash : Bool)

/-- What pieces of a path lead to before any link is followed. -/
inductive Progress where
  | done (result : Except SystemError Place)
  | atLink (directory : Location) (target : Text) (rest : List Text)

/-- A name that is missing: too long to exist, free to be taken, or in the way
of the pieces that follow. -/
def missing (directory : Location) (name : Text) (rest : List Text) : Except SystemError Place :=
  if name.byteLength > 255 then .error .nameTooLong
  else if rest.all List.isEmpty then .ok (.vacant directory name (!rest.isEmpty))
  else .error .noSuchFile

/-- Follows pieces from a place up to the first link. A link at the very end is
an answer unless it is to be followed. -/
def walk (root : Node) (followLast : Bool) : Location → List Text → Progress
  | here, [] =>
    match root.at? here with
    | some n => .done (.ok (.found here n))
    | none => .done (.error .noSuchFile)
  | here, piece :: rest =>
    match root.at? here with
    | none => .done (.error .noSuchFile)
    | some (.dir entries) =>
      if Path.isIdle piece then walk root followLast here rest
      else if piece = ['.', '.'] then walk root followLast here.dropLast rest
      else
        match Entries.get? piece entries with
        | none => .done (missing here piece rest)
        | some (.link target) =>
          if rest.isEmpty && !followLast then
            .done (.ok (.found (here ++ [piece]) (.link target)))
          else .atLink here target rest
        | some _ => walk root followLast (here ++ [piece]) rest
    | some _ => .done (.error .notDirectory)

/-- Follows pieces through at most so many links. -/
def follow (root : Node) (followLast : Bool) :
    Nat → Location → List Text → Except SystemError Place
  | links, here, pieces =>
    match walk root followLast here pieces with
    | .done result => result
    | .atLink directory target rest =>
      match links with
      | 0 => .error .tooManyLinks
      | links + 1 =>
        follow root followLast links (if Path.isAbsolute target then [] else directory)
          (Text.pieces '/' target ++ rest)

/-- The bytes that the text of a path has to stay below. -/
def pathLimit : Nat := 4096

/-- What a path means, seen from a current directory. -/
def lookup (root : Node) (current : Location) (followLast : Bool) (p : Path) :
    Except SystemError Place :=
  if p.contains '\x00' then .error .nulInPath
  else if p.byteLength ≥ pathLimit then .error .nameTooLong
  else if p = [] then .error .noSuchFile
  else
    follow root followLast 40 (if p.isAbsolute then [] else current) (Text.pieces '/' p)

end FileTree

end BuildManifest
