import BuildManifest.FileTree.Lookup

/-!
The world outside the program: a file tree, the directory the program runs in
and what has been printed. Operations on files are functions on this value and
fail with the number the system would give.
-/

namespace BuildManifest

structure World where
  tree : Node
  current : Location
  /-- What has been printed, piece by piece. -/
  printed : List Text
  /-- What has been reported as an error, piece by piece. -/
  reported : List Text

namespace World

open FileTree

def print (w : World) (t : Text) : World := { w with printed := w.printed ++ [t] }

def report (w : World) (t : Text) : World := { w with reported := w.reported ++ [t] }

def output (w : World) : Text := w.printed.flatten

def pathOf (location : Location) : Path := '/' :: Text.joined ['/'] location

/-- The current directory as a path; there is none if it has been removed. -/
def currentPath (w : World) : Path :=
  match w.tree.at? w.current with
  | some _ => pathOf w.current
  | none => []

/-- What a path means if links are followed to their end. -/
def find (w : World) (p : Path) : Except SystemError Place := lookup w.tree w.current true p

/-- What a path means if a link at its end counts as itself. -/
def findSelf (w : World) (p : Path) : Except SystemError Place :=
  lookup w.tree w.current false p

def found? : Except SystemError Place → Option Node
  | .ok (.found _ n) => some n
  | _ => none

def isPresent (w : World) (p : Path) : Bool := (found? (w.find p)).isSome

def isFile (w : World) (p : Path) : Bool := (found? (w.find p)).any fun n => n.kind = .file

def isDirectory (w : World) (p : Path) : Bool := (found? (w.find p)).any fun n => n.kind = .dir

/-- The kind of what the path names, links not followed. -/
def kindOf (w : World) (p : Path) : Except SystemError Kind :=
  match w.findSelf p with
  | .ok (.found _ n) => .ok n.kind
  | .ok (.vacant _ _ _) => .error .noSuchFile
  | .error e => .error e

def readFile (w : World) (p : Path) : Except SystemError ByteArray :=
  match w.find p with
  | .ok (.found _ (.file content _)) => .ok content
  | .ok (.found _ _) => .error .isDirectory
  | .ok (.vacant _ _ _) => .error .noSuchFile
  | .error e => .error e

/-- The sorted contents of a directory. -/
def list (w : World) (p : Path) : Except SystemError (List (Text × Kind)) :=
  match w.find p with
  | .ok (.found _ (.dir entries)) => .ok (Entries.listing entries)
  | .ok (.found _ _) => .error .notDirectory
  | .ok (.vacant _ _ _) => .error .noSuchFile
  | .error e => .error e

def putAt (w : World) (location : Location) (n : Node) : World :=
  { w with tree := Node.put n location w.tree }

def makeDirectory (w : World) (p : Path) : Except SystemError World :=
  match w.findSelf p with
  | .ok (.found _ _) => .error .alreadyExists
  | .ok (.vacant directory name _) => .ok (w.putAt (directory ++ [name]) (.dir []))
  | .error e => .error e

/-- Makes one directory, content if it exists already. -/
def ensureDirectory (w : World) (p : Path) : Except SystemError World :=
  match w.makeDirectory p with
  | .error e => if e = .alreadyExists && w.isDirectory p then .ok w else .error e
  | made => made

/-- Makes the first of the paths, and before it those that follow as far as they
are missing. Whatever was made before a failure stays. -/
def ensureAll (w : World) : List Path → Except SystemError Unit × World
  | [] => (.ok (), w)
  | p :: above =>
    match w.ensureDirectory p with
    | .ok w => (.ok (), w)
    | .error e =>
      if e = .noSuchFile then
        match ensureAll w above with
        | (.error e, w) => (.error e, w)
        | (.ok (), w) =>
          match w.ensureDirectory p with
          | .ok w => (.ok (), w)
          | .error e => (.error e, w)
      else (.error e, w)

/-- Makes a directory and all directories above it that are missing. -/
def makeDirectories (w : World) (p : Path) : Except SystemError Unit × World :=
  w.ensureAll p.ancestors

/-- Writes a file: a new one, or in place of what a file held. -/
def writeFile (w : World) (p : Path) (content : ByteArray) : Except SystemError World :=
  match w.find p with
  | .ok (.found location (.file _ executable)) => .ok (w.putAt location (.file content executable))
  | .ok (.found _ _) => .error .isDirectory
  | .ok (.vacant _ _ true) => .error .isDirectory
  | .ok (.vacant directory name false) =>
    .ok (w.putAt (directory ++ [name]) (.file content false))
  | .error e => .error e

def makeLink (w : World) (p : Path) (target : Text) : Except SystemError World :=
  match w.findSelf p with
  | .ok (.found _ _) => .error .alreadyExists
  | .ok (.vacant _ _ true) => .error .noSuchFile
  | .ok (.vacant directory name false) => .ok (w.putAt (directory ++ [name]) (.link target))
  | .error e => .error e

def setExecutable (w : World) (p : Path) (executable : Bool) : Except SystemError World :=
  match w.find p with
  | .ok (.found location (.file content _)) => .ok (w.putAt location (.file content executable))
  | .ok (.found _ _) => .ok w
  | .ok (.vacant _ _ _) => .error .noSuchFile
  | .error e => .error e

end World

end BuildManifest
