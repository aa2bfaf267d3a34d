import BuildManifest.FileTree.Changes
import BuildManifest.Program
import BuildManifest.Shell

/-!
The command line. What is in the current directory, and in the directory of the
manifest if that is another one, is read into a file tree. The program runs on
this tree; then what it printed is printed and what it changed is written back.
There is no network: every download fails.
-/

namespace BuildManifest

namespace CommandLine

/-- Reads a file. One that names its interpreter counts as executable. -/
def fileNode (content : ByteArray) : Node :=
  .file content (content.toList.take 2 = "#!".toUTF8.toList)

mutual

/-- Reads what an entry of a directory stands for. A link to a file counts as
the file; other links and what is neither file nor directory are left out. -/
partial def readEntry (e : IO.FS.DirEntry) : IO (Option Node) := do
  match (← e.path.symlinkMetadata).type with
  | .dir => return some (.dir (← readEntries (← e.path.readDir).toList))
  | .file => return some (fileNode (← IO.FS.readBinFile e.path))
  | _ =>
    match ← e.path.metadata.toBaseIO with
    | .ok m => if m.type == .file then return some (fileNode (← IO.FS.readBinFile e.path))
    | .error _ => pure ()
    return none

partial def readEntries : List IO.FS.DirEntry → IO (List (Text × Node))
  | [] => return []
  | e :: rest => do
    let others ← readEntries rest
    match ← readEntry e with
    | some n => return (e.fileName.toList, n) :: others
    | none => return others

end

/-- Adds what a directory holds to a tree, if there is such a directory. -/
def addDirectory (tree : Node) (directory : Path) : IO Node := do
  match ← ((← IO.currentDir) / String.ofList directory).readDir.toBaseIO with
  | .ok entries =>
    return Node.put (.dir (← readEntries entries.toList)) (Path.normalNames directory) tree
  | .error _ => return tree

/-- The directory of the manifest, if it is not under the current one. -/
def otherDirectory? (here : Path) (arguments : List Text) : Option Path :=
  match Invocation.parse arguments with
  | .ok i =>
    (Path.parent? (Path.absolutize here i.manifest)).filter fun d => !Path.isUnder here d
  | .error _ => none

def apply : Change → IO Unit
  | .remove location => do
    let p := String.ofList (World.pathOf location)
    if (← ((← IO.currentDir) / p).isDir) then IO.FS.removeDirAll p else IO.FS.removeFile p
  | .makeDirectory location => IO.FS.createDirAll (String.ofList (World.pathOf location))
  | .write location content => IO.FS.writeBinFile (String.ofList (World.pathOf location)) content

def collaborators (home : Path) : Program.Collaborators :=
  ⟨fun settings => Shell.executor home settings.shell (settings.timeoutSeconds.map (· * 1000)),
    fun _ => Program.offline⟩

end CommandLine

end BuildManifest

open BuildManifest in
/-- Runs the program on the files around it and gives its exit code. -/
def main (arguments : List String) : IO UInt32 := do
  let arguments := arguments.map String.toList
  let home : Path := ((← IO.getEnv "HOME").getD "").toList
  let here : Path := (← IO.currentDir).toString.toList
  let mut tree ← CommandLine.addDirectory (.dir []) here
  if let some other := CommandLine.otherDirectory? here arguments then
    tree ← CommandLine.addDirectory tree other
  let seed := (← IO.getRandomBytes 16).toList.foldl (fun n b => n * 256 + b.toNat) 0
  let world : World := ⟨tree, Path.normalNames here, [], []⟩
  let (code, s) := Program.run (CommandLine.collaborators home) home arguments
    ⟨world, TokenSupply.ofSeed seed, [], []⟩
  IO.print (String.ofList s.world.output)
  IO.eprint (String.ofList s.world.reported.flatten)
  (Node.changes [] tree s.world.tree).forM CommandLine.apply
  return UInt32.ofNat code.toNat
