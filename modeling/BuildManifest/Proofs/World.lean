import BuildManifest.World

/-!
Worlds with the same files. What is printed, and what is reported as an error, is
part of the world as well, but nothing that is asked about files depends on it.
-/

namespace BuildManifest.World

open FileTree

/-- Two worlds in which every path means the same. -/
structure SameFiles (w w' : World) : Prop where
  tree : w.tree = w'.tree
  current : w.current = w'.current

theorem SameFiles.refl (w : World) : SameFiles w w := ⟨rfl, rfl⟩

theorem sameFiles_print (w : World) (t : Text) : SameFiles (w.print t) w := ⟨rfl, rfl⟩

variable {w w' w'' : World}

theorem SameFiles.trans (h : SameFiles w w') (h' : SameFiles w' w'') : SameFiles w w'' :=
  ⟨h.tree.trans h'.tree, h.current.trans h'.current⟩

theorem SameFiles.find (h : SameFiles w w') (p : Path) : w.find p = w'.find p := by
  rw [World.find, World.find, h.tree, h.current]

theorem SameFiles.isFile (h : SameFiles w w') (p : Path) : w.isFile p = w'.isFile p := by
  rw [World.isFile, World.isFile, h.find p]

theorem SameFiles.isDirectory (h : SameFiles w w') (p : Path) :
    w.isDirectory p = w'.isDirectory p := by
  rw [World.isDirectory, World.isDirectory, h.find p]

theorem SameFiles.list (h : SameFiles w w') (p : Path) : w.list p = w'.list p := by
  rw [World.list, World.list, h.find p]

theorem SameFiles.kindOf (h : SameFiles w w') (p : Path) : w.kindOf p = w'.kindOf p := by
  rw [World.kindOf, World.kindOf, World.findSelf, World.findSelf, h.tree, h.current]

end BuildManifest.World
