import BuildManifest.Proofs.FileTree.Resolution
import BuildManifest.Proofs.World

/-!
Trees that grow. A tree has grown into another one if whatever was in it is still in
its place and as it was, directories apart, in which there may be more. The pieces of a
path lead through directories, that are still there, and through links, that still have
their targets; so a path that has been found once is found at the same place in every
tree that has grown since. Putting a node in a free place lets a tree grow, and that is
all that making directories does.
-/

namespace BuildManifest

namespace Entries

variable {name name' : Text} {f : Option Node → Node} {entries : List (Text × Node)}

theorem get?_alter_self : get? name (alter name f entries) = some (f (get? name entries)) := by
  induction entries with
  | nil => simp [alter, get?]
  | cons e rest ih =>
      obtain ⟨n, node⟩ := e
      by_cases hn : n = name
      · simp [alter, get?, hn]
      · simp [alter, get?, hn, ih]

theorem get?_alter_of_ne (h : name ≠ name') :
    get? name' (alter name f entries) = get? name' entries := by
  induction entries with
  | nil => simp [alter, get?, h]
  | cons e rest ih =>
      obtain ⟨n, node⟩ := e
      by_cases hn : n = name
      · simp [alter, get?, hn, h]
      · simp [alter, get?, hn, ih]

end Entries

namespace Node

/-- The same, or directories both, whatever is in them. -/
inductive Alike : Node → Node → Prop
  | same (n : Node) : Alike n n
  | dirs (entries entries' : List (Text × Node)) : Alike (.dir entries) (.dir entries')

variable {t t' t'' n n' n'' : Node} {location directory : Location} {name : Text}

theorem Alike.trans (h : Alike n n') (h' : Alike n' n'') : Alike n n'' := by
  cases h with
  | same => exact h'
  | dirs => cases h' <;> exact .dirs _ _

/-- Whatever is in the first tree is in the second one as well, and as it was. -/
def Grows (t t' : Node) : Prop :=
  ∀ location n, t.at? location = some n → ∃ n', t'.at? location = some n' ∧ Alike n n'

theorem Grows.refl (t : Node) : Grows t t := fun _ n h => ⟨n, h, .same n⟩

theorem Grows.trans (h : Grows t t') (h' : Grows t' t'') : Grows t t'' := by
  intro location n hn
  obtain ⟨n', hn', halike⟩ := h location n hn
  obtain ⟨n'', hn'', halike'⟩ := h' location n' hn'
  exact ⟨n'', hn'', halike.trans halike'⟩

theorem at?_name {entries : List (Text × Node)} (h : t.at? directory = some (.dir entries))
    (name : Text) : t.at? (directory ++ [name]) = Entries.get? name entries := by
  rw [at?_append, h, Option.bind_some, at?]
  cases Entries.get? name entries <;> rfl

/-- A directory that has grown has the entries it had. -/
theorem Grows.get? {entries : List (Text × Node)} (h : Grows t t')
    (hat : t.at? directory = some (.dir entries)) :
    ∃ entries', t'.at? directory = some (.dir entries') ∧ ∀ name n,
      Entries.get? name entries = some n → ∃ n', Entries.get? name entries' = some n' ∧
        Alike n n' := by
  obtain ⟨m, hm, halike⟩ := h directory _ hat
  obtain ⟨entries', rfl⟩ : ∃ entries', m = .dir entries' := by cases halike <;> exact ⟨_, rfl⟩
  refine ⟨entries', hm, fun name n hn => ?_⟩
  have hthere := h (directory ++ [name]) n
  rw [at?_name hat, at?_name hm] at hthere
  exact hthere hn

/-- A node in a free place disturbs nothing. -/
theorem grows_put (h : t.at? location = none) (new : Node) : Grows t (put new location t) := by
  induction location generalizing t with
  | nil => cases h
  | cons name rest ih =>
      cases t with
      | file => exact .refl _
      | link => exact .refl _
      | dir entries =>
          intro there n hn
          cases there with
          | nil =>
              cases hn
              exact ⟨_, rfl, .dirs _ _⟩
          | cons name' there =>
              rw [at?] at h hn
              rw [put, at?]
              by_cases hname : name = name'
              · subst hname
                rw [Entries.get?_alter_self]
                cases hget : Entries.get? name entries with
                | none =>
                    rw [hget] at hn
                    cases hn
                | some child =>
                    rw [hget] at h hn
                    exact ih h there n hn
              · rw [Entries.get?_alter_of_ne hname]
                exact ⟨n, hn, .same n⟩

theorem at?_put {entries : List (Text × Node)} (h : t.at? directory = some (.dir entries))
    (new : Node) : (put new (directory ++ [name]) t).at? (directory ++ [name]) = some new := by
  induction directory generalizing t with
  | nil =>
      cases h
      simp [put, at?, Entries.get?_alter_self]
  | cons first rest ih =>
      cases t with
      | file => cases h
      | link => cases h
      | dir entries' =>
          rw [at?] at h
          cases hget : Entries.get? first entries' with
          | none =>
              rw [hget] at h
              cases h
          | some child =>
              rw [hget] at h
              rw [List.cons_append, put, at?, Entries.get?_alter_self, hget]
              exact ih h

end Node

namespace FileTree

variable {root root' : Node} {here location directory : Location} {ps rest : List Text}
  {name : Text} {slash followLast : Bool}

/-- A vacant name is one of a directory, which has no entry of it. -/
def Free (root : Node) (directory : Location) (name : Text) : Prop :=
  ∃ entries, root.at? directory = some (.dir entries) ∧ Entries.get? name entries = none

theorem eq_of_missing {name' : Text} {here' : Location}
    (h : missing here name rest = .ok (.vacant here' name' slash)) :
    here' = here ∧ name' = name ∧ (∀ piece ∈ rest, piece = []) ∧ slash = !rest.isEmpty := by
  rw [missing] at h
  split at h
  · cases h
  · split at h
    · rename_i hrest
      cases h
      exact ⟨rfl, rfl, fun piece hp => List.isEmpty_iff.mp (List.all_eq_true.mp hrest piece hp),
        rfl⟩
    · cases h

/-- A name is called vacant only if the directory has no entry of it. -/
theorem free_of_walk
    (h : walk root followLast here ps = .done (.ok (.vacant directory name slash))) :
    Free root directory name := by
  -- `.`, `..` and an entry are gone through; a name without an entry is where a walk finds
  -- a vacant place, and every other end of one is none
  fun_induction walk root followLast here ps with
  | case4 here piece rest entries _ _ ih => exact ih h
  | case5 here rest entries _ _ ih => exact ih h
  | case9 here piece rest entries _ _ _ n _ _ ih => exact ih h
  | case6 here piece rest entries hat _ _ hget =>
      obtain ⟨rfl, rfl, _⟩ := eq_of_missing (Progress.done.inj h)
      exact ⟨entries, hat, hget⟩
  | _ => cases h

theorem free_of_follow {links : Nat} {here : Location} {ps : List Text}
    (h : follow root followLast links here ps = .ok (.vacant directory name slash)) :
    Free root directory name := by
  cases hwalk : walk root followLast here ps with
  | done result =>
      rw [follow_of_done hwalk] at h
      exact free_of_walk (h ▸ hwalk)
  | atLink directory target rest =>
      cases links with
      | zero =>
          rw [follow, hwalk] at h
          cases h
      | succ links =>
          rw [follow_of_link hwalk] at h
          exact free_of_follow h

/-- What is made in a place that a path named: a directory, or, unless the path asks for one,
a file. -/
def Suits (slash : Bool) : Kind → Prop
  | .dir => True
  | .file => slash = false
  | .link => False

/-- What the outcome of following a path says about following it once the tree has grown into
this one. Where nothing was, something may have been put since. -/
def Progress.Lasts (root' : Node) : Progress → Progress → Prop
  | .done (.ok (.found location n)), later =>
      ∃ n', later = .done (.ok (.found location n')) ∧ n.Alike n'
  | .done (.ok (.vacant directory name slash)), later =>
      ∀ n, root'.at? (directory ++ [name]) = some n → Suits slash n.kind →
        later = .done (.ok (.found (directory ++ [name]) n))
  | .done (.error _), _ => True
  | .atLink directory target rest, later => later = .atLink directory target rest

/-- Slashes at the end of a path stay in the directory. -/
theorem walk_slashes {entries : List (Text × Node)} (hat : root.at? here = some (.dir entries))
    (h : ∀ piece ∈ rest, piece = []) :
    walk root followLast here rest = .done (.ok (.found here (.dir entries))) := by
  induction rest with
  | nil => simp only [walk, hat]
  | cons piece rest ih =>
      rw [List.forall_mem_cons] at h
      have hidle : Path.isIdle piece = true := by
        rw [h.1]
        rfl
      simp only [walk, hat, if_pos hidle, ih h.2]

/-- A name that was missing leads to what has been put in its place. -/
theorem lasts_missing {entries : List (Text × Node)} {piece : Text}
    (hat : root'.at? here = some (.dir entries)) (hidle : ¬ Path.isIdle piece = true)
    (hup : ¬ piece = ['.', '.']) :
    (Progress.done (missing here piece rest)).Lasts root'
      (walk root' followLast here (piece :: rest)) := by
  cases hmissing : missing here piece rest with
  | error e => trivial
  | ok place =>
      cases place with
      | found location n => exact absurd hmissing (missing_ne_found here piece rest location n)
      | vacant directory name slash =>
          obtain ⟨rfl, rfl, hslashes, hslash⟩ := eq_of_missing hmissing
          intro n hn hsuits
          have hget : Entries.get? name entries = some n := Node.at?_name hat name ▸ hn
          cases n with
          | link => cases hsuits
          | dir =>
              simp only [walk, hat, if_neg hidle, if_neg hup, hget]
              exact walk_slashes hn hslashes
          | file =>
              have hfile : slash = false := hsuits
              have hrest : rest = [] := by simpa [hfile] using hslash
              subst hrest
              simp only [walk, hat, if_neg hidle, if_neg hup, hget, hn]

/-- Growing has no influence on where the pieces of a path lead, as far as they did lead
anywhere. -/
theorem lasts_walk (h : root.Grows root') (followLast : Bool) (here : Location)
    (ps : List Text) :
    (walk root followLast here ps).Lasts root' (walk root' followLast here ps) := by
  -- the cases left to the end are those without a directory: they are errors, of which
  -- nothing is said
  fun_induction walk root followLast here ps with
  | case1 here n hat =>
      obtain ⟨n', hat', halike⟩ := h here n hat
      simp only [walk, hat']
      exact ⟨n', rfl, halike⟩
  | case4 here piece rest entries hat hidle ih =>
      obtain ⟨entries', hat', _⟩ := h.get? hat
      simp only [walk, hat', if_pos hidle]
      exact ih
  | case5 here rest entries hat hidle ih =>
      obtain ⟨entries', hat', _⟩ := h.get? hat
      simp only [walk, hat', if_neg hidle]
      exact ih
  | case6 here piece rest entries hat hidle hup hget =>
      obtain ⟨entries', hat', _⟩ := h.get? hat
      exact lasts_missing hat' hidle hup
  | case7 here piece rest entries hat hidle hup target hget hlast =>
      obtain ⟨entries', hat', hentries⟩ := h.get? hat
      obtain ⟨_, hget', ⟨⟩⟩ := hentries piece _ hget
      simp only [walk, hat', if_neg hidle, if_neg hup, hget', if_pos hlast]
      exact ⟨_, rfl, .same _⟩
  | case8 here piece rest entries hat hidle hup target hget hlast =>
      obtain ⟨entries', hat', hentries⟩ := h.get? hat
      obtain ⟨_, hget', ⟨⟩⟩ := hentries piece _ hget
      simp only [walk, hat', if_neg hidle, if_neg hup, hget', if_neg hlast]
      rfl
  | case9 here piece rest entries hat hidle hup n hlink hget ih =>
      obtain ⟨entries', hat', hentries⟩ := h.get? hat
      obtain ⟨n', hget', halike⟩ := hentries piece n hget
      cases n' with
      | link target =>
          cases halike
          exact absurd rfl (hlink target)
      | file | dir =>
          simp only [walk, hat', if_neg hidle, if_neg hup, hget']
          exact ih
  | _ => trivial

/-- So it is through links. -/
theorem lasts_follow (h : root.Grows root') (followLast : Bool) (links : Nat) (here : Location)
    (ps : List Text) :
    (Progress.done (follow root followLast links here ps)).Lasts root'
      (.done (follow root' followLast links here ps)) := by
  have hlasts := lasts_walk h followLast here ps
  cases hwalk : walk root followLast here ps with
  | done result =>
      rw [hwalk] at hlasts
      rw [follow_of_done hwalk]
      cases result with
      | error e => trivial
      | ok place =>
          cases place with
          | found location n =>
              obtain ⟨n', hwalk', halike⟩ := hlasts
              exact ⟨n', congrArg Progress.done (follow_of_done hwalk'), halike⟩
          | vacant directory name slash =>
              intro n hn hsuits
              exact congrArg Progress.done (follow_of_done (hlasts n hn hsuits))
  | atLink directory target rest =>
      rw [hwalk] at hlasts
      cases links with
      | zero =>
          rw [follow, hwalk]
          trivial
      | succ links =>
          rw [follow_of_link hwalk, follow_of_link hlasts]
          exact lasts_follow h followLast links _ _

/-- What a path has led to it still leads to in a tree that has grown. -/
theorem lasts_lookup (h : root.Grows root') (current : Location) (followLast : Bool)
    (p : Path) :
    (Progress.done (lookup root current followLast p)).Lasts root'
      (.done (lookup root' current followLast p)) := by
  rw [lookup, lookup]
  split
  · trivial
  · split
    · trivial
    · split
      · trivial
      · exact lasts_follow h followLast 40 _ _

theorem free_of_lookup {current : Location} {p : Path}
    (h : lookup root current followLast p = .ok (.vacant directory name slash)) :
    Free root directory name := by
  rw [lookup] at h
  split at h
  · cases h
  · split at h
    · cases h
    · split at h
      · cases h
      · exact free_of_follow h

end FileTree

namespace World

open FileTree

variable {w w' w'' : World} {p : Path} {location directory : Location} {name : Text}
  {slash : Bool} {n : Node}

structure Grows (w w' : World) : Prop where
  tree : w.tree.Grows w'.tree
  current : w'.current = w.current

theorem Grows.refl (w : World) : Grows w w := ⟨.refl w.tree, rfl⟩

theorem Grows.trans (h : Grows w w') (h' : Grows w' w'') : Grows w w'' :=
  ⟨h.tree.trans h'.tree, h'.current.trans h.current⟩

theorem SameFiles.grows (h : SameFiles w' w) : Grows w w' :=
  ⟨h.tree ▸ .refl _, h.current⟩

theorem Grows.lookup (h : Grows w w') {followLast : Bool}
    (hfound : lookup w.tree w.current followLast p = .ok (.found location n)) :
    ∃ n', lookup w'.tree w'.current followLast p = .ok (.found location n') ∧ n.Alike n' := by
  have hlasts := lasts_lookup h.tree w.current followLast p
  rw [hfound] at hlasts
  obtain ⟨n', hlater, halike⟩ := hlasts
  exact ⟨n', h.current ▸ Progress.done.inj hlater, halike⟩

/-- A path that is found stays found, at the same place and as it was. -/
theorem Grows.find (h : Grows w w') (hfound : w.find p = .ok (.found location n)) :
    ∃ n', w'.find p = .ok (.found location n') ∧ n.Alike n' := h.lookup hfound

theorem Grows.findSelf (h : Grows w w') (hfound : w.findSelf p = .ok (.found location n)) :
    ∃ n', w'.findSelf p = .ok (.found location n') ∧ n.Alike n' := h.lookup hfound

theorem isPresent_iff : w.isPresent p = true ↔ ∃ location n, w.find p = .ok (.found location n) := by
  rw [isPresent, found?.eq_def]
  split
  · rename_i location n hfound
    simp [hfound]
  · rename_i hnot
    simpa using hnot

theorem isDirectory_iff :
    w.isDirectory p = true ↔ ∃ location entries, w.find p = .ok (.found location (.dir entries)) := by
  rw [isDirectory, found?.eq_def]
  constructor
  · intro h
    split at h
    · rename_i location n hfound
      cases n with
      | dir entries => exact ⟨location, entries, hfound⟩
      | file | link => cases h
    · cases h
  · rintro ⟨location, entries, hfound⟩
    rw [hfound]
    rfl

theorem Grows.isPresent (h : Grows w w') (hpresent : w.isPresent p = true) :
    w'.isPresent p = true := by
  obtain ⟨location, n, hfound⟩ := isPresent_iff.mp hpresent
  obtain ⟨n', hfound', _⟩ := h.find hfound
  exact isPresent_iff.mpr ⟨location, n', hfound'⟩

/-- A node that is put where there was none takes nothing away. -/
theorem grows_putAt (h : Free w.tree directory name) (new : Node) :
    Grows w (w.putAt (directory ++ [name]) new) := by
  obtain ⟨entries, hat, hget⟩ := h
  exact ⟨Node.grows_put ((Node.at?_name hat name).trans hget) new, rfl⟩

/-- What is put where a path led to a free name is what the path leads to. -/
theorem find_putAt (h : w.find p = .ok (.vacant directory name slash)) {new : Node}
    (hsuits : Suits slash new.kind) :
    (w.putAt (directory ++ [name]) new).find p = .ok (.found (directory ++ [name]) new) := by
  obtain ⟨entries, hat, hget⟩ : Free w.tree directory name := free_of_lookup h
  have hlasts := lasts_lookup (grows_putAt ⟨entries, hat, hget⟩ new).tree w.current true p
  rw [find] at h
  rw [h] at hlasts
  exact Progress.done.inj (hlasts new (Node.at?_put hat new) hsuits)

theorem grows_of_makeDirectory (h : w.makeDirectory p = .ok w') : Grows w w' := by
  rw [makeDirectory] at h
  split at h
  · cases h
  · rename_i directory name slash hvacant
    cases h
    exact grows_putAt (free_of_lookup hvacant) (.dir [])
  · cases h

theorem grows_of_ensureDirectory (h : w.ensureDirectory p = .ok w') : Grows w w' := by
  rw [ensureDirectory] at h
  split at h
  · split at h
    · cases h
      exact .refl w
    · cases h
  · exact grows_of_makeDirectory h

/-- Making directories only adds some, also if not all of them can be made. -/
theorem grows_ensureAll (w : World) (ps : List Path) : Grows w (w.ensureAll ps).2 := by
  induction ps with
  | nil => exact .refl w
  | cons p above ih =>
      rw [ensureAll]
      split
      · rename_i w' hmade
        exact grows_of_ensureDirectory hmade
      · split
        · cases habove : w.ensureAll above with
          | mk result w' =>
              rw [habove] at ih
              cases result with
              | error e => exact ih
              | ok _ =>
                  dsimp only
                  split
                  · rename_i w'' hmade
                    exact ih.trans (grows_of_ensureDirectory hmade)
                  · exact ih
        · exact .refl w

theorem Grows.isDirectory (h : Grows w w') (hdir : w.isDirectory p = true) :
    w'.isDirectory p = true := by
  obtain ⟨location, entries, hfound⟩ := isDirectory_iff.mp hdir
  obtain ⟨n', hfound', halike⟩ := h.find hfound
  cases halike <;> exact isDirectory_iff.mpr ⟨_, _, hfound'⟩

theorem isDirectory_of_ensureDirectory (h : w.ensureDirectory p = .ok w') :
    w'.isDirectory p = true := by
  rw [ensureDirectory] at h
  split at h
  · split at h
    · rename_i hthere
      cases h
      exact (Bool.and_eq_true_iff.mp hthere).2
    · cases h
  · rw [makeDirectory] at h
    split at h
    · cases h
    · rename_i directory name slash hvacant
      cases h
      have hfind : w.find p = .ok (.vacant directory name slash) := by
        rcases findSelf_eq w p with hsame | ⟨location, target, hlink⟩
        · exact hsame.symm.trans hvacant
        · rw [hlink] at hvacant
          cases hvacant
      exact isDirectory_iff.mpr ⟨_, _, find_putAt hfind trivial⟩
    · cases h

theorem ensureDirectory_of_isDirectory (h : w.isDirectory p = true) :
    w.ensureDirectory p = .ok w := by
  obtain ⟨location, entries, hfound⟩ := isDirectory_iff.mp h
  have hmake : w.makeDirectory p = .error .alreadyExists := by
    rw [makeDirectory]
    rcases findSelf_eq w p with hsame | ⟨location', target, hlink⟩
    · rw [hsame, hfound]
    · rw [hlink]
  rw [ensureDirectory, hmake]
  simp [h]

/-- The first path that was to be made is a directory if they could be made. -/
theorem isDirectory_of_ensureAll {ps : List Path} (h : w.ensureAll (p :: ps) = (.ok (), w')) :
    w'.isDirectory p = true := by
  rw [ensureAll] at h
  split at h
  · rename_i made hmade
    cases h
    exact isDirectory_of_ensureDirectory hmade
  · split at h
    · split at h
      · cases h
      · split at h
        · rename_i made hmade
          cases h
          exact isDirectory_of_ensureDirectory hmade
        · cases h
    · cases h

/-- Directories that could be made have all been made, and making them again changes nothing,
whatever has been added in between. -/
theorem ensureAll_again {ps : List Path} (h : w.ensureAll ps = (.ok (), w'))
    (hgrows : w'.Grows w'') : w''.ensureAll ps = (.ok (), w'') := by
  cases ps with
  | nil => rfl
  | cons p above =>
      have hdir := hgrows.isDirectory (isDirectory_of_ensureAll h)
      rw [ensureAll, ensureDirectory_of_isDirectory hdir]

end World

end BuildManifest
