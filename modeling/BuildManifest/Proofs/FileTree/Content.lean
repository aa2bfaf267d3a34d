import BuildManifest.Proofs.FileTree.Growth

/-!
Trees that differ in what one file holds. Looking a path up takes notice of directories, of
the targets of links and of where there are files, but not of what the files hold. So if two
trees become the same once a certain file is emptied, every path leads to the same place in
both of them, and putting a node somewhere keeps them alike in this way.
-/

namespace BuildManifest

namespace Entries

/-- Changes the entry of this name, if there is one. -/
def adjust (name : Text) (f : Node → Node) : List (Text × Node) → List (Text × Node)
  | [] => []
  | (n, node) :: rest => if n = name then (n, f node) :: rest else (n, node) :: adjust name f rest

variable {name other : Text} {f : Node → Node} {g g' : Option Node → Node}
  {entries : List (Text × Node)}

theorem get?_adjust_self : get? name (adjust name f entries) = (get? name entries).map f := by
  induction entries with
  | nil => rfl
  | cons e rest ih =>
      obtain ⟨n, node⟩ := e
      by_cases hn : n = name
      · simp [adjust, get?, hn]
      · simp [adjust, get?, hn, ih]

theorem get?_adjust_of_ne (h : name ≠ other) :
    get? other (adjust name f entries) = get? other entries := by
  induction entries with
  | nil => rfl
  | cons e rest ih =>
      obtain ⟨n, node⟩ := e
      by_cases hn : n = name
      · simp [adjust, get?, hn, h]
      · simp [adjust, get?, hn, ih]

theorem adjust_alter_self (h : ∀ n, f (g n) = g' (n.map f)) :
    adjust name f (alter name g entries) = alter name g' (adjust name f entries) := by
  induction entries with
  | nil => simp [adjust, alter, h]
  | cons e rest ih =>
      obtain ⟨n, node⟩ := e
      by_cases hn : n = name
      · simp [adjust, alter, hn, h]
      · simp [adjust, alter, hn, ih]

theorem adjust_alter_of_ne (h : name ≠ other) :
    adjust name f (alter other g entries) = alter other g (adjust name f entries) := by
  induction entries with
  | nil => simp [adjust, alter, h.symm]
  | cons e rest ih =>
      obtain ⟨n, node⟩ := e
      by_cases hn : n = name
      · simp [adjust, alter, hn, h]
      · by_cases hother : n = other
        · simp [adjust, alter, hother, h.symm]
        · simp [adjust, alter, hn, hother, ih]

end Entries

namespace Node

/-- The tree with the file at a place emptied, if there is one. -/
def emptyAt : Location → Node → Node
  | [], .file _ executable => .file .empty executable
  | name :: rest, .dir entries => .dir (Entries.adjust name (emptyAt rest) entries)
  | _, n => n

/-- A node without what is in it. -/
def outline : Node → Node
  | .file _ executable => .file .empty executable
  | .link target => .link target
  | .dir _ => .dir []

/-- The trees have nodes in the same places, which look the same from outside. -/
def SameShape (t t' : Node) : Prop :=
  ∀ place, (t.at? place).map outline = (t'.at? place).map outline

variable {t t' : Node} {place : Location}

theorem sameShape_emptyAt (location : Location) (t : Node) :
    SameShape (t.emptyAt location) t := by
  intro place
  induction location generalizing t place with
  | nil =>
      cases t with
      | file content executable => cases place <;> rfl
      | link | dir => rfl
  | cons name rest ih =>
      cases t with
      | file | link => rfl
      | dir entries =>
          cases place with
          | nil => rfl
          | cons name' there =>
              rw [emptyAt, at?, at?]
              by_cases hname : name = name'
              · subst hname
                rw [Entries.get?_adjust_self]
                cases Entries.get? name entries with
                | none => rfl
                | some child => exact ih child there
              · rw [Entries.get?_adjust_of_ne hname]

theorem sameShape_of_emptyAt {location : Location}
    (h : t.emptyAt location = t'.emptyAt location) : SameShape t t' := by
  intro place
  rw [← sameShape_emptyAt location t place, h, sameShape_emptyAt location t' place]

/-- Whether the file is emptied before or after something is put into the tree makes no
difference but for what is put there, which may be the file. -/
theorem exists_emptyAt_put (location : Location) (new : Node) (place : Location) :
    ∃ new', ∀ t, emptyAt location (put new place t) = put new' place (emptyAt location t) := by
  induction place generalizing location with
  | nil => exact ⟨emptyAt location new, fun _ => rfl⟩
  | cons name there ih =>
      cases location with
      | nil =>
          refine ⟨new, fun t => ?_⟩
          cases t <;> rfl
      | cons name' rest =>
          by_cases hname : name' = name
          · -- the file is below the entry that changes, if not just this entry
            subst hname
            obtain ⟨new', hnew⟩ := ih rest
            refine ⟨new', fun t => ?_⟩
            cases t with
            | file | link => rfl
            | dir entries =>
                rw [put, emptyAt, emptyAt, put]
                congr 1
                refine Entries.adjust_alter_self fun n => ?_
                rw [hnew]
                cases n with
                | some child => rfl
                | none => cases rest <;> rfl
          · refine ⟨new, fun t => ?_⟩
            cases t with
            | file | link => rfl
            | dir entries =>
                rw [put, emptyAt, emptyAt, put, Entries.adjust_alter_of_ne hname]

/-- Trees that differ in one file only still do when the same has been put into both. -/
theorem emptyAt_put_congr {location : Location} (h : t.emptyAt location = t'.emptyAt location)
    (new : Node) (place : Location) :
    (put new place t).emptyAt location = (put new place t').emptyAt location := by
  obtain ⟨new', hnew⟩ := exists_emptyAt_put location new place
  rw [hnew, hnew, h]

/-- What there can be in the same place of two trees of the same shape. -/
theorem SameShape.cases (h : SameShape t t') (place : Location) :
    (t.at? place = none ∧ t'.at? place = none) ∨
    (∃ content content' executable, t.at? place = some (.file content executable) ∧
      t'.at? place = some (.file content' executable)) ∨
    (∃ target, t.at? place = some (.link target) ∧ t'.at? place = some (.link target)) ∨
    (∃ entries entries', t.at? place = some (.dir entries) ∧
      t'.at? place = some (.dir entries')) := by
  have hplace := h place
  cases hat : t.at? place with
  | none =>
      rw [hat, Option.map_none, eq_comm, Option.map_eq_none_iff] at hplace
      exact Or.inl ⟨rfl, hplace⟩
  | some n =>
      rw [hat, Option.map_some, eq_comm, Option.map_eq_some_iff] at hplace
      obtain ⟨n', hat', houtline⟩ := hplace
      cases n with
      | file content executable =>
          cases n' <;> cases houtline
          exact Or.inr (Or.inl ⟨_, _, _, rfl, hat'⟩)
      | link target =>
          cases n' <;> cases houtline
          exact Or.inr (Or.inr (Or.inl ⟨_, rfl, hat'⟩))
      | dir entries =>
          cases n' <;> cases houtline
          exact Or.inr (Or.inr (Or.inr ⟨_, _, rfl, hat'⟩))

end Node

namespace FileTree

def Place.outline : Place → Place
  | .found location n => .found location n.outline
  | .vacant directory name slash => .vacant directory name slash

def Progress.outline : Progress → Progress
  | .done result => .done (result.map Place.outline)
  | .atLink directory target rest => .atLink directory target rest

variable {root root' : Node} {followLast : Bool} {here : Location} {ps : List Text}

/-- Results that look the same are the same error, or the same place. -/
theorem cases_of_outline {r r' : Except SystemError Place}
    (h : r.map Place.outline = r'.map Place.outline) :
    (∃ e, r = .error e ∧ r' = .error e) ∨
    (∃ place n n', r = .ok (.found place n) ∧ r' = .ok (.found place n')) ∨
    (∃ directory name slash, r = .ok (.vacant directory name slash) ∧
      r' = .ok (.vacant directory name slash)) := by
  rcases r with e | ⟨place, n⟩ | ⟨directory, name, slash⟩ <;>
    rcases r' with e' | ⟨place', n'⟩ | ⟨directory', name', slash'⟩ <;>
    simp_all [Except.map, Place.outline]

/-- Pieces lead to the same place in trees of the same shape. -/
theorem outline_walk (h : root.SameShape root') (followLast : Bool) (here : Location)
    (ps : List Text) :
    (walk root followLast here ps).outline = (walk root' followLast here ps).outline := by
  induction ps generalizing here with
  | nil =>
      have hhere := h here
      simp only [walk]
      cases hat : root.at? here <;> cases hat' : root'.at? here <;>
        simp_all [Progress.outline, Place.outline, Except.map]
  | cons piece rest ih =>
      rcases h.cases here with ⟨hat, hat'⟩ | ⟨_, _, _, hat, hat'⟩ | ⟨_, hat, hat'⟩ |
        ⟨entries, entries', hat, hat'⟩
      · simp only [walk, hat, hat']
      · simp only [walk, hat, hat']
      · simp only [walk, hat, hat']
      · by_cases hidle : Path.isIdle piece = true
        · simp only [walk, hat, hat', if_pos hidle, ih]
        by_cases hup : piece = ['.', '.']
        · simp only [walk, hat, hat', if_neg hidle, if_pos hup, ih]
        have hentry := h.cases (here ++ [piece])
        rw [Node.at?_name hat, Node.at?_name hat'] at hentry
        rcases hentry with ⟨hget, hget'⟩ | ⟨_, _, _, hget, hget'⟩ | ⟨target, hget, hget'⟩ |
          ⟨_, _, hget, hget'⟩
        · simp only [walk, hat, hat', if_neg hidle, if_neg hup, hget, hget']
        · simp only [walk, hat, hat', if_neg hidle, if_neg hup, hget, hget', ih]
        · simp only [walk, hat, hat', if_neg hidle, if_neg hup, hget, hget']
        · simp only [walk, hat, hat', if_neg hidle, if_neg hup, hget, hget', ih]

theorem outline_follow (h : root.SameShape root') (followLast : Bool) (links : Nat)
    (here : Location) (ps : List Text) :
    (follow root followLast links here ps).map Place.outline =
      (follow root' followLast links here ps).map Place.outline := by
  induction links generalizing here ps with
  | zero =>
      have hwalk := outline_walk h followLast here ps
      rw [follow, follow]
      cases hw : walk root followLast here ps <;> cases hw' : walk root' followLast here ps <;>
        simp_all [Progress.outline]
  | succ links ih =>
      have hwalk := outline_walk h followLast here ps
      cases hw : walk root followLast here ps with
      | done result =>
          cases hw' : walk root' followLast here ps with
          | atLink => simp [hw, hw', Progress.outline] at hwalk
          | done result' =>
              rw [hw, hw'] at hwalk
              rw [follow_of_done hw, follow_of_done hw']
              exact Progress.done.inj hwalk
      | atLink directory target rest =>
          cases hw' : walk root' followLast here ps with
          | done => simp [hw, hw', Progress.outline] at hwalk
          | atLink =>
              rw [hw, hw'] at hwalk
              cases hwalk
              rw [follow_of_link hw, follow_of_link hw']
              exact ih _ _

/-- In trees of the same shape a path leads to the same place. -/
theorem outline_lookup (h : root.SameShape root') (current : Location) (followLast : Bool)
    (p : Path) :
    (lookup root current followLast p).map Place.outline =
      (lookup root' current followLast p).map Place.outline := by
  rw [lookup, lookup]
  split
  · rfl
  · split
    · rfl
    · split
      · rfl
      · exact outline_follow h followLast 40 _ _

end FileTree

namespace World

open FileTree

/-- Two worlds that differ in nothing but what the file at a place holds, if there is one. -/
structure SameAside (location : Location) (w w' : World) : Prop where
  tree : w.tree.emptyAt location = w'.tree.emptyAt location
  current : w.current = w'.current
  printed : w.printed = w'.printed
  reported : w.reported = w'.reported

variable {location : Location} {w w' : World}

theorem SameAside.print (h : SameAside location w w') (t : Text) :
    SameAside location (w.print t) (w'.print t) :=
  ⟨h.tree, h.current, congrArg (· ++ [t]) h.printed, h.reported⟩

theorem SameAside.putAt (h : SameAside location w w') (place : Location) (n : Node) :
    SameAside location (w.putAt place n) (w'.putAt place n) :=
  ⟨Node.emptyAt_put_congr h.tree n place, h.current, h.printed, h.reported⟩

theorem SameAside.outline_find (h : SameAside location w w') (p : Path) :
    (w.find p).map Place.outline = (w'.find p).map Place.outline := by
  rw [find, find, ← h.current]
  exact outline_lookup (Node.sameShape_of_emptyAt h.tree) w.current true p

theorem SameAside.outline_findSelf (h : SameAside location w w') (p : Path) :
    (w.findSelf p).map Place.outline = (w'.findSelf p).map Place.outline := by
  rw [findSelf, findSelf, ← h.current]
  exact outline_lookup (Node.sameShape_of_emptyAt h.tree) w.current false p

/-- What is found on a path looks the same from outside. -/
theorem SameAside.outline_found? (h : SameAside location w w') (p : Path) :
    (found? (w.find p)).map Node.outline = (found? (w'.find p)).map Node.outline := by
  have houtline : ∀ result : Except SystemError Place,
      found? (result.map Place.outline) = (found? result).map Node.outline := by
    intro result
    rcases result with _ | ⟨_, _⟩ | ⟨_, _, _⟩ <;> rfl
  rw [← houtline, ← houtline, h.outline_find p]

theorem SameAside.isPresent (h : SameAside location w w') (p : Path) :
    w.isPresent p = w'.isPresent p := by
  have hsome := congrArg Option.isSome (h.outline_found? p)
  rwa [Option.isSome_map, Option.isSome_map] at hsome

theorem SameAside.isDirectory (h : SameAside location w w') (p : Path) :
    w.isDirectory p = w'.isDirectory p := by
  have hkind : ∀ n : Node, n.outline.kind = n.kind := fun n => by cases n <;> rfl
  have hdir := congrArg (Option.any fun n => decide (n.kind = .dir)) (h.outline_found? p)
  simp only [Option.any_map, hkind] at hdir
  exact hdir

/-- The same error, or worlds that differ in nothing but what the file holds. -/
inductive SameOutcome (location : Location) :
    Except SystemError World → Except SystemError World → Prop
  | error (e : SystemError) : SameOutcome location (.error e) (.error e)
  | ok {w w' : World} (h : SameAside location w w') : SameOutcome location (.ok w) (.ok w')

/-- Where a path leads is the same place in both worlds, apart from what is in it. -/
theorem SameAside.cases_findSelf (h : SameAside location w w') (p : Path) :
    (∃ e, w.findSelf p = .error e ∧ w'.findSelf p = .error e) ∨
    (∃ place n n', w.findSelf p = .ok (.found place n) ∧ w'.findSelf p = .ok (.found place n')) ∨
    (∃ directory name slash, w.findSelf p = .ok (.vacant directory name slash) ∧
      w'.findSelf p = .ok (.vacant directory name slash)) :=
  cases_of_outline (h.outline_findSelf p)

theorem SameAside.makeDirectory (h : SameAside location w w') (p : Path) :
    SameOutcome location (w.makeDirectory p) (w'.makeDirectory p) := by
  rw [World.makeDirectory, World.makeDirectory]
  rcases h.cases_findSelf p with ⟨e, hw, hw'⟩ | ⟨_, _, _, hw, hw'⟩ | ⟨_, _, _, hw, hw'⟩
  · rw [hw, hw']
    exact .error e
  · rw [hw, hw']
    exact .error .alreadyExists
  · rw [hw, hw']
    exact .ok (h.putAt _ _)

theorem SameAside.ensureDirectory (h : SameAside location w w') (p : Path) :
    SameOutcome location (w.ensureDirectory p) (w'.ensureDirectory p) := by
  have hmade := h.makeDirectory p
  rw [World.ensureDirectory, World.ensureDirectory, h.isDirectory p]
  generalize w.makeDirectory p = made at hmade ⊢
  generalize w'.makeDirectory p = made' at hmade ⊢
  cases hmade with
  | ok hw => exact .ok hw
  | error e =>
      cases hpresent : decide (e = .alreadyExists) && w'.isDirectory p with
      | true =>
          simp only [hpresent, if_true]
          exact .ok h
      | false =>
          simp only [hpresent, Bool.false_eq_true, if_false]
          exact .error e

/-- Directories are made in both worlds alike, up to the same failure. -/
theorem SameAside.ensureAll (h : SameAside location w w') (ps : List Path) :
    (w.ensureAll ps).1 = (w'.ensureAll ps).1 ∧
      SameAside location (w.ensureAll ps).2 (w'.ensureAll ps).2 := by
  induction ps generalizing w w' with
  | nil => exact ⟨rfl, h⟩
  | cons p above ih =>
      have hmade := h.ensureDirectory p
      rw [World.ensureAll, World.ensureAll]
      generalize w.ensureDirectory p = made at hmade ⊢
      generalize w'.ensureDirectory p = made' at hmade ⊢
      cases hmade with
      | ok hw => exact ⟨rfl, hw⟩
      | error e =>
          by_cases hmissing : e = .noSuchFile
          · simp only [if_pos hmissing]
            obtain ⟨hresult, habove⟩ := ih h
            generalize w.ensureAll above = outcome at hresult habove ⊢
            generalize w'.ensureAll above = outcome' at hresult habove ⊢
            obtain ⟨result, made⟩ := outcome
            obtain ⟨result', made'⟩ := outcome'
            obtain rfl : result = result' := hresult
            cases result with
            | error e => exact ⟨rfl, habove⟩
            | ok _ =>
                dsimp only
                have hagain := habove.ensureDirectory p
                generalize made.ensureDirectory p = again at hagain ⊢
                generalize made'.ensureDirectory p = again' at hagain ⊢
                cases hagain with
                | error e => exact ⟨rfl, habove⟩
                | ok hw => exact ⟨rfl, hw⟩
          · simp only [if_neg hmissing, true_and]
            exact h

end World

end BuildManifest
