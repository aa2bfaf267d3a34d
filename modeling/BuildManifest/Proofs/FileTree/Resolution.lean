import BuildManifest.World
import BuildManifest.Proofs.FileTree.Entries
import Mathlib.Tactic.ByContra

/-!
Resolving a path that goes on behind another one. The pieces of a path are
followed one after the other, so what is behind a directory that has been found
is followed from where that directory is. One name behind the path of a
directory leads to its entry of that name, unless the path gets too long.
-/

namespace BuildManifest

namespace FileTree

theorem missing_ne_found (directory : Location) (name : Text) (rest : List Text)
    (location : Location) (n : Node) :
    missing directory name rest ≠ .ok (.found location n) := by
  simp only [missing]
  split
  · simp
  · split <;> simp

variable {root n : Node} {here location directory : Location} {ps rest : List Text}
  {target : Text}

/-- What one piece can do: lead on to another place, stop at a link, or make the rest of the
path meaningless. What comes behind the piece has no influence on which of these it is. -/
theorem walk_step (root : Node) (here : Location) (piece : Text) :
    (∃ there, ∀ followLast rest,
      walk root followLast here (piece :: rest) = walk root followLast there rest) ∨
    (∃ target, (∀ followLast rest, followLast = true ∨ rest ≠ [] →
        walk root followLast here (piece :: rest) = .atLink here target rest) ∧
      walk root false here [piece] = .done (.ok (.found (here ++ [piece]) (.link target)))) ∨
    (∀ rest, ∃ result, (∀ followLast, walk root followLast here (piece :: rest) = .done result) ∧
      ∀ location n, result ≠ .ok (.found location n)) := by
  cases hat : root.at? here with
  | none =>
      exact Or.inr (Or.inr fun _ =>
        ⟨.error .noSuchFile, fun _ => by simp only [walk, hat], by simp⟩)
  | some node =>
      cases node with
      | file =>
          exact Or.inr (Or.inr fun _ =>
            ⟨.error .notDirectory, fun _ => by simp only [walk, hat], by simp⟩)
      | link =>
          exact Or.inr (Or.inr fun _ =>
            ⟨.error .notDirectory, fun _ => by simp only [walk, hat], by simp⟩)
      | dir entries =>
          by_cases hidle : Path.isIdle piece = true
          · exact Or.inl ⟨here, fun _ _ => by simp only [walk, hat, if_pos hidle]⟩
          by_cases hup : piece = ['.', '.']
          · exact Or.inl ⟨here.dropLast, fun _ _ => by
              simp only [walk, hat, if_neg hidle, if_pos hup]⟩
          cases hget : Entries.get? piece entries with
          | none =>
              refine Or.inr (Or.inr fun rest => ⟨missing here piece rest, fun _ => ?_, ?_⟩)
              · simp only [walk, hat, if_neg hidle, if_neg hup, hget]
              · exact missing_ne_found here piece rest
          | some child =>
              cases child with
              | link target =>
                  refine Or.inr (Or.inl ⟨target, ?_, ?_⟩)
                  · intro followLast rest hfollow
                    have hlast : (rest.isEmpty && !followLast) = false := by
                      rcases hfollow with rfl | hrest
                      · simp
                      · simp [hrest]
                    simp [walk, hat, hidle, hup, hget, hlast]
                  · simp [walk, hat, hidle, hup, hget]
              | file =>
                  exact Or.inl ⟨here ++ [piece], fun _ _ => by
                    simp only [walk, hat, if_neg hidle, if_neg hup, hget]⟩
              | dir =>
                  exact Or.inl ⟨here ++ [piece], fun _ _ => by
                    simp only [walk, hat, if_neg hidle, if_neg hup, hget]⟩

theorem walk_nil_of_found {followLast : Bool}
    (h : walk root followLast here [] = .done (.ok (.found location n))) :
    here = location ∧ root.at? location = some n := by
  simp only [walk] at h
  split at h
  · cases h
    exact ⟨rfl, ‹_›⟩
  · cases h

/-- What has been found is where the answer says. -/
theorem at?_of_walk (h : walk root true here ps = .done (.ok (.found location n))) :
    root.at? location = some n := by
  induction ps generalizing here with
  | nil => exact (walk_nil_of_found h).2
  | cons piece ps ih =>
      rcases walk_step root here piece with ⟨there, hmove⟩ | ⟨target, hlink, _⟩ | hstop
      · exact ih (hmove true ps ▸ h)
      · rw [hlink true ps (Or.inl rfl)] at h
        cases h
      · obtain ⟨result, hresult, hnot⟩ := hstop ps
        rw [hresult true] at h
        exact absurd (Progress.done.inj h) (hnot location n)

/-- The pieces that come behind a place that has been found are followed from there. -/
theorem walk_append_of_found (h : walk root true here ps = .done (.ok (.found location n)))
    (qs : List Text) : walk root true here (ps ++ qs) = walk root true location qs := by
  induction ps generalizing here with
  | nil =>
      obtain ⟨rfl, _⟩ := walk_nil_of_found h
      rfl
  | cons piece ps ih =>
      rcases walk_step root here piece with ⟨there, hmove⟩ | ⟨target, hlink, _⟩ | hstop
      · rw [List.cons_append, hmove true (ps ++ qs)]
        exact ih (hmove true ps ▸ h)
      · rw [hlink true ps (Or.inl rfl)] at h
        cases h
      · obtain ⟨result, hresult, hnot⟩ := hstop ps
        rw [hresult true] at h
        exact absurd (Progress.done.inj h) (hnot location n)

/-- The pieces that come behind a link stay behind it. -/
theorem walk_append_of_link (h : walk root true here ps = .atLink directory target rest)
    (qs : List Text) :
    walk root true here (ps ++ qs) = .atLink directory target (rest ++ qs) := by
  induction ps generalizing here with
  | nil =>
      simp only [walk] at h
      split at h <;> cases h
  | cons piece ps ih =>
      rcases walk_step root here piece with ⟨there, hmove⟩ | ⟨target', hlink, _⟩ | hstop
      · rw [List.cons_append, hmove true (ps ++ qs)]
        exact ih (hmove true ps ▸ h)
      · rw [hlink true ps (Or.inl rfl)] at h
        cases h
        rw [List.cons_append, hlink true (rest ++ qs) (Or.inl rfl)]
      · obtain ⟨result, hresult, _⟩ := hstop ps
        rw [hresult true] at h
        cases h

/-- Where the first pieces find nothing, more pieces find nothing either. -/
theorem walk_append_of_lost {result : Except SystemError Place}
    (h : walk root true here ps = .done result)
    (hnot : ∀ location n, result ≠ .ok (.found location n)) (qs : List Text) :
    ∃ result', walk root true here (ps ++ qs) = .done result' ∧
      ∀ location n, result' ≠ .ok (.found location n) := by
  induction ps generalizing here with
  | nil =>
      have hat : root.at? here = none := by
        cases hat : root.at? here with
        | none => rfl
        | some n =>
            simp only [walk, hat, Progress.done.injEq] at h
            exact absurd h.symm (hnot here n)
      refine ⟨.error .noSuchFile, ?_, by simp⟩
      cases qs <;> simp only [List.nil_append, walk, hat]
  | cons piece ps ih =>
      rcases walk_step root here piece with ⟨there, hmove⟩ | ⟨target, hlink, _⟩ | hstop
      · rw [List.cons_append, hmove true (ps ++ qs)]
        exact ih (hmove true ps ▸ h)
      · rw [hlink true ps (Or.inl rfl)] at h
        cases h
      · obtain ⟨result', hresult, hlost⟩ := hstop (ps ++ qs)
        exact ⟨result', hresult true, hlost⟩

/-- A link at the end of a path is the only thing that not following it changes. -/
theorem walk_unfollowed (root : Node) (here : Location) (ps : List Text) :
    walk root false here ps = walk root true here ps ∨
      ∃ location target, walk root false here ps = .done (.ok (.found location (.link target))) := by
  induction ps generalizing here with
  | nil => exact Or.inl rfl
  | cons piece ps ih =>
      rcases walk_step root here piece with ⟨there, hmove⟩ | ⟨target, hlink, hself⟩ | hstop
      · rw [hmove true ps, hmove false ps]
        exact ih there
      · cases ps with
        | nil => exact Or.inr ⟨_, _, hself⟩
        | cons next ps =>
            left
            rw [hlink true _ (Or.inl rfl), hlink false _ (Or.inr (List.cons_ne_nil next ps))]
      · obtain ⟨result, hresult, _⟩ := hstop ps
        rw [hresult true, hresult false]
        exact Or.inl rfl

theorem follow_of_done {links : Nat} {followLast : Bool} {result : Except SystemError Place}
    (h : walk root followLast here ps = .done result) :
    follow root followLast links here ps = result := by
  cases links <;> rw [follow, h]

theorem follow_of_link {links : Nat} {followLast : Bool}
    (h : walk root followLast here ps = .atLink directory target rest) :
    follow root followLast (links + 1) here ps =
      follow root followLast links (if Path.isAbsolute target then [] else directory)
        (Text.pieces '/' target ++ rest) := by
  rw [follow, h]

/-- Something is found at the end of a walk, or behind the link at which the walk ends. What
holds in the first case and is handed on in the second holds of every path that finds it. -/
theorem follow_induction {place : Place} {motive : Nat → Location → List Text → Prop}
    (done : ∀ links here ps, walk root true here ps = .done (.ok place) → motive links here ps)
    (link : ∀ links here ps directory target rest,
      walk root true here ps = .atLink directory target rest →
      motive links (if Path.isAbsolute target then [] else directory)
        (Text.pieces '/' target ++ rest) →
      motive (links + 1) here ps)
    {links : Nat} (h : follow root true links here ps = .ok place) : motive links here ps := by
  induction links generalizing here ps with
  | zero =>
      cases hwalk : walk root true here ps with
      | done result =>
          rw [follow_of_done hwalk] at h
          exact done 0 here ps (hwalk.trans (congrArg Progress.done h))
      | atLink directory target rest =>
          rw [follow, hwalk] at h
          cases h
  | succ links ih =>
      cases hwalk : walk root true here ps with
      | done result =>
          rw [follow_of_done hwalk] at h
          exact done (links + 1) here ps (hwalk.trans (congrArg Progress.done h))
      | atLink directory target rest =>
          rw [follow_of_link hwalk] at h
          exact link links here ps directory target rest hwalk (ih h)

section

variable {links : Nat}

/-- What has been found through links is where the answer says, too. -/
theorem at?_of_follow (h : follow root true links here ps = .ok (.found location n)) :
    root.at? location = some n :=
  follow_induction (motive := fun _ _ _ => root.at? location = some n)
    (fun _ _ _ hwalk => at?_of_walk hwalk) (fun _ _ _ _ _ _ _ ih => ih) h

/-- Through links as well, what comes behind a place that has been found is followed from
there, with the links that are left. -/
theorem follow_append (h : follow root true links here ps = .ok (.found location n)) :
    ∃ left, ∀ qs, follow root true links here (ps ++ qs) = follow root true left location qs := by
  refine follow_induction (motive := fun links here ps => ∃ left, ∀ qs,
    follow root true links here (ps ++ qs) = follow root true left location qs) ?_ ?_ h
  · intro links here ps hwalk
    refine ⟨links, fun qs => ?_⟩
    cases links <;> rw [follow, follow, walk_append_of_found hwalk qs]
  · intro links here ps directory target rest hwalk ih
    obtain ⟨left, hleft⟩ := ih
    refine ⟨left, fun qs => ?_⟩
    rw [follow_of_link (walk_append_of_link hwalk qs), ← hleft qs, List.append_assoc]

/-- Pieces with which a walk gets lost are not the beginning of any it comes further with. -/
theorem exists_found_of_walk {qs : List Text} {result : Except SystemError Place}
    (h : walk root true here ps = .done result)
    (hmore : ∀ result', walk root true here (ps ++ qs) = .done result' →
      ∃ location n, result' = .ok (.found location n)) :
    ∃ location n, result = .ok (.found location n) := by
  by_contra hnot
  obtain ⟨result', hresult', hlost⟩ := walk_append_of_lost h
    (fun location n heq => hnot ⟨location, n, heq⟩) qs
  obtain ⟨location, n, hfound⟩ := hmore result' hresult'
  exact hlost location n hfound

/-- A path that finds something finds something with each of its beginnings. -/
theorem found_of_follow_append {qs : List Text}
    (h : follow root true links here (ps ++ qs) = .ok (.found location n)) :
    ∃ location' n', follow root true links here ps = .ok (.found location' n') := by
  refine follow_induction (motive := fun links here pieces => ∀ ps, pieces = ps ++ qs →
    ∃ location' n', follow root true links here ps = .ok (.found location' n')) ?_ ?_ h ps rfl
  · rintro links here _ hfound ps rfl
    cases hwalk : walk root true here ps with
    | done result =>
        rw [follow_of_done hwalk]
        apply exists_found_of_walk hwalk
        intro result' hresult'
        exact ⟨location, n, Progress.done.inj (hresult'.symm.trans hfound)⟩
    | atLink directory target rest =>
        rw [walk_append_of_link hwalk qs] at hfound
        cases hfound
  · rintro links here _ directory target rest hlink ih ps rfl
    cases hwalk : walk root true here ps with
    | done result =>
        rw [follow_of_done hwalk]
        apply exists_found_of_walk hwalk
        intro result' hresult'
        cases hlink.symm.trans hresult'
    | atLink directory' target' rest' =>
        rw [walk_append_of_link hwalk qs] at hlink
        cases hlink
        rw [follow_of_link hwalk]
        exact ih _ (List.append_assoc _ _ _).symm

/-- If a path does not find a link at its end, it makes no difference that it would not have
been followed. -/
theorem follow_unfollowed (root : Node) (links : Nat) (here : Location) (ps : List Text) :
    follow root false links here ps = follow root true links here ps ∨
      ∃ location target, follow root false links here ps =
        .ok (.found location (.link target)) := by
  induction links generalizing here ps with
  | zero =>
      rcases walk_unfollowed root here ps with hsame | ⟨location, target, hlink⟩
      · left
        rw [follow, follow, hsame]
      · exact Or.inr ⟨location, target, follow_of_done hlink⟩
  | succ links ih =>
      rcases walk_unfollowed root here ps with hsame | ⟨location, target, hlink⟩
      · cases hwalk : walk root true here ps with
        | done result =>
            left
            rw [follow_of_done hwalk, follow_of_done (hsame.trans hwalk)]
        | atLink directory target rest =>
            rw [follow_of_link hwalk, follow_of_link (hsame.trans hwalk)]
            exact ih _ _
      · exact Or.inr ⟨location, target, follow_of_done hlink⟩

/-- A slash at the end of a path leads nowhere else. -/
theorem location_of_follow_slash
    (h : follow root true links here [[]] = .ok (.found location n)) : here = location := by
  have hidle : Path.isIdle [] = true := rfl
  cases hat : root.at? here with
  | none =>
      have hlost : walk root true here [[]] = .done (.error .noSuchFile) := by
        simp only [walk, hat]
      rw [follow_of_done hlost] at h
      cases h
  | some node =>
      cases node with
      | dir entries =>
          have hfound : walk root true here [[]] = .done (.ok (.found here (.dir entries))) := by
            simp only [walk, hat, hidle, if_true]
          rw [follow_of_done hfound] at h
          cases h
          rfl
      | file | link =>
          have hlost : walk root true here [[]] = .done (.error .notDirectory) := by
            simp only [walk, hat]
          rw [follow_of_done hlost] at h
          cases h

/-- An entry that is no link is found behind its directory. -/
theorem follow_name {entries : List (Text × Node)} {name : Text}
    (hat : root.at? here = some (.dir entries)) (hname : Path.isName name = true)
    (hget : Entries.get? name entries = some n) (hkind : n.kind ≠ .link) :
    follow root true links here [name] = .ok (.found (here ++ [name]) n) := by
  obtain ⟨_, _, hup, _⟩ := Path.isName_iff.mp hname
  have hidle : ¬ Path.isIdle name = true := by
    rw [Path.isIdle_of_isName hname]
    exact Bool.false_ne_true
  have hthere : root.at? (here ++ [name]) = some n := by
    rw [Node.at?_append, hat]
    simp [Node.at?, hget]
  apply follow_of_done
  cases n with
  | link target => exact absurd rfl hkind
  | file content executable =>
      simp only [walk, hat, if_neg hidle, if_neg hup, hget, hthere]
  | dir entries' =>
      simp only [walk, hat, if_neg hidle, if_neg hup, hget, hthere]

end

/-- What a text has to be before it is looked up at all. -/
theorem lookup_eq_found_iff {current : Location} {followLast : Bool} {p : Path} :
    lookup root current followLast p = .ok (.found location n) ↔
      ('\x00' ∉ p ∧ Text.byteLength p < pathLimit ∧ p ≠ []) ∧
        follow root followLast 40 (if p.isAbsolute then [] else current) (Text.pieces '/' p) =
          .ok (.found location n) := by
  rw [lookup]
  split
  case isTrue hnul =>
    have hmem : '\x00' ∈ p := by simpa using hnul
    simp [hmem]
  case isFalse hnul =>
    have hmem : '\x00' ∉ p := by simpa using hnul
    split
    case isTrue hlong => simp [Nat.not_lt.mpr hlong]
    case isFalse hshort =>
      split
      case isTrue hempty => simp [hempty]
      case isFalse hne => simp [hmem, Nat.lt_of_not_le hshort, hne]

end FileTree

namespace World

open FileTree

variable {w : World} {p : Path} {here : Location} {entries : List (Text × Node)}

theorem at?_of_find {n : Node} (h : w.find p = .ok (.found here n)) :
    w.tree.at? here = some n :=
  at?_of_follow (lookup_eq_found_iff.mp h).2

theorem ne_nil_of_find {n : Node} (h : w.find p = .ok (.found here n)) : p ≠ [] :=
  (lookup_eq_found_iff.mp h).1.2.2

/-- An entry of a directory that is no link is found by its name behind the path of the
directory, as long as that is no path too many bytes long. -/
theorem find_join {name : Text} {n : Node} (h : w.find p = .ok (.found here (.dir entries)))
    (hname : Path.isName name = true) (hget : Entries.get? name entries = some n)
    (hkind : n.kind ≠ .link) (hshort : Text.byteLength (Path.join p name) < pathLimit) :
    w.find (Path.join p name) = .ok (.found (here ++ [name]) n) := by
  have hat := at?_of_find h
  obtain ⟨⟨hnul, _, hne⟩, hfollow⟩ := lookup_eq_found_iff.mp h
  have hstem : ∃ left, ∀ qs,
      follow w.tree true 40 (if p.isAbsolute then [] else w.current) (Path.stem p ++ qs) =
        follow w.tree true left here qs := by
    rcases Path.pieces_eq_stem p with hpieces | hpieces
    · exact follow_append (hpieces ▸ hfollow)
    · rw [hpieces] at hfollow
      obtain ⟨location, n', hfront⟩ := found_of_follow_append hfollow
      obtain ⟨left, hleft⟩ := follow_append hfront
      have hlocation : location = here :=
        location_of_follow_slash ((hleft [[]]).symm.trans hfollow)
      exact ⟨left, hlocation ▸ hleft⟩
  obtain ⟨left, hleft⟩ := hstem
  refine lookup_eq_found_iff.mpr
    ⟨⟨Path.nul_not_mem_join hname hnul, hshort, Path.join_ne_nil hne hname⟩, ?_⟩
  rw [Path.isAbsolute_join hne hname, Path.pieces_join hne hname, hleft [name]]
  exact follow_name hat hname hget hkind

/-- A path means the same by itself as with its links followed, unless it means a link. -/
theorem findSelf_eq (w : World) (p : Path) :
    w.findSelf p = w.find p ∨
      ∃ location target, w.findSelf p = .ok (.found location (.link target)) := by
  rw [findSelf, find, lookup, lookup]
  split
  · exact Or.inl rfl
  · split
    · exact Or.inl rfl
    · split
      · exact Or.inl rfl
      · exact follow_unfollowed _ _ _ _

/-- A path to a directory counts, by itself, as a directory or as a link. -/
theorem kindOf_of_find (h : w.find p = .ok (.found here (.dir entries))) :
    w.kindOf p = .ok .dir ∨ w.kindOf p = .ok .link := by
  rcases findSelf_eq w p with hsame | ⟨location, target, hself⟩
  · left
    rw [kindOf, hsame, h]
    rfl
  · right
    rw [kindOf, hself]
    rfl

end World

end BuildManifest
