import BuildManifest.FileTree
import BuildManifest.Proofs.Path
import BuildManifest.Proofs.Text.ByteOrder

/-!
Trees as a system has them: every entry of a directory has a name that can be
one piece of a path, and no two entries of a directory have the same name. In
such a tree the listing of a directory names each of its entries once, in the
order of the names by their bytes.
-/

namespace BuildManifest

namespace Node

mutual

/-- Whether the directories of a tree have usable and different names in them. -/
def isProper : Node → Bool
  | .file _ _ | .link _ => true
  | .dir entries => areProper entries

def areProper : List (Text × Node) → Bool
  | [] => true
  | (name, n) :: rest =>
    Path.isName name && (Entries.get? name rest).isNone && n.isProper && areProper rest

end

mutual

/-- How many bytes the names that lead down a tree can put behind a path. -/
def span : Node → Nat
  | .file _ _ | .link _ => 0
  | .dir entries => spanAll entries

def spanAll : List (Text × Node) → Nat
  | [] => 0
  | (name, n) :: rest => max (Text.byteLength name + 1 + n.span) (spanAll rest)

end

theorem at?_append (n : Node) (here there : Location) :
    n.at? (here ++ there) = (n.at? here).bind (·.at? there) := by
  induction here generalizing n with
  | nil => simp [at?]
  | cons name here ih =>
      cases n with
      | file => rfl
      | link => rfl
      | dir entries =>
          simp only [List.cons_append, at?]
          cases Entries.get? name entries with
          | none => rfl
          | some n => exact ih n

end Node

namespace Entries

theorem mem_of_get? {name : Text} {n : Node} {entries : List (Text × Node)}
    (h : get? name entries = some n) : (name, n) ∈ entries := by
  induction entries with
  | nil => cases h
  | cons e rest ih =>
      obtain ⟨name', n'⟩ := e
      by_cases hname : name' = name
      · simp only [get?, if_pos hname, Option.some.injEq] at h
        simp [hname, h]
      · simp only [get?, if_neg hname] at h
        exact List.mem_cons_of_mem _ (ih h)

/-- In a proper directory every entry is found under its name. -/
theorem get?_of_mem {name : Text} {n : Node} {entries : List (Text × Node)}
    (hproper : Node.areProper entries = true) (h : (name, n) ∈ entries) :
    get? name entries = some n := by
  induction entries with
  | nil => cases h
  | cons e rest ih =>
      obtain ⟨name', n'⟩ := e
      simp only [Node.areProper, Bool.and_eq_true] at hproper
      obtain ⟨⟨⟨_, hfree⟩, _⟩, hrest⟩ := hproper
      rcases List.mem_cons.mp h with heq | hlater
      · cases heq
        simp [get?]
      · have hfound := ih hrest hlater
        have hne : ¬ name' = name := by
          rintro rfl
          rw [hfound] at hfree
          cases hfree
        rw [get?, if_neg hne, hfound]

theorem proper_of_mem {name : Text} {n : Node} {entries : List (Text × Node)}
    (hproper : Node.areProper entries = true) (h : (name, n) ∈ entries) :
    Path.isName name = true ∧ n.isProper = true := by
  induction entries with
  | nil => cases h
  | cons e rest ih =>
      obtain ⟨name', n'⟩ := e
      simp only [Node.areProper, Bool.and_eq_true] at hproper
      obtain ⟨⟨⟨hname, _⟩, hn⟩, hrest⟩ := hproper
      rcases List.mem_cons.mp h with heq | hlater
      · cases heq
        exact ⟨hname, hn⟩
      · exact ih hrest hlater

theorem span_le_of_get? {name : Text} {n : Node} {entries : List (Text × Node)}
    (h : get? name entries = some n) :
    Text.byteLength name + 1 + n.span ≤ Node.spanAll entries := by
  induction entries with
  | nil => cases h
  | cons e rest ih =>
      obtain ⟨name', n'⟩ := e
      rw [Node.spanAll]
      by_cases hname : name' = name
      · simp only [get?, if_pos hname, Option.some.injEq] at h
        rw [hname, h]
        exact Nat.le_max_left _ _
      · simp only [get?, if_neg hname] at h
        exact Nat.le_trans (ih h) (Nat.le_max_right _ _)

theorem place_perm (e : Text × Kind) (l : List (Text × Kind)) : (place e l).Perm (e :: l) := by
  induction l with
  | nil => exact .refl _
  | cons f l ih =>
      simp only [place]
      split
      · exact .refl _
      · exact (ih.cons f).trans (.swap e f l)

theorem listing_perm (entries : List (Text × Node)) :
    (listing entries).Perm (entries.map fun e => (e.1, e.2.kind)) := by
  induction entries with
  | nil => exact .refl _
  | cons e rest ih => exact (place_perm _ _).trans (ih.cons _)

theorem mem_listing_iff (entries : List (Text × Node)) (name : Text) (kind : Kind) :
    (name, kind) ∈ listing entries ↔ ∃ n, (name, n) ∈ entries ∧ n.kind = kind := by
  rw [(listing_perm entries).mem_iff, List.mem_map]
  constructor
  · rintro ⟨⟨name', n⟩, hmem, heq⟩
    cases heq
    exact ⟨n, hmem, rfl⟩
  · rintro ⟨n, hmem, rfl⟩
    exact ⟨(name, n), hmem, rfl⟩

theorem place_pairwise (e : Text × Kind) (l : List (Text × Kind))
    (hl : l.Pairwise fun a b => Text.Before a.1 b.1) (hnew : ∀ f ∈ l, e.1 ≠ f.1) :
    (place e l).Pairwise fun a b => Text.Before a.1 b.1 := by
  induction l with
  | nil => exact List.pairwise_singleton _ _
  | cons f l ih =>
      obtain ⟨hfirst, hrest⟩ := List.pairwise_cons.mp hl
      have hne : e.1 ≠ f.1 := hnew f List.mem_cons_self
      simp only [place]
      split
      case isTrue hle =>
        have hef : Text.Before e.1 f.1 := Text.before_of_le hle hne
        refine List.pairwise_cons.mpr ⟨?_, hl⟩
        intro g hg
        rcases List.mem_cons.mp hg with rfl | hlater
        · exact hef
        · exact hef.trans (hfirst g hlater)
      case isFalse hle =>
        have hfe : Text.Before f.1 e.1 :=
          Text.before_of_le ((Text.le_total e.1 f.1).resolve_left hle) hne.symm
        refine List.pairwise_cons.mpr ⟨?_, ih hrest fun g hg => hnew g (List.mem_cons_of_mem f hg)⟩
        intro g hg
        rcases List.mem_cons.mp ((place_perm e l).mem_iff.mp hg) with rfl | hlater
        · exact hfe
        · exact hfirst g hlater

/-- The listing of a proper directory goes strictly up. -/
theorem listing_pairwise {entries : List (Text × Node)}
    (hproper : Node.areProper entries = true) :
    (listing entries).Pairwise fun a b => Text.Before a.1 b.1 := by
  induction entries with
  | nil => exact List.Pairwise.nil
  | cons e rest ih =>
      obtain ⟨name, n⟩ := e
      simp only [Node.areProper, Bool.and_eq_true] at hproper
      obtain ⟨⟨⟨_, hfree⟩, _⟩, hrest⟩ := hproper
      refine place_pairwise (name, n.kind) (listing rest) (ih hrest) ?_
      rintro ⟨name', kind⟩ hf rfl
      obtain ⟨n', hn', _⟩ := (mem_listing_iff rest name kind).mp hf
      rw [get?_of_mem hrest hn'] at hfree
      cases hfree

end Entries

theorem Node.byteLength_descend_le {n n' : Node} {names : List Text} {p : Path}
    (h : n.at? names = some n') :
    Text.byteLength (Path.descend p names) ≤ Text.byteLength p + n.span := by
  induction names generalizing n p with
  | nil => exact Nat.le_add_right _ _
  | cons name names ih =>
      cases n with
      | file => cases h
      | link => cases h
      | dir entries =>
          simp only [at?] at h
          cases hget : Entries.get? name entries with
          | none =>
              rw [hget] at h
              cases h
          | some child =>
              rw [hget] at h
              have hrest := ih (p := Path.join p name) h
              have hjoin := Path.byteLength_join_le p name
              have hspan := Entries.span_le_of_get? hget
              rw [Path.descend_cons, Node.span]
              omega

/-- What is inside a proper tree is proper, and so are the names on the way to it. -/
theorem Node.proper_of_at? {n n' : Node} {location : Location} (hproper : n.isProper = true)
    (h : n.at? location = some n') :
    n'.isProper = true ∧ ∀ name ∈ location, Path.isName name = true := by
  induction location generalizing n with
  | nil =>
      simp only [at?, Option.some.injEq] at h
      exact ⟨h ▸ hproper, by simp⟩
  | cons name location ih =>
      cases n with
      | file => cases h
      | link => cases h
      | dir entries =>
          simp only [at?] at h
          cases hget : Entries.get? name entries with
          | none =>
              rw [hget] at h
              cases h
          | some child =>
              rw [hget] at h
              obtain ⟨hname, hchild⟩ := Entries.proper_of_mem hproper (Entries.mem_of_get? hget)
              obtain ⟨hn', hnames⟩ := ih hchild h
              exact ⟨hn', List.forall_mem_cons.mpr ⟨hname, hnames⟩⟩

namespace Node

mutual

def isLinkFree : Node → Bool
  | .file _ _ => true
  | .link _ => false
  | .dir entries => areLinkFree entries

def areLinkFree : List (Text × Node) → Bool
  | [] => true
  | (_, n) :: rest => n.isLinkFree && areLinkFree rest

end

theorem isLinkFree_of_get? {name : Text} {n : Node} {entries : List (Text × Node)}
    (hfree : areLinkFree entries = true) (h : Entries.get? name entries = some n) :
    n.isLinkFree = true := by
  induction entries with
  | nil => cases h
  | cons e rest ih =>
      obtain ⟨name', n'⟩ := e
      rw [areLinkFree, Bool.and_eq_true] at hfree
      rw [Entries.get?] at h
      split at h
      · cases h
        exact hfree.1
      · exact ih hfree.2 h

/-- Nothing in a tree without links is one. -/
theorem isLinkFree_of_at? {n n' : Node} {location : Location} (hfree : n.isLinkFree = true)
    (h : n.at? location = some n') : n'.isLinkFree = true := by
  induction location generalizing n with
  | nil =>
      cases h
      exact hfree
  | cons name location ih =>
      cases n with
      | file => cases h
      | link => cases h
      | dir entries =>
          rw [at?] at h
          split at h
          · exact ih (isLinkFree_of_get? hfree ‹_›) h
          · cases h

end Node

end BuildManifest
