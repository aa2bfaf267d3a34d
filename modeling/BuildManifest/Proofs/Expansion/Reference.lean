import BuildManifest.Expansion
import BuildManifest.Proofs.Text.Occurrence
import Mathlib.Data.List.Nodup
import Mathlib.Data.List.Pairwise
import Mathlib.Logic.Relation
import Mathlib.Tactic.ByContra

/-!
What references mean, said without passes. A list of names with their meanings
is read as a graph: a name refers to the names whose references occur in its
meaning. A text denotes what is left when every reference in it gives way to what
the meaning of its name denotes.

A text in which every `$` begins a reference is read as a list of pieces,
characters and references. That reading is what makes a replacement harmless: it
takes references for what the text has at their places and nothing else, because
no name is the front of another.
-/

namespace BuildManifest.Expansion

/-- Names with what they stand for. -/
abbrev Meanings := List (Text × Text)

def Meanings.names (m : Meanings) : List Text := m.map Prod.fst

/-- Neither of two names begins the other. -/
def Incomparable (a b : Text) : Prop := ¬ a <+: b ∧ ¬ b <+: a

instance (a b : Text) : Decidable (Incomparable a b) := inferInstanceAs (Decidable (_ ∧ _))

instance : Std.Symm Incomparable := ⟨fun _ _ h => ⟨h.2, h.1⟩⟩

/-- Every `$` of a text begins a reference to one of the names. -/
def AllReferences (names : List Text) : Text → Prop
  | [] => True
  | c :: t => (c = '$' → ∃ k ∈ names, k <+: t) ∧ AllReferences names t

instance decidableAllReferences (names : List Text) :
    (t : Text) → Decidable (AllReferences names t)
  | [] => inferInstanceAs (Decidable True)
  | c :: t =>
    have := decidableAllReferences names t
    inferInstanceAs (Decidable ((c = '$' → ∃ k ∈ names, k <+: t) ∧ AllReferences names t))

/-- The text contains the reference `$k`. -/
def Mentions (t k : Text) : Prop := ('$' :: k) <:+: t

instance (t k : Text) : Decidable (Mentions t k) := inferInstanceAs (Decidable (_ <:+: _))

/-- What `k` stands for contains a reference to `l`. -/
def Refers (m : Meanings) (k l : Text) : Prop :=
  ∃ value, (k, value) ∈ m ∧ l ∈ m.names ∧ Mentions value l

def Acyclic (m : Meanings) : Prop := ∀ k, ¬ Relation.TransGen (Refers m) k k

/-- From the text one can follow so many references, one inside the meaning of
the other. -/
inductive Chain (m : Meanings) : Text → Nat → Prop
  | stop (t : Text) : Chain m t 0
  | follow {t k value : Text} {n : Nat} (hk : (k, value) ∈ m) (ht : Mentions t k)
      (hvalue : Chain m value n) : Chain m t (n + 1)

/-- The text with every reference replaced by what the meaning of its name
denotes. -/
inductive Denotes (m : Meanings) : Text → Text → Prop
  | nil : Denotes m [] []
  | char {c : Char} {t r : Text} (hc : c ≠ '$') (ht : Denotes m t r) :
      Denotes m (c :: t) (c :: r)
  | reference {k value t u r : Text} (hk : (k, value) ∈ m) (hvalue : Denotes m value u)
      (ht : Denotes m t r) : Denotes m ('$' :: (k ++ t)) (u ++ r)

theorem Denotes.append {m : Meanings} {t u r s : Text} (ht : Denotes m t r)
    (hu : Denotes m u s) : Denotes m (t ++ u) (r ++ s) := by
  induction ht with
  | nil => exact hu
  | char hc _ ih => exact .char hc ih
  | reference hk hvalue _ _ ih =>
      rw [List.cons_append, List.append_assoc, List.append_assoc]
      exact .reference hk hvalue ih

/-- A text without a `$` denotes itself. -/
theorem denotes_plain (m : Meanings) (t : Text) (h : '$' ∉ t) : Denotes m t t := by
  induction t with
  | nil => exact .nil
  | cons c t ih =>
      have hc : c ≠ '$' := fun heq => h (heq ▸ List.mem_cons_self)
      exact .char hc (ih fun hmem => h (List.mem_cons_of_mem c hmem))

/-- What is required of names and meanings for references to be unambiguous. -/
structure Meanings.WellFormed (m : Meanings) : Prop where
  plain : ∀ k ∈ m.names, '$' ∉ k
  incomparable : m.names.Pairwise Incomparable
  references : ∀ e ∈ m, AllReferences m.names e.2

namespace Meanings.WellFormed

variable {m : Meanings}

/-- Two names at the front of one text are the same name. -/
theorem name_unique (h : m.WellFormed) {j k t : Text} (hj : j ∈ m.names) (hk : k ∈ m.names)
    (hjt : j <+: t) (hkt : k <+: t) : j = k := by
  by_contra hne
  have hinc : Incomparable j k := h.incomparable.forall hj hk hne
  rcases List.prefix_or_prefix_of_prefix hjt hkt with hjk | hkj
  · exact hinc.1 hjk
  · exact hinc.2 hkj

theorem names_nodup (h : m.WellFormed) : m.names.Nodup := by
  apply h.incomparable.imp
  rintro a b hinc rfl
  exact hinc.1 List.prefix_rfl

theorem meaning_unique (h : m.WellFormed) {k value value' : Text} (hk : (k, value) ∈ m)
    (hk' : (k, value') ∈ m) : value = value' :=
  congrArg Prod.snd (List.inj_on_of_nodup_map h.names_nodup hk hk' rfl)

end Meanings.WellFormed

theorem mem_names {m : Meanings} {k value : Text} (hk : (k, value) ∈ m) : k ∈ m.names :=
  List.mem_map_of_mem hk

/-- One piece of a text: a character, or the reference to a name. -/
inductive Piece where
  | char (c : Char)
  | name (k : Text)
  deriving DecidableEq

def Piece.spell : Piece → Text
  | .char c => [c]
  | .name k => '$' :: k

def spell (ps : List Piece) : Text := ps.flatMap Piece.spell

theorem spell_cons (p : Piece) (ps : List Piece) : spell (p :: ps) = p.spell ++ spell ps :=
  List.flatMap_cons

/-- A character that is no `$`, or a reference to one of the names. -/
def Piece.IsFrom (names : List Text) : Piece → Prop
  | .char c => c ≠ '$'
  | .name k => k ∈ names

theorem allReferences_append_of_not_mem {names : List Text} {t u : Text} (ht : '$' ∉ t)
    (hu : AllReferences names u) : AllReferences names (t ++ u) := by
  induction t with
  | nil => exact hu
  | cons c t ih =>
      refine ⟨fun heq => absurd (heq ▸ List.mem_cons_self) ht, ?_⟩
      exact ih fun hmem => ht (List.mem_cons_of_mem c hmem)

theorem allReferences_of_plain {names : List Text} {t : Text} (ht : '$' ∉ t) :
    AllReferences names t := by
  have hnil : AllReferences names ([] : Text) := trivial
  simpa using allReferences_append_of_not_mem ht hnil

/-- What is left when something is taken away from the front still has references only. -/
theorem allReferences_of_append {names : List Text} {t u : Text}
    (h : AllReferences names (t ++ u)) : AllReferences names u := by
  induction t with
  | nil => exact h
  | cons c t ih => exact ih h.2

theorem allReferences_spell {m : Meanings} (hm : m.WellFormed) (ps : List Piece)
    (hps : ∀ p ∈ ps, p.IsFrom m.names) : AllReferences m.names (spell ps) := by
  induction ps with
  | nil => trivial
  | cons p ps ih =>
      have hp : p.IsFrom m.names := hps p List.mem_cons_self
      have hrest := ih fun q hq => hps q (List.mem_cons_of_mem p hq)
      rw [spell_cons]
      cases p with
      | char c => exact ⟨fun heq => absurd heq hp, hrest⟩
      | name k =>
          refine ⟨fun _ => ⟨k, hp, List.prefix_append k _⟩, ?_⟩
          exact allReferences_append_of_not_mem (hm.plain k hp) hrest

/-- A text in which every `$` begins a reference is made up of pieces. -/
theorem exists_pieces {m : Meanings} (t : Text) (ht : AllReferences m.names t) :
    ∃ ps, (∀ p ∈ ps, p.IsFrom m.names) ∧ spell ps = t := by
  induction hn : t.length using Nat.strongRecOn generalizing t with
  | ind n ih =>
      cases t with
      | nil => exact ⟨[], by simp, rfl⟩
      | cons c t =>
          by_cases hc : c = '$'
          · obtain ⟨k, hk, rest, rfl⟩ := ht.1 hc
            have hrest : AllReferences m.names rest := allReferences_of_append ht.2
            have hlen : rest.length < n := by
              simp only [List.length_cons, List.length_append] at hn
              omega
            obtain ⟨ps, hps, hspell⟩ := ih _ hlen rest hrest rfl
            refine ⟨.name k :: ps, ?_, ?_⟩
            · simpa [Piece.IsFrom, hk] using hps
            · rw [spell_cons, hspell, hc]
              rfl
          · have hlen : t.length < n := by
              simp only [List.length_cons] at hn
              omega
            obtain ⟨ps, hps, hspell⟩ := ih _ hlen t ht.2 rfl
            refine ⟨.char c :: ps, ?_, ?_⟩
            · simpa [Piece.IsFrom, hc] using hps
            · rw [spell_cons, hspell]
              rfl

/-- A reference at the front of a text made of pieces is its first piece. -/
theorem eq_of_prefix_spell {m : Meanings} (hm : m.WellFormed) {k : Text} (hk : k ∈ m.names)
    {p : Piece} {ps : List Piece} (hp : p.IsFrom m.names)
    (h : ('$' :: k) <+: spell (p :: ps)) : p = .name k := by
  rw [spell_cons] at h
  cases p with
  | char c => exact absurd (List.cons_prefix_cons.mp h).1.symm hp
  | name j =>
      have hfront : k <+: j ++ spell ps := (List.cons_prefix_cons.mp h).2
      rw [hm.name_unique hp hk (List.prefix_append j _) hfront]

/-- Pieces contain exactly the references that occur in the text they make up. -/
theorem mentions_spell_iff {m : Meanings} (hm : m.WellFormed) {k : Text} (hk : k ∈ m.names)
    (ps : List Piece) (hps : ∀ p ∈ ps, p.IsFrom m.names) :
    Mentions (spell ps) k ↔ .name k ∈ ps := by
  constructor
  · intro h
    induction ps with
    | nil =>
        have hnil : '$' :: k = [] := List.infix_nil.mp h
        cases hnil
    | cons p ps ih =>
        have hp : p.IsFrom m.names := hps p List.mem_cons_self
        have hrest : ∀ q ∈ ps, q.IsFrom m.names := fun q hq => hps q (List.mem_cons_of_mem p hq)
        by_cases hfront : ('$' :: k) <+: spell (p :: ps)
        · rw [eq_of_prefix_spell hm hk hp hfront]
          exact List.mem_cons_self
        · apply List.mem_cons_of_mem
          apply ih hrest
          rw [Mentions, spell_cons] at h
          cases p with
          | char c =>
              exact (List.infix_cons_iff.mp h).resolve_left hfront
          | name j =>
              have hlater : ('$' :: k) <:+: j ++ spell ps :=
                (List.infix_cons_iff.mp h).resolve_left hfront
              exact Text.infix_of_infix_append (hm.plain j hp) hlater
  · intro h
    obtain ⟨before, after, rfl⟩ := List.append_of_mem h
    refine ⟨spell before, spell after, ?_⟩
    simp [spell, Piece.spell]

/-- A name that no other begins is not mentioned where every `$` begins one of the others. -/
theorem not_mentions_of_incomparable {names : List Text} {x t : Text}
    (hx : ∀ k ∈ names, Incomparable x k) (ht : AllReferences names t) : ¬ Mentions t x := by
  induction t with
  | nil =>
      intro h
      have hnil : '$' :: x = [] := List.infix_nil.mp h
      cases hnil
  | cons c t ih =>
      intro h
      rcases List.infix_cons_iff.mp h with hfront | hlater
      · obtain ⟨hc, hxt⟩ := List.cons_prefix_cons.mp hfront
        obtain ⟨k, hk, hkt⟩ := ht.1 hc.symm
        rcases List.prefix_or_prefix_of_prefix hxt hkt with hxk | hkx
        · exact (hx k hk).1 hxk
        · exact (hx k hk).2 hkx
      · exact ih ht.2 hlater

end BuildManifest.Expansion
