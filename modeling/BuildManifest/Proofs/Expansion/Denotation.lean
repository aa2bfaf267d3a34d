import BuildManifest.Proofs.Expansion.Reference
import Mathlib.Order.Lattice.Nat
import Mathlib.Data.Fintype.Basic
import Mathlib.Order.WellFounded
import Mathlib.Data.Finite.Defs

/-!
Passes compute what a text denotes. A replacement of one name by its meaning
keeps what the text denotes. After a pass every reference in the text comes out
of a meaning that the text referred to before the pass, whatever the order of
the replacements, so the longest chain of references is one shorter. A text
whose chains have length zero has no `$`, denotes itself and is settled.
-/

namespace BuildManifest.Expansion

/-- No chain of references that starts in the text is longer than `n`. -/
def Within (m : Meanings) (n : Nat) (t : Text) : Prop := ∀ j, Chain m t j → j ≤ n

theorem Within.mono {m : Meanings} {n n' : Nat} {t : Text} (h : Within m n t) (hn : n ≤ n') :
    Within m n' t :=
  fun j hj => Nat.le_trans (h j hj) hn

theorem Within.meaning {m : Meanings} {n : Nat} {t k value : Text} (h : Within m (n + 1) t)
    (hk : (k, value) ∈ m) (hmention : Mentions t k) : Within m n value := by
  intro j hj
  have hnext : j + 1 ≤ n + 1 := h (j + 1) (.follow hk hmention hj)
  omega

variable {m : Meanings}

theorem denotes_char_inv {c : Char} (hc : c ≠ '$') {t r : Text} (h : Denotes m (c :: t) r) :
    ∃ s, r = c :: s ∧ Denotes m t s := by
  generalize hw : c :: t = w at h
  cases h with
  | nil => cases hw
  | char _ ht =>
      cases hw
      exact ⟨_, rfl, ht⟩
  | reference => exact absurd (List.cons.inj hw).1 hc

/-- A reference at the front has what its name's meaning denotes. -/
theorem denotes_reference_inv (hm : m.WellFormed) {k value t r : Text} (hk : (k, value) ∈ m)
    (h : Denotes m ('$' :: (k ++ t)) r) :
    ∃ u s, r = u ++ s ∧ Denotes m value u ∧ Denotes m t s := by
  generalize hw : '$' :: (k ++ t) = w at h
  cases h with
  | nil => cases hw
  | char hc _ => exact absurd (List.cons.inj hw).1.symm hc
  | @reference k' value' t' u s hk' hvalue ht =>
      have htail : k ++ t = k' ++ t' := (List.cons.inj hw).2
      have hname : k = k' := hm.name_unique (mem_names hk) (mem_names hk')
        (List.prefix_append k t) (htail ▸ List.prefix_append k' t')
      subst hname
      have hmeaning : value = value' := hm.meaning_unique hk hk'
      have hrest : t = t' := List.append_cancel_left htail
      subst hmeaning hrest
      exact ⟨u, s, rfl, hvalue, ht⟩

theorem denotes_unique (hm : m.WellFormed) {t r r' : Text} (h : Denotes m t r)
    (h' : Denotes m t r') : r = r' := by
  induction h generalizing r' with
  | nil => cases h' with
    | nil => rfl
  | char hc _ ih =>
      obtain ⟨s, rfl, hs⟩ := denotes_char_inv hc h'
      rw [ih hs]
  | reference hk _ _ ihvalue iht =>
      obtain ⟨u, s, rfl, hu, hs⟩ := denotes_reference_inv hm hk h'
      rw [ihvalue hu, iht hs]

/-- A text denotes something if the meanings of all its references do. -/
theorem exists_denotes_spell (ps : List Piece) (hps : ∀ p ∈ ps, p.IsFrom m.names)
    (hmeanings : ∀ k value, .name k ∈ ps → (k, value) ∈ m → ∃ u, Denotes m value u) :
    ∃ r, Denotes m (spell ps) r := by
  induction ps with
  | nil => exact ⟨[], .nil⟩
  | cons p ps ih =>
      have hp : p.IsFrom m.names := hps p List.mem_cons_self
      obtain ⟨r, hr⟩ := ih (fun q hq => hps q (List.mem_cons_of_mem p hq))
        (fun k value hk => hmeanings k value (List.mem_cons_of_mem p hk))
      rw [spell_cons]
      cases p with
      | char c => exact ⟨c :: r, .char hp hr⟩
      | name k =>
          obtain ⟨⟨_, value⟩, hk, rfl⟩ := List.mem_map.mp hp
          obtain ⟨u, hu⟩ := hmeanings _ value List.mem_cons_self hk
          exact ⟨u ++ r, .reference hk hu hr⟩

/-- A text from which no endless chain starts denotes something. -/
theorem exists_denotes (hm : m.WellFormed) {n : Nat} {t : Text}
    (ht : AllReferences m.names t) (hn : Within m n t) : ∃ r, Denotes m t r := by
  induction n generalizing t with
  | zero =>
      obtain ⟨ps, hps, rfl⟩ := exists_pieces t ht
      apply exists_denotes_spell ps hps
      intro k value hk hvalue
      have hmention := (mentions_spell_iff hm (mem_names hvalue) ps hps).mpr hk
      have hlen : 1 ≤ 0 := hn 1 (.follow hvalue hmention (.stop value))
      omega
  | succ n ih =>
      obtain ⟨ps, hps, rfl⟩ := exists_pieces t ht
      apply exists_denotes_spell ps hps
      intro k value hk hvalue
      have hmention := (mentions_spell_iff hm (mem_names hvalue) ps hps).mpr hk
      exact ih (hm.references _ hvalue) (hn.meaning hvalue hmention)

/-- The pieces in which every reference to `k` has given way to the pieces `vs`. -/
def substitute (k : Text) (vs ps : List Piece) : List Piece :=
  ps.flatMap fun p => if p = .name k then vs else [p]

theorem substitute_cons_self (k : Text) (vs ps : List Piece) :
    substitute k vs (.name k :: ps) = vs ++ substitute k vs ps := by
  simp [substitute]

theorem substitute_cons_of_ne {k : Text} {p : Piece} (hp : p ≠ .name k) (vs ps : List Piece) :
    substitute k vs (p :: ps) = p :: substitute k vs ps := by
  simp [substitute, hp]

theorem mem_substitute_iff (k : Text) (vs ps : List Piece) (p : Piece) :
    p ∈ substitute k vs ps ↔ (p ∈ ps ∧ p ≠ .name k) ∨ (.name k ∈ ps ∧ p ∈ vs) := by
  induction ps with
  | nil => simp [substitute]
  | cons q ps ih =>
      by_cases hq : q = .name k
      · subst hq
        rw [substitute_cons_self, List.mem_append, ih]
        grind
      · rw [substitute_cons_of_ne hq, List.mem_cons, ih]
        grind

theorem spell_append (ps qs : List Piece) : spell (ps ++ qs) = spell ps ++ spell qs :=
  List.flatMap_append

/-- Replacing a word in the text replaces the references in its reading, and nothing that
only looks like one because of what stands next to it. -/
theorem replace_spell (hm : m.WellFormed) {k : Text} (hk : k ∈ m.names) (vs ps : List Piece)
    (hps : ∀ p ∈ ps, p.IsFrom m.names) :
    (spell ps).replace ('$' :: k) (spell vs) = spell (substitute k vs ps) := by
  induction ps with
  | nil => rfl
  | cons p ps ih =>
      have hp : p.IsFrom m.names := hps p List.mem_cons_self
      have hrest := ih fun q hq => hps q (List.mem_cons_of_mem p hq)
      by_cases hpk : p = .name k
      · subst hpk
        rw [spell_cons, substitute_cons_self, spell_append, ← hrest]
        exact Text.replace_append ('$' :: k) _ _ (List.cons_ne_nil _ _)
      · have hfront : ¬ ('$' :: k) <+: spell (p :: ps) :=
          fun h => hpk (eq_of_prefix_spell hm hk hp h)
        rw [substitute_cons_of_ne hpk, spell_cons, spell_cons, ← hrest]
        rw [spell_cons] at hfront
        cases p with
        | char c => exact Text.replace_cons _ _ c _ hfront
        | name j =>
            have hstep := Text.replace_cons ('$' :: k) (spell vs) '$' (j ++ spell ps) hfront
            rw [Text.replace_append_of_not_mem _ _ _ _ _ (hm.plain j hp)] at hstep
            exact hstep

theorem denotes_substitute (hm : m.WellFormed) {k : Text} {vs : List Piece}
    (hk : (k, spell vs) ∈ m) (ps : List Piece) (hps : ∀ p ∈ ps, p.IsFrom m.names) {r : Text}
    (h : Denotes m (spell ps) r) : Denotes m (spell (substitute k vs ps)) r := by
  induction ps generalizing r with
  | nil => exact h
  | cons p ps ih =>
      have hp : p.IsFrom m.names := hps p List.mem_cons_self
      have hrest : ∀ q ∈ ps, q.IsFrom m.names := fun q hq => hps q (List.mem_cons_of_mem p hq)
      by_cases hpk : p = .name k
      · subst hpk
        obtain ⟨u, s, rfl, hu, hs⟩ := denotes_reference_inv hm hk h
        rw [substitute_cons_self, spell_append]
        exact hu.append (ih hrest hs)
      · rw [substitute_cons_of_ne hpk, spell_cons]
        cases p with
        | char c =>
            obtain ⟨s, rfl, hs⟩ := denotes_char_inv hp h
            exact .char hp (ih hrest hs)
        | name j =>
            obtain ⟨⟨_, value⟩, hj, rfl⟩ := List.mem_map.mp hp
            obtain ⟨u, s, rfl, hu, hs⟩ := denotes_reference_inv hm hj h
            exact .reference hj hu (ih hrest hs)

/-- What is known of the references in a text in the midst of a pass. A name that has been
replaced may have come in again with the meaning of another name, and then its own meaning
is shorter than it could be at the start of the pass. -/
def Reduced (m : Meanings) (n : Nat) (replaced : List Text) (ps : List Piece) : Prop :=
  ∀ k value, .name k ∈ ps → (k, value) ∈ m →
    Within m n value ∧ (k ∈ replaced → ∀ j, Chain m value j → j < n)

theorem Reduced.substitute (hm : m.WellFormed) {n : Nat} {replaced : List Text}
    {ps vs : List Piece} {k : Text} (h : Reduced m n replaced ps) (hk : (k, spell vs) ∈ m)
    (hvs : ∀ p ∈ vs, p.IsFrom m.names) :
    Reduced m n (replaced ++ [k]) (substitute k vs ps) := by
  intro j value hj hvalue
  rcases (mem_substitute_iff k vs ps (.name j)).mp hj with ⟨hold, hne⟩ | ⟨hname, hnew⟩
  · obtain ⟨hwithin, hlow⟩ := h j value hold hvalue
    refine ⟨hwithin, fun hmem => hlow ?_⟩
    have hjk : j ≠ k := fun heq => hne (by rw [heq])
    simpa [hjk] using hmem
  · have hmention : Mentions (spell vs) j :=
      (mentions_spell_iff hm (mem_names hvalue) vs hvs).mpr hnew
    have hhigh : Within m n (spell vs) := (h k (spell vs) hname hk).1
    have hlow : ∀ i, Chain m value i → i < n := fun i hi =>
      hhigh (i + 1) (.follow hvalue hmention hi)
    exact ⟨fun i hi => Nat.le_of_lt (hlow i hi), fun _ => hlow⟩

def replaceName (t : Text) (e : Text × Text) : Text := t.replace ('$' :: e.1) e.2

/-- Replacements of any of the names, one after the other, keep what the text denotes and
leave a text that is reduced for all of them. -/
theorem foldl_replaceName (hm : m.WellFormed) {n : Nat} {r : Text} (es : List (Text × Text))
    (hes : ∀ e ∈ es, e ∈ m) (replaced : List Text) (ps : List Piece)
    (hps : ∀ p ∈ ps, p.IsFrom m.names) (hreduced : Reduced m n replaced ps)
    (hr : Denotes m (spell ps) r) :
    ∃ qs, es.foldl replaceName (spell ps) = spell qs ∧ (∀ p ∈ qs, p.IsFrom m.names) ∧
      Reduced m n (replaced ++ es.map Prod.fst) qs ∧ Denotes m (spell qs) r := by
  induction es generalizing replaced ps with
  | nil => exact ⟨ps, rfl, hps, by simpa using hreduced, hr⟩
  | cons e es ih =>
      obtain ⟨k, value⟩ := e
      have hk : (k, value) ∈ m := hes _ List.mem_cons_self
      obtain ⟨vs, hvs, rfl⟩ := exists_pieces value (hm.references _ hk)
      have hqs : ∀ p ∈ substitute k vs ps, p.IsFrom m.names := by
        intro p hp
        rcases (mem_substitute_iff k vs ps p).mp hp with ⟨hold, _⟩ | ⟨_, hnew⟩
        · exact hps p hold
        · exact hvs p hnew
      obtain ⟨qs, hfold, hfrom, hred, hden⟩ := ih
        (fun e he => hes e (List.mem_cons_of_mem _ he)) (replaced ++ [k]) (substitute k vs ps)
        hqs (hreduced.substitute hm hk hvs) (denotes_substitute hm hk ps hps hr)
      refine ⟨qs, ?_, hfrom, by simpa using hred, hden⟩
      rw [List.foldl_cons, replaceName, replace_spell hm (mem_names hk) vs ps hps]
      exact hfold

/-- A pass keeps what a text denotes and shortens its longest chain, in whatever order the
names are replaced. -/
theorem pass_within (hm : m.WellFormed) {es : List (Text × Text)} (hes : es.Perm m) {n : Nat}
    {t r : Text} (ht : AllReferences m.names t) (hn : Within m (n + 1) t)
    (hr : Denotes m t r) :
    AllReferences m.names (es.foldl replaceName t) ∧ Within m n (es.foldl replaceName t) ∧
      Denotes m (es.foldl replaceName t) r := by
  obtain ⟨ps, hps, rfl⟩ := exists_pieces t ht
  have hreduced : Reduced m n [] ps := by
    intro k value hk hvalue
    have hmention := (mentions_spell_iff hm (mem_names hvalue) ps hps).mpr hk
    exact ⟨hn.meaning hvalue hmention, fun h => absurd h List.not_mem_nil⟩
  obtain ⟨qs, hfold, hqs, hred, hden⟩ :=
    foldl_replaceName hm es (fun e he => hes.subset he) [] ps hps hreduced hr
  rw [hfold]
  refine ⟨allReferences_spell hm qs hqs, ?_, hden⟩
  intro j hj
  cases hj with
  | stop => exact Nat.zero_le n
  | @follow _ k value i hk hmention hvalue =>
      have hname := (mentions_spell_iff hm (mem_names hk) qs hqs).mp hmention
      have hall : k ∈ [] ++ es.map Prod.fst :=
        List.mem_map_of_mem (f := Prod.fst) (hes.mem_iff.mpr hk)
      exact (hred k value hname hk).2 hall i hvalue

/-- Without references there is nothing to replace. -/
theorem plain_of_within_zero (hm : m.WellFormed) {t : Text} (ht : AllReferences m.names t)
    (hn : Within m 0 t) : '$' ∉ t := by
  obtain ⟨ps, hps, rfl⟩ := exists_pieces t ht
  intro hmem
  obtain ⟨p, hp, hspell⟩ := List.mem_flatMap.mp hmem
  cases p with
  | char c => exact hps _ hp (List.mem_singleton.mp hspell).symm
  | name k =>
      obtain ⟨⟨_, value⟩, hk, rfl⟩ := List.mem_map.mp (hps _ hp)
      have hmention := (mentions_spell_iff hm (mem_names hk) ps hps).mpr hp
      have hlen : 1 ≤ 0 := hn 1 (.follow hk hmention (.stop value))
      omega

/-- Names that are not mentioned in a text leave it alone. -/
theorem foldl_replaceName_of_unmentioned {es : List (Text × Text)} {t : Text}
    (h : ∀ e ∈ es, ¬ Mentions t e.1) : es.foldl replaceName t = t := by
  induction es with
  | nil => rfl
  | cons e es ih =>
      obtain ⟨he, hes⟩ := List.forall_mem_cons.mp h
      rw [List.foldl_cons, replaceName, Text.replace_of_not_infix he]
      exact ih hes

theorem foldl_replaceName_of_plain (es : List (Text × Text)) {t : Text} (ht : '$' ∉ t) :
    es.foldl replaceName t = t :=
  foldl_replaceName_of_unmentioned fun _ _ hin => ht (hin.subset List.mem_cons_self)

end BuildManifest.Expansion
