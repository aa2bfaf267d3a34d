import BuildManifest.Proofs.Directive.Parts

/-!
How a condition divides its text. The separators may occur in it more often than they are needed,
and one occurrence may begin with the blank that another one ends with. The first one that has
something before it counts, and so on from left to right; what comes of that is, of all the ways to
take the text apart, the one with the shortest key, then with the shortest expected value, and then
with the shortest first action. A cut that is made too early to leave anything behind it would leave
a blank at the end of the text.
-/

namespace BuildManifest

namespace Text

variable {word t l r l' r' : Text}

/-- A text is taken apart at a word in one way only, if it is known how far in that is. -/
theorem eq_of_cut_of_length (h : t = l ++ word ++ r) (h' : t = l' ++ word ++ r')
    (hlength : l.length = l'.length) : l = l' ∧ r = r' := by
  rw [h, List.append_assoc, List.append_assoc] at h'
  obtain ⟨hl, hrest⟩ := List.append_inj h' hlength
  exact ⟨hl, List.append_cancel_left hrest⟩

/-- The cut at the first occurrence leaves the shortest text before it. -/
theorem length_le_of_cut? (hword : word ≠ []) (h : cut? word t = some (l, r))
    (hother : t = l' ++ word ++ r') : l.length ≤ l'.length := by
  obtain ⟨ht, hfirst⟩ := (cut?_eq_some_iff hword).mp h
  by_contra hshorter
  have hpos : 0 < word.length := List.length_pos_iff.mpr hword
  have hother_prefix : l' ++ word <+: t := ⟨r', hother.symm⟩
  have hfront : l ++ word.dropLast <+: t := by
    rw [ht, List.append_assoc, List.prefix_append_right_inj]
    exact (List.dropLast_prefix word).trans (List.prefix_append word r)
  have hinside : l' ++ word <+: l ++ word.dropLast := by
    refine List.prefix_of_prefix_length_le hother_prefix hfront ?_
    simp only [List.length_append, List.length_dropLast]
    omega
  exact hfirst ((List.suffix_append l' word).isInfix.trans hinside.isInfix)

end Text

namespace Condition

variable {word t l r l' r' : Text}

/-- An inner cut leaves the shortest text before it, of those that leave any. -/
theorem length_le_of_cutInner? (hword : word ≠ []) (h : cutInner? word t = some (l, r))
    (hne : l' ≠ []) (hother : t = l' ++ word ++ r') : l.length ≤ l'.length := by
  obtain ⟨c, t', front, rfl, rfl, hcut⟩ := exists_of_cutInner? h
  obtain ⟨d, front', rfl⟩ := List.exists_cons_of_ne_nil hne
  rw [List.cons_append, List.cons_append] at hother
  have hlater := Text.length_le_of_cut? hword hcut (List.cons.inj hother).2
  simpa only [List.length_cons, Nat.add_le_add_iff_right] using hlater

theorem ne_nil_of_cutInner? (h : cutInner? word t = some (l, r)) : l ≠ [] := by
  obtain ⟨c, _, front, _, rfl, _⟩ := exists_of_cutInner? h
  exact List.cons_ne_nil c front

theorem exists_cutInner? (hne : l ≠ []) (ht : t = l ++ word ++ r) :
    ∃ l' r', cutInner? word t = some (l', r') := by
  obtain ⟨c, front, rfl⟩ := List.exists_cons_of_ne_nil hne
  subst ht
  have hinside : word <:+: front ++ word ++ r := ⟨front, r, rfl⟩
  cases hcut : Text.cut? word (front ++ word ++ r) with
  | none => exact absurd hinside (Text.cut?_eq_none_iff.mp hcut)
  | some parts =>
      refine ⟨c :: parts.1, parts.2, ?_⟩
      rw [List.cons_append, List.cons_append, cutInner?, hcut]
      rfl

/-- Three texts that make up a condition with the first two separators between them. -/
structure Divides (t key expected rest : Text) : Prop where
  key_nonempty : key ≠ []
  rest_nonempty : rest ≠ []
  eq : t = key ++ (" is " : Text) ++ expected ++ (" do " : Text) ++ rest

/-- Two actions with the last separator between them. -/
structure DividesActions (t met unmet : Text) : Prop where
  met_nonempty : met ≠ []
  unmet_nonempty : unmet ≠ []
  eq : t = met ++ (" else " : Text) ++ unmet

/-- The actions of a text: two, of which the first is as short as possible, or else the whole
text. -/
inductive Actions (t : Text) : Text → Option Text → Prop
  | one (h : ∀ met unmet, ¬ DividesActions t met unmet) : Actions t t none
  | two {met unmet : Text} (h : DividesActions t met unmet)
      (hshortest : ∀ met' unmet', DividesActions t met' unmet' → met.length ≤ met'.length) :
      Actions t met (some unmet)

/-- The shape that a text is taken to have, with these actions: it is the division with the
shortest key, and of those with this key the one with the shortest expected value. -/
structure Shape.IsLeast (s : Shape) (t rest : Text) : Prop where
  oneLine : '\n' ∉ t
  divides : Divides t s.key s.expected rest
  key : ∀ key expected rest', Divides t key expected rest' → s.key.length ≤ key.length
  expected : ∀ expected rest', Divides t s.key expected rest' →
    s.expected.length ≤ expected.length
  actions : Actions rest s.met s.unmet

/-- No separator is the end of a text without a blank there. -/
theorem ne_nil_of_bareEnd (before : Text) (hend : t.BareEnd)
    (ht : t = l ++ (before ++ [' ']) ++ r) : r ≠ [] := by
  rintro rfl
  rw [ht, List.append_nil, ← List.append_assoc, Text.BareEnd, List.getLast?_concat] at hend
  exact absurd (hend ' ' rfl) (by decide)

theorem Divides.eq_key {key expected rest : Text} (h : Divides t key expected rest) :
    t = key ++ (" is " : Text) ++ (expected ++ (" do " : Text) ++ rest) := by
  rw [h.eq]
  simp only [List.append_assoc]

/-- The actions that are found are the ones of the text. -/
theorem actions_actions (hend : t.BareEnd) : Actions t (actions t).1 (actions t).2 := by
  rw [actions]
  split
  · rename_i met c unmet hcut
    have hdivides : DividesActions t met (c :: unmet) :=
      ⟨ne_nil_of_cutInner? hcut, List.cons_ne_nil _ _, eq_of_cutInner? (by decide) hcut⟩
    exact .two hdivides fun met' unmet' h =>
      length_le_of_cutInner? (by decide) hcut h.met_nonempty h.eq
  · rename_i hnone
    refine .one fun met unmet h => ?_
    obtain ⟨met', unmet', hcut⟩ := exists_cutInner? h.met_nonempty h.eq
    have hne : unmet' ≠ [] := ne_nil_of_bareEnd " else" hend
      (eq_of_cutInner? (by decide) hcut)
    obtain ⟨c, unmet'', rfl⟩ := List.exists_cons_of_ne_nil hne
    exact hnone met' c unmet'' hcut

theorem exists_isLeast_of_shape? {s : Shape} (hend : t.BareEnd) (h : shape? t = some s) :
    ∃ rest, s.IsLeast t rest := by
  rw [shape?] at h
  split at h
  · cases h
  · rename_i hline
    split at h
    · cases h
    · rename_i key behind hkey
      have ht := eq_of_cutInner? (by decide) hkey
      split at h
      · cases h
      · cases h
      · rename_i expected c tail hexpected
        cases h
        have hbehind := Text.eq_of_cut? (by decide) hexpected
        have hsuffix : c :: tail <:+ t := by
          rw [ht, hbehind]
          exact (List.suffix_append _ _).trans (List.suffix_append _ _)
        refine ⟨c :: tail, hline, ⟨ne_nil_of_cutInner? hkey, List.cons_ne_nil c tail, ?_⟩, ?_, ?_,
          actions_actions (hend.of_isSuffix hsuffix)⟩
        · rw [ht, hbehind]
          simp only [List.append_assoc]
        · exact fun key' expected' rest' h' =>
            length_le_of_cutInner? (by decide) hkey h'.key_nonempty h'.eq_key
        · intro expected' rest' h'
          have hcancel := ht.symm.trans h'.eq_key
          exact Text.length_le_of_cut? (by decide) hexpected (List.append_cancel_left hcancel)

/-- A text that can be divided has a shape: behind the shortest key there is all that is behind
any other. -/
theorem exists_shape? {key expected rest : Text} (hend : t.BareEnd) (hline : '\n' ∉ t)
    (h : Divides t key expected rest) : ∃ s, shape? t = some s := by
  obtain ⟨key', behind, hkey⟩ := exists_cutInner? h.key_nonempty h.eq_key
  have ht := eq_of_cutInner? (by decide) hkey
  have hshort := length_le_of_cutInner? (by decide) hkey h.key_nonempty h.eq_key
  have hlater : expected ++ (" do " : Text) ++ rest <:+ behind := by
    refine List.suffix_of_suffix_length_le ?_ (ht ▸ List.suffix_append _ _) ?_
    · exact h.eq_key ▸ List.suffix_append _ _
    · have hlength := congrArg List.length (ht.symm.trans h.eq_key)
      rw [List.length_append, List.length_append, List.length_append,
        @List.length_append _ key] at hlength
      omega
  have hinside : (" do " : Text) <:+: behind :=
    List.IsInfix.trans ⟨expected, rest, rfl⟩ hlater.isInfix
  cases hcut : Text.cut? " do " behind with
  | none => exact absurd hinside (Text.cut?_eq_none_iff.mp hcut)
  | some parts =>
      obtain ⟨expected', tail⟩ := parts
      have hne : tail ≠ [] := by
        have hbehind : behind.BareEnd := hend.of_isSuffix (ht ▸ List.suffix_append _ _)
        exact ne_nil_of_bareEnd " do" hbehind (Text.eq_of_cut? (by decide) hcut)
      obtain ⟨c, tail, rfl⟩ := List.exists_cons_of_ne_nil hne
      rw [shape?, if_neg hline, hkey]
      simp only [hcut]
      exact ⟨_, rfl⟩

/-- A text has no more than one division into actions. -/
theorem Actions.unique {met met' : Text} {unmet unmet' : Option Text} (h : Actions t met unmet)
    (h' : Actions t met' unmet') : met = met' ∧ unmet = unmet' := by
  cases h with
  | one hnone =>
      cases h' with
      | one => exact ⟨rfl, rfl⟩
      | two h' => exact absurd h' (hnone _ _)
  | two h hshortest =>
      cases h' with
      | one hnone' => exact absurd h (hnone' _ _)
      | two h' hshortest' =>
          have hlength := Nat.le_antisymm (hshortest _ _ h') (hshortest' _ _ h)
          obtain ⟨rfl, rfl⟩ := Text.eq_of_cut_of_length h.eq h'.eq hlength
          exact ⟨rfl, rfl⟩

/-- A text has no more than one least division. -/
theorem Shape.IsLeast.unique {s s' : Shape} {rest rest' : Text} (h : s.IsLeast t rest)
    (h' : s'.IsLeast t rest') : s = s' := by
  obtain ⟨key, expected, met, unmet⟩ := s
  obtain ⟨key', expected', met', unmet'⟩ := s'
  have hkey := Nat.le_antisymm (h.key _ _ _ h'.divides) (h'.key _ _ _ h.divides)
  obtain ⟨rfl, hbehind⟩ := Text.eq_of_cut_of_length h.divides.eq_key h'.divides.eq_key hkey
  have hexpected := Nat.le_antisymm (h.expected _ _ h'.divides) (h'.expected _ _ h.divides)
  obtain ⟨rfl, rfl⟩ := Text.eq_of_cut_of_length rfl hbehind hexpected
  obtain ⟨rfl, rfl⟩ := h.actions.unique h'.actions
  rfl

/-- The search finds the least division. -/
theorem shape?_eq_some_iff {s : Shape} (hend : t.BareEnd) :
    shape? t = some s ↔ ∃ rest, s.IsLeast t rest := by
  constructor
  · exact exists_isLeast_of_shape? hend
  · rintro ⟨rest, h⟩
    obtain ⟨s', hshape⟩ := exists_shape? hend h.oneLine h.divides
    obtain ⟨rest', h'⟩ := exists_isLeast_of_shape? hend hshape
    rw [hshape, h.unique h']

theorem exists_optionRel_iff {α β : Type} {R : α → β → Prop} {o : Option α} :
    (∃ o', Option.Rel R o o') ↔ ∀ a ∈ o, ∃ b, R a b := by
  constructor
  · rintro ⟨_, h⟩ a ha
    cases h with
    | some hab =>
        cases ha
        exact ⟨_, hab⟩
    | none => cases ha
  · intro h
    cases o with
    | none => exact ⟨none, .none⟩
    | some a =>
        obtain ⟨b, hab⟩ := h a rfl
        exact ⟨some b, .some hab⟩

section

variable {s : Shape} (hshape : shape? t = some s)
include hshape

theorem read_eq_ok_iff_of_shape? (c : Condition) :
    read t = .ok c ↔ c.key = s.key.trim ∧ c.expected = s.expected.trim ∧
      Assignment.read s.met.trim = .ok c.met ∧
      Option.Rel (fun u a => Assignment.read u.trim = .ok a) s.unmet c.unmet := by
  rw [read_eq_ok_iff, hshape]
  simp only [Option.some.injEq, exists_eq_left']

theorem exists_read_iff_of_shape? :
    (∃ c, read t = .ok c) ↔ (∃ a, Assignment.read s.met.trim = .ok a) ∧
      ∀ u ∈ s.unmet, ∃ a, Assignment.read u.trim = .ok a := by
  rw [← exists_optionRel_iff]
  constructor
  · rintro ⟨c, hc⟩
    obtain ⟨-, -, hmet, hunmet⟩ := (read_eq_ok_iff_of_shape? hshape c).mp hc
    exact ⟨⟨c.met, hmet⟩, c.unmet, hunmet⟩
  · rintro ⟨⟨met, hmet⟩, unmet, hunmet⟩
    exact ⟨⟨s.key.trim, s.expected.trim, met, unmet⟩,
      (read_eq_ok_iff_of_shape? hshape _).mpr ⟨rfl, rfl, hmet, hunmet⟩⟩

end

/-- A text without blanks around it has the shape of a condition if it is one line and can be
divided at all. The shape is the least division. The condition can be read if the actions can, and
it holds the parts of the shape without blanks around them. -/
theorem read_least_division (ht : t.IsTrimmed) :
    ((∃ s, shape? t = some s) ↔
      '\n' ∉ t ∧ ∃ key expected rest, Divides t key expected rest) ∧
    (∀ s, shape? t = some s ↔ ∃ rest, s.IsLeast t rest) ∧
    (∀ s, shape? t = some s →
      ((∃ c, read t = .ok c) ↔ (∃ a, Assignment.read s.met.trim = .ok a) ∧
        ∀ u ∈ s.unmet, ∃ a, Assignment.read u.trim = .ok a) ∧
      ∀ c, read t = .ok c ↔ c.key = s.key.trim ∧ c.expected = s.expected.trim ∧
        Assignment.read s.met.trim = .ok c.met ∧
        Option.Rel (fun u a => Assignment.read u.trim = .ok a) s.unmet c.unmet) ∧
    (shape? t = none → read t = .error .illFormedCondition) := by
  refine ⟨⟨?_, ?_⟩, fun s => shape?_eq_some_iff ht.2, fun s hshape => ?_, fun hnone => ?_⟩
  · rintro ⟨s, hshape⟩
    obtain ⟨rest, hleast⟩ := exists_isLeast_of_shape? ht.2 hshape
    exact ⟨hleast.oneLine, s.key, s.expected, rest, hleast.divides⟩
  · rintro ⟨hline, key, expected, rest, hdivides⟩
    exact exists_shape? ht.2 hline hdivides
  · exact ⟨exists_read_iff_of_shape? hshape, read_eq_ok_iff_of_shape? hshape⟩
  · rw [read, hnone]

/-- The separators share their blanks with other words, and each of them occurs more than once. -/
def crowdedCondition : Text := "a is is do do  do b: c else else d: e else f"

theorem read_crowdedCondition :
    crowdedCondition.IsTrimmed ∧
    (∃ rest, Shape.IsLeast ⟨"a", "is", "do  do b: c", some "else d: e else f"⟩ crowdedCondition
      rest) ∧
    read crowdedCondition = .ok ⟨"a", "is", ⟨"do  do b", "c"⟩, some ⟨"else d", "e else f"⟩⟩ := by
  have ht : crowdedCondition.IsTrimmed := by decide
  obtain ⟨-, hleast, hread, -⟩ := read_least_division ht
  have hshape : shape? crowdedCondition =
      some ⟨"a", "is", "do  do b: c", some "else d: e else f"⟩ := by decide
  refine ⟨ht, (hleast _).mp hshape, ((hread _ hshape).2 _).mpr ⟨rfl, rfl, rfl, .some rfl⟩⟩

end Condition

end BuildManifest
