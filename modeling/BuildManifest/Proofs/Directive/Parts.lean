import BuildManifest.Directive.Reading
import BuildManifest.Proofs.Text.Cutting
import BuildManifest.Proofs.Text.Trimming

/-!
What the operands, the assignments and the conditions that are read look like.
Reading cuts a text at separators and trims what stands between them, so that no
part has blanks around it and a part that is cut off at the first separator does
not hold that separator. Trimming could make a separator reappear at the front of a
part; it does not, since every separator of more than one character begins with a
blank.
-/

namespace BuildManifest

namespace Text

/-- Some text without blanks around it. -/
structure IsOperand (t : Text) : Prop where
  nonempty : t ≠ []
  trimmed : t.IsTrimmed

instance (t : Text) : Decidable t.IsOperand :=
  decidable_of_iff (t ≠ [] ∧ t.IsTrimmed) ⟨fun ⟨h, h'⟩ => ⟨h, h'⟩, fun ⟨h, h'⟩ => ⟨h, h'⟩⟩

theorem isOperand_trim {t : Text} (h : t.trim ≠ []) : t.trim.IsOperand :=
  ⟨h, isTrimmed_trim t⟩

theorem not_mem_trim {c : Char} {t : Text} (h : c ∉ t) : c ∉ t.trim := fun hmem =>
  h ((trim_isInfix t).subset hmem)

theorem not_infix_trim {word t : Text} (h : ¬ word <:+: t) : ¬ word <:+: t.trim := fun hin =>
  h (hin.trans (trim_isInfix t))

/-- A word that begins with a blank is no further up front than the second
character of a trimmed text. -/
theorem not_infix_trim_cons {word t : Text} (hword : ¬ word.BareFront) (h : ¬ word <:+: t)
    (c : Char) : ¬ word <:+: trim (c :: t) := by
  by_cases hc : isBlank c = true
  · rw [trim_cons_of_blank hc]
    exact not_infix_trim h
  · intro hin
    rcases List.infix_cons_iff.mp (hin.trans (trim_isInfix _)) with hfront | hlater
    · exact hword ((bareFront_cons_iff.mpr (Bool.eq_false_iff.mpr hc)).of_isPrefix hfront)
    · exact h hlater

end Text

namespace Assignment

def texts (a : Assignment) : List Text := [a.key, a.value]

structure WellFormed (a : Assignment) : Prop where
  key : a.key.IsOperand
  colon : ':' ∉ a.key
  value : a.value.IsTrimmed

instance (a : Assignment) : Decidable a.WellFormed :=
  decidable_of_iff (a.key.IsOperand ∧ ':' ∉ a.key ∧ a.value.IsTrimmed)
    ⟨fun ⟨h₁, h₂, h₃⟩ => ⟨h₁, h₂, h₃⟩, fun ⟨h₁, h₂, h₃⟩ => ⟨h₁, h₂, h₃⟩⟩

theorem exists_of_read {t : Text} {a : Assignment} (h : read t = .ok a) :
    ∃ key value : Text, t = key ++ ':' :: value ∧ ':' ∉ key ∧ key.trim ≠ [] ∧
      a = ⟨key.trim, value.trim⟩ := by
  rw [read] at h
  split at h
  · cases h
  · rename_i key value hcut
    obtain ⟨ht, hcolon⟩ := Text.cut?_singleton_eq_some_iff.mp hcut
    split at h
    · cases h
    · rename_i hkey
      cases h
      exact ⟨key, value, ht, hcolon, hkey, rfl⟩

theorem wellFormed_of_read {t : Text} {a : Assignment} (h : read t = .ok a) : a.WellFormed := by
  obtain ⟨key, value, _, hcolon, hkey, rfl⟩ := exists_of_read h
  exact ⟨Text.isOperand_trim hkey, Text.not_mem_trim hcolon, Text.isTrimmed_trim value⟩

/-- Both parts of an assignment stand in its text. -/
theorem infix_of_read {t : Text} {a : Assignment} (h : read t = .ok a) :
    ∀ u ∈ a.texts, u <:+: t := by
  obtain ⟨key, value, rfl, _, _, rfl⟩ := exists_of_read h
  simp only [texts, List.forall_mem_cons, List.not_mem_nil, false_implies, implies_true, and_true]
  constructor
  · exact (Text.trim_isInfix key).trans (List.prefix_append key _).isInfix
  · exact (Text.trim_isInfix value).trans
      ((List.suffix_cons ':' value).trans (List.suffix_append key _)).isInfix

end Assignment

namespace Condition

def texts (c : Condition) : List Text :=
  c.key :: c.expected :: (c.met :: c.unmet.toList).flatMap Assignment.texts

structure WellFormed (c : Condition) : Prop where
  oneLine : ∀ t ∈ c.texts, '\n' ∉ t
  key : c.key.IsOperand
  keySeparator : ¬ (" is " : Text) <:+: c.key
  expected : c.expected.IsTrimmed
  expectedSeparator : ¬ (" do " : Text) <:+: c.expected
  met : c.met.WellFormed
  metSeparator : ∀ t ∈ c.met.texts, ¬ (" else " : Text) <:+: t
  unmet : ∀ a ∈ c.unmet, a.WellFormed

instance (c : Condition) : Decidable c.WellFormed :=
  decidable_of_iff
    ((∀ t ∈ c.texts, '\n' ∉ t) ∧ (c.key.IsOperand ∧ ¬ (" is " : Text) <:+: c.key) ∧
      (c.expected.IsTrimmed ∧ ¬ (" do " : Text) <:+: c.expected) ∧
      (c.met.WellFormed ∧ ∀ t ∈ c.met.texts, ¬ (" else " : Text) <:+: t) ∧
      ∀ a ∈ c.unmet, a.WellFormed)
    ⟨fun ⟨h₁, ⟨h₂, h₃⟩, ⟨h₄, h₅⟩, ⟨h₆, h₇⟩, h₈⟩ => ⟨h₁, h₂, h₃, h₄, h₅, h₆, h₇, h₈⟩,
      fun ⟨h₁, h₂, h₃, h₄, h₅, h₆, h₇, h₈⟩ => ⟨h₁, ⟨h₂, h₃⟩, ⟨h₄, h₅⟩, ⟨h₆, h₇⟩, h₈⟩⟩

theorem exists_of_cutInner? {word t l r : Text} (h : cutInner? word t = some (l, r)) :
    ∃ c t' l', t = c :: t' ∧ l = c :: l' ∧ Text.cut? word t' = some (l', r) := by
  cases t with
  | nil => cases h
  | cons c t' =>
      rw [cutInner?, Option.map_eq_some_iff] at h
      obtain ⟨⟨l', r'⟩, hcut, hparts⟩ := h
      cases hparts
      exact ⟨c, t', l', rfl, rfl, hcut⟩

/-- What stands before an inner separator does not hold it once it is trimmed. -/
theorem not_infix_trim_of_cutInner? {word t l r : Text} (hword : ¬ word.BareFront)
    (h : cutInner? word t = some (l, r)) : ¬ word <:+: l.trim := by
  have hne : word ≠ [] := by
    rintro rfl
    exact hword (by simp [Text.BareFront])
  obtain ⟨c, t', l', _, rfl, hcut⟩ := exists_of_cutInner? h
  exact Text.not_infix_trim_cons hword (Text.not_infix_of_cut? hne hcut) c

theorem eq_of_cutInner? {word t l r : Text} (hword : word ≠ [])
    (h : cutInner? word t = some (l, r)) : t = l ++ word ++ r := by
  obtain ⟨c, t', l', rfl, rfl, hcut⟩ := exists_of_cutInner? h
  rw [Text.eq_of_cut? hword hcut, List.cons_append, List.cons_append]

/-- Where the second action is missing, nothing separates two of them. -/
theorem actions_isInfix {t : Text} (hend : t.BareEnd) :
    ¬ (" else " : Text) <:+: (actions t).1.trim ∧ (actions t).1 <:+: t ∧
      ∀ u ∈ (actions t).2, u <:+: t := by
  have hword : (" else " : Text) ≠ [] := by decide
  have hblank : ¬ Text.BareFront " else " := by decide
  rw [actions]
  split
  · rename_i met c unmet hcut
    have ht := eq_of_cutInner? hword hcut
    refine ⟨not_infix_trim_of_cutInner? hblank hcut, ?_, ?_⟩
    · rw [ht, List.append_assoc]
      exact (List.prefix_append met _).isInfix
    · intro u hu
      cases hu
      rw [ht]
      exact (List.suffix_append _ _).isInfix
  · rename_i hnone
    refine ⟨?_, List.infix_refl t, by simp⟩
    cases t with
    | nil => decide
    | cons c t =>
        refine Text.not_infix_trim_cons hblank ?_ c
        rw [← Text.cut?_eq_none_iff]
        cases hcut : cutInner? " else " (c :: t) with
        | none => exact Option.map_eq_none_iff.mp hcut
        | some parts =>
            obtain ⟨met, unmet⟩ := parts
            cases unmet with
            | cons d unmet => exact absurd hcut (hnone met d unmet)
            | nil =>
                -- a separator with nothing after it would leave a blank at the end
                rw [eq_of_cutInner? hword hcut, List.append_nil, Text.BareEnd,
                  List.getLast?_append] at hend
                exact absurd (hend ' ' rfl) (by decide)

/-- The parts of a condition as they are found in its text: in which order they
stand and which separator each of them is free of. -/
structure Shape.Fits (s : Shape) (t : Text) : Prop where
  oneLine : '\n' ∉ t
  key_nonempty : s.key ≠ []
  key_isPrefix : s.key <+: t
  key_free : ¬ (" is " : Text) <:+: s.key.trim
  expected_isInfix : s.expected <:+: t
  expected_free : ¬ (" do " : Text) <:+: s.expected
  met_isInfix : s.met <:+: t
  met_free : ¬ (" else " : Text) <:+: s.met.trim
  unmet_isInfix : ∀ u ∈ s.unmet, u <:+: t

theorem fits_of_shape? {t : Text} {s : Shape} (hend : t.BareEnd) (h : shape? t = some s) :
    s.Fits t := by
  rw [shape?] at h
  split at h
  · cases h
  · rename_i hline
    split at h
    · cases h
    · rename_i key rest hkey
      obtain ⟨_, _, _, _, hkeyCons, _⟩ := exists_of_cutInner? hkey
      have ht := eq_of_cutInner? (by decide) hkey
      have hrest : rest <:+ t := ht ▸ List.suffix_append _ _
      split at h
      · cases h
      · cases h
      · rename_i expected c tail hexpected
        have htail := Text.eq_of_cut? (by decide) hexpected
        have hactions : c :: tail <:+ t :=
          (htail ▸ List.suffix_append _ _ : c :: tail <:+ rest).trans hrest
        obtain ⟨hmetFree, hmet, hunmet⟩ := actions_isInfix (hend.of_isSuffix hactions)
        cases h
        refine
          { oneLine := hline
            key_nonempty := hkeyCons ▸ List.cons_ne_nil _ _
            key_isPrefix := ⟨_, (List.append_assoc _ _ _ ▸ ht).symm⟩
            key_free := not_infix_trim_of_cutInner? (by decide) hkey
            expected_isInfix := ?_
            expected_free := Text.not_infix_of_cut? (by decide) hexpected
            met_isInfix := hmet.trans hactions.isInfix
            met_free := hmetFree
            unmet_isInfix := fun u hu => (hunmet u hu).trans hactions.isInfix }
        have hfront : expected <+: rest := ⟨_, (List.append_assoc _ _ _ ▸ htail).symm⟩
        exact hfront.isInfix.trans hrest.isInfix

/-- Reading a condition is reading the actions of its shape. -/
theorem read_eq_ok_iff {t : Text} {c : Condition} :
    read t = .ok c ↔ ∃ s, shape? t = some s ∧ c.key = s.key.trim ∧ c.expected = s.expected.trim ∧
      Assignment.read s.met.trim = .ok c.met ∧
      Option.Rel (fun u a => Assignment.read u.trim = .ok a) s.unmet c.unmet := by
  obtain ⟨key, expected, met, unmet⟩ := c
  rw [read]
  cases hshape : shape? t with
  | none => simp
  | some s =>
      obtain ⟨key', expected', met', unmet'⟩ := s
      simp only [Option.some.injEq, exists_eq_left']
      cases hmet : Assignment.read met'.trim with
      | error fault => simp [bind, Except.bind]
      | ok a =>
          cases unmet' with
          | none => cases unmet <;> simp [bind, Except.bind, eq_comm]
          | some u =>
              cases hunmet : Assignment.read u.trim <;> cases unmet <;>
                simp [bind, Except.bind, hunmet, eq_comm]

theorem exists_of_read {t : Text} {c : Condition} (h : read t = .ok c) :
    ∃ s, shape? t = some s ∧ c.key = s.key.trim ∧ c.expected = s.expected.trim ∧
      Assignment.read s.met.trim = .ok c.met ∧
      ∀ a ∈ c.unmet, ∃ u ∈ s.unmet, Assignment.read u.trim = .ok a := by
  obtain ⟨s, hshape, hkey, hexpected, hmet, hunmet⟩ := read_eq_ok_iff.mp h
  refine ⟨s, hshape, hkey, hexpected, hmet, fun a ha => ?_⟩
  rw [Option.mem_def.mp ha] at hunmet
  cases hunmet' : s.unmet with
  | none =>
      rw [hunmet'] at hunmet
      cases hunmet
  | some u =>
      rw [hunmet'] at hunmet
      cases hunmet with
      | some hread => exact ⟨u, rfl, hread⟩

theorem infix_of_read {t : Text} {c : Condition} (hend : t.BareEnd) (h : read t = .ok c) :
    ∀ u ∈ c.texts, u <:+: t := by
  obtain ⟨s, hshape, hkey, hexpected, hmet, hunmet⟩ := exists_of_read h
  have hfits := fits_of_shape? hend hshape
  have inside {a : Assignment} {part : Text} (hpart : part <:+: t)
      (ha : Assignment.read part.trim = .ok a) : ∀ u ∈ a.texts, u <:+: t := fun u hu =>
    (Assignment.infix_of_read ha u hu).trans ((Text.trim_isInfix part).trans hpart)
  intro u hu
  simp only [texts, List.mem_cons, List.mem_flatMap, Option.mem_toList] at hu
  rcases hu with rfl | rfl | ⟨a, rfl | ha, hu⟩
  · exact hkey ▸ (Text.trim_isInfix s.key).trans hfits.key_isPrefix.isInfix
  · exact hexpected ▸ (Text.trim_isInfix s.expected).trans hfits.expected_isInfix
  · exact inside hfits.met_isInfix hmet u hu
  · obtain ⟨part, hpart, hread⟩ := hunmet a ha
    exact inside (hfits.unmet_isInfix part hpart) hread u hu

theorem wellFormed_of_read {t : Text} {c : Condition} (ht : t.IsTrimmed) (h : read t = .ok c) :
    c.WellFormed := by
  obtain ⟨s, hshape, hkey, hexpected, hmet, hunmet⟩ := exists_of_read h
  have hfits := fits_of_shape? ht.2 hshape
  constructor
  case oneLine =>
    intro u hu hnewline
    exact hfits.oneLine ((infix_of_read ht.2 h u hu).subset hnewline)
  case key =>
    rw [hkey]
    exact Text.isOperand_trim (Text.trim_ne_nil (ht.1.of_isPrefix hfits.key_isPrefix)
      hfits.key_nonempty)
  case keySeparator => exact hkey ▸ hfits.key_free
  case expected => exact hexpected ▸ Text.isTrimmed_trim s.expected
  case expectedSeparator => exact hexpected ▸ Text.not_infix_trim hfits.expected_free
  case met => exact Assignment.wellFormed_of_read hmet
  case metSeparator =>
    exact fun u hu hin => hfits.met_free (hin.trans (Assignment.infix_of_read hmet u hu))
  case unmet =>
    intro a ha
    obtain ⟨u, _, hread⟩ := hunmet a ha
    exact Assignment.wellFormed_of_read hread

end Condition

end BuildManifest
