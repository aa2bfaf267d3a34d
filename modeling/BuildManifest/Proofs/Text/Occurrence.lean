import BuildManifest.Text

/-!
Where a word occurs in a text. `after?` finds it at the front, `cut?` and `has`
find it anywhere, and `replace` goes from occurrence to occurrence. Each of them
is described by the prefix and infix relations on lists, so that later proofs
reason about lists and not about the search.
-/

namespace BuildManifest.Text

theorem after?_eq_some_iff (lead t rest : Text) :
    after? lead t = some rest ↔ t = lead ++ rest := by
  induction lead generalizing t with
  | nil => simp [after?, eq_comm]
  | cons l ls ih =>
      cases t with
      | nil => simp [after?]
      | cons c t =>
          by_cases h : l = c
          · subst h
            simp [after?, ih]
          · simp [after?, h, Ne.symm h]

theorem isSome_after?_iff (lead t : Text) : (after? lead t).isSome ↔ lead <+: t := by
  rw [Option.isSome_iff_exists]
  constructor
  · rintro ⟨rest, h⟩
    exact ⟨rest, ((after?_eq_some_iff _ _ _).mp h).symm⟩
  · rintro ⟨rest, h⟩
    exact ⟨rest, (after?_eq_some_iff _ _ _).mpr h.symm⟩

theorem has_iff (t part : Text) : t.has part ↔ part <:+: t := by
  simp only [has]
  induction t with
  | nil =>
      cases part with
      | nil => simp [cut?, after?]
      | cons p ps => simp [cut?, after?]
  | cons c t ih =>
      rw [List.infix_cons_iff, ← ih, ← isSome_after?_iff, cut?]
      cases after? part (c :: t) with
      | none => simp
      | some rest => simp

/-- A word does not begin in a stretch without its first character. -/
theorem infix_of_infix_append {w : Char} {ws before t : Text} (hbefore : w ∉ before)
    (h : (w :: ws) <:+: before ++ t) : (w :: ws) <:+: t := by
  induction before with
  | nil => exact h
  | cons c before ih =>
      rcases List.infix_cons_iff.mp h with hfront | hlater
      · have hc : w = c := (List.cons_prefix_cons.mp hfront).1
        exact absurd (hc ▸ List.mem_cons_self) hbefore
      · exact ih (fun hmem => hbefore (List.mem_cons_of_mem c hmem)) hlater

/-- The characters that belong to a word already replaced are passed over. -/
theorem replaceFrom_append (word value passed t : Text) :
    replaceFrom word value passed.length (passed ++ t) = replaceFrom word value 0 t := by
  induction passed with
  | nil => rfl
  | cons c passed ih => exact ih

theorem replace_append (word value t : Text) (hword : word ≠ []) :
    (word ++ t).replace word value = value ++ t.replace word value := by
  cases word with
  | nil => exact absurd rfl hword
  | cons w ws =>
      have hfront : (after? (w :: ws) (w :: (ws ++ t))).isSome := by
        rw [isSome_after?_iff]
        exact List.prefix_append (w :: ws) t
      simp only [replace, List.cons_append, replaceFrom, hfront, if_true, List.length_cons,
        Nat.add_sub_cancel]
      rw [replaceFrom_append]

theorem replace_cons (word value : Text) (c : Char) (t : Text) (h : ¬ word <+: c :: t) :
    Text.replace (c :: t) word value = c :: t.replace word value := by
  have hfront : (after? word (c :: t)).isSome = false := by
    rw [Bool.eq_false_iff, ne_eq, isSome_after?_iff]
    exact h
  simp only [replace, replaceFrom, hfront, Bool.false_eq_true, if_false]

/-- A text in which the word does not occur stays as it is. -/
theorem replace_of_not_infix {word t : Text} (h : ¬ word <:+: t) (value : Text) :
    t.replace word value = t := by
  induction t with
  | nil => rfl
  | cons c t ih =>
      rw [List.infix_cons_iff, not_or] at h
      rw [replace_cons word value c t h.1, ih h.2]

/-- A stretch in which no occurrence of the word begins stays as it is. -/
theorem replace_append_of_not_begun {word before t : Text} (value : Text)
    (h : ∀ u, u <:+ before → u ≠ [] → ¬ word <+: u ++ t) :
    (before ++ t).replace word value = before ++ t.replace word value := by
  induction before with
  | nil => rfl
  | cons c before ih =>
      have hfront : ¬ word <+: c :: (before ++ t) :=
        h (c :: before) (List.suffix_refl _) (List.cons_ne_nil c before)
      have hlater := ih fun u hu => h u (hu.trans (List.suffix_cons c before))
      rw [List.cons_append, replace_cons _ _ _ _ hfront, hlater, List.cons_append]

/-- In particular a stretch without the first character of the word. -/
theorem replace_append_of_not_mem (w : Char) (ws value before t : Text) (h : w ∉ before) :
    (before ++ t).replace (w :: ws) value = before ++ t.replace (w :: ws) value := by
  refine replace_append_of_not_begun value fun u hu hne hbegins => ?_
  obtain ⟨c, u, rfl⟩ := List.exists_cons_of_ne_nil hne
  obtain ⟨rfl, -⟩ := List.cons_prefix_cons.mp hbegins
  exact h (hu.subset List.mem_cons_self)

end BuildManifest.Text
