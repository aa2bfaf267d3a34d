import BuildManifest.Proofs.Text.Occurrence
import BuildManifest.Proofs.Text.Pieces
import Mathlib.Data.List.Infix
import Mathlib.Tactic.ByContra

/-!
Cutting a text at the first occurrence of a word. A cut found is the first one
exactly if the word does not occur in what stands before the end of that
occurrence. A guard, a character that the word does not have, keeps an occurrence
from reaching over it; so a text with a guard behind it can be followed by the
word without the word being found any earlier.
-/

namespace BuildManifest.Text

variable {word t u l r : Text} {guard : Char}

theorem not_infix_dropLast (hword : word ≠ []) : ¬ word <:+: word.dropLast := by
  intro h
  have hlength := h.length_le
  have hpos : 0 < word.length := List.length_pos_iff.mpr hword
  rw [List.length_dropLast] at hlength
  omega

/-- An occurrence at the front of a text is already in the text up to the end of
any later one. -/
theorem prefix_up_to_later (hword : word ≠ []) {c : Char}
    (h : word <+: c :: (l ++ word ++ r)) : word <+: c :: (l ++ word.dropLast) := by
  refine List.prefix_of_prefix_length_le h ?_ ?_
  · rw [← List.cons_append, ← List.cons_append, ← List.cons_append, List.append_assoc,
      List.prefix_append_right_inj]
    exact (List.dropLast_prefix word).trans (List.prefix_append word r)
  · have hpos : 0 < word.length := List.length_pos_iff.mpr hword
    simp only [List.length_cons, List.length_append, List.length_dropLast]
    omega

theorem cut?_eq_some_iff (hword : word ≠ []) :
    cut? word t = some (l, r) ↔ t = l ++ word ++ r ∧ ¬ word <:+: l ++ word.dropLast := by
  induction t generalizing l with
  | nil =>
      obtain ⟨w, word, rfl⟩ := List.exists_cons_of_ne_nil hword
      simp [cut?, after?]
  | cons c t ih =>
      cases hfront : after? word (c :: t) with
      | some rest =>
          have ht : c :: t = word ++ rest := (after?_eq_some_iff word (c :: t) rest).mp hfront
          simp only [cut?, hfront, Option.some.injEq, Prod.mk.injEq]
          constructor
          · rintro ⟨rfl, rfl⟩
            exact ⟨ht, not_infix_dropLast hword⟩
          · rintro ⟨hparts, hfirst⟩
            cases l with
            | nil => exact ⟨rfl, List.append_cancel_left (ht.symm.trans hparts)⟩
            | cons d l =>
                have hprefix : word <+: d :: (l ++ word ++ r) := ⟨rest, ht.symm.trans hparts⟩
                exact absurd (prefix_up_to_later hword hprefix).isInfix hfirst
      | none =>
          have hnot : ¬ word <+: c :: t := by
            rw [← isSome_after?_iff, hfront]
            simp
          cases l with
          | nil =>
              simp only [cut?, hfront, Option.map_eq_some_iff, List.nil_append]
              constructor
              · rintro ⟨_, _, heq⟩
                cases heq
              · rintro ⟨hparts, _⟩
                exact absurd ⟨r, hparts.symm⟩ hnot
          | cons d l =>
              have hmap : cut? word (c :: t) = some (d :: l, r) ↔
                  c = d ∧ cut? word t = some (l, r) := by
                simp [cut?, hfront, Option.map_eq_some_iff, and_comm]
              rw [hmap, ih, List.cons_append, List.cons_append, List.cons_append,
                List.cons.injEq, List.infix_cons_iff, not_or, and_assoc]
              refine and_congr_right fun hc => and_congr_right fun ht => ?_
              subst hc
              refine (and_iff_right fun hearlier => hnot ?_).symm
              rw [ht, List.append_assoc]
              refine hearlier.trans ?_
              rw [← List.cons_append, ← List.cons_append, List.prefix_append_right_inj]
              exact (List.dropLast_prefix word).trans (List.prefix_append word r)

theorem cut?_eq_none_iff : cut? word t = none ↔ ¬ word <:+: t := by
  rw [← has_iff, has, Option.not_isSome_iff_eq_none]

theorem cut?_singleton_eq_some_iff {c : Char} :
    cut? [c] t = some (l, r) ↔ t = l ++ c :: r ∧ c ∉ l := by
  rw [cut?_eq_some_iff (List.cons_ne_nil c []), List.append_assoc, List.singleton_append,
    List.dropLast_singleton, List.append_nil, List.singleton_infix_iff]

/-- What stands before the first occurrence does not hold another one. -/
theorem not_infix_of_cut? (hword : word ≠ []) (h : cut? word t = some (l, r)) :
    ¬ word <:+: l := fun hin =>
  ((cut?_eq_some_iff hword).mp h).2 (hin.trans (List.prefix_append l _).isInfix)

theorem eq_of_cut? (hword : word ≠ []) (h : cut? word t = some (l, r)) : t = l ++ word ++ r :=
  ((cut?_eq_some_iff hword).mp h).1

/-- A word that begins before a guard ends before it. -/
theorem prefix_of_prefix_guard (hguard : guard ∉ word) (h : word <+: t ++ guard :: u) :
    word <+: t := by
  refine List.prefix_of_prefix_length_le h (List.prefix_append t _) ?_
  by_contra hlong
  have hlength : (t ++ [guard]).length ≤ word.length := by
    simp only [List.length_append, List.length_singleton]
    omega
  have hover : t ++ [guard] <+: word :=
    List.prefix_of_prefix_length_le ⟨u, by simp⟩ h hlength
  exact hguard (hover.subset (by simp))

theorem infix_of_infix_guard (hword : word ≠ []) (hguard : guard ∉ word)
    (h : word <:+: t ++ guard :: u) : word <:+: t ∨ word <:+: u := by
  induction t with
  | nil =>
      rcases List.infix_cons_iff.mp h with hfront | hlater
      · have hnil := prefix_of_prefix_guard (t := []) hguard hfront
        exact absurd (List.prefix_nil.mp hnil) hword
      · exact .inr hlater
  | cons c t ih =>
      rcases List.infix_cons_iff.mp h with hfront | hlater
      · exact .inl (prefix_of_prefix_guard hguard hfront).isInfix
      · exact (ih hlater).imp_left fun ht => List.infix_cons_iff.mpr (.inr ht)

theorem cut?_guarded (hword : word ≠ []) (hguard : guard ∉ word) (ht : ¬ word <:+: t)
    (u : Text) : cut? word (t ++ guard :: (word ++ u)) = some (t ++ [guard], u) := by
  rw [cut?_eq_some_iff hword]
  refine ⟨by simp, ?_⟩
  rw [List.append_assoc, List.singleton_append]
  intro h
  rcases infix_of_infix_guard hword hguard h with hbefore | hlater
  · exact ht hbefore
  · exact not_infix_dropLast hword hlater

theorem not_mem_of_mem_pieces (sep : Char) (t : Text) : ∀ p ∈ pieces sep t, sep ∉ p := by
  induction t with
  | nil => simp [pieces]
  | cons c t ih =>
      obtain ⟨first, others, hpieces⟩ := List.exists_cons_of_ne_nil (pieces_ne_nil sep t)
      rw [hpieces, List.forall_mem_cons] at ih
      by_cases hc : c = sep
      · simpa [pieces, hc, hpieces] using ih
      · simpa [pieces, hc, hpieces, Ne.symm hc] using ih

theorem pieces_joined (sep : Char) (parts : List Text) (hne : parts ≠ [])
    (h : ∀ p ∈ parts, sep ∉ p) : pieces sep (joined [sep] parts) = parts := by
  induction parts with
  | nil => exact absurd rfl hne
  | cons p parts ih =>
      rw [List.forall_mem_cons] at h
      cases parts with
      | nil => exact pieces_of_not_mem sep p h.1
      | cons q parts =>
          rw [joined, List.append_assoc, List.singleton_append, pieces_append,
            pieces_of_not_mem sep p h.1, ih (by simp) h.2, List.singleton_append]

end BuildManifest.Text
