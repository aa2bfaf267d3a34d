import BuildManifest.Text

/-!
Cutting a text at a character. Two texts with the character between them have
the pieces of the first and then those of the second; so a name without slashes
that is put behind a path is the last of its pieces.
-/

namespace BuildManifest.Text

theorem pieces_ne_nil (sep : Char) (t : Text) : pieces sep t ≠ [] := by
  cases t with
  | nil => simp [pieces]
  | cons c t =>
      simp only [pieces]
      split
      · simp
      · split <;> simp

theorem pieces_append (sep : Char) (t u : Text) :
    pieces sep (t ++ sep :: u) = pieces sep t ++ pieces sep u := by
  induction t with
  | nil => simp [pieces]
  | cons c t ih =>
      by_cases hc : c = sep
      · simp [pieces, hc, ih]
      · obtain ⟨first, others, hpieces⟩ := List.exists_cons_of_ne_nil (pieces_ne_nil sep t)
        simp [pieces, hc, ih, hpieces]

theorem pieces_of_not_mem (sep : Char) (t : Text) (h : sep ∉ t) : pieces sep t = [t] := by
  induction t with
  | nil => rfl
  | cons c t ih =>
      have hc : ¬ c = sep := fun heq => h (heq ▸ List.mem_cons_self)
      have ht : sep ∉ t := fun hmem => h (List.mem_cons_of_mem c hmem)
      simp [pieces, hc, ih ht]

/-- A text is a piece that nothing ends, or a piece with the separator and then a text. -/
@[elab_as_elim]
theorem induction_pieces (sep : Char) {motive : Text → Prop} (last : ∀ t, sep ∉ t → motive t)
    (piece : ∀ l rest, sep ∉ l → motive rest → motive (l ++ sep :: rest)) (t : Text) :
    motive t := by
  induction hlength : t.length using Nat.strongRecOn generalizing t with
  | ind n ih =>
      by_cases hsep : sep ∈ t
      · obtain ⟨l, rest, rfl, hl⟩ := List.eq_append_cons_of_mem hsep
        have hshorter : rest.length < n := by
          simp only [List.length_append, List.length_cons] at hlength
          omega
        exact piece l rest hl (ih rest.length hshorter rest rfl)
      · exact last t hsep

theorem byteLength_append (t u : Text) : byteLength (t ++ u) = byteLength t + byteLength u := by
  induction t with
  | nil => simp [byteLength]
  | cons c t ih => simp [byteLength, ih, Nat.add_assoc]

theorem byteLength_pos {t : Text} (h : t ≠ []) : 0 < byteLength t := by
  cases t with
  | nil => exact absurd rfl h
  | cons c t =>
      have hsize : 0 < c.utf8Size := c.utf8Size_pos
      simp only [byteLength]
      omega

/-- A front that is no shorter is all there is. -/
theorem eq_of_prefix_of_byteLength {t u : Text} (h : u <+: t)
    (hlength : byteLength t ≤ byteLength u) : u = t := by
  obtain ⟨rest, rfl⟩ := h
  cases rest with
  | nil => rw [List.append_nil]
  | cons c rest =>
      have hpos : 0 < byteLength (c :: rest) := byteLength_pos (List.cons_ne_nil c rest)
      rw [byteLength_append] at hlength
      omega

end BuildManifest.Text
