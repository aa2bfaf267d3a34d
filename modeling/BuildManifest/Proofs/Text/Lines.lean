import BuildManifest.Proofs.Text.Pieces
import BuildManifest.Proofs.Text.Trimming

/-!
The lines of a text one after the other. A text is a last line that no newline ends, or a line
with its newline and then a text, and what is proved for these two forms holds of every text.
-/

namespace BuildManifest.Text

variable {l t rest : Text} {k : Nat}

/-- A text is a line without a newline, or such a line, a newline and another text. -/
@[elab_as_elim]
theorem induction_lines {motive : Text → Prop} (last : ∀ t, '\n' ∉ t → motive t)
    (line : ∀ l rest, '\n' ∉ l → motive rest → motive (l ++ '\n' :: rest)) (t : Text) :
    motive t :=
  induction_pieces '\n' last line t

theorem lines_of_not_mem (h : '\n' ∉ t) : lines t = if t = [] then [] else [t] := by
  rw [lines, pieces_of_not_mem '\n' t h, linesOfPieces]

/-- The first line goes up to the first newline. -/
theorem lines_append_newline (h : '\n' ∉ l) :
    lines (l ++ '\n' :: rest) = dropReturn l :: lines rest := by
  obtain ⟨first, others, hpieces⟩ := List.exists_cons_of_ne_nil (pieces_ne_nil '\n' rest)
  rw [lines, lines, pieces_append, pieces_of_not_mem '\n' l h, hpieces, List.singleton_append,
    linesOfPieces]

/-- The text up to the newline that ends the line of this number, counted from one. -/
def firstLines : Nat → Text → Text
  | 0, _ => []
  | _ + 1, [] => []
  | k + 1, c :: t => if c = '\n' then c :: firstLines k t else c :: firstLines (k + 1) t

theorem firstLines_zero (t : Text) : firstLines 0 t = [] := by
  cases t <;> rfl

theorem firstLines_of_not_mem (h : '\n' ∉ t) : firstLines (k + 1) t = t := by
  induction t with
  | nil => rfl
  | cons c t ih =>
      rw [List.mem_cons, not_or] at h
      rw [firstLines, if_neg (Ne.symm h.1), ih h.2]

theorem firstLines_append_newline (h : '\n' ∉ l) :
    firstLines (k + 1) (l ++ '\n' :: rest) = l ++ '\n' :: firstLines k rest := by
  induction l with
  | nil => rfl
  | cons c l ih =>
      rw [List.mem_cons, not_or] at h
      rw [List.cons_append, firstLines, if_neg (Ne.symm h.1), ih h.2, List.cons_append]

/-- The lines of the front of a text are the first ones of the text. -/
theorem lines_firstLines (k : Nat) (t : Text) : lines (firstLines k t) = (lines t).take k := by
  induction t using induction_lines generalizing k with
  | last t h =>
      cases k with
      | zero => rw [firstLines_zero, List.take_zero]; rfl
      | succ k =>
          rw [firstLines_of_not_mem h, lines_of_not_mem h]
          split <;> simp
  | line l rest h ih =>
      cases k with
      | zero => rw [firstLines_zero, List.take_zero]; rfl
      | succ k =>
          rw [firstLines_append_newline h, lines_append_newline h, lines_append_newline h, ih,
            List.take_succ_cons]

theorem trim_dropReturn (t : Text) : (dropReturn t).trim = t.trim := by
  rw [dropReturn]
  split
  · rename_i hreturn
    have hne : t ≠ [] := fun h => by simp [h] at hreturn
    have hlast : t.dropLast ++ ['\r'] = t := by
      rw [List.getLast?_eq_some_getLast hne] at hreturn
      rw [← Option.some.inj hreturn]
      exact List.dropLast_concat_getLast hne
    rw [← trim_concat (show isBlank '\r' = true from rfl) t.dropLast, hlast]
  · rfl

end BuildManifest.Text
