import BuildManifest.Text
import Mathlib.Data.List.Induction
import Mathlib.Data.List.TakeWhile

/-!
Texts without blanks at their ends. Trimming gives such a text, changes nothing in one, and
takes away again whatever blanks are put around one.
-/

namespace BuildManifest.Text

/-- The first character, if there is one, is no blank. -/
def BareFront (t : Text) : Prop := ∀ c ∈ t.head?, isBlank c = false

def BareEnd (t : Text) : Prop := ∀ c ∈ t.getLast?, isBlank c = false

def IsTrimmed (t : Text) : Prop := BareFront t ∧ BareEnd t

variable {c : Char} {t u : Text}

theorem bareFront_cons_iff : BareFront (c :: t) ↔ isBlank c = false := by
  simp [BareFront]

theorem BareFront.append (h : t.BareFront) (hne : t ≠ []) (u : Text) : (t ++ u).BareFront := by
  obtain ⟨c, t, rfl⟩ := List.exists_cons_of_ne_nil hne
  exact bareFront_cons_iff.mpr (bareFront_cons_iff.mp h)

theorem BareEnd.append (hu : u.BareEnd) (ht : u = [] → t.BareEnd) : (t ++ u).BareEnd := by
  cases hlast : u.getLast? with
  | none =>
      have hnil : u = [] := List.getLast?_eq_none_iff.mp hlast
      rw [hnil, List.append_nil]
      exact ht hnil
  | some c => rwa [BareEnd, List.getLast?_append, hlast, Option.some_or, ← hlast]

theorem BareEnd.cons (hc : isBlank c = false) (ht : t.BareEnd) : BareEnd (c :: t) :=
  ht.append (t := [c]) fun _ => by simpa [BareEnd] using hc

theorem bareFront_reverse_iff : BareFront t.reverse ↔ t.BareEnd := by
  rw [BareFront, BareEnd, List.head?_reverse]

instance : (t : Text) → Decidable t.BareFront
  | [] => isTrue fun _ hc => nomatch hc
  | _ :: _ => decidable_of_iff _ bareFront_cons_iff.symm

instance (t : Text) : Decidable t.BareEnd := decidable_of_iff _ bareFront_reverse_iff

instance (t : Text) : Decidable t.IsTrimmed := inferInstanceAs (Decidable (_ ∧ _))

theorem trimStart_of_bareFront (h : t.BareFront) : t.trimStart = t := by
  cases t with
  | nil => rfl
  | cons c t => exact List.dropWhile_cons_of_neg (by simp [bareFront_cons_iff.mp h])

theorem trimEnd_of_bareEnd (h : t.BareEnd) : t.trimEnd = t := by
  have hstart := trimStart_of_bareFront (bareFront_reverse_iff.mpr h)
  rw [trimStart] at hstart
  rw [trimEnd, hstart, List.reverse_reverse]

theorem trim_of_isTrimmed (h : t.IsTrimmed) : t.trim = t := by
  rw [trim, trimStart_of_bareFront h.1, trimEnd_of_bareEnd h.2]

theorem bareFront_dropWhile (t : Text) : BareFront (t.dropWhile isBlank) := by
  intro c hc
  have hstop := List.head?_dropWhile_not isBlank t
  rw [Option.mem_def.mp hc] at hstop
  exact hstop

theorem trimStart_isSuffix (t : Text) : t.trimStart <:+ t := List.dropWhile_suffix _

theorem trimEnd_isPrefix (t : Text) : t.trimEnd <+: t := by
  rw [← List.reverse_suffix, trimEnd, List.reverse_reverse]
  exact List.dropWhile_suffix _

theorem trim_isInfix (t : Text) : t.trim <:+: t :=
  (trimEnd_isPrefix _).isInfix.trans (trimStart_isSuffix t).isInfix

theorem trim_isPrefix (h : t.BareFront) : t.trim <+: t := by
  rw [trim, trimStart_of_bareFront h]
  exact trimEnd_isPrefix t

theorem BareFront.of_isPrefix (h : t.BareFront) (hu : u <+: t) : u.BareFront := by
  cases u with
  | nil => simp [BareFront]
  | cons c u =>
      obtain ⟨rest, rfl⟩ := hu
      exact bareFront_cons_iff.mpr (bareFront_cons_iff.mp h)

theorem BareEnd.of_isSuffix (h : t.BareEnd) (hu : u <:+ t) : u.BareEnd := by
  rw [← bareFront_reverse_iff] at h ⊢
  exact h.of_isPrefix (List.reverse_prefix.mpr hu)

theorem isTrimmed_trim (t : Text) : t.trim.IsTrimmed := by
  constructor
  · exact (bareFront_dropWhile t).of_isPrefix (trimEnd_isPrefix t.trimStart)
  · rw [← bareFront_reverse_iff, trim, trimEnd, List.reverse_reverse]
    exact bareFront_dropWhile _

theorem trim_ne_nil (h : t.BareFront) (hne : t ≠ []) : t.trim ≠ [] := by
  obtain ⟨c, t, rfl⟩ := List.exists_cons_of_ne_nil hne
  rw [trim, trimStart_of_bareFront h, trimEnd]
  intro hnil
  have hblank := List.dropWhile_eq_nil_iff.mp (List.reverse_eq_nil_iff.mp hnil) c (by simp)
  rw [bareFront_cons_iff.mp h] at hblank
  cases hblank

theorem trim_cons_of_blank (hc : isBlank c = true) (t : Text) : trim (c :: t) = t.trim := by
  rw [trim, trim, trimStart, List.dropWhile_cons_of_pos hc]
  rfl

theorem trimEnd_concat (hc : isBlank c = true) (t : Text) : trimEnd (t ++ [c]) = t.trimEnd := by
  rw [trimEnd, trimEnd, List.reverse_append, List.reverse_singleton, List.singleton_append,
    List.dropWhile_cons_of_pos hc]

theorem trim_concat (hc : isBlank c = true) (t : Text) : trim (t ++ [c]) = t.trim := by
  rw [trim, trim, trimStart, trimStart, List.dropWhile_append]
  split
  · rename_i hblank
    rw [List.isEmpty_iff.mp hblank, List.dropWhile_cons_of_pos hc, List.dropWhile_nil]
  · exact trimEnd_concat hc _

/-- Trimming takes away no more than the blank that was added. -/
theorem trim_concat_of_blank (hc : isBlank c = true) (ht : t.IsTrimmed) :
    trim (t ++ [c]) = t := by
  rw [trim_concat hc, trim_of_isTrimmed ht]

theorem trim_trimStart (t : Text) : t.trimStart.trim = t.trim := by
  have hstart : t.trimStart.trimStart = t.trimStart :=
    trimStart_of_bareFront (bareFront_dropWhile t)
  rw [trim, hstart, trim]

theorem trim_trimEnd (t : Text) : t.trimEnd.trim = t.trim := by
  induction t using List.reverseRecOn with
  | nil => rfl
  | append_singleton t c ih =>
      by_cases hc : isBlank c = true
      · rw [trimEnd_concat hc, trim_concat hc, ih]
      · rw [trimEnd_of_bareEnd (by simpa [BareEnd] using hc)]

/-- Blanks are looked for no further than a character that is none. -/
theorem dropWhile_append_cons (hc : isBlank c = false) (t u : Text) :
    (t ++ c :: u).dropWhile isBlank = t.dropWhile isBlank ++ c :: u := by
  rw [List.dropWhile_append]
  split
  · rename_i hblank
    rw [List.isEmpty_iff.mp hblank, List.dropWhile_cons_of_neg (by simp [hc]), List.nil_append]
  · rfl

theorem trimEnd_append_cons (hc : isBlank c = false) (t u : Text) :
    trimEnd (t ++ c :: u) = t ++ c :: u.trimEnd := by
  rw [trimEnd, List.reverse_append, List.reverse_cons, List.append_assoc, List.singleton_append,
    dropWhile_append_cons hc, List.reverse_append, List.reverse_cons, List.reverse_reverse,
    List.append_assoc, List.singleton_append]
  rfl

/-- Trimming does not reach over a character that is no blank. -/
theorem trim_append_cons (hc : isBlank c = false) (t u : Text) :
    trim (t ++ c :: u) = t.trimStart ++ c :: u.trimEnd := by
  rw [trim, trimStart, dropWhile_append_cons hc, trimEnd_append_cons hc]
  rfl

end BuildManifest.Text
