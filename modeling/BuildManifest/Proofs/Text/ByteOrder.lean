import BuildManifest.Text
import Mathlib.Tactic.SplitIfs

/-!
The order of texts by their characters is the order by the bytes of their UTF-8
form. A character with a smaller code has a form that is smaller at the first
byte in which the two forms differ, and neither form begins the other.
-/

namespace BuildManifest.Text

/-- The first text comes before the second one by their bytes. -/
def Before (t u : Text) : Prop := t.bytes < u.bytes

/-- Byte lists compare by the numbers of their first bytes, and by the rest if these are equal. -/
theorem cons_ofNat_lt {a b : Nat} {l m : List UInt8} (ha : a < 256) (hb : b < 256) (hle : a ≤ b)
    (htail : a = b → l < m) : UInt8.ofNat a :: l < UInt8.ofNat b :: m := by
  rw [List.cons_lt_cons_iff]
  rcases Nat.lt_or_eq_of_le hle with hlt | heq
  · left
    rw [UInt8.lt_iff_toNat_lt, UInt8.toNat_ofNat', UInt8.toNat_ofNat',
      Nat.mod_eq_of_lt ha, Nat.mod_eq_of_lt hb]
    exact hlt
  · exact Or.inr ⟨congrArg UInt8.ofNat heq, htail heq⟩

/-- The byte that decides comes before the shorter of two forms ends. -/
theorem encode_append_lt {c d : Char} (h : c.toNat < d.toNat) (l m : List UInt8) :
    String.utf8EncodeChar c ++ l < String.utf8EncodeChar d ++ m := by
  have hc : c.val.toNat < d.val.toNat := h
  have hd : d.val.toNat < 0x110000 := by
    rcases d.valid with hlow | hhigh
    · exact Nat.lt_trans hlow (by decide)
    · exact hhigh.2
  simp only [String.utf8EncodeChar]
  split_ifs <;> simp only [List.cons_append, List.nil_append] <;>
    repeat' first
      | (exfalso; omega)
      | refine cons_ofNat_lt (by omega) (by omega) (by omega) fun _ => ?_

theorem bytes_cons (c : Char) (t : Text) :
    Text.bytes (c :: t) = String.utf8EncodeChar c ++ t.bytes :=
  List.flatMap_cons

/-- The order by characters is the one by bytes. -/
theorem before_of_le {t u : Text} (hle : le t u = true) (hne : t ≠ u) : Before t u := by
  induction t generalizing u with
  | nil =>
      cases u with
      | nil => exact absurd rfl hne
      | cons d u =>
          obtain ⟨b, bs, hencode⟩ := List.exists_cons_of_ne_nil (String.utf8EncodeChar_ne_nil (c := d))
          rw [Before, bytes_cons, hencode]
          exact List.nil_lt_cons b _
  | cons c t ih =>
      cases u with
      | nil => cases hle
      | cons d u =>
          rw [Before, bytes_cons, bytes_cons]
          by_cases hcd : c = d
          · subst hcd
            have htail : le t u = true := by simpa [le] using hle
            exact List.append_left_lt (ih htail fun heq => hne (by rw [heq]))
          · have hcode : c.toNat < d.toNat := by simpa [le, hcd] using hle
            exact encode_append_lt hcode _ _

theorem le_total (t u : Text) : le t u = true ∨ le u t = true := by
  induction t generalizing u with
  | nil => exact Or.inl rfl
  | cons c t ih =>
      cases u with
      | nil => exact Or.inr rfl
      | cons d u =>
          by_cases hcd : c = d
          · subst hcd
            simpa [le] using ih u
          · have hcode : c.toNat ≠ d.toNat := fun heq => hcd (Char.toNat_inj.mp heq)
            have hdc : ¬ d = c := fun heq => hcd heq.symm
            simp only [le, if_neg hcd, if_neg hdc, decide_eq_true_eq]
            omega

theorem before_irrefl (t : Text) : ¬ Before t t := List.lt_irrefl _

theorem Before.trans {t u w : Text} (htu : Before t u) (huw : Before u w) : Before t w :=
  List.lt_trans htu huw

end BuildManifest.Text
