import BuildManifest.Text

/-!
How much two words resemble each other. A letter of the first word is matched by
the first free equal letter of the second that stands not too far away; the
measure is the mean of three shares: matched letters of the first word, matched
letters of the second, and matched letters that come in the same order.
-/

namespace BuildManifest

namespace Text

/-- A letter of a word and whether it has been matched. -/
abbrev Slot := Char × Bool

/-- Takes the first free letter equal to `c` after `skip` letters, among the
first `room` letters of the word. -/
def takeLetter (c : Char) : (skip room : Nat) → List Slot → Option (List Slot)
  | _, _, [] => none
  | _, 0, _ :: _ => none
  | skip + 1, room + 1, s :: rest => (takeLetter c skip room rest).map (s :: ·)
  | 0, room + 1, (d, taken) :: rest =>
    if c = d && !taken then some ((d, true) :: rest)
    else (takeLetter c 0 room rest).map ((d, taken) :: ·)

/-- The matched letters of the first word, from place `i` on, and the letters of
the second word. -/
def matchLetters (reach : Nat) : (i : Nat) → Text → List Slot → Text × List Slot
  | _, [], slots => ([], slots)
  | i, c :: rest, slots =>
    match takeLetter c (i - reach) (i + reach + 1) slots with
    | some slots =>
      let (matched, slots) := matchLetters reach (i + 1) rest slots
      (c :: matched, slots)
    | none => matchLetters reach (i + 1) rest slots

/-- The resemblance of two words as a numerator and a denominator. -/
def resemblance (t u : Text) : Nat × Nat :=
  let reach := max t.length u.length / 2 - 1
  let (left, slots) := matchLetters reach 0 t (u.map fun c => (c, false))
  let right := (slots.filter Prod.snd).map Prod.fst
  let m := left.length
  if m = 0 then (0, 1)
  else
    let moved := ((left.zip right).filter fun (c, d) => c ≠ d).length / 2
    (m * m * u.length + m * m * t.length + (m - moved) * t.length * u.length,
      3 * m * t.length * u.length)

def fractionLe (a b : Nat × Nat) : Bool := a.1 * b.2 ≤ b.1 * a.2

/-- The last of the words that resemble `t` most, if any does by seven tenths. -/
def mostSimilar? (t : Text) (words : List Text) : Option Text :=
  (words.foldl (fun best w =>
    let r := resemblance t w
    if fractionLe best.1 r then (r, some w) else best) ((7, 10), none)).2

end Text

end BuildManifest
