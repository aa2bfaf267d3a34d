import BuildManifest.Text

/-!
Tables of code points, written as rows of runs in hexadecimal digits. A run is
`first`, `first-last` or `first-last/step`, and `=` and numbers joined by `+` give
it a value.
-/

namespace BuildManifest

namespace CodePoints

/-- Every `step`-th code point from the first to the last. -/
structure Run where
  first : Nat
  last : Nat
  step : Nat
  value : List Nat
  deriving DecidableEq, Repr

abbrev Table := List Run

def digitValue (c : Char) : Nat :=
  if c.isDigit then c.toNat - '0'.toNat else c.toNat - 'A'.toNat + 10

def number (digits : Text) : Nat := digits.foldl (fun n c => 16 * n + digitValue c) 0

/-- The parts before and after a separator; without one the second is empty. -/
def halves (separator : Char) (t : Text) : Text × Text :=
  (t.takeWhile (· ≠ separator), (t.dropWhile (· ≠ separator)).drop 1)

def Run.ofText (t : Text) : Run :=
  let (place, value) := halves '=' t
  let (span, step) := halves '/' place
  let (first, last) := halves '-' span
  ⟨number first, if last.isEmpty then number first else number last,
    if step.isEmpty then 1 else number step,
    if value.isEmpty then [] else (Text.pieces '+' value).map number⟩

def Table.ofRows (rows : List String) : Table :=
  rows.flatMap fun row => (Text.pieces ' ' row.toList).map Run.ofText

def Run.covers (r : Run) (n : Nat) : Bool :=
  r.first ≤ n && n ≤ r.last && (n - r.first) % r.step = 0

def Table.run? (t : Table) (c : Char) : Option Run := t.find? (·.covers c.toNat)

def Table.has (t : Table) (c : Char) : Bool := t.any (·.covers c.toNat)

/-- The text that a run turns a character into: its value is the text of its
first code point, and the others go along with it. -/
def Run.image (r : Run) (c : Char) : Text :=
  r.value.map fun n => Char.ofNat (n + (c.toNat - r.first))

end CodePoints

end BuildManifest
