import BuildManifest.Text

/-!
Labels of host names written with ASCII characters only: first the ASCII
characters of the label, then numbers that say which others come where.
-/

namespace BuildManifest

namespace HostName

def labelDigit? (c : Char) : Option Nat :=
  if 'a' ≤ c && c ≤ 'z' then some (c.toNat - 'a'.toNat)
  else if c.isDigit then some (c.toNat - '0'.toNat + 26)
  else none

/-- Where the digits of a number of an encoded label end, by its position. -/
def threshold (position bias : Nat) : Nat :=
  min 26 (max 1 (36 * (position + 1) - bias))

/-- Reads one number of an encoded label, least digit first. -/
def number? (bias : Nat) : (position weight : Nat) → Text → Option (Nat × Text)
  | _, _, [] => none
  | position, weight, c :: rest =>
    match labelDigit? c with
    | none => none
    | some d =>
      let t := threshold position bias
      if d < t then some (d * weight, rest)
      else (number? bias (position + 1) (weight * (36 - t)) rest).map fun (n, rest) =>
        (d * weight + n, rest)

/-- Divides a step down until it is small, counting the divisions. -/
def damp : (fuel delta count : Nat) → Nat × Nat
  | 0, delta, count => (delta, count)
  | fuel + 1, delta, count =>
    if delta > 455 then damp fuel (delta / 35) (count + 1) else (delta, count)

def adapt (delta points : Nat) (first : Bool) : Nat :=
  let delta := if first then delta / 700 else delta / 2
  let (delta, count) := damp delta (delta + delta / points) 0
  36 * count + 36 * delta / (delta + 38)

/-- Reads the numbers of an encoded label. Each of them says how far it is, going
over the places of the text again and again with ever later characters, to the
next character to insert. There are at most `fuel` numbers. -/
def insertions? : (fuel : Nat) → (point place bias : Nat) → Text → Text → Option Text
  | _, _, _, _, done, [] => some done
  | 0, _, _, _, _, _ :: _ => none
  | fuel + 1, point, place, bias, done, c :: rest =>
    match number? bias 0 1 (c :: rest) with
    | none => none
    | some (distance, rest) =>
      let size := done.length + 1
      let next := point + (place + distance) / size
      let spot := (place + distance) % size
      if next.isValidChar then
        insertions? fuel next (spot + 1) (adapt distance size (place = 0))
          (done.take spot ++ Char.ofNat next :: done.drop spot) rest
      else none

def decoded? (t : Text) : Option Text :=
  match (t.reverse.dropWhile (· ≠ '-')).reverse, (t.reverse.takeWhile (· ≠ '-')).reverse with
  | [], rest => insertions? rest.length 128 0 72 [] rest
  | plain, rest => insertions? rest.length 128 0 72 plain.dropLast rest

end HostName

end BuildManifest
