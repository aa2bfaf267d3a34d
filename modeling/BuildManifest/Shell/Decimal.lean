import BuildManifest.Shell.Sum

/-!
Numbers with a point, to and from decimal digits. A number is taken apart into an
integer and a power of two, so that rounding to a place is exact; a half goes to
the even neighbour.
-/

namespace BuildManifest

namespace Shell

namespace Decimal

/-- The nearest integer to a quotient; a half goes to the even one. -/
def roundedQuotient (n d : Nat) : Nat :=
  let q := n / d
  let r := 2 * (n % d)
  if r < d || (r = d && q % 2 = 0) then q else q + 1

/-- The size of a finite number as a quotient. -/
def quotient (x : Float) : Nat × Nat :=
  let bits := x.toBits.toNat
  let fraction := bits % Nat.pow 2 52
  let exponent := bits / Nat.pow 2 52 % 2048
  let m := if exponent = 0 then fraction else fraction + Nat.pow 2 52
  let e := if exponent = 0 then 1 else exponent
  if e ≥ 1075 then (m * Nat.pow 2 (e - 1075), 1) else (m, Nat.pow 2 (1075 - e))

def isNegative (x : Float) : Bool := x.toBits.toNat ≥ Nat.pow 2 63

def digits (n : Nat) : Text := Nat.toDigits 10 n

/-- Digits with a point so many places from their end. -/
def pointed (places : Nat) (withPoint : Bool) (n : Nat) : Text :=
  let t := digits n
  let t := List.replicate (places + 1 - t.length) '0' ++ t
  let whole := t.take (t.length - places)
  if places = 0 then (if withPoint then whole ++ ['.'] else whole)
  else whole ++ '.' :: t.drop (t.length - places)

def fixed (places : Nat) (withPoint : Bool) (x : Float) : Text :=
  let (n, d) := quotient x
  pointed places withPoint (roundedQuotient (n * Nat.pow 10 places) d)

/-- A quotient times a power of ten, rounded. -/
def scaled (n d : Nat) (power : Int) : Nat :=
  if power ≥ 0 then roundedQuotient (n * Nat.pow 10 power.toNat) d
  else roundedQuotient n (d * Nat.pow 10 (-power).toNat)

/-- The significant digits, one more than `places`, and the exponent of the first
of them. -/
def significant (places : Nat) (x : Float) : Nat × Int :=
  let (n, d) := quotient x
  if n = 0 then (0, 0)
  else
    let guess : Int := ((digits n).length : Int) - (digits d).length
    let isLess : Bool :=
      if guess ≥ 0 then n < d * Nat.pow 10 guess.toNat
      else n * Nat.pow 10 (-guess).toNat < d
    let exponent := if isLess then guess - 1 else guess
    let m := scaled n d (places - exponent)
    if m ≥ Nat.pow 10 (places + 1) then (m / 10, exponent + 1) else (m, exponent)

def exponentText (e : Int) : Text :=
  let t := digits e.natAbs
  (if e < 0 then '-' else '+') :: (if t.length < 2 then '0' :: t else t)

def scientific (places : Nat) (withPoint : Bool) (x : Float) : Text :=
  let (m, e) := significant places x
  pointed places withPoint m ++ 'e' :: exponentText e

/-- A number without zeros at the end of its places. -/
def withoutZeros (t : Text) : Text :=
  let mantissa := t.takeWhile (· ≠ 'e')
  let rest := t.drop mantissa.length
  if mantissa.contains '.' then
    let core := (mantissa.reverse.dropWhile (· = '0')).reverse
    (if core.getLast? = some '.' then core.dropLast else core) ++ rest
  else t

/-- So many significant digits, in whichever of the two ways is shorter. -/
def general (precision : Nat) (keepsZeros : Bool) (x : Float) : Text :=
  let p := if precision = 0 then 1 else precision
  let (_, e) := significant (p - 1) x
  let t :=
    if -4 ≤ e && e < (p : Int) then fixed ((p : Int) - 1 - e).toNat keepsZeros x
    else scientific (p - 1) keepsZeros x
  if keepsZeros then t else withoutZeros t

/-- Reads the digits of a number without a sign: their value, how many stand
after the point, and what follows. -/
def readDigits? (t : Text) : Option (Nat × Nat × Text) :=
  let whole := t.takeWhile Char.isDigit
  let rest := t.drop whole.length
  let (fraction, rest) := match rest with
    | '.' :: more => (more.takeWhile Char.isDigit, more.dropWhile Char.isDigit)
    | _ => ([], rest)
  if whole.isEmpty && fraction.isEmpty then none
  else some ((digitsOf (whole ++ fraction)).1, fraction.length, rest)

def readExponent (t : Text) : Int × Text :=
  match t with
  | e :: rest =>
    if e = 'e' || e = 'E' then
      let (negative, body) := match rest with
        | '-' :: more => (true, more)
        | '+' :: more => (false, more)
        | more => (false, more)
      if body.head?.any Char.isDigit then
        let (n, after) := digitsOf body
        let n := min n 5000
        (if negative then -(n : Int) else n, after)
      else (0, t)
    else (0, t)
  | [] => (0, [])

def readSize? (t : Text) : Option (Float × Text) :=
  let lower := t.map Char.toLower
  let named (name : Text) (value : Float) : Option (Float × Text) :=
    (Text.after? name lower).map fun _ => (value, t.drop name.length)
  match lower with
  | '0' :: 'x' :: d :: _ =>
    if isHexDigit d then
      let digits := (t.drop 2).takeWhile isHexDigit
      some (Float.ofNat (valueIn 16 digits), t.drop (2 + digits.length))
    else some (0, t.drop 1)
  | _ =>
    match readDigits? t with
    | some (n, places, rest) =>
      let (e, rest) := readExponent rest
      let e := e - places
      some (Float.ofScientific n (e < 0) e.natAbs, rest)
    | none =>
      ((named "infinity" (1.0 / 0.0)).orElse fun _ => named "inf" (1.0 / 0.0)).orElse fun _ =>
        named "nan" (0.0 / 0.0)

/-- Reads a number after blanks and a sign. -/
def read? (t : Text) : Option (Float × Text) :=
  match t.dropWhile isSpace with
  | '-' :: rest => (readSize? rest).map fun (x, after) => (-x, after)
  | '+' :: rest => readSize? rest
  | rest => readSize? rest

end Decimal

end Shell

end BuildManifest
