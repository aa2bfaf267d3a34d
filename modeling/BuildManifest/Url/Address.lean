import BuildManifest.Url.Fault

/-!
Numeric addresses in a url. A host whose last part is a number has to be an IPv4
address of up to four decimal, octal or hexadecimal parts, the last of which
fills the bytes that are missing. An IPv6 address stands in brackets.
-/

namespace BuildManifest

namespace Url

def digitValue? (c : Char) : Option Nat :=
  if c.isDigit then some (c.toNat - '0'.toNat)
  else if 'a' ≤ c && c ≤ 'f' then some (c.toNat - 'a'.toNat + 10)
  else if 'A' ≤ c && c ≤ 'F' then some (c.toNat - 'A'.toNat + 10)
  else none

def number? (base : Nat) (t : Text) : Option Nat :=
  t.foldlM (fun n c =>
    match digitValue? c with
    | some d => if d < base then some (n * base + d) else none
    | none => none) 0

/-- One part of an IPv4 address; `0x` and a leading zero tell the base. -/
def ipv4Part? (t : Text) : Option Nat :=
  match t with
  | [] => none
  | '0' :: 'x' :: rest | '0' :: 'X' :: rest => number? 16 rest
  | '0' :: c :: rest => number? 8 (c :: rest)
  | t => number? 10 t

/-- The parts between full stops, without an empty one at the end. -/
def ipv4Parts (host : Text) : List Text :=
  let parts := Text.pieces '.' host
  if parts.getLast? = some [] then parts.dropLast else parts

/-- Whether the last part of a host makes it an IPv4 address. -/
def endsInNumber (host : Text) : Bool :=
  match (ipv4Parts host).getLast? with
  | none => false
  | some last => (!last.isEmpty && last.all Char.isDigit) || (ipv4Part? last).isSome

def isIpv4 (host : Text) : Bool :=
  let parts := ipv4Parts host
  parts.length ≤ 4 &&
    match parts.mapM ipv4Part? with
    | none => false
    | some numbers =>
      numbers.dropLast.all (· ≤ 255) &&
        numbers.getLastD 0 < Nat.pow 256 (5 - numbers.length)

/-- A decimal byte without leading zeros. -/
def isDecimalByte (t : Text) : Bool :=
  t.all Char.isDigit && (t.length = 1 || t.head? ≠ some '0') &&
    !t.isEmpty && (number? 10 t).any (· ≤ 255)

def isDottedBytes (t : Text) : Bool :=
  let parts := Text.pieces '.' t
  parts.length = 4 && parts.all isDecimalByte

/-- The rest of an IPv6 address when `room` of its eight groups are still to
come. One run of zero groups may be left out. -/
def isIpv6From : (room : Nat) → (gap : Bool) → Text → Bool
  | room, gap, [] => gap || room = 0
  | 0, _, _ :: _ => false
  | room + 1, gap, c :: t =>
    if c = ':' then !gap && isIpv6From room true t
    else
      let digits := ((c :: t).take 4).takeWhile fun c => (digitValue? c).isSome
      match (c :: t).drop digits.length with
      | [] => gap || room = 0
      | [':'] => false
      | ':' :: rest => isIpv6From room gap rest
      | '.' :: _ =>
        !digits.isEmpty && isDottedBytes (c :: t) && (if gap then 1 ≤ room else room = 1)
      | _ => false

/-- An IPv6 address without its brackets. -/
def isIpv6 (t : Text) : Bool :=
  match t with
  | ':' :: ':' :: rest => isIpv6From 7 true rest
  | ':' :: _ => false
  | [_] | [] => false
  | t => isIpv6From 8 false t

end Url

end BuildManifest
