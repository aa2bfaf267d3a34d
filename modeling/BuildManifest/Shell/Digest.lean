import BuildManifest.Shell.Lines

/-!
Check sums of files. Each digest goes over a text in blocks of sixty-four bytes, of
which the last is filled up with a one, zeros and the length in bits; words have
thirty-two bits and sums go round. The round constants are the fractions of roots
and of sines, which are computed here.
-/

namespace BuildManifest

namespace Shell

namespace Digest

def turn (x : UInt32) (n : Nat) : UInt32 :=
  let n := UInt32.ofNat n
  (x <<< n) ||| (x >>> (32 - n))

/-- The bytes of a number, the last ones first. -/
def littleBytes : (count : Nat) → Nat → List UInt8
  | 0, _ => []
  | count + 1, n => UInt8.ofNat (n % 256) :: littleBytes count (n / 256)

def bigBytes (count n : Nat) : List UInt8 := (littleBytes count n).reverse

/-- A text with its length filled in at the end. -/
def padded (big : Bool) (t : Text) : List UInt8 :=
  let bits := 8 * t.length
  let gap := (119 - t.length % 64) % 64
  t.map (fun c => UInt8.ofNat c.toNat) ++ (128 :: List.replicate gap 0) ++
    (if big then bigBytes 8 bits else littleBytes 8 bits)

def words (big : Bool) : List UInt8 → List UInt32
  | a :: b :: c :: d :: rest =>
    let word (a b c d : UInt8) : UInt32 :=
      (a.toUInt32 <<< 24) ||| (b.toUInt32 <<< 16) ||| (c.toUInt32 <<< 8) ||| d.toUInt32
    (if big then word a b c d else word d c b a) :: words big rest
  | _ => []

/-- Goes over blocks of sixteen words. -/
def overBlocks {σ : Type} (f : σ → Array UInt32 → σ) : (fuel : Nat) → σ → List UInt32 → σ
  | 0, s, _ => s
  | fuel + 1, s, ws =>
    if ws.isEmpty then s else overBlocks f fuel (f s (ws.take 16).toArray) (ws.drop 16)

def hex (bytes : List UInt8) : Text :=
  bytes.flatMap fun b => [Nat.digitChar (b.toNat / 16), Nat.digitChar (b.toNat % 16)]

/-- The greatest number whose power is not above `n`. -/
def root (power n : Nat) : Nat :=
  let rec go : (fuel : Nat) → (low high : Nat) → Nat
    | 0, low, _ => low
    | fuel + 1, low, high =>
      if high ≤ low + 1 then low
      else
        let middle := (low + high) / 2
        if Nat.pow middle power ≤ n then go fuel middle high else go fuel low middle
  go 64 0 (Nat.pow 2 48)

/-- The first thirty-two bits of the fraction of a root. -/
def rootFraction (power n : Nat) : UInt32 :=
  UInt32.ofNat (root power (n * Nat.pow 2 (32 * power)) % Nat.pow 2 32)

def primes : List Nat :=
  (List.range 312).filter fun n => n ≥ 2 && (List.range n).all fun d => d < 2 || n % d ≠ 0

def sineConstants : Array UInt32 :=
  ((List.range 64).map fun i =>
    ((Float.ofNat (i + 1)).sin.abs * 4294967296.0).floor.toUInt32).toArray

structure Four where
  a : UInt32
  b : UInt32
  c : UInt32
  d : UInt32

/-- The turns of the rounds, of which four follow each other over and over. -/
def turns (i : Nat) : Nat :=
  let row : List Nat := match i / 16 with
    | 0 => [7, 12, 17, 22]
    | 1 => [5, 9, 14, 20]
    | 2 => [4, 11, 16, 23]
    | _ => [6, 10, 15, 21]
  row.getD (i % 4) 0

def md5Block (constants : Array UInt32) (s : Four) (m : Array UInt32) : Four :=
  let r := (List.range 64).foldl (fun (r : Four) i =>
    let (f, g) : UInt32 × Nat := match i / 16 with
      | 0 => ((r.b &&& r.c) ||| (r.b.complement &&& r.d), i)
      | 1 => ((r.d &&& r.b) ||| (r.d.complement &&& r.c), (5 * i + 1) % 16)
      | 2 => (r.b ^^^ r.c ^^^ r.d, (3 * i + 5) % 16)
      | _ => (r.c ^^^ (r.b ||| r.d.complement), (7 * i) % 16)
    let x := r.a + f + constants.getD i 0 + m.getD g 0
    ⟨r.d, r.b + turn x (turns i), r.b, r.c⟩) s
  ⟨s.a + r.a, s.b + r.b, s.c + r.c, s.d + r.d⟩

def md5 (t : Text) : Text :=
  let ws := words false (padded false t)
  let s := overBlocks (md5Block sineConstants) (ws.length + 1)
    (⟨0x67452301, 0xefcdab89, 0x98badcfe, 0x10325476⟩ : Four) ws
  hex ([s.a, s.b, s.c, s.d].flatMap fun w => littleBytes 4 w.toNat)

/-- The words of a block and those that are derived from them. -/
def extended (f : Array UInt32 → Nat → UInt32) (count : Nat) (m : Array UInt32) : Array UInt32 :=
  (List.range (count - 16)).foldl (fun w i => w.push (f w (i + 16))) m

def sha1Block (s : List UInt32) (m : Array UInt32) : List UInt32 :=
  let w := extended (fun w i =>
    turn (w.getD (i - 3) 0 ^^^ w.getD (i - 8) 0 ^^^ w.getD (i - 14) 0 ^^^ w.getD (i - 16) 0) 1)
    80 m
  let r := (List.range 80).foldl (fun (r : List UInt32) i =>
    match r with
    | [a, b, c, d, e] =>
      let (f, k) : UInt32 × UInt32 := match i / 20 with
        | 0 => ((b &&& c) ||| (b.complement &&& d), 0x5a827999)
        | 1 => (b ^^^ c ^^^ d, 0x6ed9eba1)
        | 2 => ((b &&& c) ||| (b &&& d) ||| (c &&& d), 0x8f1bbcdc)
        | _ => (b ^^^ c ^^^ d, 0xca62c1d6)
      [turn a 5 + f + e + k + w.getD i 0, a, turn b 30, c, d]
    | r => r) s
  (s.zip r).map fun p => p.1 + p.2

def sha1 (t : Text) : Text :=
  let ws := words true (padded true t)
  let s := overBlocks sha1Block (ws.length + 1)
    [0x67452301, 0xefcdab89, 0x98badcfe, 0x10325476, 0xc3d2e1f0] ws
  hex (s.flatMap fun w => bigBytes 4 w.toNat)

def sha256Block (constants : Array UInt32) (s : List UInt32) (m : Array UInt32) : List UInt32 :=
  let right (x : UInt32) (n : Nat) : UInt32 := turn x (32 - n)
  let w := extended (fun w i =>
    let x := w.getD (i - 15) 0
    let y := w.getD (i - 2) 0
    w.getD (i - 16) 0 + (right x 7 ^^^ right x 18 ^^^ (x >>> 3)) + w.getD (i - 7) 0 +
      (right y 17 ^^^ right y 19 ^^^ (y >>> 10))) 64 m
  let r := (List.range 64).foldl (fun (r : List UInt32) i =>
    match r with
    | [a, b, c, d, e, f, g, h] =>
      let x := h + (right e 6 ^^^ right e 11 ^^^ right e 25) + ((e &&& f) ^^^ (e.complement &&& g)) +
        constants.getD i 0 + w.getD i 0
      let y := (right a 2 ^^^ right a 13 ^^^ right a 22) + ((a &&& b) ^^^ (a &&& c) ^^^ (b &&& c))
      [x + y, a, b, c, d + x, e, f, g]
    | r => r) s
  (s.zip r).map fun p => p.1 + p.2

def sha256 (t : Text) : Text :=
  let constants := (primes.map (rootFraction 3)).toArray
  let ws := words true (padded true t)
  let s := overBlocks (sha256Block constants) (ws.length + 1)
    ((primes.take 8).map (rootFraction 2)) ws
  hex (s.flatMap fun w => bigBytes 4 w.toNat)

/-- One bit of the remainder of a division of polynomials. -/
def remainderBit (x : UInt32) : UInt32 :=
  if x &&& 0x80000000 = 0 then x <<< 1 else (x <<< 1) ^^^ 0x04c11db7

def remainderByte (x : UInt32) (b : UInt8) : UInt32 :=
  (List.range 8).foldl (fun x _ => remainderBit x) (x ^^^ (b.toUInt32 <<< 24))

/-- The bytes of a number, the last ones first and none for those that are zero. -/
def lengthBytes : (fuel : Nat) → Nat → List UInt8
  | 0, _ => []
  | fuel + 1, n => if n = 0 then [] else UInt8.ofNat (n % 256) :: lengthBytes fuel (n / 256)

def cyclic (t : Text) : Nat :=
  let bytes := t.map (fun c => UInt8.ofNat c.toNat) ++ lengthBytes 16 t.length
  (bytes.foldl remainderByte 0).complement.toNat

end Digest

def printDigests (command : String) (digest : Text → Text) (st : State) (arguments : List Text) :
    State :=
  withOptions command.toList 1 "bt" [("binary", 'b'), ("text", 't')] arguments st fun o st =>
    eachContent command.toList (fun st p t =>
      st.printLine (digest t ++ (if o.has 'b' then (" *" : Text) else "  ") ++ p)) st o.operands

def printChecks (st : State) (arguments : List Text) : State :=
  withOptions "cksum" 1 [] [] arguments st fun o st =>
    eachContent "cksum" (fun st p t =>
      st.printLine (Text.ofNat (Digest.cyclic t) ++ ' ' :: Text.ofNat t.length ++
        (if o.operands.isEmpty then [] else ' ' :: p))) st o.operands

end Shell

end BuildManifest
