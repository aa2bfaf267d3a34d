/-!
Text as a list of characters, with the handful of operations the manifest
language is made of: dropping blanks at the ends, cutting at a separator,
splitting into lines and replacing one word everywhere. Every function recurses
on the text itself, so closed instances evaluate.
-/

namespace BuildManifest

/-- A text is the list of its characters. -/
abbrev Text := List Char

/-- A literal stands for the list of its characters. -/
instance : Coe String Text := ⟨String.toList⟩

namespace Text

/-- The characters with the Unicode property `White_Space`. -/
def isBlank (c : Char) : Bool :=
  let n := c.toNat
  (9 ≤ n && n ≤ 13) || n == 0x20 || n == 0x85 || n == 0xA0 || n == 0x1680 ||
    (0x2000 ≤ n && n ≤ 0x200A) || n == 0x2028 || n == 0x2029 || n == 0x202F ||
    n == 0x205F || n == 0x3000

def trimStart (t : Text) : Text := t.dropWhile isBlank

def trimEnd (t : Text) : Text := (t.reverse.dropWhile isBlank).reverse

/-- The text without the blanks at its two ends. -/
def trim (t : Text) : Text := trimEnd (trimStart t)

/-- What follows `lead` in a text that begins with it. -/
def after? : (lead : Text) → Text → Option Text
  | [], t => some t
  | _ :: _, [] => none
  | l :: ls, c :: t => if l = c then after? ls t else none

/-- The parts before and after the first occurrence of a separator. -/
def cut? (separator : Text) : Text → Option (Text × Text)
  | [] => (after? separator []).map ([], ·)
  | c :: t =>
    match after? separator (c :: t) with
    | some rest => some ([], rest)
    | none => (cut? separator t).map fun (left, right) => (c :: left, right)

/-- Whether `part` occurs somewhere in the text. -/
def has (t part : Text) : Bool := (cut? part t).isSome

/-- The parts between the occurrences of a character; there is always one. -/
def pieces (separator : Char) : Text → List Text
  | [] => [[]]
  | c :: t =>
    if c = separator then [] :: pieces separator t
    else
      match pieces separator t with
      | [] => [[c]]
      | first :: others => (c :: first) :: others

/-- The parts put one after the other with `separator` between them. -/
def joined (separator : Text) : List Text → Text
  | [] => []
  | [t] => t
  | t :: u :: rest => t ++ separator ++ joined separator (u :: rest)

/-- Walks over a text in which the next `skip` characters belong to a word
that has already been replaced. -/
def replaceFrom (word value : Text) : (skip : Nat) → Text → Text
  | _, [] => []
  | skip + 1, _ :: t => replaceFrom word value skip t
  | 0, c :: t =>
    if (after? word (c :: t)).isSome then value ++ replaceFrom word value (word.length - 1) t
    else c :: replaceFrom word value 0 t

/-- Every occurrence of the non-empty `word`, found from left to right and
without overlaps, gives way to `value`; the inserted text is not searched. -/
def replace (t word value : Text) : Text := replaceFrom word value 0 t

/-- A line that a newline ended loses a carriage return before it. -/
def dropReturn (t : Text) : Text :=
  if t.getLast? = some '\r' then t.dropLast else t

/-- The lines of pieces cut at the newlines. The last piece was not ended by a
newline, so it is a line only if it holds something. -/
def linesOfPieces : List Text → List Text
  | [] => []
  | [t] => if t = [] then [] else [t]
  | t :: u :: rest => dropReturn t :: linesOfPieces (u :: rest)

/-- The lines of a text, each without the newline, or carriage return and
newline, that ended it. -/
def lines (t : Text) : List Text := linesOfPieces (pieces '\n' t)

/-- The UTF-8 form of a text. -/
def bytes (t : Text) : List UInt8 := t.flatMap String.utf8EncodeChar

def byteLength : Text → Nat
  | [] => 0
  | c :: t => c.utf8Size + byteLength t

def endsWith (t tail : Text) : Bool := tail.isSuffixOf t

def ofNat (n : Nat) : Text := Nat.toDigits 10 n

def ofInt : Int → Text
  | .ofNat n => ofNat n
  | .negSucc n => '-' :: ofNat (n + 1)

/-- The text that bytes encode, if they are well-formed UTF-8. -/
def ofBytes? (b : ByteArray) : Option Text := (String.fromUTF8? b).map String.toList

def toBytes (t : Text) : ByteArray := (String.ofList t).toUTF8

/-- The state between two bytes of UTF-8: how many more bytes the character
needs, its bits so far and the range of the byte that may come next. -/
structure Partial where
  missing : Nat
  bits : Nat
  low : Nat
  high : Nat

/-- What a first byte announces, if it is one. -/
def Partial.ofFirst? (b : Nat) : Option Partial :=
  if 0xC2 ≤ b && b ≤ 0xDF then some ⟨1, b % 32, 0x80, 0xBF⟩
  else if 0xE0 ≤ b && b ≤ 0xEF then
    some ⟨2, b % 16, if b = 0xE0 then 0xA0 else 0x80, if b = 0xED then 0x9F else 0xBF⟩
  else if 0xF0 ≤ b && b ≤ 0xF4 then
    some ⟨3, b % 8, if b = 0xF0 then 0x90 else 0x80, if b = 0xF4 then 0x8F else 0xBF⟩
  else none

/-- The character that stands for bytes which are no text. -/
def replacement : Char := '\ufffd'

/-- Shows a byte that does not continue a character, and tells what it begins. -/
def showFirst (b : Nat) : Text × Option Partial :=
  if b < 128 then ([Char.ofNat b], none)
  else
    match Partial.ofFirst? b with
    | some p => ([], some p)
    | none => ([replacement], none)

def showFrom : Option Partial → List UInt8 → Text
  | none, [] => []
  | some _, [] => [replacement]
  | none, b :: rest =>
    let (t, p) := showFirst b.toNat
    t ++ showFrom p rest
  | some p, b :: rest =>
    let n := b.toNat
    if p.low ≤ n && n ≤ p.high then
      let bits := p.bits * 64 + n % 64
      if p.missing = 1 then Char.ofNat bits :: showFrom none rest
      else showFrom (some ⟨p.missing - 1, bits, 0x80, 0xBF⟩) rest
    else
      let (t, p) := showFirst n
      replacement :: t ++ showFrom p rest

/-- Bytes as text. Every longest run that begins a character without completing
it, and every other stray byte, shows as one replacement character. -/
def ofBytes (b : List UInt8) : Text := showFrom none b

/-- The order of two texts by their bytes, which is the order by their
characters. -/
def le : Text → Text → Bool
  | [], _ => true
  | _ :: _, [] => false
  | c :: t, d :: u => if c = d then le t u else c.toNat < d.toNat

end Text

end BuildManifest
