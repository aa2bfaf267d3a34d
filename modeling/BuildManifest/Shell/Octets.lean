import BuildManifest.Text

/-!
Bytes as characters. A shell works on bytes, whatever they encode; inside it a
text holds one character below 256 for each byte. What comes from outside is
spread into its bytes, and what goes outside is put together again.
-/

namespace BuildManifest

namespace Shell

def octet (b : UInt8) : Char := Char.ofNat b.toNat

/-- The bytes of a text, each as a character. -/
def octets (t : Text) : Text := t.bytes.map octet

/-- The text that the bytes encode. -/
def written (t : Text) : Text :=
  if t.all fun c => c.toNat < 128 then t
  else Text.ofBytes (t.map fun c => UInt8.ofNat c.toNat)

def octetsOf (b : ByteArray) : Text := b.toList.map octet

def bytesOf (t : Text) : ByteArray := ⟨(t.map fun c => UInt8.ofNat c.toNat).toArray⟩

def digitValue (c : Char) : Nat := c.toNat - '0'.toNat

def digitsOf (t : Text) : Nat × Text :=
  ((t.takeWhile Char.isDigit).foldl (fun n c => 10 * n + digitValue c) 0,
    t.dropWhile Char.isDigit)

def natural? (t : Text) : Option Nat :=
  if !t.isEmpty && t.all Char.isDigit then some (digitsOf t).1 else none

/-- The characters between which words are told apart. -/
def isSpace (c : Char) : Bool := c = ' ' || (9 ≤ c.toNat && c.toNat ≤ 13)

def isPunctuation (c : Char) : Bool :=
  33 ≤ c.toNat && c.toNat ≤ 126 && !c.isAlphanum

def inClass? (name : Text) : Option (Char → Bool) :=
  match String.ofList name with
  | "alpha" => some Char.isAlpha
  | "digit" => some Char.isDigit
  | "alnum" => some Char.isAlphanum
  | "upper" => some Char.isUpper
  | "lower" => some Char.isLower
  | "space" => some isSpace
  | "blank" => some fun c => c = ' ' || c = '\t'
  | "punct" => some isPunctuation
  | "cntrl" => some fun c => c.toNat < 32 || c.toNat = 127
  | "print" => some fun c => 32 ≤ c.toNat && c.toNat ≤ 126
  | "graph" => some fun c => 33 ≤ c.toNat && c.toNat ≤ 126
  | "xdigit" => some fun c => c.isDigit || ('a' ≤ c.toLower && c.toLower ≤ 'f')
  | _ => none

/-- Goes over a text of which `line`, read backwards, is the line begun and `done`
are the lines before it. -/
def linesFrom (line : Text) (done : List Text) : Text → List Text
  | [] => (if line.isEmpty then done else line.reverse :: done).reverse
  | c :: t =>
    if c = '\n' then linesFrom [] (('\n' :: line).reverse :: done) t
    else linesFrom (c :: line) done t

/-- The lines of a text, each with the newline that ended it, if there was one. -/
def wholeLines (t : Text) : List Text := linesFrom [] [] t

def withoutNewline (l : Text) : Text := if l.getLast? = some '\n' then l.dropLast else l

def plainLines (t : Text) : List Text := (wholeLines t).map withoutNewline

end Shell

end BuildManifest
