import BuildManifest.CodePoints.Composition
import BuildManifest.CodePoints.Lettering
import BuildManifest.Url.EncodedLabel
import BuildManifest.Url.HostCharacters

/-!
Host names with characters outside ASCII. A name is taken to its canonical form
and cut into labels at the full stops. A label that begins with `xn--` has to be
the encoded form of one in canonical form that could not be written plainly.
Labels begin with no mark, their invisible joiners have something to join, and
in a name with letters written from right to left no label mixes directions.
-/

namespace BuildManifest

namespace HostName

open CodePoints

/-- What a character of a host name is read as. -/
def canonical? (c : Char) : Option Text :=
  if c.toNat < 128 then some [c.toLower]
  else if dropped.has c then some []
  else if refused.has c then none
  else
    match mapped.run? c with
    | some r => some (r.image c)
    | none => some [c]

def isAscii (t : Text) : Bool := t.all fun c => c.toNat < 128

/-- The canonical form of a text, if all its characters are allowed. -/
def canonicalText? (t : Text) : Option Text :=
  (t.mapM canonical?).map fun parts =>
    let plain := parts.flatten
    if isAscii plain then plain else composed plain

/-- The ASCII characters that would end a host name or are no text. -/
def isForbidden (c : Char) : Bool :=
  c.toNat ≤ 32 || c.toNat = 127 || ("%#/:<>?@[\\]^|" : Text).contains c

/-- The invisible character that keeps two letters from joining. -/
def nonJoiner : Char := '\u200c'

/-- The invisible character that makes two letters join. -/
def joiner : Char := '\u200d'

/-- Whether the letters around a place would join. The text before it has its
last character first. -/
def wouldJoin (before after : Text) : Bool :=
  ((before.dropWhile joinedThrough.has).head?.any joinedOnLeft.has) &&
    (after.dropWhile joinedThrough.has).head?.any joinedOnRight.has

/-- Whether every invisible joiner has a reason: it follows a sign that takes the
vowel from a consonant, or it keeps letters from joining. -/
def joinersFit (before : Text) : Text → Bool
  | [] => true
  | c :: rest =>
    (if c = joiner || c = nonJoiner then
      before.head?.any viramas.has || (c = nonJoiner && wouldJoin before rest)
    else true) && joinersFit (c :: before) rest

def isLabel (t : Text) : Bool :=
  isAscii t || (!t.head?.any marks.has && joinersFit [] t)

/-- The characters that may follow `xn--`. -/
def maxEncoded : Nat := 2000

/-- The characters of a label that is yet to be encoded. -/
def maxPlain : Nat := 1000

/-- The label that a label of a name in canonical form stands for. -/
def plainLabel? (t : Text) : Option Text :=
  match Text.after? "xn--" t with
  | none => if isAscii t || (t.length ≤ maxPlain && isLabel t) then some t else none
  | some encoded =>
    if encoded.length ≤ maxEncoded then
      (decoded? encoded).filter fun plain =>
        !isAscii plain && plain.all (fun c => canonical? c = some [c]) &&
          composed plain = plain && isLabel plain
    else none

/-- Whether characters make a label part of a name with letters written from
right to left. -/
def isLeftward (d : Direction) : Bool := d = .leftward || d = .arabicDigit

/-- Whether a label, given the directions of its characters, has one direction.
Marks at its end do not count. -/
def hasOneDirection (label : List Direction) : Bool :=
  match label with
  | [] => true
  | first :: rest =>
    let rest := (rest.reverse.dropWhile (· = .nonspacing))
    let endsWell (ends : List Direction) := rest.head?.all ends.contains
    if first = .rightward then
      !(rest.any isLeftward) && endsWell [.rightward, .digit]
    else
      first = .leftward && !rest.contains .rightward &&
        endsWell [.leftward, .digit, .arabicDigit] &&
        !(rest.contains .digit && rest.contains .arabicDigit)

/-- Whether labels can stand in one name. -/
def agree (labels : List Text) : Bool :=
  let directions := labels.map (List.map direction)
  !(directions.any fun label => label.any isLeftward) || directions.all hasOneDirection

def canonicalName? (t : Text) : Option Text :=
  (canonicalText? t).filter fun name =>
    !name.any isForbidden &&
      match (Text.pieces '.' name).mapM plainLabel? with
      | none => false
      | some labels => agree labels

end HostName

end BuildManifest
