import BuildManifest.Glob.Pattern
import BuildManifest.Path

/-!
Which paths a glob matches. A glob is matched against the bytes of a path from
end to end. `advance` takes the tails that may be left before a token to those
that may be left after it, so a glob matches if the empty tail is left in the
end. A wildcard takes any byte, slashes included, and a class takes one byte.
-/

namespace BuildManifest

namespace Glob

/-- What may be left of a path. -/
abbrev Tails := List (List UInt8)

/-- All tails of the bytes, the longest first. -/
def tails : List UInt8 → Tails
  | [] => [[]]
  | b :: rest => (b :: rest) :: tails rest

/-- A class range by bytes: its ends are single bytes, except that the last
byte of the lower end and the first of the upper one span a range. -/
def rangeHolds (range : Char × Char) (b : UInt8) : Bool :=
  let low := String.utf8EncodeChar range.1
  let high := String.utf8EncodeChar range.2
  if range.1 = range.2 then low.contains b
  else
    low.contains b || high.contains b ||
      match low.getLast?, high.head? with
      | some l, some h => l ≤ b && b ≤ h
      | _, _ => false

def classHolds (negated : Bool) (ranges : List (Char × Char)) (b : UInt8) : Bool :=
  ranges.any (rangeHolds · b) != negated

def afterSlash (from_ : Tails) : Tails :=
  from_.filterMap fun t => match t with
    | b :: rest => if b = 47 then some rest else none
    | [] => none

/-- The longest of some tails, which all the others are tails of. -/
def longest (t : List UInt8) (others : Tails) : List UInt8 :=
  others.foldl (fun a b => if a.length < b.length then b else a) t

/-- The tails that are left when any number of bytes is taken. -/
def runs : Tails → Tails
  | [] => []
  | t :: others => tails (longest t others)

/-- Leaves out every tail that is as long as the one before it. -/
def dropRepeats : List (Nat × List UInt8) → Tails
  | [] => []
  | [t] => [t.2]
  | t :: u :: rest =>
    if t.1 = u.1 then dropRepeats (u :: rest) else t.2 :: dropRepeats (u :: rest)

/-- The different ones of some tails of one path; those of one length are the same. -/
def distinct (ts : Tails) : Tails :=
  dropRepeats ((ts.map fun t => (t.length, t)).mergeSort fun t u => u.1 ≤ t.1)

mutual

/-- Whether a token takes nothing at all, whatever follows. -/
def isVoid : Token → Bool
  | .group branches => allVoid branches
  | _ => false

def isVoidRun : List Token → Bool
  | [] => true
  | t :: rest => isVoid t && isVoidRun rest

def allVoid : List (List Token) → Bool
  | [] => true
  | branch :: rest => isVoidRun branch && allVoid rest

end

mutual

def advance : Token → Tails → Tails
  | .literal c, from_ => from_.filterMap (dropBytes? (String.utf8EncodeChar c))
  | .anyOne, from_ => from_.filterMap List.tail?
  | .anyRun, from_ => runs from_
  | .leadingDirs, from_ => distinct (from_ ++ afterSlash (runs from_))
  | .trailingDirs, from_ => runs (afterSlash from_)
  | .innerDirs, from_ =>
    let next := afterSlash from_
    distinct (next ++ afterSlash (runs next))
  | .oneOf negated ranges, from_ =>
    from_.filterMap fun t => match t with
      | b :: rest => if classHolds negated ranges b then some rest else none
      | [] => none
  | .group branches, from_ =>
    if allVoid branches then from_ else distinct (advanceAny branches from_)
where
  /-- The bytes that follow `lead`. -/
  dropBytes? (lead t : List UInt8) : Option (List UInt8) :=
    if lead.isPrefixOf t then some (t.drop lead.length) else none

def advanceRun : List Token → Tails → Tails
  | [], from_ => from_
  | t :: rest, from_ => advanceRun rest (advance t from_)

/-- Branches that take nothing do not count. -/
def advanceAny : List (List Token) → Tails → Tails
  | [], _ => []
  | branch :: rest, from_ =>
    if isVoidRun branch then advanceAny rest from_
    else advanceRun branch from_ ++ advanceAny rest from_

end

/-- The text that tokens spell, if they are literals only. -/
def spelled? : List Token → Option Text
  | [] => some []
  | .literal c :: rest => (spelled? rest).map (c :: ·)
  | _ => none

def literalEnd : List Token → Text
  | [] => []
  | t :: rest => (spelled? (t :: rest)).getD (literalEnd rest)

/-- `**/` and a name. -/
def isNameGlob : List Token → Bool
  | .leadingDirs :: rest => (spelled? rest).any fun name => !name.isEmpty && !name.contains '/'
  | _ => false

/-- `*.` and a last extension, possibly after `**/`. -/
def isExtensionGlob : List Token → Bool
  | .leadingDirs :: .anyRun :: .literal '.' :: rest | .anyRun :: .literal '.' :: rest =>
    (spelled? rest).any fun ext => !ext.contains '.' && !ext.contains '/'
  | _ => false

/-- A text and then anything, so that only the front of a path matters. -/
def isFrontGlob (tokens : List Token) : Bool :=
  match tokens.getLast? with
  | some .anyRun => (spelled? tokens.dropLast).any fun t => !t.isEmpty
  | some .trailingDirs => (spelled? tokens.dropLast).isSome
  | _ => false

/-- Anything and then a text, so that only the end of a path matters. -/
def isEndGlob : List Token → Bool
  | .leadingDirs :: .anyRun :: rest | .anyRun :: rest =>
    (spelled? rest).any fun t => !t.isEmpty && t ≠ ['/']
  | .leadingDirs :: rest => (spelled? rest).any fun t => !t.isEmpty
  | _ => false

/-- Whether every match ends in the same last extension. -/
def requiresExtension (tokens : List Token) : Bool :=
  let ending := literalEnd tokens
  ending.contains '.' && !(ending.reverse.takeWhile (· ≠ '.')).contains '/'

/-- What of a path decides whether a glob matches it. -/
inductive Method where
  | name
  | wholePath
  | extension
  | front
  | ending
  | expressionAfterExtension
  | expression
  deriving DecidableEq, Repr

/-- The cheapest method that decides a glob. -/
def method (tokens : List Token) : Method :=
  if isNameGlob tokens then .name
  else if (spelled? tokens).isSome then .wholePath
  else if isExtensionGlob tokens then .extension
  else if isFrontGlob tokens then .front
  else if isEndGlob tokens then .ending
  else if requiresExtension tokens then .expressionAfterExtension
  else .expression

/-- Whether a glob is decided by the last name in a path or by the extension of
that name. Such a glob matches no path that ends in `..`, which has no name. -/
def looksAtName (tokens : List Token) : Bool :=
  match method tokens with
  | .name | .extension | .expressionAfterExtension => true
  | .wholePath | .front | .ending | .expression => false

/-- A glob that is `**` alone matches every path. -/
def isEverything : List Token → Bool
  | [.leadingDirs] => true
  | _ => false

def isMatch (g : Glob) (p : Path) : Bool :=
  if isEverything g.tokens then true
  else
    !(looksAtName g.tokens && p.endsUp) && (advanceRun g.tokens [p.bytes]).contains []

end Glob

end BuildManifest
