import BuildManifest.Glob.Matching

/-!
The regular expression over bytes that a glob stands for, and how deep it nests.
Runs of several items, groups, alternatives, repetitions and classes each nest
what they are made of one level deeper.
-/

namespace BuildManifest

namespace Glob

/-- The characters that mean something in a regular expression. -/
def isMeta (c : Char) : Bool := ("\\.+*?()|[]\x7b\x7d^$#&-~" : Text).contains c

/-- A character that stands for itself, as bytes outside ASCII. -/
def literalExpression (c : Char) : Text :=
  if c.toNat < 128 then (if isMeta c then ['\\', c] else [c])
  else (String.utf8EncodeChar c).flatMap fun b =>
    ("\\x" : Text) ++ Nat.toDigits 16 b.toNat

def rangeExpression (range : Char × Char) : Text :=
  if range.1 = range.2 then literalExpression range.1
  else literalExpression range.1 ++ ['-'] ++ literalExpression range.2

mutual

def tokenExpression : Token → Text
  | .literal c => literalExpression c
  | .anyOne => "."
  | .anyRun => ".*"
  | .leadingDirs => "(?:/?|.*/)"
  | .trailingDirs => "/.*"
  | .innerDirs => "(?:/|/.*/)"
  | .oneOf negated ranges =>
    ['['] ++ (if negated then ['^'] else []) ++ ranges.flatMap rangeExpression ++ [']']
  | .group branches =>
    match branchExpressions branches with
    | [] => []
    | parts => ("(?:" : Text) ++ Text.joined ['|'] parts ++ [')']

def runExpression : List Token → Text
  | [] => []
  | t :: rest => tokenExpression t ++ runExpression rest

/-- Branches that take nothing are left out. -/
def branchExpressions : List (List Token) → List Text
  | [] => []
  | branch :: rest =>
    if isVoidRun branch then branchExpressions rest
    else runExpression branch :: branchExpressions rest

end

/-- The whole expression, which has to match from end to end. -/
def fullExpression (tokens : List Token) : Text :=
  ("(?-u)^" : Text) ++ (if isEverything tokens then (".*" : Text) else runExpression tokens) ++
    ['$']

/-- How many items a part of an expression has, and how deep they nest. -/
structure Extent where
  items : Nat
  depth : Nat

def Extent.followedBy (a b : Extent) : Extent := ⟨a.items + b.items, max a.depth b.depth⟩

/-- The depth of items as one. -/
def Extent.whole (e : Extent) : Nat := if 2 ≤ e.items then e.depth + 1 else e.depth

def rangeItems (range : Char × Char) : Nat :=
  if range.1 = range.2 then range.1.utf8Size else range.1.utf8Size + range.2.utf8Size - 1

mutual

def extent : Token → Extent
  | .literal c => ⟨c.utf8Size, 0⟩
  | .anyOne => ⟨1, 0⟩
  | .anyRun => ⟨1, 1⟩
  | .leadingDirs => ⟨1, 4⟩
  | .trailingDirs => ⟨2, 1⟩
  | .innerDirs => ⟨1, 4⟩
  | .oneOf _ ranges => ⟨1, (Extent.mk (ranges.map rangeItems).sum 1).whole⟩
  | .group branches =>
    if allVoid branches then ⟨0, 0⟩ else ⟨1, (branchesExtent branches).whole + 1⟩

def runExtent : List Token → Extent
  | [] => ⟨0, 0⟩
  | t :: rest => (extent t).followedBy (runExtent rest)

/-- Branches count as one item each, if they take anything. -/
def branchesExtent : List (List Token) → Extent
  | [] => ⟨0, 0⟩
  | branch :: rest =>
    if isVoidRun branch then branchesExtent rest
    else (Extent.mk 1 (runExtent branch).whole).followedBy (branchesExtent rest)

end

def depth (tokens : List Token) : Nat := (runExtent tokens).depth + 1

def maxDepth : Nat := 250

/-- Whether a glob cannot be used because its expression nests too deep. -/
def isTooDeep (g : Glob) : Bool := maxDepth < depth g.tokens

end Glob

end BuildManifest
