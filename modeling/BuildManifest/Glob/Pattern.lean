import BuildManifest.Text

/-!
Glob patterns: their tokens and how a text is read into them. The reader goes
over the text once. Groups may nest; what has been read of the open ones is kept
in a `Draft`, the current branch apart. Inside a group a comma begins a new
branch, outside it stands for itself.
-/

namespace BuildManifest

namespace Glob

/-- One element of a glob. The three kinds of `**` differ in the slashes they
take with them. -/
inductive Token where
  | literal (c : Char)
  | anyOne
  | anyRun
  | leadingDirs
  | trailingDirs
  | innerDirs
  | oneOf (negated : Bool) (ranges : List (Char × Char))
  | group (branches : List (List Token))

inductive Fault where
  | unopenedGroup
  | unclosedGroup
  | danglingEscape
  | unclosedClass
  | invalidRange (low high : Char)
  deriving DecidableEq, Repr

def Fault.message : Fault → Text
  | .unopenedGroup =>
      "unopened alternate group; missing '\x7b' (maybe escape '\x7d' with '[\x7d]'?)"
  | .unclosedGroup =>
      "unclosed alternate group; missing '\x7d' (maybe escape '\x7b' with '[\x7b]'?)"
  | .danglingEscape => "dangling '\\'"
  | .unclosedClass => "unclosed character class; missing ']'"
  | .invalidRange low high =>
      ("invalid range; '" : Text) ++ [low] ++ ("' > '" : Text) ++ [high] ++ ("'" : Text)

/-- What stood before an open group and the branches it has so far, each list
with its last element first. -/
structure OpenGroup where
  before : List Token
  branches : List (List Token)

/-- What has been read: the tokens of the current branch, last first, and the
open groups, innermost first. -/
structure Draft where
  current : List Token
  groups : List OpenGroup

/-- What has been read of a character class, last range first. After a `-` the
next character is the upper end of the last range. -/
structure ClassDraft where
  negated : Bool
  ranges : List (Char × Char)
  awaitsEnd : Bool

inductive Mode where
  | outside
  | atClassStart
  | inClass (draft : ClassDraft)

namespace Draft

def push (d : Draft) (t : Token) : Draft := { d with current := t :: d.current }

def openGroup (d : Draft) : Draft := ⟨[], ⟨d.current, []⟩ :: d.groups⟩

/-- A comma begins a new branch of the innermost group. -/
def comma (d : Draft) : Draft :=
  match d.groups with
  | [] => d.push (.literal ',')
  | g :: rest => ⟨[], { g with branches := d.current.reverse :: g.branches } :: rest⟩

def closeGroup (d : Draft) : Except Fault Draft :=
  match d.groups with
  | [] => .error .unopenedGroup
  | g :: rest =>
    .ok ⟨.group (d.current.reverse :: g.branches).reverse :: g.before, rest⟩

/-- The kinds of `**` between directories swallow the token before them, unless
that one already stands for any directories. -/
def mergeDirs (d : Draft) (t : Token) : Draft :=
  match d.current with
  | .leadingDirs :: _ | .trailingDirs :: _ => d
  | _ :: rest => { d with current := t :: rest }
  | [] => d

/-- Reads `**`, given the characters on both sides of it. The answer says also
whether the slash after it has been taken along. -/
def doubleStar (d : Draft) (before next : Option Char) : Draft × Bool :=
  let twoRuns := ((d.push .anyRun).push .anyRun, false)
  if d.current.isEmpty then
    if next = none || next = some '/' then (d.push .leadingDirs, true) else twoRuns
  else if before ≠ some '/' &&
      (d.groups.isEmpty || (before ≠ some ',' && before ≠ some '\x7b')) then twoRuns
  else if next = none || (!d.groups.isEmpty && (next = some ',' || next = some '\x7d')) then
    (d.mergeDirs .trailingDirs, false)
  else if next = some '/' then (d.mergeDirs .innerDirs, true)
  else twoRuns

end Draft

namespace ClassDraft

/-- The last range now ends at `c`. -/
def setEnd (k : ClassDraft) (c : Char) : Except Fault ClassDraft :=
  match k.ranges with
  | [] => .ok { k with awaitsEnd := false }
  | (low, _) :: rest =>
    if c < low then .error (.invalidRange low c)
    else .ok { k with ranges := (low, c) :: rest, awaitsEnd := false }

def add (k : ClassDraft) (c : Char) : ClassDraft :=
  { k with ranges := (c, c) :: k.ranges, awaitsEnd := false }

/-- Reads one character of a class. `none` means that the class is closed. A
`]` or `-` in first place stands for itself. -/
def read (k : ClassDraft) (c : Char) : Except Fault (Option ClassDraft) :=
  if k.ranges.isEmpty then .ok (some (k.add c))
  else if c = ']' then .ok none
  else if k.awaitsEnd then (k.setEnd c).map some
  else if c = '-' then .ok (some { k with awaitsEnd := true })
  else .ok (some (k.add c))

/-- A `-` in last place stands for itself. -/
def token (k : ClassDraft) : Token :=
  .oneOf k.negated (if k.awaitsEnd then ('-', '-') :: k.ranges else k.ranges).reverse

end ClassDraft

/-- Goes over a glob, knowing the character read last. -/
def scan : Mode → Option Char → Draft → Text → Except Fault Draft
  | .outside, _, d, [] => .ok d
  | .atClassStart, _, _, [] => .error .unclosedClass
  | .inClass _, _, _, [] => .error .unclosedClass
  | .atClassStart, _, d, c :: rest =>
    if c = '!' || c = '^' then scan (.inClass ⟨true, [], false⟩) (some c) d rest
    else scan (.inClass ⟨false, [(c, c)], false⟩) (some c) d rest
  | .inClass k, _, d, c :: rest =>
    match k.read c with
    | .error e => .error e
    | .ok (some k) => scan (.inClass k) (some c) d rest
    | .ok none => scan .outside (some c) (d.push k.token) rest
  | .outside, _, _, ['\\'] => .error .danglingEscape
  | .outside, _, d, '\\' :: c :: rest => scan .outside (some c) (d.push (.literal c)) rest
  | .outside, before, d, '*' :: '*' :: rest =>
    match rest with
    | [] => scan .outside (some '*') (d.doubleStar before none).1 []
    | c :: rest' =>
      match d.doubleStar before (some c) with
      | (d, true) => scan .outside (some c) d rest'
      | (d, false) => scan .outside (some '*') d (c :: rest')
  | .outside, _, d, c :: rest =>
    match c with
    | '?' => scan .outside (some c) (d.push .anyOne) rest
    | '*' => scan .outside (some c) (d.push .anyRun) rest
    | '[' => scan .atClassStart (some c) d rest
    | '\x7b' => scan .outside (some c) d.openGroup rest
    | '\x7d' =>
      match d.closeGroup with
      | .error e => .error e
      | .ok d => scan .outside (some c) d rest
    | ',' => scan .outside (some c) d.comma rest
    | _ => scan .outside (some c) (d.push (.literal c)) rest

end Glob

/-- A glob as written and as read. -/
structure Glob where
  source : Text
  tokens : List Glob.Token

namespace Glob

def parse (source : Text) : Except Fault Glob :=
  match scan .outside none ⟨[], []⟩ source with
  | .error e => .error e
  | .ok d => if d.groups.isEmpty then .ok ⟨source, d.current.reverse⟩ else .error .unclosedGroup

end Glob

end BuildManifest
