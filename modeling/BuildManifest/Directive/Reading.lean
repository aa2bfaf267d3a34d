import BuildManifest.Directive

/-!
Reading one line of a manifest. A blank line, a comment and a line without a
colon hold no directive. Blanks around every part of a line are dropped.
-/

namespace BuildManifest

namespace Assignment

/-- `key: value`, cut at the first colon. -/
def read (text : Text) : Except LineFault Assignment :=
  match Text.cut? [':'] text with
  | none => .error (.malformedAssignment text)
  | some (key, value) =>
    if key.trim = [] then .error (.emptyKey text) else .ok ⟨key.trim, value.trim⟩

end Assignment

namespace Condition

/-- The parts of a condition as they stand between its separators. -/
structure Shape where
  key : Text
  expected : Text
  met : Text
  unmet : Option Text
  deriving DecidableEq, Repr

/-- Cuts at the first separator that has something before it. -/
def cutInner? (separator : Text) : Text → Option (Text × Text)
  | [] => none
  | c :: t => (Text.cut? separator t).map fun (left, right) => (c :: left, right)

/-- Divides the two actions at the first ` else ` between two of them; without
one there is a single action. -/
def actions (t : Text) : Text × Option Text :=
  match cutInner? " else " t with
  | some (met, c :: unmet) => (met, some (c :: unmet))
  | _ => (t, none)

/-- Finds the parts of `<key> is <expected> do <met> [else <unmet>]`. The key is
as short as possible and not empty, then the expected value is as short as
possible, and some action follows. -/
def shape? (t : Text) : Option Shape :=
  if '\n' ∈ t then none
  else
    match cutInner? " is " t with
    | none => none
    | some (key, rest) =>
      match Text.cut? " do " rest with
      | none | some (_, []) => none
      | some (expected, c :: rest) =>
        some ⟨key, expected, (actions (c :: rest)).1, (actions (c :: rest)).2⟩

def read (text : Text) : Except LineFault Condition :=
  match shape? text with
  | none => .error .illFormedCondition
  | some s => do
    let met ← Assignment.read s.met.trim
    match s.unmet with
    | none => .ok ⟨s.key.trim, s.expected.trim, met, none⟩
    | some unmet =>
      let unmet ← Assignment.read unmet.trim
      .ok ⟨s.key.trim, s.expected.trim, met, some unmet⟩

end Condition

namespace Directive

def readPattern (rest : Text) : Except LineFault Directive :=
  match Text.cut? [':'] rest with
  | none => .error .illFormedPattern
  | some (extension, template) =>
    if extension.trim = [] then .error .missingExtension
    else .ok (.pattern extension.trim template.trim)

def readOperand (keyword : Keyword) (rest : Text) (make : Text → Directive) :
    Except LineFault Directive :=
  if rest.trim = [] then .error (.missingOperand keyword) else .ok (make rest.trim)

/-- The entries between commas; empty ones do not count. -/
def entriesOf (rest : Text) : List Text :=
  ((Text.pieces ',' rest).map Text.trim).filter fun e => e ≠ []

/-- An entry with a variable can only be checked once the variable is known. -/
def isDeferred (entry : Text) : Bool := '$' ∈ entry

def checkEntries : List Text → Except LineFault Unit
  | [] => .ok ()
  | e :: rest =>
    if isDeferred e then checkEntries rest
    else
      match Exclusion.check e with
      | .ok () => checkEntries rest
      | .error bad => .error (.badExclusion bad)

def readExclusion (rest : Text) : Except LineFault Directive :=
  match checkEntries (entriesOf rest) with
  | .ok () => .ok (.exclude (entriesOf rest))
  | .error e => .error e

def readDownload (rest : Text) : Except LineFault Directive :=
  match Text.cut? " in " rest.trim with
  | none => .error .illFormedDownload
  | some (url, destination) =>
    if url.trim = [] ∨ destination.trim = [] then .error .incompleteDownload
    else .ok (.download url.trim destination.trim)

def readAfter (keyword : Keyword) (rest : Text) : Except LineFault Directive :=
  match keyword with
  | .pattern => readPattern rest
  | .command => readOperand keyword rest .command
  | .exclude => readExclusion rest
  | .check => readOperand keyword rest .check
  | .dependency => readOperand keyword rest .dependency
  | .download => readDownload rest
  | .condition => (Condition.read rest.trim).map .condition
  | .makeDirectory => readOperand keyword rest .makeDirectory

def readTrimmed (line : Text) : Except LineFault (Option Directive) :=
  if line = [] ∨ line.head? = some '#' then .ok none
  else
    match Keyword.ofLine? line with
    | some (keyword, rest) => (readAfter keyword rest).map some
    | none =>
      if ':' ∈ line then (Assignment.read line).map fun a => some (.assign a) else .ok none

/-- The directive of a line, if it has one. -/
def read? (line : Text) : Except LineFault (Option Directive) := readTrimmed line.trim

end Directive

end BuildManifest
