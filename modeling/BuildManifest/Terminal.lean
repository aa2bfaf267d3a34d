import BuildManifest.Text

/-!
What a text shows once the control sequences of terminals are taken out of it.
Of the control characters only blanks are left. A blank inside a sequence is
shown too and interrupts it: the sequence goes on at the next control character.
-/

namespace BuildManifest

namespace Terminal

/-- How far a control sequence has been read. -/
inductive Phase where
  | none
  | escape
  | escapeTail
  | controlHead
  | controlParameters
  | controlTail
  | controlIgnored
  | deviceHead
  | deviceParameters
  | deviceTail
  | string
  | title
  deriving DecidableEq, Repr

def isIn (c : Char) (low high : Nat) : Bool := low ≤ c.toNat && c.toNat ≤ high

def Phase.afterEscape (c : Char) : Phase :=
  if isIn c 0x20 0x2F then .escapeTail
  else if c = '[' then .controlHead
  else if c = ']' then .title
  else if c = 'P' then .deviceHead
  else if c = 'X' || c = '^' || c = '_' then .string
  else .none

/-- The phase after a character that is neither a control character nor outside
ASCII. -/
def Phase.afterVisible (p : Phase) (c : Char) : Phase :=
  match p with
  | .none => .none
  | .escape => Phase.afterEscape c
  | .escapeTail => if isIn c 0x20 0x2F then .escapeTail else .none
  | .controlHead =>
    if isIn c 0x20 0x2F then .controlTail
    else if isIn c 0x30 0x3F then .controlParameters
    else .none
  | .controlParameters =>
    if isIn c 0x20 0x2F then .controlTail
    else if isIn c 0x30 0x3B then .controlParameters
    else if isIn c 0x3C 0x3F then .controlIgnored
    else .none
  | .controlTail =>
    if isIn c 0x20 0x2F then .controlTail
    else if isIn c 0x30 0x3F then .controlIgnored
    else .none
  | .controlIgnored => if isIn c 0x20 0x3F then .controlIgnored else .none
  | .deviceHead =>
    if isIn c 0x20 0x2F then .deviceTail
    else if isIn c 0x30 0x3F then .deviceParameters
    else .string
  | .deviceParameters =>
    if isIn c 0x20 0x2F then .deviceTail
    else if isIn c 0x30 0x3B then .deviceParameters
    else .string
  | .deviceTail => if isIn c 0x20 0x2F then .deviceTail else .string
  | .string => .string
  | .title => .title

/-- Whether a sequence in this phase lets blanks through. -/
def Phase.showsBlanks : Phase → Bool
  | .deviceHead | .deviceParameters | .deviceTail | .string | .title => false
  | _ => true

/-- The phase after a character outside ASCII: one of its bytes may end a
string. -/
def Phase.afterForeign (p : Phase) (c : Char) : Phase :=
  if p = .string && (String.utf8EncodeChar c).contains 0x9C then .none else p

def Phase.afterControl (p : Phase) (c : Char) : Phase :=
  if c = '\x1b' then .escape
  else if c = '\x18' || c = '\x1a' then .none
  else if c = '\x07' && p = .title then .none
  else p

def isShownBlank (c : Char) : Bool := c = '\t' || c = '\n' || c = '\x0c' || c = '\r'

def isControl (c : Char) : Bool := c.toNat < 0x20 || c = '\x7f'

/-- What is shown from a place on. `showing` says that the character before it
was shown; then all but control characters are, whatever sequence has been
interrupted. -/
def shownFrom : (p : Phase) → (showing : Bool) → Text → Text
  | _, _, [] => []
  | p, showing, c :: rest =>
    if isShownBlank c && p.showsBlanks then c :: shownFrom p true rest
    else if isControl c then shownFrom (p.afterControl c) false rest
    else if p = .none || (showing && c.toNat < 128) then c :: shownFrom p true rest
    else if c.toNat < 128 then shownFrom (p.afterVisible c) false rest
    else if showing then c :: shownFrom .none true rest
    else shownFrom (p.afterForeign c) false rest

/-- The text without control sequences. -/
def shown (t : Text) : Text := shownFrom .none false t

end Terminal

end BuildManifest
