import BuildManifest.Shell.Sum

/-!
Regular expressions, of the basic and the extended kind. A match is the longest of
those that begin first. Matching goes from a list of spots in the text to the list
of spots that an expression leads to, the preferred ones first; of two ways to one
spot only the first is kept, so a list is never longer than the text.
-/

namespace BuildManifest

namespace Shell

/-- How expressions are written, and how characters are compared. -/
structure Dialect where
  extended : Bool
  /-- Whether escapes such as that of a newline stand for control characters. -/
  controls : Bool
  /-- Whether a backslash quotes within brackets. -/
  quotesInBrackets : Bool
  ignoreCase : Bool
  /-- Whether the anchors also match at the lines within a text. -/
  byLines : Bool

/-- Where a word begins, ends, does either, or does neither. -/
inductive Edge where
  | start
  | finish
  | either
  | neither

inductive Expression where
  | empty
  | one (accepts : Char → Bool)
  | start (byLines : Bool)
  | finish (byLines : Bool)
  | edge (kind : Edge)
  | sequence (a b : Expression)
  | choice (a b : Expression)
  | many (a : Expression) (least : Nat) (most : Option Nat)
  | group (number : Nat) (a : Expression)
  | same (number : Nat) (ignoreCase : Bool)

/-- A place in a text and the groups that were matched on the way there. -/
structure Spot where
  position : Nat
  groups : List (Nat × Nat × Nat)

namespace Expression

/-- Keeps the first of the spots at every place. -/
def distinct (size : Nat) (spots : List Spot) : List Spot :=
  match spots with
  | [] | [_] => spots
  | _ =>
    let step (acc : Array Bool × List Spot) (s : Spot) : Array Bool × List Spot :=
      if acc.1.getD s.position false then acc
      else (acc.1.setIfInBounds s.position true, s :: acc.2)
    (spots.foldl step (Array.replicate (size + 1) false, [])).2.reverse

def isWordCharacter (c : Char) : Bool := c.isAlphanum || c = '_'

def wordAt (t : Array Char) (i : Nat) : Bool := (t[i]?).any isWordCharacter

def atEdge (t : Array Char) (i : Nat) (kind : Edge) : Bool :=
  let before := i > 0 && wordAt t (i - 1)
  let after := wordAt t i
  match kind with
  | .start => !before && after
  | .finish => before && !after
  | .either => before != after
  | .neither => before == after

/-- How many characters from a place on are accepted, at most so many. -/
def runLength (t : Array Char) (accepts : Char → Bool) : (fuel : Nat) → Nat → Nat
  | 0, _ => 0
  | fuel + 1, i => if (t[i]?).any accepts then runLength t accepts fuel (i + 1) + 1 else 0

/-- The spots that are found when something is repeated, the later rounds first.
Spots that were found before lead to nothing new. -/
def rounds (size : Nat) (f : List Spot → List Spot) :
    (fuel : Nat) → (seen : Array Bool) → List Spot → List Spot
  | 0, _, spots => spots
  | fuel + 1, seen, spots =>
    let next := (distinct size (f spots)).filter fun s => !seen.getD s.position false
    if next.isEmpty then spots
    else
      let seen := next.foldl (fun a s => a.setIfInBounds s.position true) seen
      rounds size f fuel seen next ++ spots

def times (f : List Spot → List Spot) : Nat → List Spot → List Spot
  | 0, spots => spots
  | n + 1, spots => times f n (f spots)

/-- The spots that an expression leads to. -/
def run (t : Array Char) : Expression → List Spot → List Spot
  | .empty, spots => spots
  | .one accepts, spots =>
    spots.filterMap fun s =>
      if (t[s.position]?).any accepts then some { s with position := s.position + 1 } else none
  | .start byLines, spots =>
    spots.filter fun s => s.position = 0 || (byLines && t[s.position - 1]? = some '\n')
  | .finish byLines, spots =>
    spots.filter fun s => s.position = t.size || (byLines && t[s.position]? = some '\n')
  | .edge kind, spots => spots.filter fun s => atEdge t s.position kind
  | .sequence a b, spots => b.run t (a.run t spots)
  | .choice a b, spots =>
    distinct t.size (spots.flatMap fun s => a.run t [s] ++ b.run t [s])
  | .many (.one accepts) least most, spots =>
    distinct t.size (spots.flatMap fun s =>
      let available := runLength t accepts (min (most.getD t.size) t.size) s.position
      (List.range (available + 1 - least)).map fun i =>
        { s with position := s.position + available - i })
  | .many a least most, spots =>
    distinct t.size (spots.flatMap fun s =>
      let first := distinct t.size (times (a.run t) least [s])
      let seen := first.foldl (fun acc s => acc.setIfInBounds s.position true)
        (Array.replicate (t.size + 1) false)
      rounds t.size (a.run t) ((most.map fun m => m - least).getD (t.size + 1)) seen first)
  | .group number a, spots =>
    distinct t.size (spots.flatMap fun s =>
      (a.run t [s]).map fun e =>
        { e with groups := (number, s.position, e.position) :: e.groups })
  | .same number ignoreCase, spots =>
    spots.filterMap fun s =>
      match s.groups.lookup number with
      | none => none
      | some (i, j) =>
        let fold (c : Char) : Char := if ignoreCase then c.toLower else c
        let agrees := (List.range (j - i)).all fun k =>
          (t[s.position + k]?).map fold = (t[i + k]?).map fold
        if agrees then some { s with position := s.position + (j - i) } else none

def matchAt? (e : Expression) (t : Array Char) (i : Nat) : Option Spot :=
  (e.run t [⟨i, []⟩]).foldl (fun best s =>
    match best with
    | none => some s
    | some b => if s.position > b.position then some s else some b) none

/-- Whether every match begins at the front of the text. -/
def isAnchored : Expression → Bool
  | .start byLines => !byLines
  | .sequence a _ | .group _ a => a.isAnchored
  | .choice a b => a.isAnchored && b.isAnchored
  | _ => false

/-- The first match from a place on: where it begins and the spot it leads to. -/
def searchFrom (e : Expression) (t : Array Char) : (fuel : Nat) → Nat → Option (Nat × Spot)
  | 0, _ => none
  | fuel + 1, i =>
    match e.matchAt? t i with
    | some s => some (i, s)
    | none => searchFrom e t fuel (i + 1)

def search? (e : Expression) (t : Array Char) (i : Nat) : Option (Nat × Spot) :=
  if e.isAnchored && i > 0 then none
  else searchFrom e t (if e.isAnchored then 1 else t.size + 1 - i) i

def isIn (e : Expression) (t : Text) : Bool := (e.search? t.toArray 0).isSome

def slice (t : Array Char) (i j : Nat) : Text := (t.extract i j).toList

/-- What a group matched; the group zero is the whole match. -/
def groupText (t : Array Char) (start : Nat) (s : Spot) (number : Nat) : Text :=
  if number = 0 then slice t start s.position
  else
    match s.groups.lookup number with
    | some (i, j) => slice t i j
    | none => []

/-! ### Reading -/

/-- One character, whatever its case if need be. -/
def accepting (d : Dialect) (f : Char → Bool) : Expression :=
  .one (if d.ignoreCase then fun c => f c.toLower || f c.toUpper || f c else f)

def controlCharacter? (c : Char) : Option Char :=
  match c with
  | 'n' => some '\n'
  | 't' => some '\t'
  | 'r' => some '\r'
  | 'f' => some '\x0c'
  | 'v' => some '\x0b'
  | 'a' => some '\x07'
  | _ => none

/-- Reads the members of a set up to its bracket. -/
def readMembers (d : Dialect) :
    (fuel : Nat) → (first : Bool) → Text → Option ((Char → Bool) × Text)
  | 0, _, _ => none
  | _ + 1, _, [] => none
  | fuel + 1, first, c :: rest =>
    let joined (f : Char → Bool) (rest : Text) : Option ((Char → Bool) × Text) :=
      (readMembers d fuel false rest).map fun (g, after) => (fun x => f x || g x, after)
    if c = ']' && !first then some (fun _ => false, rest)
    else
      match c, rest with
      | '[', ':' :: more =>
        let name := more.takeWhile (· ≠ ':')
        match inClass? name, more.drop name.length with
        | some f, ':' :: ']' :: after => joined f after
        | _, _ => joined (· == c) rest
      | '[', '=' :: x :: '=' :: ']' :: after | '[', '.' :: x :: '.' :: ']' :: after =>
        joined (· == x) after
      | '\\', x :: after =>
        if d.quotesInBrackets then
          let y := if d.controls then (controlCharacter? x).getD x else x
          range joined y after
        else
          match d.controls, controlCharacter? x with
          | true, some y => joined (· == y) after
          | _, _ => range joined c rest
      | _, _ => range joined c rest
where
  range (joined : (Char → Bool) → Text → Option ((Char → Bool) × Text)) (c : Char)
      (rest : Text) : Option ((Char → Bool) × Text) :=
    match rest with
    | '-' :: ']' :: _ => joined (· == c) rest
    | '-' :: e :: after => joined (fun x => c ≤ x && x ≤ e) after
    | _ => joined (· == c) rest

def readSet? (d : Dialect) (t : Text) : Option (Expression × Text) :=
  match t with
  | '^' :: rest =>
    (readMembers d (rest.length + 1) true rest).map fun (f, after) =>
      (.one fun c => !(if d.ignoreCase then f c.toLower || f c.toUpper || f c else f c), after)
  | rest => (readMembers d (rest.length + 1) true rest).map fun (f, after) =>
      (accepting d f, after)

def readInterval? (extended : Bool) (t : Text) : Option (Nat × Option Nat × Text) :=
  let (low, rest) := digitsOf t
  let hasLow := t.head?.any Char.isDigit
  let closing (least : Nat) (most : Option Nat) (t : Text) : Option (Nat × Option Nat × Text) :=
    match extended, t with
    | true, '\x7d' :: after => some (least, most, after)
    | false, '\\' :: '\x7d' :: after => some (least, most, after)
    | _, _ => none
  match rest with
  | ',' :: more =>
    if more.head?.any Char.isDigit then closing low (some (digitsOf more).1) (digitsOf more).2
    else closing low none more
  | rest => if hasLow then closing low (some low) rest else none

def readRepeats (d : Dialect) : (fuel : Nat) → Expression → Text → Expression × Text
  | 0, e, t => (e, t)
  | fuel + 1, e, t =>
    let again (least : Nat) (most : Option Nat) (rest : Text) : Expression × Text :=
      readRepeats d fuel (.many e least most) rest
    match d.extended, t with
    | _, '*' :: rest => again 0 none rest
    | true, '+' :: rest | false, '\\' :: '+' :: rest => again 1 none rest
    | true, '?' :: rest | false, '\\' :: '?' :: rest => again 0 (some 1) rest
    | true, '\x7b' :: rest | false, '\\' :: '\x7b' :: rest =>
      match readInterval? d.extended rest with
      | some (least, most, rest) => again least most rest
      | none => (e, t)
    | _, _ => (e, t)

/-- What a backslash before a character means anywhere. -/
def readEscape (d : Dialect) (c : Char) : Expression :=
  match c with
  | 'w' => .one isWordCharacter
  | 'W' => .one fun c => !isWordCharacter c
  | 's' => .one isSpace
  | 'S' => .one fun c => !isSpace c
  | 'b' => .edge .either
  | 'B' => .edge .neither
  | '<' => .edge .start
  | '>' => .edge .finish
  | c =>
    if c.isDigit && c ≠ '0' then .same (digitValue c) d.ignoreCase
    else
      let c := if d.controls then (controlCharacter? c).getD c else c
      accepting d (· == c)

mutual

/-- Reads the alternatives of an expression or a group. The number is that of the
groups so far. -/
def readChoices (d : Dialect) : (fuel : Nat) → (depth groups : Nat) → Text →
    Option (Expression × Nat × Text)
  | 0, _, _, _ => none
  | fuel + 1, depth, groups, t =>
    match readSequence d fuel depth groups true t with
    | none => none
    | some (a, groups, rest) =>
      match d.extended, rest with
      | true, '|' :: rest | false, '\\' :: '|' :: rest =>
        (readChoices d fuel depth groups rest).map fun (b, groups, rest) =>
          (.choice a b, groups, rest)
      | _, _ => some (a, groups, rest)

def readSequence (d : Dialect) : (fuel : Nat) → (depth groups : Nat) → (first : Bool) → Text →
    Option (Expression × Nat × Text)
  | 0, _, _, _, _ => none
  | fuel + 1, depth, groups, first, t =>
    let ends : Bool := match d.extended, t with
      | _, [] => true
      | true, '|' :: _ => true
      | true, ')' :: _ => depth > 0
      | false, '\\' :: '|' :: _ => true
      | false, '\\' :: ')' :: _ => true
      | _, _ => false
    if ends then some (.empty, groups, t)
    else
      match readElement d fuel depth groups first t with
      | none => none
      | some (a, groups, rest) =>
        let isStart : Bool := match a with
          | .start _ => true
          | _ => false
        let (a, rest) := if isStart && !d.extended then (a, rest)
          else readRepeats d (rest.length + 1) a rest
        (readSequence d fuel depth groups false rest).map fun (b, groups, rest) =>
          (match b with
            | .empty => a
            | b => .sequence a b, groups, rest)

def readElement (d : Dialect) : (fuel : Nat) → (depth groups : Nat) → (first : Bool) → Text →
    Option (Expression × Nat × Text)
  | 0, _, _, _, _ => none
  | fuel + 1, depth, groups, first, t =>
    let group (rest : Text) : Option (Expression × Nat × Text) :=
      match readChoices d fuel (depth + 1) (groups + 1) rest with
      | none => none
      | some (a, inner, rest) =>
        match d.extended, rest with
        | true, ')' :: rest | false, '\\' :: ')' :: rest => some (.group (groups + 1) a, inner, rest)
        | _, _ => none
    let literal (c : Char) (rest : Text) : Option (Expression × Nat × Text) :=
      some (accepting d (· == c), groups, rest)
    match t with
    | [] => none
    | '.' :: rest => some (.one fun _ => true, groups, rest)
    | '[' :: rest => (readSet? d rest).map fun (e, rest) => (e, groups, rest)
    | '^' :: rest =>
      if d.extended || first then some (.start d.byLines, groups, rest) else literal '^' rest
    | '$' :: rest =>
      let closes : Bool := match rest with
        | [] => true
        | '\\' :: ')' :: _ | '\\' :: '|' :: _ => true
        | _ => false
      if d.extended || closes then some (.finish d.byLines, groups, rest) else literal '$' rest
    | '(' :: rest => if d.extended then group rest else literal '(' rest
    | '\\' :: '(' :: rest => if d.extended then literal '(' rest else group rest
    | '\\' :: c :: rest =>
      if c = '\'' then some (.finish false, groups, rest)
      else if c.toNat = 96 then some (.start false, groups, rest)
      else some (readEscape d c, groups, rest)
    | ['\\'] => none
    | c :: rest => literal c rest

end

def ofText? (d : Dialect) (t : Text) : Option Expression :=
  match readChoices d (4 * t.length + 8) 0 0 t with
  | some (e, _, []) => some e
  | _ => none

/-- An expression that matches a text as it is. -/
def literally (ignoreCase : Bool) (t : Text) : Expression :=
  t.foldr (fun c e =>
    .sequence (.one fun d => if ignoreCase then d.toLower = c.toLower else d = c) e) .empty

end Expression

end Shell

end BuildManifest
