import BuildManifest.Path
import BuildManifest.Shell.Expression

/-!
Scripts of the line editor `sed`: their commands, the lines that each is for, and
how they are read.
-/

namespace BuildManifest

namespace Shell

namespace Editor

/-- What a line is told by. An expression that is left out is the one used last. -/
inductive Address where
  | line (n : Nat)
  | last
  | matching (e : Option Expression)
  | every (first step : Nat)

inductive Finish where
  | address (a : Address)
  | plus (n : Nat)
  | multiple (n : Nat)

structure Selector where
  first : Option Address
  finish : Option Finish
  negated : Bool

inductive Part where
  | text (t : Text)
  | group (n : Nat)
  /-- A change of case: of all that follows or of the next character, or its end. -/
  | letters (kind : Char)

structure Substitution where
  expression : Option Expression
  parts : List Part
  everywhere : Bool
  number : Nat
  prints : Bool
  file : Option Path

inductive Deed where
  | openBlock
  | closeBlock
  | label (name : Text)
  /-- Goes to a label, or to the end: always, or only if something has or has not
  been substituted. -/
  | jump (kind : Char) (name : Text)
  /-- Text to come after the line, before it, or in its place. -/
  | text (kind : Char) (t : Text)
  | quit (prints : Bool) (status : Nat)
  | readFile (byLine : Bool) (p : Path)
  | writeFile (p : Path)
  | substitute (s : Substitution)
  | transliterate (pairs : List (Char × Char))
  | plain (kind : Char)

abbrev Instruction := Selector × Deed

def skipBlanks (t : Text) : Text := t.dropWhile isSpace

def skipSigns (t : Text) : Text := t.dropWhile fun c => isSpace c || c = ';'

/-- The text up to a delimiter. Within brackets and after a backslash it does not
count; `isPattern` says whether brackets have a meaning. -/
def delimited (delimiter : Char) (isPattern : Bool) :
    (fuel : Nat) → (inSet : Option Nat) → Text → Option (Text × Text)
  | 0, _, _ => none
  | _ + 1, _, [] => none
  | fuel + 1, inSet, c :: rest =>
    let keep (cs : Text) (inSet : Option Nat) (rest : Text) : Option (Text × Text) :=
      (delimited delimiter isPattern fuel inSet rest).map fun (t, after) => (cs ++ t, after)
    match inSet with
    | some n =>
      let opensClass : Bool := c = '[' && rest.head? = some ':'
      if opensClass then
        let name := rest.takeWhile (· ≠ ']')
        keep ('[' :: name ++ [']']) (some (n + 1)) (rest.drop (name.length + 1))
      else if c = '\\' && rest.head? = some 'n' then keep ['\n'] (some (n + 1)) rest.tail
      else if c = ']' && n > 0 then keep [c] none rest
      else keep [c] (some (if c = '^' && n = 0 then 0 else n + 1)) rest
    | none =>
      if c = delimiter then some ([], rest)
      else if c = '\\' then
        match rest with
        | [] => none
        | d :: rest =>
          if isPattern && d = 'n' then keep ['\n'] none rest
          else if d = delimiter && !(d = '&' && !isPattern) then keep [d] none rest
          else keep ['\\', d] none rest
      else if c = '\n' && isPattern then none
      else if c = '[' && isPattern && delimiter ≠ '[' then keep [c] (some 0) rest
      else keep [c] none rest

def between (delimiter : Char) (isPattern : Bool) (t : Text) : Option (Text × Text) :=
  delimited delimiter isPattern (t.length + 1) none t

/-- Reads an expression; the empty one stands for the one used last. -/
def pattern? (extended ignoreCase byLines : Bool) (t : Text) : Option (Option Expression) :=
  if t.isEmpty then some none
  else (Expression.ofText? ⟨extended, true, false, ignoreCase, byLines⟩ t).map some

def parts : (fuel : Nat) → Text → List Part
  | _, [] => []
  | 0, _ :: _ => []
  | fuel + 1, '\\' :: c :: rest =>
    if c.isDigit then .group (digitValue c) :: parts fuel rest
    else if ("ULEul" : Text).contains c then .letters c :: parts fuel rest
    else .text [(Expression.controlCharacter? c).getD c] :: parts fuel rest
  | fuel + 1, '&' :: rest => .group 0 :: parts fuel rest
  | fuel + 1, c :: rest => .text [c] :: parts fuel rest

def readAddress (extended : Bool) (t : Text) : Option (Option Address × Text) :=
  let matching (delimiter : Char) (rest : Text) : Option (Option Address × Text) :=
    match between delimiter true rest with
    | none => none
    | some (p, rest) =>
      let flags := rest.takeWhile fun c => c = 'I' || c = 'M'
      (pattern? extended (flags.contains 'I') (flags.contains 'M') p).map fun e =>
        (some (.matching e), rest.drop flags.length)
  match t with
  | '/' :: rest => matching '/' rest
  | '\\' :: c :: rest => matching c rest
  | '$' :: rest => some (some .last, rest)
  | c :: _ =>
    if c.isDigit then
      let (n, rest) := digitsOf t
      match rest with
      | '~' :: rest => some (some (.every n (digitsOf rest).1), (digitsOf rest).2)
      | rest => some (some (.line n), rest)
    else some (none, t)
  | [] => some (none, [])

def readSelector (extended : Bool) (t : Text) : Option (Selector × Text) := do
  let (first, rest) ← readAddress extended t
  let (finish, rest) ← match first, skipBlanks rest with
    | some _, ',' :: rest =>
      match skipBlanks rest with
      | '+' :: rest => some (some (Finish.plus (digitsOf rest).1), (digitsOf rest).2)
      | '~' :: rest => some (some (Finish.multiple (digitsOf rest).1), (digitsOf rest).2)
      | rest =>
        match readAddress extended rest with
        | some (some a, rest) => some (some (Finish.address a), rest)
        | _ => none
    | _, _ => some (none, rest)
  match skipBlanks rest with
  | '!' :: rest => some (⟨first, finish, true⟩, rest.dropWhile fun c => isSpace c || c = '!')
  | rest => some (⟨first, finish, false⟩, rest)

/-- Reads the text of a command up to the end of a line that no backslash ends. -/
def readText : Text → Text × Text
  | [] => (['\n'], [])
  | '\\' :: c :: rest =>
    let (t, after) := readText rest
    (c :: t, after)
  | '\n' :: rest => (['\n'], rest)
  | c :: rest =>
    let (t, after) := readText rest
    (c :: t, after)

def textStart (t : Text) : Option Text :=
  match t.dropWhile fun c => c = ' ' || c = '\t' with
  | [] => none
  | '\\' :: rest =>
    match rest.dropWhile fun c => c = ' ' || c = '\t' with
    | '\n' :: more => some more
    | [] => none
    | _ => some rest
  | rest => some rest

structure Flags where
  everywhere : Bool
  number : Nat
  prints : Bool
  ignoreCase : Bool
  byLines : Bool
  file : Option Path

def readFlags : (fuel : Nat) → Flags → Text → Option (Flags × Text)
  | 0, f, t => some (f, t)
  | fuel + 1, f, t =>
    match t with
    | 'g' :: rest => readFlags fuel { f with everywhere := true } rest
    | 'p' :: rest => readFlags fuel { f with prints := true } rest
    | 'i' :: rest | 'I' :: rest => readFlags fuel { f with ignoreCase := true } rest
    | 'm' :: rest | 'M' :: rest => readFlags fuel { f with byLines := true } rest
    | 'w' :: rest =>
      let name := (skipBlanks rest).takeWhile (· ≠ '\n')
      some ({ f with file := some name }, (skipBlanks rest).drop name.length)
    | c :: _ =>
      if c.isDigit then
        let (n, rest) := digitsOf t
        if n = 0 then none else readFlags fuel { f with number := n } rest
      else some (f, t)
    | [] => some (f, [])

/-- What the text after a command may be: the end, a sign that ends commands, or the
brace that ends a block. -/
def closes (t : Text) : Option Text :=
  match t.dropWhile fun c => c = ' ' || c = '\t' || c = '\r' with
  | [] => some []
  | ';' :: rest | '\n' :: rest => some rest
  | '\x7d' :: rest => some ('\x7d' :: rest)
  | '#' :: rest => some ('#' :: rest)
  | _ => none

def readDeed (extended : Bool) (t : Text) : Except Text (Deed × Text) :=
  let ended (d : Deed) (t : Text) : Except Text (Deed × Text) :=
    match closes t with
    | some rest => .ok (d, rest)
    | none => .error "extra characters after command"
  let lineOf (t : Text) : Text × Text :=
    let t := t.dropWhile fun c => c = ' ' || c = '\t'
    (t.takeWhile (· ≠ '\n'), t.dropWhile (· ≠ '\n'))
  match t with
  | [] => .error "missing command"
  | c :: rest =>
    if c = '\x7b' then .ok (.openBlock, rest)
    else if c = '\x7d' then ended .closeBlock rest
    else if ("=dDgGhHnNpPxzFl" : Text).contains c then
      let rest := if c = 'l' then (skipBlanks rest).dropWhile Char.isDigit else rest
      ended (.plain c) rest
    else if c = ':' then
      let t := skipBlanks rest
      let name := t.takeWhile fun c => !isSpace c && c ≠ ';'
      if name.isEmpty then .error "\":\" lacks a label"
      else .ok (.label name, t.drop name.length)
    else if c = 'b' || c = 't' || c = 'T' then
      let t := rest.dropWhile fun c => c = ' ' || c = '\t'
      let name := t.takeWhile fun c => !isSpace c && c ≠ ';' && c ≠ '\x7d'
      ended (.jump c name) (t.drop name.length)
    else if c = 'a' || c = 'i' || c = 'c' then
      match textStart rest with
      | none => .error "expected \\ after `a', `c' or `i'"
      | some start =>
        let (text, after) := readText start
        .ok (.text c text, after)
    else if c = 'q' || c = 'Q' then
      let t := skipBlanks rest
      ended (.quit (c = 'q') (digitsOf t).1) (digitsOf t).2
    else if c = 'r' || c = 'R' then
      let (p, after) := lineOf rest
      if p.isEmpty then .error "missing filename in r/R/w/W commands"
      else .ok (.readFile (c = 'R') p, after)
    else if c = 'w' then
      let (p, after) := lineOf rest
      if p.isEmpty then .error "missing filename in r/R/w/W commands"
      else .ok (.writeFile p, after)
    else if c = 's' then
      match rest with
      | [] => .error "unterminated `s' command"
      | delimiter :: rest =>
        match between delimiter true rest with
        | none => .error "unterminated `s' command"
        | some (p, rest) =>
          match between delimiter false rest with
          | none => .error "unterminated `s' command"
          | some (r, rest) =>
            match readFlags (rest.length + 1) ⟨false, 1, false, false, false, none⟩ rest with
            | none => .error "number option to `s' command may not be zero"
            | some (f, rest) =>
              match pattern? extended f.ignoreCase f.byLines p, closes rest with
              | none, _ => .error "Invalid preceding regular expression"
              | _, none => .error "unknown option to `s'"
              | some e, some rest =>
                .ok (.substitute ⟨e, parts (r.length + 1) r, f.everywhere, f.number, f.prints,
                  f.file⟩, rest)
    else if c = 'y' then
      match rest with
      | [] => .error "unterminated `y' command"
      | delimiter :: rest =>
        let plain (t : Text) : Text := ((parts (t.length + 1) (t.flatMap fun c =>
          if c = '&' then ['\\', '&'] else [c])).map fun p => match p with
            | .text t => t
            | .group n => Text.ofNat n
            | .letters c => [c]).flatten
        match between delimiter false rest with
        | none => .error "unterminated `y' command"
        | some (a, rest) =>
          match between delimiter false rest with
          | none => .error "unterminated `y' command"
          | some (b, rest) =>
            if (plain a).length ≠ (plain b).length then
              .error "strings for `y' command are different lengths"
            else ended (.transliterate ((plain a).zip (plain b))) rest
    else .error (("unknown command: `" : Text) ++ [c, '\''])

/-- Reads commands to the end of a script of so many characters. -/
def readAll (extended : Bool) (size : Nat) :
    (fuel : Nat) → (depth : Nat) → Text → Except (Nat × Text) (List Instruction)
  | 0, _, _ => .ok []
  | fuel + 1, depth, t =>
    match skipSigns t with
    | [] => if depth > 0 then .error (0, "unmatched `\x7b'") else .ok []
    | '#' :: rest => readAll extended size fuel depth (rest.dropWhile (· ≠ '\n'))
    | t =>
      match readSelector extended t with
      | none =>
        if (t.drop 1).head? = some ',' then .error (size - t.length + 3, "unexpected `,'")
        else .error (size, "unterminated address regex")
      | some (selector, t) =>
        match readDeed extended t with
        | .error what =>
          .error (if what.has "unterminated" || what.has "option to" || what.has "regular"
            then size else size - t.length + 1, what)
        | .ok (deed, rest) =>
          let depth? : Option Nat := match deed with
            | .openBlock => some (depth + 1)
            | .closeBlock => if depth = 0 then none else some (depth - 1)
            | _ => some depth
          match depth? with
          | none => .error (size - t.length + 1, "unexpected `\x7d'")
          | some depth =>
            (readAll extended size fuel depth rest).map ((selector, deed) :: ·)

def read (extended : Bool) (t : Text) : Except (Nat × Text) (List Instruction) :=
  readAll extended t.length (t.length + 1) 0 t

end Editor

end Shell

end BuildManifest
