import BuildManifest.Shell.Decimal
import BuildManifest.Shell.Records.Tree
import BuildManifest.Shell.Tree

/-!
How scripts for records are read. A slash begins an expression only where a value
may begin, so the reader goes by the grammar from the first character on.
-/

namespace BuildManifest

namespace Shell

namespace Records

def skip : Text → Text
  | ' ' :: t => skip t
  | '\t' :: t => skip t
  | '\r' :: t => skip t
  | '\\' :: '\n' :: t => skip t
  | '#' :: t => t.dropWhile (· ≠ '\n')
  | t => t

/-- Goes to the next token, past line ends. -/
def skipAll : (fuel : Nat) → Text → Text
  | 0, t => t
  | fuel + 1, t =>
    match skip t with
    | '\n' :: rest => skipAll fuel rest
    | t => t

def toToken (t : Text) : Text := skipAll (t.length + 1) t

/-- Goes past line ends and semicolons. -/
def skipEnds : (fuel : Nat) → Text → Text
  | 0, t => t
  | fuel + 1, t =>
    match skip t with
    | '\n' :: rest | ';' :: rest => skipEnds fuel rest
    | t => t

def name? (t : Text) : Option (Text × Text) :=
  match t with
  | c :: _ =>
    if isNameStart c then some (t.takeWhile isNameCharacter, t.dropWhile isNameCharacter) else none
  | [] => none

def word? (w : Text) (t : Text) : Option Text :=
  match name? (skip t) with
  | some (n, rest) => if n = w then some rest else none
  | none => none

def sign? (s : Text) (t : Text) : Option Text := Text.after? s (skip t)

def octalDigits (t : Text) : Text := (t.take 3).takeWhile isOctalDigit

/-- The text of a literal up to its closing quote. -/
def readString : (fuel : Nat) → Text → Option (Text × Text)
  | 0, _ => none
  | _ + 1, [] => none
  | _ + 1, '"' :: rest => some ([], rest)
  | fuel + 1, '\\' :: c :: rest =>
    let go (out : Text) (rest : Text) : Option (Text × Text) :=
      (readString fuel rest).map fun (t, after) => (out ++ t, after)
    match c with
    | '"' => go ['"'] rest
    | '\\' => go ['\\'] rest
    | '/' => go ['/'] rest
    | 'b' => go ['\x08'] rest
    | '\n' => go [] rest
    | _ =>
      if isOctalDigit c then
        let digits := octalDigits (c :: rest)
        go [Char.ofNat (valueIn 8 digits % 256)] ((c :: rest).drop digits.length)
      else
        match Expression.controlCharacter? c with
        | some d => go [d] rest
        | none => go ['\\', c] rest
  | _ + 1, '\n' :: _ => none
  | fuel + 1, c :: rest => (readString fuel rest).map fun (t, after) => (c :: t, after)

/-- The text of an expression up to the slash that ends it. -/
def readPattern : Text → Option (Text × Text)
  | [] => none
  | '/' :: rest => some ([], rest)
  | '\\' :: '/' :: rest => (readPattern rest).map fun (t, after) => ('/' :: t, after)
  | '\\' :: c :: rest => (readPattern rest).map fun (t, after) => ('\\' :: c :: t, after)
  | '\n' :: _ => none
  | c :: rest => (readPattern rest).map fun (t, after) => (c :: t, after)

def dialect : Dialect := ⟨true, true, true, false, false⟩

def expression? (t : Text) : Option Expression := Expression.ofText? dialect t

def isTarget : Term → Bool
  | .variable _ | .element _ _ | .field _ => true
  | _ => false

/-- The operation of an assignment sign, if one comes next. -/
def assigning? (t : Text) : Option (Option Char × Text) :=
  match skip t with
  | '=' :: '=' :: _ => none
  | '=' :: rest => some (none, rest)
  | c :: '=' :: rest => if ("+-*/%^" : Text).contains c then some (some c, rest) else none
  | _ => none

/-- Whether a value that is to be joined to the one before begins here. -/
def beginsOperand (t : Text) : Bool :=
  match t with
  | [] => false
  | c :: _ =>
    match name? t with
    | some (n, _) => !keywords.contains n
    | none => c.isDigit || c = '"' || c = '$' || c = '(' ||
        (c = '.' && (t.drop 1).head?.any Char.isDigit)

/-- What a value may not hold outside brackets: the word `in`, or the sign that is
greater than. -/
structure Limits where
  noIn : Bool
  noGreater : Bool

def free : Limits := ⟨false, false⟩

mutual

def readTerm : (fuel : Nat) → Limits → Text → Option (Term × Text)
  | 0, _, _ => none
  | fuel + 1, l, t =>
    match readEither fuel l t with
    | none => none
    | some (a, rest) =>
      match sign? ['?'] rest with
      | none => some (a, rest)
      | some rest => do
        let (b, rest) ← readTerm fuel l (toToken rest)
        let rest ← Text.after? [':'] (toToken rest)
        let (c, rest) ← readTerm fuel l (toToken rest)
        some (.choice a b c, rest)

def readEither : (fuel : Nat) → Limits → Text → Option (Term × Text)
  | 0, _, _ => none
  | fuel + 1, l, t => do
    let (a, rest) ← readBoth fuel l t
    match sign? ['|', '|'] rest with
    | none => some (a, rest)
    | some rest =>
      let (b, rest) ← readEither fuel l (toToken rest)
      some (.either a b, rest)

def readBoth : (fuel : Nat) → Limits → Text → Option (Term × Text)
  | 0, _, _ => none
  | fuel + 1, l, t => do
    let (a, rest) ← readMember fuel l t
    match sign? ['&', '&'] rest with
    | none => some (a, rest)
    | some rest =>
      let (b, rest) ← readBoth fuel l (toToken rest)
      some (.both a b, rest)

def readMember : (fuel : Nat) → Limits → Text → Option (Term × Text)
  | 0, _, _ => none
  | fuel + 1, l, t => do
    let (a, rest) ← readFit fuel l t
    readMembers fuel l a rest

def readMembers : (fuel : Nat) → Limits → Term → Text → Option (Term × Text)
  | 0, _, a, t => some (a, t)
  | fuel + 1, l, a, t =>
    match (if l.noIn then none else word? "in" t) with
    | none => some (a, t)
    | some rest => do
      let (array, rest) ← name? (skip rest)
      let indices := match a with
        | .group ts => ts
        | a => [a]
      readMembers fuel l (.isIn indices array) rest

def readFit : (fuel : Nat) → Limits → Text → Option (Term × Text)
  | 0, _, _ => none
  | fuel + 1, l, t => do
    let (a, rest) ← readComparison fuel l t
    readFits fuel l a rest

def readFits : (fuel : Nat) → Limits → Term → Text → Option (Term × Text)
  | 0, _, a, t => some (a, t)
  | fuel + 1, l, a, t =>
    match sign? ['~'] t, sign? ['!', '~'] t with
    | some rest, _ => do
      let (b, rest) ← readComparison fuel l rest
      readFits fuel l (.fits false a b) rest
    | none, some rest => do
      let (b, rest) ← readComparison fuel l rest
      readFits fuel l (.fits true a b) rest
    | none, none => some (a, t)

def readComparison : (fuel : Nat) → Limits → Text → Option (Term × Text)
  | 0, _, _ => none
  | fuel + 1, l, t => do
    let (a, rest) ← readJoined fuel l t
    let (a, rest) ← readLines fuel a rest
    let with? (operator : Text) (rest : Text) : Option (Term × Text) := do
      let (b, rest) ← readJoined fuel l rest
      some (.binary operator a b, rest)
    match skip rest with
    | '<' :: '=' :: more => with? "<=" more
    | '<' :: more => with? "<" more
    | '=' :: '=' :: more => with? "==" more
    | '!' :: '=' :: more => with? "!=" more
    | '>' :: '=' :: more => if l.noGreater then some (a, rest) else with? ">=" more
    | '>' :: '>' :: _ => some (a, rest)
    | '>' :: more => if l.noGreater then some (a, rest) else with? ">" more
    | _ => some (a, rest)

def readLines : (fuel : Nat) → Term → Text → Option (Term × Text)
  | 0, a, t => some (a, t)
  | fuel + 1, a, t =>
    match (sign? ['|'] t).bind (word? "getline") with
    | none => some (a, t)
    | some rest => do
      let (target, rest) ← readGetTarget fuel rest
      readLines fuel (.getLine .command (some a) target) rest

/-- Reads the variable that a line is to go to, if one is named. -/
def readGetTarget : (fuel : Nat) → Text → Option (Option Term × Text)
  | 0, t => some (none, t)
  | fuel + 1, t =>
    let begins : Bool := match skip t with
      | '$' :: _ => true
      | t => (name? t).any fun n => !keywords.contains n.1 && !builtins.contains n.1
    if begins then do
      let (a, rest) ← readPlace fuel (skip t)
      some (some a, rest)
    else some (none, t)

/-- Reads values that are joined as texts. -/
def readJoined : (fuel : Nat) → Limits → Text → Option (Term × Text)
  | 0, _, _ => none
  | fuel + 1, l, t => do
    let (a, rest) ← readSum fuel l t
    readMoreJoined fuel l a rest

def readMoreJoined : (fuel : Nat) → Limits → Term → Text → Option (Term × Text)
  | 0, _, a, t => some (a, t)
  | fuel + 1, l, a, t =>
    if beginsOperand (skip t) then do
      let (b, rest) ← readSum fuel l t
      readMoreJoined fuel l (.binary [' '] a b) rest
    else some (a, t)

def readSum : (fuel : Nat) → Limits → Text → Option (Term × Text)
  | 0, _, _ => none
  | fuel + 1, l, t => do
    let (a, rest) ← readProduct fuel l t
    readMoreSum fuel l a rest

def readMoreSum : (fuel : Nat) → Limits → Term → Text → Option (Term × Text)
  | 0, _, a, t => some (a, t)
  | fuel + 1, l, a, t =>
    match skip t with
    | c :: rest =>
      if (c = '+' || c = '-') && rest.head? ≠ some '=' then do
        let (b, rest) ← readProduct fuel l rest
        readMoreSum fuel l (.binary [c] a b) rest
      else some (a, t)
    | [] => some (a, t)

def readProduct : (fuel : Nat) → Limits → Text → Option (Term × Text)
  | 0, _, _ => none
  | fuel + 1, l, t => do
    let (a, rest) ← readUnary fuel l t
    readMoreProduct fuel l a rest

def readMoreProduct : (fuel : Nat) → Limits → Term → Text → Option (Term × Text)
  | 0, _, a, t => some (a, t)
  | fuel + 1, l, a, t =>
    match skip t with
    | c :: rest =>
      if (c = '*' || c = '/' || c = '%') && rest.head? ≠ some '=' then do
        let (b, rest) ← readUnary fuel l rest
        readMoreProduct fuel l (.binary [c] a b) rest
      else some (a, t)
    | [] => some (a, t)

def readUnary : (fuel : Nat) → Limits → Text → Option (Term × Text)
  | 0, _, _ => none
  | fuel + 1, l, t =>
    match skip t with
    | '+' :: '+' :: _ | '-' :: '-' :: _ => readPower fuel l t
    | c :: rest =>
      if c = '!' || c = '-' || c = '+' then do
        let (a, rest) ← readUnary fuel l rest
        some (.unary c a, rest)
      else readPower fuel l t
    | [] => none

def readPower : (fuel : Nat) → Limits → Text → Option (Term × Text)
  | 0, _, _ => none
  | fuel + 1, l, t => do
    let (a, rest) ← readPostfix fuel l t
    match skip rest with
    | '^' :: more =>
      if more.head? = some '=' then some (a, rest)
      else
        let (b, rest) ← readUnary fuel l more
        some (.binary ['^'] a b, rest)
    | _ => some (a, rest)

/-- Reads a value and what may follow it if it can be assigned to. -/
def readPostfix : (fuel : Nat) → Limits → Text → Option (Term × Text)
  | 0, _, _ => none
  | fuel + 1, l, t => do
    let (a, rest) ← readPrimary fuel l (skip t)
    if !isTarget a then some (a, rest)
    else
      match skip rest with
      | '+' :: '+' :: more => some (.step true 1.0 a, more)
      | '-' :: '-' :: more => some (.step true (-1.0) a, more)
      | _ =>
        match assigning? rest with
        | none => some (a, rest)
        | some (operator, rest) =>
          let (b, rest) ← readTerm fuel l (toToken rest)
          some (.assign operator a b, rest)

def readPlace : (fuel : Nat) → Text → Option (Term × Text)
  | 0, _ => none
  | fuel + 1, t =>
    match t with
    | '$' :: rest =>
      match skip rest with
      | '+' :: '+' :: more => do
        let (a, rest) ← readPlace fuel (skip more)
        some (.field (.step false 1.0 a), rest)
      | '-' :: '-' :: more => do
        let (a, rest) ← readPlace fuel (skip more)
        some (.field (.step false (-1.0) a), rest)
      | '-' :: more => do
        let (a, rest) ← readPrimary fuel free (skip more)
        some (.field (.unary '-' a), rest)
      | more => do
        let (a, rest) ← readPrimary fuel free more
        some (.field a, rest)
    | _ => do
      let (n, rest) ← name? t
      match rest with
      | '[' :: more =>
        let (indices, rest) ← readList fuel free more
        let rest ← Text.after? [']'] (toToken rest)
        some (.element n indices, rest)
      | _ => some (.variable n, rest)

def readPrimary : (fuel : Nat) → Limits → Text → Option (Term × Text)
  | 0, _, _ => none
  | fuel + 1, l, t =>
    match t with
    | [] => none
    | '"' :: rest => (readString (rest.length + 1) rest).map fun (s, rest) => (.text s, rest)
    | '/' :: rest => do
      let (p, rest) ← readPattern rest
      let e ← expression? p
      some (.pattern e, rest)
    | '(' :: rest => do
      let (ts, rest) ← readList fuel free rest
      let rest ← Text.after? [')'] (toToken rest)
      match ts with
      | [] => none
      | [a] => some (if isTarget a then .group [a] else a, rest)
      | ts => some (.group ts, rest)
    | '$' :: _ => readPlace fuel t
    | '+' :: '+' :: rest => do
      let (a, rest) ← readPlace fuel (skip rest)
      some (.step false 1.0 a, rest)
    | '-' :: '-' :: rest => do
      let (a, rest) ← readPlace fuel (skip rest)
      some (.step false (-1.0) a, rest)
    | '-' :: rest => (readPrimary fuel l (skip rest)).map fun (a, rest) => (.unary '-' a, rest)
    | '!' :: rest => (readPrimary fuel l (skip rest)).map fun (a, rest) => (.unary '!' a, rest)
    | c :: _ =>
      match name? t with
      | some (n, rest) =>
        if n = ("getline" : Text) then do
          let (target, rest) ← readGetTarget fuel rest
          match skip rest with
          | '<' :: more =>
            let (file, rest) ← readPrimary fuel free (skip more)
            some (.getLine .file (some file) target, rest)
          | _ => some (.getLine .records none target, rest)
        else if keywords.contains n then none
        else if builtins.contains n then
          match skip rest with
          | '(' :: more => do
            let (ts, rest) ← readList fuel free more
            let rest ← Text.after? [')'] (toToken rest)
            some (.builtin n ts, rest)
          | _ => if n = ("length" : Text) then some (.builtin n [], rest) else none
        else
          match rest with
          | '(' :: more => do
            let (ts, rest) ← readList fuel free more
            let rest ← Text.after? [')'] (toToken rest)
            some (.call n ts, rest)
          | _ => readPlace fuel t
      | none =>
        if c.isDigit || c = '.' then
          match Decimal.readDigits? t with
          | none => none
          | some (n, places, rest) =>
            let (e, rest) := Decimal.readExponent rest
            let e := e - places
            some (.number (Float.ofScientific n (e < 0) e.natAbs), rest)
        else none

def readList : (fuel : Nat) → Limits → Text → Option (List Term × Text)
  | 0, _, _ => none
  | fuel + 1, l, t =>
    match toToken t with
    | ')' :: rest => some ([], ')' :: rest)
    | t => readSome fuel l t

def readSome : (fuel : Nat) → Limits → Text → Option (List Term × Text)
  | 0, _, _ => none
  | fuel + 1, l, t => do
    let (a, rest) ← readTerm fuel l t
    match sign? [','] rest with
    | none => some ([a], rest)
    | some rest =>
      let (ts, rest) ← readSome fuel l (toToken rest)
      some (a :: ts, rest)

end

def afterStatement (t : Text) : Option Text :=
  match skip t with
  | [] => some []
  | ';' :: rest | '\n' :: rest => some rest
  | '\x7d' :: rest => some ('\x7d' :: rest)
  | _ => none

def isEnd (t : Text) : Bool :=
  match skip t with
  | [] => true
  | c :: _ => c = ';' || c = '\n' || c = '\x7d' || c = '>' || c = '|' || c = ')'

/-- Reads a statement without brackets, up to its end. -/
def readSimple (fuel : Nat) (t : Text) : Option (Statement × Text) :=
  let printing (formatted : Bool) (rest : Text) : Option (Statement × Text) := do
    let (ts, rest) ← if isEnd rest then some ([], rest)
      else readSome fuel ⟨false, true⟩ (skip rest)
    let ts := match ts with
      | [.group ts] => ts
      | ts => ts
    let sink? (sign : Text) (rest : Text) : Option (Statement × Text) := do
      let (a, rest) ← readTerm fuel ⟨false, true⟩ (skip rest)
      some (.print formatted ts (some (sign, a)), rest)
    match skip rest with
    | '>' :: '>' :: more => sink? ['>', '>'] more
    | '>' :: more => sink? ['>'] more
    | '|' :: more => sink? ['|'] more
    | _ => some (.print formatted ts none, rest)
  let optional (rest : Text) (f : Option Term → Statement) : Option (Statement × Text) :=
    if isEnd rest then some (f none, rest)
    else (readTerm fuel free (skip rest)).map fun (a, rest) => (f (some a), rest)
  match name? t with
  | some (n, rest) =>
    match String.ofList n with
    | "print" => printing false rest
    | "printf" => printing true rest
    | "next" | "nextfile" => some (.next, rest)
    | "exit" => optional rest .exit
    | "return" => optional rest .giveBack
    | "break" => some (.leave, rest)
    | "continue" => some (.again, rest)
    | "delete" => do
      let (a, rest) ← readPlace fuel (skip rest)
      match a with
      | .element array indices => some (.delete array indices, rest)
      | .variable array => some (.delete array [], rest)
      | _ => none
    | _ => (readTerm fuel free t).map fun (a, rest) => (.term a, rest)
  | none => (readTerm fuel free t).map fun (a, rest) => (.term a, rest)

mutual

def readStatement : (fuel : Nat) → Text → Option (Statement × Text)
  | 0, _ => none
  | fuel + 1, t =>
    match toToken t with
    | [] => none
    | '\x7b' :: rest => do
      let (ss, rest) ← readStatements fuel rest
      some (.block ss, rest)
    | ';' :: rest => some (.nothing, rest)
    | t =>
      match (name? t).map fun n => (String.ofList n.1, n.2) with
      | some ("if", rest) => do
        let (c, rest) ← readTerm fuel free (toToken (← sign? ['('] rest))
        let (a, rest) ← readStatement fuel (← Text.after? [')'] (toToken rest))
        match word? "else" (skipEnds (rest.length + 1) rest) with
        | some rest =>
          let (b, rest) ← readStatement fuel rest
          some (.choice c a b, rest)
        | none => some (.choice c a .nothing, rest)
      | some ("while", rest) => do
        let (c, rest) ← readTerm fuel free (toToken (← sign? ['('] rest))
        let rest ← Text.after? [')'] (toToken rest)
        match skip rest with
        | ';' :: rest => some (.loop c .nothing, rest)
        | _ =>
          let (a, rest) ← readStatement fuel rest
          some (.loop c a, rest)
      | some ("do", rest) => do
        let (a, rest) ← readStatement fuel rest
        let rest ← word? "while" (skipEnds (rest.length + 1) rest)
        let (c, rest) ← readTerm fuel free (toToken (← sign? ['('] rest))
        some (.loopAfter a c, ← afterStatement (← Text.after? [')'] (toToken rest)))
      | some ("for", rest) => do
        let rest ← sign? ['('] rest
        let inArray : Option (Text × Text × Text) := do
          let (n, rest) ← name? (skip rest)
          let (array, rest) ← name? (skip (← word? "in" rest))
          some (n, array, ← sign? [')'] rest)
        match inArray with
        | some (n, array, rest) =>
          let (a, rest) ← readStatement fuel rest
          some (.each n array a, rest)
        | none =>
          let (first, rest) ← if (skip rest).head? = some ';' then some (.nothing, skip rest)
            else readSimple fuel (skip rest)
          let rest ← sign? [';'] rest
          let (condition, rest) ← if (toToken rest).head? = some ';' then some (none, toToken rest)
            else (readTerm fuel free (toToken rest)).map fun (c, rest) => (some c, rest)
          let rest ← sign? [';'] rest
          let (step, rest) ← if (toToken rest).head? = some ')' then
              some (.nothing, toToken rest)
            else readSimple fuel (toToken rest)
          let rest ← sign? [')'] rest
          match skip rest with
          | ';' :: rest => some (.loopFrom first condition step .nothing, rest)
          | _ =>
            let (a, rest) ← readStatement fuel rest
            some (.loopFrom first condition step a, rest)
      | _ => do
        let (s, rest) ← readSimple fuel t
        some (s, ← afterStatement rest)

/-- Reads statements up to the brace that closes them. -/
def readStatements : (fuel : Nat) → Text → Option (List Statement × Text)
  | 0, _ => none
  | fuel + 1, t =>
    match skipEnds (t.length + 1) t with
    | '\x7d' :: rest => some ([], rest)
    | t => do
      let (s, rest) ← readStatement fuel t
      let (ss, rest) ← readStatements fuel rest
      some (s :: ss, rest)

end

def readParameters : (fuel : Nat) → Text → Option (List Text × Text)
  | 0, _ => none
  | fuel + 1, t =>
    match toToken t with
    | ')' :: rest => some ([], rest)
    | ',' :: rest => readParameters fuel rest
    | t => do
      let (n, rest) ← name? t
      let (ns, rest) ← readParameters fuel rest
      some (n :: ns, rest)

def readRules : (fuel : Nat) → Text → Option Script
  | 0, _ => none
  | fuel + 1, t =>
    match skipEnds (t.length + 1) t with
    | [] => some ⟨[], []⟩
    | t =>
      let add (trigger : Trigger) (rest : Text) : Option Script := do
        let (s, rest) ← match skip rest with
          | '\x7b' :: more =>
            (readStatements fuel more).map fun (ss, rest) => (Statement.block ss, rest)
          | rest => some (.print false [] none, rest)
        let script ← readRules fuel rest
        some { script with rules := (trigger, s) :: script.rules }
      match (name? t).map fun n => (String.ofList n.1, n.2) with
      | some ("BEGIN", rest) => add .start rest
      | some ("END", rest) => add .finish rest
      | some ("function", rest) | some ("func", rest) => do
        let (n, rest) ← name? (skip rest)
        let (ps, rest) ← readParameters (rest.length + 1) (← sign? ['('] rest)
        let rest ← Text.after? ['\x7b'] (toToken rest)
        let (ss, rest) ← readStatements fuel rest
        let script ← readRules fuel rest
        some { script with functions := ⟨n, ps, .block ss⟩ :: script.functions }
      | _ =>
        if t.head? = some '\x7b' then add .always t
        else do
          let (a, rest) ← readTerm fuel free t
          match sign? [','] rest with
          | some rest =>
            let (b, rest) ← readTerm fuel free (toToken rest)
            add (.range a b) rest
          | none => add (.condition a) rest

def read? (t : Text) : Option Script := readRules (30 * t.length + 100) t

end Records

end Shell

end BuildManifest
