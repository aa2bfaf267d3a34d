import BuildManifest.Shell.Octets

/-!
Arithmetic in the shell: integers of 64 bits, variables, assignments, brackets and
the usual operators, the tighter ones binding first. An expression is read into a
term and the term is evaluated; what it assigns comes with its value.
-/

namespace BuildManifest

namespace Shell

/-- The number that is left when one goes round in 64 bits. -/
def wrap (n : Int) : Int := Int.bmod n (Nat.pow 2 64)

/-- The nearest number of 64 bits. -/
def clamp (n : Int) : Int :=
  max (-(Nat.pow 2 63 : Int)) (min n ((Nat.pow 2 63 : Int) - 1))

/-- The value of a digit up to sixteen. -/
def hexValue (c : Char) : Nat :=
  if c.isDigit then digitValue c else c.toLower.toNat - 'a'.toNat + 10

def isHexDigit (c : Char) : Bool := c.isDigit || ('a' ≤ c.toLower && c.toLower ≤ 'f')

def isOctalDigit (c : Char) : Bool := '0' ≤ c && c ≤ '7'

def valueIn (base : Nat) (digits : Text) : Nat :=
  digits.foldl (fun n c => base * n + hexValue c) 0

/-- Reads a number without a sign: after `0x` to the base of sixteen, after `0` to
the base of eight and else to the base of ten. -/
def readNumber (t : Text) : Option (Nat × Text) :=
  let run (base : Nat) (isDigit : Char → Bool) (t : Text) : Nat × Text :=
    (valueIn base (t.takeWhile isDigit), t.dropWhile isDigit)
  match t with
  | '0' :: x :: d :: rest =>
    if (x = 'x' || x = 'X') && isHexDigit d then some (run 16 isHexDigit (d :: rest))
    else some (run 8 isOctalDigit t)
  | '0' :: rest => some (run 8 isOctalDigit ('0' :: rest))
  | c :: _ => if c.isDigit then some (run 10 Char.isDigit t) else none
  | [] => none

/-- Reads a number after blanks and a sign. -/
def readInteger (t : Text) : Option (Int × Text) :=
  match t.dropWhile isSpace with
  | '-' :: rest => (readNumber rest).map fun (n, after) => (-(n : Int), after)
  | '+' :: rest => (readNumber rest).map fun (n, after) => ((n : Int), after)
  | rest => (readNumber rest).map fun (n, after) => ((n : Int), after)

/-- A number and nothing but blanks around it. -/
def integer? (t : Text) : Option Int :=
  match readInteger t with
  | some (n, rest) => if rest.all isSpace then some n else none
  | none => none

namespace Sum

inductive Sign where
  | number (n : Int)
  | name (t : Text)
  | mark (t : Text)

/-- The operators, the longer ones first. -/
def marks : List Text :=
  List.map String.toList
    ["<<=", ">>=", "<<", ">>", "<=", ">=", "==", "!=", "&&", "||", "+=", "-=", "*=", "/=", "%=",
      "&=", "|=", "^=", "+", "-", "*", "/", "%", "<", ">", "&", "|", "^", "!", "~", "(", ")", "?",
      ":", "="]

def signs? : (fuel : Nat) → Text → Option (List Sign)
  | _, [] => some []
  | 0, _ :: _ => none
  | fuel + 1, c :: rest =>
    if isSpace c then signs? fuel rest
    else if c.isAlpha || c = '_' then
      let name := (c :: rest).takeWhile fun c => c.isAlphanum || c = '_'
      (signs? fuel ((c :: rest).drop name.length)).map (.name name :: ·)
    else
      match readNumber (c :: rest) with
      | some (n, rest) => (signs? fuel rest).map (.number (clamp n) :: ·)
      | none =>
        match marks.findSome? fun m => (Text.after? m (c :: rest)).map (m, ·) with
        | some (m, rest) => (signs? fuel rest).map (.mark m :: ·)
        | none => (signs? fuel rest).map (.mark [c] :: ·)

inductive Term where
  | number (n : Int)
  | variable (name : Text)
  | unary (operator : Char) (a : Term)
  | binary (operator : Text) (a b : Term)
  | choice (condition a b : Term)
  | assign (name operator : Text) (a : Term)

/-- How tightly an operator binds; zero for what is none. -/
def rank (m : Text) : Nat :=
  match String.ofList m with
  | "||" => 1
  | "&&" => 2
  | "|" => 3
  | "^" => 4
  | "&" => 5
  | "==" | "!=" => 6
  | "<" | ">" | "<=" | ">=" => 7
  | "<<" | ">>" => 8
  | "+" | "-" => 9
  | "*" | "/" | "%" => 10
  | _ => 0

/-- The operator within an operator that assigns; none for the plain one. -/
def assigning? (m : Text) : Option Text :=
  match String.ofList m with
  | "=" => some []
  | "+=" | "-=" | "*=" | "/=" | "%=" | "<<=" | ">>=" | "&=" | "|=" | "^=" => some m.dropLast
  | _ => none

mutual

/-- Reads an assignment, or a choice, or anything that binds tighter. -/
def readTerm : (fuel : Nat) → List Sign → Option (Term × List Sign)
  | 0, _ => none
  | fuel + 1, ss =>
    let chosen : Option (Term × List Sign) :=
      match readOperation fuel 1 ss with
      | some (a, .mark ['?'] :: rest) =>
        match readTerm fuel rest with
        | some (b, .mark [':'] :: rest) =>
          (readTerm fuel rest).map fun (c, rest) => (.choice a b c, rest)
        | _ => none
      | other => other
    match ss with
    | .name t :: .mark m :: rest =>
      match assigning? m with
      | some operator =>
        (readTerm fuel rest).map fun (a, rest) => (.assign t operator a, rest)
      | none => chosen
    | _ => chosen

/-- Reads operands joined by operators that bind at least so tightly. -/
def readOperation : (fuel least : Nat) → List Sign → Option (Term × List Sign)
  | 0, _, _ => none
  | fuel + 1, least, ss =>
    match readOperand fuel ss with
    | none => none
    | some (a, ss) => readMoreOf fuel least a ss

def readMoreOf : (fuel least : Nat) → Term → List Sign → Option (Term × List Sign)
  | 0, _, _, _ => none
  | fuel + 1, least, a, ss =>
    match ss with
    | .mark m :: rest =>
      if rank m = 0 || rank m < least then some (a, .mark m :: rest)
      else
        match readOperation fuel (rank m + 1) rest with
        | none => none
        | some (b, rest) => readMoreOf fuel least (.binary m a b) rest
    | ss => some (a, ss)

def readOperand : (fuel : Nat) → List Sign → Option (Term × List Sign)
  | 0, _ => none
  | fuel + 1, ss =>
    match ss with
    | .number n :: rest => some (.number n, rest)
    | .name t :: rest => some (.variable t, rest)
    | .mark ['('] :: rest =>
      match readTerm fuel rest with
      | some (a, .mark [')'] :: rest) => some (a, rest)
      | _ => none
    | .mark [c] :: rest =>
      if c = '-' || c = '+' || c = '!' || c = '~' then
        (readOperand fuel rest).map fun (a, rest) => (.unary c a, rest)
      else none
    | _ => none

end

inductive Fault where
  | division
  | notNumber (value : Text)

def truth (b : Bool) : Int := if b then 1 else 0

/-- The bits of a number of 64 bits. -/
def bits (n : Int) : Nat := (n % (Nat.pow 2 64 : Int)).toNat

/-- The value of an operator that always looks at both operands. -/
def outcome (m : Text) (a b : Int) : Except Fault Int :=
  match String.ofList m with
  | "|" => .ok (wrap (bits a ||| bits b))
  | "^" => .ok (wrap (bits a ^^^ bits b))
  | "&" => .ok (wrap (bits a &&& bits b))
  | "==" => .ok (truth (a = b))
  | "!=" => .ok (truth (a ≠ b))
  | "<" => .ok (truth (a < b))
  | ">" => .ok (truth (a > b))
  | "<=" => .ok (truth (a ≤ b))
  | ">=" => .ok (truth (a ≥ b))
  | "<<" => .ok (wrap (a * Int.ofNat (Nat.pow 2 (bits b % 64))))
  | ">>" => .ok (Int.fdiv a (Int.ofNat (Nat.pow 2 (bits b % 64))))
  | "+" => .ok (wrap (a + b))
  | "-" => .ok (wrap (a - b))
  | "*" => .ok (wrap (a * b))
  | "/" => if b = 0 then .error .division else .ok (wrap (a.tdiv b))
  | "%" => if b = 0 then .error .division else .ok (a.tmod b)
  | _ => .ok b

/-- What has been assigned, the last first. -/
abbrev Memory := List (Text × Int)

/-- The value of a variable: one that is missing or empty counts as zero. -/
def valueOf (lookup : Text → Option Text) (m : Memory) (name : Text) : Except Fault Int :=
  match List.lookup name m, lookup name with
  | some n, _ => .ok n
  | none, none | none, some [] => .ok 0
  | none, some t =>
    match integer? t with
    | some n => .ok (clamp n)
    | none => .error (.notNumber t)

def Term.eval (lookup : Text → Option Text) : Term → Memory → Except Fault (Int × Memory)
  | .number n, m => .ok (n, m)
  | .variable name, m => (valueOf lookup m name).map (·, m)
  | .unary operator a, m => do
    let (x, m) ← a.eval lookup m
    .ok (match operator with
      | '-' => wrap (-x)
      | '!' => truth (x = 0)
      | '~' => -x - 1
      | _ => x, m)
  | .binary operator a b, m => do
    let (x, m) ← a.eval lookup m
    if operator = ("&&" : Text) && x = 0 then .ok (0, m)
    else if operator = ("||" : Text) && x ≠ 0 then .ok (1, m)
    else
      let (y, m) ← b.eval lookup m
      if operator = ("&&" : Text) || operator = ("||" : Text) then .ok (truth (y ≠ 0), m)
      else .ok (← outcome operator x y, m)
  | .choice condition a b, m => do
    let (x, m) ← condition.eval lookup m
    if x ≠ 0 then a.eval lookup m else b.eval lookup m
  | .assign name operator a, m => do
    let (y, m) ← a.eval lookup m
    let z ← if operator.isEmpty then .ok y else do
      outcome operator (← valueOf lookup m name) y
    .ok (z, (name, z) :: m)

end Sum

/-- The value of an arithmetic expression and what it assigns, or the complaint
about it. -/
def sum (lookup : Text → Option Text) (t : Text) : Except Text (Int × Sum.Memory) :=
  let fault (what : Text) : Text :=
    ("arithmetic expression: " : Text) ++ what ++ (": \"" : Text) ++ t ++ ['"']
  match Sum.signs? (t.length + 1) t with
  | some [] => .ok (0, [])
  | some ss =>
    match Sum.readTerm (6 * ss.length + 8) ss with
    | some (a, []) =>
      match a.eval lookup [] with
      | .ok (n, m) => .ok (n, m.reverse)
      | .error .division => .error (fault "division by zero")
      | .error (.notNumber v) => .error (("Illegal number: " : Text) ++ v)
    | some _ => .error (fault "expecting EOF")
    | none => .error (fault "expecting primary")
  | none => .error (fault "expecting primary")

end Shell

end BuildManifest
