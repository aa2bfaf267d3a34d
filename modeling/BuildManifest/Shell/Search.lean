import BuildManifest.Shell.Expression
import BuildManifest.Shell.Lines
import BuildManifest.Shell.Wildcard

/-!
Searching lines for expressions, as `grep` does.
-/

namespace BuildManifest

namespace Shell

namespace Search

/-- What is searched for and how a match has to lie in a line. -/
structure Wanted where
  expressions : List Expression
  wholeWords : Bool
  wholeLines : Bool

/-- Whether no part of a word borders on a match. -/
def isWordMatch (t : Array Char) (i j : Nat) : Bool :=
  !(i > 0 && Expression.wordAt t (i - 1)) && !Expression.wordAt t j

/-- The longest match that begins at a place and lies as it has to. -/
def Wanted.matchAt? (w : Wanted) (t : Array Char) (i : Nat) : Option Nat :=
  let ends := w.expressions.flatMap fun e => (e.run t [⟨i, []⟩]).map Spot.position
  let ends := if w.wholeLines then ends.filter fun j => i = 0 && j = t.size else ends
  let ends := if w.wholeWords then ends.filter (isWordMatch t i) else ends
  ends.foldl (fun best j => some (max j (best.getD 0))) none

def Wanted.searchFrom (w : Wanted) (t : Array Char) : (fuel : Nat) → Nat → Option (Nat × Nat)
  | 0, _ => none
  | fuel + 1, i =>
    match w.matchAt? t i with
    | some j => some (i, j)
    | none => searchFrom w t fuel (i + 1)

def Wanted.isIn (w : Wanted) (l : Text) : Bool :=
  let t := l.toArray
  if w.wholeLines || (!w.wholeWords && w.expressions.all Expression.isAnchored) then
    (w.matchAt? t 0).isSome
  else (w.searchFrom t (t.size + 1) 0).isSome

/-- All matches in a line that are not empty. -/
def Wanted.parts (w : Wanted) (t : Array Char) : (fuel : Nat) → Nat → List Text
  | 0, _ => []
  | fuel + 1, i =>
    match w.searchFrom t (t.size + 1 - i) i with
    | none => []
    | some (a, b) =>
      if a = b then w.parts t fuel (b + 1)
      else Expression.slice t a b :: w.parts t fuel b

/-- The files in a tree, each with its path, in the order of the names. -/
def filesBelow (keep : Text → Bool) : (fuel : Nat) → Path → Node → List Path
  | 0, _, _ => []
  | fuel + 1, p, .dir es =>
    let named := es.map fun e => (octets e.1, e.2)
    (named.mergeSort fun a b => Text.le a.1 b.1).flatMap fun e =>
      match e.2 with
      | .link _ => []
      | n => filesBelow keep fuel (Path.join p e.1) n
  | _ + 1, p, _ => if keep (baseName p) then [p] else []

/-- The lines to be shown around those that match: the number of a line, the line,
and whether it matches. Groups that do not touch are told apart. -/
def context (before after : Nat) (ls : List (Nat × Text × Bool)) :
    List (Option (Nat × Text × Bool)) :=
  let hits := (ls.filter fun l => l.2.2).map (·.1)
  let isNear (n : Nat) : Bool := hits.any fun h => n ≤ h + after && h ≤ n + before
  let shown := ls.filter fun l => isNear l.1
  let step (acc : List (Option (Nat × Text × Bool)) × Option Nat) (l : Nat × Text × Bool) :
      List (Option (Nat × Text × Bool)) × Option Nat :=
    match acc.2 with
    | some last => if l.1 = last + 1 then (some l :: acc.1, some l.1)
      else (some l :: none :: acc.1, some l.1)
    | none => (some l :: acc.1, some l.1)
  (shown.foldl step ([], none)).1.reverse

/-- Stops after so many matching lines. -/
def upTo (most : Option Nat) : List (Nat × Text × Bool) → List (Nat × Text × Bool)
  | [] => []
  | l :: rest =>
    match most, l.2.2 with
    | some 0, true => []
    | some (n + 1), true => l :: upTo (some n) rest
    | _, _ => l :: upTo most rest

end Search

def grepNames : List (String × Char) :=
  [("extended-regexp", 'E'), ("fixed-strings", 'F'), ("basic-regexp", 'G'), ("regexp", 'e'),
    ("file", 'f'), ("ignore-case", 'i'), ("invert-match", 'v'), ("word-regexp", 'w'),
    ("line-regexp", 'x'), ("count", 'c'), ("files-with-matches", 'l'),
    ("files-without-match", 'L'), ("max-count", 'm'), ("only-matching", 'o'), ("quiet", 'q'),
    ("silent", 'q'), ("no-messages", 's'), ("with-filename", 'H'), ("no-filename", 'h'),
    ("line-number", 'n'), ("recursive", 'r'), ("after-context", 'A'), ("before-context", 'B'),
    ("context", 'C'), ("byte-offset", 'b'), ("include", 'I'), ("color", 'K'), ("text", 'a')]

/-- Searches files for lines; `kind` is the letter of the usual kind of expression. -/
def grep (kind : Char) (st : State) (arguments : List Text) : State :=
  let spell (t : Text) : Text := match t with
    | '-' :: d :: _ => if d.isDigit then ("-C" : Text) ++ t.tail else t
    | _ => t
  withOptions "grep" 2 "EFGPe:f:ivwxclLm:oqsHhnrRA:B:C:bI:K?ayzUTZ" grepNames (arguments.map spell)
    st fun o st =>
    let given := o.values 'e' ++ (o.values 'f').flatMap fun p =>
      plainLines (((contentOf st p).1.toOption).getD [])
    let hasPatterns := o.has 'e' || o.has 'f'
    match hasPatterns, o.operands with
    | false, [] =>
      (st.complain "Usage: grep [OPTION]... PATTERNS [FILE]...").failing 2
        "Try 'grep --help' for more information."
    | _, _ =>
      let patterns := (if hasPatterns then given else o.operands.take 1).flatMap (Text.pieces '\n')
      let operands := if hasPatterns then o.operands else o.operands.drop 1
      let kind := (o.lastOf? ['E', 'F', 'G', 'P']).getD kind
      let ignoreCase := o.has 'i' || o.has 'y'
      let dialect : Dialect := ⟨kind = 'E' || kind = 'P', kind = 'P', kind = 'P', ignoreCase, false⟩
      let expressions? := patterns.mapM fun p =>
        if kind = 'F' then some (Expression.literally ignoreCase p)
        else Expression.ofText? dialect p
      match expressions? with
      | none => st.failing 2 "grep: Invalid regular expression"
      | some expressions =>
        let wanted : Search.Wanted := ⟨expressions, o.has 'w', o.has 'x'⟩
        let recursive := o.has 'r' || o.has 'R'
        let keep (name : Text) : Bool :=
          match o.values 'I' with
          | [] => true
          | globs => globs.any fun g => fits (g.map fun c => (c, false)) name
        let expand (p : Path) : List Path :=
          match (if recursive then st.nodeAt p else .error .noSuchFile) with
          | .ok (_, .dir es) => Search.filesBelow keep 100 p (.dir es)
          | _ => [p]
        let operands := if operands.isEmpty then (if recursive then [['.']] else [['-']])
          else operands
        let files := operands.flatMap expand
        let files := if o.operands.length ≤ (if hasPatterns then 0 else 1) && recursive then
            files.map fun p => ((Text.after? "./" p).getD p)
          else files
        let labelled := (operands.length > 1 || recursive || o.has 'H') && !o.has 'h'
        let number (c : Char) : Nat := (((o.value? c).orElse fun _ => o.value? 'C').bind natural?).getD 0
        let one (acc : State × Bool × Bool) (p : Path) : State × Bool × Bool :=
          let (st, found, failed) := acc
          if found && o.has 'q' then acc
          else
            match contentOf st p with
            | (.error e, st) =>
              (if o.has 's' then st
                else st.complain (("grep: " : Text) ++ p ++ (": " : Text) ++ reason e), found, true)
            | (.ok t, st) =>
              let name := if p = ['-'] then ("(standard input)" : Text) else p
              let ls := (plainLines t).zipIdx.map fun (l, i) =>
                (i + 1, l, wanted.isIn l != o.has 'v')
              let ls := Search.upTo ((o.value? 'm').bind natural?) ls
              let hits := ls.filter fun l => l.2.2
              let label (sign : Char) : Text := if labelled then name ++ [sign] else []
              let lead (n : Nat) (isHit : Bool) : Text :=
                let sign := if isHit then ':' else '-'
                label sign ++ (if o.has 'n' then Text.ofNat n ++ [sign] else [])
              let out : Text :=
                if o.has 'q' then []
                else if o.has 'l' then (if hits.isEmpty then [] else name ++ ['\n'])
                else if o.has 'L' then (if hits.isEmpty then name ++ ['\n'] else [])
                else if o.has 'c' then label ':' ++ Text.ofNat hits.length ++ ['\n']
                else if t.contains '\x00' && !o.has 'a' then
                  (if hits.isEmpty then [] else
                    ("grep: " : Text) ++ name ++ (": binary file matches\n" : Text))
                else if o.has 'o' then
                  if o.has 'v' then []
                  else hits.flatMap fun (n, l, _) =>
                    (wanted.parts l.toArray (l.length + 1) 0).flatMap fun part =>
                      lead n true ++ part ++ ['\n']
                else if o.has 'A' || o.has 'B' || o.has 'C' then
                  (Search.context (number 'B') (number 'A') ls).flatMap fun l =>
                    match l with
                    | some (n, l, isHit) => lead n isHit ++ l ++ ['\n']
                    | none => ("--\n" : Text)
                else hits.flatMap fun (n, l, _) => lead n true ++ l ++ ['\n']
              let counts := if o.has 'L' then hits.isEmpty else !hits.isEmpty
              (st.print out, found || counts, failed)
        let (st, found, failed) := files.foldl one (st, false, false)
        st.withStatus (if failed && !(found && o.has 'q') then 2 else if found then 0 else 1)

/-! ### Expressions on the command line -/

namespace Reckoning

/-- A value of `expr` and whether it counts as nothing. -/
def isNothing (t : Text) : Bool :=
  t.isEmpty || (match t with
    | '-' :: rest => !rest.isEmpty && rest.all (· = '0')
    | rest => rest.all (· = '0'))

def number? (t : Text) : Option Int :=
  match t with
  | '-' :: rest => (natural? rest).map fun n => -(n : Int)
  | rest => (natural? rest).map fun n => (n : Int)

inductive Fault where
  | wrongForm (what : Text)
  | notNumber
  | division
  | badExpression

def fromBool (b : Bool) : Text := if b then ['1'] else ['0']

/-- Matches an expression at the front of a text. The answer is the first group, or
else the length of the match. -/
def matched (t pattern : Text) : Except Fault Text :=
  match Expression.ofText? ⟨false, false, false, false, false⟩ pattern with
  | none => .error .badExpression
  | some e =>
    let hasGroup := pattern.has ['\\', '(']
    let a := t.toArray
    match e.matchAt? a 0 with
    | none => .ok (if hasGroup then [] else ['0'])
    | some s => .ok (if hasGroup then Expression.groupText a 0 s 1 else Text.ofNat s.position)

def operators : List (List Text) :=
  List.map (List.map String.toList)
    [["|"], ["&"], ["<", "<=", "=", "==", "!=", ">=", ">"], ["+", "-"], ["*", "/", "%"], [":"]]

def apply (operator a b : Text) : Except Fault Text :=
  let numbers (f : Int → Int → Except Fault Int) : Except Fault Text :=
    match number? a, number? b with
    | some x, some y => (f x y).map Text.ofInt
    | _, _ => .error .notNumber
  let compared (f : Ordering → Bool) : Except Fault Text :=
    let order := match number? a, number? b with
      | some x, some y => compare x y
      | _, _ => if a = b then .eq else if Text.le a b then .lt else .gt
    .ok (fromBool (f order))
  match String.ofList operator with
  | "|" => .ok (if !isNothing a then a else if isNothing b then ['0'] else b)
  | "&" => .ok (if isNothing a || isNothing b then ['0'] else a)
  | "<" => compared (· == .lt)
  | "<=" => compared (· != .gt)
  | "=" | "==" => compared (· == .eq)
  | "!=" => compared (· != .eq)
  | ">=" => compared (· != .lt)
  | ">" => compared (· == .gt)
  | "+" => numbers fun x y => .ok (x + y)
  | "-" => numbers fun x y => .ok (x - y)
  | "*" => numbers fun x y => .ok (x * y)
  | "/" => numbers fun x y => if y = 0 then .error .division else .ok (x.tdiv y)
  | "%" => numbers fun x y => if y = 0 then .error .division else .ok (x.tmod y)
  | _ => matched a b

mutual

/-- Evaluates operands that are joined by the operators of the levels left. -/
def level : (fuel : Nat) → List (List Text) → List Text → Except Fault (Text × List Text)
  | 0, _, _ => .error (.wrongForm "syntax error")
  | fuel + 1, [], ts => operand fuel ts
  | fuel + 1, operators :: tighter, ts => do
    let (a, ts) ← level fuel tighter ts
    more fuel operators tighter a ts

def more : (fuel : Nat) → List Text → List (List Text) → Text → List Text →
    Except Fault (Text × List Text)
  | 0, _, _, a, ts => .ok (a, ts)
  | fuel + 1, operators, tighter, a, ts =>
    match ts with
    | t :: rest =>
      if operators.contains t then do
        let (b, rest) ← level fuel tighter rest
        more fuel operators tighter (← apply t a b) rest
      else .ok (a, ts)
    | [] => .ok (a, [])

def operand : (fuel : Nat) → List Text → Except Fault (Text × List Text)
  | 0, _ => .error (.wrongForm "syntax error")
  | fuel + 1, ts =>
    match ts with
    | [] => .error (.wrongForm "syntax error: missing argument")
    | t :: rest =>
      match String.ofList t with
      | "(" => do
        match ← level fuel Reckoning.operators rest with
        | (a, [')'] :: rest) => .ok (a, rest)
        | (_, u :: _) => .error (.wrongForm (("syntax error: expecting ')' instead of " : Text) ++
            quotedName u))
        | (_, []) => .error (.wrongForm "syntax error: expecting ')' after the last argument")
      | ")" => .error (.wrongForm "syntax error: unexpected ')'")
      | "+" =>
        match rest with
        | u :: rest => .ok (u, rest)
        | [] => .ok (t, [])
      | "length" =>
        if rest.isEmpty then .ok (t, [])
        else do
          let (a, rest) ← operand fuel rest
          .ok (Text.ofNat a.length, rest)
      | "match" =>
        if rest.isEmpty then .ok (t, [])
        else do
          let (a, rest) ← operand fuel rest
          let (b, rest) ← operand fuel rest
          .ok (← matched a b, rest)
      | "index" =>
        if rest.isEmpty then .ok (t, [])
        else do
          let (a, rest) ← operand fuel rest
          let (b, rest) ← operand fuel rest
          .ok (Text.ofNat (match a.findIdx? b.contains with
            | some i => i + 1
            | none => 0), rest)
      | "substr" =>
        if rest.isEmpty then .ok (t, [])
        else do
          let (a, rest) ← operand fuel rest
          let (i, rest) ← operand fuel rest
          let (n, rest) ← operand fuel rest
          match number? i, number? n with
          | some i, some n =>
            .ok (if i ≤ 0 || n ≤ 0 then [] else (a.drop (i.toNat - 1)).take n.toNat, rest)
          | _, _ => .ok ([], rest)
      | _ => .ok (t, rest)

end

end Reckoning

/-- Prints the value of an expression given word by word. -/
def reckon (st : State) (arguments : List Text) : State :=
  let words := match arguments with
    | ['-', '-'] :: rest => rest
    | all => all
  if words.isEmpty then missingOperand st "expr" "missing operand" |>.withStatus 2
  else
    match Reckoning.level (16 * words.length + 32) Reckoning.operators words with
    | .ok (t, []) => (st.printLine t).withStatus (if Reckoning.isNothing t then 1 else 0)
    | .ok (_, t :: _) =>
      st.failing 2 (("expr: syntax error: unexpected argument " : Text) ++ quotedName t)
    | .error (.wrongForm t) => st.failing 2 (("expr: " : Text) ++ t)
    | .error .notNumber => st.failing 2 "expr: non-integer argument"
    | .error .division => st.failing 2 "expr: division by zero"
    | .error .badExpression => st.failing 2 "expr: Invalid regular expression"

end Shell

end BuildManifest
