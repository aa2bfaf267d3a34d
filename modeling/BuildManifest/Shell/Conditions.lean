import BuildManifest.Shell.State
import BuildManifest.Shell.Sum

/-!
The conditions of `test`: about texts, numbers and files. Whether a word counts
as an operator depends on what follows it. Conditions of three or four words are
told apart by their number first; longer ones are joined by `-o`, which binds
least, and `-a`.
-/

namespace BuildManifest

namespace Shell

def systemDirectories : List Path :=
  List.map String.toList ["/usr/bin/", "/bin/"]

def systemCommands : List Text :=
  List.map String.toList
    ["sh", "dash", "bash", "echo", "printf", "true", "false", "test", "[", "pwd", "kill", "sleep",
      "cat", "cp", "mv", "rm", "rmdir", "mkdir", "touch", "ls", "dir", "ln", "chmod", "chown",
      "chgrp", "head", "tail", "wc", "tr", "sort", "uniq", "grep", "egrep", "fgrep", "seq", "tee",
      "cmp", "diff", "basename", "dirname", "env", "printenv", "uname", "sed", "readlink",
      "realpath", "find", "cut", "awk", "mawk", "nawk", "expr", "xargs", "tac", "rev", "nl",
      "paste", "fold", "comm", "join", "od", "base64", "yes", "id", "whoami", "mktemp", "which",
      "nproc", "sync", "stat", "install", "date", "timeout", "nohup", "nice", "expand", "unexpand",
      "truncate", "unlink", "link", "hostname", "arch", "logname", "tty", "factor", "stdbuf",
      "setsid", "md5sum", "sha1sum", "sha256sum", "cksum"]

def systemCommand? (p : Path) : Option Text :=
  systemDirectories.findSome? fun dir =>
    (Text.after? dir p).filter systemCommands.contains

def fileCondition (st : State) (sign : Char) (p : Path) : Bool :=
  let special := (State.specialFile? p).isSome || (State.streamPath? p).isSome
  let node? : Option Node :=
    match st.find p with
    | .ok (.found _ n) => some n
    | _ => if (systemCommand? p).isSome then some (.file ⟨#[0]⟩ true) else none
  let isLink : Bool :=
    match st.findSelf p with
    | .ok (.found _ (.link _)) => true
    | _ => false
  match sign with
  | 'e' | 'r' | 'w' => special || node?.isSome
  | 'f' => node?.any fun n => n.kind = .file
  | 'd' => node?.any fun n => n.kind = .dir
  | 'h' | 'L' => isLink
  | 's' => node?.any fun n => match n with
      | .file content _ => content.size > 0
      | _ => true
  | 'x' => node?.any fun n => match n with
      | .file _ executable => executable
      | _ => true
  | 'c' => special
  | 'O' | 'G' => node?.isSome
  | _ => false

namespace Condition

/-- What a word is where it stands. -/
inductive Token where
  | finish
  | operand
  | not
  | and
  | or
  | opening
  | closing
  | unary (sign : Char)
  | binary (sign : Text)
  deriving DecidableEq

def operator? (t : Text) : Option Token :=
  match String.ofList t with
  | "!" => some .not
  | "-a" => some .and
  | "-o" => some .or
  | "(" => some .opening
  | ")" => some .closing
  | "=" | "!=" | "<" | ">" | "-eq" | "-ne" | "-ge" | "-gt" | "-le" | "-lt" | "-nt" | "-ot"
  | "-ef" => some (.binary t)
  | _ =>
    match t with
    | ['-', c] => if ("rwxefdcbpugkstznhOGLS" : Text).contains c then some (.unary c) else none
    | _ => none

def isBinary (t : Text) : Bool :=
  match operator? t with
  | some (.binary _) => true
  | _ => false

/-- What the word at a place is. A sign for one operand counts only if an operand
follows that does not belong to another sign. -/
def tokenAt (words : Array Text) (i : Nat) : Token :=
  match words[i]? with
  | none => .finish
  | some t =>
    match operator? t with
    | some (.unary c) =>
      match words[i + 1]?, words[i + 2]? with
      | none, _ => .operand
      | some _, none => .unary c
      | some u, some _ => if isBinary u then .operand else .unary c
    | some .opening => if (words[i + 1]?).isSome then .opening else .operand
    | some token => token
    | none => .operand

def number (t : Text) : Except Text Int :=
  let bad : Except Text Int := .error (("Illegal number: " : Text) ++ t)
  let value (negative : Bool) (t : Text) : Except Text Int :=
    let (n, rest) := digitsOf t
    let n : Int := if negative then -(n : Int) else n
    if t.head?.any Char.isDigit && rest.all isSpace && clamp n = n then .ok n else bad
  match t.dropWhile isSpace with
  | '-' :: rest => value true rest
  | '+' :: rest => value false rest
  | rest => value false rest

def unary (st : State) (sign : Char) (operand : Text) : Except Text Bool :=
  match sign with
  | 'n' => .ok (!operand.isEmpty)
  | 'z' => .ok operand.isEmpty
  | 't' => (number operand).map fun _ => false
  | c => .ok (fileCondition st c operand)

def binary (st : State) (left sign right : Text) : Except Text Bool :=
  let numbers (f : Int → Int → Bool) : Except Text Bool := do
    .ok (f (← number left) (← number right))
  match String.ofList sign with
  | "=" => .ok (left = right)
  | "!=" => .ok (left ≠ right)
  | "<" => .ok (Text.le left right && left ≠ right)
  | ">" => .ok (Text.le right left && left ≠ right)
  | "-eq" => numbers (· == ·)
  | "-ne" => numbers (· != ·)
  | "-lt" => numbers (· < ·)
  | "-le" => numbers (· ≤ ·)
  | "-gt" => numbers (· > ·)
  | "-ge" => numbers (· ≥ ·)
  | "-ef" =>
    match st.find left, st.find right with
    | .ok (.found a _), .ok (.found b _) => .ok (a = b)
    | _, _ => .ok false
  | _ => .ok false

mutual

def alternatives (st : State) (words : Array Text) :
    (fuel : Nat) → Token → Nat → Except Text (Bool × Nat)
  | 0, _, i => .ok (false, i)
  | fuel + 1, token, i => do
    let (a, i) ← conditions st words fuel token i
    if tokenAt words (i + 1) = .or then
      let (b, i) ← alternatives st words fuel (tokenAt words (i + 2)) (i + 2)
      .ok (a || b, i)
    else .ok (a, i)

def conditions (st : State) (words : Array Text) :
    (fuel : Nat) → Token → Nat → Except Text (Bool × Nat)
  | 0, _, i => .ok (false, i)
  | fuel + 1, token, i => do
    let (a, i) ← negation st words fuel token i
    if tokenAt words (i + 1) = .and then
      let (b, i) ← conditions st words fuel (tokenAt words (i + 2)) (i + 2)
      .ok (a && b, i)
    else .ok (a, i)

def negation (st : State) (words : Array Text) :
    (fuel : Nat) → Token → Nat → Except Text (Bool × Nat)
  | 0, _, i => .ok (false, i)
  | fuel + 1, token, i =>
    if token = .not then do
      let next := tokenAt words (i + 1)
      let (a, i) ← negation st words fuel next (if next = .finish then i else i + 1)
      .ok (!a, i)
    else primary st words fuel token i

def primary (st : State) (words : Array Text) :
    (fuel : Nat) → Token → Nat → Except Text (Bool × Nat)
  | 0, _, i => .ok (false, i)
  | fuel + 1, token, i =>
    match token with
    | .finish => .ok (false, i)
    | .opening =>
      if tokenAt words (i + 1) = .closing then .ok (false, i + 1)
      else do
        let (a, i) ← alternatives st words fuel (tokenAt words (i + 1)) (i + 1)
        if tokenAt words (i + 1) = .closing then .ok (a, i + 1)
        else .error "closing paren expected"
    | .unary c =>
      match words[i + 1]? with
      | none => .error (['-', c] ++ (": argument expected" : Text))
      | some t => (unary st c t).map (·, i + 1)
    | _ =>
      match words[i]?, tokenAt words (i + 1) with
      | some left, .binary sign =>
        match words[i + 2]? with
        | none => .error (sign ++ (": argument expected" : Text))
        | some right => (binary st left sign right).map (·, i + 2)
      | some t, _ => .ok (!t.isEmpty, i)
      | none, _ => .ok (false, i)

end

/-- Evaluates words, the first of which is what `token` says. -/
def whole (st : State) (token : Token) (words : List Text) : Except Text Bool := do
  let all := words.toArray
  let (a, i) ← alternatives st all (4 * words.length + 8) token 0
  match all[i]?, all[i + 1]? with
  | some t, some _ => .error (t ++ (": unexpected operator" : Text))
  | _, _ => .ok a

end Condition

/-- Whether a condition holds, or the complaint about it. -/
def condition (st : State) : (fuel : Nat) → List Text → Except Text Bool
  | _, [] => .ok false
  | 0, _ => .ok false
  | fuel + 1, words =>
    let bracketed := (words.length = 3 || words.length = 4) && words.head? = some ['('] &&
      words.getLast? = some [')']
    let negated := (words.length = 3 || words.length = 4) && words.head? = some ['!']
    let plain (ws : List Text) : Except Text Bool :=
      Condition.whole st (Condition.tokenAt ws.toArray 0) ws
    if words.length = 3 && (words[1]?).any Condition.isBinary then
      Condition.whole st .operand words
    else if bracketed then plain words.tail.dropLast
    else if negated then (condition st fuel words.tail).map (!·)
    else plain words

def test (called : Text) (st : State) (arguments : List Text) : State :=
  let fault (t : Text) : State := st.shellFault 2 (called ++ (": " : Text) ++ t)
  let judge (words : List Text) : State :=
    match condition st (words.length + 1) words with
    | .ok true => st.withStatus 0
    | .ok false => st.withStatus 1
    | .error t => fault t
  if called = ['['] then
    if arguments.getLast? = some [']'] then judge arguments.dropLast else fault "missing ]"
  else judge arguments

end Shell

end BuildManifest
