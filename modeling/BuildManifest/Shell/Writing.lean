import BuildManifest.Shell.Decimal
import BuildManifest.Shell.State

/-!
The two commands that write their arguments, `echo` and `printf`, with the
escapes and the formats they know.
-/

namespace BuildManifest

namespace Shell

/-- The character of up to three octal digits and what follows them. -/
def readOctal (t : Text) : Char × Text :=
  let digits := (t.take 3).takeWhile isOctalDigit
  (Char.ofNat (valueIn 8 digits % 256), t.drop digits.length)

def simpleEscape? (c : Char) : Option Char :=
  match c with
  | 'n' => some '\n'
  | 't' => some '\t'
  | 'r' => some '\r'
  | 'a' => some '\x07'
  | 'b' => some '\x08'
  | 'e' => some '\x1b'
  | 'f' => some '\x0c'
  | 'v' => some '\x0b'
  | '\\' => some '\\'
  | _ => none

/-- Resolves the escapes of a text, up to `\c`, which ends all output. An octal
escape may have a zero more in front. -/
def unescape : (fuel : Nat) → Text → Text × Bool
  | _, [] => ([], false)
  | 0, _ :: _ => ([], false)
  | fuel + 1, '\\' :: c :: rest =>
    let go (out : Char) (rest : Text) : Text × Bool :=
      let (more, stopped) := unescape fuel rest
      (out :: more, stopped)
    match simpleEscape? c with
    | some d => go d rest
    | none =>
      if c = 'c' then ([], true)
      else if c = '0' && rest.head?.any isOctalDigit then
        let (d, rest) := readOctal rest
        go d rest
      else if isOctalDigit c then
        let (d, rest) := readOctal (c :: rest)
        go d rest
      else go '\\' (c :: rest)
  | fuel + 1, c :: rest =>
    let (more, stopped) := unescape fuel rest
    (c :: more, stopped)

def unescaped (t : Text) : Text × Bool :=
  if t.contains '\\' then unescape (t.length + 1) t else (t, false)

def echo (st : State) (arguments : List Text) : State :=
  let (quiet, words) := match arguments with
    | ['-', 'n'] :: rest => (true, rest)
    | all => (false, all)
  let (t, stopped) := unescaped (Text.joined [' '] words)
  (st.print (if quiet || stopped then t else t ++ ['\n'])).withStatus 0

/-- The `echo` that is a program of its own, which resolves escapes only when
asked to. -/
def plainEcho (st : State) (arguments : List Text) : State :=
  let isFlag (t : Text) : Bool := match t with
    | '-' :: c :: rest => (c :: rest).all fun d => d = 'n' || d = 'e' || d = 'E'
    | _ => false
  let flags := (arguments.takeWhile isFlag).flatten
  let words := Text.joined [' '] (arguments.dropWhile isFlag)
  let (t, stopped) := if flags.contains 'e' then unescaped words else (words, false)
  (st.print (if flags.contains 'n' || stopped then t else t ++ ['\n'])).withStatus 0

structure Conversion where
  flags : Text
  width : Nat
  precision : Option Nat
  kind : Char

namespace Conversion

def isLeft (k : Conversion) : Bool := k.flags.contains '-'

def sign (k : Conversion) (negative : Bool) : Text :=
  if negative then ['-']
  else if k.flags.contains '+' then ['+']
  else if k.flags.contains ' ' then [' ']
  else []

/-- Fills up to the width, with zeros between the sign and the digits or with
blanks at either end. -/
def pad (k : Conversion) (zeros : Bool) (lead body : Text) : Text :=
  let gap := k.width - (lead.length + body.length)
  if k.isLeft then lead ++ body ++ List.replicate gap ' '
  else if zeros then lead ++ List.replicate gap '0' ++ body
  else List.replicate gap ' ' ++ lead ++ body

def text (k : Conversion) (t : Text) : Text :=
  k.pad false [] (match k.precision with
    | some p => t.take p
    | none => t)

/-- Digits, at least as many as the precision asks for. -/
def withDigits (k : Conversion) (lead digits : Text) (isZero : Bool) : Text :=
  let digits := match k.precision with
    | some p => if p = 0 && isZero then [] else List.replicate (p - digits.length) '0' ++ digits
    | none => digits
  k.pad (k.flags.contains '0' && k.precision.isNone) lead digits

def integer (k : Conversion) (n : Int) : Text :=
  k.withDigits (k.sign (n < 0)) (Decimal.digits n.natAbs) (n = 0)

def natural (k : Conversion) (n : Nat) : Text :=
  match k.kind with
  | 'o' =>
    let t := Nat.toDigits 8 n
    k.withDigits [] (if k.flags.contains '#' && n ≠ 0 then '0' :: t else t) (n = 0)
  | 'x' =>
    k.withDigits (if k.flags.contains '#' && n ≠ 0 then ['0', 'x'] else []) (Nat.toDigits 16 n)
      (n = 0)
  | 'X' =>
    k.withDigits (if k.flags.contains '#' && n ≠ 0 then ['0', 'X'] else [])
      ((Nat.toDigits 16 n).map Char.toUpper) (n = 0)
  | _ => k.withDigits [] (Decimal.digits n) (n = 0)

def number (k : Conversion) (x : Float) : Text :=
  let places := k.precision.getD 6
  let isFinite := x.isFinite
  let body : Text :=
    if x.isNaN then "nan"
    else if x.isInf then "inf"
    else match k.kind.toLower with
      | 'f' => Decimal.fixed places (k.flags.contains '#') x
      | 'e' => Decimal.scientific places (k.flags.contains '#') x
      | _ => Decimal.general places (k.flags.contains '#') x
  let body := if k.kind.isUpper then body.map Char.toUpper else body
  k.pad (k.flags.contains '0' && isFinite) (k.sign (Decimal.isNegative x)) body

end Conversion

/-- A value that an argument spells, or what is wrong with the argument. -/
structure Spelled (α : Type) where
  value : α
  fault : Option Text

/-- What an argument that is not a number as a whole counts as. -/
def spelled {α : Type} (zero : α) (t : Text) (r : Option (α × Text)) : Spelled α :=
  match r with
  | none => ⟨zero, if t.isEmpty then none else some ": expected numeric value"⟩
  | some (x, []) => ⟨x, none⟩
  | some (x, _) => ⟨x, some ": not completely converted"⟩

/-- The integer of an argument; a quote in front gives the code of a character. -/
def spelledInteger (t : Text) : Spelled Int :=
  match t with
  | '\'' :: rest | '"' :: rest => ⟨((rest.head?.map Char.toNat).getD 0 : Nat), none⟩
  | _ => spelled 0 t (readInteger t)

def spelledNumber (t : Text) : Spelled Float :=
  match t with
  | '\'' :: rest | '"' :: rest => ⟨Float.ofNat ((rest.head?.map Char.toNat).getD 0), none⟩
  | _ => spelled 0 t (Decimal.read? t)

/-- What one conversion of an argument comes to: the output, a complaint, and
whether the output ends here. -/
def Conversion.apply (k : Conversion) (argument : Text) : Text × Option Text × Bool :=
  let fault (what : Option Text) : Option Text := what.map (argument ++ ·)
  let beyond : Text := ": Numerical result out of range"
  match k.kind with
  | 's' => (k.text argument, none, false)
  | 'b' =>
    let (t, stopped) := unescaped argument
    (k.text t, none, stopped)
  | 'c' => (k.pad false [] [argument.head?.getD '\x00'], none, false)
  | 'd' | 'i' =>
    let s := spelledInteger argument
    let n := clamp s.value
    (k.integer n, if n = s.value then fault s.fault else some (argument ++ beyond), false)
  | 'u' | 'o' | 'x' | 'X' =>
    let s := spelledInteger argument
    if s.value.natAbs < Nat.pow 2 64 then (k.natural (Sum.bits s.value), fault s.fault, false)
    else (k.natural (Nat.pow 2 64 - 1), some (argument ++ beyond), false)
  | _ =>
    let s := spelledNumber argument
    (k.number s.value, fault s.fault, false)

/-- A run through a format: what it has written, the arguments that are left,
whether one was asked for, and why it ended early, if it did. -/
structure Run where
  parts : List Text
  arguments : List Text
  asked : Bool
  status : Nat
  complaints : List Text
  ended : Bool

namespace Run

def add (r : Run) (t : Text) : Run := { r with parts := t :: r.parts }

def next (r : Run) : Text × Run :=
  (r.arguments.head?.getD [], { r with arguments := r.arguments.tail, asked := true })

def fault (r : Run) (status : Nat) (t : Text) : Run :=
  { r with status := max r.status status, complaints := t :: r.complaints }

/-- A number that the format gives or, for a star, an argument. -/
def count (r : Run) (t : Text) : Int × Text × Run :=
  match t with
  | '*' :: rest =>
    let (argument, r) := r.next
    ((spelledInteger argument).value, rest, r)
  | _ => ((digitsOf t).1, (digitsOf t).2, r)

def convert (r : Run) (t : Text) : Run × Text :=
  let isFlag (c : Char) : Bool := ("-+ #0" : Text).contains c
  let flags := t.takeWhile isFlag
  let (width, rest, r) := r.count (t.drop flags.length)
  let (precision, rest, r) : Option Int × Text × Run := match rest with
    | '.' :: rest =>
      let (n, rest, r) := r.count rest
      (some n, rest, r)
    | rest => (none, rest, r)
  match rest with
  | [] => ({ r.fault 2 "missing format character" with ended := true }, [])
  | c :: rest =>
    if ("sbcdiuoxXeEfFgG" : Text).contains c then
      let k : Conversion :=
        ⟨if width < 0 then '-' :: flags else flags, width.natAbs,
          precision.bind fun p => if p < 0 then none else some p.toNat, c⟩
      let (argument, r) := r.next
      let (out, complaint, ended) := k.apply argument
      let r := { r.add out with ended }
      ((match complaint with
        | some what => r.fault 1 what
        | none => r), rest)
    else
      let read := t.take (t.length - rest.length)
      ({ r.fault 2 ('%' :: read ++ (": invalid directive" : Text)) with ended := true }, rest)

def once : (fuel : Nat) → Text → Run → Run
  | _, [], r => r
  | 0, _ :: _, r => r
  | fuel + 1, c :: rest, r =>
    if r.ended then r
    else
      match c, rest with
      | '%', '%' :: rest => once fuel rest (r.add ['%'])
      | '%', rest =>
        let (r, rest) := r.convert rest
        once fuel rest r
      | '\\', d :: rest =>
        match simpleEscape? d with
        | some e => once fuel rest (r.add [e])
        | none =>
          if isOctalDigit d then
            let (e, rest) := readOctal (d :: rest)
            once fuel rest (r.add [e])
          else once fuel rest (r.add ['\\', d])
      | c, rest => once fuel rest (r.add [c])

/-- Goes over a format as long as it takes arguments. -/
def all : (fuel : Nat) → Text → Run → Run
  | 0, _, r => r
  | fuel + 1, t, r =>
    let r := once (t.length + 1) t { r with asked := false }
    if r.asked && !r.arguments.isEmpty && !r.ended then all fuel t r else r

end Run

def formatted (t : Text) (arguments : List Text) : Run :=
  Run.all (arguments.length + 1) t ⟨[], arguments, false, 0, [], false⟩

def printf (complain : State → Nat → Text → State) (st : State) (arguments : List Text) : State :=
  match (match arguments with
    | ['-', '-'] :: rest => rest
    | all => all) with
  | [] => complain st 2 "printf: usage: printf format [arg ...]"
  | t :: rest =>
    let r := formatted t rest
    let st := r.complaints.foldr (fun what st => complain st 0 (("printf: " : Text) ++ what)) st
    (st.print r.parts.reverse.flatten).withStatus r.status

end Shell

end BuildManifest
