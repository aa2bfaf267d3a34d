import BuildManifest.Shell.Records.Reading
import BuildManifest.Shell.Lines
import BuildManifest.Shell.Writing

/-!
What a script for records works on: values, variables, arrays, the fields of the
record and the files it reads and writes. The keys of an array are gone over in the
order of their hashes.
-/

namespace BuildManifest

namespace Shell

namespace Records

inductive Value where
  | unset
  | number (x : Float)
  | text (t : Text)
  /-- Something that was read, which counts as a number if it looks like one. -/
  | input (t : Text)

def leadingNumber (t : Text) : Float × Text :=
  let size (t : Text) : Option (Float × Text) :=
    (Decimal.readDigits? t).map fun (n, places, rest) =>
      let (e, rest) := Decimal.readExponent rest
      let e := e - places
      (Float.ofScientific n (e < 0) e.natAbs, rest)
  match t.dropWhile isSpace with
  | '-' :: rest => ((size rest).map fun (x, after) => (-x, after)).getD (0, t)
  | '+' :: rest => (size rest).getD (0, t)
  | rest => (size rest).getD (0, t)

def looksNumeric (t : Text) : Bool :=
  t.any Char.isDigit && (leadingNumber t).2.all isSpace

namespace Value

def toNumber : Value → Float
  | .unset => 0
  | .number x => x
  | .text t | .input t => (leadingNumber t).1

def truncated (x : Float) : Int :=
  if x.isNaN || x.isInf then 0
  else
    let (n, d) := Decimal.quotient x
    if x < 0 then -((n / d : Nat) : Int) else (n / d : Nat)

/-- Whether a number is an integer that is written as such. -/
def isWhole (x : Float) : Bool :=
  x.isFinite && (x.floor == x) && x.abs < 9.3e18

def isTrue : Value → Bool
  | .unset => false
  | .number x => x != 0
  | .text t => !t.isEmpty
  | .input t => if looksNumeric t then (leadingNumber t).1 != 0 else !t.isEmpty

/-- The number that a value is in a comparison, if it counts as one. -/
def asNumber? : Value → Option Float
  | .unset => some 0
  | .number x => some x
  | .text _ => none
  | .input t => if looksNumeric t then some (leadingNumber t).1 else none

def ofBool (b : Bool) : Value := .number (if b then 1 else 0)

def ofNat (n : Nat) : Value := .number (Float.ofNat n)

end Value

/-- A variable: its value and the number of its array. -/
structure Cell where
  value : Value
  array : Nat

/-- Why the statements that follow are not carried out. -/
inductive Flow where
  | onward
  | next
  | exit
  | back (v : Value)
  | leave
  | again

structure Engine where
  shell : State
  script : Script
  globals : List (Text × Cell)
  locals : List (Text × Cell)
  /-- The arrays; of each the entries used last come first. -/
  arrays : Array (List (Text × Value))
  record : Text
  fields : List Value
  /-- What is left of the file that is being read. -/
  input : Option Text
  /-- The number of the argument to be read next, and whether one has been read. -/
  nextArgument : Nat
  hasRead : Bool
  readers : List (Text × Text)
  /-- Files that are being written, and what commands are to read. -/
  sinks : List ((Text × Text) × List Text)
  ranges : List Nat
  seed : Nat
  flow : Flow
  status : Nat

/-- The place of a key among the lists of an array. -/
def bucket (key : Text) : Nat :=
  (key.foldl (fun (h : UInt32) c => (h ^^^ UInt32.ofNat c.toNat) * 16777619) 2166136261).toNat % 64

namespace Engine

/-- The cell of a variable, which is made if there is none. -/
def cell (e : Engine) (name : Text) : Cell × Engine :=
  match (e.locals.lookup name).orElse fun _ => e.globals.lookup name with
  | some c => (c, e)
  | none =>
    let c : Cell := ⟨.unset, e.arrays.size⟩
    (c, { e with globals := (name, c) :: e.globals, arrays := e.arrays.push [] })

def putCell (name : Text) (v : Value) (cells : List (Text × Cell)) : List (Text × Cell) :=
  cells.map fun c => if c.1 = name then (name, { c.2 with value := v }) else c

def entries (e : Engine) (array : Nat) : List (Text × Value) := e.arrays.getD array []

def setEntries (e : Engine) (array : Nat) (es : List (Text × Value)) : Engine :=
  { e with arrays := e.arrays.setIfInBounds array es }

def setEntry (e : Engine) (array : Nat) (key : Text) (v : Value) : Engine :=
  e.setEntries array ((key, v) :: (e.entries array).filter fun x => x.1 ≠ key)

/-- The value of an entry, which is made if there is none. -/
def entry (e : Engine) (array : Nat) (key : Text) : Value × Engine :=
  match (e.entries array).lookup key with
  | some v => (v, e)
  | none => (.unset, e.setEntry array key .unset)

/-- The keys of an array in the order in which they are gone over. -/
def keys (e : Engine) (array : Nat) : List Text :=
  ((e.entries array).map (·.1)).mergeSort fun a b => bucket a ≤ bucket b

def plain (e : Engine) (name : Text) : Value :=
  (((e.locals.lookup name).orElse fun _ => e.globals.lookup name).map Cell.value).getD .unset

/-- The text of a number, by the format in a variable unless it is an integer. -/
def numberText (e : Engine) (format : Text) (x : Float) : Text :=
  if Value.isWhole x then Text.ofInt (Value.truncated x)
  else if x.isNaN then (if Decimal.isNegative x then "-nan" else "nan")
  else if x.isInf then (if x < 0 then "-inf" else "inf")
  else
    let form := match e.plain format with
      | .text t | .input t => t
      | _ => "%.6g"
    convertWith form x
where
  /-- A format of one conversion, applied to a number. -/
  convertWith (form : Text) (x : Float) : Text :=
    let lead := form.takeWhile (· ≠ '%')
    let spec := form.drop (lead.length + 1)
    let flags := spec.takeWhile fun c => ("-+ #0" : Text).contains c
    let (width, rest) := digitsOf (spec.drop flags.length)
    let (precision, rest) := match rest with
      | '.' :: more => (some (digitsOf more).1, (digitsOf more).2)
      | _ => (none, rest)
    match rest with
    | [] => form
    | kind :: tail =>
      let k : Conversion := ⟨flags, width, precision, kind⟩
      lead ++ (if kind = 'd' || kind = 'i' then k.integer (Value.truncated x) else k.number x) ++ tail

def toText (e : Engine) : Value → Text
  | .unset => []
  | .number x => e.numberText "CONVFMT" x
  | .text t | .input t => t

def shown (e : Engine) : Value → Text
  | .number x => e.numberText "OFMT" x
  | v => e.toText v

def variableText (e : Engine) (name : Text) : Text := e.toText (e.plain name)

def blankParts (t : Text) : List Text :=
  ((t.foldr (fun c (acc : List Text) =>
    if c = ' ' || c = '\t' || c = '\n' then [] :: acc
    else match acc with
      | [] => [[c]]
      | w :: ws => (c :: w) :: ws) [[]]).filter fun w => !w.isEmpty)

/-- The parts of a text between the matches of an expression that are not empty. -/
def partsBetween (x : Expression) (t : Array Char) :
    (fuel : Nat) → (start i : Nat) → List Text
  | 0, start, _ => [Expression.slice t start t.size]
  | fuel + 1, start, i =>
    match (if i ≤ t.size then x.search? t i else none) with
    | none => [Expression.slice t start t.size]
    | some (a, s) =>
      if s.position = a then partsBetween x t fuel start (a + 1)
      else Expression.slice t start a :: partsBetween x t fuel s.position s.position

def cutFields (separator : Text) (t : Text) : List Text :=
  if t.isEmpty then []
  else
    match separator with
    | [' '] => blankParts t
    | [] => t.map fun c => [c]
    | [c] => Text.pieces c t
    | s =>
      match expression? s with
      | some x =>
        let a := t.toArray
        partsBetween x a (a.size + 2) 0 0
      | none => [t]

def setRecord (e : Engine) (t : Text) : Engine :=
  let separator := e.variableText "FS"
  let byLines := (e.variableText "RS").isEmpty && separator ≠ [' ']
  let parts := if byLines then ((plainLines t).map (cutFields separator)).flatten
    else cutFields separator t
  { e with record := t, fields := parts.map .input }

/-- Puts the record together again after a field has changed. -/
def rebuild (e : Engine) : Engine :=
  { e with record := Text.joined (e.variableText "OFS") (e.fields.map e.toText) }

def setFieldCount (e : Engine) (n : Nat) : Engine :=
  ({ e with fields := e.fields.take n ++ List.replicate (n - e.fields.length) Value.unset }).rebuild

def setField (e : Engine) (n : Nat) (v : Value) : Engine :=
  if n = 0 then e.setRecord (e.toText v)
  else
    let fields := e.fields ++ List.replicate (n - e.fields.length) Value.unset
    ({ e with fields := fields.set (n - 1) v }).rebuild

def field (e : Engine) (n : Nat) : Value :=
  if n = 0 then .input e.record else (e.fields[n - 1]?).getD .unset

def valueOf (e : Engine) (name : Text) : Value :=
  if name = ("NF" : Text) then Value.ofNat e.fields.length else e.plain name

def setVariable (e : Engine) (name : Text) (v : Value) : Engine :=
  if name = ("NF" : Text) then e.setFieldCount (Value.truncated v.toNumber).toNat
  else
    let (_, e) := e.cell name
    if (e.locals.lookup name).isSome then { e with locals := putCell name v e.locals }
    else { e with globals := putCell name v e.globals }

def addTo (e : Engine) (name : Text) (n : Float) : Engine :=
  e.setVariable name (.number ((e.plain name).toNumber + n))

/-- Ends the script because of a fault. -/
def fault (e : Engine) (t : Text) : Engine :=
  { e with shell := e.shell.complain (("awk: " : Text) ++ t), status := 2, flow := .exit }

def takeRecord? (separator : Text) (t : Text) : Option (Text × Text) :=
  if t.isEmpty then none
  else
    match separator with
    | [] =>
      let t := t.dropWhile (· = '\n')
      if t.isEmpty then none
      else
        match Text.cut? ['\n', '\n'] t with
        | some (r, rest) => some (r, rest.dropWhile (· = '\n'))
        | none => some (withoutNewline t, [])
    | [c] =>
      let r := t.takeWhile (· ≠ c)
      some (r, t.drop (r.length + 1))
    | s =>
      let a := t.toArray
      match (expression? s).bind fun x => x.search? a 0 with
      | some (i, spot) => some (Expression.slice a 0 i, Expression.slice a spot.position a.size)
      | none => some (t, [])

/-- Reads a value given on the command line. -/
def givenText (t : Text) : Text :=
  match readString (t.length + 2) (t.flatMap (fun c => if c = '"' then ['\\', '"'] else
    if c = '\n' then ['\\', 'n'] else [c]) ++ ['"']) with
  | some (s, _) => s
  | none => t

def givenAssignment? (t : Text) : Option (Text × Text) :=
  match name? t with
  | some (n, '=' :: v) => some (n, givenText v)
  | _ => none

def argument (e : Engine) (i : Nat) : Text :=
  match e.globals.lookup ("ARGV" : Text) with
  | some c => (((e.entries c.array).lookup (Text.ofNat i)).map e.toText).getD []
  | none => []

/-- Opens the next file to be read; the answer says whether there is one. -/
def openNext : (fuel : Nat) → Engine → Bool × Engine
  | 0, e => (false, e)
  | fuel + 1, e =>
    let count := (Value.truncated (e.plain "ARGC").toNumber).toNat
    let standard (e : Engine) : Bool × Engine :=
      let (r, shell) := e.shell.readAll 0 plenty
      (true, { e with shell, input := some (r.toOption.getD []), hasRead := true })
    if e.nextArgument ≥ count then
      if e.hasRead then (false, e) else standard e
    else
      let a := e.argument e.nextArgument
      let e := { e with nextArgument := e.nextArgument + 1 }
      if a.isEmpty then openNext fuel e
      else
        match givenAssignment? a with
        | some (n, v) => openNext fuel (e.setVariable n (.input v))
        | none =>
          let e := (e.setVariable "FILENAME" (.text a)).setVariable "FNR" (.number 0)
          if a = ['-'] then standard e
          else
            match contentOf e.shell a with
            | (.ok t, shell) => (true, { e with shell, input := some t, hasRead := true })
            | (.error x, shell) =>
              (false, { e with shell }.fault (("cannot open \"" : Text) ++ a ++ ("\" (" : Text) ++
                reason x ++ [')']))

/-- The next record of the files. -/
def nextRecord? : (fuel : Nat) → Engine → Option Text × Engine
  | 0, e => (none, e)
  | fuel + 1, e =>
    match e.input.bind (takeRecord? (e.variableText "RS")) with
    | some (r, rest) => (some r, ({ e with input := some rest }.addTo "NR" 1).addTo "FNR" 1)
    | none =>
      match openNext 1000 { e with input := none } with
      | (true, e) => nextRecord? fuel e
      | (false, e) => (none, e)

end Engine

end Records

end Shell

end BuildManifest
