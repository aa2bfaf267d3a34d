import BuildManifest.Shell.Records.Engine

/-!
Carrying out scripts for records, as `awk` does. What a script prints for a command
is kept until the command is closed or the script ends; the command then reads it.
The fuel bounds how deep terms and statements nest and how often loops go round.
-/

namespace BuildManifest

namespace Shell

namespace Records

/-- A piece of work on what a script knows. -/
abbrev Work := StateM Engine

/-- What stands in place of a match, in which an ampersand stands for the match
itself. -/
def replaced (found : Text) : Text → Text
  | '\\' :: '&' :: rest => '&' :: replaced found rest
  | '\\' :: '\\' :: '&' :: rest => '\\' :: found ++ replaced found rest
  | '&' :: rest => found ++ replaced found rest
  | c :: rest => c :: replaced found rest
  | [] => []

/-- Replaces the first match, or all of them; an empty match right behind another
one does not count. The answer holds how many there were. -/
def replaceFrom (x : Expression) (t : Array Char) (model : Text) (everywhere : Bool) :
    (fuel : Nat) → (i copied : Nat) → (afterMatch : Bool) → (parts : List Text) → (count : Nat) →
    Nat × Text
  | 0, _, copied, _, parts, count =>
    (count, (Expression.slice t copied t.size :: parts).reverse.flatten)
  | fuel + 1, i, copied, afterMatch, parts, count =>
    let finish (copied : Nat) (parts : List Text) (count : Nat) : Nat × Text :=
      (count, (Expression.slice t copied t.size :: parts).reverse.flatten)
    match (if i ≤ t.size then x.search? t i else none) with
    | none => finish copied parts count
    | some (a, s) =>
      if s.position = a && a = i && afterMatch then
        replaceFrom x t model everywhere fuel (i + 1) copied false parts count
      else
        let found := Expression.slice t a s.position
        let parts := replaced found model :: Expression.slice t copied a :: parts
        if !everywhere then finish s.position parts (count + 1)
        else if s.position = a then
          replaceFrom x t model everywhere fuel (a + 1) a false parts (count + 1)
        else replaceFrom x t model everywhere fuel s.position s.position true parts (count + 1)

def replace (x : Expression) (t model : Text) (everywhere : Bool) : Nat × Text :=
  replaceFrom x t.toArray model everywhere (2 * t.length + 3) 0 0 false [] 0

/-- So many characters of a text from a place on, which counts from one. -/
def partOf (t : Text) (start : Float) (count : Option Float) : Text :=
  let b := Value.truncated start
  match count with
  | none => t.drop (b - 1).toNat
  | some n =>
    let n := Value.truncated n
    if b < 1 then t.take (n - b).toNat else (t.drop (b - 1).toNat).take n.toNat

/-- The place where a text begins in another one, of which the rest from the place
`n` is given; zero if there is none. -/
def placeOf (u : Text) : (n : Nat) → Text → Nat
  | n, [] => if u.isEmpty then n else 0
  | n, c :: t => if u.isPrefixOf (c :: t) then n else placeOf u (n + 1) t

def format (e : Engine) : (fuel : Nat) → Text → List Value → List Text → Text × Bool
  | 0, _, _, parts => (parts.reverse.flatten, false)
  | _ + 1, [], _, parts => (parts.reverse.flatten, false)
  | fuel + 1, '%' :: '%' :: rest, vs, parts => format e fuel rest vs (['%'] :: parts)
  | fuel + 1, '%' :: rest, vs, parts =>
    let flags := rest.takeWhile fun c => ("-+ #0" : Text).contains c
    let count (t : Text) (vs : List Value) : Option (Int × Text × List Value) :=
      match t, vs with
      | '*' :: t, v :: vs => some (Value.truncated v.toNumber, t, vs)
      | '*' :: _, [] => none
      | t, vs => some ((digitsOf t).1, (digitsOf t).2, vs)
    match count (rest.drop flags.length) vs with
    | none => (parts.reverse.flatten, true)
    | some (width, rest, vs) =>
      let precision : Option (Option Int × Text × List Value) := match rest with
        | '.' :: more => (count more vs).map fun (n, t, vs) => (some n, t, vs)
        | _ => some (none, rest, vs)
      match precision with
      | none => (parts.reverse.flatten, true)
      | some (precision, rest, vs) =>
        match rest.dropWhile fun c => c = 'l' || c = 'h', vs with
        | [], _ => (parts.reverse.flatten, false)
        | _ :: _, [] => (parts.reverse.flatten, true)
        | kind :: rest, v :: vs =>
          let k : Conversion := ⟨if width < 0 then '-' :: flags else flags, width.natAbs,
            precision.bind fun p => if p < 0 then none else some p.toNat, kind⟩
          let t : Text := match kind with
            | 's' => k.text (e.toText v)
            | 'c' =>
              match v with
              | .number x => k.text [Char.ofNat (Value.truncated x % 256).toNat]
              | v => k.text ((e.toText v).take 1)
            | 'd' | 'i' => k.integer (clamp (Value.truncated v.toNumber))
            | 'o' | 'x' | 'X' | 'u' => k.natural (Sum.bits (Value.truncated v.toNumber))
            | 'e' | 'E' | 'f' | 'F' | 'g' | 'G' => k.number v.toNumber
            | c => ['%', c]
          format e fuel rest vs (t :: parts)
  | fuel + 1, c :: rest, vs, parts =>
    let run := c :: rest.takeWhile (· ≠ '%')
    format e fuel ((c :: rest).drop run.length) vs (run :: parts)

def fault (t : Text) : Work Unit := modify fun e => e.fault t

def onShell (f : State → State) : Work Unit := modify fun e => { e with shell := f e.shell }

def writeOut (target : Text) (parts : List Text) (st : State) : State :=
  if parts.isEmpty then st
  else
    match st.readFile target with
    | .error _ => st
    | .ok old => (st.writeFile target (old ++ parts.reverse.flatten)).toOption.getD st

/-- Ends the use of a file or command; the answer is the status. -/
def closeSink (shell : Text → State → State) (kind target : Text) (parts : List Text)
    (st : State) : State :=
  if kind = ['|'] then State.feeding parts.reverse.flatten (shell target) st
  else (writeOut target parts st).withStatus 0

/-- Writes the files that are being written as far as they have got. -/
def flush : Work Unit := modify fun e =>
  { e with
    shell := e.sinks.foldl (fun st s =>
      if s.1.1 = ['|'] then st else writeOut s.1.2 s.2 st) e.shell
    sinks := e.sinks.map fun s => if s.1.1 = ['|'] then s else (s.1, []) }

def printTo (sink : Option (Text × Text)) (t : Text) : Work Unit :=
  match sink with
  | none => onShell (·.print t)
  | some (kind, target) => do
    if kind ≠ ['|'] && (target = ['-'] || target = ("/dev/stdout" : Text)) then
      onShell (·.print t)
    else if kind ≠ ['|'] && target = ("/dev/stderr" : Text) then onShell (·.send 2 t)
    else
      let e ← get
      match e.sinks.lookup (kind, target) with
      | some _ =>
        let sinks := e.sinks.map fun (s : (Text × Text) × List Text) =>
          if s.1 = (kind, target) then (s.1, t :: s.2) else s
        set { e with sinks }
      | none =>
        let added := { e with sinks := e.sinks ++ [((kind, target), [t])] }
        if kind = ['|'] then set added
        else
          let old : Except SystemError Text := if kind = ['>'] then .ok [] else
            match e.shell.readFile target with
            | .error .noSuchFile => .ok []
            | r => r
          match old.bind (e.shell.writeFile target) with
          | .ok st => set { added with shell := st }
          | .error _ => fault (("cannot open \"" : Text) ++ target ++ ("\" for output" : Text))

/-- The next record of a text that is being read, whose rest is kept. -/
def readFrom (name : Text) (start : Engine → Except SystemError Text × Engine) :
    Work (Except SystemError (Option Text)) := do
  let e ← get
  let (r, e) : Except SystemError Text × Engine := match e.readers.lookup name with
    | some t => (.ok t, e)
    | none => start e
  match r with
  | .error x => do
    set e
    pure (.error x)
  | .ok t =>
    let keep (t : Text) : Engine :=
      { e with readers := (name, t) :: e.readers.filter fun s => s.1 ≠ name }
    match Engine.takeRecord? (e.variableText "RS") t with
    | some (line, rest) => do
      set (keep rest)
      pure (.ok (some line))
    | none => do
      set (keep [])
      pure (.ok none)

def isStopped : Work Bool := do
  match (← get).flow with
  | .onward => pure (← get).shell.halt.isSome
  | _ => pure true

/-- Compares two values: as numbers if both count as such, else as texts. -/
def compare (e : Engine) (a b : Value) : Ordering :=
  match a.asNumber?, b.asNumber? with
  | some x, some y => if x < y then .lt else if x == y then .eq else .gt
  | _, _ =>
    let s := e.toText a
    let t := e.toText b
    if s = t then .eq else if Text.le s t then .lt else .gt

def arithmetic (operator : Char) (x y : Float) : Float :=
  match operator with
  | '+' => x + y
  | '-' => x - y
  | '*' => x * y
  | '/' => x / y
  | '%' =>
    if y.isInf && !x.isInf then x
    else if y == 0 || x.isNaN || x.isInf || y.isNaN then 0.0 / 0.0
    else
      let (a, b) := Decimal.quotient x
      let (c, d) := Decimal.quotient y
      let r := (a * d) % (c * b)
      let size := Float.ofScientific r false 0 / Float.ofScientific (b * d) false 0
      if x < 0 then -size else size
  | _ => x ^ y

/-- The key of an entry: the indices with the separator between them. -/
def joinedKey (e : Engine) (vs : List Value) : Text :=
  Text.joined (e.variableText "SUBSEP") (vs.map e.toText)

def freshCell (v : Value) : Work Cell :=
  modifyGet fun e => (⟨v, e.arrays.size⟩, { e with arrays := e.arrays.push [] })

def cellOf (name : Text) : Work Cell := modifyGet fun e => e.cell name

/-- Tells a script that it has run out of time. -/
def exhausted : Work Unit := modify fun e =>
  { e with shell := { e.shell with halt := some .outOfTime }, flow := .exit }

mutual

def eval (shell : Text → State → State) : (fuel : Nat) → Term → Work Value
  | 0, _ => do
    exhausted
    pure .unset
  | fuel + 1, term => do
    let number (t : Term) : Work Float := do pure (← eval shell fuel t).toNumber
    match term with
    | .number x => pure (.number x)
    | .text t => pure (.text t)
    | .pattern x => pure (Value.ofBool (x.isIn (← get).record))
    | .variable name => pure ((← get).valueOf name)
    | .element array indices => do
      let vs ← evalAll shell fuel indices
      let c ← cellOf array
      modifyGet fun e => e.entry c.array (joinedKey e vs)
    | .field n => do
      let i := Value.truncated (← number n)
      if i < 0 then do
        fault "negative field index"
        pure .unset
      else pure ((← get).field i.toNat)
    | .assign operator target a => do
      let v ← eval shell fuel a
      let v ← match operator with
        | none => pure v
        | some c => do
          let x ← number target
          pure (.number (arithmetic c x v.toNumber))
      store shell fuel target v
      pure (match v with
        | .unset => .unset
        | v => v)
    | .step valueBefore amount target => do
      let x ← number target
      store shell fuel target (.number (x + amount))
      pure (.number (if valueBefore then x else x + amount))
    | .unary operator a => do
      let v ← eval shell fuel a
      pure (match operator with
        | '!' => Value.ofBool (!v.isTrue)
        | '-' => .number (-v.toNumber)
        | _ => .number v.toNumber)
    | .binary operator a b => do
      let v ← eval shell fuel a
      let w ← eval shell fuel b
      let e ← get
      let ordered (f : Ordering → Bool) : Value := Value.ofBool (f (compare e v w))
      pure (match String.ofList operator with
        | " " => .text (e.toText v ++ e.toText w)
        | "<" => ordered (· == .lt)
        | "<=" => ordered (· != .gt)
        | "==" => ordered (· == .eq)
        | "!=" => ordered (· != .eq)
        | ">" => ordered (· == .gt)
        | ">=" => ordered (· != .lt)
        | _ => .number (arithmetic (operator.head?.getD '^') v.toNumber w.toNumber))
    | .both a b => do
      if (← eval shell fuel a).isTrue then
        pure (Value.ofBool (← eval shell fuel b).isTrue)
      else pure (Value.ofBool false)
    | .either a b => do
      if (← eval shell fuel a).isTrue then pure (Value.ofBool true)
      else pure (Value.ofBool (← eval shell fuel b).isTrue)
    | .choice c a b => do
      if (← eval shell fuel c).isTrue then eval shell fuel a else eval shell fuel b
    | .fits negated a b => do
      let v ← eval shell fuel a
      let x ← expressionOf shell fuel b
      pure (Value.ofBool (x.isIn ((← get).toText v) != negated))
    | .isIn indices array => do
      let vs ← evalAll shell fuel indices
      let c ← cellOf array
      let e ← get
      pure (Value.ofBool ((e.entries c.array).lookup (joinedKey e vs)).isSome)
    | .group ts => do
      let vs ← evalAll shell fuel ts
      match vs with
      | [v] => pure v
      | vs => pure (.text (joinedKey (← get) vs))
    | .call name arguments => call shell fuel name arguments
    | .builtin name arguments => builtin shell fuel name arguments
    | .getLine source from? target => getLine shell fuel source from? target

def evalAll (shell : Text → State → State) : (fuel : Nat) → List Term → Work (List Value)
  | 0, _ => pure []
  | _ + 1, [] => pure []
  | fuel + 1, t :: ts => do
    let v ← eval shell fuel t
    pure (v :: (← evalAll shell fuel ts))

def expressionOf (shell : Text → State → State) : (fuel : Nat) → Term → Work Expression
  | 0, _ => pure .empty
  | fuel + 1, t => do
    match t with
    | .pattern x => pure x
    | t => do
      let v ← eval shell fuel t
      let t := (← get).toText v
      match expression? t with
      | some x => pure x
      | none => do
        fault (("regular expression compile failed\n" : Text) ++ t)
        pure .empty

def store (shell : Text → State → State) : (fuel : Nat) → Term → Value → Work Unit
  | 0, _, _ => pure ()
  | fuel + 1, target, v => do
    match target with
    | .variable name => modify fun e => e.setVariable name v
    | .element array indices => do
      let vs ← evalAll shell fuel indices
      let c ← cellOf array
      modify fun e => e.setEntry c.array (joinedKey e vs) v
    | .field n => do
      let i := Value.truncated (← eval shell fuel n).toNumber
      if i < 0 then fault "negative field index"
      else modify fun e => e.setField i.toNat v
    | .group [t] => store shell fuel t v
    | _ => pure ()

/-- Reads a line; the value is whether there was one. -/
def getLine (shell : Text → State → State) :
    (fuel : Nat) → Source → Option Term → Option Term → Work Value
  | 0, _, _, _ => pure .unset
  | fuel + 1, source, from?, target => do
    let put (t : Text) (counts : Bool) : Work Unit := do
      match target with
      | some a => store shell fuel a (.input t)
      | none => modify fun e => e.setRecord t
      if counts then modify fun e => e.addTo "NR" 1
    let name ← match from? with
      | some t => do
        let v ← eval shell fuel t
        pure ((← get).toText v)
      | none => pure []
    match source with
    | .records => do
      match ← modifyGet fun e => e.nextRecord? 1000 with
      | some t => do
        put t false
        pure (.number 1)
      | none => pure (.number 0)
    | .file => do
      match ← readFrom name fun e =>
          let (r, st) := contentOf e.shell name
          (r, { e with shell := st }) with
      | .ok (some t) => do
        put t false
        pure (.number 1)
      | .ok none => pure (.number 0)
      | .error _ => pure (.number (-1))
    | .command => do
      flush
      match ← readFrom name fun e =>
          let (t, st) := State.capturing (shell name) e.shell
          (.ok t, { e with shell := st }) with
      | .ok (some t) => do
        put t true
        pure (.number 1)
      | _ => pure (.number 0)

def call (shell : Text → State → State) : (fuel : Nat) → Text → List Term → Work Value
  | 0, _, _ => do
    exhausted
    pure .unset
  | fuel + 1, name, arguments => do
    match (← get).script.functions.find? fun f => f.name = name with
    | none => do
      fault (("function " : Text) ++ name ++ (" never defined" : Text))
      pure .unset
    | some f => do
      let cells ← cellsFor shell fuel arguments
      let spare ← (f.parameters.drop cells.length).mapM fun _ => freshCell .unset
      let outer := (← get).locals
      modify fun e => { e with locals := f.parameters.zip (cells ++ spare) }
      exec shell fuel f.body
      let e ← get
      let (v, flow) : Value × Flow := match e.flow with
        | .back v => (v, .onward)
        | .exit => (.unset, .exit)
        | .next => (.unset, .next)
        | _ => (.unset, .onward)
      set { e with locals := outer, flow }
      pure v

def cellsFor (shell : Text → State → State) : (fuel : Nat) → List Term → Work (List Cell)
  | 0, _ => pure []
  | _ + 1, [] => pure []
  | fuel + 1, t :: ts => do
    let c ← match t with
      | .variable name => do
        if name = ("NF" : Text) then freshCell ((← get).valueOf name) else cellOf name
      | t => do freshCell (← eval shell fuel t)
    pure (c :: (← cellsFor shell fuel ts))

def builtin (shell : Text → State → State) : (fuel : Nat) → Text → List Term → Work Value
  | 0, _, _ => pure .unset
  | fuel + 1, name, arguments => do
    let text (t : Term) : Work Text := do
      let v ← eval shell fuel t
      pure ((← get).toText v)
    let number (t : Term) : Work Float := do pure (← eval shell fuel t).toNumber
    let real (f : Float → Float) : Work Value := do
      match arguments with
      | [a] => do pure (.number (f (← number a)))
      | _ => pure (.number (f 0))
    match String.ofList name, arguments with
    | "length", [] => pure (Value.ofNat (← get).record.length)
    | "length", [.variable array] => do
      let v := (← get).valueOf array
      match v with
      | .unset => do
        let c ← cellOf array
        pure (Value.ofNat ((← get).entries c.array).length)
      | v => pure (Value.ofNat ((← get).toText v).length)
    | "length", a :: _ => do pure (Value.ofNat (← text a).length)
    | "substr", [a, b] => do
      let t ← text a
      pure (.text (partOf t (← number b) none))
    | "substr", [a, b, c] => do
      let t ← text a
      let start ← number b
      pure (.text (partOf t start (some (← number c))))
    | "index", [a, b] => do
      let t ← text a
      let u ← text b
      pure (Value.ofNat (placeOf u 1 t))
    | "split", a :: .variable array :: more => do
      let t ← text a
      let parts ← match more with
        | [.pattern x] =>
          pure (if t.isEmpty then [] else
            Engine.partsBetween x t.toArray (t.length + 2) 0 0)
        | [s] => do pure (Engine.cutFields (← text s) t)
        | _ => do pure (Engine.cutFields ((← get).variableText "FS") t)
      let c ← cellOf array
      let keyed := (List.range parts.length).zip parts
      modify fun e => e.setEntries c.array
        (keyed.map fun (i, p) => (Text.ofNat (i + 1), Value.input p)).reverse
      pure (Value.ofNat parts.length)
    | "sub", x :: r :: more => substitute shell fuel false x r (more.head?)
    | "gsub", x :: r :: more => substitute shell fuel true x r (more.head?)
    | "match", [a, b] => do
      let t ← text a
      let x ← expressionOf shell fuel b
      let (start, size) : Float × Float := match x.search? t.toArray 0 with
        | some (i, s) => (Float.ofNat (i + 1), Float.ofNat (s.position - i))
        | none => (0, -1)
      modify fun e =>
        (e.setVariable "RSTART" (.number start)).setVariable "RLENGTH" (.number size)
      pure (.number start)
    | "sprintf", f :: more => do
      let form ← text f
      let vs ← evalAll shell fuel more
      let (t, lacks) := format (← get) (form.length + 1) form vs []
      if lacks then
        fault (("run time error: not enough arguments passed to sprintf(\"" : Text) ++ form ++
          ("\")" : Text))
      pure (.text t)
    | "sin", _ => real Float.sin
    | "cos", _ => real Float.cos
    | "exp", _ => real Float.exp
    | "log", _ => real Float.log
    | "sqrt", _ => real Float.sqrt
    | "int", _ => real fun x => if x.isFinite then (if x < 0 then x.ceil else x.floor) else x
    | "atan2", [a, b] => do
      let y ← number a
      pure (.number (Float.atan2 y (← number b)))
    | "rand", _ => modifyGet fun e =>
      let seed := (e.seed * 1103515245 + 12345) % 2147483648
      (.number (Float.ofNat seed / 2147483648.0), { e with seed })
    | "srand", _ => do
      let n ← match arguments with
        | a :: _ => number a
        | [] => pure 0
      modifyGet fun e =>
        (Value.ofNat e.seed, { e with seed := (Value.truncated n).toNat })
    | "tolower", [a] => do pure (.text ((← text a).map Char.toLower))
    | "toupper", [a] => do pure (.text ((← text a).map Char.toUpper))
    | "system", [a] => do
      let command ← text a
      flush
      onShell (shell command)
      pure (Value.ofNat (← get).shell.status)
    | "close", a :: _ => do
      let target ← text a
      let e ← get
      let wasRead := (e.readers.lookup target).isSome
      match e.sinks.find? fun s => s.1.2 = target with
      | some ((kind, _), parts) => do
        set { e with
          shell := closeSink shell kind target parts e.shell
          sinks := e.sinks.filter fun s => s.1 ≠ (kind, target) }
        pure (Value.ofNat (← get).shell.status)
      | none => do
        set { e with readers := e.readers.filter fun r => r.1 ≠ target }
        pure (.number (if wasRead then 0 else -1))
    | "fflush", _ => do
      flush
      pure (.number 0)
    | _, _ => do
      fault (("line 1: syntax error at or near " : Text) ++ name)
      pure .unset

/-- Replaces matches in a target, or in the record. -/
def substitute (shell : Text → State → State) :
    (fuel : Nat) → (everywhere : Bool) → Term → Term → Option Term → Work Value
  | 0, _, _, _, _ => pure .unset
  | fuel + 1, everywhere, x, r, target => do
    let x ← expressionOf shell fuel x
    let model ← eval shell fuel r
    let model := (← get).toText model
    let target := target.getD (.field (.number 0))
    let v ← eval shell fuel target
    let (n, t) := replace x ((← get).toText v) model everywhere
    if n > 0 then store shell fuel target (.text t)
    pure (Value.ofNat n)

def exec (shell : Text → State → State) : (fuel : Nat) → Statement → Work Unit
  | 0, _ => exhausted
  | fuel + 1, s => do
    match s with
    | .nothing => pure ()
    | .term t => do
      let _ ← eval shell fuel t
    | .print formatted ts sink => do
      let vs ← evalAll shell fuel ts
      let sink ← match sink with
        | none => pure none
        | some (kind, t) => do
          let v ← eval shell fuel t
          pure (some (kind, (← get).toText v))
      if !(← isStopped) then
        let e ← get
        match formatted, vs with
        | false, [] => printTo sink (e.record ++ e.variableText "ORS")
        | false, vs =>
          printTo sink (Text.joined (e.variableText "OFS") (vs.map e.shown) ++
            e.variableText "ORS")
        | true, [] => pure ()
        | true, v :: vs => do
          let form := e.toText v
          let (t, lacks) := format e (form.length + 1) form vs []
          printTo sink t
          if lacks then
            fault (("run time error: not enough arguments passed to printf(\"" : Text) ++ form ++
              ("\")" : Text))
    | .block ss => execAll shell fuel ss
    | .choice c a b => do
      let v ← eval shell fuel c
      if !(← isStopped) then
        if v.isTrue then exec shell fuel a else exec shell fuel b
    | .loop c body => goRound shell fuel (some c) .nothing body
    | .loopAfter body c => do
      exec shell fuel body
      if ← goesOn then goRound shell fuel (some c) .nothing body
    | .loopFrom first c step body => do
      exec shell fuel first
      goRound shell fuel c step body
    | .each name array body => do
      let c ← cellOf array
      let keys := (← get).keys c.array
      goOver shell fuel name body keys
    | .next => modify fun e => { e with flow := .next }
    | .exit status => do
      match status with
      | none => pure ()
      | some t => do
        let v ← eval shell fuel t
        modify fun e => { e with status := (Value.truncated v.toNumber % 256).toNat }
      modify fun e => { e with flow := .exit }
    | .giveBack value => do
      let v ← match value with
        | some t => eval shell fuel t
        | none => pure .unset
      if !(← isStopped) then modify fun e => { e with flow := .back v }
    | .leave => modify fun e => { e with flow := .leave }
    | .again => modify fun e => { e with flow := .again }
    | .delete array indices => do
      let vs ← evalAll shell fuel indices
      let c ← cellOf array
      if indices.isEmpty then modify fun e => e.setEntries c.array []
      else modify fun e =>
        let key := joinedKey e vs
        e.setEntries c.array ((e.entries c.array).filter fun x => x.1 ≠ key)

def execAll (shell : Text → State → State) : (fuel : Nat) → List Statement → Work Unit
  | 0, _ => exhausted
  | _ + 1, [] => pure ()
  | fuel + 1, s :: ss => do
    exec shell fuel s
    if !(← isStopped) then execAll shell fuel ss

def goesOn : Work Bool := do
  match (← get).flow with
  | .leave => do
    modify fun e => { e with flow := .onward }
    pure false
  | .again => do
    modify fun e => { e with flow := .onward }
    pure (!(← isStopped))
  | _ => do pure (!(← isStopped))

def goRound (shell : Text → State → State) :
    (fuel : Nat) → Option Term → (step body : Statement) → Work Unit
  | 0, _, _, _ => exhausted
  | fuel + 1, c, step, body => do
    let holds ← match c with
      | none => pure true
      | some t => do pure (← eval shell fuel t).isTrue
    if holds && !(← isStopped) then
      exec shell fuel body
      if ← goesOn then
        exec shell fuel step
        if !(← isStopped) then goRound shell fuel c step body

def goOver (shell : Text → State → State) :
    (fuel : Nat) → (name : Text) → (body : Statement) → List Text → Work Unit
  | 0, _, _, _ => exhausted
  | _ + 1, _, _, [] => pure ()
  | fuel + 1, name, body, key :: keys => do
    modify fun e => e.setVariable name (.input key)
    exec shell fuel body
    if ← goesOn then goOver shell fuel name body keys

end

/-- Carries out the rules that a record triggers, of which the first has the number
`n`. -/
def applyRules (shell : Text → State → State) (fuel : Nat) :
    (n : Nat) → List (Trigger × Statement) → Work Unit
  | _, [] => pure ()
  | n, (trigger, action) :: rest => do
    let active : Bool := (← get).ranges.contains n
    let holds (t : Term) : Work Bool := do pure (← eval shell fuel t).isTrue
    let applies ← match trigger with
      | .start | .finish => pure false
      | .always => pure true
      | .condition t => holds t
      | .range first last => do
        if ← (if active then pure true else holds first) then do
          let ended ← holds last
          modify fun e => { e with
            ranges := (e.ranges.filter (· ≠ n)) ++ (if ended then [] else [n]) }
          pure true
        else pure false
    if applies && !(← isStopped) then exec shell fuel action
    if !(← isStopped) then applyRules shell fuel (n + 1) rest

def goOverRecords (shell : Text → State → State) (rules : List (Trigger × Statement)) :
    (fuel : Nat) → Work Unit
  | 0 => exhausted
  | fuel + 1 => do
    match ← modifyGet fun e => e.nextRecord? 1000 with
    | none => pure ()
    | some t => do
      modify fun e => e.setRecord t
      if !(← isStopped) then
        applyRules shell fuel 0 rules
        modify fun e => match e.flow with
          | .next => { e with flow := .onward }
          | _ => e
        if !(← isStopped) then goOverRecords shell rules fuel

/-- Carries out the actions that stand before or after the records. -/
def execEdge (shell : Text → State → State) (fuel : Nat) (atStart : Bool)
    (rules : List (Trigger × Statement)) : Work Unit :=
  execAll shell fuel (rules.filterMap fun (trigger, action) =>
    match trigger, atStart with
    | .start, true | .finish, false => some action
    | _, _ => none)

def closeAll (shell : Text → State → State) : Work Unit := do
  flush
  modify fun e => { e with
    shell := e.sinks.foldl (fun st s => closeSink shell s.1.1 s.1.2 s.2 st) e.shell
    sinks := [] }

def runScript (shell : Text → State → State) (fuel : Nat) : Work Unit := do
  let rules := (← get).script.rules
  let reads := rules.any fun r => match r.1 with
    | .start => false
    | _ => true
  execEdge shell fuel true rules
  let resume : Work Unit := modify fun e => match e.flow with
    | .exit => e
    | _ => { e with flow := .onward }
  resume
  if reads then
    if !(← isStopped) then goOverRecords shell rules fuel
    if (← get).shell.halt.isNone && (← get).status ≠ 2 then
      modify fun e => { e with flow := .onward }
      execEdge shell fuel false rules
  closeAll shell

def engine (st : State) (script : Script) (called : Text) (operands : List Text) : Engine :=
  let scalar (e : Engine) (name : Text) (v : Value) : Engine := e.setVariable name v
  let table (e : Engine) (name : Text) (es : List (Text × Value)) : Engine :=
    let (c, e) := e.cell name
    e.setEntries c.array es
  let e : Engine := {
    shell := st
    script
    globals := []
    locals := []
    arrays := #[]
    record := []
    fields := []
    input := none
    nextArgument := 1
    hasRead := false
    readers := []
    sinks := []
    ranges := []
    seed := 0
    flow := .onward
    status := 0 }
  let e := [("FS", " "), ("OFS", " "), ("RS", "\n"), ("ORS", "\n"), ("SUBSEP", "\x1c"),
    ("OFMT", "%.6g"), ("CONVFMT", "%.6g"), ("FILENAME", "")].foldl
      (fun e (n, v) => scalar e n.toList (.text v.toList)) e
  let e := [("NR", 0), ("FNR", 0), ("RSTART", 0), ("RLENGTH", -1)].foldl
    (fun e (n, (v : Float)) => scalar e (String.toList n) (.number v)) e
  let e := table e "ENVIRON" (st.environment.map fun v => (v.1, .input v.2))
  let arguments := called :: operands
  let e := table e "ARGV"
    (((List.range arguments.length).zip arguments).map fun (i, a) => (Text.ofNat i, .input a))
  scalar e "ARGC" (Value.ofNat arguments.length)

/-- The options of the command: the separator, variables, files of the script, and
the other arguments. -/
structure Given where
  separator : Option Text
  assignments : List Text
  files : List Text
  operands : List Text

def readGiven (g : Given) : (fuel : Nat) → List Text → Given
  | 0, _ => g
  | fuel + 1, arguments =>
    match arguments with
    | ['-', '-'] :: rest => { g with operands := rest }
    | ['-', 'F'] :: v :: rest => readGiven { g with separator := some v } fuel rest
    | ('-' :: 'F' :: v) :: rest => readGiven { g with separator := some v } fuel rest
    | ['-', 'v'] :: v :: rest => readGiven { g with assignments := g.assignments ++ [v] } fuel rest
    | ('-' :: 'v' :: v) :: rest => readGiven { g with assignments := g.assignments ++ [v] } fuel rest
    | ['-', 'f'] :: v :: rest => readGiven { g with files := g.files ++ [v] } fuel rest
    | ('-' :: 'f' :: v) :: rest => readGiven { g with files := g.files ++ [v] } fuel rest
    | ['-', 'W'] :: _ :: rest => readGiven g fuel rest
    | rest => { g with operands := rest }

/-- The script and the arguments that follow it. -/
def scriptOf (st : State) (g : Given) : Except Text (Text × List Text) × State :=
  match g.files, g.operands with
  | [], [] => (.error "usage: awk [-F fs][-v var=value][prog | -f progfile][file ...]", st)
  | [], t :: rest => (.ok (t, rest), st)
  | files, rest =>
    let (texts, st) := files.foldl (fun (acc : Except Text Text × State) p =>
      match acc with
      | (.error e, st) => (.error e, st)
      | (.ok t, st) =>
        match contentOf st p with
        | (.ok more, st) => (.ok (t ++ more ++ ['\n']), st)
        | (.error e, st) => (.error (("cannot open \"" : Text) ++ p ++ ("\" (" : Text) ++
            reason e ++ [')']), st)) (.ok [], st)
    (texts.map (·, rest), st)

/-- Runs `awk`, with a way to run the commands of scripts. -/
def run (shell : Text → State → State) (fuel : Nat) (st : State) (arguments : List Text) : State :=
  let g := readGiven ⟨none, [], [], []⟩ (arguments.length + 1) arguments
  match scriptOf st g with
  | (.error what, st) => st.failing 2 (("awk: " : Text) ++ what)
  | (.ok (t, operands), st) =>
    match read? t with
    | none => st.failing 2 "awk: line 1: syntax error at or near end of line"
    | some script =>
      let e := engine st script "awk" operands
      let e := match g.separator with
        | some v => e.setVariable "FS" (.text (Engine.givenText v))
        | none => e
      let e := g.assignments.foldl (fun e v =>
        match Engine.givenAssignment? v with
        | some (n, t) => e.setVariable n (.input t)
        | none => e) e
      let (_, e) := (runScript shell fuel).run e
      e.shell.withStatus e.status

end Records

end Shell

end BuildManifest
