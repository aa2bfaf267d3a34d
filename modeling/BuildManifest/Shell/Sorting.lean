import BuildManifest.Shell.Lines

/-!
How `sort` orders lines: by keys, each a part of the line compared in one of several
ways, and by the whole line where all keys agree.
-/

namespace BuildManifest

namespace Shell

namespace Sorting

/-- A key: where it begins and ends, counted in fields and characters from zero,
and how it is compared. -/
structure Key where
  firstField : Nat
  firstCharacter : Nat
  /-- The fields before the end and the characters after them; a key without an end
  goes on to that of the line. -/
  finish : Option (Nat × Nat)
  ways : Text
  finishSkipsBlanks : Bool

def isBlank (c : Char) : Bool := c = ' ' || c = '\t'

def skipField (separator : Option Char) (t : Text) : Text :=
  match separator with
  | some s => (t.dropWhile (· ≠ s)).drop 1
  | none => (t.dropWhile isBlank).dropWhile fun c => !isBlank c

def skipFields (separator : Option Char) : Nat → Text → Text
  | 0, t => t
  | n + 1, t => skipFields separator n (skipField separator t)

/-- What is left of a line after the end of a key. -/
def afterKey (separator : Option Char) (k : Key) (l : Text) : Text :=
  match k.finish with
  | none => []
  | some (fields, 0) =>
    let t := skipFields separator fields l
    match separator with
    | some s => t.dropWhile (· ≠ s)
    | none => skipField none t
  | some (fields, characters) =>
    let t := skipFields separator fields l
    (if k.finishSkipsBlanks then t.dropWhile isBlank else t).drop characters

def Key.text (separator : Option Char) (k : Key) (l : Text) : Text :=
  let start := skipFields separator k.firstField l
  let start := if k.ways.contains 'b' then start.dropWhile isBlank else start
  let start := start.drop k.firstCharacter
  start.take (start.length - (afterKey separator k l).length)

/-- The number at the front of a text as an integer with so many decimal places. -/
def number (t : Text) : Int × Nat :=
  let (negative, body) := match t.dropWhile isBlank with
    | '-' :: rest => (true, rest)
    | rest => (false, rest)
  match Decimal.readDigits? body with
  | some (n, places, _) => (if negative then -(n : Int) else n, places)
  | none => (0, 0)

def compareNumbers (a b : Int × Nat) : Ordering :=
  compare (a.1 * Nat.pow 10 b.2) (b.1 * Nat.pow 10 a.2)

/-- The rank of the unit behind a number, as negative as the number. -/
def unitOf (t : Text) : Int :=
  let t := t.dropWhile isBlank
  let (negative, body) := match t with
    | '-' :: rest => (true, rest)
    | rest => (false, rest)
  match Decimal.readDigits? body with
  | some (n, _, c :: _) =>
    let rank := ("KMGTPEZY".toList.idxOf (if c = 'k' then 'K' else c)) + 1
    if n = 0 || rank > 8 then 0 else if negative then -(rank : Int) else rank
  | _ => 0

def months : List Text :=
  List.map String.toList
    ["JAN", "FEB", "MAR", "APR", "MAY", "JUN", "JUL", "AUG", "SEP", "OCT", "NOV", "DEC"]

def month (t : Text) : Nat :=
  let t := ((t.dropWhile isBlank).take 3).map Char.toUpper
  if months.contains t then months.idxOf t + 1 else 0

/-- Compares texts in which runs of digits count as numbers. -/
def compareVersions : (fuel : Nat) → Text → Text → Ordering
  | 0, a, b => compare a.length b.length
  | _ + 1, [], [] => .eq
  | fuel + 1, a, b =>
    let rank (c : Option Char) : Int :=
      match c with
      | none => 0
      | some '~' => -1
      | some c => if c.isDigit then 0 else if c.isAlpha then c.toNat else c.toNat + 256
    let isDigit (t : Text) : Bool := t.head?.any Char.isDigit
    if isDigit a && isDigit b then
      let (n, restA) := digitsOf a
      let (m, restB) := digitsOf b
      (compare n m).then (compareVersions fuel restA restB)
    else
      (compare (rank a.head?) (rank b.head?)).then
        (compareVersions fuel (if isDigit a then a else a.tail) (if isDigit b then b else b.tail))

def compareTexts (a b : Text) : Ordering :=
  if a = b then .eq else if Text.le a b then .lt else .gt

def Key.compare (separator : Option Char) (k : Key) (a b : Text) : Ordering :=
  let (x, y) := (k.text separator a, k.text separator b)
  let has (c : Char) : Bool := k.ways.contains c
  let value? (t : Text) : Option Float := (Decimal.read? t).map (·.1)
  let order : Ordering :=
    if has 'n' then compareNumbers (number x) (number y)
    else if has 'g' then
      match value? x, value? y with
      | none, none => .eq
      | none, some _ => .lt
      | some _, none => .gt
      | some p, some q => if p < q then .lt else if q < p then .gt else .eq
    else if has 'h' then (Ord.compare (unitOf x) (unitOf y)).then (compareNumbers (number x) (number y))
    else if has 'M' then Ord.compare (month x) (month y)
    else if has 'V' then compareVersions (x.length + y.length + 1) x y
    else
      let shape (t : Text) : Text :=
        let t := if has 'd' then t.filter fun c => c.isAlphanum || isBlank c else t
        let t := if has 'i' then t.filter fun c => 32 ≤ c.toNat && c.toNat ≤ 126 else t
        if has 'f' then t.map Char.toUpper else t
      compareTexts (shape x) (shape y)
  if has 'r' then order.swap else order

/-- Reads a place in a line: a field, a character and letters. -/
def readPlace? (t : Text) : Option (Nat × Option Nat × Text × Text) :=
  if !t.head?.any Char.isDigit then none
  else
    let (field, rest) := digitsOf t
    let (character, rest) := match rest with
      | '.' :: more => (some (digitsOf more).1, (digitsOf more).2)
      | _ => (none, rest)
    let letters := rest.takeWhile Char.isAlpha
    some (field, character, letters, rest.drop letters.length)

/-- Reads a key. One without letters of its own is compared as all others are. -/
def readKey? (ways : Text) (t : Text) : Option Key :=
  match readPlace? t with
  | some (field, character, letters, rest) =>
    if field = 0 || character = some 0 then none
    else
      let own (more : Text) : Text := if (letters ++ more).isEmpty then ways else letters ++ more
      match rest with
      | [] => some ⟨field - 1, character.getD 1 - 1, none, own [], false⟩
      | ',' :: rest =>
        match readPlace? rest with
        | some (last, end?, more, []) =>
          if last = 0 then none
          else some ⟨field - 1, character.getD 1 - 1, some (last - 1, end?.getD 0),
            own (if letters.contains 'b' then more else more.filter (· ≠ 'b')), more.contains 'b'⟩
        | _ => none
      | _ => none
  | none => none

end Sorting

def sort (st : State) (arguments : List Text) : State :=
  withOptions "sort" 2 "bdfgihMnRrVk:t:uo:scCmzS:T:" [("reverse", 'r'), ("numeric-sort", 'n'),
      ("unique", 'u'), ("key", 'k'), ("field-separator", 't'), ("ignore-case", 'f'),
      ("output", 'o'), ("stable", 's'), ("check", 'c'), ("general-numeric-sort", 'g'),
      ("human-numeric-sort", 'h'), ("version-sort", 'V'), ("month-sort", 'M'),
      ("ignore-leading-blanks", 'b'), ("dictionary-order", 'd'), ("merge", 'm')] arguments st
    fun o st =>
    let ways := (o.given.map (·.1)).filter fun c => ("bdfgihMnRrV" : Text).contains c
    let separator := ((o.value? 't').bind fun t => if t = ['\\', '0'] then some '\x00' else t.head?)
    let fault (st : State) (e : SystemError) (p : Path) : State :=
      st.failing 2 ((if e = .isDirectory then ("sort: read failed: " : Text) else
        "sort: cannot read: ") ++ p ++ (": " : Text) ++ reason e)
    match (o.values 'k').mapM (Sorting.readKey? ways) with
    | none =>
      let bad := ((o.values 'k').find? fun t => (Sorting.readKey? ways t).isNone).getD []
      st.failing 2 (if bad.head? = some '0' then
        ("sort: field number is zero: invalid field specification " : Text) ++ quotedName bad
        else ("sort: invalid number at field start: invalid count at start of " : Text) ++
          quotedName bad)
    | some keys =>
      let keys := if keys.isEmpty then
          (if ways.isEmpty || ways = ['r'] then [] else [⟨0, 0, none, ways, false⟩])
        else keys
      let byKeys (a b : Text) : Ordering :=
        keys.foldl (fun (r : Ordering) k => r.then (k.compare separator a b)) .eq
      let whole (a b : Text) : Ordering :=
        let r := Sorting.compareTexts a b
        if ways.contains 'r' then r.swap else r
      let keysOnly := o.has 's' || (o.has 'u' && !keys.isEmpty)
      let order (a b : Text) : Ordering :=
        if keysOnly then byKeys a b else (byKeys a b).then (whole a b)
      let equal (a b : Text) : Bool :=
        if keys.isEmpty then a = b else byKeys a b = .eq
      let operands := if o.operands.isEmpty then [['-']] else o.operands
      match operands.findSome? fun p => match (if p = ['-'] then st.waiting 0 plenty
          else (contentOf st p).1) with
        | .error e => some (e, p)
        | .ok _ => none with
      | some (e, p) => fault st e p
      | none =>
        let step (acc : List Text × State) (p : Path) : List Text × State :=
          match contentOf acc.2 p with
          | (.ok t, st) => (acc.1 ++ plainLines t, st)
          | (.error _, st) => (acc.1, st)
        let (ls, st) := operands.foldl step ([], st)
        if o.has 'c' || o.has 'C' then
          let rec check : Nat → List Text → Option (Nat × Text)
            | n, a :: b :: rest =>
              if order a b = .gt || (o.has 'u' && equal a b) then some (n, b)
              else check (n + 1) (b :: rest)
            | _, _ => none
          match check 2 ls with
          | none => st.withStatus 0
          | some (n, l) =>
            if o.has 'C' then st.withStatus 1
            else st.failing 1 (("sort: " : Text) ++ operands.head?.getD [] ++ (":" : Text) ++
              Text.ofNat n ++ (": disorder: " : Text) ++ l)
        else
          let sorted := ls.mergeSort fun a b => order a b ≠ .gt
          let rec firsts : List Text → List Text
            | a :: b :: rest =>
              if equal a b then firsts (a :: rest) else a :: firsts (b :: rest)
            | rest => rest
          termination_by l => l.length
          let sorted := if o.has 'u' then firsts sorted else sorted
          let out := sorted.flatMap (· ++ ['\n'])
          match o.value? 'o' with
          | none => (st.print out).withStatus 0
          | some p =>
            match st.writeFile p out with
            | .ok st => st.withStatus 0
            | .error e => st.failing 2 (("sort: open failed: " : Text) ++ p ++ (": " : Text) ++
                reason e)

end Shell

end BuildManifest
