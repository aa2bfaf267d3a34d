import BuildManifest.Shell.Listing
import BuildManifest.Shell.Decimal

/-!
Commands that read their operands, or the standard input, and pass on some of the
lines or count them.
-/

namespace BuildManifest

namespace Shell

/-- How much is read of what never ends. -/
def plenty : Nat := 65536

/-- What a file or, for a dash, the standard input holds. -/
def contentOf (st : State) (p : Path) : Except SystemError Text × State :=
  if p = ['-'] then st.readAll 0 plenty
  else
    match State.streamPath? p with
    | some stream => st.readAll stream plenty
    | none => (st.readFile p, st)

/-- Reads operands one after the other and hands each content on; complains with
`fault` about those that cannot be read. -/
def eachContentOr (fault : State → Path → SystemError → State)
    (f : State → Path → Text → State) (st : State) (operands : List Text) : State :=
  eachOperand (fun st p =>
    match contentOf st p with
    | (.ok t, st) => f st p t
    | (.error e, st) => fault st p e) st (if operands.isEmpty then [['-']] else operands)

/-- The same with the usual complaint. -/
def eachContent (command : Text) (f : State → Path → Text → State) (st : State)
    (operands : List Text) : State :=
  eachContentOr (fun st p e =>
    st.failing 1 (command ++ (": " : Text) ++ p ++ (": " : Text) ++ reason e)) f st operands

def allContent (command : Text) (status : Nat) (st : State) (operands : List Text) :
    Text × State :=
  let step (acc : List Text × State × Nat) (p : Path) : List Text × State × Nat :=
    let (parts, st, worst) := acc
    match contentOf st p with
    | (.ok t, st) => (t :: parts, st, worst)
    | (.error e, st) =>
      (parts, st.complain (command ++ (": " : Text) ++ p ++ (": " : Text) ++ reason e), status)
  let (parts, st, worst) :=
    (if operands.isEmpty then [['-']] else operands).foldl step ([], st, 0)
  (parts.reverse.flatten, st.withStatus worst)

/-- A control character or one beyond ASCII as marks and letters. -/
def visible (c : Char) : Text :=
  let n := c.toNat
  let low (n : Nat) : Text :=
    if n < 32 then ['^', Char.ofNat (n + 64)]
    else if n = 127 then ['^', '?']
    else [Char.ofNat n]
  if c = '\n' || c = '\t' then [c]
  else if n ≥ 128 then 'M' :: '-' :: low (n - 128)
  else low n

def numbered (onlyFilled : Bool) : (n : Nat) → List Text → List Text
  | _, [] => []
  | n, l :: rest =>
    if onlyFilled && withoutNewline l = [] then l :: numbered onlyFilled n rest
    else (padLeft 6 (Text.ofNat n) ++ '\t' :: l) :: numbered onlyFilled (n + 1) rest

/-- Drops blank lines that follow blank lines. -/
def withoutBlankRuns : List Text → List Text
  | ['\n'] :: ['\n'] :: rest => withoutBlankRuns (['\n'] :: rest)
  | l :: rest => l :: withoutBlankRuns rest
  | [] => []

/-- The place of the file that a stream writes to, if it is one that holds
something. -/
def outputFile? (st : State) : Option Location :=
  match st.openedAt? 1 with
  | some (_, ⟨.file location, _, _, _, true⟩) => some location
  | _ => none

def concatenate (st : State) (arguments : List Text) : State :=
  withOptions "cat" 1 "nbsAETvetu"
    [("number", 'n'), ("number-nonblank", 'b'), ("squeeze-blank", 's'), ("show-all", 'A'),
      ("show-ends", 'E'), ("show-tabs", 'T'), ("show-nonprinting", 'v')] arguments st fun o st =>
    if o.given.isEmpty || o.given.all (·.1 = 'u') then
      eachContentOr (fun st p e =>
        st.failing 1 (("cat: " : Text) ++ p ++ (": " : Text) ++ reason e))
        (fun st p t =>
          match outputFile? st, st.nodeAt p with
          | some location, .ok (place, _) =>
            if location = place && !t.isEmpty && p ≠ ['-'] then
              st.failing 1 (("cat: " : Text) ++ p ++ (": input file is output file" : Text))
            else st.print t
          | _, _ => st.print t) st o.operands
    else
      let (t, st) := allContent "cat" 1 st o.operands
      let ends := o.has 'A' || o.has 'E' || o.has 'e'
      let tabs := o.has 'A' || o.has 'T' || o.has 't'
      let shows := o.has 'A' || o.has 'v' || o.has 'e' || o.has 't'
      let ls := wholeLines t
      let ls := if o.has 's' then withoutBlankRuns ls else ls
      let ls := ls.map fun l =>
        let l := if shows then l.flatMap visible else l
        let l := if tabs then l.flatMap fun c => if c = '\t' then ['^', 'I'] else [c] else l
        if ends && l.getLast? = some '\n' then l.dropLast ++ ['$', '\n'] else l
      let ls :=
        if o.has 'b' then
          let blank (l : Text) : Bool := l = ['\n'] || l = ['$', '\n']
          let rec go : Nat → List Text → List Text
            | _, [] => []
            | n, l :: rest =>
              if blank l then l :: go n rest
              else (padLeft 6 (Text.ofNat n) ++ '\t' :: l) :: go (n + 1) rest
          go 1 ls
        else if o.has 'n' then numbered false 1 ls
        else ls
      st.print ls.flatten

/-- A count with a sign in front and a unit behind it. -/
def signedCount? (t : Text) : Option (Option Char × Nat) :=
  let (sign, body) := match t with
    | '-' :: rest => (some '-', rest)
    | '+' :: rest => (some '+', rest)
    | rest => (none, rest)
  let (n, unit) := digitsOf body
  let scale? : Option Nat := match unit with
    | [] => some 1
    | ['b'] => some 512
    | ['K'] | ['k'] | ['K', 'i', 'B'] => some 1024
    | ['k', 'B'] | ['K', 'B'] => some 1000
    | ['M'] => some 1048576
    | _ => none
  if body.head?.any Char.isDigit then scale?.map fun k => (sign, n * k) else none

/-- Spells out the old way to give a count, such as `-5`. -/
def spellCount (signs : Text) : List Text → List Text
  | [] => []
  | (s :: d :: more) :: rest =>
    if signs.contains s && d.isDigit then
      let digits := (d :: more).takeWhile Char.isDigit
      let unit := (d :: more).drop digits.length
      let sign : Text := if s = '+' then ['+'] else []
      (if unit.contains 'c' then ("-c" : Text) else "-n") :: (sign ++ digits) :: rest
    else (s :: d :: more) :: rest
  | t :: rest => t :: rest

/-- Heads the output for a file with its name, if there are several. -/
def heading (o : Options) (isFirst : Bool) (p : Path) (st : State) : State :=
  if (o.operands.length > 1 && !o.has 'q') || o.has 'v' then
    st.print ((if isFirst then [] else ['\n']) ++ ("==> " : Text) ++
      (if p = ['-'] then ("standard input" : Text) else p) ++ (" <==\n" : Text))
  else st

/-- Passes on the part of each operand that `pick` chooses by lines or by
characters. -/
def passOn (command : Text) (o : Options) (pick : State → Path → Text → State) (st : State) :
    State :=
  let operands := if o.operands.isEmpty then [['-']] else o.operands
  let step (acc : State × Bool × Nat) (p : Path) : State × Bool × Nat :=
    let (st, isFirst, worst) := acc
    match (if p = ['-'] then st.waiting 0 plenty else (contentOf st p).1) with
    | .ok t => (pick (heading o isFirst p st) p t, false, worst)
    | .error e =>
      let why : Text := if e = .isDirectory then
          ("error reading " : Text) ++ quotedName p ++ (": " : Text) ++ reason e
        else ("cannot open " : Text) ++ quotedName p ++ (" for reading: " : Text) ++ reason e
      let st := if e = .isDirectory then heading o isFirst p st else st
      (st.complain (command ++ (": " : Text) ++ why), isFirst && e ≠ .isDirectory, 1)
  let (st, _, worst) := operands.foldl step (st, true, 0)
  st.withStatus worst

/-- The count of an option, unless it is none. -/
def countOf (o : Options) (command : Text) (st : State) (f : Char → Option Char → Nat → State) :
    State :=
  let unit := (o.lastOf? ['n', 'c']).getD 'n'
  let t := (o.value? unit).getD ['1', '0']
  match signedCount? t with
  | some (sign, n) => f unit sign n
  | none =>
    st.failing 1 (command ++ (": invalid number of " : Text) ++
      (if unit = 'n' then ("lines: " : Text) else "bytes: ") ++ quotedName t)

def head (st : State) (arguments : List Text) : State :=
  withOptions "head" 1 "n:c:qvz" [("lines", 'n'), ("bytes", 'c'), ("quiet", 'q'), ("silent", 'q'),
      ("verbose", 'v')] (spellCount ['-'] arguments) st fun o st =>
    countOf o "head" st fun unit sign n =>
      passOn "head" o (fun st p t =>
        let first {α : Type} (l : List α) : List α :=
          if sign = some '-' then l.take (l.length - n) else l.take n
        let t := if p = ['-'] && unit = 'c' && sign.isNone then
            ((st.waiting 0 n).toOption).getD t else t
        let out := if unit = 'c' then first t else (first (wholeLines t)).flatten
        let st := st.print out
        if p ≠ ['-'] then st
        else
          match st.openedAt? 0 with
          | some (_, ⟨.file _, _, _, _, _⟩) => st.advance 0 out.length
          | some (_, ⟨.text _, _, _, _, _⟩) =>
            st.advance 0 (if unit = 'c' && sign.isNone then out.length
              else max out.length (min t.length 8192))
          | _ => st) st

def tail (st : State) (arguments : List Text) : State :=
  withOptions "tail" 1 "n:c:qvfFzs:" [("lines", 'n'), ("bytes", 'c'), ("quiet", 'q'),
      ("silent", 'q'), ("verbose", 'v'), ("follow", 'f')] (spellCount ['-', '+'] arguments) st
    fun o st => countOf o "tail" st fun unit sign n =>
      passOn "tail" o (fun st p t =>
        let last {α : Type} (l : List α) : List α :=
          if sign = some '+' then l.drop (n - 1) else l.drop (l.length - n)
        let st := st.print (if unit = 'c' then last t else (last (wholeLines t)).flatten)
        if p = ['-'] then st.advance 0 t.length else st) st

def countWords (t : Text) : Nat :=
  (t.foldl (fun (acc : Nat × Bool) c =>
    if isSpace c then (acc.1, false)
    else if acc.2 then acc
    else (acc.1 + 1, true)) (0, false)).1

def displayWidth (l : Text) : Nat :=
  l.foldl (fun n c => if c = '\t' then n / 8 * 8 + 8 else if c.toNat < 32 then n else n + 1) 0

/-- Counts lines, words and bytes. The numbers are as wide as the size of all
files needs. -/
def count (st : State) (arguments : List Text) : State :=
  withOptions "wc" 1 "lwcmL" [("lines", 'l'), ("words", 'w'), ("bytes", 'c'), ("chars", 'm'),
      ("max-line-length", 'L')] arguments st fun o st =>
    let asked := if o.given.isEmpty then ['l', 'w', 'c'] else o.given.map (·.1)
    let operands := if o.operands.isEmpty then [['-']] else o.operands
    let numbers (t : Text) : List Nat :=
      (if asked.contains 'l' then [t.count '\n'] else []) ++
      (if asked.contains 'w' then [countWords t] else []) ++
      (if asked.contains 'm' then [t.length] else []) ++
      (if asked.contains 'c' then [t.length] else []) ++
      (if asked.contains 'L' then [((plainLines t).map displayWidth).foldl max 0] else [])
    let isPlain (p : Path) : Bool :=
      if p = ['-'] then
        match st.openedAt? 0 with
        | some (_, ⟨.file _, _, _, _, _⟩) => true
        | _ => false
      else !st.isDirectory p && (State.specialFile? p).isNone
    let size (p : Path) : Nat :=
      if p = ['-'] then (((st.waiting 0 0).toOption).getD []).length
      else ((st.readFile p).toOption.getD []).length
    let total := (operands.map fun p => if isPlain p then size p else 0).foldl (· + ·) 0
    let width :=
      if operands.length = 1 && (numbers []).length = 1 then 1
      else max (if operands.all isPlain then 1 else 7) (Text.ofNat total).length
    let line (ns : List Nat) (name : Text) : Text :=
      Text.joined [' '] (ns.map fun n => padLeft width (Text.ofNat n)) ++
        (if name.isEmpty then [] else ' ' :: name) ++ ['\n']
    let step (acc : State × List Nat × Nat) (p : Path) : State × List Nat × Nat :=
      let (st, sums, worst) := acc
      let name := if o.operands.isEmpty then [] else p
      match contentOf st p with
      | (.ok t, st) =>
        let ns := numbers t
        (st.print (line ns name), List.zipWith (· + ·) sums ns, worst)
      | (.error e, st) =>
        let st := st.complain (("wc: " : Text) ++ p ++ (": " : Text) ++ reason e)
        (if e = .isDirectory then st.print (line (numbers []) name) else st, sums, 1)
    let (st, sums, worst) := operands.foldl step (st, numbers [], 0)
    let st := if operands.length > 1 then st.print (line sums "total") else st
    st.withStatus worst

def runsOf (same : Text → Text → Bool) : List Text → List (Nat × Text)
  | [] => []
  | l :: rest =>
    match runsOf same rest with
    | (n, m) :: others => if same l m then (n + 1, l) :: others else (1, l) :: (n, m) :: others
    | [] => [(1, l)]

def unique (st : State) (arguments : List Text) : State :=
  withOptions "uniq" 1 "cduif:s:w:Dz" [("count", 'c'), ("repeated", 'd'), ("unique", 'u'),
      ("ignore-case", 'i'), ("skip-fields", 'f'), ("skip-chars", 's'), ("check-chars", 'w'),
      ("all-repeated", 'D')] arguments st fun o st =>
    let number (c : Char) : Option Nat := (o.value? c).bind natural?
    let dropField (l : Text) : Text :=
      let l := l.dropWhile fun c => c = ' ' || c = '\t'
      l.dropWhile fun c => c ≠ ' ' && c ≠ '\t'
    let key (l : Text) : Text :=
      let l := (List.range ((number 'f').getD 0)).foldl (fun l _ => dropField l) l
      let l := l.drop ((number 's').getD 0)
      let l := match number 'w' with
        | some n => l.take n
        | none => l
      if o.has 'i' then l.map Char.toLower else l
    let same (a b : Text) : Bool := key a = key b
    let (t, st) := allContent "uniq" 1 st (o.operands.take 1)
    if st.status ≠ 0 then st
    else
      let runs := runsOf same (plainLines t)
      let kept := runs.filter fun r =>
        (!(o.has 'd' || o.has 'D') || r.1 > 1) && (!o.has 'u' || r.1 = 1)
      let out :=
        if o.has 'D' then
          let repeated := kept.map fun r => key r.2
          ((plainLines t).filter fun l => repeated.contains (key l)).flatMap (· ++ ['\n'])
        else kept.flatMap fun r =>
          (if o.has 'c' then padLeft 7 (Text.ofNat r.1) ++ [' '] else []) ++ r.2 ++ ['\n']
      match o.operands with
      | [_, p] =>
        match st.writeFile p out with
        | .ok st => st
        | .error e => st.failing 1 (("uniq: " : Text) ++ p ++ (": " : Text) ++ reason e)
      | _ => st.print out

/-- The lines in reverse order. The last of them may lack its newline. -/
def reverseLines (st : State) (arguments : List Text) : State :=
  withOptions "tac" 1 "brs:" [] arguments st fun o st =>
    eachContentOr (fun st p e => st.failing 1 (("tac: failed to open " : Text) ++ quotedName p ++
        (" for reading: " : Text) ++ reason e))
      (fun st _ t => st.print (wholeLines t).reverse.flatten) st o.operands

def numberLines (st : State) (arguments : List Text) : State :=
  withOptions "nl" 1 "b:w:s:v:i:n:h:f:pl:d:" [("body-numbering", 'b'), ("number-width", 'w'),
      ("number-separator", 's'), ("starting-line-number", 'v'), ("line-increment", 'i'),
      ("number-format", 'n')] arguments st fun o st =>
    let (t, st) := allContent "nl" 1 st o.operands
    let width := ((o.value? 'w').bind natural?).getD 6
    let separator := (o.value? 's').getD ['\t']
    let step := ((o.value? 'i').bind integer?).getD 1
    let style := (o.value? 'b').getD ['t']
    let spell (n : Int) : Text :=
      match (o.value? 'n').map String.ofList with
      | some "ln" => padRight width (Text.ofInt n)
      | some "rz" =>
        let digits := Text.ofInt n
        List.replicate (width - digits.length) '0' ++ digits
      | _ => padLeft width (Text.ofInt n)
    let rec go : Int → List Text → List Text
      | _, [] => []
      | n, l :: rest =>
        if style = ['a'] || (style ≠ ['n'] && withoutNewline l ≠ []) then
          (spell n ++ separator ++ l) :: go (n + step) rest
        else (List.replicate (width + separator.length) ' ' ++ l) :: go n rest
    let ls := go (((o.value? 'v').bind integer?).getD 1) (wholeLines t)
    st.print (ls.flatMap fun l => if l.getLast? = some '\n' then l else l ++ ['\n'])

def tee (st : State) (arguments : List Text) : State :=
  withOptions "tee" 1 "aip" [("append", 'a'), ("ignore-interrupts", 'i')] arguments st fun o st =>
    match st.readAll 0 plenty with
    | (.error e, st) => st.failing 1 (("tee: -: " : Text) ++ reason e)
    | (.ok t, st) =>
      eachOperand (fun st p =>
        match State.streamPath? p with
        | some stream => st.send stream t
        | none =>
          let old := if o.has 'a' then ((st.readFile p).toOption).getD [] else []
          match st.writeFile p (old ++ t) with
          | .ok st => st
          | .error e => st.failing 1 (("tee: " : Text) ++ p ++ (": " : Text) ++ reason e))
        (st.print t) o.operands

/-- Prints the numbers from the first to the last, a step apart. All have as many
places after the point as the first and the step need. -/
def sequence (st : State) (arguments : List Text) : State :=
  let number? (t : Text) : Option (Int × Nat) :=
    let (negative, body) := match t with
      | '-' :: rest => (true, rest)
      | '+' :: rest => (false, rest)
      | rest => (false, rest)
    match Decimal.readDigits? body with
    | some (n, places, rest) =>
      let (e, rest) := Decimal.readExponent rest
      if !rest.isEmpty then none
      else
        let places := (places : Int) - e
        let n : Int := n * Nat.pow 10 (-places).toNat
        some (if negative then -n else n, places.toNat)
    | none => none
  let isOption (t : Text) : Bool := match t with
    | '-' :: c :: _ => !(c.isDigit || c = '.')
    | _ => false
  let rec cut : (fuel : Nat) → List Text → List Text × List Text
    | 0, ts => ([], ts)
    | _, [] => ([], [])
    | fuel + 1, t :: rest =>
      if t = ("--" : Text) then ([], rest)
      else if isOption t then
        let takesValue := t = ("-s" : Text) || t = ("-f" : Text)
        let (a, b) := cut fuel (if takesValue then rest.tail else rest)
        (t :: (if takesValue then rest.take 1 else []) ++ a, b)
      else ([], t :: rest)
  let (flags, operands) := cut (arguments.length + 1) arguments
  withOptions "seq" 1 "s:wf:" [("separator", 's'), ("equal-width", 'w'), ("format", 'f')] flags st
    fun o st =>
    match operands.find? fun t => (number? t).isNone with
    | some t => misuse st "seq" 1 (("invalid floating point argument: " : Text) ++ quotedName t)
    | none =>
      let run (first step last : Int × Nat) : State :=
        let places := max first.2 step.2
        let finest := max places last.2
        let scale (n : Int × Nat) : Int := n.1 * Nat.pow 10 (finest - n.2)
        let (a, k, b) := (scale first, scale step, scale last)
        if k = 0 then
          misuse st "seq" 1 (("invalid Zero increment value: " : Text) ++
            quotedName ((operands[1]?).getD []))
        else
          let size := ((b - a).fdiv k + 1).toNat
          let spell (n : Int) : Text :=
            let n := n / (Nat.pow 10 (finest - places) : Int)
            (if n < 0 then ['-'] else []) ++ Decimal.pointed places false n.natAbs
          let texts := (List.range size).map fun (i : Nat) => spell (a + k * i)
          let texts :=
            match o.value? 'f' with
            | some f =>
              (List.range size).map fun (i : Nat) =>
                let n := a + k * i
                let x := Float.ofScientific n.natAbs true finest
                let x := if n < 0 then -x else x
                let lead := f.takeWhile (· ≠ '%')
                let spec := (f.drop (lead.length + 1)).takeWhile fun c => !c.isAlpha
                let kind := f.drop (lead.length + 1 + spec.length)
                let flags := spec.takeWhile fun c => ("-+ #0" : Text).contains c
                let (w, rest) := digitsOf (spec.drop flags.length)
                let precision := if rest.head? = some '.' then some (digitsOf rest.tail).1 else none
                let body := match kind.head? with
                  | some 'g' => Decimal.general (precision.getD 6) false x
                  | some 'e' => Decimal.scientific (precision.getD 6) false x
                  | _ => Decimal.fixed (precision.getD 6) false x
                let body := if n < 0 then '-' :: body else body
                let padded := if flags.contains '-' then padRight w body
                  else if flags.contains '0' then List.replicate (w - body.length) '0' ++ body
                  else padLeft w body
                lead ++ padded ++ kind.tail
            | none =>
              if o.has 'w' then
                let w := widest texts
                texts.map fun t => match t with
                  | '-' :: rest => '-' :: List.replicate (w - t.length) '0' ++ rest
                  | rest => List.replicate (w - t.length) '0' ++ rest
              else texts
          let separator := (o.value? 's').getD ['\n']
          (st.print (if texts.isEmpty then [] else Text.joined separator texts ++ ['\n'])).withStatus
            0
      match operands.filterMap number? with
      | [] => missingOperand st "seq" "missing operand"
      | [last] => run (1, 0) (1, 0) last
      | [first, last] => run first (1, 0) last
      | [first, step, last] => run first step last
      | _ => missingOperand st "seq" (("extra operand " : Text) ++
          quotedName ((operands[3]?).getD []))

/-- Prints a line over and over; there is an end to it, but nobody gets there. -/
def repeatLine (st : State) (arguments : List Text) : State :=
  let l := if arguments.isEmpty then ("y" : Text) else Text.joined [' '] arguments
  st.print ((List.replicate 5000 (l ++ ['\n'])).flatten)

end Shell

end BuildManifest
