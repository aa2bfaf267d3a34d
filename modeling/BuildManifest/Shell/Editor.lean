import BuildManifest.Shell.Editor.Reading
import BuildManifest.Shell.Lines

/-!
The line editor `sed`. It reads line after line into a pattern space, carries out
the commands of its script that are for this line and prints the space. The fuel
bounds how many commands are carried out.
-/

namespace BuildManifest

namespace Shell

namespace Editor

/-- What is to be printed when the line is done with. -/
inductive Queued where
  | text (t : Text)
  | file (p : Path)

/-- Whether a range of lines has begun, and the line that ends it, if it is known. -/
inductive Progress where
  | outside
  | inside (last : Option Nat)

structure Desk where
  /-- The lines that are still to be read, with their newlines. -/
  input : List Text
  pattern : Text
  /-- Whether the line had a newline. -/
  ended : Bool
  hold : Text
  number : Nat
  replaced : Bool
  last : Option Expression
  queue : List Queued
  ranges : List (Nat × Progress)
  /-- What has been printed, the last part first, and whether it lacks a newline. -/
  out : List Text
  lacking : Bool
  files : Table
  quiet : Bool
  name : Path

/-- How the commands for a line came to an end. -/
inductive Outcome where
  | next (prints : Bool)
  /-- Starts again without reading a line. -/
  | again
  | quit (status : Nat)
  | stuck

namespace Desk

def emit (d : Desk) (t : Text) (withNewline : Bool) : Desk :=
  let t := if withNewline then t ++ ['\n'] else t
  { d with
    out := (if d.lacking then '\n' :: t else t) :: d.out
    lacking := !withNewline }

def emitText (d : Desk) (t : Text) : Desk :=
  if t.isEmpty then d
  else
    { d with
      out := (if d.lacking then '\n' :: t else t) :: d.out
      lacking := t.getLast? ≠ some '\n' }

def printPattern (d : Desk) : Desk := d.emit d.pattern d.ended

def flush (st : State) (d : Desk) : Desk :=
  let d' := d.queue.foldl (fun d q => match q with
    | .text t => d.emitText t
    | .file p =>
      if p = ("/dev/stdin" : Text) then d
      else d.emitText ((st.readFile p).toOption.getD [])) d
  { d' with queue := [] }

def nextLine? (st : State) (d : Desk) : Option Desk :=
  match d.input with
  | [] => none
  | l :: rest =>
    let d := d.flush st
    some { d with
      input := rest
      pattern := withoutNewline l
      ended := l.getLast? = some '\n'
      number := d.number + 1
      replaced := false }

def append (d : Desk) (p : Path) (t : Text) : Desk :=
  if p = ("/dev/stdout" : Text) then d.emitText t
  else if p = ("/dev/stderr" : Text) then d
  else { d with files := d.files.insert p ((d.files.get? p).getD [] ++ t) }

/-- Whether an expression is found in the line; it becomes the one used last. -/
def finds (d : Desk) (e : Option Expression) : Bool × Desk :=
  match e.orElse fun _ => d.last with
  | none => (false, d)
  | some e => (e.isIn d.pattern, { d with last := some e })

def agrees (d : Desk) : Address → Bool × Desk
  | .line n => (d.number = n, d)
  | .last => (d.input.isEmpty, d)
  | .matching e => d.finds e
  | .every first step =>
    (if step = 0 then d.number = first else d.number ≥ first && (d.number - first) % step = 0, d)

def setRange (d : Desk) (i : Nat) (p : Progress) : Desk :=
  { d with ranges := (i, p) :: d.ranges.filter fun r => r.1 ≠ i }

/-- Whether the line is in the range of an instruction, which may begin or end with
it. -/
def inRange (d : Desk) (i : Nat) (first : Address) (finish : Finish) : Bool × Desk :=
  let begins (d : Desk) : Bool × Desk :=
    match d.agrees first with
    | (false, d) => (false, d)
    | (true, d) =>
      match finish with
      | .plus n => (true, if n = 0 then d else d.setRange i (.inside (some (d.number + n))))
      | .multiple n =>
        let last := if n = 0 then d.number else (d.number + n - 1) / n * n
        (true, if last = d.number then d else d.setRange i (.inside (some last)))
      | .address (.line n) =>
        (true, if n ≤ d.number then d else d.setRange i (.inside (some n)))
      | .address _ => (true, d.setRange i (.inside none))
  let isZero : Bool := match first with
    | .line 0 => true
    | _ => false
  let progress := (d.ranges.lookup i).getD (if isZero then .inside none else .outside)
  match progress with
  | .outside => begins d
  | .inside (some last) =>
    if d.number < last then (true, d)
    else if d.number = last then (true, d.setRange i .outside)
    else begins (d.setRange i .outside)
  | .inside none =>
    match finish with
    | .address a =>
      match d.agrees a with
      | (true, d) => (true, d.setRange i .outside)
      | (false, d) => (true, d.setRange i (.inside none))
    | _ => begins d

def isSelected (d : Desk) (i : Nat) (s : Selector) : Bool × Desk :=
  let (answer, d) := match s.first, s.finish with
    | none, _ => (true, d)
    | some a, none => d.agrees a
    | some a, some f => d.inRange i a f
  (answer != s.negated, d)

def goesOn (d : Desk) (i : Nat) : Bool :=
  match d.ranges.lookup i with
  | some (.inside _) => true
  | _ => false

end Desk

def replacement (t : Array Char) (start : Nat) (s : Spot) (parts : List Part) : Text :=
  let change (mode once : Char) (u : Text) : Text :=
    let u := if mode = 'U' then u.map Char.toUpper
      else if mode = 'L' then u.map Char.toLower else u
    match once, u with
    | 'u', c :: rest => c.toUpper :: rest
    | 'l', c :: rest => c.toLower :: rest
    | _, u => u
  let step (acc : Text × Char × Char) (p : Part) : Text × Char × Char :=
    let (out, mode, once) := acc
    let add (u : Text) : Text × Char × Char :=
      (out ++ change mode once u, mode, if u.isEmpty then once else ' ')
    match p with
    | .text u => add u
    | .group n => add (Expression.groupText t start s n)
    | .letters c =>
      if c = 'U' || c = 'L' || c = 'E' then (out, c, ' ') else (out, mode, c)
  (parts.foldl step ([], 'E', ' ')).1

/-- Goes over the matches in a line from a place on. An empty match just behind
another does not count. -/
def replaceFrom (e : Expression) (s : Substitution) (t : Array Char) :
    (fuel : Nat) → (i count : Nat) → (lastEnd : Option Nat) → (out : Text) → Option Text
  | 0, _, _, _, _ => none
  | fuel + 1, i, count, lastEnd, out =>
    match (if i ≤ t.size then e.search? t i else none) with
    | none => none
    | some (start, spot) =>
      let between := Expression.slice t i start
      let isEmpty := spot.position = start
      let next := (t[start]?).toList
      if isEmpty && lastEnd = some start then
        replaceFrom e s t fuel (start + 1) count none (out ++ between ++ next)
          |>.orElse fun _ => if count ≥ s.number then some (out ++ Expression.slice t i t.size)
            else none
      else
        let count := count + 1
        let after := if isEmpty then start + 1 else spot.position
        let tail := if isEmpty then next else []
        if count < s.number then
          replaceFrom e s t fuel after count (some spot.position)
            (out ++ between ++ Expression.slice t start spot.position ++ tail)
        else
          let out := out ++ between ++ replacement t start spot s.parts
          if s.everywhere then
            (replaceFrom e s t fuel after count (some spot.position) (out ++ tail)).orElse fun _ =>
              some (out ++ tail ++ Expression.slice t after t.size)
          else some (out ++ Expression.slice t spot.position t.size)

/-- A line so that all of it can be seen, in parts of at most so many characters. -/
def shownLine (t : Text) : Text :=
  let shown (c : Char) : Text :=
    match c with
    | '\\' => ['\\', '\\']
    | '\n' => ['\\', 'n']
    | '\t' => ['\\', 't']
    | '\x07' => ['\\', 'a']
    | '\x08' => ['\\', 'b']
    | '\x0c' => ['\\', 'f']
    | '\r' => ['\\', 'r']
    | '\x0b' => ['\\', 'v']
    | c =>
      if 32 ≤ c.toNat && c.toNat < 127 then [c]
      else
        let o := Nat.toDigits 8 c.toNat
        '\\' :: (List.replicate (3 - o.length) '0' ++ o)
  let step (acc : Text × Nat) (c : Char) : Text × Nat :=
    let s := shown c
    if acc.2 + s.length > 69 then (acc.1 ++ ['\\', '\n'] ++ s, s.length)
    else (acc.1 ++ s, acc.2 + s.length)
  (t.foldl step ([], 0)).1 ++ ['$']

def labelAt? (script : Array Instruction) (name : Text) : Option Nat :=
  if name.isEmpty then some script.size
  else script.findIdx? fun i => match i.2 with
    | .label n => n = name
    | _ => false

/-- The place behind the block that begins at a place. -/
def blockEnd (script : Array Instruction) : (fuel : Nat) → (i depth : Nat) → Nat
  | 0, i, _ => i
  | fuel + 1, i, depth =>
    match script[i]? with
    | none => i
    | some (_, .openBlock) => blockEnd script fuel (i + 1) (depth + 1)
    | some (_, .closeBlock) =>
      if depth = 1 then i + 1 else blockEnd script fuel (i + 1) (depth - 1)
    | some _ => blockEnd script fuel (i + 1) depth

def cutFirst (t : Text) : Text × Option Text :=
  match Text.cut? ['\n'] t with
  | some (first, rest) => (first, some rest)
  | none => (t, none)

def carryOut (st : State) (script : Array Instruction) :
    (fuel : Nat) → (i : Nat) → Desk → Desk × Outcome
  | 0, _, d => (d, .stuck)
  | fuel + 1, i, d =>
    match script[i]? with
    | none => (d, .next true)
    | some (selector, deed) =>
      let (selected, d) := d.isSelected i selector
      let onward (d : Desk) : Desk × Outcome := carryOut st script fuel (i + 1) d
      if !selected then
        match deed with
        | .openBlock => carryOut st script fuel (blockEnd script script.size i 0) d
        | _ => onward d
      else
        match deed with
        | .openBlock | .closeBlock | .label _ => onward d
        | .jump kind name =>
          let jumps := kind = 'b' || (kind = 't') = d.replaced
          let d := if kind = 'b' then d else { d with replaced := false }
          if jumps then
            match labelAt? script name with
            | some j => carryOut st script fuel j d
            | none => (d, .stuck)
          else onward d
        | .text 'a' t => onward { d with queue := d.queue ++ [.text t] }
        | .text 'i' t => onward (d.emitText t)
        | .text _ t => (if d.goesOn i && !selector.negated then d else d.emitText t, .next false)
        | .quit prints status =>
          let d := if prints && !d.quiet then d.printPattern else d
          (if prints then d.flush st else d, .quit status)
        | .readFile false p => onward { d with queue := d.queue ++ [.file p] }
        | .readFile true p =>
          let done := (d.files.get? ('\x00' :: p)).getD []
          match ((plainLines ((st.readFile p).toOption.getD [])).drop done.length).head? with
          | some l =>
            onward { d with
              queue := d.queue ++ [.text (l ++ ['\n'])]
              files := d.files.insert ('\x00' :: p) (done ++ ['x']) }
          | none => onward d
        | .writeFile p => onward (d.append p (d.pattern ++ ['\n']))
        | .transliterate pairs =>
          onward { d with pattern := d.pattern.map fun c => (pairs.lookup c).getD c }
        | .substitute s =>
          match s.expression.orElse fun _ => d.last with
          | none => (d, .stuck)
          | some e =>
            let d := { d with last := some e }
            match replaceFrom e s d.pattern.toArray (d.pattern.length + 2) 0 0 none [] with
            | none => onward d
            | some t =>
              let d := { d with pattern := t, replaced := true }
              let d := if s.prints then d.printPattern else d
              onward (match s.file with
                | some p => d.append p (t ++ ['\n'])
                | none => d)
        | .plain c =>
          match c with
          | '=' => onward (d.emit (Text.ofNat d.number) true)
          | 'd' => (d, .next false)
          | 'D' =>
            match cutFirst d.pattern with
            | (_, some rest) => ({ d with pattern := rest }, .again)
            | (_, none) => (d, .next false)
          | 'g' => onward { d with pattern := d.hold }
          | 'G' => onward { d with pattern := d.pattern ++ '\n' :: d.hold }
          | 'h' => onward { d with hold := d.pattern }
          | 'H' => onward { d with hold := d.hold ++ '\n' :: d.pattern }
          | 'x' => onward { d with pattern := d.hold, hold := d.pattern }
          | 'z' => onward { d with pattern := [] }
          | 'l' => onward (d.emit (shownLine d.pattern) true)
          | 'F' => onward (d.emit d.name true)
          | 'p' => onward d.printPattern
          | 'P' => onward (d.emit (cutFirst d.pattern).1 true)
          | 'n' =>
            let shown := if d.quiet then d else d.printPattern
            match shown.nextLine? st with
            | some d => onward d
            | none => (shown.flush st, .quit 0)
          | 'N' =>
            match d.nextLine? st with
            | some e => onward { e with pattern := d.pattern ++ '\n' :: e.pattern }
            | none => ((if d.quiet then d else d.printPattern).flush st, .quit 0)
          | _ => onward d

/-- Edits all lines that are left. -/
def cycles (st : State) (script : Array Instruction) :
    (fuel : Nat) → (again : Bool) → Desk → Desk × Nat
  | 0, _, d => (d, 0)
  | fuel + 1, again, d =>
    match (if again then some d else d.nextLine? st) with
    | none => (d.flush st, 0)
    | some d =>
      let (d, outcome) := carryOut st script 100000 0 d
      match outcome with
      | .next prints =>
        let d := if prints && !d.quiet then d.printPattern else d
        cycles st script fuel false (d.flush st)
      | .again => cycles st script fuel true (d.flush st)
      | .quit status => (d, status)
      | .stuck => (d, 1)

def usage : List String :=
  [
    "Usage: sed [OPTION]... {script-only-if-no-other-script} [input-file]...",
    ""]

end Editor

def edit (st : State) (arguments : List Text) : State :=
  let names : List (String × Char) := [("quiet", 'n'), ("silent", 'n'), ("expression", 'e'),
    ("file", 'f'), ("regexp-extended", 'E'), ("in-place", 'i'), ("separate", 's'),
    ("null-data", 'z'), ("unbuffered", 'u'), ("line-length", 'l'), ("posix", 'p'),
    ("debug", 'b'), ("follow-symlinks", 'y')]
  withOptions "sed" 1 "ne:f:Eri?szul:pby" names arguments st fun o st =>
    let scripts := o.given.filterMap fun (c, value) =>
      if c = 'e' then some (.ok value)
      else if c = 'f' then
        some (((contentOf st value).1.mapError fun e => (value, e)).map fun t =>
          if t.getLast? = some '\n' then t.dropLast else t)
      else none
    let usage (st : State) : State :=
      (Editor.usage.foldl (fun st l => st.complain l) st).withStatus 1
    let (scripts, operands) := if scripts.isEmpty then
        ((o.operands.take 1).map Except.ok, o.operands.drop 1)
      else (scripts, o.operands)
    match scripts.mapM id with
    | .error (p, e) =>
      st.failing 1 (("sed: couldn't open file " : Text) ++ p ++ (": " : Text) ++ reason e)
    | .ok [] => usage st
    | .ok texts =>
      let text := Text.joined ['\n'] texts
      match Editor.read (o.has 'E' || o.has 'r') text with
      | .error (n, what) =>
        st.failing 1 (("sed: -e expression #1, char " : Text) ++ Text.ofNat n ++ (": " : Text) ++
          what)
      | .ok instructions =>
        let script := instructions.toArray
        let lost := instructions.findSome? fun i => match i.2 with
          | .jump _ name => if (Editor.labelAt? script name).isNone then some name else none
          | _ => none
        match lost with
        | some name =>
          st.failing 1 (("sed: can't find label for jump to `" : Text) ++ name ++ ['\''])
        | none =>
          let quiet := o.has 'n' || (Text.after? "#n\n" text).isSome
          let files := instructions.filterMap fun i => match i.2 with
            | .writeFile p => some p
            | .substitute s => s.file
            | _ => none
          let fresh : Editor.Desk :=
            ⟨[], [], true, [], 0, false, none, [], [], [], false,
              Table.ofList ((files.filter fun p => (State.streamPath? p).isNone).map (·, [])),
              quiet, ['-']⟩
          let fuelFor (ls : List Text) : Nat := 100 * ls.length + 1000
          let operands := if operands.isEmpty then [['-']] else operands
          let inPlace := o.has 'i'
          let separate := inPlace || o.has 's'
          let fault (st : State) (p : Path) (e : SystemError) : State :=
            st.complain (if e = .isDirectory then
              (if inPlace then ("sed: couldn't edit " : Text) ++ p ++ (": not a regular file" : Text)
                else ("sed: couldn't read " : Text) ++ p ++ (": " : Text) ++ reason e)
              else ("sed: can't read " : Text) ++ p ++ (": " : Text) ++ reason e)
          let writeFiles (st : State) (d : Editor.Desk) : State :=
            (d.files.entries.filter fun e => e.1.head? ≠ some '\x00').foldl
              (fun st e => (st.writeFile e.1 e.2).toOption.getD st) st
          if separate then
            let step (acc : State × Editor.Desk × Nat × Bool) (p : Path) :
                State × Editor.Desk × Nat × Bool :=
              let (st, d, status, ended) := acc
              if ended then acc
              else
                match contentOf st p with
                | (.error e, st) => (fault st p e, d, 2, false)
                | (.ok t, st) =>
                  let ls := wholeLines t
                  let (d, code) := Editor.cycles st script (fuelFor ls) false
                    { d with input := ls, number := 0, name := p, out := [], lacking := false }
                  let quits := !d.input.isEmpty || code ≠ 0
                  let out := d.out.reverse.flatten
                  let st :=
                    if inPlace then
                      let st := match o.value? 'i' with
                        | some [] | none => st
                        | some ending =>
                          let copy := if ending.contains '*' then
                              Text.replace ending ['*'] (baseName p) else p ++ ending
                          (st.writeFile copy t).toOption.getD st
                      (st.writeFile p (out ++ d.input.flatten)).toOption.getD st
                    else st.print out
                  (st, { d with input := [] }, max status code, quits)
            let (st, d, status, _) := operands.foldl step (st, fresh, 0, false)
            (writeFiles st d).withStatus status
          else
            let step (acc : State × List Text × Bool) (p : Path) : State × List Text × Bool :=
              match contentOf acc.1 p with
              | (.error e, st) => (fault st p e, acc.2.1, true)
              | (.ok t, st) =>
                -- A line that lacks its newline gets one if another file follows.
                let before := match acc.2.1.getLast? with
                  | some l => if l.getLast? = some '\n' || t.isEmpty then acc.2.1
                    else acc.2.1.dropLast ++ [l ++ ['\n']]
                  | none => []
                (st, before ++ wholeLines t, acc.2.2)
            let (st, ls, failed) := operands.foldl step (st, [], false)
            let (d, code) := Editor.cycles st script (fuelFor ls) false
              { fresh with input := ls, name := operands.head?.getD ['-'] }
            let st := st.print d.out.reverse.flatten
            (writeFiles st d).withStatus (if code ≠ 0 then code else if failed then 2 else 0)

end Shell

end BuildManifest
