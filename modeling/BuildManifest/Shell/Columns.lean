import BuildManifest.Shell.Lines
import BuildManifest.Shell.Writing

/-!
Commands that work within lines or on single bytes: they cut, paste, fold and
translate.
-/

namespace BuildManifest

namespace Shell

/-! ### Sets of bytes -/

/-- An element of a set as `tr` writes it. -/
inductive Member where
  | one (c : Char)
  | class (name : Text)
  /-- A byte repeated; without a number as often as needed. -/
  | fill (c : Char) (times : Option Nat)

def readByte (t : Text) : Option (Char × Text) :=
  match t with
  | [] => none
  | '\\' :: c :: rest =>
    if isOctalDigit c then some (readOctal (c :: rest))
    else
      match simpleEscape? c with
      | some d => some (if c = 'e' then 'e' else d, rest)
      | none => some (c, rest)
  | c :: rest => some (c, rest)

def readMembers? : (fuel : Nat) → Text → Except Text (List Member)
  | _, [] => .ok []
  | 0, _ :: _ => .ok []
  | fuel + 1, t =>
    let plain : Except Text (List Member) :=
      match readByte t with
      | none => .ok []
      | some (c, '-' :: d :: rest) =>
        match readByte (d :: rest) with
        | some (e, after) =>
          if e < c then
            .error (("range-endpoints of '" : Text) ++ t.take (t.length - after.length) ++
              ("' are in reverse collating sequence order" : Text))
          else
            (readMembers? fuel after).map fun ms =>
              (List.range (e.toNat + 1 - c.toNat)).map
                (fun i => .one (Char.ofNat (c.toNat + i))) ++ ms
        | none => (readMembers? fuel ('-' :: d :: rest)).map (.one c :: ·)
      | some (c, rest) => (readMembers? fuel rest).map (.one c :: ·)
    match t with
    | '[' :: ':' :: rest =>
      let name := rest.takeWhile (· ≠ ':')
      match rest.drop name.length with
      | ':' :: ']' :: after =>
        if (inClass? name).isNone then
          .error (("invalid character class '" : Text) ++ name ++ ['\''])
        else (readMembers? fuel after).map (.class name :: ·)
      | _ => plain
    | '[' :: '=' :: c :: '=' :: ']' :: after => (readMembers? fuel after).map (.one c :: ·)
    | '[' :: rest =>
      match readByte rest with
      | some (c, '*' :: rest) =>
        let digits := rest.takeWhile Char.isDigit
        match rest.drop digits.length with
        | ']' :: after =>
          let n := if digits.head? = some '0' then valueIn 8 digits else (digitsOf digits).1
          (readMembers? fuel after).map (.fill c (if n = 0 then none else some n) :: ·)
        | _ => plain
      | _ => plain
    | _ => plain

def classBytes (name : Text) : Text :=
  match inClass? name with
  | some f => ((List.range 256).map Char.ofNat).filter f
  | none => []

/-- The bytes of a set, filled up to a length where it asks for that. -/
def setBytes (length : Nat) (ms : List Member) : Text :=
  let size (m : Member) : Nat := match m with
    | .one _ => 1
    | .class name => (classBytes name).length
    | .fill _ times => times.getD 0
  let known := (ms.map size).foldl (· + ·) 0
  ms.flatMap fun m => match m with
    | .one c => [c]
    | .class name => classBytes name
    | .fill c times => List.replicate (times.getD (length - known)) c

def squeeze (isIn : Char → Bool) (t : Text) : Text :=
  (t.foldl (fun (acc : Text) c =>
    if isIn c && acc.head? = some c then acc else c :: acc) []).reverse

def translate (st : State) (arguments : List Text) : State :=
  withLeadingOptions "tr" 1 "cCdst" arguments st fun o st =>
    let complement := o.has 'c' || o.has 'C'
    let extra (t : Text) (why : Text) : State :=
      misuse (st.complain (("tr: extra operand " : Text) ++ quotedName t)) "tr" 1 why
    match o.operands with
    | [] => missingOperand st "tr" "missing operand"
    | [a] =>
      if !o.has 'd' && !o.has 's' then
        missingOperand st "tr" (("missing operand after " : Text) ++ quotedName a ++
          ("\nTwo strings must be given when translating." : Text))
      else if o.has 'd' && o.has 's' then
        missingOperand st "tr" (("missing operand after " : Text) ++ quotedName a ++
          ("\nTwo strings must be given when both deleting and squeezing repeats." : Text))
      else go o complement a [] st
    | [a, b] =>
      if o.has 'd' && !o.has 's' then
        extra b "Only one string may be given when deleting without squeezing repeats."
      else go o complement a b st
    | _ :: _ :: c :: _ => misuse st "tr" 1 (("extra operand " : Text) ++ quotedName c)
where
  go (o : Options) (complement : Bool) (a b : Text) (st : State) : State :=
    match readMembers? (a.length + 1) a, readMembers? (b.length + 1) b with
    | .error e, _ | _, .error e => st.failing 1 (("tr: " : Text) ++ e)
    | .ok first, .ok second =>
      let translates := !b.isEmpty && !o.has 'd'
      if !translates && !o.has 'd' && !o.has 's' then
        st.failing 1 "tr: when not truncating set1, string2 must be non-empty"
      else
        let plain := setBytes 0 first
        let set1 := if complement then
            ((List.range 256).map Char.ofNat).filter fun c => !plain.contains c
          else plain
        let set2 := setBytes set1.length second
        let set2 := if o.has 't' || set2.isEmpty then set2
          else set2 ++ List.replicate (set1.length - set2.length) (set2.getLast?.getD ' ')
        let table := (set1.zip set2).foldl
          (fun (m : Array Char) p => m.setIfInBounds p.1.toNat p.2)
          ((List.range 256).map Char.ofNat).toArray
        let inFirst := set1.foldl (fun (m : Array Bool) c => m.setIfInBounds c.toNat true)
          (Array.replicate 256 false)
        let isFirst (c : Char) : Bool := inFirst.getD c.toNat false
        match st.readAll 0 plenty with
        | (.error e, st) => st.failing 1 (("tr: read error: " : Text) ++ reason e)
        | (.ok t, st) =>
          let t := if o.has 'd' then t.filter fun c => !isFirst c
            else if translates then t.map fun c => table.getD c.toNat c
            else t
          let t := if !o.has 's' then t
            else if b.isEmpty then squeeze isFirst t
            else squeeze (setBytes 0 second).contains t
          (st.print t).withStatus 0

/-! ### Parts of lines -/

/-- Ranges of positions: the first and the last, if there is one. -/
abbrev Ranges := List (Nat × Option Nat)

def readRanges? (t : Text) : Option Ranges :=
  (Text.pieces ',' t).mapM fun part =>
    let (low, rest) := digitsOf part
    let hasLow := part.head?.any Char.isDigit
    match rest with
    | [] => if hasLow then some (low, some low) else none
    | ['-'] => if hasLow then some (low, none) else none
    | '-' :: more =>
      (natural? more).map fun high => (if hasLow then low else 1, some high)
    | _ => none

def inRanges (rs : Ranges) (i : Nat) : Bool :=
  rs.any fun r => r.1 ≤ i && (match r.2 with
    | some high => i ≤ high
    | none => true)

/-- The elements at chosen positions, counted from one. -/
def chosen {α : Type} (isChosen : Nat → Bool) (l : List α) : List α :=
  (l.zipIdx.filter fun p => isChosen (p.2 + 1)).map (·.1)

def cut (st : State) (arguments : List Text) : State :=
  withOptions "cut" 1 "b:c:f:d:sno:Cz" [("bytes", 'b'), ("characters", 'c'), ("fields", 'f'),
      ("delimiter", 'd'), ("only-delimited", 's'), ("output-delimiter", 'o'),
      ("complement", 'C')] arguments st fun o st =>
    match o.lastOf? ['b', 'c', 'f'] with
    | none => misuse st "cut" 1 "you must specify a list of bytes, characters, or fields"
    | some kind =>
      let delimiter := (o.value? 'd').getD ['\t']
      let spec := (o.value? kind).getD []
      match readRanges? spec with
      | none =>
        misuse st "cut" 1 (if kind = 'f' then ("invalid field value " : Text) ++ quotedName spec
          else ("invalid byte/character position " : Text) ++ quotedName spec)
      | some rs =>
        if rs.any fun r => r.1 = 0 || r.2 = some 0 then
          misuse st "cut" 1 (if kind = 'f' then "fields are numbered from 1" else
            "byte/character positions are numbered from 1")
        else if rs.any fun r => r.2.any (· < r.1) then misuse st "cut" 1 "invalid decreasing range"
        else if delimiter.length > 1 then
          misuse st "cut" 1 "the delimiter must be a single character"
        else
          let isChosen (i : Nat) : Bool := inRanges rs i != o.has 'C'
          let separator := delimiter.head?.getD '\x00'
          let one (l : Text) : Text :=
            if kind = 'f' then
              if !l.contains separator then (if o.has 's' then [] else l ++ ['\n'])
              else Text.joined ((o.value? 'o').getD [separator])
                (chosen isChosen (Text.pieces separator l)) ++ ['\n']
            else chosen isChosen l ++ ['\n']
          eachContent "cut" (fun st _ t => st.print ((plainLines t).flatMap one)) st o.operands

def rows : (fuel : Nat) → List (List Text) → List (List Text)
  | 0, _ => []
  | fuel + 1, columns =>
    if columns.all List.isEmpty then []
    else (columns.map fun c => c.head?.getD []) :: rows fuel (columns.map List.tail)

/-- Texts with the separators between them, one after the other and over again. -/
def joinedBy (separators : Text) : (i : Nat) → List Text → Text
  | _, [] => []
  | _, [t] => t
  | i, t :: rest =>
    t ++ (match separators[i % max separators.length 1]? with
      | some '\x00' | none => []
      | some c => [c]) ++ joinedBy separators (i + 1) rest

def paste (st : State) (arguments : List Text) : State :=
  withOptions "paste" 1 "d:sz" [("delimiters", 'd'), ("serial", 's')] arguments st fun o st =>
    let rec separators : Text → Text
      | '\\' :: '0' :: rest => '\x00' :: separators rest
      | '\\' :: c :: rest => (simpleEscape? c).getD c :: separators rest
      | c :: rest => c :: separators rest
      | [] => []
    let between := separators ((o.value? 'd').getD ['\t'])
    let operands := if o.operands.isEmpty then [['-']] else o.operands
    let dashes := operands.count ['-']
    match operands.findSome? fun p => match (if p = ['-'] then st.waiting 0 plenty
        else (contentOf st p).1) with
      | .error e => some (e, p)
      | .ok _ => none with
    | some (e, p) => st.failing 1 (("paste: " : Text) ++ p ++ (": " : Text) ++ reason e)
    | none =>
      let (input, st) := if dashes = 0 then ([], st) else
        let (r, st) := st.readAll 0 plenty
        (plainLines (r.toOption.getD []), st)
      let step (acc : List (List Text) × Nat) (p : Path) : List (List Text) × Nat :=
        if p = ['-'] then
          let own := if o.has 's' then (if acc.2 = 0 then input else []) else
            chosen (fun i => (i - 1) % dashes = acc.2) input
          (acc.1 ++ [own], acc.2 + 1)
        else (acc.1 ++ [plainLines (((contentOf st p).1.toOption).getD [])], acc.2)
      let (columns, _) := operands.foldl step ([], 0)
      let lists := if o.has 's' then columns
        else rows ((columns.map List.length).foldl max 0 + 1) columns
      (st.print (lists.flatMap fun ls => joinedBy between 0 ls ++ ['\n'])).withStatus 0

/-- Breaks a line into parts of a width, behind blanks if need be. -/
def folded (width : Nat) (atBlanks : Bool) : (fuel : Nat) → Text → List Text
  | 0, l => [l]
  | fuel + 1, l =>
    if l.length ≤ width then [l]
    else
      let part := l.take width
      let broken := (part.reverse.dropWhile fun c => c ≠ ' ' && c ≠ '\t').reverse
      let part := if atBlanks && !broken.isEmpty then broken else part
      part :: folded width atBlanks fuel (l.drop part.length)

def fold (st : State) (arguments : List Text) : State :=
  let spell (t : Text) : Text := match t with
    | '-' :: d :: _ => if d.isDigit then '-' :: 'w' :: t.tail else t
    | _ => t
  withOptions "fold" 1 "w:sb" [("width", 'w'), ("spaces", 's'), ("bytes", 'b')]
    (arguments.map spell) st fun o st =>
    match natural? ((o.value? 'w').getD "80") with
    | none | some 0 =>
      st.failing 1 (("fold: invalid number of columns: " : Text) ++
        quotedName ((o.value? 'w').getD []))
    | some width =>
      eachContent "fold" (fun st _ t =>
        st.print ((wholeLines t).flatMap fun l =>
          let body := withoutNewline l
          Text.joined ['\n'] (folded width (o.has 's') (body.length + 1) body) ++
            l.drop body.length)) st o.operands

def reverseEach (st : State) (arguments : List Text) : State :=
  withOptions "rev" 1 "0" [] arguments st fun o st =>
    eachContentOr (fun st p e =>
        st.failing 1 (("rev: cannot open " : Text) ++ p ++ (": " : Text) ++ reason e))
      (fun st _ t => st.print ((wholeLines t).flatMap fun l =>
        let body := withoutNewline l
        body.reverse ++ l.drop body.length)) st o.operands

/-- Turns tabs into blanks. -/
def expand (st : State) (arguments : List Text) : State :=
  withOptions "expand" 1 "t:i" [("tabs", 't'), ("initial", 'i')] arguments st fun o st =>
    let width := max 1 (((o.value? 't').bind natural?).getD 8)
    let step (acc : Text × Nat) (c : Char) : Text × Nat :=
      if c = '\t' then
        let n := width - acc.2 % width
        (List.replicate n ' ' ++ acc.1, acc.2 + n)
      else if c = '\n' then (c :: acc.1, 0)
      else (c :: acc.1, acc.2 + 1)
    eachContent "expand" (fun st _ t => st.print (t.foldl step ([], 0)).1.reverse) st o.operands

/-- Turns blanks at the front of lines into tabs. -/
def unexpand (st : State) (arguments : List Text) : State :=
  withOptions "unexpand" 1 "t:a" [("tabs", 't'), ("all", 'a'), ("first-only", 'f')] arguments st
    fun o st =>
    let width := max 1 (((o.value? 't').bind natural?).getD 8)
    eachContent "unexpand" (fun st _ t => st.print ((wholeLines t).flatMap fun l =>
      let lead := l.takeWhile fun c => c = ' ' || c = '\t'
      let n := lead.foldl (fun n c => if c = '\t' then n / width * width + width else n + 1) 0
      List.replicate (n / width) '\t' ++ List.replicate (n % width) ' ' ++ l.drop lead.length))
      st o.operands

/-! ### Two sorted files -/

def twoContents (command : Text) (st : State) (operands : List Text)
    (f : State → Text → Text → State) : State :=
  match operands with
  | [a, b] =>
    let fault (st : State) (p : Path) (e : SystemError) : State :=
      st.failing 1 (command ++ (": " : Text) ++ p ++ (": " : Text) ++ reason e)
    match contentOf st a with
    | (.error e, st) => fault st a e
    | (.ok x, st) =>
      match contentOf st b with
      | (.error e, st) => fault st b e
      | (.ok y, st) => f st x y
  | [] => missingOperand st command "missing operand"
  | [a] => missingOperand st command (("missing operand after " : Text) ++ quotedName a)
  | _ :: _ :: c :: _ => missingOperand st command (("extra operand " : Text) ++ quotedName c)

/-- Lines that are only in the first list, only in the second, or in both. -/
def merged : (fuel : Nat) → List Text → List Text → List (Nat × Text)
  | 0, _, _ => []
  | _ + 1, as, [] => as.map (0, ·)
  | _ + 1, [], bs => bs.map (1, ·)
  | fuel + 1, a :: as, b :: bs =>
    if a = b then (2, a) :: merged fuel as bs
    else if Text.le a b then (0, a) :: merged fuel as (b :: bs)
    else (1, b) :: merged fuel (a :: as) bs

def isSorted : List Text → Bool
  | a :: b :: rest => Text.le a b && isSorted (b :: rest)
  | _ => true

def compareSorted (st : State) (arguments : List Text) : State :=
  withOptions "comm" 1 "123zC:" [("nocheck-order", 'z'), ("output-delimiter", 'C')] arguments st
    fun o st =>
    twoContents "comm" st o.operands fun st x y =>
      let (as, bs) := (plainLines x, plainLines y)
      let shows (i : Nat) : Bool := !o.has (Char.ofNat (i + '1'.toNat))
      let separator := (o.value? 'C').getD ['\t']
      let lead (i : Nat) : Text :=
        ((List.range i).filter shows).flatMap fun _ => separator
      let out := ((merged (as.length + bs.length + 1) as bs).filter fun p => shows p.1).flatMap
        fun p => lead p.1 ++ p.2 ++ ['\n']
      let st := (st.print out).withStatus 0
      if isSorted as && isSorted bs then st
      else
        let st := if isSorted as then st
          else st.complain "comm: file 1 is not in sorted order"
        let st := if isSorted bs then st
          else st.complain "comm: file 2 is not in sorted order"
        st.failing 1 "comm: input is not in sorted order"

def joinLines (st : State) (arguments : List Text) : State :=
  withOptions "join" 1 "t:1:2:j:a:v:o:e:i" [] arguments st fun o st =>
    let separator := (o.value? 't').bind List.head?
    let fields (l : Text) : List Text :=
      match separator with
      | some s => Text.pieces s l
      | none =>
        ((Text.pieces ' ' (l.map fun c => if c = '\t' then ' ' else c)).filter fun t => !t.isEmpty)
    let place (c : Char) : Nat := ((((o.value? c).orElse fun _ => o.value? 'j').bind natural?).getD 1) - 1
    let (p, q) := (place '1', place '2')
    let between : Text := [separator.getD ' ']
    twoContents "join" st o.operands fun st x y =>
      let as := (plainLines x).map fields
      let bs := (plainLines y).map fields
      let key (i : Nat) (fs : List Text) : Text := (fs[i]?).getD []
      let others (i : Nat) (fs : List Text) : List Text := fs.eraseIdx i
      let shown (a b : Option (List Text)) : Text :=
        let chosen : List Text :=
          match o.value? 'o' with
          | some format =>
            (Text.pieces ',' (format.map fun c => if c = ' ' then ',' else c)).map fun spec =>
              match spec with
              | ['0'] => ((a.map (key p)).orElse fun _ => b.map (key q)).getD []
              | '1' :: '.' :: n => (a.bind fun fs => fs[(digitsOf n).1 - 1]?).getD
                  ((o.value? 'e').getD [])
              | '2' :: '.' :: n => (b.bind fun fs => fs[(digitsOf n).1 - 1]?).getD
                  ((o.value? 'e').getD [])
              | _ => []
          | none =>
            ((a.map (key p)).orElse fun _ => b.map (key q)).getD [] ::
              ((a.map (others p)).getD [] ++ (b.map (others q)).getD [])
        Text.joined between chosen ++ ['\n']
      let asks (c : Char) (file : Text) : Bool := (o.values c).contains file
      let pairs := !o.given.any fun g => g.1 = 'v'
      let fromFirst := as.map fun a =>
        let partners := bs.filter fun b => key q b = key p a
        (key p a, if partners.isEmpty then
            (if asks 'a' ['1'] || asks 'v' ['1'] then shown (some a) none else [])
          else if pairs then partners.flatMap fun b => shown (some a) (some b) else [])
      let fromSecond := (bs.filter fun b => !as.any fun a => key p a = key q b).map fun b =>
        (key q b, if asks 'a' ['2'] || asks 'v' ['2'] then shown none (some b) else [])
      let all := (fromFirst ++ fromSecond).mergeSort fun a b => Text.le a.1 b.1
      (st.print (all.flatMap (·.2))).withStatus 0

/-! ### Bytes as numbers and letters -/

def chunks {α : Type} (size : Nat) : (fuel : Nat) → List α → List (List α)
  | 0, _ => []
  | _, [] => []
  | fuel + 1, l => l.take size :: chunks size fuel (l.drop size)

def shownByte (c : Char) : Text :=
  match c with
  | '\x00' => ['\\', '0']
  | '\x07' => ['\\', 'a']
  | '\x08' => ['\\', 'b']
  | '\t' => ['\\', 't']
  | '\n' => ['\\', 'n']
  | '\x0b' => ['\\', 'v']
  | '\x0c' => ['\\', 'f']
  | '\r' => ['\\', 'r']
  | c =>
    if 32 ≤ c.toNat && c.toNat < 127 then [c]
    else
      let t := Nat.toDigits 8 c.toNat
      List.replicate (3 - t.length) '0' ++ t

/-- A way to dump bytes: the letter of the format and how many bytes go into one
number. -/
def dumpLine (kind : Char) (size : Nat) (bytes : Text) : Text :=
  let filled (base width : Nat) (n : Nat) : Text :=
    let t := Nat.toDigits base n
    List.replicate (width - t.length) '0' ++ t
  let value (part : Text) : Nat := part.foldr (fun c n => 256 * n + c.toNat) 0
  (chunks size (bytes.length + 1) bytes).flatMap fun part =>
    let n := value part
    match kind with
    | 'c' => padLeft 4 (shownByte (part.head?.getD ' '))
    | 'x' => ' ' :: filled 16 (2 * size) n
    | 'd' =>
      let signed := Int.bmod n (Nat.pow 256 size)
      padLeft (match size with
        | 1 => 5
        | 2 => 7
        | 4 => 12
        | _ => 21) (Text.ofInt signed)
    | 'u' =>
      padLeft (match size with
        | 1 => 4
        | 2 => 6
        | 4 => 11
        | _ => 21) (Text.ofNat n)
    | _ => ' ' :: filled 8 (match size with
        | 1 => 3
        | 2 => 6
        | 4 => 11
        | _ => 22) n

def dump (st : State) (arguments : List Text) : State :=
  withOptions "od" 1 "A:t:N:j:vbcdoxw:" [("address-radix", 'A'), ("format", 't'),
      ("read-bytes", 'N'), ("skip-bytes", 'j'), ("output-duplicates", 'v')] arguments st fun o st =>
    let (t, st) := allContent "od" 1 st o.operands
    let skipped := ((o.value? 'j').bind natural?).getD 0
    let t := t.drop skipped
    let t := match (o.value? 'N').bind natural? with
      | some n => t.take n
      | none => t
    let formats := o.given.filterMap fun (c, value) =>
      match c, value with
      | 'b', _ => some ('o', 1)
      | 'c', _ => some ('c', 1)
      | 'd', _ => some ('u', 2)
      | 'o', _ => some ('o', 2)
      | 'x', _ => some ('x', 2)
      | 't', k :: size =>
        some (k, if k = 'c' || k = 'a' then 1 else match size with
          | ['C'] => 1
          | ['S'] => 2
          | ['L'] => 8
          | _ => (natural? size).getD 4)
      | _, _ => none
    let formats := if formats.isEmpty then [('o', 2)] else formats
    let address (n : Nat) : Text :=
      let base := match (o.value? 'A').bind List.head? with
        | some 'x' => 16
        | some 'd' => 10
        | _ => 8
      let t := Nat.toDigits base n
      if o.value? 'A' = some ['n'] then []
      else List.replicate ((if base = 16 then 6 else 7) - t.length) '0' ++ t
    let rec go : (isRepeat : Bool) → Option Text → Nat → List Text → Text
      | _, _, n, [] => if o.value? 'A' = some ['n'] then [] else address n ++ ['\n']
      | isRepeat, before, n, l :: rest =>
        if before = some l && !o.has 'v' && !rest.isEmpty then
          (if isRepeat then [] else ['*', '\n']) ++ go true before (n + l.length) rest
        else
          let block := formats.zipIdx.flatMap fun (f, i) =>
            (if i = 0 then address n else List.replicate (address n).length ' ') ++
              dumpLine f.1 f.2 l ++ ['\n']
          block ++ go false (some l) (n + l.length) rest
    st.print (go false none skipped (chunks 16 (t.length + 1) t))

def base64Alphabet : Array Char :=
  "ABCDEFGHIJKLMNOPQRSTUVWXYZabcdefghijklmnopqrstuvwxyz0123456789+/".toList.toArray

def encodeTriple (part : Text) : Text :=
  let n := (part ++ List.replicate (3 - part.length) '\x00').foldl
    (fun n c => 256 * n + c.toNat) 0
  let letter (k : Nat) : Char := base64Alphabet.getD (n / Nat.pow 64 k % 64) '='
  ([letter 3, letter 2, letter 1, letter 0].take (part.length + 1)) ++
    List.replicate (3 - part.length) '='

def decodeQuadruple? (part : Text) : Option Text :=
  let core := (part.reverse.dropWhile (· = '=')).reverse
  if part.length ≠ 4 || core.length < 2 then none
  else
    (core.mapM fun c => base64Alphabet.toList.idxOf? c).map fun values =>
      let n := (values ++ List.replicate (4 - values.length) 0).foldl (fun n v => 64 * n + v) 0
      [Char.ofNat (n / 65536), Char.ofNat (n / 256 % 256), Char.ofNat (n % 256)].take
        (core.length - 1)

def base64 (st : State) (arguments : List Text) : State :=
  withOptions "base64" 1 "dw:i" [("decode", 'd'), ("wrap", 'w'), ("ignore-garbage", 'i')] arguments
    st fun o st =>
    let (t, st) := allContent "base64" 1 st o.operands
    if st.status ≠ 0 then st
    else if o.has 'd' then
      let core := t.filter fun c => c ≠ '\n'
      let rec go (st : State) : List Text → State
        | [] => st.withStatus 0
        | part :: rest =>
          match decodeQuadruple? part with
          | some bytes => go (st.print bytes) rest
          | none => st.failing 1 "base64: invalid input"
      go st (chunks 4 (core.length + 1) core)
    else
      let letters := (chunks 3 (t.length + 1) t).flatMap encodeTriple
      let width := ((o.value? 'w').bind natural?).getD 76
      st.print (if width = 0 then letters
        else (chunks width (letters.length + 1) letters).flatMap (· ++ ['\n']))

end Shell

end BuildManifest
