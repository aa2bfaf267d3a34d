import BuildManifest.Shell.Columns

/-!
How two files differ: where their bytes first do, and which of their lines have to
go or to come. The lines that stay are as many as possible.
-/

namespace BuildManifest

namespace Shell

/-- The place of the first bytes that differ, counted from zero. -/
def firstDifference : Text → Text → Option Nat
  | a :: s, b :: t => if a = b then (firstDifference s t).map (· + 1) else some 0
  | [], [] => none
  | _, _ => some 0

def compareBytes (st : State) (arguments : List Text) : State :=
  withOptions "cmp" 2 "sli:n:b" [("quiet", 's'), ("silent", 's'), ("verbose", 'l')] arguments st
    fun o st =>
    let p := o.operands.head?.getD ['-']
    let q := (o.operands[1]?).getD ['-']
    let fault (st : State) (p : Path) (e : SystemError) : State :=
      if o.has 's' then st.withStatus 2
      else st.failing 2 (("cmp: " : Text) ++ p ++ (": " : Text) ++ reason e)
    if o.operands.isEmpty then
      misuse st "cmp" 2 "missing operand after 'cmp'"
    else
      match contentOf st p with
      | (.error e, st) => fault st p e
      | (.ok x, st) =>
        match contentOf st q with
        | (.error e, st) => fault st q e
        | (.ok y, st) =>
          match firstDifference x y with
          | none => st.withStatus 0
          | some i =>
            let line (n : Nat) : Text := Text.ofNat ((x.take n).count '\n' + 1)
            if o.has 's' then st.withStatus 1
            else if i = x.length || i = y.length then
              let short := if i = x.length then p else q
              st.failing 1 (("cmp: EOF on " : Text) ++ short ++
                (if i = 0 then (" which is empty" : Text)
                  else (" after byte " : Text) ++ Text.ofNat i ++ (", line " : Text) ++
                    line (i - 1)))
            else if o.has 'l' then
              let size := max x.length y.length
              let width := (Text.ofNat size).length
              let pairs := ((x.zip y).zipIdx.filter fun p => p.1.1 ≠ p.1.2)
              let octal (c : Char) : Text := padLeft 3 (Nat.toDigits 8 c.toNat)
              (pairs.foldl (fun st p => st.printLine (padLeft width (Text.ofNat (p.2 + 1)) ++ [' '] ++
                octal p.1.1 ++ [' '] ++ octal p.1.2)) st).withStatus 1
            else
              (st.printLine (p ++ [' '] ++ q ++ (" differ: char " : Text) ++ Text.ofNat (i + 1) ++
                (", line " : Text) ++ line i)).withStatus 1

namespace Difference

/-- Lines that go from a place in the first file and come in at a place in the
second, both counted from zero. -/
structure Hunk where
  first : Nat
  gone : List Text
  second : Nat
  come : List Text

/-- For a line and the lengths for the rest of the first file, those for the line
and the rest, at every place of the second file. -/
def lengthsRow (same : Text → Text → Bool) (a : Text) (bs : List Text) (below : Array Nat) :
    Array Nat :=
  let n := bs.length
  let step (b : Text) (acc : List Nat × Nat) : List Nat × Nat :=
    let (row, j) := acc
    let right := row.head?.getD 0
    let value := if same a b then below.getD (j + 1) 0 + 1 else max (below.getD j 0) right
    (value :: row, j - 1)
  ((bs.foldr step ([0], n - 1)).1).toArray

/-- How many lines the ends of two files have in common, from every pair of places. -/
def lengths (same : Text → Text → Bool) (as bs : List Text) : Array (Array Nat) :=
  let last : Array Nat := Array.replicate (bs.length + 1) 0
  (as.foldr (fun a rows => lengthsRow same a bs (rows.head?.getD last) :: rows) [last]).toArray

/-- Adds a line that goes or comes to the hunks that follow it. -/
def grow (i j : Nat) (gone come : List Text) : List Hunk → List Hunk
  | h :: rest =>
    if h.first = i + gone.length && h.second = j + come.length then
      ⟨i, gone ++ h.gone, j, come ++ h.come⟩ :: rest
    else ⟨i, gone, j, come⟩ :: h :: rest
  | [] => [⟨i, gone, j, come⟩]

def hunksFrom (same : Text → Text → Bool) (table : Array (Array Nat)) :
    (fuel : Nat) → (i j : Nat) → List Text → List Text → List Hunk
  | 0, _, _, _, _ => []
  | _ + 1, _, _, [], [] => []
  | fuel + 1, i, j, a :: as, [] => grow i j [a] [] (hunksFrom same table fuel (i + 1) j as [])
  | fuel + 1, i, j, [], b :: bs => grow i j [] [b] (hunksFrom same table fuel i (j + 1) [] bs)
  | fuel + 1, i, j, a :: as, b :: bs =>
    let at? (i j : Nat) : Nat := (table.getD i #[]).getD j 0
    if same a b then hunksFrom same table fuel (i + 1) (j + 1) as bs
    else if at? (i + 1) j ≥ at? i (j + 1) then
      grow i j [a] [] (hunksFrom same table fuel (i + 1) j as (b :: bs))
    else grow i j [] [b] (hunksFrom same table fuel i (j + 1) (a :: as) bs)

def hunks (same : Text → Text → Bool) (as bs : List Text) : List Hunk :=
  hunksFrom same (lengths same as bs) (as.length + bs.length + 1) 0 0 as bs

def signed (sign : Text) (ls : List Text) : Text :=
  ls.flatMap fun l =>
    sign ++ (if l.getLast? = some '\n' then l else l ++ ("\n\\ No newline at end of file\n" : Text))

def range (i n : Nat) : Text :=
  if n = 0 then Text.ofNat i
  else if n = 1 then Text.ofNat (i + 1)
  else Text.ofNat (i + 1) ++ [','] ++ Text.ofNat (i + n)

def Hunk.text (h : Hunk) : Text :=
  let sign := if h.gone.isEmpty then 'a' else if h.come.isEmpty then 'd' else 'c'
  range h.first h.gone.length ++ [sign] ++ range h.second h.come.length ++ ['\n'] ++
    signed ['<', ' '] h.gone ++
    (if !h.gone.isEmpty && !h.come.isEmpty then ("---\n" : Text) else []) ++
    signed ['>', ' '] h.come

/-- Hunks so near to each other that they share lines around them. -/
def gathered (around : Nat) : List Hunk → List (List Hunk)
  | [] => []
  | h :: rest =>
    match gathered around rest with
    | (g :: gs) :: others =>
      if g.first - (h.first + h.gone.length) ≤ 2 * around then (h :: g :: gs) :: others
      else [h] :: (g :: gs) :: others
    | others => [h] :: others

def span (i n : Nat) : Text :=
  if n = 1 then Text.ofNat (i + 1)
  else (if n = 0 then Text.ofNat i else Text.ofNat (i + 1)) ++ [','] ++ Text.ofNat n

def unified (around : Nat) (as : List Text) (hs : List Hunk) : Text :=
  let rec body (i : Nat) (last : Nat) : List Hunk → Text
    | [] => signed [' '] ((as.drop i).take (last - i))
    | h :: rest =>
      signed [' '] ((as.drop i).take (h.first - i)) ++ signed ['-'] h.gone ++
        signed ['+'] h.come ++ body (h.first + h.gone.length) last rest
  (gathered around hs).flatMap fun group =>
    match group, group.getLast? with
    | first :: _, some final =>
      let lead := min around first.first
      let i := first.first - lead
      let last := min as.length (final.first + final.gone.length + around)
      let come := (group.map fun h => h.come.length).foldl (· + ·) 0
      let gone := (group.map fun h => h.gone.length).foldl (· + ·) 0
      let j := first.second - lead
      ("@@ -" : Text) ++ span i (last - i) ++ (" +" : Text) ++
        span j (last - i - gone + come) ++ (" @@\n" : Text) ++ body i last group
    | _, _ => []

/-- What two lines have to agree in. -/
def shape (o : Options) (l : Text) : Text :=
  let l := if o.has 'i' then l.map Char.toLower else l
  if o.has 'w' then l.filter fun c => c ≠ ' ' && c ≠ '\t' && c ≠ '\n'
  else if o.has 'b' then
    let l := l.map fun c => if c = '\t' then ' ' else c
    let l := squeeze (· == ' ') (withoutNewline l)
    (l.reverse.dropWhile (· = ' ')).reverse
  else l

def ofTexts (o : Options) (st : State) (lead : Text) (p q : Path) (x y : Text) : State :=
  let same (a b : Text) : Bool := a = b || shape o a = shape o b
  let (as, bs) := (wholeLines x, wholeLines y)
  let hs := hunks same as bs
  if hs.isEmpty then
    (if o.has 's' then st.printLine (("Files " : Text) ++ p ++ (" and " : Text) ++ q ++
      (" are identical" : Text)) else st).withStatus 0
  else if o.has 'q' then
    (st.printLine (("Files " : Text) ++ p ++ (" and " : Text) ++ q ++
      (" differ" : Text))).withStatus 1
  else if o.has 'u' || o.has 'U' then
    let around := ((o.value? 'U').bind natural?).getD 3
    let date : Text := "\t1970-01-01 00:00:00.000000000 +0000\n"
    (st.print (lead ++ ("--- " : Text) ++ p ++ date ++ ("+++ " : Text) ++ q ++ date ++
      unified around as hs)).withStatus 1
  else (st.print (lead ++ hs.flatMap Hunk.text)).withStatus 1

mutual

def ofDirectories (o : Options) : (fuel : Nat) → State → Path → Path → State
  | 0, st, _, _ => st
  | fuel + 1, st, p, q =>
    let names (d : Path) : List Text := ((st.list d).toOption.getD []).map (·.1)
    let all := merged (2 * (names p).length + 2 * (names q).length + 2) (names p) (names q)
    all.foldl (fun st (side, name) =>
      let before := st.status
      let st :=
        if side < 2 then
          (st.printLine (("Only in " : Text) ++ (if side = 0 then p else q) ++ (": " : Text) ++
            name)).withStatus 1
        else ofPaths o fuel true (st.withStatus 0) (Path.join p name) (Path.join q name)
      st.withStatus (max before st.status)) st

/-- Compares two paths, which were named or came up in directories. -/
def ofPaths (o : Options) : (fuel : Nat) → (within : Bool) → State → Path → Path → State
  | 0, _, st, _, _ => st
  | fuel + 1, within, st, p, q =>
    let flags : Text := (o.given.filter fun g => g.1 ≠ 'U').flatMap fun g => ['-', g.1, ' ']
    let lead := if within then
        ("diff " : Text) ++ flags ++ p ++ [' '] ++ q ++ ['\n']
      else []
    match st.isDirectory p, st.isDirectory q with
    | true, true =>
      if within && !o.has 'r' then
        st.printLine (("Common subdirectories: " : Text) ++ p ++ (" and " : Text) ++ q)
      else ofDirectories o fuel st p q
    | a, b =>
      if within && a != b then
        let kind (isDir : Bool) (p : Path) : Text := if isDir then "directory" else
          if (st.readFile p).toOption = some [] then "regular empty file" else "regular file"
        (st.printLine (("File " : Text) ++ p ++ (" is a " : Text) ++ kind a p ++
          (" while file " : Text) ++ q ++ (" is a " : Text) ++ kind b q)).withStatus 1
      else
        let p := if a then Path.join p (baseName q) else p
        let q := if b then Path.join q (baseName p) else q
        let fault (st : State) (p : Path) (e : SystemError) : State :=
          st.failing 2 (("diff: " : Text) ++ p ++ (": " : Text) ++ reason e)
        match contentOf st p with
        | (.error e, st) =>
          match (contentOf st q).1 with
          | .error e' => fault (fault st p e) q e'
          | .ok _ => fault st p e
        | (.ok x, st) =>
          match contentOf st q with
          | (.error e, st) => fault st q e
          | (.ok y, st) => ofTexts o st lead p q x y

end

end Difference

def difference (st : State) (arguments : List Text) : State :=
  withOptions "diff" 2 "uU:qsrNiwbBaycte" [("unified", 'u'), ("brief", 'q'), ("recursive", 'r'),
      ("ignore-case", 'i'), ("ignore-all-space", 'w'), ("ignore-space-change", 'b'),
      ("report-identical-files", 's'), ("new-file", 'N')] arguments st fun o st =>
    match o.operands with
    | [p, q] => Difference.ofPaths o 100 false (st.withStatus 0) p q
    | [] => misuse st "diff" 2 "missing operand after 'diff'"
    | [p] => misuse st "diff" 2 (("missing operand after " : Text) ++ quotedName p)
    | _ :: _ :: p :: _ => misuse st "diff" 2 (("extra operand " : Text) ++ quotedName p)

end Shell

end BuildManifest
