import BuildManifest.Shell.Expression
import BuildManifest.Shell.Listing
import BuildManifest.Shell.Wildcard

/-!
Finding files, as `find` does: every file below some paths is put to a test, and the
test may print it, remove it or run a command on it. Directories are gone through by
the names in them. No file is older than any other.
-/

namespace BuildManifest

namespace Shell

namespace Finding

/-- How a number is asked for: exactly, or more or less than it. -/
inductive Bound where
  | exactly (n : Nat)
  | more (n : Nat)
  | less (n : Nat)

def Bound.holds : Bound → Nat → Bool
  | .exactly n, m => m = n
  | .more n, m => m > n
  | .less n, m => m < n

inductive Test where
  | always (answer : Bool)
  | negated (a : Test)
  | both (a b : Test)
  | either (a b : Test)
  | after (a b : Test)
  | name (pattern : Marked) (ignoreCase : Bool)
  | path (pattern : Marked) (ignoreCase : Bool)
  | spelled (e : Expression)
  | linkName (pattern : Marked)
  | kind (letters : Text)
  | empty
  /-- The size in units of so many bytes, begun ones counting as whole. -/
  | size (bound : Bound) (unit : Nat)
  | executable
  | mode (permissions : Nat)
  | links (bound : Bound)
  | same (location : Location)
  | print (ending : Text)
  | format (t : Text)
  | write (file : Path)
  | each (words : List Text) (inDirectory : Bool)
  | together (number : Nat) (words : List Text)
  | remove
  | prune
  | quit

structure Settings where
  least : Nat
  most : Option Nat
  childrenFirst : Bool
  follows : Bool
  acts : Bool
  gatherings : Nat

abbrev Reader := Settings × List Text

def unquoted (t : Text) : Marked := t.map (·, false)

/-- A pattern in which a caret negates a class as well. -/
def patternOf (t : Text) : Marked :=
  let rec go : Text → Text
    | '[' :: '^' :: rest => '[' :: '!' :: go rest
    | c :: rest => c :: go rest
    | [] => []
  unquoted (go t)

def readBound? (t : Text) : Option (Bound × Text) :=
  let number (make : Nat → Bound) (t : Text) : Option (Bound × Text) :=
    if t.head?.any Char.isDigit then some (make (digitsOf t).1, (digitsOf t).2) else none
  match t with
  | '+' :: rest => number .more rest
  | '-' :: rest => number .less rest
  | rest => number .exactly rest

def readSize? (t : Text) : Option Test :=
  match readBound? t with
  | some (b, []) | some (b, ['b']) => some (.size b 512)
  | some (b, ['c']) => some (.size b 1)
  | some (b, ['w']) => some (.size b 2)
  | some (b, ['k']) => some (.size b 1024)
  | some (b, ['M']) => some (.size b 1048576)
  | some (b, ['G']) => some (.size b 1073741824)
  | _ => none

/-- The words of a command up to the sign that ends it, and whether all files are to
be handed over together. -/
def readCommand? : List Text → Option (List Text × Bool × List Text)
  | [] => none
  | [';'] :: rest => some ([], false, rest)
  | ['\x7b', '\x7d'] :: ['+'] :: rest => some ([], true, rest)
  | w :: rest => (readCommand? rest).map fun (ws, together, after) => (w :: ws, together, after)

/-- The permissions of a file, or those that it has to have at least. -/
def readMode? (t : Text) : Option Test :=
  let asks (mode : Text) : Bool := mode.any fun c => c = 'x' || c = '1'
  match t with
  | '-' :: mode | '/' :: mode => some (if asks mode then .executable else .always true)
  | mode => if mode.all isOctalDigit then some (.mode (valueIn 8 mode)) else none

/-- Whether all files belong to someone. -/
def isOwner (t : Text) : Bool := t = ("root" : Text) || t = ['0']

/-- The time of a file: all files are new. -/
def readAge? (t : Text) : Option Test :=
  (readBound? t).map fun b => .always (b.1.holds 0)

/-- A word between a grave accent and a quote. -/
def graved (t : Text) : Text := Char.ofNat 96 :: t ++ ['\'']

mutual

def readAfter (st : State) : (fuel : Nat) → Reader → Except Text (Test × Reader)
  | 0, r => .ok (.always true, r)
  | fuel + 1, r => do
    let (a, r) ← readEither st fuel r
    match r with
    | (s, [','] :: rest) =>
      let (b, r) ← readAfter st fuel (s, rest)
      .ok (.after a b, r)
    | r => .ok (a, r)

def readEither (st : State) : (fuel : Nat) → Reader → Except Text (Test × Reader)
  | 0, r => .ok (.always true, r)
  | fuel + 1, r => do
    let (a, r) ← readBoth st fuel r
    match r with
    | (s, w :: rest) =>
      if w = ("-o" : Text) || w = ("-or" : Text) then
        let (b, r) ← readEither st fuel (s, rest)
        .ok (.either a b, r)
      else .ok (a, r)
    | r => .ok (a, r)

def readBoth (st : State) : (fuel : Nat) → Reader → Except Text (Test × Reader)
  | 0, r => .ok (.always true, r)
  | fuel + 1, r => do
    let (a, r) ← readTest st fuel r
    match r with
    | (_, []) => .ok (a, r)
    | (s, w :: rest) =>
      if w = ("-a" : Text) || w = ("-and" : Text) then
        let (b, r) ← readBoth st fuel (s, rest)
        .ok (.both a b, r)
      else if w = [','] || w = [')'] || w = ("-o" : Text) || w = ("-or" : Text) then .ok (a, r)
      else
        let (b, r) ← readBoth st fuel r
        .ok (.both a b, r)

def readTest (st : State) : (fuel : Nat) → Reader → Except Text (Test × Reader)
  | 0, r => .ok (.always true, r)
  | _ + 1, (s, []) => .ok (.always true, (s, []))
  | fuel + 1, (s, w :: rest) => do
    let missing : Except Text (Test × Reader) :=
      .error (("missing argument to " : Text) ++ graved w)
    let value (f : Text → Option Test) : Except Text (Test × Reader) :=
      match rest with
      | [] => missing
      | v :: rest =>
        match f v with
        | some t => .ok (t, (s, rest))
        | none => .error (("invalid argument " : Text) ++ graved v ++ (" to " : Text) ++ graved w)
    let acting (t : Test) : Except Text (Test × Reader) := .ok (t, ({ s with acts := true }, rest))
    let depth (f : Nat → Settings) : Except Text (Test × Reader) :=
      match rest with
      | [] => missing
      | v :: rest =>
        match natural? v with
        | some n => .ok (.always true, (f n, rest))
        | none => .error (("Expected a positive decimal integer argument to " : Text) ++ w ++
            (", but got " : Text) ++ quotedName v)
    match String.ofList w with
    | "(" => do
      let (a, (s, rest)) ← readAfter st fuel (s, rest)
      match rest with
      | [')'] :: rest => .ok (a, (s, rest))
      | _ => .error "invalid expression; I was expecting to find a ')' somewhere but did not see one."
    | "!" | "-not" => do
      if rest.isEmpty then .error (("expected an expression after " : Text) ++ quotedName w)
      let (a, r) ← readTest st fuel (s, rest)
      .ok (.negated a, r)
    | "-name" => value fun v => some (.name (patternOf v) false)
    | "-iname" => value fun v => some (.name (patternOf (v.map Char.toLower)) true)
    | "-path" | "-wholename" => value fun v => some (.path (patternOf v) false)
    | "-ipath" | "-iwholename" => value fun v => some (.path (patternOf (v.map Char.toLower)) true)
    | "-lname" => value fun v => some (.linkName (patternOf v))
    | "-regex" | "-iregex" => value fun v =>
      (Expression.ofText? ⟨false, false, false, w = ("-iregex" : Text), false⟩ v).map .spelled
    | "-type" | "-xtype" =>
      match rest with
      | [] => missing
      | v :: rest =>
        match v.find? fun c => !("fdlbcpsD," : Text).contains c with
        | some c => .error (("Unknown argument to " : Text) ++ w ++ (": " : Text) ++ [c])
        | none => .ok (.kind (v.filter (· ≠ ',')), (s, rest))
    | "-empty" => .ok (.empty, (s, rest))
    | "-size" => value readSize?
    | "-executable" => .ok (.executable, (s, rest))
    | "-readable" | "-writable" | "-true" => .ok (.always true, (s, rest))
    | "-false" | "-nouser" | "-nogroup" => .ok (.always false, (s, rest))
    | "-links" => value fun v => (readBound? v).map fun b => .links b.1
    | "-perm" => value readMode?
    | "-user" | "-group" | "-uid" | "-gid" => value fun v => some (.always (isOwner v))
    | "-newer" | "-anewer" | "-cnewer" | "-samefile" =>
      match rest with
      | [] => missing
      | v :: rest =>
        match st.nodeAt v with
        | .ok (location, _) =>
          .ok (if w = ("-samefile" : Text) then .same location else .always false, (s, rest))
        | .error e => .error (quotedName v ++ (": " : Text) ++ reason e)
    | "-mtime" | "-atime" | "-ctime" | "-mmin" | "-amin" | "-cmin" => value readAge?
    | "-maxdepth" => depth fun n => { s with most := some n }
    | "-mindepth" => depth fun n => { s with least := n }
    | "-depth" | "-d" => .ok (.always true, ({ s with childrenFirst := true }, rest))
    | "-follow" => .ok (.always true, ({ s with follows := true }, rest))
    | "-mount" | "-xdev" | "-noleaf" | "-daystart" | "-warn" | "-nowarn" =>
      .ok (.always true, (s, rest))
    | "-print" => acting (.print ['\n'])
    | "-print0" => acting (.print ['\x00'])
    | "-ls" => acting (.print ['\n'])
    | "-printf" | "-fprint" =>
      match rest with
      | [] => missing
      | v :: rest =>
        .ok (if w = ("-printf" : Text) then .format v else .write v,
          ({ s with acts := true }, rest))
    | "-delete" => .ok (.remove, ({ s with acts := true, childrenFirst := true }, rest))
    | "-prune" => .ok (.prune, (s, rest))
    | "-quit" => acting .quit
    | "-exec" | "-execdir" | "-ok" =>
      match readCommand? rest with
      | none | some ([], _, _) => missing
      | some (words, true, rest) =>
        .ok (.together s.gatherings words,
          ({ s with acts := true, gatherings := s.gatherings + 1 }, rest))
      | some (words, false, rest) =>
        .ok (if w = ("-ok" : Text) then .always false else .each words (w = ("-execdir" : Text)),
          ({ s with acts := true }, rest))
    | _ =>
      if w.head? = some '-' then .error (("unknown predicate " : Text) ++ graved w)
      else .error (("paths must precede expression: " : Text) ++ graved w)

end

/-- A file that has been found: its path, the path that the search began with, how
deep it lies below that, its place and what it is. -/
structure Found where
  path : Path
  origin : Path
  depth : Nat
  location : Location
  node : Node

structure Search where
  shell : State
  /-- What has been gathered for commands that get all files together. -/
  gathered : List (Nat × List Text × List Path)
  written : List Path
  pruned : Bool
  ended : Bool
  failed : Bool

def kindLetter (n : Node) : Char :=
  match n with
  | .file _ _ => 'f'
  | .link _ => 'l'
  | .dir _ => 'd'

def Found.name (f : Found) : Text := baseName f.path

/-- The path below the one that the search began with. -/
def Found.below (f : Found) : Path :=
  let rest := f.path.drop f.origin.length
  if rest.head? = some '/' then rest.tail else rest

def Found.permissions (f : Found) : Nat :=
  match f.node with
  | .file _ executable => if executable then 493 else 420
  | .link _ => 511
  | .dir _ => 493

def formatted (f : Found) : (fuel : Nat) → Text → Text
  | 0, _ => []
  | _ + 1, [] => []
  | fuel + 1, '\\' :: c :: rest =>
    (match c with
      | 'n' => ['\n']
      | 't' => ['\t']
      | '0' => ['\x00']
      | '\\' => ['\\']
      | c => ['\\', c]) ++ formatted f fuel rest
  | fuel + 1, '%' :: rest =>
    let flags := rest.takeWhile fun c => c = '-' || c = '0'
    let (width, rest) := digitsOf (rest.drop flags.length)
    match rest with
    | [] => ['%']
    | c :: rest =>
      let listed : Listed := ⟨f.path, f.node⟩
      let t : Text := match c with
        | '%' => ['%']
        | 'f' => f.name
        | 'p' => f.path
        | 'P' => f.below
        | 'H' => f.origin
        | 'h' =>
          if f.path.contains '/' then
            (withoutSlashes (f.path.reverse.dropWhile (· ≠ '/')).reverse)
          else ['.']
        | 's' => Text.ofNat listed.size
        | 'd' => Text.ofNat f.depth
        | 'y' => [kindLetter f.node]
        | 'm' => Nat.toDigits 8 f.permissions
        | 'M' => listed.mode
        | 'n' => Text.ofNat listed.links
        | 'u' | 'g' => "root"
        | 'U' | 'G' => "0"
        | 'l' =>
          match f.node with
          | .link target => octets target
          | _ => []
        | c => ['%', c]
      (if flags.contains '-' then padRight width t else padLeft width t) ++ formatted f fuel rest
  | fuel + 1, c :: rest => c :: formatted f fuel rest

/-- A word in which a pair of braces stands for a path. -/
def filledIn (p : Path) (w : Text) : Text := Text.replace w ['\x7b', '\x7d'] p

def runFor (run : Runner) (words : List Text) (q : Search) : Bool × Search :=
  match run words q.shell with
  | .ok st => (st.status = 0, { q with shell := st })
  | .error e =>
    (false, { q with
      shell := q.shell.complain (("find: " : Text) ++ quotedName (words.head?.getD []) ++
        (": " : Text) ++ reason e) })

def complain (q : Search) (t : Text) : Search :=
  { q with shell := q.shell.complain (("find: " : Text) ++ t), failed := true }

def remove (f : Found) (q : Search) : Bool × Search :=
  let refuse (why : Text) : Bool × Search :=
    (false, complain q (("cannot delete " : Text) ++ quotedName f.path ++ (": " : Text) ++ why))
  match q.shell.world.tree.at? f.location with
  | some (.dir (_ :: _)) => refuse "Directory not empty"
  | some _ =>
    if f.path = ['.'] then (true, q)
    else (true, { q with shell := q.shell.removeAt f.location })
  | none => (true, q)

def holds (run : Runner) (f : Found) : Test → Search → Bool × Search
  | .always answer, q => (answer, q)
  | .negated a, q =>
    let (answer, q) := holds run f a q
    (!answer, q)
  | .both a b, q =>
    let (answer, q) := holds run f a q
    if answer && !q.ended then holds run f b q else (false, q)
  | .either a b, q =>
    let (answer, q) := holds run f a q
    if answer || q.ended then (answer, q) else holds run f b q
  | .after a b, q =>
    let (answer, q) := holds run f a q
    if q.ended then (answer, q) else holds run f b q
  | .name pattern ignoreCase, q =>
    (fits pattern (if ignoreCase then f.name.map Char.toLower else f.name), q)
  | .path pattern ignoreCase, q =>
    (fits pattern (if ignoreCase then f.path.map Char.toLower else f.path), q)
  | .spelled e, q =>
    let t := f.path.toArray
    ((e.matchAt? t 0).any fun s => s.position = t.size, q)
  | .linkName pattern, q =>
    (match f.node with
      | .link target => fits pattern (octets target)
      | _ => false, q)
  | .kind letters, q => (letters.contains (kindLetter f.node), q)
  | .empty, q =>
    (match f.node with
      | .file content _ => content.size = 0
      | .dir entries => entries.isEmpty
      | .link _ => false, q)
  | .size bound unit, q =>
    let size := (Listed.mk f.path f.node).size
    (bound.holds ((size + unit - 1) / unit), q)
  | .executable, q =>
    (match f.node with
      | .file _ executable => executable
      | _ => true, q)
  | .mode permissions, q => (f.permissions = permissions, q)
  | .links bound, q => (bound.holds (Listed.mk f.path f.node).links, q)
  | .same location, q => (f.location = location, q)
  | .print ending, q => (true, { q with shell := q.shell.print (f.path ++ ending) })
  | .format t, q => (true, { q with shell := q.shell.print (formatted f (t.length + 1) t) })
  | .write file, q =>
    let old := if q.written.contains file then (q.shell.readFile file).toOption.getD [] else []
    match q.shell.writeFile file (old ++ f.path ++ ['\n']) with
    | .ok st => (true, { q with shell := st, written := file :: q.written })
    | .error e => (true, complain q (quotedName file ++ (": " : Text) ++ reason e))
  | .each words inDirectory, q =>
    if inDirectory then
      let place := q.shell.world.current
      let inner := { q.shell with world := { q.shell.world with current := f.location.dropLast } }
      let p := '.' :: '/' :: f.name
      let (answer, q) := runFor run (words.map (filledIn p)) { q with shell := inner }
      (answer, { q with
        shell := { q.shell with world := { q.shell.world with current := place } } })
    else runFor run (words.map (filledIn f.path)) q
  | .together number words, q =>
    let before := ((q.gathered.lookup number).map (·.2)).getD []
    (true, { q with
      gathered := (number, words, f.path :: before) :: q.gathered.filter fun g => g.1 ≠ number })
  | .remove, q => remove f q
  | .prune, q => (true, { q with pruned := true })
  | .quit, q => (true, { q with ended := true })

/-- Puts a file and all that is below it to a test. -/
def visit (run : Runner) (s : Settings) (test : Test) : (fuel : Nat) → Found → Search → Search
  | 0, _, q => q
  | fuel + 1, f, q =>
    if q.ended then q
    else
      let judge (q : Search) : Search :=
        if f.depth < s.least then q else (holds run f test { q with pruned := false }).2
      let goDown (q : Search) : Search :=
        if s.most.any fun n => f.depth ≥ n then q
        else
          match q.shell.world.tree.at? f.location with
          | some (.dir entries) =>
            let names := (entries.map (·.1)).mergeSort Text.le
            names.foldl (fun q n =>
              match q.shell.world.tree.at? (f.location ++ [n]) with
              | none => q
              | some node =>
                let name := octets n
                let p := if f.path.getLast? = some '/' then f.path ++ name
                  else f.path ++ '/' :: name
                let inner : Found := ⟨p, f.origin, f.depth + 1, f.location ++ [n], node⟩
                let inner := match s.follows, q.shell.nodeAt p with
                  | true, .ok (location, node) => { inner with location, node }
                  | _, _ => inner
                visit run s test fuel inner q) q
          | _ => q
      if s.childrenFirst then judge (goDown q)
      else
        let q := judge q
        if q.pruned || q.ended then { q with pruned := false } else goDown q

def leadingOptions (s : Settings) : List Text → Settings × List Text
  | ['-', 'L'] :: rest => leadingOptions { s with follows := true } rest
  | ['-', 'P'] :: rest => leadingOptions { s with follows := false } rest
  | ['-', 'H'] :: rest => leadingOptions s rest
  | rest => (s, rest)

def beginsTest (w : Text) : Bool :=
  (w.head? = some '-' && w.length > 1) || w = ['('] || w = ['!'] || w = [','] || w = [')']

end Finding

def find (run : Runner) (st : State) (arguments : List Text) : State :=
  let (s, arguments) := Finding.leadingOptions ⟨0, none, false, false, false, 0⟩ arguments
  let paths := arguments.takeWhile fun w => !Finding.beginsTest w
  let words := arguments.drop paths.length
  let fault (t : Text) : State := st.failing 1 (("find: " : Text) ++ t)
  match (if words.isEmpty then .ok (.always true, (s, []))
      else Finding.readAfter st (6 * words.length + 8) (s, words)) with
  | .error t => fault t
  | .ok (_, (_, w :: _)) =>
    if w = [')'] then fault "you have too many ')'"
    else fault (("paths must precede expression: " : Text) ++ Finding.graved w)
  | .ok (test, (s, [])) =>
    let test := if s.acts then test else .both test (.print ['\n'])
    let start : Finding.Search := ⟨st.withStatus 0, [], [], false, false, false⟩
    let q := (if paths.isEmpty then [['.']] else paths).foldl (fun (q : Finding.Search) p =>
      let place := if s.follows || p.getLast? = some '/' then q.shell.nodeAt p
        else q.shell.selfAt p
      let place := match place, s.follows with
        | .error _, true => q.shell.selfAt p
        | r, _ => r
      match place with
      | .ok (location, node) => Finding.visit run s test 200 ⟨p, p, 0, location, node⟩ q
      | .error e => Finding.complain q (quotedName p ++ (": " : Text) ++ reason e)) start
    let q := (q.gathered.mergeSort fun a b => a.1 ≤ b.1).foldl (fun (q : Finding.Search) (_, words, files) =>
      let (answer, q) := Finding.runFor run (words ++ files.reverse) q
      if answer then q else { q with failed := true }) q
    q.shell.withStatus (if q.failed then 1 else 0)

end Shell

end BuildManifest
