import BuildManifest.Shell.Files

/-!
How files are listed: by their names, sorted, or with what else is known of them.
Files come first and then directories, each with what is in it.
-/

namespace BuildManifest

namespace Shell

/-- A file to be listed: the name it is listed by and what it is. -/
structure Listed where
  name : Text
  node : Node

namespace Listed

def size (l : Listed) : Nat :=
  match l.node with
  | .file content _ => content.size
  | .link target => target.byteLength
  | .dir _ => 4096

/-- How many blocks of a thousand bytes a file takes up. -/
def blocks (l : Listed) : Nat :=
  match l.node with
  | .file content _ => (content.size + 4095) / 4096 * 4
  | .link _ => 0
  | .dir _ => 4

def links (l : Listed) : Nat :=
  match l.node with
  | .dir entries => 2 + (entries.filter fun e => e.2.kind = .dir).length
  | _ => 1

def mode (l : Listed) : Text :=
  match l.node with
  | .file _ executable => if executable then "-rwxr-xr-x" else "-rw-r--r--"
  | .link _ => "lrwxrwxrwx"
  | .dir _ => "drwxr-xr-x"

/-- The sign after a name that tells what it is. -/
def sign (o : Options) (l : Listed) : Text :=
  let all := o.has 'F'
  match l.node with
  | .dir _ => if all || o.has 'p' then ['/'] else []
  | .link _ => if all && !o.has 'l' then ['@'] else []
  | .file _ executable => if all && executable then ['*'] else []

end Listed

def padLeft (width : Nat) (t : Text) : Text := List.replicate (width - t.length) ' ' ++ t

def padRight (width : Nat) (t : Text) : Text := t ++ List.replicate (width - t.length) ' '

def widest (ts : List Text) : Nat := (ts.map List.length).foldl max 0

namespace Listing

def isLong (o : Options) : Bool := o.has 'l' || o.has 'n' || o.has 'g' || o.has 'o'

def sorted (o : Options) (ls : List Listed) : List Listed :=
  let byName := ls.mergeSort fun a b => Text.le a.name b.name
  let ending (t : Text) : Text :=
    if t.contains '.' then '.' :: (t.reverse.takeWhile (· ≠ '.')).reverse else []
  let inOrder :=
    if o.has 'S' then byName.mergeSort fun a b => a.size ≥ b.size
    else if o.has 'X' then byName.mergeSort fun a b => Text.le (ending a.name) (ending b.name)
    else byName
  if o.has 'r' then inOrder.reverse else inOrder

def entries (o : Options) (ls : List Listed) : Text :=
  let shown (l : Listed) : Text :=
    let name := if o.has 'Q' then '"' :: l.name ++ ['"'] else l.name
    name ++ l.sign o
  if isLong o then
    let owner : Text := if o.has 'n' then "0" else "root"
    let linkWidth := widest (ls.map fun l => Text.ofNat l.links)
    let sizeWidth := widest (ls.map fun l => Text.ofNat l.size)
    ls.flatMap fun l =>
      l.mode ++ [' '] ++ padLeft linkWidth (Text.ofNat l.links) ++ [' '] ++
        (if o.has 'g' then [] else owner ++ [' ']) ++ (if o.has 'o' then [] else owner ++ [' ']) ++
        padLeft sizeWidth (Text.ofNat l.size) ++ (" Jan  1 00:00 " : Text) ++ shown l ++
        (match l.node with
          | .link target => (" -> " : Text) ++ octets target
          | _ => []) ++ ['\n']
  else if o.has 'm' then
    if ls.isEmpty then [] else Text.joined [',', ' '] (ls.map shown) ++ ['\n']
  else
    let width := widest (ls.map fun l => Text.ofNat l.blocks)
    ls.flatMap fun l =>
      (if o.has 's' then padLeft width (Text.ofNat l.blocks) ++ [' '] else []) ++ shown l ++ ['\n']

def isShown (o : Options) (n : Text) : Bool :=
  o.has 'a' || o.has 'A' || n.head? ≠ some '.'

def content (o : Options) (here : Node) (es : List (Text × Node)) : List Listed :=
  let own : List Listed := if o.has 'a' then [⟨['.'], here⟩, ⟨['.', '.'], here⟩] else []
  sorted o (own ++ (es.map fun e => Listed.mk (octets e.1) e.2).filter fun l => isShown o l.name)

def block (o : Options) (here : Node) (es : List (Text × Node)) : Text :=
  let ls := content o here es
  let total := (ls.map Listed.blocks).foldl (· + ·) 0
  (if isLong o || o.has 's' then ("total " : Text) ++ Text.ofNat total ++ ['\n'] else []) ++
    entries o ls

/-- The directories below one, each before those in it. -/
def below (o : Options) : (fuel : Nat) → (p : Path) → Node → List (Path × Node)
  | 0, _, _ => []
  | fuel + 1, p, .dir es =>
    (p, .dir es) :: (content o (.dir es) es).flatMap fun l =>
      if l.node.kind = .dir && !Path.isIdle l.name && l.name ≠ ['.', '.'] then
        below o fuel (Path.join p l.name) l.node
      else []
  | _ + 1, _, _ => []

end Listing

def listFiles (st : State) (arguments : List Text) : State :=
  withOptions "ls" 2 "aAlndRrpFtSsighoQCxm1UfbqkXHLcuvGNBZDTw:I:?"
    [("all", 'a'), ("almost-all", 'A'), ("directory", 'd'), ("recursive", 'R'), ("reverse", 'r'),
      ("classify", 'F'), ("size", 's'), ("human-readable", 'h'), ("quote-name", 'Q'),
      ("numeric-uid-gid", 'n'), ("no-group", 'G')]
    (arguments.filter fun t => (Text.after? "--color" t).isNone) st fun o st =>
    let operands := if o.operands.isEmpty then [['.']] else o.operands
    let follows := !Listing.isLong o && !o.has 'F' && !o.has 'd'
    let node? (p : Path) : Option Node :=
      match (if follows || p.getLast? = some '/' then st.nodeAt p else st.selfAt p) with
      | .ok (_, n) => some n
      | .error _ => (st.selfAt p).toOption.map (·.2)
    let missing := operands.filter fun p => (node? p).isNone
    let found := Listing.sorted o (operands.filterMap fun p => (node? p).map (Listed.mk p ·))
    let isDirectory (l : Listed) : Bool := l.node.kind = .dir && !o.has 'd'
    let st := missing.foldl (fun st p =>
      st.complain (("ls: cannot access " : Text) ++ quotedName p ++ (": " : Text) ++
        match st.find p with
        | .error e => reason e
        | .ok _ => reason .noSuchFile)) st
    let files := found.filter fun l => !isDirectory l
    let directories := (found.filter isDirectory).flatMap fun l =>
      if o.has 'R' then Listing.below o 100 l.name l.node else [(l.name, l.node)]
    let isAlone := operands.length = 1 && !o.has 'R'
    let blocks :=
      (if files.isEmpty then [] else [Listing.entries o files]) ++
        directories.map fun (p, n) =>
          let es := match n with
            | .dir es => es
            | _ => []
          (if isAlone then [] else p ++ (":\n" : Text)) ++ Listing.block o n es
    (st.print (Text.joined ['\n'] blocks)).withStatus (if missing.isEmpty then 0 else 2)

/-- Prints what a format asks for of each file. -/
def printStatus (st : State) (arguments : List Text) : State :=
  withOptions "stat" 1 "c:Lft" [("format", 'c'), ("dereference", 'L')] arguments st fun o st =>
    let rec fill (p : Path) (l : Listed) : Text → Text
      | '%' :: c :: rest =>
        (match c with
          | 's' => Text.ofNat l.size
          | 'n' => p
          | 'N' => quotedName p ++ (match l.node with
              | .link target => (" -> " : Text) ++ quotedName (octets target)
              | _ => [])
          | 'F' => match l.node with
              | .file content _ => if content.size = 0 then "regular empty file" else "regular file"
              | .link _ => "symbolic link"
              | .dir _ => "directory"
          | 'a' => match l.node with
              | .file _ executable => if executable then "755" else "644"
              | .link _ => "777"
              | .dir _ => "755"
          | 'A' => l.mode
          | 'h' => Text.ofNat l.links
          | 'U' | 'G' => "root"
          | 'u' | 'g' => "0"
          | '%' => ['%']
          | _ => ['?']) ++ fill p l rest
      | c :: rest => c :: fill p l rest
      | [] => []
    if o.operands.isEmpty then missingOperand st "stat" "missing operand"
    else eachOperand (fun st p =>
      match (if o.has 'L' then st.nodeAt p else st.selfAt p) with
      | .error e => cannot st "stat" "cannot statx" p (reason e)
      | .ok (_, n) => st.printLine (fill p ⟨p, n⟩ ((o.value? 'c').getD "%n"))) st o.operands

end Shell

end BuildManifest
