import BuildManifest.Variables

/-!
Expansion of `$name` references. A pass replaces every reference of every
variable, the longest names first, so that `$home` is not taken for the front of
`$homedir`. Passes go on until one changes nothing, up to a limit. Two names are
always known: `root`, and `builtins.random`, which stands for a new token in
every pass that finds it.
-/

namespace BuildManifest

/-- Sixteen letters and digits. -/
abbrev Token := { t : Text // t.length = 16 ∧ t.all Char.isAlphanum = true }

/-- The tokens that will be drawn, one after the other, and how many have been. -/
structure TokenSupply where
  token : Nat → Token
  drawn : Nat

namespace Token

/-- The letters and digits, in the order of their codes. -/
def symbol (i : Fin 62) : Char :=
  if i.val < 10 then Char.ofNat ('0'.toNat + i.val)
  else if i.val < 36 then Char.ofNat ('A'.toNat + (i.val - 10))
  else Char.ofNat ('a'.toNat + (i.val - 36))

theorem isAlphanum_symbol : ∀ i, (symbol i).isAlphanum = true := by decide

/-- The sixteen digits of a number to the base 62, last digit first. -/
def ofNat (n : Nat) : Token :=
  ⟨(List.range 16).map fun i => symbol ⟨n / Nat.pow 62 i % 62, Nat.mod_lt _ (by decide)⟩, by
    constructor
    · simp
    · simp [List.all_eq_true, isAlphanum_symbol]⟩

end Token

namespace TokenSupply

/-- How far apart the numbers of consecutive tokens are. It has no divisor in
common with 62, so that a token comes again only after all the others. -/
def stride : Nat := 31415926535897932384626433

def ofSeed (seed : Nat) : TokenSupply :=
  ⟨fun i => Token.ofNat ((seed + i + 1) * stride), 0⟩

def next (s : TokenSupply) : Token × TokenSupply :=
  (s.token s.drawn, { s with drawn := s.drawn + 1 })

end TokenSupply

/-- What references are resolved in, apart from the variables: the text that
`$root` stands for and the number of passes allowed. -/
structure Scope where
  root : Text
  passes : Nat
  deriving DecidableEq, Repr

def defaultPasses : Nat := 64

namespace Scope

/-- A scope that allows at least one pass. -/
def ofLimit (root : Text) (limit : Nat) : Scope := ⟨root, max limit 1⟩

end Scope

namespace Expansion

def rootName : Text := "root"

def randomName : Text := "builtins.random"

/-- Puts an entry before the first one whose name is not longer. -/
def place (e : Text × Text) : List (Text × Text) → List (Text × Text)
  | [] => [e]
  | f :: rest =>
    if f.1.byteLength ≤ e.1.byteLength then e :: f :: rest else f :: place e rest

/-- The entries by falling length of their names; equal lengths keep their
order. -/
def ranked : List (Text × Text) → List (Text × Text)
  | [] => []
  | e :: rest => place e (ranked rest)

/-- What the names stand for in one pass, in the order of the table, and then
the two names that are always known. -/
def meanings (v : Variables) (root : Text) (random : Option Text) : List (Text × Text) :=
  v.entries.filter (fun e => e.1 ≠ [] ∧ e.1 ≠ rootName ∧ e.1 ≠ randomName) ++
    (rootName, root) :: (random.map (randomName, ·)).toList

/-- One pass: a replacement of every name, one after the other. -/
def pass (v : Variables) (root : Text) (random : Option Text) (t : Text) : Text :=
  (ranked (meanings v root random)).foldl (fun t e => t.replace ('$' :: e.1) e.2) t

/-- Whether a pass over this text draws a token. -/
def draws (t : Text) : Bool := t.has ('$' :: randomName)

/-- A pass that draws a token only if it needs one. -/
def drawingPass (v : Variables) (root : Text) (s : TokenSupply) (t : Text) :
    Text × TokenSupply :=
  if draws t then (pass v root (some s.next.1.val) t, s.next.2) else (pass v root none t, s)

/-- Runs passes until one changes nothing. -/
def settle (v : Variables) (root : Text) : Nat → TokenSupply → Text → Option Text × TokenSupply
  | 0, s, _ => (none, s)
  | limit + 1, s, t =>
    let (t', s') := drawingPass v root s t
    if t' = t then (some t, s') else settle v root limit s' t'

/-- The text with all references resolved. A text that has not settled within
the allowed passes is a failure. -/
def expand (scope : Scope) (v : Variables) (s : TokenSupply) (template : Text) :
    Except Failure Text × TokenSupply :=
  match settle v scope.root scope.passes s template with
  | (some t, s') => (.ok t, s')
  | (none, s') => (.error (.expansion template scope.passes), s')

/-- Expands texts in order, up to the first failure. -/
def expandAll (scope : Scope) (v : Variables) (s : TokenSupply) :
    List Text → Except Failure (List Text) × TokenSupply
  | [] => (.ok [], s)
  | t :: rest =>
    match expand scope v s t with
    | (.error e, s) => (.error e, s)
    | (.ok t, s) =>
      match expandAll scope v s rest with
      | (.error e, s) => (.error e, s)
      | (.ok ts, s) => (.ok (t :: ts), s)

end Expansion

end BuildManifest
