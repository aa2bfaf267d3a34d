import BuildManifest.Text

/-!
Paths as texts, and their reading as a list of components. Empty pieces between
slashes and the piece `.` mean nothing, except that a relative path may begin
with `.`. `absolutize` runs the components of a path as a stack machine: a name
is pushed, `..` pops, and at the bottom `..` is lost.
-/

namespace BuildManifest

/-- A path as it is written. -/
abbrev Path := Text

namespace Path

inductive Component where
  | root
  | current
  | up
  | name (text : Text)
  deriving DecidableEq, Repr

def isAbsolute (p : Path) : Bool := p.head? = some '/'

/-- A piece between slashes that names nothing. -/
def isIdle (piece : Text) : Bool := piece = [] || piece = ['.']

def componentOf (piece : Text) : Component :=
  if piece = ['.', '.'] then .up else .name piece

def componentsOf (pieces : List Text) : List Component :=
  (pieces.filter fun piece => !isIdle piece).map componentOf

/-- How a path begins, `/` or a leading `.`, and the pieces of what follows. -/
def parts (p : Path) : Option Component × List Text :=
  match p with
  | '/' :: rest => (some .root, Text.pieces '/' rest)
  | _ =>
    match Text.pieces '/' p with
    | ['.'] :: rest => (some .current, rest)
    | all => (none, all)

def components (p : Path) : List Component :=
  p.parts.1.toList ++ componentsOf p.parts.2

def Component.text : Component → Text
  | .root => ['/']
  | .current => ['.']
  | .up => ['.', '.']
  | .name t => t

/-- The plain spelling of a list of components. -/
def ofComponents : List Component → Path
  | .root :: rest => '/' :: Text.joined ['/'] (rest.map Component.text)
  | all => Text.joined ['/'] (all.map Component.text)

/-- `p` below `base`; an absolute path stands for itself. -/
def join (base p : Path) : Path :=
  if isAbsolute p then p
  else if base = [] || base.getLast? = some '/' then base ++ p
  else base ++ '/' :: p

/-- One step of the stack machine; the top of the stack comes first. -/
def step (stack : List Text) : Component → List Text
  | .name t => t :: stack
  | .up => stack.tail
  | .root | .current => stack

/-- The names that are left once every `..` has removed the name before it. -/
def normalNames (p : Path) : List Text := (p.components.foldl step []).reverse

/-- The spelling without `.`, `..` and needless slashes. -/
def normalize (p : Path) : Path :=
  let names := Text.joined ['/'] p.normalNames
  if p.isAbsolute then '/' :: names else names

/-- Resolves `p` against `base` by the text alone; nothing has to exist. -/
def absolutize (base p : Path) : Path := normalize (join base p)

/-- The path without its last component; the root and the empty path have
none to lose. -/
def parent? (p : Path) : Option Path :=
  match p.components.getLast? with
  | none | some .root => none
  | some _ => some (ofComponents p.components.dropLast)

/-- The paths that the components, the last one first, spell when more and
more of them are dropped. The root is left out. -/
def spellings : List Component → List Path
  | [] | [.root] => []
  | c :: rest => ofComponents (c :: rest).reverse :: spellings rest

/-- The path, its parent and so on, as long as there is a component to lose. -/
def ancestors (p : Path) : List Path := spellings p.components.reverse

/-- Whether the components of `base` begin those of `p`. -/
def isUnder (base p : Path) : Bool := base.components.isPrefixOf p.components

def dropIdle (pieces : List Text) : List Text := pieces.dropWhile isIdle

def dropIdleEnd (pieces : List Text) : List Text := (dropIdle pieces.reverse).reverse

/-- Matches components against the pieces of a path and gives the pieces that
remain. -/
def afterPieces? : List Component → List Text → Option (List Text)
  | [], pieces => some pieces
  | _ :: _, [] => none
  | c :: cs, piece :: pieces =>
    if isIdle piece then afterPieces? (c :: cs) pieces
    else if componentOf piece = c then afterPieces? cs pieces
    else none

/-- A path as written, without idle pieces at its end. -/
def trimRight (p : Path) : Path :=
  match p.parts with
  | (some .root, body) => '/' :: Text.joined ['/'] (dropIdleEnd body)
  | (some lead, body) => Text.joined ['/'] (lead.text :: dropIdleEnd body)
  | (none, body) => Text.joined ['/'] (dropIdleEnd body)

/-- What is left of `p` as written once the components of `base` are taken from
its front. Idle pieces at either end go too, those in the middle stay. Taking
nothing leaves the front as it is. -/
def relativeTo? (base p : Path) : Option Path :=
  if base.components = [] then some p.trimRight
  else if base.parts.1 = p.parts.1 then
    (afterPieces? (componentsOf base.parts.2) p.parts.2).map fun pieces =>
      Text.joined ['/'] (dropIdleEnd (dropIdle pieces))
  else none

/-- Whether the path text ends in the component `..`. -/
def endsUp (p : Path) : Bool := (Text.pieces '/' p).getLast? = some ['.', '.']

end Path

end BuildManifest
