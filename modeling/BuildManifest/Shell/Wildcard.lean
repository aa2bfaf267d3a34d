import BuildManifest.Shell.State

/-!
Wildcards of the shell: which texts a pattern fits, and which files in the world
a word with wildcards names. A quoted character of a pattern stands for itself,
and so does one after a backslash that was filled in.
-/

namespace BuildManifest

namespace Shell

/-- A character and whether it was quoted. -/
abbrev Marked := List (Char × Bool)

def Marked.text (m : Marked) : Text := m.map (·.1)

def isWild (c : Char) : Bool := c = '*' || c = '?' || c = '['

def hasWildcard : Marked → Bool
  | [] => false
  | ('\\', false) :: _ :: rest => hasWildcard rest
  | (c, quoted) :: rest => (!quoted && isWild c) || hasWildcard rest

inductive Part where
  | one (accepts : Char → Bool)
  | run

/-- Reads the members of a class up to its bracket. The first may be a bracket
itself. -/
def readMembers : (fuel : Nat) → (first : Bool) → Marked → Option ((Char → Bool) × Marked)
  | 0, _, _ => none
  | _ + 1, _, [] => none
  | fuel + 1, first, (c, quoted) :: rest =>
    let joined (f : Char → Bool) (rest : Marked) : Option ((Char → Bool) × Marked) :=
      (readMembers fuel false rest).map fun (g, after) => (fun d => f d || g d, after)
    if c = ']' && !quoted && !first then some (fun _ => false, rest)
    else
      match c, rest with
      | '[', (':', _) :: more =>
        let name := Marked.text (more.takeWhile fun m => m.1 ≠ ':')
        match inClass? name, more.drop name.length with
        | some f, (':', _) :: (']', _) :: after => joined f after
        | _, _ => joined (· == c) rest
      | _, ('-', false) :: (d, isQuoted) :: after =>
        if d = ']' && !isQuoted then joined (· == c) rest
        else joined (fun e => c ≤ e && e ≤ d) after
      | '\\', (d, _) :: after => if quoted then joined (· == c) rest else joined (· == d) after
      | _, _ => joined (· == c) rest

def readClass? (m : Marked) : Option ((Char → Bool) × Marked) :=
  match m with
  | ('!', false) :: rest =>
    (readMembers (rest.length + 1) true rest).map fun (f, after) => (fun c => !f c, after)
  | rest => readMembers (rest.length + 1) true rest

/-- Reads a pattern. A class that is not closed stands for itself. -/
def partsOf : (fuel : Nat) → Marked → List Part
  | _, [] => []
  | 0, _ :: _ => []
  | fuel + 1, (c, quoted) :: rest =>
    if quoted then .one (· == c) :: partsOf fuel rest
    else if c = '*' then .run :: partsOf fuel rest
    else if c = '?' then .one (fun _ => true) :: partsOf fuel rest
    else if c = '[' then
      match readClass? rest with
      | some (f, rest) => .one f :: partsOf fuel rest
      | none => .one (· == c) :: partsOf fuel rest
    else
      match c, rest with
      | '\\', (d, _) :: rest => .one (· == d) :: partsOf fuel rest
      | _, _ => .one (· == c) :: partsOf fuel rest

/-- A text and everything that is left when it loses characters at its front. -/
def endings : Text → List Text
  | [] => [[]]
  | c :: t => (c :: t) :: endings t

def fitsParts : List Part → Text → Bool
  | [], t => t.isEmpty
  | .one accepts :: rest, c :: t => accepts c && fitsParts rest t
  | .one _ :: _, [] => false
  | [.run], _ => true
  | .run :: rest, t => (endings t).any (fitsParts rest)

def fits (m : Marked) (t : Text) : Bool := fitsParts (partsOf (m.length + 1) m) t

def markedParts : Marked → List Marked
  | [] => [[]]
  | (c, quoted) :: rest =>
    if c = '/' then [] :: markedParts rest
    else
      match markedParts rest with
      | [] => [[(c, quoted)]]
      | first :: others => ((c, quoted) :: first) :: others

/-- A part without the backslashes that quote. -/
def Marked.plain : Marked → Text
  | [] => []
  | ('\\', false) :: (c, _) :: rest => c :: Marked.plain rest
  | (c, _) :: rest => c :: Marked.plain rest

/-- The names in a directory that fit one part of a word. Names that begin with
a dot have to be asked for. -/
def namesFitting (st : State) (directory : Path) (part : Marked) : List Text :=
  match st.list (if directory.isEmpty then ['.'] else directory) with
  | .error _ => []
  | .ok entries =>
    let parts := partsOf (part.length + 1) part
    let asksForDot := part.plain.head? = some '.'
    (['.'] :: ['.', '.'] :: entries.map (·.1)).filter fun n =>
      (n.head? = some '.') = asksForDot && fitsParts parts n

/-- Goes on from paths by the parts of a word. -/
def filesBy (st : State) : (parts : List Marked) → List Path → List Path
  | [], paths => paths
  | [part], paths =>
    paths.flatMap fun p =>
      if hasWildcard part then (namesFitting st p part).map (p ++ ·) else [p ++ part.plain]
  | part :: rest, paths =>
    filesBy st rest <| paths.flatMap fun p =>
      if hasWildcard part then
        ((namesFitting st p part).filter fun n => st.isDirectory (p ++ n)).map fun n =>
          p ++ n ++ ['/']
      else [p ++ part.plain ++ ['/']]

/-- The texts a word stands for: the files its wildcards fit, or else itself. -/
def filesOf (st : State) (m : Marked) : List Text :=
  if st.options.contains 'f' || !hasWildcard m then [m.text]
  else
    let files := (filesBy st (markedParts m) [[]]).filter fun p =>
      match st.findSelf p with
      | .ok (.found _ _) => true
      | _ => false
    if files.isEmpty then [m.text] else files.mergeSort Text.le

end Shell

end BuildManifest
