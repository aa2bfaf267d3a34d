import BuildManifest.Shell.Tree
import BuildManifest.Table

/-!
How scripts are read. The reader goes over the text once, from words to lists of
commands; the words that open and close the compound commands count as such only
where a command may begin. A document that a redirection announces is cut out of
the text as soon as it is announced. The fuel of the readers bounds how often
they call each other; `fuelFor` gives enough for a text.
-/

namespace BuildManifest

namespace Shell

def backquote : Char := Char.ofNat 96

/-- The characters that end a word. -/
def isMeta (c : Char) : Bool :=
  c = ' ' || c = '\t' || c = '\n' || c = ';' || c = '&' || c = '|' || c = '<' || c = '>' ||
    c = '(' || c = ')'

/-- The characters that need a look anywhere in a word. -/
def isSpecial (c : Char) : Bool :=
  isMeta c || c = '\\' || c = '$' || c = backquote || c = '"' || c = '\'' || c = '\x7d'

/-- Where pieces are read, which decides what ends them and what quotes do. -/
inductive Place where
  | word
  | quotes
  | braces (quoted : Bool)
  | document
  | sum (depth : Nat)
  deriving DecidableEq

def Place.isQuoted : Place → Bool
  | .word => false
  | .braces quoted => quoted
  | .quotes | .document | .sum _ => true

/-- Whether pieces may end with the text. -/
def Place.endsWithText : Place → Bool
  | .word | .document => true
  | .quotes | .braces _ | .sum _ => false

/-- What is left of the text if a character ends the pieces. -/
def Place.endsAt (p : Place) (c : Char) (rest : Text) : Option Text :=
  match p with
  | .word => if isMeta c then some (c :: rest) else none
  | .quotes => if c = '"' then some rest else none
  | .braces _ => if c = '\x7d' then some rest else none
  | .document => none
  | .sum depth => if depth = 0 && c = ')' && rest.head? = some ')' then some rest.tail else none

/-- The place after a character that opens or closes a bracket of a sum. -/
def Place.after (p : Place) (c : Char) : Place :=
  match p with
  | .sum depth =>
    if c = '(' then .sum (depth + 1) else if c = ')' then .sum (depth - 1) else .sum depth
  | p => p

/-- Whether a backslash before a character quotes it. -/
def Place.escapes (p : Place) (c : Char) : Bool :=
  match p with
  | .word | .braces false => true
  | .quotes => c = '$' || c = backquote || c = '\\' || c = '"'
  | .braces true => c = '$' || c = backquote || c = '\\' || c = '"' || c = '\x7d'
  | .document | .sum _ => c = '$' || c = backquote || c = '\\'

def skipBlanks : Text → Text
  | ' ' :: t => skipBlanks t
  | '\t' :: t => skipBlanks t
  | '\\' :: '\n' :: t => skipBlanks t
  | t => t

/-- Goes to the next token, past a comment. -/
def skipComment (t : Text) : Text :=
  match skipBlanks t with
  | '#' :: rest => rest.dropWhile (· ≠ '\n')
  | t => t

/-- Goes to the next token, past comments and line ends, of which there are at
most so many. -/
def skipLines : (fuel : Nat) → Text → Text
  | 0, t => t
  | fuel + 1, t =>
    match skipComment t with
    | '\n' :: rest => skipLines fuel rest
    | t => t

def toCommand (t : Text) : Text := skipLines (t.length + 1) t

def plainWord? (t : Text) : Option (Text × Text) :=
  let word := t.takeWhile fun c => !isSpecial c || c = '\x7d'
  let rest := t.drop word.length
  if !word.isEmpty && rest.head?.all isMeta then some (word, rest) else none

/-- What follows a keyword, if the text begins with it. -/
def keyword? (word : Text) (t : Text) : Option Text :=
  match plainWord? t with
  | some (w, rest) => if w = word then some rest else none
  | none => none

/-- What follows a keyword after line ends. -/
def expect? (word : Text) (t : Text) : Option Text := keyword? word (toCommand t)

def closers : List Text :=
  ["then", "else", "elif", "fi", "do", "done", "esac", "\x7d"]

def endsList (t : Text) : Bool :=
  match t with
  | [] => true
  | ')' :: _ => true
  | ';' :: ';' :: _ => true
  | t => (plainWord? t).any fun w => closers.contains w.1

/-- The rest of the line, up to a line end outside quotes, and what follows. -/
def cutLine : (quote : Option Char) → Text → Text × Option Text
  | _, [] => ([], none)
  | quote, '\\' :: c :: t =>
    if quote = some '\'' then
      let (line, rest) := cutLine (if c = '\'' then none else quote) t
      ('\\' :: c :: line, rest)
    else
      let (line, rest) := cutLine quote t
      ('\\' :: c :: line, rest)
  | quote, c :: t =>
    if c = '\n' && quote.isNone then ([], some t)
    else
      let quote := match quote with
        | some q => if c = q then none else some q
        | none => if c = '\'' || c = '"' then some c else none
      let (line, rest) := cutLine quote t
      (c :: line, rest)

/-- The lines of a document up to the one that is its mark, and those after it. -/
def documentLines (stripTabs : Bool) (mark : Text) : List Text → List Text × List Text
  | [] => ([], [])
  | l :: rest =>
    let l := if stripTabs then l.dropWhile (· = '\t') else l
    if l = mark then ([], rest)
    else
      let (body, after) := documentLines stripTabs mark rest
      (l :: body, after)

/-- Cuts a document that begins after the current line out of the text. -/
def cutDocument (stripTabs : Bool) (mark : Text) (t : Text) : Text × Text :=
  match cutLine none t with
  | (line, none) => ([], line)
  | (line, some rest) =>
    let lines := Text.pieces '\n' rest
    let (body, after) := documentLines stripTabs mark lines
    let body := if after.isEmpty && body.getLast? = some [] then body.dropLast else body
    (body.flatMap (· ++ ['\n']), line ++ '\n' :: Text.joined ['\n'] after)

/-- The script between backquotes, in which a backslash quotes only a few
characters. -/
def backquoted? (quoted : Bool) : Text → Option (Text × Text)
  | [] => none
  | '\\' :: c :: rest =>
    (backquoted? quoted rest).map fun (inside, after) =>
      (if c = backquote || c = '$' || c = '\\' || (quoted && c = '"') then c :: inside
        else '\\' :: c :: inside, after)
  | c :: rest =>
    if c = backquote then some ([], rest)
    else (backquoted? quoted rest).map fun (inside, after) => (c :: inside, after)

def parameterName? (t : Text) : Option (Text × Text) :=
  match t with
  | [] => none
  | c :: rest =>
    if isNameStart c then some (t.takeWhile isNameCharacter, t.dropWhile isNameCharacter)
    else if c.isDigit then some (t.takeWhile Char.isDigit, t.dropWhile Char.isDigit)
    else if ("@*#?-$!" : Text).contains c then some ([c], rest)
    else none

/-- The change that a parameter in braces is to undergo, and the text of its
operand. -/
def change? (t : Text) : Option (Change × Text) :=
  match t with
  | ':' :: '-' :: rest => some (.default true, rest)
  | ':' :: '=' :: rest => some (.assign true, rest)
  | ':' :: '?' :: rest => some (.demand true, rest)
  | ':' :: '+' :: rest => some (.replace true, rest)
  | '-' :: rest => some (.default false, rest)
  | '=' :: rest => some (.assign false, rest)
  | '?' :: rest => some (.demand false, rest)
  | '+' :: rest => some (.replace false, rest)
  | '%' :: '%' :: rest => some (.trim true true, rest)
  | '%' :: rest => some (.trim true false, rest)
  | '#' :: '#' :: rest => some (.trim false true, rest)
  | '#' :: rest => some (.trim false false, rest)
  | _ => none

/-- The parameter whose length is asked for, up to the closing brace. -/
def lengthName? (t : Text) : Option (Text × Text) :=
  match t with
  | '#' :: rest =>
    match parameterName? rest with
    | some (name, '\x7d' :: rest) => some (name, rest)
    | _ => none
  | _ => none

def assignment? (w : Word) : Option (Text × Word) :=
  match w with
  | .text t false :: rest =>
    let name := t.takeWhile (· ≠ '=')
    match t.drop name.length with
    | '=' :: value =>
      if isName name then
        some (name, if value.isEmpty then rest else .text value false :: rest)
      else none
    | _ => none
  | _ => none

/-- The signs of redirections, the longer ones first, with the stream that each
of them is about if no other is named. -/
def redirectionSigns : List (Text × Opening × Nat) :=
  [(">>", .append, 1), (">&", .duplicate, 1), (">|", .clobber, 1), (">", .write, 1),
    ("<&", .duplicate, 0), ("<>", .readWrite, 0), ("<", .read, 0)]

/-- Where a command begins with a redirection: the stream, if it is named, and
the text from the sign on. -/
def redirectionStart? (t : Text) : Option (Option Nat × Text) :=
  match t with
  | c :: d :: rest =>
    if c = '<' || c = '>' then some (none, t)
    else if c.isDigit && (d = '<' || d = '>') then some (some (c.toNat - '0'.toNat), d :: rest)
    else none
  | [c] => if c = '<' || c = '>' then some (none, t) else none
  | [] => none

mutual

/-- Reads pieces up to their end. -/
def readPieces (aliases : Table) : (fuel : Nat) → Place → Text → Option (Word × Text)
  | 0, _, _ => none
  | _ + 1, place, [] => if place.endsWithText then some ([], []) else none
  | fuel + 1, place, c :: rest =>
    let quoted := place.isQuoted
    let onward (p : Piece) (rest : Text) : Option (Word × Text) :=
      (readPieces aliases fuel (place.after c) rest).map fun (w, after) => (p :: w, after)
    if let some after := place.endsAt c rest then some ([], after)
    else if !isSpecial c then
      let run := (c :: rest).takeWhile fun c => !isSpecial c
      onward (.text run quoted) ((c :: rest).drop run.length)
    else if c = '\\' then
      match rest with
      | [] => some ([.text ['\\'] quoted], [])
      | '\n' :: rest => readPieces aliases fuel place rest
      | d :: rest =>
        if place.escapes d then onward (.text [d] true) rest
        else onward (.text ['\\'] quoted) (d :: rest)
    else if c = '$' then
      match readDollar aliases fuel quoted rest with
      | none => none
      | some (p, rest) => onward p rest
    else if c = backquote then
      match backquoted? quoted rest with
      | none => none
      | some (script, rest) =>
        match readScript aliases fuel script with
        | none => none
        | some command => onward (.output command quoted) rest
    else if c = '\'' && !quoted then
      if rest.contains '\'' then
        onward (.text (rest.takeWhile (· ≠ '\'')) true) (rest.dropWhile (· ≠ '\'')).tail
      else none
    else if c = '"' && (place = .word || place = .braces false || place = .braces true) then
      match readPieces aliases fuel .quotes rest with
      | none => none
      | some (inside, rest) =>
        (readPieces aliases fuel place rest).map fun (w, after) =>
          (.text [] true :: inside ++ w, after)
    else if c = '"' && place ≠ .document then readPieces aliases fuel place rest
    else onward (.text [c] quoted) rest

def readDollar (aliases : Table) : (fuel : Nat) → (quoted : Bool) → Text → Option (Piece × Text)
  | 0, _, _ => none
  | fuel + 1, quoted, t =>
    match t with
    | '(' :: '(' :: rest =>
      (readPieces aliases fuel (.sum 0) rest).map fun (w, after) => (.sum w quoted, after)
    | '(' :: rest =>
      match readList aliases fuel rest with
      | some (c, ')' :: after) => some (.output c quoted, after)
      | _ => none
    | '\x7b' :: rest =>
      match lengthName? rest, parameterName? rest with
      | some (name, after), _ => some (.parameter name .length [] quoted, after)
      | none, none =>
        (readPieces aliases fuel (.braces quoted) rest).map fun (w, after) =>
          (.parameter [] .unknown w quoted, after)
      | none, some (name, '\x7d' :: after) => some (.parameter name .nothing [] quoted, after)
      | none, some (name, rest) =>
        match change? rest with
        | none =>
          (readPieces aliases fuel (.braces quoted) rest).map fun (w, after) =>
            (.parameter name .unknown w quoted, after)
        | some (change, rest) =>
          let isTrim := match change with
            | .trim _ _ => true
            | _ => false
          (readPieces aliases fuel (.braces (quoted && !isTrim)) rest).map fun (w, after) =>
            (.parameter name change w quoted, after)
    | c :: rest =>
      if c.isDigit then some (.parameter [c] .nothing [] quoted, rest)
      else
        match parameterName? t with
        | some (name, after) => some (.parameter name .nothing [] quoted, after)
        | none => some (.text ['$'] quoted, t)
    | [] => some (.text ['$'] quoted, [])

def readScript (aliases : Table) : (fuel : Nat) → Text → Option Command
  | 0, _ => none
  | fuel + 1, t =>
    match readList aliases fuel t with
    | some (c, []) => some c
    | _ => none

/-- Reads commands up to the end of the text or a word that closes the list. -/
def readList (aliases : Table) : (fuel : Nat) → Text → Option (Command × Text)
  | 0, _ => none
  | fuel + 1, t =>
    let t := toCommand t
    if endsList t then some (.nothing, t)
    else
      match readAndOr aliases fuel t with
      | none => none
      | some (c, t) =>
        match skipComment t with
        | ';' :: ';' :: rest => some (c, ';' :: ';' :: rest)
        | ';' :: rest | '\n' :: rest =>
          (readList aliases fuel rest).map fun (d, after) => (.inOrder c d, after)
        | '&' :: rest =>
          (readList aliases fuel rest).map fun (d, after) => (.inOrder (.background c) d, after)
        | t => if endsList t then some (c, t) else none

/-- Reads a list of at least one command. -/
def readFilled (aliases : Table) : (fuel : Nat) → Text → Option (Command × Text)
  | 0, _ => none
  | fuel + 1, t => if endsList (toCommand t) then none else readList aliases fuel t

/-- Reads commands up to the end of a line that is also the end of a command. -/
def readLine (aliases : Table) : (fuel : Nat) → Text → Option (Command × Text)
  | 0, _ => none
  | fuel + 1, t =>
    match readAndOr aliases fuel t with
    | none => none
    | some (c, t) =>
      let next (c : Command) (t : Text) : Option (Command × Text) :=
        match skipComment t with
        | [] => some (c, [])
        | '\n' :: rest => some (c, rest)
        | t => (readLine aliases fuel t).map fun (d, after) => (.inOrder c d, after)
      match skipComment t with
      | [] => some (c, [])
      | '\n' :: rest => some (c, rest)
      | ';' :: rest => next c rest
      | '&' :: rest => next (.background c) rest
      | _ => none

def readAndOr (aliases : Table) : (fuel : Nat) → Text → Option (Command × Text)
  | 0, _ => none
  | fuel + 1, t =>
    match readPipeline aliases fuel t with
    | none => none
    | some (c, t) => readMore aliases fuel c t

/-- Reads what is joined to a command by `&&` and `||`, from the left. -/
def readMore (aliases : Table) : (fuel : Nat) → Command → Text → Option (Command × Text)
  | 0, _, _ => none
  | fuel + 1, c, t =>
    match skipComment t with
    | '&' :: '&' :: rest =>
      match readPipeline aliases fuel (toCommand rest) with
      | none => none
      | some (d, t) => readMore aliases fuel (.both c d) t
    | '|' :: '|' :: rest =>
      match readPipeline aliases fuel (toCommand rest) with
      | none => none
      | some (d, t) => readMore aliases fuel (.either c d) t
    | t => some (c, t)

def readPipeline (aliases : Table) : (fuel : Nat) → Text → Option (Command × Text)
  | 0, _ => none
  | fuel + 1, t =>
    match keyword? "!" t with
    | some rest =>
      (readPipe aliases fuel (skipBlanks rest)).map fun (c, after) => (.negated c, after)
    | none => readPipe aliases fuel t

/-- Reads commands each of which reads what the one before it prints. -/
def readPipe (aliases : Table) : (fuel : Nat) → Text → Option (Command × Text)
  | 0, _ => none
  | fuel + 1, t =>
    match readCommand aliases fuel t with
    | none => none
    | some (c, t) =>
      match skipComment t with
      | '|' :: '|' :: rest => some (c, '|' :: '|' :: rest)
      | '|' :: rest =>
        (readPipe aliases fuel (toCommand rest)).map fun (d, after) => (.pipe c d, after)
      | t => some (c, t)

def readCommand (aliases : Table) : (fuel : Nat) → Text → Option (Command × Text)
  | 0, _ => none
  | fuel + 1, t =>
    match t with
    | '(' :: rest =>
      match readFilled aliases fuel rest with
      | some (c, ')' :: after) => readTargets aliases fuel (.subshell c) after
      | _ => none
    | t =>
      match plainWord? t with
      | none => readSimple aliases fuel [] [] [] [] t
      | some (word, rest) =>
        match String.ofList word with
        | "\x7b" => do
          let (c, after) ← readFilled aliases fuel rest
          readTargets aliases fuel c (← expect? "\x7d" after)
        | "if" => do
          let (c, after) ← readChoice aliases fuel rest
          readTargets aliases fuel c after
        | "while" => readLoop aliases fuel true rest
        | "until" => readLoop aliases fuel false rest
        | "for" => readEach aliases fuel (skipBlanks rest)
        | "case" => do
          let (subject, rest) ← readPieces aliases fuel .word (skipBlanks rest)
          let (branches, after) ← readBranches aliases fuel (← expect? "in" rest)
          if subject.isEmpty then none
          else readTargets aliases fuel (.select subject branches) after
        | _ => if closers.contains word then none else readSimple aliases fuel [] [] [] [] t

/-- Reads the redirections that follow a compound command. -/
def readTargets (aliases : Table) : (fuel : Nat) → Command → Text → Option (Command × Text)
  | 0, _, _ => none
  | fuel + 1, c, t =>
    match redirectionStart? (skipBlanks t) with
    | none => some (c, skipBlanks t)
    | some (stream, t) =>
      match readRedirection aliases fuel stream t with
      | none => none
      | some (r, t) =>
        let c := match c with
          | .redirected c rs => .redirected c (rs ++ [r])
          | c => .redirected c [r]
        readTargets aliases fuel c t

def readRedirection (aliases : Table) : (fuel : Nat) → (stream : Option Nat) → Text →
    Option (Redirection × Text)
  | 0, _, _ => none
  | fuel + 1, stream, t =>
    match Text.after? "<<" t with
    | some rest =>
      let stripTabs := rest.head? = some '-'
      let rest := if stripTabs then rest.tail else rest
      match readPieces aliases fuel .word (skipBlanks rest) with
      | none => none
      | some (w, rest) =>
        match w, spelled? w with
        | [], _ => none
        | _, none => none
        | _, some mark =>
          let (body, rest) := cutDocument stripTabs mark rest
          if hasQuotes w then
            some (.mk (stream.getD 0) .document [.text body true], rest)
          else
            (readPieces aliases fuel .document body).map fun (w, _) =>
              (.mk (stream.getD 0) .document w, rest)
    | none =>
      match redirectionSigns.findSome? fun s => (Text.after? s.1 t).map (s.2, ·) with
      | none => none
      | some ((opening, usual), rest) =>
        match readPieces aliases fuel .word (skipBlanks rest) with
        | none => none
        | some ([], _) => none
        | some (w, rest) => some (.mk (stream.getD usual) opening w, rest)

/-- Reads a simple command. The names in `replaced` are those of aliases that
have been put in place of its first word. -/
def readSimple (aliases : Table) : (fuel : Nat) → (replaced : List Text) →
    List (Text × Word) → List Word → List Redirection → Text → Option (Command × Text)
  | 0, _, _, _, _, _ => none
  | fuel + 1, replaced, as, ws, rs, t =>
    let t := skipBlanks t
    let finish : Option (Command × Text) :=
      if as.isEmpty && ws.isEmpty && rs.isEmpty then none else some (.simple as ws rs, t)
    match redirectionStart? t with
    | some (stream, t) =>
      match readRedirection aliases fuel stream t with
      | none => none
      | some (r, t) => readSimple aliases fuel replaced as ws (rs ++ [r]) t
    | none =>
      match t with
      | [] | '#' :: _ => finish
      | '(' :: rest =>
        match ws, skipBlanks rest with
        | [[.text name false]], ')' :: rest =>
          if as.isEmpty && rs.isEmpty && isName name then
            (readCommand aliases fuel (toCommand rest)).map fun (c, after) =>
              (.define name c, after)
          else none
        | _, _ => none
      | c :: _ =>
        if isMeta c then finish
        else
          match (if ws.isEmpty then plainWord? t else none).bind fun (w, rest) =>
              if replaced.contains w then none
              else (aliases.get? w).map fun value => (w, value ++ rest) with
          | some (w, t) => readSimple aliases fuel (w :: replaced) as ws rs t
          | none =>
            match readPieces aliases fuel .word t with
            | none => none
            | some (w, rest) =>
              match ws.isEmpty, assignment? w with
              | true, some a => readSimple aliases fuel replaced (as ++ [a]) ws rs rest
              | _, _ => readSimple aliases fuel replaced as (ws ++ [w]) rs rest

def readChoice (aliases : Table) : (fuel : Nat) → Text → Option (Command × Text)
  | 0, _ => none
  | fuel + 1, t => do
    let (condition, after) ← readFilled aliases fuel t
    let (body, after) ← readFilled aliases fuel (← expect? "then" after)
    match expect? "elif" after, expect? "else" after with
    | some after, _ =>
      let (otherwise, after) ← readChoice aliases fuel after
      some (.choice condition body otherwise, after)
    | none, some after =>
      let (otherwise, after) ← readFilled aliases fuel after
      some (.choice condition body otherwise, ← expect? "fi" after)
    | none, none => some (.choice condition body .nothing, ← expect? "fi" after)

def readLoop (aliases : Table) : (fuel : Nat) → (onSuccess : Bool) → Text →
    Option (Command × Text)
  | 0, _, _ => none
  | fuel + 1, onSuccess, t => do
    let (condition, after) ← readFilled aliases fuel t
    let (body, after) ← readFilled aliases fuel (← expect? "do" after)
    readTargets aliases fuel (.loop onSuccess condition body) (← expect? "done" after)

def readEach (aliases : Table) : (fuel : Nat) → Text → Option (Command × Text)
  | 0, _ => none
  | fuel + 1, t => do
    let (name, rest) ← plainWord? t
    if !isName name then none
    let (words, after) ← match expect? "in" rest with
      | some rest => (readWords aliases fuel rest).map fun (ws, after) => (some ws, after)
      | none =>
        match skipBlanks rest with
        | ';' :: rest => some (none, rest)
        | rest => some (none, rest)
    let (body, after) ← readFilled aliases fuel (← expect? "do" after)
    readTargets aliases fuel (.each name words body) (← expect? "done" after)

def readWords (aliases : Table) : (fuel : Nat) → Text → Option (List Word × Text)
  | 0, _ => none
  | fuel + 1, t =>
    match skipComment t with
    | [] => none
    | c :: rest =>
      if c = ';' || c = '\n' then some ([], rest)
      else if isMeta c then none
      else
        match readPieces aliases fuel .word (c :: rest) with
        | none => none
        | some (w, rest) =>
          (readWords aliases fuel rest).map fun (ws, after) => (w :: ws, after)

def readBranches (aliases : Table) : (fuel : Nat) → Text →
    Option (List (List Word × Command) × Text)
  | 0, _ => none
  | fuel + 1, t =>
    match expect? "esac" t with
    | some after => some ([], after)
    | none => do
      let t := toCommand t
      let (alternatives, after) ← readAlternatives aliases fuel
        (if t.head? = some '(' then t.tail else t)
      let (body, after) ← readList aliases fuel after
      let rest ← match toCommand after with
        | ';' :: ';' :: rest => some rest
        | rest => if (keyword? "esac" rest).isSome then some rest else none
      let (branches, after) ← readBranches aliases fuel rest
      some ((alternatives, body) :: branches, after)

def readAlternatives (aliases : Table) : (fuel : Nat) → Text → Option (List Word × Text)
  | 0, _ => none
  | fuel + 1, t =>
    match readPieces aliases fuel .word (skipBlanks t) with
    | none => none
    | some ([], _) => none
    | some (w, rest) =>
      match skipBlanks rest with
      | ')' :: rest => some ([w], rest)
      | '|' :: rest =>
        (readAlternatives aliases fuel rest).map fun (ws, after) => (w :: ws, after)
      | _ => none

end

def fuelFor (t : Text) : Nat := 12 * t.length + 64

/-- Reads the next line of a script, if there is one; `none` within means that it
is not well-formed. -/
def nextLine (aliases : Table) (t : Text) : Option (Option (Command × Text)) :=
  let t := toCommand t
  if t.isEmpty then none else some (readLine aliases (fuelFor t) t)

end Shell

end BuildManifest
