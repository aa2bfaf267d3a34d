import BuildManifest.Shell.State

/-!
Options of commands: letters after a dash, several of them together if need be,
and names after two dashes, of which the beginning is enough. What follows a
lone double dash is no option.
-/

namespace BuildManifest

namespace Shell

/-- The options that were given, with their values, and the other arguments. -/
structure Options where
  given : List (Char × Text)
  operands : List Text

namespace Options

def has (o : Options) (c : Char) : Bool := o.given.any fun g => g.1 = c

def value? (o : Options) (c : Char) : Option Text :=
  (o.given.reverse.find? fun g => g.1 = c).map (·.2)

def values (o : Options) (c : Char) : List Text :=
  (o.given.filter fun g => g.1 = c).map (·.2)

/-- The option given last among some. -/
def lastOf? (o : Options) (cs : Text) : Option Char :=
  (o.given.reverse.find? fun g => cs.contains g.1).map (·.1)

def add (o : Options) (c : Char) (value : Text) : Options :=
  { o with given := (c, value) :: o.given }

/-- What a command accepts: its letters, each followed by a colon if it takes a
value and by a question mark if a value may be joined to it, and its names with
the letters they stand for. -/
structure Grammar where
  letters : Text
  names : List (String × Char)
  /-- Whether options may stand behind other arguments. -/
  anywhere : Bool

namespace Grammar

/-- The sign after a letter, a blank if there is none. -/
def sign? (g : Grammar) (c : Char) : Option Char :=
  match g.letters.dropWhile (· ≠ c) with
  | [] => none
  | _ :: ':' :: _ => some ':'
  | _ :: '?' :: _ => some '?'
  | _ => some ' '

/-- The letters that a name, or the beginning of one, stands for. -/
def letter? (g : Grammar) (name : Text) : Option Char :=
  match g.names.find? fun n => n.1.toList = name with
  | some (_, c) => some c
  | none =>
    match g.names.filter fun n => name.isPrefixOf n.1.toList with
    | [(_, c)] => some c
    | (_, c) :: rest => if rest.all fun n => n.2 = c then some c else none
    | [] => none

def readLetters (g : Grammar) : Text → List Text → Options → Except Text (Options × List Text)
  | [], rest, o => .ok (o, rest)
  | c :: more, rest, o =>
    match (if c = ':' || c = '?' then none else g.sign? c) with
    | none => .error (("invalid option -- '" : Text) ++ [c, '\''])
    | some ':' =>
      match more, rest with
      | [], [] => .error (("option requires an argument -- '" : Text) ++ [c, '\''])
      | [], value :: rest => .ok (o.add c value, rest)
      | value, rest => .ok (o.add c value, rest)
    | some '?' => .ok (o.add c more, rest)
    | some _ => readLetters g more rest (o.add c [])

def readName (g : Grammar) (t : Text) (rest : List Text) (o : Options) :
    Except Text (Options × List Text) :=
  let name := t.takeWhile (· ≠ '=')
  let value? : Option Text := if t.contains '=' then some (t.drop (name.length + 1)) else none
  let shown (t : Text) : Text := ("'--" : Text) ++ t ++ ['\'']
  match g.letter? name with
  | none => .error (("unrecognized option " : Text) ++ shown t)
  | some c =>
    match g.sign? c, value?, rest with
    | some ':', some value, _ => .ok (o.add c value, rest)
    | some ':', none, value :: rest => .ok (o.add c value, rest)
    | some ':', none, [] => .error (("option " : Text) ++ shown name ++
        (" requires an argument" : Text))
    | some '?', value, _ => .ok (o.add c (value.getD []), rest)
    | _, some _, _ => .error (("option " : Text) ++ shown name ++
        (" doesn't allow an argument" : Text))
    | _, none, _ => .ok (o.add c [], rest)

def readAll (g : Grammar) : (fuel : Nat) → List Text → Options → Except Text Options
  | 0, _, o => .ok o
  | fuel + 1, arguments, o =>
    match arguments with
    | [] => .ok o
    | ['-', '-'] :: rest => .ok { o with operands := rest.reverse ++ o.operands }
    | ('-' :: '-' :: name) :: rest => do
      let (o, rest) ← g.readName name rest o
      readAll g fuel rest o
    | ('-' :: c :: more) :: rest => do
      let (o, rest) ← g.readLetters (c :: more) rest o
      readAll g fuel rest o
    | t :: rest =>
      if g.anywhere then readAll g fuel rest { o with operands := t :: o.operands }
      else .ok { o with operands := rest.reverse ++ t :: o.operands }

def read (g : Grammar) (arguments : List Text) : Except Text Options :=
  (g.readAll (arguments.length + 1) arguments ⟨[], []⟩).map fun o =>
    ⟨o.given.reverse, o.operands.reverse⟩

end Grammar

end Options

def misuse (st : State) (command : Text) (status : Nat) (what : Text) : State :=
  (st.complain (command ++ (": " : Text) ++ what)).failing status
    (("Try '" : Text) ++ command ++ (" --help' for more information." : Text))

/-- Runs something with the options of a command, if they are such as it
accepts. -/
def withOptions (command : Text) (status : Nat) (letters : Text) (names : List (String × Char))
    (arguments : List Text) (st : State) (f : Options → State → State) : State :=
  match Options.Grammar.read ⟨letters, names, true⟩ arguments with
  | .ok o => f o st
  | .error what => misuse st command status what

/-- The same for a command whose options come before all else. -/
def withLeadingOptions (command : Text) (status : Nat) (letters : Text)
    (arguments : List Text) (st : State) (f : Options → State → State) : State :=
  match Options.Grammar.read ⟨letters, [], false⟩ arguments with
  | .ok o => f o st
  | .error what => misuse st command status what

end Shell

end BuildManifest
