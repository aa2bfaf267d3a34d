import BuildManifest.Text

/-!
Shell scripts as trees. A word is a list of pieces: characters that stand for
themselves and places where something is filled in, which may be a whole script
in its turn. A quoted piece is taken as it is; any other may fall apart into
several words or name files by a wildcard.
-/

namespace BuildManifest

namespace Shell

/-- What is done with the value of a parameter. With `ifEmpty`, an empty value
counts as none. -/
inductive Change where
  | nothing
  | length
  | default (ifEmpty : Bool)
  | assign (ifEmpty : Bool)
  | demand (ifEmpty : Bool)
  | replace (ifEmpty : Bool)
  | trim (atEnd longest : Bool)
  /-- One that the shell does not know. -/
  | unknown
  deriving DecidableEq

/-- How a redirection opens what it names. A document holds its text itself. -/
inductive Opening where
  | read
  | write
  | clobber
  | append
  | readWrite
  | duplicate
  | document
  deriving DecidableEq

mutual

inductive Piece where
  | text (t : Text) (quoted : Bool)
  | parameter (name : Text) (change : Change) (operand : List Piece) (quoted : Bool)
  | output (script : Command) (quoted : Bool)
  | sum (expression : List Piece) (quoted : Bool)

/-- The number of a stream and what it is to lead to. -/
inductive Redirection where
  | mk (stream : Nat) (opening : Opening) (target : List Piece)

inductive Command where
  | nothing
  | simple (assignments : List (Text × List Piece)) (words : List (List Piece))
      (targets : List Redirection)
  | pipe (left right : Command)
  | negated (c : Command)
  | both (left right : Command)
  | either (left right : Command)
  | inOrder (left right : Command)
  | background (c : Command)
  | subshell (c : Command)
  | redirected (c : Command) (targets : List Redirection)
  | choice (condition body otherwise : Command)
  /-- Repeats the body as long as the condition succeeds, or fails. -/
  | loop (onSuccess : Bool) (condition body : Command)
  /-- Without a list of words the loop goes over the arguments. -/
  | each (name : Text) (words : Option (List (List Piece))) (body : Command)
  | select (subject : List Piece) (branches : List (List (List Piece) × Command))
  | define (name : Text) (body : Command)

end

abbrev Word := List Piece

/-- The text of a word, whatever is quoted, if nothing in it is filled in. -/
def spelled? : Word → Option Text
  | [] => some []
  | .text t _ :: rest => (spelled? rest).map (t ++ ·)
  | _ :: _ => none

def hasQuotes (w : Word) : Bool :=
  w.any fun p => match p with
    | .text _ quoted => quoted
    | _ => false

def isNameStart (c : Char) : Bool := c.isAlpha || c = '_'

def isNameCharacter (c : Char) : Bool := c.isAlphanum || c = '_'

def isName (t : Text) : Bool := t.head?.any isNameStart && t.all isNameCharacter

end Shell

end BuildManifest
