import BuildManifest.Shell.Expression

/-!
Scripts for records, as `awk` runs them: rules of a trigger and an action, and
functions. A record is a line cut into fields; the values are numbers and texts.
-/

namespace BuildManifest

namespace Shell

namespace Records

/-- Where `getline` gets its line from. -/
inductive Source where
  | records
  | file
  | command
  deriving DecidableEq

inductive Term where
  | number (x : Float)
  | text (t : Text)
  | pattern (e : Expression)
  | variable (name : Text)
  | element (array : Text) (indices : List Term)
  | field (n : Term)
  /-- An assignment, after an operation if one is named. -/
  | assign (operator : Option Char) (target value : Term)
  /-- Adds to a variable; the value is that before or after. -/
  | step (valueBefore : Bool) (amount : Float) (target : Term)
  | unary (operator : Char) (a : Term)
  /-- An operation on two values; a blank operator joins them as texts. -/
  | binary (operator : Text) (a b : Term)
  | both (a b : Term)
  | either (a b : Term)
  | choice (condition a b : Term)
  | fits (negated : Bool) (a b : Term)
  | isIn (indices : List Term) (array : Text)
  | group (ts : List Term)
  | call (name : Text) (arguments : List Term)
  | builtin (name : Text) (arguments : List Term)
  | getLine (source : Source) (from? target : Option Term)

inductive Statement where
  | nothing
  | term (t : Term)
  /-- Prints terms, by a format if the first is one, to a file or a command. -/
  | print (formatted : Bool) (ts : List Term) (sink : Option (Text × Term))
  | block (ss : List Statement)
  | choice (condition : Term) (a b : Statement)
  | loop (condition : Term) (body : Statement)
  | loopAfter (body : Statement) (condition : Term)
  | loopFrom (first : Statement) (condition : Option Term) (step body : Statement)
  | each (name array : Text) (body : Statement)
  | next
  | exit (status : Option Term)
  | giveBack (value : Option Term)
  | leave
  | again
  | delete (array : Text) (indices : List Term)

/-- When the action of a rule is carried out. -/
inductive Trigger where
  | start
  | finish
  | always
  | condition (t : Term)
  | range (first last : Term)

structure Function where
  name : Text
  parameters : List Text
  body : Statement

structure Script where
  rules : List (Trigger × Statement)
  functions : List Function

/-- The functions that every script has. -/
def builtins : List Text :=
  List.map String.toList
    ["length", "substr", "index", "split", "sub", "gsub", "match", "sprintf", "sin", "cos", "atan2",
      "exp", "log", "sqrt", "int", "rand", "srand", "tolower", "toupper", "system", "close",
      "fflush"]

/-- The words that are no names. -/
def keywords : List Text :=
  List.map String.toList
    ["BEGIN", "END", "function", "func", "if", "else", "while", "for", "do", "break", "continue",
      "next", "nextfile", "exit", "return", "delete", "in", "getline", "print", "printf"]

end Records

end Shell

end BuildManifest
