import BuildManifest.Directive.Reading
import BuildManifest.Failure

/-!
A manifest as a list of numbered directives. Every line of the text counts for
the numbers, also one without a directive, and the first faulty line decides the
outcome.
-/

namespace BuildManifest

/-- A directive and the number of its line, counted from one. -/
structure Instruction where
  number : Nat
  directive : Directive
  deriving DecidableEq, Repr

namespace Script

/-- Reads lines of which the first has the given number. -/
def readFrom (path : Path) : Nat → List Text → Except Failure (List Instruction)
  | _, [] => .ok []
  | number, line :: rest =>
    match Directive.read? line with
    | .error fault => .error (.parse path number fault.message)
    | .ok none => readFrom path (number + 1) rest
    | .ok (some directive) => (readFrom path (number + 1) rest).map (⟨number, directive⟩ :: ·)

/-- The directives of a manifest text. The path only serves to report a fault. -/
def read (path : Path) (text : Text) : Except Failure (List Instruction) :=
  readFrom path 1 text.lines

end Script

end BuildManifest
