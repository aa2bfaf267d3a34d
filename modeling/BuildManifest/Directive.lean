import BuildManifest.Exclusion

/-!
The directives of a manifest and what can be wrong with a line that should hold
one.
-/

namespace BuildManifest

structure Assignment where
  key : Text
  value : Text
  deriving DecidableEq, Repr

/-- If the expanded value of `key` is `expected`, the first assignment is made,
otherwise the second, if there is one. -/
structure Condition where
  key : Text
  expected : Text
  met : Assignment
  unmet : Option Assignment
  deriving DecidableEq, Repr

inductive Directive where
  | assign (a : Assignment)
  | pattern (extension template : Text)
  | command (text : Text)
  | exclude (entries : List Text)
  | check (command : Text)
  | dependency (path : Text)
  | download (url destination : Text)
  | condition (c : Condition)
  | makeDirectory (path : Text)
  deriving DecidableEq, Repr

/-- The words a line may begin with. All other lines with a colon assign. -/
inductive Keyword where
  | pattern
  | command
  | exclude
  | check
  | dependency
  | download
  | condition
  | makeDirectory
  deriving DecidableEq, Repr

namespace Keyword

def spelling : Keyword → Text
  | .pattern => "for "
  | .command => "cmd:"
  | .exclude => "exclude:"
  | .check => "check:"
  | .dependency => "include:"
  | .download => "download:"
  | .condition => "when:"
  | .makeDirectory => "mkdir:"

def all : List Keyword :=
  [.pattern, .command, .exclude, .check, .dependency, .download, .condition, .makeDirectory]

/-- The keyword a line begins with and what follows it. -/
def ofLine? (line : Text) : Option (Keyword × Text) :=
  all.findSome? fun k => (Text.after? k.spelling line).map (k, ·)

end Keyword

inductive LineFault where
  | illFormedPattern
  | missingExtension
  | missingOperand (keyword : Keyword)
  | illFormedDownload
  | incompleteDownload
  | malformedAssignment (text : Text)
  | emptyKey (text : Text)
  | illFormedCondition
  | badExclusion (entry : Exclusion.BadEntry)
  deriving DecidableEq, Repr

def LineFault.message : LineFault → Text
  | .illFormedPattern => "ill-formed pattern, use \"for <ext> : <command>\""
  | .missingExtension => "pattern is missing a file extension"
  | .missingOperand keyword =>
      ("'" : Text) ++ keyword.spelling ++ ("' needs an operand" : Text)
  | .illFormedDownload => "ill-formed download, use \"download:<url> in <path>\""
  | .incompleteDownload => "download needs both a url and a destination"
  | .malformedAssignment text =>
      ("malformed assignment \"" : Text) ++ text ++ ("\", use \"<key>: <value>\"" : Text)
  | .emptyKey text => ("assignment \"" : Text) ++ text ++ ("\" has an empty key" : Text)
  | .illFormedCondition =>
      "ill-formed when, use \"when:<key> is <value> do <key>: <value> [else <key>: <value>]\""
  | .badExclusion e =>
      ("invalid exclude pattern '" : Text) ++ e.entry ++ ("': " : Text) ++ e.reason

end BuildManifest
