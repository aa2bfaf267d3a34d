import BuildManifest.Failure.SystemError
import BuildManifest.Path

/-!
The ways a run can fail, the sentence each of them is reported with and the
exit code the program ends with.
-/

namespace BuildManifest

/-- A failure of the file system or of starting a program. -/
inductive IoFault where
  | system (error : SystemError)
  | walking (path : Path) (error : SystemError)
  | other (reason : Text)
  deriving DecidableEq, Repr

def IoFault.message : IoFault → Text
  | .system e => e.message
  | .walking p e => ("IO error for operation on " : Text) ++ p ++ (": " : Text) ++ e.message
  | .other reason => reason

/-- A run ends at its first failure. -/
inductive Failure where
  | io (fault : IoFault)
  | manifestNotFound (path : Path)
  | parse (path : Path) (line : Nat) (reason : Text)
  | expansion (template : Text) (passes : Nat)
  | execution (command : Text) (code : Int)
  | timeout (command : Text) (seconds : Nat)
  | download (url reason : Text)
  | badVariable (reason : Text)
  | badExclusion (reason : Text)
  deriving DecidableEq, Repr

namespace Failure

def message : Failure → Text
  | .io fault => ("IO error: " : Text) ++ fault.message ++ ("." : Text)
  | .manifestNotFound p => ("Manifest not found: " : Text) ++ p ++ ("." : Text)
  | .parse p line reason =>
      ("Parse error at " : Text) ++ p ++ (":" : Text) ++ Text.ofNat line ++ (": " : Text) ++
        reason ++ ("." : Text)
  | .expansion template passes =>
      ("Expansion error: '" : Text) ++ template ++ ("' did not settle after " : Text) ++
        Text.ofNat passes ++ (" passes." : Text)
  | .execution command code =>
      ("Command '" : Text) ++ command ++ ("' failed with exit code " : Text) ++
        Text.ofInt code ++ ("." : Text)
  | .timeout command seconds =>
      ("Command '" : Text) ++ command ++ ("' timed out after " : Text) ++
        Text.ofNat seconds ++ ("s." : Text)
  | .download url reason =>
      ("Download error: " : Text) ++ url ++ (": " : Text) ++ reason ++ ("." : Text)
  | .badVariable reason => ("Variable error: " : Text) ++ reason ++ ("." : Text)
  | .badExclusion reason => ("Exclusion error: " : Text) ++ reason ++ ("." : Text)

/-- A failed command ends the program with its own code, a command that ran out
of time with 124 and a faulty manifest with 255. -/
def exitCode : Failure → Int
  | .execution _ code => code
  | .timeout _ _ => 124
  | .manifestNotFound _ | .parse _ _ _ | .badVariable _ => 255
  | .io _ | .expansion _ _ | .download _ _ | .badExclusion _ => 1

end Failure

end BuildManifest
