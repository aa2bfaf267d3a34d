import BuildManifest.Invocation.Report
import BuildManifest.Pipeline

/-!
A whole run of the program, from its arguments to its exit code.
-/

namespace BuildManifest

namespace Program

/-- What the program works with and does not do itself. -/
structure Collaborators where
  executor : Settings → Executor
  fetcher : Settings → Fetcher

def offline : Fetcher := fun url _ w =>
  (.error (.download url (("error sending request for url (" : Text) ++ url ++ (")" : Text))), w)

/-- The result of seeding the variables as an action. -/
def seed (home : Path) (flags : List Text) : Action Variables :=
  Action.ofVariables (Variables.seeded home flags)

/-- Loads the manifest of an invocation and runs it. -/
def build (c : Collaborators) (home : Path) (i : Invocation) : Action Summary := do
  let v ← seed home i.flags
  let workDir ← Action.ask (·.currentPath)
  let plan ← load (c.fetcher i.settings) ⟨workDir, i.settings.maxPasses⟩ i.manifest v
  plan.run (c.executor i.settings)

def printing (s : Session) (t : Text) : Session := { s with world := s.world.print t }

def reporting (s : Session) (t : Text) : Session := { s with world := s.world.report t }

def closingLine (summary : Summary) : Text :=
  ("* " : Text) ++ Text.ofNat summary.total ++ (" tasks done\n" : Text)

/-- Runs the program and gives its exit code, of which the system keeps eight
bits. Without a manifest it prints its help. -/
def run (c : Collaborators) (home : Path) (arguments : List Text) (s : Session) :
    Int × Session :=
  match Invocation.parse arguments with
  | .error .noManifest => (1, printing s Invocation.helpText)
  | .error .help => (0, printing s Invocation.helpText)
  | .error .version => (0, printing s Invocation.versionText)
  | .error fault => (2, reporting s fault.report)
  | .ok i =>
    match build c home i s with
    | (.ok summary, s) => (0, printing s (closingLine summary))
    | (.error e, s) => (e.exitCode % 256, reporting s (e.message ++ ['\n']))

end Program

end BuildManifest
