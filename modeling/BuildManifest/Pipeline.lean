import BuildManifest.Compilation

/-!
Running a loaded manifest: its commands, then its dependencies, then its own
directory without what is excluded, then its checks. The first failure ends the
run, and what has been done by then stays.
-/

namespace BuildManifest

/-- How many commands of each kind a run has carried out. -/
structure Summary where
  commands : Nat
  compiled : Nat
  checks : Nat
  deriving DecidableEq, Repr

def Summary.total (s : Summary) : Nat := s.commands + s.compiled + s.checks

namespace Plan

def recipe (plan : Plan) : Recipe := ⟨plan.bindings, plan.patterns, plan.scope⟩

/-- Runs a command that has to succeed. -/
def require (executor : Executor) (command : Text) : Action Unit := do
  let code ← Action.call executor command
  if code ≠ 0 then Action.fail (.execution command code)

def runCommandsFrom (executor : Executor) (plan : Plan) : List Text → Action Nat
  | [] => pure 0
  | c :: rest => do
    let command ← Action.expand plan.scope plan.bindings c
    require executor command
    let n ← runCommandsFrom executor plan rest
    pure (n + 1)

def runCommands (executor : Executor) (plan : Plan) : Action Nat :=
  runCommandsFrom executor plan plan.commands

/-- Compiles the directory of one dependency, nothing in it excluded. -/
def compileDependency (executor : Executor) (plan : Plan) (dependency : Text) : Action Nat := do
  let p ← Action.expand plan.scope plan.bindings dependency
  let dir := Path.absolutize plan.workDir p
  if !(← Action.ask (·.isDirectory dir)) then
    Action.fail (.io (.other
      (("include directory " : Text) ++ dir ++ (" does not exist" : Text))))
  let n ← plan.recipe.compileTree executor Exclusions.empty dir
  Action.say (("* done dependency " : Text) ++ dependency)
  pure n

def compileDependencies (executor : Executor) (plan : Plan) : Action Nat :=
  Recipe.total (compileDependency executor plan) plan.dependencies

def exclusions (base workDir : Path) (entries : List Text) : Except Failure Exclusions :=
  match Exclusions.ofEntries base workDir entries with
  | .ok x => .ok x
  | .error e => .error (.badExclusion e.reason)

/-- Compiles the directory of the manifest without what is excluded. -/
def compileMain (executor : Executor) (plan : Plan) : Action Nat := do
  let entries ← Action.expandAll plan.scope plan.bindings plan.excludes
  let x ← Action.ofExcept (exclusions plan.manifestDir plan.workDir entries)
  plan.recipe.compileTree executor x plan.manifestDir

/-- The note that a check is at some stage. -/
def progress (step count : Nat) (state : Text) : Text :=
  ("* [" : Text) ++ Text.ofNat step ++ ("/" : Text) ++ Text.ofNat count ++ ("] " : Text) ++ state

/-- Runs checks in order, telling how far it is, and counts them. -/
def runChecksFrom (executor : Executor) (plan : Plan) (count : Nat) :
    Nat → List Text → Action Nat
  | _, [] => pure 0
  | step, c :: rest => do
    let command ← Action.expand plan.scope plan.bindings c
    Action.say (progress step count "checking...")
    Action.onFailure (progress step count "fail!") (require executor command)
    Action.say (progress step count "done!")
    let n ← runChecksFrom executor plan count (step + 1) rest
    pure (n + 1)

def runChecks (executor : Executor) (plan : Plan) : Action Nat := do
  let n ← runChecksFrom executor plan plan.checks.length 1 plan.checks
  Action.say (("* " : Text) ++ Text.ofNat n ++ (" checks done" : Text))
  pure n

def run (executor : Executor) (plan : Plan) : Action Summary := do
  let commands ← plan.runCommands executor
  let dependencies ← plan.compileDependencies executor
  let main ← plan.compileMain executor
  let checks ← plan.runChecks executor
  pure ⟨commands, dependencies + main, checks⟩

end Plan

end BuildManifest
