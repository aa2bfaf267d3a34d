import BuildManifest.Script
import BuildManifest.Session
import BuildManifest.Url

/-!
Loading a manifest. First the whole text is read, so that a faulty line anywhere
stops the program before it does anything. Then the directives are carried out
in order: variables are set, directories made and files fetched at once, and
everything else is put down in a `Plan` for later. Exclude entries with
variables are checked at the end, when the variables have their last values.
-/

namespace BuildManifest

/-- What a loaded manifest asks for. -/
structure Plan where
  manifestPath : Path
  /-- The directory the manifest is in: `$root`, and what the main compilation
  goes over. -/
  manifestDir : Path
  /-- The directory that relative paths start from. -/
  workDir : Path
  bindings : Variables
  patterns : Table
  commands : List Text
  excludes : List Text
  dependencies : List Text
  checks : List Text
  scope : Scope
  deriving DecidableEq, Repr

/-- Fetches a file unless there is something in its place already. The directory
it goes to is made first. -/
def fetchMissing (fetcher : Fetcher) (url : Text) (destination : Path) : Action Unit := do
  match Path.parent? destination with
  | some parent => Action.makeDirectories parent
  | none => pure ()
  if ← Action.ask (·.isPresent destination) then
    Action.say (("* skipping download: " : Text) ++ destination ++ (" already exists" : Text))
  else
    Action.say (("* downloading " : Text) ++ url ++ (" -> " : Text) ++ destination ++
      ("..." : Text))
    Action.fetch fetcher url destination
    Action.say (("* downloaded " : Text) ++ url)

namespace Condition

def appliedLine (c : Condition) (actual : Text) (a : Assignment) : Text :=
  ("* when: " : Text) ++ c.key ++ ("=\"" : Text) ++ actual ++ ("\" → applying \"" : Text) ++
    a.key ++ (": " : Text) ++ a.value ++ ("\"" : Text)

def skippedLine (c : Condition) : Text :=
  ("* when: condition \"" : Text) ++ c.key ++ (" is " : Text) ++ c.expected ++
    ("\" not met, skipping" : Text)

/-- The assignment that is made if the key's value is `actual`. -/
def chosen (c : Condition) (actual : Text) : Option Assignment :=
  if actual = c.expected then some c.met else c.unmet

end Condition

/-- Gives a failure that does not know its line the place it belongs to. -/
def Failure.atLine (path : Path) (line : Nat) : Failure → Failure
  | .badVariable reason => .parse path line reason
  | e => e

namespace Action

def ofVariables (r : Except VariableFault Variables) : Action Variables :=
  match r with
  | .ok v => pure v
  | .error fault => fail (.badVariable fault.message)

/-- Compares the expanded value of a variable with what a condition expects and
makes the assignment this selects. The expected text is not expanded. -/
def applyCondition (scope : Scope) (v : Variables) (c : Condition) : Action Variables := do
  match v.get? c.key with
  | none => fail (.badVariable (VariableFault.undefinedKey c.key).message)
  | some raw =>
    let actual ← expand scope v raw
    match c.chosen actual with
    | some a =>
      say (c.appliedLine actual a)
      ofVariables (Variables.assign v a.key a.value)
    | none =>
      say c.skippedLine
      pure v

/-- The same action, its variable faults reported against a line. -/
def atLine {α : Type} (path : Path) (line : Nat) (a : Action α) : Action α :=
  fun s =>
    match a s with
    | (.ok r, s) => (.ok r, s)
    | (.error e, s) => (.error (e.atLine path line), s)

end Action

namespace Plan

def start (manifestPath manifestDir workDir : Path) (v : Variables) (limit : Nat) : Plan :=
  ⟨manifestPath, manifestDir, workDir, v, Table.empty, [], [], [], [],
    Scope.ofLimit manifestDir limit⟩

def invalidUrl (url : Text) (fault : Url.Fault) : Text :=
  ("invalid url '" : Text) ++ url ++ ("': " : Text) ++ fault.message

def evaluate (fetcher : Fetcher) (plan : Plan) (i : Instruction) : Action Plan := do
  match i.directive with
  | .assign a =>
    let v ← Action.atLine plan.manifestPath i.number
      (Action.ofVariables (Variables.assign plan.bindings a.key a.value))
    pure { plan with bindings := v }
  | .condition c =>
    let v ← Action.atLine plan.manifestPath i.number
      (Action.applyCondition plan.scope plan.bindings c)
    pure { plan with bindings := v }
  | .pattern extension template =>
    pure { plan with patterns := plan.patterns.insert extension template }
  | .command c => pure { plan with commands := plan.commands ++ [c] }
  | .exclude entries => pure { plan with excludes := plan.excludes ++ entries }
  | .check c => pure { plan with checks := plan.checks ++ [c] }
  | .dependency p => pure { plan with dependencies := plan.dependencies ++ [p] }
  | .download url destination =>
    let url ← Action.expand plan.scope plan.bindings url
    match Url.check url with
    | .error fault => Action.fail (.parse plan.manifestPath i.number (invalidUrl url fault))
    | .ok () =>
      let destination ← Action.expand plan.scope plan.bindings destination
      fetchMissing fetcher url (Path.absolutize plan.workDir destination)
      pure plan
  | .makeDirectory p =>
    let p ← Action.expand plan.scope plan.bindings p
    Action.makeDirectories (Path.absolutize plan.workDir p)
    pure plan

def evaluateAll (fetcher : Fetcher) (plan : Plan) : List Instruction → Action Plan
  | [] => pure plan
  | i :: rest => do
    let plan ← evaluate fetcher plan i
    evaluateAll fetcher plan rest

/-- The exclude entries that could not be checked as they were read, with their
lines. -/
def deferred (instructions : List Instruction) : List (Nat × Text) :=
  instructions.flatMap fun i =>
    match i.directive with
    | .exclude entries => (entries.filter Directive.isDeferred).map (i.number, ·)
    | _ => []

/-- Checks exclude entries with the variables of the plan. -/
def checkDeferred (plan : Plan) : List (Nat × Text) → Action Unit
  | [] => pure ()
  | (line, entry) :: rest => do
    let entry ← Action.expand plan.scope plan.bindings entry
    match Exclusion.check entry with
    | .ok () => checkDeferred plan rest
    | .error bad =>
      Action.fail (.parse plan.manifestPath line (LineFault.badExclusion bad).message)

end Plan

/-- How to load: the directory relative paths start from and the limit on the
passes of an expansion. -/
structure LoadOptions where
  workDir : Path
  limit : Nat

def readManifest (p : Path) : Action Text := do
  match ← Action.ask (·.readFile p) with
  | .error e => Action.fail (.io (.system e))
  | .ok bytes =>
    match Text.ofBytes? bytes with
    | none => Action.fail (.io (.other "stream did not contain valid UTF-8"))
    | some text => pure text

/-- Loads the manifest at a path, starting with the given variables. -/
def load (fetcher : Fetcher) (options : LoadOptions) (p : Path) (v : Variables) :
    Action Plan := do
  let p := Path.absolutize options.workDir p
  if !(← Action.ask (·.isFile p)) then Action.fail (.manifestNotFound p)
  let text ← readManifest p
  let instructions ← Action.ofExcept (Script.read p text)
  let manifestDir := (Path.parent? p).getD options.workDir
  let plan ← Plan.evaluateAll fetcher
    (Plan.start p manifestDir options.workDir v options.limit) instructions
  plan.checkDeferred (Plan.deferred instructions)
  pure plan

end BuildManifest
