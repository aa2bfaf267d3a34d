import BuildManifest.Pipeline
import BuildManifest.Proofs.Compilation.Coverage
import BuildManifest.Proofs.Loading.Stages
import BuildManifest.Proofs.Session.Outlasting

/-!
Loading and running with more passes. The limit on the passes is handed from place to place with
the scope of a plan, and nothing but expansions looks at it. So if it is raised, loading gives the
same plan but for the limit in it, and running this plan hands out the same commands and ends the
same, until an expansion would have failed.
-/

namespace BuildManifest

open BuildManifest.Action (Outlasts)

namespace Action

theorem outlasts_atLine {α β : Type} {f : α → β} {a : Action α} {b : Action β}
    (h : Outlasts f a b) (path : Path) (n : Nat) :
    Outlasts f (atLine path n a) (atLine path n b) := by
  intro s
  have hs := h s
  rw [atLine, atLine]
  cases hrun : a s with
  | mk r s' =>
      rw [hrun] at hs
      rcases hs with ⟨e, rfl, hexpansion⟩ | hsame
      · cases e with
        | expansion template passes => exact .inl ⟨_, rfl, trivial⟩
        | _ => cases hexpansion
      · rw [hsame]
        cases r <;> exact .inr rfl

theorem outlasts_applyCondition (scope : Scope) (v : Variables) (c : Condition) (limit : Nat) :
    Outlasts id (applyCondition scope v c) (applyCondition (scope.raised limit) v c) := by
  rw [applyCondition, applyCondition]
  split
  · exact outlasts_fail _
  · exact (outlasts_expand _ _ _ _).before _

end Action

namespace Plan

/-- The same plan with at least so many passes for what it expands. -/
def raised (limit : Nat) (plan : Plan) : Plan := { plan with scope := plan.scope.raised limit }

theorem start_raised {limit limit' : Nat} (hlimit : max limit 1 ≤ max limit' 1)
    (manifestPath manifestDir workDir : Path) (v : Variables) :
    (start manifestPath manifestDir workDir v limit).raised limit' =
      start manifestPath manifestDir workDir v limit' := by
  have hpasses : max (max limit 1) limit' = max limit' 1 := by omega
  simp only [raised, start, Scope.raised, Scope.ofLimit, hpasses]

variable {fetcher : Fetcher} {executor : Executor}

theorem outlasts_evaluate (plan : Plan) (i : Instruction) (limit : Nat) :
    Outlasts (raised limit) (evaluate fetcher plan i) (evaluate fetcher (plan.raised limit) i) := by
  obtain ⟨n, d⟩ := i
  cases d with
  | assign a => exact Outlasts.behind _ fun v => Action.outlasts_pure _
  | condition c =>
      refine Outlasts.bind (Action.outlasts_atLine ?_ _ _) fun v => Action.outlasts_pure _
      exact Action.outlasts_applyCondition _ _ c limit
  | download url destination =>
      refine (Action.outlasts_expand _ _ _ _).bind fun url => ?_
      dsimp only [id]
      split
      · exact Action.outlasts_fail _
      · refine (Action.outlasts_expand _ _ _ _).bind fun destination => ?_
        exact Outlasts.behind _ fun _ => Action.outlasts_pure plan
  | makeDirectory p =>
      refine (Action.outlasts_expand _ _ _ _).bind fun p => ?_
      exact Outlasts.behind _ fun _ => Action.outlasts_pure plan
  | pattern | command | exclude | check | dependency => exact Action.outlasts_pure _

theorem outlasts_evaluateAll (plan : Plan) (instructions : List Instruction) (limit : Nat) :
    Outlasts (raised limit) (evaluateAll fetcher plan instructions)
      (evaluateAll fetcher (plan.raised limit) instructions) := by
  induction instructions generalizing plan with
  | nil => exact Action.outlasts_pure plan
  | cons i rest ih => exact (outlasts_evaluate plan i limit).bind ih

theorem outlasts_checkDeferred (plan : Plan) (entries : List (Nat × Text)) (limit : Nat) :
    Outlasts id (plan.checkDeferred entries) ((plan.raised limit).checkDeferred entries) := by
  induction entries with
  | nil => exact Action.outlasts_pure ()
  | cons e rest ih =>
      refine (Action.outlasts_expand _ _ _ _).bind fun entry => ?_
      dsimp only [id]
      split
      · exact ih
      · exact Action.outlasts_fail _

end Plan

section

variable {limit limit' : Nat}

theorem outlasts_loadText (fetcher : Fetcher) (hlimit : max limit 1 ≤ max limit' 1)
    (workDir p : Path) (v : Variables) (text : Text) :
    Outlasts (Plan.raised limit') (loadText fetcher ⟨workDir, limit⟩ p v text)
      (loadText fetcher ⟨workDir, limit'⟩ p v text) := by
  refine Outlasts.behind _ fun instructions => ?_
  rw [← Plan.start_raised hlimit]
  refine (Plan.outlasts_evaluateAll _ instructions limit').bind fun plan => ?_
  exact (Plan.outlasts_checkDeferred plan _ limit').bind fun _ => Action.outlasts_pure plan

/-- A load whose texts settle goes the same under a higher limit, but for the limit in its plan. -/
theorem outlasts_load (fetcher : Fetcher) (hlimit : max limit 1 ≤ max limit' 1)
    (workDir p : Path) (v : Variables) :
    Outlasts (Plan.raised limit') (load fetcher ⟨workDir, limit⟩ p v)
      (load fetcher ⟨workDir, limit'⟩ p v) := by
  have hread := Outlasts.behind (readManifest (Path.absolutize workDir p)) fun text =>
    outlasts_loadText fetcher hlimit workDir (Path.absolutize workDir p) v text
  refine Outlasts.behind _ fun present => ?_
  cases present with
  | false => exact Outlasts.behind _ fun _ => hread
  | true => exact hread

end

namespace Recipe

def raised (limit : Nat) (r : Recipe) : Recipe := { r with scope := r.scope.raised limit }

variable {executor : Executor} {x : Exclusions}

theorem outlasts_compileFile (r : Recipe) (file : Path) (limit : Nat) :
    Outlasts id (r.compileFile executor file) ((r.raised limit).compileFile executor file) := by
  rw [compileFile, compileFile]
  simp only [raised]
  split
  · exact Action.outlasts_pure 0
  · have hrender : ∀ template, Outlasts id (r.render template file)
        ((r.raised limit).render template file) := fun template =>
      (Action.outlasts_expand _ _ _ _).before _
    exact ((hrender _).before _).before _

theorem outlasts_total {α : Type} {count count' : α → Action Nat}
    (h : ∀ a, Outlasts id (count a) (count' a)) (l : List α) :
    Outlasts id (total count l) (total count' l) := by
  induction l with
  | nil => exact Action.outlasts_pure 0
  | cons a l ih => exact (h a).bind fun n => ih.before _

/-- Whether a path is excluded has nothing to do with the passes. -/
theorem outlasts_unless {a b : Action Nat} (skip : Bool) (h : Outlasts id a b) :
    Outlasts id (if skip then pure 0 else a) (if skip then pure 0 else b) := by
  cases skip with
  | true => exact Action.outlasts_pure 0
  | false => exact h

theorem outlasts_list {enter enter' : List (Text × Kind) → Action Nat} (p : Path)
    (h : ∀ entries, Outlasts id (enter entries) (enter' entries)) :
    Outlasts id
      (Action.ask (·.list p) >>= fun listed =>
        match listed with
        | .error e => Action.fail (.io (.walking p e))
        | .ok entries => enter entries)
      (Action.ask (·.list p) >>= fun listed =>
        match listed with
        | .error e => Action.fail (.io (.walking p e))
        | .ok entries => enter' entries) := by
  refine Outlasts.behind _ fun listed => ?_
  cases listed with
  | error e => exact Action.outlasts_fail _
  | ok entries => exact h entries

theorem outlasts_visit_link (r : Recipe) (depth : Nat) (p : Path) (limit : Nat) :
    Outlasts id (visit executor r x depth p .link)
      (visit executor (r.raised limit) x depth p .link) := by
  rw [visit, visit]
  refine outlasts_unless _ (Outlasts.behind _ fun present => ?_)
  cases present with
  | true => exact outlasts_compileFile r p limit
  | false => exact Action.outlasts_pure 0

/-- A walk whose templates settle goes the same under a higher limit. Which files it comes by does
not depend on the limit. -/
theorem outlasts_visit (r : Recipe) (depth : Nat) (p : Path) (kind : Kind) (limit : Nat) :
    Outlasts id (visit executor r x depth p kind)
      (visit executor (r.raised limit) x depth p kind) := by
  induction depth generalizing p kind with
  | zero =>
      cases kind with
      | file =>
          rw [visit, visit]
          exact outlasts_unless _ (outlasts_compileFile r p limit)
      | link => exact outlasts_visit_link r 0 p limit
      | dir =>
          rw [visit, visit]
          exact outlasts_unless _ (outlasts_list p fun _ => Action.outlasts_fail _)
  | succ depth ih =>
      cases kind with
      | file =>
          rw [visit, visit]
          exact outlasts_unless _ (outlasts_compileFile r p limit)
      | link => exact outlasts_visit_link r (depth + 1) p limit
      | dir =>
          rw [visit, visit]
          refine outlasts_unless _ (outlasts_list p fun entries => ?_)
          exact outlasts_total (fun e => ih (Path.join p e.1) e.2) entries

theorem outlasts_visitLink (r : Recipe) (depth : Nat) (root : Path) (limit : Nat) :
    Outlasts id (visitLink executor r x depth root)
      (visitLink executor (r.raised limit) x depth root) := by
  rw [visitLink, visitLink]
  refine Outlasts.behind _ fun found => ?_
  split
  · exact Action.outlasts_fail _
  · exact Action.outlasts_fail _
  · refine outlasts_list root fun entries => ?_
    exact outlasts_total (fun e => outlasts_visit r depth (Path.join root e.1) e.2 limit) entries
  · exact outlasts_visit_link r depth root limit

theorem outlasts_compileTree (executor : Executor) (r : Recipe) (x : Exclusions) (root : Path)
    (limit : Nat) :
    Outlasts id (r.compileTree executor x root)
      ((r.raised limit).compileTree executor x root) := by
  rw [compileTree, compileTree]
  refine Outlasts.behind _ fun kind => ?_
  dsimp only
  split
  · exact Action.outlasts_self _
  · exact (outlasts_visitLink r _ root limit).before _
  · exact (outlasts_visit r _ root _ limit).before _

end Recipe

namespace Plan

variable {executor : Executor}

theorem outlasts_runCommandsFrom (plan : Plan) (commands : List Text) (limit : Nat) :
    Outlasts id (runCommandsFrom executor plan commands)
      (runCommandsFrom executor (plan.raised limit) commands) := by
  induction commands with
  | nil => exact Action.outlasts_pure 0
  | cons c rest ih =>
      refine (Action.outlasts_expand _ _ _ _).bind fun command => ?_
      exact Outlasts.behind _ fun _ => ih.before _

theorem outlasts_runChecksFrom (plan : Plan) (count step : Nat) (checks : List Text)
    (limit : Nat) :
    Outlasts id (runChecksFrom executor plan count step checks)
      (runChecksFrom executor (plan.raised limit) count step checks) := by
  induction checks generalizing step with
  | nil => exact Action.outlasts_pure 0
  | cons c rest ih =>
      refine (Action.outlasts_expand _ _ _ _).bind fun command => ?_
      refine Outlasts.behind _ fun _ => Outlasts.behind _ fun _ => Outlasts.behind _ fun _ => ?_
      exact (ih (step + 1)).before _

theorem outlasts_compileDependency (plan : Plan) (dependency : Text) (limit : Nat) :
    Outlasts id (compileDependency executor plan dependency)
      (compileDependency executor (plan.raised limit) dependency) := by
  refine (Action.outlasts_expand _ _ _ _).bind fun p => ?_
  refine Outlasts.behind _ fun present => ?_
  have hcompile := (Recipe.outlasts_compileTree executor plan.recipe .empty
    (Path.absolutize plan.workDir p) limit).before fun n =>
      Action.say (("* done dependency " : Text) ++ dependency) >>= fun _ => pure n
  cases present with
  | true => exact hcompile
  | false => exact Outlasts.behind _ fun _ => hcompile

theorem outlasts_compileMain (plan : Plan) (limit : Nat) :
    Outlasts id (plan.compileMain executor) ((plan.raised limit).compileMain executor) := by
  refine (Action.outlasts_expandAll _ _ _ _).bind fun entries => ?_
  refine Outlasts.behind _ fun x => ?_
  exact Recipe.outlasts_compileTree executor plan.recipe x plan.manifestDir limit

/-- A run whose texts settle goes the same under a higher limit. -/
theorem outlasts_run (executor : Executor) (plan : Plan) (limit : Nat) :
    Outlasts id (plan.run executor) ((plan.raised limit).run executor) := by
  refine (outlasts_runCommandsFrom plan plan.commands limit).bind fun commands => ?_
  refine (Recipe.outlasts_total (fun d => outlasts_compileDependency plan d limit)
    plan.dependencies).bind fun dependencies => ?_
  refine (outlasts_compileMain plan limit).bind fun main => ?_
  exact ((outlasts_runChecksFrom plan _ 1 plan.checks limit).before _).before _

/-- Raising the limit on the passes, of which zero counts as one, changes no outcome but that of an
expansion which has failed. If a manifest fails to load with something else, it fails with this
under any higher limit too, in the same session: the same files asked for, the same ones
left, the same lines printed. If it loads, it loads under a higher limit, with the same plan but for
the limit itself, again in the same session. And then, whatever the executor makes of the commands,
running this plan ends as running the first one does, with the same result, the same commands
handed out and the same files, unless the first run has failed with an expansion. -/
theorem load_and_run_of_raised_limit (fetcher : Fetcher) (executor : Executor) (workDir p : Path)
    (v : Variables) (s : Session) {limit limit' : Nat} (hlimit : max limit 1 ≤ max limit' 1) :
    (∀ e t, load fetcher ⟨workDir, limit⟩ p v s = (.error e, t) → ¬ e.IsExpansion →
      load fetcher ⟨workDir, limit'⟩ p v s = (.error e, t)) ∧
    ∀ plan t, load fetcher ⟨workDir, limit⟩ p v s = (.ok plan, t) →
      load fetcher ⟨workDir, limit'⟩ p v s = (.ok (plan.raised limit'), t) ∧
      ∀ r t', plan.run executor t = (r, t') → (∀ e, r = .error e → ¬ e.IsExpansion) →
        (plan.raised limit').run executor t = (r, t') := by
  have hload := outlasts_load fetcher hlimit workDir p v
  refine ⟨fun e t hfailed he => ?_, fun plan t hloaded => ⟨?_, fun r t' hrun hr => ?_⟩⟩
  · refine hload.of_run hfailed fun e' he' => ?_
    cases he'
    exact he
  · exact hload.of_run hloaded fun e he => by cases he
  · rw [(outlasts_run executor plan limit').of_run hrun hr]
    cases r <;> rfl

section

open Recipe (emptyFile startingIn)

/-- A template with a reference that comes out of a reference, and takes three passes. -/
def chainedManifest : Text := "opt: -O2
cc: gcc $opt
for .c: $cc $file
check:test
"

def chainedProject : Node :=
  .dir [("a.c", emptyFile), ("build.yang", .file chainedManifest.toBytes false)]

def chainedPlan : Plan :=
  { start "/build.yang" "/" "/" ⟨[("opt", "-O2"), ("cc", "gcc $opt")]⟩ 3 with
    patterns := ⟨[(".c", "$cc $file")]⟩
    checks := ["test"] }

theorem load_chainedProject :
    load (fun _ _ w => (.ok (), w)) ⟨"/", 3⟩ "build.yang" Table.empty
      (startingIn chainedProject) = (.ok chainedPlan, startingIn chainedProject) := by
  have hread : Script.read "/build.yang" chainedManifest =
      .ok [⟨1, .assign ⟨"opt", "-O2"⟩⟩, ⟨2, .assign ⟨"cc", "gcc $opt"⟩⟩,
        ⟨3, .pattern ".c" "$cc $file"⟩, ⟨4, .check "test"⟩] := rfl
  exact load_of_read rfl rfl rfl hread rfl rfl

theorem run_chainedPlan :
    (chainedPlan.run .succeeding (startingIn chainedProject)).1.toOption = some ⟨0, 1, 1⟩ := by
  decide +kernel

/-- Three passes are as good as any greater number of them. -/
theorem load_and_run_of_chainedProject :
    ∃ t', chainedPlan.run .succeeding (startingIn chainedProject) = (.ok ⟨0, 1, 1⟩, t') ∧
      load (fun _ _ w => (.ok (), w)) ⟨"/", 64⟩ "build.yang" Table.empty
        (startingIn chainedProject) = (.ok (chainedPlan.raised 64), startingIn chainedProject) ∧
      (chainedPlan.raised 64).run .succeeding (startingIn chainedProject) =
        (.ok ⟨0, 1, 1⟩, t') := by
  have hsome := run_chainedPlan
  cases hrun : chainedPlan.run .succeeding (startingIn chainedProject) with
  | mk r t' =>
      rw [hrun] at hsome
      cases r with
      | error e => cases hsome
      | ok summary =>
          cases hsome
          obtain ⟨_, hboth⟩ := load_and_run_of_raised_limit (fun _ _ w => (.ok (), w)) .succeeding
            "/" "build.yang" Table.empty (startingIn chainedProject)
            (show max 3 1 ≤ max 64 1 by decide)
          obtain ⟨hload, hrest⟩ := hboth _ _ load_chainedProject
          exact ⟨t', rfl, hload, hrest _ _ hrun fun e he => by cases he⟩

end

end Plan

end BuildManifest
