import BuildManifest.Pipeline
import BuildManifest.Proofs.Session.Accounting

/-!
What a run owes to its commands. Commands are handed out in three places, by the stages of
commands and of checks and by the walk over a directory, and each stage counts on its own; for
every executor, also one that changes the tree under the walk, the counts add up to the number
of commands handed out, and a failed command is what the run fails with.
-/

namespace BuildManifest

open BuildManifest.Action (Accounts)

/-- Failures that a walk over a directory comes to by itself. -/
def Failure.OfWalk : Failure → Prop
  | .io _ | .expansion _ _ => True
  | _ => False

/-- Failures that a run comes to by itself. -/
def Failure.OfRun : Failure → Prop
  | .io _ | .expansion _ _ | .badExclusion _ => True
  | _ => False

theorem Failure.OfWalk.ofRun {e : Failure} (h : e.OfWalk) : e.OfRun := by
  cases e with
  | io | expansion => trivial
  | _ => cases h

/-- None of them ends the program with success. -/
theorem Failure.OfRun.exitCode_eq {e : Failure} (h : e.OfRun) : e.exitCode = 1 := by
  cases e with
  | io | expansion | badExclusion => rfl
  | _ => cases h

/-- A chain ends with success for the program only if the executor says so itself. -/
theorem Ending.exitCode_ne {α : Type} {before : Nat} {total : α → Nat} {calls : List Call}
    {e : Failure} (h : Ending Failure.OfRun before total calls (.error e : Except Failure α))
    (hlast : ∀ command, calls.getLast? ≠ some ⟨command, .error e⟩) : e.exitCode ≠ 0 := by
  cases h with
  | failed _ hcode => exact hcode
  | unanswered _ => exact absurd List.getLast?_concat (hlast _)
  | stopped _ hown =>
      rw [hown.exitCode_eq]
      decide

namespace Expansion

theorem ofWalk_of_expandAll {scope : Scope} {v : Variables} {s : TokenSupply} {ts : List Text}
    {e : Failure} (h : (expandAll scope v s ts).1 = .error e) : e.OfWalk := by
  obtain ⟨t, _, rfl⟩ := exists_of_expandAll_error h
  trivial

end Expansion

namespace Action

variable {executor : Executor} {own : Failure → Prop} {before : Nat} {scope : Scope}
  {v : Variables}

theorem accounts_expand (hown : ∀ e : Failure, e.OfWalk → own e) (t : Text) :
    Accounts executor own before (expand scope v t) fun _ => before := by
  refine accounts_of_quiet fun s => ⟨rfl, fun e h => hown e ?_⟩
  rw [Expansion.eq_expansion_of_expand h]
  trivial

theorem accounts_expandAll (hown : ∀ e : Failure, e.OfWalk → own e) (ts : List Text) :
    Accounts executor own before (expandAll scope v ts) fun _ => before :=
  accounts_of_quiet fun _ => ⟨rfl, fun e h => hown e (Expansion.ofWalk_of_expandAll h)⟩

end Action

namespace Recipe

variable {executor : Executor} {r : Recipe} {x : Exclusions} {own : Failure → Prop} {before : Nat}

theorem accounts_total {α : Type} {count : α → Action Nat}
    (h : ∀ a before, Accounts executor own before (count a) (before + ·)) (l : List α) :
    Accounts executor own before (total count l) (before + ·) := by
  induction l generalizing before with
  | nil => exact Action.accounts_pure rfl
  | cons a l ih =>
      refine (h a before).bind fun n => ?_
      exact ih.map fun m => (Nat.add_assoc before n m).symm

theorem accounts_compileFile (file : Path) :
    Accounts executor Failure.OfWalk before (r.compileFile executor file) (before + ·) := by
  rw [compileFile]
  cases pattern? r.patterns file with
  | none => exact Action.accounts_pure rfl
  | some found =>
      have hrender : Accounts executor Failure.OfWalk before (r.render found.2 file)
          fun _ => before :=
        (Action.accounts_expand (fun _ he => he) _).map fun _ => rfl
      have hcompile : Accounts executor Failure.OfWalk before (r.compile executor found.2 file)
          fun _ => before + 1 := by
        refine hrender.bind fun command => (Action.accounts_say _).bind fun _ => ?_
        exact Action.accounts_call fun code s => ⟨rfl, rfl⟩
      exact hcompile.map fun _ => rfl

/-- What is excluded is passed over without a command. -/
theorem accounts_unless {a : Action Nat} (skip : Bool)
    (ha : Accounts executor own before a (before + ·)) :
    Accounts executor own before (if skip then pure 0 else a) (before + ·) := by
  cases skip with
  | true => exact Action.accounts_pure rfl
  | false => exact ha

/-- A directory is listed as it is by then. -/
theorem accounts_list {enter : List (Text × Kind) → Action Nat} (p : Path)
    (henter : ∀ entries, Accounts executor Failure.OfWalk before (enter entries) (before + ·)) :
    Accounts executor Failure.OfWalk before
      (Action.ask (·.list p) >>= fun listed =>
        match listed with
        | .error e => Action.fail (.io (.walking p e))
        | .ok entries => enter entries) (before + ·) := by
  refine (Action.accounts_ask _).bind fun listed => ?_
  cases listed with
  | error e => exact Action.accounts_fail trivial
  | ok entries => exact henter entries

theorem accounts_visit_file (depth : Nat) (p : Path) :
    Accounts executor Failure.OfWalk before (visit executor r x depth p .file) (before + ·) := by
  rw [visit]
  exact accounts_unless _ (accounts_compileFile p)

theorem accounts_visit_link (depth : Nat) (p : Path) :
    Accounts executor Failure.OfWalk before (visit executor r x depth p .link) (before + ·) := by
  rw [visit]
  refine accounts_unless _ ((Action.accounts_ask _).bind fun present => ?_)
  cases present with
  | true => exact accounts_compileFile p
  | false => exact Action.accounts_pure rfl

/-- A walk is accounted for even if its commands change the tree: it takes what it finds where
it looks next, and can only fail with that. -/
theorem accounts_visit (depth : Nat) (p : Path) (kind : Kind) :
    Accounts executor Failure.OfWalk before (visit executor r x depth p kind) (before + ·) := by
  induction depth generalizing before p kind with
  | zero =>
      cases kind with
      | file => exact accounts_visit_file 0 p
      | link => exact accounts_visit_link 0 p
      | dir =>
          rw [visit]
          exact accounts_unless _ (accounts_list p fun _ => Action.accounts_fail trivial)
  | succ depth ih =>
      cases kind with
      | file => exact accounts_visit_file (depth + 1) p
      | link => exact accounts_visit_link (depth + 1) p
      | dir =>
          rw [visit]
          refine accounts_unless _ (accounts_list p fun entries => ?_)
          exact accounts_total (fun e _ => ih (Path.join p e.1) e.2) entries

theorem accounts_visitLink (depth : Nat) (root : Path) :
    Accounts executor Failure.OfWalk before (visitLink executor r x depth root)
      (before + ·) := by
  rw [visitLink]
  refine (Action.accounts_ask _).bind fun found => ?_
  split
  · exact Action.accounts_fail trivial
  · exact Action.accounts_fail trivial
  · refine accounts_list root fun entries => ?_
    exact accounts_total (fun e _ => accounts_visit depth (Path.join root e.1) e.2) entries
  · exact accounts_visit_link depth root

theorem accounts_compileTree (root : Path) :
    Accounts executor Failure.OfWalk before (r.compileTree executor x root) (before + ·) := by
  rw [compileTree]
  refine (Action.accounts_ask _).bind fun kind => ?_
  have htold : ∀ n, Accounts executor Failure.OfWalk (before + n)
      (Action.say (("* done " : Text) ++ Text.ofNat n ++ (" in " : Text) ++ root) >>= fun _ =>
        pure n) (before + ·) := fun n => (Action.accounts_say _).map fun _ => rfl
  dsimp only
  split
  · exact Accounts.bind (Action.accounts_fail trivial) htold
  · exact (accounts_visitLink _ root).bind htold
  · exact (accounts_visit _ root _).bind htold

end Recipe

namespace Plan

variable {executor : Executor} {plan : Plan} {before : Nat}

theorem accounts_require {own : Failure → Prop} (command : Text) :
    Accounts executor own before (require executor command) fun _ => before + 1 :=
  Action.accounts_call fun _ _ => ⟨rfl, rfl⟩

theorem accounts_runCommandsFrom (commands : List Text) :
    Accounts executor Failure.OfWalk before (runCommandsFrom executor plan commands)
      (before + ·) := by
  induction commands generalizing before with
  | nil => exact Action.accounts_pure rfl
  | cons c rest ih =>
      refine (Action.accounts_expand (fun _ he => he) c).bind fun command => ?_
      refine (accounts_require command).bind fun _ => ?_
      exact ih.map fun n => by omega

theorem accounts_runChecksFrom (count step : Nat) (checks : List Text) :
    Accounts executor Failure.OfWalk before (runChecksFrom executor plan count step checks)
      (before + ·) := by
  induction checks generalizing before step with
  | nil => exact Action.accounts_pure rfl
  | cons c rest ih =>
      refine (Action.accounts_expand (fun _ he => he) c).bind fun command => ?_
      refine (Action.accounts_say _).bind fun _ => ?_
      refine ((accounts_require command).onFailure _).bind fun _ => ?_
      refine (Action.accounts_say _).bind fun _ => ?_
      exact (ih (step + 1)).map fun n => by omega

theorem accounts_compileDependency (dependency : Text) :
    Accounts executor Failure.OfWalk before (compileDependency executor plan dependency)
      (before + ·) := by
  refine (Action.accounts_expand (fun _ he => he) dependency).bind fun p => ?_
  refine (Action.accounts_ask _).bind fun present => ?_
  have hcompiled : Accounts executor Failure.OfWalk before
      (plan.recipe.compileTree executor .empty (Path.absolutize plan.workDir p) >>= fun n =>
        Action.say (("* done dependency " : Text) ++ dependency) >>= fun _ => pure n)
      (before + ·) :=
    (Recipe.accounts_compileTree _).bind fun n => (Action.accounts_say _).map fun _ => rfl
  cases present with
  | true => exact hcompiled
  | false => exact Action.accounts_fail trivial

/-- The failure of the rules is the only one that the main compilation adds to those of its
walk. -/
theorem accounts_compileExcluding (executor : Executor) (plan : Plan) (before : Nat)
    (entries : List Text) :
    Accounts executor
      (fun e => e.OfWalk ∨ exclusions plan.manifestDir plan.workDir entries = .error e) before
      (Action.ofExcept (exclusions plan.manifestDir plan.workDir entries) >>= fun x =>
        plan.recipe.compileTree executor x plan.manifestDir) (before + ·) :=
  (Action.accounts_ofExcept fun _ => Or.inr).bind fun _ =>
    (Recipe.accounts_compileTree _).mono fun _ => Or.inl

theorem ofRun_of_exclusions {base workDir : Path} {entries : List Text} {e : Failure}
    (h : exclusions base workDir entries = .error e) : e.OfRun := by
  rw [exclusions] at h
  split at h
  · cases h
  · cases h
    trivial

theorem accounts_compileMain :
    Accounts executor Failure.OfRun before (compileMain executor plan) (before + ·) := by
  refine (Action.accounts_expandAll (fun _ he => he.ofRun) plan.excludes).bind fun entries => ?_
  exact (accounts_compileExcluding executor plan before entries).mono fun _ he =>
    he.elim Failure.OfWalk.ofRun ofRun_of_exclusions

theorem accounts_runChecks : Accounts executor Failure.OfWalk before (plan.runChecks executor)
    (before + ·) :=
  (accounts_runChecksFrom _ 1 plan.checks).bind fun _ => (Action.accounts_say _).map fun _ => rfl

/-- The stages of a run count one after the other. -/
theorem accounts_run (executor : Executor) (plan : Plan) :
    Accounts executor Failure.OfRun 0 (plan.run executor) Summary.total := by
  have hrun : ∀ e : Failure, e.OfWalk → e.OfRun := fun _ he => he.ofRun
  refine ((accounts_runCommandsFrom plan.commands).mono hrun).bind fun commands => ?_
  refine ((Recipe.accounts_total (fun d _ => accounts_compileDependency d)
    plan.dependencies).mono hrun).bind fun dependencies => ?_
  refine accounts_compileMain.bind fun main => ?_
  refine (accounts_runChecks.mono hrun).map fun checks => ?_
  simp only [Summary.total]
  omega

/-- Whatever a run hands its commands to, and whatever becomes of the tree in between: every
command but the last has succeeded. A run that succeeds has counted its commands, and all of
them have. If the last command was answered with another code or not at all, then this is what
the run fails with; any other failure is one of expanding, of the file system or of the rules,
after commands that have all succeeded. Only a failure that the executor has made can have the
exit code zero. -/
theorem run_accounts_for_commands (executor : Executor) (plan : Plan) (s : Session) :
    ∃ result s' calls, plan.run executor s = (result, s') ∧ s'.calls = s.calls ++ calls ∧
      (∀ c ∈ calls, c.AnsweredBy executor) ∧
      (∀ c ∈ calls.dropLast, c.answer = .ok 0) ∧
      (∀ summary, result = .ok summary →
        (∀ c ∈ calls, c.answer = .ok 0) ∧ summary.total = calls.length) ∧
      (∀ command code, calls.getLast? = some ⟨command, .ok code⟩ → code ≠ 0 →
        result = .error (.execution command code) ∧
          (Failure.execution command code).exitCode = code) ∧
      (∀ command e, calls.getLast? = some ⟨command, .error e⟩ → result = .error e) ∧
      (∀ e, result = .error e → (∀ c, calls.getLast? = some c → c.answer = .ok 0) →
        (∀ c ∈ calls, c.answer = .ok 0) ∧ e.OfRun) ∧
      (∀ e, result = .error e → (∀ command, calls.getLast? ≠ some ⟨command, .error e⟩) →
        e.exitCode ≠ 0) := by
  obtain ⟨calls, hrecord, hanswers, hending⟩ := accounts_run executor plan s
  refine ⟨(plan.run executor s).1, (plan.run executor s).2, calls, rfl, hrecord, hanswers,
    hending.succeeded_of_dropLast, ?_, ?_, fun _ _ => hending.eq_error, ?_, ?_⟩
  · intro summary hresult
    rw [hresult] at hending
    cases hending with
    | finished hcalls htotal => exact ⟨hcalls, by rw [htotal, Nat.zero_add]⟩
  · exact fun command code hlast hcode => ⟨hending.eq_execution hlast hcode, rfl⟩
  · intro e hresult hlast
    rw [hresult] at hending
    exact hending.own_of_error hlast
  · intro e hresult hlast
    rw [hresult] at hending
    exact hending.exitCode_ne hlast

end Plan

end BuildManifest
