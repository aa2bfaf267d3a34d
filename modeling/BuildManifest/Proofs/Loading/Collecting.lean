import BuildManifest.Proofs.Loading.Stages

/-!
What a loaded plan has from its manifest. Every directive puts what it asks for
at the end of the lists of the plan and leaves the rest of them alone, so that in
the end each list holds what the lines of its kind say, in the order of the
lines, whatever the other lines have done in between.
-/

namespace BuildManifest

namespace Directive

@[simp]
def patterns : Directive → List (Text × Text)
  | .pattern extension template => [(extension, template)]
  | _ => []

@[simp]
def commands : Directive → List Text
  | .command c => [c]
  | _ => []

@[simp]
def exclusions : Directive → List Text
  | .exclude entries => entries
  | _ => []

@[simp]
def dependencies : Directive → List Text
  | .dependency p => [p]
  | _ => []

@[simp]
def checks : Directive → List Text
  | .check c => [c]
  | _ => []

end Directive

namespace Plan

/-- A plan to which directives have added what they ask for. -/
structure Collects (plan : Plan) (directives : List Directive) (plan' : Plan) : Prop where
  commands : plan'.commands = plan.commands ++ directives.flatMap Directive.commands
  excludes : plan'.excludes = plan.excludes ++ directives.flatMap Directive.exclusions
  dependencies : plan'.dependencies = plan.dependencies ++ directives.flatMap Directive.dependencies
  checks : plan'.checks = plan.checks ++ directives.flatMap Directive.checks
  manifestDir : plan'.manifestDir = plan.manifestDir
  workDir : plan'.workDir = plan.workDir
  patterns : plan'.patterns = (directives.flatMap Directive.patterns).foldl
    (fun t e => t.insert e.1 e.2) plan.patterns

theorem Collects.nil (plan : Plan) : Collects plan [] plan := by
  constructor <;> simp

theorem Collects.append {plan plan' plan'' : Plan} {directives directives' : List Directive}
    (h : Collects plan directives plan') (h' : Collects plan' directives' plan'') :
    Collects plan (directives ++ directives') plan'' := by
  constructor
  · rw [h'.commands, h.commands, List.flatMap_append, List.append_assoc]
  · rw [h'.excludes, h.excludes, List.flatMap_append, List.append_assoc]
  · rw [h'.dependencies, h.dependencies, List.flatMap_append, List.append_assoc]
  · rw [h'.checks, h.checks, List.flatMap_append, List.append_assoc]
  · rw [h'.manifestDir, h.manifestDir]
  · rw [h'.workDir, h.workDir]
  · rw [h'.patterns, h.patterns, List.flatMap_append, List.foldl_append]

variable {fetcher : Fetcher} {plan plan' : Plan} {i : Instruction} {s s' : Session}

/-- One directive adds to one list, or to none of these. -/
theorem collects_of_evaluate (h : evaluate fetcher plan i s = (.ok plan', s')) :
    Collects plan [i.directive] plan' := by
  rw [evaluate] at h
  cases hdirective : i.directive with
  | assign a =>
      rw [hdirective] at h
      obtain ⟨v, s₁, _, hlast⟩ := Action.exists_of_bind_ok h
      cases hlast
      constructor <;> simp
  | condition c =>
      rw [hdirective] at h
      obtain ⟨v, s₁, _, hlast⟩ := Action.exists_of_bind_ok h
      cases hlast
      constructor <;> simp
  | download url destination =>
      rw [hdirective] at h
      obtain ⟨url', s₁, _, hchecked⟩ := Action.exists_of_bind_ok h
      cases hcheck : Url.check url' with
      | error fault =>
          rw [hcheck] at hchecked
          cases hchecked
      | ok _ =>
          rw [hcheck] at hchecked
          obtain ⟨destination', s₂, _, hfetched⟩ := Action.exists_of_bind_ok hchecked
          obtain ⟨_, s₃, _, hlast⟩ := Action.exists_of_bind_ok hfetched
          cases hlast
          constructor <;> simp
  | makeDirectory p =>
      rw [hdirective] at h
      obtain ⟨p', s₁, _, hmade⟩ := Action.exists_of_bind_ok h
      obtain ⟨_, s₂, _, hlast⟩ := Action.exists_of_bind_ok hmade
      cases hlast
      constructor <;> simp
  | pattern | command | exclude | check | dependency =>
      rw [hdirective] at h
      cases h
      constructor <;> simp

theorem collects_of_evaluateAll {instructions : List Instruction}
    (h : evaluateAll fetcher plan instructions s = (.ok plan', s')) :
    Collects plan (instructions.map Instruction.directive) plan' := by
  induction instructions generalizing plan s with
  | nil =>
      cases h
      exact .nil _
  | cons i rest ih =>
      obtain ⟨next, s₁, hfirst, hrest⟩ := Action.exists_of_bind_ok h
      exact (collects_of_evaluate hfirst).append (ih hrest)

/-- The texts of the entries that are checked at the end, in their order. -/
theorem map_deferred (instructions : List Instruction) :
    (deferred instructions).map Prod.snd =
      (instructions.map Instruction.directive).flatMap fun d =>
        d.exclusions.filter Directive.isDeferred := by
  rw [deferred, List.map_flatMap, List.flatMap_map]
  refine congrArg (List.flatMap · instructions) (funext fun i => ?_)
  obtain ⟨n, d⟩ := i
  cases d <;> simp [Function.comp_def]

end Plan

/-- A loaded plan has collected what the directives of its manifest ask for. -/
theorem collects_of_load {fetcher : Fetcher} {options : LoadOptions} {p : Path} {v : Variables}
    {plan : Plan} {s s' : Session} (h : load fetcher options p v s = (.ok plan, s')) :
    ∃ text s₁ instructions,
      readManifest (Path.absolutize options.workDir p) s = (.ok text, s₁) ∧
      Script.read (Path.absolutize options.workDir p) text = .ok instructions ∧
      Plan.Collects (Plan.start (Path.absolutize options.workDir p)
          ((Path.parent? (Path.absolutize options.workDir p)).getD options.workDir)
          options.workDir v options.limit)
        (instructions.map Instruction.directive) plan := by
  obtain ⟨text, s₁, htext, hloaded⟩ := exists_of_load h
  obtain ⟨instructions, s₂, hread, hrest⟩ := Action.exists_of_bind_ok hloaded
  obtain ⟨plan', s₃, hevaluated, hchecked⟩ := Action.exists_of_bind_ok hrest
  obtain ⟨_, s₄, _, hlast⟩ := Action.exists_of_bind_ok hchecked
  cases hlast
  exact ⟨text, s₁, instructions, htext, congrArg Prod.fst hread,
    Plan.collects_of_evaluateAll hevaluated⟩

end BuildManifest
