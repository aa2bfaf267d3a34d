import BuildManifest.Proofs.Loading.Overlooking
import BuildManifest.Proofs.Script
import BuildManifest.Proofs.Variables

/-!
The variables of a loaded plan. Of the directives only assignments and conditions change the
variables, and those of a manifest do so in the order of their lines. So the plan ends up with
the variables it started with after these steps, and all it says about steps holds of loading.
-/

namespace BuildManifest

open Variables (Operation Step Definable)

/-- What a directive does to the variables. -/
def Variables.Operation.ofDirective? : Directive → Option Operation
  | .assign a => some (.assign a)
  | .condition c => some (.condition c)
  | _ => none

def Variables.Operation.ofLine? (line : Text) : Option Operation :=
  (Directive.ofLine? line).bind ofDirective?

namespace Plan

/-- The steps are the operations in this order, taken in the scope of the plan, and lead from its
variables to those of the other plan. -/
structure Takes (plan : Plan) (operations : List Operation) (steps : List Step) (plan' : Plan) :
    Prop where
  operations : steps.map Step.operation = operations
  scopes : ∀ step ∈ steps, step.scope = plan.scope
  bindings : plan'.bindings = plan.bindings.after steps
  scope : plan'.scope = plan.scope

variable {fetcher : Fetcher} {plan plan' plan'' : Plan} {s s' : Session}
  {operations operations' : List Operation} {steps steps' : List Step}

theorem Takes.nil (hbindings : plan'.bindings = plan.bindings) (hscope : plan'.scope = plan.scope) :
    Takes plan [] [] plan' :=
  ⟨rfl, by simp, hbindings, hscope⟩

theorem Takes.append (h : Takes plan operations steps plan')
    (h' : Takes plan' operations' steps' plan'') :
    Takes plan (operations ++ operations') (steps ++ steps') plan'' where
  operations := by rw [List.map_append, h.operations, h'.operations]
  scopes := List.forall_mem_append.mpr
    ⟨h.scopes, fun step hstep => (h'.scopes step hstep).trans h.scope⟩
  bindings := by rw [h'.bindings, h.bindings, Variables.after_append]
  scope := h'.scope.trans h.scope

theorem Takes.single (operation : Operation) {u : Variables} {s₁ : Session}
    (h : Step.outcome plan.bindings ⟨operation, plan.scope, s⟩ = (.ok u, s₁)) :
    Takes plan [operation] [⟨operation, plan.scope, s⟩] { plan with bindings := u } :=
  ⟨rfl, by simp, (Step.after_of_ok (congrArg Prod.fst h)).symm, rfl⟩

/-- A directive takes one step or none. -/
theorem exists_takes_of_evaluate {i : Instruction}
    (h : evaluate fetcher plan i s = (.ok plan', s')) :
    ∃ steps, Takes plan (Operation.ofDirective? i.directive).toList steps plan' := by
  obtain ⟨n, d⟩ := i
  cases d with
  | assign a =>
      obtain ⟨u, s₁, hassigned, hlast⟩ := Action.exists_of_bind_ok h
      cases hlast
      exact ⟨_, .single (.assign a) (Action.of_atLine_ok hassigned)⟩
  | condition c =>
      obtain ⟨u, s₁, happlied, hlast⟩ := Action.exists_of_bind_ok h
      cases hlast
      exact ⟨_, .single (.condition c) (Action.of_atLine_ok happlied)⟩
  | download url destination =>
      obtain ⟨url', s₁, _, hchecked⟩ := Action.exists_of_bind_ok h
      cases hcheck : Url.check url' with
      | error fault =>
          simp only [hcheck] at hchecked
          cases hchecked
      | ok _ =>
          simp only [hcheck] at hchecked
          obtain ⟨destination', s₂, _, hfetched⟩ := Action.exists_of_bind_ok hchecked
          obtain ⟨_, s₃, _, hlast⟩ := Action.exists_of_bind_ok hfetched
          cases hlast
          exact ⟨[], .nil rfl rfl⟩
  | makeDirectory p =>
      obtain ⟨p', s₁, _, hmade⟩ := Action.exists_of_bind_ok h
      obtain ⟨_, s₂, _, hlast⟩ := Action.exists_of_bind_ok hmade
      cases hlast
      exact ⟨[], .nil rfl rfl⟩
  | pattern | command | exclude | check | dependency =>
      cases h
      exact ⟨[], .nil rfl rfl⟩

theorem exists_takes_of_evaluateAll {instructions : List Instruction}
    (h : evaluateAll fetcher plan instructions s = (.ok plan', s')) :
    ∃ steps, Takes plan
      ((instructions.map Instruction.directive).filterMap Operation.ofDirective?) steps plan' := by
  induction instructions generalizing plan s with
  | nil =>
      cases h
      exact ⟨[], .nil rfl rfl⟩
  | cons i rest ih =>
      obtain ⟨next, s₁, hfirst, hrest⟩ := Action.exists_of_bind_ok h
      obtain ⟨steps, hsteps⟩ := exists_takes_of_evaluate hfirst
      obtain ⟨later, hlater⟩ := ih hrest
      refine ⟨steps ++ later, ?_⟩
      have htakes := hsteps.append hlater
      rw [List.map_cons, List.filterMap_cons]
      cases hoperation : Operation.ofDirective? i.directive with
      | none => simpa [hoperation] using htakes
      | some operation => simpa [hoperation] using htakes

end Plan

/-- What a directive writes has a name that a manifest may define. -/
theorem Variables.definable_of_written {d : Directive} {step : Step} {u : Variables}
    {a : Assignment} (hd : d.WellFormed) (hstep : Operation.ofDirective? d = some step.operation)
    (h : step.written? u = some a) : Definable a.key := by
  obtain ⟨operation, scope, s⟩ := step
  rw [Step.written?] at h
  split at h
  swap
  · cases h
  rename_i u' houtcome
  cases d with
  | assign a' =>
      cases hstep
      cases h
      have hfree := (Step.insert_of_assign (Step.ok_of_ofVariables houtcome)).1
      exact ⟨hfree, hd.1.key, hd.1.colon⟩
  | condition c =>
      cases hstep
      obtain ⟨raw, actual, hraw, hactual, hchosen⟩ :=
        Action.exists_of_applyCondition (Prod.ext houtcome rfl)
      have hmeant : c.chosen actual = some a := by
        simpa only [Step.meant?, hraw, hactual, Except.toOption, Option.bind_eq_bind,
          Option.bind_some] using h
      have hwell : a.WellFormed := by
        rw [Condition.chosen] at hmeant
        split at hmeant
        · cases hmeant
          exact hd.met
        · exact hd.unmet a hmeant
      rcases hchosen with ⟨a', ha', hassign⟩ | ⟨hnone, -⟩
      · rw [hmeant] at ha'
        cases ha'
        exact ⟨(Step.insert_of_assign hassign).1, hwell.key, hwell.colon⟩
      · rw [hmeant] at hnone
        cases hnone
  | _ => cases hstep

section

variable {fetcher : Fetcher} {options : LoadOptions} {p : Path} {v : Variables} {plan : Plan}
  {s s' : Session}

/-- Loading takes the steps that the lines of the manifest ask for. -/
theorem exists_takes_of_load (h : load fetcher options p v s = (.ok plan, s')) :
    ∃ text s₁ steps, readManifest (Path.absolutize options.workDir p) s = (.ok text, s₁) ∧
      Plan.Takes (Plan.start (Path.absolutize options.workDir p)
          ((Path.parent? (Path.absolutize options.workDir p)).getD options.workDir)
          options.workDir v options.limit)
        (text.lines.filterMap Operation.ofLine?) steps plan := by
  obtain ⟨text, s₁, htext, hloaded⟩ := exists_of_load h
  obtain ⟨instructions, s₂, hread, hrest⟩ := Action.exists_of_bind_ok hloaded
  obtain ⟨plan', s₃, hevaluated, hchecked⟩ := Action.exists_of_bind_ok hrest
  obtain ⟨_, s₄, _, hlast⟩ := Action.exists_of_bind_ok hchecked
  cases hlast
  obtain ⟨steps, hsteps⟩ := Plan.exists_takes_of_evaluateAll hevaluated
  rw [Script.map_directive_of_readFrom (congrArg Prod.fst hread),
    List.filterMap_filterMap] at hsteps
  exact ⟨text, s₁, steps, htext, hsteps⟩

theorem definable_of_load (hv : ∀ key ∈ v.keys, Definable key)
    (h : load fetcher options p v s = (.ok plan, s')) :
    ∀ key ∈ plan.bindings.keys, Definable key := by
  obtain ⟨text, _, steps, _, htakes⟩ := exists_takes_of_load h
  rw [htakes.bindings]
  refine Variables.forall_keys_after hv fun a ha => ?_
  obtain ⟨step, hstep, u, hwritten⟩ := Variables.exists_of_mem_written ha
  have hoperation : step.operation ∈ text.lines.filterMap Operation.ofLine? := by
    rw [← htakes.operations]
    exact List.mem_map_of_mem hstep
  obtain ⟨line, _, hline⟩ := List.mem_filterMap.mp hoperation
  obtain ⟨d, hd, hoperation⟩ := Option.bind_eq_some_iff.mp hline
  exact Variables.definable_of_written (Directive.wellFormed_of_ofLine? hd) hoperation hwritten

/-- The variables over whole runs. Whatever operations come one after the other, and whichever of
them fail: keys that are different stay so; no key is removed or moved, and a new one goes to the
end; an operation that fails leaves the variables as they were; a condition that succeeds has done
what the assignment it has chosen does, or nothing; and each key stands for what was last written
to it. Loading takes such steps, one for each assignment and each condition in the lines of the
manifest. So what an invocation with some flags has loaded has different names for its variables,
neither of the reserved ones among them, each of them some text without a colon and without blanks
around it. -/
theorem variables_over_runs (v : Variables) :
    (∀ steps : List Step, v.keys.Nodup → (v.after steps).keys.Nodup) ∧
    (∀ (before : List Step) (step : Step),
      (v.after before).keys <+: (v.after (before ++ [step])).keys ∧
      (∀ e, (step.outcome (v.after before)).1 = .error e →
        v.after (before ++ [step]) = v.after before) ∧
      (∀ c u, step.operation = .condition c → (step.outcome (v.after before)).1 = .ok u →
        v.after (before ++ [step]) = u ∧
        ∃ raw actual, (v.after before).get? c.key = some raw ∧
          (Expansion.expand step.scope (v.after before) step.session.supply raw).1 = .ok actual ∧
          ((∃ a, c.chosen actual = some a ∧
              Variables.assign (v.after before) a.key a.value = .ok u) ∨
            c.chosen actual = none ∧ u = v.after before))) ∧
    (∀ (steps : List Step) (key : Text), (v.after steps).get? key =
      (((v.written steps).reverse.find? (·.key = key)).map Assignment.value).or (v.get? key)) ∧
    (∀ fetcher options p plan s s', load fetcher options p v s = (.ok plan, s') →
      ∃ text s₁ steps, readManifest (Path.absolutize options.workDir p) s = (.ok text, s₁) ∧
        steps.map Step.operation = text.lines.filterMap Operation.ofLine? ∧
        (∀ step ∈ steps, step.scope = plan.scope) ∧ plan.bindings = v.after steps) ∧
    (∀ home flags, Variables.seeded home flags = .ok v →
      ∀ fetcher options p plan s s', load fetcher options p v s = (.ok plan, s') →
        plan.bindings.keys.Nodup ∧
        ("root" : Text) ∉ plan.bindings.keys ∧ ("file" : Text) ∉ plan.bindings.keys ∧
        ∀ key ∈ plan.bindings.keys, key.IsOperand ∧ ':' ∉ key) := by
  have hlast (before : List Step) (step : Step) :
      v.after (before ++ [step]) = step.after (v.after before) :=
    Variables.after_append v before [step]
  refine ⟨fun steps h => Variables.nodup_keys_after h steps, fun before step => ⟨?_, ?_, ?_⟩,
    Variables.get?_after v, ?_, ?_⟩
  · rw [hlast]
    exact Step.keys_prefix_after _ step
  · intro e he
    rw [hlast, Step.after_of_error he]
  · intro c u hc hu
    refine ⟨by rw [hlast, Step.after_of_ok hu], ?_⟩
    obtain ⟨operation, scope, s⟩ := step
    cases hc
    exact Action.exists_of_applyCondition (Prod.ext hu rfl)
  · intro fetcher options p plan s s' hload
    obtain ⟨text, s₁, steps, htext, htakes⟩ := exists_takes_of_load hload
    refine ⟨text, s₁, steps, htext, htakes.operations, fun step hstep => ?_, htakes.bindings⟩
    rw [htakes.scopes step hstep, htakes.scope]
  · intro home flags hseeded fetcher options p plan s s' hload
    obtain ⟨hnodup, hdefinable⟩ := Variables.definable_of_seeded hseeded
    obtain ⟨_, _, steps, _, htakes⟩ := exists_takes_of_load hload
    have hkeys := definable_of_load hdefinable hload
    refine ⟨?_, fun h => ?_, fun h => ?_, fun key h => ⟨(hkeys key h).operand, (hkeys key h).colon⟩⟩
    · rw [htakes.bindings]
      exact Variables.nodup_keys_after hnodup steps
    · cases (hkeys _ h).free
    · cases (hkeys _ h).free

end

/-- A manifest that chooses by a flag and by what it has chosen. -/
def flaggedManifest : Text := List.flatten
  ["out: a\n", "when:mode is fast do out: b\n", "when:out is b do debug: on else root: x\n"]

def flaggedVariables : Variables :=
  ⟨[("windows", "win32"), ("linux", "linux"), ("macos", "darwin"), ("platform", "linux"),
    ("home", "/home/u"), ("mode", "fast"), ("debug", [])]⟩

theorem bindings_of_flaggedManifest :
    (load (.storing .empty) ⟨"/", 64⟩ "build.yang" flaggedVariables
      (.withManifest flaggedManifest)).1.toOption.map (fun plan => plan.bindings.entries.drop 5) =
        some ([("mode", "fast"), ("debug", "on"), ("out", "b")] : List (Text × Text)) := by
  rw [load_of_found (Session.find_withManifest _)]
  decide +kernel

/-- The second condition overwrites the flag, and its other assignment, to a reserved name, is
not made. -/
theorem variables_over_flagged_run :
    Variables.seeded "/home/u" ["mode: fast", " debug "] = .ok flaggedVariables ∧
    ∃ plan s', load (.storing .empty) ⟨"/", 64⟩ "build.yang" flaggedVariables
        (.withManifest flaggedManifest) = (.ok plan, s') ∧
      plan.bindings.entries.drop 5 =
        ([("mode", "fast"), ("debug", "on"), ("out", "b")] : List (Text × Text)) ∧
      plan.bindings.keys.Nodup ∧ ("root" : Text) ∉ plan.bindings.keys ∧
      ("file" : Text) ∉ plan.bindings.keys ∧
      ∀ key ∈ plan.bindings.keys, key.IsOperand ∧ ':' ∉ key := by
  have hseeded : Variables.seeded "/home/u" ["mode: fast", " debug "] = .ok flaggedVariables := rfl
  obtain ⟨plan, s', hload, hentries⟩ := Action.exists_of_map_answer bindings_of_flaggedManifest
  obtain ⟨_, _, _, _, hkeys⟩ := variables_over_runs flaggedVariables
  exact ⟨hseeded, plan, s', hload, hentries, hkeys _ _ hseeded _ _ _ _ _ _ hload⟩

end BuildManifest
