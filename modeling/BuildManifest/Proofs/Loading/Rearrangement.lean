import BuildManifest.Proofs.Loading.Collecting
import BuildManifest.Proofs.Loading.Overlooking
import BuildManifest.Proofs.Script

/-!
Moving the lines of a manifest. Some directives are carried out at once and the rest only put
something down for later, each kind in a list of its own. What is put down has no influence on
what is carried out, so it can as well be put down at the end; and then only the order of the
lines that are carried out matters, and for each of the lists the order of the lines it is
made from.
-/

namespace BuildManifest

namespace Directive

/-- The kinds of directives that are carried out one by one, or collected in a list of their
own. -/
inductive Group where
  | immediate
  | command
  | check
  | dependency
  | pattern
  | exclusion
  deriving DecidableEq, Repr

def group : Directive → Group
  | .assign _ | .condition _ | .makeDirectory _ | .download _ _ => .immediate
  | .command _ => .command
  | .check _ => .check
  | .dependency _ => .dependency
  | .pattern _ _ => .pattern
  | .exclude _ => .exclusion

/-- A directive adds to the list of its own group only. -/
theorem lists_of_group (d : Directive) :
    (d.group ≠ .pattern → d.patterns = []) ∧ (d.group ≠ .command → d.commands = []) ∧
    (d.group ≠ .exclusion → d.exclusions = []) ∧
    (d.group ≠ .dependency → d.dependencies = []) ∧ (d.group ≠ .check → d.checks = []) := by
  cases d <;> simp [group]

/-- Only the directives of one group matter to what no other directive adds to. -/
theorem flatMap_filter_group {α : Type} {f : Directive → List α} {g : Group}
    (h : ∀ d : Directive, d.group ≠ g → f d = []) (directives : List Directive) :
    (directives.filter (·.group = g)).flatMap f = directives.flatMap f := by
  induction directives with
  | nil => rfl
  | cons d rest ih =>
      by_cases hd : d.group = g
      · rw [List.filter_cons_of_pos (by simpa using hd), List.flatMap_cons, List.flatMap_cons, ih]
      · rw [List.filter_cons_of_neg (by simpa using hd), List.flatMap_cons, h d hd, ih,
          List.nil_append]

theorem flatMap_congr_group {α : Type} {f : Directive → List α} {g : Group}
    (hf : ∀ d : Directive, d.group ≠ g → f d = []) {directives directives' : List Directive}
    (h : directives.filter (·.group = g) = directives'.filter (·.group = g)) :
    directives.flatMap f = directives'.flatMap f := by
  rw [← flatMap_filter_group hf, h, flatMap_filter_group hf]

end Directive

namespace Plan

/-- The plan with what the directives ask for later put down. -/
def collect (plan : Plan) (directives : List Directive) : Plan :=
  { plan with
    patterns := (directives.flatMap Directive.patterns).foldl (fun t e => t.insert e.1 e.2)
      plan.patterns
    commands := plan.commands ++ directives.flatMap Directive.commands
    excludes := plan.excludes ++ directives.flatMap Directive.exclusions
    dependencies := plan.dependencies ++ directives.flatMap Directive.dependencies
    checks := plan.checks ++ directives.flatMap Directive.checks }

variable {fetcher : Fetcher} {plan : Plan} {i : Instruction} {d : Directive}
  {directives directives' : List Directive} {instructions : List Instruction}

theorem collect_nil (plan : Plan) : plan.collect [] = plan := by
  simp [collect]

theorem collect_append (plan : Plan) (directives directives' : List Directive) :
    (plan.collect directives).collect directives' = plan.collect (directives ++ directives') := by
  simp [collect]

/-- Nothing is put down for a directive that is carried out at once. -/
theorem collect_cons_of_immediate (h : d.group = .immediate) :
    plan.collect (d :: directives) = plan.collect directives := by
  cases d with
  | assign | condition | download | makeDirectory => rfl
  | pattern | command | exclude | check | dependency => cases h

theorem collect_congr (h : ∀ g : Directive.Group, g ≠ .immediate →
    directives.filter (·.group = g) = directives'.filter (·.group = g)) (plan : Plan) :
    plan.collect directives = plan.collect directives' := by
  have hpatterns := Directive.flatMap_congr_group (fun d => d.lists_of_group.1)
    (h .pattern (by decide))
  have hcommands := Directive.flatMap_congr_group (fun d => d.lists_of_group.2.1)
    (h .command (by decide))
  have hexcludes := Directive.flatMap_congr_group (fun d => d.lists_of_group.2.2.1)
    (h .exclusion (by decide))
  have hdependencies := Directive.flatMap_congr_group (fun d => d.lists_of_group.2.2.2.1)
    (h .dependency (by decide))
  have hchecks := Directive.flatMap_congr_group (fun d => d.lists_of_group.2.2.2.2)
    (h .check (by decide))
  rw [collect, collect, hpatterns, hcommands, hexcludes, hdependencies, hchecks]

/-- A directive of the other groups does nothing else. -/
theorem evaluate_of_collected (h : i.directive.group ≠ .immediate) :
    evaluate fetcher plan i = pure (plan.collect [i.directive]) := by
  obtain ⟨n, d⟩ := i
  cases d with
  | assign | condition | download | makeDirectory => exact absurd rfl h
  | pattern | command | exclude | check | dependency => simp [evaluate, collect]

/-- What has been put down has no influence on a directive that is carried out. -/
theorem evaluate_collect (h : i.directive.group = .immediate) (directives : List Directive) :
    evaluate fetcher (plan.collect directives) i =
      (·.collect directives) <$> evaluate fetcher plan i := by
  obtain ⟨n, d⟩ := i
  cases d with
  | pattern | command | exclude | check | dependency => cases h
  | assign a => simp only [evaluate, map_bind, map_pure]; rfl
  | condition c => simp only [evaluate, map_bind, map_pure]; rfl
  | makeDirectory p => simp only [evaluate, map_bind, map_pure]; rfl
  | download url destination =>
      simp only [evaluate, map_bind]
      refine congrArg _ (funext fun url => ?_)
      cases Url.check url with
      | error fault => rfl
      | ok _ => simp only [map_bind, map_pure]; rfl

theorem evaluateAll_collect (h : ∀ i ∈ instructions, i.directive.group = .immediate)
    (plan : Plan) (directives : List Directive) :
    evaluateAll fetcher (plan.collect directives) instructions =
      (·.collect directives) <$> evaluateAll fetcher plan instructions := by
  induction instructions generalizing plan with
  | nil => rfl
  | cons i rest ih =>
      rw [List.forall_mem_cons] at h
      simp only [evaluateAll, evaluate_collect h.1, bind_map_left, map_bind, ih h.2]

/-- Carrying out all directives is carrying out the immediate ones and then putting down what
the others ask for. -/
theorem evaluateAll_eq (fetcher : Fetcher) (plan : Plan) (instructions : List Instruction) :
    evaluateAll fetcher plan instructions =
      (·.collect (instructions.map Instruction.directive)) <$>
        evaluateAll fetcher plan (instructions.filter (·.directive.group = .immediate)) := by
  induction instructions generalizing plan with
  | nil => simp [evaluateAll, collect_nil]
  | cons i rest ih =>
      by_cases hi : i.directive.group = .immediate
      · rw [List.filter_cons_of_pos (by simpa using hi), evaluateAll, evaluateAll, map_bind]
        refine congrArg _ (funext fun plan => ?_)
        rw [ih]
        simp only [List.map_cons, collect_cons_of_immediate hi]
      · -- what is put down here moves behind the directives that follow
        rw [List.filter_cons_of_neg (by simpa using hi), evaluateAll, evaluate_of_collected hi,
          pure_bind, ih, evaluateAll_collect (by simp)]
        simp only [← comp_map, Function.comp_def, collect_append, List.map_cons,
          List.singleton_append]

end Plan

/-- The same failure, but for the number of the line that it is reported against. -/
inductive Failure.SameButLine : Failure → Failure → Prop
  | refl (e : Failure) : SameButLine e e
  | parse (path : Path) (n n' : Nat) (reason : Text) :
      SameButLine (.parse path n reason) (.parse path n' reason)

theorem sameLine_sameButLine (n n' : Nat) : SameLine Failure.SameButLine n n' :=
  fun path reason => .parse path n n' reason

section

variable {fetcher : Fetcher} {location : Location}

theorem forall₂_of_map_eq {α β : Type} {f : α → β} {l l' : List α} (h : l.map f = l'.map f) :
    List.Forall₂ (fun a a' => f a = f a') l l' := by
  rwa [← List.forall₂_eq_eq_eq, List.forall₂_map_left_iff, List.forall₂_map_right_iff] at h

/-- Two lists of directives with the same ones of each group in the same order are carried out
alike. -/
theorem parallel_loadScript_of_groups (options : LoadOptions) (p : Path) (v : Variables)
    (hfetcher : fetcher.Overlooks location) {instructions instructions' : List Instruction}
    (h : ∀ g : Directive.Group, (instructions.map Instruction.directive).filter (·.group = g) =
      (instructions'.map Instruction.directive).filter (·.group = g)) :
    Action.Parallel location Failure.SameButLine (loadScript fetcher options p v instructions)
      (loadScript fetcher options p v instructions') := by
  have hcollect := Plan.collect_congr fun g _ => h g
  have himmediate : List.Forall₂ (Instruction.Same (SameLine Failure.SameButLine))
      (instructions.filter (·.directive.group = .immediate))
      (instructions'.filter (·.directive.group = .immediate)) := by
    have hsame := h .immediate
    rw [List.filter_map, List.filter_map] at hsame
    exact (forall₂_of_map_eq hsame).imp fun _ _ hd => ⟨hd, sameLine_sameButLine _ _⟩
  have hdeferred : List.Forall₂
      (fun e e' => e.2 = e'.2 ∧ SameLine Failure.SameButLine e.1 e'.1)
      (Plan.deferred instructions) (Plan.deferred instructions') := by
    have hsame := Directive.flatMap_congr_group
      (f := fun d => d.exclusions.filter Directive.isDeferred)
      (fun d hd => by rw [d.lists_of_group.2.2.1 hd, List.filter_nil]) (h .exclusion)
    rw [← Plan.map_deferred, ← Plan.map_deferred] at hsame
    exact (forall₂_of_map_eq hsame).imp fun _ _ he => ⟨he, sameLine_sameButLine _ _⟩
  simp only [loadScript, Plan.evaluateAll_eq fetcher _ instructions,
    Plan.evaluateAll_eq fetcher _ instructions', bind_map_left, hcollect]
  have hlinked := parallel_linked hfetcher Failure.SameButLine.refl
  refine (hlinked.evaluateAll himmediate _).bind fun plan => ?_
  exact (hlinked.checkDeferred _ hdeferred).bind fun _ => Action.parallel_pure _

end

namespace Script

/-- The group that a line belongs to by its directive, if it has one. -/
def groupOf? (line : Text) : Option Directive.Group :=
  (Directive.ofLine? line).map Directive.group

/-- The same lines in another order, but for those of one group in the same order. -/
structure Rearranged (lines lines' : List Text) : Prop where
  perm : lines'.Perm lines
  order : ∀ g : Directive.Group,
    lines'.filter (groupOf? · = some g) = lines.filter (groupOf? · = some g)

theorem filterMap_ofLine?_filter (g : Directive.Group) (lines : List Text) :
    (lines.filterMap Directive.ofLine?).filter (·.group = g) =
      (lines.filter (groupOf? · = some g)).filterMap Directive.ofLine? := by
  induction lines with
  | nil => rfl
  | cons line rest ih =>
      cases hline : Directive.ofLine? line with
      | none =>
          rw [List.filterMap_cons_none hline, List.filter_cons_of_neg (by simp [groupOf?, hline]),
            ih]
      | some d =>
          rw [List.filterMap_cons_some hline]
          by_cases hd : d.group = g
          · rw [List.filter_cons_of_pos (by simpa using hd),
              List.filter_cons_of_pos (by simp [groupOf?, hline, hd]),
              List.filterMap_cons_some hline, ih]
          · rw [List.filter_cons_of_neg (by simpa using hd),
              List.filter_cons_of_neg (by simp [groupOf?, hline, hd]), ih]

variable {lines lines' : List Text}

theorem ofLine?_trim (line : Text) : Directive.ofLine? line.trim = Directive.ofLine? line := by
  rw [Directive.ofLine?, Directive.read?_trim, Directive.ofLine?]

theorem Rearranged.readable (h : Rearranged (lines.map Text.trim) (lines'.map Text.trim))
    (hreadable : Readable lines) : Readable lines' := by
  intro line' hline'
  obtain ⟨line, hline, htrim⟩ := List.mem_map.mp (h.perm.mem_iff.mp (List.mem_map_of_mem hline'))
  obtain ⟨d, hd⟩ := hreadable line hline
  refine ⟨d, ?_⟩
  rw [← Directive.read?_trim, ← htrim, Directive.read?_trim, hd]

/-- The directives of each group are the same ones in the same order. -/
theorem Rearranged.groups (h : Rearranged (lines.map Text.trim) (lines'.map Text.trim))
    (g : Directive.Group) :
    (lines'.filterMap Directive.ofLine?).filter (·.group = g) =
      (lines.filterMap Directive.ofLine?).filter (·.group = g) := by
  have htrim (lines : List Text) :
      (lines.map Text.trim).filterMap Directive.ofLine? = lines.filterMap Directive.ofLine? := by
    rw [List.filterMap_map]
    exact congrArg (List.filterMap · lines) (funext ofLine?_trim)
  rw [← htrim lines', ← htrim lines, filterMap_ofLine?_filter, filterMap_ofLine?_filter,
    h.order g]

end Script

section

variable {fetcher : Fetcher} {location : Location}

/-- Only the order within a group of lines matters. Take two sessions that differ in no more than
the text of the manifest, of which the lines can be read, and let the second text have the lines
of the first in another order, blanks at their ends aside, in which those of one group keep their
order. Then either both loads succeed, with the same plan, or both fail, with the same failure but
for the number of the line. In either case they leave sessions that differ in no more than the
text of the manifest: they have asked for the same files, drawn the same tokens and left the same
files. -/
theorem load_of_rearranged (options : LoadOptions) (p : Path) (v : Variables)
    (hfetcher : fetcher.Overlooks location) {s s' : Session} (hs : s.SameAside location s')
    {text text' : Text} {executable executable' : Bool}
    (hfile : s.world.find (Path.absolutize options.workDir p) =
      .ok (.found location (.file text.toBytes executable)))
    (hfile' : s'.world.find (Path.absolutize options.workDir p) =
      .ok (.found location (.file text'.toBytes executable')))
    (hreadable : Script.Readable text.lines)
    (hmoved : Script.Rearranged (text.lines.map Text.trim) (text'.lines.map Text.trim)) :
    ∃ r t r' t', load fetcher options p v s = (r, t) ∧ load fetcher options p v s' = (r', t') ∧
      (∀ plan, r = .ok plan ↔ r' = .ok plan) ∧
      (∀ e, r = .error e → ∃ e', r' = .error e' ∧ e.SameButLine e') ∧
      t.SameAside location t' := by
  obtain ⟨instructions, hread⟩ :=
    Script.exists_readFrom hreadable (Path.absolutize options.workDir p) 1
  obtain ⟨instructions', hread'⟩ :=
    Script.exists_readFrom (hmoved.readable hreadable) (Path.absolutize options.workDir p) 1
  have hgroups (g : Directive.Group) :
      (instructions.map Instruction.directive).filter (·.group = g) =
        (instructions'.map Instruction.directive).filter (·.group = g) := by
    rw [Script.map_directive_of_readFrom hread, Script.map_directive_of_readFrom hread',
      hmoved.groups g]
  obtain ⟨hresult, hsession⟩ :=
    parallel_loadScript_of_groups options (Path.absolutize options.workDir p) v hfetcher hgroups
      s s' hs
  rw [← load_of_directives hfile hread, ← load_of_directives hfile' hread'] at hresult hsession
  exact ⟨_, _, _, _, rfl, rfl, fun _ => hresult.ok_iff, fun _ => hresult.exists_of_error,
    hsession⟩

end

/-- A manifest that uses a variable before it is set. -/
def scatteredManifest : Text := List.flatten
  ["cmd:make $out\n", "out: l/x\n", "exclude:$out/*.o\n", "mkdir:$out\n", "check:test $out\n",
    "# the archive\n", "download:http://h/f in $out/f\n", "cmd:make clean\n", "for .c: cc $file"]

def gatheredManifest : Text := List.flatten
  ["# the archive\n", "out: l/x\n", "mkdir:$out\n", "download:http://h/f in $out/f\n",
    "for .c: cc $file\r\n", "exclude:$out/*.o\n", "cmd:make $out\n", "cmd:make clean\n",
    "check:test $out\n"]

theorem commands_of_scatteredManifest :
    (load (.storing .empty) ⟨"/", 64⟩ "build.yang" Table.empty
      (.withManifest scatteredManifest)).1.toOption.map Plan.commands =
        some (["make $out", "make clean"] : List Text) := by
  rw [load_of_found (Session.find_withManifest _)]
  decide +kernel

/-- Both manifests ask for the same commands, and both leave the same files. -/
theorem load_of_gatheredManifest :
    (Fetcher.storing .empty).Overlooks ["build.yang"] ∧
    (Session.withManifest scatteredManifest).SameAside ["build.yang"]
      (.withManifest gatheredManifest) ∧
    Script.Readable scatteredManifest.lines ∧
    Script.Rearranged (scatteredManifest.lines.map Text.trim)
      (gatheredManifest.lines.map Text.trim) ∧
    ∃ plan t t',
      load (.storing .empty) ⟨"/", 64⟩ "build.yang" Table.empty
        (.withManifest scatteredManifest) = (.ok plan, t) ∧
      load (.storing .empty) ⟨"/", 64⟩ "build.yang" Table.empty
        (.withManifest gatheredManifest) = (.ok plan, t') ∧
      plan.commands = (["make $out", "make clean"] : List Text) ∧ t.SameAside ["build.yang"] t' := by
  have hfetcher := Fetcher.storing_overlooks .empty ["build.yang"]
  have hs := Session.sameAside_withManifest scatteredManifest gatheredManifest
  have hreadable : Script.Readable scatteredManifest.lines := by decide +kernel
  have hmoved : Script.Rearranged (scatteredManifest.lines.map Text.trim)
      (gatheredManifest.lines.map Text.trim) :=
    ⟨by decide +kernel, fun g => by cases g <;> decide +kernel⟩
  obtain ⟨r, t, r', t', hload, hload', hplan, _, hsession⟩ :=
    load_of_rearranged ⟨"/", 64⟩ "build.yang" Table.empty hfetcher hs
      (Session.find_withManifest _) (Session.find_withManifest _) hreadable hmoved
  obtain ⟨plan, _, hplanned, hcommands⟩ :=
    Action.exists_of_map_answer commands_of_scatteredManifest
  obtain ⟨rfl, rfl⟩ := Prod.mk.inj (hload.symm.trans hplanned)
  obtain rfl := (hplan plan).mp rfl
  exact ⟨hfetcher, hs, hreadable, hmoved, plan, _, t', hload, hload', hcommands, hsession⟩

end BuildManifest
