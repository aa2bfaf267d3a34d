import BuildManifest.Proofs.Loading.Collecting
import BuildManifest.Proofs.Loading.Overlooking
import BuildManifest.Proofs.Script

/-!
Nothing comes after a failure. A directive that fails is the last one that is carried out, so
whatever lines are put behind a manifest that fails, it fails in the same way. If the failure
is blamed on a line, this line has done nothing itself: before it got anywhere near the files
it was found at fault.
-/

namespace BuildManifest

namespace Action

variable {α β : Type} {own : Failure → Session → Prop} {n : Nat} {a : Action α} {f : α → Action β}

/-- Changes no file and asks for none, whether it succeeds or fails. -/
def Quiet (a : Action α) : Prop :=
  ∀ s, (a s).2.fetches = s.fetches ∧ (a s).2.world.SameFiles s.world

/-- Blames no failure on a line, other than on behalf of somebody else. -/
def Blameless (own : Failure → Session → Prop) (a : Action α) : Prop :=
  ∀ s path line reason s', a s = (.error (.parse path line reason), s') →
    own (.parse path line reason) s'

/-- Blames failures on this line only, and only before it has changed or asked for a file. -/
def Blames (own : Failure → Session → Prop) (n : Nat) (a : Action α) : Prop :=
  ∀ s path line reason s', a s = (.error (.parse path line reason), s') →
    ¬ own (.parse path line reason) s' →
    line = n ∧ s'.fetches = s.fetches ∧ s'.world.SameFiles s.world

theorem quiet_pure (x : α) : Quiet (pure x : Action α) := fun s => ⟨rfl, .refl s.world⟩

theorem quiet_fail (e : Failure) : Quiet (fail e : Action α) := fun s => ⟨rfl, .refl s.world⟩

theorem quiet_say (t : Text) : Quiet (say t) :=
  fun s => ⟨rfl, World.sameFiles_print s.world _⟩

theorem quiet_expand (scope : Scope) (v : Variables) (t : Text) : Quiet (expand scope v t) :=
  fun s => ⟨rfl, .refl s.world⟩

theorem Quiet.bind (ha : Quiet a) (hf : ∀ x, Quiet (f x)) : Quiet (a >>= f) := by
  intro s
  obtain ⟨hfetches, hfiles⟩ := ha s
  rw [bind_apply]
  cases hrun : a s with
  | mk r t =>
      rw [hrun] at hfetches hfiles
      cases r with
      | error e => exact ⟨hfetches, hfiles⟩
      | ok x => exact ⟨(hf x t).1.trans hfetches, (hf x t).2.trans hfiles⟩

theorem quiet_chained : Chained fun _ a _ => Quiet a where
  pure := quiet_pure
  badVariable _ := quiet_fail _
  say := quiet_say
  expand := quiet_expand
  bind ha hf := ha.bind hf

theorem blameless_pure (x : α) : Blameless own (pure x : Action α) := by
  intro s path line reason s' h
  cases h

theorem blameless_say (t : Text) : Blameless own (say t) := by
  intro s path line reason s' h
  cases h

theorem blameless_expand (scope : Scope) (v : Variables) (t : Text) :
    Blameless own (expand scope v t) := by
  intro s path line reason s' h
  cases Expansion.eq_expansion_of_expand (congrArg Prod.fst h)

theorem blameless_makeDirectories (p : Path) : Blameless own (makeDirectories p) := by
  intro s path line reason s' h
  have hresult : ofSystem (s.world.makeDirectories p).1 = .error (.parse path line reason) :=
    congrArg Prod.fst h
  generalize (s.world.makeDirectories p).1 = r at hresult
  cases r <;> cases hresult

theorem Blameless.bind (ha : Blameless own a) (hf : ∀ x, Blameless own (f x)) :
    Blameless own (a >>= f) := by
  intro s path line reason s' h
  rw [bind_apply] at h
  cases hrun : a s with
  | mk r t =>
      rw [hrun] at h
      cases r with
      | ok x => exact hf x t path line reason s' h
      | error e =>
          cases h
          exact ha s path line reason s' hrun

theorem blameless_chained : Chained fun _ a _ => Blameless own a where
  pure := blameless_pure
  badVariable _ s path line reason s' h := by cases h
  say := blameless_say
  expand := blameless_expand
  bind ha hf := ha.bind hf

theorem Blameless.blames (h : Blameless own a) (n : Nat) : Blames own n a :=
  fun s path line reason s' hrun hown => absurd (h s path line reason s' hrun) hown

theorem blames_fail (path : Path) (n : Nat) (reason : Text) :
    Blames own n (fail (.parse path n reason) : Action α) := by
  intro s path' line reason' s' h _
  cases h
  exact ⟨rfl, rfl, .refl s.world⟩

/-- What comes first must not have done anything if what comes later may be at fault. -/
theorem Quiet.bind_blames (hquiet : Quiet a) (ha : Blames own n a) (hf : ∀ x, Blames own n (f x)) :
    Blames own n (a >>= f) := by
  intro s path line reason s' h hown
  obtain ⟨hfetches, hfiles⟩ := hquiet s
  rw [bind_apply] at h
  cases hrun : a s with
  | mk r t =>
      rw [hrun] at h hfetches hfiles
      cases r with
      | error e =>
          cases h
          exact ha s path line reason s' hrun hown
      | ok x =>
          obtain ⟨hline, hfetches', hfiles'⟩ := hf x t path line reason s' h hown
          exact ⟨hline, hfetches'.trans hfetches, hfiles'.trans hfiles⟩

theorem quiet_atLine {path : Path} (h : Quiet a) : Quiet (atLine path n a) := by
  intro s
  have hs := h s
  rw [atLine]
  cases hrun : a s with
  | mk r t =>
      rw [hrun] at hs
      cases r <;> exact hs

/-- A failure under the number of a line is blamed on it, and comes before any file has been
changed. -/
theorem blames_atLine {path : Path} (hquiet : Quiet a) (h : Blameless own a) :
    Blames own n (atLine path n a) := by
  intro s path' line reason s' hrun' hown
  obtain ⟨hfetches, hfiles⟩ := hquiet s
  rw [atLine] at hrun'
  cases hrun : a s with
  | mk r t =>
      rw [hrun] at hrun' hfetches hfiles
      cases r with
      | ok x => cases hrun'
      | error e =>
          cases e with
          | badVariable reason =>
              cases hrun'
              exact ⟨rfl, hfetches, hfiles⟩
          | parse path line reason =>
              cases hrun'
              exact absurd (h s _ _ _ _ hrun) hown
          | _ => cases hrun'

end Action

section

open BuildManifest.Action (Quiet Blameless Blames)

variable {fetcher : Fetcher}

/-- The failure can be the answer of the fetcher to what it was asked for last. -/
def Fetcher.Reports (fetcher : Fetcher) (e : Failure) (s : Session) : Prop :=
  ∃ url destination w, s.fetches.getLast? = some (url, destination) ∧
    (fetcher url destination w).1 = .error e

/-- A file that cannot be written has a reason for it, but no line. -/
theorem Fetcher.not_reports_storing (content : ByteArray) (path : Path) (line : Nat)
    (reason : Text) (s : Session) :
    ¬ (Fetcher.storing content).Reports (.parse path line reason) s := by
  rintro ⟨url, destination, w, _, hanswer⟩
  rw [Fetcher.storing] at hanswer
  split at hanswer <;> cases hanswer

theorem blameless_fetch (url : Text) (destination : Path) :
    Blameless fetcher.Reports (Action.fetch fetcher url destination) := by
  intro s path line reason s' h
  have hasked : s'.fetches = s.fetches ++ [(url, destination)] :=
    congrArg Session.fetches (congrArg Prod.snd h).symm
  refine ⟨url, destination, s.world, ?_, congrArg Prod.fst h⟩
  rw [hasked, List.getLast?_concat]

theorem blameless_fetchUnlessPresent (url : Text) (destination : Path) :
    Blameless fetcher.Reports (fetchUnlessPresent fetcher url destination) := by
  intro s path line reason s' h
  cases hpresent : s.world.isPresent destination with
  | true =>
      rw [fetchUnlessPresent_of_present hpresent] at h
      cases h
  | false =>
      rw [fetchUnlessPresent_of_absent hpresent] at h
      have hfetch : Blameless fetcher.Reports
          (Action.fetch fetcher url destination >>= fun _ =>
            Action.say (("* downloaded " : Text) ++ url)) :=
        (blameless_fetch url destination).bind fun _ => Action.blameless_say _
      exact (Action.blameless_say _).bind (fun _ => hfetch) s path line reason s' h

namespace Plan

/-- A directive that is blamed has done nothing. -/
theorem blames_evaluate (plan : Plan) (i : Instruction) :
    Blames fetcher.Reports i.number (evaluate fetcher plan i) := by
  obtain ⟨n, d⟩ := i
  have hpure (plan : Plan) : Blames fetcher.Reports n (pure plan : Action Plan) :=
    (Action.blameless_pure plan).blames n
  cases d with
  | assign a =>
      have hassign := Action.quiet_chained.ofVariables (Variables.assign plan.bindings a.key a.value)
      refine (Action.quiet_atLine hassign).bind_blames ?_ fun _ => hpure _
      exact Action.blames_atLine hassign (Action.blameless_chained.ofVariables _)
  | condition c =>
      have happly := Action.quiet_chained.applyCondition plan.scope plan.bindings c
      refine (Action.quiet_atLine happly).bind_blames ?_ fun _ => hpure _
      exact Action.blames_atLine happly (Action.blameless_chained.applyCondition _ _ c)
  | download url destination =>
      refine (Action.quiet_expand _ _ _).bind_blames ((Action.blameless_expand _ _ _).blames n)
        fun url => ?_
      dsimp only
      split
      · exact Action.blames_fail _ n _
      · refine Blameless.blames (Blameless.bind (Action.blameless_expand _ _ _) fun _ => ?_) n
        refine Blameless.bind ?_ fun _ => Action.blameless_pure plan
        exact Action.blameless_chained.fetchMissing fetcher fetcher
          Action.blameless_makeDirectories (blameless_fetchUnlessPresent url _)
  | makeDirectory p =>
      refine Blameless.blames (Blameless.bind (Action.blameless_expand _ _ _) fun _ => ?_) n
      exact (Action.blameless_makeDirectories _).bind fun _ => Action.blameless_pure plan
  | pattern | command | exclude | check | dependency => exact hpure _

/-- To carry out more directives is to go on from the plan that the first ones lead to. -/
theorem evaluateAll_append (fetcher : Fetcher) (plan : Plan)
    (instructions later : List Instruction) :
    evaluateAll fetcher plan (instructions ++ later) =
      evaluateAll fetcher plan instructions >>= fun plan => evaluateAll fetcher plan later := by
  induction instructions generalizing plan with
  | nil => rw [List.nil_append, evaluateAll, pure_bind]
  | cons i rest ih => simp only [List.cons_append, evaluateAll, bind_assoc, ih]

/-- Among directives that are not all carried out there is one that fails, after those before
it have succeeded. -/
theorem exists_failing {plan : Plan} {instructions : List Instruction} {s t : Session}
    {e : Failure} (h : evaluateAll fetcher plan instructions s = (.error e, t)) :
    ∃ before i after reached s₁, instructions = before ++ i :: after ∧
      evaluateAll fetcher plan before s = (.ok reached, s₁) ∧
      evaluate fetcher reached i s₁ = (.error e, t) := by
  induction instructions generalizing plan s with
  | nil => cases h
  | cons i rest ih =>
      rw [evaluateAll, Action.bind_apply] at h
      cases hfirst : evaluate fetcher plan i s with
      | mk r s₁ =>
          rw [hfirst] at h
          cases r with
          | error e' =>
              cases h
              exact ⟨[], i, rest, plan, s, rfl, rfl, hfirst⟩
          | ok next =>
              obtain ⟨before, j, after, reached, s₂, rfl, hbefore, hj⟩ := ih h
              refine ⟨i :: before, j, after, reached, s₂, rfl, ?_, hj⟩
              rw [evaluateAll, Action.bind_of_ok hfirst, hbefore]

theorem parallel_evaluateAll_self {location : Location} (h : fetcher.Overlooks location)
    (plan : Plan) (instructions : List Instruction) :
    Action.Parallel location Eq (evaluateAll fetcher plan instructions)
      (evaluateAll fetcher plan instructions) := by
  refine (parallel_linked h Eq.refl).evaluateAll ?_ plan
  exact List.forall₂_same.mpr fun _ _ => ⟨rfl, fun _ _ => rfl⟩

end Plan

/-- None of the exclude entries in the lines has a variable. -/
def Script.PlainExclusions (lines : List Text) : Prop :=
  ∀ line ∈ lines, ∀ d ∈ Directive.ofLine? line, ∀ entry ∈ d.exclusions, '$' ∉ entry

instance : DecidablePred Script.PlainExclusions := fun lines =>
  inferInstanceAs (Decidable
    (∀ line ∈ lines, ∀ d ∈ Directive.ofLine? line, ∀ entry ∈ d.exclusions, '$' ∉ entry))

/-- Then there is nothing to check when the variables have their last values. -/
theorem Script.PlainExclusions.deferred {path : Path} {number : Nat} {lines : List Text}
    {instructions : List Instruction} (h : PlainExclusions lines)
    (hread : readFrom path number lines = .ok instructions) : Plan.deferred instructions = [] := by
  rw [← List.map_eq_nil_iff (f := Prod.snd), Plan.map_deferred, map_directive_of_readFrom hread,
    List.flatMap_eq_nil_iff]
  intro d hd
  obtain ⟨line, hline, hd⟩ := List.mem_filterMap.mp hd
  rw [List.filter_eq_nil_iff]
  intro entry hentry
  simpa [Directive.isDeferred] using h line hline d hd entry hentry

/-- If no entry has to wait for the variables, loading is nothing but carrying out the directives.
-/
theorem loadScript_of_undeferred {options : LoadOptions} {p : Path} {v : Variables}
    {instructions : List Instruction} (h : Plan.deferred instructions = []) :
    loadScript fetcher options p v instructions =
      Plan.evaluateAll fetcher
        (Plan.start p ((Path.parent? p).getD options.workDir) options.workDir v options.limit)
        instructions := by
  simp only [loadScript, h, Plan.checkDeferred, pure_bind, bind_pure]

section

variable {location : Location}

/-- Evaluation is fail-fast. If a manifest that can be read and has no variable in an exclude
entry fails to load, then with any lines behind it that can be read it fails in the same way: with
the same failure, having asked for the same files, printed the same and left the same files, the
text of the manifest aside. If the failure is blamed on a line, and is not just what the fetcher
has answered, this line has neither asked for a file nor changed one: the record and the files are
those that loading the lines before it leaves, and these do load. -/
theorem load_of_continued (options : LoadOptions) (p : Path) (v : Variables)
    (hfetcher : fetcher.Overlooks location) {s s' t : Session} (hs : s.SameAside location s')
    {text more : Text} {executable executable' : Bool}
    (hfile : s.world.find (Path.absolutize options.workDir p) =
      .ok (.found location (.file text.toBytes executable)))
    (hfile' : s'.world.find (Path.absolutize options.workDir p) =
      .ok (.found location (.file (text ++ '\n' :: more).toBytes executable')))
    (hreadable : Script.Readable text.lines) (hmore : Script.Readable more.lines)
    (hplain : Script.PlainExclusions text.lines) {e : Failure}
    (hload : load fetcher options p v s = (.error e, t)) :
    (∃ t', load fetcher options p v s' = (.error e, t') ∧ t.SameAside location t') ∧
    ∀ path number reason, e = .parse path number reason → ¬ fetcher.Reports e t →
      0 < number ∧ number ≤ text.lines.length ∧
      ∀ (s₀ : Session) (executable₀ : Bool), s.SameAside location s₀ →
        s₀.world.find (Path.absolutize options.workDir p) =
          .ok (.found location (.file (text.firstLines (number - 1)).toBytes executable₀)) →
        ∃ plan t₀, load fetcher options p v s₀ = (.ok plan, t₀) ∧ t₀.fetches = t.fetches ∧
          t₀.world.tree.emptyAt location = t.world.tree.emptyAt location := by
  obtain ⟨instructions, hread⟩ :=
    Script.exists_readFrom hreadable (Path.absolutize options.workDir p) 1
  obtain ⟨later, hlater⟩ :=
    Script.exists_readFrom hmore (Path.absolutize options.workDir p) (1 + text.count '\n' + 1)
  have hread' := Script.readFrom_append_newline hread hlater
  rw [load_of_directives hfile hread, loadScript_of_undeferred (hplain.deferred hread)] at hload
  constructor
  · obtain ⟨hresult, hsession⟩ := Plan.parallel_evaluateAll_self hfetcher _ instructions s s' hs
    rw [hload] at hresult hsession
    obtain ⟨e', hfailed, rfl⟩ := hresult.exists_of_error rfl
    refine ⟨_, ?_, hsession⟩
    rw [load_of_directives hfile' hread', loadScript, Plan.evaluateAll_append, bind_assoc]
    exact Action.bind_of_error (Prod.ext hfailed rfl)
  · rintro path number reason rfl hown
    obtain ⟨before, i, after, reached, s₁, rfl, hbefore, hfailed⟩ := Plan.exists_failing hload
    obtain ⟨rfl, hfetches, hfiles⟩ :=
      Plan.blames_evaluate reached i s₁ path number reason t hfailed hown
    obtain ⟨k, hk, hnumber, htake⟩ := Script.exists_take_of_readFrom hread
    refine ⟨by omega, by omega, fun s₀ executable₀ hs₀ hfile₀ => ?_⟩
    have hread₀ : Script.read (Path.absolutize options.workDir p)
        (text.firstLines (i.number - 1)) = .ok before := by
      rw [Script.read, Text.lines_firstLines, hnumber, Nat.add_sub_cancel_left, htake]
    have hplain₀ : Script.PlainExclusions (text.lines.take k) :=
      fun line hline => hplain line (List.mem_of_mem_take hline)
    obtain ⟨hresult, hsession⟩ := Plan.parallel_evaluateAll_self hfetcher _ before s s₀ hs₀
    rw [hbefore] at hresult hsession
    refine ⟨reached, _, ?_, hsession.fetches.symm.trans hfetches.symm, ?_⟩
    · rw [load_of_directives hfile₀ hread₀, loadScript_of_undeferred (hplain₀.deferred htake)]
      exact Prod.ext (hresult.ok_iff.mp rfl) rfl
    · rw [← hsession.world.tree, hfiles.tree]

end

end

/-- A manifest that gives a reserved name a value after it has fetched a file. -/
def interruptedManifest : Text := List.flatten
  ["out: a/b\n", "download:http://h/f in $out/f\n", "when:out is a/b do root: c\n", "mkdir:c"]

def unreachedLines : Text := List.flatten ["mkdir:d\n", "exclude:$out/*.o\n"]

theorem failure_of_interruptedManifest :
    (load (.storing .empty) ⟨"/", 64⟩ "build.yang" Table.empty
      (.withManifest interruptedManifest)).1 =
        .error (.parse "/build.yang" 3 (VariableFault.redefinition "root").message) := by
  rw [load_of_found (Session.find_withManifest _)]
  decide +kernel

/-- The condition on the third line is met and its assignment refused. What it leaves is what the
first two lines leave, also with two more lines behind the manifest. -/
theorem load_of_interruptedManifest :
    (Fetcher.storing .empty).Overlooks ["build.yang"] ∧
    Script.Readable interruptedManifest.lines ∧ Script.Readable unreachedLines.lines ∧
    Script.PlainExclusions interruptedManifest.lines ∧
    ∃ e t t' plan t₀,
      load (.storing .empty) ⟨"/", 64⟩ "build.yang" Table.empty
        (.withManifest interruptedManifest) = (.error e, t) ∧
      e = .parse "/build.yang" 3 (VariableFault.redefinition "root").message ∧
      ¬ (Fetcher.storing .empty).Reports e t ∧
      load (.storing .empty) ⟨"/", 64⟩ "build.yang" Table.empty
        (.withManifest (interruptedManifest ++ '\n' :: unreachedLines)) = (.error e, t') ∧
      t.SameAside ["build.yang"] t' ∧
      load (.storing .empty) ⟨"/", 64⟩ "build.yang" Table.empty
        (.withManifest (interruptedManifest.firstLines 2)) = (.ok plan, t₀) ∧
      t₀.fetches = t.fetches ∧
      t₀.world.tree.emptyAt ["build.yang"] = t.world.tree.emptyAt ["build.yang"] := by
  have hfetcher := Fetcher.storing_overlooks .empty ["build.yang"]
  have hreadable : Script.Readable interruptedManifest.lines := by decide +kernel
  have hmore : Script.Readable unreachedLines.lines := by decide +kernel
  have hplain : Script.PlainExclusions interruptedManifest.lines := by decide +kernel
  have hfailure := failure_of_interruptedManifest
  cases hload : load (.storing .empty) ⟨"/", 64⟩ "build.yang" Table.empty
      (.withManifest interruptedManifest) with
  | mk r t =>
      rw [hload] at hfailure
      cases hfailure
      have hown := Fetcher.not_reports_storing .empty "/build.yang" 3
        (VariableFault.redefinition "root").message t
      obtain ⟨⟨t', hload', hsession⟩, hblamed⟩ :=
        load_of_continued ⟨"/", 64⟩ "build.yang" Table.empty hfetcher
          (Session.sameAside_withManifest _ _) (Session.find_withManifest _)
          (Session.find_withManifest _) hreadable hmore hplain hload
      obtain ⟨_, _, hbefore⟩ := hblamed _ _ _ rfl hown
      obtain ⟨plan, t₀, hload₀, hfetches, htree⟩ :=
        hbefore _ false (Session.sameAside_withManifest _ _) (Session.find_withManifest _)
      exact ⟨hfetcher, hreadable, hmore, hplain, _, t, t', plan, t₀, rfl, rfl, hown, hload',
        hsession, hload₀, hfetches, htree⟩

end BuildManifest
