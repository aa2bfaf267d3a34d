import BuildManifest.Proofs.Loading.Continuation

/-!
Flags as lines. What a flag sets before a manifest is loaded, a line on top of the manifest
assigns as well. Both are cut at their first colon, both lose the blanks around their parts, and
both overwrite what every manifest starts with. The other lines of the manifest come to lie
further down, and this shows in the failures that are blamed on them and nowhere else.
-/

namespace BuildManifest

namespace Directive

theorem readAfter_ne_assign (keyword : Keyword) (rest : Text) (a : Assignment) :
    readAfter keyword rest ≠ .ok (.assign a) := by
  intro h
  cases keyword with
  | condition =>
      obtain ⟨c, _, heq⟩ := exists_of_map_eq_ok h
      cases heq
  | pattern =>
      rw [readAfter, readPattern] at h
      split at h
      · cases h
      · split at h <;> cases h
  | download =>
      rw [readAfter, readDownload] at h
      split at h
      · cases h
      · split at h <;> cases h
  | exclude =>
      rw [readAfter, readExclusion] at h
      split at h <;> cases h
  | command | check | dependency | makeDirectory =>
      rw [readAfter, readOperand] at h
      split at h <;> cases h

/-- A line that assigns has no keyword and is read as an assignment as a whole. -/
theorem assignment_of_read? {line : Text} {a : Assignment}
    (h : read? line = .ok (some (.assign a))) : Assignment.read line.trim = .ok a := by
  rw [read?, readTrimmed] at h
  split at h
  · cases h
  · split at h
    · obtain ⟨d, hread, heq⟩ := exists_of_map_eq_ok h
      cases heq
      exact absurd hread (readAfter_ne_assign _ _ a)
    · split at h
      · obtain ⟨a', hread, heq⟩ := exists_of_map_eq_ok h
        cases heq
        exact hread
      · cases h

end Directive

namespace Variables

def flagLine (flag : Text) : Text := if ':' ∈ flag then flag else flag ++ [':']

def flagAssignment (flag : Text) : Assignment := ⟨(readFlag flag).1, (readFlag flag).2⟩

/-- The line that the flag stands for assigns to a name that is not reserved. -/
structure Assigns (flag : Text) : Prop where
  oneLine : '\n' ∉ flag
  read : ∃ a, Directive.read? (flagLine flag) = .ok (some (.assign a)) ∧ isReserved a.key = false

variable {flag : Text}

/-- A flag is read at the first colon of its line, as an assignment would be. -/
theorem exists_flagLine (flag : Text) : ∃ name value : Text,
    flagLine flag = name ++ ':' :: value ∧ ':' ∉ name ∧
      readFlag flag = (name.trim, value.trim) := by
  rw [flagLine, readFlag]
  cases hcut : Text.cut? [':'] flag with
  | some parts =>
      obtain ⟨name, value⟩ := parts
      obtain ⟨rfl, hname⟩ := Text.cut?_singleton_eq_some_iff.mp hcut
      exact ⟨name, value, by simp, hname, rfl⟩
  | none =>
      have hcolon : ':' ∉ flag := by
        rwa [Text.cut?_eq_none_iff, List.singleton_infix_iff] at hcut
      exact ⟨flag, [], by simp [hcolon], hcolon, rfl⟩

/-- The flag and its line are cut in the same place, whatever blanks there are. -/
theorem flagAssignment_of_read {a : Assignment} (h : Assignment.read (flagLine flag).trim = .ok a) :
    a = flagAssignment flag := by
  obtain ⟨name, value, hline, hname, hflag⟩ := exists_flagLine flag
  rw [hline, Text.trim_append_cons (by decide)] at h
  obtain ⟨key, rest, hcut, hkey, -, rfl⟩ := Assignment.exists_of_read h
  have hstart : ':' ∉ name.trimStart := fun h => hname ((Text.trimStart_isSuffix name).subset h)
  have hparts : some (key, rest) = some (name.trimStart, value.trimEnd) := by
    rw [← Text.cut?_singleton_eq_some_iff.mpr ⟨hcut, hkey⟩,
      Text.cut?_singleton_eq_some_iff.mpr ⟨rfl, hstart⟩]
  cases hparts
  rw [flagAssignment, hflag, Text.trim_trimStart, Text.trim_trimEnd]

/-- The line of a flag is read as the assignment that the flag makes. -/
theorem Assigns.read?_flagLine (h : Assigns flag) :
    Directive.read? (flagLine flag) = .ok (some (.assign (flagAssignment flag))) := by
  obtain ⟨a, hread, -⟩ := h.read
  rw [hread, flagAssignment_of_read (Directive.assignment_of_read? hread)]

theorem Assigns.free (h : Assigns flag) : isReserved (flagAssignment flag).key = false := by
  obtain ⟨a, hread, hfree⟩ := h.read
  rwa [← flagAssignment_of_read (Directive.assignment_of_read? hread)]

theorem Assigns.key_ne_nil (h : Assigns flag) : (flagAssignment flag).key ≠ [] :=
  (Directive.wellFormed_of_read? h.read?_flagLine).1.key.nonempty

theorem Assigns.newline (h : Assigns flag) : '\n' ∉ flagLine flag := by
  rw [flagLine]
  split
  · exact h.oneLine
  · simpa using h.oneLine

/-- The flag sets what its line assigns. -/
theorem Assigns.addFlag (h : Assigns flag) (v : Variables) :
    addFlag v flag = assign v (flagAssignment flag).key (flagAssignment flag).value := by
  have hname : (readFlag flag).1 ≠ [] := h.key_ne_nil
  have hfree : isReserved (readFlag flag).1 = false := h.free
  simp only [Variables.addFlag, Variables.assign, flagAssignment, hname, hfree, if_false,
    Bool.false_eq_true]

theorem Assigns.assign (h : Assigns flag) (v : Variables) :
    assign v (flagAssignment flag).key (flagAssignment flag).value =
      .ok (v.insert (flagAssignment flag).key (flagAssignment flag).value) := by
  rw [Variables.assign, h.free]
  rfl

theorem exists_of_flags {flags : List Text} (h : ∀ flag ∈ flags, Assigns flag) (u : Variables) :
    ∃ v, flags.foldlM Variables.addFlag u = .ok v := by
  induction flags generalizing u with
  | nil => exact ⟨u, rfl⟩
  | cons flag rest ih =>
      obtain ⟨hflag, hrest⟩ := List.forall_mem_cons.mp h
      obtain ⟨v, hv⟩ := ih hrest (u.insert (flagAssignment flag).key (flagAssignment flag).value)
      refine ⟨v, ?_⟩
      rw [List.foldlM_cons, hflag.addFlag, hflag.assign]
      exact hv

end Variables

open Variables (Assigns flagLine flagAssignment)

namespace Script

/-- The text with the lines of some flags on top of it. -/
def onTop : List Text → Text → Text
  | [], text => text
  | flag :: rest, text => flagLine flag ++ '\n' :: onTop rest text

/-- What these lines say, from the line of this number on. -/
def ofFlags : Nat → List Text → List Instruction
  | _, [] => []
  | number, flag :: rest => ⟨number, .assign (flagAssignment flag)⟩ :: ofFlags (number + 1) rest

variable {flags : List Text}

/-- With the lines of flags on top, their assignments come first and the text follows under higher
numbers. -/
theorem readFrom_onTop (h : ∀ flag ∈ flags, Assigns flag) (path : Path) (number : Nat)
    (text : Text) : readFrom path number (onTop flags text).lines =
      (readFrom path (number + flags.length) text.lines).map (ofFlags number flags ++ ·) := by
  induction flags generalizing number with
  | nil =>
      rw [onTop, List.length_nil, Nat.add_zero]
      cases readFrom path number text.lines <;> rfl
  | cons flag rest ih =>
      obtain ⟨hflag, hrest⟩ := List.forall_mem_cons.mp h
      have hnumber : number + (flag :: rest).length = number + 1 + rest.length := by
        rw [List.length_cons]
        omega
      rw [onTop, Text.lines_append_newline hflag.newline, readFrom, Directive.read?_dropReturn,
        hflag.read?_flagLine, hnumber]
      simp only [ih hrest]
      cases readFrom path (number + 1 + rest.length) text.lines <;> rfl

end Script

namespace Plan

variable {fetcher : Fetcher} {flags : List Text}

theorem deferred_ofFlags (number : Nat) (flags : List Text) (later : List Instruction) :
    deferred (Script.ofFlags number flags ++ later) = deferred later := by
  induction flags generalizing number with
  | nil => rfl
  | cons flag rest ih => exact ih (number + 1)

theorem evaluate_assignment {plan : Plan} {u : Variables} {a : Assignment}
    (h : Variables.assign plan.bindings a.key a.value = .ok u) (number : Nat) (s : Session) :
    evaluate fetcher plan ⟨number, .assign a⟩ s = (.ok { plan with bindings := u }, s) := by
  simp only [evaluate, h]
  rfl

/-- Carrying out the lines of the flags does what the flags do, and nothing else. -/
theorem evaluateAll_ofFlags (h : ∀ flag ∈ flags, Assigns flag) {plan : Plan} {v : Variables}
    (hv : flags.foldlM Variables.addFlag plan.bindings = .ok v) (number : Nat) (s : Session) :
    evaluateAll fetcher plan (Script.ofFlags number flags) s =
      (.ok { plan with bindings := v }, s) := by
  induction flags generalizing plan number with
  | nil =>
      cases hv
      rfl
  | cons flag rest ih =>
      obtain ⟨hflag, hrest⟩ := List.forall_mem_cons.mp h
      rw [List.foldlM_cons, hflag.addFlag, hflag.assign] at hv
      rw [Script.ofFlags, evaluateAll, Action.bind_of_ok (evaluate_assignment (hflag.assign _) _ s)]
      refine ih hrest ?_ (number + 1)
      exact hv

end Plan

/-- The one failure becomes the other with `k` more lines on top of the manifest. What the fetcher
has just answered stays what it is. -/
def Fetcher.Lowers (fetcher : Fetcher) (k : Nat) (t : Session) (e e' : Failure) : Prop :=
  e' = e.below k ∨ e' = e ∧ fetcher.Reports e t

namespace Action

variable {fetcher : Fetcher} {location : Location} {k : Nat} {α β : Type} {a b : Action α}
  {f g : α → Action β}

/-- In sessions that differ in nothing but what the file holds, the actions end the same, if the
second one is about lines that are `k` lines further down. -/
def Lowered (fetcher : Fetcher) (location : Location) (k : Nat) (a b : Action α) : Prop :=
  ∀ s s' : Session, s.SameAside location s' →
    SameEnd location (fetcher.Lowers k (a s).2) (a s) (b s')

theorem Lowered.bind (ha : Lowered fetcher location k a b)
    (hf : ∀ x, Lowered fetcher location k (f x) (g x)) :
    Lowered fetcher location k (a >>= f) (b >>= g) := by
  intro s s' hs
  refine (ha s s' hs).bind_of (fun x t t' hrun ht => ?_) fun e e' t hrun h => ?_
  · rw [bind_of_ok hrun]
    exact hf x t t' ht
  · rw [bind_of_error hrun]
    rwa [hrun] at h

/-- A failure with a line comes from the fetcher if the action does not blame it on the line. -/
theorem Blameless.lowers (h : Blameless fetcher.Reports a) {s t : Session} {e : Failure}
    (hrun : a s = (.error e, t)) (k : Nat) : fetcher.Lowers k t e e := by
  cases e with
  | parse path line reason => exact .inr ⟨rfl, h s _ _ _ _ hrun⟩
  | _ => exact .inl rfl

/-- Where no line is blamed, it makes no difference where the lines are. -/
theorem Lowered.of_blameless (h : Parallel location Eq a b) (hown : Blameless fetcher.Reports a) :
    Lowered fetcher location k a b := by
  intro s s' hs
  refine (h s s' hs).of_eq fun e t hrun => ?_
  rw [hrun]
  exact hown.lowers hrun k

theorem lowered_fail (path : Path) (n : Nat) (reason : Text) :
    Lowered fetcher location k (fail (.parse path n reason) : Action α)
      (fail (.parse path (n + k) reason)) :=
  fun _ _ hs => ⟨.error (.inl rfl), hs⟩

theorem atLine_of_error {path : Path} {n : Nat} {s t : Session} {e : Failure}
    (hrun : a s = (.error e, t)) : atLine path n a s = (.error (e.atLine path n), t) := by
  rw [atLine, hrun]

theorem lowered_atLine (path : Path) (n : Nat) (h : Parallel location Eq a b)
    (hown : Blameless fetcher.Reports a) :
    Lowered fetcher location k (atLine path n a) (atLine path (n + k) b) := by
  intro s s' hs
  refine (h s s' hs).atLine fun e t hrun => ?_
  rw [atLine_of_error hrun]
  cases e with
  | badVariable reason => exact .inl rfl
  | _ => exact hown.lowers hrun k

theorem lowered_chained : Chained fun _ => Lowered fetcher location k where
  pure x := .of_blameless (parallel_pure x) (blameless_pure x)
  badVariable reason :=
    .of_blameless (parallel_fail rfl) (blameless_chained.badVariable reason)
  say t := .of_blameless (parallel_say t) (blameless_say t)
  expand scope v t := .of_blameless (parallel_expand scope v t) (blameless_expand scope v t)
  bind ha hf := ha.bind hf

end Action

section

variable {fetcher : Fetcher} {location : Location}

/-- The links of two loads of which one finds its lines further down. -/
theorem lowered_linked (h : fetcher.Overlooks location) (k : Nat) :
    Plan.Linked (fun n n' => n' = n + k) fetcher fetcher
      (fun _ a b => Action.Parallel location Eq a b ∧ Action.Blameless fetcher.Reports a)
      fun _ => Action.Lowered fetcher location k where
  onLine := (Action.parallel_chained Eq.refl).and Action.blameless_chained
  chained := Action.lowered_chained
  atLine hline path _ _ h := hline ▸ Action.lowered_atLine path _ h.1 h.2
  blame hline path reason := hline ▸ Action.lowered_fail path _ reason
  makeDirectories p :=
    .of_blameless (Action.parallel_makeDirectories p) (Action.blameless_makeDirectories p)
  fetch url destination :=
    .of_blameless (parallel_fetchUnlessPresent h url destination)
      (blameless_fetchUnlessPresent url destination)

/-- Directives that stand further down fail with a number that is as much higher. -/
theorem lowered_loadScript (options : LoadOptions) (p : Path) (v : Variables)
    (hfetcher : fetcher.Overlooks location) (k : Nat) (instructions : List Instruction) :
    Action.Lowered fetcher location k (loadScript fetcher options p v instructions)
      (loadScript fetcher options p v (instructions.map (Instruction.below k))) := by
  have hlinked := lowered_linked hfetcher k
  have hsame : List.Forall₂ (Instruction.Same fun n n' => n' = n + k) instructions
      (instructions.map (Instruction.below k)) :=
    List.forall₂_map_right_iff.mpr (List.forall₂_same.mpr fun _ _ => ⟨rfl, rfl⟩)
  have hdeferred : Plan.deferred (instructions.map (Instruction.below k)) =
      (Plan.deferred instructions).map fun e => (e.1 + k, e.2) := by
    rw [Plan.deferred, Plan.deferred, List.flatMap_map, List.map_flatMap]
    refine congrArg (List.flatMap · instructions) (funext fun i => ?_)
    obtain ⟨n, d⟩ := i
    cases d <;> simp [Instruction.below]
  refine (hlinked.evaluateAll hsame _).bind fun plan => ?_
  refine (hlinked.checkDeferred plan ?_).bind fun _ => Action.lowered_chained.pure plan
  rw [hdeferred]
  exact List.forall₂_map_right_iff.mpr (List.forall₂_same.mpr fun _ _ => ⟨rfl, rfl⟩)

/-- The assignments of flags, carried out first, leave what seeding with the flags starts with. -/
theorem loadScript_ofFlags (options : LoadOptions) (p : Path) {u v : Variables} {flags : List Text}
    (h : ∀ flag ∈ flags, Assigns flag) (hv : flags.foldlM Variables.addFlag u = .ok v)
    (number : Nat) (later : List Instruction) (s : Session) :
    loadScript fetcher options p u (Script.ofFlags number flags ++ later) s =
      loadScript fetcher options p v later s := by
  rw [loadScript, Plan.deferred_ofFlags, Plan.evaluateAll_append, bind_assoc,
    Action.bind_of_ok (Plan.evaluateAll_ofFlags h hv number s)]
  rfl

/-- A flag is as good as an assignment on top of the manifest. Take flags of which the lines they
stand for assign to names that are not reserved, and two sessions that differ in no more than the
text of the manifest: the second has these lines on top of it. The flags can be set. Loading the
first with what they set, and the second with what every manifest starts with, either both succeed,
with the same plan, or both fail, with the same failure. If it is blamed on a line and is not just
what the fetcher has answered, its line is further down in the second by the number of the flags.
In either case they leave sessions that differ in no more than the text of the manifest: they have
asked for the same files, drawn the same tokens, printed the same and left the same files. -/
theorem load_of_flags (home : Path) (options : LoadOptions) (p : Path)
    (hfetcher : fetcher.Overlooks location) {s s' : Session} (hs : s.SameAside location s')
    {flags : List Text} {text : Text} {executable executable' : Bool}
    (hflags : ∀ flag ∈ flags, Assigns flag)
    (hfile : s.world.find (Path.absolutize options.workDir p) =
      .ok (.found location (.file text.toBytes executable)))
    (hfile' : s'.world.find (Path.absolutize options.workDir p) =
      .ok (.found location (.file (Script.onTop flags text).toBytes executable'))) :
    ∃ v, Variables.seeded home flags = .ok v ∧ ∃ r t r' t',
      load fetcher options p v s = (r, t) ∧
      load fetcher options p (Variables.builtin home) s' = (r', t') ∧
      (∀ plan, r = .ok plan ↔ r' = .ok plan) ∧
      (∀ e, r = .error e → ∃ e', r' = .error e' ∧
        (e' = e.below flags.length ∨ e' = e ∧ fetcher.Reports e t)) ∧
      t.SameAside location t' := by
  obtain ⟨v, hv⟩ := Variables.exists_of_flags hflags (Variables.builtin home)
  refine ⟨v, hv, _, _, _, _, rfl, rfl, ?_⟩
  have hread' := Script.readFrom_onTop hflags (Path.absolutize options.workDir p) 1 text
  rw [Script.readFrom_add] at hread'
  suffices hend : Action.SameEnd location (fetcher.Lowers flags.length
      (load fetcher options p v s).2) (load fetcher options p v s)
      (load fetcher options p (Variables.builtin home) s') from
    ⟨fun _ => hend.result.ok_iff, fun _ => hend.result.exists_of_error, hend.session⟩
  cases hread : Script.readFrom (Path.absolutize options.workDir p) 1 text.lines with
  | error e =>
      rw [hread] at hread'
      have hfailed : Script.read (Path.absolutize options.workDir p) text = .error e := hread
      have hfailed' : Script.read (Path.absolutize options.workDir p) (Script.onTop flags text) =
          .error (e.below flags.length) := hread'
      rw [load_of_found hfile, load_of_found hfile', loadText, loadText, hfailed, hfailed']
      exact ⟨.error (.inl rfl), hs⟩
  | ok instructions =>
      rw [hread] at hread'
      rw [load_of_directives hfile hread, load_of_directives hfile' hread',
        loadScript_ofFlags options _ hflags hv]
      exact lowered_loadScript options _ v hfetcher flags.length instructions s s' hs

end

/-- Flags in three spellings, one of which overwrites what every manifest starts with. -/
def overridingFlags : List Text := ["platform:win32", " debug ", "mode : fast"]

def overridingVariables : Variables :=
  ⟨[("windows", "win32"), ("linux", "linux"), ("macos", "darwin"), ("platform", "win32"),
    ("home", "/home/u"), ("debug", []), ("mode", "fast")]⟩

/-- A manifest that works up to its second line, if the flags are as above. -/
def refusedManifest : Text := List.flatten
  ["mkdir:$mode$debug\n", "when:platform is win32 do root: c\n"]

theorem failure_of_refusedManifest :
    (load (.storing .empty) ⟨"/", 64⟩ "build.yang" overridingVariables
      (.withManifest refusedManifest)).1 =
        .error (.parse "/build.yang" 2 (VariableFault.redefinition "root").message) := by
  rw [load_of_found (Session.find_withManifest _)]
  decide +kernel

/-- The refused assignment is on the second line of the one manifest and on the fifth of the
other. -/
theorem load_of_overridingFlags :
    (Fetcher.storing .empty).Overlooks ["build.yang"] ∧
    (Session.withManifest refusedManifest).SameAside ["build.yang"]
      (.withManifest (Script.onTop overridingFlags refusedManifest)) ∧
    (∀ flag ∈ overridingFlags, Assigns flag) ∧
    Variables.seeded "/home/u" overridingFlags = .ok overridingVariables ∧
    ∃ t t',
      load (.storing .empty) ⟨"/", 64⟩ "build.yang" overridingVariables
        (.withManifest refusedManifest) =
          (.error (.parse "/build.yang" 2 (VariableFault.redefinition "root").message), t) ∧
      load (.storing .empty) ⟨"/", 64⟩ "build.yang" (Variables.builtin "/home/u")
        (.withManifest (Script.onTop overridingFlags refusedManifest)) =
          (.error (.parse "/build.yang" 5 (VariableFault.redefinition "root").message), t') ∧
      t.SameAside ["build.yang"] t' := by
  have hfetcher := Fetcher.storing_overlooks .empty ["build.yang"]
  have hs := Session.sameAside_withManifest refusedManifest
    (Script.onTop overridingFlags refusedManifest)
  have hflags : ∀ flag ∈ overridingFlags, Assigns flag := by
    simp only [overridingFlags, List.forall_mem_cons, List.not_mem_nil, false_implies,
      implies_true, and_true]
    exact ⟨⟨by decide, ⟨"platform", "win32"⟩, by decide +kernel⟩,
      ⟨by decide, ⟨"debug", []⟩, by decide +kernel⟩,
      ⟨by decide, ⟨"mode", "fast"⟩, by decide +kernel⟩⟩
  have hseeded : Variables.seeded "/home/u" overridingFlags = .ok overridingVariables := rfl
  obtain ⟨v, hv, r, t, r', t', hload, hload', _, hfailed, hsession⟩ :=
    load_of_flags "/home/u" ⟨"/", 64⟩ "build.yang" hfetcher hs hflags
      (Session.find_withManifest _) (Session.find_withManifest _)
  rw [hseeded] at hv
  cases hv
  have hfailure := failure_of_refusedManifest
  rw [hload] at hfailure
  subst hfailure
  obtain ⟨e', rfl, rfl | ⟨-, hreported⟩⟩ := hfailed _ rfl
  · exact ⟨hfetcher, hs, hflags, hseeded, t, t', hload, hload', hsession⟩
  · exact absurd hreported (Fetcher.not_reports_storing .empty _ _ _ t)

end BuildManifest
