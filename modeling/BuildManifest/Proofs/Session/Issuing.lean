import BuildManifest.Proofs.Session
import BuildManifest.Proofs.World

/-!
Actions under an executor that answers every command with an exit code of its own
and leaves the files alone. Such an action is told by the commands it would hand
over one after the other if none of them failed: it hands them over up to the
first that does fail, and fails with that one. `Issues` says so of an action, and
is kept when one action is put behind another.
-/

namespace BuildManifest

/-- Answers every command with its exit code and changes no file. -/
structure Executor.Answers (executor : Executor) (code : Text → Int) : Prop where
  answer : ∀ command w, (executor command w).1 = .ok (code command)
  keeps : ∀ command w, (executor command w).2.SameFiles w

def Executor.succeeding : Executor := fun _ w => (.ok 0, w)

theorem Executor.succeeding_answers : Executor.succeeding.Answers fun _ => 0 :=
  ⟨fun _ _ => rfl, fun _ w => .refl w⟩

/-- Commands up to the first one that fails, and that one. -/
def upToFailure (code : Text → Int) : List Text → List Text
  | [] => []
  | command :: rest =>
    if code command = 0 then command :: upToFailure code rest else [command]

/-- What comes of commands that all have to succeed for there to be this answer. -/
def outcome {α : Type} (code : Text → Int) (answer : α) : List Text → Except Failure α
  | [] => .ok answer
  | command :: rest =>
    if code command = 0 then outcome code answer rest
    else .error (.execution command (code command))

def answered (code : Text → Int) (commands : List Text) : List Call :=
  commands.map fun command => ⟨command, .ok (code command)⟩

section

variable {α : Type} {code : Text → Int} {commands : List Text}

theorem map_command_answered (code : Text → Int) (commands : List Text) :
    (answered code commands).map Call.command = commands := by
  rw [answered, List.map_map]
  exact List.map_id commands

/-- Commands that all succeed cut nothing off those behind them. -/
theorem upToFailure_append_of_success (h : ∀ c ∈ commands, code c = 0) (later : List Text) :
    upToFailure code (commands ++ later) = commands ++ upToFailure code later := by
  induction commands with
  | nil => rfl
  | cons c rest ih =>
      rw [List.cons_append, upToFailure, if_pos (h c List.mem_cons_self),
        ih fun d hd => h d (List.mem_cons_of_mem c hd), List.cons_append]

theorem outcome_append_of_success {answer : α} (h : ∀ c ∈ commands, code c = 0)
    (later : List Text) :
    outcome code answer (commands ++ later) = outcome code answer later := by
  induction commands with
  | nil => rfl
  | cons c rest ih =>
      rw [List.cons_append, outcome, if_pos (h c List.mem_cons_self),
        ih fun d hd => h d (List.mem_cons_of_mem c hd)]

theorem upToFailure_of_success (h : ∀ c ∈ commands, code c = 0) :
    upToFailure code commands = commands := by
  have hall := upToFailure_append_of_success h []
  rwa [List.append_nil, upToFailure, List.append_nil] at hall

theorem outcome_of_success {answer : α} (h : ∀ c ∈ commands, code c = 0) :
    outcome code answer commands = .ok answer := by
  have hall : outcome code answer (commands ++ []) = outcome code answer [] :=
    outcome_append_of_success h []
  rwa [List.append_nil, outcome] at hall

/-- Behind a command that fails nothing counts any more: neither the commands that come later
nor the answer that was hoped for. -/
theorem exists_failure (h : ¬ ∀ c ∈ commands, code c = 0) :
    ∃ e, (∀ (γ : Type) (answer : γ) later,
        outcome code answer (commands ++ later) = .error e) ∧
      ∀ later, upToFailure code (commands ++ later) = upToFailure code commands := by
  induction commands with
  | nil => exact absurd (by simp) h
  | cons c rest ih =>
      by_cases hc : code c = 0
      · have hrest : ¬ ∀ d ∈ rest, code d = 0 := fun hall =>
          h (List.forall_mem_cons.mpr ⟨hc, hall⟩)
        obtain ⟨e, houtcome, hcut⟩ := ih hrest
        refine ⟨e, fun γ answer later => ?_, fun later => ?_⟩
        · rw [List.cons_append, outcome, if_pos hc, houtcome]
        · rw [List.cons_append, upToFailure, upToFailure, if_pos hc, if_pos hc, hcut]
      · refine ⟨.execution c (code c), fun γ answer later => ?_, fun later => ?_⟩
        · rw [List.cons_append, outcome, if_neg hc]
        · rw [List.cons_append, upToFailure, upToFailure, if_neg hc, if_neg hc]

end

namespace Action

/-- In a session with these files and these tokens to draw, the action hands over the commands
up to the first that fails. If none does, it comes to this answer and these tokens are left. -/
def Issues {α : Type} (code : Text → Int) (w : World) (a : Action α) (supply : TokenSupply)
    (commands : List Text) (answer : α) (left : TokenSupply) : Prop :=
  ∀ s : Session, s.world.SameFiles w → s.supply = supply →
    ∃ s', a s = (outcome code answer commands, s') ∧
      s'.calls = s.calls ++ answered code (upToFailure code commands) ∧
      s'.world.SameFiles w ∧ s'.fetches = s.fetches ∧
      ((∀ c ∈ commands, code c = 0) → s'.supply = left)

variable {α β : Type} {code : Text → Int} {w : World} {supply left rest : TokenSupply}
  {a : Action α} {f : α → Action β} {commands later : List Text} {x : α} {y : β}

theorem issues_pure : Issues code w (pure x : Action α) supply [] x supply := by
  intro s hw hs
  exact ⟨s, rfl, by simp [upToFailure, answered], hw, rfl, fun _ => hs⟩

theorem issues_say (t : Text) : Issues code w (say t) supply [] () supply := by
  intro s hw hs
  refine ⟨_, say_apply t s, by simp [upToFailure, answered], ?_, rfl, fun _ => hs⟩
  exact (World.sameFiles_print _ _).trans hw

theorem issues_ask {g : World → α} (hg : ∀ w', w'.SameFiles w → g w' = x) :
    Issues code w (ask g) supply [] x supply := by
  intro s hw hs
  refine ⟨s, ?_, by simp [upToFailure, answered], hw, rfl, fun _ => hs⟩
  rw [ask_apply, hg s.world hw]
  rfl

theorem issues_ofExcept : Issues code w (ofExcept (.ok x)) supply [] x supply := by
  intro s hw hs
  exact ⟨s, rfl, by simp [upToFailure, answered], hw, rfl, fun _ => hs⟩

theorem issues_expand {scope : Scope} {v : Variables} {t u : Text}
    (h : Expansion.expand scope v supply t = (.ok u, left)) :
    Issues code w (expand scope v t) supply [] u left := by
  intro s hw hs
  refine ⟨{ s with supply := left }, ?_, by simp [upToFailure, answered], hw, rfl, fun _ => rfl⟩
  rw [expand_apply, hs, h]
  rfl

theorem issues_expandAll {scope : Scope} {v : Variables} {ts us : List Text}
    (h : Expansion.expandAll scope v supply ts = (.ok us, left)) :
    Issues code w (expandAll scope v ts) supply [] us left := by
  intro s hw hs
  refine ⟨{ s with supply := left }, ?_, by simp [upToFailure, answered], hw, rfl, fun _ => rfl⟩
  rw [expandAll_apply, hs, h]
  rfl

/-- Texts that draw no token are all expanded with the same ones to come. -/
theorem issues_expand_each {scope : Scope} {v : Variables} {expanded : Text → Text}
    {ts : List Text}
    (h : ∀ t ∈ ts, Expansion.expand scope v supply t = (.ok (expanded t), supply)) :
    Issues code w (expandAll scope v ts) supply [] (ts.map expanded) supply := by
  apply issues_expandAll
  induction ts with
  | nil => rfl
  | cons t ts ih =>
      rw [Expansion.expandAll, h t List.mem_cons_self]
      simp only [ih fun u hu => h u (List.mem_cons_of_mem t hu)]
      rfl

/-- It is enough to look at an action that does the same with these files. -/
theorem Issues.congr {b : Action α} (hb : Issues code w b supply commands x left)
    (h : ∀ s, s.world.SameFiles w → a s = b s) : Issues code w a supply commands x left := by
  intro s hw hs
  rw [h s hw]
  exact hb s hw hs

/-- What is done behind an action hands its commands over later. -/
theorem Issues.bind (ha : Issues code w a supply commands x left)
    (hf : Issues code w (f x) left later y rest) :
    Issues code w (a >>= f) supply (commands ++ later) y rest := by
  intro s hw hs
  obtain ⟨s₁, hrun, hcalls, hw₁, hfetches, hleft⟩ := ha s hw hs
  by_cases hall : ∀ c ∈ commands, code c = 0
  · rw [outcome_of_success hall] at hrun
    obtain ⟨s₂, hrun₂, hcalls₂, hw₂, hfetches₂, hrest⟩ := hf s₁ hw₁ (hleft hall)
    refine ⟨s₂, ?_, ?_, hw₂, hfetches₂.trans hfetches, fun hboth => ?_⟩
    · rw [bind_of_ok hrun, hrun₂, outcome_append_of_success hall]
    · rw [hcalls₂, hcalls, upToFailure_append_of_success hall, upToFailure_of_success hall,
        answered, answered, answered, List.map_append, List.append_assoc]
    · exact hrest fun c hc => hboth c (List.mem_append_right commands hc)
  · obtain ⟨e, houtcome, hcut⟩ := exists_failure hall
    have hfail : outcome code x commands = .error e := by
      simpa using houtcome α x []
    rw [hfail] at hrun
    refine ⟨s₁, ?_, ?_, hw₁, hfetches, fun hboth => ?_⟩
    · rw [bind_of_error hrun, houtcome]
    · rw [hcalls, hcut]
    · exact absurd (fun c hc => hboth c (List.mem_append_left later hc)) hall

theorem Issues.map (ha : Issues code w a supply commands x left) (g : α → β) :
    Issues code w (a >>= fun y => pure (g y)) supply commands (g x) left := by
  rw [← List.append_nil commands]
  exact ha.bind (f := fun y => pure (g y)) issues_pure

/-- The note on a failure makes no difference. -/
theorem Issues.onFailure (ha : Issues code w a supply commands x left) (line : Text) :
    Issues code w (onFailure line a) supply commands x left := by
  intro s hw hs
  obtain ⟨s₁, hrun, hcalls, hw₁, hfetches, hleft⟩ := ha s hw hs
  cases hresult : outcome code x commands with
  | ok y =>
      refine ⟨s₁, ?_, hcalls, hw₁, hfetches, hleft⟩
      rw [Action.onFailure, hrun, hresult]
  | error e =>
      refine ⟨{ s₁ with world := s₁.world.print (line ++ ['\n']) }, ?_, hcalls, ?_, hfetches,
        hleft⟩
      · rw [Action.onFailure, hrun, hresult]
      · exact (World.sameFiles_print _ _).trans hw₁

/-- A command is handed over, and if it fails, that is what is reported in the end. -/
theorem issues_call {executor : Executor} {command : Text} {report : Int → Action Unit}
    (hexec : executor.Answers code)
    (hreport : ∀ s, ∃ w', w'.SameFiles s.world ∧ report (code command) s =
      (.error (.execution command (code command)), { s with world := w' })) :
    Issues code w
      (call executor command >>= fun status => if status ≠ 0 then report status else pure ())
      supply [command] () supply := by
  intro s hw hs
  have hworld := (hexec.keeps command s.world).trans hw
  have hcall := call_apply executor command s
  rw [hexec.answer command s.world] at hcall
  rw [bind_of_ok hcall]
  by_cases hzero : code command = 0
  · rw [if_neg (fun hne => hne hzero), outcome, if_pos hzero, upToFailure, if_pos hzero]
    exact ⟨_, rfl, rfl, hworld, rfl, fun _ => hs⟩
  · rw [if_pos hzero, outcome, if_neg hzero, upToFailure, if_neg hzero]
    obtain ⟨w', hw', hrun⟩ := hreport { s with
      world := (executor command s.world).2
      calls := s.calls ++ [⟨command, .ok (code command)⟩] }
    exact ⟨_, hrun, rfl, hw'.trans hworld, rfl,
      fun hall => absurd (hall command List.mem_cons_self) hzero⟩

end Action

end BuildManifest
