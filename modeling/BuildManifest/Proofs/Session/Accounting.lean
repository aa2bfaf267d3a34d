import BuildManifest.Proofs.Session

/-!
What the outcome of a chain of actions has to do with the commands it has handed out, whatever
the executor makes of them: it may change the files, answer with any code or fail by itself. A
chain goes on behind a command only if the answer was zero. So every command but the last has
succeeded, the answer of the chain is the number of commands, and its failure is that of the
last command or one that no command has to do with.

An executor is a function of the command and the world. One with a memory is such a function
too: it may keep the memory in the world, for instance in what it reports.
-/

namespace BuildManifest

def Call.Succeeded (c : Call) : Prop := c.answer = .ok 0

/-- The answer on record is what the executor made of the command in some world. -/
def Call.AnsweredBy (executor : Executor) (c : Call) : Prop :=
  ∃ w, c.answer = (executor c.command w).1

/-- How a chain can end that has handed out these commands, `before` of them having been counted
before it. A failure that is not one of the last command is among its own. -/
inductive Ending {α : Type} (own : Failure → Prop) (before : Nat) (total : α → Nat) :
    List Call → Except Failure α → Prop
  | finished {calls : List Call} {x : α} (hcalls : ∀ c ∈ calls, c.Succeeded)
      (htotal : total x = before + calls.length) : Ending own before total calls (.ok x)
  | failed {calls : List Call} {command : Text} {code : Int}
      (hcalls : ∀ c ∈ calls, c.Succeeded) (hcode : code ≠ 0) :
      Ending own before total (calls ++ [⟨command, .ok code⟩]) (.error (.execution command code))
  | unanswered {calls : List Call} {command : Text} {e : Failure}
      (hcalls : ∀ c ∈ calls, c.Succeeded) :
      Ending own before total (calls ++ [⟨command, .error e⟩]) (.error e)
  | stopped {calls : List Call} {e : Failure} (hcalls : ∀ c ∈ calls, c.Succeeded)
      (hown : own e) : Ending own before total calls (.error e)

namespace Ending

variable {α β : Type} {own own' : Failure → Prop} {before : Nat} {total : α → Nat}
  {calls later : List Call} {result : Except Failure α} {e : Failure}

theorem mono (h : Ending own before total calls result) (hown : ∀ e, own e → own' e) :
    Ending own' before total calls result := by
  cases h with
  | finished hcalls htotal => exact .finished hcalls htotal
  | failed hcalls hcode => exact .failed hcalls hcode
  | unanswered hcalls => exact .unanswered hcalls
  | stopped hcalls he => exact .stopped hcalls (hown _ he)

/-- Commands that have succeeded may come before. -/
theorem append (hcalls : ∀ c ∈ calls, c.Succeeded)
    (h : Ending own (before + calls.length) total later result) :
    Ending own before total (calls ++ later) result := by
  have hboth : ∀ {more : List Call}, (∀ c ∈ more, c.Succeeded) → ∀ c ∈ calls ++ more,
      c.Succeeded := fun hmore => List.forall_mem_append.mpr ⟨hcalls, hmore⟩
  cases h with
  | finished hlater htotal =>
      refine .finished (hboth hlater) ?_
      rw [htotal, List.length_append, Nat.add_assoc]
  | failed hlater hcode =>
      rw [← List.append_assoc]
      exact .failed (hboth hlater) hcode
  | unanswered hlater =>
      rw [← List.append_assoc]
      exact .unanswered (hboth hlater)
  | stopped hlater he => exact .stopped (hboth hlater) he

/-- What would have counted in the end plays no part in a failure. -/
theorem of_error {before' : Nat} {total' : β → Nat}
    (h : Ending own before total calls (.error e)) :
    Ending own before' total' calls (.error e : Except Failure β) := by
  cases h with
  | failed hcalls hcode => exact .failed hcalls hcode
  | unanswered hcalls => exact .unanswered hcalls
  | stopped hcalls he => exact .stopped hcalls he

theorem succeeded_of_dropLast (h : Ending own before total calls result) :
    ∀ c ∈ calls.dropLast, c.Succeeded := by
  cases h with
  | finished hcalls _ => exact fun c hc => hcalls c (List.dropLast_subset _ hc)
  | failed hcalls _ | unanswered hcalls => simpa using hcalls
  | stopped hcalls _ => exact fun c hc => hcalls c (List.dropLast_subset _ hc)

/-- The last command, if it was answered with another code than zero, is what a chain fails
with. -/
theorem eq_execution {command : Text} {code : Int} (h : Ending own before total calls result)
    (hlast : calls.getLast? = some ⟨command, .ok code⟩) (hcode : code ≠ 0) :
    result = .error (.execution command code) := by
  have hno : ∀ {calls : List Call}, (∀ c ∈ calls, c.Succeeded) →
      calls.getLast? ≠ some ⟨command, .ok code⟩ := fun hcalls hlast =>
    hcode (Except.ok.inj (hcalls _ (List.mem_of_getLast? hlast)))
  cases h with
  | finished hcalls _ => exact absurd hlast (hno hcalls)
  | failed _ _ =>
      rw [List.getLast?_concat] at hlast
      cases hlast
      rfl
  | unanswered _ =>
      rw [List.getLast?_concat] at hlast
      cases hlast
  | stopped hcalls _ => exact absurd hlast (hno hcalls)

/-- So is the failure of the executor, if that is what it answered. -/
theorem eq_error {command : Text} (h : Ending own before total calls result)
    (hlast : calls.getLast? = some ⟨command, .error e⟩) : result = .error e := by
  have hno : ∀ {calls : List Call}, (∀ c ∈ calls, c.Succeeded) →
      calls.getLast? ≠ some ⟨command, .error e⟩ := fun hcalls hlast => by
    cases hcalls _ (List.mem_of_getLast? hlast)
  cases h with
  | finished hcalls _ => exact absurd hlast (hno hcalls)
  | failed _ _ =>
      rw [List.getLast?_concat] at hlast
      cases hlast
  | unanswered _ =>
      rw [List.getLast?_concat] at hlast
      cases hlast
      rfl
  | stopped hcalls _ => exact absurd hlast (hno hcalls)

/-- A failure behind commands that have all succeeded is one of the chain's own. -/
theorem own_of_error (h : Ending own before total calls (.error e))
    (hlast : ∀ c, calls.getLast? = some c → c.Succeeded) :
    (∀ c ∈ calls, c.Succeeded) ∧ own e := by
  cases h with
  | failed _ hcode =>
      have hanswer := hlast _ List.getLast?_concat
      exact absurd (Except.ok.inj hanswer) hcode
  | unanswered _ =>
      have hanswer := hlast _ List.getLast?_concat
      cases hanswer
  | stopped hcalls he => exact ⟨hcalls, he⟩

end Ending

namespace Action

/-- Whatever session it starts in, the action adds commands to the record, each with the answer
of the executor, and its outcome is accounted for by them. -/
def Accounts {α : Type} (executor : Executor) (own : Failure → Prop) (before : Nat)
    (a : Action α) (total : α → Nat) : Prop :=
  ∀ s, ∃ calls, (a s).2.calls = s.calls ++ calls ∧ (∀ c ∈ calls, c.AnsweredBy executor) ∧
    Ending own before total calls (a s).1

variable {α β : Type} {executor : Executor} {own own' : Failure → Prop} {before : Nat}
  {a : Action α} {f : α → Action β} {count : α → Nat} {total : β → Nat}

theorem Accounts.mono (ha : Accounts executor own before a count)
    (hown : ∀ e, own e → own' e) : Accounts executor own' before a count := by
  intro s
  obtain ⟨calls, hrecord, hanswers, hending⟩ := ha s
  exact ⟨calls, hrecord, hanswers, hending.mono hown⟩

/-- An action that hands out no command counts none, and may fail with its own failures. -/
theorem accounts_of_quiet
    (h : ∀ s, (a s).2.calls = s.calls ∧ ∀ e, (a s).1 = .error e → own e) :
    Accounts executor own before a fun _ => before := by
  intro s
  obtain ⟨hcalls, herror⟩ := h s
  refine ⟨[], by rw [hcalls, List.append_nil], by simp, ?_⟩
  cases hresult : (a s).1 with
  | ok x => exact .finished (by simp) rfl
  | error e => exact .stopped (by simp) (herror e hresult)

theorem accounts_pure {x : α} (hx : count x = before) :
    Accounts executor own before (pure x) count :=
  fun s => ⟨[], by rw [pure_apply, List.append_nil], by simp, .finished (by simp) hx⟩

theorem accounts_fail {e : Failure} (he : own e) :
    Accounts executor own before (fail e) count :=
  fun s => ⟨[], (List.append_nil s.calls).symm, by simp, .stopped (by simp) he⟩

theorem accounts_say (t : Text) :
    Accounts executor own before (say t) fun _ => before :=
  accounts_of_quiet fun _ => ⟨rfl, fun e h => by cases h⟩

theorem accounts_ask (g : World → α) :
    Accounts executor own before (ask g) fun _ => before :=
  accounts_of_quiet fun _ => ⟨rfl, fun e h => by cases h⟩

theorem accounts_ofExcept {r : Except Failure α} (hr : ∀ e, r = .error e → own e) :
    Accounts executor own before (ofExcept r) fun _ => before :=
  accounts_of_quiet fun _ => ⟨rfl, hr⟩

/-- What is done behind an action hands out its commands later. -/
theorem Accounts.bind (ha : Accounts executor own before a count)
    (hf : ∀ x, Accounts executor own (count x) (f x) total) :
    Accounts executor own before (a >>= f) total := by
  intro s
  obtain ⟨calls, hrecord, hanswers, hending⟩ := ha s
  rw [bind_apply]
  cases hrun : a s with
  | mk result s₁ =>
      rw [hrun] at hrecord hending
      cases result with
      | error e => exact ⟨calls, hrecord, hanswers, hending.of_error⟩
      | ok x =>
          -- a result only comes behind commands that have all succeeded
          cases hending with
          | finished hcalls htotal =>
              obtain ⟨later, hrecord', hanswers', hending'⟩ := hf x s₁
              rw [htotal] at hending'
              refine ⟨calls ++ later, ?_, List.forall_mem_append.mpr ⟨hanswers, hanswers'⟩,
                hending'.append hcalls⟩
              rw [hrecord', hrecord, List.append_assoc]

theorem Accounts.map {g : α → β} (ha : Accounts executor own before a count)
    (hg : ∀ x, total (g x) = count x) :
    Accounts executor own before (a >>= fun x => pure (g x)) total :=
  ha.bind fun x => accounts_pure (hg x)

/-- A note on the failure makes no difference. -/
theorem Accounts.onFailure (ha : Accounts executor own before a count) (line : Text) :
    Accounts executor own before (onFailure line a) count := by
  intro s
  obtain ⟨calls, hrecord, hanswers, hending⟩ := ha s
  cases hrun : a s with
  | mk result s₁ =>
      rw [hrun] at hrecord hending
      rw [Action.onFailure, hrun]
      cases result <;> exact ⟨calls, hrecord, hanswers, hending⟩

/-- A command counts as one, and if it does not succeed, this is what is reported. -/
theorem accounts_call {command : Text} {report : Int → Action Unit}
    (hreport : ∀ code s, (report code s).1 = .error (.execution command code) ∧
      (report code s).2.calls = s.calls) :
    Accounts executor own before
      (call executor command >>= fun code => if code ≠ 0 then report code else pure ())
      fun _ => before + 1 := by
  intro s
  have hcall := call_apply executor command s
  have hfrom : ∀ c ∈ [Call.mk command (executor command s.world).1], c.AnsweredBy executor :=
    List.forall_mem_singleton.mpr ⟨s.world, rfl⟩
  have hnone : ∀ c ∈ ([] : List Call), c.Succeeded := by simp
  refine ⟨[⟨command, (executor command s.world).1⟩], ?_⟩
  cases hanswer : (executor command s.world).1 with
  | error e =>
      rw [hanswer] at hcall hfrom
      rw [bind_of_error hcall]
      exact ⟨rfl, hfrom, .unanswered hnone⟩
  | ok code =>
      rw [hanswer] at hcall hfrom
      rw [bind_of_ok hcall]
      by_cases hcode : code = 0
      · subst hcode
        exact ⟨rfl, hfrom, .finished (List.forall_mem_singleton.mpr rfl) rfl⟩
      · rw [if_pos hcode]
        obtain ⟨hresult, hcalls⟩ := hreport code _
        rw [hresult, hcalls]
        exact ⟨rfl, hfrom, .failed hnone hcode⟩

end Action

end BuildManifest
