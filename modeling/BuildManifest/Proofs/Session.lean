import BuildManifest.Session
import BuildManifest.Proofs.World

/-!
What single actions do to a session, as equations. With them a chain of actions
is followed from left to right: an action that succeeds hands its answer on, and
one that fails is the end of the chain. Most actions keep the files as they are,
and so does a chain of such actions wherever it ends.
-/

namespace BuildManifest

/-- Expanding fails in one way only, which names the text and the limit. -/
theorem Expansion.eq_expansion_of_expand {scope : Scope} {v : Variables} {s : TokenSupply}
    {t : Text} {e : Failure} (h : (Expansion.expand scope v s t).1 = .error e) :
    e = .expansion t scope.passes := by
  rw [Expansion.expand] at h
  split at h
  · cases h
  · cases h
    rfl

/-- Texts that are not all expanded fail with one of them. -/
theorem Expansion.exists_of_expandAll_error {scope : Scope} {v : Variables} {s : TokenSupply}
    {ts : List Text} {e : Failure} (h : (Expansion.expandAll scope v s ts).1 = .error e) :
    ∃ t ∈ ts, e = .expansion t scope.passes := by
  induction ts generalizing s with
  | nil => cases h
  | cons t ts ih =>
      rw [Expansion.expandAll] at h
      split at h
      · rename_i e' s₁ hfirst
        cases h
        exact ⟨t, List.mem_cons_self, eq_expansion_of_expand (congrArg Prod.fst hfirst)⟩
      · rename_i u s₁ hfirst
        split at h
        · rename_i e' s₂ hrest
          cases h
          obtain ⟨t', ht', he⟩ := ih (congrArg Prod.fst hrest)
          exact ⟨t', List.mem_cons_of_mem t ht', he⟩
        · cases h

namespace Action

variable {α β : Type}

theorem bind_of_ok {a : Action α} {f : α → Action β} {s s' : Session} {x : α}
    (h : a s = (.ok x, s')) : (a >>= f) s = f x s' := by
  rw [bind_apply, h]

theorem bind_of_error {a : Action α} {f : α → Action β} {s s' : Session} {e : Failure}
    (h : a s = (.error e, s')) : (a >>= f) s = (.error e, s') := by
  rw [bind_apply, h]

/-- A chain that succeeds has come through its first action. -/
theorem exists_of_bind_ok {a : Action α} {f : α → Action β} {s s' : Session} {y : β}
    (h : (a >>= f) s = (.ok y, s')) : ∃ x s₁, a s = (.ok x, s₁) ∧ f x s₁ = (.ok y, s') := by
  rw [bind_apply] at h
  cases hrun : a s with
  | mk result s₁ =>
      rw [hrun] at h
      cases result with
      | error e => cases h
      | ok x => exact ⟨x, s₁, rfl, h⟩

/-- An action of which something about the answer is known has succeeded. -/
theorem exists_of_map_answer {a : Action α} {s : Session} {f : α → β} {y : β}
    (h : (a s).1.toOption.map f = some y) : ∃ x t, a s = (.ok x, t) ∧ f x = y := by
  cases hrun : a s with
  | mk result t =>
      rw [hrun] at h
      cases result with
      | error e => cases h
      | ok x => exact ⟨x, t, rfl, Option.some.inj h⟩

@[simp]
theorem ofExcept_apply (r : Except Failure α) (s : Session) : ofExcept r s = (r, s) := rfl

@[simp]
theorem ask_apply (f : World → α) (s : Session) : ask f s = (.ok (f s.world), s) := rfl

@[simp]
theorem say_apply (t : Text) (s : Session) :
    say t s = (.ok (), { s with world := s.world.print (t ++ ['\n']) }) := rfl

theorem expand_apply (scope : Scope) (v : Variables) (t : Text) (s : Session) :
    expand scope v t s = ((Expansion.expand scope v s.supply t).1,
      { s with supply := (Expansion.expand scope v s.supply t).2 }) := rfl

theorem expandAll_apply (scope : Scope) (v : Variables) (ts : List Text) (s : Session) :
    expandAll scope v ts s = ((Expansion.expandAll scope v s.supply ts).1,
      { s with supply := (Expansion.expandAll scope v s.supply ts).2 }) := rfl

theorem call_apply (executor : Executor) (command : Text) (s : Session) :
    call executor command s = ((executor command s.world).1,
      { s with
        world := (executor command s.world).2
        calls := s.calls ++ [⟨command, (executor command s.world).1⟩] }) := rfl

def KeepsFiles (a : Action α) : Prop := ∀ s, (a s).2.world.SameFiles s.world

theorem keepsFiles_pure (x : α) : KeepsFiles (pure x : Action α) := fun _ => .refl _

theorem keepsFiles_fail (e : Failure) : KeepsFiles (fail e : Action α) := fun _ => .refl _

theorem keepsFiles_say (t : Text) : KeepsFiles (say t) :=
  fun _ => World.sameFiles_print _ _

theorem keepsFiles_expand (scope : Scope) (v : Variables) (t : Text) :
    KeepsFiles (expand scope v t) := fun _ => .refl _

theorem keepsFiles_call {executor : Executor} {command : Text}
    (h : ∀ w, (executor command w).2.SameFiles w) : KeepsFiles (call executor command) :=
  fun s => h s.world

theorem KeepsFiles.bind {a : Action α} {f : α → Action β} (ha : KeepsFiles a)
    (hf : ∀ x, KeepsFiles (f x)) : KeepsFiles (a >>= f) := by
  intro s
  rw [bind_apply]
  have hfirst := ha s
  cases hrun : a s with
  | mk result s' =>
      rw [hrun] at hfirst
      cases result with
      | error e => exact hfirst
      | ok x => exact (hf x s').trans hfirst

end Action

end BuildManifest
