import BuildManifest.Proofs.Expansion.Drawing
import BuildManifest.Proofs.Session

/-!
Actions that have more passes for what they expand. A text that settles within some passes
settles on the same text if more are allowed, and draws the same tokens. So an action of which
only the limit on the passes is raised does what it did before, unless an expansion was what it
failed with. `Outlasts` says so of two actions, and is kept when one action is put behind
another.
-/

namespace BuildManifest

def Failure.IsExpansion : Failure → Prop
  | .expansion _ _ => True
  | _ => False

def Scope.raised (limit : Nat) (scope : Scope) : Scope :=
  { scope with passes := max scope.passes limit }

namespace Expansion

variable {scope : Scope} {v : Variables} {root t u : Text} {s s' : TokenSupply} {limit : Nat}

/-- A text that settles within a limit settles the same within a higher one. -/
theorem settle_of_le (h : settle v root limit s t = (some u, s')) {limit' : Nat}
    (hlimit : limit ≤ limit') : settle v root limit' s t = (some u, s') := by
  induction limit generalizing s t limit' with
  | zero => cases h
  | succ limit ih =>
      obtain ⟨limit', rfl⟩ : ∃ l, limit' = l + 1 := ⟨limit' - 1, by omega⟩
      cases hpass : drawingPass v root s t with
      | mk t' s₁ =>
          by_cases hsettled : t' = t
          · subst hsettled
            rw [settle_of_unchanged limit hpass] at h
            rw [settle_of_unchanged limit' hpass, h]
          · rw [settle_of_changed limit hpass hsettled] at h
            rw [settle_of_changed limit' hpass hsettled]
            exact ih h (by omega)

theorem expand_raised (h : expand scope v s t = (.ok u, s')) (limit : Nat) :
    expand (scope.raised limit) v s t = (.ok u, s') := by
  rw [expand] at h
  split at h
  · rename_i r left hsettle
    cases h
    have hmore : settle v (scope.raised limit).root (scope.raised limit).passes s t =
        (some u, s') := settle_of_le hsettle (Nat.le_max_left _ _)
    rw [expand, hmore]
  · cases h

theorem expandAll_raised {ts us : List Text} (h : expandAll scope v s ts = (.ok us, s'))
    (limit : Nat) : expandAll (scope.raised limit) v s ts = (.ok us, s') := by
  induction ts generalizing s us with
  | nil => exact h
  | cons t ts ih =>
      obtain ⟨u, s₁, us', rfl, hfirst, hrest⟩ := exists_of_expandAll_cons h
      simp only [expandAll, expand_raised hfirst, ih hrest]

end Expansion

namespace Action

variable {α β γ δ : Type} {f : α → β} {a : Action α} {b : Action β}

/-- Wherever the second action starts, it ends where the first one does and with the same result,
put in its own terms by `f`, unless the first one fails with an expansion. -/
def Outlasts (f : α → β) (a : Action α) (b : Action β) : Prop :=
  ∀ s, (∃ e, (a s).1 = .error e ∧ e.IsExpansion) ∨ b s = ((a s).1.map f, (a s).2)

theorem outlasts_self (a : Action α) : Outlasts id a a := by
  intro s
  right
  cases hrun : a s with
  | mk r s' => cases r <;> rfl

theorem outlasts_pure (x : α) : Outlasts f (pure x) (pure (f x)) := fun _ => .inr rfl

theorem outlasts_fail (e : Failure) : Outlasts f (fail e) (fail e) := fun _ => .inr rfl

theorem outlasts_expand (scope : Scope) (v : Variables) (t : Text) (limit : Nat) :
    Outlasts id (expand scope v t) (expand (scope.raised limit) v t) := by
  intro s
  rw [expand_apply, expand_apply]
  cases hresult : Expansion.expand scope v s.supply t with
  | mk r supply =>
      cases r with
      | error e =>
          refine .inl ⟨e, rfl, ?_⟩
          rw [Expansion.eq_expansion_of_expand (congrArg Prod.fst hresult)]
          trivial
      | ok u =>
          right
          rw [Expansion.expand_raised hresult limit]
          rfl

theorem outlasts_expandAll (scope : Scope) (v : Variables) (ts : List Text) (limit : Nat) :
    Outlasts id (expandAll scope v ts) (expandAll (scope.raised limit) v ts) := by
  intro s
  rw [expandAll_apply, expandAll_apply]
  cases hresult : Expansion.expandAll scope v s.supply ts with
  | mk r supply =>
      cases r with
      | error e =>
          obtain ⟨t, _, rfl⟩ :=
            Expansion.exists_of_expandAll_error (congrArg Prod.fst hresult)
          exact .inl ⟨_, rfl, trivial⟩
      | ok us =>
          right
          rw [Expansion.expandAll_raised hresult limit]
          rfl

theorem Outlasts.of_run (h : Outlasts f a b) {s s' : Session} {r : Except Failure α}
    (hrun : a s = (r, s')) (hr : ∀ e, r = .error e → ¬ e.IsExpansion) : b s = (r.map f, s') := by
  have hs := h s
  rw [hrun] at hs
  exact hs.resolve_left fun ⟨e, he, hexpansion⟩ => hr e he hexpansion

/-- What comes behind an action is asked about only where the action succeeds. -/
theorem Outlasts.bind {g : α → Action γ} {g' : β → Action δ} {f' : γ → δ}
    (ha : Outlasts f a b) (hg : ∀ x, Outlasts f' (g x) (g' (f x))) :
    Outlasts f' (a >>= g) (b >>= g') := by
  intro s
  rw [bind_apply, bind_apply]
  cases hrun : a s with
  | mk r s' =>
      have hfirst := ha s
      rw [hrun] at hfirst
      cases r with
      | ok x =>
          rcases hfirst with ⟨e, herror, _⟩ | hsame
          · cases herror
          · rw [hsame]
            exact hg x s'
      | error e =>
          rcases hfirst with ⟨_, ⟨⟩, hexpansion⟩ | hsame
          · exact .inl ⟨e, rfl, hexpansion⟩
          · rw [hsame]
            exact .inr rfl

/-- The same action may come in front, -/
theorem Outlasts.behind {g : α → Action β} {g' : α → Action γ} {f' : β → γ} (a : Action α)
    (hg : ∀ x, Outlasts f' (g x) (g' x)) : Outlasts f' (a >>= g) (a >>= g') :=
  (outlasts_self a).bind hg

/-- and the same actions may follow. -/
theorem Outlasts.before {b : Action α} (ha : Outlasts id a b) (g : α → Action γ) :
    Outlasts id (a >>= g) (b >>= g) :=
  ha.bind fun x => outlasts_self (g x)

end Action

end BuildManifest
