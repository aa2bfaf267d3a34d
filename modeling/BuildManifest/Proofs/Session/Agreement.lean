import BuildManifest.Proofs.Session

/-!
Actions that cannot be told apart. What an action finds depends on what the commands before it
have done, and nothing is known of what commands do. So what is said of a world is said of every
world that printing and running commands can make of it. Two actions agree from a world on if they
do the same in all these worlds, and leave one of them behind; and this is kept when one action is
put behind another.
-/

namespace BuildManifest

/-- What a world can come to by lines that are printed and commands that are run. -/
inductive World.Follows (executor : Executor) (w : World) : World → Prop
  | refl : World.Follows executor w w
  | print {w' : World} (t : Text) (h : World.Follows executor w w') :
      World.Follows executor w (w'.print t)
  | command {w' : World} (command : Text) (h : World.Follows executor w w') :
      World.Follows executor w (executor command w').2

/-- An executor that changes no file leaves the same files behind. -/
theorem World.Follows.sameFiles {executor : Executor} {w w' : World}
    (h : w.Follows executor w') (hexecutor : ∀ command w, (executor command w).2.SameFiles w) :
    w'.SameFiles w := by
  induction h with
  | refl => exact .refl w
  | print t _ ih => exact (World.sameFiles_print _ t).trans ih
  | command command _ ih => exact (hexecutor command _).trans ih

namespace Action

variable {α β : Type} {executor : Executor} {w : World}

/-- From this world on, the two actions do the same. -/
def Agree (executor : Executor) (w : World) (a b : Action α) : Prop :=
  ∀ s, w.Follows executor s.world → a s = b s ∧ w.Follows executor (a s).2.world

theorem agree_pure (x : α) : Agree executor w (pure x) (pure x) := fun _ hs => ⟨rfl, hs⟩

theorem agree_fail (e : Failure) : Agree executor w (fail e : Action α) (fail e) :=
  fun _ hs => ⟨rfl, hs⟩

theorem agree_ask (f : World → α) : Agree executor w (ask f) (ask f) := fun _ hs => ⟨rfl, hs⟩

theorem agree_say (t : Text) : Agree executor w (say t) (say t) :=
  fun _ hs => ⟨rfl, hs.print (t ++ ['\n'])⟩

theorem agree_expand (scope : Scope) (v : Variables) (t : Text) :
    Agree executor w (expand scope v t) (expand scope v t) := fun _ hs => ⟨rfl, hs⟩

theorem agree_call (command : Text) :
    Agree executor w (call executor command) (call executor command) :=
  fun _ hs => ⟨rfl, hs.command command⟩

theorem Agree.bind {a b : Action α} {f g : α → Action β} (hab : Agree executor w a b)
    (hfg : ∀ x, Agree executor w (f x) (g x)) : Agree executor w (a >>= f) (b >>= g) := by
  intro s hs
  obtain ⟨hsame, hfollows⟩ := hab s hs
  rw [bind_apply, bind_apply, ← hsame]
  cases hrun : a s with
  | mk r s' =>
      rw [hrun] at hfollows
      cases r with
      | error e => exact ⟨rfl, hfollows⟩
      | ok x => exact hfg x s' hfollows

/-- What is asked is answered by one of the worlds that the first one may have come to. -/
theorem Agree.ask_bind {f : World → α} {g h : α → Action β}
    (hgh : ∀ w', w.Follows executor w' → Agree executor w (g (f w')) (h (f w'))) :
    Agree executor w (ask f >>= g) (ask f >>= h) := by
  intro s hs
  rw [bind_apply, bind_apply, ask_apply]
  exact hgh s.world hs s hs

end Action

end BuildManifest
