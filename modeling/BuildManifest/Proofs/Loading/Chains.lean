import BuildManifest.Proofs.Loading.Stages
import Mathlib.Data.List.Forall2

/-!
Loading as a chain of actions. To compare two loads it is enough to compare the links they are
made of: what is printed, expanded, made and fetched. If a relation between actions holds of these
and of chains of actions that it holds of, it holds of all that loading does with the same
directives. The lines they are on may have other numbers in the second load, and the fetcher may
be another one. A property of one action is compared with itself.
-/

namespace BuildManifest

namespace Action

variable {R : (α : Type) → Action α → Action α → Prop}

/-- The relation holds between an action and itself if it only prints, expands or finds fault
with a variable, and between chains of which it relates the links. -/
structure Chained (R : (α : Type) → Action α → Action α → Prop) : Prop where
  pure {α : Type} (x : α) : R α (pure x) (pure x)
  badVariable {α : Type} (reason : Text) :
    R α (fail (.badVariable reason)) (fail (.badVariable reason))
  say (t : Text) : R Unit (say t) (say t)
  expand (scope : Scope) (v : Variables) (t : Text) :
    R Text (expand scope v t) (expand scope v t)
  bind {α β : Type} {a b : Action α} {f g : α → Action β} (ha : R α a b)
    (hf : ∀ x, R β (f x) (g x)) : R β (a >>= f) (b >>= g)

theorem Chained.and {R' : (α : Type) → Action α → Action α → Prop} (h : Chained R)
    (h' : Chained R') : Chained fun α a b => R α a b ∧ R' α a b where
  pure x := ⟨h.pure x, h'.pure x⟩
  badVariable reason := ⟨h.badVariable reason, h'.badVariable reason⟩
  say t := ⟨h.say t, h'.say t⟩
  expand scope v t := ⟨h.expand scope v t, h'.expand scope v t⟩
  bind ha hf := ⟨h.bind ha.1 fun x => (hf x).1, h'.bind ha.2 fun x => (hf x).2⟩

theorem Chained.ofVariables (h : Chained R) (r : Except VariableFault Variables) :
    R Variables (ofVariables r) (ofVariables r) := by
  cases r with
  | ok v => exact h.pure v
  | error fault => exact h.badVariable fault.message

theorem Chained.applyCondition (h : Chained R) (scope : Scope) (v : Variables) (c : Condition) :
    R Variables (applyCondition scope v c) (applyCondition scope v c) := by
  rw [Action.applyCondition]
  split
  · exact h.badVariable _
  · refine h.bind (h.expand _ _ _) fun actual => ?_
    split
    · exact h.bind (h.say _) fun _ => h.ofVariables _
    · exact h.bind (h.say _) fun _ => h.pure v

end Action

/-- What fetching does once the directory is there that the file goes to. -/
def fetchUnlessPresent (fetcher : Fetcher) (url : Text) (destination : Path) : Action Unit := do
  if ← Action.ask (·.isPresent destination) then
    Action.say (("* skipping download: " : Text) ++ destination ++ (" already exists" : Text))
  else
    Action.say (("* downloading " : Text) ++ url ++ (" -> " : Text) ++ destination ++
      ("..." : Text))
    Action.fetch fetcher url destination
    Action.say (("* downloaded " : Text) ++ url)

theorem fetchUnlessPresent_of_present {s : Session} {destination : Path}
    (h : s.world.isPresent destination = true) (fetcher : Fetcher) (url : Text) :
    fetchUnlessPresent fetcher url destination s =
      Action.say (("* skipping download: " : Text) ++ destination ++
        (" already exists" : Text)) s := by
  have hask : Action.ask (·.isPresent destination) s = (.ok true, s) := by
    rw [Action.ask_apply, h]
  rw [fetchUnlessPresent, Action.bind_of_ok hask, if_pos rfl]

theorem fetchUnlessPresent_of_absent {s : Session} {destination : Path}
    (h : s.world.isPresent destination = false) (fetcher : Fetcher) (url : Text) :
    fetchUnlessPresent fetcher url destination s =
      (Action.say (("* downloading " : Text) ++ url ++ (" -> " : Text) ++ destination ++
          ("..." : Text)) >>= fun _ =>
        Action.fetch fetcher url destination >>= fun _ =>
          Action.say (("* downloaded " : Text) ++ url)) s := by
  have hask : Action.ask (·.isPresent destination) s = (.ok false, s) := by
    rw [Action.ask_apply, h]
  rw [fetchUnlessPresent, Action.bind_of_ok hask, if_neg Bool.false_ne_true]

/-- Fetching makes the directory above the file, and then asks for the file unless it is there. -/
theorem fetchMissing_eq (fetcher : Fetcher) (url : Text) (destination : Path) :
    fetchMissing fetcher url destination =
      (match Path.parent? destination with
        | some parent => Action.makeDirectories parent
        | none => pure ()) >>= fun _ => fetchUnlessPresent fetcher url destination := by
  rw [fetchMissing]
  cases Path.parent? destination <;> rfl

/-- Fetching is compared by the two things that it does. -/
theorem Action.Chained.fetchMissing {R : (α : Type) → Action α → Action α → Prop}
    (h : Chained R) (fetcher fetcher' : Fetcher)
    (hmake : ∀ p, R Unit (makeDirectories p) (makeDirectories p)) {url : Text}
    {destination : Path} (hfetch : R Unit (fetchUnlessPresent fetcher url destination)
      (fetchUnlessPresent fetcher' url destination)) :
    R Unit (fetchMissing fetcher url destination) (fetchMissing fetcher' url destination) := by
  rw [fetchMissing_eq, fetchMissing_eq]
  refine h.bind ?_ fun _ => hfetch
  split
  · exact hmake _
  · exact h.pure ()

/-- The same directive on lines that are related. -/
def Instruction.Same (line : Nat → Nat → Prop) (i i' : Instruction) : Prop :=
  i.directive = i'.directive ∧ line i.number i'.number

theorem Instruction.same_self (instructions : List Instruction) :
    List.Forall₂ (Same Eq) instructions instructions :=
  List.forall₂_same.mpr fun _ _ => ⟨rfl, rfl⟩

namespace Plan

/-- The relation `R` holds between the links of two loads on related lines. What is done under the
number of a line, which finds its way into the failures, may be related more closely, by `Q`. -/
structure Linked (line : Nat → Nat → Prop) (fetcher fetcher' : Fetcher)
    (Q R : (α : Type) → Action α → Action α → Prop) : Prop where
  onLine : Action.Chained Q
  chained : Action.Chained R
  atLine {n n' : Nat} (hline : line n n') (path : Path) {a b : Action Variables}
    (h : Q Variables a b) : R Variables (.atLine path n a) (.atLine path n' b)
  blame {α : Type} {n n' : Nat} (hline : line n n') (path : Path) (reason : Text) :
    R α (.fail (.parse path n reason)) (.fail (.parse path n' reason))
  makeDirectories (p : Path) : R Unit (.makeDirectories p) (.makeDirectories p)
  fetch (url : Text) (destination : Path) :
    R Unit (fetchUnlessPresent fetcher url destination)
      (fetchUnlessPresent fetcher' url destination)

variable {line : Nat → Nat → Prop} {fetcher fetcher' : Fetcher}
  {Q R : (α : Type) → Action α → Action α → Prop}

/-- A relation that the links keep holds for the evaluation of a directive on related lines. -/
theorem Linked.evaluate (h : Linked line fetcher fetcher' Q R) {n n' : Nat} (hline : line n n')
    (plan : Plan) (d : Directive) :
    R Plan (evaluate fetcher plan ⟨n, d⟩) (evaluate fetcher' plan ⟨n', d⟩) := by
  cases d with
  | assign a =>
      exact h.chained.bind (h.atLine hline _ (h.onLine.ofVariables _)) fun _ => h.chained.pure _
  | condition c =>
      exact h.chained.bind (h.atLine hline _ (h.onLine.applyCondition _ _ c)) fun _ =>
        h.chained.pure _
  | download url destination =>
      refine h.chained.bind (h.chained.expand _ _ _) fun url => ?_
      dsimp only
      split
      · exact h.blame hline _ _
      · refine h.chained.bind (h.chained.expand _ _ _) fun destination => ?_
        refine h.chained.bind ?_ fun _ => h.chained.pure plan
        exact h.chained.fetchMissing fetcher fetcher' h.makeDirectories (h.fetch url _)
  | makeDirectory p =>
      refine h.chained.bind (h.chained.expand _ _ _) fun p => ?_
      exact h.chained.bind (h.makeDirectories _) fun _ => h.chained.pure plan
  | pattern | command | exclude | check | dependency => exact h.chained.pure _

/-- A relation that the links keep holds for whole scripts with the same directives on related
lines. -/
theorem Linked.evaluateAll (h : Linked line fetcher fetcher' Q R)
    {instructions instructions' : List Instruction}
    (hall : List.Forall₂ (Instruction.Same line) instructions instructions') (plan : Plan) :
    R Plan (evaluateAll fetcher plan instructions)
      (evaluateAll fetcher' plan instructions') := by
  induction hall generalizing plan with
  | nil => exact h.chained.pure plan
  | @cons i i' rest rest' hfirst hrest ih =>
      obtain ⟨n, d⟩ := i
      obtain ⟨n', d'⟩ := i'
      obtain ⟨rfl, hline⟩ := hfirst
      exact h.chained.bind (h.evaluate hline plan d) ih

theorem Linked.checkDeferred (h : Linked line fetcher fetcher' Q R) (plan : Plan)
    {entries entries' : List (Nat × Text)}
    (hall : List.Forall₂ (fun e e' => e.2 = e'.2 ∧ line e.1 e'.1) entries entries') :
    R Unit (plan.checkDeferred entries) (plan.checkDeferred entries') := by
  induction hall with
  | nil => exact h.chained.pure ()
  | @cons e e' rest rest' hfirst hrest ih =>
      obtain ⟨n, entry⟩ := e
      obtain ⟨n', entry'⟩ := e'
      obtain ⟨rfl, hline⟩ := hfirst
      refine h.chained.bind (h.chained.expand _ _ _) fun u => ?_
      split
      · exact ih
      · exact h.blame hline _ _

/-- Loading a text is comparable if reading it is. -/
theorem Linked.loadText (h : Linked Eq fetcher fetcher' Q R)
    (hread : ∀ {α : Type} (r : Except Failure α), R α (.ofExcept r) (.ofExcept r))
    (options : LoadOptions) (p : Path) (v : Variables) (text : Text) :
    R Plan (loadText fetcher options p v text) (loadText fetcher' options p v text) := by
  refine h.chained.bind (hread _) fun instructions => ?_
  refine h.chained.bind (h.evaluateAll (Instruction.same_self _) _) fun plan => ?_
  refine h.chained.bind (h.checkDeferred plan ?_) fun _ => h.chained.pure plan
  exact List.forall₂_same.mpr fun _ _ => ⟨rfl, rfl⟩

end Plan

end BuildManifest
