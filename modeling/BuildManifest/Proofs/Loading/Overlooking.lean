import BuildManifest.Proofs.FileTree.Content
import BuildManifest.Proofs.Loading.Growth

/-!
Loads side by side. Two sessions may differ in what the file at some place holds, which is
where the manifests lie that are loaded in them. Every action that loading is made of does the
same in both of them, as long as the fetcher takes no notice of this file either. Two manifests
with the same directives then differ in no more than the numbers of their lines, which show
only in a failure.
-/

namespace BuildManifest

/-- Two sessions that differ in nothing but what the file at a place holds, if there is one. -/
structure Session.SameAside (location : Location) (s s' : Session) : Prop where
  world : s.world.SameAside location s'.world
  supply : s.supply = s'.supply
  calls : s.calls = s'.calls
  fetches : s.fetches = s'.fetches

theorem Session.SameAside.print {location : Location} {s s' : Session}
    (h : s.SameAside location s') (t : Text) :
    Session.SameAside location { s with world := s.world.print t }
      { s' with world := s'.world.print t } :=
  ⟨h.world.print t, h.supply, h.calls, h.fetches⟩

/-- Asked for a file where there is none, takes no notice of what a certain file holds. -/
def Fetcher.Overlooks (location : Location) (fetcher : Fetcher) : Prop :=
  ∀ url destination (w w' : World), w.SameAside location w' → w.isPresent destination = false →
    (fetcher url destination w).1 = (fetcher url destination w').1 ∧
      (fetcher url destination w).2.SameAside location (fetcher url destination w').2

/-- The same answer, or failures that count as the same. -/
inductive SameResult {α : Type} (same : Failure → Failure → Prop) :
    Except Failure α → Except Failure α → Prop
  | ok (x : α) : SameResult same (.ok x) (.ok x)
  | error {e e' : Failure} (h : same e e') : SameResult same (.error e) (.error e')

theorem SameResult.of_eq {α : Type} {same : Failure → Failure → Prop} (hsame : ∀ e, same e e)
    {r r' : Except Failure α} (h : r = r') : SameResult same r r' := by
  subst h
  cases r with
  | ok x => exact .ok x
  | error e => exact .error (hsame e)

theorem SameResult.ok_iff {α : Type} {same : Failure → Failure → Prop} {r r' : Except Failure α}
    (h : SameResult same r r') {x : α} : r = .ok x ↔ r' = .ok x := by
  cases h with
  | ok y => exact Iff.rfl
  | error h => simp

theorem SameResult.exists_of_error {α : Type} {same : Failure → Failure → Prop}
    {r r' : Except Failure α} (h : SameResult same r r') {e : Failure} (he : r = .error e) :
    ∃ e', r' = .error e' ∧ same e e' := by
  cases h with
  | ok x => cases he
  | error h =>
      cases he
      exact ⟨_, rfl, h⟩

theorem eq_of_sameResult {α : Type} {r r' : Except Failure α} (h : SameResult Eq r r') :
    r = r' := by
  cases h with
  | ok x => rfl
  | error h => rw [h]

namespace Action

variable {α β : Type} {location : Location} {same : Failure → Failure → Prop} {a b : Action α}
  {f g : α → Action β}

/-- Two ways to end with the same result, in sessions that differ in nothing but what a certain
file holds. -/
structure SameEnd (location : Location) (same : Failure → Failure → Prop)
    (ending ending' : Except Failure α × Session) : Prop where
  result : SameResult same ending.1 ending'.1
  session : ending.2.SameAside location ending'.2

/-- In sessions that differ in nothing but what the file holds, the actions end the same. -/
def Parallel (location : Location) (same : Failure → Failure → Prop) (a b : Action α) : Prop :=
  ∀ s s' : Session, s.SameAside location s' → SameEnd location same (a s) (b s')

/-- A chain ends the same if its first action does. What counts as the same then may depend on how
the chain ends. -/
theorem SameEnd.bind_of {same' : Failure → Failure → Prop} {s s' : Session}
    (ha : SameEnd location same (a s) (b s'))
    (hf : ∀ x t t', a s = (.ok x, t) → t.SameAside location t' →
      SameEnd location same' (f x t) (g x t'))
    (hsame : ∀ e e' t, a s = (.error e, t) → same e e' → same' e e') :
    SameEnd location same' ((a >>= f) s) ((b >>= g) s') := by
  obtain ⟨hresult, hafter⟩ := ha
  rw [bind_apply, bind_apply]
  cases hrun : a s with
  | mk r t =>
      cases hrun' : b s' with
      | mk r' t' =>
          rw [hrun, hrun'] at hresult hafter
          cases hresult with
          | ok x => exact hf x t t' hrun hafter
          | error h => exact ⟨.error (hsame _ _ t hrun h), hafter⟩

theorem SameEnd.bind {s s' : Session} (ha : SameEnd location same (a s) (b s'))
    (hf : ∀ x, Parallel location same (f x) (g x)) :
    SameEnd location same ((a >>= f) s) ((b >>= g) s') :=
  ha.bind_of (fun x t t' _ => hf x t t') fun _ _ _ _ h => h

theorem Parallel.bind (ha : Parallel location same a b)
    (hf : ∀ x, Parallel location same (f x) (g x)) :
    Parallel location same (a >>= f) (b >>= g) :=
  fun s s' hs => (ha s s' hs).bind hf

/-- Results that are equal count as the same. -/
theorem SameEnd.of_eq {s s' : Session} (h : SameEnd location Eq (a s) (b s'))
    (hsame : ∀ e t, a s = (.error e, t) → same e e) : SameEnd location same (a s) (b s') := by
  obtain ⟨hresult, hafter⟩ := h
  refine ⟨?_, hafter⟩
  rw [← eq_of_sameResult hresult]
  cases hrun : a s with
  | mk r t =>
      cases r with
      | ok x => exact .ok x
      | error e => exact .error (hsame e t hrun)

theorem Parallel.of_eq (hsame : ∀ e, same e e) (h : Parallel location Eq a b) :
    Parallel location same a b :=
  fun s s' hs => (h s s' hs).of_eq fun e _ _ => hsame e

theorem parallel_ofExcept {r r' : Except Failure α} (h : SameResult same r r') :
    Parallel location same (ofExcept r) (ofExcept r') :=
  fun _ _ hs => ⟨h, hs⟩

theorem parallel_pure (x : α) : Parallel location same (pure x : Action α) (pure x) :=
  parallel_ofExcept (.ok x)

theorem parallel_fail {e e' : Failure} (h : same e e') :
    Parallel location same (fail e : Action α) (fail e') :=
  parallel_ofExcept (.error h)

theorem parallel_say (t : Text) : Parallel location same (say t) (say t) :=
  fun _ _ hs => ⟨.ok (), hs.print _⟩

theorem parallel_expand (scope : Scope) (v : Variables) (t : Text) :
    Parallel location Eq (expand scope v t) (expand scope v t) := by
  intro s s' hs
  rw [expand_apply, expand_apply, hs.supply]
  exact ⟨.of_eq Eq.refl rfl, ⟨hs.world, rfl, hs.calls, hs.fetches⟩⟩

theorem parallel_makeDirectories (p : Path) :
    Parallel location Eq (makeDirectories p) (makeDirectories p) := by
  intro s s' hs
  obtain ⟨hresult, hworld⟩ := hs.world.ensureAll p.ancestors
  exact ⟨.of_eq Eq.refl (congrArg ofSystem hresult),
    ⟨hworld, hs.supply, hs.calls, hs.fetches⟩⟩

/-- A request for a missing file does not depend on what the other file holds. -/
theorem parallel_fetch {fetcher : Fetcher} (h : fetcher.Overlooks location) {s s' : Session}
    (hs : s.SameAside location s') {destination : Path}
    (habsent : s.world.isPresent destination = false) (url : Text) :
    SameEnd location Eq (fetch fetcher url destination s) (fetch fetcher url destination s') := by
  obtain ⟨hresult, hworld⟩ := h url destination s.world s'.world hs.world habsent
  exact ⟨.of_eq Eq.refl hresult,
    ⟨hworld, hs.supply, hs.calls, congrArg (· ++ [(url, destination)]) hs.fetches⟩⟩

/-- Failures that say the same may come to say it of different lines. -/
theorem SameEnd.atLine {path : Path} {n n' : Nat} {s s' : Session}
    (h : SameEnd location Eq (a s) (b s'))
    (hline : ∀ e t, a s = (.error e, t) → same (e.atLine path n) (e.atLine path n')) :
    SameEnd location same (atLine path n a s) (atLine path n' b s') := by
  obtain ⟨hresult, hafter⟩ := h
  rw [Action.atLine, Action.atLine]
  cases hrun : a s with
  | mk r t =>
      cases hrun' : b s' with
      | mk r' t' =>
          rw [hrun, hrun'] at hresult hafter
          cases hresult with
          | ok x => exact ⟨.ok x, hafter⟩
          | error he =>
              subst he
              exact ⟨.error (hline _ t hrun), hafter⟩

theorem parallel_atLine {path : Path} {n n' : Nat}
    (hline : ∀ e : Failure, same (e.atLine path n) (e.atLine path n'))
    (h : Parallel location Eq a b) :
    Parallel location same (atLine path n a) (atLine path n' b) :=
  fun s s' hs => (h s s' hs).atLine fun e _ _ => hline e

theorem parallel_chained (hsame : ∀ e, same e e) :
    Chained fun _ => Parallel location same where
  pure := parallel_pure
  badVariable _ := parallel_fail (hsame _)
  say := parallel_say
  expand scope v t := (parallel_expand scope v t).of_eq hsame
  bind ha hf := ha.bind hf

end Action

section

open BuildManifest.Action (Parallel)

variable {fetcher : Fetcher} {location : Location} {same : Failure → Failure → Prop}

/-- Both sessions have the file already, or neither of them has it. -/
theorem parallel_fetchUnlessPresent (h : fetcher.Overlooks location) (url : Text)
    (destination : Path) :
    Parallel location Eq (fetchUnlessPresent fetcher url destination)
      (fetchUnlessPresent fetcher url destination) := by
  intro s s' hs
  have hsame := hs.world.isPresent destination
  cases hpresent : s.world.isPresent destination with
  | true =>
      rw [fetchUnlessPresent_of_present hpresent,
        fetchUnlessPresent_of_present (hsame ▸ hpresent)]
      exact Action.parallel_say _ s s' hs
  | false =>
      rw [fetchUnlessPresent_of_absent hpresent,
        fetchUnlessPresent_of_absent (hsame ▸ hpresent),
        Action.bind_of_ok (Action.say_apply _ s), Action.bind_of_ok (Action.say_apply _ s')]
      -- the line that is printed first has no say in what there is
      exact (Action.parallel_fetch h (hs.print _) hpresent url).bind fun _ =>
        Action.parallel_say _

/-- A failure at one of the lines counts as the same as that failure at the other. -/
def SameLine (same : Failure → Failure → Prop) (n n' : Nat) : Prop :=
  ∀ path reason, same (.parse path n reason) (.parse path n' reason)

theorem SameLine.atLine {n n' : Nat} (hsame : ∀ e, same e e) (h : SameLine same n n')
    (path : Path) (e : Failure) : same (e.atLine path n) (e.atLine path n') := by
  cases e with
  | badVariable reason => exact h path reason
  | _ => exact hsame _

/-- Two loads on related lines end the same, if what the file holds is all that their sessions
differ in. -/
theorem parallel_linked (h : fetcher.Overlooks location) (hsame : ∀ e, same e e) :
    Plan.Linked (SameLine same) fetcher fetcher (fun _ => Parallel location Eq)
      fun _ => Parallel location same where
  onLine := Action.parallel_chained Eq.refl
  chained := Action.parallel_chained hsame
  atLine hline path _ _ h := Action.parallel_atLine (hline.atLine hsame path) h
  blame hline path reason := Action.parallel_fail (hline path reason)
  makeDirectories p := (Action.parallel_makeDirectories p).of_eq hsame
  fetch url destination := (parallel_fetchUnlessPresent h url destination).of_eq hsame

end

def Session.withManifest (text : Text) : Session :=
  ⟨⟨.dir [("build.yang", .file text.toBytes false)], [], [], []⟩, TokenSupply.ofSeed 0, [], []⟩

theorem Session.find_withManifest (text : Text) :
    (withManifest text).world.find (Path.absolutize "/" "build.yang") =
      .ok (.found ["build.yang"] (.file text.toBytes false)) := rfl

theorem Session.sameAside_withManifest (text text' : Text) :
    (withManifest text).SameAside ["build.yang"] (withManifest text') :=
  ⟨⟨rfl, rfl, rfl, rfl⟩, rfl, rfl, rfl⟩

/-- Writing where there is nothing makes the file in the same place, or fails alike. -/
theorem Fetcher.storing_overlooks (content : ByteArray) (location : Location) :
    (Fetcher.storing content).Overlooks location := by
  intro url destination w w' hw habsent
  rw [storing, storing, World.writeFile, World.writeFile]
  rcases FileTree.cases_of_outline (hw.outline_find destination) with
    ⟨e, hfind, hfind'⟩ | ⟨place, n, n', hfind, hfind'⟩ | ⟨directory, name, slash, hfind, hfind'⟩
  · rw [hfind, hfind']
    exact ⟨rfl, hw⟩
  · rw [World.isPresent_iff.mpr ⟨place, n, hfind⟩] at habsent
    cases habsent
  · rw [hfind, hfind']
    cases slash with
    | true => exact ⟨rfl, hw⟩
    | false => exact ⟨rfl, hw.putAt _ _⟩

end BuildManifest
