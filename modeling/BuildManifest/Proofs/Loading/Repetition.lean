import BuildManifest.Proofs.Expansion.Drawing
import BuildManifest.Proofs.Loading.Growth

/-!
Loading again. A directive that has been carried out leaves nothing to do for another time:
the directories it made are there, and so is the file it fetched. Nothing that comes later
takes them away, since loading only adds to the files. So a manifest that is loaded once more
finds everything done, and as it draws no token, it comes to the same plan.
-/

namespace BuildManifest

/-- When it has succeeded in getting a file where there was none, leaves it in place, and
alone whatever there was. What it does when it fails is open. -/
def Fetcher.Places (fetcher : Fetcher) : Prop :=
  ∀ url destination (w : World), w.isPresent destination = false →
    (fetcher url destination w).1 = .ok () →
    w.Grows (fetcher url destination w).2 ∧
      (fetcher url destination w).2.isPresent destination = true

theorem Fetcher.Confined.places {fetcher : Fetcher} (hconfined : fetcher.Confined)
    (hdelivers : fetcher.Delivers) : fetcher.Places :=
  fun url destination w habsent hok =>
    ⟨hconfined url destination w habsent, hdelivers url destination w habsent hok⟩

namespace Action

variable {α β : Type} {a b : Action α} {f g : α → Action β} {s : Session} {x : α} {y : β}

/-- In this session the action comes to the answer by doing no more than printing. -/
structure Idles (a : Action α) (x : α) (s s' : Session) : Prop where
  answer : a s = (.ok x, s')
  files : s'.world.SameFiles s.world
  fetches : s'.fetches = s.fetches
  supply : s'.supply = s.supply

/-- Where the first action has succeeded without drawing a token, there is nothing to do for
the second one, which comes to the same answer, also if files have been added in between. -/
def LeavesIdle (a b : Action α) : Prop :=
  ∀ s x s₁, a s = (.ok x, s₁) →
    s.supply.drawn ≤ s₁.supply.drawn ∧ s.world.Grows s₁.world ∧
      (s₁.supply.drawn = s.supply.drawn →
        ∀ s₂ : Session, s₁.world.Grows s₂.world → ∃ s₃, Idles b x s₂ s₃)

theorem Idles.bind {s₁ s₂ : Session} (ha : Idles a x s s₁) (hf : Idles (f x) y s₁ s₂) :
    Idles (a >>= f) y s s₂ where
  answer := (bind_of_ok ha.answer).trans hf.answer
  files := hf.files.trans ha.files
  fetches := hf.fetches.trans ha.fetches
  supply := hf.supply.trans ha.supply

/-- What comes later has added to the files, so it disturbs nothing that was done before. -/
theorem LeavesIdle.bind (ha : LeavesIdle a b) (hf : ∀ x, LeavesIdle (f x) (g x)) :
    LeavesIdle (a >>= f) (b >>= g) := by
  intro s y s' h
  obtain ⟨x, s₁, hfirst, hsecond⟩ := exists_of_bind_ok h
  obtain ⟨hdrawn, hgrows, hidle⟩ := ha s x s₁ hfirst
  obtain ⟨hdrawn', hgrows', hidle'⟩ := hf x s₁ y s' hsecond
  refine ⟨hdrawn.trans hdrawn', hgrows.trans hgrows', fun hundrawn s₂ hlater => ?_⟩
  have hundrawn₁ : s₁.supply.drawn = s.supply.drawn := by omega
  have hundrawn₂ : s'.supply.drawn = s₁.supply.drawn := by omega
  obtain ⟨s₃, hthird⟩ := hidle hundrawn₁ s₂ (hgrows'.trans hlater)
  obtain ⟨s₄, hfourth⟩ := hidle' hundrawn₂ s₃ (hlater.trans hthird.files.grows)
  exact ⟨s₄, hthird.bind hfourth⟩

/-- An action that does nothing but answer answers again. -/
theorem leavesIdle_ofExcept (r : Except Failure α) :
    LeavesIdle (ofExcept r) (ofExcept r) := by
  intro s x s₁ h
  cases h
  exact ⟨Nat.le_refl _, .refl _, fun _ s₂ _ => ⟨s₂, rfl, .refl _, rfl, rfl⟩⟩

theorem leavesIdle_pure (x : α) : LeavesIdle (pure x : Action α) (pure x) :=
  leavesIdle_ofExcept (.ok x)

theorem leavesIdle_fail (e : Failure) : LeavesIdle (fail e : Action α) (fail e) :=
  leavesIdle_ofExcept (.error e)

theorem idles_say (t : Text) (s : Session) : Idles (say t) () s (say t s).2 where
  answer := rfl
  files := World.sameFiles_print s.world _
  fetches := rfl
  supply := rfl

theorem leavesIdle_say (t : Text) : LeavesIdle (say t) (say t) := by
  intro s x s₁ h
  cases h
  refine ⟨Nat.le_refl _, (World.sameFiles_print s.world _).grows, fun _ s₂ _ => ?_⟩
  exact ⟨_, idles_say t s₂⟩

theorem leavesIdle_expand (scope : Scope) (v : Variables) (t : Text) :
    LeavesIdle (expand scope v t) (expand scope v t) := by
  intro s u s₁ h
  rw [expand_apply] at h
  cases hexpand : Expansion.expand scope v s.supply t with
  | mk result left =>
      rw [hexpand] at h
      cases h
      refine ⟨Expansion.drawn_le_of_expand hexpand, .refl _, fun hundrawn s₂ _ => ?_⟩
      have hsteady := Expansion.steady_of_undrawn hexpand hundrawn s₂.supply
      refine ⟨s₂, ?_, .refl _, rfl, rfl⟩
      rw [expand_apply, hsteady]

theorem leavesIdle_makeDirectories (p : Path) :
    LeavesIdle (makeDirectories p) (makeDirectories p) := by
  intro s x s₁ h
  cases hmade : s.world.makeDirectories p with
  | mk result w =>
      have hgrows : s.world.Grows (s.world.makeDirectories p).2 :=
        World.grows_ensureAll s.world p.ancestors
      rw [hmade] at hgrows
      rw [makeDirectories, hmade] at h
      cases result with
      | error e => cases h
      | ok _ =>
          cases h
          refine ⟨Nat.le_refl _, hgrows, fun _ s₂ hlater => ⟨s₂, ?_, .refl _, rfl, rfl⟩⟩
          have hagain : s₂.world.makeDirectories p = (.ok (), s₂.world) :=
            World.ensureAll_again hmade hlater
          rw [makeDirectories, hagain]
          rfl

theorem leavesIdle_atLine (path : Path) (line : Nat) (h : LeavesIdle a b) :
    LeavesIdle (atLine path line a) (atLine path line b) := by
  intro s x s₁ hrun
  obtain ⟨hdrawn, hgrows, hidle⟩ := h s x s₁ (of_atLine_ok hrun)
  refine ⟨hdrawn, hgrows, fun hundrawn s₂ hlater => ?_⟩
  obtain ⟨s₃, hanswer, hfiles, hfetches, hsupply⟩ := hidle hundrawn s₂ hlater
  refine ⟨s₃, ?_, hfiles, hfetches, hsupply⟩
  rw [atLine, hanswer]

theorem leavesIdle_chained : Chained fun _ => LeavesIdle where
  pure := leavesIdle_pure
  badVariable _ := leavesIdle_fail _
  say := leavesIdle_say
  expand := leavesIdle_expand
  bind ha hf := ha.bind hf

end Action

section

open BuildManifest.Action (LeavesIdle)

variable {fetcher : Fetcher}

/-- A successful fetch has left the file in its place, if it was not there before. -/
theorem isPresent_of_fetchUnlessPresent (h : fetcher.Places) {url : Text} {destination : Path}
    {s s₁ : Session} (hrun : fetchUnlessPresent fetcher url destination s = (.ok (), s₁)) :
    s₁.supply = s.supply ∧ s.world.Grows s₁.world ∧ s₁.world.isPresent destination = true := by
  cases hpresent : s.world.isPresent destination with
  | true =>
      rw [fetchUnlessPresent_of_present hpresent] at hrun
      cases hrun
      exact ⟨rfl, (World.sameFiles_print s.world _).grows, hpresent⟩
  | false =>
      rw [fetchUnlessPresent_of_absent hpresent] at hrun
      obtain ⟨_, s₂, hsay, hfetched⟩ := Action.exists_of_bind_ok hrun
      cases hsay
      obtain ⟨_, s₃, hfetch, hlast⟩ := Action.exists_of_bind_ok hfetched
      have habsent (t : Text) : (s.world.print t).isPresent destination = false := hpresent
      obtain ⟨hgrows, hplaced⟩ := h url destination _ (habsent _) (congrArg Prod.fst hfetch)
      obtain rfl := congrArg Prod.snd hfetch
      cases hlast
      exact ⟨rfl, ⟨hgrows.tree, hgrows.current⟩, hplaced⟩

/-- What has been fetched, or was there before, is not fetched again. -/
theorem leavesIdle_fetchUnlessPresent (h : fetcher.Places) (fetcher' : Fetcher) (url : Text)
    (destination : Path) :
    LeavesIdle (fetchUnlessPresent fetcher url destination)
      (fetchUnlessPresent fetcher' url destination) := by
  intro s x s₁ hrun
  obtain ⟨hsupply, hgrows, hpresent⟩ := isPresent_of_fetchUnlessPresent h hrun
  refine ⟨hsupply ▸ Nat.le_refl _, hgrows, fun _ s₂ hlater => ?_⟩
  have hskip := fetchUnlessPresent_of_present (hlater.isPresent hpresent) fetcher' url
  obtain ⟨hanswer, hfiles, hfetches, hsupply⟩ := Action.idles_say _ s₂
  exact ⟨_, hskip.trans hanswer, hfiles, hfetches, hsupply⟩

theorem leavesIdle_linked (h : fetcher.Places) (fetcher' : Fetcher) :
    Plan.Linked Eq fetcher fetcher' (fun _ => LeavesIdle) fun _ => LeavesIdle where
  onLine := Action.leavesIdle_chained
  chained := Action.leavesIdle_chained
  atLine hline path _ _ h := hline ▸ Action.leavesIdle_atLine path _ h
  blame hline _ _ := hline ▸ Action.leavesIdle_fail _
  makeDirectories := Action.leavesIdle_makeDirectories
  fetch := leavesIdle_fetchUnlessPresent h fetcher'

/-- The manifest is among the files that are still there. -/
theorem leavesIdle_load (h : fetcher.Places) (fetcher' : Fetcher) (options : LoadOptions)
    (p : Path) (v : Variables) :
    LeavesIdle (load fetcher options p v) (load fetcher' options p v) := by
  intro s plan s₁ hload
  obtain ⟨text, s₀, hread, hloaded⟩ := exists_of_load hload
  obtain ⟨rfl, location, executable, hfile⟩ := readManifest_eq_ok_iff.mp hread
  obtain ⟨hdrawn, hgrows, hidle⟩ :=
    (leavesIdle_linked h fetcher').loadText Action.leavesIdle_ofExcept options _ v text
      s₀ plan s₁ hloaded
  refine ⟨hdrawn, hgrows, fun hundrawn s₂ hlater => ?_⟩
  obtain ⟨n, hfile₂, halike⟩ := (hgrows.trans hlater).find hfile
  cases halike
  obtain ⟨s₃, hanswer, hfiles, hfetches, hsupply⟩ := hidle hundrawn s₂ hlater
  exact ⟨s₃, (load_of_found hfile₂).trans hanswer, hfiles, hfetches, hsupply⟩

/-- Loading twice is loading once. If a manifest has been loaded and no token was drawn for it,
then loading it with the same variables in the world that this has left comes to the same plan,
asks for no file, whatever the fetcher would do, and leaves every file as it is. -/
theorem load_again {options : LoadOptions} {p : Path} {v : Variables} {plan : Plan}
    {s s' : Session} (hplaces : fetcher.Places)
    (hload : load fetcher options p v s = (.ok plan, s'))
    (hundrawn : s'.supply.drawn = s.supply.drawn) (fetcher' : Fetcher) (s₂ : Session)
    (hworld : s₂.world.SameFiles s'.world) :
    ∃ s₃, load fetcher' options p v s₂ = (.ok plan, s₃) ∧
      s₃.fetches = s₂.fetches ∧ s₃.world.SameFiles s'.world ∧ s₃.supply = s₂.supply := by
  obtain ⟨_, _, hidle⟩ := leavesIdle_load hplaces fetcher' options p v s plan s' hload
  obtain ⟨s₃, hanswer, hfiles, hfetches, hsupply⟩ := hidle hundrawn s₂ hworld.grows
  exact ⟨s₃, hanswer, hfetches, hfiles.trans hworld, hsupply⟩

end

/-- A directory and a file behind a link, each asked for twice, once by a variable. -/
def repeatedManifest : Text := List.flatten
  ["out: l/x\n", "mkdir:$out\n", "download:http://h/f in $out/f\n",
    "download:http://h/g in d/../l/x/f\n", "when:out is l/x do kind: linked\n", "mkdir:d/x\n",
    "for .c: cc $file\n", "exclude:$out/*.o\n"]

def repeatedSession : Session :=
  ⟨⟨.dir [("build.yang", .file repeatedManifest.toBytes false), ("d", .dir []), ("l", .link "d")],
    [], [], []⟩, TokenSupply.ofSeed 0, [], []⟩

def repeatedLoad : Except Failure Plan × Session :=
  load (.storing .empty) ⟨"/", 64⟩ "build.yang" Table.empty repeatedSession

theorem exists_repeatedLoad : ∃ plan s', repeatedLoad = (.ok plan, s') ∧
    s'.supply.drawn = repeatedSession.supply.drawn ∧ s'.fetches.length = 1 := by
  have hfile : repeatedSession.world.find (Path.absolutize "/" "build.yang") =
      .ok (.found ["build.yang"] (.file repeatedManifest.toBytes false)) := rfl
  have hloaded : repeatedLoad = loadText (.storing .empty) ⟨"/", 64⟩ "/build.yang" Table.empty
      repeatedManifest repeatedSession := load_of_found hfile
  have hresult : repeatedLoad.1.toOption.isSome = true ∧ repeatedLoad.2.supply.drawn = 0 ∧
      repeatedLoad.2.fetches.length = 1 := by
    rw [hloaded]
    decide +kernel
  cases hload : repeatedLoad with
  | mk result s' =>
      rw [hload] at hresult
      obtain ⟨hplan, hundrawn, hfetches⟩ := hresult
      cases result with
      | error e => cases hplan
      | ok plan => exact ⟨plan, s', rfl, hundrawn, hfetches⟩

def Fetcher.refusing : Fetcher := fun url _ w => (.error (.download url "refused"), w)

/-- The second time nothing is fetched: a fetcher that would refuse does no harm. -/
theorem load_again_behind_link :
    (Fetcher.storing .empty).Places ∧ ∃ plan s' s₃, repeatedLoad = (.ok plan, s') ∧
      s'.supply.drawn = repeatedSession.supply.drawn ∧ s'.fetches.length = 1 ∧
      load .refusing ⟨"/", 64⟩ "build.yang" Table.empty s' = (.ok plan, s₃) ∧
      s₃.fetches = s'.fetches ∧ s₃.world.SameFiles s'.world := by
  have hplaces : (Fetcher.storing .empty).Places :=
    (Fetcher.storing_confined .empty).places (Fetcher.storing_delivers .empty)
  obtain ⟨plan, s', hload, hundrawn, hfetches⟩ := exists_repeatedLoad
  obtain ⟨s₃, hagain, hasked, hfiles, _⟩ :=
    load_again hplaces hload hundrawn .refusing s' (.refl _)
  exact ⟨hplaces, plan, s', s₃, hload, hundrawn, hfetches, hagain, hasked, hfiles⟩

end BuildManifest
