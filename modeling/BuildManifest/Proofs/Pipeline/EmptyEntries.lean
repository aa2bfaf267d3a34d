import BuildManifest.Pipeline
import BuildManifest.Proofs.Compilation.Coverage
import BuildManifest.Proofs.Compilation.Visits
import BuildManifest.Proofs.Expansion.Drawing

/-!
Exclude entries that come out empty. An entry that is empty as it is written is no entry. One of
which nothing is left when its references are resolved is kept, and it names a place like any other
entry: relative to the work directory, and so the work directory itself. Where a walk does not come
to anything under the work directory it makes no difference.
-/

namespace BuildManifest

open BuildManifest.Action (Agree)
open BuildManifest.Expansion (Steady)

/-- The second list is the first one without some of its empty texts. -/
inductive Thinned : List Text → List Text → Prop
  | nil : Thinned [] []
  | kept {ts us : List Text} (t : Text) (h : Thinned ts us) : Thinned (t :: ts) (t :: us)
  | dropped {ts us : List Text} (h : Thinned ts us) : Thinned ([] :: ts) us

/-- The same failure, or results that belong together. -/
inductive SameFailure {ε α β : Type} (related : α → β → Prop) : Except ε α → Except ε β → Prop
  | error (e : ε) : SameFailure related (.error e) (.error e)
  | ok {x : α} {y : β} (h : related x y) : SameFailure related (.ok x) (.ok y)

theorem SameFailure.map {ε α β γ δ : Type} {related : α → β → Prop} {related' : γ → δ → Prop}
    {r : Except ε α} {r' : Except ε β} (h : SameFailure related r r') {f : α → γ} {g : β → δ}
    (hfg : ∀ x y, related x y → related' (f x) (g y)) :
    SameFailure related' (r.map f) (r'.map g) := by
  cases h with
  | error e => exact .error e
  | ok h => exact .ok (hfg _ _ h)

theorem exists_of_sameFailure {ε α β : Type} {related : α → β → Prop} {r : Except ε α}
    {r' : Except ε β} (h : SameFailure related r r') :
    (∃ e, r = .error e ∧ r' = .error e) ∨ ∃ x y, r = .ok x ∧ r' = .ok y ∧ related x y := by
  cases h with
  | error e => exact .inl ⟨e, rfl, rfl⟩
  | ok h => exact .inr ⟨_, _, rfl, rfl, h⟩

namespace Expansion

variable {scope : Scope} {v : Variables} {s s' : TokenSupply} {t u : Text} {ts : List Text}

theorem expandAll_cons_of_ok (h : expand scope v s t = (.ok u, s')) (ts : List Text) :
    expandAll scope v s (t :: ts) =
      ((expandAll scope v s' ts).1.map (u :: ·), (expandAll scope v s' ts).2) := by
  simp only [expandAll, h]
  cases expandAll scope v s' ts with
  | mk r s₁ => cases r <;> rfl

/-- To leave out texts of which nothing is left is to leave out empty texts. -/
theorem expandAll_filter {keep : Text → Bool}
    (h : ∀ t ∈ ts, keep t = false → Steady scope v t []) (s : TokenSupply) :
    SameFailure Thinned (expandAll scope v s ts).1 (expandAll scope v s (ts.filter keep)).1 ∧
      (expandAll scope v s ts).2 = (expandAll scope v s (ts.filter keep)).2 := by
  induction ts generalizing s with
  | nil => exact ⟨.ok .nil, rfl⟩
  | cons t ts ih =>
      obtain ⟨hfirst, hrest⟩ := List.forall_mem_cons.mp h
      cases hkeep : keep t with
      | true =>
          rw [List.filter_cons_of_pos hkeep]
          cases hexpand : expand scope v s t with
          | mk r s₁ =>
              cases r with
              | error e =>
                  rw [expandAll, expandAll, hexpand]
                  exact ⟨.error e, rfl⟩
              | ok u =>
                  obtain ⟨hresult, hleft⟩ := ih hrest s₁
                  rw [expandAll_cons_of_ok hexpand, expandAll_cons_of_ok hexpand]
                  exact ⟨hresult.map fun _ _ => .kept u, hleft⟩
      | false =>
          obtain ⟨hresult, hleft⟩ := ih hrest s
          rw [List.filter_cons_of_neg (by rw [hkeep]; exact Bool.false_ne_true),
            expandAll_cons_of_ok (hfirst hkeep s)]
          refine ⟨?_, hleft⟩
          have hdropped := hresult.map (f := ([] :: ·)) (g := id) fun _ _ => Thinned.dropped
          rwa [Except.map_id] at hdropped

end Expansion

namespace Exclusions

variable {x y : Exclusions} {place base workDir p : Path}

/-- The same rules, but for how often they have this place, if at all. -/
structure SameBesides (place : Path) (x y : Exclusions) : Prop where
  base : x.base = y.base
  globs : x.globs = y.globs
  places : x.places.filter (· ≠ place) = y.places.filter (· ≠ place)

theorem any_isUnder_filter (hplace : place.isUnder p = false) (places : List Path) :
    (places.filter (· ≠ place)).any (fun q => Path.isUnder q p) =
      places.any fun q => Path.isUnder q p := by
  rw [List.any_filter]
  congr 1
  funext q
  by_cases hq : q = place
  · rw [hq, hplace, Bool.and_false]
  · simp [hq]

/-- A path that does not lie under the place is excluded by both or by none. -/
theorem SameBesides.excludes_eq (h : SameBesides place x y)
    (hplace : Path.isUnder place p = false) : x.excludes p = y.excludes p := by
  rw [excludes, excludes, h.base, h.globs, ← any_isUnder_filter hplace, h.places,
    any_isUnder_filter hplace]

theorem SameBesides.add (h : SameBesides place x y) (workDir : Path) (entry : Text) :
    SameFailure (SameBesides place) (x.add workDir entry) (y.add workDir entry) := by
  rw [Exclusions.add, Exclusions.add]
  split
  · split
    · exact .ok ⟨h.base, congrArg (· ++ _) h.globs, h.places⟩
    · exact .error _
  · refine .ok ⟨h.base, h.globs, ?_⟩
    rw [List.filter_append, List.filter_append, h.places]

/-- An entry that is empty only adds the work directory. -/
theorem SameBesides.add_nil (h : SameBesides (Path.absolutize workDir []) x y) :
    ∃ x', x.add workDir [] = .ok x' ∧ SameBesides (Path.absolutize workDir []) x' y := by
  refine ⟨_, rfl, h.base, h.globs, ?_⟩
  rw [List.filter_append, ← h.places, List.filter_singleton]
  simp

theorem SameBesides.addAll (h : SameBesides (Path.absolutize workDir []) x y)
    {entries thinned : List Text} (hthinned : Thinned entries thinned) :
    SameFailure (SameBesides (Path.absolutize workDir []))
      (entries.foldlM (Exclusions.add workDir) x) (thinned.foldlM (Exclusions.add workDir) y) := by
  induction hthinned generalizing x y with
  | nil => exact .ok h
  | kept entry _ ih =>
      rw [List.foldlM_cons, List.foldlM_cons]
      obtain ⟨bad, hx, hy⟩ | ⟨x', y', hx, hy, h'⟩ := exists_of_sameFailure (h.add workDir entry)
      · rw [hx, hy]
        exact .error bad
      · rw [hx, hy]
        exact ih h'
  | dropped _ ih =>
      obtain ⟨x', hadd, h'⟩ := h.add_nil
      rw [List.foldlM_cons, hadd]
      exact ih h'

/-- Whether rules can be put to use depends on their globs only. -/
theorem sameFailure_ofEntries {related : Exclusions → Exclusions → Prop}
    (hglobs : ∀ x y, related x y → x.globs = y.globs) {base base' workDir workDir' : Path}
    {entries entries' : List Text}
    (h : SameFailure related (entries.foldlM (Exclusions.add workDir) ⟨base, [], []⟩)
      (entries'.foldlM (Exclusions.add workDir') ⟨base', [], []⟩)) :
    SameFailure related (ofEntries base workDir entries) (ofEntries base' workDir' entries') := by
  rw [ofEntries, ofEntries]
  obtain ⟨bad, hx, hy⟩ | ⟨x, y, hx, hy, hxy⟩ := exists_of_sameFailure h
  · rw [hx, hy]
    exact .error _
  · rw [hx, hy]
    dsimp only
    rw [hglobs x y hxy]
    split
    · exact .error _
    · exact .ok hxy

theorem sameBesides_ofEntries (base workDir : Path) {entries thinned : List Text}
    (hthinned : Thinned entries thinned) :
    SameFailure (SameBesides (Path.absolutize workDir [])) (ofEntries base workDir entries)
      (ofEntries base workDir thinned) := by
  have hstart : SameBesides (Path.absolutize workDir []) ⟨base, [], []⟩ ⟨base, [], []⟩ :=
    ⟨rfl, rfl, rfl⟩
  exact sameFailure_ofEntries (fun _ _ h => h.globs) (hstart.addAll hthinned)

end Exclusions

namespace Plan

variable {executor : Executor} {plan : Plan}

theorem sameBesides_exclusions (base workDir : Path) {entries thinned : List Text}
    (hthinned : Thinned entries thinned) :
    SameFailure (Exclusions.SameBesides (Path.absolutize workDir []))
      (exclusions base workDir entries) (exclusions base workDir thinned) := by
  rw [exclusions, exclusions]
  obtain ⟨fault, hx, hy⟩ | ⟨x, y, hx, hy, h⟩ :=
    exists_of_sameFailure (Exclusions.sameBesides_ofEntries base workDir hthinned)
  · rw [hx, hy]
    exact .error _
  · rw [hx, hy]
    exact .ok h

/-- Away from the work directory the walk is the same without entries that are empty. -/
theorem agree_excluding {w : World} {entries kept : List Text} (hthinned : Thinned entries kept)
    (hclear : ∀ p kind, Recipe.MayVisit executor w plan.manifestDir p kind →
      Path.isUnder (Path.absolutize plan.workDir []) p = false) :
    Agree executor w
      (Action.ofExcept (exclusions plan.manifestDir plan.workDir entries) >>= fun x =>
        plan.recipe.compileTree executor x plan.manifestDir)
      (Action.ofExcept (exclusions plan.manifestDir plan.workDir kept) >>= fun x =>
        plan.recipe.compileTree executor x plan.manifestDir) := by
  intro s hs
  rw [Action.bind_apply, Action.bind_apply, Action.ofExcept_apply, Action.ofExcept_apply]
  obtain ⟨e, hx, hy⟩ | ⟨x, y, hx, hy, hrules⟩ :=
    exists_of_sameFailure (sameBesides_exclusions plan.manifestDir plan.workDir hthinned)
  · rw [hx, hy]
    exact ⟨rfl, hs⟩
  · rw [hx, hy]
    have hwalk := Recipe.agree_compileTree plan.recipe fun p kind hp =>
      hrules.excludes_eq (hclear p kind hp)
    exact hwalk s hs

/-- Exclude entries that come out empty exclude nothing, unless the walk comes to something under
the work directory. Leave out any of the entries that expand to nothing and draw no token for it.
If no path that the walk may come to lies under the work directory, whatever the commands do to the
tree, then the main compilation does the same as before: the same files are compiled in the same
order, with the same commands and the same result, and it fails as it did before. -/
theorem compileMain_without_empty_entries (executor : Executor) (plan : Plan)
    (keep : Text → Bool)
    (hempty : ∀ e ∈ plan.excludes, keep e = false → Steady plan.scope plan.bindings e [])
    (s : Session)
    (hclear : ∀ p kind, Recipe.MayVisit executor s.world plan.manifestDir p kind →
      Path.isUnder (Path.absolutize plan.workDir []) p = false) :
    plan.compileMain executor s =
      { plan with excludes := plan.excludes.filter keep }.compileMain executor s := by
  obtain ⟨hexpanded, hleft⟩ := Expansion.expandAll_filter hempty s.supply
  have hall := Action.expandAll_apply plan.scope plan.bindings plan.excludes s
  have hsome := Action.expandAll_apply plan.scope plan.bindings (plan.excludes.filter keep) s
  rw [← hleft] at hsome
  obtain ⟨e, hresult, hresult'⟩ | ⟨entries, kept, hresult, hresult', hthinned⟩ :=
    exists_of_sameFailure hexpanded
  · rw [hresult] at hall
    rw [hresult'] at hsome
    rw [compileMain, compileMain, Action.bind_of_error hall, Action.bind_of_error hsome]
  · rw [hresult] at hall
    rw [hresult'] at hsome
    rw [compileMain, compileMain, Action.bind_of_ok hall, Action.bind_of_ok hsome]
    refine (agree_excluding hthinned hclear _ ?_).1
    exact .refl

section

open Recipe (MayVisit emptyFile startingIn)

def besideProject : Node := .dir [("p", .dir [("a.c", emptyFile)]), ("w", .dir [])]

/-- A plan in which one of two exclude entries comes out empty. -/
def skippingPlan (manifestDir workDir : Path) (excludes : List Text) : Plan :=
  { start (Path.join manifestDir "build.yang") manifestDir workDir ⟨[("skip", [])]⟩ 64 with
    patterns := ⟨[(".c", "cc $file")]⟩
    excludes }

theorem mayVisit_besideProject {p : Path} {kind : Kind}
    (hp : MayVisit .succeeding (startingIn besideProject).world "/p" p kind) :
    p = ("/p" : Text) ∨ p = ("/p/a.c" : Text) := by
  induction hp with
  | root => exact .inl rfl
  | entry _ hw hlist he ih =>
      rw [(hw.sameFiles Executor.succeeding_answers.keeps).list] at hlist
      rcases ih with rfl | rfl
      · cases hlist
        obtain rfl := List.mem_singleton.mp he
        exact .inr rfl
      · cases hlist

theorem steady_skip (manifestDir workDir : Path) (excludes : List Text) :
    Steady (skippingPlan manifestDir workDir excludes).scope
      (skippingPlan manifestDir workDir excludes).bindings "$skip" [] :=
  fun _ => rfl

theorem compileMain_of_besideProject :
    (∀ e ∈ (skippingPlan "/p" "/w" ["old", "$skip"]).excludes,
      decide (e ≠ ("$skip" : Text)) = false →
      Steady (skippingPlan "/p" "/w" ["old", "$skip"]).scope
        (skippingPlan "/p" "/w" ["old", "$skip"]).bindings e []) ∧
    (∀ p kind, MayVisit .succeeding (startingIn besideProject).world "/p" p kind →
      Path.isUnder (Path.absolutize "/w" []) p = false) ∧
    (skippingPlan "/p" "/w" ["old", "$skip"]).compileMain .succeeding (startingIn besideProject) =
      (skippingPlan "/p" "/w" ["old"]).compileMain .succeeding (startingIn besideProject) ∧
    ((skippingPlan "/p" "/w" ["old"]).compileMain .succeeding
      (startingIn besideProject)).1.toOption = some 1 := by
  have hempty : ∀ e ∈ (skippingPlan "/p" "/w" ["old", "$skip"]).excludes,
      decide (e ≠ ("$skip" : Text)) = false →
      Steady (skippingPlan "/p" "/w" ["old", "$skip"]).scope
        (skippingPlan "/p" "/w" ["old", "$skip"]).bindings e [] := by
    intro e _ hskip
    obtain rfl : e = "$skip" := by simpa using hskip
    exact steady_skip _ _ _
  have hclear : ∀ p kind, MayVisit .succeeding (startingIn besideProject).world "/p" p kind →
      Path.isUnder (Path.absolutize "/w" []) p = false := by
    intro p kind hp
    rcases mayVisit_besideProject hp with rfl | rfl <;> decide
  exact ⟨hempty, hclear, compileMain_without_empty_entries .succeeding
    (skippingPlan "/p" "/w" ["old", "$skip"]) _ hempty (startingIn besideProject) hclear,
    by decide +kernel⟩

/-- In the directory that the program runs in nothing is left to compile. -/
theorem compileMain_skips_work_directory :
    Steady (skippingPlan "/p" "/p" ["$skip"]).scope
      (skippingPlan "/p" "/p" ["$skip"]).bindings "$skip" [] ∧
    ((skippingPlan "/p" "/p" ["$skip"]).compileMain .succeeding
      (startingIn besideProject)).1.toOption = some 0 ∧
    ((skippingPlan "/p" "/p" []).compileMain .succeeding
      (startingIn besideProject)).1.toOption = some 1 :=
  ⟨steady_skip _ _ _, by decide +kernel, by decide +kernel⟩

end

end Plan

end BuildManifest
