import BuildManifest.Proofs.Compilation.Coverage
import BuildManifest.Proofs.Compilation.Rules
import BuildManifest.Proofs.Compilation.Visits
import Mathlib.Data.List.Sort

/-!
Exclude entries act as a union. What two lists of entries exclude together is what one or the other
of them excludes, and so a walk with all of the entries selects the files that are selected both
with the first and with the second ones. No directory that is left out for an entry hides a file
from the others: they would have to spare it together with all the directories above it. Whether
rules can be made of the entries is left to an assumption: that their globs, once each could be
read, can be put to use together.
-/

namespace BuildManifest

namespace Exclusions

open Exclusion (BuildTogether)

def IsUnion (x₁ x₂ x : Exclusions) : Prop :=
  ∀ p, x.excludes p = (x₁.excludes p || x₂.excludes p)

section

variable {x₁ x₂ x : Exclusions} {w : World} {root p : Path} {here : Location}
  {entries : List (Text × Node)} {names : List Text}

theorem IsUnion.sparesBelow_iff (h : IsUnion x₁ x₂ x) :
    x.SparesBelow p names ↔ x₁.SparesBelow p names ∧ x₂.SparesBelow p names := by
  simp only [SparesBelow, h _, Bool.or_eq_false_iff, imp_and, forall_and]

theorem IsUnion.spared_iff (h : IsUnion x₁ x₂ x) :
    w.Spared x root names ↔ w.Spared x₁ root names ∧ w.Spared x₂ root names := by
  simp only [World.Spared, h.sparesBelow_iff, h root, Bool.or_eq_false_iff, imp_and]
  exact and_and_and_comm

/-- More entries leave fewer directories to be entered. -/
theorem IsUnion.enterable (h : IsUnion x₁ x₂ x) (h₁ : w.Enterable x₁ root here entries) :
    w.Enterable x root here entries :=
  ⟨h₁.proper, h₁.find, fun names entries' hat hspared =>
    h₁.listable names entries' hat (h.spared_iff.mp hspared).1⟩

/-- What is selected with the one and with the other rules is selected with both. -/
theorem IsUnion.selection_eq (h : IsUnion x₁ x₂ x) (h₁ : w.Enterable x₁ root here entries)
    (h₂ : w.Enterable x₂ root here entries) (r : Recipe) :
    r.selection w x root =
      (r.selection w x₁ root).filter (· ∈ r.selection w x₂ root) := by
  have hroot := h.enterable h₁
  have hsorted : (r.selection w x root).Pairwise (List.Lex Text.Before) :=
    Recipe.selection_pairwise hroot
  refine hsorted.eq_of_mem_iff ((Recipe.selection_pairwise h₁).filter _) fun names => ?_
  rw [List.mem_filter, decide_eq_true_iff, Recipe.mem_selection_iff hroot,
    Recipe.mem_selection_iff h₁, Recipe.mem_selection_iff h₂, h.spared_iff]
  tauto

end

section

variable {base workDir : Path} {E E' E₁ E₂ : List Text} {x₁ x₂ x x' : Exclusions}

theorem exists_ofEntries_append_iff (h₁ : BuildTogether E₁) (h₂ : BuildTogether E₂)
    (h : BuildTogether (E₁ ++ E₂)) :
    (∃ x, ofEntries base workDir (E₁ ++ E₂) = .ok x) ↔
      (∃ x, ofEntries base workDir E₁ = .ok x) ∧ ∃ x, ofEntries base workDir E₂ = .ok x := by
  rw [exists_ofEntries_iff h, exists_ofEntries_iff h₁, exists_ofEntries_iff h₂,
    List.forall_mem_append]

theorem exists_ofEntries_iff_of_same_entries (hsame : ∀ e, e ∈ E ↔ e ∈ E')
    (h : BuildTogether E) (h' : BuildTogether E') :
    (∃ x, ofEntries base workDir E = .ok x) ↔ ∃ x, ofEntries base workDir E' = .ok x := by
  rw [exists_ofEntries_iff h, exists_ofEntries_iff h']
  simp only [hsame]

theorem isUnion_of_append (h₁ : ofEntries base workDir E₁ = .ok x₁)
    (h₂ : ofEntries base workDir E₂ = .ok x₂) (h : ofEntries base workDir (E₁ ++ E₂) = .ok x) :
    IsUnion x₁ x₂ x := by
  intro p
  rw [excludes_of_ofEntries h₁, excludes_of_ofEntries h₂, excludes_of_ofEntries h, List.any_append]

/-- The order of the entries makes no difference to what is excluded, and neither does how often
there is one of them. -/
theorem excludes_of_same_entries (hsame : ∀ e, e ∈ E ↔ e ∈ E')
    (h : ofEntries base workDir E = .ok x) (h' : ofEntries base workDir E' = .ok x') (p : Path) :
    x.excludes p = x'.excludes p := by
  rw [excludes_of_ofEntries h, excludes_of_ofEntries h', Bool.eq_iff_iff, List.any_eq_true,
    List.any_eq_true]
  simp only [hsame]

/-- Rules that exclude the same make a walk do the same. -/
theorem compileTree_of_same_excludes (h : ∀ p, x.excludes p = x'.excludes p)
    (executor : Executor) (r : Recipe) (root : Path) :
    r.compileTree executor x root = r.compileTree executor x' root :=
  funext fun s => (Recipe.agree_compileTree r (fun p _ _ => h p) s .refl).1

/-- Exclude entries act as a union, whatever they are, where globs that could each be read can be
put to use together. Rules can be made of two lists of entries together if they can be made of each,
and then they exclude what one or the other excludes. With them a directory compilation selects the
files that it selects with both lists, in the same order; each of the three compilations hands over
the commands for what it selects. That asks of the walks with either list that the directories that
they have to enter can be read. Entries in another order, or repeated, come to the same. -/
theorem ofEntries_acts_as_union (base workDir : Path) :
    (∀ E₁ E₂, BuildTogether E₁ → BuildTogether E₂ → BuildTogether (E₁ ++ E₂) →
      ((∃ x, ofEntries base workDir (E₁ ++ E₂) = .ok x) ↔
        (∃ x, ofEntries base workDir E₁ = .ok x) ∧ ∃ x, ofEntries base workDir E₂ = .ok x)) ∧
    (∀ E₁ E₂ x₁ x₂ x, ofEntries base workDir E₁ = .ok x₁ → ofEntries base workDir E₂ = .ok x₂ →
      ofEntries base workDir (E₁ ++ E₂) = .ok x →
      (∀ p, x.excludes p = (x₁.excludes p || x₂.excludes p)) ∧
      ∀ (executor : Executor) (r : Recipe) (root : Path) (s : Session) here entries,
        executor.Answers (fun _ => 0) →
        s.world.Enterable x₁ root here entries → s.world.Enterable x₂ root here entries →
        r.selection s.world x root =
          (r.selection s.world x₁ root).filter (· ∈ r.selection s.world x₂ root) ∧
        ∀ y ∈ [x₁, x₂, x], Recipe.CompilesSelection executor r y root s) ∧
    ∀ E E', (∀ e, e ∈ E ↔ e ∈ E') →
      (BuildTogether E → BuildTogether E' →
        ((∃ x, ofEntries base workDir E = .ok x) ↔ ∃ x, ofEntries base workDir E' = .ok x)) ∧
      ∀ x x', ofEntries base workDir E = .ok x → ofEntries base workDir E' = .ok x' →
        (∀ p, x.excludes p = x'.excludes p) ∧
        ∀ (executor : Executor) (r : Recipe) (root : Path),
          r.compileTree executor x root = r.compileTree executor x' root := by
  refine ⟨fun E₁ E₂ => exists_ofEntries_append_iff, ?_, ?_⟩
  · intro E₁ E₂ x₁ x₂ x hx₁ hx₂ hx
    have hunion := isUnion_of_append hx₁ hx₂ hx
    refine ⟨hunion, ?_⟩
    intro executor r root s here entries hexec h₁ h₂
    refine ⟨hunion.selection_eq h₁ h₂ r, ?_⟩
    rw [List.forall_mem_cons, List.forall_mem_cons, List.forall_mem_singleton]
    exact ⟨Recipe.compilesSelection_of_success hexec h₁,
      Recipe.compilesSelection_of_success hexec h₂,
      Recipe.compilesSelection_of_success hexec (hunion.enterable h₁)⟩
  · intro E E' hsame
    refine ⟨exists_ofEntries_iff_of_same_entries hsame, ?_⟩
    intro x x' hx hx'
    have hexcludes := excludes_of_same_entries hsame hx hx'
    exact ⟨hexcludes, compileTree_of_same_excludes hexcludes⟩

end

section

open Recipe (compilingC emptyFile linkedProject startingIn longRoot)

/-- The directory `old` and the files of one name one level down are left out together, also if the
entries are turned round and one of them is repeated. -/
theorem selection_of_linkedProject_with_both :
    BuildTogether ["old"] ∧ BuildTogether ["*/x.c"] ∧ BuildTogether ["old", "*/x.c"] ∧
      BuildTogether ["*/x.c", "old", "*/x.c"] ∧
      ∃ x₁ x₂ x x', ofEntries "/p" "/p" ["old"] = .ok x₁ ∧
        ofEntries "/p" "/p" ["*/x.c"] = .ok x₂ ∧ ofEntries "/p" "/p" ["old", "*/x.c"] = .ok x ∧
        ofEntries "/p" "/p" ["*/x.c", "old", "*/x.c"] = .ok x' ∧
        compilingC.selection (startingIn linkedProject).world x "/p" =
          (compilingC.selection (startingIn linkedProject).world x₁ "/p").filter
            (· ∈ compilingC.selection (startingIn linkedProject).world x₂ "/p") ∧
        compilingC.compileTree .succeeding x "/p" = compilingC.compileTree .succeeding x' "/p" ∧
        ∃ s'', compilingC.compileTree .succeeding x "/p" (startingIn linkedProject) =
            (.ok 2, s'') ∧
          s''.calls = [⟨"cc /p/a.c", .ok 0⟩, ⟨"cc /p/l.c", .ok 0⟩] := by
  have hold : BuildTogether ["old"] := fun _ => rfl
  have hfiles : BuildTogether ["*/x.c"] := fun _ => rfl
  have hboth : BuildTogether ["old", "*/x.c"] := fun _ => rfl
  have hturned : BuildTogether ["*/x.c", "old", "*/x.c"] := fun _ => rfl
  have henter : ∀ y, (startingIn linkedProject).world.Enterable y "/p" ["p"]
      [("l.c", .link "a/x.c"), ("a.c", emptyFile), ("again", .link "a"),
        ("a", .dir [("x.c", emptyFile), ("notes", emptyFile)]),
        ("old", .dir [("y.c", emptyFile)])] :=
    fun y => ⟨rfl, rfl, World.listable_of_span rfl (by decide)⟩
  obtain ⟨hsucceeds, hunion, hsame⟩ := ofEntries_acts_as_union "/p" "/p"
  obtain ⟨hsucceeds', hwalks'⟩ := hsame ["old", "*/x.c"] ["*/x.c", "old", "*/x.c"]
    (by simp [or_comm])
  obtain ⟨x, hx⟩ := (hsucceeds ["old"] ["*/x.c"] hold hfiles hboth).mpr ⟨⟨_, rfl⟩, _, rfl⟩
  obtain ⟨x', hx'⟩ := (hsucceeds' hboth hturned).mp ⟨x, hx⟩
  obtain ⟨_, hwalks⟩ := hunion ["old"] ["*/x.c"] _ _ x rfl rfl hx
  obtain ⟨hselection, hcompiles⟩ := hwalks .succeeding compilingC "/p" (startingIn linkedProject)
    _ _ Executor.succeeding_answers (henter _) (henter _)
  rw [List.forall_mem_cons, List.forall_mem_cons, List.forall_mem_singleton] at hcompiles
  cases hx
  obtain ⟨s'', hrun, hcalls⟩ := hcompiles.2.2 ["cc /p/a.c", "cc /p/l.c"]
    (startingIn linkedProject) rfl
  exact ⟨hold, hfiles, hboth, hturned, _, _, _, x', rfl, rfl, rfl, hx', hselection,
    (hwalks' _ x' rfl hx').2 .succeeding compilingC "/p", s'', hrun, hcalls⟩

def twoLongNames : Node :=
  .dir [(List.replicate 250 'a', .dir [("a.c", emptyFile)]),
    (List.replicate 250 'b', .dir [("b.c", emptyFile)]), ("z.c", emptyFile)]

def compiledWith (root : Path) (tree : Node) (entries : List Text) : Option (List Text) :=
  (ofEntries root root entries).toOption.map fun x =>
    (compilingC.compileTree .succeeding x root (startingIn tree)).2.calls.map Call.command

/-- The first entry leaves a directory to the walk that it cannot read, and then the file behind it
is not compiled. With one entry more it is. -/
theorem compiledWith_twoLongNames :
    compiledWith longRoot twoLongNames ["a*"] = some [] ∧
    compiledWith longRoot twoLongNames ["a*", "b*"] =
      some [("cc " : Text) ++ Path.join longRoot "z.c"] := by
  constructor <;> decide +kernel

end

end Exclusions

end BuildManifest
