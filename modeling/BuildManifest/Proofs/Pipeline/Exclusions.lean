import BuildManifest.Proofs.Compilation.Coverage
import BuildManifest.Proofs.Compilation.Rules
import BuildManifest.Proofs.Loading.Exclusions
import BuildManifest.Proofs.Pipeline.Accounting

/-!
Whether exclude entries that were accepted while loading are accepted when their rules
are made. They are if expanding them draws no token: then they expand to the texts that
were checked. A token is drawn anew for every expansion, so with one the text that was
checked is not the text that is used.
-/

namespace BuildManifest

namespace Exclusions

variable {base workDir : Path} {entries : List Text} {x : Exclusions}

theorem globFault?_of_shallow {globs : List Glob} (h : ∀ g ∈ globs, g.isTooDeep = false) :
    Exclusion.globFault? globs = none := by
  have hof (m : Glob.Method) :
      ∀ g ∈ globs.filter (fun g => Glob.method g.tokens = m), g.isTooDeep = false :=
    fun g hg => h g (List.mem_filter.mp hg).1
  rw [Exclusion.globFault?]
  dsimp only
  rw [List.find?_eq_none.mpr fun g hg => Bool.eq_false_iff.mp (hof _ g hg),
    List.findIdx?_eq_none_iff.mpr (hof _)]
  rfl

/-- Entries that can each be used make no rules only if their globs cannot be put to use
together. -/
theorem globFault?_of_ofEntries {fault : Exclusion.Fault}
    (h : ∀ e ∈ entries, Exclusion.check e = .ok ())
    (hfault : ofEntries base workDir entries = .error fault) :
    ∃ globs, (∀ g ∈ globs, ∃ e ∈ entries, Glob.parse e = .ok g) ∧
      Exclusion.globFault? globs = some fault := by
  obtain ⟨x, hadd⟩ : ∃ x, entries.foldlM (add workDir) ⟨base, [], []⟩ = .ok x :=
    exists_addAll_iff.mpr h
  rw [ofEntries, hadd] at hfault
  dsimp only at hfault
  rw [globs_of_addAll hadd, List.nil_append] at hfault
  refine ⟨Exclusion.globsOf entries, fun g hg => Exclusion.exists_of_mem_globsOf hg, ?_⟩
  split at hfault
  · rename_i fault' hsome
    cases hfault
    exact hsome
  · cases hfault

end Exclusions

namespace Plan

variable {fetcher : Fetcher} {options : LoadOptions} {p : Path} {v : Variables} {plan : Plan}
  {s₀ s₁ : Session}

/-- Every text that an entry of a loaded plan has been expanded to can be used, so the rules
can be made. -/
theorem exclusions_of_load (hload : load fetcher options p v s₀ = (.ok plan, s₁))
    {entries : List Text} {supply left : TokenSupply}
    (hexpand : Expansion.expandAll plan.scope plan.bindings supply plan.excludes =
      (.ok entries, left)) (hdrawn : left.drawn = supply.drawn)
    (hbuild : ∀ globs, (∀ g ∈ globs, ∃ e ∈ entries, Glob.parse e = .ok g) →
      Exclusion.globFault? globs = none) (base workDir : Path) :
    ∃ x, exclusions base workDir entries = .ok x := by
  have hchecked : ∀ u ∈ entries, Exclusion.check u = .ok () := by
    intro u hu
    obtain ⟨e, he, hsteady⟩ := Expansion.steady_of_expandAll hexpand hdrawn u hu
    exact check_of_steady hload he hsteady
  rw [exclusions]
  cases hrules : Exclusions.ofEntries base workDir entries with
  | ok x => exact ⟨x, rfl⟩
  | error fault =>
      obtain ⟨globs, hglobs, hfault⟩ := Exclusions.globFault?_of_ofEntries hchecked hrules
      rw [hbuild globs hglobs] at hfault
      cases hfault

/-- The main compilation of a loaded plan does not fail with an exclude entry, in whatever
session it is done, if expanding the entries draws no token and globs that could each be read
can be put to use together; a failure that the executor makes up is not meant. -/
theorem compileMain_accepts_loaded_exclusions
    (hload : load fetcher options p v s₀ = (.ok plan, s₁)) (executor : Executor)
    (hexecutor : ∀ command w reason, (executor command w).1 ≠ .error (.badExclusion reason))
    (s : Session)
    (hdrawn : (Expansion.expandAll plan.scope plan.bindings s.supply plan.excludes).2.drawn =
      s.supply.drawn)
    (hbuild : ∀ entries globs,
      (Expansion.expandAll plan.scope plan.bindings s.supply plan.excludes).1 = .ok entries →
      (∀ g ∈ globs, ∃ e ∈ entries, Glob.parse e = .ok g) → Exclusion.globFault? globs = none)
    (reason : Text) : (plan.compileMain executor s).1 ≠ .error (.badExclusion reason) := by
  intro hfailed
  have hexpand := Action.expandAll_apply plan.scope plan.bindings plan.excludes s
  cases hentries : (Expansion.expandAll plan.scope plan.bindings s.supply plan.excludes).1 with
  | error e =>
      rw [hentries] at hexpand
      rw [compileMain, Action.bind_of_error hexpand] at hfailed
      cases hfailed
      cases Expansion.ofWalk_of_expandAll hentries
  | ok entries =>
      rw [hentries] at hexpand
      rw [compileMain, Action.bind_of_ok hexpand] at hfailed
      obtain ⟨calls, _, hanswers, hending⟩ := accounts_compileExcluding executor plan 0 entries _
      rw [hfailed] at hending
      -- either the executor answered with the failure, or the compilation's own rules are at
      -- fault
      cases hending with
      | unanswered _ =>
          obtain ⟨w, hanswer⟩ := hanswers _ List.mem_concat_self
          exact hexecutor _ w reason hanswer.symm
      | stopped _ hown =>
          rcases hown with hwalk | hrules
          · cases hwalk
          · obtain ⟨x, hx⟩ := exclusions_of_load hload (Prod.ext hentries rfl) hdrawn
              (fun globs => hbuild entries globs hentries) plan.manifestDir plan.workDir
            rw [hx] at hrules
            cases hrules

section

open Recipe (emptyFile startingIn)

def objectsManifest : Text := "ext: o\nexclude:*.$ext, old\n"

def objectsProject : Node :=
  .dir [("a.o", emptyFile), ("build.yang", .file objectsManifest.toBytes false)]

def objectsPlan : Plan :=
  { start "/build.yang" "/" "/" ⟨[("ext", "o")]⟩ 64 with excludes := ["*.$ext", "old"] }

theorem load_objectsProject :
    load (fun _ _ w => (.ok (), w)) ⟨"/", 64⟩ "build.yang" Table.empty
      (startingIn objectsProject) = (.ok objectsPlan, startingIn objectsProject) := by
  have hread : Script.read "/build.yang" objectsManifest =
      .ok [⟨1, .assign ⟨"ext", "o"⟩⟩, ⟨2, .exclude ["*.$ext", "old"]⟩] := rfl
  exact load_of_read rfl rfl rfl hread rfl rfl

theorem expandAll_objectsPlan (supply : TokenSupply) :
    Expansion.expandAll objectsPlan.scope objectsPlan.bindings supply objectsPlan.excludes =
      (.ok ["*.o", "old"], supply) := rfl

theorem compileMain_of_objectsProject :
    load (fun _ _ w => (.ok (), w)) ⟨"/", 64⟩ "build.yang" Table.empty
      (startingIn objectsProject) = (.ok objectsPlan, startingIn objectsProject) ∧
    ∀ reason, (objectsPlan.compileMain .succeeding (startingIn objectsProject)).1 ≠
      .error (.badExclusion reason) := by
  have hshallow : ∀ e ∈ (["*.o", "old"] : List Text), ∀ g, Glob.parse e = .ok g →
      g.isTooDeep = false := by
    rw [List.forall_mem_cons, List.forall_mem_singleton]
    constructor <;> rintro g ⟨⟩ <;> decide
  refine ⟨load_objectsProject, compileMain_accepts_loaded_exclusions load_objectsProject
    .succeeding (fun _ _ _ h => by cases h) _ (congrArg (·.2.drawn) (expandAll_objectsPlan _)) ?_⟩
  intro entries globs hentries hglobs
  rw [expandAll_objectsPlan] at hentries
  cases hentries
  refine Exclusions.globFault?_of_shallow fun g hg => ?_
  obtain ⟨e, he, hparse⟩ := hglobs g hg
  exact hshallow e he g hparse

/-- First a token late in the alphabet, then tokens early in it. -/
def fallingTokens : TokenSupply :=
  ⟨fun n => if n = 0 then ⟨List.replicate 16 'z', by decide⟩
    else ⟨List.replicate 16 'A', by decide⟩, 0⟩

def rangeProject : Node :=
  .dir [("build.yang", .file (Text.toBytes "exclude:[m-$builtins.random]\n") false)]

def rangePlan : Plan :=
  { start "/build.yang" "/" "/" Table.empty 64 with excludes := ["[m-$builtins.random]"] }

/-- The range is one when it is checked and none when it is used. -/
theorem compileMain_rejects_loaded_range :
    ∃ s₁, load (fun _ _ w => (.ok (), w)) ⟨"/", 64⟩ "build.yang" Table.empty
        { startingIn rangeProject with supply := fallingTokens } = (.ok rangePlan, s₁) ∧
      (rangePlan.compileMain .succeeding s₁).1 = .error (.badExclusion
        (Exclusion.Fault.unreadable
          ⟨"[m-AAAAAAAAAAAAAAAA]", .invalidRange 'm' 'A'⟩).reason) := by
  have hread : Script.read "/build.yang" "exclude:[m-$builtins.random]\n" =
      .ok [⟨1, .exclude ["[m-$builtins.random]"]⟩] := rfl
  exact ⟨_, load_of_read rfl rfl rfl hread rfl rfl, rfl⟩

end

end Plan

end BuildManifest
