import BuildManifest.Pipeline
import BuildManifest.Proofs.Compilation.Rules
import BuildManifest.Proofs.Path.Below
import BuildManifest.Proofs.Pipeline.EmptyEntries
import BuildManifest.Proofs.Pipeline.Schedule
import Mathlib.Data.List.Find
import Mathlib.Data.List.Sort

/-!
A project compiles the same wherever it lies. Globs are matched against what is left of a path below
the directory of the project, places are given relative to this directory, and an extension ends
the last name of a path. So the names that lead down to a file decide whether it is compiled, and
with which pattern, and where they lead down from does not.
-/

namespace BuildManifest

namespace Exclusion

/-- An entry that says what is excluded of a project wherever the project lies: a glob, or a
relative path that no `..` leads out of it, and without variables. -/
structure Movable (entry : Text) : Prop where
  plain : '$' ∉ entry
  relative : isPattern entry = false →
    Path.isAbsolute entry = false ∧ .up ∉ Path.components entry

/-- Whether an entry covers what names lead down to, relative to where they lead down from. -/
def coversBelow (entry : Text) (names : List Text) : Bool :=
  if isPattern entry then
    (Glob.parse entry).toOption.any fun g => g.isMatch (Text.joined ['/'] names)
  else (Path.componentsOf (Text.pieces '/' entry)).isPrefixOf (names.map Path.Component.name)

theorem covers_descend {d : Path} {entry : Text} {names : List Text}
    (habsolute : d.isAbsolute = true) (hplain : .up ∉ d.components) (hentry : Movable entry)
    (hnames : ∀ name ∈ names, Path.isName name = true) :
    covers d d entry (Path.descend d names) = coversBelow entry names := by
  rw [covers, coversBelow]
  cases hpattern : isPattern entry with
  | true => rw [if_pos rfl, if_pos rfl, Path.relativeTo?_descend habsolute hnames, Option.getD_some]
  | false =>
      obtain ⟨hrelative, hup⟩ := hentry.relative hpattern
      rw [if_neg Bool.false_ne_true, if_neg Bool.false_ne_true]
      exact Path.isUnder_absolutize_descend habsolute hplain hrelative
        (fun h => hup (Path.componentsOf_pieces_subset entry h)) hnames

end Exclusion

/-- The pattern for a file is the pattern for its name. -/
theorem Recipe.pattern?_descend_concat {patterns : Table} {d : Path} {names : List Text}
    {name : Text} (habsolute : d.isAbsolute = true)
    (hextensions : ∀ e ∈ patterns.entries, '/' ∉ e.1)
    (hnames : ∀ n ∈ names ++ [name], Path.isName n = true) :
    pattern? patterns (Path.descend d (names ++ [name])) = pattern? patterns name := by
  refine List.find?_congr fun e he => ?_
  rw [Text.endsWith, Text.endsWith, Bool.eq_iff_iff, List.isSuffixOf_iff_suffix,
    List.isSuffixOf_iff_suffix]
  exact Path.isSuffix_descend_concat_iff habsolute hnames (hextensions e he)

theorem Expansion.expandAll_of_plain {scope : Scope} {ts : List Text} (hpasses : 0 < scope.passes)
    (v : Variables) (s : TokenSupply) (h : ∀ t ∈ ts, '$' ∉ t) :
    expandAll scope v s ts = (.ok ts, s) := by
  induction ts with
  | nil => rfl
  | cons t ts ih =>
      rw [List.forall_mem_cons] at h
      obtain ⟨limit, hlimit⟩ := Nat.exists_eq_add_one.mpr hpasses
      have hfirst : expand scope v s t = (.ok t, s) := by
        rw [expand, hlimit, settle_of_unchanged limit (drawingPass_of_plain h.1 s)]
      rw [expandAll_cons_of_ok hfirst, ih h.2]
      rfl

namespace Exclusions

variable {x y : Exclusions}

theorem add_elsewhere (workDir workDir' : Path) (hglobs : x.globs = y.globs) (entry : Text) :
    SameFailure (fun x y => x.globs = y.globs) (x.add workDir entry) (y.add workDir' entry) := by
  rw [add, add]
  split
  · split
    · exact .ok (congrArg (· ++ _) hglobs)
    · exact .error _
  · exact .ok hglobs

theorem addAll_elsewhere (workDir workDir' : Path) (hglobs : x.globs = y.globs)
    (entries : List Text) :
    SameFailure (fun x y => x.globs = y.globs) (entries.foldlM (add workDir) x)
      (entries.foldlM (add workDir') y) := by
  induction entries generalizing x y with
  | nil => exact .ok hglobs
  | cons e rest ih =>
      rw [List.foldlM_cons, List.foldlM_cons]
      obtain ⟨bad, hx, hy⟩ | ⟨x', y', hx, hy, hglobs'⟩ :=
        exists_of_sameFailure (add_elsewhere workDir workDir' hglobs e)
      · rw [hx, hy]
        exact .error bad
      · rw [hx, hy]
        exact ih hglobs'

/-- What the entries are relative to makes no difference to whether rules can be made of them. -/
theorem ofEntries_elsewhere (base base' workDir workDir' : Path) (entries : List Text) :
    SameFailure (fun x y => x.globs = y.globs) (ofEntries base workDir entries)
      (ofEntries base' workDir' entries) := by
  have hstart : (⟨base, [], []⟩ : Exclusions).globs = (⟨base', [], []⟩ : Exclusions).globs := rfl
  exact sameFailure_ofEntries (fun _ _ h => h) (addAll_elsewhere workDir workDir' hstart entries)

end Exclusions

namespace Plan

/-- What makes a plan compile a file of a project, told by the names that lead down to the file:
no entry covers it or a directory on the way to it, the project itself included, and there is a
pattern for its name. -/
structure Chooses (plan : Plan) (project : Node) (names : List Text) : Prop where
  file : (project.at? names).map Node.kind = some .file
  spared : ∀ above, above <+: names →
    ∀ e ∈ plan.excludes, Exclusion.coversBelow e above = false
  pattern : (Recipe.pattern? plan.patterns (names.getLast?.getD [])).isSome = true

theorem chooses_congr {plan₁ plan₂ : Plan} (hpatterns : plan₁.patterns = plan₂.patterns)
    (hexcludes : plan₁.excludes = plan₂.excludes) {project : Node} {names : List Text} :
    plan₁.Chooses project names ↔ plan₂.Chooses project names := by
  constructor
  · rintro ⟨hfile, hspared, hpattern⟩
    exact ⟨hfile, hexcludes ▸ hspared, hpatterns ▸ hpattern⟩
  · rintro ⟨hfile, hspared, hpattern⟩
    exact ⟨hfile, hexcludes ▸ hspared, hpatterns ▸ hpattern⟩

/-- A plan for a project in a directory, which is also the one that it runs in. The directory is
absolute, with no `..` in it, and not a link, and the directories of the project that its
compilation has to enter have paths that are short enough to be read. -/
structure LiesAt (plan : Plan) (w : World) (d : Path) (here : Location)
    (entries : List (Text × Node)) : Prop where
  manifestDir : plan.manifestDir = d
  workDir : plan.workDir = d
  passes : 0 < plan.scope.passes
  absolute : d.isAbsolute = true
  plain : .up ∉ d.components
  proper : w.tree.isProper = true
  find : w.find d = .ok (.found here (.dir entries))
  kind : w.kindOf d = .ok .dir
  listable : ∀ x, Exclusions.ofEntries d d plan.excludes = .ok x → w.Listable d here (w.Spared x d)

section

variable {executor : Executor} {plan : Plan} {s : Session} {w : World} {d : Path} {here : Location}
  {entries : List (Text × Node)} {x : Exclusions} {names : List Text}

theorem LiesAt.enterable (h : plan.LiesAt w d here entries)
    (hx : Exclusions.ofEntries d d plan.excludes = .ok x) : w.Enterable x d here entries :=
  ⟨h.proper, h.find, h.listable x hx⟩

theorem LiesAt.at?_append (h : plan.LiesAt w d here entries) (names : List Text) :
    w.tree.at? (here ++ names) = (Node.dir entries).at? names := by
  rw [Node.at?_append, World.at?_of_find h.find]
  rfl

theorem LiesAt.isName (h : plan.LiesAt w d here entries) {n : Node}
    (hat : (Node.dir entries).at? names = some n) : ∀ name ∈ names, Path.isName name = true := by
  rw [← h.at?_append] at hat
  exact fun name hname =>
    (Node.proper_of_at? h.proper hat).2 name (List.mem_append_right here hname)

/-- Without links, the files of a project are just those that it holds. -/
theorem LiesAt.hasFile_iff (h : plan.LiesAt w d here entries)
    (hfree : (Node.dir entries).isLinkFree = true) :
    w.HasFile d here names ↔ ((Node.dir entries).at? names).map Node.kind = some .file := by
  rw [World.HasFile, h.at?_append]
  cases hat : (Node.dir entries).at? names with
  | none => simp
  | some n =>
      have hn := Node.isLinkFree_of_at? hfree hat
      cases n with
      | link => cases hn
      | file => simp [Node.kind]
      | dir => simp [Node.kind]

theorem LiesAt.excludes_descend (h : plan.LiesAt w d here entries)
    (hentries : ∀ e ∈ plan.excludes, Exclusion.Movable e)
    (hx : Exclusions.ofEntries d d plan.excludes = .ok x)
    (hnames : ∀ name ∈ names, Path.isName name = true) :
    x.excludes (Path.descend d names) = false ↔
      ∀ e ∈ plan.excludes, Exclusion.coversBelow e names = false := by
  rw [Exclusions.excludes_of_ofEntries hx, List.any_eq_false]
  refine forall₂_congr fun e he => ?_
  rw [Exclusion.covers_descend h.absolute h.plain (hentries e he) hnames, Bool.not_eq_true]

theorem LiesAt.spared_iff (h : plan.LiesAt w d here entries)
    (hentries : ∀ e ∈ plan.excludes, Exclusion.Movable e)
    (hx : Exclusions.ofEntries d d plan.excludes = .ok x)
    (hnames : ∀ name ∈ names, Path.isName name = true) :
    w.Spared x d names ↔ ∀ above, above <+: names →
      ∀ e ∈ plan.excludes, Exclusion.coversBelow e above = false := by
  have hexcludes : ∀ above, above <+: names →
      (x.excludes (Path.descend d above) = false ↔
        ∀ e ∈ plan.excludes, Exclusion.coversBelow e above = false) :=
    fun above habove => h.excludes_descend hentries hx fun name hname =>
      hnames name (habove.subset hname)
  rw [World.spared_of_dir h.kind, Exclusions.Spares]
  constructor
  · rintro ⟨hroot, hbelow⟩ above habove
    rw [← hexcludes above habove]
    by_cases hnil : above = []
    · rw [hnil]
      exact hroot
    · exact hbelow above hnil habove
  · intro hall
    refine ⟨(hexcludes [] (List.nil_prefix)).mpr (hall [] List.nil_prefix), ?_⟩
    intro above _ habove
    exact (hexcludes above habove).mpr (hall above habove)

theorem LiesAt.pattern?_descend (h : plan.LiesAt w d here entries)
    (hextensions : ∀ e ∈ plan.patterns.entries, '/' ∉ e.1)
    (hfile : ((Node.dir entries).at? names).map Node.kind = some .file) :
    Recipe.pattern? plan.patterns (Path.descend d names) =
      Recipe.pattern? plan.patterns (names.getLast?.getD []) := by
  obtain ⟨n, hat, hkind⟩ := Option.map_eq_some_iff.mp hfile
  obtain rfl | ⟨above, name, rfl⟩ := List.eq_nil_or_concat names
  · cases hat
    cases hkind
  · rw [List.concat_eq_append] at hat ⊢
    rw [Recipe.pattern?_descend_concat h.absolute hextensions (h.isName hat),
      List.getLast?_concat, Option.getD_some]

/-- What is selected does not depend on where the project lies. -/
theorem LiesAt.mem_selection_iff (h : plan.LiesAt w d here entries)
    (hextensions : ∀ e ∈ plan.patterns.entries, '/' ∉ e.1)
    (hentries : ∀ e ∈ plan.excludes, Exclusion.Movable e)
    (hfree : (Node.dir entries).isLinkFree = true)
    (hx : Exclusions.ofEntries d d plan.excludes = .ok x) :
    names ∈ plan.recipe.selection w x d ↔ plan.Chooses (.dir entries) names := by
  rw [Recipe.mem_selection_iff (h.enterable hx), h.hasFile_iff hfree]
  constructor
  · rintro ⟨hfile, hspared, hpattern⟩
    obtain ⟨n, hat, _⟩ := Option.map_eq_some_iff.mp hfile
    refine ⟨hfile, (h.spared_iff hentries hx (h.isName hat)).mp hspared, ?_⟩
    rw [← h.pattern?_descend hextensions hfile]
    exact hpattern
  · rintro ⟨hfile, hspared, hpattern⟩
    obtain ⟨n, hat, _⟩ := Option.map_eq_some_iff.mp hfile
    refine ⟨hfile, (h.spared_iff hentries hx (h.isName hat)).mpr hspared, ?_⟩
    rw [← h.pattern?_descend hextensions hfile] at hpattern
    exact hpattern

/-- Entries without variables are used as they are. -/
theorem LiesAt.compileMain_eq (h : plan.LiesAt w d here entries)
    (hentries : ∀ e ∈ plan.excludes, Exclusion.Movable e) (executor : Executor) (s : Session) :
    plan.compileMain executor s =
      (Action.ofExcept (exclusions d d plan.excludes) >>= fun x =>
        plan.recipe.compileTree executor x d) s := by
  have hexpand := Action.expandAll_apply plan.scope plan.bindings plan.excludes s
  rw [Expansion.expandAll_of_plain h.passes _ _ fun e he => (hentries e he).plain] at hexpand
  rw [compileMain, Action.bind_of_ok hexpand, h.manifestDir, h.workDir]

end

/-- What a main compilation compiles does not depend on where the project lies. Take a project
without links, patterns whose extensions have no slash in them, and exclude entries that can be
moved. In two places the rules that are made of the entries are both refused, for the same reason,
or the same files are selected in the same order, each with the same pattern in both places, and
each compilation hands over the commands for these files. -/
theorem compileMain_independent_of_location {executor : Executor}
    (hexec : executor.Answers fun _ => 0) {plan₁ plan₂ : Plan} {s₁ s₂ : Session} {d₁ d₂ : Path}
    {here₁ here₂ : Location} {entries : List (Text × Node)}
    (hpatterns : plan₁.patterns = plan₂.patterns) (hexcludes : plan₁.excludes = plan₂.excludes)
    (hextensions : ∀ e ∈ plan₁.patterns.entries, '/' ∉ e.1)
    (hentries : ∀ e ∈ plan₁.excludes, Exclusion.Movable e)
    (hfree : (Node.dir entries).isLinkFree = true)
    (h₁ : plan₁.LiesAt s₁.world d₁ here₁ entries) (h₂ : plan₂.LiesAt s₂.world d₂ here₂ entries) :
    (∃ reason, plan₁.compileMain executor s₁ = (.error (.badExclusion reason), s₁) ∧
      plan₂.compileMain executor s₂ = (.error (.badExclusion reason), s₂)) ∨
    ∃ x₁ x₂, plan₁.compileMain executor s₁ = plan₁.recipe.compileTree executor x₁ d₁ s₁ ∧
      plan₂.compileMain executor s₂ = plan₂.recipe.compileTree executor x₂ d₂ s₂ ∧
      plan₁.recipe.selection s₁.world x₁ d₁ = plan₂.recipe.selection s₂.world x₂ d₂ ∧
      (∀ names ∈ plan₁.recipe.selection s₁.world x₁ d₁, ∃ found,
        Recipe.pattern? plan₁.patterns (Path.descend d₁ names) = some found ∧
        Recipe.pattern? plan₂.patterns (Path.descend d₂ names) = some found) ∧
      Recipe.CompilesSelection executor plan₁.recipe x₁ d₁ s₁ ∧
      Recipe.CompilesSelection executor plan₂.recipe x₂ d₂ s₂ := by
  have hextensions' : ∀ e ∈ plan₂.patterns.entries, '/' ∉ e.1 := hpatterns ▸ hextensions
  have hentries' : ∀ e ∈ plan₂.excludes, Exclusion.Movable e := hexcludes ▸ hentries
  rw [h₁.compileMain_eq hentries, h₂.compileMain_eq hentries', exclusions, exclusions, ← hexcludes]
  obtain ⟨fault, hx₁, hx₂⟩ | ⟨x₁, x₂, hx₁, hx₂, _⟩ := exists_of_sameFailure
    (Exclusions.ofEntries_elsewhere d₁ d₂ d₁ d₂ plan₁.excludes)
  · rw [hx₁, hx₂]
    exact .inl ⟨fault.reason, rfl, rfl⟩
  · rw [hx₁, hx₂]
    rw [hexcludes] at hx₂
    refine .inr ⟨x₁, x₂, rfl, rfl, ?_, ?_, ?_, ?_⟩
    · refine (Recipe.selection_pairwise (h₁.enterable hx₁)).eq_of_mem_iff
        (Recipe.selection_pairwise (h₂.enterable hx₂)) fun names => ?_
      rw [h₁.mem_selection_iff hextensions hentries hfree hx₁,
        h₂.mem_selection_iff hextensions' hentries' hfree hx₂, chooses_congr hpatterns hexcludes]
    · intro names hnames
      obtain ⟨hfile, _, hpattern⟩ :=
        (h₁.mem_selection_iff hextensions hentries hfree hx₁).mp hnames
      obtain ⟨found, hfound⟩ := Option.isSome_iff_exists.mp hpattern
      refine ⟨found, ?_, ?_⟩
      · rw [h₁.pattern?_descend hextensions hfile, hfound]
      · rw [h₂.pattern?_descend hextensions' hfile, ← hpatterns, hfound]
    · exact Recipe.compilesSelection_of_success hexec (h₁.enterable hx₁)
    · exact Recipe.compilesSelection_of_success hexec (h₂.enterable hx₂)

section

open Recipe (emptyFile startingIn longName)

def planIn (d : Path) (excludes : List Text) : Plan :=
  { start (Path.join d "build.yang") d d Table.empty 64 with
    patterns := ⟨[(".c", "cc $file")]⟩
    excludes }

/-- A project with something to exclude by its place and something to exclude by its name. -/
def movedProject : List (Text × Node) :=
  [("a.c", emptyFile), ("b_gen.c", emptyFile), ("build", .dir [("c.c", emptyFile)])]

def movedTo (name : Text) : Session := startingIn (.dir [(name, .dir movedProject)])

def movedPlan (d : Path) : Plan := planIn d ["./build", "*_gen.c"]

theorem liesAt_movedTo {d : Path} {name : Text} (habsolute : d.isAbsolute = true)
    (hplain : .up ∉ d.components) (hproper : (movedTo name).world.tree.isProper = true)
    (hfind : (movedTo name).world.find d = .ok (.found [name] (.dir movedProject)))
    (hkind : (movedTo name).world.kindOf d = .ok .dir)
    (hspan : Text.byteLength d + (Node.dir movedProject).span < FileTree.pathLimit) :
    (movedPlan d).LiesAt (movedTo name).world d [name] movedProject where
  manifestDir := rfl
  workDir := rfl
  passes := Nat.succ_pos 63
  absolute := habsolute
  plain := hplain
  proper := hproper
  find := hfind
  kind := hkind
  listable := fun _ _ => World.listable_of_span (World.at?_of_find hfind) hspan

/-- The same file is compiled in either place, however the second one is spelled. -/
theorem compileMain_of_movedProject :
    ((movedPlan "/p").compileMain .succeeding (movedTo "p")).2.calls.map Call.command =
        ["cc /p/a.c"] ∧
    ∃ x₁ x₂,
      (movedPlan "/p").compileMain .succeeding (movedTo "p") =
        (movedPlan "/p").recipe.compileTree .succeeding x₁ "/p" (movedTo "p") ∧
      (movedPlan "/q/.//").compileMain .succeeding (movedTo "q") =
        (movedPlan "/q/.//").recipe.compileTree .succeeding x₂ "/q/.//" (movedTo "q") ∧
      (movedPlan "/p").recipe.selection (movedTo "p").world x₁ "/p" =
        (movedPlan "/q/.//").recipe.selection (movedTo "q").world x₂ "/q/.//" := by
  have hentries : ∀ e ∈ (movedPlan "/p").excludes, Exclusion.Movable e := by
    refine List.forall_mem_cons.mpr ⟨⟨by decide, fun _ => ⟨rfl, by decide⟩⟩, ?_⟩
    exact List.forall_mem_singleton.mpr ⟨by decide, fun h => by cases h⟩
  have hextensions : ∀ e ∈ (movedPlan "/p").patterns.entries, '/' ∉ e.1 :=
    List.forall_mem_singleton.mpr (by decide)
  have h₁ : (movedPlan "/p").LiesAt (movedTo "p").world "/p" ["p"] movedProject :=
    liesAt_movedTo rfl (by decide) rfl rfl rfl (by decide)
  have h₂ : (movedPlan "/q/.//").LiesAt (movedTo "q").world "/q/.//" ["q"] movedProject :=
    liesAt_movedTo rfl (by decide) rfl rfl rfl (by decide)
  have hpatterns : (movedPlan "/p").patterns = (movedPlan "/q/.//").patterns := rfl
  have hexcludes : (movedPlan "/p").excludes = (movedPlan "/q/.//").excludes := rfl
  have hcalls : ((movedPlan "/p").compileMain .succeeding (movedTo "p")).2.calls.map
      Call.command = ["cc /p/a.c"] := by decide +kernel
  obtain ⟨reason, hrefused, _⟩ | ⟨x₁, x₂, hmain₁, hmain₂, hsame, _⟩ :=
    compileMain_independent_of_location Executor.succeeding_answers hpatterns hexcludes
      hextensions hentries rfl h₁ h₂
  · rw [hrefused] at hcalls
    cases hcalls
  · exact ⟨hcalls, x₁, x₂, hmain₁, hmain₂, hsame⟩

def longEntries : List (Text × Node) :=
  [(longName, .dir [(longName, .dir [("a.c", emptyFile)])])]

theorem at?_nestedIn (n : Nat) (entries : List (Text × Node)) :
    (nestedIn n entries).at? (List.replicate n longName) = some (.dir entries) := by
  induction n with
  | zero => rfl
  | succ n ih =>
      rw [nestedIn, List.replicate_succ, Node.at?, Entries.get?, if_pos rfl]
      exact ih

def deepLocation : Path := (List.replicate 15 ('/' :: longName)).flatten

/-- In a place that is too deep the compilation fails, and in one that is spelled with `..` an entry
does not exclude the directory that it names. -/
theorem compileMain_depends_on_location :
    ((planIn "/" []).compileMain .succeeding
      (startingIn (.dir longEntries))).1.toOption = some 1 ∧
    (nestedIn 15 longEntries).at? (List.replicate 15 longName) = some (.dir longEntries) ∧
    ((planIn deepLocation []).compileMain .succeeding
      (startingIn (nestedIn 15 longEntries))).1.toOption = none ∧
    ((planIn "/p" ["build"]).compileMain .succeeding
      (startingIn (.dir [("p", .dir movedProject), ("q", .dir [])]))).1.toOption = some 2 ∧
    ((planIn "/q/../p" ["build"]).compileMain .succeeding
      (startingIn (.dir [("p", .dir movedProject), ("q", .dir [])]))).1.toOption = some 3 :=
  ⟨by decide +kernel, at?_nestedIn 15 longEntries, by decide +kernel, by decide +kernel,
    by decide +kernel⟩

end

end Plan

end BuildManifest
