import BuildManifest.Proofs.Compilation.Walk

/-!
What compiling a directory comes to. The files it selects are those its walk
comes by for which there is a pattern, and each gives one command, from the
template of its pattern. If every command succeeds, these commands are all that
is handed over, in this order, and they are what is counted.
-/

namespace BuildManifest.Recipe

open BuildManifest.Action (Issues)

def selection (r : Recipe) (w : World) (x : Exclusions) (root : Path) : List (List Text) :=
  (w.filesUnder x root).filter fun names =>
    (pattern? r.patterns (Path.descend root names)).isSome

/-- The commands for files, each from the template of the pattern of the file. A file without
a pattern has none. -/
def commandsFor (r : Recipe) : List Path → Action (List Text)
  | [] => pure []
  | file :: rest =>
    match pattern? r.patterns file with
    | none => commandsFor r rest
    | some (_, template) => do
      let command ← r.render template file
      let commands ← commandsFor r rest
      pure (command :: commands)

def commandsUnder (r : Recipe) (w : World) (x : Exclusions) (root : Path) :
    Action (List Text) :=
  r.commandsFor ((r.selection w x root).map (Path.descend root))

section

variable {executor : Executor} {code : Text → Int} {r : Recipe} {w : World} {file p : Path}
  {files : List Path} {commands : List Text} {s s' : Session} {found : Text × Text}

/-- Commands for files can only be had if there is one for the first of them. -/
theorem commandsFor_cons (hpattern : pattern? r.patterns file = some found)
    (h : r.commandsFor (file :: files) s = (.ok commands, s')) :
    ∃ t left later, Expansion.expand r.scope r.bindings s.supply found.2 = (.ok t, left) ∧
      r.commandsFor files { s with supply := left } = (.ok later, s') ∧
      commands = fill file t :: later := by
  rw [commandsFor, hpattern] at h
  simp only [render, Action.bind_apply, Action.expand_apply] at h
  cases hexpand : Expansion.expand r.scope r.bindings s.supply found.2 with
  | mk result left =>
      rw [hexpand] at h
      cases result with
      | error e => cases h
      | ok t =>
          simp only [Action.pure_apply] at h
          cases hlater : r.commandsFor files { s with supply := left } with
          | mk result' s₁ =>
              rw [hlater] at h
              cases result' with
              | error e => cases h
              | ok later =>
                  cases h
                  exact ⟨t, left, later, rfl, hlater, rfl⟩

theorem issues_compileFile (hexec : executor.Answers code) {supply left : TokenSupply} {t : Text}
    (hpattern : pattern? r.patterns file = some found)
    (hexpand : Expansion.expand r.scope r.bindings supply found.2 = (.ok t, left)) :
    Issues code w (r.compileFile executor file) supply [fill file t] 1 left := by
  have hrender : Issues code w (r.render found.2 file) supply [] (fill file t) left :=
    (Action.issues_expand hexpand).bind Action.issues_pure
  have hcompile : Issues code w (r.compile executor found.2 file) supply [fill file t] () left := by
    refine hrender.bind ((Action.issues_say _).bind (Action.issues_call hexec fun s => ?_))
    exact ⟨_, World.sameFiles_print _ _, rfl⟩
  rw [compileFile, hpattern]
  exact hcompile.map fun _ => 1

/-- Compiling files issues the commands for them. -/
theorem issues_compileFiles (hexec : executor.Answers code)
    (h : r.commandsFor files s = (.ok commands, s')) :
    Issues code w (total (r.compileFile executor) files) s.supply commands commands.length
      s'.supply := by
  induction files generalizing s commands with
  | nil =>
      rw [commandsFor, Action.pure_apply] at h
      cases h
      exact Action.issues_pure
  | cons file files ih =>
      rw [total]
      cases hpattern : pattern? r.patterns file with
      | none =>
          rw [commandsFor, hpattern] at h
          rw [compileFile, hpattern, pure_bind]
          simpa only [Nat.zero_add, bind_pure] using ih h
      | some found =>
          obtain ⟨t, left, later, hexpand, hlater, rfl⟩ := commandsFor_cons hpattern h
          have hboth := (issues_compileFile hexec hpattern hexpand).bind
            (f := fun n => total (r.compileFile executor) files >>= fun m => pure (n + m))
            ((ih hlater).map (1 + ·))
          rwa [Nat.add_comm] at hboth

theorem length_commandsFor
    (hpattern : ∀ file ∈ files, (pattern? r.patterns file).isSome = true)
    (h : r.commandsFor files s = (.ok commands, s')) : commands.length = files.length := by
  induction files generalizing s commands with
  | nil =>
      rw [commandsFor, Action.pure_apply] at h
      cases h
      rfl
  | cons file files ih =>
      obtain ⟨found, hfound⟩ := Option.isSome_iff_exists.mp (hpattern file List.mem_cons_self)
      obtain ⟨t, left, later, _, hlater, rfl⟩ := commandsFor_cons hfound h
      rw [List.length_cons, List.length_cons,
        ih (fun f hf => hpattern f (List.mem_cons_of_mem file hf)) hlater]

/-- Files without a pattern can be left out. -/
theorem compileBelow_filter (names : List (List Text)) :
    r.compileBelow executor p names =
      r.compileBelow executor p (names.filter fun below =>
        (pattern? r.patterns (Path.descend p below)).isSome) := by
  induction names with
  | nil => rfl
  | cons below names ih =>
      rw [compileBelow, total]
      cases hpattern : pattern? r.patterns (Path.descend p below) with
      | none =>
          rw [List.filter_cons_of_neg (by simp [hpattern]), compileFile, hpattern, pure_bind]
          simp only [Nat.zero_add, bind_pure]
          exact ih
      | some found =>
          rw [List.filter_cons_of_pos (by simp [hpattern]), compileBelow, total]
          exact congrArg _ (funext fun n => congrArg (· >>= fun m => pure (n + m)) ih)

/-- Compiling a directory issues the commands for what it selects, and their number is the
answer. -/
theorem issues_compileTree {x : Exclusions} {root : Path} {here : Location}
    {entries : List (Text × Node)} (hexec : executor.Answers code)
    (h : w.Enterable x root here entries)
    (hcommands : r.commandsUnder w x root s = (.ok commands, s')) :
    Issues code w (r.compileTree executor x root) s.supply commands commands.length
      s'.supply := by
  have hfiles : Issues code w (r.compileBelow executor root (w.filesUnder x root)) s.supply
      commands commands.length s'.supply := by
    rw [compileBelow_filter, compileBelow, ← total_map]
    exact issues_compileFiles hexec hcommands
  have htold := hfiles.bind
    (f := fun n => Action.say (("* done " : Text) ++ Text.ofNat n ++ (" in " : Text) ++ root) >>=
      fun _ => pure n)
    ((Action.issues_say _).map fun _ => commands.length)
  rw [List.append_nil] at htold
  exact htold.congr fun s₀ hs₀ => compileTree_eq hexec.keeps h hs₀

theorem length_commandsUnder {x : Exclusions} {root : Path}
    (hcommands : r.commandsUnder w x root s = (.ok commands, s')) :
    commands.length = (r.selection w x root).length := by
  rw [← List.length_map (Path.descend root)]
  refine length_commandsFor ?_ hcommands
  rintro _ hfile
  obtain ⟨names, hnames, rfl⟩ := List.mem_map.mp hfile
  exact (List.mem_filter.mp hnames).2

end

section

variable {executor : Executor} {r : Recipe} {w : World} {x : Exclusions} {root : Path}
  {here : Location} {entries : List (Text × Node)} {s s' : Session} {commands : List Text}

/-- The files that are selected are those below the directory that are spared and have a pattern. -/
theorem mem_selection_iff (hroot : w.Enterable x root here entries) {names : List Text} :
    names ∈ r.selection w x root ↔ w.HasFile root here names ∧ w.Spared x root names ∧
      (pattern? r.patterns (Path.descend root names)).isSome = true := by
  rw [selection, List.mem_filter, hroot.mem_filesUnder_iff, and_assoc]

theorem selection_pairwise (hroot : w.Enterable x root here entries) :
    (r.selection w x root).Pairwise (List.Lex Text.Before) :=
  hroot.filesUnder_pairwise.filter _

/-- If there are commands for what is selected, then compiling the directory hands over these and
no others, and counts them. -/
def CompilesSelection (executor : Executor) (r : Recipe) (x : Exclusions) (root : Path)
    (s : Session) : Prop :=
  ∀ commands s', r.commandsUnder s.world x root s = (.ok commands, s') →
    ∃ s'', r.compileTree executor x root s = (.ok (r.selection s.world x root).length, s'') ∧
      s''.calls = s.calls ++ commands.map (fun command => ⟨command, .ok 0⟩)

theorem compilesSelection_of_success (hexec : executor.Answers fun _ => 0)
    (hroot : s.world.Enterable x root here entries) : CompilesSelection executor r x root s := by
  intro commands s' hcommands
  have hzero : ∀ c ∈ commands, (fun _ => 0 : Text → Int) c = 0 := fun _ _ => rfl
  obtain ⟨s'', hrun, hcalls, _⟩ :=
    issues_compileTree hexec hroot hcommands s (.refl _) rfl
  refine ⟨s'', ?_, ?_⟩
  · rw [hrun, outcome_of_success hzero, length_commandsUnder hcommands]
  · rw [hcalls, upToFailure_of_success hzero]
    rfl

/-- If every command succeeds, compiling a directory hands over one command for each file below
it that is spared and has a pattern, in the order of the names on the way to the files, and
nothing else. No file is compiled twice, and the answer is the number of the files. -/
theorem compileTree_of_success (hexec : executor.Answers fun _ => 0)
    (hroot : s.world.Enterable x root here entries)
    (hcommands : r.commandsUnder s.world x root s = (.ok commands, s')) :
    (∀ names, names ∈ r.selection s.world x root ↔
      s.world.HasFile root here names ∧ s.world.Spared x root names ∧
        (pattern? r.patterns (Path.descend root names)).isSome = true) ∧
    (r.selection s.world x root).Pairwise (List.Lex Text.Before) ∧
    ((r.selection s.world x root).map (Path.descend root)).Nodup ∧
    commands.length = (r.selection s.world x root).length ∧
    ∃ s'', r.compileTree executor x root s = (.ok (r.selection s.world x root).length, s'') ∧
      s''.calls = s.calls ++ commands.map (fun command => ⟨command, .ok 0⟩) ∧
      s''.world.SameFiles s.world ∧ s''.fetches = s.fetches := by
  have hlength := length_commandsUnder hcommands
  have hzero : ∀ c ∈ commands, (fun _ => 0 : Text → Int) c = 0 := fun _ _ => rfl
  refine ⟨fun names => ?_, ?_, ?_, hlength, ?_⟩
  · rw [selection, List.mem_filter, hroot.mem_filesUnder_iff, and_assoc]
  · exact hroot.filesUnder_pairwise.filter _
  · exact (List.filter_sublist.map _).nodup hroot.nodup_paths
  · obtain ⟨s'', hrun, hcalls, hworld, hfetches, _⟩ :=
      issues_compileTree hexec hroot hcommands s (.refl _) rfl
    refine ⟨s'', ?_, ?_, hworld, hfetches⟩
    · rw [hrun, outcome_of_success hzero, hlength]
    · rw [hcalls, upToFailure_of_success hzero]
      rfl

end

def compilingC : Recipe := ⟨Table.empty, ⟨[(".c", "cc $file")]⟩, ⟨"/", 2⟩⟩

def emptyFile : Node := .file ⟨#[]⟩ false

def startingIn (tree : Node) : Session := ⟨⟨tree, [], [], []⟩, TokenSupply.ofSeed 0, [], []⟩

/-- A project in `/p`, with links to a file and to a directory in it. -/
def linkedProject : Node :=
  .dir [("p", .dir [("l.c", .link "a/x.c"), ("a.c", emptyFile), ("again", .link "a"),
    ("a", .dir [("x.c", emptyFile), ("notes", emptyFile)]),
    ("old", .dir [("y.c", emptyFile)])])]

/-- The directory `a` comes before the file `a.c`, the link to a file is compiled, the link to a
directory is not entered, and nothing of the excluded directory is compiled. -/
theorem compileTree_of_linkedProject :
    ∃ s'', compilingC.compileTree .succeeding ⟨"/p", ["/p/old"], []⟩ "/p"
        (startingIn linkedProject) = (.ok 3, s'') ∧
      s''.calls = [⟨"cc /p/a/x.c", .ok 0⟩, ⟨"cc /p/a.c", .ok 0⟩, ⟨"cc /p/l.c", .ok 0⟩] := by
  have hlist : (startingIn linkedProject).world.Listable "/p" ["p"]
      ((startingIn linkedProject).world.Spared ⟨"/p", ["/p/old"], []⟩ "/p") :=
    World.listable_of_span rfl (by decide)
  have hcommands : compilingC.commandsUnder (startingIn linkedProject).world
      ⟨"/p", ["/p/old"], []⟩ "/p" (startingIn linkedProject) =
        (.ok ["cc /p/a/x.c", "cc /p/a.c", "cc /p/l.c"], startingIn linkedProject) := rfl
  obtain ⟨_, _, _, hlength, s'', hrun, hcalls, _⟩ :=
    compileTree_of_success Executor.succeeding_answers ⟨rfl, rfl, hlist⟩ hcommands
  rw [← hlength] at hrun
  exact ⟨s'', hrun, hcalls⟩

def linkToProject : Node := .dir [("d", .dir [("a.c", emptyFile)]), ("l", .link "d")]

/-- A spelling of the root that leaves fewer than hundred bytes for what is below it. -/
def longRoot : Path := '/' :: (List.replicate 1999 ['.', '/']).flatten

def longName : Text := List.replicate 250 'd'

def longNamed : Node := .dir [(longName, .dir [("a.c", emptyFile)])]

/-- A rule that excludes a root keeps its files from being compiled only if the root is no link,
and a directory whose path gets too long is the end of a walk though nothing excludes it. -/
theorem compileTree_of_excluded_link_or_long_path :
    (∃ x, Exclusions.ofEntries "/l" "/" ["\x7b\x7d"] = .ok x ∧ x.excludes "/l" = true ∧
      (compilingC.compileTree .succeeding x "/l" (startingIn linkToProject)).2.calls.map
        Call.command = ["cc /l/a.c"]) ∧
    (longNamed.at? [longName, "a.c"]).map Node.kind = some .file ∧
    (compilingC.compileTree .succeeding Exclusions.empty longRoot
      (startingIn longNamed)).1.toOption = none :=
  ⟨⟨_, rfl, by decide +kernel, by decide +kernel⟩, by decide +kernel, by decide +kernel⟩

end BuildManifest.Recipe
