import BuildManifest.Pipeline
import BuildManifest.Proofs.Compilation.Coverage
import BuildManifest.Proofs.Loading.Collecting

/-!
The commands of a whole run. With an executor that answers each command with an
exit code of its own they are known in advance: the commands of the plan, then
what compiling each dependency and compiling the directory of the manifest come
to when nothing fails, then the checks. The run hands them over in this order up
to the first that fails.
-/

namespace BuildManifest

open BuildManifest.Action (Issues)

namespace Recipe

/-- Compiling the directory comes to its end as long as no command fails, and draws no token. -/
structure Compilable (r : Recipe) (s : Session) (x : Exclusions) (root : Path) : Prop where
  enterable : ∃ here entries, s.world.Enterable x root here entries
  expands : ∀ names ∈ r.selection s.world x root, ∀ found,
    pattern? r.patterns (Path.descend root names) = some found →
      ∃ t, Expansion.expand r.scope r.bindings s.supply found.2 = (.ok t, s.supply)

/-- The commands that compiling a directory hands over when all of them succeed. -/
def issued (r : Recipe) (x : Exclusions) (root : Path) (s : Session) : List Text :=
  (r.compileTree .succeeding x root { s with calls := [] }).2.calls.map Call.command

variable {r : Recipe} {s : Session} {x : Exclusions} {root : Path}

theorem exists_commandsFor {files : List Path}
    (h : ∀ file ∈ files, ∀ found, pattern? r.patterns file = some found →
      ∃ t, Expansion.expand r.scope r.bindings s.supply found.2 = (.ok t, s.supply)) :
    ∃ commands, r.commandsFor files s = (.ok commands, s) := by
  induction files with
  | nil => exact ⟨[], rfl⟩
  | cons file files ih =>
      obtain ⟨later, hlater⟩ := ih fun f hf => h f (List.mem_cons_of_mem file hf)
      cases hpattern : pattern? r.patterns file with
      | none =>
          refine ⟨later, ?_⟩
          rw [commandsFor, hpattern]
          exact hlater
      | some found =>
          obtain ⟨t, ht⟩ := h file List.mem_cons_self found hpattern
          refine ⟨fill file t :: later, ?_⟩
          rw [commandsFor, hpattern]
          simp only [render, Action.bind_apply, Action.expand_apply, ht, Action.pure_apply,
            hlater]

theorem Compilable.exists_commandsUnder (h : r.Compilable s x root) :
    ∃ commands, r.commandsUnder s.world x root s = (.ok commands, s) := by
  apply exists_commandsFor
  intro file hfile
  obtain ⟨names, hnames, rfl⟩ := List.mem_map.mp hfile
  exact h.expands names hnames

theorem Compilable.isDirectory (h : r.Compilable s x root) : s.world.isDirectory root = true := by
  obtain ⟨here, entries, henter⟩ := h.enterable
  rw [World.isDirectory, henter.find]
  rfl

/-- It draws no token if no template does. -/
theorem compilable_of_templates
    (henter : ∃ here entries, s.world.Enterable x root here entries)
    (h : ∀ found ∈ r.patterns.entries,
      ∃ t, Expansion.expand r.scope r.bindings s.supply found.2 = (.ok t, s.supply)) :
    r.Compilable s x root :=
  ⟨henter, fun _ _ found hfound => h found (List.mem_of_find?_eq_some hfound)⟩

/-- Whatever the exit codes are, compiling a directory goes through the commands that it hands
over when they are all zero. -/
theorem Compilable.issues {executor : Executor} {code : Text → Int}
    (h : r.Compilable s x root) (hexec : executor.Answers code) :
    Issues code s.world (r.compileTree executor x root) s.supply (r.issued x root s)
      (r.issued x root s).length s.supply := by
  obtain ⟨commands, hcommands⟩ := h.exists_commandsUnder
  obtain ⟨here, entries, henter⟩ := h.enterable
  have hissued : r.issued x root s = commands := by
    obtain ⟨s', hrun, hcalls, _⟩ :=
      issues_compileTree Executor.succeeding_answers henter hcommands { s with calls := [] }
        (.refl _) rfl
    rw [issued, hrun, hcalls, upToFailure_of_success fun _ _ => rfl, List.nil_append,
      map_command_answered]
  rw [hissued]
  exact issues_compileTree hexec henter hcommands

/-- Where every member of a list is counted by its commands, so is the list. -/
theorem issues_total {α : Type} {count : α → Action Nat} {code : Text → Int} {w : World}
    {supply : TokenSupply} {commands : α → List Text} {l : List α}
    (h : ∀ a ∈ l, Issues code w (count a) supply (commands a) (commands a).length supply) :
    Issues code w (total count l) supply (l.flatMap commands) (l.flatMap commands).length
      supply := by
  induction l with
  | nil => exact Action.issues_pure
  | cons a l ih =>
      have hrest := ih fun b hb => h b (List.mem_cons_of_mem a hb)
      rw [List.flatMap_cons, List.length_append]
      exact (h a List.mem_cons_self).bind (hrest.map _)

end Recipe

namespace Plan

/-- The commands of a run in which all of them succeed. The texts of the plan are given by what
they expand to. -/
def schedule (plan : Plan) (expanded : Text → Text) (x : Exclusions) (s : Session) : List Text :=
  plan.commands.map expanded ++
    (plan.dependencies.flatMap fun dependency =>
      plan.recipe.issued .empty (Path.absolutize plan.workDir (expanded dependency)) s) ++
    plan.recipe.issued x plan.manifestDir s ++
    plan.checks.map expanded

/-- What a run relies on: the texts of the plan expand and draw no token, the exclude entries
can be put to use as rules, and the directories can be compiled. -/
structure Runnable (plan : Plan) (s : Session) (expanded : Text → Text) (x : Exclusions) :
    Prop where
  expands : ∀ t ∈ plan.commands ++ plan.dependencies ++ plan.excludes ++ plan.checks,
    Expansion.expand plan.scope plan.bindings s.supply t = (.ok (expanded t), s.supply)
  rules : exclusions plan.manifestDir plan.workDir (plan.excludes.map expanded) = .ok x
  dependencies : ∀ dependency ∈ plan.dependencies, plan.recipe.Compilable s .empty
    (Path.absolutize plan.workDir (expanded dependency))
  main : plan.recipe.Compilable s x plan.manifestDir

variable {executor : Executor} {code : Text → Int} {plan : Plan} {s : Session} {w : World}
  {supply : TokenSupply} {expanded : Text → Text} {x : Exclusions}

theorem issues_require (hexec : executor.Answers code) (command : Text) :
    Issues code w (require executor command) supply [command] () supply :=
  Action.issues_call hexec fun s => ⟨s.world, .refl _, rfl⟩

theorem issues_runCommandsFrom (hexec : executor.Answers code) {commands : List Text}
    (hexpand : ∀ c ∈ commands,
      Expansion.expand plan.scope plan.bindings supply c = (.ok (expanded c), supply)) :
    Issues code w (runCommandsFrom executor plan commands) supply (commands.map expanded)
      commands.length supply := by
  induction commands with
  | nil => exact Action.issues_pure
  | cons c rest ih =>
      have hrest := ih fun d hd => hexpand d (List.mem_cons_of_mem c hd)
      have hcommand : Issues code w (Action.expand plan.scope plan.bindings c) supply []
          (expanded c) supply := Action.issues_expand (hexpand c List.mem_cons_self)
      exact hcommand.bind ((issues_require hexec (expanded c)).bind (hrest.map (· + 1)))

theorem issues_runChecksFrom (hexec : executor.Answers code) (count step : Nat)
    {checks : List Text}
    (hexpand : ∀ c ∈ checks,
      Expansion.expand plan.scope plan.bindings supply c = (.ok (expanded c), supply)) :
    Issues code w (runChecksFrom executor plan count step checks) supply (checks.map expanded)
      checks.length supply := by
  induction checks generalizing step with
  | nil => exact Action.issues_pure
  | cons c rest ih =>
      have hrest := ih (step + 1) fun d hd => hexpand d (List.mem_cons_of_mem c hd)
      have hcheck : Issues code w (Action.expand plan.scope plan.bindings c) supply []
          (expanded c) supply := Action.issues_expand (hexpand c List.mem_cons_self)
      have hrequire : Issues code w (Action.onFailure (progress step count "fail!")
          (require executor (expanded c))) supply [expanded c] () supply :=
        (issues_require hexec (expanded c)).onFailure _
      exact hcheck.bind ((Action.issues_say _).bind (hrequire.bind
        ((Action.issues_say _).bind (hrest.map (· + 1)))))

theorem issues_compileDependency (hexec : executor.Answers code) {dependency : Text}
    (hexpand : Expansion.expand plan.scope plan.bindings s.supply dependency =
      (.ok (expanded dependency), s.supply))
    (hdir : plan.recipe.Compilable s .empty (Path.absolutize plan.workDir (expanded dependency))) :
    Issues code s.world (compileDependency executor plan dependency) s.supply
      (plan.recipe.issued .empty (Path.absolutize plan.workDir (expanded dependency)) s)
      (plan.recipe.issued .empty (Path.absolutize plan.workDir (expanded dependency)) s).length
      s.supply := by
  have hpresent : Issues code s.world
      (Action.ask (·.isDirectory (Path.absolutize plan.workDir (expanded dependency))))
      s.supply [] true s.supply :=
    Action.issues_ask fun w' hw' => (hw'.isDirectory _).trans hdir.isDirectory
  have htree := hdir.issues hexec
  have htold := htree.bind (f := fun n =>
    Action.say (("* done dependency " : Text) ++ dependency) >>= fun _ => pure n)
    ((Action.issues_say _).map fun _ => _)
  rw [List.append_nil] at htold
  exact (Action.issues_expand hexpand).bind (hpresent.bind htold)

theorem issues_compileMain (hexec : executor.Answers code)
    (h : plan.Runnable s expanded x) :
    Issues code s.world (compileMain executor plan) s.supply
      (plan.recipe.issued x plan.manifestDir s)
      (plan.recipe.issued x plan.manifestDir s).length s.supply := by
  have hentries : Issues code s.world
      (Action.expandAll plan.scope plan.bindings plan.excludes) s.supply []
      (plan.excludes.map expanded) s.supply :=
    Action.issues_expand_each fun t ht => h.expands t (by simp [ht])
  refine hentries.bind ?_
  rw [h.rules]
  exact Action.issues_ofExcept.bind (h.main.issues hexec)

def summaryOf (plan : Plan) (expanded : Text → Text) (x : Exclusions) (s : Session) : Summary where
  commands := plan.commands.length
  compiled :=
    (plan.dependencies.flatMap fun dependency =>
      plan.recipe.issued .empty (Path.absolutize plan.workDir (expanded dependency)) s).length +
    (plan.recipe.issued x plan.manifestDir s).length
  checks := plan.checks.length

/-- The stages of a run hand over the parts of the schedule. -/
theorem issues_run (hexec : executor.Answers code) (h : plan.Runnable s expanded x) :
    Issues code s.world (plan.run executor) s.supply (plan.schedule expanded x s)
      (plan.summaryOf expanded x s) s.supply := by
  have hcommands : Issues code s.world (plan.runCommands executor) s.supply
      (plan.commands.map expanded) plan.commands.length s.supply :=
    issues_runCommandsFrom hexec fun c hc => h.expands c (by simp [hc])
  have hdependencies : Issues code s.world (plan.compileDependencies executor) s.supply _ _
      s.supply :=
    Recipe.issues_total fun dependency hd =>
      issues_compileDependency hexec (h.expands dependency (by simp [hd])) (h.dependencies _ hd)
  have hchecks : Issues code s.world (plan.runChecks executor) s.supply
      (plan.checks.map expanded) plan.checks.length s.supply := by
    have htold := (issues_runChecksFrom (w := s.world) hexec plan.checks.length 1
      fun c hc => h.expands c (by simp [hc])).bind (f := fun n =>
        Action.say (("* " : Text) ++ Text.ofNat n ++ (" checks done" : Text)) >>= fun _ => pure n)
      ((Action.issues_say _).map fun _ => plan.checks.length)
    rwa [List.append_nil] at htold
  rw [schedule, List.append_assoc, List.append_assoc]
  exact hcommands.bind (hdependencies.bind ((issues_compileMain hexec h).bind
    (hchecks.map (Summary.mk plan.commands.length (plan.summaryOf expanded x s).compiled))))

/-- A loaded plan has its lists from the lines of the manifest. A run of it hands its schedule
over up to the first command that fails. If there is such a command, it is what the run fails
with, and otherwise the run succeeds with the lengths of the parts of the schedule. -/
theorem run_of_load {fetcher : Fetcher} {options : LoadOptions} {p : Path} {v : Variables}
    {s₀ s₁ : Session} (hload : load fetcher options p v s₀ = (.ok plan, s₁))
    (hexec : executor.Answers code) (h : plan.Runnable s expanded x) :
    (∃ text instructions s₂,
      readManifest (Path.absolutize options.workDir p) s₀ = (.ok text, s₂) ∧
      Script.read (Path.absolutize options.workDir p) text = .ok instructions ∧
      plan.commands = instructions.flatMap (·.directive.commands) ∧
      plan.dependencies = instructions.flatMap (·.directive.dependencies) ∧
      plan.excludes = instructions.flatMap (·.directive.exclusions) ∧
      plan.checks = instructions.flatMap (·.directive.checks)) ∧
    plan.manifestDir = (Path.parent? (Path.absolutize options.workDir p)).getD options.workDir ∧
    plan.workDir = options.workDir ∧
    ∃ s', plan.run executor s =
        (outcome code (plan.summaryOf expanded x s) (plan.schedule expanded x s), s') ∧
      s'.calls = s.calls ++ answered code (upToFailure code (plan.schedule expanded x s)) ∧
      s'.world.SameFiles s.world ∧ s'.fetches = s.fetches := by
  obtain ⟨text, s₂, instructions, htext, hread, hcollects⟩ := collects_of_load hload
  refine ⟨⟨text, instructions, s₂, htext, hread, ?_⟩, hcollects.manifestDir, hcollects.workDir, ?_⟩
  · refine ⟨?_, ?_, ?_, ?_⟩
    · simpa [start, List.flatMap_map] using hcollects.commands
    · simpa [start, List.flatMap_map] using hcollects.dependencies
    · simpa [start, List.flatMap_map] using hcollects.excludes
    · simpa [start, List.flatMap_map] using hcollects.checks
  · obtain ⟨s', hrun, hcalls, hworld, hfetches, _⟩ := issues_run hexec h s (.refl _) rfl
    exact ⟨s', hrun, hcalls, hworld, hfetches⟩

section

open Recipe (emptyFile startingIn longName compilable_of_templates)

def idleFetcher : Fetcher := fun _ _ w => (.ok (), w)

def sampleManifest : Text :=
  "include:/lib\nfor .c: cc $file\ncmd:make $mode\nexclude:/p/old\ncheck:test\n"

def sampleInstructions : List Instruction :=
  [⟨1, .dependency "/lib"⟩, ⟨2, .pattern ".c" "cc $file"⟩, ⟨3, .command "make $mode"⟩,
    ⟨4, .exclude ["/p/old"]⟩, ⟨5, .check "test"⟩]

def sampleProject : Node :=
  .dir [("lib", .dir [("z.c", emptyFile)]),
    ("p", .dir [("a.c", emptyFile), ("b.c", emptyFile),
      ("build.yang", .file sampleManifest.toBytes false), ("old", .dir [("b.c", emptyFile)])])]

def samplePlan : Plan where
  manifestPath := "/p/build.yang"
  manifestDir := "/p"
  workDir := "/"
  bindings := ⟨[("mode", "fast")]⟩
  patterns := ⟨[(".c", "cc $file")]⟩
  commands := ["make $mode"]
  excludes := ["/p/old"]
  dependencies := ["/lib"]
  checks := ["test"]
  scope := ⟨"/p", 64⟩

theorem load_sampleProject :
    load idleFetcher ⟨"/", 64⟩ "p/build.yang" ⟨[("mode", "fast")]⟩ (startingIn sampleProject) =
      (.ok samplePlan, startingIn sampleProject) := by
  have hfile : (startingIn sampleProject).world.find "/p/build.yang" =
      .ok (.found ["p", "build.yang"] (.file sampleManifest.toBytes false)) := rfl
  have hread : Script.read "/p/build.yang" sampleManifest = .ok sampleInstructions := rfl
  exact load_of_read rfl rfl hfile hread rfl rfl

theorem enterable_sampleProject {root : Path} {name : Text} {entries : List (Text × Node)}
    (hfind : (startingIn sampleProject).world.find root = .ok (.found [name] (.dir entries)))
    (hspan : Text.byteLength root + (Node.dir entries).span < FileTree.pathLimit) :
    (startingIn sampleProject).world.Enterable x root [name] entries :=
  ⟨rfl, hfind, World.listable_of_span (World.at?_of_find hfind) hspan⟩

theorem samplePlan_runnable :
    samplePlan.Runnable (startingIn sampleProject)
      (fun t => if t = "make $mode" then "make fast" else t) ⟨"/p", ["/p/old"], []⟩ := by
  have htemplates : ∀ found ∈ samplePlan.recipe.patterns.entries, ∃ t,
      Expansion.expand samplePlan.recipe.scope samplePlan.recipe.bindings
        (startingIn sampleProject).supply found.2 =
          (.ok t, (startingIn sampleProject).supply) := by
    intro found hfound
    obtain rfl := List.mem_singleton.mp hfound
    exact ⟨"cc $file", rfl⟩
  refine ⟨?_, rfl, ?_, ?_⟩
  · refine List.forall_mem_cons.mpr ⟨rfl, List.forall_mem_cons.mpr ⟨rfl, ?_⟩⟩
    exact List.forall_mem_cons.mpr ⟨rfl, List.forall_mem_singleton.mpr rfl⟩
  · intro dependency hd
    obtain rfl := List.mem_singleton.mp hd
    exact compilable_of_templates ⟨_, _, enterable_sampleProject rfl (by decide)⟩ htemplates
  · exact compilable_of_templates ⟨_, _, enterable_sampleProject rfl (by decide)⟩ htemplates

def failingAt (command : Text) (code : Int) : Executor :=
  fun c w => (.ok (if c = command then code else 0), w)

theorem failingAt_answers (command : Text) (code : Int) :
    (failingAt command code).Answers fun c => if c = command then code else 0 :=
  ⟨fun _ _ => rfl, fun _ w => .refl w⟩

/-- The run of the sample ends in the middle of its third stage. -/
theorem run_of_sampleProject :
    ∃ s', samplePlan.run (failingAt "cc /p/a.c" 3) (startingIn sampleProject) =
        (.error (.execution "cc /p/a.c" 3), s') ∧
      s'.calls = [⟨"make fast", .ok 0⟩, ⟨"cc /lib/z.c", .ok 0⟩, ⟨"cc /p/a.c", .ok 3⟩] := by
  have hschedule : samplePlan.schedule (fun t => if t = "make $mode" then "make fast" else t)
      ⟨"/p", ["/p/old"], []⟩ (startingIn sampleProject) =
        ["make fast", "cc /lib/z.c", "cc /p/a.c", "cc /p/b.c", "test"] := by
    decide +kernel
  obtain ⟨_, _, _, s', hrun, hcalls, _⟩ :=
    run_of_load load_sampleProject (failingAt_answers "cc /p/a.c" 3) samplePlan_runnable
  rw [hschedule] at hrun hcalls
  exact ⟨s', hrun, hcalls⟩

/-- What comes of running a manifest once it has been loaded, every command succeeding. -/
def runAfterLoading (workDir p : Path) (tree : Node) : Option (Option Summary) :=
  match load idleFetcher ⟨workDir, 64⟩ p Table.empty (startingIn tree) with
  | (.error _, _) => none
  | (.ok plan, s) => some (plan.run .succeeding s).1.toOption

theorem runAfterLoading_of_load {workDir p : Path} {tree : Node} {plan : Plan} {s : Session}
    (h : load idleFetcher ⟨workDir, 64⟩ p Table.empty (startingIn tree) = (.ok plan, s)) :
    runAfterLoading workDir p tree = some (plan.run .succeeding s).1.toOption := by
  rw [runAfterLoading, h]

def bareProject : Node := .dir [("build.yang", .file (Text.toBytes "cmd:make\n") false)]

theorem runAfterLoading_bareProject : runAfterLoading "." "build.yang" bareProject = some none := by
  have hread : Script.read "build.yang" "cmd:make\n" = .ok [⟨1, .command "make"⟩] := rfl
  have hload : load idleFetcher ⟨".", 64⟩ "build.yang" Table.empty (startingIn bareProject) =
      (.ok { start "build.yang" [] "." Table.empty 64 with commands := ["make"] },
        startingIn bareProject) := load_of_read rfl rfl rfl hread rfl rfl
  rw [runAfterLoading_of_load hload]
  decide +kernel

/-- More groups inside each other than can be put to use. -/
def nestedGlob : Text :=
  (List.replicate 126 ("\x7ba" : Text)).flatten ++ List.replicate 126 '\x7d'

def globProject : Node :=
  .dir [("build.yang", .file (Text.toBytes (("exclude:" : Text) ++ nestedGlob)) false)]

theorem eq_ok_of_toOption {ε α : Type} {r : Except ε α} {a : α} (h : r.toOption = some a) :
    r = .ok a := by
  cases r with
  | error e => cases h
  | ok b =>
      cases h
      rfl

theorem runAfterLoading_globProject : runAfterLoading "/" "build.yang" globProject = some none := by
  have hread : Script.read "/build.yang" (("exclude:" : Text) ++ nestedGlob) =
      .ok [⟨1, .exclude [nestedGlob]⟩] := eq_ok_of_toOption (by decide +kernel)
  have hdeferred : Plan.deferred [⟨1, .exclude [nestedGlob]⟩] = [] := by decide +kernel
  have hload : load idleFetcher ⟨"/", 64⟩ "build.yang" Table.empty (startingIn globProject) =
      (.ok { start "/build.yang" "/" "/" Table.empty 64 with excludes := [nestedGlob] },
        startingIn globProject) := by
    refine load_of_read rfl rfl rfl hread rfl ?_
    rw [hdeferred]
    rfl
  rw [runAfterLoading_of_load hload]
  decide +kernel

def nestedIn : Nat → List (Text × Node) → Node
  | 0, entries => .dir entries
  | n + 1, entries => .dir [(longName, nestedIn n entries)]

/-- A project so deep in a tree that the innermost directory in it has too long a path. -/
def deepProject : Node :=
  nestedIn 15 [("build.yang", .file (Text.toBytes "for .c: cc $file\n") false),
    (longName, .dir [(longName, .dir [])])]

def deepManifest : Path :=
  (List.replicate 15 ('/' :: longName)).flatten ++ ("/build.yang" : Text)

/-- A run can fail though no command does: the directory of the manifest is not found if the
manifest is named without one, a directory may be too deep to be read, and a rule that could be
read while loading may be one that cannot be put to use. -/
theorem run_fails_though_commands_succeed :
    runAfterLoading "." "build.yang" bareProject = some none ∧
    runAfterLoading "/" deepManifest deepProject = some none ∧
    runAfterLoading "/" "build.yang" globProject = some none :=
  ⟨runAfterLoading_bareProject, by decide +kernel, runAfterLoading_globProject⟩

end

end Plan

end BuildManifest
