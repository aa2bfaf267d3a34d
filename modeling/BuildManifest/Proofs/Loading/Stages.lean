import BuildManifest.Loading
import BuildManifest.Proofs.Session

/-!
Loading in two stages. First the manifest has to be found and its text read, which
leaves the session as it is, and then everything depends on this text. What is
said of the second stage holds of loading any file with the text.
-/

namespace BuildManifest

theorem Text.ofBytes?_toBytes (t : Text) : Text.ofBytes? (Text.toBytes t) = some t := by
  have hvalid : (String.ofList t).toUTF8.IsValidUTF8 := (String.ofList t).isValidUTF8
  have hread : String.fromUTF8? (String.ofList t).toUTF8 = some (String.ofList t) := by
    rw [String.fromUTF8?, dif_pos hvalid]
    rfl
  rw [Text.ofBytes?, Text.toBytes, hread, Option.map_some, String.toList_ofList]

/-- The form of a text is the only one that it is read from. -/
theorem Text.ofBytes?_eq_some_iff {b : ByteArray} {t : Text} :
    Text.ofBytes? b = some t ↔ b = t.toBytes := by
  constructor
  · intro h
    rw [Text.ofBytes?, String.fromUTF8?] at h
    split at h
    · obtain rfl := Option.some.inj h
      rw [Text.toBytes, String.ofList_toList]
      rfl
    · cases h
  · rintro rfl
    exact Text.ofBytes?_toBytes t

/-- Reporting against a line changes nothing about a success. -/
theorem Action.of_atLine_ok {α : Type} {path : Path} {line : Nat} {a : Action α}
    {s s' : Session} {x : α} (h : atLine path line a s = (.ok x, s')) : a s = (.ok x, s') := by
  rw [atLine] at h
  split at h <;> cases h
  assumption

section

variable {s s' : Session} {p : Path} {location : Location} {text : Text} {executable : Bool}

theorem isFile_of_found
    (hfile : s.world.find p = .ok (.found location (.file text.toBytes executable))) :
    s.world.isFile p = true := by
  simp [World.isFile, hfile, World.found?, Node.kind]

theorem World.readFile_eq_ok_iff {w : World} {content : ByteArray} :
    w.readFile p = .ok content ↔
      ∃ location executable, w.find p = .ok (.found location (.file content executable)) := by
  rw [World.readFile]
  constructor
  · intro h
    split at h <;> cases h
    exact ⟨_, _, ‹_›⟩
  · rintro ⟨location, executable, hfound⟩
    rw [hfound]

/-- A manifest can be read if it is a file with some text, and reading it changes nothing. -/
theorem readManifest_eq_ok_iff : readManifest p s = (.ok text, s') ↔
    s' = s ∧ ∃ location executable,
      s.world.find p = .ok (.found location (.file text.toBytes executable)) := by
  rw [← World.readFile_eq_ok_iff]
  constructor
  · intro h
    obtain ⟨result, s₀, hask, hread⟩ := Action.exists_of_bind_ok h
    cases hask
    cases hfile : s.world.readFile p with
    | error e =>
        simp only [hfile] at hread
        cases hread
    | ok content =>
        simp only [hfile] at hread
        cases htext : Text.ofBytes? content with
        | none =>
            rw [htext] at hread
            cases hread
        | some text' =>
            rw [htext] at hread
            cases hread
            exact ⟨rfl, congrArg Except.ok (Text.ofBytes?_eq_some_iff.mp htext)⟩
  · rintro ⟨rfl, hread⟩
    have hask : Action.ask (·.readFile p) s' = (.ok (.ok text.toBytes), s') := by
      rw [Action.ask_apply, hread]
    rw [readManifest, Action.bind_of_ok hask]
    simp only [Text.ofBytes?_toBytes, Action.pure_apply]

end

/-- What loading does with the text of the manifest at a path. -/
def loadText (fetcher : Fetcher) (options : LoadOptions) (p : Path) (v : Variables)
    (text : Text) : Action Plan := do
  let instructions ← Action.ofExcept (Script.read p text)
  let plan ← Plan.evaluateAll fetcher
    (Plan.start p ((Path.parent? p).getD options.workDir) options.workDir v options.limit)
    instructions
  plan.checkDeferred (Plan.deferred instructions)
  pure plan

/-- What loading does with the directives of the manifest at a path. -/
def loadScript (fetcher : Fetcher) (options : LoadOptions) (p : Path) (v : Variables)
    (instructions : List Instruction) : Action Plan := do
  let plan ← Plan.evaluateAll fetcher
    (Plan.start p ((Path.parent? p).getD options.workDir) options.workDir v options.limit)
    instructions
  plan.checkDeferred (Plan.deferred instructions)
  pure plan

section

variable {fetcher : Fetcher} {options : LoadOptions} {p : Path} {v : Variables} {s s' : Session}

theorem load_of_found {location : Location} {text : Text} {executable : Bool}
    (hfile : s.world.find (Path.absolutize options.workDir p) =
      .ok (.found location (.file text.toBytes executable))) :
    load fetcher options p v s =
      loadText fetcher options (Path.absolutize options.workDir p) v text s := by
  have hask : Action.ask (·.isFile (Path.absolutize options.workDir p)) s = (.ok true, s) := by
    rw [Action.ask_apply, isFile_of_found hfile]
  rw [load, Action.bind_of_ok hask]
  simp only [Bool.not_true, Bool.false_eq_true, if_false]
  rw [Action.bind_of_ok (readManifest_eq_ok_iff.mpr ⟨rfl, location, executable, hfile⟩)]
  rfl

/-- Loading a manifest that can be read is carrying out its directives. -/
theorem load_of_directives {location : Location} {text : Text} {executable : Bool}
    {instructions : List Instruction}
    (hfile : s.world.find (Path.absolutize options.workDir p) =
      .ok (.found location (.file text.toBytes executable)))
    (hread : Script.read (Path.absolutize options.workDir p) text = .ok instructions) :
    load fetcher options p v s =
      loadScript fetcher options (Path.absolutize options.workDir p) v instructions s := by
  have hparsed : Action.ofExcept (Script.read (Path.absolutize options.workDir p) text) s =
      (.ok instructions, s) := by
    rw [Action.ofExcept_apply, hread]
  rw [load_of_found hfile, loadText, Action.bind_of_ok hparsed]
  rfl

/-- Loading succeeds if each of its parts does. -/
theorem load_of_read {path dir : Path} {location : Location} {text : Text} {executable : Bool}
    {instructions : List Instruction} {plan : Plan} {s₁ : Session}
    (hpath : Path.absolutize options.workDir p = path)
    (hdir : (Path.parent? path).getD options.workDir = dir)
    (hfile : s.world.find path = .ok (.found location (.file text.toBytes executable)))
    (hread : Script.read path text = .ok instructions)
    (hevaluated : Plan.evaluateAll fetcher (Plan.start path dir options.workDir v options.limit)
      instructions s = (.ok plan, s₁))
    (hchecked : plan.checkDeferred (Plan.deferred instructions) s₁ = (.ok (), s')) :
    load fetcher options p v s = (.ok plan, s') := by
  subst hpath hdir
  rw [load_of_directives hfile hread, loadScript, Action.bind_of_ok hevaluated,
    Action.bind_of_ok hchecked]
  rfl

/-- Loading succeeds only with a text and by what it does with the text. -/
theorem exists_of_load {plan : Plan} (h : load fetcher options p v s = (.ok plan, s')) :
    ∃ text s₁, readManifest (Path.absolutize options.workDir p) s = (.ok text, s₁) ∧
      loadText fetcher options (Path.absolutize options.workDir p) v text s₁ =
        (.ok plan, s') := by
  rw [load] at h
  obtain ⟨present, s₀, hask, hfound⟩ := Action.exists_of_bind_ok h
  cases hask
  cases hpresent : s.world.isFile (Path.absolutize options.workDir p) with
  | false =>
      simp only [hpresent, Bool.not_false, if_true] at hfound
      cases hfound
  | true =>
      simp only [hpresent, Bool.not_true, Bool.false_eq_true, if_false] at hfound
      obtain ⟨text, s₁, htext, hrest⟩ := Action.exists_of_bind_ok hfound
      exact ⟨text, s₁, htext, hrest⟩

end

end BuildManifest
