import BuildManifest.Proofs.Loading.Stages
import Mathlib.Order.Bounds.Defs
import Mathlib.Tactic.ByContra

/-!
A manifest with a faulty line is not loaded at all. The text is read to its end
before the first directive is carried out, so the first faulty line decides the
outcome whatever stands before it, and the session is left as it was.
-/

namespace BuildManifest

namespace Script

/-- The line of this number, counted from one, cannot be read because of this fault. -/
def FaultyAt (text : Text) (number : Nat) (fault : LineFault) : Prop :=
  ∃ index line, number = index + 1 ∧ text.lines[index]? = some line ∧
    Directive.read? line = .error fault

/-- Lines that can be read do not keep a faulty line after them from being reported. -/
theorem readFrom_of_faulty (path : Path) (number : Nat) (before after : List Text) (line : Text)
    (fault : LineFault) (hbefore : ∀ l ∈ before, ∃ d, Directive.read? l = .ok d)
    (hline : Directive.read? line = .error fault) :
    readFrom path number (before ++ line :: after) =
      .error (.parse path (number + before.length) fault.message) := by
  induction before generalizing number with
  | nil => simp [readFrom, hline]
  | cons l before ih =>
      obtain ⟨d, hd⟩ := hbefore l List.mem_cons_self
      have hrest := ih (number + 1) fun l hl => hbefore l (List.mem_cons_of_mem _ hl)
      have hnumber : number + 1 + before.length = number + (l :: before).length := by
        simp only [List.length_cons]
        omega
      rw [hnumber] at hrest
      cases d with
      | none => simp [readFrom, hd, hrest]
      | some directive => simp [readFrom, hd, hrest, Except.map]

/-- Among lines of which one is faulty there is a first faulty one. -/
theorem exists_first_faulty (lines : List Text)
    (h : ∃ line ∈ lines, ∃ fault, Directive.read? line = .error fault) :
    ∃ before line after fault, lines = before ++ line :: after ∧
      (∀ l ∈ before, ∃ d, Directive.read? l = .ok d) ∧ Directive.read? line = .error fault := by
  induction lines with
  | nil =>
      obtain ⟨line, hline, _⟩ := h
      exact absurd hline List.not_mem_nil
  | cons l lines ih =>
      cases hl : Directive.read? l with
      | error fault => exact ⟨[], l, lines, fault, rfl, by simp, hl⟩
      | ok d =>
          obtain ⟨line, hline, fault, hfault⟩ := h
          have hlater : line ∈ lines := by
            rcases List.mem_cons.mp hline with rfl | hmem
            · rw [hl] at hfault
              cases hfault
            · exact hmem
          obtain ⟨before, line, after, fault, rfl, hbefore, hline⟩ := ih ⟨line, hlater, fault, hfault⟩
          refine ⟨l :: before, line, after, fault, rfl, ?_, hline⟩
          intro l' hl'
          rcases List.mem_cons.mp hl' with rfl | hmem
          · exact ⟨d, hl⟩
          · exact hbefore l' hmem

/-- The number in the report is that of the first faulty line of the text. -/
theorem read_of_faulty (path : Path) (text : Text)
    (h : ∃ line ∈ text.lines, ∃ fault, Directive.read? line = .error fault) :
    ∃ number fault, IsLeast {n | ∃ fault, FaultyAt text n fault} number ∧
      FaultyAt text number fault ∧ read path text = .error (.parse path number fault.message) := by
  obtain ⟨before, line, after, fault, hlines, hbefore, hline⟩ := exists_first_faulty _ h
  have hfaulty : FaultyAt text (before.length + 1) fault :=
    ⟨before.length, line, rfl, by simp [hlines], hline⟩
  refine ⟨before.length + 1, fault, ⟨⟨fault, hfaulty⟩, ?_⟩, hfaulty, ?_⟩
  · rintro n ⟨fault', index, line', rfl, hindex, hline'⟩
    by_contra hlt
    have hshort : index < before.length := by omega
    rw [hlines, List.getElem?_append_left hshort] at hindex
    obtain ⟨d, hd⟩ := hbefore line' (List.mem_of_getElem? hindex)
    rw [hd] at hline'
    cases hline'
  · rw [read, hlines, readFrom_of_faulty path 1 before after line fault hbefore hline,
      Nat.add_comm]

end Script

/-- If a line of a manifest cannot be read, loading reports the first such line with what is
wrong with it. Nothing is fetched, printed, made or drawn: the session is as it was, whatever
the variables, the limit, the fetcher and the lines before the faulty one. -/
theorem load_of_faulty_line (fetcher : Fetcher) (options : LoadOptions) (p : Path)
    (v : Variables) (s : Session) (text : Text) (location : Location) (executable : Bool)
    (hfile : s.world.find (Path.absolutize options.workDir p) =
      .ok (.found location (.file text.toBytes executable)))
    (hfaulty : ∃ line ∈ text.lines, ∃ fault, Directive.read? line = .error fault) :
    ∃ number fault, IsLeast {n | ∃ fault, Script.FaultyAt text n fault} number ∧
      Script.FaultyAt text number fault ∧
      load fetcher options p v s =
        (.error (.parse (Path.absolutize options.workDir p) number fault.message), s) := by
  obtain ⟨number, fault, hleast, hat, hread⟩ :=
    Script.read_of_faulty (Path.absolutize options.workDir p) text hfaulty
  refine ⟨number, fault, hleast, hat, ?_⟩
  rw [load_of_found hfile, loadText]
  apply Action.bind_of_error
  rw [Action.ofExcept_apply, hread]

/-- A manifest whose third line lacks its command. -/
def unfinishedManifest : Text := "mkdir:out\nmode: fast\ncmd:\ncheck:\n"

def unfinishedSession : Session :=
  ⟨⟨.dir [("build.yang", .file unfinishedManifest.toBytes false)], [], [], []⟩,
    TokenSupply.ofSeed 0, [], []⟩

theorem load_of_unfinished_manifest :
    unfinishedSession.world.find (Path.absolutize "/" "build.yang") =
      .ok (.found ["build.yang"] (.file unfinishedManifest.toBytes false)) ∧
    (∃ line ∈ unfinishedManifest.lines, ∃ fault, Directive.read? line = .error fault) ∧
    ∃ number fault, IsLeast {n | ∃ fault, Script.FaultyAt unfinishedManifest n fault} number ∧
      Script.FaultyAt unfinishedManifest number fault ∧
      load (fun _ _ w => (.ok (), w)) ⟨"/", 64⟩ "build.yang" Table.empty unfinishedSession =
        (.error (.parse (Path.absolutize "/" "build.yang") number fault.message),
          unfinishedSession) := by
  have hfile : unfinishedSession.world.find (Path.absolutize "/" "build.yang") =
      .ok (.found ["build.yang"] (.file unfinishedManifest.toBytes false)) := rfl
  have hfaulty : ∃ line ∈ unfinishedManifest.lines, ∃ fault,
      Directive.read? line = .error fault :=
    ⟨"cmd:", by decide +kernel, .missingOperand .command, rfl⟩
  exact ⟨hfile, hfaulty, load_of_faulty_line _ ⟨"/", 64⟩ "build.yang" Table.empty
    unfinishedSession unfinishedManifest _ _ hfile hfaulty⟩

end BuildManifest
