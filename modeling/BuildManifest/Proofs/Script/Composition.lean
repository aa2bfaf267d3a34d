import BuildManifest.Proofs.Script

/-!
Manifests put together from texts. What is read of two texts with a newline between them is what
is read of each: the directives of the first and, further down, those of the second, or the first
fault there is. The newlines may have carriage returns before them. The directives that are read
are those of the lines, each with the number of its line, so their numbers grow.
-/

namespace BuildManifest

namespace Text

variable {l rest : Text}

theorem replace_newline_append (h : '\n' ∉ l) (value : Text) :
    (l ++ '\n' :: rest).replace "\n" value = l ++ (value ++ rest.replace "\n" value) := by
  have hrest : Text.replace ('\n' :: rest) "\n" value = value ++ rest.replace "\n" value :=
    replace_append "\n" value rest (List.cons_ne_nil _ _)
  rw [← hrest]
  exact replace_append_of_not_mem '\n' [] value l ('\n' :: rest) h

end Text

namespace Script

variable {path : Path} {number : Nat} {lines : List Text} {instructions : List Instruction}

/-- A line loses the carriage return again, or the blanks around it. -/
theorem readFrom_replace_newline (path : Path) (number : Nat) (t : Text) :
    readFrom path number (t.replace "\n" "\r\n").lines = readFrom path number t.lines := by
  induction t using Text.induction_lines generalizing number with
  | last t hnewline =>
      have hplain : ¬ ("\n" : Text) <:+: t := fun hin =>
        hnewline ((List.singleton_infix_iff _ _).mp hin)
      rw [Text.replace_of_not_infix hplain]
  | line l rest hnewline ih =>
      have hline : '\n' ∉ l ++ ['\r'] := by simpa using hnewline
      have hparts : (l ++ '\n' :: rest).replace "\n" "\r\n" =
          (l ++ ['\r']) ++ '\n' :: rest.replace "\n" "\r\n" := by
        rw [Text.replace_newline_append hnewline, List.append_assoc]
        rfl
      have hdrop : Text.dropReturn (l ++ ['\r']) = l := by simp [Text.dropReturn]
      rw [hparts, Text.lines_append_newline hline, Text.lines_append_newline hnewline, hdrop,
        readFrom_cons, readFrom_cons _ _ _ rest.lines, readFrom_dropReturn, ih]

/-- The directives that are read are those of the lines. -/
theorem mem_of_readFrom_iff (h : readFrom path number lines = .ok instructions) {i : Instruction} :
    i ∈ instructions ↔ ∃ k line, i.number = number + k ∧ lines[k]? = some line ∧
      Directive.read? line = .ok (some i.directive) := by
  induction lines generalizing number instructions with
  | nil =>
      cases h
      simp
  | cons l rest ih =>
      obtain ⟨d, later, hd, hlater, rfl⟩ := readFrom_cons_eq_ok_iff.mp h
      have hfirst : i ∈ d.toList.map (⟨number, ·⟩) ↔
          i.number = number ∧ Directive.read? l = .ok (some i.directive) := by
        cases d with
        | none => simp [hd]
        | some directive =>
            obtain ⟨n, d⟩ := i
            simp [hd, eq_comm]
      rw [List.mem_append, hfirst, ih hlater]
      constructor
      · rintro (⟨hnumber, hread⟩ | ⟨k, line, hnumber, hline, hread⟩)
        · exact ⟨0, l, hnumber, rfl, hread⟩
        · exact ⟨k + 1, line, by omega, hline, hread⟩
      · rintro ⟨k, line, hnumber, hline, hread⟩
        cases k with
        | zero =>
            obtain rfl : l = line := Option.some.inj hline
            exact .inl ⟨hnumber, hread⟩
        | succ k => exact .inr ⟨k, line, by omega, hline, hread⟩

theorem pairwise_number_of_readFrom (h : readFrom path number lines = .ok instructions) :
    instructions.Pairwise fun i j => i.number < j.number := by
  induction lines generalizing number instructions with
  | nil =>
      cases h
      exact .nil
  | cons l rest ih =>
      obtain ⟨d, later, -, hlater, rfl⟩ := readFrom_cons_eq_ok_iff.mp h
      cases d with
      | none => exact ih hlater
      | some directive =>
          refine List.pairwise_cons.mpr ⟨fun j hj => ?_, ih hlater⟩
          obtain ⟨k, _, hnumber, _⟩ := (mem_of_readFrom_iff hlater).mp hj
          show number < j.number
          omega

/-- A text that cannot be read is blamed on a line of it. -/
theorem exists_parse_of_readFrom {e : Failure} (h : readFrom path number lines = .error e) :
    ∃ n reason, e = .parse path n reason := by
  induction lines generalizing number with
  | nil => cases h
  | cons l rest ih =>
      rw [readFrom] at h
      split at h
      · rename_i fault _
        cases h
        exact ⟨number, fault.message, rfl⟩
      · exact ih h
      · cases hrest : readFrom path (number + 1) rest with
        | error e' =>
            rw [hrest] at h
            cases h
            exact ih hrest
        | ok later =>
            rw [hrest] at h
            cases h

/-- Reading goes with putting texts one on top of the other. -/
theorem read_append (path : Path) (t u : Text) :
    read path (t ++ '\n' :: u) =
      read path t >>= fun instructions =>
        ((read path u).map fun later =>
          instructions ++ later.map (Instruction.below (t.count '\n' + 1))).mapError
            (Failure.below (t.count '\n' + 1)) := by
  rw [read, readFrom_append, Nat.add_assoc, readFrom_add]
  refine congrArg (read path t >>= ·) (funext fun instructions => ?_)
  cases hu : readFrom path 1 u.lines with
  | error e => simp [read, hu, Except.map, Except.mapError]
  | ok later => simp [read, hu, Except.map, Except.mapError]

/-- The line of this number, counted from one, holds the directive. -/
def StandsIn (text : Text) (i : Instruction) : Prop :=
  ∃ index line, i.number = index + 1 ∧ text.lines[index]? = some line ∧
    Directive.read? line = .ok (some i.directive)

/-- Reading is compositional. Two texts with a newline between them have the directives of the
first and then those of the second, whose lines come after those of the first. A fault in the first
is the fault of both, and one in the second shows if there is none in the first, blamed on a line
further down. Carriage returns before the newlines change nothing. The directives that are read are
those that stand in the lines, each with the number of its line, and the numbers grow. -/
theorem read_is_compositional (path : Path) (t u : Text) :
    (∀ instructions later, read path t = .ok instructions → read path u = .ok later →
      read path (t ++ '\n' :: u) =
        .ok (instructions ++ later.map (Instruction.below (t.count '\n' + 1)))) ∧
    (∀ e, read path t = .error e → read path (t ++ '\n' :: u) = .error e) ∧
    (∀ instructions e, read path t = .ok instructions → read path u = .error e →
      ∃ number reason, e = .parse path number reason ∧
        read path (t ++ '\n' :: u) =
          .error (.parse path (number + (t.count '\n' + 1)) reason)) ∧
    read path (t.replace "\n" "\r\n") = read path t ∧
    ∀ instructions, read path t = .ok instructions →
      (instructions.Pairwise fun i j => i.number < j.number) ∧
      ∀ i, i ∈ instructions ↔ StandsIn t i := by
  refine ⟨fun instructions later ht hu => ?_, fun e ht => ?_, fun instructions e ht hu => ?_,
    readFrom_replace_newline path 1 t, fun instructions ht => ?_⟩
  · rw [read_append, ht, hu]
    rfl
  · rw [read_append, ht]
    rfl
  · obtain ⟨number, reason, rfl⟩ := exists_parse_of_readFrom hu
    refine ⟨number, reason, rfl, ?_⟩
    rw [read_append, ht, hu]
    rfl
  · refine ⟨pairwise_number_of_readFrom ht, fun i => ?_⟩
    rw [mem_of_readFrom_iff ht, StandsIn]
    simp only [Nat.add_comm]

def upperText : Text := "# objects\r\nfor .c: cc $file\n\ncmd:make"

def faultyText : Text := "\nmkdir:\n"

theorem read_of_upperText_and_faultyText :
    read "build.yang" upperText =
      .ok [⟨2, .pattern ".c" "cc $file"⟩, ⟨4, .command "make"⟩] ∧
    read "build.yang" faultyText =
      .error (.parse "build.yang" 2 (LineFault.missingOperand .makeDirectory).message) ∧
    read "build.yang" (upperText ++ '\n' :: upperText) =
      .ok [⟨2, .pattern ".c" "cc $file"⟩, ⟨4, .command "make"⟩,
        ⟨6, .pattern ".c" "cc $file"⟩, ⟨8, .command "make"⟩] ∧
    read "build.yang" (upperText ++ '\n' :: faultyText) =
      .error (.parse "build.yang" 6 (LineFault.missingOperand .makeDirectory).message) ∧
    read "build.yang" (faultyText ++ '\n' :: upperText) =
      .error (.parse "build.yang" 2 (LineFault.missingOperand .makeDirectory).message) ∧
    StandsIn upperText ⟨4, .command "make"⟩ := by
  have hupper : read "build.yang" upperText =
      .ok [⟨2, .pattern ".c" "cc $file"⟩, ⟨4, .command "make"⟩] := by decide +kernel
  have hfaulty : read "build.yang" faultyText =
      .error (.parse "build.yang" 2 (LineFault.missingOperand .makeDirectory).message) := by
    decide +kernel
  obtain ⟨htwice, -, -, -, hlines⟩ := read_is_compositional "build.yang" upperText upperText
  refine ⟨hupper, hfaulty, htwice _ _ hupper hupper, ?_,
    (read_is_compositional "build.yang" faultyText upperText).2.1 _ hfaulty,
    ((hlines _ hupper).2 _).mp (by decide)⟩
  obtain ⟨-, -, hbelow, -⟩ := read_is_compositional "build.yang" upperText faultyText
  obtain ⟨number, reason, heq, hread⟩ := hbelow _ _ hupper hfaulty
  cases heq
  exact hread

end Script

end BuildManifest
