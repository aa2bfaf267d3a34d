import BuildManifest.Script
import BuildManifest.Proofs.Directive.WellFormed
import BuildManifest.Proofs.Text.Lines

/-!
The directives of a text, line by line. A text that can be read has the directives of its lines
in their order, each with the number of its line. So one text on top of another has the
directives of the first and then those of the second, or the first fault there is, and the
directives before a line are those of the text that ends there.
-/

namespace BuildManifest

/-- The failure as it is with `k` more lines on top of the manifest. -/
def Failure.below (k : Nat) : Failure → Failure
  | .parse path line reason => .parse path (line + k) reason
  | e => e

def Instruction.below (k : Nat) (i : Instruction) : Instruction :=
  { i with number := i.number + k }

namespace Directive

def ofLine? (line : Text) : Option Directive := (read? line).toOption.join

/-- Whatever a line is read as can also be printed. -/
theorem wellFormed_of_ofLine? {line : Text} {d : Directive} (h : ofLine? line = some d) :
    d.WellFormed := by
  rw [ofLine?] at h
  cases hread : read? line with
  | error fault =>
      rw [hread] at h
      cases h
  | ok d' =>
      rw [hread] at h
      obtain rfl : d' = some d := h
      exact wellFormed_of_read? hread

theorem read?_dropReturn (line : Text) : read? (Text.dropReturn line) = read? line := by
  rw [read?, read?, Text.trim_dropReturn]

end Directive

namespace Script

def Readable (lines : List Text) : Prop := ∀ line ∈ lines, ∃ d, Directive.read? line = .ok d

instance : DecidablePred Readable := fun lines =>
  decidable_of_iff (∀ line ∈ lines, (Directive.read? line).isOk = true) <|
    forall₂_congr fun line _ => by
      cases Directive.read? line with
      | error fault => simp [Except.isOk, Except.toBool]
      | ok d => simp [Except.isOk, Except.toBool]

variable {path : Path} {number : Nat} {line : Text} {lines : List Text}
  {instructions : List Instruction}

theorem readFrom_cons_eq_ok_iff :
    readFrom path number (line :: lines) = .ok instructions ↔
      ∃ d later, Directive.read? line = .ok d ∧ readFrom path (number + 1) lines = .ok later ∧
        instructions = d.toList.map (⟨number, ·⟩) ++ later := by
  rw [readFrom]
  cases hread : Directive.read? line with
  | error fault => simp
  | ok d =>
      cases d with
      | none => simp
      | some directive =>
          constructor
          · intro h
            obtain ⟨later, hlater, rfl⟩ := exists_of_map_eq_ok h
            exact ⟨_, later, rfl, hlater, rfl⟩
          · rintro ⟨d, later, hd, hlater, rfl⟩
            cases hd
            rw [hlater]
            rfl

theorem exists_readFrom (h : Readable lines) (path : Path) (number : Nat) :
    ∃ instructions, readFrom path number lines = .ok instructions := by
  induction lines generalizing number with
  | nil => exact ⟨[], rfl⟩
  | cons line rest ih =>
      obtain ⟨⟨d, hd⟩, hrest⟩ := List.forall_mem_cons.mp h
      obtain ⟨later, hlater⟩ := ih hrest (number + 1)
      exact ⟨_, readFrom_cons_eq_ok_iff.mpr ⟨d, later, hd, hlater, rfl⟩⟩

/-- What is read of lines are the directives of each, in their order. -/
theorem map_directive_of_readFrom (h : readFrom path number lines = .ok instructions) :
    instructions.map Instruction.directive = lines.filterMap Directive.ofLine? := by
  induction lines generalizing number instructions with
  | nil =>
      cases h
      rfl
  | cons line rest ih =>
      obtain ⟨d, later, hd, hlater, rfl⟩ := readFrom_cons_eq_ok_iff.mp h
      rw [List.map_append, ih hlater, List.filterMap_cons, Directive.ofLine?, hd]
      cases d <;> rfl

/-- A line is read, and then those below it under the numbers that follow. -/
theorem readFrom_cons (path : Path) (number : Nat) (line : Text) (lines : List Text) :
    readFrom path number (line :: lines) =
      readFrom path number [line] >>= fun first =>
        (readFrom path (number + 1) lines).map (first ++ ·) := by
  rw [readFrom, readFrom]
  cases Directive.read? line with
  | error fault => rfl
  | ok d => cases d <;> cases readFrom path (number + 1) lines <;> rfl

theorem readFrom_dropReturn (path : Path) (number : Nat) (line : Text) :
    readFrom path number [Text.dropReturn line] = readFrom path number [line] := by
  simp only [readFrom, Directive.read?_dropReturn]

/-- With other numbers for the lines everything is read as before. -/
theorem readFrom_add (path : Path) (number k : Nat) (lines : List Text) :
    readFrom path (number + k) lines =
      ((readFrom path number lines).map (List.map (Instruction.below k))).mapError
        (Failure.below k) := by
  induction lines generalizing number with
  | nil => rfl
  | cons line rest ih =>
      have hrest := ih (number + 1)
      rw [Nat.add_right_comm] at hrest
      rw [readFrom, readFrom]
      cases Directive.read? line with
      | error fault => rfl
      | ok d =>
          cases d with
          | none => exact hrest
          | some directive =>
              simp only [hrest]
              cases readFrom path (number + 1) rest <;> rfl

/-- The second text begins on a line of its own, which comes after all newlines of the first
and the one in between. -/
theorem readFrom_append (path : Path) (number : Nat) (t u : Text) :
    readFrom path number (t ++ '\n' :: u).lines =
      readFrom path number t.lines >>= fun instructions =>
        (readFrom path (number + t.count '\n' + 1) u.lines).map (instructions ++ ·) := by
  induction t using Text.induction_lines generalizing number with
  | last t hnewline =>
      rw [Text.lines_append_newline hnewline, readFrom_cons, readFrom_dropReturn,
        List.count_eq_zero_of_not_mem hnewline, Nat.add_zero, Text.lines_of_not_mem hnewline]
      split
      · rename_i hempty
        subst hempty
        rfl
      · rfl
  | line l rest hnewline ih =>
      have hcount : number + (l ++ '\n' :: rest).count '\n' + 1 =
          number + 1 + rest.count '\n' + 1 := by
        rw [List.count_append, List.count_eq_zero_of_not_mem hnewline, List.count_cons_self]
        omega
      rw [List.append_assoc, List.cons_append, Text.lines_append_newline hnewline,
        Text.lines_append_newline hnewline, readFrom_cons, readFrom_cons _ _ _ rest.lines,
        bind_assoc, hcount, ih]
      cases readFrom path number [Text.dropReturn l] with
      | error e => rfl
      | ok first =>
          cases readFrom path (number + 1) rest.lines with
          | error e => rfl
          | ok between =>
              cases readFrom path (number + 1 + rest.count '\n' + 1) u.lines with
              | error e => rfl
              | ok later => exact congrArg Except.ok (List.append_assoc first between later).symm

theorem readFrom_append_newline {t u : Text} {later : List Instruction}
    (ht : readFrom path number t.lines = .ok instructions)
    (hu : readFrom path (number + t.count '\n' + 1) u.lines = .ok later) :
    readFrom path number (t ++ '\n' :: u).lines = .ok (instructions ++ later) := by
  rw [readFrom_append, ht]
  change (readFrom path (number + t.count '\n' + 1) u.lines).map (instructions ++ ·) = _
  rw [hu]
  rfl

/-- A directive has its number from its line, and those before it are from the lines before. -/
theorem exists_take_of_readFrom {before after : List Instruction} {i : Instruction}
    (h : readFrom path number lines = .ok (before ++ i :: after)) :
    ∃ k, k < lines.length ∧ i.number = number + k ∧
      readFrom path number (lines.take k) = .ok before := by
  induction lines generalizing number before with
  | nil => simp [readFrom] at h
  | cons line rest ih =>
      obtain ⟨d, later, hd, hlater, hparts⟩ := readFrom_cons_eq_ok_iff.mp h
      cases d with
      | none =>
          obtain rfl : before ++ i :: after = later := hparts
          obtain ⟨k, hk, hnumber, htake⟩ := ih hlater
          refine ⟨k + 1, Nat.succ_lt_succ hk, by omega, ?_⟩
          rw [List.take_succ_cons, readFrom_cons_eq_ok_iff]
          exact ⟨none, before, hd, htake, rfl⟩
      | some directive =>
          cases before with
          | nil =>
              obtain ⟨rfl, -⟩ := List.cons.inj hparts
              exact ⟨0, Nat.zero_lt_succ _, rfl, rfl⟩
          | cons b before =>
              obtain ⟨rfl, rfl⟩ := List.cons.inj hparts
              obtain ⟨k, hk, hnumber, htake⟩ := ih hlater
              refine ⟨k + 1, Nat.succ_lt_succ hk, by omega, ?_⟩
              rw [List.take_succ_cons, readFrom_cons_eq_ok_iff]
              exact ⟨some directive, before, hd, htake, rfl⟩

end Script

end BuildManifest
