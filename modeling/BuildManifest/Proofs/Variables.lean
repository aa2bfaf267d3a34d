import BuildManifest.Loading
import BuildManifest.Proofs.Directive.Parts
import BuildManifest.Proofs.Session
import Mathlib.Data.List.Nodup

/-!
The variables over a whole run. They are changed by three operations: a value is set, an
assignment is made, and a condition makes one of its assignments. Whichever of them come one
after the other, and whichever fail, no key is removed or moved, and a key stands for what was
last written to it.
-/

namespace BuildManifest

namespace Table

variable {t : Table} {key value : Text}

theorem keys_prefix_insert (t : Table) (key value : Text) :
    t.keys <+: (t.insert key value).keys := by
  rw [keys_insert]
  split
  · exact List.prefix_rfl
  · exact List.prefix_append _ _

theorem mem_keys_insert {other : Text} :
    other ∈ (t.insert key value).keys ↔ other = key ∨ other ∈ t.keys := by
  rw [keys_insert]
  split
  · rename_i hkey
    exact ⟨Or.inr, fun h => h.elim (fun heq => heq ▸ hkey) id⟩
  · rw [List.mem_append, List.mem_singleton, or_comm]

theorem nodup_keys_insert (h : t.keys.Nodup) : (t.insert key value).keys.Nodup := by
  rw [keys_insert]
  split
  · exact h
  · rename_i hkey
    exact List.nodup_append.mpr ⟨h, List.nodup_singleton key, fun k hk k' hk' heq =>
      hkey (List.mem_singleton.mp hk' ▸ heq ▸ hk)⟩

end Table

namespace Action

/-- A condition that succeeds does what the assignment it has chosen does, or nothing. -/
theorem exists_of_applyCondition {scope : Scope} {v u : Variables} {c : Condition}
    {s s' : Session} (h : applyCondition scope v c s = (.ok u, s')) :
    ∃ raw actual, v.get? c.key = some raw ∧
      (Expansion.expand scope v s.supply raw).1 = .ok actual ∧
      ((∃ a, c.chosen actual = some a ∧ Variables.assign v a.key a.value = .ok u) ∨
        c.chosen actual = none ∧ u = v) := by
  rw [applyCondition] at h
  cases hraw : v.get? c.key with
  | none =>
      rw [hraw] at h
      cases h
  | some raw =>
      rw [hraw] at h
      obtain ⟨actual, s₁, hexpand, happlied⟩ := exists_of_bind_ok h
      refine ⟨raw, actual, rfl, congrArg Prod.fst hexpand, ?_⟩
      cases hchosen : c.chosen actual with
      | none =>
          rw [hchosen] at happlied
          cases happlied
          exact .inr ⟨rfl, rfl⟩
      | some a =>
          rw [hchosen] at happlied
          obtain ⟨_, s₂, _, hassigned⟩ := exists_of_bind_ok happlied
          refine .inl ⟨a, rfl, ?_⟩
          cases hassign : Variables.assign v a.key a.value with
          | error fault =>
              rw [hassign] at hassigned
              cases hassigned
          | ok u' =>
              rw [hassign] at hassigned
              cases hassigned
              rfl

end Action

namespace Variables

/-- What can be done to the variables. -/
inductive Operation where
  | set (key value : Text)
  | assign (a : Assignment)
  | condition (c : Condition)

/-- An operation that is tried in some session, where references are expanded in some scope. -/
structure Step where
  operation : Operation
  scope : Scope
  session : Session

namespace Step

/-- How the operation ends: with the variables it makes of the given ones, or with a failure. -/
def outcome (v : Variables) (step : Step) : Except Failure Variables × Session :=
  match step.operation with
  | .set key value => (pure (v.insert key value) : Action Variables) step.session
  | .assign a => Action.ofVariables (assign v a.key a.value) step.session
  | .condition c => Action.applyCondition step.scope v c step.session

/-- The variables afterwards, which a failure leaves as they were. -/
def after (v : Variables) (step : Step) : Variables :=
  match (step.outcome v).1 with
  | .ok u => u
  | .error _ => v

/-- The assignment that the operation is meant to make: it has no choice but for a condition. -/
def meant? (v : Variables) (step : Step) : Option Assignment :=
  match step.operation with
  | .set key value => some ⟨key, value⟩
  | .assign a => some a
  | .condition c => do
    let raw ← v.get? c.key
    let actual ← (Expansion.expand step.scope v step.session.supply raw).1.toOption
    c.chosen actual

/-- The assignment that the operation has made, if it has succeeded. -/
def written? (v : Variables) (step : Step) : Option Assignment :=
  match (step.outcome v).1 with
  | .ok _ => step.meant? v
  | .error _ => none

variable {v u : Variables} {step : Step}

theorem after_of_ok (h : (step.outcome v).1 = .ok u) : step.after v = u := by
  rw [after, h]

theorem after_of_error {e : Failure} (h : (step.outcome v).1 = .error e) : step.after v = v := by
  rw [after, h]

theorem insert_of_assign {key value : Text} (h : assign v key value = .ok u) :
    isReserved key = false ∧ u = v.insert key value := by
  rw [assign] at h
  split at h
  · cases h
  · rename_i hfree
    cases h
    exact ⟨Bool.eq_false_iff.mpr hfree, rfl⟩

theorem ok_of_ofVariables {r : Except VariableFault Variables} {s : Session}
    (h : (Action.ofVariables r s).1 = .ok u) : r = .ok u := by
  cases r <;> cases h
  rfl

/-- An operation that succeeds makes the assignment it is meant to make, if any. -/
theorem of_ok (h : (step.outcome v).1 = .ok u) :
    (∃ a, step.meant? v = some a ∧ u = v.insert a.key a.value) ∨ step.meant? v = none ∧ u = v := by
  obtain ⟨operation, scope, s⟩ := step
  cases operation with
  | set key value =>
      cases h
      exact .inl ⟨⟨key, value⟩, rfl, rfl⟩
  | assign a => exact .inl ⟨a, rfl, (insert_of_assign (ok_of_ofVariables h)).2⟩
  | condition c =>
      obtain ⟨raw, actual, hraw, hactual, hchosen⟩ :=
        Action.exists_of_applyCondition (Prod.ext h rfl)
      have hmeant : meant? v ⟨.condition c, scope, s⟩ = c.chosen actual := by
        simp only [meant?, hraw, hactual, Except.toOption, Option.bind_eq_bind, Option.bind_some]
      rw [hmeant]
      rcases hchosen with ⟨a, ha, hassign⟩ | hkept
      · exact .inl ⟨a, ha, (insert_of_assign hassign).2⟩
      · exact .inr hkept

/-- What is written is all that an operation does. -/
theorem after_eq (v : Variables) (step : Step) :
    step.after v = match step.written? v with
      | some a => v.insert a.key a.value
      | none => v := by
  rw [after, written?]
  cases houtcome : (step.outcome v).1 with
  | error e => rfl
  | ok u =>
      rcases of_ok houtcome with ⟨a, hmeant, rfl⟩ | ⟨hmeant, rfl⟩
      · rw [hmeant]
      · rw [hmeant]

theorem keys_prefix_after (v : Variables) (step : Step) : v.keys <+: (step.after v).keys := by
  rw [after_eq]
  split
  · exact Table.keys_prefix_insert _ _ _
  · exact List.prefix_rfl

theorem nodup_keys_after (h : v.keys.Nodup) : (step.after v).keys.Nodup := by
  rw [after_eq]
  split
  · exact Table.nodup_keys_insert h
  · exact h

theorem get?_after (v : Variables) (step : Step) (key : Text) :
    (step.after v).get? key =
      (((step.written? v).toList.find? (·.key = key)).map Assignment.value).or (v.get? key) := by
  rw [after_eq]
  cases step.written? v with
  | none => rfl
  | some a =>
      by_cases hkey : a.key = key
      · subst hkey
        simp [Table.get?_insert_self]
      · simp [Table.get?_insert_of_ne v a.value (Ne.symm hkey), hkey]

end Step

/-- The variables after steps one after the other. -/
def after (v : Variables) (steps : List Step) : Variables := steps.foldl Step.after v

/-- The assignments that the steps have made, in their order. -/
def written (v : Variables) : List Step → List Assignment
  | [] => []
  | step :: rest => (step.written? v).toList ++ written (step.after v) rest

variable {v : Variables} {steps : List Step}

theorem after_append (v : Variables) (steps later : List Step) :
    after v (steps ++ later) = after (after v steps) later :=
  List.foldl_append

theorem nodup_keys_after (h : v.keys.Nodup) (steps : List Step) : (after v steps).keys.Nodup := by
  induction steps generalizing v with
  | nil => exact h
  | cons step rest ih => exact ih (Step.nodup_keys_after h)

/-- Each key stands for what was last written to it, or for what it stood for before. -/
theorem get?_after (v : Variables) (steps : List Step) (key : Text) :
    (after v steps).get? key =
      (((written v steps).reverse.find? (·.key = key)).map Assignment.value).or (v.get? key) := by
  induction steps generalizing v with
  | nil => rfl
  | cons step rest ih =>
      -- the first step writes once at most, and what later steps write comes before it
      have hlast : (step.written? v).toList.reverse = (step.written? v).toList := by
        cases step.written? v <;> rfl
      rw [written, List.reverse_append, List.find?_append, hlast, Option.map_or, Option.or_assoc,
        ← Step.get?_after]
      exact ih (step.after v)

/-- A property of all keys is kept if all keys have it that are written. -/
theorem forall_keys_after {P : Text → Prop} (hv : ∀ key ∈ v.keys, P key)
    (hwritten : ∀ a ∈ written v steps, P a.key) : ∀ key ∈ (after v steps).keys, P key := by
  induction steps generalizing v with
  | nil => exact hv
  | cons step rest ih =>
      rw [written, List.forall_mem_append] at hwritten
      refine ih (fun key hkey => ?_) hwritten.2
      rw [Step.after_eq] at hkey
      cases hstep : step.written? v with
      | none =>
          rw [hstep] at hkey
          exact hv key hkey
      | some a =>
          rw [hstep] at hkey
          rcases Table.mem_keys_insert.mp hkey with rfl | hkey
          · exact hwritten.1 a (by rw [hstep]; exact List.mem_singleton_self a)
          · exact hv key hkey

/-- Every assignment that is made is that of one of the steps. -/
theorem exists_of_mem_written {a : Assignment} (h : a ∈ written v steps) :
    ∃ step ∈ steps, ∃ u, step.written? u = some a := by
  induction steps generalizing v with
  | nil => cases h
  | cons step rest ih =>
      rcases List.mem_append.mp h with hfirst | hlater
      · exact ⟨step, List.mem_cons_self, v, Option.mem_toList.mp hfirst⟩
      · obtain ⟨later, hmem, hwritten⟩ := ih hlater
        exact ⟨later, List.mem_cons_of_mem _ hmem, hwritten⟩

/-- A name that a manifest or a flag may define. -/
structure Definable (name : Text) : Prop where
  free : isReserved name = false
  operand : name.IsOperand
  colon : ':' ∉ name

instance (name : Text) : Decidable (Definable name) :=
  decidable_of_iff (isReserved name = false ∧ name.IsOperand ∧ ':' ∉ name)
    ⟨fun ⟨h₁, h₂, h₃⟩ => ⟨h₁, h₂, h₃⟩, fun ⟨h₁, h₂, h₃⟩ => ⟨h₁, h₂, h₃⟩⟩

theorem colon_not_mem_readFlag (flag : Text) : ':' ∉ (readFlag flag).1 := by
  rw [readFlag]
  cases hcut : Text.cut? [':'] flag with
  | some parts => exact Text.not_mem_trim (Text.cut?_singleton_eq_some_iff.mp hcut).2
  | none =>
      refine Text.not_mem_trim fun hcolon => Text.cut?_eq_none_iff.mp hcut ?_
      obtain ⟨front, rest, rfl⟩ := List.append_of_mem hcolon
      exact ⟨front, rest, by simp⟩

theorem readFlag_trimmed (flag : Text) : ∃ name : Text, (readFlag flag).1 = name.trim := by
  rw [readFlag]
  cases Text.cut? [':'] flag with
  | some parts => exact ⟨parts.1, rfl⟩
  | none => exact ⟨flag, rfl⟩

/-- A flag defines a name that it may define, or nothing. -/
theorem insert_of_addFlag {u : Variables} {flag : Text} (h : addFlag v flag = .ok u) :
    u = v ∨ ∃ name value, Definable name ∧ u = v.insert name value := by
  rw [addFlag] at h
  by_cases hname : (readFlag flag).1 = []
  · simp only [if_pos hname] at h
    cases h
    exact .inl rfl
  · simp only [if_neg hname] at h
    split at h
    · cases h
    · rename_i hfree
      cases h
      obtain ⟨name, htrim⟩ := readFlag_trimmed flag
      refine .inr ⟨_, _, ⟨Bool.eq_false_iff.mpr hfree, ?_, colon_not_mem_readFlag flag⟩, rfl⟩
      rw [htrim] at hname ⊢
      exact Text.isOperand_trim hname

/-- Flags and what every manifest starts with have different names, all of which may be
defined. -/
theorem definable_of_seeded {home : Path} {flags : List Text} (h : seeded home flags = .ok v) :
    v.keys.Nodup ∧ ∀ key ∈ v.keys, Definable key := by
  rw [seeded] at h
  have hstart : (builtin home).keys.Nodup ∧ ∀ key ∈ (builtin home).keys, Definable key := by
    have hkeys : (builtin home).keys = ["windows", "linux", "macos", "platform", "home"] := rfl
    rw [hkeys]
    decide
  generalize builtin home = start at h hstart
  induction flags generalizing start with
  | nil =>
      cases h
      exact hstart
  | cons flag rest ih =>
      rw [List.foldlM_cons] at h
      cases hadd : addFlag start flag with
      | error fault =>
          rw [hadd] at h
          cases h
      | ok u =>
          rw [hadd] at h
          refine ih u h ?_
          rcases insert_of_addFlag hadd with rfl | ⟨name, value, hname, rfl⟩
          · exact hstart
          · refine ⟨Table.nodup_keys_insert hstart.1, fun key hkey => ?_⟩
            rcases Table.mem_keys_insert.mp hkey with rfl | hkey
            · exact hname
            · exact hstart.2 key hkey

end Variables

end BuildManifest
