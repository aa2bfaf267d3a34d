import BuildManifest.Proofs.Directive.WellFormed
import BuildManifest.Proofs.Expansion.Drawing
import BuildManifest.Proofs.Loading.Collecting

/-!
What loading makes sure of for the exclude entries. An entry without a variable is
checked when its line is read, and one with a variable when the variables have their
last values; no entry escapes both checks. The second check is made on an expansion
of its own. So it speaks for a later expansion only if that gives the same text again,
which it does unless a token is drawn.
-/

namespace BuildManifest

open BuildManifest.Expansion (Steady)

theorem Script.wellFormed_of_readFrom {path : Path} {number : Nat} {lines : List Text}
    {instructions : List Instruction} (h : readFrom path number lines = .ok instructions) :
    ∀ i ∈ instructions, i.directive.WellFormed := by
  induction lines generalizing number instructions with
  | nil =>
      cases h
      simp
  | cons line rest ih =>
      rw [readFrom] at h
      split at h
      · cases h
      · exact ih h
      · rename_i d hread
        obtain ⟨later, hlater, rfl⟩ := exists_of_map_eq_ok h
        rw [List.forall_mem_cons]
        exact ⟨Directive.wellFormed_of_read? hread, ih hlater⟩

namespace Plan

variable {plan : Plan} {s s' : Session} {instructions : List Instruction}

theorem mem_deferred {i : Instruction} {entries : List Text} {e : Text} (hi : i ∈ instructions)
    (hentries : i.directive = .exclude entries) (he : e ∈ entries) (hvariable : '$' ∈ e) :
    (i.number, e) ∈ deferred instructions := by
  rw [deferred, List.mem_flatMap]
  refine ⟨i, hi, ?_⟩
  rw [hentries]
  exact List.mem_map_of_mem (List.mem_filter.mpr ⟨he, decide_eq_true hvariable⟩)

/-- Each of the checks has expanded its entry to a text that can be used. -/
theorem exists_of_checkDeferred {entries : List (Nat × Text)}
    (h : plan.checkDeferred entries s = (.ok (), s')) :
    ∀ e ∈ entries, ∃ supply u, (Expansion.expand plan.scope plan.bindings supply e.2).1 = .ok u ∧
      Exclusion.check u = .ok () := by
  induction entries generalizing s with
  | nil => simp
  | cons e rest ih =>
      obtain ⟨line, entry⟩ := e
      obtain ⟨u, s₁, hexpand, hchecked⟩ := Action.exists_of_bind_ok h
      cases hcheck : Exclusion.check u with
      | error bad =>
          rw [hcheck] at hchecked
          cases hchecked
      | ok _ =>
          rw [hcheck] at hchecked
          rw [List.forall_mem_cons]
          exact ⟨⟨s.supply, u, congrArg Prod.fst hexpand, hcheck⟩, ih hchecked⟩

end Plan

section

variable {fetcher : Fetcher} {options : LoadOptions} {p : Path} {v : Variables} {plan : Plan}
  {s s' : Session} {e u : Text}

/-- One of the two checks has been made for every entry of a loaded plan. -/
theorem checked_of_load (h : load fetcher options p v s = (.ok plan, s'))
    (he : e ∈ plan.excludes) :
    ('$' ∉ e ∧ Exclusion.check e = .ok ()) ∨
      ∃ supply u, (Expansion.expand plan.scope plan.bindings supply e).1 = .ok u ∧
        Exclusion.check u = .ok () := by
  obtain ⟨text, s₁, _, hloaded⟩ := exists_of_load h
  obtain ⟨instructions, s₂, hread, hrest⟩ := Action.exists_of_bind_ok hloaded
  obtain ⟨plan', s₃, hevaluated, hlast⟩ := Action.exists_of_bind_ok hrest
  obtain ⟨_, s₄, hchecked, hplan⟩ := Action.exists_of_bind_ok hlast
  cases hplan
  have hexcludes := (Plan.collects_of_evaluateAll hevaluated).excludes
  simp only [Plan.start, List.nil_append] at hexcludes
  rw [hexcludes, List.mem_flatMap] at he
  obtain ⟨d, hd, he⟩ := he
  obtain ⟨i, hi, rfl⟩ := List.mem_map.mp hd
  cases hdirective : i.directive with
  | exclude entries =>
      rw [hdirective] at he
      have hwell := Script.wellFormed_of_readFrom (congrArg Prod.fst hread) i hi
      rw [hdirective] at hwell
      by_cases hvariable : '$' ∈ e
      · exact .inr (Plan.exists_of_checkDeferred hchecked (i.number, e)
          (Plan.mem_deferred hi hdirective he hvariable))
      · exact .inl ⟨hvariable, (hwell e he).2.2.resolve_left hvariable⟩
  | _ =>
      rw [hdirective] at he
      cases he

/-- What an entry of a loaded plan expands to whichever tokens are next can be used. -/
theorem check_of_steady (h : load fetcher options p v s = (.ok plan, s'))
    (he : e ∈ plan.excludes) (hu : Steady plan.scope plan.bindings e u) :
    Exclusion.check u = .ok () := by
  rcases checked_of_load h he with ⟨hplain, hcheck⟩ | ⟨supply, u', hexpand, hcheck⟩
  · rw [Expansion.eq_of_expand_of_plain hplain (congrArg Prod.fst (hu s.supply))]
    exact hcheck
  · have hsame : Except.ok u = Except.ok u' := (congrArg Prod.fst (hu supply)).symm.trans hexpand
    cases hsame
    exact hcheck

end

end BuildManifest
