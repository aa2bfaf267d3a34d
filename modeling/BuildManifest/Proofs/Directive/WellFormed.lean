import BuildManifest.Proofs.Directive.Parts

/-!
The directives that lines can hold. `Directive.WellFormed` says for each kind of
directive what its texts look like, and `wellFormed_of_read?` that every directive
that is read from a line is of that form.
-/

namespace BuildManifest

theorem exists_of_map_eq_ok {ε α β : Type} {f : α → β} {x : Except ε α} {b : β}
    (h : x.map f = .ok b) : ∃ a, x = .ok a ∧ f a = b := by
  cases x with
  | error fault => cases h
  | ok a => exact ⟨a, rfl, Except.ok.inj h⟩

namespace Keyword

/-- No keyword is the beginning of another, so the order in which they are tried
does not matter. -/
theorem ofLine?_eq_some_iff {line rest : Text} {keyword : Keyword} :
    ofLine? line = some (keyword, rest) ↔ line = keyword.spelling ++ rest := by
  constructor
  · intro h
    obtain ⟨k, _, hk⟩ := List.exists_of_findSome?_eq_some h
    obtain ⟨r, hr, hparts⟩ := Option.map_eq_some_iff.mp hk
    cases hparts
    exact (Text.after?_eq_some_iff _ _ _).mp hr
  · rintro rfl
    cases keyword <;> rfl

theorem not_prefix_of_ofLine?_eq_none {line : Text} (h : ofLine? line = none)
    (keyword : Keyword) : ¬ keyword.spelling <+: line := by
  rintro ⟨rest, rfl⟩
  rw [ofLine?_eq_some_iff.mpr rfl] at h
  cases h

end Keyword

namespace Directive

def WellFormed : Directive → Prop
  | .assign a => a.WellFormed ∧ a.key.head? ≠ some '#' ∧ ¬ Keyword.pattern.spelling <+: a.key
  | .pattern extension template =>
      extension.IsOperand ∧ ':' ∉ extension ∧ template.IsTrimmed
  | .command t | .check t | .dependency t | .makeDirectory t => t.IsOperand
  | .exclude entries =>
      ∀ e ∈ entries, e.IsOperand ∧ ',' ∉ e ∧ ('$' ∈ e ∨ Exclusion.check e = .ok ())
  | .download url destination =>
      url.IsOperand ∧ ¬ (" in " : Text) <:+: url ∧ destination.IsOperand
  | .condition c => c.WellFormed

instance : DecidablePred WellFormed := fun d =>
  match d with
  | .assign a => inferInstanceAs (Decidable (a.WellFormed ∧ _ ∧ ¬ _))
  | .pattern extension template =>
      inferInstanceAs (Decidable (extension.IsOperand ∧ ':' ∉ extension ∧ template.IsTrimmed))
  | .command t | .check t | .dependency t | .makeDirectory t =>
      inferInstanceAs (Decidable t.IsOperand)
  | .exclude entries =>
      inferInstanceAs (Decidable (∀ e ∈ entries, _ ∧ _ ∧ ('$' ∈ e ∨ Exclusion.check e = .ok ())))
  | .download url destination =>
      inferInstanceAs (Decidable (url.IsOperand ∧ ¬ _ <:+: url ∧ destination.IsOperand))
  | .condition c => inferInstanceAs (Decidable c.WellFormed)

variable {line rest : Text} {d : Directive}

/-- The entries of a line pass if each of them can be used, those with a variable
apart. -/
theorem checkEntries_eq_ok_iff {entries : List Text} :
    checkEntries entries = .ok () ↔
      ∀ e ∈ entries, '$' ∈ e ∨ Exclusion.check e = .ok () := by
  induction entries with
  | nil => simp [checkEntries]
  | cons e rest ih =>
      rw [List.forall_mem_cons, ← ih, checkEntries]
      by_cases hdeferred : '$' ∈ e
      · simp [isDeferred, hdeferred]
      · cases hcheck : Exclusion.check e with
        | ok _ => simp [isDeferred, hdeferred]
        | error bad => simp [isDeferred, hdeferred]

theorem wellFormed_entries (h : checkEntries (entriesOf rest) = .ok ()) :
    WellFormed (.exclude (entriesOf rest)) := by
  intro e he
  have hchecked := checkEntries_eq_ok_iff.mp h e he
  simp only [entriesOf, List.mem_filter, List.mem_map, decide_eq_true_eq] at he
  obtain ⟨⟨piece, hpiece, rfl⟩, hne⟩ := he
  have hcomma := Text.not_mem_trim (Text.not_mem_of_mem_pieces ',' rest piece hpiece)
  exact ⟨Text.isOperand_trim hne, hcomma, hchecked⟩

theorem wellFormed_of_readOperand {keyword : Keyword} {make : Text → Directive}
    (hmake : ∀ t : Text, t.IsOperand → (make t).WellFormed)
    (h : readOperand keyword rest make = .ok d) : d.WellFormed := by
  rw [readOperand] at h
  split at h
  · cases h
  · rename_i hne
    cases h
    exact hmake rest.trim (Text.isOperand_trim hne)

theorem wellFormed_of_readPattern (h : readPattern rest = .ok d) : d.WellFormed := by
  rw [readPattern] at h
  split at h
  · cases h
  · rename_i extension template hcut
    split at h
    · cases h
    · rename_i hne
      cases h
      have hcolon := (Text.cut?_singleton_eq_some_iff.mp hcut).2
      exact ⟨Text.isOperand_trim hne, Text.not_mem_trim hcolon, Text.isTrimmed_trim template⟩

theorem wellFormed_of_readDownload (h : readDownload rest = .ok d) : d.WellFormed := by
  rw [readDownload] at h
  split at h
  · cases h
  · rename_i url destination hcut
    split at h
    · cases h
    · rename_i hne
      cases h
      rw [not_or] at hne
      have hfree := Text.not_infix_of_cut? (by decide) hcut
      exact ⟨Text.isOperand_trim hne.1, Text.not_infix_trim hfree, Text.isOperand_trim hne.2⟩

theorem wellFormed_of_readAfter {keyword : Keyword} (h : readAfter keyword rest = .ok d) :
    d.WellFormed := by
  cases keyword with
  | pattern => exact wellFormed_of_readPattern h
  | download => exact wellFormed_of_readDownload h
  | command | check | dependency | makeDirectory =>
      refine wellFormed_of_readOperand ?_ h
      exact fun _ ht => ht
  | exclude =>
      rw [readAfter, readExclusion] at h
      split at h
      · rename_i hchecked
        cases h
        exact wellFormed_entries hchecked
      · cases h
  | condition =>
      obtain ⟨c, hread, rfl⟩ := exists_of_map_eq_ok h
      exact Condition.wellFormed_of_read (Text.isTrimmed_trim rest) hread

/-- The key of an assignment begins as its line does, so not like a comment and not
like a pattern. -/
theorem wellFormed_of_assignment {a : Assignment} (hline : line.BareFront)
    (hcomment : line.head? ≠ some '#') (hkeyword : Keyword.ofLine? line = none)
    (h : Assignment.read line = .ok a) : WellFormed (.assign a) := by
  have hwell := Assignment.wellFormed_of_read h
  obtain ⟨key, value, rfl, _, hne, rfl⟩ := Assignment.exists_of_read h
  have hfront : key.trim <+: key ++ ':' :: value :=
    (Text.trim_isPrefix (hline.of_isPrefix (List.prefix_append key _))).trans
      (List.prefix_append key _)
  refine ⟨hwell, ?_, ?_⟩
  · obtain ⟨c, t, hkey⟩ := List.exists_cons_of_ne_nil hne
    rw [hkey] at hfront ⊢
    obtain ⟨tail, htail⟩ := hfront
    rwa [← htail] at hcomment
  · exact fun hpattern =>
      Keyword.not_prefix_of_ofLine?_eq_none hkeyword .pattern (hpattern.trans hfront)

theorem read?_trim (line : Text) : read? line.trim = read? line := by
  rw [read?, read?, Text.trim_of_isTrimmed (Text.isTrimmed_trim line)]

theorem wellFormed_of_read? (h : read? line = .ok (some d)) : d.WellFormed := by
  have hline := Text.isTrimmed_trim line
  rw [read?, readTrimmed] at h
  split at h
  · cases h
  · rename_i hdirective
    rw [not_or] at hdirective
    split at h
    · obtain ⟨d', hread, heq⟩ := exists_of_map_eq_ok h
      cases heq
      exact wellFormed_of_readAfter hread
    · rename_i hkeyword
      split at h
      · obtain ⟨a, hread, heq⟩ := exists_of_map_eq_ok h
        cases heq
        exact wellFormed_of_assignment hline.1 hdirective.2 hkeyword hread
      · cases h

end Directive

end BuildManifest
