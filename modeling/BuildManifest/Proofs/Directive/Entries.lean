import BuildManifest.Proofs.Directive.RoundTrip

/-!
The entries of an exclude line. A comma ends an entry whatever is on its two sides, and blanks
around an entry do not belong to it. So a glob without a comma is an entry as it stands, alone or
in front of others; a glob with a comma is cut there before anything is known of globs.
-/

namespace BuildManifest.Directive

variable {g : Text}

theorem entriesOf_append_comma (t u : Text) :
    entriesOf (t ++ ',' :: u) = entriesOf t ++ entriesOf u := by
  rw [entriesOf, Text.pieces_append, List.map_append, List.filter_append]
  rfl

theorem entriesOf_of_not_mem (h : ',' ∉ g) : entriesOf g = [g.trim].filter fun e => e ≠ [] := by
  rw [entriesOf, Text.pieces_of_not_mem ',' g h]
  rfl

theorem entriesOf_of_isOperand (hg : g.IsOperand) (hcomma : ',' ∉ g) : entriesOf g = [g] := by
  rw [entriesOf_of_not_mem hcomma, Text.trim_of_isTrimmed hg.trimmed]
  exact List.filter_cons_of_pos (decide_eq_true hg.nonempty)

/-- Blanks behind the last entry do not belong to it. -/
theorem entriesOf_trimEnd (t : Text) : entriesOf t.trimEnd = entriesOf t := by
  induction t using Text.induction_pieces ',' with
  | last t hcomma =>
      have hcomma' : ',' ∉ t.trimEnd := fun h => hcomma ((Text.trimEnd_isPrefix t).subset h)
      rw [entriesOf_of_not_mem hcomma, entriesOf_of_not_mem hcomma', Text.trim_trimEnd]
  | piece l rest _ ih =>
      rw [Text.trimEnd_append_cons (by decide), entriesOf_append_comma, entriesOf_append_comma, ih]

/-- Nor do those in front of the first one. -/
theorem entriesOf_blank_cons (t : Text) : entriesOf (' ' :: t) = entriesOf t := by
  have hfirst {l : Text} (hl : ',' ∉ l) : entriesOf (' ' :: l) = entriesOf l := by
    have hl' : ',' ∉ ' ' :: l := by simpa using hl
    rw [entriesOf_of_not_mem hl, entriesOf_of_not_mem hl', Text.trim_cons_of_blank (by decide)]
  by_cases hcomma : ',' ∈ t
  · obtain ⟨l, rest, rfl, hl⟩ := List.eq_append_cons_of_mem hcomma
    rw [← List.cons_append, entriesOf_append_comma, entriesOf_append_comma, hfirst hl]
  · exact hfirst hcomma

/-- An exclude line is read by its entries. -/
theorem read?_exclude (rest : Text) :
    read? (("exclude: " : Text) ++ rest) =
      (checkEntries (entriesOf rest)).map fun _ => some (.exclude (entriesOf rest)) := by
  have htrim : Text.trim (("exclude: " : Text) ++ rest) =
      Keyword.exclude.spelling ++ Text.trimEnd (' ' :: rest) :=
    Text.trim_append_cons (by decide) "exclude" (' ' :: rest)
  have hend : Text.BareEnd (Keyword.exclude.spelling ++ Text.trimEnd (' ' :: rest)) :=
    htrim ▸ (Text.isTrimmed_trim _).2
  rw [← read?_trim, htrim, read?_keyword .exclude hend, readAfter, readExclusion,
    entriesOf_trimEnd, entriesOf_blank_cons]
  cases checkEntries (entriesOf rest) <;> rfl

theorem checkEntries_cons (h : Exclusion.check g = .ok ()) (entries : List Text) :
    checkEntries (g :: entries) = checkEntries entries := by
  rw [checkEntries, h]
  split <;> rfl

/-- A glob without a comma, like every other entry without one that can be used, can be written on
an exclude line. By itself it is the one entry of the line. With a comma and more behind it, it is
the first entry, and the others are those of what is behind it; what is wrong with them is then
wrong with the line. -/
theorem read?_exclude_of_comma_free (hg : g.IsOperand) (hcomma : ',' ∉ g)
    (hcheck : Exclusion.check g = .ok ()) :
    read? (("exclude: " : Text) ++ g) = .ok (some (.exclude [g])) ∧
    ∀ rest,
      (∀ entries, read? (("exclude: " : Text) ++ rest) = .ok (some (.exclude entries)) →
        read? (("exclude: " : Text) ++ (g ++ ',' :: rest)) =
          .ok (some (.exclude (g :: entries)))) ∧
      ∀ fault, read? (("exclude: " : Text) ++ rest) = .error fault →
        read? (("exclude: " : Text) ++ (g ++ ',' :: rest)) = .error fault := by
  have hentries : entriesOf g = [g] := entriesOf_of_isOperand hg hcomma
  have hline (rest : Text) : read? (("exclude: " : Text) ++ (g ++ ',' :: rest)) =
      (checkEntries (entriesOf rest)).map fun _ => some (.exclude (g :: entriesOf rest)) := by
    rw [read?_exclude, entriesOf_append_comma, hentries, List.singleton_append,
      checkEntries_cons hcheck]
  constructor
  · rw [read?_exclude, hentries, checkEntries_cons hcheck]
    rfl
  · intro rest
    rw [hline, read?_exclude]
    cases checkEntries (entriesOf rest) with
    | ok _ =>
        constructor
        · intro entries h
          cases h
          rfl
        · intro fault h
          cases h
    | error bad =>
        constructor
        · intro entries h
          cases h
        · intro fault h
          cases h
          rfl

theorem read?_exclude_of_objectGlob :
    Text.IsOperand "src/[!a-c]?.o" ∧ ',' ∉ ("src/[!a-c]?.o" : Text) ∧
    Exclusion.check "src/[!a-c]?.o" = .ok () ∧
    read? (("exclude: " : Text) ++ ("src/[!a-c]?.o" : Text)) =
      .ok (some (.exclude ["src/[!a-c]?.o"])) ∧
    read? (("exclude: " : Text) ++ (("src/[!a-c]?.o" : Text) ++ ',' :: (" build , ,**/*~" : Text))) =
      .ok (some (.exclude ["src/[!a-c]?.o", "build", "**/*~"])) := by
  have hg : Text.IsOperand "src/[!a-c]?.o" := by decide +kernel
  have hcomma : ',' ∉ ("src/[!a-c]?.o" : Text) := by decide +kernel
  have hcheck : Exclusion.check "src/[!a-c]?.o" = .ok () := by decide +kernel
  have hbehind : read? (("exclude: " : Text) ++ (" build , ,**/*~" : Text)) =
      .ok (some (.exclude ["build", "**/*~"])) := by decide +kernel
  obtain ⟨halone, hlist⟩ := read?_exclude_of_comma_free hg hcomma hcheck
  exact ⟨hg, hcomma, hcheck, halone, (hlist _).1 _ hbehind⟩

/-- A glob that could stand on a line and needs no variable. -/
def IsPlainGlob (g : Text) : Prop :=
  g.IsOperand ∧ '\n' ∉ g ∧ '$' ∉ g ∧ Exclusion.isPattern g = true ∧ Exclusion.check g = .ok ()

instance : DecidablePred IsPlainGlob := fun g =>
  inferInstanceAs (Decidable (g.IsOperand ∧ '\n' ∉ g ∧ '$' ∉ g ∧ _ ∧ _))

/-- Globs with a comma, behind a wildcard or in a group, are not read as they stand. -/
theorem read?_exclude_cuts_globs :
    IsPlainGlob "*,v" ∧
    read? (("exclude: " : Text) ++ ("*,v" : Text)) ≠ .ok (some (.exclude ["*,v"])) ∧
    IsPlainGlob "\x7ba,b\x7d" ∧
    read? (("exclude: " : Text) ++ ("\x7ba,b\x7d" : Text)) ≠
      .ok (some (.exclude ["\x7ba,b\x7d"])) := by
  decide +kernel

end BuildManifest.Directive
