import BuildManifest.Proofs.Directive.WellFormed

/-!
Writing a directive so that it is read again as it is. The parts may hold words
that look like separators once there are blanks around them: a key may end in
` is`, a value in ` else`, an assignment may have the key `cmd`. So a tab is put
before every separator, and one after it where blanks belong to the separator. No
separator and no keyword has a tab; so none of them is found any earlier than where
it was put, and the tabs go when the parts are trimmed.
-/

namespace BuildManifest

namespace Text

def spaced (word t u : Text) : Text := t ++ '\t' :: (word ++ '\t' :: u)

variable {word t u : Text}

/-- A text is cut at the word that was put into it, if the first part is free of the word. -/
theorem cut?_spaced (hword : word ≠ []) (htab : '\t' ∉ word) (ht : ¬ word <:+: t) :
    cut? word (spaced word t u) = some (t ++ ['\t'], '\t' :: u) :=
  cut?_guarded hword htab ht ('\t' :: u)

theorem not_infix_tab_cons (hword : word ≠ []) (htab : '\t' ∉ word) (ht : ¬ word <:+: t) :
    ¬ word <:+: '\t' :: t := by
  intro hin
  rcases infix_of_infix_guard (t := []) hword htab hin with hnil | hlater
  · exact hword (List.infix_nil.mp hnil)
  · exact ht hlater

theorem trim_tab_append (ht : t.IsTrimmed) : trim (t ++ ['\t']) = t :=
  trim_concat_of_blank (by decide) ht

theorem trim_tab_cons (ht : t.IsTrimmed) : trim ('\t' :: t) = t :=
  (trim_cons_of_blank (by decide) t).trans (trim_of_isTrimmed ht)

theorem trim_tab_both (ht : t.IsTrimmed) : trim ('\t' :: t ++ ['\t']) = t :=
  (trim_cons_of_blank (by decide) (t ++ ['\t'])).trans (trim_tab_append ht)

theorem bareEnd_spaced (t : Text) (hu : u.BareEnd) (hne : u ≠ []) :
    (spaced word t u).BareEnd := by
  have hparts : spaced word t u = (t ++ '\t' :: (word ++ ['\t'])) ++ u := by simp [spaced]
  exact hparts ▸ hu.append fun hnil => absurd hnil hne

theorem isTrimmed_spaced (ht : t.IsOperand) (hu : u.BareEnd) (hne : u ≠ []) :
    (spaced word t u).IsTrimmed :=
  ⟨ht.trimmed.1.append ht.nonempty _, bareEnd_spaced t hu hne⟩

/-- Parts with commas between them end in a part or in a comma. -/
theorem bareEnd_joined {parts : List Text} (h : ∀ p ∈ parts, p.IsTrimmed) :
    (joined [','] parts).BareEnd := by
  induction parts with
  | nil => decide
  | cons p parts ih =>
      rw [List.forall_mem_cons] at h
      cases parts with
      | nil => exact h.1.2
      | cons q parts =>
          refine (ih h.2).append fun _ => ?_
          exact BareEnd.append (by decide) fun hnil => absurd hnil (by simp)

end Text

namespace Assignment

def print (a : Assignment) : Text := a.key ++ '\t' :: ':' :: a.value

variable {a : Assignment}

theorem cut?_print (h : a.WellFormed) :
    Text.cut? [':'] a.print = some (a.key ++ ['\t'], a.value) := by
  rw [Text.cut?_singleton_eq_some_iff, print, List.mem_append, not_or]
  exact ⟨by simp, h.colon, by decide⟩

theorem read_print (h : a.WellFormed) : read a.print = .ok a := by
  rw [read, cut?_print h]
  simp only [Text.trim_tab_append h.key.trimmed, h.key.nonempty, if_false,
    Text.trim_of_isTrimmed h.value]

theorem isOperand_print (h : a.WellFormed) : a.print.IsOperand := by
  constructor
  · simp [print]
  · refine ⟨h.key.trimmed.1.append h.key.nonempty _, ?_⟩
    have hend : Text.BareEnd ('\t' :: ':' :: a.value) :=
      (h.value.2.cons (by decide)).append (t := ['\t']) fun hnil => absurd hnil (by simp)
    exact hend.append fun hnil => absurd hnil (by simp)

/-- A word without a tab or a colon is in a part of the assignment, if anywhere. -/
theorem not_infix_print {word : Text} (hword : word ≠ []) (htab : '\t' ∉ word)
    (hcolon : ':' ∉ word) (h : ∀ t ∈ a.texts, ¬ word <:+: t) : ¬ word <:+: a.print := by
  simp only [texts, List.forall_mem_cons] at h
  intro hin
  rcases Text.infix_of_infix_guard hword htab hin with hkey | hvalue
  · exact h.1 hkey
  · rcases Text.infix_of_infix_guard (t := []) hword hcolon hvalue with hnil | hvalue
    · exact hword (List.infix_nil.mp hnil)
    · exact h.2.1 hvalue

end Assignment

namespace Condition

def printActions (c : Condition) : Text :=
  match c.unmet with
  | none => c.met.print
  | some a => Text.spaced " else " c.met.print a.print

def print (c : Condition) : Text :=
  Text.spaced " is " c.key (Text.spaced " do " c.expected c.printActions)

variable {c : Condition}

theorem cutInner?_spaced {word t u : Text} (hword : word ≠ []) (htab : '\t' ∉ word)
    (hne : t ≠ []) (ht : ¬ word <:+: t) :
    cutInner? word (Text.spaced word t u) = some (t ++ ['\t'], '\t' :: u) := by
  obtain ⟨d, t, rfl⟩ := List.exists_cons_of_ne_nil hne
  have hlater : ¬ word <:+: t := fun h => ht (List.infix_cons_iff.mpr (.inr h))
  have hcut := Text.cut?_spaced (u := u) hword htab hlater
  simp only [Text.spaced] at hcut
  simp only [Text.spaced, List.cons_append, cutInner?, hcut, Option.map_some]

/-- The two actions are told apart again. -/
theorem actions_printActions (h : c.WellFormed) :
    actions ('\t' :: c.printActions) =
      match c.unmet with
      | none => ('\t' :: c.met.print, none)
      | some a => ('\t' :: c.met.print ++ ['\t'], some ('\t' :: a.print)) := by
  have hfree : ¬ (" else " : Text) <:+: c.met.print :=
    Assignment.not_infix_print (by decide) (by decide) (by decide) h.metSeparator
  cases hunmet : c.unmet with
  | none =>
      have hcut : Text.cut? " else " c.met.print = none := Text.cut?_eq_none_iff.mpr hfree
      simp only [printActions, hunmet, actions, cutInner?, hcut, Option.map_none]
  | some a =>
      have hlater : ¬ (" else " : Text) <:+: '\t' :: c.met.print :=
        Text.not_infix_tab_cons (by decide) (by decide) hfree
      have hcut := cutInner?_spaced (u := a.print) (by decide) (by decide)
        (List.cons_ne_nil '\t' c.met.print) hlater
      have hactions : '\t' :: c.printActions = Text.spaced " else " ('\t' :: c.met.print) a.print := by
        rw [printActions, hunmet]
        rfl
      simp only [hactions, actions, hcut]

theorem newline_not_mem_print (h : c.WellFormed) : '\n' ∉ c.print := by
  have hspaced {word t u : Text} (hword : '\n' ∉ word) (ht : '\n' ∉ t) (hu : '\n' ∉ u) :
      '\n' ∉ Text.spaced word t u := by
    simp [Text.spaced, hword, ht, hu]
  have hassignment {a : Assignment} (ha : ∀ t ∈ a.texts, '\n' ∉ t) : '\n' ∉ a.print := by
    simp only [Assignment.texts, List.forall_mem_cons] at ha
    simp [Assignment.print, ha]
  have hline := h.oneLine
  simp only [texts, List.forall_mem_cons, List.flatMap_cons, List.forall_mem_append] at hline
  refine hspaced (by decide) hline.1 (hspaced (by decide) hline.2.1 ?_)
  rw [printActions]
  cases hunmet : c.unmet with
  | none => exact hassignment hline.2.2.1
  | some a =>
      refine hspaced (by decide) (hassignment hline.2.2.1) (hassignment ?_)
      simpa [hunmet] using hline.2.2.2

/-- The parts of a printed condition are found where they were put. -/
theorem shape?_print (h : c.WellFormed) :
    shape? c.print = some
      { key := c.key ++ ['\t']
        expected := '\t' :: c.expected ++ ['\t']
        met := (actions ('\t' :: c.printActions)).1
        unmet := (actions ('\t' :: c.printActions)).2 } := by
  have hkey : cutInner? " is " c.print =
      some (c.key ++ ['\t'], '\t' :: Text.spaced " do " c.expected c.printActions) :=
    cutInner?_spaced (by decide) (by decide) h.key.nonempty h.keySeparator
  have hexpected : Text.cut? " do " ('\t' :: Text.spaced " do " c.expected c.printActions) =
      some ('\t' :: c.expected ++ ['\t'], '\t' :: c.printActions) :=
    Text.cut?_spaced (t := '\t' :: c.expected) (by decide) (by decide)
      (Text.not_infix_tab_cons (by decide) (by decide) h.expectedSeparator)
  rw [shape?, if_neg (newline_not_mem_print h), hkey]
  simp only [hexpected]

theorem read_print (h : c.WellFormed) : read c.print = .ok c := by
  have hmet := (Assignment.isOperand_print h.met).trimmed
  have hmetRead := Assignment.read_print h.met
  rw [read, shape?_print h, actions_printActions h]
  cases hunmet : c.unmet with
  | none =>
      simp only [Text.trim_tab_cons hmet, hmetRead, Text.trim_tab_append h.key.trimmed,
        Text.trim_tab_both h.expected, ← hunmet]
      rfl
  | some a =>
      have ha := h.unmet a hunmet
      have htrim := Text.trim_tab_cons (Assignment.isOperand_print ha).trimmed
      simp only [Text.trim_tab_both hmet, hmetRead, Text.trim_tab_append h.key.trimmed,
        Text.trim_tab_both h.expected]
      change (Assignment.read (Text.trim ('\t' :: a.print)) >>= fun a =>
        .ok ⟨c.key, c.expected, c.met, some a⟩) = Except.ok c
      rw [htrim, Assignment.read_print ha]
      change Except.ok ⟨c.key, c.expected, c.met, some a⟩ = Except.ok c
      rw [← hunmet]

theorem isTrimmed_print (h : c.WellFormed) : c.print.IsTrimmed := by
  have hactions : c.printActions.IsOperand := by
    have hmet := Assignment.isOperand_print h.met
    rw [printActions]
    cases hunmet : c.unmet with
    | none => exact hmet
    | some a =>
        have ha := Assignment.isOperand_print (h.unmet a hunmet)
        exact ⟨by simp [Text.spaced], Text.isTrimmed_spaced hmet ha.trimmed.2 ha.nonempty⟩
  refine Text.isTrimmed_spaced h.key ?_ (by simp [Text.spaced])
  exact Text.bareEnd_spaced c.expected hactions.trimmed.2 hactions.nonempty

end Condition

namespace Directive

def print : Directive → Text
  | .assign a => a.print
  | .pattern extension template =>
      Keyword.pattern.spelling ++ Assignment.print ⟨extension, template⟩
  | .command t => Keyword.command.spelling ++ t
  | .exclude entries => Keyword.exclude.spelling ++ Text.joined [','] entries
  | .check t => Keyword.check.spelling ++ t
  | .dependency t => Keyword.dependency.spelling ++ t
  | .download url destination =>
      Keyword.download.spelling ++ Text.spaced " in " url destination
  | .condition c => Keyword.condition.spelling ++ c.print
  | .makeDirectory t => Keyword.makeDirectory.spelling ++ t

variable {d : Directive}

/-- A line that begins with a keyword is read by it. -/
theorem read?_keyword (keyword : Keyword) {rest : Text}
    (hend : (keyword.spelling ++ rest).BareEnd) :
    read? (keyword.spelling ++ rest) = (readAfter keyword rest).map some := by
  obtain ⟨hne, hfront, hcomment⟩ : keyword.spelling ≠ [] ∧ keyword.spelling.BareFront ∧
      keyword.spelling.head? ≠ some '#' := by
    cases keyword <;> decide
  have htrim : (keyword.spelling ++ rest).IsTrimmed := ⟨hfront.append hne rest, hend⟩
  have hline : ¬ (keyword.spelling ++ rest = [] ∨
      (keyword.spelling ++ rest).head? = some '#') := by
    rw [List.head?_append_of_ne_nil _ hne, List.append_eq_nil_iff, not_or]
    exact ⟨fun hnil => hne hnil.1, hcomment⟩
  rw [read?, Text.trim_of_isTrimmed htrim, readTrimmed, if_neg hline,
    Keyword.ofLine?_eq_some_iff.mpr rfl]

/-- A keyword and its operand are read as the directive that it makes of the operand. -/
theorem read?_operand (keyword : Keyword) {make : Text → Directive} {t : Text}
    (hmake : readAfter keyword t = readOperand keyword t make) (h : t.IsOperand) :
    read? (keyword.spelling ++ t) = .ok (some (make t)) := by
  have hend : (keyword.spelling ++ t).BareEnd :=
    h.trimmed.2.append fun hnil => absurd hnil h.nonempty
  rw [read?_keyword keyword hend, hmake, readOperand, Text.trim_of_isTrimmed h.trimmed,
    if_neg h.nonempty]
  rfl

/-- Entries that were joined with commas are found again. -/
theorem entriesOf_joined {entries : List Text}
    (h : ∀ e ∈ entries, e.IsOperand ∧ ',' ∉ e) : entriesOf (Text.joined [','] entries) = entries := by
  by_cases hne : entries = []
  · subst hne
    rfl
  · have hpieces := Text.pieces_joined ',' entries hne fun e he => (h e he).2
    have htrim : entries.map Text.trim = entries :=
      (List.map_congr_left fun e he => Text.trim_of_isTrimmed (h e he).1.trimmed).trans
        (List.map_id' entries)
    rw [entriesOf, hpieces, htrim, List.filter_eq_self]
    exact fun e he => decide_eq_true (h e he).1.nonempty

/-- A printed assignment is not taken for another directive. -/
theorem ofLine?_print {a : Assignment} (h : WellFormed (.assign a)) :
    Keyword.ofLine? a.print = none := by
  obtain ⟨hwell, _, hpattern⟩ := h
  cases hkeyword : Keyword.ofLine? a.print with
  | none => rfl
  | some found =>
      obtain ⟨keyword, rest⟩ := found
      have hline := Keyword.ofLine?_eq_some_iff.mp hkeyword
      have hfront : keyword.spelling <+: a.key := by
        have htab : '\t' ∉ keyword.spelling := by cases keyword <;> decide
        exact Text.prefix_of_prefix_guard htab ⟨rest, hline.symm⟩
      cases keyword with
      | pattern => exact absurd hfront hpattern
      | _ => exact absurd (hfront.subset (by decide)) hwell.colon

/-- A printed directive is read as the same directive. -/
theorem read?_print (h : d.WellFormed) : read? d.print = .ok (some d) := by
  cases d with
  | command t => exact read?_operand .command rfl h
  | check t => exact read?_operand .check rfl h
  | dependency t => exact read?_operand .dependency rfl h
  | makeDirectory t => exact read?_operand .makeDirectory rfl h
  | assign a =>
      have hprint := Assignment.isOperand_print h.1
      have hcomment : a.print.head? ≠ some '#' := by
        rw [Assignment.print, List.head?_append_of_ne_nil _ h.1.key.nonempty]
        exact h.2.1
      have hcolon : ':' ∈ a.print := by simp [Assignment.print]
      -- the only directive without a keyword: no keyword is at the front of the line
      rw [print, read?, Text.trim_of_isTrimmed hprint.trimmed, readTrimmed,
        if_neg (not_or.mpr ⟨hprint.nonempty, hcomment⟩), ofLine?_print h]
      simp only [if_pos hcolon, Assignment.read_print h.1]
      rfl
  | pattern extension template =>
      have hwell : Assignment.WellFormed ⟨extension, template⟩ := ⟨h.1, h.2.1, h.2.2⟩
      have hprint := Assignment.isOperand_print hwell
      rw [print, read?_keyword .pattern
        (hprint.trimmed.2.append fun hnil => absurd hnil hprint.nonempty), readAfter, readPattern,
        Assignment.cut?_print hwell]
      simp only [Text.trim_tab_append h.1.trimmed, h.1.nonempty, if_false,
        Text.trim_of_isTrimmed h.2.2]
      rfl
  | exclude entries =>
      have hend : (Keyword.exclude.spelling ++ Text.joined [','] entries).BareEnd :=
        (Text.bareEnd_joined fun e he => (h e he).1.trimmed).append fun _ => by decide
      have hentries := entriesOf_joined fun e he => ⟨(h e he).1, (h e he).2.1⟩
      have hchecked := checkEntries_eq_ok_iff.mpr fun e he => (h e he).2.2
      rw [print, read?_keyword .exclude hend, readAfter, readExclusion, hentries, hchecked]
      rfl
  | download url destination =>
      obtain ⟨hurl, hfree, hdestination⟩ := h
      have htrim : (Text.spaced " in " url destination).IsTrimmed :=
        Text.isTrimmed_spaced hurl hdestination.trimmed.2 hdestination.nonempty
      rw [print, read?_keyword .download
        (htrim.2.append fun hnil => absurd hnil (by simp [Text.spaced])), readAfter, readDownload,
        Text.trim_of_isTrimmed htrim, Text.cut?_spaced (by decide) (by decide) hfree]
      simp only [Text.trim_tab_append hurl.trimmed, Text.trim_tab_cons hdestination.trimmed,
        hurl.nonempty, hdestination.nonempty, or_self, if_false]
      rfl
  | condition c =>
      have hprint := Condition.isTrimmed_print h
      rw [print, read?_keyword .condition
        (hprint.2.append fun hnil => absurd hnil (by simp [Condition.print, Text.spaced])),
        readAfter, Text.trim_of_isTrimmed hprint, Condition.read_print h]
      rfl

/-- The directives that lines hold are the well-formed ones, and what a well-formed
directive prints as holds just this directive. -/
theorem read?_round_trip (d : Directive) :
    (∀ line, read? line = .ok (some d) → d.WellFormed) ∧
      (d.WellFormed → read? d.print = .ok (some d)) :=
  ⟨fun _ h => wellFormed_of_read? h, read?_print⟩

/-- A condition whose parts look like its separators and like other directives. -/
def awkward : Directive :=
  .condition
    { key := "cmd: is"
      expected := "do"
      met := ⟨"cmd", "if else"⟩
      unmet := some ⟨"for", "a else b"⟩ }

theorem read?_round_trip_of_awkward :
    awkward.WellFormed ∧ read? awkward.print = .ok (some awkward) :=
  have hwell : awkward.WellFormed := by decide
  ⟨hwell, (read?_round_trip awkward).2 hwell⟩

end Directive

end BuildManifest
