import BuildManifest.Exclusion

/-!
What each entry contributes to exclusion rules. Rules are made of all entries together, the places
and the globs apart, and a path is excluded if one of the entries covers it. So neither the order of
the entries matters nor how often one of them is given. Whether rules can be made at all is told by
the entries one by one only where their globs, once read, can be put to use together.
-/

namespace BuildManifest

namespace Exclusion

/-- The globs among the entries, as far as they can be read. -/
def globsOf (entries : List Text) : List Glob :=
  (entries.filter isPattern).filterMap fun e => (Glob.parse e).toOption

/-- Globs that could each be read can be put to use together. That does not follow from what they
are one by one: a set of globs is also limited in its size as a whole. -/
def BuildTogether (entries : List Text) : Prop :=
  (∀ e ∈ entries, check e = .ok ()) → globFault? (globsOf entries) = none

theorem exists_of_mem_globsOf {entries : List Text} {g : Glob} (h : g ∈ globsOf entries) :
    ∃ e ∈ entries, Glob.parse e = .ok g := by
  obtain ⟨e, he, hparse⟩ := List.mem_filterMap.mp h
  refine ⟨e, (List.mem_filter.mp he).1, ?_⟩
  cases hread : Glob.parse e with
  | error fault =>
      rw [hread] at hparse
      cases hparse
  | ok g' =>
      rw [hread] at hparse
      cases hparse
      rfl

def covers (base workDir : Path) (entry : Text) (p : Path) : Bool :=
  if isPattern entry then
    (Glob.parse entry).toOption.any fun g => g.isMatch ((Path.relativeTo? base p).getD p)
  else (Path.absolutize workDir entry).isUnder p

end Exclusion

namespace Exclusions

open BuildManifest.Exclusion (BuildTogether check covers globsOf isPattern globFault?)

variable {base workDir p : Path} {entries : List Text} {x y : Exclusions} {entry : Text}

/-- An entry adds its glob or its place. -/
theorem cases_of_add (h : x.add workDir entry = .ok y) :
    (isPattern entry = true ∧
        ∃ g, Glob.parse entry = .ok g ∧ y = { x with globs := x.globs ++ [g] }) ∨
      (isPattern entry = false ∧
        y = { x with places := x.places ++ [Path.absolutize workDir entry] }) := by
  rw [add] at h
  split at h
  · rename_i hpattern
    split at h
    · cases h
      exact .inl ⟨hpattern, _, ‹_›, rfl⟩
    · cases h
  · rename_i hplace
    cases h
    exact .inr ⟨Bool.eq_false_iff.mpr hplace, rfl⟩

/-- An entry can be added if it passes its check. -/
theorem exists_add_iff : (∃ y, x.add workDir entry = .ok y) ↔ check entry = .ok () := by
  simp only [add, check]
  cases isPattern entry with
  | false => exact iff_of_true ⟨_, rfl⟩ rfl
  | true =>
      cases Glob.parse entry with
      | error fault => exact iff_of_false (by rintro ⟨_, ⟨⟩⟩) (by rintro ⟨⟩)
      | ok g => exact iff_of_true ⟨_, rfl⟩ rfl

theorem addAll_cons_eq_ok_iff :
    (entry :: entries).foldlM (add workDir) x = .ok y ↔
      ∃ x', x.add workDir entry = .ok x' ∧ entries.foldlM (add workDir) x' = .ok y := by
  rw [List.foldlM_cons]
  cases x.add workDir entry with
  | error bad =>
      constructor
      · intro h
        cases h
      · rintro ⟨_, hadd, _⟩
        cases hadd
  | ok x' =>
      constructor
      · exact fun h => ⟨x', rfl, h⟩
      · rintro ⟨_, ⟨rfl⟩, h⟩
        exact h

theorem exists_addAll_iff :
    (∃ y, entries.foldlM (add workDir) x = .ok y) ↔ ∀ e ∈ entries, check e = .ok () := by
  induction entries generalizing x with
  | nil => exact iff_of_true ⟨x, rfl⟩ (by simp)
  | cons e rest ih =>
      rw [List.forall_mem_cons]
      constructor
      · rintro ⟨y, h⟩
        obtain ⟨x', hadd, hrest⟩ := addAll_cons_eq_ok_iff.mp h
        exact ⟨exists_add_iff.mp ⟨x', hadd⟩, ih.mp ⟨y, hrest⟩⟩
      · rintro ⟨hfirst, hrest⟩
        obtain ⟨x', hadd⟩ := exists_add_iff.mpr hfirst
        obtain ⟨y, hy⟩ := ih.mpr hrest
        exact ⟨y, addAll_cons_eq_ok_iff.mpr ⟨x', hadd, hy⟩⟩

theorem globs_of_addAll (h : entries.foldlM (add workDir) x = .ok y) :
    y.globs = x.globs ++ globsOf entries := by
  induction entries generalizing x with
  | nil =>
      cases h
      exact (List.append_nil _).symm
  | cons e rest ih =>
      obtain ⟨x', hadd, hrest⟩ := addAll_cons_eq_ok_iff.mp h
      rw [ih hrest]
      rcases cases_of_add hadd with ⟨hpattern, g, hparse, rfl⟩ | ⟨hplace, rfl⟩
      · have hglobs : globsOf (e :: rest) = g :: globsOf rest := by
          rw [globsOf, List.filter_cons_of_pos hpattern, List.filterMap_cons, hparse]
          rfl
        rw [hglobs, List.append_assoc]
        rfl
      · have hglobs : globsOf (e :: rest) = globsOf rest := by
          rw [globsOf, List.filter_cons_of_neg (by simp [hplace])]
          rfl
        rw [hglobs]

theorem excludes_of_addAll (h : entries.foldlM (add workDir) x = .ok y) :
    y.excludes p = (x.excludes p || entries.any fun e => covers x.base workDir e p) := by
  induction entries generalizing x with
  | nil =>
      cases h
      simp
  | cons e rest ih =>
      obtain ⟨x', hadd, hrest⟩ := addAll_cons_eq_ok_iff.mp h
      have hfirst : x'.base = x.base ∧
          x'.excludes p = (x.excludes p || covers x.base workDir e p) := by
        rcases cases_of_add hadd with ⟨hpattern, g, hparse, rfl⟩ | ⟨hplace, rfl⟩
        · refine ⟨rfl, ?_⟩
          rw [excludes, excludes, covers, if_pos hpattern, hparse, List.any_append, Bool.or_assoc]
          simp [Except.toOption]
        · refine ⟨rfl, ?_⟩
          rw [excludes, excludes, covers, if_neg (by simp [hplace]), List.any_append]
          simp [Bool.or_right_comm]
      rw [ih hrest, hfirst.1, hfirst.2, List.any_cons, Bool.or_assoc]

theorem ofEntries_eq_ok_iff :
    ofEntries base workDir entries = .ok x ↔
      entries.foldlM (add workDir) ⟨base, [], []⟩ = .ok x ∧ globFault? x.globs = none := by
  rw [ofEntries]
  split
  · rename_i hadd
    simp [hadd]
  · rename_i y hadd
    rw [hadd]
    split
    · rename_i fault hfault
      constructor
      · intro h
        cases h
      · rintro ⟨⟨rfl⟩, hnone⟩
        rw [hnone] at hfault
        cases hfault
    · rename_i hnone
      constructor
      · rintro ⟨rfl⟩
        exact ⟨rfl, hnone⟩
      · rintro ⟨⟨rfl⟩, _⟩
        rfl

/-- Where globs that could be read can be put to use together, rules can be made of entries that
each pass their check. -/
theorem exists_ofEntries_iff (hbuild : BuildTogether entries) :
    (∃ x, ofEntries base workDir entries = .ok x) ↔ ∀ e ∈ entries, check e = .ok () := by
  constructor
  · rintro ⟨x, hx⟩
    exact exists_addAll_iff.mp ⟨x, (ofEntries_eq_ok_iff.mp hx).1⟩
  · intro h
    obtain ⟨x, hadd⟩ : ∃ x, entries.foldlM (add workDir) ⟨base, [], []⟩ = .ok x :=
      exists_addAll_iff.mpr h
    refine ⟨x, ofEntries_eq_ok_iff.mpr ⟨hadd, ?_⟩⟩
    rw [globs_of_addAll hadd, List.nil_append]
    exact hbuild h

/-- A path is excluded if an entry covers it. -/
theorem excludes_of_ofEntries (h : ofEntries base workDir entries = .ok x) (p : Path) :
    x.excludes p = entries.any fun e => covers base workDir e p := by
  rw [excludes_of_addAll (ofEntries_eq_ok_iff.mp h).1]
  rfl

end Exclusions

end BuildManifest
