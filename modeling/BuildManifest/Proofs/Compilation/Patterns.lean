import BuildManifest.Compilation
import BuildManifest.Proofs.Loading.Collecting
import BuildManifest.Proofs.Loading.Overlooking
import Mathlib.Data.List.Induction

/-!
Which pattern a file is compiled with. An extension may be declared again and again: it keeps the
place of its first declaration, and its template is that of the last one. So the declarations that
come first decide between extensions that end the same path, and those that come last say what is
done with it.
-/

namespace BuildManifest

namespace Table

variable {t : Table} {key value : Text}

theorem ofList_concat (pairs : List (Text × Text)) (e : Text × Text) :
    ofList (pairs ++ [e]) = (ofList pairs).insert e.1 e.2 := by
  rw [ofList, ofList, List.foldl_append]
  rfl

/-- The first key of some kind is the one that is inserted first. -/
theorem find?_keys_ofList (holds : Text → Bool) (pairs : List (Text × Text)) :
    (ofList pairs).keys.find? holds = (pairs.map Prod.fst).find? holds := by
  induction pairs using List.reverseRecOn with
  | nil => rfl
  | append_singleton pairs e ih =>
      rw [ofList_concat, keys_insert, List.map_append, List.find?_append, ← ih]
      split
      case isFalse => rw [List.find?_append]; rfl
      case isTrue hknown =>
        cases hfound : (ofList pairs).keys.find? holds with
        | some k => rfl
        | none =>
            have hnot := List.find?_eq_none.mp hfound e.1 hknown
            rw [List.map_cons, List.map_nil, List.find?_singleton, if_neg hnot]
            rfl

/-- A key stands for what is inserted last. -/
theorem get?_ofList (pairs : List (Text × Text)) (key : Text) :
    (ofList pairs).get? key = (pairs.reverse.find? (·.1 = key)).map Prod.snd := by
  induction pairs using List.reverseRecOn with
  | nil => rfl
  | append_singleton pairs e ih =>
      rw [ofList_concat, List.reverse_concat]
      by_cases hkey : e.1 = key
      · rw [List.find?_cons_of_pos (by simpa using hkey), ← hkey, get?_insert_self]
        rfl
      · rw [List.find?_cons_of_neg (by simpa using hkey), get?_insert_of_ne _ _ (Ne.symm hkey), ih]

/-- The first entry with a key of some kind is what that key stands for. -/
theorem get?_of_find? {holds : Text → Bool} {e : Text × Text}
    (h : t.entries.find? (fun e => holds e.1) = some e) : t.get? e.1 = some e.2 := by
  obtain ⟨hholds, before, after, hentries, hbefore⟩ := List.find?_eq_some_iff_append.mp h
  have hearlier : before.find? (·.1 = e.1) = none := by
    rw [List.find?_eq_none]
    intro d hd hkey
    have hnot := hbefore d hd
    rw [of_decide_eq_true hkey, hholds] at hnot
    cases hnot
  rw [get?, hentries, List.find?_append, hearlier, Option.none_or, List.find?_cons_of_pos (by simp)]
  rfl

end Table

namespace Recipe

variable {declared : List (Text × Text)} {file : Path} {e e' t t' : Text}

/-- What the declared patterns come to for a file: of the extensions that end its path it is the one
that is declared first, and the template is that of the last declaration of this extension. -/
structure IsPatternFor (declared : List (Text × Text)) (file : Path) (e t : Text) : Prop where
  extension_isSuffix : e <:+ file
  first : ∀ e' ∈ declared.map Prod.fst, e' <:+ file →
    (declared.map Prod.fst).idxOf e ≤ (declared.map Prod.fst).idxOf e'
  last : ∃ before after, declared = before ++ (e, t) :: after ∧ e ∉ after.map Prod.fst

theorem IsPatternFor.mem (h : IsPatternFor declared file e t) : e ∈ declared.map Prod.fst := by
  obtain ⟨before, after, hdeclared, _⟩ := h.last
  simp [hdeclared]

/-- The last of the declarations with some extension. -/
theorem find?_reverse_eq_some_iff :
    (declared.reverse.find? (·.1 = e)).map Prod.snd = some t ↔
      ∃ before after, declared = before ++ (e, t) :: after ∧ e ∉ after.map Prod.fst := by
  constructor
  · intro h
    obtain ⟨d, hfound, rfl⟩ := Option.map_eq_some_iff.mp h
    obtain ⟨hkey, after, before, hdeclared, hafter⟩ := List.find?_eq_some_iff_append.mp hfound
    obtain rfl := of_decide_eq_true hkey
    refine ⟨before.reverse, after.reverse, ?_, ?_⟩
    · rw [← List.reverse_reverse declared, hdeclared, List.reverse_append, List.reverse_cons,
        List.append_assoc, List.singleton_append]
    · intro hmem
      obtain ⟨d', hd', hsame⟩ := List.mem_map.mp hmem
      simpa [hsame] using hafter d' (List.mem_reverse.mp hd')
  · rintro ⟨before, after, rfl, hafter⟩
    have hnone : after.reverse.find? (·.1 = e) = none := by
      rw [List.find?_eq_none]
      intro d hd hkey
      exact hafter (List.mem_map.mpr ⟨d, List.mem_reverse.mp hd, of_decide_eq_true hkey⟩)
    rw [List.reverse_append, List.reverse_cons, List.append_assoc, List.find?_append, hnone]
    simp

/-- The first element of some kind comes before the others of this kind. -/
theorem idxOf_le_of_find? {α : Type} [BEq α] [LawfulBEq α] {holds : α → Bool} {l : List α} {a b : α}
    (hfound : l.find? holds = some a) (hb : holds b = true) : l.idxOf a ≤ l.idxOf b := by
  induction l with
  | nil => cases hfound
  | cons c rest ih =>
      by_cases hc : holds c
      · rw [List.find?_cons_of_pos hc] at hfound
        cases hfound
        simp
      · rw [List.find?_cons_of_neg hc] at hfound
        have ha : c ≠ a := by
          rintro rfl
          exact hc (List.find?_some hfound)
        have hcb : c ≠ b := by
          rintro rfl
          exact hc hb
        rw [List.idxOf_cons_ne _ ha, List.idxOf_cons_ne _ hcb]
        exact Nat.succ_le_succ (ih hfound)

/-- The extension that a file is compiled by is the first declared one that ends its path. -/
theorem map_fst_pattern?_ofList (declared : List (Text × Text)) (file : Path) :
    (pattern? (Table.ofList declared) file).map Prod.fst =
      (declared.map Prod.fst).find? file.endsWith := by
  rw [← Table.find?_keys_ofList, Table.keys, List.find?_map]
  rfl

/-- There is a pattern for a file if one of the declared extensions ends its path. -/
theorem pattern?_ofList_eq_none_iff :
    pattern? (Table.ofList declared) file = none ↔ ∀ d ∈ declared, ¬ d.1 <:+ file := by
  rw [← Option.map_eq_none_iff (f := Prod.fst), map_fst_pattern?_ofList, List.find?_eq_none,
    List.forall_mem_map]
  exact forall₂_congr fun d _ => not_congr List.isSuffixOf_iff_suffix

/-- The pattern that is found is one for the file. -/
theorem isPatternFor_of_pattern? (h : pattern? (Table.ofList declared) file = some (e, t)) :
    IsPatternFor declared file e t := by
  have hfirst := map_fst_pattern?_ofList declared file
  rw [h, Option.map_some] at hfirst
  have hends : file.endsWith e = true := List.find?_some hfirst.symm
  refine ⟨List.isSuffixOf_iff_suffix.mp hends, fun e' _ hsuffix =>
    idxOf_le_of_find? hfirst.symm (List.isSuffixOf_iff_suffix.mpr hsuffix), ?_⟩
  have hget := Table.get?_of_find? h
  rw [Table.get?_ofList] at hget
  exact find?_reverse_eq_some_iff.mp hget

/-- No two patterns are the one for a file. -/
theorem IsPatternFor.unique (h : IsPatternFor declared file e t)
    (h' : IsPatternFor declared file e' t') : (e, t) = (e', t') := by
  obtain rfl : e = e' := (List.idxOf_inj h.mem).mp
    (Nat.le_antisymm (h.first e' h'.mem h'.extension_isSuffix)
      (h'.first e h.mem h.extension_isSuffix))
  have hlast := find?_reverse_eq_some_iff.mpr h.last
  rw [find?_reverse_eq_some_iff.mpr h'.last] at hlast
  rw [Option.some.inj hlast]

theorem pattern?_ofList_eq_some_iff :
    pattern? (Table.ofList declared) file = some (e, t) ↔ IsPatternFor declared file e t := by
  refine ⟨isPatternFor_of_pattern?, fun h => ?_⟩
  cases hfound : pattern? (Table.ofList declared) file with
  | none =>
      obtain ⟨d, hd, rfl⟩ := List.mem_map.mp h.mem
      exact absurd h.extension_isSuffix (pattern?_ofList_eq_none_iff.mp hfound d hd)
  | some d => exact congrArg some ((isPatternFor_of_pattern? hfound).unique h)

end Recipe

section

variable {fetcher : Fetcher} {options : LoadOptions} {p : Path} {v : Variables} {plan : Plan}
  {s s' : Session}

/-- The patterns of a loaded plan are the ones that its manifest declares. -/
theorem patterns_of_load (h : load fetcher options p v s = (.ok plan, s')) :
    ∃ text instructions,
      readManifest (Path.absolutize options.workDir p) s = (.ok text, s) ∧
      Script.read (Path.absolutize options.workDir p) text = .ok instructions ∧
      plan.patterns = Table.ofList (instructions.flatMap (·.directive.patterns)) := by
  obtain ⟨text, s₁, instructions, htext, hread, hcollects⟩ := collects_of_load h
  obtain ⟨rfl, _⟩ := readManifest_eq_ok_iff.mp htext
  refine ⟨text, instructions, htext, hread, ?_⟩
  rw [hcollects.patterns, List.flatMap_map]
  rfl

/-- Which template compiles a file: the extension is of the declared ones that end the path of the
file the one that is declared first, and the template is the one that is declared last for it. -/
theorem pattern?_of_load (h : load fetcher options p v s = (.ok plan, s')) :
    ∃ text instructions,
      readManifest (Path.absolutize options.workDir p) s = (.ok text, s) ∧
      Script.read (Path.absolutize options.workDir p) text = .ok instructions ∧
      ∀ file : Path,
        (Recipe.pattern? plan.patterns file = none ↔
          ∀ d ∈ instructions.flatMap (·.directive.patterns), ¬ d.1 <:+ file) ∧
        ∀ e t, Recipe.pattern? plan.patterns file = some (e, t) ↔
          Recipe.IsPatternFor (instructions.flatMap (·.directive.patterns)) file e t := by
  obtain ⟨text, instructions, htext, hread, hpatterns⟩ := patterns_of_load h
  rw [hpatterns]
  exact ⟨text, instructions, htext, hread, fun file => ⟨Recipe.pattern?_ofList_eq_none_iff,
    fun _ _ => Recipe.pattern?_ofList_eq_some_iff⟩⟩

end

/-- Two extensions, of which one ends in the other, and the longer one is declared again. -/
def patternManifest : Text :=
  List.flatten ["for .c: cc $file\n", "for c: any\n", "for .c: gcc $file\n"]

def patternInstructions : List Instruction :=
  [⟨1, .pattern ".c" "cc $file"⟩, ⟨2, .pattern "c" "any"⟩, ⟨3, .pattern ".c" "gcc $file"⟩]

def patternPlan : Plan :=
  { Plan.start "/build.yang" "/" "/" Table.empty 64 with
    patterns := ⟨[(".c", "gcc $file"), ("c", "any")]⟩ }

/-- The first extension has the file, and its last template. -/
theorem pattern?_of_patternManifest :
    load (.storing .empty) ⟨"/", 64⟩ "build.yang" Table.empty (.withManifest patternManifest) =
      (.ok patternPlan, .withManifest patternManifest) ∧
    Recipe.pattern? patternPlan.patterns "/a.c" =
      some ((".c", "gcc $file") : Text × Text) := by
  have hread : Script.read "/build.yang" patternManifest = .ok patternInstructions := rfl
  have hload : load (.storing .empty) ⟨"/", 64⟩ "build.yang" Table.empty
      (.withManifest patternManifest) = (.ok patternPlan, .withManifest patternManifest) :=
    load_of_read rfl rfl (Session.find_withManifest _) hread rfl rfl
  obtain ⟨text, instructions, htext, hinstructions, hpatterns⟩ := pattern?_of_load hload
  have htext' : readManifest "/build.yang" (.withManifest patternManifest) =
      (.ok patternManifest, .withManifest patternManifest) :=
    readManifest_eq_ok_iff.mpr ⟨rfl, _, _, Session.find_withManifest _⟩
  obtain rfl : text = patternManifest :=
    Except.ok.inj (congrArg Prod.fst (htext.symm.trans htext'))
  obtain rfl : instructions = patternInstructions :=
    Except.ok.inj (hinstructions.symm.trans hread)
  refine ⟨hload, ((hpatterns "/a.c").2 ".c" "gcc $file").mpr ⟨by decide, ?_, ?_⟩⟩
  · decide
  · exact ⟨[(".c", "cc $file"), ("c", "any")], [], rfl, by decide⟩

end BuildManifest
