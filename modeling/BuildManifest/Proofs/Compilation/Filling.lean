import BuildManifest.Pipeline
import BuildManifest.Proofs.Expansion.Settling
import BuildManifest.Proofs.Loading.Overlooking

/-!
The command that a pattern gives for a file. The two tokens for the file are filled in after the
references of the template have been resolved, and during that time a token is text like any
other. So the tokens are safe from the variables that are not mentioned in the template; and a
variable is mentioned where a token begins with its name.
-/

namespace BuildManifest.Recipe

open Expansion (AllReferences Mentions)

/-- The template with the path of the file in place of every `$filename` and of every other
`$file`. -/
inductive Filled (file : Path) : Text → Text → Prop
  | nil : Filled file [] []
  | char {c : Char} {t r : Text} (hc : c ≠ '$') (ht : Filled file t r) :
      Filled file (c :: t) (c :: r)
  | fileName {t r : Text} (ht : Filled file t r) : Filled file (fileNameToken ++ t) (file ++ r)
  | file {t r : Text} (hother : ¬ fileNameToken <+: fileToken ++ t) (ht : Filled file t r) :
      Filled file (fileToken ++ t) (file ++ r)

/-- What follows the `$` of a token. -/
def tokenNames : List Text := ["filename", "file"]

variable {file : Path} {template t r : Text}

/-- No `$file` begins in a path that has come in the place of a `$filename`, be it in the path
alone or together with the text behind it. -/
def KeepsPath (file : Path) (template : Text) : Prop :=
  ∀ rest, fileNameToken ++ rest <:+ template → ∀ u, u <:+ file → u ≠ [] →
    ¬ fileToken <+: u ++ Text.replace rest fileNameToken file

theorem KeepsPath.of_append {before : Text} (h : KeepsPath file (before ++ t)) :
    KeepsPath file t :=
  fun rest hrest => h rest (hrest.trans (List.suffix_append before t))

theorem keepsPath_of_plain (hfile : '$' ∉ file) (t : Text) : KeepsPath file t := by
  intro rest _ u hu hne hbegins
  obtain ⟨c, u, rfl⟩ := List.exists_cons_of_ne_nil hne
  obtain ⟨rfl, -⟩ := List.cons_prefix_cons.mp hbegins
  exact hfile (hu.subset List.mem_cons_self)

theorem fill_of_keepsPath (hkeeps : KeepsPath file t) (h : Filled file t r) :
    fill file t = r := by
  induction h with
  | nil => rfl
  | @char c t r hc ht ih =>
      have hfront (rest u : Text) : ¬ ('$' :: rest) <+: c :: u := fun h =>
        hc (List.cons_prefix_cons.mp h).1.symm
      have hname : Text.replace (c :: t) fileNameToken file = c :: t.replace fileNameToken file :=
        Text.replace_cons fileNameToken file c t (hfront _ _)
      have hkept : KeepsPath file ([c] ++ t) := hkeeps
      rw [fill, hname, Text.replace_cons fileToken file c _ (hfront _ _)]
      exact congrArg (c :: ·) (ih hkept.of_append)
  | @fileName t r ht ih =>
      -- the path that has been put in is searched for the other token
      have hpath : (file ++ t.replace fileNameToken file).replace fileToken file =
          file ++ (t.replace fileNameToken file).replace fileToken file :=
        Text.replace_append_of_not_begun file (hkeeps t (List.suffix_refl _))
      rw [fill, Text.replace_append fileNameToken file t (by decide), hpath]
      exact congrArg (file ++ ·) (ih hkeeps.of_append)
  | @file t r hother ht ih =>
      have hname : (fileToken ++ t).replace fileNameToken file =
          fileToken ++ t.replace fileNameToken file := by
        have htail : Text.replace (("file" : Text) ++ t) fileNameToken file =
            ("file" : Text) ++ t.replace fileNameToken file :=
          Text.replace_append_of_not_mem '$' _ file "file" t (by decide)
        exact (Text.replace_cons fileNameToken file '$' _ hother).trans (congrArg _ htail)
      rw [fill, hname, Text.replace_append fileToken file _ (by decide)]
      exact congrArg (file ++ ·) (ih hkeeps.of_append)

theorem fill_of_filled (hfile : '$' ∉ file) (h : Filled file t r) : fill file t = r :=
  fill_of_keepsPath (keepsPath_of_plain hfile t) h

/-- If every `$` begins a token, there is something to fill in for each of them. -/
theorem exists_filled (file : Path) (t : Text) (ht : AllReferences tokenNames t) :
    ∃ r, Filled file t r := by
  induction hn : t.length using Nat.strongRecOn generalizing t with
  | ind n ih =>
      cases t with
      | nil => exact ⟨[], .nil⟩
      | cons c t =>
          by_cases hc : c = '$'
          · subst hc
            have hshorter {rest : Text} {name : Text} (hrest : t = name ++ rest) :
                ∃ r, Filled file rest r := by
              refine ih rest.length ?_ rest ?_ rfl
              · rw [← hn, hrest, List.length_cons, List.length_append]
                omega
              · rw [hrest] at ht
                exact Expansion.allReferences_of_append ht.2
            by_cases hname : ("filename" : Text) <+: t
            · obtain ⟨rest, hrest⟩ := hname
              obtain ⟨r, hr⟩ := hshorter hrest.symm
              exact ⟨file ++ r, hrest ▸ .fileName hr⟩
            · obtain ⟨k, hk, rest, hrest⟩ := ht.1 rfl
              obtain ⟨r, hr⟩ := hshorter hrest.symm
              obtain rfl | rfl : k = ("filename" : Text) ∨ k = ("file" : Text) := by
                simpa [tokenNames] using hk
              · exact absurd ⟨rest, hrest⟩ hname
              · refine ⟨file ++ r, hrest ▸ .file (fun h => hname ?_) hr⟩
                rw [← hrest]
                exact (List.cons_prefix_cons.mp h).2
          · obtain ⟨r, hr⟩ := ih t.length (by rw [← hn]; exact Nat.lt_succ_self _) t ht.2 rfl
            exact ⟨c :: r, .char hc hr⟩

/-- Variables that are not mentioned do nothing to a template in which every `$` begins a
token. -/
theorem expand_of_unmentioned {v : Variables} {scope : Scope} (ht : AllReferences tokenNames t)
    (hv : ∀ k ∈ v.keys, k ≠ [] → ¬ Mentions t k) (hpasses : 0 < scope.passes) (s : TokenSupply) :
    Expansion.expand scope v s t = (.ok t, s) := by
  have hunmentioned : ∀ k ∈ Expansion.namesOver v t, ¬ Mentions t k := by
    intro k hk
    rcases Expansion.mem_namesOver hk with ⟨hkey, hne⟩ | rfl | rfl
    · exact hv k hkey hne
    · exact Expansion.not_mentions_of_incomparable (by decide) ht
    · exact Expansion.not_mentions_of_incomparable (by decide) ht
  have hpass := Expansion.drawingPass_of_unmentioned hunmentioned scope.root s
  obtain ⟨n, hn⟩ := Nat.exists_eq_succ_of_ne_zero (Nat.pos_iff_ne_zero.mp hpasses)
  rw [Expansion.expand, hn, Expansion.settle_of_unchanged n hpass]

/-- The tokens survive the variables that the template does not mention. Take a template in which
every `$` begins a token, and a path without a `$`. If no variable has a name that a token of the
template begins with, the command is the template with the path in place of every `$filename` and
of every other `$file`, whatever the variables stand for, and rendering it draws no token. -/
theorem render_of_unmentioned (r : Recipe) (hfile : '$' ∉ file)
    (ht : AllReferences tokenNames template)
    (hv : ∀ k ∈ r.bindings.keys, k ≠ [] → ¬ Mentions template k) (hpasses : 0 < r.scope.passes) :
    ∃ command, (∀ t, Filled file template t ↔ t = command) ∧
      ∀ s, r.render template file s = (.ok command, s) := by
  obtain ⟨command, hcommand⟩ := exists_filled file template ht
  have hfill := fill_of_filled hfile hcommand
  refine ⟨command, fun t => ⟨fun h => (fill_of_filled hfile h).symm.trans hfill, ?_⟩, fun s => ?_⟩
  · rintro rfl
    exact hcommand
  · have hexpand : Action.expand r.scope r.bindings template s = (.ok template, s) := by
      rw [Action.expand_apply, expand_of_unmentioned ht hv hpasses]
    rw [render, Action.bind_of_ok hexpand, hfill]
    rfl

/-- A manifest with a variable and a pattern that have nothing to do with each other. -/
def objectManifest : Text := List.flatten ["output: build\n", "for .c: cc $filename -o $file.o\n"]

theorem bindings_of_objectManifest :
    (load (.storing .empty) ⟨"/", 64⟩ "build.yang" (Variables.builtin "/home/u")
      (.withManifest objectManifest)).1.toOption.map (fun plan => (plan.bindings.keys, plan.scope)) =
        some ((["windows", "linux", "macos", "platform", "home", "output"] : List Text),
          (⟨"/", 64⟩ : Scope)) := by
  rw [load_of_found (Session.find_withManifest _)]
  decide +kernel

theorem render_of_objectManifest :
    Variables.seeded "/home/u" [] = .ok (Variables.builtin "/home/u") ∧
    AllReferences tokenNames "cc $filename -o $file.o" ∧ '$' ∉ ("/a.c" : Text) ∧
    ∃ plan t, load (.storing .empty) ⟨"/", 64⟩ "build.yang" (Variables.builtin "/home/u")
        (.withManifest objectManifest) = (.ok plan, t) ∧
      (∀ k ∈ plan.bindings.keys, k ≠ [] → ¬ Mentions "cc $filename -o $file.o" k) ∧
      0 < plan.scope.passes ∧
      ∀ s, plan.recipe.render "cc $filename -o $file.o" "/a.c" s =
        (.ok "cc /a.c -o /a.c.o", s) := by
  have ht : AllReferences tokenNames "cc $filename -o $file.o" := by decide +kernel
  have hfile : '$' ∉ ("/a.c" : Text) := by decide
  obtain ⟨plan, t, hload, hbindings⟩ := Action.exists_of_map_answer bindings_of_objectManifest
  obtain ⟨hkeys, hscope⟩ := Prod.mk.inj hbindings
  have hv : ∀ k ∈ plan.bindings.keys, k ≠ [] → ¬ Mentions "cc $filename -o $file.o" k := by
    rw [hkeys]
    decide +kernel
  have hpasses : 0 < plan.scope.passes := by
    rw [hscope]
    decide
  obtain ⟨command, hcommand, hrender⟩ := render_of_unmentioned plan.recipe hfile ht hv hpasses
  have hfilled : command = ("cc /a.c -o /a.c.o" : Text) := by
    rw [← fill_of_filled hfile ((hcommand command).mpr rfl)]
    decide +kernel
  exact ⟨rfl, ht, hfile, plan, t, hload, hv, hpasses, hfilled ▸ hrender⟩

/-- A manifest that defines a variable by the name of a token, which is not reserved. -/
def clashingManifest : Text := List.flatten ["filename: out\n", "for .c: cc $filename\n"]

theorem command_of_clashingManifest :
    (load (.storing .empty) ⟨"/", 64⟩ "build.yang" (Variables.builtin "/home/u")
      (.withManifest clashingManifest)).1.toOption.map (fun plan =>
        (plan.recipe.render "cc $filename" "/a.c" (.withManifest clashingManifest)).1) =
      some (.ok ("cc out" : Text)) := by
  rw [load_of_found (Session.find_withManifest _)]
  decide +kernel

/-- The variable has taken the place of the token before the path is filled in. -/
theorem render_of_clashingManifest :
    Variables.seeded "/home/u" [] = .ok (Variables.builtin "/home/u") ∧
    AllReferences tokenNames "cc $filename" ∧ '$' ∉ ("/a.c" : Text) ∧
    Filled "/a.c" "cc $filename" "cc /a.c" ∧
    ∃ plan t, load (.storing .empty) ⟨"/", 64⟩ "build.yang" (Variables.builtin "/home/u")
        (.withManifest clashingManifest) = (.ok plan, t) ∧
      (plan.recipe.render "cc $filename" "/a.c" (.withManifest clashingManifest)).1 =
        .ok ("cc out" : Text) := by
  have ht : AllReferences tokenNames "cc $filename" := by decide +kernel
  have hfile : '$' ∉ ("/a.c" : Text) := by decide
  obtain ⟨command, hcommand⟩ := exists_filled "/a.c" "cc $filename" ht
  have hfilled : command = ("cc /a.c" : Text) := by
    rw [← fill_of_filled hfile hcommand]
    decide +kernel
  obtain ⟨plan, t, hload, hrender⟩ := Action.exists_of_map_answer command_of_clashingManifest
  exact ⟨rfl, ht, hfile, hfilled ▸ hcommand, plan, t, hload, hrender⟩

end BuildManifest.Recipe
