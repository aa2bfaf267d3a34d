import BuildManifest.Proofs.Compilation.Filling

/-!
The path of a file in its command. It is put in twice over: first in place of every `$filename`,
and then in place of every `$file` of the text that has come out. What the first round has put in
is searched by the second. So a path stays as it is if no `$file` begins in it where it stands for
a `$filename`; whatever other `$` it has, and whatever it has where it stands for a `$file`.
-/

namespace BuildManifest.Recipe

open Expansion (AllReferences Mentions)

variable {file : Path} {template : Text}

theorem keepsPath_iff (file : Path) (template : Text) :
    KeepsPath file template ↔ ∀ t ∈ template.tails, fileNameToken <+: t →
      ∀ u ∈ file.tails, u ≠ [] →
        ¬ fileToken <+: u ++ Text.replace (t.drop fileNameToken.length) fileNameToken file := by
  constructor
  · rintro h t ht ⟨rest, rfl⟩ u hu hne
    rw [List.drop_left]
    exact h rest ((List.mem_tails _ _).mp ht) u ((List.mem_tails _ _).mp hu) hne
  · intro h rest hrest u hu hne
    have hkept := h _ ((List.mem_tails _ _).mpr hrest) (List.prefix_append _ rest) u
      ((List.mem_tails _ _).mpr hu) hne
    rwa [List.drop_left] at hkept

instance (file : Path) (template : Text) : Decidable (KeepsPath file template) :=
  decidable_of_iff _ (keepsPath_iff file template).symm

/-- Without variables, and with a template in which every `$` begins a token, the command is the
template with the path in place of every `$filename` and of every other `$file`. The path is put in
as it is and once for each token, whatever characters it has, as long as no `$file` begins in it
where it stands for a `$filename`. -/
theorem render_inserts_path_once (r : Recipe) (hbindings : r.bindings = .empty)
    (hpasses : 0 < r.scope.passes) (ht : AllReferences tokenNames template)
    (hkeeps : KeepsPath file template) :
    ∃ command, (∀ t, Filled file template t ↔ t = command) ∧
      ∀ s, r.render template file s = (.ok command, s) := by
  obtain ⟨command, hcommand⟩ := exists_filled file template ht
  have hfill := fill_of_keepsPath hkeeps hcommand
  refine ⟨command, fun t => ⟨fun h => (fill_of_keepsPath hkeeps h).symm.trans hfill, ?_⟩,
    fun s => ?_⟩
  · rintro rfl
    exact hcommand
  · have hunmentioned : ∀ k ∈ r.bindings.keys, k ≠ [] → ¬ Mentions template k := by
      rw [hbindings]
      exact fun k hk => absurd hk List.not_mem_nil
    have hexpand : Action.expand r.scope r.bindings template s = (.ok template, s) := by
      rw [Action.expand_apply, expand_of_unmentioned ht hunmentioned hpasses]
    rw [render, Action.bind_of_ok hexpand, hfill]
    rfl

/-- One pattern and no variables. -/
def bareRecipe (template : Text) : Recipe := ⟨.empty, ⟨[(".c", template)]⟩, ⟨"/m", 64⟩⟩

/-- A path with the front of a token in it. -/
theorem render_of_dollar_path :
    AllReferences tokenNames "cc $filename -o $file.o" ∧
    KeepsPath "/p/a$fil.c" "cc $filename -o $file.o" ∧
    (∀ s, (bareRecipe "cc $filename -o $file.o").render "cc $filename -o $file.o" "/p/a$fil.c" s =
      (.ok "cc /p/a$fil.c -o /p/a$fil.c.o", s)) := by
  have ht : AllReferences tokenNames "cc $filename -o $file.o" := by decide +kernel
  have hkeeps : KeepsPath "/p/a$fil.c" "cc $filename -o $file.o" := by decide +kernel
  obtain ⟨command, hcommand, hrender⟩ := render_inserts_path_once
    (bareRecipe "cc $filename -o $file.o") rfl (by decide) ht hkeeps
  have hfilled : command = ("cc /p/a$fil.c -o /p/a$fil.c.o" : Text) := by
    rw [← fill_of_keepsPath hkeeps ((hcommand command).mpr rfl)]
    decide +kernel
  exact ⟨ht, hkeeps, hfilled ▸ hrender⟩

/-- The path has come in the place of the one token of the template, and then the `$file` in it is
taken for another one. -/
theorem render_substitutes_in_path :
    AllReferences tokenNames "cc $filename" ∧
    Filled "/p/$file.c" "cc $filename" "cc /p/$file.c" ∧
    ∀ s, (bareRecipe "cc $filename").render "cc $filename" "/p/$file.c" s =
      (.ok "cc /p//p/$file.c.c", s) := by
  have ht : AllReferences tokenNames "cc $filename" := by decide +kernel
  have htoken : Filled "/p/$file.c" (fileNameToken ++ []) (("/p/$file.c" : Text) ++ []) :=
    .fileName .nil
  have hfilled : Filled "/p/$file.c" "cc $filename" "cc /p/$file.c" :=
    .char (by decide) (.char (by decide) (.char (by decide) htoken))
  refine ⟨ht, hfilled, fun s => ?_⟩
  have hexpand : Action.expand ⟨"/m", 64⟩ .empty "cc $filename" s = (.ok "cc $filename", s) := by
    rw [Action.expand_apply, expand_of_unmentioned ht (fun k hk => by cases hk) (by decide)]
  have hfill : fill "/p/$file.c" "cc $filename" = ("cc /p//p/$file.c.c" : Text) := by
    decide +kernel
  rw [render, bareRecipe, Action.bind_of_ok hexpand, hfill]
  rfl

end BuildManifest.Recipe
