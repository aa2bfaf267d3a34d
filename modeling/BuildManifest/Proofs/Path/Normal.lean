import BuildManifest.Proofs.Path.Below

/-!
Paths in normal form, and how resolving leads from one to the next. A path is followed from the
names that lead to a directory, and the names that it leads to spell a path in normal form. To
follow two paths one after the other is to follow them put together, so it does not matter when
the normal form is taken.
-/

namespace BuildManifest.Path

/-- The path begins at the root and goes down by names, without needless slashes. -/
structure IsNormal (p : Path) : Prop where
  absolute : isAbsolute p = true
  steps : p ≠ ['/'] → ∀ piece ∈ (Text.pieces '/' p).tail, IsStep piece
  ending : p ≠ ['/'] → p.getLast? ≠ some '/'

/-- The path that goes down from the root by these names. -/
def fromRoot (names : List Text) : Path := '/' :: Text.joined ['/'] names

/-- Where a path leads, from where these names lead. -/
def follow (names : List Text) (p : Path) : List Text :=
  ((componentsOf (Text.pieces '/' p)).foldl step names.reverse).reverse

variable {b p q : Path} {names : List Text}

/-- The names that are left are names that were there, or have come with the components. -/
theorem forall_mem_foldl_step {P : Text → Prop} {components : List Component}
    (hcomponents : ∀ t, .name t ∈ components → P t) {stack : List Text} (hstack : ∀ t ∈ stack, P t) :
    ∀ t ∈ components.foldl step stack, P t := by
  induction components generalizing stack with
  | nil => exact hstack
  | cons c rest ih =>
      refine ih (fun t ht => hcomponents t (List.mem_cons_of_mem c ht)) ?_
      cases c with
      | name t =>
          exact List.forall_mem_cons.mpr ⟨hcomponents t List.mem_cons_self, hstack⟩
      | up => exact fun t ht => hstack t (List.mem_of_mem_tail ht)
      | root | current => exact hstack

theorem isStep_of_mem_componentsOf {pieces : List Text} {t : Text}
    (h : .name t ∈ componentsOf pieces) : t ∈ pieces ∧ IsStep t := by
  rw [componentsOf, List.mem_map] at h
  obtain ⟨piece, hpiece, hname⟩ := h
  obtain ⟨hmem, hidle⟩ := List.mem_filter.mp hpiece
  rw [componentOf] at hname
  split at hname
  · cases hname
  · rename_i hup
    cases hname
    simp only [isIdle, Bool.not_eq_true', Bool.or_eq_false_iff, decide_eq_false_iff_not] at hidle
    exact ⟨hmem, hidle.1, hidle.2, hup⟩

/-- Steps lead to steps, and never over a slash. -/
theorem isStep_of_mem_follow (h : ∀ name ∈ names, IsStep name ∧ '/' ∉ name) (p : Path) :
    ∀ name ∈ follow names p, IsStep name ∧ '/' ∉ name := by
  intro name hname
  refine forall_mem_foldl_step (P := fun t => IsStep t ∧ '/' ∉ t) (fun t ht => ?_)
    (fun t ht => h t (List.mem_reverse.mp ht)) name (List.mem_reverse.mp hname)
  obtain ⟨hmem, hstep⟩ := isStep_of_mem_componentsOf ht
  exact ⟨hstep, Text.not_mem_of_mem_pieces '/' p t hmem⟩

/-- How a path begins does not count when it is followed. -/
theorem foldl_step_components (p : Path) (stack : List Text) :
    p.components.foldl step stack = (componentsOf (Text.pieces '/' p)).foldl step stack := by
  rw [components, parts.eq_def]
  split
  · rfl
  · split
    · rename_i hpieces
      rw [hpieces]
      rfl
    · rfl

theorem normalNames_eq_follow (p : Path) : p.normalNames = follow [] p := by
  rw [normalNames, foldl_step_components]
  rfl

theorem normalize_eq_fromRoot (h : isAbsolute p = true) : normalize p = fromRoot (follow [] p) := by
  rw [normalize, if_pos h, normalNames_eq_follow]
  rfl

/-- A relative path behind another is followed from where that one leads. -/
theorem follow_join (hq : isAbsolute q = false) (names : List Text) (p : Path) :
    follow names (join p q) = follow (follow names p) q := by
  have hpieces : componentsOf (Text.pieces '/' (join p q)) =
      componentsOf (Text.pieces '/' p) ++ componentsOf (Text.pieces '/' q) := by
    by_cases hp : p = []
    · subst hp
      have hjoin : join [] q = q := by simp [join, hq]
      rw [hjoin]
      rfl
    · rw [pieces_join_of_relative hp hq, componentsOf_append, componentsOf_stem]
  rw [follow, hpieces, List.foldl_append, follow, follow, List.reverse_reverse]

theorem follow_fromRoot (h : ∀ name ∈ names, IsStep name ∧ '/' ∉ name) :
    follow [] (fromRoot names) = names := by
  have hpieces : componentsOf (Text.pieces '/' (fromRoot names)) = componentsOf names :=
    componentsOf_pieces_joined fun name hname => (h name hname).2
  rw [follow, hpieces, componentsOf_names fun name hname => (h name hname).1, List.reverse_nil,
    foldl_step_names, List.append_nil, List.reverse_reverse]

theorem isNormal_fromRoot (h : ∀ name ∈ names, IsStep name ∧ '/' ∉ name) :
    IsNormal (fromRoot names) := by
  have hpieces : fromRoot names ≠ ['/'] → Text.pieces '/' (fromRoot names) = [] :: names := by
    intro hroot
    have hne : names ≠ [] := by
      rintro rfl
      exact hroot rfl
    have hjoined := Text.pieces_joined '/' names hne fun name hname => (h name hname).2
    rw [fromRoot, Text.pieces, if_pos rfl, hjoined]
  refine ⟨rfl, fun hroot => ?_, fun hroot hlast => ?_⟩
  · rw [hpieces hroot]
    exact fun piece hpiece => (h piece hpiece).1
  · -- behind a slash at the end there would be an empty piece
    obtain ⟨front, hfront⟩ := List.getLast?_eq_some_iff.mp hlast
    obtain ⟨first, others, hfirst⟩ := List.exists_cons_of_ne_nil (Text.pieces_ne_nil '/' front)
    have hall := hpieces hroot
    rw [hfront, Text.pieces_append, hfirst] at hall
    obtain ⟨-, rfl⟩ := List.cons.inj hall
    exact (h [] (List.mem_append_right others List.mem_cons_self)).1.1 rfl

theorem absolutize_of_isAbsolute (base : Path) (hp : isAbsolute p = true) :
    absolutize base p = fromRoot (follow [] p) := by
  rw [absolutize, join, if_pos hp, normalize_eq_fromRoot hp]

theorem absolutize_of_relative (hb : isAbsolute b = true) (hp : isAbsolute p = false) :
    absolutize b p = fromRoot (follow (follow [] b) p) := by
  rw [absolutize, normalize_eq_fromRoot (isAbsolute_join_of_isAbsolute hb p), follow_join hp]

/-- What resolving gives is spelled by names, those that following the path leads to. -/
theorem exists_fromRoot_of_absolutize (hb : isAbsolute b = true) (p : Path) :
    ∃ names, (∀ name ∈ names, IsStep name ∧ '/' ∉ name) ∧ absolutize b p = fromRoot names :=
  ⟨_, isStep_of_mem_follow (by simp) (join b p),
    normalize_eq_fromRoot (isAbsolute_join_of_isAbsolute hb p)⟩

theorem isNormal_absolutize (hb : isAbsolute b = true) (p : Path) :
    IsNormal (absolutize b p) := by
  obtain ⟨names, hnames, hresolved⟩ := exists_fromRoot_of_absolutize hb p
  rw [hresolved]
  exact isNormal_fromRoot hnames

/-- A normal form is resolved to itself, from wherever. -/
theorem absolutize_fromRoot (h : ∀ name ∈ names, IsStep name ∧ '/' ∉ name) (base : Path) :
    absolutize base (fromRoot names) = fromRoot names := by
  rw [absolutize_of_isAbsolute base rfl, follow_fromRoot h]

theorem isAbsolute_join_of_relative (hp : isAbsolute p = false) (hq : isAbsolute q = false) :
    isAbsolute (join p q) = false := by
  rw [join, if_neg (by rw [hq]; exact Bool.false_ne_true)]
  cases p with
  | nil => exact hq
  | cons c rest => split <;> exact hp

/-- From what a path is resolved to, a relative path is followed from where the first path leads. -/
theorem absolutize_absolutize_of_relative (hq : isAbsolute q = false)
    (h : ∀ name ∈ names, IsStep name ∧ '/' ∉ name) :
    absolutize (fromRoot (follow names p)) q = fromRoot (follow names (join p q)) := by
  rw [absolutize_of_relative rfl hq, follow_fromRoot (isStep_of_mem_follow h p), follow_join hq]

theorem absolutize_absolutize (hb : isAbsolute b = true) (p q : Path) :
    absolutize (absolutize b p) q = absolutize b (join p q) := by
  cases hq : isAbsolute q with
  | true => rw [join, if_pos hq, absolutize_of_isAbsolute _ hq, absolutize_of_isAbsolute b hq]
  | false =>
      cases hp : isAbsolute p with
      | true =>
          rw [absolutize_of_isAbsolute b hp, absolutize_absolutize_of_relative hq (by simp),
            absolutize_of_isAbsolute b (isAbsolute_join_of_isAbsolute hp q)]
      | false =>
          have hstart : ∀ name ∈ follow [] b, IsStep name ∧ '/' ∉ name :=
            isStep_of_mem_follow (by simp) b
          rw [absolutize_of_relative hb hp, absolutize_absolutize_of_relative hq hstart,
            absolutize_of_relative hb (isAbsolute_join_of_relative hp hq)]

/-- Resolving composes. From an absolute path every path is resolved to a normal form: it begins at
the root, and no `.`, no `..`, no empty piece and no slash at the end is left in it, the root apart.
To resolve one path and then another from there is to resolve the two joined, and what has been
resolved once is resolved to itself, whatever it is resolved against. -/
theorem absolutize_composes (hb : isAbsolute b = true) :
    (∀ p, IsNormal (absolutize b p)) ∧
    (∀ p q, absolutize (absolutize b p) q = absolutize b (join p q)) ∧
    ∀ x p, absolutize x (absolutize b p) = absolutize b p := by
  refine ⟨isNormal_absolutize hb, absolutize_absolutize hb, fun x p => ?_⟩
  obtain ⟨names, hnames, hresolved⟩ := exists_fromRoot_of_absolutize hb p
  rw [hresolved, absolutize_fromRoot hnames]

theorem absolutize_composes_above_root :
    isAbsolute "/w//x/" = true ∧
    absolutize "/w//x/" "../../../y/." = "/y" ∧
    IsNormal (absolutize "/w//x/" "../../../y/.") ∧
    absolutize (absolutize "/w//x/" "../../../y/.") "./../z" =
      absolutize "/w//x/" "../../../y/././../z" ∧
    absolutize "" (absolutize "/w//x/" "../../../y/.") =
      absolutize "/w//x/" "../../../y/." := by
  have hb : isAbsolute "/w//x/" = true := rfl
  obtain ⟨hnormal, hjoined, hagain⟩ := absolutize_composes hb
  exact ⟨hb, by decide +kernel, hnormal _, hjoined "../../../y/." "./../z", hagain _ _⟩

end BuildManifest.Path
