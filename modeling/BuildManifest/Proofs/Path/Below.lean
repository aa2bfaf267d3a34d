import BuildManifest.Proofs.Path
import BuildManifest.Proofs.Text.Cutting

/-!
What lies below a directory, told apart from where the directory lies. The components of a path to
which names lead down from a directory are those of the directory and then the names. So the names
are what is left of the path relative to the directory, and they alone decide whether the path lies
under some other one that is given relative to the directory too, as long as no `..` leads out of
it. How a path ends depends on its last name only, if no slash is asked for.
-/

namespace BuildManifest.Path

variable {p base e : Path} {ending name : Text} {names : List Text}

theorem ne_nil_of_isAbsolute (h : isAbsolute p = true) : p ≠ [] := by
  rintro rfl
  cases h

theorem componentsOf_append (pieces pieces' : List Text) :
    componentsOf (pieces ++ pieces') = componentsOf pieces ++ componentsOf pieces' := by
  rw [componentsOf, List.filter_append, List.map_append]
  rfl

theorem componentsOf_eq_nil_iff {pieces : List Text} :
    componentsOf pieces = [] ↔ ∀ piece ∈ pieces, isIdle piece = true := by
  simp [componentsOf]

/-- Only what names something counts. -/
theorem componentsOf_filter (pieces : List Text) :
    componentsOf (pieces.filter fun piece => !isIdle piece) = componentsOf pieces := by
  rw [componentsOf, List.filter_filter]
  simp [componentsOf]

theorem componentsOf_names (h : ∀ name ∈ names, IsStep name) :
    componentsOf names = names.map Component.name := by
  have hkept : names.filter (fun piece => !isIdle piece) = names :=
    List.filter_eq_self.mpr fun name hname => by rw [isIdle_of_isStep (h name hname)]; rfl
  rw [componentsOf, hkept]
  refine List.map_congr_left fun name hname => ?_
  rw [componentOf, if_neg (h name hname).2.2]

theorem componentsOf_append_idle {idle : List Text} (hidle : ∀ piece ∈ idle, isIdle piece = true)
    (pieces : List Text) : componentsOf (pieces ++ idle) = componentsOf pieces := by
  rw [componentsOf_append, componentsOf_eq_nil_iff.mpr hidle, List.append_nil]

theorem componentsOf_stem (p : Path) :
    componentsOf (stem p) = componentsOf (Text.pieces '/' p) := by
  rcases pieces_eq_stem p with hpieces | hpieces
  · rw [hpieces]
  · rw [hpieces, componentsOf_append_idle (by simp [isIdle])]

/-- An absolute path begins with nothing, and what follows is read piece by piece. -/
theorem exists_body (h : isAbsolute p = true) :
    ∃ body idle, stem p = [] :: body ∧ p.parts = (some .root, body ++ idle) ∧
      ∀ piece ∈ idle, isIdle piece = true := by
  obtain ⟨rest, rfl⟩ : ∃ rest, p = '/' :: rest := List.head?_eq_some_iff.mp (of_decide_eq_true h)
  have hparts : parts ('/' :: rest) = (some .root, Text.pieces '/' rest) := rfl
  have hpieces : Text.pieces '/' ('/' :: rest) = [] :: Text.pieces '/' rest := rfl
  rw [hparts]
  rcases pieces_eq_stem ('/' :: rest) with hstem | hstem
  · refine ⟨Text.pieces '/' rest, [], hstem.symm.trans hpieces, ?_, by simp⟩
    rw [List.append_nil]
  · rw [hpieces] at hstem
    cases hcase : stem ('/' :: rest) with
    | nil =>
        rw [hcase] at hstem
        exact absurd (List.cons.inj hstem).2 (Text.pieces_ne_nil '/' rest)
    | cons first body =>
        rw [hcase] at hstem
        obtain ⟨rfl, hrest⟩ := List.cons.inj hstem
        exact ⟨body, [[]], rfl, congrArg _ hrest, by simp [isIdle]⟩

theorem components_of_isAbsolute (h : isAbsolute p = true) :
    p.components = .root :: componentsOf (Text.pieces '/' p) := by
  obtain ⟨body, idle, hstem, hparts, hidle⟩ := exists_body h
  rw [← componentsOf_stem, hstem, components, hparts, componentsOf_append_idle hidle]
  rfl

/-- The pieces of a path tell of no component that is not one of its own. -/
theorem componentsOf_pieces_subset (p : Path) :
    componentsOf (Text.pieces '/' p) ⊆ p.components := by
  intro c hc
  rw [components, parts.eq_def]
  split
  · exact List.mem_cons_of_mem _ hc
  · split
    · rename_i hpieces
      rw [hpieces] at hc
      exact List.mem_cons_of_mem _ hc
    · exact hc

theorem isAbsolute_descend (hp : isAbsolute p = true)
    (hnames : ∀ name ∈ names, isName name = true) : isAbsolute (descend p names) = true := by
  induction names generalizing p with
  | nil => exact hp
  | cons name names ih =>
      rw [List.forall_mem_cons] at hnames
      rw [descend_cons]
      refine ih ?_ hnames.2
      rw [isAbsolute_join (ne_nil_of_isAbsolute hp) hnames.1, hp]

/-- The components on the way down are those of the directory and the names. -/
theorem components_descend (hp : isAbsolute p = true)
    (hnames : ∀ name ∈ names, isName name = true) :
    (descend p names).components = p.components ++ names.map Component.name := by
  rw [components_of_isAbsolute (isAbsolute_descend hp hnames), components_of_isAbsolute hp,
    ← componentsOf_stem, stem_descend (ne_nil_of_isAbsolute hp) hnames, componentsOf_append,
    componentsOf_stem, componentsOf_names fun name hname => isStep_of_isName (hnames name hname),
    List.cons_append]

section

/-! What is left of a path below its directory. -/

/-- Taking away the components of some pieces takes away the pieces, all but idle ones. -/
theorem afterPieces?_componentsOf (front back : List Text) :
    ∃ idle, (∀ piece ∈ idle, isIdle piece = true) ∧
      afterPieces? (componentsOf front) (front ++ back) = some (idle ++ back) := by
  induction front with
  | nil => exact ⟨[], by simp, by simp [componentsOf, afterPieces?]⟩
  | cons piece front ih =>
      obtain ⟨idle, hidle, hafter⟩ := ih
      cases hpiece : isIdle piece with
      | false =>
          refine ⟨idle, hidle, ?_⟩
          rw [componentsOf, List.filter_cons_of_pos (by rw [hpiece]; rfl), List.map_cons,
            List.cons_append, afterPieces?, if_neg (by rw [hpiece]; exact Bool.false_ne_true),
            if_pos rfl]
          exact hafter
      | true =>
          have hsame : componentsOf (piece :: front) = componentsOf front := by
            rw [componentsOf, List.filter_cons_of_neg (by rw [hpiece]; exact Bool.false_ne_true)]
            rfl
          rw [hsame]
          cases hfront : componentsOf front with
          | nil =>
              refine ⟨piece :: front, ?_, rfl⟩
              exact List.forall_mem_cons.mpr ⟨hpiece, componentsOf_eq_nil_iff.mp hfront⟩
          | cons c cs =>
              refine ⟨idle, hidle, ?_⟩
              rw [List.cons_append, afterPieces?, if_pos hpiece, ← hfront]
              exact hafter

theorem dropIdle_append {idle : List Text} (hidle : ∀ piece ∈ idle, isIdle piece = true)
    (pieces : List Text) : dropIdle (idle ++ pieces) = dropIdle pieces :=
  List.dropWhile_append_of_pos hidle

theorem dropIdle_cons_of_isName (hname : isName name = true) (pieces : List Text) :
    dropIdle (name :: pieces) = name :: pieces :=
  List.dropWhile_cons_of_neg (by rw [isIdle_of_isName hname]; exact Bool.false_ne_true)

theorem dropIdleEnd_append {idle : List Text} (hidle : ∀ piece ∈ idle, isIdle piece = true)
    (hnames : ∀ name ∈ names, isName name = true) : dropIdleEnd (names ++ idle) = names := by
  rw [dropIdleEnd, List.reverse_append,
    dropIdle_append fun piece hpiece => hidle piece (List.mem_reverse.mp hpiece)]
  cases hcase : names.reverse with
  | nil =>
      rw [List.reverse_eq_nil_iff.mp hcase]
      rfl
  | cons last before =>
      have hlast : last ∈ names := List.mem_reverse.mp (hcase ▸ List.mem_cons_self)
      rw [dropIdle_cons_of_isName (hnames last hlast), ← hcase, List.reverse_reverse]

/-- Idle pieces on either side of names are dropped. -/
theorem dropIdle_around {idle idle' : List Text} (hidle : ∀ piece ∈ idle, isIdle piece = true)
    (hidle' : ∀ piece ∈ idle', isIdle piece = true)
    (hnames : ∀ name ∈ names, isName name = true) :
    dropIdleEnd (dropIdle (idle ++ (names ++ idle'))) = names := by
  rw [dropIdle_append hidle]
  cases names with
  | nil =>
      rw [List.nil_append, ← List.append_nil idle', dropIdle_append hidle']
      rfl
  | cons name names =>
      rw [List.cons_append, dropIdle_cons_of_isName (hnames name List.mem_cons_self),
        ← List.cons_append, dropIdleEnd_append hidle' hnames]

/-- Relative to a directory, a path below it is the names that lead down to it. -/
theorem relativeTo?_descend (hp : isAbsolute p = true)
    (hnames : ∀ name ∈ names, isName name = true) :
    relativeTo? p (descend p names) = some (Text.joined ['/'] names) := by
  obtain ⟨body, idle, hstem, hparts, hidle⟩ := exists_body hp
  obtain ⟨body', idle', hstem', hparts', hidle'⟩ := exists_body (isAbsolute_descend hp hnames)
  rw [stem_descend (ne_nil_of_isAbsolute hp) hnames, hstem, List.cons_append] at hstem'
  obtain rfl := (List.cons.inj hstem').2
  have hbase : p.components ≠ [] := by
    rw [components_of_isAbsolute hp]
    exact List.cons_ne_nil _ _
  obtain ⟨before, hbefore, hafter⟩ := afterPieces?_componentsOf body (names ++ idle')
  rw [relativeTo?, if_neg hbase, hparts, hparts', if_pos rfl, componentsOf_append_idle hidle,
    List.append_assoc, hafter, Option.map_some, dropIdle_around hbefore hidle' hnames]

end

section

/-! What lies under a path that is given relative to the directory. -/

theorem foldl_step_names (names stack : List Text) :
    (names.map Component.name).foldl step stack = names.reverse ++ stack := by
  induction names generalizing stack with
  | nil => rfl
  | cons name names ih =>
      rw [List.map_cons, List.foldl_cons, step, ih, List.reverse_cons, List.append_assoc]
      rfl

theorem foldl_step_of_plain {pieces : List Text} (h : ∀ piece ∈ pieces, componentOf piece ≠ .up)
    (stack : List Text) :
    (pieces.map componentOf).foldl step stack = pieces.reverse ++ stack := by
  have hnames : pieces.map componentOf = pieces.map Component.name := by
    refine List.map_congr_left fun piece hpiece => ?_
    rw [componentOf, if_neg]
    intro hup
    exact h piece hpiece (by rw [componentOf, if_pos hup])
  rw [hnames, foldl_step_names]

theorem componentsOf_pieces_joined {pieces : List Text} (h : ∀ piece ∈ pieces, '/' ∉ piece) :
    componentsOf (Text.pieces '/' (Text.joined ['/'] pieces)) = componentsOf pieces := by
  by_cases hnil : pieces = []
  · rw [hnil]
    rfl
  · rw [Text.pieces_joined '/' pieces hnil h]

/-- The normal form of an absolute path without `..` has the same components. -/
theorem components_normalize (hp : isAbsolute p = true) (hplain : .up ∉ p.components) :
    (normalize p).components = p.components := by
  have hcomponents := components_of_isAbsolute hp
  have hkept : ∀ piece ∈ (Text.pieces '/' p).filter (fun piece => !isIdle piece),
      componentOf piece ≠ .up := by
    intro piece hpiece hup
    refine hplain ?_
    rw [hcomponents, componentsOf, ← hup]
    exact List.mem_cons_of_mem _ (List.mem_map_of_mem hpiece)
  have hnames : p.normalNames = (Text.pieces '/' p).filter fun piece => !isIdle piece := by
    rw [normalNames, hcomponents, List.foldl_cons, step, componentsOf, foldl_step_of_plain hkept,
      List.append_nil, List.reverse_reverse]
  have hslash : ∀ piece ∈ (Text.pieces '/' p).filter (fun piece => !isIdle piece), '/' ∉ piece :=
    fun piece hpiece =>
      Text.not_mem_of_mem_pieces '/' p piece (List.mem_filter.mp hpiece).1
  have habsolute : isAbsolute (normalize p) = true := by
    rw [normalize, if_pos hp]
    rfl
  rw [components_of_isAbsolute habsolute, hcomponents, normalize, if_pos hp, hnames,
    ← componentsOf_filter (Text.pieces '/' p), ← componentsOf_pieces_joined hslash]
  rfl

/-- Behind a directory come the pieces of a relative path. -/
theorem pieces_join_of_relative (hbase : base ≠ []) (he : isAbsolute e = false) :
    Text.pieces '/' (join base e) = stem base ++ Text.pieces '/' e := by
  by_cases hlast : base.getLast? = some '/'
  · obtain ⟨front, rfl⟩ := List.getLast?_eq_some_iff.mp hlast
    rw [join, if_neg (by rw [he]; exact Bool.false_ne_true), if_pos (by simp), List.append_assoc,
      stem_of_slash]
    exact Text.pieces_append '/' front e
  · rw [join, if_neg (by rw [he]; exact Bool.false_ne_true), if_neg (by simp [hbase, hlast]),
      Text.pieces_append, stem_of_no_slash hlast]

theorem isAbsolute_join_of_isAbsolute (hbase : isAbsolute base = true) (e : Path) :
    isAbsolute (join base e) = true := by
  rw [join]
  split
  · assumption
  · obtain ⟨rest, rfl⟩ := List.head?_eq_some_iff.mp (of_decide_eq_true hbase)
    split <;> rfl

/-- A relative path is resolved by putting its pieces behind the directory, if there is no `..`. -/
theorem components_absolutize (hbase : isAbsolute base = true) (hplain : .up ∉ base.components)
    (he : isAbsolute e = false) (hup : .up ∉ componentsOf (Text.pieces '/' e)) :
    (absolutize base e).components = base.components ++ componentsOf (Text.pieces '/' e) := by
  have hjoin : (join base e).components = base.components ++ componentsOf (Text.pieces '/' e) := by
    rw [components_of_isAbsolute (isAbsolute_join_of_isAbsolute hbase e),
      components_of_isAbsolute hbase,
      pieces_join_of_relative (ne_nil_of_isAbsolute hbase) he, componentsOf_append,
      componentsOf_stem, List.cons_append]
  rw [absolutize, components_normalize (isAbsolute_join_of_isAbsolute hbase e), hjoin]
  rw [hjoin, List.mem_append]
  exact not_or.mpr ⟨hplain, hup⟩

/-- Whether a path lies under one that is given relative to a directory above both. -/
theorem isUnder_absolutize_descend (hbase : isAbsolute base = true)
    (hplain : .up ∉ base.components) (he : isAbsolute e = false)
    (hup : .up ∉ componentsOf (Text.pieces '/' e))
    (hnames : ∀ name ∈ names, isName name = true) :
    (absolutize base e).isUnder (descend base names) =
      (componentsOf (Text.pieces '/' e)).isPrefixOf (names.map Component.name) := by
  rw [isUnder, components_absolutize hbase hplain he hup, components_descend hbase hnames,
    Bool.eq_iff_iff, List.isPrefixOf_iff_prefix, List.isPrefixOf_iff_prefix,
    List.prefix_append_right_inj]

end

/-- A name is behind a slash, so an ending without one is an ending of the name. -/
theorem isSuffix_join_iff (hp : p ≠ []) (hname : isName name = true) (hending : '/' ∉ ending) :
    ending <:+ join p name ↔ ending <:+ name := by
  have hbehind : ∀ front : Text, ending <:+ front ++ '/' :: name ↔ ending <:+ name := by
    intro front
    constructor
    · intro h
      rcases List.suffix_or_suffix_of_suffix h (List.suffix_append front ('/' :: name)) with
        hshort | hlong
      · rcases List.suffix_cons_iff.mp hshort with heq | hsuffix
        · exact absurd (heq ▸ List.mem_cons_self) hending
        · exact hsuffix
      · exact absurd (hlong.subset List.mem_cons_self) hending
    · intro h
      exact (h.trans (List.suffix_cons '/' name)).trans (List.suffix_append front _)
  rcases join_eq hp hname with ⟨front, _, hjoin⟩ | ⟨_, hjoin⟩
  · rw [hjoin, hbehind]
  · rw [hjoin, hbehind]

theorem isSuffix_descend_concat_iff (hp : isAbsolute p = true)
    (hnames : ∀ n ∈ names ++ [name], isName n = true) (hending : '/' ∉ ending) :
    ending <:+ descend p (names ++ [name]) ↔ ending <:+ name := by
  rw [List.forall_mem_append, List.forall_mem_singleton] at hnames
  have habove : isAbsolute (descend p names) = true := isAbsolute_descend hp hnames.1
  rw [descend, List.foldl_concat]
  exact isSuffix_join_iff (ne_nil_of_isAbsolute habove) hnames.2 hending

end BuildManifest.Path
