import BuildManifest.Path
import BuildManifest.Proofs.Text.Pieces

/-!
Going down from a path by names. `join` puts one name behind a path, with one
slash between them whether or not the path ends in one, and `descend` does so
for several names. The names can be read off the pieces of the path they lead
to, so different names lead to different paths.
-/

namespace BuildManifest.Path

/-- Something an entry of a directory can be called. -/
def isName (t : Text) : Bool :=
  t ≠ [] && t ≠ ['.'] && t ≠ ['.', '.'] && !t.contains '/' && !t.contains '\x00'

/-- A piece between slashes that goes down by a name. -/
def IsStep (piece : Text) : Prop := piece ≠ [] ∧ piece ≠ ['.'] ∧ piece ≠ ['.', '.']

/-- The path that names lead to, one below the other. -/
def descend (p : Path) (names : List Text) : Path := names.foldl join p

theorem descend_cons (p : Path) (name : Text) (names : List Text) :
    descend p (name :: names) = descend (join p name) names := rfl

section

variable {name : Text}

theorem isName_iff : isName name = true ↔
    name ≠ [] ∧ name ≠ ['.'] ∧ name ≠ ['.', '.'] ∧ '/' ∉ name ∧ '\x00' ∉ name := by
  simp [isName, and_assoc]

theorem isAbsolute_of_isName (h : isName name = true) : isAbsolute name = false := by
  obtain ⟨_, _, _, hslash, _⟩ := isName_iff.mp h
  rw [isAbsolute, decide_eq_false_iff_not]
  intro hhead
  exact hslash (List.mem_of_mem_head? hhead)

theorem isStep_of_isName (h : isName name = true) : IsStep name := by
  obtain ⟨hne, hdot, hup, _⟩ := isName_iff.mp h
  exact ⟨hne, hdot, hup⟩

theorem isIdle_of_isStep (h : IsStep name) : isIdle name = false := by
  obtain ⟨hne, hdot, -⟩ := h
  simp [isIdle, hne, hdot]

theorem isIdle_of_isName (h : isName name = true) : isIdle name = false :=
  isIdle_of_isStep (isStep_of_isName h)

end

/-- The pieces of a path that ends in no slash, or in front of the slash it ends in. -/
def stem (p : Path) : List Text :=
  if p.getLast? = some '/' then Text.pieces '/' p.dropLast else Text.pieces '/' p

theorem stem_of_slash (front : Path) : stem (front ++ ['/']) = Text.pieces '/' front := by
  simp [stem]

theorem stem_of_no_slash {p : Path} (h : ¬ p.getLast? = some '/') :
    stem p = Text.pieces '/' p := by
  rw [stem, if_neg h]

/-- The path is its stem, with or without an empty piece for a slash at the end. -/
theorem pieces_eq_stem (p : Path) :
    Text.pieces '/' p = stem p ∨ Text.pieces '/' p = stem p ++ [[]] := by
  by_cases hlast : p.getLast? = some '/'
  · obtain ⟨front, rfl⟩ := List.getLast?_eq_some_iff.mp hlast
    right
    rw [stem_of_slash, Text.pieces_append]
    rfl
  · exact Or.inl (stem_of_no_slash hlast).symm

section

variable {p : Path} {name : Text}

/-- What is put between a path and a name. -/
theorem join_eq (hp : p ≠ []) (hname : isName name = true) :
    (∃ front, p = front ++ ['/'] ∧ join p name = front ++ '/' :: name) ∨
      (¬ p.getLast? = some '/' ∧ join p name = p ++ '/' :: name) := by
  by_cases hlast : p.getLast? = some '/'
  · obtain ⟨front, rfl⟩ := List.getLast?_eq_some_iff.mp hlast
    left
    refine ⟨front, rfl, ?_⟩
    simp [join, isAbsolute_of_isName hname]
  · right
    refine ⟨hlast, ?_⟩
    simp [join, isAbsolute_of_isName hname, hlast, hp]

/-- A name behind a path is its last piece. -/
theorem pieces_join (hp : p ≠ []) (hname : isName name = true) :
    Text.pieces '/' (join p name) = stem p ++ [name] := by
  obtain ⟨_, _, _, hslash, _⟩ := isName_iff.mp hname
  rcases join_eq hp hname with ⟨front, rfl, hjoin⟩ | ⟨hlast, hjoin⟩
  · rw [hjoin, Text.pieces_append, Text.pieces_of_not_mem _ _ hslash, stem_of_slash]
  · rw [hjoin, Text.pieces_append, Text.pieces_of_not_mem _ _ hslash, stem_of_no_slash hlast]

theorem join_ne_nil (hp : p ≠ []) (hname : isName name = true) : join p name ≠ [] := by
  rcases join_eq hp hname with ⟨front, _, hjoin⟩ | ⟨_, hjoin⟩ <;> simp [hjoin]

/-- The last character of a name is no slash. -/
theorem getLast?_join (hp : p ≠ []) (hname : isName name = true) :
    ¬ (join p name).getLast? = some '/' := by
  obtain ⟨hne, _, _, hslash, _⟩ := isName_iff.mp hname
  have htail : ∀ front : Path, (front ++ '/' :: name).getLast? = some (name.getLast hne) := by
    intro front
    have hsplit : front ++ '/' :: name =
        (front ++ '/' :: name.dropLast) ++ [name.getLast hne] := by
      rw [List.append_assoc, List.cons_append, List.dropLast_concat_getLast hne]
    rw [hsplit, List.getLast?_concat]
  have hlast : ¬ some (name.getLast hne) = some '/' := fun heq =>
    hslash (Option.some.inj heq ▸ List.getLast_mem hne)
  rcases join_eq hp hname with ⟨front, _, hjoin⟩ | ⟨_, hjoin⟩
  · rw [hjoin, htail]
    exact hlast
  · rw [hjoin, htail]
    exact hlast

theorem stem_join (hp : p ≠ []) (hname : isName name = true) :
    stem (join p name) = stem p ++ [name] := by
  rw [stem_of_no_slash (getLast?_join hp hname), pieces_join hp hname]

theorem isAbsolute_join (hp : p ≠ []) (hname : isName name = true) :
    isAbsolute (join p name) = isAbsolute p := by
  rcases join_eq hp hname with ⟨front, rfl, hjoin⟩ | ⟨_, hjoin⟩
  · rw [hjoin]
    cases front <;> simp [isAbsolute]
  · obtain ⟨c, rest, rfl⟩ := List.exists_cons_of_ne_nil hp
    rw [hjoin]
    simp [isAbsolute]

theorem byteLength_join (hp : p ≠ []) (hname : isName name = true) :
    Text.byteLength p < Text.byteLength (join p name) := by
  have hpos : 0 < Text.byteLength name := Text.byteLength_pos (isName_iff.mp hname).1
  rcases join_eq hp hname with ⟨front, rfl, hjoin⟩ | ⟨_, hjoin⟩
  · rw [hjoin, Text.byteLength_append, Text.byteLength_append]
    simp only [Text.byteLength]
    omega
  · rw [hjoin, Text.byteLength_append]
    simp only [Text.byteLength]
    omega

theorem byteLength_join_le (p name : Path) :
    Text.byteLength (join p name) ≤ Text.byteLength p + (Text.byteLength name + 1) := by
  have hslash : Text.byteLength ['/'] = 1 := rfl
  rw [join]
  split
  · omega
  · split
    · rw [Text.byteLength_append]
      omega
    · rw [← List.singleton_append, Text.byteLength_append, Text.byteLength_append]
      omega

theorem nul_not_mem_join (hname : isName name = true) (hp : '\x00' ∉ p) :
    '\x00' ∉ join p name := by
  obtain ⟨_, _, _, _, hnul⟩ := isName_iff.mp hname
  simp only [join]
  split
  · exact hnul
  · split <;> simp [hp, hnul]

end

theorem stem_descend {p : Path} (hp : p ≠ []) {names : List Text}
    (hnames : ∀ name ∈ names, isName name = true) : stem (descend p names) = stem p ++ names := by
  induction names generalizing p with
  | nil => simp [descend]
  | cons name names ih =>
      have hname : isName name = true := hnames name List.mem_cons_self
      rw [descend_cons, ih (join_ne_nil hp hname) fun n hn => hnames n (List.mem_cons_of_mem _ hn),
        stem_join hp hname, List.append_assoc]
      rfl

/-- Different names lead to different paths. -/
theorem descend_injective {p : Path} (hp : p ≠ []) {names names' : List Text}
    (hnames : ∀ name ∈ names, isName name = true)
    (hnames' : ∀ name ∈ names', isName name = true)
    (h : descend p names = descend p names') : names = names' := by
  have hstem := congrArg stem h
  rw [stem_descend hp hnames, stem_descend hp hnames'] at hstem
  exact List.append_cancel_left hstem

end BuildManifest.Path
