import BuildManifest.Proofs.Expansion.Settling
import BuildManifest.Proofs.Text.Pieces

/-!
Which names come first. A pass replaces the longest names first, so that a reference in the text
it begins with is not taken for a shorter one. A reference that comes out of a meaning in the
middle of a pass is safe in the same way if its name is still to be replaced. If its name has had
its turn it has to wait for the next pass, and until then every shorter name that is yet to come
and that it begins with is replaced in its stead.
-/

namespace BuildManifest

namespace Expansion

/-- Of two names the longer one is replaced first, and of two names of the same length the one
that comes first in the list. -/
def Precedes (names : List Text) (k l : Text) : Prop :=
  l.byteLength < k.byteLength ∨
    l.byteLength = k.byteLength ∧ names.idxOf k < names.idxOf l

instance (names : List Text) (k l : Text) : Decidable (Precedes names k l) :=
  inferInstanceAs (Decidable (_ ∨ _ ∧ _))

theorem Precedes.asymm {names : List Text} {k l : Text} (h : Precedes names k l) :
    ¬ Precedes names l k := by
  simp only [Precedes] at h ⊢
  omega

theorem Precedes.byteLength_le {names : List Text} {k l : Text} (h : Precedes names k l) :
    l.byteLength ≤ k.byteLength := by
  rcases h with h | h
  · exact Nat.le_of_lt h
  · exact Nat.le_of_eq h.1

theorem precedes_cons {names : List Text} {j k l : Text} (hj : j ∉ names) (hk : k ∈ names)
    (hl : l ∈ names) (h : Precedes names k l) : Precedes (j :: names) k l := by
  have hjk : j ≠ k := fun heq => hj (heq ▸ hk)
  have hjl : j ≠ l := fun heq => hj (heq ▸ hl)
  rwa [Precedes, List.idxOf_cons_ne names hjk, List.idxOf_cons_ne names hjl,
    Nat.succ_lt_succ_iff]

theorem mem_place {e f : Text × Text} {es : List (Text × Text)} :
    f ∈ place e es ↔ f = e ∨ f ∈ es := by
  rw [(place_perm e es).mem_iff, List.mem_cons]

/-- An entry gets its place behind those with longer names and in front of the others. -/
theorem pairwise_place {R : Text × Text → Text × Text → Prop} {e : Text × Text}
    {es : List (Text × Text)} (hes : es.Pairwise R)
    (hfalling : ∀ f g, R f g → g.1.byteLength ≤ f.1.byteLength)
    (hlonger : ∀ f ∈ es, e.1.byteLength < f.1.byteLength → R f e)
    (hothers : ∀ f ∈ es, f.1.byteLength ≤ e.1.byteLength → R e f) : (place e es).Pairwise R := by
  induction es with
  | nil => exact List.pairwise_singleton R e
  | cons f es ih =>
      obtain ⟨hf, hrest⟩ := List.pairwise_cons.mp hes
      rw [place]
      split
      · rename_i hle
        refine List.pairwise_cons.mpr ⟨fun g hg => hothers g hg ?_, hes⟩
        rcases List.mem_cons.mp hg with rfl | hg
        · exact hle
        · exact (hfalling f g (hf g hg)).trans hle
      · rename_i hlt
        have hplaced := ih hrest (fun g hg => hlonger g (List.mem_cons_of_mem f hg))
          (fun g hg => hothers g (List.mem_cons_of_mem f hg))
        refine List.pairwise_cons.mpr ⟨fun g hg => ?_, hplaced⟩
        rcases mem_place.mp hg with rfl | hg
        · exact hlonger f List.mem_cons_self (Nat.lt_of_not_le hlt)
        · exact hf g hg

/-- A pass replaces the names in the order in which they precede each other. -/
theorem pairwise_ranked {m : Meanings} (h : m.names.Nodup) :
    (ranked m).Pairwise fun e f => Precedes m.names e.1 f.1 := by
  induction m with
  | nil => exact List.Pairwise.nil
  | cons e rest ih =>
      obtain ⟨he, hrest⟩ := List.nodup_cons.mp h
      have hname {f : Text × Text} (hf : f ∈ ranked rest) : f.1 ∈ Meanings.names rest :=
        List.mem_map_of_mem ((ranked_perm rest).subset hf)
      refine pairwise_place ((ih hrest).imp_of_mem fun hf hg hfg => ?_)
        (fun _ _ => Precedes.byteLength_le) (fun f _ hlt => .inl hlt) (fun f hf hle => ?_)
      · exact precedes_cons he (hname hf) (hname hg) hfg
      · rcases Nat.lt_or_eq_of_le hle with hlt | heq
        · exact .inl hlt
        · have hne : e.1 ≠ f.1 := fun h => he (h ▸ hname hf)
          refine .inr ⟨heq, ?_⟩
          rw [Meanings.names, List.map_cons, List.idxOf_cons_self, List.idxOf_cons_ne _ hne]
          exact Nat.zero_lt_succ _

/-- The one reference a text consists of gives way to the meaning of its name. -/
theorem replaceName_self (k value : Text) : replaceName ('$' :: k) (k, value) = value := by
  have hnil : Text.replace [] ('$' :: k) value = [] := rfl
  have h := Text.replace_append ('$' :: k) value [] (List.cons_ne_nil _ _)
  rwa [List.append_nil, hnil, List.append_nil] at h

theorem foldl_replaceName_of_not_front {es : List (Text × Text)} {k : Text} (hk : '$' ∉ k)
    (h : ∀ e ∈ es, ¬ e.1 <+: k) : es.foldl replaceName ('$' :: k) = '$' :: k := by
  refine foldl_replaceName_of_unmentioned fun e he hin => ?_
  rcases List.infix_cons_iff.mp hin with hfront | hlater
  · exact h e he (List.cons_prefix_cons.mp hfront).2
  · exact hk (hlater.subset List.mem_cons_self)

/-- Names that come before that of a reference leave it alone. What it gives way to is left to
the names that come after. -/
theorem exists_foldl_replaceName {names : List Text} {es : List (Text × Text)} {k value : Text}
    (hordered : es.Pairwise fun e f => Precedes names e.1 f.1) (hentry : (k, value) ∈ es)
    (hk : '$' ∉ k) :
    ∃ before after, es = before ++ (k, value) :: after ∧
      es.foldl replaceName ('$' :: k) = after.foldl replaceName value := by
  obtain ⟨before, after, rfl⟩ := List.append_of_mem hentry
  refine ⟨before, after, rfl, ?_⟩
  have hbefore : ∀ e ∈ before, ¬ e.1 <+: k := by
    intro e he hfront
    have hprecedes : Precedes names e.1 k :=
      (List.pairwise_append.mp hordered).2.2 e he (k, value) List.mem_cons_self
    obtain rfl := Text.eq_of_prefix_of_byteLength hfront hprecedes.byteLength_le
    exact hprecedes.asymm hprecedes
  rw [List.foldl_append, foldl_replaceName_of_not_front hk hbefore, List.foldl_cons,
    replaceName_self]

/-- A name that can be referred to and that stands for the same thing in every pass. -/
structure IsFixedName (k : Text) : Prop where
  nonempty : k ≠ []
  plain : '$' ∉ k
  fixed : k ≠ randomName

instance (k : Text) : Decidable (IsFixedName k) :=
  decidable_of_iff (k ≠ [] ∧ '$' ∉ k ∧ k ≠ randomName)
    ⟨fun ⟨h₁, h₂, h₃⟩ => ⟨h₁, h₂, h₃⟩, fun ⟨h₁, h₂, h₃⟩ => ⟨h₁, h₂, h₃⟩⟩

def meaning? (v : Variables) (root k : Text) : Option Text :=
  if k = rootName then some root else v.get? k

section

variable {v : Variables} {root k value : Text}

theorem mem_meanings (hk : IsFixedName k) (h : meaning? v root k = some value)
    (random : Option Text) : (k, value) ∈ meanings v root random := by
  rw [meaning?] at h
  split at h
  · rename_i hroot
    cases h
    subst hroot
    simp [meanings]
  · rename_i hroot
    obtain ⟨e, hfound, rfl⟩ := Option.map_eq_some_iff.mp h
    obtain rfl : e.1 = k := by simpa using List.find?_some hfound
    refine List.mem_append_left _ (List.mem_filter.mpr ⟨List.mem_of_find?_eq_some hfound, ?_⟩)
    exact decide_eq_true ⟨hk.nonempty, hroot, hk.fixed⟩

theorem nodup_names_meanings (h : v.keys.Nodup) (root : Text) (random : Option Text) :
    (Meanings.names (meanings v root random)).Nodup := by
  have hfilter : ((v.entries.filter fun e =>
      e.1 ≠ [] ∧ e.1 ≠ rootName ∧ e.1 ≠ randomName).map Prod.fst).Sublist v.keys :=
    List.filter_sublist.map Prod.fst
  rw [meanings, Meanings.names, List.map_append, List.nodup_append]
  refine ⟨List.Nodup.sublist hfilter h, ?_, ?_⟩
  · have hne : rootName ≠ randomName := by decide
    cases random <;> simp [hne]
  · intro k hk l hl heq
    obtain ⟨e, he, rfl⟩ := List.mem_map.mp hk
    obtain ⟨-, hne⟩ := List.mem_filter.mp he
    obtain ⟨-, hroot, hrandom⟩ := of_decide_eq_true hne
    rw [← heq] at hl
    cases random <;> simp [hroot, hrandom] at hl

/-- A pass over the reference to a name puts its meaning in the place and then goes on with the
names that the name precedes, in their order. -/
theorem exists_drawingPass_reference (hkeys : v.keys.Nodup) (hk : IsFixedName k)
    (hvalue : meaning? v root k = some value) (s : TokenSupply) :
    ∃ (after : Meanings) (s' : TokenSupply),
      drawingPass v root s ('$' :: k) = (after.foldl replaceName value, s') ∧
      after.Pairwise (fun e f => Precedes (namesOver v ('$' :: k)) e.1 f.1) ∧
      (∀ e ∈ after, e.1 ∈ namesOver v ('$' :: k) ∧ Precedes (namesOver v ('$' :: k)) k e.1) ∧
      ∀ l u, IsFixedName l → meaning? v root l = some u →
        Precedes (namesOver v ('$' :: k)) k l → (l, u) ∈ after := by
  obtain ⟨random, s', hpass, hnames⟩ := exists_drawingPass v root s ('$' :: k)
  have hordered := pairwise_ranked (nodup_names_meanings hkeys root random)
  rw [hnames] at hordered
  have hranked {e : Text × Text} : e ∈ ranked (meanings v root random) ↔
      e ∈ meanings v root random := (ranked_perm _).mem_iff
  obtain ⟨before, after, hsplit, hfold⟩ := exists_foldl_replaceName hordered
    (hranked.mpr (mem_meanings hk hvalue random)) hk.plain
  rw [hsplit] at hordered
  obtain ⟨-, hafter, hbefore⟩ := List.pairwise_append.mp hordered
  obtain ⟨hfirst, hafter⟩ := List.pairwise_cons.mp hafter
  refine ⟨after, s', hpass.trans (congrArg (·, s') hfold), hafter, fun e he => ⟨?_, hfirst e he⟩,
    fun l u hl hu hprecedes => ?_⟩
  · have hmem : e ∈ before ++ (k, value) :: after :=
      List.mem_append_right _ (List.mem_cons_of_mem _ he)
    rw [← hsplit, hranked] at hmem
    rw [← hnames]
    exact List.mem_map_of_mem hmem
  · have hentry := hranked.mpr (mem_meanings hl hu random)
    rw [hsplit, List.mem_append, List.mem_cons] at hentry
    rcases hentry with hentry | hentry | hentry
    · exact absurd (hbefore _ hentry _ List.mem_cons_self) hprecedes.asymm
    · cases hentry
      exact absurd hprecedes hprecedes.asymm
    · exact hentry

/-- A reference that comes out of another one is resolved to its meaning. Let one name stand for
the reference to another, and the other one for a text without a `$`. Within any limit of at least
three passes the reference to the first expands to this text, whatever other variables there are,
if the second name is still to be replaced when the reference to it comes out, or if no name that
it begins with is. -/
theorem expand_reference_of_reference {l u : Text} (hkeys : v.keys.Nodup) (hk : IsFixedName k)
    (hl : IsFixedName l) (hvalue : meaning? v root k = some ('$' :: l))
    (hmeaning : meaning? v root l = some u) (hu : '$' ∉ u)
    (hclear : Precedes (namesOver v ('$' :: k)) k l ∨
      ∀ j ∈ namesOver v ('$' :: k), j <+: l → ¬ Precedes (namesOver v ('$' :: k)) k j)
    {limit : Nat} (hlimit : 3 ≤ limit) (s : TokenSupply) :
    ∃ s', expand (Scope.ofLimit root limit) v s ('$' :: k) = (.ok u, s') := by
  obtain ⟨n, hpasses⟩ : ∃ n, (Scope.ofLimit root limit).passes = n + 3 :=
    ⟨limit - 3, by simp only [Scope.ofLimit]; omega⟩
  -- what is left without a reference is settled by the next pass
  have hsettled (n : Nat) (s : TokenSupply) : settle v root (n + 1) s u = (some u, s) :=
    settle_of_unchanged n (drawingPass_of_plain hu s)
  have hne (t : Text) : u ≠ '$' :: t := fun h => hu (h ▸ List.mem_cons_self)
  suffices hsettle : ∃ s', settle v root (n + 3) s ('$' :: k) = (some u, s') by
    obtain ⟨s', hsettle⟩ := hsettle
    refine ⟨s', ?_⟩
    rw [expand, hpasses, show (Scope.ofLimit root limit).root = root from rfl, hsettle]
  obtain ⟨after, s₁, hpass, hordered, hafter, hlater⟩ :=
    exists_drawingPass_reference hkeys hk hvalue s
  by_cases hprecedes : Precedes (namesOver v ('$' :: k)) k l
  · obtain ⟨before, rest, rfl, hfold⟩ :=
      exists_foldl_replaceName hordered (hlater l u hl hmeaning hprecedes) hl.plain
    rw [hfold, foldl_replaceName_of_plain rest hu] at hpass
    exact ⟨s₁, by rw [settle_of_changed _ hpass (hne k), hsettled]⟩
  · have hfront : ∀ e ∈ after, ¬ e.1 <+: l := fun e he hfront =>
      hclear.resolve_left hprecedes e.1 (hafter e he).1 hfront (hafter e he).2
    rw [foldl_replaceName_of_not_front hl.plain hfront] at hpass
    have hkl : '$' :: l ≠ '$' :: k := by
      intro heq
      rw [(List.cons.inj heq).2, hvalue] at hmeaning
      exact hne l (Option.some.inj hmeaning).symm
    obtain ⟨after', s₂, hpass', -, -, -⟩ := exists_drawingPass_reference hkeys hl hmeaning s₁
    rw [foldl_replaceName_of_plain after' hu] at hpass'
    exact ⟨s₂, by rw [settle_of_changed _ hpass hkl, settle_of_changed _ hpass' (hne l), hsettled]⟩

end

/-- A store with a name that begins another, and two names for the longer one. -/
def homeStore : Variables :=
  ⟨[("homedir", "/hd"), ("home", "/h"), ("target", "$homedir"), ("dir", "$homedir")]⟩

/-- The name `dir` is replaced last, so that `$homedir` comes out of it when all is done. -/
theorem expand_reference_to_homedir :
    homeStore.keys.Nodup ∧ IsFixedName "dir" ∧ IsFixedName "homedir" ∧
    meaning? homeStore "/m" "dir" = some ("$homedir" : Text) ∧
    meaning? homeStore "/m" "homedir" = some ("/hd" : Text) ∧ '$' ∉ ("/hd" : Text) ∧
    (∀ j ∈ namesOver homeStore "$dir", j <+: ("homedir" : Text) →
      ¬ Precedes (namesOver homeStore "$dir") "dir" j) ∧
    ∀ limit, 3 ≤ limit → ∀ s, ∃ s',
      expand (Scope.ofLimit "/m" limit) homeStore s "$dir" = (.ok "/hd", s') := by
  have hkeys : homeStore.keys.Nodup := by decide +kernel
  have hdir : IsFixedName "dir" := by decide
  have hhomedir : IsFixedName "homedir" := by decide
  have hvalue : meaning? homeStore "/m" "dir" = some ("$homedir" : Text) := by decide +kernel
  have hmeaning : meaning? homeStore "/m" "homedir" = some ("/hd" : Text) := by decide +kernel
  have hplain : '$' ∉ ("/hd" : Text) := by decide
  have hclear : ∀ j ∈ namesOver homeStore "$dir", j <+: ("homedir" : Text) →
      ¬ Precedes (namesOver homeStore "$dir") "dir" j := by decide +kernel
  exact ⟨hkeys, hdir, hhomedir, hvalue, hmeaning, hplain, hclear, fun limit hlimit s =>
    expand_reference_of_reference hkeys hdir hhomedir hvalue hmeaning hplain (.inr hclear) hlimit s⟩

/-- The name `target` is replaced after `homedir` and before `home`, and the reference that comes
out of it is taken for `$home`. -/
theorem expand_mistakes_homedir :
    homeStore.keys.Nodup ∧ IsFixedName "target" ∧ IsFixedName "homedir" ∧
    meaning? homeStore "/m" "target" = some ("$homedir" : Text) ∧
    meaning? homeStore "/m" "homedir" = some ("/hd" : Text) ∧ '$' ∉ ("/hd" : Text) ∧
    (expand (Scope.ofLimit "/m" 64) homeStore (TokenSupply.ofSeed 0) "$target").1 =
      .ok ("/hdir" : Text) := by
  refine ⟨by decide +kernel, by decide, by decide, by decide +kernel, by decide +kernel,
    by decide, ?_⟩
  decide +kernel

end Expansion

end BuildManifest
