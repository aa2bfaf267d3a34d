import BuildManifest.Proofs.Expansion.Denotation

/-!
Expansion reaches what a text denotes. If no variable leads back to itself, the
chains of references are bounded, and a limit above the longest chain of the
template is enough passes. The order in which the variables were defined does
not matter, and no token is drawn.
-/

namespace BuildManifest.Expansion

variable {m : Meanings}

theorem exists_uniform_bound (es : List (Text × Text)) (h : ∀ e ∈ es, ∃ n, Within m n e.2) :
    ∃ n, ∀ e ∈ es, Within m n e.2 := by
  induction es with
  | nil => exact ⟨0, by simp⟩
  | cons e es ih =>
      obtain ⟨n, hn⟩ := h e List.mem_cons_self
      obtain ⟨n', hn'⟩ := ih fun e he => h e (List.mem_cons_of_mem _ he)
      refine ⟨max n n', ?_⟩
      intro e' he'
      rcases List.mem_cons.mp he' with rfl | hlater
      · exact hn.mono (Nat.le_max_left n n')
      · exact (hn' e' hlater).mono (Nat.le_max_right n n')

/-- The names that a text mentions bound its chains. -/
theorem within_of_mentioned {n : Nat} {t : Text}
    (h : ∀ k value, (k, value) ∈ m → Mentions t k → Within m n value) : Within m (n + 1) t := by
  intro j hj
  cases hj with
  | stop => exact Nat.zero_le _
  | follow hk ht hvalue => exact Nat.succ_le_succ (h _ _ hk ht _ hvalue)

theorem wellFounded_of_acyclic (hacyclic : Acyclic m) :
    WellFounded fun k l : { k // k ∈ m.names } => Relation.TransGen (Refers m) l.1 k.1 := by
  have : IsTrans { k // k ∈ m.names } fun k l => Relation.TransGen (Refers m) l.1 k.1 :=
    ⟨fun _ _ _ hkl hlj => hlj.trans hkl⟩
  have : Std.Irrefl fun k l : { k // k ∈ m.names } => Relation.TransGen (Refers m) l.1 k.1 :=
    ⟨fun k => hacyclic k.1⟩
  exact Finite.wellFounded_of_trans_of_irrefl _

/-- Among finitely many names that never lead back to themselves all chains are bounded. -/
theorem exists_within (hacyclic : Acyclic m) (t : Text) : ∃ n, Within m n t := by
  have hmeaning : ∀ k : { k // k ∈ m.names }, ∀ value, (k.1, value) ∈ m →
      ∃ n, Within m n value := by
    intro k
    induction k using (wellFounded_of_acyclic hacyclic).induction with
    | _ k ih =>
        intro value hk
        have hmentioned : ∀ e ∈ m.filter fun e => Mentions value e.1, ∃ n, Within m n e.2 := by
          intro e he
          obtain ⟨hmem, hmention⟩ := List.mem_filter.mp he
          have hname : e.1 ∈ m.names := mem_names hmem
          exact ih ⟨e.1, hname⟩
            (.single ⟨value, hk, hname, of_decide_eq_true hmention⟩) e.2 hmem
        obtain ⟨n, hn⟩ := exists_uniform_bound _ hmentioned
        refine ⟨n + 1, within_of_mentioned ?_⟩
        intro l value' hl hmention
        exact hn (l, value') (List.mem_filter.mpr ⟨hl, decide_eq_true hmention⟩)
  obtain ⟨n, hn⟩ := exists_uniform_bound m fun e he => hmeaning ⟨e.1, mem_names he⟩ e.2 he
  exact ⟨n + 1, within_of_mentioned fun k value hk _ => hn (k, value) hk⟩

/-- Names that only refer to names of a lower rank never lead back to themselves. -/
theorem acyclic_of_rank (rank : Text → Nat)
    (h : ∀ e ∈ m, ∀ l ∈ m.names, Mentions e.2 l → rank l < rank e.1) : Acyclic m := by
  have hlower : ∀ k l, Relation.TransGen (Refers m) k l → rank l < rank k := by
    intro k l hkl
    induction hkl with
    | single href =>
        obtain ⟨value, hk, hl, hmention⟩ := href
        exact h _ hk _ hl hmention
    | tail _ href ih =>
        obtain ⟨value, hk, hl, hmention⟩ := href
        exact Nat.lt_trans (h _ hk _ hl hmention) ih
  intro k hk
  exact Nat.lt_irrefl _ (hlower k k hk)

/-- Some chain of references from the text is a longest one. -/
theorem exists_longest_chain (hacyclic : Acyclic m) (t : Text) :
    ∃ d, IsGreatest {n | Chain m t n} d := by
  obtain ⟨n, hn⟩ := exists_within hacyclic t
  have hne : {n | Chain m t n}.Nonempty := ⟨0, .stop t⟩
  have hbound : BddAbove {n | Chain m t n} := ⟨n, hn⟩
  exact ⟨_, Nat.sSup_mem hne hbound, fun j hj => le_csSup hbound hj⟩

theorem place_perm (e : Text × Text) (es : List (Text × Text)) : (place e es).Perm (e :: es) := by
  induction es with
  | nil => exact .refl _
  | cons f es ih =>
      simp only [place]
      split
      · exact .refl _
      · exact (ih.cons f).trans (.swap e f es)

theorem ranked_perm (es : List (Text × Text)) : (ranked es).Perm es := by
  induction es with
  | nil => exact .refl _
  | cons e es ih => exact (place_perm e (ranked es)).trans (ih.cons e)

/-- The meanings that count in a pass which draws no token: those of the variables, and the
text that `$root` stands for. -/
def known (v : Variables) (root : Text) : Meanings := v.entries ++ [(rootName, root)]

theorem names_known (v : Variables) (root : Text) :
    (known v root).names = v.keys ++ [rootName] := by
  simp [known, Meanings.names, Table.keys]

/-- What has to hold of a store, the text of `$root` and a template for every reference to be
one that the expansion can make out. Nothing is a name together with the front of it; so no
name is empty, and no variable is called `root` or `builtins.random`. -/
structure References (v : Variables) (root template : Text) : Prop where
  plain : ∀ k ∈ v.keys, '$' ∉ k
  incomparable : (rootName :: randomName :: v.keys).Pairwise Incomparable
  root_plain : '$' ∉ root
  values : ∀ e ∈ v.entries, AllReferences (known v root).names e.2
  template : AllReferences (known v root).names template

namespace References

variable {v : Variables} {root template : Text}

theorem root_incomparable (h : References v root template) :
    ∀ k ∈ randomName :: v.keys, Incomparable rootName k :=
  (List.pairwise_cons.mp h.incomparable).1

theorem random_incomparable (h : References v root template) :
    ∀ k ∈ v.keys, Incomparable randomName k :=
  (List.pairwise_cons.mp (List.pairwise_cons.mp h.incomparable).2).1

theorem keys_incomparable (h : References v root template) : v.keys.Pairwise Incomparable :=
  (List.pairwise_cons.mp (List.pairwise_cons.mp h.incomparable).2).2

theorem wellFormed (h : References v root template) : (known v root).WellFormed := by
  refine ⟨?_, ?_, ?_⟩
  · intro k hk
    rw [names_known, List.mem_append, List.mem_singleton] at hk
    rcases hk with hkey | rfl
    · exact h.plain k hkey
    · decide
  · rw [names_known, List.pairwise_append]
    refine ⟨h.keys_incomparable, List.pairwise_singleton _ _, ?_⟩
    intro k hk l hl
    rw [List.mem_singleton.mp hl]
    exact symm (h.root_incomparable k (List.mem_cons_of_mem _ hk))
  · intro e he
    rcases List.mem_append.mp he with hentry | hroot
    · exact h.values e hentry
    · rw [List.mem_singleton.mp hroot]
      exact allReferences_of_plain h.root_plain

theorem random_incomparable_names (h : References v root template) :
    ∀ k ∈ (known v root).names, Incomparable randomName k := by
  intro k hk
  rw [names_known, List.mem_append, List.mem_singleton] at hk
  rcases hk with hkey | rfl
  · exact h.random_incomparable k hkey
  · exact symm (h.root_incomparable randomName List.mem_cons_self)

/-- No variable is left out of a pass, in whatever order they were defined. -/
theorem meanings_perm (h : References v root template) {v' : Variables}
    (hv : v'.entries.Perm v.entries) : (meanings v' root none).Perm (known v root) := by
  have hall : ∀ e ∈ v'.entries, e.1 ≠ [] ∧ e.1 ≠ rootName ∧ e.1 ≠ randomName := by
    intro e he
    have hkey : e.1 ∈ v.keys := List.mem_map_of_mem (hv.subset he)
    have hroot : Incomparable rootName e.1 :=
      h.root_incomparable e.1 (List.mem_cons_of_mem _ hkey)
    have hrandom : Incomparable randomName e.1 := h.random_incomparable e.1 hkey
    refine ⟨fun heq => ?_, fun heq => ?_, fun heq => ?_⟩
    · exact hroot.2 (heq ▸ List.nil_prefix)
    · exact hroot.1 (heq ▸ List.prefix_rfl)
    · exact hrandom.1 (heq ▸ List.prefix_rfl)
  have hfilter : v'.entries.filter (fun e => e.1 ≠ [] ∧ e.1 ≠ rootName ∧ e.1 ≠ randomName) =
      v'.entries := List.filter_eq_self.mpr fun e he => decide_eq_true (hall e he)
  rw [meanings, hfilter]
  exact hv.append_right [(rootName, root)]

end References

theorem settle_of_unchanged {v : Variables} {root t : Text} {s s' : TokenSupply} (limit : Nat)
    (h : drawingPass v root s t = (t, s')) : settle v root (limit + 1) s t = (some t, s') := by
  simp only [settle, h, if_true]

theorem settle_of_changed {v : Variables} {root t t' : Text} {s s' : TokenSupply} (limit : Nat)
    (h : drawingPass v root s t = (t', s')) (hne : t' ≠ t) :
    settle v root (limit + 1) s t = settle v root limit s' t' := by
  simp only [settle, h, if_neg hne]

/-- The names that count in a pass over this text, in the order of the table. -/
def namesOver (v : Variables) (t : Text) : List Text :=
  Meanings.names (meanings v [] (if draws t then some [] else none))

theorem exists_drawingPass (v : Variables) (root : Text) (s : TokenSupply) (t : Text) :
    ∃ random s', drawingPass v root s t = (pass v root random t, s') ∧
      Meanings.names (meanings v root random) = namesOver v t := by
  by_cases hdraws : draws t
  · exact ⟨some s.next.1.val, s.next.2, by rw [drawingPass, if_pos hdraws],
      by simp [namesOver, hdraws, meanings, Meanings.names]⟩
  · exact ⟨none, s, by rw [drawingPass, if_neg hdraws],
      by simp [namesOver, hdraws, meanings, Meanings.names]⟩

theorem mem_namesOver {v : Variables} {t k : Text} (h : k ∈ namesOver v t) :
    (k ∈ v.keys ∧ k ≠ []) ∨ k = rootName ∨ k = randomName := by
  obtain ⟨e, he, rfl⟩ := List.mem_map.mp h
  rcases List.mem_append.mp he with hentry | hdynamic
  · obtain ⟨hmem, hne⟩ := List.mem_filter.mp hentry
    exact .inl ⟨List.mem_map_of_mem hmem, (of_decide_eq_true hne).1⟩
  · rcases List.mem_cons.mp hdynamic with rfl | hrandom
    · exact .inr (.inl rfl)
    · split at hrandom
      · obtain rfl := List.mem_singleton.mp hrandom
        exact .inr (.inr rfl)
      · cases hrandom

/-- A text that mentions no name that counts is settled. -/
theorem drawingPass_of_unmentioned {v : Variables} {t : Text}
    (h : ∀ k ∈ namesOver v t, ¬ Mentions t k) (root : Text) (s : TokenSupply) :
    drawingPass v root s t = (t, s) := by
  by_cases hdraws : draws t
  · have hrandom : randomName ∈ namesOver v t := by
      simp [namesOver, hdraws, meanings, Meanings.names]
    rw [draws, Text.has_iff] at hdraws
    exact absurd hdraws (h randomName hrandom)
  · have hnames : Meanings.names (meanings v root none) = namesOver v t := by
      simp [namesOver, hdraws, meanings, Meanings.names]
    rw [drawingPass, if_neg hdraws]
    refine congrArg (·, s) (foldl_replaceName_of_unmentioned fun e he => h e.1 ?_)
    rw [← hnames]
    exact List.mem_map_of_mem ((ranked_perm _).subset he)

/-- In particular a text without a `$` is. -/
theorem drawingPass_of_plain {v : Variables} {root t : Text} (ht : '$' ∉ t) (s : TokenSupply) :
    drawingPass v root s t = (t, s) :=
  drawingPass_of_unmentioned (fun _ _ hin => ht (hin.subset List.mem_cons_self)) root s

/-- A text settles on what it denotes after one pass more than its longest chain is long. -/
theorem settle_eq_some (hm : m.WellFormed) {v : Variables} {root : Text}
    (hv : (meanings v root none).Perm m) (hrandom : ∀ k ∈ m.names, Incomparable randomName k)
    (s : TokenSupply) {n limit : Nat} {t r : Text} (ht : AllReferences m.names t)
    (hn : Within m n t) (hr : Denotes m t r) (hlimit : n < limit) :
    settle v root limit s t = (some r, s) := by
  have hpass : ∀ u, AllReferences m.names u →
      drawingPass v root s u = ((ranked (meanings v root none)).foldl replaceName u, s) := by
    intro u hu
    have hdraws : ¬ draws u := by
      rw [draws, Text.has_iff]
      exact not_mentions_of_incomparable hrandom hu
    rw [drawingPass, if_neg hdraws]
    rfl
  have hperm : (ranked (meanings v root none)).Perm m := (ranked_perm _).trans hv
  induction n generalizing limit t with
  | zero =>
      obtain ⟨limit, rfl⟩ : ∃ l, limit = l + 1 := ⟨limit - 1, by omega⟩
      have hplain : '$' ∉ t := plain_of_within_zero hm ht hn
      have hresult : t = r := denotes_unique hm (denotes_plain m t hplain) hr
      have hunchanged := hpass t ht
      rw [foldl_replaceName_of_plain _ hplain] at hunchanged
      rw [settle_of_unchanged limit hunchanged, hresult]
  | succ n ih =>
      obtain ⟨limit, rfl⟩ : ∃ l, limit = l + 1 := ⟨limit - 1, by omega⟩
      obtain ⟨ht', hn', hr'⟩ := pass_within hm hperm ht hn hr
      by_cases hsettled : (ranked (meanings v root none)).foldl replaceName t = t
      · -- a pass that changes nothing shows that the chains were shorter than assumed
        rw [hsettled] at hn'
        exact ih ht hn' hr (by omega)
      · rw [settle_of_changed limit (hpass t ht) hsettled]
        exact ih ht' hn' hr' (by omega)

/-- If every `$` begins a reference to a variable or to `root` and no variable leads back to
itself, then the template denotes exactly one text, and expansion gives this text whenever
the limit on the passes is above the length of the longest chain of references. The order in
which the variables were defined has no influence, and no token is drawn. -/
theorem expand_eq_denotation (v : Variables) (root template : Text)
    (h : References v root template) (hacyclic : Acyclic (known v root)) :
    ∃ d r, IsGreatest {n | Chain (known v root) template n} d ∧
      (∀ r', Denotes (known v root) template r' ↔ r' = r) ∧
      ∀ limit, d < limit → ∀ v' : Variables, v'.entries.Perm v.entries → ∀ s,
        expand (Scope.ofLimit root limit) v' s template = (.ok r, s) := by
  have hm := h.wellFormed
  obtain ⟨d, hd⟩ := exists_longest_chain hacyclic template
  have hwithin : Within (known v root) d template := fun j hj => hd.2 hj
  obtain ⟨r, hr⟩ := exists_denotes hm h.template hwithin
  refine ⟨d, r, hd, ?_, ?_⟩
  · intro r'
    constructor
    · exact fun hr' => denotes_unique hm hr' hr
    · rintro rfl
      exact hr
  · intro limit hlimit v' hv s
    have hpasses : d < max limit 1 := by omega
    have hsettle := settle_eq_some hm (h.meanings_perm hv) h.random_incomparable_names s
      h.template hwithin hr hpasses
    simp only [expand, Scope.ofLimit, hsettle]

/-- A store in which a reference comes out of a reference that comes out of another. -/
def nestedStore : Variables := ⟨[("tool", "$cc -I$root"), ("cc", "gcc $opt"), ("opt", "-O2")]⟩

theorem expand_nested_references :
    References nestedStore "/m" "$tool $opt" ∧ Acyclic (known nestedStore "/m") ∧
    ∃ d r, IsGreatest {n | Chain (known nestedStore "/m") "$tool $opt" n} d ∧
      (∀ r', Denotes (known nestedStore "/m") "$tool $opt" r' ↔ r' = r) ∧
      ∀ limit, d < limit → ∀ v' : Variables, v'.entries.Perm nestedStore.entries → ∀ s,
        expand (Scope.ofLimit "/m" limit) v' s "$tool $opt" = (.ok r, s) := by
  have h : References nestedStore "/m" "$tool $opt" :=
    ⟨by decide +kernel, by decide +kernel, by decide, by decide +kernel, by decide +kernel⟩
  have hacyclic : Acyclic (known nestedStore "/m") := by
    apply acyclic_of_rank fun k =>
      (List.map String.toList ["root", "opt", "cc", "tool"]).idxOf k
    decide +kernel
  exact ⟨h, hacyclic, expand_eq_denotation nestedStore "/m" "$tool $opt" h hacyclic⟩

end BuildManifest.Expansion
