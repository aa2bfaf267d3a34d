import BuildManifest.Proofs.Expansion.Passes

/-!
References that never resolve. A text expands to one that the next pass leaves alone. Such a text
mentions no name any more, unless the replacements of that pass have led it back to itself: a name
that stands for its own reference is replaced by what was there before. Replacements that change
which characters there are, or how often, cannot do that.

If every `$` begins a reference and one of them leads to a name that leads back to itself, then
some reference of that kind is there after every pass.
-/

namespace BuildManifest.Expansion

variable {v : Variables} {root t u k : Text} {s s' : TokenSupply} {m : Meanings} {e : Text × Text}

/-- Replacements make one text of the other. They are of some of the names, at least one, in the
order of the list, and each of a name that the text mentions at its turn. -/
inductive Rewrites : Meanings → Text → Text → Prop
  | last {e : Text × Text} {es : Meanings} {t : Text} (ht : Mentions t e.1) :
      Rewrites (e :: es) t (replaceName t e)
  | next {e : Text × Text} {es : Meanings} {t u : Text} (ht : Mentions t e.1)
      (hrest : Rewrites es (replaceName t e) u) : Rewrites (e :: es) t u
  | skip {e : Text × Text} {es : Meanings} {t u : Text} (hrest : Rewrites es t u) :
      Rewrites (e :: es) t u

/-- Replacements in the order of a pass lead the text back to itself. -/
def LedBack (v : Variables) (root t : Text) : Prop :=
  ∃ token : Option Token, Rewrites (ranked (meanings v root (token.map Subtype.val))) t t

/-- The names that the passes replace wherever they are mentioned. -/
def IsReferable (v : Variables) (k : Text) : Prop :=
  (k ∈ v.keys ∧ k ≠ []) ∨ k = rootName ∨ k = randomName

theorem rewrites_foldl {es : Meanings} (h : ∃ e ∈ es, Mentions t e.1) :
    Rewrites es t (es.foldl replaceName t) := by
  induction es generalizing t with
  | nil =>
      obtain ⟨e, he, -⟩ := h
      cases he
  | cons e es ih =>
      by_cases he : Mentions t e.1
      · by_cases hrest : ∃ f ∈ es, Mentions (replaceName t e) f.1
        · exact .next he (ih hrest)
        · have hlast : es.foldl replaceName (replaceName t e) = replaceName t e :=
            foldl_replaceName_of_unmentioned fun f hf hmention => hrest ⟨f, hf, hmention⟩
          rw [List.foldl_cons, hlast]
          exact .last he
      · obtain ⟨f, hf, hmention⟩ := h
        have hlater : f ∈ es := by
          rcases List.mem_cons.mp hf with rfl | hf
          · exact absurd hmention he
          · exact hf
        have hsame : replaceName t e = t := Text.replace_of_not_infix he e.2
        rw [List.foldl_cons, hsame]
        exact .skip (ih ⟨f, hlater, hmention⟩)

theorem mem_names_meanings {random : Option Text} (hk : IsReferable v k)
    (hrandom : k = randomName → random.isSome) :
    k ∈ Meanings.names (meanings v root random) := by
  by_cases hdynamic : k = rootName ∨ k = randomName
  · rw [meanings, Meanings.names, List.map_append]
    refine List.mem_append_right _ ?_
    rcases hdynamic with rfl | rfl
    · exact List.mem_cons_self
    · obtain ⟨token, rfl⟩ := Option.isSome_iff_exists.mp (hrandom rfl)
      simp
  · obtain ⟨hkey, hne⟩ := hk.resolve_right hdynamic
    obtain ⟨e, he, rfl⟩ := List.mem_map.mp hkey
    rw [not_or] at hdynamic
    refine List.mem_map_of_mem (List.mem_append_left _ (List.mem_filter.mpr ⟨he, ?_⟩))
    exact decide_eq_true ⟨hne, hdynamic⟩

/-- A pass over a text that mentions a name, and that leaves the text as it is, has led it back to
itself. -/
theorem ledBack_of_unchanged (hpass : drawingPass v root s t = (t, s')) (hk : IsReferable v k)
    (hmention : Mentions t k) : LedBack v root t := by
  have hback {random : Option Text} (hrandom : k = randomName → random.isSome)
      (hpass : pass v root random t = t) : Rewrites (ranked (meanings v root random)) t t := by
    have hname : k ∈ Meanings.names (meanings v root random) := mem_names_meanings hk hrandom
    obtain ⟨e, he, rfl⟩ := List.mem_map.mp hname
    have hrewrites := rewrites_foldl ⟨e, (ranked_perm _).mem_iff.mpr he, hmention⟩
    rwa [show (ranked (meanings v root random)).foldl replaceName t = t from hpass] at hrewrites
  by_cases hdraws : draws t
  · rw [drawingPass, if_pos hdraws] at hpass
    exact ⟨some s.next.1, hback (fun _ => rfl) (Prod.mk.inj hpass).1⟩
  · rw [drawingPass, if_neg hdraws] at hpass
    refine ⟨none, hback (fun heq => absurd ?_ hdraws) (Prod.mk.inj hpass).1⟩
    rw [draws, Text.has_iff, ← heq]
    exact hmention

namespace Meanings

def references (m : Meanings) : Text := m.flatMap fun e => '$' :: e.1

def values (m : Meanings) : Text := m.flatMap Prod.snd

/-- Some of the meanings, each taken as often as one likes, have the same characters as the
references to them. -/
def Balanced (m : Meanings) : Prop :=
  ∃ es : Meanings, es ≠ [] ∧ (∀ e ∈ es, e ∈ m) ∧ es.values.Perm es.references

theorem references_cons (e : Text × Text) (m : Meanings) :
    references (e :: m) = '$' :: e.1 ++ m.references :=
  List.flatMap_cons

theorem values_cons (e : Text × Text) (m : Meanings) : values (e :: m) = e.2 ++ m.values :=
  List.flatMap_cons

theorem references_append (m n : Meanings) :
    references (m ++ n) = m.references ++ n.references :=
  List.flatMap_append

theorem values_append (m n : Meanings) : values (m ++ n) = m.values ++ n.values :=
  List.flatMap_append

end Meanings

/-- A replacement takes references away, and puts the meaning in as many times. -/
theorem exists_count_replaceName (t : Text) (e : Text × Text) :
    ∃ es : Meanings, (∀ f ∈ es, f = e) ∧ (Mentions t e.1 → es ≠ []) ∧
      ∀ c, (replaceName t e).count c + es.references.count c = t.count c + es.values.count c := by
  induction hn : t.length using Nat.strongRecOn generalizing t with
  | ind n ih =>
      by_cases hfront : ('$' :: e.1) <+: t
      · obtain ⟨rest, rfl⟩ := hfront
        have hlength : rest.length < n := by
          rw [← hn, List.length_append, List.length_cons]
          omega
        obtain ⟨es, hes, -, hcount⟩ := ih rest.length hlength rest rfl
        refine ⟨e :: es, by simpa using hes, fun _ => List.cons_ne_nil e es, fun c => ?_⟩
        have hreplaced : replaceName (('$' :: e.1) ++ rest) e = e.2 ++ replaceName rest e :=
          Text.replace_append _ _ rest (List.cons_ne_nil _ _)
        rw [hreplaced, Meanings.references_cons, Meanings.values_cons, List.count_append,
          List.count_append, List.count_append, List.count_append]
        have hrest := hcount c
        omega
      · cases t with
        | nil =>
            refine ⟨[], by simp, fun hmention => ?_, fun c => rfl⟩
            cases List.infix_nil.mp hmention
        | cons c t =>
            obtain ⟨es, hes, hne, hcount⟩ :=
              ih t.length (by rw [← hn]; exact Nat.lt_succ_self _) t rfl
            have hkept : replaceName (c :: t) e = c :: replaceName t e :=
              Text.replace_cons _ _ c t hfront
            refine ⟨es, hes, fun hmention => ?_, fun d => ?_⟩
            · exact hne ((List.infix_cons_iff.mp hmention).resolve_left hfront)
            · rw [hkept, List.count_cons, List.count_cons]
              have hrest := hcount d
              omega

theorem Rewrites.exists_count {es : Meanings} (h : Rewrites es t u) :
    ∃ fs : Meanings, fs ≠ [] ∧ (∀ f ∈ fs, f ∈ es) ∧
      ∀ c, u.count c + fs.references.count c = t.count c + fs.values.count c := by
  induction h with
  | @last e es t ht =>
      obtain ⟨fs, hfs, hne, hcount⟩ := exists_count_replaceName t e
      exact ⟨fs, hne ht, fun f hf => List.mem_cons.mpr (.inl (hfs f hf)), hcount⟩
  | @next e es t u ht hrest ih =>
      obtain ⟨fs, hfs, -, hfirst⟩ := exists_count_replaceName t e
      obtain ⟨gs, hne, hgs, hlater⟩ := ih
      refine ⟨gs ++ fs, by simp [hne], fun f hf => ?_, fun c => ?_⟩
      · rcases List.mem_append.mp hf with hf | hf
        · exact List.mem_cons_of_mem e (hgs f hf)
        · exact List.mem_cons.mpr (.inl (hfs f hf))
      · rw [Meanings.references_append, Meanings.values_append, List.count_append,
          List.count_append]
        have hfirst := hfirst c
        have hlater := hlater c
        omega
  | skip hrest ih =>
      obtain ⟨fs, hne, hfs, hcount⟩ := ih
      exact ⟨fs, hne, fun f hf => List.mem_cons_of_mem _ (hfs f hf), hcount⟩

/-- Replacements that change which characters there are, or how often, do not lead back to the
text they began with. -/
theorem not_ledBack (h : ∀ token : Option Token,
    ¬ Meanings.Balanced (meanings v root (token.map Subtype.val))) (t : Text) :
    ¬ LedBack v root t := by
  rintro ⟨token, hrewrites⟩
  obtain ⟨es, hne, hes, hcount⟩ := hrewrites.exists_count
  refine h token ⟨es, hne, fun e he => (ranked_perm _).subset (hes e he), ?_⟩
  rw [List.perm_iff_count]
  intro c
  have h := hcount c
  omega

/-- Meanings are not balanced if whatever has a `$` in it has a character besides that no name
has. -/
theorem not_balanced_of_own_characters
    (hroot : '$' ∈ root → ∃ c ∈ root, ∀ k ∈ rootName :: randomName :: v.keys, c ∉ '$' :: k)
    (hvalues : ∀ e ∈ v.entries, '$' ∈ e.2 →
      ∃ c ∈ e.2, ∀ k ∈ rootName :: randomName :: v.keys, c ∉ '$' :: k)
    (token : Option Token) : ¬ Meanings.Balanced (meanings v root (token.map Subtype.val)) := by
  have hmember : ∀ e ∈ meanings v root (token.map Subtype.val),
      e.1 ∈ rootName :: randomName :: v.keys ∧ ('$' ∈ e.2 →
        ∃ c ∈ e.2, ∀ k ∈ rootName :: randomName :: v.keys, c ∉ '$' :: k) := by
    intro e he
    rcases List.mem_append.mp he with hfilter | hknown
    · have hstored := List.mem_of_mem_filter hfilter
      exact ⟨by simp [Table.keys, List.mem_map_of_mem hstored], hvalues e hstored⟩
    · rcases List.mem_cons.mp hknown with rfl | hrandom
      · exact ⟨List.mem_cons_self, hroot⟩
      · cases token with
        | none => cases hrandom
        | some token =>
            obtain rfl := List.mem_singleton.mp hrandom
            refine ⟨by simp, fun hdollar => ?_⟩
            exact absurd (List.all_eq_true.mp token.2.2 '$' hdollar) (by decide)
  rintro ⟨es, hne, hes, hperm⟩
  -- the characters that no name has keep every `$` out of what the names stand for
  have hplain : '$' ∉ es.values := by
    intro hdollar
    obtain ⟨e, he, hin⟩ := List.mem_flatMap.mp hdollar
    obtain ⟨c, hc, hnone⟩ := (hmember e (hes e he)).2 hin
    obtain ⟨f, hf, hcf⟩ := List.mem_flatMap.mp (hperm.subset (List.mem_flatMap_of_mem he hc))
    exact hnone f.1 (hmember f (hes f hf)).1 hcf
  obtain ⟨e, he⟩ := List.exists_mem_of_ne_nil es hne
  exact hplain (hperm.symm.subset (List.mem_flatMap_of_mem he List.mem_cons_self))

/-- A reference in the text leads to this name. -/
def LeadsTo (m : Meanings) (t l : Text) : Prop :=
  ∃ k ∈ m.names, Mentions t k ∧ Relation.ReflTransGen (Refers m) k l

/-- A name that leads back to itself refers to one that leads to it. -/
theorem exists_refers_of_cycle {l : Text} (hk : Relation.ReflTransGen (Refers m) k l)
    (hl : Relation.TransGen (Refers m) l l) :
    ∃ j, Refers m k j ∧ Relation.ReflTransGen (Refers m) j l :=
  Relation.TransGen.head'_iff.mp (hl.trans_right hk)

theorem LeadsTo.replaceName {l : Text} (hm : m.WellFormed)
    (hl : Relation.TransGen (Refers m) l l) (he : e ∈ m) (ht : AllReferences m.names t)
    (h : LeadsTo m t l) :
    AllReferences m.names (replaceName t e) ∧ LeadsTo m (replaceName t e) l := by
  obtain ⟨j, value⟩ := e
  obtain ⟨ps, hps, rfl⟩ := exists_pieces t ht
  obtain ⟨vs, hvs, rfl⟩ := exists_pieces value (hm.references _ he)
  have hqs : ∀ p ∈ substitute j vs ps, p.IsFrom m.names := by
    intro p hp
    rcases (mem_substitute_iff j vs ps p).mp hp with ⟨hold, -⟩ | ⟨-, hnew⟩
    · exact hps p hold
    · exact hvs p hnew
  have hreplaced : Expansion.replaceName (spell ps) (j, spell vs) = spell (substitute j vs ps) :=
    replace_spell hm (mem_names he) vs ps hps
  rw [hreplaced]
  refine ⟨allReferences_spell hm _ hqs, ?_⟩
  obtain ⟨k, hk, hmention, hleads⟩ := h
  have hname : .name k ∈ ps := (mentions_spell_iff hm hk ps hps).mp hmention
  by_cases hkj : k = j
  · -- the reference is gone, but what has come for it refers to the next name on the way
    subst hkj
    obtain ⟨i, ⟨value, hvalue, hi, hrefers⟩, hrest⟩ := exists_refers_of_cycle hleads hl
    obtain rfl := hm.meaning_unique he hvalue
    have hnew : .name i ∈ vs := (mentions_spell_iff hm hi vs hvs).mp hrefers
    refine ⟨i, hi, (mentions_spell_iff hm hi _ hqs).mpr ?_, hrest⟩
    exact (mem_substitute_iff k vs ps _).mpr (.inr ⟨hname, hnew⟩)
  · refine ⟨k, hk, (mentions_spell_iff hm hk _ hqs).mpr ?_, hleads⟩
    refine (mem_substitute_iff j vs ps _).mpr (.inl ⟨hname, fun heq => hkj ?_⟩)
    injection heq

theorem LeadsTo.foldl {l : Text} (hm : m.WellFormed) (hl : Relation.TransGen (Refers m) l l)
    {es : Meanings} (hes : ∀ e ∈ es, e ∈ m) (ht : AllReferences m.names t) (h : LeadsTo m t l) :
    AllReferences m.names (es.foldl Expansion.replaceName t) ∧
      LeadsTo m (es.foldl Expansion.replaceName t) l := by
  induction es generalizing t with
  | nil => exact ⟨ht, h⟩
  | cons e es ih =>
      obtain ⟨ht', h'⟩ := h.replaceName hm hl (hes e List.mem_cons_self) ht
      exact ih (fun f hf => hes f (List.mem_cons_of_mem e hf)) ht' h'

/-- Passes do not get rid of the references that lead to a cycle. -/
theorem leadsTo_afterPasses {template l : Text} (h : References v root template)
    (hl : Relation.TransGen (Refers (known v root)) l l)
    (hleads : LeadsTo (known v root) template l) (n : Nat) (s : TokenSupply) :
    AllReferences (known v root).names (afterPasses v root n s template).1 ∧
      LeadsTo (known v root) (afterPasses v root n s template).1 l := by
  induction n with
  | zero => exact ⟨h.template, hleads⟩
  | succ n ih =>
      obtain ⟨ht, hleads⟩ := ih
      have hdraws : ¬ draws (afterPasses v root n s template).1 := by
        rw [draws, Text.has_iff]
        exact not_mentions_of_incomparable h.random_incomparable_names ht
      rw [afterPasses_succ, drawingPass, if_neg hdraws]
      refine hleads.foldl h.wellFormed hl (fun e he => ?_) ht
      exact (h.meanings_perm (.refl v.entries)).subset ((ranked_perm _).subset he)

theorem isReferable_of_mem_known {template : Text} (h : References v root template)
    (hk : k ∈ (known v root).names) : IsReferable v k := by
  rw [names_known, List.mem_append, List.mem_singleton] at hk
  rcases hk with hkey | rfl
  · refine .inl ⟨hkey, fun hnil => ?_⟩
    exact (h.random_incomparable k hkey).2 (hnil ▸ List.nil_prefix)
  · exact .inr (.inl rfl)

/-- What a text settles on is one of the texts that come up, and mentions no name unless it has
been led back to itself. -/
theorem exists_of_settle_of_not_ledBack {limit : Nat} {template : Text}
    (hloop : ∀ n, ¬ LedBack v root (afterPasses v root n s template).1)
    (hsettle : settle v root limit s template = (some t, s')) :
    ∃ n, (afterPasses v root n s template).1 = t ∧ ∀ k, IsReferable v k → ¬ Mentions t k := by
  obtain ⟨n, -, -, hn, hlast⟩ := exists_of_settle_eq_some hsettle
  refine ⟨n, hn, fun k hk hmention => hloop n ?_⟩
  rw [afterPasses_succ, hn] at hlast
  rw [hn]
  exact ledBack_of_unchanged hlast hk hmention

/-- If none of the texts that come up is led back to itself by replacements of names it mentions,
in the order of a pass, then what comes out of an expansion mentions no name that can be referred
to. A text in which such a name is left after every pass does not expand, and the failure names
the text and the limit. In particular that holds of a reference that never resolves: where every
`$` begins a reference, one that leads to a name that leads back to itself, directly or through
others. -/
theorem expand_leaves_no_reference (v : Variables) (root template : Text) (limit : Nat)
    (s : TokenSupply)
    (hloop : ∀ n, ¬ LedBack v root (afterPasses v root n s template).1) :
    (∀ t s', expand (Scope.ofLimit root limit) v s template = (.ok t, s') →
      ∀ k, IsReferable v k → ¬ Mentions t k) ∧
    ((∀ n, ∃ k, IsReferable v k ∧ Mentions (afterPasses v root n s template).1 k) →
      (expand (Scope.ofLimit root limit) v s template).1 =
        .error (.expansion template (max limit 1))) ∧
    (References v root template → ∀ l, LeadsTo (known v root) template l →
      Relation.TransGen (Refers (known v root)) l l →
      (expand (Scope.ofLimit root limit) v s template).1 =
        .error (.expansion template (max limit 1))) := by
  have hnever : (∀ n, ∃ k, IsReferable v k ∧ Mentions (afterPasses v root n s template).1 k) →
      (expand (Scope.ofLimit root limit) v s template).1 =
        .error (.expansion template (max limit 1)) := by
    intro hleft
    cases hsettle : settle v root (max limit 1) s template with
    | mk result s' =>
        cases result with
        | none => simp only [expand, Scope.ofLimit, hsettle]
        | some t =>
            obtain ⟨n, rfl, hnone⟩ := exists_of_settle_of_not_ledBack hloop hsettle
            obtain ⟨k, hk, hmention⟩ := hleft n
            exact absurd hmention (hnone k hk)
  refine ⟨fun t s' h => ?_, hnever, fun hreferences l hleads hcycle => hnever fun n => ?_⟩
  · rw [expand] at h
    split at h
    · rename_i r s₁ hsettle
      cases h
      obtain ⟨-, -, hnone⟩ := exists_of_settle_of_not_ledBack hloop hsettle
      exact hnone
    · cases h
  · obtain ⟨-, k, hk, hmention, -⟩ := leadsTo_afterPasses hreferences hcycle hleads n s
    exact ⟨k, isReferable_of_mem_known hreferences hk, hmention⟩

/-- Two variables that refer to each other, each with something of its own besides. -/
def mutualStore : Variables := ⟨[("flags", "-O2 $more"), ("more", "-g $flags")]⟩

theorem expand_of_mutual_references :
    (∀ s n, ¬ LedBack mutualStore "/m" (afterPasses mutualStore "/m" n s "cc $flags").1) ∧
    References mutualStore "/m" "cc $flags" ∧
    LeadsTo (known mutualStore "/m") "cc $flags" "flags" ∧
    Relation.TransGen (Refers (known mutualStore "/m")) "flags" "flags" ∧
    ∀ limit s, (expand (Scope.ofLimit "/m" limit) mutualStore s "cc $flags").1 =
      .error (.expansion "cc $flags" (max limit 1)) := by
  have hroot : '$' ∈ ("/m" : Text) → ∃ c ∈ ("/m" : Text),
      ∀ k ∈ rootName :: randomName :: mutualStore.keys, c ∉ '$' :: k := by decide
  have hvalues : ∀ e ∈ mutualStore.entries, '$' ∈ e.2 →
      ∃ c ∈ e.2, ∀ k ∈ rootName :: randomName :: mutualStore.keys, c ∉ '$' :: k := by
    intro e he _
    exact ⟨'-', by revert e; decide, by decide⟩
  have hloop (s n) : ¬ LedBack mutualStore "/m" (afterPasses mutualStore "/m" n s "cc $flags").1 :=
    not_ledBack (not_balanced_of_own_characters hroot hvalues) _
  have hreferences : References mutualStore "/m" "cc $flags" :=
    ⟨by decide +kernel, by decide +kernel, by decide, by decide +kernel, by decide +kernel⟩
  have hleads : LeadsTo (known mutualStore "/m") "cc $flags" "flags" :=
    ⟨"flags", by decide +kernel, by decide +kernel, .refl⟩
  have hmore : Refers (known mutualStore "/m") "flags" "more" :=
    ⟨"-O2 $more", by decide +kernel, by decide +kernel, by decide +kernel⟩
  have hflags : Refers (known mutualStore "/m") "more" "flags" :=
    ⟨"-g $flags", by decide +kernel, by decide +kernel, by decide +kernel⟩
  have hcycle := (Relation.TransGen.single hmore).tail hflags
  refine ⟨hloop, hreferences, hleads, hcycle, fun limit s => ?_⟩
  obtain ⟨-, -, hfails⟩ := expand_leaves_no_reference mutualStore "/m" "cc $flags" limit s (hloop s)
  exact hfails hreferences "flags" hleads hcycle

def selfStore : Variables := ⟨[("a", "$a")]⟩

def swappedStore : Variables := ⟨[("a", "$c"), ("c", "$a")]⟩

/-- The pass has replaced all the references, and what it comes out with is the text it began
with. That passes for settled, and the result mentions the name that leads back to itself. -/
theorem expand_stops_in_loop :
    (References selfStore "/m" "$a" ∧
      Relation.TransGen (Refers (known selfStore "/m")) "a" "a" ∧
      (expand (Scope.ofLimit "/m" 64) selfStore (TokenSupply.ofSeed 0) "$a").1 =
        .ok ("$a" : Text)) ∧
    (References swappedStore "/m" "$a" ∧
      Relation.TransGen (Refers (known swappedStore "/m")) "a" "a" ∧
      (expand (Scope.ofLimit "/m" 64) swappedStore (TokenSupply.ofSeed 0) "$a").1 =
        .ok ("$a" : Text)) ∧
    Mentions "$a" "a" := by
  have hself : Refers (known selfStore "/m") "a" "a" :=
    ⟨"$a", by decide +kernel, by decide +kernel, by decide +kernel⟩
  have hthere : Refers (known swappedStore "/m") "a" "c" :=
    ⟨"$c", by decide +kernel, by decide +kernel, by decide +kernel⟩
  have hback : Refers (known swappedStore "/m") "c" "a" :=
    ⟨"$a", by decide +kernel, by decide +kernel, by decide +kernel⟩
  refine ⟨⟨?_, .single hself, by decide +kernel⟩,
    ⟨?_, (Relation.TransGen.single hthere).tail hback, by decide +kernel⟩, by decide +kernel⟩
  · exact ⟨by decide +kernel, by decide +kernel, by decide, by decide +kernel, by decide +kernel⟩
  · exact ⟨by decide +kernel, by decide +kernel, by decide, by decide +kernel, by decide +kernel⟩

end BuildManifest.Expansion
