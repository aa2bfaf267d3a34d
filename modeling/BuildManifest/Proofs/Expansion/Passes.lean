import BuildManifest.Proofs.Expansion.Drawing
import Mathlib.Logic.Function.Iterate
import Mathlib.Order.Bounds.Basic
import Mathlib.Tactic.ByContra

/-!
Expansion as a sequence of texts, each one pass after the one before. It ends with the first text
that a pass leaves as it is, and only the texts before the limit are asked. So a result is a text
that no further pass changes, and to expand it again gives the same text.
-/

namespace BuildManifest.Expansion

variable {scope : Scope} {v : Variables} {root t u : Text} {s s' : TokenSupply} {limit n i : Nat}

/-- The text after so many passes, and the tokens that are left by then. -/
def afterPasses (v : Variables) (root : Text) : Nat → TokenSupply → Text → Text × TokenSupply
  | 0, s, t => (t, s)
  | n + 1, s, t =>
    afterPasses v root n (drawingPass v root s t).2 (drawingPass v root s t).1

/-- So many passes go by before one changes nothing. -/
def SettlesAt (v : Variables) (root : Text) (s : TokenSupply) (t : Text) (n : Nat) : Prop :=
  (afterPasses v root (n + 1) s t).1 = (afterPasses v root n s t).1 ∧
    ∀ i < n, (afterPasses v root (i + 1) s t).1 ≠ (afterPasses v root i s t).1

theorem afterPasses_succ (v : Variables) (root : Text) (n : Nat) (s : TokenSupply) (t : Text) :
    afterPasses v root (n + 1) s t =
      drawingPass v root (afterPasses v root n s t).2 (afterPasses v root n s t).1 := by
  induction n generalizing s t with
  | zero => rfl
  | succ n ih => exact ih _ _

/-- The first pass that changes nothing is one pass later if it is not the first of all. -/
theorem settlesAt_succ_iff :
    SettlesAt v root s t (n + 1) ↔ (drawingPass v root s t).1 ≠ t ∧
      SettlesAt v root (drawingPass v root s t).2 (drawingPass v root s t).1 n := by
  constructor
  · rintro ⟨hsettled, hchanges⟩
    refine ⟨hchanges 0 (Nat.succ_pos n), hsettled, fun i hi => ?_⟩
    exact hchanges (i + 1) (Nat.succ_lt_succ hi)
  · rintro ⟨hfirst, hsettled, hchanges⟩
    refine ⟨hsettled, fun i hi => ?_⟩
    cases i with
    | zero => exact hfirst
    | succ i => exact hchanges i (Nat.lt_of_succ_lt_succ hi)

/-- A text that settles does so within the limit, on the text at hand when a pass first changes
nothing. -/
theorem exists_of_settle_eq_some (h : settle v root limit s t = (some u, s')) :
    ∃ n < limit, SettlesAt v root s t n ∧ (afterPasses v root n s t).1 = u ∧
      afterPasses v root (n + 1) s t = (u, s') := by
  induction limit generalizing s t with
  | zero => cases h
  | succ limit ih =>
      cases hpass : drawingPass v root s t with
      | mk t' s₁ =>
          by_cases hsettled : t' = t
          · subst hsettled
            rw [settle_of_unchanged limit hpass] at h
            cases h
            have hone : afterPasses v root 1 s u = (u, s') := hpass
            refine ⟨0, Nat.succ_pos limit, ⟨by rw [hone, afterPasses], ?_⟩, rfl, hone⟩
            exact fun i hi => absurd hi (Nat.not_lt_zero i)
          · rw [settle_of_changed limit hpass hsettled] at h
            obtain ⟨n, hn, hfirst, hu, hlast⟩ := ih h
            have hlater (i : Nat) :
                afterPasses v root (i + 1) s t = afterPasses v root i s₁ t' := by
              rw [afterPasses, hpass]
            refine ⟨n + 1, Nat.succ_lt_succ hn, ?_, by rw [hlater, hu], by rw [hlater, hlast]⟩
            rw [settlesAt_succ_iff, hpass]
            exact ⟨hsettled, hfirst⟩

/-- A text that does not settle is changed by every pass up to the limit. -/
theorem changes_of_settle_eq_none (h : settle v root limit s t = (none, s')) :
    (∀ n < limit, (afterPasses v root (n + 1) s t).1 ≠ (afterPasses v root n s t).1) ∧
      (afterPasses v root limit s t).2 = s' := by
  induction limit generalizing s t with
  | zero =>
      cases h
      exact ⟨fun n hn => absurd hn (Nat.not_lt_zero n), rfl⟩
  | succ limit ih =>
      cases hpass : drawingPass v root s t with
      | mk t' s₁ =>
          by_cases hsettled : t' = t
          · subst hsettled
            rw [settle_of_unchanged limit hpass] at h
            cases h
          · rw [settle_of_changed limit hpass hsettled] at h
            obtain ⟨hchanges, hleft⟩ := ih h
            have hlater (i : Nat) :
                afterPasses v root (i + 1) s t = afterPasses v root i s₁ t' := by
              rw [afterPasses, hpass]
            refine ⟨fun n hn => ?_, by rw [hlater, hleft]⟩
            cases n with
            | zero =>
                have hone : afterPasses v root 1 s t = (t', s₁) := hpass
                rw [hone]
                exact hsettled
            | succ n =>
                rw [hlater, hlater]
                exact hchanges n (Nat.lt_of_succ_lt_succ hn)

theorem drawn_le_afterPasses : s.drawn ≤ (afterPasses v root n s t).2.drawn := by
  induction n generalizing s t with
  | zero => exact Nat.le_refl s.drawn
  | succ n ih => exact Nat.le_trans drawn_le_drawingPass ih

theorem drawingPass_eq_of_undrawn (h : (drawingPass v root s t).2.drawn = s.drawn) :
    drawingPass v root s t = (pass v root none t, s) := by
  by_cases hdraws : draws t
  · rw [drawingPass, if_pos hdraws] at h
    exact absurd h (Nat.succ_ne_self s.drawn)
  · rw [drawingPass, if_neg hdraws]

/-- Where no token is drawn, passes only depend on the text. -/
theorem afterPasses_of_undrawn (h : (afterPasses v root n s t).2.drawn = s.drawn) (hi : i ≤ n) :
    afterPasses v root i s t = ((pass v root none)^[i] t, s) := by
  induction n generalizing t i with
  | zero =>
      obtain rfl : i = 0 := Nat.le_zero.mp hi
      rfl
  | succ n ih =>
      have hlater : (drawingPass v root s t).2.drawn ≤
          (afterPasses v root (n + 1) s t).2.drawn := drawn_le_afterPasses
      have hpass := drawingPass_eq_of_undrawn
        (Nat.le_antisymm (h ▸ hlater) drawn_le_drawingPass)
      cases i with
      | zero => rfl
      | succ i =>
          rw [afterPasses, hpass] at h
          rw [afterPasses, hpass, ih h (Nat.le_of_succ_le_succ hi), Function.iterate_succ_apply]

/-- The numbers of passes after which one more changes nothing, where no token is drawn. -/
def settled (v : Variables) (root t : Text) : Set Nat :=
  {n | (pass v root none)^[n + 1] t = (pass v root none)^[n] t}

theorem isLeast_settled (hfirst : SettlesAt v root s t n)
    (hdrawn : (afterPasses v root (n + 1) s t).2.drawn = s.drawn) :
    IsLeast (settled v root t) n := by
  have htext {i : Nat} (hi : i ≤ n + 1) :
      (afterPasses v root i s t).1 = (pass v root none)^[i] t := by
    rw [afterPasses_of_undrawn hdrawn hi]
  obtain ⟨hsettled, hchanges⟩ := hfirst
  constructor
  · rw [htext (Nat.le_refl _), htext (Nat.le_succ n)] at hsettled
    exact hsettled
  · intro i hi
    by_contra hlt
    have hn : i < n := Nat.lt_of_not_le hlt
    refine hchanges i hn ?_
    rw [htext (by omega), htext (by omega)]
    exact hi

/-- A text that a pass leaves as it is without drawing a token expands to itself. -/
theorem steady_of_unchanged (h : drawingPass v root s t = (t, s')) (hdrawn : s'.drawn = s.drawn)
    (limit : Nat) : Steady (Scope.ofLimit root limit) v t t := by
  intro s₁
  have hpass := drawingPass_of_undrawn (by rw [h]; exact hdrawn) s₁
  rw [h] at hpass
  obtain ⟨n, hn⟩ : ∃ n, (Scope.ofLimit root limit).passes = n + 1 :=
    Nat.exists_eq_add_one.mpr (Nat.lt_of_lt_of_le Nat.zero_lt_one (Nat.le_max_right limit 1))
  rw [expand, hn, show (Scope.ofLimit root limit).root = root from rfl,
    settle_of_unchanged n hpass]

/-- A text that settles without a token being drawn settles on the first of its texts that a pass
leaves as it is. -/
theorem exists_isLeast_of_settle (h : settle v root limit s t = (some u, s'))
    (hdrawn : s'.drawn = s.drawn) :
    (∃ n < limit, IsLeast (settled v root t) n ∧ (pass v root none)^[n] t = u) ∧
      ∀ limit', Steady (Scope.ofLimit root limit') v u u := by
  obtain ⟨n, hn, hfirst, hu, hlast⟩ := exists_of_settle_eq_some h
  have hundrawn : (afterPasses v root (n + 1) s t).2.drawn = s.drawn := by
    rw [hlast]
    exact hdrawn
  have htext := afterPasses_of_undrawn hundrawn (Nat.le_succ n)
  constructor
  · refine ⟨n, hn, isLeast_settled hfirst hundrawn, ?_⟩
    rw [← hu, htext]
  · rw [afterPasses_succ, hu, htext] at hlast
    exact steady_of_unchanged hlast hdrawn

/-- A text that does not settle, and for which no token is drawn, is changed by every pass that
the limit allows. -/
theorem not_mem_settled_of_settle (h : settle v root limit s t = (none, s'))
    (hdrawn : s'.drawn = s.drawn) : ∀ n < limit, n ∉ settled v root t := by
  obtain ⟨hchanges, hleft⟩ := changes_of_settle_eq_none h
  have htext {i : Nat} (hi : i ≤ limit) :
      (afterPasses v root i s t).1 = (pass v root none)^[i] t := by
    rw [afterPasses_of_undrawn (by rw [hleft]; exact hdrawn) hi]
  intro n hn hsettled
  refine hchanges n hn ?_
  rw [htext hn, htext (Nat.le_of_lt hn)]
  exact hsettled

/-- In a run of passes that draws no token, let the texts be those after no pass, one pass, two
passes and so on. The text expands if and only if one of the passes that the limit allows changes
nothing, and then to the first text that a pass leaves as it is. Otherwise the failure names the
text that was to be expanded, and the limit. What has come out expands to itself under any limit
and whichever tokens are next. -/
theorem expand_stops_at_first_fixpoint (v : Variables) (root template : Text) {limit : Nat}
    (hlimit : 1 ≤ limit) (s : TokenSupply)
    (hdrawn : (expand (Scope.ofLimit root limit) v s template).2.drawn = s.drawn) :
    (∀ t, (expand (Scope.ofLimit root limit) v s template).1 = .ok t ↔
      ∃ n < limit, IsLeast (settled v root template) n ∧
        (pass v root none)^[n] template = t) ∧
    ((¬ ∃ n < limit, n ∈ settled v root template) →
      (expand (Scope.ofLimit root limit) v s template).1 =
        .error (.expansion template limit)) ∧
    ∀ t, (expand (Scope.ofLimit root limit) v s template).1 = .ok t →
      ∀ limit', Steady (Scope.ofLimit root limit') v t t := by
  have hscope : Scope.ofLimit root limit = ⟨root, limit⟩ := by
    rw [Scope.ofLimit, Nat.max_eq_left hlimit]
  rw [hscope] at hdrawn ⊢
  cases hsettle : settle v root limit s template with
  | mk result s' =>
      cases result with
      | some u =>
          have hexpand : expand ⟨root, limit⟩ v s template = (.ok u, s') := by
            rw [expand, hsettle]
          rw [hexpand] at hdrawn ⊢
          obtain ⟨⟨n, hn, hleast, htext⟩, hsteady⟩ := exists_isLeast_of_settle hsettle hdrawn
          refine ⟨fun t => ⟨?_, ?_⟩, fun hnone => absurd ⟨n, hn, hleast.1⟩ hnone, ?_⟩
          · rintro ⟨⟩
            exact ⟨n, hn, hleast, htext⟩
          · rintro ⟨n', -, hleast', rfl⟩
            rw [hleast'.unique hleast, htext]
          · rintro _ ⟨⟩
            exact hsteady
      | none =>
          have hexpand : expand ⟨root, limit⟩ v s template =
              (.error (.expansion template limit), s') := by
            rw [expand, hsettle]
          rw [hexpand] at hdrawn ⊢
          have hnever := not_mem_settled_of_settle hsettle hdrawn
          refine ⟨fun t => ⟨?_, ?_⟩, fun _ => rfl, ?_⟩
          · rintro ⟨⟩
          · rintro ⟨n, hn, hleast, -⟩
            exact absurd hleast.1 (hnever n hn)
          · rintro _ ⟨⟩

theorem isLeast_settled_nestedStore : IsLeast (settled nestedStore "/m" "$tool $opt") 2 := by
  have hfirst : (pass nestedStore "/m" none)^[1] "$tool $opt" ≠ "$tool $opt" := by decide +kernel
  have hsecond : (pass nestedStore "/m" none)^[2] "$tool $opt" ≠
      (pass nestedStore "/m" none)^[1] "$tool $opt" := by decide +kernel
  have hthird : (pass nestedStore "/m" none)^[3] "$tool $opt" =
      (pass nestedStore "/m" none)^[2] "$tool $opt" := by decide +kernel
  refine ⟨hthird, fun n hn => ?_⟩
  match n, hn with
  | 0, hn => exact absurd hn hfirst
  | 1, hn => exact absurd hn hsecond
  | n + 2, _ => exact Nat.le_add_left 2 n

/-- The chain of references in this template is two long, so that three passes are the fewest
that are enough: two change the text, and one finds it settled. -/
theorem expand_nested_within_three_passes :
    (expand (Scope.ofLimit "/m" 2) nestedStore (TokenSupply.ofSeed 0) "$tool $opt").1 =
      .error (.expansion "$tool $opt" 2) ∧
    (expand (Scope.ofLimit "/m" 3) nestedStore (TokenSupply.ofSeed 0) "$tool $opt").1 =
      .ok "gcc -O2 -I/m -O2" ∧
    ∀ limit, Steady (Scope.ofLimit "/m" limit) nestedStore "gcc -O2 -I/m -O2"
      "gcc -O2 -I/m -O2" := by
  have hleast := isLeast_settled_nestedStore
  have htext : (pass nestedStore "/m" none)^[2] "$tool $opt" = "gcc -O2 -I/m -O2" := by
    decide +kernel
  obtain ⟨-, hlate, -⟩ := expand_stops_at_first_fixpoint nestedStore "/m" "$tool $opt"
    (show 1 ≤ 2 by decide) (TokenSupply.ofSeed 0) rfl
  obtain ⟨hresult, -, hagain⟩ := expand_stops_at_first_fixpoint nestedStore "/m" "$tool $opt"
    (show 1 ≤ 3 by decide) (TokenSupply.ofSeed 0) rfl
  have hok := (hresult _).mpr ⟨2, by decide, hleast, htext⟩
  refine ⟨hlate ?_, hok, hagain _ hok⟩
  rintro ⟨n, hn, hsettled⟩
  exact absurd (hleast.2 hsettled) (Nat.not_le_of_lt hn)

end BuildManifest.Expansion
