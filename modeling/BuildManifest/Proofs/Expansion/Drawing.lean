import BuildManifest.Proofs.Expansion.Settling

/-!
Expansion and the tokens it draws. Tokens are all that an expansion takes from
outside of the variables, and none that was drawn comes back. So an expansion after
which no more tokens have been drawn than before has not seen any, and expands the
same text to the same text whichever tokens are next.
-/

namespace BuildManifest.Expansion

variable {scope : Scope} {v : Variables} {root t u : Text} {s s' : TokenSupply} {limit : Nat}

theorem drawn_le_drawingPass : s.drawn ≤ (drawingPass v root s t).2.drawn := by
  rw [drawingPass]
  split
  · exact Nat.le_succ s.drawn
  · exact Nat.le_refl s.drawn

theorem drawn_le_settle : s.drawn ≤ (settle v root limit s t).2.drawn := by
  induction limit generalizing s t with
  | zero => exact Nat.le_refl s.drawn
  | succ limit ih =>
      have hpass : s.drawn ≤ (drawingPass v root s t).2.drawn := drawn_le_drawingPass
      rw [settle]
      dsimp only
      split
      · exact hpass
      · exact hpass.trans ih

theorem drawn_le_of_expand (h : expand scope v s t = (.ok u, s')) : s.drawn ≤ s'.drawn := by
  rw [expand] at h
  split at h
  · rename_i r left hsettle
    cases h
    have hsettled : s.drawn ≤ (settle v scope.root scope.passes s t).2.drawn := drawn_le_settle
    rwa [hsettle] at hsettled
  · cases h

/-- A pass that draws no token does not depend on the tokens. -/
theorem drawingPass_of_undrawn (h : (drawingPass v root s t).2.drawn = s.drawn)
    (s' : TokenSupply) : drawingPass v root s' t = ((drawingPass v root s t).1, s') := by
  by_cases hdraws : draws t
  · rw [drawingPass, if_pos hdraws] at h
    exact absurd h (Nat.succ_ne_self s.drawn)
  · simp only [drawingPass, if_neg hdraws]

theorem settle_of_undrawn (h : (settle v root limit s t).2.drawn = s.drawn)
    (s' : TokenSupply) : settle v root limit s' t = ((settle v root limit s t).1, s') := by
  induction limit generalizing t with
  | zero => rfl
  | succ limit ih =>
      have hlater : (drawingPass v root s t).2.drawn ≤
          (settle v root (limit + 1) s t).2.drawn := by
        rw [settle]
        dsimp only
        split
        · exact Nat.le_refl _
        · exact drawn_le_settle
      have hpass : (drawingPass v root s t).2.drawn = s.drawn :=
        Nat.le_antisymm (h ▸ hlater) drawn_le_drawingPass
      have hhere := drawingPass_of_undrawn hpass s
      have hthere := drawingPass_of_undrawn hpass s'
      by_cases hsettled : (drawingPass v root s t).1 = t
      · rw [hsettled] at hhere hthere
        rw [settle_of_unchanged limit hhere, settle_of_unchanged limit hthere]
      · rw [settle_of_changed limit hhere hsettled] at h ⊢
        rw [settle_of_changed limit hthere hsettled, ih h]

/-- The text expands to this one, whichever tokens are next, and draws none. -/
def Steady (scope : Scope) (v : Variables) (t u : Text) : Prop :=
  ∀ s, expand scope v s t = (.ok u, s)

theorem steady_of_undrawn (h : expand scope v s t = (.ok u, s')) (hdrawn : s'.drawn = s.drawn) :
    Steady scope v t u := by
  intro s₁
  rw [expand] at h
  split at h
  · rename_i r left hsettle
    cases h
    have hagain := settle_of_undrawn (by rw [hsettle]; exact hdrawn) s₁
    rw [expand, hagain, hsettle]
  · cases h

/-- A text without a reference is what it expands to. -/
theorem eq_of_expand_of_plain (ht : '$' ∉ t) (h : (expand scope v s t).1 = .ok u) : u = t := by
  rw [expand] at h
  cases hpasses : scope.passes with
  | zero =>
      rw [hpasses] at h
      cases h
  | succ limit =>
      rw [hpasses, settle_of_unchanged limit (drawingPass_of_plain ht s)] at h
      cases h
      rfl

theorem exists_of_expandAll_cons {ts us : List Text}
    (h : expandAll scope v s (t :: ts) = (.ok us, s')) :
    ∃ u s₁ us', us = u :: us' ∧ expand scope v s t = (.ok u, s₁) ∧
      expandAll scope v s₁ ts = (.ok us', s') := by
  rw [expandAll] at h
  split at h
  · cases h
  · rename_i u s₁ hfirst
    split at h
    · cases h
    · rename_i us' s₂ hrest
      cases h
      exact ⟨u, s₁, us', rfl, hfirst, hrest⟩

theorem drawn_le_of_expandAll {ts us : List Text}
    (h : expandAll scope v s ts = (.ok us, s')) : s.drawn ≤ s'.drawn := by
  induction ts generalizing s us with
  | nil =>
      cases h
      exact Nat.le_refl _
  | cons t ts ih =>
      obtain ⟨u, s₁, us', _, hfirst, hrest⟩ := exists_of_expandAll_cons h
      exact (drawn_le_of_expand hfirst).trans (ih hrest)

/-- Where a list of texts expands without a token being drawn, every text of it expands the
same whichever tokens are next. -/
theorem steady_of_expandAll {ts us : List Text} (h : expandAll scope v s ts = (.ok us, s'))
    (hdrawn : s'.drawn = s.drawn) : ∀ u ∈ us, ∃ t ∈ ts, Steady scope v t u := by
  induction ts generalizing s us with
  | nil =>
      cases h
      simp
  | cons t ts ih =>
      obtain ⟨u, s₁, us', rfl, hfirst, hrest⟩ := exists_of_expandAll_cons h
      have hlower := drawn_le_of_expand hfirst
      have hupper := drawn_le_of_expandAll hrest
      have hsame : s₁.drawn = s.drawn := by omega
      rw [List.forall_mem_cons]
      refine ⟨⟨t, List.mem_cons_self, steady_of_undrawn hfirst hsame⟩, fun w hw => ?_⟩
      obtain ⟨t', ht', hsteady⟩ := ih hrest (hdrawn.trans hsame.symm) w hw
      exact ⟨t', List.mem_cons_of_mem t ht', hsteady⟩

end BuildManifest.Expansion
