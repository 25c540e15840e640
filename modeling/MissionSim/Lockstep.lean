import MissionSim.Effects

/-!
# Two runs of a program

A program is run from two states that a relation holds of.  The runs are in lockstep when they end
the same way, with the same value or the same exception, in states the relation holds of again.

Some differences between the states show only later.  So the first run may leave the comparison by
reaching a state with a property that no later step takes back.
-/

namespace Effects

universe u

variable {ε σ α β : Type u}

/-- What has the property keeps it. -/
def Carries (B : σ → Prop) (s s' : σ) : Prop := B s → B s'

instance (B : σ → Prop) : Std.Refl (Carries B) := ⟨fun _ => id⟩

instance (B : σ → Prop) : IsTrans σ (Carries B) := ⟨fun _ _ _ h h' => h' ∘ h⟩

/-- Two ends of a run are the same, in states that `R` holds of. -/
def SameEnd (R : σ → σ → Prop) : EStateM.Result ε σ α → EStateM.Result ε σ α → Prop
  | .ok a s, .ok b t => a = b ∧ R s t
  | .error e s, .error e' t => e = e' ∧ R s t
  | _, _ => False

/-- Run from `s` and from `t`, the programs end the same way, unless the first run ends in `B`. -/
def Lockstep (R : σ → σ → Prop) (B : σ → Prop) (x y : EStateM ε σ α) (s t : σ) : Prop :=
  B (finalState x s) ∨ SameEnd R (x s) (y t)

variable {R : σ → σ → Prop} {B : σ → Prop} {s t : σ}

theorem Lockstep.final {x y : EStateM ε σ α} (h : Lockstep R B x y s t) :
    B (finalState x s) ∨ R (finalState x s) (finalState y t) := by
  rcases h with hleft | hsame
  · exact Or.inl hleft
  · unfold finalState
    cases hx : x s with
    | ok a s' =>
        cases hy : y t with
        | ok b t' =>
            rw [hx, hy] at hsame
            exact Or.inr hsame.2
        | error e t' =>
            rw [hx, hy] at hsame
            exact hsame.elim
    | error e s' =>
        cases hy : y t with
        | ok b t' =>
            rw [hx, hy] at hsame
            exact hsame.elim
        | error e' t' =>
            rw [hx, hy] at hsame
            exact Or.inr hsame.2

theorem lockstep_pure (a : α) (h : R s t) :
    Lockstep R B (pure a : EStateM ε σ α) (pure a) s t := Or.inr ⟨rfl, h⟩

theorem lockstep_throw (e : ε) (h : R s t) :
    Lockstep R B (throw e : EStateM ε σ α) (throw e) s t := Or.inr ⟨rfl, h⟩

theorem lockstep_fromExcept (x : Except ε α) (h : R s t) :
    Lockstep R B (fromExcept x : EStateM ε σ α) (fromExcept x) s t := by
  cases x with
  | ok a => exact lockstep_pure a h
  | error e => exact lockstep_throw e h

/-- A computed value is the same in both runs. -/
theorem lockstep_computed {x : Except ε β} {f g : β → EStateM ε σ α}
    (hf : ∀ b, Lockstep R B (f b) (g b) s t) (h : R s t) :
    Lockstep R B (fromExcept x >>= f) (fromExcept x >>= g) s t := by
  cases x with
  | ok b => exact hf b
  | error e => exact lockstep_throw e h

theorem lockstep_set {s' t' : σ} (h : R s' t') :
    Lockstep R B (set s' : EStateM ε σ PUnit) (set t') s t := Or.inr ⟨rfl, h⟩

theorem lockstep_modify {f g : σ → σ} (h : R (f s) (g t)) :
    Lockstep R B (modify f : EStateM ε σ PUnit) (modify g) s t := Or.inr ⟨rfl, h⟩

theorem lockstep_get {f g : σ → EStateM ε σ α} (h : Lockstep R B (f s) (g t) s t) :
    Lockstep R B (get >>= f) (get >>= g) s t := h

theorem lockstep_ite {c : Prop} [Decidable c] {x y x' y' : EStateM ε σ α}
    (hx : c → Lockstep R B x x' s t) (hy : ¬ c → Lockstep R B y y' s t) :
    Lockstep R B (if c then x else y) (if c then x' else y') s t := by
  by_cases hc : c
  · rw [if_pos hc, if_pos hc]
    exact hx hc
  · rw [if_neg hc, if_neg hc]
    exact hy hc

/-- The same component is worked on in both runs. -/
theorem lockstep_zoom {τ : Type u} {view : σ → τ} {put : τ → σ → σ} (x : EStateM ε τ α)
    (hview : view s = view t) (hput : ∀ u, R (put u s) (put u t)) :
    Lockstep R B (zoom view put x) (zoom view put x) s t := by
  refine Or.inr ?_
  unfold zoom
  rw [hview]
  cases x (view t) with
  | ok a u => exact ⟨rfl, hput u⟩
  | error e u => exact ⟨rfl, hput u⟩

/-- One program after another; the second takes nothing back. -/
theorem lockstep_bind {x y : EStateM ε σ β} {f g : β → EStateM ε σ α}
    (hx : Lockstep R B x y s t) (hf : ∀ b s' t', R s' t' → Lockstep R B (f b) (g b) s' t')
    (hkeeps : ∀ b, Keeps (Carries B) (f b)) : Lockstep R B (x >>= f) (y >>= g) s t := by
  show Lockstep R B (EStateM.bind x f) (EStateM.bind y g) s t
  rcases hx with hleft | hsame
  · refine Or.inl ?_
    unfold finalState at hleft ⊢
    unfold EStateM.bind
    cases hrun : x s with
    | ok b s' =>
        rw [hrun] at hleft
        exact (hkeeps b).final s' hleft
    | error e s' =>
        rw [hrun] at hleft
        exact hleft
  · unfold Lockstep finalState EStateM.bind
    cases hrun : x s with
    | ok b s' =>
        cases hrun' : y t with
        | ok b' t' =>
            rw [hrun, hrun'] at hsame
            obtain ⟨heq, hrel⟩ := hsame
            rw [← heq]
            exact hf b s' t' hrel
        | error e t' =>
            rw [hrun, hrun'] at hsame
            exact hsame.elim
    | error e s' =>
        cases hrun' : y t with
        | ok b t' =>
            rw [hrun, hrun'] at hsame
            exact hsame.elim
        | error e' t' =>
            rw [hrun, hrun'] at hsame
            exact Or.inr hsame

theorem lockstep_tryCatch {x y : EStateM ε σ α} {handle handle' : ε → EStateM ε σ α}
    (hx : Lockstep R B x y s t)
    (hhandle : ∀ e s' t', R s' t' → Lockstep R B (handle e) (handle' e) s' t')
    (hkeeps : ∀ e, Keeps (Carries B) (handle e)) :
    Lockstep R B (tryCatch x handle) (tryCatch y handle') s t := by
  show Lockstep R B (EStateM.tryCatch x handle) (EStateM.tryCatch y handle') s t
  unfold Lockstep finalState EStateM.tryCatch EStateM.Backtrackable.save
    EStateM.Backtrackable.restore
  rcases hx with hleft | hsame
  · refine Or.inl ?_
    unfold finalState at hleft
    cases hrun : x s with
    | ok a s' =>
        rw [hrun] at hleft
        exact hleft
    | error e s' =>
        rw [hrun] at hleft
        exact (hkeeps e).final s' hleft
  · cases hrun : x s with
    | ok a s' =>
        cases hrun' : y t with
        | ok b t' =>
            rw [hrun, hrun'] at hsame
            exact Or.inr hsame
        | error e t' =>
            rw [hrun, hrun'] at hsame
            exact hsame.elim
    | error e s' =>
        cases hrun' : y t with
        | ok b t' =>
            rw [hrun, hrun'] at hsame
            exact hsame.elim
        | error e' t' =>
            rw [hrun, hrun'] at hsame
            obtain ⟨heq, hrel⟩ := hsame
            rw [← heq]
            exact hhandle e s' t' hrel

/-- A loop over the same list, every round of which is in lockstep. -/
theorem lockstep_forM {γ : Type u} {body : γ → EStateM ε σ PUnit} (xs : List γ)
    (hbody : ∀ a s' t', R s' t' → Lockstep R B (body a) (body a) s' t')
    (hkeeps : ∀ a, Keeps (Carries B) (body a)) (h : R s t) :
    Lockstep R B (xs.forM body) (xs.forM body) s t := by
  induction xs generalizing s t with
  | nil => exact lockstep_pure _ h
  | cons a rest ih =>
      refine lockstep_bind (hbody a s t h) (fun _ s' t' hrel => ih hrel) fun _ => ?_
      exact keeps_forM rest fun a _ => hkeeps a

end Effects
