import Mathlib.Data.List.Forall2
import Mathlib.Order.Defs.PartialOrder
import Mathlib.Tactic.Common

/-!
# Programs with state and exceptions

A program takes a state, and returns a value or raises an exception; either way
the state it reached is kept.  `wp x Q E s` says that started in `s` the program
`x` ends with a value and a state in `Q`, or with an exception and a state in `E`.

Every connective comes with an equation for `wp`, so a program is executed
symbolically by rewriting.  `Keeps R x` is the special case of a relation
between the states before and after, whichever way `x` ends; it is closed under
every connective as soon as `R` is reflexive and transitive.
-/

namespace Effects

universe u

variable {ε σ τ α β : Type u}

/-- The weakest precondition for ending in `Q` by a value or in `E` by an exception. -/
def wp (x : EStateM ε σ α) (Q : α → σ → Prop) (E : ε → σ → Prop) (s : σ) : Prop :=
  match x s with
  | .ok a s' => Q a s'
  | .error e s' => E e s'

/-- Run a program on a component of the state. -/
def zoom (view : σ → τ) (put : τ → σ → σ) (x : EStateM ε τ α) : EStateM ε σ α := fun s =>
  match x (view s) with
  | .ok a t => .ok a (put t s)
  | .error e t => .error e (put t s)

/-- Run a program, then put a component of the state back as it was, whichever way the
program ends. -/
def restoring (view : σ → τ) (put : τ → σ → σ) (x : EStateM ε σ α) : EStateM ε σ α := fun s =>
  match x s with
  | .ok a s' => .ok a (put (view s) s')
  | .error e s' => .error e (put (view s) s')

/-- A computed value, or the exception raised instead. -/
def fromExcept : Except ε α → EStateM ε σ α
  | .ok a => pure a
  | .error e => throw e

/-- Store a computed value in the state, unless an exception is raised instead. -/
def store (x : Except ε α) (put : α → σ → σ) : EStateM ε σ PUnit :=
  fromExcept x >>= fun a => modify (put a)

/-- Run a program where a condition holds. -/
def when (c : Prop) [Decidable c] (x : EStateM ε σ PUnit) : EStateM ε σ PUnit :=
  if c then x else pure ⟨⟩

/-- The state a program ends in, whichever way it ends. -/
def finalState (x : EStateM ε σ α) (s : σ) : σ :=
  match x s with
  | .ok _ s' => s'
  | .error _ s' => s'

/-- The value a program ends with, if it raises nothing. -/
def value? (x : EStateM ε σ α) (s : σ) : Option α :=
  match x s with
  | .ok a _ => some a
  | .error _ _ => none

variable {Q : α → σ → Prop} {E : ε → σ → Prop} {s : σ}

/-! ### Equations -/

@[simp] theorem wp_pure (a : α) : wp (pure a : EStateM ε σ α) Q E s ↔ Q a s := Iff.rfl

@[simp] theorem wp_throw (e : ε) : wp (throw e : EStateM ε σ α) Q E s ↔ E e s := Iff.rfl

@[simp] theorem wp_bind (x : EStateM ε σ β) (f : β → EStateM ε σ α) :
    wp (x >>= f) Q E s ↔ wp x (fun b s' => wp (f b) Q E s') E s := by
  show wp (EStateM.bind x f) Q E s ↔ _
  unfold wp EStateM.bind
  cases x s <;> rfl

@[simp] theorem wp_map (g : β → α) (x : EStateM ε σ β) :
    wp (g <$> x) Q E s ↔ wp x (fun b s' => Q (g b) s') E s := by
  show wp (EStateM.map g x) Q E s ↔ _
  unfold wp EStateM.map
  cases x s <;> rfl

@[simp] theorem wp_get {Q : σ → σ → Prop} :
    wp (get : EStateM ε σ σ) Q E s ↔ Q s s := Iff.rfl

@[simp] theorem wp_set (s' : σ) {Q : PUnit → σ → Prop} :
    wp (set s' : EStateM ε σ PUnit) Q E s ↔ Q ⟨⟩ s' := Iff.rfl

@[simp] theorem wp_modify (f : σ → σ) {Q : PUnit → σ → Prop} :
    wp (modify f : EStateM ε σ PUnit) Q E s ↔ Q ⟨⟩ (f s) := Iff.rfl

@[simp] theorem wp_tryCatch (x : EStateM ε σ α) (handle : ε → EStateM ε σ α) :
    wp (tryCatch x handle) Q E s ↔ wp x Q (fun e s' => wp (handle e) Q E s') s := by
  show wp (EStateM.tryCatch x handle) Q E s ↔ _
  unfold wp EStateM.tryCatch EStateM.Backtrackable.save EStateM.Backtrackable.restore
  cases x s <;> rfl

@[simp] theorem wp_zoom (view : σ → τ) (put : τ → σ → σ) (x : EStateM ε τ α) :
    wp (zoom view put x) Q E s ↔
      wp x (fun a t => Q a (put t s)) (fun e t => E e (put t s)) (view s) := by
  unfold wp zoom
  cases x (view s) <;> rfl

@[simp] theorem wp_restoring (view : σ → τ) (put : τ → σ → σ) (x : EStateM ε σ α) :
    wp (restoring view put x) Q E s ↔
      wp x (fun a s' => Q a (put (view s) s')) (fun e s' => E e (put (view s) s')) s := by
  unfold wp restoring
  cases x s <;> rfl

@[simp] theorem wp_fromExcept (x : Except ε α) :
    wp (fromExcept x : EStateM ε σ α) Q E s ↔
      (∀ a, x = .ok a → Q a s) ∧ ∀ e, x = .error e → E e s := by
  cases x with
  | ok | error => simp [fromExcept]

theorem wp_store {x : Except ε β} {put : β → σ → σ} {Q : PUnit → σ → Prop} :
    wp (store x put) Q E s ↔
      (∀ b, x = .ok b → Q ⟨⟩ (put b s)) ∧ ∀ e, x = .error e → E e s := by
  unfold store
  rw [wp_bind, wp_fromExcept]
  rfl

theorem wp_ite {c : Prop} [Decidable c] (x y : EStateM ε σ α) :
    wp (if c then x else y) Q E s ↔ (c → wp x Q E s) ∧ (¬ c → wp y Q E s) := by
  by_cases hc : c <;> simp [hc]

theorem wp_when {c : Prop} [Decidable c] {x : EStateM ε σ PUnit} {Q : PUnit → σ → Prop} :
    wp (when c x) Q E s ↔ (c → wp x Q E s) ∧ (¬ c → Q ⟨⟩ s) := wp_ite x (pure ⟨⟩)

variable {x : EStateM ε σ α}

/-- **Weakening.**  A program that ends well for one pair of conditions ends well for
every weaker pair. -/
theorem wp_mono {Q' : α → σ → Prop} {E' : ε → σ → Prop} (h : wp x Q E s)
    (hQ : ∀ a s', Q a s' → Q' a s') (hE : ∀ e s', E e s' → E' e s') : wp x Q' E' s := by
  unfold wp at h ⊢
  cases hx : x s with
  | ok a s' =>
      rw [hx] at h
      exact hQ a s' h
  | error e s' =>
      rw [hx] at h
      exact hE e s' h

/-- Two facts about one run hold together. -/
theorem wp_and {Q' : α → σ → Prop} {E' : ε → σ → Prop} (h : wp x Q E s) (h' : wp x Q' E' s) :
    wp x (fun a s' => Q a s' ∧ Q' a s') (fun e s' => E e s' ∧ E' e s') s := by
  unfold wp at h h' ⊢
  cases hx : x s with
  | ok | error =>
      rw [hx] at h h'
      exact ⟨h, h'⟩

variable {s' : σ}

theorem wp_of_ok {a : α} (h : x s = .ok a s') : wp x Q E s ↔ Q a s' := by
  unfold wp
  rw [h]

theorem wp_of_error {e : ε} (h : x s = .error e s') : wp x Q E s ↔ E e s' := by
  unfold wp
  rw [h]

/-- What the states alone satisfy is said of the final state. -/
theorem wp_state {P : σ → Prop} :
    wp x (fun _ s' => P s') (fun _ s' => P s') s ↔ P (finalState x s) := by
  unfold wp finalState
  cases x s <;> rfl

/-- A program comes to an end, also by an exception, in a state that satisfies `P`. -/
abbrev EndsIn (x : EStateM ε σ α) (P : σ → Prop) (s : σ) : Prop :=
  wp x (fun _ s' => P s') (fun _ s' => P s') s

theorem EndsIn.mono {P P' : σ → Prop} (h : EndsIn x P s) (hP : ∀ s', P s' → P' s') : EndsIn x P' s :=
  wp_mono h (fun _ => hP) fun _ => hP

theorem finalState_zoom (view : σ → τ) (put : τ → σ → σ) (x : EStateM ε τ α) (s : σ) :
    finalState (zoom view put x) s = put (finalState x (view s)) s := by
  unfold finalState zoom
  cases x (view s) <;> rfl

/-- How a program ends: with a value, or with an exception. -/
theorem wp_outcome (h : wp x Q E s) :
    (∃ a, value? x s = some a ∧ Q a (finalState x s)) ∨
      value? x s = none ∧ ∃ e, E e (finalState x s) := by
  unfold wp at h
  unfold value? finalState
  cases hx : x s with
  | ok a s' =>
      rw [hx] at h
      exact .inl ⟨a, rfl, h⟩
  | error e s' =>
      rw [hx] at h
      exact .inr ⟨rfl, e, h⟩

theorem finalState_map (g : α → β) (x : EStateM ε σ α) (s : σ) :
    finalState (g <$> x) s = finalState x s := by
  show (match EStateM.map g x s with
    | .ok _ s' => s'
    | .error _ s' => s') = _
  unfold EStateM.map finalState
  cases x s <;> rfl

theorem value?_map (g : α → β) (x : EStateM ε σ α) (s : σ) :
    value? (g <$> x) s = (value? x s).map g := by
  show (match EStateM.map g x s with
    | .ok a _ => some a
    | .error _ _ => none) = _
  unfold EStateM.map value?
  cases x s <;> rfl

/-- A stored value is the one computed. -/
theorem store_eq_ok {x : Except ε α} {put : α → σ → σ} (h : store x put s = .ok ⟨⟩ s') :
    ∃ a, x = .ok a ∧ s' = put a s := by
  cases x with
  | error e => cases h
  | ok a =>
      cases h
      exact ⟨a, rfl, rfl⟩

/-- Nothing is stored in place of an exception. -/
theorem store_eq_error {x : Except ε α} {put : α → σ → σ} {e : ε} {s' : σ}
    (h : store x put s = .error e s') : s' = s := by
  cases x with
  | error e' =>
      cases h
      rfl
  | ok a => cases h

/-- What follows a program without a change of state does not show in the final state. -/
theorem finalState_of_bind_pure {y : EStateM ε σ β} {g : β → α}
    (h : x s = (y >>= fun b => pure (g b) : EStateM ε σ α) s) :
    finalState x s = finalState y s := by
  unfold finalState
  rw [h]
  show (match EStateM.bind y (fun b => pure (g b)) s with
    | .ok _ s' => s'
    | .error _ s' => s') = _
  unfold EStateM.bind
  cases y s <;> rfl

variable {f : β → EStateM ε σ α}

/-- Where the first of two programs returns, the second ends the run. -/
theorem finalState_bind_of_ok {x : EStateM ε σ β} {b : β} {mid : σ} (h : x s = .ok b mid) :
    finalState (x >>= f) s = finalState (f b) mid := by
  show (match EStateM.bind x f s with
    | .ok _ s' => s'
    | .error _ s' => s') = _
  unfold EStateM.bind
  rw [h]
  rfl

/-- Where the first of two programs raises, the second is not run. -/
theorem finalState_bind_of_error {x : EStateM ε σ β} {e : ε} {mid : σ} (h : x s = .error e mid) :
    finalState (x >>= f) s = mid := by
  show (match EStateM.bind x f s with
    | .ok _ s' => s'
    | .error _ s' => s') = _
  unfold EStateM.bind
  rw [h]

variable {γ : Type u}

/-- A loop over no items changes nothing. -/
theorem finalState_forM_nil (body : γ → EStateM ε σ PUnit) (s : σ) :
    finalState ([].forM body) s = s := rfl

theorem forM_cons (body : γ → EStateM ε σ PUnit) (x : γ) (xs : List γ) :
    (x :: xs).forM body = (body x >>= fun _ => xs.forM body) := rfl

theorem get_bind (f : σ → EStateM ε σ α) : (get >>= f) s = f s s := rfl

theorem finalState_get_bind (f : σ → EStateM ε σ α) (s : σ) :
    finalState (get >>= f) s = finalState (f s) s := rfl

/-! ### Relations between the state before and after -/

/-- Whichever way `x` ends, its states before and after are related by `R`. -/
def Keeps (R : σ → σ → Prop) (x : EStateM ε σ α) : Prop :=
  ∀ s, wp x (fun _ s' => R s s') (fun _ s' => R s s') s

/-- The relation of states that agree on what `view` shows. -/
def Unchanged (view : σ → τ) (s s' : σ) : Prop := view s' = view s

instance (view : σ → τ) : Std.Refl (Unchanged view) := ⟨fun _ => rfl⟩

instance (view : σ → τ) : IsTrans σ (Unchanged view) := ⟨fun _ _ _ h h' => h'.trans h⟩

variable {R : σ → σ → Prop}

theorem Keeps.final (h : Keeps R x) (s : σ) : R s (finalState x s) :=
  wp_state.mp (h s)

theorem Keeps.of_ok (h : Keeps R x) {a : α} {s s' : σ} (hx : x s = .ok a s') : R s s' := by
  have hs := h s
  unfold wp at hs
  rwa [hx] at hs

theorem Keeps.of_error (h : Keeps R x) {e : ε} {s s' : σ} (hx : x s = .error e s') : R s s' := by
  have hs := h s
  unfold wp at hs
  rwa [hx] at hs

theorem Keeps.mono {R' : σ → σ → Prop} (h : Keeps R x) (himp : ∀ s s', R s s' → R' s s') :
    Keeps R' x :=
  fun s => wp_mono (h s) (fun _ s' => himp s s') (fun _ s' => himp s s')

theorem keeps_modify {f : σ → σ} (h : ∀ s, R s (f s)) :
    Keeps R (modify f : EStateM ε σ PUnit) := h

theorem keeps_store {x : Except ε γ} {put : γ → σ → σ} [Std.Refl R] (h : ∀ a s, R s (put a s)) :
    Keeps R (store x put) := by
  cases x with
  | error e => exact fun s => refl_of R s
  | ok a => exact fun s => h a s

theorem keeps_map {g : β → α} {x : EStateM ε σ β} (hx : Keeps R x) : Keeps R (g <$> x) := by
  intro s
  rw [wp_map]
  exact hx s

theorem keeps_ite {c : Prop} [Decidable c] {x y : EStateM ε σ α} (hx : c → Keeps R x)
    (hy : ¬ c → Keeps R y) : Keeps R (if c then x else y) := by
  by_cases hc : c
  · simpa [hc] using hx hc
  · simpa [hc] using hy hc

/-- A program on a component keeps `R` when every change of the component does. -/
theorem keeps_zoom {view : σ → τ} {put : τ → σ → σ} {x : EStateM ε τ α}
    (h : ∀ s t, R s (put t s)) : Keeps R (zoom view put x) := by
  intro s
  rw [wp_zoom]
  unfold wp
  cases x (view s) with
  | ok a t => exact h s t
  | error e t => exact h s t

section Reflexive

variable [Std.Refl R]

theorem keeps_pure (a : α) : Keeps R (pure a : EStateM ε σ α) := fun s => refl_of R s

theorem keeps_throw (e : ε) : Keeps R (throw e : EStateM ε σ α) := fun s => refl_of R s

theorem keeps_get : Keeps R (get : EStateM ε σ σ) := fun s => refl_of R s

theorem keeps_fromExcept (x : Except ε α) : Keeps R (fromExcept x : EStateM ε σ α) := by
  cases x with
  | ok a => exact keeps_pure a
  | error e => exact keeps_throw e

theorem keeps_when {c : Prop} [Decidable c] {x : EStateM ε σ PUnit} (h : c → Keeps R x) :
    Keeps R (when c x) := keeps_ite h fun _ => keeps_pure _

end Reflexive

section Transitive

variable [IsTrans σ R]

theorem keeps_bind {x : EStateM ε σ β} {f : β → EStateM ε σ α} (hx : Keeps R x)
    (hf : ∀ b, Keeps R (f b)) : Keeps R (x >>= f) := by
  intro s
  rw [wp_bind]
  refine wp_mono (hx s) (fun b s' hs => ?_) (fun _ _ hs => hs)
  exact wp_mono (hf b s') (fun _ _ h => trans_of R hs h) (fun _ _ h => trans_of R hs h)

theorem keeps_tryCatch {x : EStateM ε σ α} {handle : ε → EStateM ε σ α} (hx : Keeps R x)
    (hhandle : ∀ e, Keeps R (handle e)) : Keeps R (tryCatch x handle) := by
  intro s
  rw [wp_tryCatch]
  refine wp_mono (hx s) (fun _ _ hs => hs) (fun e s' hs => ?_)
  exact wp_mono (hhandle e s') (fun _ _ h => trans_of R hs h) (fun _ _ h => trans_of R hs h)

/-- A loop keeps what every round keeps. -/
theorem keeps_forM [Std.Refl R] {γ : Type u} {body : γ → EStateM ε σ PUnit} (xs : List γ)
    (h : ∀ x ∈ xs, Keeps R (body x)) : Keeps R (xs.forM body) := by
  induction xs with
  | nil => exact keeps_pure _
  | cons x rest ih =>
      refine keeps_bind (h x List.mem_cons_self) fun _ => ?_
      exact ih fun y hy => h y (List.mem_cons_of_mem x hy)

end Transitive

/-! ### Sequences -/

/-- What a sequence of two programs ends well with. -/
theorem bind_eq_ok {x : EStateM ε σ β} {a : α} :
    (x >>= f) s = .ok a s' ↔ ∃ b mid, x s = .ok b mid ∧ f b mid = .ok a s' := by
  show EStateM.bind x f s = _ ↔ _
  unfold EStateM.bind
  cases hx : x s with
  | ok b mid => exact ⟨fun h => ⟨b, mid, rfl, h⟩, fun ⟨_, _, h, h'⟩ => by
      cases h
      exact h'⟩
  | error e mid => exact ⟨nofun, fun ⟨_, _, h, _⟩ => nomatch h⟩

theorem fromExcept_eq_ok {x : Except ε α} {a : α} :
    (fromExcept x : EStateM ε σ α) s = .ok a s' ↔ x = .ok a ∧ s' = s := by
  cases x with
  | ok b =>
      constructor
      · intro h
        cases h
        exact ⟨rfl, rfl⟩
      · intro h
        obtain ⟨hvalue, hstate⟩ := h
        cases hvalue
        rw [hstate]
        rfl
  | error e =>
      constructor
      · intro h
        cases h
      · intro h
        cases h.1

/-- Where a sequence of two programs raises. -/
theorem bind_eq_error {x : EStateM ε σ β} {e : ε} :
    (x >>= f) s = .error e s' ↔
      x s = .error e s' ∨ ∃ b mid, x s = .ok b mid ∧ f b mid = .error e s' := by
  show EStateM.bind x f s = _ ↔ _
  unfold EStateM.bind
  cases hx : x s with
  | ok b mid =>
      refine ⟨fun h => .inr ⟨b, mid, rfl, h⟩, fun h => ?_⟩
      rcases h with h | ⟨_, _, h, h'⟩
      · cases h
      · cases h
        exact h'
  | error e' mid =>
      constructor
      · rintro ⟨⟩
        exact .inl rfl
      · rintro (h | ⟨_, _, h, _⟩)
        · cases h
          rfl
        · cases h

/-- A loop ends well in two parts. -/
theorem forM_append_eq_ok {body : γ → EStateM ε σ PUnit} {xs ys : List γ}
    (h : (xs ++ ys).forM body s = .ok ⟨⟩ s') :
    ∃ mid, xs.forM body s = .ok ⟨⟩ mid ∧ ys.forM body mid = .ok ⟨⟩ s' := by
  induction xs generalizing s with
  | nil => exact ⟨s, rfl, h⟩
  | cons x rest ih =>
      obtain ⟨_, next, hx, hrest⟩ := bind_eq_ok.mp h
      obtain ⟨mid, hmid, hys⟩ := ih hrest
      exact ⟨mid, bind_eq_ok.mpr ⟨_, next, hx, hmid⟩, hys⟩

/-- **An interrupted loop.**  The rounds before the one that raises end well, and nothing is done
for the rest. -/
theorem forM_eq_error {body : γ → EStateM ε σ PUnit} {xs : List γ} {e : ε}
    (h : xs.forM body s = .error e s') :
    ∃ before x after mid, xs = before ++ x :: after ∧ before.forM body s = .ok ⟨⟩ mid ∧
      body x mid = .error e s' := by
  induction xs generalizing s with
  | nil => cases h
  | cons x rest ih =>
      rcases bind_eq_error.mp h with hx | ⟨_, next, hx, hrest⟩
      · exact ⟨[], x, rest, s, rfl, rfl, hx⟩
      · obtain ⟨before, y, after, mid, rfl, hbefore, hy⟩ := ih hrest
        exact ⟨x :: before, y, after, mid, rfl, bind_eq_ok.mpr ⟨_, next, hx, hbefore⟩, hy⟩

/-! ### Relations with a fact about the value -/

/-- `x` keeps `R`, and a value it ends with satisfies `P`. -/
def Ensures (R : σ → σ → Prop) (P : α → Prop) (x : EStateM ε σ α) : Prop :=
  ∀ s, wp x (fun a s' => R s s' ∧ P a) (fun _ s' => R s s') s

variable {P : α → Prop}

theorem Ensures.keeps (h : Ensures R P x) : Keeps R x :=
  fun s => wp_mono (h s) (fun _ _ hs => hs.1) (fun _ _ hs => hs)

theorem Keeps.ensures (h : Keeps R x) (hP : ∀ a, P a) : Ensures R P x :=
  fun s => wp_mono (h s) (fun a _ hs => ⟨hs, hP a⟩) (fun _ _ hs => hs)

theorem Ensures.mono {R' : σ → σ → Prop} (h : Ensures R P x) (himp : ∀ s s', R s s' → R' s s') :
    Ensures R' P x :=
  fun s => wp_mono (h s) (fun _ s' hs => ⟨himp s s' hs.1, hs.2⟩) (fun _ s' => himp s s')

theorem ensures_ite {c : Prop} [Decidable c] {x y : EStateM ε σ α} (hx : c → Ensures R P x)
    (hy : ¬ c → Ensures R P y) : Ensures R P (if c then x else y) := by
  by_cases hc : c
  · simpa [hc] using hx hc
  · simpa [hc] using hy hc

theorem ensures_pure [Std.Refl R] {a : α} (h : P a) :
    Ensures R P (pure a : EStateM ε σ α) := fun s => ⟨refl_of R s, h⟩

theorem ensures_map {g : β → α} {x : EStateM ε σ β} (h : Ensures R (fun b => P (g b)) x) :
    Ensures R P (g <$> x) := by
  intro s
  rw [wp_map]
  exact h s

theorem ensures_bind [IsTrans σ R] {P : β → Prop} {P' : α → Prop} {x : EStateM ε σ β}
    (hx : Ensures R P x) (hf : ∀ b, P b → Ensures R P' (f b)) : Ensures R P' (x >>= f) := by
  intro s
  rw [wp_bind]
  refine wp_mono (hx s) (fun b s' hs => ?_) (fun _ _ hs => hs)
  exact wp_mono (hf b hs.2 s') (fun _ _ h => ⟨trans_of R hs.1 h.1, h.2⟩)
    (fun _ _ h => trans_of R hs.1 h)

theorem Keeps.bind [IsTrans σ R] {P : α → Prop} {x : EStateM ε σ β} {f : β → EStateM ε σ α}
    (hx : Keeps R x) (hf : ∀ b, Ensures R P (f b)) : Ensures R P (x >>= f) :=
  ensures_bind (hx.ensures fun _ => trivial) fun b _ => hf b

/-- What is kept from a state on is kept from every state before it. -/
theorem Ensures.after [IsTrans σ R] (hx : Ensures R P x) {s₀ : σ} (h : R s₀ s) :
    wp x (fun a s' => R s₀ s' ∧ P a) (fun _ s' => R s₀ s') s :=
  wp_mono (hx s) (fun _ _ hs => ⟨trans_of R h hs.1, hs.2⟩) (fun _ _ hs => trans_of R h hs)

theorem Keeps.after [IsTrans σ R] (hx : Keeps R x) {s₀ : σ} (h : R s₀ s) :
    wp x (fun _ s' => R s₀ s') (fun _ s' => R s₀ s') s :=
  wp_mono (hx s) (fun _ _ hs => trans_of R h hs) (fun _ _ hs => trans_of R h hs)

/-- What follows may rely on what is known of the value. -/
theorem Ensures.bind [IsTrans σ R] {P : β → Prop} {x : EStateM ε σ β} (hx : Ensures R P x)
    (hf : ∀ b, P b → Keeps R (f b)) : Keeps R (x >>= f) :=
  (ensures_bind hx fun b hb => (hf b hb).ensures fun _ => trivial).keeps

theorem ensures_get_bind {f : σ → EStateM ε σ α}
    (h : ∀ s, wp (f s) (fun a s' => R s s' ∧ P a) (fun _ s' => R s s') s) :
    Ensures R P (get >>= f) := h

theorem ensures_zoom {view : σ → τ} {put : τ → σ → σ} {x : EStateM ε τ α}
    (hx : ∀ t, wp x (fun a _ => P a) (fun _ _ => True) t) (h : ∀ s t, R s (put t s)) :
    Ensures R P (zoom view put x) := by
  intro s
  rw [wp_zoom]
  exact wp_mono (hx (view s)) (fun _ t ht => ⟨h s t, ht⟩) (fun _ t _ => h s t)

/-! ### Lists of values -/

section Lists

variable {γ δ : Type} {ε' : Type}

/-- A list is computed exactly when each of its values is. -/
theorem mapM_eq_ok_iff {f : δ → Except ε' γ} {ys : List δ} {xs : List γ} :
    ys.mapM f = .ok xs ↔ List.Forall₂ (fun y x => f y = .ok x) ys xs := by
  induction ys generalizing xs with
  | nil =>
      rw [List.mapM_nil, List.forall₂_nil_left_iff]
      constructor
      · intro h
        exact (Except.ok.inj h).symm
      · intro h
        rw [h]
        rfl
  | cons y ys ih =>
      rw [List.mapM_cons, List.forall₂_cons_left_iff]
      cases hy : f y with
      | error e =>
          constructor
          · intro h
            cases h
          · intro h
            obtain ⟨x, _, hx, _⟩ := h
            cases hx
      | ok x =>
          cases hrest : ys.mapM f with
          | error e =>
              constructor
              · intro h
                cases h
              · intro h
                obtain ⟨_, xs', _, hxs', _⟩ := h
                rw [ih.mpr hxs'] at hrest
                cases hrest
          | ok rest =>
              constructor
              · intro h
                cases h
                exact ⟨x, rest, rfl, ih.mp hrest, rfl⟩
              · intro h
                obtain ⟨x', xs', hx', hxs', rfl⟩ := h
                rw [ih.mpr hxs'] at hrest
                cases hx'
                cases hrest
                rfl

theorem mapM_congr_of_mem {f g : δ → Except ε' γ} {ys : List δ} (h : ∀ y ∈ ys, f y = g y) :
    ys.mapM f = ys.mapM g := by
  induction ys with
  | nil => rfl
  | cons y ys ih =>
      rw [List.mapM_cons, List.mapM_cons, h y List.mem_cons_self,
        ih fun z hz => h z (List.mem_cons_of_mem _ hz)]

theorem mapM_range_eq_ok_iff {f : Nat → Except ε' γ} {xs : List γ} :
    (List.range xs.length).mapM f = .ok xs ↔ ∀ i (h : i < xs.length), f i = .ok xs[i] := by
  rw [mapM_eq_ok_iff, List.forall₂_iff_get]
  simp

end Lists

end Effects
