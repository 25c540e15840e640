import MissionSim.Effects

/-!
# Programs whose refusals leave no trace

A command answers, and some answers refuse it.  `Spares R refuses x` says that `x` changes the state
along `R` only, and not at all where its answer refuses or it raises an exception.

A program spares the state if it reads first and writes last: reading is free, and what is written
last is answered with success.
-/

namespace Effects

universe u

variable {ε σ α β : Type u} {R : σ → σ → Prop} {refuses : α → Prop}

/-- What `x` refuses, or raises, leaves the state as it was; and `x` keeps `R`. -/
def Spares (R : σ → σ → Prop) (refuses : α → Prop) (x : EStateM ε σ α) : Prop :=
  ∀ s, wp x (fun a s' => R s s' ∧ (refuses a → s' = s)) (fun _ s' => s' = s) s

theorem spares_pure [Std.Refl R] (a : α) : Spares R refuses (pure a : EStateM ε σ α) :=
  fun s => ⟨refl_of R s, fun _ => rfl⟩

theorem spares_throw (e : ε) : Spares R refuses (throw e : EStateM ε σ α) := fun _ => rfl

theorem spares_read {f : σ → EStateM ε σ α} (h : ∀ s, Spares R refuses (f s)) :
    Spares R refuses (get >>= f) := fun s => h s s

theorem spares_parse {x : Except ε β} {f : β → EStateM ε σ α} (h : ∀ b, Spares R refuses (f b)) :
    Spares R refuses (fromExcept x >>= f) := by
  cases x with
  | ok b => exact h b
  | error e => exact spares_throw e

theorem spares_ite {c : Prop} [Decidable c] {x y : EStateM ε σ α} (hx : Spares R refuses x)
    (hy : Spares R refuses y) : Spares R refuses (if c then x else y) := by
  split
  · exact hx
  · exact hy

/-- What is written before an answer that does not refuse. -/
theorem spares_write {f : σ → σ} {a : α} (hf : ∀ s, R s (f s)) (ha : ¬ refuses a) :
    Spares R refuses (modify f >>= fun _ => (pure a : EStateM ε σ α)) :=
  fun s => ⟨hf s, fun h => absurd h ha⟩

/-- An answer of `x` in a state that refuses leaves the state as it was. -/
def Traceless (refuses : α → Prop) (x : EStateM ε σ α) (s : σ) : Prop :=
  ∀ a s', x s = .ok a s' → refuses a → s' = s

/-- **A refusal leaves no trace.** -/
theorem Spares.traceless {x : EStateM ε σ α} (h : Spares R refuses x) (s : σ) :
    Traceless refuses x s := by
  intro a s' hx ha
  exact ((wp_of_ok hx).mp (h s)).2 ha

/-- Any change of state. -/
abbrev Anyhow : σ → σ → Prop := fun _ _ => True

instance : Std.Refl (Anyhow : σ → σ → Prop) := ⟨fun _ => trivial⟩

theorem Spares.keeps [Std.Refl R] {x : EStateM ε σ α} (h : Spares R refuses x) : Keeps R x :=
  fun s => wp_mono (h s) (fun _ _ hR => hR.1) fun _ s' hs => by
    rw [hs]
    exact refl_of R s

end Effects
