import Mathlib.Data.List.Basic
import Mathlib.Logic.Function.Basic

/-!
# Switchboards

Several parties switch the same lines.  A board remembers for each line who took it off last; an
entry is made only when a line changes from on to off, and goes when the line comes on again.

A party that puts back what another took off is rightful where every line it switches on was last
taken off by that other.  It is so as long as the lines it has to put back are off by nobody else.
-/

namespace Switchboard

variable {κ γ : Type} [DecidableEq κ]

/-- A line is switched. -/
structure Write (κ γ : Type) where
  line : κ
  on : Bool
  cause : γ
  deriving DecidableEq

/-- The lines, and who took them off. -/
structure Board (κ γ : Type) where
  lines : κ → Bool
  offBy : κ → Option γ

namespace Board

/-- What a write changes. -/
def write (b : Board κ γ) (w : Write κ γ) : Board κ γ where
  lines := Function.update b.lines w.line w.on
  offBy :=
    if b.lines w.line = w.on then b.offBy
    else Function.update b.offBy w.line (if w.on then none else some w.cause)

/-- Several writes, one after the other. -/
def writes (b : Board κ γ) (ws : List (Write κ γ)) : Board κ γ := ws.foldl write b

@[simp] theorem writes_cons (b : Board κ γ) (w : Write κ γ) (ws : List (Write κ γ)) :
    b.writes (w :: ws) = (b.write w).writes ws := rfl

theorem writes_append (b : Board κ γ) (ws ws' : List (Write κ γ)) :
    b.writes (ws ++ ws') = (b.writes ws).writes ws' := List.foldl_append

@[simp] theorem write_lines (b : Board κ γ) (w : Write κ γ) :
    (b.write w).lines = Function.update b.lines w.line w.on := rfl

/-- Who took a line off makes no difference to the lines. -/
theorem writes_lines (b : Board κ γ) (ws : List (Write κ γ)) :
    (b.writes ws).lines = ws.foldl (fun lines w => Function.update lines w.line w.on) b.lines := by
  induction ws generalizing b with
  | nil => rfl
  | cons w ws ih => rw [writes_cons, ih, write_lines, List.foldl_cons]

variable {w : Write κ γ}

theorem write_lines_ne (b : Board κ γ) {line : κ} (h : line ≠ w.line) :
    (b.write w).lines line = b.lines line := Function.update_of_ne h _ _

theorem write_lines_same (b : Board κ γ) (w : Write κ γ) : (b.write w).lines w.line = w.on :=
  Function.update_self _ _ _

theorem write_offBy_ne (b : Board κ γ) {line : κ} (h : line ≠ w.line) :
    (b.write w).offBy line = b.offBy line := by
  unfold write
  split
  · rfl
  · exact Function.update_of_ne h _ _

variable {b : Board κ γ}

/-- A write of what a line has changes nothing. -/
theorem write_same (h : b.lines w.line = w.on) : b.write w = b := by
  unfold write
  rw [if_pos h, ← h, Function.update_eq_self]

theorem write_offBy_off (hwas : b.lines w.line = true) (hoff : w.on = false) :
    (b.write w).offBy w.line = some w.cause := by
  unfold write
  dsimp only
  rw [if_neg (by simp [hwas, hoff]), Function.update_self, hoff]
  rfl

/-- Every line that `undo` switches on was last taken off by `own`. -/
def Rightful (undo own : γ) (b : Board κ γ) : List (Write κ γ) → Prop
  | [] => True
  | w :: ws =>
      (w.cause = undo → w.on = true → b.lines w.line = false → b.offBy w.line = some own) ∧
        (b.write w).Rightful undo own ws

instance decidableRightful [DecidableEq γ] (undo own : γ) :
    ∀ (b : Board κ γ) (ws : List (Write κ γ)), Decidable (b.Rightful undo own ws)
  | _, [] => isTrue trivial
  | b, w :: ws => @instDecidableAnd _ _ _ (decidableRightful undo own (b.write w) ws)

variable {undo own : γ}

theorem rightful_append {ws ws' : List (Write κ γ)} :
    b.Rightful undo own (ws ++ ws') ↔
      b.Rightful undo own ws ∧ (b.writes ws).Rightful undo own ws' := by
  induction ws generalizing b with
  | nil => exact ⟨fun h => ⟨trivial, h⟩, fun h => h.2⟩
  | cons w ws ih =>
      rw [List.cons_append, Rightful, Rightful, ih, writes_cons, and_assoc]

/-- Writes of others are rightful. -/
theorem rightful_of_others {ws : List (Write κ γ)} (h : ∀ w ∈ ws, w.cause ≠ undo) :
    b.Rightful undo own ws := by
  induction ws generalizing b with
  | nil => trivial
  | cons w ws ih =>
      have hparts := List.forall_mem_cons.mp h
      exact ⟨fun hcause => absurd hcause hparts.1, ih hparts.2⟩

/-- The lines that are owed are off by nobody but `own`. -/
def Owed (own : γ) (owed : List κ) (b : Board κ γ) : Prop :=
  ∀ line ∈ owed, b.lines line = false → b.offBy line = some own

variable {owed : List κ}

/-- A line that comes on is owed no longer to be put back. -/
theorem Owed.write_on (h : b.Owed own owed) (hon : w.on = true) : (b.write w).Owed own owed := by
  intro line hmem hoff
  by_cases hline : line = w.line
  · subst hline
    rw [write_lines_same, hon] at hoff
    cases hoff
  · rw [write_lines_ne b hline] at hoff
    rw [write_offBy_ne b hline]
    exact h line hmem hoff

/-- Nobody but `own` takes off a line that is owed. -/
theorem Owed.write_off (h : b.Owed own owed) (hoff : w.on = false)
    (hown : w.cause = own ∨ w.line ∉ owed ∨ b.lines w.line = false) :
    (b.write w).Owed own owed := by
  cases hwas : b.lines w.line with
  | false =>
      rw [write_same (hwas.trans hoff.symm)]
      exact h
  | true =>
      intro line hmem hline
      by_cases hsame : line = w.line
      · subst hsame
        rw [write_offBy_off hwas hoff]
        rcases hown with hown | hown | hown
        · rw [hown]
        · exact absurd hmem hown
        · cases hwas.symm.trans hown
      · rw [write_lines_ne b hsame] at hline
        rw [write_offBy_ne b hsame]
        exact h line hmem hline

/-- What `own` takes off is owed. -/
theorem Owed.owe (h : b.Owed own owed) {line : κ} (hwas : b.lines line = true) :
    (b.write ⟨line, false, own⟩).Owed own (owed ++ [line]) := by
  intro other hmem hoff
  rcases List.mem_append.mp hmem with hold | hnew
  · exact h.write_off rfl (.inl rfl) other hold hoff
  · obtain rfl := List.mem_singleton.mp hnew
    exact write_offBy_off hwas rfl

/-- Writes to different lines, none of which takes off a line that is owed. -/
theorem Owed.writes (h : b.Owed own owed) {ws : List (Write κ γ)}
    (hlines : (ws.map Write.line).Nodup)
    (hfree : ∀ w ∈ ws, w.on = false → w.line ∈ owed → b.lines w.line = false) :
    (b.writes ws).Owed own owed := by
  induction ws generalizing b with
  | nil => exact h
  | cons w ws ih =>
      have hparts := List.nodup_cons.mp hlines
      have hall := List.forall_mem_cons.mp hfree
      have hfirst : (b.write w).Owed own owed := by
        cases hon : w.on with
        | true => exact h.write_on hon
        | false =>
            refine h.write_off hon ?_
            by_cases hmem : w.line ∈ owed
            · exact .inr (.inr (hall.1 hon hmem))
            · exact .inr (.inl hmem)
      refine ih hfirst hparts.2 fun other hmem hoff howed => ?_
      have hne : other.line ≠ w.line := fun heq => hparts.1 (heq ▸ List.mem_map_of_mem hmem)
      rw [write_lines_ne b hne]
      exact hall.2 other hmem hoff howed

/-- Lines that several writes of one kind take off. -/
theorem Owed.writes_off (h : b.Owed own owed) (cause : γ) (lines : List κ)
    (hfree : ∀ line ∈ lines, line ∈ owed → b.lines line = false) :
    (b.writes (lines.map fun line => ⟨line, false, cause⟩)).Owed own owed := by
  induction lines generalizing b with
  | nil => exact h
  | cons line lines ih =>
      have hparts := List.forall_mem_cons.mp hfree
      refine ih (h.write_off rfl ?_) fun other hmem howed => ?_
      · by_cases hmem : line ∈ owed
        · exact .inr (.inr (hparts.1 hmem))
        · exact .inr (.inl hmem)
      · by_cases hsame : other = line
        · subst hsame
          exact write_lines_same b _
        · rw [write_lines_ne b hsame]
          exact hparts.2 other hmem howed

end Board

end Switchboard
