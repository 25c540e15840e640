import Mathlib.Data.List.Basic

/-!
# Consumers fed chunk by chunk

A consumer takes its input in chunks and may answer each chunk with any number of
outputs, keeping what it cannot use yet.  Where the chunks are cut should not
matter.  The rule below reduces that to one chunk: an invariant relates the state
and the input still to come to the outputs still to come, each chunk keeps it, and
with no input to come nothing is left to output.

Nothing here depends on what the consumer does with its input.
-/

namespace Streaming

variable {σ β γ : Type*} (feed : σ → List β → List γ × σ)

/-- All outputs of a consumer fed a sequence of chunks. -/
def feedAll : σ → List (List β) → List γ
  | _, [] => []
  | s, chunk :: chunks => (feed s chunk).1 ++ feedAll (feed s chunk).2 chunks

/-- A condition on state and chunk that holds at every chunk of a run. -/
def Throughout (ok : σ → List β → Prop) : σ → List (List β) → Prop
  | _, [] => True
  | s, chunk :: chunks => ok s chunk ∧ Throughout ok (feed s chunk).2 chunks

variable {feed}

instance Throughout.decidable {ok : σ → List β → Prop} [∀ s chunk, Decidable (ok s chunk)] :
    ∀ s chunks, Decidable (Throughout feed ok s chunks)
  | _, [] => isTrue trivial
  | s, chunk :: chunks =>
      haveI : Decidable (Throughout feed ok (feed s chunk).2 chunks) :=
        Throughout.decidable (feed s chunk).2 chunks
      inferInstanceAs (Decidable (_ ∧ _))

/-- **Chunk boundaries do not matter.**  If one chunk takes `Inv` from the input and
the outputs to come before it to those after it, and nothing is to come when the
input is over, a run outputs exactly what is to come at its start. -/
theorem feedAll_eq {ok : σ → List β → Prop} (Inv : σ → List β → List γ → Prop)
    (hstep : ∀ s chunk input out, ok s chunk → Inv s (chunk ++ input) out →
      ∃ rest, out = (feed s chunk).1 ++ rest ∧ Inv (feed s chunk).2 input rest)
    (hend : ∀ s out, Inv s [] out → out = []) {s : σ} {chunks : List (List β)}
    {out : List γ} (hinv : Inv s chunks.flatten out) (hok : Throughout feed ok s chunks) :
    feedAll feed s chunks = out := by
  induction chunks generalizing s out with
  | nil => exact (hend s out hinv).symm
  | cons chunk chunks ih =>
      obtain ⟨rest, rfl, hrest⟩ := hstep s chunk chunks.flatten out hok.1 hinv
      rw [feedAll, ih hrest hok.2]

/-- A consumer that goes through its input item by item does not see the cuts. -/
theorem feedAll_flatten (hnil : ∀ s, (feed s []).1 = [])
    (happend : ∀ s xs ys, (feed s (xs ++ ys)).1 = (feed s xs).1 ++ (feed (feed s xs).2 ys).1)
    (s : σ) (chunks : List (List β)) : feedAll feed s chunks = (feed s chunks.flatten).1 := by
  induction chunks generalizing s with
  | nil => exact (hnil s).symm
  | cons chunk chunks ih => rw [feedAll, ih, List.flatten_cons, happend]

/-! ### Decoders that keep what they cannot use yet -/

section Decoder

variable {next : List β → Option (List γ × List β)}

/-- Taking from the front as long as `next` finds something: the outputs, and the
input left when it finds nothing more. -/
inductive Drains (next : List β → Option (List γ × List β)) :
    List β → List γ → List β → Prop
  | stop {input : List β} (hnext : next input = none) : Drains next input [] input
  | more {input rest left : List β} {out outs : List γ}
      (hnext : next input = some (out, rest)) (tail : Drains next rest outs left) :
      Drains next input (out ++ outs) left

/-- What is found does not depend on the input behind it. -/
def LooksAhead (next : List β → Option (List γ × List β)) : Prop :=
  ∀ input out rest more, next input = some (out, rest) →
    next (input ++ more) = some (out, rest ++ more)

theorem Drains.left_drained {input left : List β} {outs : List γ}
    (h : Drains next input outs left) : next left = none := by
  induction h with
  | stop hnext => exact hnext
  | more _ _ ih => exact ih

theorem Drains.unique {input left left' : List β} {outs outs' : List γ}
    (h : Drains next input outs left) (h' : Drains next input outs' left') :
    outs = outs' ∧ left = left' := by
  induction h generalizing outs' with
  | stop hnext =>
      cases h' with
      | stop _ => exact ⟨rfl, rfl⟩
      | more hnext' _ =>
          rw [hnext] at hnext'
          cases hnext'
  | more hnext _ ih =>
      cases h' with
      | stop hnext' =>
          rw [hnext] at hnext'
          cases hnext'
      | more hnext' tail' =>
          rw [hnext] at hnext'
          cases hnext'
          obtain ⟨houts, hleft⟩ := ih tail'
          exact ⟨by rw [houts], hleft⟩

/-- What was left is taken up again with the input that follows. -/
theorem Drains.append (hnext : LooksAhead next) {input left more left' : List β}
    {outs outs' : List γ} (h : Drains next input outs left)
    (h' : Drains next (left ++ more) outs' left') :
    Drains next (input ++ more) (outs ++ outs') left' := by
  induction h with
  | stop _ => exact h'
  | more hfound _ ih =>
      rw [List.append_assoc]
      exact Drains.more (hnext _ _ _ more hfound) (ih h')

/-- **One chunk or many.**  A consumer that drains what it kept together with each
chunk outputs what it would output on the whole input at once. -/
theorem feedAll_drains {feed : List β → List β → List γ × List β} (hnext : LooksAhead next)
    (hfeed : ∀ kept chunk, Drains next (kept ++ chunk) (feed kept chunk).1 (feed kept chunk).2)
    {kept left : List β} {chunks : List (List β)} {outs : List γ} (hkept : next kept = none)
    (h : Drains next (kept ++ chunks.flatten) outs left) : feedAll feed kept chunks = outs := by
  let Inv : List β → List β → List γ → Prop := fun kept input outs =>
    next kept = none ∧ Drains next (kept ++ input) outs left
  have hstep : ∀ kept chunk input outs, True → Inv kept (chunk ++ input) outs →
      ∃ rest, outs = (feed kept chunk).1 ++ rest ∧ Inv (feed kept chunk).2 input rest := by
    intro kept chunk input outs _ hinv
    have hchunk := hfeed kept chunk
    have htail := hfeed (feed kept chunk).2 input
    have hwhole := hchunk.append hnext htail
    rw [List.append_assoc] at hwhole
    obtain ⟨houts, hleft⟩ := hinv.2.unique hwhole
    exact ⟨_, houts, hchunk.left_drained, hleft ▸ htail⟩
  have hend : ∀ kept outs, Inv kept [] outs → outs = [] := by
    intro kept outs hinv
    obtain ⟨hdrained, hdrains⟩ := hinv
    rw [List.append_nil] at hdrains
    exact (hdrains.unique (Drains.stop hdrained)).1
  have hok : ∀ kept (chunks : List (List β)), Throughout feed (fun _ _ => True) kept chunks := by
    intro kept chunks
    induction chunks generalizing kept with
    | nil => exact trivial
    | cons chunk chunks ih => exact ⟨trivial, ih _⟩
  exact feedAll_eq Inv hstep hend ⟨hkept, h⟩ (hok kept chunks)

end Decoder

end Streaming
