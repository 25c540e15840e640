import MissionSim.Python
import MissionSim.Runs
import Mathlib.Data.List.Induction
import Mathlib.Data.List.Perm.Basic

/-!
# One slot for each key

Items come one after another, each with a key.  Some open: they are put into the slot of their key.
Some close: they take out what the slot of their key holds, and are paired with it.

What opened is then paired or still in a slot, each once, as long as nothing opens into a slot that
is taken (`perm_opened`); and only then (`fresh_of_perm`).
-/

namespace Slots

open Python Runs Dict

variable {τ κ : Type}

/-- What an item does to the slot of its key. -/
inductive Role
  | opens
  | closes
  | nothing
deriving DecidableEq

/-- The slots, and who closed what so far: what opened comes first in a pair. -/
structure State (κ τ : Type) where
  slots : Dict κ τ := Dict.empty
  paired : List (τ × τ) := []

variable [DecidableEq κ] (role : τ → Role) (key : τ → κ)

def step (s : State κ τ) (x : τ) : State κ τ :=
  match role x with
  | .opens => { s with slots := s.slots.set (key x) x }
  | .closes =>
      match s.slots.get? (key x) with
      | some e => { slots := s.slots.erase (key x), paired := s.paired ++ [(e, x)] }
      | none => s
  | .nothing => s

/-- The items are taken one after another, from empty slots on. -/
def run (xs : List τ) : State κ τ := after (step role key) {} xs

/-- What opens. -/
def opened (xs : List τ) : List τ := xs.filter fun x => role x = .opens

/-- Nothing opens into a slot that is taken. -/
def Fresh (xs : List τ) : Prop :=
  ∀ pre x post, xs = pre ++ x :: post → role x = .opens →
    (run role key pre).slots.get? (key x) = none

variable {role key} {s : State κ τ} {x : τ}

/-! ### One step -/

theorem step_opens (h : role x = .opens) :
    step role key s x = { s with slots := s.slots.set (key x) x } := by
  unfold step
  rw [h]

theorem step_closes {e : τ} (h : role x = .closes) (hget : s.slots.get? (key x) = some e) :
    step role key s x =
      { slots := s.slots.erase (key x), paired := s.paired ++ [(e, x)] } := by
  unfold step
  rw [h, hget]

theorem step_closes_none (h : role x = .closes) (hget : s.slots.get? (key x) = none) :
    step role key s x = s := by
  unfold step
  rw [h, hget]

theorem step_nothing (h : role x = .nothing) : step role key s x = s := by
  unfold step
  rw [h]

theorem get?_step_opens (h : role x = .opens) (k : κ) :
    (step role key s x).slots.get? k = if k = key x then some x else s.slots.get? k := by
  rw [step_opens h]
  by_cases hk : k = key x
  · rw [if_pos hk, hk]
    exact get?_set_same s.slots (key x) x
  · rw [if_neg hk]
    exact get?_set_ne s.slots hk x

theorem get?_step_closes (h : role x = .closes) (k : κ) :
    (step role key s x).slots.get? k = if k = key x then none else s.slots.get? k := by
  cases hget : s.slots.get? (key x) with
  | some e =>
      rw [step_closes h hget]
      exact get?_erase s.slots (key x) k
  | none =>
      rw [step_closes_none h hget]
      by_cases hk : k = key x
      · rw [if_pos hk, hk, hget]
      · rw [if_neg hk]

/-- A step pairs at most the item that closes. -/
theorem mem_paired_step {p : τ × τ} :
    p ∈ (step role key s x).paired ↔
      p ∈ s.paired ∨ p.2 = x ∧ role x = .closes ∧ s.slots.get? (key x) = some p.1 := by
  cases hrole : role x with
  | opens =>
      rw [step_opens hrole]
      simp
  | nothing =>
      rw [step_nothing hrole]
      simp
  | closes =>
      cases hget : s.slots.get? (key x) with
      | none =>
          rw [step_closes_none hrole hget]
          simp
      | some e =>
          rw [step_closes hrole hget]
          simp only [List.mem_append, List.mem_singleton, Option.some.injEq, true_and]
          constructor
          · intro h
            rcases h with h | rfl
            · exact Or.inl h
            · exact Or.inr ⟨rfl, rfl⟩
          · intro h
            exact h.imp_right fun heq => Prod.ext heq.2.symm heq.1

/-! ### The run -/

theorem run_concat (xs : List τ) (x : τ) :
    run role key (xs ++ [x]) = step role key (run role key xs) x :=
  after_concat xs x

/-- A list with one more item is cut before that item, or within. -/
theorem concat_eq_cut {xs pre post : List τ} {x y : τ} (h : xs ++ [x] = pre ++ y :: post) :
    (pre = xs ∧ y = x ∧ post = []) ∨ ∃ post', post = post' ++ [x] ∧ xs = pre ++ y :: post' := by
  rcases List.eq_nil_or_concat post with rfl | ⟨post', z, rfl⟩
  · have hinj := List.append_inj' h rfl
    exact Or.inl ⟨hinj.1.symm, (List.cons.inj hinj.2).1.symm, rfl⟩
  · rw [List.concat_eq_append, ← List.cons_append, ← List.append_assoc] at h
    have hinj := List.append_inj' h rfl
    exact Or.inr ⟨post', by rw [List.concat_eq_append, (List.cons.inj hinj.2).1], hinj.1⟩

variable {xs : List τ}

/-- The slot of a key holds what opened it last, if nothing of that key opened or closed since. -/
theorem get?_run_iff {k : κ} {e : τ} :
    (run role key xs).slots.get? k = some e ↔
      ∃ pre mid, xs = pre ++ e :: mid ∧ role e = .opens ∧ key e = k ∧
        ∀ y ∈ mid, key y = k → role y = .nothing := by
  induction xs using List.reverseRecOn with
  | nil =>
      constructor
      · intro h
        cases h
      · rintro ⟨pre, mid, h, _⟩
        simp at h
  | append_singleton xs x ih =>
      rw [run_concat]
      constructor
      · intro h
        have hkeep : (run role key xs).slots.get? k = some e → (key x = k → role x = .nothing) →
            ∃ pre mid, xs ++ [x] = pre ++ e :: mid ∧ role e = .opens ∧ key e = k ∧
              ∀ y ∈ mid, key y = k → role y = .nothing := by
          intro hold hx
          obtain ⟨pre, mid, rfl, hopens, hkey, hmid⟩ := ih.mp hold
          refine ⟨pre, mid ++ [x], by simp, hopens, hkey, fun y hy => ?_⟩
          rcases List.mem_append.mp hy with hy | hy
          · exact hmid y hy
          · rw [List.mem_singleton.mp hy]
            exact hx
        cases hrole : role x with
        | opens =>
            rw [get?_step_opens hrole] at h
            by_cases hk : k = key x
            · rw [if_pos hk] at h
              cases h
              exact ⟨xs, [], rfl, hrole, hk.symm, fun y hy => nomatch hy⟩
            · rw [if_neg hk] at h
              exact hkeep h fun heq => absurd heq.symm hk
        | closes =>
            rw [get?_step_closes hrole] at h
            by_cases hk : k = key x
            · rw [if_pos hk] at h
              cases h
            · rw [if_neg hk] at h
              exact hkeep h fun heq => absurd heq.symm hk
        | nothing =>
            rw [step_nothing hrole] at h
            exact hkeep h fun _ => hrole
      · rintro ⟨pre, mid, hcut, hopens, hkey, hmid⟩
        rcases concat_eq_cut hcut with ⟨rfl, rfl, rfl⟩ | ⟨mid', rfl, hxs⟩
        · rw [get?_step_opens hopens, if_pos hkey.symm]
        · have hold := ih.mpr ⟨pre, mid', hxs, hopens, hkey,
            fun y hy => hmid y (List.mem_append_left [x] hy)⟩
          have hx := hmid x (List.mem_append_right mid' List.mem_cons_self)
          by_cases hk : k = key x
          · rw [step_nothing (hx hk.symm)]
            exact hold
          · cases hrole : role x with
            | opens => rw [get?_step_opens hrole, if_neg hk, hold]
            | closes => rw [get?_step_closes hrole, if_neg hk, hold]
            | nothing => rw [step_nothing hrole, hold]

/-- What closes is paired with what the slot of its key holds just then. -/
theorem mem_paired_run {p : τ × τ} :
    p ∈ (run role key xs).paired ↔
      ∃ pre post, xs = pre ++ p.2 :: post ∧ role p.2 = .closes ∧
        (run role key pre).slots.get? (key p.2) = some p.1 := by
  induction xs using List.reverseRecOn with
  | nil =>
      constructor
      · intro h
        cases h
      · rintro ⟨pre, post, h, _⟩
        simp at h
  | append_singleton xs x ih =>
      rw [run_concat, mem_paired_step, ih]
      constructor
      · rintro (⟨pre, post, rfl, hp⟩ | ⟨rfl, hrole, hget⟩)
        · exact ⟨pre, post ++ [x], by simp, hp⟩
        · exact ⟨xs, [], rfl, hrole, hget⟩
      · rintro ⟨pre, post, hcut, hp⟩
        rcases concat_eq_cut hcut with ⟨rfl, heq, rfl⟩ | ⟨post', rfl, hxs⟩
        · exact Or.inr ⟨heq, heq ▸ hp.1, heq ▸ hp.2⟩
        · exact Or.inl ⟨pre, post', hxs, hp⟩

/-- What is paired stays paired, and what comes later pairs only itself. -/
theorem mem_paired_append {pre post : List τ} {p : τ × τ} :
    (p ∈ (run role key pre).paired → p ∈ (run role key (pre ++ post)).paired) ∧
      (p ∈ (run role key (pre ++ post)).paired → p ∈ (run role key pre).paired ∨ p.2 ∈ post) := by
  induction post using List.reverseRecOn with
  | nil =>
      rw [List.append_nil]
      exact ⟨id, Or.inl⟩
  | append_singleton post x ih =>
      rw [← List.append_assoc, run_concat, mem_paired_step]
      constructor
      · intro h
        exact Or.inl (ih.1 h)
      · rintro (h | ⟨rfl, _⟩)
        · exact (ih.2 h).imp_right fun hmem => List.mem_append_left [x] hmem
        · exact Or.inr (List.mem_append_right post List.mem_cons_self)

/-- Each closes at most once, in order. -/
theorem map_snd_paired_sublist (xs : List τ) :
    ((run role key xs).paired.map Prod.snd).Sublist (xs.filter fun x => role x = .closes) := by
  induction xs using List.reverseRecOn with
  | nil => exact List.Sublist.refl []
  | append_singleton xs x ih =>
      rw [run_concat, List.filter_append]
      cases hrole : role x with
      | opens =>
          rw [step_opens hrole]
          exact ih.trans (List.sublist_append_left _ _)
      | nothing =>
          rw [step_nothing hrole]
          exact ih.trans (List.sublist_append_left _ _)
      | closes =>
          cases hget : (run role key xs).slots.get? (key x) with
          | none =>
              rw [step_closes_none hrole hget]
              exact ih.trans (List.sublist_append_left _ _)
          | some e =>
              rw [step_closes hrole hget, List.map_append]
              have hone : [x].filter (fun x => role x = .closes) = [x] := by simp [hrole]
              rw [hone]
              exact ih.append (List.Sublist.refl [x])

/-! ### Nothing is lost -/

theorem values_set_of_none {d : Dict κ τ} {k : κ} (h : d.get? k = none) (x : τ) :
    (d.set k x).values = d.values ++ [x] := by
  have habsent : k ∉ d.items.map Prod.fst := by
    intro hmem
    obtain ⟨v, hv⟩ := mem_keys_iff.mp hmem
    rw [h] at hv
    cases hv
  show (assign k x d.items).map Prod.snd = _
  rw [assign_of_not_mem x habsent, List.map_append]
  rfl

theorem values_erase_perm {d : Dict κ τ} {k : κ} {e : τ} (h : d.get? k = some e) :
    d.values.Perm (e :: (d.erase k).values) := by
  obtain ⟨items, nodup⟩ := d
  have hmem : (k, e) ∈ items := get?_eq_some_iff.mp h
  show (items.map Prod.snd).Perm (e :: (items.filter fun item => item.1 ≠ k).map Prod.snd)
  clear h
  induction items with
  | nil => cases hmem
  | cons item rest ih =>
      have hparts := List.nodup_cons.mp nodup
      rcases List.mem_cons.mp hmem with rfl | hmem
      · have hrest : rest.filter (fun item => item.1 ≠ k) = rest := by
          apply List.filter_eq_self.mpr
          intro other hother
          have hne : other.1 ≠ k := by
            intro heq
            have hkey : other.1 ∈ rest.map Prod.fst := List.mem_map_of_mem hother
            rw [heq] at hkey
            exact hparts.1 hkey
          simp [hne]
        rw [List.filter_cons_of_neg (by simp), hrest]
        exact List.Perm.refl _
      · have hne : item.1 ≠ k := fun heq =>
          hparts.1 (heq ▸ List.mem_map_of_mem hmem)
        rw [List.filter_cons_of_pos (by simp [hne])]
        exact ((ih hparts.2 hmem).cons item.2).trans (List.Perm.swap e item.2 _)

/-- What is paired or in a slot. -/
def kept (s : State κ τ) : List τ := s.paired.map Prod.fst ++ s.slots.values

theorem kept_step_fresh (h : role x = .opens) (hget : s.slots.get? (key x) = none) :
    (kept (step role key s x)).Perm (kept s ++ [x]) := by
  unfold kept
  rw [step_opens h, values_set_of_none hget, List.append_assoc]

theorem kept_step_closes (h : role x = .closes) : (kept (step role key s x)).Perm (kept s) := by
  cases hget : s.slots.get? (key x) with
  | none => rw [step_closes_none h hget]
  | some e =>
      unfold kept
      rw [step_closes h hget, List.map_append, List.append_assoc]
      exact (values_erase_perm hget).symm.append_left _

/-- Opening into a slot that is taken keeps one item less. -/
theorem length_kept_step_taken {e : τ} (h : role x = .opens)
    (hget : s.slots.get? (key x) = some e) :
    (kept (step role key s x)).length = (kept s).length := by
  have hkeys : (s.slots.set (key x) x).size = s.slots.size := by
    have hcontains : s.slots.contains (key x) = true := by
      unfold contains
      rw [hget]
      rfl
    rw [size_set, if_pos hcontains]
  have hvalues : (s.slots.set (key x) x).values.length = s.slots.values.length := by
    unfold values
    rw [List.length_map, List.length_map]
    exact hkeys
  unfold kept
  rw [step_opens h, List.length_append, List.length_append, hvalues]

theorem length_kept_step_le :
    (kept (step role key s x)).length ≤ (kept s).length + (opened role [x]).length := by
  unfold opened
  cases hrole : role x with
  | nothing =>
      rw [step_nothing hrole]
      exact Nat.le_add_right _ _
  | closes =>
      rw [(kept_step_closes hrole).length_eq]
      exact Nat.le_add_right _ _
  | opens =>
      have hone : ([x].filter fun x => role x = .opens).length = 1 := by simp [hrole]
      rw [hone]
      cases hget : s.slots.get? (key x) with
      | none => rw [(kept_step_fresh hrole hget).length_eq, List.length_append, List.length_singleton]
      | some e =>
          rw [length_kept_step_taken hrole hget]
          exact Nat.le_succ _

theorem opened_append (xs ys : List τ) : opened role (xs ++ ys) = opened role xs ++ opened role ys :=
  List.filter_append xs ys

variable (role key)

/-- From a prefix on, at most what opens is kept in addition. -/
theorem length_kept_append_le (pre post : List τ) :
    (kept (run role key (pre ++ post))).length ≤
      (kept (run role key pre)).length + (opened role post).length := by
  induction post using List.reverseRecOn with
  | nil =>
      rw [List.append_nil]
      exact Nat.le_add_right _ _
  | append_singleton post x ih =>
      rw [← List.append_assoc, run_concat, opened_append, List.length_append, ← Nat.add_assoc]
      exact length_kept_step_le.trans (Nat.add_le_add_right ih _)

theorem length_kept_le (xs : List τ) :
    (kept (run role key xs)).length ≤ (opened role xs).length := by
  have h := length_kept_append_le role key [] xs
  rwa [show (kept (run role key [])).length = 0 from rfl, Nat.zero_add] at h

variable {role key}

theorem Fresh.prefix {pre post : List τ} (h : Fresh role key (pre ++ post)) :
    Fresh role key pre := by
  rintro a x b rfl hopens
  exact h a x (b ++ post) (by simp) hopens

/-- **What opened is paired or in a slot, each once, if nothing opens into a slot that is taken.** -/
theorem perm_opened (h : Fresh role key xs) : (kept (run role key xs)).Perm (opened role xs) := by
  induction xs using List.reverseRecOn with
  | nil => exact List.Perm.refl []
  | append_singleton xs x ih =>
      rw [run_concat, opened_append]
      have hold := ih h.prefix
      cases hrole : role x with
      | opens =>
          have hone : opened role [x] = [x] := by simp [opened, hrole]
          rw [hone]
          exact (kept_step_fresh hrole (h xs x [] rfl hrole)).trans (hold.append_right [x])
      | closes =>
          have hnone : opened role [x] = [] := by simp [opened, hrole]
          rw [hnone, List.append_nil]
          exact (kept_step_closes hrole).trans hold
      | nothing =>
          have hnone : opened role [x] = [] := by simp [opened, hrole]
          rw [hnone, List.append_nil, step_nothing hrole]
          exact hold

/-- An item that opens into a slot that is taken leaves one too few. -/
theorem fresh_of_perm (h : (kept (run role key xs)).Perm (opened role xs)) : Fresh role key xs := by
  rintro pre x post rfl hrole
  cases hget : (run role key pre).slots.get? (key x) with
  | none => rfl
  | some e =>
      have hcount := h.length_eq
      have hone : (opened role [x]).length = 1 := by simp [opened, hrole]
      have hsplit : pre ++ x :: post = (pre ++ [x]) ++ post := by simp
      have hpost := length_kept_append_le role key (pre ++ [x]) post
      rw [run_concat, length_kept_step_taken hrole hget] at hpost
      have hpre := length_kept_le role key pre
      rw [hsplit] at hcount
      rw [opened_append, opened_append, List.length_append, List.length_append, hone] at hcount
      omega

/-! ### What a slot holds -/

/-- What opened and is not paired is in the slot of its key. -/
theorem get?_of_not_paired (h : Fresh role key xs) {e : τ} (hmem : e ∈ xs)
    (hopens : role e = .opens) (hopen : ∀ x, (e, x) ∉ (run role key xs).paired) :
    (run role key xs).slots.get? (key e) = some e := by
  have hkept : e ∈ kept (run role key xs) := by
    apply (perm_opened h).mem_iff.mpr
    exact List.mem_filter.mpr ⟨hmem, decide_eq_true hopens⟩
  rcases List.mem_append.mp hkept with hpaired | hslot
  · obtain ⟨p, hp, rfl⟩ := List.mem_map.mp hpaired
    exact absurd hp (hopen p.2)
  · obtain ⟨item, hitem, rfl⟩ := List.mem_map.mp hslot
    have hget : (run role key xs).slots.get? item.1 = some item.2 := get?_eq_some_iff.mpr hitem
    obtain ⟨_, _, _, _, hkey, _⟩ := get?_run_iff.mp hget
    rw [hkey]
    exact hget

/-- What a slot holds is not paired, if the items are distinct. -/
theorem not_paired_of_get? (h : Fresh role key xs) (hnodup : xs.Nodup) {k : κ} {e : τ}
    (hget : (run role key xs).slots.get? k = some e) (x : τ) :
    (e, x) ∉ (run role key xs).paired := by
  intro hp
  have hkept : (kept (run role key xs)).Nodup :=
    (perm_opened h).nodup_iff.mpr (hnodup.filter _)
  have hdisjoint := (List.nodup_append.mp hkept).2.2
  have hslot : e ∈ (run role key xs).slots.values :=
    List.mem_map.mpr ⟨(k, e), get?_eq_some_iff.mp hget, rfl⟩
  exact hdisjoint e (List.mem_map_of_mem hp) e hslot rfl

/-! ### Items under another name -/

/-- The state with the images of the items. -/
def State.map {σ : Type} (f : τ → σ) (s : State κ τ) : State κ σ where
  slots := s.slots.mapItems fun _ => f
  paired := s.paired.map fun p => (f p.1, f p.2)

theorem mapItems_set {σ : Type} (f : τ → σ) (d : Dict κ τ) (k : κ) (x : τ) :
    (d.set k x).mapItems (fun _ => f) = (d.mapItems fun _ => f).set k (f x) := by
  apply Dict.ext
  show (assign k x d.items).map (fun item => (item.1, f item.2)) =
    assign k (f x) (d.items.map fun item => (item.1, f item.2))
  induction d.items with
  | nil => rfl
  | cons item rest ih =>
      rw [List.map_cons, assign, assign]
      by_cases heq : item.1 = k
      · rw [if_pos heq, if_pos heq, List.map_cons]
      · rw [if_neg heq, if_neg heq, List.map_cons, ih]

theorem mapItems_erase {σ : Type} (f : τ → σ) (d : Dict κ τ) (k : κ) :
    (d.erase k).mapItems (fun _ => f) = (d.mapItems fun _ => f).erase k := by
  apply Dict.ext
  show (d.items.filter fun item => item.1 ≠ k).map (fun item => (item.1, f item.2)) =
    (d.items.map fun item => (item.1, f item.2)).filter fun item => item.1 ≠ k
  rw [List.filter_map]
  rfl

section Map

variable {σ : Type} {f : τ → σ} {role' : σ → Role} {key' : σ → κ}

theorem step_map (hrole : ∀ y, role y = role' (f y)) (hkey : ∀ y, key y = key' (f y))
    (s : State κ τ) (x : τ) : step role' key' (s.map f) (f x) = (step role key s x).map f := by
  cases h : role x with
  | nothing => rw [step_nothing h, step_nothing (hrole x ▸ h)]
  | opens =>
      rw [step_opens h, step_opens (hrole x ▸ h), hkey x]
      unfold State.map
      rw [mapItems_set]
  | closes =>
      have hmap : (s.map f).slots.get? (key' (f x)) = (s.slots.get? (key x)).map f := by
        rw [hkey x]
        exact get?_mapItems (fun _ => f) s.slots (key' (f x))
      cases hget : s.slots.get? (key x) with
      | none =>
          rw [hget] at hmap
          rw [step_closes_none (hrole x ▸ h) hmap, step_closes_none h hget]
      | some e =>
          rw [hget] at hmap
          rw [step_closes (hrole x ▸ h) hmap, step_closes h hget, hkey x]
          unfold State.map
          rw [mapItems_erase, List.map_append]
          rfl

/-- A run over images is the image of the run. -/
theorem run_map (hrole : ∀ y, role y = role' (f y)) (hkey : ∀ y, key y = key' (f y))
    (xs : List τ) : run role' key' (xs.map f) = (run role key xs).map f := by
  induction xs using List.reverseRecOn with
  | nil => rfl
  | append_singleton xs x ih =>
      rw [List.map_append, List.map_singleton, run_concat, run_concat, ih]
      exact step_map hrole hkey _ x

end Map

end Slots
