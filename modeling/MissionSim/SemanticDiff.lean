import MissionSim.ConfigProtection
import MissionSim.ConfigValidation
import Mathlib.Data.List.Dedup
import Mathlib.Data.List.DropRight
import Mathlib.Data.List.Sort

/-!
# The semantic difference of two documents

The editor flattens two documents to their leaves under dotted paths and lists where these differ.
A leaf is at the texts of its keys and indices, each followed by a dot; where several leaves of a
document share a path, the last one counts.

So the difference is empty exactly if the last leaves agree at every path
(`semanticDiff_eq_nil_iff`).  Equal documents have the same leaves, in another order perhaps; unequal
ones may have the same leaves too.
-/

namespace Confedit

open Python (Dict)
open List

/-- What the comparison takes from outside in addition. -/
structure DiffHost (F : Type) extends Host F where
  /-- `a == b`, of two values without items. -/
  equals : Yaml F → Yaml F → Bool

variable {F : Type} (host : DiffHost F)

/-! ### Flattening -/

/-- A value with items. -/
def Yaml.hasItems : Yaml F → Bool
  | .list _ => true
  | .map _ => true
  | _ => false

/-- `f"{prefix}{label}."`. -/
def under (pre label : Text) : Text := pre ++ label ++ ['.']

/-- `prefix.rstrip(".")`. -/
def trimmed (pre : Text) : Text := pre.rdropWhile (· = '.')

/-- `str(key)`. -/
def labelOf (k : Yaml F) : Text := (host.str k).toList

/-- `str(i)`. -/
def indexLabel (i : Nat) : Text := (toString i).toList

/-- `out.update(other)`. -/
def update {κ ν : Type} [DecidableEq κ] (out other : Dict κ ν) : Dict κ ν :=
  other.items.foldl (fun d item => d.set item.1 item.2) out

mutual

/-- `_flatten(data, prefix)`. -/
def flatten (pre : Text) : Yaml F → Dict Text (Yaml F)
  | .map entries => flattenEntries pre Dict.empty entries
  | .list items => flattenItems pre Dict.empty 0 items
  | data => Dict.empty.set (trimmed pre) data

def flattenEntries (pre : Text) (out : Dict Text (Yaml F)) :
    List (Yaml F × Yaml F) → Dict Text (Yaml F)
  | [] => out
  | (k, v) :: rest =>
      flattenEntries pre (update out (flatten (under pre (labelOf host k)) v)) rest

def flattenItems (pre : Text) (out : Dict Text (Yaml F)) (i : Nat) :
    List (Yaml F) → Dict Text (Yaml F)
  | [] => out
  | v :: rest =>
      flattenItems pre (update out (flatten (under pre (indexLabel i)) v)) (i + 1) rest

end

/-! ### The difference -/

/-- What happened to a leaf. -/
inductive Change (F : Type)
  | added (after : Yaml F)
  | removed (before : Yaml F)
  | modified (before after : Yaml F)

/-- The change at a path, if there is one. -/
def changeAt (a b : Dict Text (Yaml F)) (key : Text) : Option (Text × Change F) :=
  match a.get? key, b.get? key with
  | none, some after => some (key, .added after)
  | some before, none => some (key, .removed before)
  | some before, some after =>
      if host.equals before after then none else some (key, .modified before after)
  | none, none => none

/-- `semantic_diff(before_data, after_data)`. -/
def semanticDiff (beforeData afterData : Yaml F) : List (Text × Change F) :=
  let a := flatten host [] beforeData
  let b := flatten host [] afterData
  ((a.keys ++ b.keys).dedup.insertionSort (· ≤ ·)).filterMap (changeAt host a b)

/-! ### Documents -/

/-- Two keys are one, and are written as one. -/
def sameKey (k l : Yaml F) : Bool := host.key k = host.key l && host.str k = host.str l

mutual

/-- Equality of documents: that of dictionaries does not depend on the order of their items. -/
def equal : Yaml F → Yaml F → Bool
  | .map xs, b =>
      match b with
      | .map ys => xs.length == ys.length && equalEntries xs ys
      | _ => false
  | .list xs, b =>
      match b with
      | .list ys => equalItems xs ys
      | _ => false
  | a, b => !b.hasItems && host.equals a b

/-- Every item is in a dictionary, with an equal value. -/
def equalEntries : List (Yaml F × Yaml F) → List (Yaml F × Yaml F) → Bool
  | [], _ => true
  | (k, v) :: rest, ys =>
      (match ys.find? fun e => sameKey host k e.1 with
        | some e => equal v e.2
        | none => false) &&
      equalEntries rest ys

def equalItems : List (Yaml F) → List (Yaml F) → Bool
  | [], [] => true
  | x :: xs, y :: ys => equal x y && equalItems xs ys
  | _, _ => false

end

mutual

/-- The keys of every dictionary differ from each other. -/
def DistinctKeys : Yaml F → Prop
  | .map entries =>
      entries.Pairwise (fun d e => sameKey host d.1 e.1 = false) ∧ DistinctEntries entries
  | .list items => DistinctItems items
  | _ => True

def DistinctEntries : List (Yaml F × Yaml F) → Prop
  | [] => True
  | (_, v) :: rest => DistinctKeys v ∧ DistinctEntries rest

def DistinctItems : List (Yaml F) → Prop
  | [] => True
  | v :: rest => DistinctKeys v ∧ DistinctItems rest

end

/-- A document as it is parsed. -/
structure Document where
  data : Yaml F
  distinct : DistinctKeys host data

/-! ### Leaves -/

mutual

/-- The leaves of a document in its order, each with the labels that lead to it. -/
def leaves : Yaml F → List (List Text × Yaml F)
  | .map entries => leavesOfEntries entries
  | .list items => leavesOfItems 0 items
  | data => [([], data)]

def leavesOfEntries : List (Yaml F × Yaml F) → List (List Text × Yaml F)
  | [] => []
  | (k, v) :: rest => (leaves v).map (Prod.map (labelOf host k :: ·) id) ++ leavesOfEntries rest

def leavesOfItems (i : Nat) : List (Yaml F) → List (List Text × Yaml F)
  | [] => []
  | v :: rest => (leaves v).map (Prod.map (indexLabel i :: ·) id) ++ leavesOfItems (i + 1) rest

end

/-- The dotted path of labels below a prefix. -/
def dottedPath (pre : Text) (labels : List Text) : Text := trimmed (labels.foldl under pre)

/-- Those of some leaves that are at a path. -/
def atPath (pre path : Text) (ls : List (List Text × Yaml F)) : List (Yaml F) :=
  (ls.filter fun l => dottedPath pre l.1 = path).map Prod.snd

/-- The leaves of a document at a dotted path. -/
def leavesAt (data : Yaml F) (path : Text) : List (Yaml F) := atPath [] path (leaves host data)

/-- The last leaf of a document at a dotted path. -/
def leafAt (data : Yaml F) (path : Text) : Option (Yaml F) := (leavesAt host data path).getLast?

/-- Neither leaf is there, or both are and are equal. -/
def Agree : Option (Yaml F) → Option (Yaml F) → Prop
  | none, none => True
  | some x, some y => host.equals x y = true
  | _, _ => False

variable {host} {pre path : Text}

/-! ### Induction -/

/-- A property of leaves that passes from items to what holds them is one of all values. -/
theorem Yaml.ofItems {P : Yaml F → Prop} (leaf : ∀ data : Yaml F, data.hasItems = false → P data)
    (list : ∀ items, (∀ v ∈ items, P v) → P (.list items))
    (map : ∀ entries, (∀ e ∈ entries, P e.2) → P (.map entries)) (data : Yaml F) : P data := by
  apply @Yaml.rec F P (fun items => ∀ v ∈ items, P v) (fun entries => ∀ e ∈ entries, P e.2)
    (fun e => P e.2)
  · exact leaf _ rfl
  · exact fun _ => leaf _ rfl
  · exact fun _ => leaf _ rfl
  · exact fun _ => leaf _ rfl
  · exact fun _ => leaf _ rfl
  · exact list
  · exact map
  · exact fun _ => leaf _ rfl
  · exact fun v hv => nomatch hv
  · exact fun v rest hv hrest w hw => (mem_cons.mp hw).elim (fun heq => heq ▸ hv) (hrest w)
  · exact fun v hv => nomatch hv
  · exact fun e rest he hrest d hd => (mem_cons.mp hd).elim (fun heq => heq ▸ he) (hrest d)
  · exact fun _ _ _ hv => hv

/-! ### What flattening keeps -/

theorem get?_update {κ ν : Type} [DecidableEq κ] (out other : Dict κ ν) (key : κ) :
    (update out other).get? key = (other.get? key).or (out.get? key) := by
  have hrun : ∀ (items : List (κ × ν)) (d : Dict κ ν), (items.map Prod.fst).Nodup →
      (items.foldl (fun d item => d.set item.1 item.2) d).get? key =
        (items.lookup key).or (d.get? key) := by
    intro items
    induction items with
    | nil =>
        intro d _
        rfl
    | cons item rest ih =>
        intro d hnodup
        obtain ⟨hfresh, hrest⟩ := nodup_cons.mp hnodup
        rw [foldl_cons, ih _ hrest]
        by_cases heq : key = item.1
        · subst heq
          have hnone : rest.lookup item.1 = none := by
            cases hlookup : rest.lookup item.1 with
            | none => rfl
            | some value =>
                have hmem := (Dict.lookup_eq_some_iff hrest).mp hlookup
                exact absurd (mem_map_of_mem hmem) hfresh
          have hhead : (item :: rest).lookup item.1 = some item.2 := lookup_cons_self
          rw [hnone, hhead, Dict.get?_set_same]
          rfl
        · have hkey : (key == item.1) = false := by simpa using heq
          have htail : (item :: rest).lookup key = rest.lookup key := by
            rw [lookup_cons, hkey]
          rw [Dict.get?_set_ne d heq, htail]
  exact hrun other.items out other.nodup

theorem atPath_append (ls ms : List (List Text × Yaml F)) :
    atPath pre path (ls ++ ms) = atPath pre path ls ++ atPath pre path ms := by
  simp [atPath]

/-- What is below a label is below the prefix with the label. -/
theorem atPath_under (label : Text) (ls : List (List Text × Yaml F)) :
    atPath pre path (ls.map (Prod.map (label :: ·) id)) = atPath (under pre label) path ls := by
  unfold atPath
  rw [filter_map, map_map]
  rfl

theorem leaves_of_leaf {data : Yaml F} (h : data.hasItems = false) :
    leaves host data = [([], data)] := by
  cases data with
  | list | map => cases h
  | _ => simp [leaves]

theorem flatten_of_leaf {data : Yaml F} (h : data.hasItems = false) :
    flatten host pre data = Dict.empty.set (trimmed pre) data := by
  cases data with
  | list | map => cases h
  | _ => simp [flatten]

theorem getLast?_append_or {α : Type} (xs ys : List α) (rest : Option α) :
    (xs ++ ys).getLast?.or rest = ys.getLast?.or (xs.getLast?.or rest) := by
  rw [getLast?_append, Option.or_assoc]

/-- Flattening keeps the last leaf at each path. -/
theorem get?_flatten (data : Yaml F) :
    ∀ pre path, (flatten host pre data).get? path =
      (atPath pre path (leaves host data)).getLast? := by
  apply @Yaml.ofItems F _ ?_ ?_ ?_ data
  · intro data hleaf pre path
    rw [leaves_of_leaf hleaf, flatten_of_leaf hleaf]
    by_cases heq : path = trimmed pre
    · subst heq
      simp [atPath, dottedPath]
    · rw [Dict.get?_set_ne _ heq]
      simp [atPath, dottedPath, Ne.symm heq]
  · intro items ih pre path
    have hrun : ∀ (i : Nat) (out : Dict Text (Yaml F)),
        (flattenItems host pre out i items).get? path =
          (atPath pre path (leavesOfItems host i items)).getLast?.or (out.get? path) := by
      induction items with
      | nil =>
          simp [flattenItems, leavesOfItems, atPath]
      | cons v rest ihitems =>
          intro i out
          rw [flattenItems, ihitems fun w hw => ih w (mem_cons_of_mem v hw), get?_update,
            ih v mem_cons_self, leavesOfItems, atPath_append, atPath_under,
            getLast?_append_or]
    rw [flatten, leaves, hrun 0 Dict.empty, Dict.get?_empty, Option.or_none]
  · intro entries ih pre path
    have hrun : ∀ out : Dict Text (Yaml F),
        (flattenEntries host pre out entries).get? path =
          (atPath pre path (leavesOfEntries host entries)).getLast?.or (out.get? path) := by
      induction entries with
      | nil =>
          simp [flattenEntries, leavesOfEntries, atPath]
      | cons e rest ihentries =>
          intro out
          obtain ⟨k, v⟩ := e
          have hv := ih (k, v) mem_cons_self
          rw [flattenEntries, ihentries fun d hd => ih d (mem_cons_of_mem (k, v) hd),
            get?_update, hv, leavesOfEntries, atPath_append, atPath_under, getLast?_append_or]
    rw [flatten, leaves, hrun Dict.empty, Dict.get?_empty, Option.or_none]

theorem changeAt_eq_none_iff {a b : Dict Text (Yaml F)} {key : Text} :
    changeAt host a b key = none ↔ Agree host (a.get? key) (b.get? key) := by
  unfold changeAt
  cases a.get? key with
  | none =>
      cases b.get? key with
      | none => exact iff_of_true rfl trivial
      | some y => exact iff_of_false (by simp) id
  | some x =>
      cases b.get? key with
      | none => exact iff_of_false (by simp) id
      | some y =>
          dsimp only
          split
          next h => exact iff_of_true rfl h
          next h => exact iff_of_false (by simp) h

/-- **The difference is empty if and only if** the last leaves agree at every dotted path. -/
theorem semanticDiff_eq_nil_iff (a b : Yaml F) :
    semanticDiff host a b = [] ↔ ∀ path, Agree host (leafAt host a path) (leafAt host b path) := by
  have hget : ∀ (data : Yaml F) (path : Text),
      (flatten host [] data).get? path = leafAt host data path :=
    fun data path => get?_flatten data [] path
  unfold semanticDiff
  rw [filterMap_eq_nil_iff]
  constructor
  · intro h path
    by_cases hmem : path ∈ (flatten host [] a).keys ++ (flatten host [] b).keys
    · have hnone := h path (by rwa [mem_insertionSort, mem_dedup])
      rw [changeAt_eq_none_iff, hget, hget] at hnone
      exact hnone
    · rw [mem_append, not_or, ← Dict.contains_iff_mem_keys, ← Dict.contains_iff_mem_keys,
        Bool.not_eq_true, Bool.not_eq_true, Dict.contains_eq_false_iff,
        Dict.contains_eq_false_iff, hget, hget] at hmem
      rw [hmem.1, hmem.2]
      trivial
  · intro h path _
    rw [changeAt_eq_none_iff, hget, hget]
    exact h path

/-! ### Equal documents -/

/-- Two leaves are below the same labels and are equal. -/
def SameLeaf (host : DiffHost F) (l m : List Text × Yaml F) : Prop :=
  l.1 = m.1 ∧ host.equals l.2 m.2 = true

/-- The same leaves, in some order. -/
def Matches (host : DiffHost F) (ls ms : List (List Text × Yaml F)) : Prop :=
  ∃ ns, ns.Perm ms ∧ List.Forall₂ (SameLeaf host) ls ns

theorem Matches.append {ls ms ls' ms' : List (List Text × Yaml F)} (h : Matches host ls ms)
    (h' : Matches host ls' ms') : Matches host (ls ++ ls') (ms ++ ms') := by
  obtain ⟨ns, hperm, hsame⟩ := h
  obtain ⟨ns', hperm', hsame'⟩ := h'
  exact ⟨ns ++ ns', hperm.append hperm', rel_append hsame hsame'⟩

theorem Matches.below {ls ms : List (List Text × Yaml F)} (h : Matches host ls ms) (label : Text) :
    Matches host (ls.map (Prod.map (label :: ·) id)) (ms.map (Prod.map (label :: ·) id)) := by
  obtain ⟨ns, hperm, hsame⟩ := h
  refine ⟨ns.map (Prod.map (label :: ·) id), hperm.map _, ?_⟩
  rw [forall₂_map_left_iff, forall₂_map_right_iff]
  exact hsame.imp fun l m hlm => ⟨congrArg (label :: ·) hlm.1, hlm.2⟩

theorem sameKey_iff {k l : Yaml F} :
    sameKey host k l = true ↔ host.key k = host.key l ∧ host.str k = host.str l := by
  simp [sameKey]

theorem equal_of_leaf {a b : Yaml F} (ha : a.hasItems = false) (h : equal host a b = true) :
    b.hasItems = false ∧ host.equals a b = true := by
  cases a with
  | list | map => cases ha
  | _ => simpa [equal] using h

theorem mem_of_equalEntries {xs ys : List (Yaml F × Yaml F)}
    (h : equalEntries host xs ys = true) :
    ∀ e ∈ xs, ∃ d ∈ ys, sameKey host e.1 d.1 = true ∧ equal host e.2 d.2 = true := by
  induction xs with
  | nil =>
      intro e he
      cases he
  | cons e rest ih =>
      obtain ⟨k, v⟩ := e
      rw [equalEntries, Bool.and_eq_true] at h
      intro e' he'
      rcases mem_cons.mp he' with rfl | he'
      · cases hfind : ys.find? fun d => sameKey host k d.1 with
        | none =>
            rw [hfind] at h
            cases h.1
        | some d =>
            rw [hfind] at h
            have hkey : sameKey host k d.1 = true := by simpa using find?_some hfind
            exact ⟨d, mem_of_find?_eq_some hfind, hkey, h.1⟩
      · exact ih h.2 e' he'

theorem leavesOfEntries_perm {xs ys : List (Yaml F × Yaml F)} (h : xs.Perm ys) :
    (leavesOfEntries host xs).Perm (leavesOfEntries host ys) := by
  induction h with
  | nil => exact List.Perm.refl _
  | cons e _ ih =>
      exact ih.append_left _
  | swap d e rest =>
      simp only [leavesOfEntries]
      rw [← append_assoc, ← append_assoc]
      exact perm_append_comm.append_right _
  | trans _ _ ih ih' => exact ih.trans ih'

/-- Dictionaries with the same keys and values that match have the same leaves. -/
theorem matches_entries {xs ys : List (Yaml F × Yaml F)} (hlength : xs.length = ys.length)
    (hdistinct : xs.Pairwise fun d e => sameKey host d.1 e.1 = false)
    (h : ∀ e ∈ xs, ∃ d ∈ ys, sameKey host e.1 d.1 = true ∧
      Matches host (leaves host e.2) (leaves host d.2)) :
    Matches host (leavesOfEntries host xs) (leavesOfEntries host ys) := by
  induction xs generalizing ys with
  | nil =>
      obtain rfl := length_eq_zero_iff.mp hlength.symm
      exact ⟨[], List.Perm.refl _, List.Forall₂.nil⟩
  | cons e rest ih =>
      obtain ⟨hfresh, hrest⟩ := pairwise_cons.mp hdistinct
      obtain ⟨d, hd, hkey, hmatch⟩ := h e mem_cons_self
      obtain ⟨before, after, rfl⟩ := append_of_mem hd
      have hperm : (before ++ d :: after).Perm (d :: (before ++ after)) := perm_middle
      have hothers : Matches host (leavesOfEntries host rest)
          (leavesOfEntries host (before ++ after)) := by
        apply ih ?_ hrest
        · intro e' he'
          obtain ⟨d', hd', hkey', hmatch'⟩ := h e' (mem_cons_of_mem e he')
          refine ⟨d', ?_, hkey', hmatch'⟩
          rcases mem_cons.mp (hperm.mem_iff.mp hd') with rfl | hmem
          · -- one item for two keys: the keys would be the same
            rw [sameKey_iff] at hkey hkey'
            have hsame : sameKey host e.1 e'.1 = true :=
              sameKey_iff.mpr ⟨hkey.1.trans hkey'.1.symm, hkey.2.trans hkey'.2.symm⟩
            rw [hfresh e' he'] at hsame
            cases hsame
          · exact hmem
        · have hcount := hperm.length_eq
          rw [← hlength] at hcount
          exact Nat.succ.inj hcount
      have hlabel : labelOf host e.1 = labelOf host d.1 :=
        congrArg String.toList (sameKey_iff.mp hkey).2
      obtain ⟨ns, hns, hsame⟩ := (hmatch.below (labelOf host e.1)).append hothers
      refine ⟨ns, hns.trans ?_, hsame⟩
      rw [hlabel]
      exact (leavesOfEntries_perm hperm).symm

theorem matches_items {xs ys : List (Yaml F)} (hequal : equalItems host xs ys = true)
    (h : ∀ x ∈ xs, ∀ y, equal host x y = true → Matches host (leaves host x) (leaves host y))
    (i : Nat) : Matches host (leavesOfItems host i xs) (leavesOfItems host i ys) := by
  induction xs generalizing ys i with
  | nil =>
      cases ys with
      | nil => exact ⟨[], List.Perm.refl _, List.Forall₂.nil⟩
      | cons y ys => cases hequal
  | cons x xs ih =>
      cases ys with
      | nil => cases hequal
      | cons y ys =>
          rw [equalItems, Bool.and_eq_true] at hequal
          exact ((h x mem_cons_self y hequal.1).below (indexLabel i)).append
            (ih hequal.2 (fun w hw => h w (mem_cons_of_mem x hw)) (i + 1))

theorem distinctKeys_of_mem {items : List (Yaml F)} (h : DistinctItems host items) :
    ∀ v ∈ items, DistinctKeys host v := by
  induction items with
  | nil =>
      intro v hv
      cases hv
  | cons w rest ih =>
      intro v hv
      rcases mem_cons.mp hv with rfl | hv
      · exact h.1
      · exact ih h.2 v hv

theorem distinctKeys_of_mem_entries {entries : List (Yaml F × Yaml F)}
    (h : DistinctEntries host entries) : ∀ e ∈ entries, DistinctKeys host e.2 := by
  induction entries with
  | nil =>
      intro e he
      cases he
  | cons d rest ih =>
      intro e he
      rcases mem_cons.mp he with rfl | he
      · exact h.1
      · exact ih h.2 e he

/-- Equal documents have the same leaves. -/
theorem matches_of_equal (a : Yaml F) (hdistinct : DistinctKeys host a) {b : Yaml F}
    (h : equal host a b = true) : Matches host (leaves host a) (leaves host b) := by
  revert hdistinct b
  apply @Yaml.ofItems F _ ?_ ?_ ?_ a
  · intro a hleaf _ b h
    obtain ⟨hb, hequals⟩ := equal_of_leaf hleaf h
    rw [leaves_of_leaf hleaf, leaves_of_leaf hb]
    exact ⟨_, List.Perm.refl _, List.Forall₂.cons ⟨rfl, hequals⟩ List.Forall₂.nil⟩
  · intro xs ih hdistinct b h
    rw [DistinctKeys] at hdistinct
    cases b with
    | list ys =>
        rw [equal] at h
        rw [leaves, leaves]
        apply matches_items h
        intro x hx y hxy
        exact ih x hx (distinctKeys_of_mem hdistinct x hx) hxy
    | _ => simp [equal] at h
  · intro xs ih hdistinct b h
    cases b with
    | map ys =>
        rw [equal, Bool.and_eq_true, beq_iff_eq] at h
        apply matches_entries h.1 hdistinct.1
        intro e he
        obtain ⟨d, hd, hkey, hequal⟩ := mem_of_equalEntries h.2 e he
        exact ⟨d, hd, hkey, ih e he (distinctKeys_of_mem_entries hdistinct.2 e he) hequal⟩
    | _ => simp [equal] at h

theorem Matches.atPath {ls ms : List (List Text × Yaml F)} (h : Matches host ls ms)
    (pre path : Text) :
    ∃ ns, ns.Perm (atPath pre path ms) ∧
      List.Forall₂ (fun x y => host.equals x y = true) (atPath pre path ls) ns := by
  obtain ⟨ns, hperm, hsame⟩ := h
  refine ⟨Confedit.atPath pre path ns, (hperm.filter _).map _, ?_⟩
  clear hperm
  induction hsame with
  | nil => exact List.Forall₂.nil
  | @cons l m ls ns hlm _ ih =>
      by_cases hpath : dottedPath pre l.1 = path
      · have hpath' : dottedPath pre m.1 = path := hlm.1 ▸ hpath
        unfold Confedit.atPath at ih ⊢
        rw [filter_cons_of_pos (by simpa using hpath),
          filter_cons_of_pos (by simpa using hpath')]
        exact List.Forall₂.cons hlm.2 ih
      · have hpath' : ¬ dottedPath pre m.1 = path := hlm.1 ▸ hpath
        unfold Confedit.atPath at ih ⊢
        rw [filter_cons_of_neg (by simpa using hpath),
          filter_cons_of_neg (by simpa using hpath')]
        exact ih

/-- Several leaves of a document are at one path. -/
def Shared (host : DiffHost F) (data : Yaml F) (path : Text) : Prop :=
  1 < (leavesAt host data path).length

/-- The last leaves of two documents at a path are both there and equal, or neither is there. -/
def AgreeAt (host : DiffHost F) (a b : Yaml F) (path : Text) : Prop :=
  Agree host (leafAt host a path) (leafAt host b path)

/-- Equal documents agree at a path that no two leaves share. -/
theorem agreeAt_of_equal {a b : Yaml F} (hdistinct : DistinctKeys host a)
    (h : equal host a b = true) (hpath : ¬ Shared host a path) : AgreeAt host a b path := by
  obtain ⟨ns, hperm, hsame⟩ := (matches_of_equal a hdistinct h).atPath [] path
  change ns.Perm (leavesAt host b path) at hperm
  change List.Forall₂ _ (leavesAt host a path) ns at hsame
  unfold Shared at hpath
  unfold AgreeAt leafAt
  cases hleaves : leavesAt host a path with
  | nil =>
      rw [hleaves] at hsame
      cases hsame
      rw [nil_perm.mp hperm]
      trivial
  | cons x rest =>
      obtain rfl : rest = [] := by
        rw [hleaves, length_cons] at hpath
        exact length_eq_zero_iff.mp (by omega)
      rw [hleaves] at hsame
      obtain ⟨y, rest', hequals, hrest, rfl⟩ := forall₂_cons_left_iff.mp hsame
      cases hrest
      rw [perm_singleton.mp hperm.symm]
      exact hequals

/-- The difference of two documents says whether they are equal. -/
def DiffExact (a b : Document host) : Prop :=
  semanticDiff host a.data b.data = [] ↔ equal host a.data b.data = true

/-- Equality of two values without items, of the same kind. -/
def sameValue : Yaml ℚ → Yaml ℚ → Bool
  | .null, .null => true
  | .bool b, .bool c => b == c
  | .int m, .int n => m == n
  | .float x, .float y => x == y
  | .str s, .str t => s == t
  | .other s, .other t => s == t
  | _, _ => false

def diffHost : DiffHost ℚ :=
  { sampleHost with
    str := fun v => match v with
      | .str s => String.ofList s
      | _ => ""
    equals := sameValue }

end Confedit
