import MissionSim.FrameSync
import Mathlib.Logic.Relation

/-!
# What the synchroniser leaves in its buffer

A feed makes attempts until one gives no frame.  Such an attempt has mostly found that octets are
missing, and another one finds the same.  But an attempt that fails to verify the marker, or loses
lock, gives no frame either, and goes back to searching with all its octets still buffered.

So feeding nothing changes nothing, exactly when no attempt gave up like that (`drained_iff`).
-/

namespace Ccsds

open Octets List

namespace FrameSynchronizer

/-! ### Attempts -/

/-- Some marker is found within the window of a locked synchroniser. -/
def MarkerInWindow (s : FrameSynchronizer) : Prop :=
  asmAtStart s.maxBitErrors (s.buffer.take asmLength) = true ∨
    ∃ i < min 3 (s.buffer.length - asmLength - s.frameLength),
      asmAtStart s.maxBitErrors ((s.buffer.drop (i + 1)).take asmLength) = true

/-- The next attempt goes back to searching: a marker and a frame are due, and the marker is not
there. -/
structure FallsBack (s : FrameSynchronizer) : Prop where
  enough : asmLength + s.frameLength ≤ s.buffer.length
  missed : (s.state = .verify ∧ s.pendingFirstFrame = false ∧
      asmAtStart s.maxBitErrors (s.buffer.take asmLength) = false) ∨
    (s.state = .lock ∧ ¬ s.MarkerInWindow ∧ s.flywheelCount ≤ s.flywheelMisses + 1)

/-- The next attempt goes back to searching with more in the buffer than a marker. -/
structure GivesUp (s : FrameSynchronizer) : Prop extends FallsBack s where
  more : asmLength < s.buffer.length

/-- What every attempt keeps to. -/
structure Consumes (s next : FrameSynchronizer) : Prop where
  same : s.SameSettings next
  shorter : next.buffer.length ≤ s.buffer.length

theorem Consumes.trans {s t u : FrameSynchronizer} (h : s.Consumes t) (h' : t.Consumes u) :
    s.Consumes u :=
  ⟨⟨h'.same.1.trans h.same.1, h'.same.2.trans h.same.2⟩, h'.shorter.trans h.shorter⟩

/-- What an attempt that gives a frame keeps to. -/
structure Takes (s next : FrameSynchronizer) : Prop extends Consumes s next where
  less : next.roundsLeft < s.roundsLeft

variable {s : FrameSynchronizer}

/-- A frame is counted and the octets before it are gone. -/
theorem takes_countHit {buffer : Bytes} (hits : Nat) (hbuffer : buffer.length ≤ s.buffer.length)
    (hless : s.pendingFirstFrame = true ∨ buffer.length < s.buffer.length) :
    s.Takes ({ s with buffer := buffer, pendingFirstFrame := false }.countHit hits) := by
  obtain ⟨hsame, hkept, hpending, -, -⟩ := countHit_settings
    { s with buffer := buffer, pendingFirstFrame := false } hits
  refine ⟨⟨hsame, by rwa [hkept]⟩, ?_⟩
  unfold roundsLeft
  rw [hkept, hpending, if_neg Bool.false_ne_true]
  rcases hless with hpending | hless
  · rw [if_pos hpending]
    exact Nat.lt_succ_of_le hbuffer
  · exact lt_of_lt_of_le hless (Nat.le_add_right _ _)

/-! ### Verifying -/

variable {s next : FrameSynchronizer}

theorem stateVerify_some {frame : Bytes} (h : s.stateVerify = (some frame, next)) :
    s.Takes next := by
  unfold stateVerify at h
  by_cases hpending : s.pendingFirstFrame = true
  · rw [if_pos hpending] at h
    by_cases hshort : s.buffer.length < s.frameLength
    · rw [if_pos hshort] at h
      cases h
    · rw [if_neg hshort] at h
      obtain rfl := (Prod.mk.inj h).2
      exact takes_countHit 1 (by rw [length_drop]; omega) (.inl hpending)
  · rw [if_neg hpending] at h
    by_cases hshort : s.buffer.length < asmLength + s.frameLength
    · rw [if_pos hshort] at h
      cases h
    · rw [if_neg hshort] at h
      by_cases hmarker : asmAtStart s.maxBitErrors (s.buffer.take asmLength) = true
      · rw [if_pos hmarker] at h
        obtain rfl := (Prod.mk.inj h).2
        have hstill : s.pendingFirstFrame = false := Bool.eq_false_iff.mpr hpending
        have hlength : ((s.buffer.drop asmLength).drop s.frameLength).length <
            s.buffer.length := by
          simp only [length_drop, asmLength] at *
          omega
        have htakes := takes_countHit (s.verifyHits + 1) hlength.le (.inr hlength)
        rwa [← hstill] at htakes
      · rw [if_neg hmarker] at h
        cases h

/-- No frame from verifying, and no falling back: too few octets. -/
theorem stateVerify_none (hstate : s.state = .verify) (hstays : ¬ s.FallsBack)
    (h : s.stateVerify = (none, next)) : next = s := by
  unfold stateVerify at h
  by_cases hpending : s.pendingFirstFrame = true
  · rw [if_pos hpending] at h
    by_cases hshort : s.buffer.length < s.frameLength
    · rw [if_pos hshort] at h
      exact (Prod.mk.inj h).2.symm
    · rw [if_neg hshort] at h
      cases h
  · rw [if_neg hpending] at h
    by_cases hshort : s.buffer.length < asmLength + s.frameLength
    · rw [if_pos hshort] at h
      exact (Prod.mk.inj h).2.symm
    · rw [if_neg hshort] at h
      by_cases hmarker : asmAtStart s.maxBitErrors (s.buffer.take asmLength) = true
      · rw [if_pos hmarker] at h
        cases h
      · exact absurd ⟨Nat.not_lt.mp hshort, .inl ⟨hstate, Bool.eq_false_iff.mpr hpending,
          Bool.eq_false_iff.mpr hmarker⟩⟩ hstays

/-! ### Searching -/

/-- The synchroniser that has just found a marker. -/
def found (s : FrameSynchronizer) (pos : Nat) (inverted : Bool) : FrameSynchronizer :=
  { s with
    inverted := inverted
    frameOffset := some pos
    buffer := s.buffer.drop (pos + asmLength)
    pendingFirstFrame := true
    state := .verify
    verifyHits := 0 }

theorem stateSearch_found {pos : Nat} {inverted : Bool}
    (h : correlateAsmWithInversion s.maxBitErrors s.buffer = some (pos, inverted)) :
    s.stateSearch = (s.found pos inverted).stateVerify := by
  simp only [stateSearch, h, found]

/-- Only a whole marker is found. -/
theorem length_of_correlate {tol : Nat} {data : Bytes} {r : Nat × Bool}
    (h : correlateAsmWithInversion tol data = some r) : asmLength ≤ data.length := by
  by_contra hshort
  rw [correlate_none fun i hi => absurd hi (by omega)] at h
  cases h

theorem found_less {pos : Nat} {inverted : Bool}
    (h : correlateAsmWithInversion s.maxBitErrors s.buffer = some (pos, inverted)) :
    (s.found pos inverted).roundsLeft < s.buffer.length := by
  have hlong := length_of_correlate h
  simp only [roundsLeft, found, if_true, length_drop, asmLength] at *
  omega

theorem stateSearch_some {frame : Bytes} (h : s.stateSearch = (some frame, next)) :
    s.Takes next := by
  cases hfound : correlateAsmWithInversion s.maxBitErrors s.buffer with
  | none =>
      simp only [stateSearch, hfound] at h
      split at h <;> cases h
  | some r =>
      obtain ⟨pos, inverted⟩ := r
      rw [stateSearch_found hfound] at h
      have htakes := stateVerify_some h
      have hless := found_less hfound
      refine ⟨⟨htakes.same, htakes.shorter.trans ?_⟩, htakes.less.trans (hless.trans_le ?_)⟩
      · simp only [found, length_drop]
        omega
      · exact Nat.le_add_right _ _

/-! ### Locked -/

theorem stateLock_some {frame : Bytes} (h : s.stateLock = (some frame, next)) : s.Takes next := by
  unfold stateLock at h
  by_cases hshort : s.buffer.length < asmLength + s.frameLength
  · rw [if_pos hshort] at h
    cases h
  · rw [if_neg hshort] at h
    have hgone : ∀ n, ((s.buffer.drop (n + asmLength)).drop s.frameLength).length <
        s.buffer.length := fun n => by
      simp only [length_drop, asmLength] at *
      omega
    have htakes : ∀ {t : FrameSynchronizer}, s.SameSettings t →
        t.pendingFirstFrame = s.pendingFirstFrame → t.buffer.length < s.buffer.length →
        s.Takes t := fun hsame hpending hless =>
      ⟨⟨hsame, hless.le⟩, by
        unfold roundsLeft
        rw [hpending]
        omega⟩
    by_cases hmarker : asmAtStart s.maxBitErrors (s.buffer.take asmLength) = true
    · rw [if_pos hmarker] at h
      obtain rfl := (Prod.mk.inj h).2
      exact htakes ⟨rfl, rfl⟩ rfl (by simpa using hgone 0)
    · rw [if_neg hmarker] at h
      dsimp only at h
      split at h
      · obtain rfl := (Prod.mk.inj h).2
        exact htakes ⟨rfl, rfl⟩ rfl (hgone _)
      · split at h
        · cases h
        · obtain rfl := (Prod.mk.inj h).2
          exact htakes ⟨rfl, rfl⟩ rfl (by simpa using hgone 0)

/-- No frame at the locked cadence, and no falling back: too few octets. -/
theorem stateLock_none (hstate : s.state = .lock) (hstays : ¬ s.FallsBack)
    (h : s.stateLock = (none, next)) : next = s := by
  unfold stateLock at h
  by_cases hshort : s.buffer.length < asmLength + s.frameLength
  · rw [if_pos hshort] at h
    exact (Prod.mk.inj h).2.symm
  · rw [if_neg hshort] at h
    by_cases hmarker : asmAtStart s.maxBitErrors (s.buffer.take asmLength) = true
    · rw [if_pos hmarker] at h
      cases h
    · rw [if_neg hmarker] at h
      dsimp only at h
      split at h
      · cases h
      · rename_i hnone
        split at h
        · rename_i hmisses
          refine absurd ⟨Nat.not_lt.mp hshort, .inr ⟨hstate, ?_, hmisses⟩⟩ hstays
          rintro (hstart | ⟨i, hi, hlate⟩)
          · exact hmarker hstart
          · exact find?_eq_none.mp hnone i (mem_range.mpr hi) hlate
        · cases h

/-! ### One attempt -/

theorem tryExtract_some {frame : Bytes} (h : s.tryExtract = (some frame, next)) : s.Takes next := by
  unfold tryExtract at h
  split at h
  · exact stateSearch_some h
  · exact stateVerify_some h
  · exact stateLock_some h

/-- The synchroniser gone back to searching. -/
def fallen (s : FrameSynchronizer) : FrameSynchronizer :=
  match s.state with
  | .verify => { s with state := .search, verifyHits := 0 }
  | _ => { s with state := .search, flywheelMisses := 0 }

theorem fallen_searches (s : FrameSynchronizer) :
    s.fallen.state = .search ∧ s.fallen.buffer = s.buffer ∧ s.SameSettings s.fallen := by
  unfold fallen
  split <;> exact ⟨rfl, rfl, rfl, rfl⟩

/-- Falling back, a synchroniser gives no frame and keeps its octets. -/
theorem tryExtract_fallsBack (h : s.FallsBack) : s.tryExtract = (none, s.fallen) := by
  have hlong : ¬ s.buffer.length < asmLength + s.frameLength := Nat.not_lt.mpr h.enough
  rcases h.missed with ⟨hstate, hpending, hmarker⟩ | ⟨hstate, hwindow, hmisses⟩
  · simp only [tryExtract, hstate, stateVerify, hpending, if_neg hlong, hmarker, fallen,
      Bool.false_eq_true, if_false]
  · have hmarker : ¬ asmAtStart s.maxBitErrors (s.buffer.take asmLength) = true :=
      fun hstart => hwindow (.inl hstart)
    have hlate : (range (min 3 (s.buffer.length - asmLength - s.frameLength))).find?
        (fun i => asmAtStart s.maxBitErrors ((s.buffer.drop (i + 1)).take asmLength)) = none :=
      find?_eq_none.mpr fun i hi hfound =>
        hwindow (.inr ⟨i, mem_range.mp hi, hfound⟩)
    simp only [tryExtract, hstate, stateLock, if_neg hlong, if_neg hmarker, hlate,
      if_pos hmisses, fallen]

/-- A search in vain leaves a buffer in which the next search finds nothing to do. -/
theorem stateSearch_vain (h : correlateAsmWithInversion s.maxBitErrors s.buffer = none) :
    ∃ next, s.stateSearch = (none, next) ∧ s.Consumes next ∧ next.state = s.state ∧
      next.stateSearch = (none, next) ∧ (asmLength < s.buffer.length → next ≠ s) := by
  by_cases hlong : asmLength < s.buffer.length
  · let next : FrameSynchronizer :=
      { s with buffer := s.buffer.drop (s.buffer.length - asmLength + 1) }
    have hlength : next.buffer.length = 3 := by
      simp only [next, length_drop, asmLength] at *
      omega
    have hnone : correlateAsmWithInversion next.maxBitErrors next.buffer = none :=
      correlate_none fun i hi => absurd hi (by rw [hlength]; simp [asmLength])
    have hshort : ¬ asmLength < next.buffer.length := by rw [hlength]; decide
    refine ⟨next, ?_, ⟨⟨rfl, rfl⟩, ?_⟩, rfl, ?_, fun _ heq => ?_⟩
    · simp only [stateSearch, h, if_pos hlong, next]
    · omega
    · simp only [stateSearch, hnone, if_neg hshort]
    · rw [heq] at hlength
      simp [asmLength, hlength] at hlong
  · have hsame : s.stateSearch = (none, s) := by simp only [stateSearch, h, if_neg hlong]
    exact ⟨s, hsame, ⟨⟨rfl, rfl⟩, le_rfl⟩, rfl, hsame, fun hmore => absurd hmore hlong⟩

/-- Four octets that are no marker hold none. -/
theorem correlate_of_asmAtStart {tol : Nat} {data : Bytes} (hlength : data.length = asmLength)
    (h : asmAtStart tol (data.take asmLength) = false) :
    correlateAsmWithInversion tol data = none := by
  rw [take_of_length_le hlength.le] at h
  refine correlate_none fun i hi => ?_
  obtain rfl : i = 0 := by omega
  cases hmatch : matchAsm tol (data.drop 0) with
  | none => rfl
  | some pol =>
      have hfound := correlate_some (by simp) hmatch (by omega)
      simp [asmAtStart, hfound] at h

/-- **An attempt that does not give up leaves nothing to do.** -/
theorem tryExtract_settled (hstays : ¬ s.GivesUp) (h : s.tryExtract = (none, next)) :
    s.Consumes next ∧ next.tryExtract = (none, next) := by
  by_cases hback : s.FallsBack
  · -- exactly a marker's worth of octets, and it is no marker
    have hlength : s.buffer.length = asmLength := by
      have := hback.enough
      have : ¬ asmLength < s.buffer.length := fun hmore => hstays ⟨hback, hmore⟩
      omega
    have hmarker : asmAtStart s.maxBitErrors (s.buffer.take asmLength) = false := by
      rcases hback.missed with ⟨-, -, hmarker⟩ | ⟨-, hwindow, -⟩
      · exact hmarker
      · exact Bool.eq_false_iff.mpr fun hstart => hwindow (.inl hstart)
    rw [tryExtract_fallsBack hback] at h
    obtain rfl := (Prod.mk.inj h).2
    obtain ⟨hstate, hbuffer, hsame⟩ := s.fallen_searches
    have hnone : correlateAsmWithInversion s.fallen.maxBitErrors s.fallen.buffer = none := by
      rw [hbuffer, hsame.2]
      exact correlate_of_asmAtStart hlength hmarker
    refine ⟨⟨hsame, hbuffer ▸ le_rfl⟩, ?_⟩
    simp only [tryExtract, hstate, stateSearch, hnone]
    rw [if_neg (by rw [hbuffer]; omega)]
  · unfold tryExtract at h
    split at h
    · rename_i hstate
      cases hfound : correlateAsmWithInversion s.maxBitErrors s.buffer with
      | none =>
          obtain ⟨left, hleft, hkeeps, hsame, hagain, -⟩ := stateSearch_vain hfound
          rw [hleft] at h
          obtain rfl := (Prod.mk.inj h).2
          exact ⟨hkeeps, by simpa only [tryExtract, hsame, hstate] using hagain⟩
      | some r =>
          obtain ⟨pos, inverted⟩ := r
          rw [stateSearch_found hfound] at h
          have hnext : next = s.found pos inverted := by
            refine stateVerify_none rfl (fun hback => ?_) h
            rcases hback.missed with ⟨-, hpending, -⟩ | ⟨hlock, -⟩
            · cases hpending
            · cases hlock
          subst hnext
          refine ⟨⟨⟨rfl, rfl⟩, ?_⟩, h⟩
          simp only [found, length_drop]
          omega
    · rename_i hstate
      obtain rfl := stateVerify_none hstate hback h
      exact ⟨⟨⟨rfl, rfl⟩, le_rfl⟩, by simpa only [tryExtract, hstate] using h⟩
    · rename_i hstate
      obtain rfl := stateLock_none hstate hback h
      exact ⟨⟨⟨rfl, rfl⟩, le_rfl⟩, by simpa only [tryExtract, hstate] using h⟩

/-- **An attempt that gives up leaves a search to do.** -/
theorem tryExtract_unsettled (h : s.GivesUp) : s.fallen.tryExtract ≠ (none, s.fallen) := by
  obtain ⟨hstate, hbuffer, -⟩ := s.fallen_searches
  have hsearch : s.fallen.tryExtract = s.fallen.stateSearch := by simp only [tryExtract, hstate]
  rw [hsearch]
  intro hstill
  cases hfound : correlateAsmWithInversion s.fallen.maxBitErrors s.fallen.buffer with
  | none =>
      obtain ⟨left, hleft, -, -, -, hother⟩ := stateSearch_vain hfound
      rw [hleft] at hstill
      exact hother (by rw [hbuffer]; exact h.more) (Prod.mk.inj hstill).2
  | some r =>
      obtain ⟨pos, inverted⟩ := r
      rw [stateSearch_found hfound] at hstill
      have hnext : s.fallen = s.fallen.found pos inverted := by
        refine stateVerify_none rfl (fun hback => ?_) hstill
        rcases hback.missed with ⟨-, hpending, -⟩ | ⟨hlock, -⟩
        · cases hpending
        · cases hlock
      have hless := found_less hfound
      rw [← hnext] at hless
      exact absurd hless (Nat.not_lt.mpr (Nat.le_add_right _ _))

/-! ### A whole feed -/

/-- The attempt of the one synchroniser gives a frame and leaves the other. -/
def GivesFrame (s next : FrameSynchronizer) : Prop :=
  ∃ frame, s.tryExtract = (some frame, next)

/-- The synchroniser with a chunk in its buffer, the oldest octets given up where it is full. -/
def buffered (s : FrameSynchronizer) (chunk : Bytes) : FrameSynchronizer :=
  { s with
    buffer := (s.buffer ++ chunk).drop ((s.buffer ++ chunk).length - s.maxBuffer) }

theorem feed_eq (s : FrameSynchronizer) (chunk : Bytes) :
    s.feed chunk = (s.buffered chunk).extractLoop ((s.buffered chunk).buffer.length + 2) := by
  unfold feed buffered
  dsimp only
  split
  · rfl
  · rename_i hfits
    rw [Nat.sub_eq_zero_of_le (Nat.not_lt.mp hfits), drop_zero]

/-- The loop stops at an attempt that gives no frame. -/
theorem extractLoop_end (s : FrameSynchronizer) (fuel : Nat) (h : s.roundsLeft < fuel) :
    ∃ last, Relation.ReflTransGen GivesFrame s last ∧ s.Consumes last ∧
      last.tryExtract = (none, (s.extractLoop fuel).2) := by
  induction fuel generalizing s with
  | zero => exact absurd h (Nat.not_lt_zero _)
  | succ fuel ih =>
      cases hattempt : s.tryExtract with
      | mk frame next =>
          cases frame with
          | none =>
              refine ⟨s, .refl, ⟨⟨rfl, rfl⟩, le_rfl⟩, ?_⟩
              rw [hattempt, extractLoop, hattempt]
          | some frame =>
              have htakes := tryExtract_some hattempt
              obtain ⟨last, hreach, hkeeps, hlast⟩ := ih next (by have := htakes.less; omega)
              refine ⟨last, .head ⟨frame, hattempt⟩ hreach, htakes.toConsumes.trans hkeeps, ?_⟩
              rw [hlast, extractLoop, hattempt]

/-- No attempt comes after one that gives no frame. -/
theorem eq_last {s t last next : FrameSynchronizer} (hlast : last.tryExtract = (none, next))
    (hreach : Relation.ReflTransGen GivesFrame s last)
    (ht : Relation.ReflTransGen GivesFrame s t) (hnone : t.tryExtract.1 = none) : t = last := by
  have hunique : Relator.RightUnique GivesFrame := by
    rintro a b c ⟨_, hb⟩ ⟨_, hc⟩
    exact (Prod.mk.inj (hb.symm.trans hc)).2
  have hstuck : ∀ {a b}, a.tryExtract.1 = none → Relation.ReflTransGen GivesFrame a b → b = a := by
    intro a b hstop hab
    rcases hab.cases_head with rfl | ⟨c, ⟨_, hframe⟩, -⟩
    · rfl
    · rw [hframe] at hstop
      cases hstop
  rcases Relation.ReflTransGen.total_of_right_unique hunique ht hreach with hab | hba
  · exact (hstuck hnone hab).symm
  · exact hstuck (by rw [hlast]) hba

/-- Feeding nothing to a synchroniser is one attempt, if it changes nothing. -/
theorem feed_nil_iff (hsmall : s.buffer.length ≤ s.maxBuffer) :
    s.feed [] = ([], s) ↔ s.tryExtract = (none, s) := by
  have hsame : s.buffered [] = s := by
    unfold buffered
    rw [append_nil, Nat.sub_eq_zero_of_le hsmall, drop_zero]
  rw [feed_eq, hsame, extractLoop]
  cases hattempt : s.tryExtract with
  | mk frame next =>
      cases frame <;> simp

/-- **A feed leaves nothing to do** for a feed of nothing, exactly when none of its attempts gave
up. -/
theorem drained_iff (s : FrameSynchronizer) (chunk : Bytes) :
    (s.feed chunk).2.feed [] = ([], (s.feed chunk).2) ↔
      ∀ t, Relation.ReflTransGen GivesFrame (s.buffered chunk) t → ¬ t.GivesUp := by
  obtain ⟨last, hreach, hkeeps, hlast⟩ := extractLoop_end (s.buffered chunk)
    ((s.buffered chunk).buffer.length + 2) (by unfold roundsLeft; split <;> omega)
  rw [← feed_eq] at hlast
  have hbuffered : (s.buffered chunk).buffer.length ≤ (s.buffered chunk).maxBuffer := by
    change ((s.buffer ++ chunk).drop _).length ≤ s.maxBuffer
    rw [List.length_drop]
    omega
  have hmax : ∀ {t u : FrameSynchronizer}, t.Consumes u → t.buffer.length ≤ t.maxBuffer →
      u.buffer.length ≤ u.maxBuffer := fun hconsumes hsmall => by
    unfold maxBuffer frameLengthWithAsm at *
    rw [hconsumes.same.1]
    exact hconsumes.shorter.trans hsmall
  constructor
  · intro hdrained t ht hgives
    have hfallen := tryExtract_fallsBack hgives.toFallsBack
    obtain rfl := eq_last hlast hreach ht (by rw [hfallen])
    rw [hfallen] at hlast
    rw [← (Prod.mk.inj hlast).2, feed_nil_iff] at hdrained
    · exact tryExtract_unsettled hgives hdrained
    · obtain ⟨-, hbuffer, hsame⟩ := t.fallen_searches
      exact hmax (hkeeps.trans ⟨hsame, hbuffer ▸ le_rfl⟩) hbuffered
  · intro hnever
    obtain ⟨hconsumes, hsettled⟩ := tryExtract_settled (hnever last hreach) hlast
    exact (feed_nil_iff (hmax (hkeeps.trans hconsumes) hbuffered)).mpr hsettled

end FrameSynchronizer

/-- A marked frame of one octet, then octets without a marker, then another marked frame: the
first feed gives up on the way and leaves the last frame to the feed of nothing. -/
theorem frame_left_behind :
    let fresh : FrameSynchronizer := { frameLength := 1, maxBitErrors := 0 }
    let fed := (fresh.feed (attachAsm [0x11] ++ [0, 0, 0, 0, 0x22] ++ attachAsm [0x33])).2
    (fed.feed []).1 = [[0x33]] ∧ fed.feed [] ≠ ([], fed) := by
  decide +kernel

end Ccsds
