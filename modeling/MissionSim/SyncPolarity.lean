import MissionSim.SyncDraining

/-!
# The polarity of the frames given out

A search latches the polarity of the marker it finds, and every frame up to the next search is
turned back, or not, by that one.  Verifying and lock accept markers of either polarity.  So a
frame is turned back as its own marker says only where that marker agrees with the latched one.

The markers themselves are not in the synchroniser: beside it, a record is kept of the one the
last search found and of the last one recognised.
-/

namespace Ccsds

open Octets Option List

/-! ### Markers recognised -/

/-- What is found at a position matches there. -/
theorem matchAsm_of_correlate {tol pos : Nat} {pol : Bool} {data : Bytes}
    (h : correlateAsmWithInversion tol data = some (pos, pol)) :
    matchAsm tol ((data.drop pos).take asmLength) = some pol := by
  induction data generalizing pos with
  | nil => cases h
  | cons x data ih =>
      unfold correlateAsmWithInversion at h
      split at h
      · cases h
      · rename_i hlong
        split at h
        · rename_i inverted hmatch
          obtain ⟨rfl, rfl⟩ := Prod.mk.inj (some.inj h)
          rwa [← take_append_drop asmLength (x :: data), matchAsm_append _ _ (by
            rw [length_take]
            omega)] at hmatch
        · obtain ⟨⟨rest, inverted⟩, hrest, heq⟩ := map_eq_some_iff.mp h
          obtain ⟨rfl, rfl⟩ := Prod.mk.inj heq
          exact ih hrest

theorem matchAsm_of_asmAtStart {tol : Nat} {candidate : Bytes}
    (h : asmAtStart tol (candidate.take asmLength) = true) :
    ∃ pol, matchAsm tol (candidate.take asmLength) = some pol := by
  unfold asmAtStart at h
  split at h
  · rename_i pol hfound
    have hmatch := matchAsm_of_correlate hfound
    rw [drop_zero, take_take, Nat.min_self] at hmatch
    exact ⟨pol, hmatch⟩
  · cases h

namespace FrameSynchronizer

/-- The marker that the next attempt recognises. -/
def nextMarker (s : FrameSynchronizer) : Option Bytes :=
  match s.state with
  | .search =>
      (correlateAsmWithInversion s.maxBitErrors s.buffer).map fun r =>
        (s.buffer.drop r.1).take asmLength
  | .verify =>
      if s.pendingFirstFrame then none
      else if s.buffer.length < asmLength + s.frameLength then none
      else if asmAtStart s.maxBitErrors (s.buffer.take asmLength) then
        some (s.buffer.take asmLength)
      else none
  | .lock =>
      if s.buffer.length < asmLength + s.frameLength then none
      else if asmAtStart s.maxBitErrors (s.buffer.take asmLength) then
        some (s.buffer.take asmLength)
      else
        ((List.range (min 3 (s.buffer.length - asmLength - s.frameLength))).find? fun i =>
          asmAtStart s.maxBitErrors ((s.buffer.drop (i + 1)).take asmLength)).map fun i =>
            (s.buffer.drop (i + 1)).take asmLength

variable {s : FrameSynchronizer}

theorem matchAsm_nextMarker {marker : Bytes} (h : s.nextMarker = some marker) :
    ∃ pol, matchAsm s.maxBitErrors marker = some pol := by
  unfold nextMarker at h
  split at h
  · obtain ⟨⟨pos, pol⟩, hfound, rfl⟩ := map_eq_some_iff.mp h
    exact ⟨pol, matchAsm_of_correlate hfound⟩
  · split_ifs at h with _ _ hmarker
    cases h
    exact matchAsm_of_asmAtStart hmarker
  · split_ifs at h with _ hmarker
    · cases h
      exact matchAsm_of_asmAtStart hmarker
    · obtain ⟨i, hfound, rfl⟩ := map_eq_some_iff.mp h
      exact matchAsm_of_asmAtStart (find?_some (p := fun i =>
        asmAtStart s.maxBitErrors ((s.buffer.drop (i + 1)).take asmLength)) hfound)

/-! ### What an attempt keeps of the polarity -/

/-- A synchroniser further on with the same latched polarity. -/
structure KeepsPolarity (s next : FrameSynchronizer) : Prop where
  same : s.SameSettings next
  inverted : next.inverted = s.inverted

/-- An attempt outside a search: the polarity stays, and a frame has the frame's length and leaves
the synchroniser at the cadence. -/
structure AtCadence (s : FrameSynchronizer) (frame : Option Bytes) (next : FrameSynchronizer) :
    Prop extends KeepsPolarity s next where
  length : ∀ body ∈ frame, body.length = s.frameLength ∧ next.state ≠ .search

theorem countHit_ne_search (h : s.state ≠ .search) (hits : Nat) :
    (s.countHit hits).state ≠ .search := by
  unfold countHit
  split
  · exact SyncState.noConfusion
  · exact h

theorem stateVerify_atCadence (h : s.state ≠ .search) :
    s.AtCadence s.stateVerify.1 s.stateVerify.2 := by
  unfold stateVerify
  split
  · split
    · exact ⟨⟨⟨rfl, rfl⟩, rfl⟩, fun _ hbody => absurd hbody (not_mem_none _)⟩
    · rename_i hlong
      obtain ⟨hsame, -, -, hinv, -⟩ := countHit_settings
        { s with buffer := s.buffer.drop s.frameLength, pendingFirstFrame := false } 1
      refine ⟨⟨hsame, hinv⟩, fun body hbody => ⟨?_, countHit_ne_search (s := { s with
        buffer := s.buffer.drop s.frameLength, pendingFirstFrame := false }) h 1⟩⟩
      obtain rfl := mem_some_iff.mp hbody
      rw [length_take]
      omega
  · split
    · exact ⟨⟨⟨rfl, rfl⟩, rfl⟩, fun _ hbody => absurd hbody (not_mem_none _)⟩
    · rename_i hlong
      split
      · obtain ⟨hsame, -, -, hinv, -⟩ := countHit_settings
          { s with buffer := (s.buffer.drop asmLength).drop s.frameLength } (s.verifyHits + 1)
        refine ⟨⟨hsame, hinv⟩, fun body hbody => ⟨?_, countHit_ne_search (s := { s with
          buffer := (s.buffer.drop asmLength).drop s.frameLength }) h (s.verifyHits + 1)⟩⟩
        obtain rfl := mem_some_iff.mp hbody
        rw [length_take, length_drop]
        omega
      · exact ⟨⟨⟨rfl, rfl⟩, rfl⟩, fun _ hbody => absurd hbody (not_mem_none _)⟩

theorem stateLock_atCadence (h : s.state = .lock) : s.AtCadence s.stateLock.1 s.stateLock.2 := by
  have hstill : s.state ≠ .search := by rw [h]; exact SyncState.noConfusion
  unfold stateLock
  split
  · exact ⟨⟨⟨rfl, rfl⟩, rfl⟩, fun _ hbody => absurd hbody (not_mem_none _)⟩
  · rename_i hlong
    have htaken : ∀ n, n ≤ s.buffer.length - asmLength - s.frameLength →
        ∀ body ∈ some ((s.buffer.drop (n + asmLength)).take s.frameLength),
          body.length = s.frameLength := by
      intro n hn body hbody
      obtain rfl := mem_some_iff.mp hbody
      rw [length_take, length_drop]
      omega
    split
    · exact ⟨⟨⟨rfl, rfl⟩, rfl⟩, fun body hbody =>
        ⟨htaken 0 (Nat.zero_le _) body (by rwa [Nat.zero_add]), hstill⟩⟩
    · dsimp only
      split
      · rename_i i hfound
        have hi := mem_range.mp (mem_of_find?_eq_some hfound)
        exact ⟨⟨⟨rfl, rfl⟩, rfl⟩, fun body hbody =>
          ⟨htaken (i + 1) (by omega) body hbody, hstill⟩⟩
      · split
        · exact ⟨⟨⟨rfl, rfl⟩, rfl⟩, fun _ hbody => absurd hbody (not_mem_none _)⟩
        · exact ⟨⟨⟨rfl, rfl⟩, rfl⟩, fun body hbody =>
            ⟨htaken 0 (Nat.zero_le _) body (by rwa [Nat.zero_add]), hstill⟩⟩

end FrameSynchronizer

/-! ### The synchroniser with its record -/

/-- A synchroniser, the marker its last search found and the last marker it recognised. -/
structure Tracked where
  sync : FrameSynchronizer
  found : Bytes := []
  marker : Bytes := []
  deriving DecidableEq, Repr

/-- A frame given out: the record at that time, the frame as received and as given out. -/
structure Emission where
  found : Bytes
  marker : Bytes
  body : Bytes
  emitted : Bytes
  deriving DecidableEq, Repr

namespace Tracked

/-- The record after the next attempt. -/
def noted (t : Tracked) (next : FrameSynchronizer) : Tracked :=
  { sync := next
    found := if t.sync.state = .search then t.sync.nextMarker.getD t.found else t.found
    marker := t.sync.nextMarker.getD t.marker }

def extractLoop : Nat → Tracked → List Emission × Tracked
  | 0, t => ([], t)
  | fuel + 1, t =>
      match t.sync.tryExtract with
      | (none, next) => ([], t.noted next)
      | (some frame, next) =>
          let after := t.noted next
          let rest := after.extractLoop fuel
          ({ found := after.found
             marker := after.marker
             body := frame
             emitted := if next.inverted then invert frame else frame } :: rest.1, rest.2)

def feed (t : Tracked) (chunk : Bytes) : List Emission × Tracked :=
  { t with sync := t.sync.buffered chunk }.extractLoop ((t.sync.buffered chunk).buffer.length + 2)

theorem extractLoop_sync (fuel : Nat) (t : Tracked) :
    ((t.extractLoop fuel).1.map Emission.emitted, (t.extractLoop fuel).2.sync) =
      t.sync.extractLoop fuel := by
  induction fuel generalizing t with
  | zero => rfl
  | succ fuel ih =>
      unfold extractLoop FrameSynchronizer.extractLoop
      cases hattempt : t.sync.tryExtract with
      | mk frame next =>
          cases frame with
          | none => rfl
          | some frame =>
              have hrest : _ = next.extractLoop fuel := ih (t.noted next)
              simp only [← hrest, map_cons]

/-- The record does not change what the synchroniser does. -/
theorem feed_sync (t : Tracked) (chunk : Bytes) :
    ((t.feed chunk).1.map Emission.emitted, (t.feed chunk).2.sync) = t.sync.feed chunk := by
  rw [FrameSynchronizer.feed_eq]
  exact extractLoop_sync _ _

theorem feedAll_sync (t : Tracked) (chunks : List Bytes) :
    (Streaming.feedAll feed t chunks).map Emission.emitted =
      Streaming.feedAll FrameSynchronizer.feed t.sync chunks := by
  induction chunks generalizing t with
  | nil => rfl
  | cons chunk chunks ih =>
      have hfeed := feed_sync t chunk
      rw [Streaming.feedAll, map_append, ih, Streaming.feedAll, ← hfeed]

/-! ### What the record says -/

/-- Outside a search the latched polarity is that of the marker found, and a marker has been
recognised. -/
def Latched (t : Tracked) : Prop :=
  t.sync.state ≠ .search →
    matchAsm t.sync.maxBitErrors t.found = some t.sync.inverted ∧
      ∃ pol, matchAsm t.sync.maxBitErrors t.marker = some pol

theorem Latched.buffered {t : Tracked} (h : t.Latched) (chunk : Bytes) :
    Latched { t with sync := t.sync.buffered chunk } := h

/-- One attempt keeps the record right, and a frame has its length. -/
theorem Latched.noted {t : Tracked} (h : t.Latched) {frame : Option Bytes}
    {next : FrameSynchronizer} (hattempt : t.sync.tryExtract = (frame, next)) :
    (t.noted next).Latched ∧ t.sync.SameSettings next ∧
      ∀ body ∈ frame, body.length = t.sync.frameLength ∧ next.state ≠ .search := by
  by_cases hstate : t.sync.state = .search
  · have hsearch : t.sync.stateSearch = (frame, next) := by
      rw [← hattempt]
      simp only [FrameSynchronizer.tryExtract, hstate]
    cases hcorrelate : correlateAsmWithInversion t.sync.maxBitErrors t.sync.buffer with
    | none =>
        obtain ⟨left, hleft, hkeeps, hsame, -, -⟩ :=
          FrameSynchronizer.stateSearch_vain hcorrelate
        rw [hleft] at hsearch
        obtain ⟨rfl, rfl⟩ := Prod.mk.inj hsearch
        exact ⟨fun hother => absurd (hsame.trans hstate) hother, hkeeps.same,
          fun _ hbody => absurd hbody (not_mem_none _)⟩
    | some r =>
        obtain ⟨pos, inverted⟩ := r
        have hmarker : t.sync.nextMarker = some ((t.sync.buffer.drop pos).take asmLength) := by
          simp only [FrameSynchronizer.nextMarker, hstate, hcorrelate, map_some]
        have hcadence := FrameSynchronizer.stateVerify_atCadence
          (s := t.sync.found pos inverted) SyncState.noConfusion
        rw [FrameSynchronizer.stateSearch_found hcorrelate] at hsearch
        rw [hsearch] at hcadence
        refine ⟨fun _ => ?_, hcadence.same, hcadence.length⟩
        have hmatch := matchAsm_of_correlate hcorrelate
        change matchAsm next.maxBitErrors (if _ then _ else _) = some next.inverted ∧
          ∃ pol, matchAsm next.maxBitErrors (getD _ _) = some pol
        rw [if_pos hstate, hmarker, hcadence.same.2, hcadence.inverted]
        exact ⟨hmatch, inverted, hmatch⟩
  · have hcadence : t.sync.AtCadence frame next := by
      unfold FrameSynchronizer.tryExtract at hattempt
      split at hattempt
      · rename_i hsearch
        exact absurd hsearch hstate
      · rename_i hverify
        have := FrameSynchronizer.stateVerify_atCadence hstate
        rwa [hattempt] at this
      · rename_i hlock
        have := FrameSynchronizer.stateLock_atCadence hlock
        rwa [hattempt] at this
    obtain ⟨hfound, hmarked⟩ := h hstate
    refine ⟨fun _ => ?_, hcadence.same, hcadence.length⟩
    change matchAsm next.maxBitErrors (if _ then _ else _) = some next.inverted ∧
      ∃ pol, matchAsm next.maxBitErrors (getD _ _) = some pol
    rw [if_neg hstate, hcadence.same.2, hcadence.inverted]
    refine ⟨hfound, ?_⟩
    cases hnext : t.sync.nextMarker with
    | none => exact hmarked
    | some marker => exact FrameSynchronizer.matchAsm_nextMarker hnext

end Tracked

namespace Emission

/-- The frame is turned back exactly as the last marker recognised before it says. -/
def OwnPolarity (maxBitErrors : Nat) (e : Emission) : Prop :=
  (matchAsm maxBitErrors e.marker).map (received · e.body) = some e.emitted

/-- The last marker recognised has the polarity of the one found by the search. -/
def SamePolarity (maxBitErrors : Nat) (e : Emission) : Prop :=
  matchAsm maxBitErrors e.marker = matchAsm maxBitErrors e.found

instance (maxBitErrors : Nat) (e : Emission) : Decidable (e.OwnPolarity maxBitErrors) :=
  inferInstanceAs (Decidable (_ = _))

end Emission

/-- A byte is not its own inverse. -/
theorem invert_ne {data : Bytes} (h : data ≠ []) : invert data ≠ data := by
  obtain ⟨x, rest, rfl⟩ := exists_cons_of_ne_nil h
  intro heq
  have hx : x ^^^ 0xFF = x := (cons.inj heq).1
  have hzero : x ^^^ (x ^^^ 0xFF) = x ^^^ x := congrArg (x ^^^ ·) hx
  rw [← UInt8.xor_assoc, UInt8.xor_self, UInt8.zero_xor] at hzero
  cases hzero

theorem received_inj {data : Bytes} (h : data ≠ []) {pol pol' : Bool} :
    received pol data = received pol' data ↔ pol = pol' := by
  refine ⟨fun heq => ?_, fun heq => heq ▸ rfl⟩
  cases pol <;> cases pol'
  · rfl
  · exact absurd heq.symm (invert_ne h)
  · exact absurd heq (invert_ne h)
  · rfl

namespace Tracked

/-- A frame has its marker's polarity exactly where that is the latched one. -/
theorem ownPolarity_iff {t : Tracked} (h : t.Latched)
    (hstate : t.sync.state ≠ .search) (frame : Bytes) :
    let e : Emission :=
      { found := t.found
        marker := t.marker
        body := frame
        emitted := if t.sync.inverted then invert frame else frame }
    e.OwnPolarity t.sync.maxBitErrors ↔ e.SamePolarity t.sync.maxBitErrors ∨ frame = [] := by
  obtain ⟨hfound, pol, hmarker⟩ := h hstate
  change (matchAsm _ t.marker).map (received · frame) = some (received t.sync.inverted frame) ↔
    matchAsm _ t.marker = matchAsm _ t.found ∨ frame = []
  rw [hfound, hmarker, map_some, some.injEq, some.injEq]
  by_cases hempty : frame = []
  · subst hempty
    exact ⟨fun _ => .inr rfl, fun _ => by cases pol <;> cases t.sync.inverted <;> rfl⟩
  · rw [received_inj hempty]
    exact ⟨.inl, fun h => h.resolve_right hempty⟩

/-- Every frame of the loop is as `ownPolarity_iff` says. -/
theorem extractLoop_polarity (fuel : Nat) {t : Tracked} (h : t.Latched) :
    (∀ e ∈ (t.extractLoop fuel).1, e.OwnPolarity t.sync.maxBitErrors ↔
      e.SamePolarity t.sync.maxBitErrors ∨ t.sync.frameLength = 0) ∧
      (t.extractLoop fuel).2.Latched ∧ t.sync.SameSettings (t.extractLoop fuel).2.sync := by
  induction fuel generalizing t with
  | zero => exact ⟨fun _ he => absurd he not_mem_nil, h, rfl, rfl⟩
  | succ fuel ih =>
      unfold extractLoop
      cases hattempt : t.sync.tryExtract with
      | mk frame next =>
          obtain ⟨hlatched, hsame, hbody⟩ := h.noted hattempt
          cases frame with
          | none => exact ⟨fun _ he => absurd he not_mem_nil, hlatched, hsame⟩
          | some frame =>
              obtain ⟨hlength, hstate⟩ := hbody frame rfl
              obtain ⟨hrest, hleft, hsettings⟩ := ih hlatched
              refine ⟨fun e he => ?_, hleft, hsettings.1.trans hsame.1,
                hsettings.2.trans hsame.2⟩
              have htolerance : (t.noted next).sync.maxBitErrors = t.sync.maxBitErrors := hsame.2
              rcases mem_cons.mp he with rfl | he
              · have hiff := ownPolarity_iff hlatched hstate frame
                rw [htolerance] at hiff
                rw [← hlength, length_eq_zero_iff]
                exact hiff
              · have hiff := hrest e he
                rw [htolerance] at hiff
                rwa [← hsame.1]

theorem feedAll_polarity {t : Tracked} (h : t.Latched) (chunks : List Bytes) :
    ∀ e ∈ Streaming.feedAll feed t chunks, e.OwnPolarity t.sync.maxBitErrors ↔
      e.SamePolarity t.sync.maxBitErrors ∨ t.sync.frameLength = 0 := by
  induction chunks generalizing t with
  | nil => exact fun _ he => nomatch he
  | cons chunk chunks ih =>
      obtain ⟨hchunk, hleft, hsettings⟩ := extractLoop_polarity
        ((t.sync.buffered chunk).buffer.length + 2) (h.buffered chunk)
      intro e he
      rcases mem_append.mp he with he | he
      · exact hchunk e he
      · have hiff := ih (t := (t.feed chunk).2) hleft e he
        have hlength : (t.feed chunk).2.sync.frameLength = t.sync.frameLength := hsettings.1
        have htolerance : (t.feed chunk).2.sync.maxBitErrors = t.sync.maxBitErrors := hsettings.2
        rwa [hlength, htolerance] at hiff

end Tracked

/-- **Each frame has the polarity of its own marker** exactly where no marker is recognised whose
polarity is not the latched one; only frames without octets have any polarity. -/
theorem emitted_polarity_iff (frameLength maxBitErrors verifyCount flywheelCount : Nat)
    (chunks : List Bytes) :
    let fresh : Tracked := { sync := { frameLength, maxBitErrors, verifyCount, flywheelCount } }
    let emissions := Streaming.feedAll Tracked.feed fresh chunks
    emissions.map Emission.emitted =
        Streaming.feedAll FrameSynchronizer.feed fresh.sync chunks ∧
      ((∀ e ∈ emissions, e.OwnPolarity maxBitErrors) ↔
        (∀ e ∈ emissions, e.SamePolarity maxBitErrors) ∨ frameLength = 0) := by
  intro fresh emissions
  have hlatched : fresh.Latched := fun hother => absurd rfl hother
  have hiff := Tracked.feedAll_polarity hlatched chunks
  refine ⟨Tracked.feedAll_sync fresh chunks, fun hown => ?_, ?_⟩
  · by_cases hlength : frameLength = 0
    · exact .inr hlength
    · exact .inl fun e he => ((hiff e he).mp (hown e he)).resolve_right hlength
  · rintro (hsame | hlength) e he
    · exact (hiff e he).mpr (.inl (hsame e he))
    · exact (hiff e he).mpr (.inr hlength)

/-- The receiver slips its phase between two frames: the second comes with an inverted marker and
is given out inverted. -/
theorem slipped_not_turned_back :
    let fresh : Tracked := { sync := { frameLength := 1, maxBitErrors := 0 } }
    let chunk := attachAsm [0x11] ++ invert (attachAsm [0x22])
    (fresh.sync.feed chunk).1 = [[0x11], [0xDD]] ∧
      ¬ ∀ e ∈ Streaming.feedAll Tracked.feed fresh [chunk], e.OwnPolarity 0 := by
  decide +kernel

end Ccsds
