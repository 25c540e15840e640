import MissionSim.Octets
import MissionSim.Streaming

/-!
# Frame synchronisation on the attached sync marker

Every frame on the link is preceded by the four-octet sync marker.  The
synchroniser hunts for the marker in a stream cut into arbitrary chunks, verifies
that it recurs at the frame distance, and then takes frames at a fixed cadence.  A
receiver may lock with the phase reversed, all bits inverted, so the inverted
marker is recognised too and its frames are turned back.

The main result is for a stream without channel errors: garbage in which no marker
can be seen, then frames with their markers, possibly all inverted, cut anywhere.
-/

namespace Ccsds

open Octets List

/-! ### The marker -/

def asmInt : Nat := 0x1ACFFC1D

/-- The marker as received with the phase reversed. -/
def asmInvertedInt : Nat := asmInt ^^^ 0xFFFFFFFF

def asmBytes : Bytes := [0x1A, 0xCF, 0xFC, 0x1D]

def asmLength : Nat := 4

/-- Prepend the marker to a frame. -/
def attachAsm (frame : Bytes) : Bytes := asmBytes ++ frame

/-- One bits of a 32-bit number. -/
def bitCount (n : Nat) : Nat := (List.range 32).countP fun i => n.testBit i

/-- Which marker, if any, the first four octets match within the tolerance: `false`
for the plain one, tried first, `true` for the inverted one. -/
def matchAsm (maxBitErrors : Nat) (window : Bytes) : Option Bool :=
  let candidate := unpackU32 window
  if bitCount (candidate ^^^ asmInt) ≤ maxBitErrors then some false
  else if bitCount (candidate ^^^ asmInvertedInt) ≤ maxBitErrors then some true
  else none

/-- First position at which a marker matches, and which one. -/
def correlateAsmWithInversion (maxBitErrors : Nat) : Bytes → Option (Nat × Bool)
  | [] => none
  | x :: data =>
      if (x :: data).length < asmLength then none
      else
        match matchAsm maxBitErrors (x :: data) with
        | some inverted => some (0, inverted)
        | none => (correlateAsmWithInversion maxBitErrors data).map fun r => (r.1 + 1, r.2)

/-- A marker at the very start of the data. -/
def asmAtStart (maxBitErrors : Nat) (candidate : Bytes) : Bool :=
  match correlateAsmWithInversion maxBitErrors candidate with
  | some (0, _) => true
  | _ => false

/-! ### The synchroniser -/

inductive SyncState where
  | search
  | verify
  | lock
  deriving DecidableEq, Repr

structure FrameSynchronizer where
  frameLength : Nat := 1115
  maxBitErrors : Nat := 3
  verifyCount : Nat := 3
  flywheelCount : Nat := 8
  state : SyncState := .search
  buffer : Bytes := []
  verifyHits : Nat := 0
  flywheelMisses : Nat := 0
  frameOffset : Option Nat := none
  totalFrames : Nat := 0
  inverted : Bool := false
  pendingFirstFrame : Bool := false
  deriving DecidableEq, Repr

def FrameSynchronizer.frameLengthWithAsm (s : FrameSynchronizer) : Nat :=
  s.frameLength + asmLength

/-- One good frame more; lock after `verifyCount` of them. -/
def FrameSynchronizer.countHit (s : FrameSynchronizer) (hits : Nat) : FrameSynchronizer :=
  let counted := { s with verifyHits := hits, totalFrames := s.totalFrames + 1 }
  if s.verifyCount ≤ hits then { counted with state := .lock, flywheelMisses := 0 }
  else counted

/-- Verify that the marker appears at the expected interval.  The first frame after
a search is taken without looking for another marker. -/
def FrameSynchronizer.stateVerify (s : FrameSynchronizer) : Option Bytes × FrameSynchronizer :=
  if s.pendingFirstFrame then
    if s.buffer.length < s.frameLength then (none, s)
    else
      (some (s.buffer.take s.frameLength),
        { s with
          buffer := s.buffer.drop s.frameLength
          pendingFirstFrame := false }.countHit 1)
  else if s.buffer.length < asmLength + s.frameLength then (none, s)
  else if asmAtStart s.maxBitErrors (s.buffer.take asmLength) then
    let body := s.buffer.drop asmLength
    (some (body.take s.frameLength),
      { s with buffer := body.drop s.frameLength }.countHit (s.verifyHits + 1))
  else (none, { s with state := .search, verifyHits := 0 })

/-- Scan for either marker anywhere in the buffer.  Without a match the last three
octets stay, in case the marker straddles a chunk boundary. -/
def FrameSynchronizer.stateSearch (s : FrameSynchronizer) : Option Bytes × FrameSynchronizer :=
  match correlateAsmWithInversion s.maxBitErrors s.buffer with
  | none =>
      if asmLength < s.buffer.length then
        (none, { s with buffer := s.buffer.drop (s.buffer.length - asmLength + 1) })
      else (none, s)
  | some (pos, inverted) =>
      { s with
        inverted := inverted
        frameOffset := some pos
        buffer := s.buffer.drop (pos + asmLength)
        pendingFirstFrame := true
        state := .verify
        verifyHits := 0 }.stateVerify

/-- Extract a frame at the locked cadence.  A marker one to three octets late moves
the cadence; without one the flywheel takes the frame anyway. -/
def FrameSynchronizer.stateLock (s : FrameSynchronizer) : Option Bytes × FrameSynchronizer :=
  if s.buffer.length < asmLength + s.frameLength then (none, s)
  else if asmAtStart s.maxBitErrors (s.buffer.take asmLength) then
    let body := s.buffer.drop asmLength
    (some (body.take s.frameLength),
      { s with
        buffer := body.drop s.frameLength
        flywheelMisses := 0
        totalFrames := s.totalFrames + 1 })
  else
    let searchRange := min 3 (s.buffer.length - asmLength - s.frameLength)
    match (List.range searchRange).find? fun i =>
        asmAtStart s.maxBitErrors ((s.buffer.drop (i + 1)).take asmLength) with
    | some i =>
        let body := s.buffer.drop (i + 1 + asmLength)
        (some (body.take s.frameLength),
          { s with
            buffer := body.drop s.frameLength
            flywheelMisses := 0
            totalFrames := s.totalFrames + 1 })
    | none =>
        let missed := { s with flywheelMisses := s.flywheelMisses + 1 }
        if s.flywheelCount ≤ missed.flywheelMisses then
          (none, { missed with state := .search, flywheelMisses := 0 })
        else
          let body := s.buffer.drop asmLength
          (some (body.take s.frameLength),
            { missed with
              buffer := body.drop s.frameLength
              totalFrames := s.totalFrames + 1 })

def FrameSynchronizer.tryExtract (s : FrameSynchronizer) : Option Bytes × FrameSynchronizer :=
  match s.state with
  | .search => s.stateSearch
  | .verify => s.stateVerify
  | .lock => s.stateLock

/-- All bits inverted. -/
def invert (data : Bytes) : Bytes := data.map (· ^^^ 0xFF)

/-- The loop of `feed`: frames until none can be extracted, turned back if the
stream is inverted. -/
def FrameSynchronizer.extractLoop : Nat → FrameSynchronizer → List Bytes × FrameSynchronizer
  | 0, s => ([], s)
  | fuel + 1, s =>
      match s.tryExtract with
      | (none, next) => ([], next)
      | (some frame, next) =>
          let rest := next.extractLoop fuel
          ((if next.inverted then invert frame else frame) :: rest.1, rest.2)

/-- The most octets a synchroniser buffers. -/
def FrameSynchronizer.maxBuffer (s : FrameSynchronizer) : Nat := s.frameLengthWithAsm * 10

/-- Feed raw octets; the complete frames they yield, without markers.  A round of
the loop consumes octets or takes the pending first frame, so the buffer length
bounds it. -/
def FrameSynchronizer.feed (s : FrameSynchronizer) (data : Bytes) :
    List Bytes × FrameSynchronizer :=
  let extended := s.buffer ++ data
  let kept := if s.maxBuffer < extended.length then
    extended.drop (extended.length - s.maxBuffer) else extended
  { s with buffer := kept }.extractLoop (kept.length + 2)

/-! ### Markers and inversion -/

@[simp] theorem invert_append (a b : Bytes) : invert (a ++ b) = invert a ++ invert b := by
  simp [invert]

@[simp] theorem invert_invert (data : Bytes) : invert (invert data) = data := by
  have hbyte : ∀ b : UInt8, b ^^^ 0xFF ^^^ 0xFF = b := fun b => by
    rw [UInt8.xor_assoc, UInt8.xor_self, UInt8.xor_zero]
  simp only [invert, map_map]
  exact (map_congr_left fun b _ => hbyte b).trans (map_id data)

/-- A high part and a low octet are inverted separately. -/
theorem xor_append_octet (x y : Nat) {a b : Nat} (ha : a < 2 ^ 8) (hb : b < 2 ^ 8) :
    (x * 2 ^ 8 + a) ^^^ (y * 2 ^ 8 + b) = (x ^^^ y) * 2 ^ 8 + (a ^^^ b) := by
  rw [← shiftLeft_or_eq_add 8 x ha, ← shiftLeft_or_eq_add 8 y hb,
    ← shiftLeft_or_eq_add 8 (x ^^^ y) (Nat.xor_lt_two_pow ha hb)]
  refine Nat.eq_of_testBit_eq fun i => ?_
  have hlow : 8 ≤ i → a.testBit i = false ∧ b.testBit i = false := fun hi =>
    ⟨Nat.testBit_lt_two_pow (ha.trans_le (Nat.pow_le_pow_right (by decide) hi)),
      Nat.testBit_lt_two_pow (hb.trans_le (Nat.pow_le_pow_right (by decide) hi))⟩
  by_cases hi : 8 ≤ i
  · simp [hi, hlow hi]
  · simp [hi]

variable {data : Bytes}

/-- The window of an inverted stream is the inverted window. -/
theorem unpackU32_invert (h : asmLength ≤ data.length) :
    unpackU32 (invert data) = unpackU32 data ^^^ 0xFFFFFFFF := by
  match data, h with
  | a :: b :: c :: d :: rest, _ =>
      have hff : (0xFF : Nat) < 2 ^ 8 := by decide
      have hmask : (0xFFFFFFFF : Nat) =
          ((0xFF * 2 ^ 8 + 0xFF) * 2 ^ 8 + 0xFF) * 2 ^ 8 + 0xFF := rfl
      have hbyte : ∀ x : UInt8, (x ^^^ 0xFF).toNat = x.toNat ^^^ 0xFF := fun x =>
        UInt8.toNat_xor x 0xFF
      simp only [invert, map_cons, unpackU32, hbyte]
      rw [hmask, xor_append_octet _ _ d.toNat_lt hff, xor_append_octet _ _ c.toNat_lt hff,
        xor_append_octet _ _ b.toNat_lt hff]

theorem unpackU32_append (rest : Bytes) (h : asmLength ≤ data.length) :
    unpackU32 (data ++ rest) = unpackU32 data := by
  match data, h with
  | _ :: _ :: _ :: _ :: _, _ => rfl

/-- Only the first four octets are compared. -/
theorem matchAsm_append (tol : Nat) (rest : Bytes) (h : asmLength ≤ data.length) :
    matchAsm tol (data ++ rest) = matchAsm tol data := by
  simp only [matchAsm, unpackU32_append rest h]

/-- Nothing is seen in an inverted stream where nothing is seen in the stream. -/
theorem matchAsm_invert_none (tol : Nat) (h : asmLength ≤ data.length) :
    matchAsm tol (invert data) = none ↔ matchAsm tol data = none := by
  have hplain : unpackU32 (invert data) ^^^ asmInt = unpackU32 data ^^^ asmInvertedInt := by
    rw [unpackU32_invert h, asmInvertedInt, Nat.xor_assoc, Nat.xor_comm 0xFFFFFFFF]
  have hinverted : unpackU32 (invert data) ^^^ asmInvertedInt = unpackU32 data ^^^ asmInt := by
    rw [unpackU32_invert h, asmInvertedInt, Nat.xor_comm asmInt, ← Nat.xor_assoc,
      Nat.xor_assoc (unpackU32 data), Nat.xor_self, Nat.xor_zero]
  simp only [matchAsm, hplain, hinverted]
  by_cases ha : bitCount (unpackU32 data ^^^ asmInt) ≤ tol <;>
    by_cases hb : bitCount (unpackU32 data ^^^ asmInvertedInt) ≤ tol <;> simp [ha, hb]

/-! ### A stream of marked frames -/

/-- Data as received, inverted or not. -/
def received (inverted : Bool) (data : Bytes) : Bytes :=
  if inverted then invert data else data

@[simp] theorem received_append (pol : Bool) (a b : Bytes) :
    received pol (a ++ b) = received pol a ++ received pol b := by
  cases pol <;> simp [received]

@[simp] theorem received_length (pol : Bool) (data : Bytes) :
    (received pol data).length = data.length := by
  cases pol <;> simp [received, invert]

/-- Frames on the channel, each behind its marker. -/
def markedFrames (frames : List Bytes) : Bytes := (frames.map attachAsm).flatten

theorem markedFrames_cons (f : Bytes) (frames : List Bytes) :
    markedFrames (f :: frames) = asmBytes ++ (f ++ markedFrames frames) := by
  simp [markedFrames, attachAsm]

variable {pol : Bool} {tol : Nat}

/-- The marker as received is recognised, and its polarity told, unless the
tolerance covers all of its bits. -/
theorem matchAsm_marker (htol : pol = true → tol < 32) :
    matchAsm tol (received pol asmBytes) = some pol := by
  cases pol with
  | false =>
      have h : bitCount (unpackU32 (received false asmBytes) ^^^ asmInt) = 0 := by decide
      simp [matchAsm, h]
  | true =>
      have h : bitCount (unpackU32 (received true asmBytes) ^^^ asmInt) = 32 := by decide
      have h' : bitCount (unpackU32 (received true asmBytes) ^^^ asmInvertedInt) = 0 := by decide
      have := htol rfl
      simp only [matchAsm]
      rw [if_neg (by omega), if_pos (by omega)]

/-- Garbage, as received, in which no marker is seen at any offset, the offsets
that reach into the marker behind it included. -/
def MarkerFree (tol : Nat) (pol : Bool) (garbage : Bytes) : Prop :=
  ∀ i < garbage.length, matchAsm tol ((garbage ++ received pol asmBytes).drop i) = none

theorem MarkerFree.drop {garbage : Bytes} (h : MarkerFree tol pol garbage) {n : Nat}
    (hn : n ≤ garbage.length) : MarkerFree tol pol (garbage.drop n) := by
  intro i hi
  rw [length_drop] at hi
  have := h (n + i) (by omega)
  rwa [← drop_drop, drop_append_of_le_length hn] at this

/-- Inverting the stream does not make markers appear. -/
theorem markerFree_received {garbage : Bytes} (h : MarkerFree tol false garbage) (pol : Bool) :
    MarkerFree tol pol (received pol garbage) := by
  cases pol with
  | false => exact h
  | true =>
      intro i hi
      rw [received_length] at hi
      have hlong : asmLength ≤ ((garbage ++ asmBytes).drop i).length := by
        simp only [length_drop, length_append, asmBytes, asmLength, length_cons]
        omega
      have hfree := (matchAsm_invert_none tol hlong).mpr (h i hi)
      have hdrop : ((received true garbage) ++ received true asmBytes).drop i =
          invert ((garbage ++ asmBytes).drop i) := by
        simp [received, invert]
      rwa [hdrop]

/-! ### Correlation -/

theorem correlate_none (h : ∀ i, i + asmLength ≤ data.length → matchAsm tol (data.drop i) = none) :
    correlateAsmWithInversion tol data = none := by
  induction data with
  | nil => rfl
  | cons x data ih =>
      unfold correlateAsmWithInversion
      split
      · rfl
      · have hhead := h 0 (by omega)
        rw [drop_zero] at hhead
        have htail := ih fun i hi => h (i + 1) (by
          rw [length_cons]
          omega)
        simp only [hhead, htail, Option.map_none]

theorem correlate_some {tol k : Nat} (hfree : ∀ i < k, matchAsm tol (data.drop i) = none)
    (hmatch : matchAsm tol (data.drop k) = some pol) (hlen : k + asmLength ≤ data.length) :
    correlateAsmWithInversion tol data = some (k, pol) := by
  induction k generalizing data with
  | zero =>
      cases data with
      | nil => simp [asmLength] at hlen
      | cons x data =>
          rw [drop_zero] at hmatch
          unfold correlateAsmWithInversion
          rw [if_neg (by omega)]
          simp only [hmatch]
  | succ k ih =>
      cases data with
      | nil => simp at hlen
      | cons x data =>
          rw [length_cons] at hlen
          have hhead := hfree 0 (by omega)
          rw [drop_zero] at hhead
          have htail : correlateAsmWithInversion tol data = some (k, pol) :=
            ih (fun i hi => hfree (i + 1) (by omega)) hmatch (by omega)
          unfold correlateAsmWithInversion
          rw [if_neg (by rw [length_cons]; omega)]
          simp only [hhead, htail, Option.map_some]

/-- The marker as received is found at the start of a candidate window. -/
theorem asmAtStart_marker (htol : pol = true → tol < 32) :
    asmAtStart tol (received pol asmBytes) = true := by
  have : correlateAsmWithInversion tol (received pol asmBytes) = some (0, pol) :=
    correlate_some (by simp) (by rw [drop_zero]; exact matchAsm_marker htol)
    (by rw [received_length]; decide)
  simp only [asmAtStart, this]

/-! ### Phases of a clean stream -/

/-- Where a synchroniser is in a clean stream of polarity `pol`: what of the stream it
has not consumed, `todo`, and the frames still to come. -/
inductive Phase (pol : Bool) (s : FrameSynchronizer) : Bytes → List Bytes → Prop
  | searching {garbage : Bytes} {frames : List Bytes} (hstate : s.state = .search)
      (hfree : MarkerFree s.maxBitErrors pol garbage) :
      Phase pol s (garbage ++ received pol (markedFrames frames)) frames
  | first {frame : Bytes} {frames : List Bytes} (hstate : s.state = .verify)
      (hpending : s.pendingFirstFrame = true) (hpol : s.inverted = pol) :
      Phase pol s (received pol (frame ++ markedFrames frames)) (frame :: frames)
  | cadence {frames : List Bytes} (hstate : s.state = .verify ∨ s.state = .lock)
      (hpending : s.pendingFirstFrame = false) (hpol : s.inverted = pol) :
      Phase pol s (received pol (markedFrames frames)) frames

/-- The settings the synchroniser never changes. -/
def FrameSynchronizer.SameSettings (s t : FrameSynchronizer) : Prop :=
  t.frameLength = s.frameLength ∧ t.maxBitErrors = s.maxBitErrors

/-- What bounds the rounds of the loop. -/
def FrameSynchronizer.roundsLeft (s : FrameSynchronizer) : Nat :=
  s.buffer.length + if s.pendingFirstFrame then 1 else 0

/-- What one attempt at a frame does in a clean stream: it gives the next frame, or
gives none because the octets it needs are still to come, and buffers no more than a
frame with its marker. -/
inductive Attempt (pol : Bool) (s : FrameSynchronizer) (input : Bytes) (frames : List Bytes) :
    Option Bytes × FrameSynchronizer → Prop
  | frame {frame : Bytes} {rest : List Bytes} {next : FrameSynchronizer}
      (hframes : frames = frame :: rest) (hsame : s.SameSettings next)
      (hpol : next.inverted = pol) (hphase : Phase pol next (next.buffer ++ input) rest)
      (hless : next.roundsLeft < s.roundsLeft) :
      Attempt pol s input frames (some (received pol frame), next)
  | wait {next : FrameSynchronizer} (hsame : s.SameSettings next)
      (hphase : Phase pol next (next.buffer ++ input) frames)
      (hinput : frames ≠ [] → input ≠ [])
      (hshort : next.buffer.length ≤ asmLength + s.frameLength) :
      Attempt pol s input frames (none, next)

open FrameSynchronizer

theorem countHit_settings (s : FrameSynchronizer) (hits : Nat) :
    s.SameSettings (s.countHit hits) ∧ (s.countHit hits).buffer = s.buffer ∧
      (s.countHit hits).pendingFirstFrame = s.pendingFirstFrame ∧
      (s.countHit hits).inverted = s.inverted ∧
      (s.state = .verify →
        (s.countHit hits).state = .verify ∨ (s.countHit hits).state = .lock) := by
  unfold countHit
  split
  · exact ⟨⟨rfl, rfl⟩, rfl, rfl, rfl, fun _ => Or.inr rfl⟩
  · exact ⟨⟨rfl, rfl⟩, rfl, rfl, rfl, Or.inl⟩

/-- A buffer that reaches past the front of what is to come begins with it. -/
theorem buffer_split {buffer input front rest : Bytes} (h : buffer ++ input = front ++ rest)
    (hlen : front.length ≤ buffer.length) :
    buffer.take front.length = front ∧ buffer.drop front.length ++ input = rest := by
  have htake := congrArg (take front.length) h
  have hdrop := congrArg (drop front.length) h
  rw [take_append_of_le_length hlen, take_left'] at htake
  rw [drop_append_of_le_length hlen, drop_left'] at hdrop
  · exact ⟨htake, hdrop⟩
  · rfl
  · rfl

variable {s : FrameSynchronizer} {frames : List Bytes}

open Attempt

/-- Taking the first frame behind the marker found. -/
theorem attempt_first {input frame : Bytes} (hstate : s.state = .verify)
    (hpending : s.pendingFirstFrame = true) (hpol : s.inverted = pol)
    (hlen : frame.length = s.frameLength)
    (htodo : s.buffer ++ input = received pol (frame ++ markedFrames frames)) :
    Attempt pol s input (frame :: frames) s.stateVerify := by
  unfold stateVerify
  rw [if_pos hpending]
  by_cases hshort : s.buffer.length < s.frameLength
  · rw [if_pos hshort]
    refine wait ⟨rfl, rfl⟩ (htodo ▸ Phase.first hstate hpending hpol)
      (fun _ hnil => ?_) (by omega)
    have := congrArg length htodo
    rw [hnil, append_nil, received_length, length_append] at this
    omega
  · rw [if_neg hshort]
    rw [received_append] at htodo
    obtain ⟨htake, hdrop⟩ := buffer_split htodo (by rw [received_length]; omega)
    rw [received_length, hlen] at htake hdrop
    rw [htake]
    obtain ⟨hsame, hbuffer, hpend, hinv, hverify⟩ := countHit_settings
      { s with buffer := s.buffer.drop s.frameLength, pendingFirstFrame := false } 1
    refine Attempt.frame rfl hsame (hinv.trans hpol) ?_ ?_
    · rw [hbuffer, hdrop]
      exact Phase.cadence (hverify hstate) hpend (hinv.trans hpol)
    · simp only [roundsLeft, hbuffer, hpend, hpending, length_drop]
      simp only [Bool.false_eq_true, if_false, if_true]
      omega

/-- At the cadence, with a frame and its marker in the buffer. -/
theorem cadence_split {input frame : Bytes} (htol : pol = true → s.maxBitErrors < 32)
    (hlen : frame.length = s.frameLength)
    (htodo : s.buffer ++ input = received pol (markedFrames (frame :: frames)))
    (hroom : asmLength + s.frameLength ≤ s.buffer.length) :
    asmAtStart s.maxBitErrors (s.buffer.take asmLength) = true ∧
      (s.buffer.drop asmLength).take s.frameLength = received pol frame ∧
      (s.buffer.drop asmLength).drop s.frameLength ++ input =
        received pol (markedFrames frames) := by
  have hasm : (received pol asmBytes).length = asmLength := by simp [asmBytes, asmLength]
  rw [markedFrames_cons, received_append, received_append] at htodo
  obtain ⟨hmarker, hbody⟩ := buffer_split htodo (by omega)
  rw [hasm] at hmarker hbody
  obtain ⟨hframe, hrest⟩ := buffer_split hbody (by
    rw [received_length, length_drop]
    omega)
  rw [received_length, hlen] at hframe hrest
  exact ⟨hmarker ▸ asmAtStart_marker htol, hframe, hrest⟩

variable {input : Bytes}

/-- With too little in the buffer for a frame and its marker, more input is to come. -/
theorem input_ne_nil (hlen : ∀ f ∈ frames, f.length = s.frameLength)
    (htodo : s.buffer ++ input = received pol (markedFrames frames))
    (hroom : s.buffer.length < asmLength + s.frameLength) : frames ≠ [] → input ≠ [] := by
  rintro hne rfl
  obtain ⟨frame, rest, rfl⟩ := exists_cons_of_ne_nil hne
  have hcount := congrArg length htodo
  have := hlen frame mem_cons_self
  rw [markedFrames_cons, received_length] at hcount
  simp only [length_append, asmBytes, length_cons] at hcount
  simp only [asmLength] at hroom
  omega

/-- With nothing left to come there is nothing in the buffer. -/
theorem buffer_short (htodo : s.buffer ++ input = received pol (markedFrames [])) :
    s.buffer.length < asmLength + s.frameLength := by
  have hcount := congrArg length htodo
  simp only [received_length, markedFrames, map_nil, flatten_nil, length_append,
    length_nil] at hcount
  simp only [asmLength]
  omega

theorem attempt_verify (htol : pol = true → s.maxBitErrors < 32) (hstate : s.state = .verify)
    (hpending : s.pendingFirstFrame = false) (hpol : s.inverted = pol)
    (hlen : ∀ f ∈ frames, f.length = s.frameLength)
    (htodo : s.buffer ++ input = received pol (markedFrames frames)) :
    Attempt pol s input frames s.stateVerify := by
  unfold stateVerify
  rw [if_neg (by simp [hpending])]
  by_cases hroom : s.buffer.length < asmLength + s.frameLength
  · rw [if_pos hroom]
    exact wait ⟨rfl, rfl⟩ (htodo ▸ Phase.cadence (Or.inl hstate) hpending hpol)
      (input_ne_nil hlen htodo hroom) hroom.le
  · rw [if_neg hroom]
    cases frames with
    | nil => exact absurd (buffer_short htodo) hroom
    | cons frame frames =>
        obtain ⟨hmarker, hframe, hrest⟩ := cadence_split htol
          (hlen frame mem_cons_self) htodo (Nat.not_lt.mp hroom)
        simp only [hmarker, hframe]
        obtain ⟨hsame, hbuffer, hpend, hinv, hverify⟩ := countHit_settings
          { s with buffer := (s.buffer.drop asmLength).drop s.frameLength } (s.verifyHits + 1)
        refine Attempt.frame rfl hsame (hinv.trans hpol) ?_ ?_
        · rw [hbuffer, hrest]
          exact Phase.cadence (hverify hstate) (hpend.trans hpending) (hinv.trans hpol)
        · simp only [roundsLeft, hbuffer, hpend, length_drop]
          simp only [asmLength] at hroom ⊢
          omega

theorem attempt_lock (htol : pol = true → s.maxBitErrors < 32) (hstate : s.state = .lock)
    (hpending : s.pendingFirstFrame = false) (hpol : s.inverted = pol)
    (hlen : ∀ f ∈ frames, f.length = s.frameLength)
    (htodo : s.buffer ++ input = received pol (markedFrames frames)) :
    Attempt pol s input frames s.stateLock := by
  unfold stateLock
  by_cases hroom : s.buffer.length < asmLength + s.frameLength
  · rw [if_pos hroom]
    exact wait ⟨rfl, rfl⟩ (htodo ▸ Phase.cadence (Or.inr hstate) hpending hpol)
      (input_ne_nil hlen htodo hroom) hroom.le
  · rw [if_neg hroom]
    cases frames with
    | nil => exact absurd (buffer_short htodo) hroom
    | cons frame frames =>
        obtain ⟨hmarker, hframe, hrest⟩ := cadence_split htol
          (hlen frame mem_cons_self) htodo (Nat.not_lt.mp hroom)
        simp only [hmarker, hframe]
        refine Attempt.frame rfl ⟨rfl, rfl⟩ hpol ?_ ?_
        · rw [hrest]
          exact Phase.cadence (Or.inr hstate) hpending hpol
        · simp only [roundsLeft, length_drop]
          simp only [asmLength] at hroom ⊢
          omega

/-- In the octets of the buffer no marker is seen before the first true one. -/
theorem no_marker_before {garbage buffer input : Bytes} (hfree : MarkerFree tol pol garbage)
    (htodo : buffer ++ input = garbage ++ received pol (markedFrames frames)) {i : Nat}
    (hi : i < garbage.length) (hroom : i + asmLength ≤ buffer.length) :
    matchAsm tol (buffer.drop i) = none := by
  have hlong : asmLength ≤ (buffer.drop i).length := by
    rw [length_drop]
    omega
  have hmarked : asmLength ≤ ((garbage ++ received pol asmBytes).drop i).length := by
    simp only [length_drop, length_append, received_length, asmBytes, asmLength,
      length_cons]
    omega
  have hle : i ≤ buffer.length := by omega
  cases frames with
  | nil =>
      have hall : (garbage ++ received pol asmBytes).drop i =
          buffer.drop i ++ (input ++ received pol asmBytes) := by
        have hgarbage : buffer ++ input = garbage := by
          cases pol <;> simpa [markedFrames, received, invert] using htodo
        rw [← hgarbage, append_assoc, drop_append_of_le_length hle]
      rw [← matchAsm_append tol (input ++ received pol asmBytes) hlong, ← hall]
      exact hfree i hi
  | cons frame frames =>
      have hall : buffer.drop i ++ input = (garbage ++ received pol asmBytes).drop i ++
          received pol (frame ++ markedFrames frames) := by
        rw [markedFrames_cons, received_append, ← append_assoc] at htodo
        have hdrop := congrArg (drop i) htodo
        rwa [drop_append_of_le_length hle, drop_append_of_le_length (by
          rw [length_append]
          omega)] at hdrop
      rw [← matchAsm_append tol input hlong, hall, matchAsm_append tol _ hmarked]
      exact hfree i hi

/-- An attempt of a synchroniser further on is one of the synchroniser itself. -/
theorem Attempt.of_later {s t : FrameSynchronizer} {result : Option Bytes × FrameSynchronizer}
    (h : Attempt pol t input frames result) (hsame : s.SameSettings t)
    (hless : t.roundsLeft ≤ s.roundsLeft) : Attempt pol s input frames result := by
  have hsettings : ∀ {next : FrameSynchronizer}, t.SameSettings next → s.SameSettings next :=
    fun hnext => ⟨hnext.1.trans hsame.1, hnext.2.trans hsame.2⟩
  cases h with
  | frame hframes hnext hpol hphase hrounds =>
      exact Attempt.frame hframes (hsettings hnext) hpol hphase (by omega)
  | wait hnext hphase hinput hshort =>
      exact wait (hsettings hnext) hphase hinput (hsame.1 ▸ hshort)

theorem attempt_search {input garbage : Bytes} (htol : pol = true → s.maxBitErrors < 32)
    (hstate : s.state = .search) (hfree : MarkerFree s.maxBitErrors pol garbage)
    (hlen : ∀ f ∈ frames, f.length = s.frameLength)
    (htodo : s.buffer ++ input = garbage ++ received pol (markedFrames frames)) :
    Attempt pol s input frames s.stateSearch := by
  have hasm : (received pol asmBytes).length = asmLength := by simp [asmBytes, asmLength]
  have htotal := congrArg length htodo
  simp only [length_append, received_length] at htotal
  have hbefore : ∀ i < garbage.length, i + asmLength ≤ s.buffer.length →
      matchAsm s.maxBitErrors (s.buffer.drop i) = none :=
    fun i hi hroom => no_marker_before hfree htodo hi hroom
  by_cases hseen : frames ≠ [] ∧ garbage.length + asmLength ≤ s.buffer.length
  · -- the whole first marker is in the buffer
    obtain ⟨hne, hroom⟩ := hseen
    obtain ⟨frame, frames, rfl⟩ := exists_cons_of_ne_nil hne
    rw [markedFrames_cons, received_append] at htodo
    obtain ⟨_, hafter⟩ := buffer_split htodo (by omega)
    obtain ⟨hmarker, hbody⟩ := buffer_split hafter (by
      rw [hasm, length_drop]
      omega)
    rw [hasm, drop_drop] at hbody
    rw [hasm] at hmarker
    have hmatch : matchAsm s.maxBitErrors (s.buffer.drop garbage.length) = some pol := by
      rw [← take_append_drop asmLength (s.buffer.drop garbage.length), hmarker,
        matchAsm_append _ _ (by omega)]
      exact matchAsm_marker htol
    have hcorrelate := correlate_some (fun i hi => hbefore i hi (by omega)) hmatch hroom
    simp only [stateSearch, hcorrelate]
    refine of_later (attempt_first ?_ ?_ ?_ ?_ hbody) ⟨rfl, rfl⟩ ?_
    · rfl
    · rfl
    · rfl
    · exact hlen frame mem_cons_self
    · simp only [roundsLeft, length_drop, if_true]
      simp only [asmLength] at hroom ⊢
      omega
  · -- no marker can be seen yet
    have hshort : s.buffer.length < garbage.length + asmLength := by
      by_cases hne : frames = []
      · subst hne
        simp only [markedFrames, map_nil, flatten_nil, length_nil] at htotal
        simp only [asmLength]
        omega
      · have : ¬ garbage.length + asmLength ≤ s.buffer.length := fun h => hseen ⟨hne, h⟩
        omega
    have hcorrelate : correlateAsmWithInversion s.maxBitErrors s.buffer = none :=
      correlate_none fun i hi => hbefore i (by omega) hi
    have hinput : frames ≠ [] → input ≠ [] := by
      rintro hne rfl
      obtain ⟨frame, frames, rfl⟩ := exists_cons_of_ne_nil hne
      rw [markedFrames_cons] at htotal
      simp only [length_append, asmBytes, length_cons] at htotal
      simp only [asmLength] at hshort
      omega
    simp only [stateSearch, hcorrelate]
    split
    · refine wait ⟨rfl, rfl⟩ ?_ hinput (by
        simp only [length_drop] at *
        omega)
      have hcut : s.buffer.length - asmLength + 1 ≤ garbage.length := by omega
      have hkept : s.buffer.drop (s.buffer.length - asmLength + 1) ++ input =
          garbage.drop (s.buffer.length - asmLength + 1) ++
            received pol (markedFrames frames) := by
        have hdrop := congrArg (drop (s.buffer.length - asmLength + 1)) htodo
        rwa [drop_append_of_le_length (by simp only [asmLength] at *; omega),
          drop_append_of_le_length hcut] at hdrop
      simp only [hkept]
      exact Phase.searching hstate (hfree.drop hcut)
    · exact wait ⟨rfl, rfl⟩ (htodo ▸ Phase.searching hstate hfree) hinput (by omega)

/-- **One attempt.**  In every phase of a clean stream an attempt gives the next frame
or waits for octets still to come. -/
theorem tryExtract_attempt (htol : pol = true → s.maxBitErrors < 32)
    (hlen : ∀ f ∈ frames, f.length = s.frameLength) (h : Phase pol s (s.buffer ++ input) frames) :
    Attempt pol s input frames s.tryExtract := by
  generalize htodo : s.buffer ++ input = todo at h
  unfold tryExtract
  cases h with
  | searching hstate hfree =>
      simp only [hstate]
      exact attempt_search htol hstate hfree hlen htodo
  | first hstate hpending hpol =>
      simp only [hstate]
      exact attempt_first hstate hpending hpol (hlen _ mem_cons_self) htodo
  | cadence hstate hpending hpol =>
      rcases hstate with hstate | hstate
      · simp only [hstate]
        exact attempt_verify htol hstate hpending hpol hlen htodo
      · simp only [hstate]
        exact attempt_lock htol hstate hpending hpol hlen htodo

/-- Between feeds: a phase of the stream, little in the buffer, and if frames are still
to come so is input. -/
def InStep (pol : Bool) (s : FrameSynchronizer) (input : Bytes) (frames : List Bytes) : Prop :=
  (pol = true → s.maxBitErrors < 32) ∧ (∀ f ∈ frames, f.length = s.frameLength) ∧
    Phase pol s (s.buffer ++ input) frames ∧ (frames ≠ [] → input ≠ []) ∧
    s.buffer.length ≤ asmLength + s.frameLength

/-- **The loop of `feed`.** -/
theorem extractLoop_frames {fuel : Nat} (htol : pol = true → s.maxBitErrors < 32)
    (hlen : ∀ f ∈ frames, f.length = s.frameLength) (h : Phase pol s (s.buffer ++ input) frames)
    (hfuel : s.roundsLeft < fuel) :
    ∃ rest, frames = (s.extractLoop fuel).1 ++ rest ∧
      InStep pol (s.extractLoop fuel).2 input rest ∧
      s.SameSettings (s.extractLoop fuel).2 := by
  induction fuel generalizing s frames with
  | zero => omega
  | succ fuel ih =>
      have hattempt := tryExtract_attempt htol hlen h
      unfold extractLoop
      generalize s.tryExtract = result at hattempt
      cases hattempt with
      | wait hsame hphase hinput hshort =>
          refine ⟨frames, rfl, ⟨fun hp => ?_, fun f hf => ?_, hphase, hinput, ?_⟩, hsame⟩
          · rw [hsame.2]
            exact htol hp
          · rw [hsame.1]
            exact hlen f hf
          · rw [hsame.1]
            exact hshort
      | @frame frame rest next hframes hsame hpol hphase hless =>
          subst hframes
          obtain ⟨later, hlater, hin, hlast⟩ := ih (fun hp => hsame.2 ▸ htol hp)
            (fun f hf => hsame.1 ▸ hlen f (mem_cons_of_mem _ hf)) hphase (by omega)
          refine ⟨later, ?_, hin, hlast.1.trans hsame.1, hlast.2.trans hsame.2⟩
          have hturned : (if next.inverted then invert (received pol frame)
              else received pol frame) = frame := by
            rw [hpol]
            cases pol <;> simp [received]
          simp only [hturned]
          rw [cons_append, ← hlater]

/-- A feed during which the buffer is not trimmed. -/
def FrameSynchronizer.NoTrim (s : FrameSynchronizer) (chunk : Bytes) : Prop :=
  (s.buffer ++ chunk).length ≤ s.maxBuffer

instance (s : FrameSynchronizer) (chunk : Bytes) : Decidable (s.NoTrim chunk) :=
  inferInstanceAs (Decidable (_ ≤ _))

/-- A phase does not depend on how much of the stream is buffered. -/
theorem Phase.with_buffer {todo : Bytes} (h : Phase pol s todo frames) (buffer : Bytes) :
    Phase pol { s with buffer := buffer } todo frames := by
  cases h with
  | searching hstate hfree => exact Phase.searching hstate hfree
  | first hstate hpending hpol => exact Phase.first hstate hpending hpol
  | cadence hstate hpending hpol => exact Phase.cadence hstate hpending hpol

/-- One chunk. -/
theorem feed_inStep (s : FrameSynchronizer) (chunk input : Bytes) (frames : List Bytes)
    (hroom : s.NoTrim chunk) (h : InStep pol s (chunk ++ input) frames) :
    ∃ rest, frames = (s.feed chunk).1 ++ rest ∧ InStep pol (s.feed chunk).2 input rest ∧
      s.SameSettings (s.feed chunk).2 := by
  obtain ⟨htol, hlen, hphase, _⟩ := h
  rw [← append_assoc] at hphase
  unfold feed
  simp only [if_neg (Nat.not_lt.mpr hroom)]
  refine extractLoop_frames htol hlen
    (hphase.with_buffer _) ?_
  simp only [roundsLeft]
  split <;> omega

/-- A fresh synchroniser is in step with marked frames behind garbage. -/
theorem InStep.fresh (hstate : s.state = .search) (hbuffer : s.buffer = [])
    (htol : pol = true → s.maxBitErrors < 32) {garbage : Bytes}
    (hfree : MarkerFree s.maxBitErrors false garbage)
    (hlen : ∀ f ∈ frames, f.length = s.frameLength) :
    InStep pol s (received pol (garbage ++ markedFrames frames)) frames := by
  refine ⟨htol, hlen, ?_, ?_, by simp [hbuffer]⟩
  · rw [hbuffer, nil_append, received_append]
    exact Phase.searching hstate (markerFree_received hfree pol)
  · intro hne hnil
    obtain ⟨frame, rest, rfl⟩ := exists_cons_of_ne_nil hne
    have := congrArg length hnil
    rw [markedFrames_cons] at this
    simp [asmBytes] at this

/-- **Runs.**  A synchroniser in step returns all frames to come. -/
theorem InStep.feedAll_eq (pol : Bool) {chunks frames : List Bytes}
    (h : InStep pol s chunks.flatten frames)
    (hroom : Streaming.Throughout feed FrameSynchronizer.NoTrim s chunks) :
    Streaming.feedAll feed s chunks = frames := by
  refine Streaming.feedAll_eq (InStep pol) (fun s chunk input out hok hin => ?_)
    (fun s out hin => ?_) h hroom
  · obtain ⟨rest, hout, hrest, _⟩ := feed_inStep s chunk input out hok hin
    exact ⟨rest, hout, hrest⟩
  · by_contra hne
    exact hin.2.2.2.1 hne rfl

/-- Chunks of up to nine frames with their markers never overrun the buffer. -/
theorem InStep.throughout_noTrim {chunks frames : List Bytes}
    (h : InStep pol s chunks.flatten frames)
    (hchunks : ∀ chunk ∈ chunks, chunk.length ≤ s.frameLengthWithAsm * 9) :
    Streaming.Throughout feed FrameSynchronizer.NoTrim s chunks := by
  induction chunks generalizing s frames with
  | nil => exact trivial
  | cons chunk chunks ih =>
      have hchunk := hchunks chunk mem_cons_self
      have hshort := h.2.2.2.2
      have hroom : s.NoTrim chunk := by
        simp only [FrameSynchronizer.NoTrim, maxBuffer,
          frameLengthWithAsm, length_append] at *
        omega
      obtain ⟨rest, _, hrest, hsame⟩ := feed_inStep s chunk chunks.flatten frames hroom h
      refine ⟨hroom, ih hrest fun c hc => ?_⟩
      rw [frameLengthWithAsm, hsame.1]
      exact hchunks c (mem_cons_of_mem _ hc)

/-- **Complete and independent of chunk boundaries.**  Garbage without a visible
marker, then marked frames, the whole possibly inverted, cut into chunks that do
not overrun the buffer: a fresh synchroniser returns exactly the frames. -/
theorem feedAll_eq_frames {frameLength maxBitErrors : Nat} (verifyCount flywheelCount : Nat)
    (pol : Bool) (htol : pol = true → maxBitErrors < 32) (garbage : Bytes)
    {frames : List Bytes} (hfree : MarkerFree maxBitErrors false garbage)
    (hlen : ∀ f ∈ frames, f.length = frameLength) {chunks : List Bytes}
    (hchunks : chunks.flatten = received pol (garbage ++ markedFrames frames))
    (hroom : Streaming.Throughout FrameSynchronizer.feed FrameSynchronizer.NoTrim
      { frameLength := frameLength, maxBitErrors := maxBitErrors,
        verifyCount := verifyCount, flywheelCount := flywheelCount } chunks) :
    Streaming.feedAll FrameSynchronizer.feed
      { frameLength := frameLength, maxBitErrors := maxBitErrors,
        verifyCount := verifyCount, flywheelCount := flywheelCount } chunks = frames := by
  refine InStep.feedAll_eq pol ?_ hroom
  rw [hchunks]
  exact InStep.fresh rfl rfl htol hfree hlen

/-- Two inverted frames of five octets behind three octets of noise, cut inside the
first marker and inside the first frame. -/
theorem feedAll_inverted_pair :
    Streaming.feedAll FrameSynchronizer.feed
      { frameLength := 5, maxBitErrors := 3, verifyCount := 3, flywheelCount := 8 }
      [invert [0, 1, 2, 0x1A, 0xCF], invert [0xFC, 0x1D, 10, 11],
        invert [12, 13, 14, 0x1A, 0xCF, 0xFC, 0x1D, 20, 21, 22, 23, 24]] =
      [[10, 11, 12, 13, 14], [20, 21, 22, 23, 24]] :=
  feedAll_eq_frames 3 8 true (by decide) [0, 1, 2]
    (by unfold MarkerFree; decide) (by decide) (by decide) (by
      decide)

end Ccsds
