import MissionSim.Obcp
import MissionSim.Rounding
import MissionSim.Utf8

/-!
# The uplink form of a procedure

A load blob is a procedure number, a name and the steps, each part with its length in front.
What the ground writes is read back as it was, and a blob that is cut anywhere is refused:
reading never looks past what a blob that is accepted has consumed, and what it has consumed
can be told from what it has read.
-/

namespace Binary32

/-- Two ways to write one value. -/
def SameValue : FloatValue → FloatValue → Prop
  | .finite s m e, .finite s' m' e' => s = s' ∧ (m : ℚ) * 2 ^ e = m' * 2 ^ e'
  | .infinite s, .infinite s' => s = s'
  | .nan s payload, .nan s' payload' => s = s' ∧ payload = payload'
  | _, _ => False

theorem SameValue.toBits_eq {x y : FloatValue} (h : SameValue x y) : x.toBits = y.toBits := by
  cases x <;> cases y
  case finite.finite =>
      obtain ⟨rfl, heq⟩ := h
      exact toBits_congr heq _
  case infinite.infinite =>
      obtain rfl : _ = _ := h
      rfl
  case nan.nan =>
      obtain ⟨rfl, rfl⟩ := h
      rfl
  all_goals exact h.elim

/-- A NaN keeps its payload when it turns quiet. -/
theorem ofBits_quiet (bits : Nat) : FloatValue.ofBits (quiet bits) = FloatValue.ofBits bits := by
  unfold quiet
  split
  · rename_i hs
    obtain ⟨hexp, hzero, hlow⟩ := hs
    have hexp' : (bits + 2 ^ 22) / 2 ^ 23 % 2 ^ 8 = 255 := by omega
    have hzero' : (bits + 2 ^ 22) % 2 ^ 23 ≠ 0 := by omega
    have hsign : (bits + 2 ^ 22) / 2 ^ 31 = bits / 2 ^ 31 := by omega
    have hpayload : (bits + 2 ^ 22) % 2 ^ 23 % 2 ^ 22 = bits % 2 ^ 23 % 2 ^ 22 := by omega
    simp only [FloatValue.ofBits, hsign, hpayload, if_pos hexp, if_pos hexp', if_neg hzero,
      if_neg hzero']
  · rfl

/-- A value that single precision holds. -/
def Representable (x : FloatValue) : Prop := ∃ bits < 2 ^ 32, SameValue x (FloatValue.ofBits bits)

end Binary32

namespace Obcp

open Octets Binary32 Python

/-! ### Writing a blob -/

/-- The step loop of `encode_load_blob`. -/
def encodeSteps : List Step → Except PyError Bytes
  | [] => .ok []
  | s :: rest => do
      let delay ← packFloat s.delayS
      let length ← packUnsigned 2 s.tc.length
      let out ← encodeSteps rest
      .ok (delay ++ length ++ s.tc ++ out)

/-- `bytes([n])`. -/
def oneByte (n : Nat) : Except PyError Bytes :=
  if n < 256 then .ok (packU8 n) else .error .valueError

/-- `encode_load_blob(proc_id, name, steps)`. -/
def encodeLoadBlob (procId : Int) (name : String) (steps : List Step) : Except PyError Bytes := do
  let number ← packUnsigned 2 procId
  let nameB := (Utf8.encode name.toList).take 255
  let nameLen ← oneByte nameB.length
  let count ← oneByte steps.length
  let out ← encodeSteps steps
  .ok (number ++ nameLen ++ nameB ++ count ++ out)

/-! ### Names -/

/-- One more octet of a text. -/
def feed (r : List Char × Option Partial) (b : UInt8) : List Char × Option Partial :=
  (r.1 ++ (nextUtf8 r.2 b.toNat).1, (nextUtf8 r.2 b.toNat).2)

/-- The last octet of a sequence. -/
theorem nextUtf8_last {p : Partial} {b : Nat} (hlow : p.lower ≤ b) (hhigh : b ≤ p.upper)
    (h : p.missing = 1) :
    nextUtf8 (some p) b = ([Char.ofNat (p.value * 64 + (b - 0x80))], none) := by
  rw [nextUtf8, if_pos ⟨hlow, hhigh⟩]
  exact if_pos h

/-- An octet in the middle of a sequence. -/
theorem nextUtf8_middle {p : Partial} {b k : Nat} (hlow : p.lower ≤ b) (hhigh : b ≤ p.upper)
    (h : p.missing = k + 2) :
    nextUtf8 (some p) b = ([], some ⟨k + 1, 0x80, 0xBF, p.value * 64 + (b - 0x80)⟩) := by
  rw [nextUtf8, if_pos ⟨hlow, hhigh⟩]
  simp only [h]
  rfl

/-- What begins a sequence of three takes a second octet that is neither too small nor that
of a surrogate. -/
theorem beginUtf8_three {b second : Nat} (hlow : 0xE0 ≤ b) (hhigh : b ≤ 0xEF)
    (hsecond : 0x80 ≤ second ∧ second ≤ 0xBF) (hshort : b = 0xE0 → 0xA0 ≤ second)
    (hsurrogate : b = 0xED → second ≤ 0x9F) :
    ∃ lower upper, beginUtf8 b = ([], some ⟨2, lower, upper, b - 0xE0⟩) ∧
      lower ≤ second ∧ second ≤ upper := by
  unfold beginUtf8
  rw [if_neg (by omega), if_neg (by omega)]
  by_cases hfirst : b = 0xE0
  · subst hfirst
    exact ⟨_, _, rfl, hshort rfl, hsecond.2⟩
  by_cases hed : b = 0xED
  · subst hed
    exact ⟨_, _, rfl, hsecond.1, hsurrogate rfl⟩
  rw [if_neg hfirst, if_neg hed, if_pos (by omega)]
  exact ⟨_, _, rfl, hsecond.1, hsecond.2⟩

/-- What begins a sequence of four takes a second octet that is neither too small nor too
large. -/
theorem beginUtf8_four {b second : Nat} (hlow : 0xF0 ≤ b) (hhigh : b ≤ 0xF4)
    (hsecond : 0x80 ≤ second ∧ second ≤ 0xBF) (hshort : b = 0xF0 → 0x90 ≤ second)
    (hlarge : b = 0xF4 → second ≤ 0x8F) :
    ∃ lower upper, beginUtf8 b = ([], some ⟨3, lower, upper, b - 0xF0⟩) ∧
      lower ≤ second ∧ second ≤ upper := by
  unfold beginUtf8
  rw [if_neg (by omega), if_neg (by omega), if_neg (by omega), if_neg (by omega),
    if_neg (by omega)]
  by_cases hfirst : b = 0xF0
  · subst hfirst
    exact ⟨_, _, rfl, hshort rfl, hsecond.2⟩
  rw [if_neg hfirst]
  by_cases hlast : b = 0xF4
  · subst hlast
    exact ⟨_, _, rfl, hsecond.1, hlarge rfl⟩
  rw [if_pos (by omega)]
  exact ⟨_, _, rfl, hsecond.1, hsecond.2⟩

theorem begun (b : Nat) : nextUtf8 none b = beginUtf8 b := rfl

theorem octet_continuation (v : Nat) : (UInt8.ofNat (v % 64 + 128)).toNat = v % 64 + 128 := by
  rw [toNat_ofNat]
  omega

theorem continuation_bounds (v : Nat) : 0x80 ≤ v % 64 + 128 ∧ v % 64 + 128 ≤ 0xBF := by omega

open List

/-- The octets of a character are read as the character. -/
theorem feed_char (c : Char) (chars : List Char) :
    (String.utf8EncodeChar c).foldl feed (chars, none) = (chars ++ [c], none) := by
  have hbound : c.val.toNat < 0xD800 ∨ 0xDFFF < c.val.toNat ∧ c.val.toNat < 0x110000 := c.valid
  have hback : Char.ofNat c.val.toNat = c := Char.ofNat_toNat c
  unfold String.utf8EncodeChar
  simp only
  generalize c.val.toNat = v at hbound hback
  subst hback
  split_ifs with hone htwo hthree
  · have hb : (UInt8.ofNat v).toNat = v := by
      rw [toNat_ofNat]
      omega
    simp only [foldl_cons, foldl_nil, feed, hb]
    rw [begun, beginUtf8, if_pos (by omega)]
  · have hlead : (UInt8.ofNat (v / 64 % 32 + 192)).toNat = v / 64 + 192 := by
      rw [toNat_ofNat]
      omega
    have hbegin : beginUtf8 (v / 64 + 192) = ([], some ⟨1, 0x80, 0xBF, v / 64⟩) := by
      rw [beginUtf8, if_neg (by omega), if_pos (by omega), Nat.add_sub_cancel]
    have hlast := nextUtf8_last (p := ⟨1, 0x80, 0xBF, v / 64⟩) (continuation_bounds v).1
      (continuation_bounds v).2 rfl
    have hvalue : v / 64 * 64 + (v % 64 + 128 - 0x80) = v := by omega
    rw [hvalue] at hlast
    simp only [foldl_cons, foldl_nil, feed, hlead, octet_continuation, begun, hbegin,
      hlast, append_nil]
  · have hlead : (UInt8.ofNat (v / 4096 % 16 + 224)).toNat = v / 4096 + 224 := by
      rw [toNat_ofNat]
      omega
    obtain ⟨lower, upper, hbegin, hlower, hupper⟩ :=
      @beginUtf8_three (v / 4096 + 224) (v / 64 % 64 + 128) (by omega) (by omega)
        (continuation_bounds _) (by omega) (by omega)
    rw [Nat.add_sub_cancel] at hbegin
    have hmiddle := nextUtf8_middle (p := ⟨2, lower, upper, v / 4096⟩) hlower hupper rfl
    have hlast := nextUtf8_last
      (p := ⟨1, 0x80, 0xBF, v / 4096 * 64 + (v / 64 % 64 + 128 - 0x80)⟩)
      (continuation_bounds v).1 (continuation_bounds v).2 rfl
    have hvalue : (v / 4096 * 64 + (v / 64 % 64 + 128 - 0x80)) * 64 +
        (v % 64 + 128 - 0x80) = v := by
      omega
    rw [hvalue] at hlast
    simp only [foldl_cons, foldl_nil, feed, hlead, octet_continuation, begun, hbegin,
      hmiddle, hlast, append_nil]
  · have hlead : (UInt8.ofNat (v / 262144 % 8 + 240)).toNat = v / 262144 + 240 := by
      rw [toNat_ofNat]
      omega
    obtain ⟨lower, upper, hbegin, hlower, hupper⟩ :=
      @beginUtf8_four (v / 262144 + 240) (v / 4096 % 64 + 128) (by omega) (by omega)
        (continuation_bounds _) (by omega) (by omega)
    rw [Nat.add_sub_cancel] at hbegin
    have hmiddle := nextUtf8_middle (p := ⟨3, lower, upper, v / 262144⟩) hlower hupper rfl
    have hthird := nextUtf8_middle
      (p := ⟨2, 0x80, 0xBF, v / 262144 * 64 + (v / 4096 % 64 + 128 - 0x80)⟩)
      (continuation_bounds (v / 64)).1 (continuation_bounds (v / 64)).2 rfl
    have hlast := nextUtf8_last (p := ⟨1, 0x80, 0xBF,
        (v / 262144 * 64 + (v / 4096 % 64 + 128 - 0x80)) * 64 + (v / 64 % 64 + 128 - 0x80)⟩)
      (continuation_bounds v).1 (continuation_bounds v).2 rfl
    have hvalue : ((v / 262144 * 64 + (v / 4096 % 64 + 128 - 0x80)) * 64 +
        (v / 64 % 64 + 128 - 0x80)) * 64 + (v % 64 + 128 - 0x80) = v := by omega
    rw [hvalue] at hlast
    simp only [foldl_cons, foldl_nil, feed, hlead, octet_continuation, begun, hbegin,
      hmiddle, hthird, hlast, append_nil]

theorem feed_encode (text chars : List Char) :
    (Utf8.encode text).foldl feed (chars, none) = (chars ++ text, none) := by
  induction text generalizing chars with
  | nil => rw [append_nil]; rfl
  | cons c text ih =>
      rw [Utf8.encode_cons, foldl_append, feed_char, ih, append_assoc]
      rfl

/-- **A name is read back.** -/
theorem decodeUtf8_encode (name : String) : decodeUtf8 (Utf8.encode name.toList) = name := by
  have hall : decodeUtf8 (Utf8.encode name.toList) =
      String.ofList (((Utf8.encode name.toList).foldl feed ([], none)).1 ++
        if ((Utf8.encode name.toList).foldl feed ([], none)).2.isSome then [replacement] else []) :=
    rfl
  rw [hall, feed_encode]
  simp

/-! ### Steps -/

/-- What a step takes in a blob. -/
def Step.size (s : Step) : Nat := 6 + s.tc.length

/-- A step that is read back: the delay may be written differently. -/
structure SameStep (s read : Step) : Prop where
  delayS : SameValue s.delayS read.delayS
  tc : s.tc = read.tc

/-- A step whose fields hold it. -/
structure Step.Fits (s : Step) : Prop where
  delayS : Representable s.delayS
  tc : s.tc.length ≤ 65535

theorem packFloat_representable {x : FloatValue} (h : Representable x) :
    ∃ bs, packFloat x = .ok bs ∧ bs.length = 4 ∧
      ∀ rest, SameValue x (unpackFloat (bs ++ rest)) := by
  obtain ⟨bits, hbits, hsame⟩ := h
  have hpack : packFloat x = .ok (packU32 (quiet bits)) := by
    rw [packFloat, hsame.toBits_eq, toBits_ofBits hbits]
  refine ⟨_, hpack, packU32_length _, fun rest => ?_⟩
  rw [unpackFloat, unpackU32_packU32_append, Nat.mod_eq_of_lt (quiet_lt hbits), ofBits_quiet]
  exact hsame

theorem slice_middle (front part rest : Bytes) :
    slice (front ++ (part ++ rest)) front.length (front.length + part.length) = part := by
  rw [slice, take_length_add_append, take_left', drop_left]
  rfl

variable {data : Bytes}

theorem slice_length {i n : Nat} (h : i + n ≤ data.length) : (slice data i (i + n)).length = n := by
  rw [slice, length_drop, length_take]
  omega

/-- The length of the telecommand of the step at an offset. -/
def tcLenAt (data : Bytes) (off : Nat) : Nat := unpackU16 (slice data (off + 4) (off + 6))

/-- The step at an offset. -/
def stepAt (data : Bytes) (off : Nat) : Step where
  delayS := unpackFloat (slice data off (off + 4))
  tc := slice data (off + 6) (off + 6 + tcLenAt data off)

theorem parseSteps_eq (data : Bytes) (n off : Nat) :
    parseSteps data (n + 1) off =
      if data.length < off + 6 then .error "load blob truncated in step header"
      else if data.length < off + 6 + tcLenAt data off then .error "load blob truncated in step TC"
      else (parseSteps data n (off + 6 + tcLenAt data off)).map (stepAt data off :: ·) := rfl

variable {steps : List Step}

/-- When a step and those behind it are read. -/
theorem parseSteps_succ {n off : Nat} :
    parseSteps data (n + 1) off = .ok steps ↔
      off + 6 + tcLenAt data off ≤ data.length ∧
        ∃ rest, parseSteps data n (off + 6 + tcLenAt data off) = .ok rest ∧
          steps = stepAt data off :: rest := by
  rw [parseSteps_eq]
  split_ifs with hheader htc
  · exact ⟨nofun, fun h => absurd h.1 (by omega)⟩
  · exact ⟨nofun, fun h => absurd h.1 (Nat.not_le.mpr htc)⟩
  · cases parseSteps data n (off + 6 + tcLenAt data off) with
    | error e => exact ⟨nofun, fun ⟨_, _, hrest, _⟩ => nomatch hrest⟩
    | ok rest =>
        constructor
        · intro h
          exact ⟨Nat.not_lt.mp htc, rest, rfl, (Except.ok.inj h).symm⟩
        · rintro ⟨-, rest', hrest, rfl⟩
          cases hrest
          rfl

/-- Reading steps does not look behind what it accepts. -/
theorem parseSteps_append (more : Bytes) {n off : Nat} (h : parseSteps data n off = .ok steps) :
    parseSteps (data ++ more) n off = .ok steps := by
  induction n generalizing off steps with
  | zero => exact h
  | succ n ih =>
      obtain ⟨hfits, rest, hrest, rfl⟩ := parseSteps_succ.mp h
      have hlen : tcLenAt (data ++ more) off = tcLenAt data off := by
        rw [tcLenAt, slice_append more (by omega), tcLenAt]
      have hstep : stepAt (data ++ more) off = stepAt data off := by
        rw [stepAt, hlen, slice_append more (by omega), slice_append more hfits, stepAt]
      refine parseSteps_succ.mpr ⟨?_, rest, ?_, ?_⟩
      · rw [hlen, length_append]
        omega
      · rw [hlen]
        exact ih hrest
      · rw [hstep]

/-- What is read from the octets is all of it there. -/
theorem parseSteps_length {n off : Nat} (h : parseSteps data n off = .ok steps)
    (hoff : off ≤ data.length) : off + (steps.map Step.size).sum ≤ data.length := by
  induction n generalizing off steps with
  | zero =>
      cases h
      exact hoff
  | succ n ih =>
      obtain ⟨hfits, rest, hrest, rfl⟩ := parseSteps_succ.mp h
      have hsize : (stepAt data off).size = 6 + tcLenAt data off := by
        rw [Step.size, stepAt, slice_length hfits]
      have htail := ih hrest hfits
      rw [map_cons, sum_cons, hsize]
      omega

/-- A written step is the step at its offset. -/
theorem stepAt_encode {s : Step} (hs : s.Fits) {delay : Bytes} (hlength : delay.length = 4)
    (hread : ∀ rest, SameValue s.delayS (unpackFloat (delay ++ rest))) (front rest : Bytes) :
    let data := front ++ (delay ++ (packU16 s.tc.length ++ (s.tc ++ rest)))
    tcLenAt data front.length = s.tc.length ∧ SameStep s (stepAt data front.length) := by
  intro data
  have htc : s.tc.length < 2 ^ 16 := by
    have hfits := hs.tc
    omega
  have hdelay : slice data front.length (front.length + 4) = delay := by
    have hmiddle := slice_middle front delay (packU16 s.tc.length ++ (s.tc ++ rest))
    rwa [hlength] at hmiddle
  have hlen : slice data (front.length + 4) (front.length + 6) = packU16 s.tc.length := by
    have hmiddle := slice_middle (front ++ delay) (packU16 s.tc.length) (s.tc ++ rest)
    rwa [length_append, hlength, packU16_length, append_assoc] at hmiddle
  have hat : tcLenAt data front.length = s.tc.length := by
    rw [tcLenAt, hlen, unpackU16_packU16, Nat.mod_eq_of_lt htc]
  have htail : slice data (front.length + 6) (front.length + 6 + s.tc.length) = s.tc := by
    have hmiddle := slice_middle (front ++ delay ++ packU16 s.tc.length) s.tc rest
    rwa [length_append, length_append, hlength, packU16_length, append_assoc,
      append_assoc] at hmiddle
  refine ⟨hat, ?_, ?_⟩
  · have hsame := hread []
    rw [append_nil] at hsame
    rwa [stepAt, hdelay]
  · rw [stepAt, hat, htail]

/-- **Written steps are read back**, whatever stands before them. -/
theorem parseSteps_encode (h : ∀ s ∈ steps, s.Fits) (front : Bytes) :
    ∃ out read, encodeSteps steps = .ok out ∧ out.length = (steps.map Step.size).sum ∧
      parseSteps (front ++ out) steps.length front.length = .ok read ∧
      List.Forall₂ SameStep steps read := by
  induction steps generalizing front with
  | nil => exact ⟨[], [], rfl, rfl, rfl, .nil⟩
  | cons s steps ih =>
      have hs := h s mem_cons_self
      obtain ⟨delay, hdelay, hlength, hread⟩ := packFloat_representable hs.delayS
      have htc : s.tc.length < 2 ^ 16 := by
        have hfits := hs.tc
        omega
      obtain ⟨out, read, hout, hsize, hparse, hsame⟩ :=
        ih (fun s hmem => h s (mem_cons_of_mem _ hmem))
          (front ++ (delay ++ (packU16 s.tc.length ++ s.tc)))
      obtain ⟨hlen, hstep⟩ := stepAt_encode hs hlength hread front out
      have hwhole : front ++ (delay ++ (packU16 s.tc.length ++ s.tc)) ++ out =
          front ++ (delay ++ (packU16 s.tc.length ++ (s.tc ++ out))) := by
        simp only [append_assoc]
      have hnext : (front ++ (delay ++ (packU16 s.tc.length ++ s.tc))).length =
          front.length + 6 + s.tc.length := by
        simp only [length_append, hlength, packU16_length]
        omega
      rw [hwhole, hnext] at hparse
      refine ⟨delay ++ (packU16 s.tc.length ++ (s.tc ++ out)), _ :: read, ?_, ?_,
        parseSteps_succ.mpr ⟨?_, read, ?_, rfl⟩, .cons hstep hsame⟩
      · have hpack := packUnsigned_two htc
        simp only [encodeSteps, hdelay, hpack, hout, append_assoc]
        rfl
      · simp only [length_append, hlength, packU16_length, map_cons, sum_cons,
          Step.size, hsize]
        omega
      · simp only [length_append, hlength, packU16_length]
        omega
      · rw [hlen]
        exact hparse

/-! ### Blobs -/

/-- The octet that says how long the name is. -/
def nameLenAt (data : Bytes) : Nat := unpackU8 (data.drop 2)

theorem parseLoadBlob_eq (data : Bytes) :
    parseLoadBlob data =
      if data.length < 4 then .error "load blob too short"
      else if data.length < 3 + nameLenAt data + 1 then .error "load blob truncated in name"
      else
        match parseSteps data (unpackU8 (data.drop (3 + nameLenAt data)))
            (3 + nameLenAt data + 1) with
        | .error e => .error e
        | .ok steps =>
            if steps.isEmpty then .error "load blob has no steps"
            else .ok (unpackU16 (slice data 0 2), decodeUtf8 (slice data 3 (3 + nameLenAt data)),
              steps) := rfl

/-- When a blob is accepted. -/
theorem parseLoadBlob_iff {procId : Nat} {name : String} :
    parseLoadBlob data = .ok (procId, name, steps) ↔
      4 + nameLenAt data ≤ data.length ∧ procId = unpackU16 (slice data 0 2) ∧
        name = decodeUtf8 (slice data 3 (3 + nameLenAt data)) ∧ steps ≠ [] ∧
        parseSteps data (unpackU8 (data.drop (3 + nameLenAt data))) (4 + nameLenAt data) =
          .ok steps := by
  have hoff : 3 + nameLenAt data + 1 = 4 + nameLenAt data := by omega
  rw [parseLoadBlob_eq, hoff]
  split_ifs with hshort hname
  · exact ⟨nofun, fun h => absurd h.1 (by omega)⟩
  · exact ⟨nofun, fun h => absurd h.1 (Nat.not_le.mpr hname)⟩
  · cases parseSteps data (unpackU8 (data.drop (3 + nameLenAt data))) (4 + nameLenAt data) with
    | error e => exact ⟨nofun, fun ⟨_, _, _, _, hsteps⟩ => nomatch hsteps⟩
    | ok read =>
        cases read with
        | nil =>
            refine ⟨nofun, fun ⟨_, _, _, hne, hsteps⟩ => absurd ?_ hne⟩
            exact (Except.ok.inj hsteps).symm
        | cons s read =>
            constructor
            · intro h
              obtain ⟨rfl, hrest⟩ := Prod.mk.inj (Except.ok.inj h)
              obtain ⟨rfl, rfl⟩ := Prod.mk.inj hrest
              exact ⟨Nat.not_lt.mp hname, rfl, rfl, cons_ne_nil _ _, rfl⟩
            · rintro ⟨-, rfl, rfl, -, hsteps⟩
              cases hsteps
              rfl

theorem unpackU8_drop_append (more : Bytes) {k : Nat} (h : k < data.length) :
    unpackU8 ((data ++ more).drop k) = unpackU8 (data.drop k) := by
  rw [drop_append_of_le_length (Nat.le_of_lt h)]
  cases hrest : data.drop k with
  | nil => exact absurd (drop_eq_nil_iff.mp hrest) (Nat.not_le.mpr h)
  | cons b rest => rfl

/-- **What is accepted stays as it is read when more octets follow**, and all that is read is
in what is accepted. -/
theorem parseLoadBlob_append (more : Bytes) {procId : Nat} {name : String}
    (h : parseLoadBlob data = .ok (procId, name, steps)) :
    parseLoadBlob (data ++ more) = .ok (procId, name, steps) ∧
      nameLenAt (data ++ more) = nameLenAt data ∧
      4 + nameLenAt data + (steps.map Step.size).sum ≤ data.length := by
  obtain ⟨hfits, rfl, rfl, hne, hsteps⟩ := parseLoadBlob_iff.mp h
  have hname : nameLenAt (data ++ more) = nameLenAt data := unpackU8_drop_append more (by omega)
  refine ⟨parseLoadBlob_iff.mpr ?_, hname, parseSteps_length hsteps hfits⟩
  rw [hname, slice_append more (by omega), slice_append more (by omega),
    unpackU8_drop_append more (by omega), length_append]
  exact ⟨by omega, rfl, rfl, hne, parseSteps_append more hsteps⟩

/-- **A blob that is accepted with nothing left over is not accepted when it is cut.** -/
theorem parseLoadBlob_cut {blob cut : Bytes} {procId : Nat} {name : String}
    (h : parseLoadBlob blob = .ok (procId, name, steps))
    (hall : blob.length = 4 + nameLenAt blob + (steps.map Step.size).sum) (hcut : cut <+: blob)
    (hproper : cut ≠ blob) : ∃ e, parseLoadBlob cut = .error e := by
  obtain ⟨more, rfl⟩ := hcut
  cases hparse : parseLoadBlob cut with
  | error e => exact ⟨e, rfl⟩
  | ok read =>
      obtain ⟨procId', name', steps'⟩ := read
      obtain ⟨hwhole, hname, hlength⟩ := parseLoadBlob_append more hparse
      rw [h] at hwhole
      obtain ⟨-, hread⟩ := Prod.mk.inj (Except.ok.inj hwhole)
      obtain ⟨-, rfl⟩ := Prod.mk.inj hread
      -- The cut blob holds everything that was read, so nothing has been cut off.
      rw [length_append, hname] at hall
      have hnone : more = [] := eq_nil_of_length_eq_zero (by omega)
      rw [hnone, append_nil] at hproper
      exact absurd rfl hproper

theorem oneByte_ok {n : Nat} (h : n ≤ 255) : oneByte n = .ok (packU8 n) := if_pos (by omega)

/-- A procedure that the fields of a blob hold. -/
structure Loadable (procId : Nat) (name : String) (steps : List Step) : Prop where
  procId : procId < 2 ^ 16
  name : (Utf8.encode name.toList).length ≤ 255
  some : 1 ≤ steps.length
  few : steps.length ≤ 255
  fits : ∀ s ∈ steps, s.Fits

/-- What the ground writes for a procedure is accepted, with nothing left over. -/
theorem encodeLoadBlob_parse {procId : Nat} {name : String} (h : Loadable procId name steps) :
    ∃ blob read, encodeLoadBlob procId name steps = .ok blob ∧
      parseLoadBlob blob = .ok (procId, name, read) ∧ List.Forall₂ SameStep steps read ∧
      blob.length = 4 + nameLenAt blob + (steps.map Step.size).sum := by
  generalize hnameB : Utf8.encode name.toList = nameB
  have hname : nameB.length ≤ 255 := hnameB ▸ h.name
  obtain ⟨out, read, hout, hsize, hparse, hsame⟩ := parseSteps_encode h.fits
    (packU16 procId ++ (packU8 nameB.length ++ (nameB ++ packU8 steps.length)))
  have hblob : packU16 procId ++ (packU8 nameB.length ++ (nameB ++ packU8 steps.length)) ++ out =
      packU16 procId ++ (packU8 nameB.length ++ (nameB ++ (packU8 steps.length ++ out))) := by
    simp only [append_assoc]
  have hfront : (packU16 procId ++
      (packU8 nameB.length ++ (nameB ++ packU8 steps.length))).length = 4 + nameB.length := by
    simp only [length_append, packU16_length, packU8_length]
    omega
  rw [hblob, hfront] at hparse
  generalize hdata : packU16 procId ++
    (packU8 nameB.length ++ (nameB ++ (packU8 steps.length ++ out))) = data at hparse
  have hlen : nameLenAt data = nameB.length := by
    rw [nameLenAt, ← hdata, drop_packU16 0, drop_zero, unpackU8_packU8_append,
      Nat.mod_eq_of_lt (by omega)]
  have hsum : data.length = 4 + nameB.length + (steps.map Step.size).sum := by
    rw [← hdata, ← hsize]
    simp only [length_append, packU16_length, packU8_length]
    omega
  have hnumber : unpackU16 (slice data 0 2) = procId := by
    have hslice := slice_middle [] (packU16 procId)
      (packU8 nameB.length ++ (nameB ++ (packU8 steps.length ++ out)))
    rw [← hdata]
    exact (congrArg unpackU16 hslice).trans
      ((unpackU16_packU16 procId).trans (Nat.mod_eq_of_lt h.procId))
  have hnameAt : slice data 3 (3 + nameB.length) = nameB := by
    rw [← hdata]
    exact slice_middle (packU16 procId ++ packU8 nameB.length) nameB (packU8 steps.length ++ out)
  have hcount : unpackU8 (data.drop (3 + nameB.length)) = steps.length := by
    have hdrop : data.drop (3 + nameB.length) = packU8 steps.length ++ out := by
      rw [← hdata, Nat.add_comm, drop_packU16 (nameB.length + 1), drop_packU8, drop_left]
    have hfew := h.few
    rw [hdrop, unpackU8_packU8_append, Nat.mod_eq_of_lt (by omega)]
  refine ⟨data, read, ?_, parseLoadBlob_iff.mpr ?_, hsame, ?_⟩
  · have htake : nameB.take 255 = nameB := take_of_length_le hname
    simp only [encodeLoadBlob, packUnsigned_two h.procId, hnameB, htake, oneByte_ok hname,
      oneByte_ok h.few, hout, append_assoc, ← hdata]
    rfl
  · rw [hlen, hnumber, hnameAt, hcount]
    refine ⟨by omega, rfl, ?_, ?_, hparse⟩
    · rw [← hnameB, decodeUtf8_encode]
    rintro rfl
    have hnone := hsame.length_eq
    have hsome := h.some
    rw [length_nil] at hnone
    omega
  · rw [hlen, hsum]

/-- **The uplink form round trip.**  For every procedure that the fields hold, the blob that the
ground writes is read as the same number, the same name and the same steps, and every proper
prefix of the blob is refused. -/
theorem load_blob_round_trip {procId : Nat} {name : String} {steps : List Step}
    (h : Loadable procId name steps) :
    ∃ blob, encodeLoadBlob procId name steps = .ok blob ∧
      (∃ read, parseLoadBlob blob = .ok (procId, name, read) ∧
        List.Forall₂ SameStep steps read) ∧
      ∀ cut, cut <+: blob → cut ≠ blob → ∃ e, parseLoadBlob cut = .error e := by
  obtain ⟨blob, read, hblob, hparse, hsame, hall⟩ := encodeLoadBlob_parse h
  have hsizes : (read.map Step.size).sum = (steps.map Step.size).sum := by
    have hmap : read.map Step.size = steps.map Step.size := by
      clear hblob hparse hall h
      induction hsame with
      | nil => rfl
      | cons hstep _ ih => rw [List.map_cons, List.map_cons, ih, Step.size, Step.size, hstep.tc]
    rw [hmap]
  refine ⟨blob, hblob, ⟨read, hparse, hsame⟩, fun cut hcut hproper => ?_⟩
  exact parseLoadBlob_cut hparse (hall.trans (by rw [hsizes])) hcut hproper

/-- A step with a delay of one and a half seconds. -/
def pingAfter : Step := { delayS := .finite false 3 (-1), tc := [0x11, 0x01] }

/-- A procedure of one step is loaded as it was written, and only whole. -/
theorem load_blob_round_trip_ping :
    Loadable 7 "né" [pingAfter] ∧
      ∃ blob, encodeLoadBlob 7 "né" [pingAfter] = .ok blob ∧
        (∃ read, parseLoadBlob blob = .ok (7, "né", read) ∧
          List.Forall₂ SameStep [pingAfter] read) ∧
        ∀ cut, cut <+: blob → cut ≠ blob → ∃ e, parseLoadBlob cut = .error e := by
  have hvalue : SameValue pingAfter.delayS (FloatValue.ofBits 0x3FC00000) := by
    have hbits : FloatValue.ofBits 0x3FC00000 = .finite false 12582912 (-23) := by decide
    rw [hbits]
    refine ⟨rfl, ?_⟩
    norm_num
  have hfits : Loadable 7 "né" [pingAfter] :=
    { procId := by decide, name := by decide, some := by decide, few := by decide
      fits := fun s hs => by
        obtain rfl := List.mem_singleton.mp hs
        exact ⟨⟨0x3FC00000, by decide, hvalue⟩, by decide⟩ }
  exact ⟨hfits, load_blob_round_trip hfits⟩

end Obcp
