import Mathlib.Data.List.TakeWhile
import MissionSim.TmFrame

/-!
# Data zones as pieces of a packet stream

A channel's frames cut one octet stream into data zones of equal length.  What a
zone carries is described by four pieces: the continuation of a packet started
in an earlier zone, the packets wholly inside the zone, the head of a packet that
goes on in the next zone, and fill.  `ZoneStep` says which pieces may follow
which, in terms of the packet in progress: the octets of it already `sent` and
the octets still `due`.

The parser half is proved here.  In step with the stream its reassembly buffer
holds exactly `sent`, and one frame yields exactly the packets the zone
completes; out of step, a zone in which a packet starts brings it back.
-/

namespace Ccsds

open Octets List

variable {α : Type} [Octet α]

/-- A space packet the telemetry path can carry. -/
structure WellFormedPacket (p : List α) : Prop where
  long : 7 ≤ p.length
  short : p.length ≤ 4096
  lengthField : unpackU16 (slice (bytesOf p) 4 6) + 7 = p.length
  notIdle : ∀ x ∈ p.head?, Octet.byte x ≠ 0xFE

theorem WellFormedPacket.of_cons {x : α} {rest : List α} (long : 7 ≤ (x :: rest).length)
    (short : (x :: rest).length ≤ 4096)
    (lengthField : unpackU16 (slice (bytesOf (x :: rest)) 4 6) + 7 = (x :: rest).length)
    (notIdle : Octet.byte x ≠ 0xFE) : WellFormedPacket (x :: rest) := by
  refine ⟨long, short, lengthField, ?_⟩
  intro y hy
  rwa [← Option.some.inj hy]

/-- The pieces of one data zone. -/
structure Zone (α : Type) where
  cont : List α := []
  whole : List (List α) := []
  head : List α := []
  pad : List α := []

def Zone.data (z : Zone α) : List α :=
  z.cont ++ (z.whole.flatten ++ (z.head ++ z.pad))

/-- First Header Pointer of a zone: the offset of the first packet start, when a
packet starts in the zone at all. -/
def Zone.pointer (z : Zone α) : Nat :=
  if z.whole = [] ∧ z.head = [] then firstHeaderPointerIdle else z.cont.length

/-- A frame carries a zone: same octets, and the pointer the zone calls for. -/
def TMFrame.Carries (frame : TMFrame α) (z : Zone α) : Prop :=
  frame.data = z.data ∧ frame.header.firstHeaderPointer = z.pointer

/-- Octets sent and due of the packet in progress; both empty between packets. -/
def OpenOk (sent due : List α) : Prop :=
  (sent = [] ∧ due = []) ∨ (sent ≠ [] ∧ due ≠ [] ∧ WellFormedPacket (sent ++ due))

/-- The packet in progress, if there is one. -/
def inProgress (sent due : List α) : List (List α) :=
  if sent ++ due = [] then [] else [sent ++ due]

/-- One zone of a stream: the packet in progress before, the zone, the packets it
completes, the packet in progress after. -/
inductive ZoneStep (dz : Nat) :
    List α → List α → Zone α → List (List α) → List α → List α → Prop
  | through {sent cont due : List α}
      (hopen : OpenOk sent (cont ++ due))
      (hlen : cont.length = dz) (hpos : 0 < dz) (hdue : due ≠ []) :
      ZoneStep dz sent (cont ++ due) { cont := cont } [] (sent ++ cont) due
  | finish {sent due head due' pad : List α} {whole : List (List α)}
      (hopen : OpenOk sent due)
      (hwhole : ∀ p ∈ whole, WellFormedPacket p)
      (hopen' : OpenOk head due')
      (hpad : ∀ x ∈ pad, x = Octet.idle)
      (hpadHead : pad ≠ [] → head = [])
      (hlen : (Zone.mk due whole head pad).data.length = dz)
      (hcarries : due ≠ [] ∨ whole ≠ [] ∨ head ≠ []) :
      ZoneStep dz sent due { cont := due, whole := whole, head := head, pad := pad }
        (inProgress sent due ++ whole) head due'

/-- A run of zones, the packets it completes listed in stream order. -/
inductive ZoneRun (dz : Nat) :
    List α → List α → List (Zone α) → List (List α) → List α → List α → Prop
  | nil (sent due : List α) : ZoneRun dz sent due [] [] sent due
  | cons {sent due sent₁ due₁ sent₂ due₂ : List α} {z : Zone α} {zs : List (Zone α)}
      {done dones : List (List α)}
      (step : ZoneStep dz sent due z done sent₁ due₁)
      (tail : ZoneRun dz sent₁ due₁ zs dones sent₂ due₂) :
      ZoneRun dz sent due (z :: zs) (done ++ dones) sent₂ due₂

theorem ZoneRun.append {dz : Nat} {s d s₁ d₁ s₂ d₂ : List α} {zs ws : List (Zone α)}
    {ps qs : List (List α)} (h : ZoneRun dz s d zs ps s₁ d₁)
    (h' : ZoneRun dz s₁ d₁ ws qs s₂ d₂) :
    ZoneRun dz s d (zs ++ ws) (ps ++ qs) s₂ d₂ := by
  induction h with
  | nil => exact h'
  | cons step _ ih =>
      rw [append_assoc]
      exact ZoneRun.cons step (ih h')

/-! ### Octets of packets -/

@[simp] theorem bytesOf_append (a b : List α) : bytesOf (a ++ b) = bytesOf a ++ bytesOf b := by
  simp [bytesOf]

@[simp] theorem bytesOf_length (a : List α) : (bytesOf a).length = a.length := by
  simp [bytesOf]

variable {p : List α}

/-- The length field sits in the first six octets of a buffer. -/
theorem announcedLength_append (rest : List α) (h : 6 ≤ p.length) :
    announcedLength (p ++ rest) = announcedLength p := by
  have hb : 6 ≤ (bytesOf p).length := by simpa using h
  simp only [announcedLength, slice, bytesOf_append]
  rw [take_append_of_le_length hb]

theorem WellFormedPacket.announced (h : WellFormedPacket p) : announcedLength p = p.length := by
  have := h.lengthField
  unfold announcedLength
  omega

theorem WellFormedPacket.ne_nil (h : WellFormedPacket p) : p ≠ [] := by
  have := h.long
  rintro rfl
  simp at this

/-- A packet is not taken for fill. -/
theorem WellFormedPacket.skipIdle_append (h : WellFormedPacket p) (rest : List α) :
    skipIdle (p ++ rest) = p ++ rest := by
  cases p with
  | nil => exact absurd rfl h.ne_nil
  | cons x p =>
      have hx := h.notIdle x (by simp)
      simp [skipIdle, hx]

theorem skipIdle_pad {pad : List α} (h : ∀ x ∈ pad, Octet.byte x = 0xFE) :
    skipIdle pad = [] := by
  rw [skipIdle, dropWhile_eq_nil_iff]
  simpa using h

/-- The head of a packet in progress is not taken for fill either. -/
theorem OpenOk.skipIdle_head {head due : List α} (h : OpenOk head due) :
    skipIdle head = head := by
  rcases h with ⟨rfl, _⟩ | ⟨hne, _, hwf⟩
  · rfl
  · cases head with
    | nil => exact absurd rfl hne
    | cons x head =>
        have hx := hwf.notIdle x (by simp)
        simp [skipIdle, hx]

/-! ### Extraction from the reassembly buffer -/

/-- A packet in progress yields nothing and stays in the buffer. -/
theorem extractLoop_open {head due : List α} (h : OpenOk head due) (fuel : Nat) :
    extractLoop fuel head = ([], head) := by
  cases fuel with
  | zero => rfl
  | succ fuel =>
      rcases h with ⟨rfl, _⟩ | ⟨_, hdue, hwf⟩
      · rfl
      · unfold extractLoop
        by_cases hlen : 7 ≤ head.length
        · have hann : announcedLength head = (head ++ due).length := by
            rw [← announcedLength_append due (by omega), hwf.announced]
          have hshort := hwf.short
          have hlt : head.length < (head ++ due).length := by
            have := length_pos_iff.mpr hdue
            simp only [length_append]
            omega
          simp only [if_pos hlen, hann, if_neg (Nat.not_lt.mpr hshort), if_pos hlt]
        · simp only [if_neg hlen]

/-- A complete packet at the front is taken out, then fill is skipped. -/
theorem extractLoop_packet (h : WellFormedPacket p) (rest : List α) (fuel : Nat) :
    extractLoop (fuel + 1) (p ++ rest) =
      (p :: (extractLoop fuel (skipIdle rest)).1,
        (extractLoop fuel (skipIdle rest)).2) := by
  have hlong := h.long
  have hann : announcedLength (p ++ rest) = p.length := by
    rw [announcedLength_append rest (by omega), h.announced]
  have h7 : 7 ≤ (p ++ rest).length := by
    simp only [length_append]
    omega
  have hle : ¬ (p ++ rest).length < p.length := by
    simp only [length_append]
    omega
  rw [extractLoop, if_pos h7]
  simp only [hann, if_neg (Nat.not_lt.mpr h.short), if_neg hle, take_left',
    drop_left']

/-- A buffer of complete packets, a head in progress and fill after the last
packet yields the packets and keeps the head. -/
theorem extractLoop_packets {ps : List (List α)} {head due pad : List α}
    (hps : ∀ p ∈ ps, WellFormedPacket p) (hopen : OpenOk head due)
    (hpad : ∀ x ∈ pad, Octet.byte x = 0xFE)
    (hpadHead : pad ≠ [] → head = [] ∧ ps ≠ []) {fuel : Nat} (hfuel : ps.length ≤ fuel) :
    extractLoop fuel (ps.flatten ++ (head ++ pad)) = (ps, head) := by
  induction ps generalizing fuel with
  | nil =>
      have hnil : pad = [] := by
        by_contra hne
        exact (hpadHead hne).2 rfl
      simpa [hnil] using extractLoop_open hopen fuel
  | cons p ps ih =>
      obtain ⟨fuel, rfl⟩ : ∃ n, fuel = n + 1 := ⟨fuel - 1, by simp at hfuel; omega⟩
      have hp := hps p mem_cons_self
      have hps' : ∀ q ∈ ps, WellFormedPacket q := fun q hq => hps q (mem_cons_of_mem _ hq)
      rw [flatten_cons, append_assoc, extractLoop_packet hp]
      have htail : extractLoop fuel (skipIdle (ps.flatten ++ (head ++ pad))) = (ps, head) := by
        cases ps with
        | nil =>
            have hskip : skipIdle (head ++ pad) = head := by
              by_cases hne : pad = []
              · simpa [hne] using hopen.skipIdle_head
              · simpa [(hpadHead hne).1] using skipIdle_pad hpad
            simpa [hskip] using extractLoop_open hopen fuel
        | cons q qs =>
            have hq := hps' q mem_cons_self
            have hskip : skipIdle ((q :: qs).flatten ++ (head ++ pad))
                = (q :: qs).flatten ++ (head ++ pad) := by
              rw [flatten_cons, append_assoc]
              exact hq.skipIdle_append _
            rw [hskip]
            exact ih hps' (fun hne => ⟨(hpadHead hne).1, by simp⟩) (by simpa using hfuel)
      rw [htail]

/-! ### One frame -/

/-- Link formats on which every packet can be reassembled: a frame offset never
reads as one of the two reserved pointer values, and a packet in progress plus a
zone never exceeds the reassembly cap of five zones. -/
def FrameFormat.CarriesPackets (fmt : FrameFormat) : Prop :=
  fmt.dataZoneLength ≤ firstHeaderPointerIdle ∧ 4095 ≤ 4 * fmt.dataZoneLength

theorem FrameFormat.standard_carriesPackets : FrameFormat.standard.CarriesPackets := by
  unfold FrameFormat.CarriesPackets
  decide

theorem OpenOk.sent_length {sent due : List α} (h : OpenOk sent due) :
    (sent ++ due).length ≤ 4096 ∧ (due ≠ [] → sent.length ≤ 4095) := by
  rcases h with ⟨rfl, rfl⟩ | ⟨_, _, hwf⟩
  · simp
  · refine ⟨hwf.short, fun hdue => ?_⟩
    have := hwf.short
    have := length_pos_iff.mpr hdue
    simp only [length_append] at *
    omega

theorem OpenOk.sent_nil {sent : List α} (h : OpenOk sent []) : sent = [] := by
  rcases h with ⟨rfl, _⟩ | ⟨_, hdue, _⟩
  · rfl
  · exact absurd rfl hdue

theorem OpenOk.inProgress_wf {sent due : List α} (h : OpenOk sent due) :
    ∀ p ∈ inProgress sent due, WellFormedPacket p := by
  intro p hp
  unfold inProgress at hp
  rcases h with ⟨rfl, rfl⟩ | ⟨_, _, hwf⟩
  · simp at hp
  · rw [if_neg (hwf.ne_nil)] at hp
    simpa using (mem_singleton.mp hp) ▸ hwf

omit [Octet α] in
@[simp] theorem inProgress_nil : inProgress ([] : List α) [] = [] := rfl

omit [Octet α] in
theorem inProgress_flatten (sent due : List α) :
    (inProgress sent due).flatten = sent ++ due := by
  unfold inProgress
  split
  · rename_i h
    simp [h]
  · simp

variable {p : TMFrameParser α}

/-- Extraction below the reassembly cap. -/
theorem extractFromBuffer_of_le (h : p.reassemblyBuffer.length ≤ p.format.dataZoneLength * 5) :
    p.extractFromBuffer =
      ((extractLoop p.reassemblyBuffer.length p.reassemblyBuffer).1,
        { p with reassemblyBuffer :=
            (extractLoop p.reassemblyBuffer.length p.reassemblyBuffer).2 }) := by
  unfold TMFrameParser.extractFromBuffer
  rw [if_neg (Nat.not_lt.mpr h)]

/-- Extraction changes nothing in the parser but its buffer. -/
theorem extractFromBuffer_reset (p : TMFrameParser α) (buf : List α) :
    { p.extractFromBuffer.2 with reassemblyBuffer := buf } =
      { p with reassemblyBuffer := buf } := by
  unfold TMFrameParser.extractFromBuffer
  split <;> rfl

theorem length_le_flatten {ps : List (List α)} (h : ∀ p ∈ ps, WellFormedPacket p) :
    ps.length ≤ ps.flatten.length := by
  induction ps with
  | nil => simp
  | cons p ps ih =>
      have hp := (h p mem_cons_self).long
      have := ih (fun q hq => h q (mem_cons_of_mem _ hq))
      simp only [length_cons, flatten_cons, length_append]
      omega

/-- Extraction from a buffer of packets, a head in progress and trailing fill. -/
theorem extractFromBuffer_packets (ps : List (List α)) (head due pad : List α)
    (hbuf : p.reassemblyBuffer = ps.flatten ++ (head ++ pad))
    (hcap : p.reassemblyBuffer.length ≤ p.format.dataZoneLength * 5)
    (hps : ∀ q ∈ ps, WellFormedPacket q) (hopen : OpenOk head due)
    (hpad : ∀ x ∈ pad, Octet.byte x = 0xFE) (hpadHead : pad ≠ [] → head = [] ∧ ps ≠ []) :
    p.extractFromBuffer = (ps, { p with reassemblyBuffer := head }) := by
  have hfuel : ps.length ≤ p.reassemblyBuffer.length := by
    have := length_le_flatten hps
    rw [hbuf, length_append]
    omega
  rw [extractFromBuffer_of_le hcap]
  conv_lhs => rw [hbuf]
  rw [extractLoop_packets hps hopen hpad hpadHead (by rw [← hbuf]; exact hfuel)]

/-- A zone in which a packet starts has that start short of its end. -/
theorem Zone.cont_lt {z : Zone α} {dz : Nat} (hlen : z.data.length = dz)
    (hwhole : ∀ p ∈ z.whole, WellFormedPacket p) (hstarts : ¬ (z.whole = [] ∧ z.head = [])) :
    z.cont.length < dz := by
  have hpos : 0 < (z.whole.flatten ++ (z.head ++ z.pad)).length := by
    by_cases hw : z.whole = []
    · have hh : z.head ≠ [] := fun h => hstarts ⟨hw, h⟩
      have := length_pos_iff.mpr hh
      simp only [length_append]
      omega
    · have := length_le_flatten hwhole
      have := length_pos_iff.mpr hw
      simp only [length_append]
      omega
  unfold Zone.data at hlen
  simp only [length_append] at hlen hpos
  omega

variable {frame : TMFrame α}

/-- A zone lying inside one packet adds its octets to the buffer. -/
theorem extractPackets_through {cont due : List α} (hfmt : p.format.CarriesPackets)
    (hopen : OpenOk p.reassemblyBuffer (cont ++ due)) (hdue : due ≠ [])
    (hlen : cont.length = p.format.dataZoneLength) (hcarries : frame.Carries { cont := cont }) :
    p.extractPackets frame =
      ([], { p with reassemblyBuffer := p.reassemblyBuffer ++ cont }) := by
  obtain ⟨hdata, hptr⟩ := hcarries
  have hsent : p.reassemblyBuffer.length ≤ 4095 := hopen.sent_length.2 (by simp [hdue])
  have hcap := hfmt.2
  have hopen' : OpenOk (p.reassemblyBuffer ++ cont) due := by
    rcases hopen with ⟨_, h⟩ | ⟨hs, _, hwf⟩
    · exact absurd (append_eq_nil_iff.mp h).2 hdue
    · exact Or.inr ⟨by simp [hs], hdue, by simpa using hwf⟩
  have hp : frame.header.firstHeaderPointer = firstHeaderPointerIdle := by
    simpa [Zone.pointer] using hptr
  have hd : frame.data = cont := by simpa [Zone.data] using hdata
  have hnot : frame.isIdle = false := by
    simp [TMFrame.isIdle, hp, firstHeaderPointerIdle, firstHeaderPointerNoPacket]
  have hx := extractFromBuffer_packets
    (p := { p with reassemblyBuffer := p.reassemblyBuffer ++ frame.data })
    [] (p.reassemblyBuffer ++ cont) due []
    (by simp [hd]) (by simp only [hd, length_append]; omega)
    (by simp) hopen' (by simp) (by simp)
  unfold TMFrameParser.extractPackets
  simp only [hnot, hp, if_pos, Bool.false_eq_true, if_false]
  simpa using hx

/-- A zone that only ends a packet, followed by fill, completes that packet. -/
theorem extractPackets_tail {due pad : List α} (hfmt : p.format.CarriesPackets)
    (hopen : OpenOk p.reassemblyBuffer due) (hdue : due ≠ [])
    (hpad : ∀ x ∈ pad, Octet.byte x = 0xFE)
    (hlen : due.length + pad.length = p.format.dataZoneLength)
    (hcarries : frame.Carries { cont := due, pad := pad }) :
    p.extractPackets frame =
      ([p.reassemblyBuffer ++ due], { p with reassemblyBuffer := [] }) := by
  obtain ⟨hdata, hptr⟩ := hcarries
  have hsent := hopen.sent_length.2 hdue
  have hcap := hfmt.2
  have hp : frame.header.firstHeaderPointer = firstHeaderPointerIdle := by
    simpa [Zone.pointer] using hptr
  have hd : frame.data = due ++ pad := by simpa [Zone.data] using hdata
  have hnot : frame.isIdle = false := by
    simp [TMFrame.isIdle, hp, firstHeaderPointerIdle, firstHeaderPointerNoPacket]
  have hprog : inProgress p.reassemblyBuffer due = [p.reassemblyBuffer ++ due] := by
    simp [inProgress, hdue]
  have hx := extractFromBuffer_packets
    (p := { p with reassemblyBuffer := p.reassemblyBuffer ++ frame.data })
    [p.reassemblyBuffer ++ due] [] [] pad
    (by simp [hd]) (by simp only [hd, length_append]; omega)
    (by rw [← hprog]; exact hopen.inProgress_wf) (Or.inl ⟨rfl, rfl⟩) hpad (by simp)
  unfold TMFrameParser.extractPackets
  simp only [hnot, hp, if_pos, Bool.false_eq_true, if_false]
  simpa using hx

/-- A zone in which a packet starts: whatever the buffer held, every packet wholly
inside the zone comes out and the buffer is left with the head of the last one.
Only what comes out before them depends on the buffer. -/
theorem extractPackets_starts {z : Zone α} {due : List α} (hfmt : p.format.CarriesPackets)
    (hwhole : ∀ q ∈ z.whole, WellFormedPacket q) (hopen : OpenOk z.head due)
    (hpad : ∀ x ∈ z.pad, Octet.byte x = 0xFE) (hpadHead : z.pad ≠ [] → z.head = [])
    (hlen : z.data.length = p.format.dataZoneLength) (hstarts : ¬ (z.whole = [] ∧ z.head = []))
    (hcarries : frame.Carries z) :
    p.extractPackets frame =
      ((if z.cont = [] then [] else
          ({ p with reassemblyBuffer :=
              p.reassemblyBuffer ++ z.cont } : TMFrameParser α).extractFromBuffer.1) ++ z.whole,
        { p with reassemblyBuffer := z.head }) := by
  obtain ⟨hdata, hptr⟩ := hcarries
  have hidle := hfmt.1
  have hcont := Zone.cont_lt hlen hwhole hstarts
  have hp : frame.header.firstHeaderPointer = z.cont.length := by
    rw [hptr, Zone.pointer, if_neg hstarts]
  have hnot : frame.isIdle = false := by
    simp only [TMFrame.isIdle, hp, firstHeaderPointerNoPacket, beq_eq_false_iff_ne]
    simp only [firstHeaderPointerIdle] at hidle
    omega
  have hnotIdle : z.cont.length ≠ firstHeaderPointerIdle := by omega
  have hpadHead' : z.pad ≠ [] → z.head = [] ∧ z.whole ≠ [] := by
    intro hx
    exact ⟨hpadHead hx, fun hw => hstarts ⟨hw, hpadHead hx⟩⟩
  have hd : frame.data = z.cont ++ (z.whole.flatten ++ (z.head ++ z.pad)) := hdata
  have hrest : (z.whole.flatten ++ (z.head ++ z.pad)).length ≤ p.format.dataZoneLength := by
    simp only [Zone.data, length_append] at hlen
    simp only [length_append]
    omega
  have hpost := extractFromBuffer_packets
    (p := { p with reassemblyBuffer := frame.data.drop z.cont.length })
    z.whole z.head due z.pad
    (by simp [hd]) (by simp only [hd, drop_left']; omega)
    hwhole hopen hpad hpadHead'
  unfold TMFrameParser.extractPackets
  simp only [hnot, hp, if_neg hnotIdle, Bool.false_eq_true, if_false]
  by_cases hzero : z.cont = []
  · simpa [hzero] using hpost
  · have hlenPos := length_pos_iff.mpr hzero
    have htake : frame.data.take z.cont.length = z.cont := by simp [hd]
    rw [if_neg (by omega), if_neg hzero]
    simp only [htake, extractFromBuffer_reset, hpost]

/-- **In step.**  A parser whose buffer holds the octets sent of the packet in
progress gets from the next frame exactly the packets its zone completes, and is
left holding the octets sent of the packet then in progress. -/
theorem extractPackets_step {z : Zone α} {due sent' due' : List α} {done : List (List α)}
    (hfmt : p.format.CarriesPackets)
    (hstep : ZoneStep p.format.dataZoneLength p.reassemblyBuffer due z done sent' due')
    (hcarries : frame.Carries z) :
    p.extractPackets frame = (done, { p with reassemblyBuffer := sent' }) := by
  cases hstep with
  | through hopen hlen _ hdue => exact extractPackets_through hfmt hopen hdue hlen hcarries
  | finish hopen hwhole hopen' hidle hpadHead hlen hne =>
      rename_i pad whole
      have hpad : ∀ x ∈ pad, Octet.byte x = 0xFE := fun x hx =>
        hidle x hx ▸ Octet.byte_idle
      by_cases hstarts : whole = [] ∧ sent' = []
      · obtain ⟨rfl, rfl⟩ := hstarts
        have hdue : due ≠ [] := by simpa using hne
        have hlen' : due.length + pad.length = p.format.dataZoneLength := by
          simpa [Zone.data] using hlen
        rw [extractPackets_tail hfmt hopen hdue hpad hlen' hcarries]
        simp [inProgress, hdue]
      · rw [extractPackets_starts hfmt hwhole hopen' hpad hpadHead hlen hstarts hcarries]
        by_cases hzero : due = []
        · subst hzero
          have hs := hopen.sent_nil
          simp [inProgress, hs]
        · have hsent := hopen.sent_length.2 hzero
          have hprog : inProgress p.reassemblyBuffer due = [p.reassemblyBuffer ++ due] := by
            simp [inProgress, hzero]
          have hcont : due.length ≤ p.format.dataZoneLength :=
            (Zone.cont_lt hlen hwhole hstarts).le
          have hcap := hfmt.2
          have hpre := extractFromBuffer_packets
            (p := { p with reassemblyBuffer := p.reassemblyBuffer ++ due })
            [p.reassemblyBuffer ++ due] [] [] []
            (by simp) (by simp only [length_append]; omega)
            (by rw [← hprog]; exact hopen.inProgress_wf) (Or.inl ⟨rfl, rfl⟩) (by simp) (by simp)
          simp only [hzero, if_false, hpre, hprog]

/-- Frames carrying the zones of a run, one each. -/
def CarriedBy (frames : List (TMFrame α)) (zs : List (Zone α)) : Prop :=
  List.Forall₂ TMFrame.Carries frames zs

/-- **In step, whole runs.**  The packets extracted from the frames of a run are
the packets the run completes. -/
theorem extractAll_run {frames : List (TMFrame α)} {zs : List (Zone α)}
    {sent due sent' due' : List α} {done : List (List α)} (hfmt : p.format.CarriesPackets)
    (hbuf : p.reassemblyBuffer = sent)
    (hrun : ZoneRun p.format.dataZoneLength sent due zs done sent' due')
    (hcarried : CarriedBy frames zs) :
    p.extractAll frames = (done, { p with reassemblyBuffer := sent' }) := by
  induction hcarried generalizing p sent due done with
  | nil =>
      cases hrun
      subst hbuf
      rfl
  | cons hframe _ ih =>
      cases hrun with
      | cons step tail =>
          subst hbuf
          have hstep := extractPackets_step hfmt step hframe
          rename_i sent₁ _ _ _
          have htail := ih (p := { p with reassemblyBuffer := sent₁ }) hfmt rfl tail
          simp only [TMFrameParser.extractAll, hstep, htail]

end Ccsds
