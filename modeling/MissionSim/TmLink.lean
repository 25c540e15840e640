import MissionSim.TmFraming

/-!
# A channel over the link

Builder and parser put together.  `TMFrameBuilder.run` is any session of
`addPacket` and `flush` calls on one channel; its frames go over the link as
octets and are parsed again.  Only the pointer and the data field of a frame
reach the packet extraction, and both survive the wire.

Extraction and framing look at an octet through its value alone, so a run over
any carrier has the byte run as its image.
-/

namespace Ccsds

open Octets Ecss TMFrameHeader List

variable {α : Type} [Octet α]

/-! ### Sessions on one channel -/

/-- One call on a channel of the builder. -/
inductive FrameOp (α : Type) where
  | add (packet : List α)
  | flush

/-- The packets a session adds, in order. -/
def packetsAdded : List (FrameOp α) → List (List α)
  | [] => []
  | .add packet :: ops => packet :: packetsAdded ops
  | .flush :: ops => packetsAdded ops

/-- Frames emitted by one call. -/
def TMFrameBuilder.perform (b : TMFrameBuilder α) (vcid : Nat) :
    FrameOp α → List (TMFrame α) × TMFrameBuilder α
  | .add packet => b.addPacket packet vcid
  | .flush => b.flush vcid

/-- Frames emitted by a session of calls on one channel. -/
def TMFrameBuilder.run (b : TMFrameBuilder α) (vcid : Nat) :
    List (FrameOp α) → List (TMFrame α) × TMFrameBuilder α
  | [] => ([], b)
  | op :: ops =>
      let first := b.perform vcid op
      let rest := first.2.run vcid ops
      (first.1 ++ rest.1, rest.2)

theorem run_append (b : TMFrameBuilder α) (vcid : Nat) (ops ops' : List (FrameOp α)) :
    b.run vcid (ops ++ ops') =
      ((b.run vcid ops).1 ++ ((b.run vcid ops).2.run vcid ops').1,
        ((b.run vcid ops).2.run vcid ops').2) := by
  induction ops generalizing b with
  | nil => simp [TMFrameBuilder.run]
  | cons op ops ih => simp [TMFrameBuilder.run, ih]

variable {vcid : Nat}

/-- Calls compose: what the second emits continues what the first did. -/
theorem Emits.trans {b b₁ b₂ : TMFrameBuilder α} {s d s₁ d₁ s₂ d₂ : List α}
    {q q₁ q₂ a : List (List α)} {fs gs : List (TMFrame α)} {zs ws : List (Zone α)}
    {ps qs : List (List α)} (h : Emits b vcid s d q fs zs ps b₁ s₁ d₁ q₁)
    (h' : Emits b₁ vcid s₁ d₁ (q₁ ++ a) gs ws qs b₂ s₂ d₂ q₂) :
    Emits b vcid s d (q ++ a) (fs ++ gs) (zs ++ ws) (ps ++ qs) b₂ s₂ d₂ q₂ := by
  refine ⟨h'.format.trans h.format, h.frames.append ?_, ?_⟩
  · rw [← h.format]
    exact h'.frames
  · calc inProgress s d ++ (q ++ a)
        = ps ++ (inProgress s₁ d₁ ++ (q₁ ++ a)) := by
          rw [← append_assoc, h.conserved]
          simp only [append_assoc]
      _ = ps ++ qs ++ (inProgress s₂ d₂ ++ q₂) := by
          rw [h'.conserved, append_assoc]

/-- One call of a session. -/
theorem perform_emits {b : TMFrameBuilder α} {sent due : List α} {queue : List (List α)}
    (h : Buffered b vcid 0 sent due queue) {op : FrameOp α}
    (hop : ∀ p ∈ packetsAdded [op], WellFormedPacket p) :
    ∃ zs done sent' due' queue',
      Emits b vcid sent due (queue ++ packetsAdded [op]) (b.perform vcid op).1 zs done
        (b.perform vcid op).2 sent' due' queue' ∧
      Buffered (b.perform vcid op).2 vcid 0 sent' due' queue' := by
  cases op with
  | add packet =>
      obtain ⟨zs, done, sent', due', queue', hemits, hbuf, _, _⟩ :=
        addPacket_emits h (hop packet (by simp [packetsAdded]))
      exact ⟨zs, done, sent', due', queue', hemits, hbuf⟩
  | flush =>
      obtain ⟨zs, hemits, hbuf⟩ := flush_emits h
      rw [packetsAdded, packetsAdded, append_nil]
      exact ⟨zs, _, [], [], [], hemits, hbuf⟩

omit [Octet α] in
theorem packetsAdded_append (ops ops' : List (FrameOp α)) :
    packetsAdded (ops ++ ops') = packetsAdded ops ++ packetsAdded ops' := by
  induction ops with
  | nil => rfl
  | cons op ops ih => cases op <;> simp [packetsAdded, ih]

/-- **A whole session.**  No packet is lost, duplicated or reordered between the
calls and the emitted zones. -/
theorem run_emits {b : TMFrameBuilder α} {sent due : List α} {queue : List (List α)}
    (h : Buffered b vcid 0 sent due queue) {ops : List (FrameOp α)}
    (hops : ∀ p ∈ packetsAdded ops, WellFormedPacket p) :
    ∃ zs done sent' due' queue',
      Emits b vcid sent due (queue ++ packetsAdded ops) (b.run vcid ops).1 zs done
        (b.run vcid ops).2 sent' due' queue' ∧
      Buffered (b.run vcid ops).2 vcid 0 sent' due' queue' := by
  induction ops generalizing b sent due queue with
  | nil =>
      exact ⟨[], [], sent, due, queue, ⟨rfl, Frames.nil _ _ _ _, by simp [packetsAdded]⟩, h⟩
  | cons op ops ih =>
      have hsplit : packetsAdded (op :: ops) = packetsAdded [op] ++ packetsAdded ops :=
        packetsAdded_append [op] ops
      rw [hsplit] at hops ⊢
      obtain ⟨zs, done, s₁, d₁, q₁, hfirst, hbuf₁⟩ :=
        perform_emits h (fun p hp => hops p (mem_append_left _ hp))
      obtain ⟨ws, dones, s₂, d₂, q₂, hrest, hbuf₂⟩ :=
        ih hbuf₁ (fun p hp => hops p (mem_append_right _ hp))
      exact ⟨zs ++ ws, done ++ dones, s₂, d₂, q₂,
        by simpa [TMFrameBuilder.run] using hfirst.trans hrest, hbuf₂⟩

/-- A session on a fresh builder that ends with a flush frames exactly the packets
added, and leaves nothing pending. -/
theorem run_flush_frames (scid vcid : Nat) (fmt : FrameFormat) {ops : List (FrameOp α)}
    (hops : ∀ p ∈ packetsAdded ops, WellFormedPacket p) :
    ∃ zs, Frames fmt vcid
      (({ scid := scid, format := fmt } : TMFrameBuilder α).run vcid (ops ++ [.flush])).1
      [] [] zs (packetsAdded ops) [] [] := by
  obtain ⟨zs, done, s, d, q, hemits, hbuf⟩ :=
    run_emits (Buffered.fresh scid vcid fmt) hops
  obtain ⟨ws, hflush, _⟩ := flush_emits hbuf
  have hall := hemits.trans (a := []) (by simpa using hflush)
  have hdone : done ++ (inProgress s d ++ q) = packetsAdded ops := by
    simpa using hemits.conserved.symm
  rw [hdone] at hall
  refine ⟨zs ++ ws, ?_⟩
  simpa [run_append, TMFrameBuilder.run, TMFrameBuilder.perform] using hall.frames

/-! ### Across the wire -/

theorem pack_length (h : TMFrameHeader) : h.pack.length = tfHeaderLength := by
  simp [pack, tfHeaderLength]

/-- The pointer field of a header holds eleven bits. -/
theorem unpack_pack_pointer (h : TMFrameHeader) :
    (unpack h.pack).firstHeaderPointer = h.firstHeaderPointer % 2 ^ 11 := by
  have hmask : ∀ n, n &&& 0x7FF = n % 2 ^ 11 := mask_eq_mod 11 rfl
  have hword : ∀ high, (high <<< 11 ||| h.firstHeaderPointer % 2 ^ 11) % 2 ^ 16 % 2 ^ 11 =
      h.firstHeaderPointer % 2 ^ 11 := by
    intro high
    rw [shiftLeft_or_eq_add 11 high (Nat.mod_lt _ (by decide))]
    omega
  have hfields : ∀ a b c d low : Nat, a <<< 15 ||| b <<< 14 ||| c <<< 13 ||| d <<< 11 ||| low =
      (a <<< 4 ||| b <<< 3 ||| c <<< 2 ||| d) <<< 11 ||| low := by
    intro a b c d low
    simp only [Nat.shiftLeft_or_distrib, ← Nat.shiftLeft_add]
  simp only [unpack, pack, hmask]
  have hdrop : ∀ a b c d : Nat, (packU16 a ++ packU8 b ++ packU8 c ++ packU16 d).drop 4 =
      packU16 d := fun _ _ _ _ => rfl
  rw [hdrop, unpackU16_packU16, hfields, hword]

/-- Packing what was unpacked from six octets gives them back. -/
theorem pack_unpack {data : Bytes} (h : data.length = tfHeaderLength) :
    (unpack data).pack = data := by
  match data, h with
  | [a, b, c, d, e, f], _ =>
      have ha := a.toNat_lt
      have hb := b.toNat_lt
      have he := e.toNat_lt
      have hf := f.toNat_lt
      have h1 : ∀ n, n &&& 0x1 = n % 2 ^ 1 := mask_eq_mod 1 rfl
      have h2 : ∀ n, n &&& 0x3 = n % 2 ^ 2 := mask_eq_mod 2 rfl
      have h3 : ∀ n, n &&& 0x7 = n % 2 ^ 3 := mask_eq_mod 3 rfl
      have h8 : ∀ n, n &&& 0xFF = n % 2 ^ 8 := mask_eq_mod 8 rfl
      have h10 : ∀ n, n &&& 0x3FF = n % 2 ^ 10 := mask_eq_mod 10 rfl
      have h11 : ∀ n, n &&& 0x7FF = n % 2 ^ 11 := mask_eq_mod 11 rfl
      -- nested so that each field sits just above the next
      have hword0 : ∀ v s c o : Nat, v <<< 14 ||| s <<< 4 ||| c <<< 1 ||| o =
          ((v <<< 10 ||| s) <<< 3 ||| c) <<< 1 ||| o := by
        intro v s c o
        simp only [Nat.shiftLeft_or_distrib, ← Nat.shiftLeft_add]
      have hword2 : ∀ s y p g l : Nat, s <<< 15 ||| y <<< 14 ||| p <<< 13 ||| g <<< 11 ||| l =
          (((s <<< 1 ||| y) <<< 1 ||| p) <<< 2 ||| g) <<< 11 ||| l := by
        intro s y p g l
        simp only [Nat.shiftLeft_or_distrib, ← Nat.shiftLeft_add]
      have hlt : ∀ n k, n % 2 ^ k < 2 ^ k := fun n k => Nat.mod_lt _ (Nat.two_pow_pos k)
      have hoctet : ∀ x : UInt8, UInt8.ofNat (x.toNat % 2 ^ 8) = x := fun x => by
        rw [Nat.mod_eq_of_lt x.toNat_lt, UInt8.ofNat_toNat]
      have hpack : ∀ x y : UInt8, packU16 (x.toNat * 2 ^ 8 + y.toNat) = [x, y] := fun x y => by
        have hy := y.toNat_lt
        have hhigh : (x.toNat * 2 ^ 8 + y.toNat) / 2 ^ 8 = x.toNat := by omega
        have hlow : UInt8.ofNat (x.toNat * 2 ^ 8 + y.toNat) = y := by
          rw [← UInt8.toNat_inj, toNat_ofNat]
          omega
        simp only [packU16, packU8, hhigh, hlow, UInt8.ofNat_toNat, cons_append,
          nil_append]
      have htail : unpackU16 (drop 4 [a, b, c, d, e, f]) = e.toNat * 2 ^ 8 + f.toNat := rfl
      have hhead : unpackU16 [a, b, c, d, e, f] = a.toNat * 2 ^ 8 + b.toNat := rfl
      simp only [pack, unpack, htail, hhead, h1, h2, h3, h8, h10, h11,
        hword0, hword2, Nat.mod_mod, shiftRight_eq_div,
        shiftLeft_or_eq_add _ _ (hlt _ _)]
      have hw0 : ∀ w < 2 ^ 16, ((w / 2 ^ 14 % 2 ^ 2 * 2 ^ 10 + w / 2 ^ 4 % 2 ^ 10) * 2 ^ 3 +
          w / 2 ^ 1 % 2 ^ 3) * 2 ^ 1 + w % 2 ^ 1 = w := fun w hw => by omega
      have hw2 : ∀ w < 2 ^ 16, (((w / 2 ^ 15 % 2 ^ 1 * 2 ^ 1 + w / 2 ^ 14 % 2 ^ 1) * 2 ^ 1 +
          w / 2 ^ 13 % 2 ^ 1) * 2 ^ 2 + w / 2 ^ 11 % 2 ^ 2) * 2 ^ 11 + w % 2 ^ 11 = w :=
        fun w hw => by omega
      rw [hw0 _ (by omega), hw2 _ (by omega), hpack, hpack]
      simp only [unpackU8, packU8, drop_succ_cons, drop_zero, hoctet]
      rfl

/-- A frame sealed for the parser's format passes the check; its header arrives as
packed, its data field and error control as sent. -/
theorem parseFrame_sealed {β : Type} {p : TMFrameParser β} {frame : TMFrame α}
    (hsealed : frame.SealedFor p.format vcid) :
    p.parseFrame frame.wire =
      (some { header := unpack frame.header.pack
              data := bytesOf frame.data
              fecf := frame.fecf },
        { p with goodFrames := p.goodFrames + 1 }) := by
  have hlen := pack_length frame.header
  have hcheck := hsealed.2
  unfold TMFrameParser.parseFrame TMFrame.wire
  by_cases hfecf : p.format.fecfPresent
  · rw [if_pos hfecf] at hcheck
    simp only [hcheck, hfecf, if_true]
    generalize hcrc : crc16Ccitt (frame.header.pack ++ bytesOf frame.data) = crc
    have hcrcLt : crc < 2 ^ 16 := hcrc ▸ crc16Ccitt_lt _
    have hbody : (frame.header.pack ++ bytesOf frame.data ++ packU16 crc).length - fecfLength =
        (frame.header.pack ++ bytesOf frame.data).length := by
      simp only [length_append, packU16_length, fecfLength, Nat.add_sub_cancel]
    have hroom : ¬ (frame.header.pack ++ bytesOf frame.data ++ packU16 crc).length <
        tfHeaderLength := by
      simp only [length_append, hlen]
      omega
    simp only [hbody, drop_left', take_left', unpackU16_packU16, slice,
      Nat.mod_eq_of_lt hcrcLt, hcrc, ne_eq, not_true_eq_false, if_false]
    simp [← hlen]
  · have hroom : ¬ (frame.header.pack ++ bytesOf frame.data ++ []).length < tfHeaderLength := by
      simp only [length_append, hlen]
      omega
    simp only [hcheck, hfecf, Bool.false_eq_true, if_false]
    simp [← hlen]

/-! ### The byte image of a run -/

/-- The byte parser `p` follows `q`: same format, same octets under reassembly. -/
structure Follows (p : TMFrameParser UInt8) (q : TMFrameParser α) : Prop where
  format : p.format = q.format
  buffer : p.reassemblyBuffer = bytesOf q.reassemblyBuffer

@[simp] theorem bytesOf_uint8 : (bytesOf : Bytes → Bytes) = id :=
  funext fun data => map_id data

@[simp] theorem bytesOf_bytesOf (data : List α) : bytesOf (bytesOf data) = bytesOf data := by
  simp [bytesOf]

theorem announcedLength_bytesOf (buf : List α) :
    announcedLength (bytesOf buf) = announcedLength buf := by
  rw [announcedLength, announcedLength, bytesOf_bytesOf]

theorem skipIdle_bytesOf (buf : List α) : skipIdle (bytesOf buf) = bytesOf (skipIdle buf) := by
  induction buf with
  | nil => rfl
  | cons x buf ih =>
      by_cases hx : Octet.byte x = 0xFE
      · simpa [skipIdle, bytesOf, hx] using ih
      · simp [skipIdle, bytesOf, hx]

/-- Extraction sees only the values of the octets. -/
theorem extractLoop_bytesOf (fuel : Nat) (buf : List α) :
    extractLoop fuel (bytesOf buf) =
      ((extractLoop fuel buf).1.map bytesOf, bytesOf (extractLoop fuel buf).2) := by
  induction fuel generalizing buf with
  | zero => rfl
  | succ fuel ih =>
      have hdrop : ∀ n, (bytesOf buf).drop n = bytesOf (buf.drop n) := fun n => by
        simp [bytesOf, map_drop]
      have htake : ∀ n, (bytesOf buf).take n = bytesOf (buf.take n) := fun n => by
        simp [bytesOf, map_take]
      unfold extractLoop
      simp only [bytesOf_length, announcedLength_bytesOf, hdrop, htake, skipIdle_bytesOf, ih]
      split
      · split
        · rfl
        · split <;> rfl
      · rfl

theorem Follows.extractFromBuffer {p : TMFrameParser UInt8} {q : TMFrameParser α}
    (h : Follows p q) :
    p.extractFromBuffer.1 = q.extractFromBuffer.1.map bytesOf ∧
      Follows p.extractFromBuffer.2 q.extractFromBuffer.2 := by
  have hlen : p.reassemblyBuffer.length = q.reassemblyBuffer.length := by simp [h.buffer]
  unfold TMFrameParser.extractFromBuffer
  rw [h.format, hlen]
  split
  · exact ⟨rfl, rfl, rfl⟩
  · rw [h.buffer, extractLoop_bytesOf]
    exact ⟨rfl, rfl, rfl⟩

/-- A parser never changes the link format. -/
@[simp] theorem extractFromBuffer_format (q : TMFrameParser α) :
    q.extractFromBuffer.2.format = q.format := by
  unfold TMFrameParser.extractFromBuffer
  split <;> rfl

@[simp] theorem extractPackets_format (q : TMFrameParser α) (frame : TMFrame α) :
    (q.extractPackets frame).2.format = q.format := by
  unfold TMFrameParser.extractPackets
  dsimp only
  split
  · rfl
  · split
    · simp
    · split <;> simp

/-- A byte frame with the octets and the pointer of `g` yields the octets of what
`g` yields. -/
theorem Follows.extractPackets {p : TMFrameParser UInt8} {q : TMFrameParser α}
    {f : TMFrame UInt8} {g : TMFrame α} (h : Follows p q) (hdata : f.data = bytesOf g.data)
    (hptr : f.header.firstHeaderPointer = g.header.firstHeaderPointer) :
    (p.extractPackets f).1 = (q.extractPackets g).1.map bytesOf ∧
      Follows (p.extractPackets f).2 (q.extractPackets g).2 := by
  have hload : ∀ (buf : Bytes) (buf' : List α), buf = bytesOf buf' →
      ∀ {p' : TMFrameParser UInt8} {q' : TMFrameParser α}, Follows p' q' →
      Follows { p' with reassemblyBuffer := buf } { q' with reassemblyBuffer := buf' } :=
    fun _ _ hb _ _ h => ⟨h.format, hb⟩
  unfold TMFrameParser.extractPackets TMFrame.isIdle
  rw [hptr, hdata]
  generalize g.header.firstHeaderPointer = fhp
  dsimp only
  split
  · exact ⟨rfl, h⟩
  · split
    · exact (hload _ _ (by simp [h.buffer]) h).extractFromBuffer
    · split
      · exact (hload _ _ rfl h).extractFromBuffer
      · have hpre := (hload (p.reassemblyBuffer ++ (bytesOf g.data).take fhp)
          (q.reassemblyBuffer ++ g.data.take fhp)
          (by simp [h.buffer, bytesOf, map_take]) h).extractFromBuffer
        have hpost := (hload ((bytesOf g.data).drop fhp) (g.data.drop fhp)
          (by simp [bytesOf, map_drop]) hpre.2).extractFromBuffer
        exact ⟨by rw [hpre.1, hpost.1, map_append], hpost.2⟩

/-- **Over the link.**  What a ground parser receives from the octets of sealed
frames is the byte image of the extraction from the frames themselves. -/
theorem receive_wires {p : TMFrameParser UInt8} {q : TMFrameParser α} (h : Follows p q)
    {frames : List (TMFrame α)}
    (hframes : ∀ frame ∈ frames, (∃ vcid, frame.SealedFor q.format vcid) ∧
      frame.header.firstHeaderPointer < 2 ^ 11) :
    p.receive (frames.map TMFrame.wire) = (q.extractAll frames).1.map bytesOf := by
  induction frames generalizing p q with
  | nil => rfl
  | cons frame frames ih =>
      obtain ⟨⟨vcid, hsealed⟩, hptr⟩ := hframes frame mem_cons_self
      rw [← h.format] at hsealed
      have hparse := parseFrame_sealed hsealed
      have hcount : Follows { p with goodFrames := p.goodFrames + 1 } q := ⟨h.format, h.buffer⟩
      have hpointer : (unpack frame.header.pack).firstHeaderPointer =
          frame.header.firstHeaderPointer := by
        rw [unpack_pack_pointer, Nat.mod_eq_of_lt hptr]
      obtain ⟨hout, hnext⟩ := hcount.extractPackets
        (f := ⟨unpack frame.header.pack, bytesOf frame.data, frame.fecf⟩) rfl hpointer
      have hrest : ∀ g ∈ frames, (∃ vcid, g.SealedFor (q.extractPackets frame).2.format vcid) ∧
          g.header.firstHeaderPointer < 2 ^ 11 := by
        intro g hg
        rw [extractPackets_format]
        exact hframes g (mem_cons_of_mem _ hg)
      rw [map_cons, TMFrameParser.receive, hparse]
      simp only [TMFrameParser.extractAll, map_append]
      rw [hout, ih hnext hrest]

/-- Zones of a run never advertise the pointer of an idle frame. -/
theorem ZoneStep.pointer_le {dz : Nat} {s d s' d' : List α} {z : Zone α}
    {done : List (List α)} (h : ZoneStep dz s d z done s' d')
    (hdz : dz ≤ firstHeaderPointerIdle) : z.pointer ≤ firstHeaderPointerIdle := by
  cases h with
  | through => simp [Zone.pointer]
  | finish _ hwhole _ _ _ hlen _ =>
      unfold Zone.pointer
      split
      · exact Nat.le_refl _
      · rename_i hstarts
        have := Zone.cont_lt hlen hwhole hstarts
        omega

theorem Frames.pointer_le {fmt : FrameFormat} {frames : List (TMFrame α)} {s d s' d' : List α}
    {zs : List (Zone α)} {done : List (List α)} (h : Frames fmt vcid frames s d zs done s' d')
    (hdz : fmt.dataZoneLength ≤ firstHeaderPointerIdle) :
    ∀ frame ∈ frames, frame.header.firstHeaderPointer ≤ firstHeaderPointerIdle := by
  have hrun := h.run
  have hcarried := h.carried
  clear h
  induction hcarried generalizing s d done with
  | nil => simp
  | cons hframe _ ih =>
      cases hrun with
      | cons step tail =>
          intro frame hmem
          rcases mem_cons.mp hmem with rfl | hmem
          · rw [hframe.2]
            exact step.pointer_le hdz
          · exact ih tail frame hmem

/-- So the pointer field holds them, and none of their frames is an idle frame. -/
theorem Frames.pointer_lt {fmt : FrameFormat} {frames : List (TMFrame α)} {s d s' d' : List α}
    {zs : List (Zone α)} {done : List (List α)} (h : Frames fmt vcid frames s d zs done s' d')
    (hdz : fmt.dataZoneLength ≤ firstHeaderPointerIdle) :
    ∀ frame ∈ frames, frame.header.firstHeaderPointer < 2 ^ 11 ∧ frame.isIdle = false := by
  intro frame hmem
  have hle := h.pointer_le hdz frame hmem
  simp only [firstHeaderPointerIdle] at hle
  refine ⟨by omega, ?_⟩
  simp only [TMFrame.isIdle, firstHeaderPointerNoPacket, beq_eq_false_iff_ne]
  omega

/-- **The frame layer is lossless.**  Whatever calls of `addPacket` and `flush`
were made on a channel, once it is flushed a fresh ground parser receives exactly
the packets added, in order. -/
theorem receive_run_eq_packetsAdded (scid vcid : Nat) (ops : List (FrameOp UInt8))
    (hops : ∀ p ∈ packetsAdded ops, WellFormedPacket p) :
    ({ format := FrameFormat.standard } : TMFrameParser UInt8).receive
        (((({ scid := scid, format := FrameFormat.standard } : TMFrameBuilder UInt8).run vcid
          (ops ++ [.flush])).1).map TMFrame.wire) = packetsAdded ops := by
  obtain ⟨zs, hframes⟩ := run_flush_frames scid vcid FrameFormat.standard hops
  have hfmt := FrameFormat.standard_carriesPackets
  have hself : Follows ({ format := FrameFormat.standard } : TMFrameParser UInt8)
      ({ format := FrameFormat.standard } : TMFrameParser UInt8) := ⟨rfl, rfl⟩
  rw [receive_wires hself fun frame hmem =>
      ⟨⟨vcid, hframes.sealed frame hmem⟩, (hframes.pointer_lt hfmt.1 frame hmem).1⟩,
    extractAll_run hfmt rfl hframes.run hframes.carried]
  simp

/-- Two packets around a flush. -/
theorem receive_run_two_packets :
    ({ format := FrameFormat.standard } : TMFrameParser UInt8).receive
        (((({ scid := 1, format := FrameFormat.standard } : TMFrameBuilder UInt8).run 0
          ([.add [8, 1, 192, 0, 0, 0, 42], .flush, .add [8, 1, 192, 1, 0, 1, 42, 43]] ++
            [.flush])).1).map TMFrame.wire) =
      [[8, 1, 192, 0, 0, 0, 42], [8, 1, 192, 1, 0, 1, 42, 43]] :=
  receive_run_eq_packetsAdded 1 0
    [.add [8, 1, 192, 0, 0, 0, 42], .flush, .add [8, 1, 192, 1, 0, 1, 42, 43]] (by
      intro p hp
      rcases List.mem_pair.mp hp with rfl | rfl
      · exact .of_cons (by decide) (by decide) (by decide) (by decide)
      · exact .of_cons (by decide) (by decide) (by decide) (by decide))

end Ccsds
