import MissionSim.Bch
import MissionSim.EcssPacket
import MissionSim.Effects

/-!
# Telecommand link transmission units

A frame goes up in code blocks between a start and a tail sequence.  It is filled up to a
whole number of blocks, and the receiver hands on the fill with the frame: how long the frame
was is left to the packet in it.

A unit with at most one wrong bit in every block gives the frame back, and one with a block
of two wrong bits is refused.  The parser reads the filled frame as it reads the frame, unless
the frame announces more than it holds and the fill makes up for it.
-/

namespace Ccsds

open Octets Python Ecss CyclicCode PrimaryHeader List

def startSequence : Bytes := [0xEB, 0x90]

def tailSequence : Bytes := [0xC5, 0xC5, 0xC5, 0xC5, 0xC5, 0xC5, 0xC5, 0x79]

def codeBlockDataSize : Nat := 7

def codeBlockSize : Nat := 8

/-- The frame filled up to a whole number of blocks. -/
def padFrame (tcFrame : Bytes) : Bytes :=
  let remainder := tcFrame.length % codeBlockDataSize
  if remainder ≠ 0 then tcFrame ++ List.replicate (codeBlockDataSize - remainder) 0x55
  else tcFrame

def encodeCltu (tcFrame : Bytes) : Except PyError Bytes := do
  let blocks ← (blocksOf codeBlockDataSize (padFrame tcFrame)).mapM encodeCodeBlock
  pure (startSequence ++ blocks.flatten ++ tailSequence)

/-- The data of one block, and whether it is good. -/
def decodeBlock (correctErrors : Bool) (block : Bytes) : Except PyError (Bytes × Bool) :=
  if correctErrors then do
    let (data, valid, _) ← correctCodeBlock block
    pure (data, valid)
  else checkCodeBlock block

/-- The loop over the code blocks: their data, or nothing if one of them does not check. -/
def decodeBlocks (correctErrors : Bool) : List Bytes → Except PyError (Option Bytes)
  | [] => .ok (some [])
  | block :: rest => do
      let (data, valid) ← decodeBlock correctErrors block
      if valid then
        match ← decodeBlocks correctErrors rest with
        | some later => pure (some (data ++ later))
        | none => pure none
      else pure none

def decodeCltu (cltu : Bytes) (correctErrors : Bool := true) : Except PyError (Option Bytes) :=
  if cltu.length < startSequence.length + codeBlockSize + tailSequence.length then .ok none
  else if cltu.take 2 ≠ startSequence then .ok none
  else if cltu.drop (cltu.length - 8) ≠ tailSequence then .ok none
  else
    let payload := slice cltu 2 (cltu.length - 8)
    if payload.length % codeBlockSize ≠ 0 then .ok none
    else decodeBlocks correctErrors (blocksOf codeBlockSize payload)

/-! ### The fill -/

theorem padFrame_eq (tcFrame : Bytes) :
    ∃ fill < 7, padFrame tcFrame = tcFrame ++ replicate fill 0x55 ∧
      7 ∣ (padFrame tcFrame).length := by
  unfold padFrame codeBlockDataSize
  by_cases hfull : tcFrame.length % 7 = 0
  · refine ⟨0, by decide, ?_, ?_⟩
    · simp [hfull]
    · simp only [hfull, ne_eq, not_true_eq_false, if_false]
      exact Nat.dvd_of_mod_eq_zero hfull
  · refine ⟨7 - tcFrame.length % 7, by omega, by simp [hfull], ?_⟩
    simp only [ne_eq, hfull, not_false_eq_true, if_true, length_append,
      length_replicate]
    omega

/-! ### The channel -/

/-- A unit received with errors in its code blocks, and in nothing else. -/
def receivedCltu (cltu : Bytes) (patterns : List (List Bool)) : Bytes :=
  corrupt cltu (List.replicate 16 false ++ patterns.flatten ++ List.replicate 64 false)

/-- One pattern of errors for each code block of a frame. -/
structure BlockErrors (tcFrame : Bytes) where
  patterns : List (List Bool)
  count : patterns.length = (blocksOf codeBlockDataSize (padFrame tcFrame)).length
  full : ∀ e ∈ patterns, e.length = 64

/-- A block of data and its code block. -/
structure Coded (data block : Bytes) : Prop where
  length : block.length = 8
  data : block.take 7 = data
  codeword : Codeword (bitsOf block)

theorem blocks_coded (tcFrame : Bytes) :
    ∃ blocks, encodeCltu tcFrame = .ok (startSequence ++ blocks.flatten ++ tailSequence) ∧
      List.Forall₂ Coded (blocksOf codeBlockDataSize (padFrame tcFrame)) blocks := by
  obtain ⟨_, _, _, hwhole⟩ := padFrame_eq tcFrame
  have hfull := length_of_mem_blocksOf (show 0 < codeBlockDataSize by decide) hwhole
  have hcoded : ∀ datas : List Bytes, (∀ data ∈ datas, data.length = 7) →
      ∃ blocks, List.Forall₂ (fun data block => encodeCodeBlock data = .ok block) datas blocks ∧
        List.Forall₂ Coded datas blocks := by
    intro datas hdatas
    induction datas with
    | nil => exact ⟨[], .nil, .nil⟩
    | cons data datas ih =>
        obtain ⟨block, hblock, hlength, hdata, hcode⟩ :=
          encodeCodeBlock_eq_ok (hdatas data mem_cons_self)
        obtain ⟨blocks, hblocks, hrest⟩ := ih fun d hd => hdatas d (mem_cons_of_mem _ hd)
        exact ⟨block :: blocks, .cons hblock hblocks, .cons ⟨hlength, hdata, hcode⟩ hrest⟩
  obtain ⟨blocks, hblocks, hrest⟩ := hcoded _ hfull
  exact ⟨blocks, Python.bind_eq_ok.mpr ⟨_, Effects.mapM_eq_ok_iff.mpr hblocks, rfl⟩, hrest⟩

/-- The code blocks as they are received. -/
def receivedBlocks (blocks : List Bytes) (patterns : List (List Bool)) : List Bytes :=
  List.zipWith corrupt blocks patterns

/-- What stands between the sequences is taken block by block. -/
theorem decodeCltu_payload {payload : Bytes} {n : Nat} (h : payload.length = n * codeBlockSize)
    (hpos : 0 < n) : decodeCltu (startSequence ++ payload ++ tailSequence) =
      decodeBlocks true (blocksOf codeBlockSize payload) := by
  have hlength : (startSequence ++ payload ++ tailSequence).length = payload.length + 10 := by
    simp only [length_append, startSequence, tailSequence, length_cons, length_nil]
    omega
  have hfront : (startSequence ++ payload).length = (startSequence ++ payload ++
      tailSequence).length - 8 := by
    rw [hlength, length_append, startSequence]
    simp only [length_cons, length_nil]
    omega
  have hroom : ¬ (startSequence ++ payload ++ tailSequence).length <
      startSequence.length + codeBlockSize + tailSequence.length := by
    rw [hlength, h]
    simp only [startSequence, tailSequence, codeBlockSize, length_cons, length_nil]
    omega
  have hstart : (startSequence ++ payload ++ tailSequence).take 2 = startSequence := by
    rw [append_assoc]
    exact take_left' rfl
  have htail : (startSequence ++ payload ++ tailSequence).drop
      ((startSequence ++ payload ++ tailSequence).length - 8) = tailSequence :=
    drop_left' hfront
  have hmiddle : slice (startSequence ++ payload ++ tailSequence) 2
      ((startSequence ++ payload ++ tailSequence).length - 8) = payload := by
    rw [slice, take_left' hfront]
    exact drop_left' rfl
  have hwhole : payload.length % codeBlockSize = 0 := by rw [h, Nat.mul_mod_left]
  rw [decodeCltu, if_neg hroom, if_neg (not_not.mpr hstart), if_neg (not_not.mpr htail)]
  simp only [hmiddle]
  rw [if_neg (not_not.mpr hwhole)]

section Received

variable {datas blocks : List Bytes} {patterns : List (List Bool)}
  (hcoded : List.Forall₂ Coded datas blocks) (hcount : patterns.length = datas.length)
  (hfull : ∀ e ∈ patterns, e.length = 64)

include hcoded hcount hfull in
theorem receivedBlocks_flatten :
    corrupt blocks.flatten patterns.flatten = (receivedBlocks blocks patterns).flatten ∧
      patterns.flatten.length = 8 * blocks.flatten.length ∧
      ∀ block ∈ receivedBlocks blocks patterns, block.length = 8 := by
  induction hcoded generalizing patterns with
  | nil =>
      have hnil : patterns = [] := eq_nil_of_length_eq_zero hcount
      subst hnil
      exact ⟨rfl, rfl, fun _ hblock => nomatch hblock⟩
  | @cons data block datas blocks hblock hrest ih =>
      cases patterns with
      | nil => cases hcount
      | cons e patterns =>
          obtain ⟨hflatten, hlength, hall⟩ := ih (Nat.succ.inj hcount)
            fun f hf => hfull f (mem_cons_of_mem _ hf)
          have he := hfull e mem_cons_self
          have hpattern : e.length = 8 * block.length := by rw [he, hblock.length]
          refine ⟨?_, ?_, ?_⟩
          · rw [flatten_cons, flatten_cons, corrupt_append hpattern hlength, hflatten]
            rfl
          · rw [flatten_cons, flatten_cons, length_append, length_append]
            omega
          · intro b hb
            cases mem_cons.mp hb with
            | inl heq => rw [heq, corrupt_length hpattern, hblock.length]
            | inr htail => exact hall b htail

include hcoded hcount hfull in
/-- **At most one error in each block.** -/
theorem decodeBlocks_corrects (hone : ∀ e ∈ patterns, e.count true ≤ 1) :
    decodeBlocks true (receivedBlocks blocks patterns) = .ok (some datas.flatten) := by
  induction hcoded generalizing patterns with
  | nil => rfl
  | @cons data block datas blocks hblock hrest ih =>
      cases patterns with
      | nil => cases hcount
      | cons e patterns =>
          have hlater := ih (Nat.succ.inj hcount) (fun f hf => hfull f (mem_cons_of_mem _ hf))
            fun f hf => hone f (mem_cons_of_mem _ hf)
          have he := hfull e mem_cons_self
          have hcorrected : ∃ n, correctCodeBlock (corrupt block e) = .ok (data, true, n) := by
            by_cases hnone : e.count true = 1
            · exact ⟨1, hblock.data ▸ correctCodeBlock_one hblock.length he hblock.codeword hnone⟩
            · have hzero : e.count true = 0 := by
                have := hone e mem_cons_self
                omega
              have hclear : e = replicate 64 false := by
                refine eq_replicate_iff.mpr ⟨he, fun bit hbit => ?_⟩
                cases bit with
                | false => rfl
                | true => exact absurd hbit (count_eq_zero.mp hzero)
              refine ⟨0, ?_⟩
              rw [hclear, corrupt_none block (by rw [hblock.length]), ← hblock.data]
              exact correctCodeBlock_sent hblock.length hblock.codeword
          obtain ⟨n, hn⟩ := hcorrected
          exact Python.bind_eq_ok.mpr ⟨_, Python.bind_eq_ok.mpr ⟨_, hn, rfl⟩,
            Python.bind_eq_ok.mpr ⟨_, hlater, rfl⟩⟩

include hcoded hcount hfull in
/-- **Two errors in some block.** -/
theorem decodeBlocks_refuses (htwo : ∃ e ∈ patterns, e.count true = 2) :
    decodeBlocks true (receivedBlocks blocks patterns) = .ok none := by
  induction hcoded generalizing patterns with
  | nil =>
      have hnil : patterns = [] := eq_nil_of_length_eq_zero hcount
      subst hnil
      obtain ⟨_, hmem, _⟩ := htwo
      cases hmem
  | @cons data block datas blocks hblock hrest ih =>
      cases patterns with
      | nil => cases hcount
      | cons e patterns =>
          have he := hfull e mem_cons_self
          have hlength : (corrupt block e).length = 8 := by
            rw [corrupt_length (by rw [he, hblock.length]), hblock.length]
          by_cases hhere : e.count true = 2
          · obtain ⟨bad, hbad⟩ := correctCodeBlock_two hblock.length he hblock.codeword hhere
            exact Python.bind_eq_ok.mpr ⟨_, Python.bind_eq_ok.mpr ⟨_, hbad, rfl⟩, rfl⟩
          · have hlater := ih (Nat.succ.inj hcount)
              (fun f hf => hfull f (mem_cons_of_mem _ hf)) (by
                obtain ⟨f, hmem, hf⟩ := htwo
                cases mem_cons.mp hmem with
                | inl heq => exact absurd (heq ▸ hf) hhere
                | inr htail => exact ⟨f, htail, hf⟩)
            obtain ⟨⟨data', valid, n⟩, hanswer⟩ := correctCodeBlock_total hlength
            refine Python.bind_eq_ok.mpr ⟨_, Python.bind_eq_ok.mpr ⟨_, hanswer, rfl⟩, ?_⟩
            cases valid with
            | false => rfl
            | true => exact Python.bind_eq_ok.mpr ⟨_, hlater, rfl⟩

include hcoded hcount hfull in
/-- The receiver finds the code blocks between the sequences. -/
theorem decodeCltu_received (hsome : datas ≠ []) :
    decodeCltu (receivedCltu (startSequence ++ blocks.flatten ++ tailSequence) patterns) =
      decodeBlocks true (receivedBlocks blocks patterns) := by
  obtain ⟨hflatten, hlength, hblocks⟩ := receivedBlocks_flatten hcoded hcount hfull
  have hcltu : receivedCltu (startSequence ++ blocks.flatten ++ tailSequence) patterns =
      startSequence ++ (receivedBlocks blocks patterns).flatten ++ tailSequence := by
    have hstart : (replicate 16 false).length = 8 * startSequence.length := rfl
    have htail : (replicate 64 false).length = 8 * tailSequence.length := rfl
    have hfront : (replicate 16 false ++ patterns.flatten).length =
        8 * (startSequence ++ blocks.flatten).length := by
      rw [length_append, length_append, hlength, hstart]
      omega
    have hstartIntact := corrupt_none startSequence (show 16 = 8 * startSequence.length by rfl)
    have htailIntact := corrupt_none tailSequence (show 64 = 8 * tailSequence.length by rfl)
    rw [receivedCltu, corrupt_append hfront htail, corrupt_append hstart hlength, hstartIntact,
      htailIntact, hflatten]
  have hpayload := length_flatten_of_full hblocks
  have hpos : 0 < (receivedBlocks blocks patterns).length := by
    have hsame := hcoded.length_eq
    have := length_pos_iff.mpr hsome
    rw [receivedBlocks, length_zipWith]
    omega
  rw [hcltu, decodeCltu_payload hpayload hpos]
  exact congrArg (decodeBlocks true) (blocksOf_flatten (by decide) hblocks)

end Received

/-! ### The fill and the parser -/

/-- The length of the packet, as its header announces it. -/
def announcedTotal (raw : Bytes) : Nat := 6 + unpackU16 (slice raw 4 6) + 1

/-- There are octets for the secondary header the packet announces. -/
def HeaderFits (raw : Bytes) : Prop :=
  let primary := PrimaryHeader.unpack (raw.take 6)
  primary.secHdrFlag ≠ 0 →
    if primary.packetType = packetTypeTC then 9 ≤ raw.length else 13 < raw.length

/-- The fill does not stand for what the frame lacks: the frame holds the packet it announces
and the secondary header, or not even the filled frame holds the packet. -/
def FillHarmless (tcFrame : Bytes) : Prop :=
  8 ≤ tcFrame.length →
    announcedTotal tcFrame ≤ tcFrame.length ∧ HeaderFits tcFrame ∨
      (padFrame tcFrame).length < announcedTotal tcFrame

instance (raw : Bytes) : Decidable (HeaderFits raw) :=
  inferInstanceAs (Decidable (_ → _))

instance (tcFrame : Bytes) : Decidable (FillHarmless tcFrame) :=
  inferInstanceAs (Decidable (_ → _))

/-- Too few octets for the packet. -/
theorem decommutatePacket_short {raw : Bytes}
    (h : raw.length < 8 ∨ raw.length < announcedTotal raw) : decommutatePacket raw = none := by
  unfold decommutatePacket
  by_cases hroom : raw.length < 8
  · rw [if_pos hroom]
  · rw [if_neg hroom]
    have hshort : raw.length < 6 + (unpack (raw.take 6)).dataLength + 1 :=
      h.resolve_left hroom
    exact if_pos hshort

/-- The secondary header of a packet that is there. -/
theorem decommutatePacket_long {raw : Bytes} (h : 8 ≤ raw.length)
    (hannounced : announcedTotal raw ≤ raw.length) :
    ∃ p, decommutatePacket raw = some p ∧
      (p.secondary = none ↔
        ((unpack (raw.take 6)).secHdrFlag = 0 ∨ ¬ HeaderFits raw)) := by
  have htotal : ¬ raw.length < 6 + (unpack (raw.take 6)).dataLength + 1 :=
    not_lt.mpr hannounced
  unfold decommutatePacket
  rw [if_neg (by omega), if_neg htotal]
  refine ⟨_, rfl, ?_⟩
  simp only [splitDataField, HeaderFits]
  split_ifs with hflag htc hroom hroom
  all_goals simp_all

/-- A packet the octets hold is read whatever follows it, unless what follows stands for a secondary
header. -/
theorem decommutatePacket_append {raw more : Bytes} (h : 8 ≤ raw.length)
    (hannounced : announcedTotal raw ≤ raw.length)
    (hfits : HeaderFits (raw ++ more) → HeaderFits raw) :
    decommutatePacket (raw ++ more) = decommutatePacket raw := by
  have hlonger : raw.length ≤ (raw ++ more).length := by
    rw [length_append]
    omega
  have htake : ∀ j ≤ raw.length, (raw ++ more).take j = raw.take j :=
    fun j hj => take_append_of_le_length hj
  have htotal : 6 + (unpack (raw.take 6)).dataLength + 1 = announcedTotal raw := rfl
  have hparts : splitDataField (unpack (raw.take 6)) (raw ++ more)
      (announcedTotal raw) =
      splitDataField (unpack (raw.take 6)) raw (announcedTotal raw) := by
    have hdata : ∀ i, slice (raw ++ more) i (announcedTotal raw - 2) =
        slice raw i (announcedTotal raw - 2) := fun i => slice_append more (by omega)
    unfold HeaderFits at hfits
    rw [htake 6 (by omega)] at hfits
    by_cases hflag : (unpack (raw.take 6)).secHdrFlag = 0
    · simp only [splitDataField, hflag, hdata, ne_eq, not_true_eq_false, if_false]
    · by_cases htc : (unpack (raw.take 6)).packetType = packetTypeTC
      · by_cases hroom : 9 ≤ raw.length
        · have hheader : slice (raw ++ more) 6 9 = slice raw 6 9 := slice_append more hroom
          simp only [splitDataField, hflag, htc, hdata, hheader, hroom, hroom.trans hlonger, ne_eq,
            not_false_eq_true, if_true]
        · have hmissing : ¬ 9 ≤ (raw ++ more).length := by
            intro hfound
            exact hroom (by simpa [hflag, htc] using hfits fun _ => by rwa [if_pos htc])
          simp only [splitDataField, hflag, htc, hdata, hroom, hmissing, ne_eq, not_false_eq_true,
            if_true, if_false]
      · by_cases hroom : 13 < raw.length
        · have hheader : slice (raw ++ more) 6 13 = slice raw 6 13 := slice_append more hroom.le
          simp only [splitDataField, hflag, htc, hdata, hheader, hroom, hroom.trans_le hlonger,
            ne_eq, not_false_eq_true, if_true, if_false]
        · have hmissing : ¬ 13 < (raw ++ more).length := by
            intro hfound
            exact hroom (by simpa [hflag, htc] using hfits fun _ => by rwa [if_neg htc])
          simp only [splitDataField, hflag, htc, hdata, hroom, hmissing, ne_eq, not_false_eq_true,
            if_true, if_false]
  have htrailer : slice (raw ++ more) (announcedTotal raw - 2) (announcedTotal raw) =
      slice raw (announcedTotal raw - 2) (announcedTotal raw) := slice_append more hannounced
  unfold decommutatePacket
  simp only [htake 6 (by omega), htotal, hparts, htrailer, htake _ hannounced,
    htake (announcedTotal raw - 2) (by omega)]
  rw [if_neg (by omega), if_neg (by omega), if_neg (by omega), if_neg (by omega)]

/-- What follows the announced packet makes a difference exactly where the octets before it are too
few for a packet, or where it stands for a secondary header. -/
theorem decommutatePacket_append_iff {raw : Bytes} (more : Bytes)
    (hannounced : announcedTotal raw ≤ raw.length) :
    decommutatePacket (raw ++ more) = decommutatePacket raw ↔
      (8 ≤ (raw ++ more).length → 8 ≤ raw.length) ∧
        (HeaderFits (raw ++ more) → HeaderFits raw) := by
  have hlonger : raw.length ≤ (raw ++ more).length := by
    rw [length_append]
    omega
  have hseven : 7 ≤ raw.length := by
    unfold announcedTotal at hannounced
    omega
  have htotal : announcedTotal (raw ++ more) = announcedTotal raw := by
    rw [announcedTotal, announcedTotal, slice_append more (by omega)]
  have htake : (raw ++ more).take 6 = raw.take 6 := take_append_of_le_length (by omega)
  by_cases hroom : 8 ≤ raw.length
  · constructor
    · intro hsame
      refine ⟨fun _ => hroom, fun hfound => ?_⟩
      obtain ⟨p, hp, hpnone⟩ := decommutatePacket_long
        (show 8 ≤ (raw ++ more).length by omega) (by omega)
      obtain ⟨q, hq, hqnone⟩ := decommutatePacket_long hroom hannounced
      rw [hp, hq] at hsame
      cases hsame
      by_contra hmissing
      cases hpnone.mp (hqnone.mpr (.inr hmissing)) with
      | inl hflag =>
          rw [htake] at hflag
          exact hmissing fun hset => absurd hflag hset
      | inr hnot => exact hnot hfound
    · intro hcond
      exact decommutatePacket_append hroom hannounced hcond.2
  · cases more with
    | nil => simp
    | cons octet more =>
        have hmade : 8 ≤ (raw ++ octet :: more).length := by
          rw [length_append, length_cons]
          omega
        obtain ⟨p, hp, _⟩ := decommutatePacket_long hmade (by omega)
        refine iff_of_false ?_ fun hcond => hroom (hcond.1 hmade)
        rw [hp, decommutatePacket_short (.inl (by omega))]
        exact Option.some_ne_none p

theorem length_le_padFrame (tcFrame : Bytes) : tcFrame.length ≤ (padFrame tcFrame).length := by
  obtain ⟨fill, _, hpadded, _⟩ := padFrame_eq tcFrame
  rw [hpadded, length_append]
  omega

/-- **The parser and the fill.** -/
theorem decommutatePacket_padFrame_iff (tcFrame : Bytes) :
    decommutatePacket (padFrame tcFrame) = decommutatePacket tcFrame ↔ FillHarmless tcFrame := by
  have hlonger := length_le_padFrame tcFrame
  obtain ⟨fill, hfill, hpadded, hwhole⟩ := padFrame_eq tcFrame
  have hlength : (padFrame tcFrame).length = tcFrame.length + fill := by
    rw [hpadded, length_append, length_replicate]
  by_cases hroom : 8 ≤ tcFrame.length
  · have hannounced : announcedTotal (padFrame tcFrame) = announcedTotal tcFrame := by
      rw [announcedTotal, announcedTotal, hpadded, slice_append _ (by omega)]
    by_cases hheld : announcedTotal tcFrame ≤ tcFrame.length
    · -- the filled frame has room for either secondary header
      have hfitsFilled : HeaderFits (padFrame tcFrame) := by
        intro _
        split_ifs <;> omega
      rw [hpadded] at hfitsFilled ⊢
      rw [decommutatePacket_append_iff _ hheld]
      constructor
      · intro hcond _
        exact .inl ⟨hheld, hcond.2 hfitsFilled⟩
      · intro hharmless
        cases hharmless hroom with
        | inl hheldFits => exact ⟨fun _ => hroom, fun _ => hheldFits.2⟩
        | inr hshort => omega
    · have hnone : decommutatePacket tcFrame = none :=
        decommutatePacket_short (.inr (by omega))
      by_cases hmade : announcedTotal tcFrame ≤ (padFrame tcFrame).length
      · obtain ⟨q, hq, _⟩ := decommutatePacket_long (hroom.trans hlonger) (hannounced ▸ hmade)
        refine iff_of_false ?_ ?_
        · rw [hnone, hq]
          exact Option.some_ne_none q
        · intro hharmless
          cases hharmless hroom with
          | inl hheldFits => exact hheld hheldFits.1
          | inr hshort => omega
      · have hfilled : decommutatePacket (padFrame tcFrame) = none :=
          decommutatePacket_short (.inr (by omega))
        exact iff_of_true (hfilled.trans hnone.symm) fun _ => .inr (by omega)
  · have hnone : decommutatePacket tcFrame = none := decommutatePacket_short (.inl (by omega))
    have hfilled : decommutatePacket (padFrame tcFrame) = none :=
      decommutatePacket_short (.inl (by omega))
    exact iff_of_true (hfilled.trans hnone.symm) fun hlong => absurd hlong hroom

end Ccsds
