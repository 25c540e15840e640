import MissionSim.BitErrors
import MissionSim.Python
import Mathlib.Data.List.Nodup

/-!
# Code blocks of the telecommand link

A code block is seven data octets and one octet of parity: the seven bits of a division
register with the generator `x⁷ + x⁶ + x² + 1`, and a filler bit, the complement of the
last of them.  The receiver tries to turn over each bit of a block that does not check.

Two code blocks differ in at least four bits.  So a block with one wrong bit is corrected,
and one with two is refused.
-/

namespace Ccsds

open Octets Python CyclicCode List

/-! ### The code -/

/-- One bit into the shift register. -/
def bchBit (sr inputBit : Nat) : Nat :=
  let feedback := inputBit ^^^ ((sr >>> 6) &&& 1)
  let shifted := (sr <<< 1) &&& 0x7F
  if feedback ≠ 0 then shifted ^^^ 0x45 else shifted

def bchOctet (sr : Nat) (byte : UInt8) : Nat :=
  [7, 6, 5, 4, 3, 2, 1, 0].foldl (fun sr bitPos => bchBit sr ((byte.toNat >>> bitPos) &&& 1)) sr

/-- The parity octet for seven data octets. -/
def bchParity (data : Bytes) : Nat :=
  let sr := data.foldl bchOctet 0
  -- the complement of bit 0 of the register
  let filler := (sr &&& 1) ^^^ 1
  (((sr &&& 0x7F) <<< 1) ||| filler) &&& 0xFF

def encodeCodeBlock (data : Bytes) : Except PyError Bytes :=
  if data.length ≠ 7 then .error .valueError else .ok (data ++ packU8 (bchParity data))

/-- The data of a block, and whether the parity matches. -/
def checkCodeBlock (block : Bytes) : Except PyError (Bytes × Bool) :=
  if block.length ≠ 8 then .error .valueError
  else
    let data := block.take 7
    .ok (data, unpackU8 (block.drop 7) == bchParity data)

/-- Turn over one bit of a block. -/
def flipBit (block : Bytes) (byteIdx bitIdx : Nat) : Bytes :=
  block.modify byteIdx fun byte => byte ^^^ UInt8.ofNat (1 <<< bitIdx)

/-- The bits of a block in the order in which they are tried. -/
def flips : List (Nat × Nat) :=
  (List.range 8).flatMap fun byteIdx => (List.range 8).map fun bitIdx => (byteIdx, bitIdx)

/-- Try one bit after the other until the block checks. -/
def tryFlips (block : Bytes) : List (Nat × Nat) → Except PyError (Option Bytes)
  | [] => .ok none
  | flip :: rest => do
      let (data, valid) ← checkCodeBlock (flipBit block flip.1 flip.2)
      if valid then pure (some data) else tryFlips block rest

/-- Attempt to correct one bit: the data, whether the block is good, and the number of
corrections. -/
def correctCodeBlock (block : Bytes) : Except PyError (Bytes × Bool × Nat) := do
  let (data, valid) ← checkCodeBlock block
  if valid then pure (data, true, 0)
  else
    match ← tryFlips block flips with
    | some corrected => pure (corrected, true, 1)
    | none => pure (data, false, 0)

/-! ### Code words -/

/-- The generator below its leading power. -/
def bchTaps : BitVec 7 := 0x45#7

/-- The bits of a block that checks. -/
def Codeword (bits : List Bool) : Prop :=
  register bchTaps 0#7 (bits.take 63) = 0#7 ∧ bits[63]? = bits[62]?.map not

instance (bits : List Bool) : Decidable (Codeword bits) := inferInstanceAs (Decidable (_ ∧ _))

theorem bchOctet_register {sr : Nat} (h : sr < 128) (byte : UInt8) :
    bchOctet sr byte < 128 ∧
      BitVec.ofNat 7 (bchOctet sr byte) = register bchTaps (BitVec.ofNat 7 sr) (octetBits byte) := by
  have hbit : ∀ n < 128, ∀ bit : Bool, bchBit n bit.toNat < 128 ∧
      BitVec.ofNat 7 (bchBit n bit.toNat) = feed bchTaps (BitVec.ofNat 7 n) bit := by
    decide
  have hbits : ∀ (positions : List Nat) (n : Nat), n < 128 →
      positions.foldl (fun sr pos => bchBit sr ((byte.toNat >>> pos) &&& 1)) n < 128 ∧
        BitVec.ofNat 7 (positions.foldl (fun sr pos => bchBit sr ((byte.toNat >>> pos) &&& 1)) n) =
          register bchTaps (BitVec.ofNat 7 n) (positions.map fun pos => byte.toNat.testBit pos) := by
    intro positions
    induction positions with
    | nil => intro n hn; exact ⟨hn, rfl⟩
    | cons pos positions ih =>
        intro n hn
        have hinput : (byte.toNat >>> pos) &&& 1 = (byte.toNat.testBit pos).toNat := by
          rw [Nat.and_one_is_mod, Nat.shiftRight_eq_div_pow, Nat.toNat_testBit]
        obtain ⟨hlt, hfeed⟩ := hbit n hn (byte.toNat.testBit pos)
        obtain ⟨hrest, hregister⟩ := ih _ hlt
        rw [foldl_cons, hinput]
        refine ⟨hrest, hregister.trans ?_⟩
        rw [hfeed]
        rfl
  exact hbits _ sr h

/-- The register over data octets. -/
theorem bchOctets_register (data : Bytes) :
    data.foldl bchOctet 0 < 128 ∧
      BitVec.ofNat 7 (data.foldl bchOctet 0) = register bchTaps 0#7 (bitsOf data) := by
  have hstep : ∀ (data : Bytes) (sr : Nat), sr < 128 → data.foldl bchOctet sr < 128 ∧
      BitVec.ofNat 7 (data.foldl bchOctet sr) =
        register bchTaps (BitVec.ofNat 7 sr) (bitsOf data) := by
    intro data
    induction data with
    | nil => intro sr hsr; exact ⟨hsr, rfl⟩
    | cons byte data ih =>
        intro sr hsr
        obtain ⟨hlt, hoctet⟩ := bchOctet_register hsr byte
        obtain ⟨hrest, hregister⟩ := ih _ hlt
        refine ⟨hrest, hregister.trans ?_⟩
        rw [hoctet, bitsOf_cons, register_append]
  exact hstep data 0 (by decide)

/-- The parity octet in bits: the register, then the filler. -/
theorem octetBits_parity (data : Bytes) :
    bchParity data < 2 ^ 8 ∧ octetBits (UInt8.ofNat (bchParity data)) =
      remainderBits (register bchTaps 0#7 (bitsOf data)) ++
        [!(register bchTaps 0#7 (bitsOf data)).getLsbD 0] := by
  have hall : ∀ sr < 128, (((sr &&& 0x7F) <<< 1) ||| ((sr &&& 1) ^^^ 1)) &&& 0xFF < 2 ^ 8 ∧
      octetBits (UInt8.ofNat ((((sr &&& 0x7F) <<< 1) ||| ((sr &&& 1) ^^^ 1)) &&& 0xFF)) =
        remainderBits (BitVec.ofNat 7 sr) ++ [!(BitVec.ofNat 7 sr).getLsbD 0] := by
    decide
  obtain ⟨hlt, hregister⟩ := bchOctets_register data
  have hsr := hall _ hlt
  rw [hregister] at hsr
  exact hsr

/-- Seven bits are the register and the eighth is the filler. -/
theorem octet_eq_iff (r : BitVec 7) {octet : List Bool} (h : octet.length = 8) :
    octet = remainderBits r ++ [!r.getLsbD 0] ↔
      octet.take 7 = remainderBits r ∧ octet[7]? = octet[6]?.map not := by
  have hlast : (remainderBits r)[6]? = some (r.getLsbD 0) := by
    simp [remainderBits, BitVec.getMsbD_eq_getLsbD]
  constructor
  · intro heq
    subst heq
    refine ⟨take_left' (remainderBits_length r), ?_⟩
    rw [getElem?_append_right (by simp), getElem?_append_left (by simp), hlast]
    simp
  · intro hparts
    obtain ⟨hfront, hfiller⟩ := hparts
    have hsix : octet[6]? = some (r.getLsbD 0) := by
      rw [← hlast, ← hfront, getElem?_take_of_lt (by decide)]
    have hdrop : octet.drop 7 = [!r.getLsbD 0] := by
      rw [hsix, Option.map_some] at hfiller
      have hseven : octet.drop 7 = octet[7] :: octet.drop 8 := drop_eq_getElem_cons (by omega)
      rw [getElem?_eq_getElem (by omega)] at hfiller
      rw [hseven, Option.some.inj hfiller, drop_eq_nil_of_le (by omega)]
    rw [← take_append_drop 7 octet, hfront, hdrop]

/-- **A block checks when its bits are a code word.** -/
theorem parity_matches_iff {block : Bytes} (h : block.length = 8) :
    unpackU8 (block.drop 7) = bchParity (block.take 7) ↔ Codeword (bitsOf block) := by
  obtain ⟨data, hdata⟩ : ∃ data, data = block.take 7 := ⟨_, rfl⟩
  obtain ⟨parity, hparity⟩ : ∃ parity, block.drop 7 = [parity] :=
    length_eq_one_iff.mp (by rw [length_drop, h])
  have hlength : (bitsOf data).length = 56 := by
    rw [bitsOf_length, hdata, length_take_of_le (by omega)]
  have hbits : bitsOf block = bitsOf data ++ octetBits parity := by
    rw [← take_append_drop 7 block, hparity, ← hdata, bitsOf_append]
    rfl
  have htake : (bitsOf block).take 63 = bitsOf data ++ (octetBits parity).take 7 := by
    rw [hbits, take_append, hlength, take_of_length_le (by omega)]
  have hlast : (bitsOf block)[63]? = (octetBits parity)[7]? := by
    rw [hbits, getElem?_append_right (by omega), hlength]
  have hbefore : (bitsOf block)[62]? = (octetBits parity)[6]? := by
    rw [hbits, getElem?_append_right (by omega), hlength]
  obtain ⟨hlt, hoctet⟩ := octetBits_parity data
  rw [Codeword, htake, hlast, hbefore, register_append,
    register_eq_zero_iff (by decide) _ (by rfl), ← octet_eq_iff _ rfl, ← hoctet, hparity, ← hdata]
  constructor
  · intro hsame
    rw [← hsame]
    simp [unpackU8]
  · intro hsame
    have hpacked := congrArg packOctet hsame
    rw [packOctet_octetBits, packOctet_octetBits] at hpacked
    rw [hpacked, unpackU8, toNat_ofNat, Nat.mod_eq_of_lt hlt]

theorem checkCodeBlock_eq {block : Bytes} (h : block.length = 8) :
    checkCodeBlock block = .ok (block.take 7, decide (Codeword (bitsOf block))) := by
  have hiff := parity_matches_iff h
  rw [checkCodeBlock, if_neg (by omega)]
  simp only [Except.ok.injEq, Prod.mk.injEq, true_and]
  rw [Bool.eq_iff_iff, beq_iff_eq, decide_eq_true_iff]
  exact hiff

/-- An encoded block is a code word. -/
theorem encodeCodeBlock_eq_ok {data : Bytes} (h : data.length = 7) :
    ∃ block, encodeCodeBlock data = .ok block ∧ block.length = 8 ∧ block.take 7 = data ∧
      Codeword (bitsOf block) := by
  have hlength : (data ++ packU8 (bchParity data)).length = 8 := by
    rw [length_append, h, packU8_length]
  refine ⟨data ++ packU8 (bchParity data), by rw [encodeCodeBlock, if_neg (by omega)], hlength,
    take_left' h, ?_⟩
  obtain ⟨hlt, _⟩ := octetBits_parity data
  refine (parity_matches_iff hlength).mp ?_
  rw [take_left' h, drop_left' h, packU8, unpackU8, toNat_ofNat, Nat.mod_eq_of_lt hlt]

/-! ### Distance -/

/-- The generator has four terms, an even number. -/
theorem odd_feed (c : BitVec 7) (bit : Bool) :
    (remainderBits (feed bchTaps c bit)).foldl xor false =
      ((remainderBits c).foldl xor false ^^ bit) := by
  have hall : ∀ (c : BitVec 7) (bit : Bool),
      (remainderBits (feed bchTaps c bit)).foldl xor false =
        ((remainderBits c).foldl xor false ^^ bit) := by decide
  exact hall c bit

/-- Up to 63 bits, no two places leave the same remainder. -/
theorem places_distinct : ∀ i < 63, ∀ j < 63,
    register bchTaps 0#7 (single 63 i) = register bchTaps 0#7 (single 63 j) → i = j := by
  have hplaces : ((range 63).map fun i => register bchTaps 0#7 (single 63 i)).Nodup := by
    decide +kernel
  intro i hi j hj hsame
  exact inj_on_of_nodup_map hplaces (mem_range.mpr hi) (mem_range.mpr hj) hsame

/-- **Code words differ in four bits.**  What is added to a code word to give another has no
ones, or at least four. -/
theorem codeword_distance {word e : List Bool} (hword : word.length = 64) (he : e.length = 64)
    (hcode : Codeword word) (hsum : Codeword (addBits word e)) (hlight : e.count true ≤ 3) :
    true ∉ e := by
  obtain ⟨hempty, hfiller⟩ := hcode
  obtain ⟨hempty', hfiller'⟩ := hsum
  have hfront : true ∉ e.take 63 := by
    intro hmem
    have hcount : (e.take 63).count true ≤ 3 :=
      (List.Sublist.count_le true (take_sublist 63 e)).trans hlight
    have hlength : (e.take 63).length = 63 := length_take_of_le (by omega)
    refine register_light_ne_zero (fun c => (remainderBits c).foldl xor false) odd_feed rfl
      places_distinct hlength hmem hcount ?_
    rw [addBits, take_zipWith] at hempty'
    have hadded := register_addBits bchTaps 0#7 0#7
      (show (word.take 63).length = (e.take 63).length by
        rw [hlength, length_take_of_le (by omega)])
    rw [BitVec.xor_zero, hempty, BitVec.zero_xor] at hadded
    rw [← hadded]
    exact hempty'
  have hbit : ∀ i (hi : i < 64), (addBits word e)[i]? = some (word[i] ^^ e[i]) := by
    intro i hi
    rw [addBits, getElem?_zipWith, getElem?_eq_getElem (by omega),
      getElem?_eq_getElem (by omega)]
  have hlast : e[62] = false := by
    by_contra htrue
    refine hfront ?_
    rw [← Bool.eq_true_of_not_eq_false htrue, mem_take_iff_getElem]
    exact ⟨62, by omega, rfl⟩
  have hfill : e[63] = false := by
    rw [hbit 63 (by decide), hbit 62 (by decide), hlast, Bool.xor_false] at hfiller'
    rw [getElem?_eq_getElem (by omega), getElem?_eq_getElem (by omega)] at hfiller
    simp only [Option.map_some, Option.some.injEq] at hfiller hfiller'
    rw [hfiller] at hfiller'
    cases hb : e[63] with
    | false => rfl
    | true =>
        rw [hb] at hfiller'
        simp at hfiller'
  intro hmem
  obtain ⟨i, hi, htrue⟩ := mem_iff_getElem.mp hmem
  by_cases hin : i < 63
  · exact hfront (htrue ▸ mem_take_iff_getElem.mpr ⟨i, by omega, rfl⟩)
  · have hi63 : i = 63 := by omega
    subst hi63
    rw [hfill] at htrue
    cases htrue

/-! ### Correction -/

/-- The place of a bit in its block. -/
def bitPlace (byteIdx bitIdx : Nat) : Nat := 8 * byteIdx + (7 - bitIdx)

theorem octetBits_flip (byte : UInt8) {bitIdx : Nat} (h : bitIdx < 8) :
    octetBits (byte ^^^ UInt8.ofNat (1 <<< bitIdx)) =
      addBits (octetBits byte) (single 8 (7 - bitIdx)) := by
  have hmask : ∀ j < 8, octetBits (UInt8.ofNat (1 <<< j)) = single 8 (7 - j) := by decide
  have hxor : ∀ a b : UInt8, octetBits (a ^^^ b) = addBits (octetBits a) (octetBits b) := by
    simp [octetBits, addBits, Nat.testBit_xor]
  rw [hxor, hmask bitIdx h]

/-- Turning over a bit adds a single one at its place. -/
theorem bitsOf_flipBit (block : Bytes) {byteIdx bitIdx : Nat} (hbyte : byteIdx < block.length)
    (hbit : bitIdx < 8) :
    bitsOf (flipBit block byteIdx bitIdx) =
      addBits (bitsOf block) (single (8 * block.length) (bitPlace byteIdx bitIdx)) := by
  induction block generalizing byteIdx with
  | nil => cases hbyte
  | cons byte block ih =>
      have hlength : 8 * (byte :: block).length = 8 * block.length + 8 := by
        rw [length_cons]
        omega
      cases byteIdx with
      | zero =>
          have hplace : single (8 * block.length + 8) (7 - bitIdx) =
              single 8 (7 - bitIdx) ++ replicate (8 * block.length) false := by
            rw [single, Nat.add_comm, replicate_add,
              set_append_left _ _ (by rw [length_replicate]; omega), single]
          have hzero : bitPlace 0 bitIdx = 7 - bitIdx := by simp [bitPlace]
          have hrest : addBits (bitsOf block) (replicate (8 * block.length) false) =
              bitsOf block :=
            addBits_clear (by simp) fun b hb => eq_of_mem_replicate hb
          rw [flipBit, modify_zero_cons, bitsOf_cons, bitsOf_cons, hlength, hzero, hplace,
            addBits_append (by rw [single_length]; rfl), octetBits_flip byte hbit, hrest]
      | succ byteIdx =>
          have hplace : single (8 * block.length + 8) (bitPlace (byteIdx + 1) bitIdx) =
              replicate 8 false ++ single (8 * block.length) (bitPlace byteIdx bitIdx) := by
            have hskip : bitPlace (byteIdx + 1) bitIdx = 8 + bitPlace byteIdx bitIdx := by
              simp only [bitPlace]
              omega
            rw [single, Nat.add_comm, replicate_add, hskip,
              set_append_right _ _ (by rw [length_replicate]; omega), single]
            simp
          have htail := ih (Nat.lt_of_succ_lt_succ hbyte)
          rw [flipBit] at htail
          have hfront : addBits (octetBits byte) (replicate 8 false) = octetBits byte :=
            addBits_clear rfl fun b hb => eq_of_mem_replicate hb
          rw [flipBit, modify_succ_cons, bitsOf_cons, bitsOf_cons, hlength, hplace,
            addBits_append (by rw [length_replicate]; rfl), htail, hfront]

theorem flipBit_length (block : Bytes) (byteIdx bitIdx : Nat) :
    (flipBit block byteIdx bitIdx).length = block.length := length_modify _ _ _

theorem mem_flips_iff {flip : Nat × Nat} : flip ∈ flips ↔ flip.1 < 8 ∧ flip.2 < 8 := by
  obtain ⟨byteIdx, bitIdx⟩ := flip
  simp [flips]

/-- Every place of a block is tried. -/
theorem exists_flip {k : Nat} (h : k < 64) : ∃ flip ∈ flips, bitPlace flip.1 flip.2 = k := by
  refine ⟨(k / 8, 7 - k % 8), mem_flips_iff.mpr ⟨by omega, by omega⟩, ?_⟩
  simp only [bitPlace]
  omega

theorem bitPlace_lt {flip : Nat × Nat} (h : flip ∈ flips) : bitPlace flip.1 flip.2 < 64 := by
  obtain ⟨hbyte, hbit⟩ := mem_flips_iff.mp h
  simp only [bitPlace]
  omega

section Search

variable {block : Bytes} (hlength : block.length = 8)

include hlength in
/-- None of the bits helps. -/
theorem tryFlips_none {tried : List (Nat × Nat)}
    (h : ∀ flip ∈ tried, ¬ Codeword (bitsOf (flipBit block flip.1 flip.2))) :
    tryFlips block tried = .ok none := by
  induction tried with
  | nil => rfl
  | cons flip tried ih =>
      have hcheck := checkCodeBlock_eq ((flipBit_length block flip.1 flip.2).trans hlength)
      rw [decide_eq_false (h flip mem_cons_self)] at hcheck
      have hrest := ih fun f hf => h f (mem_cons_of_mem _ hf)
      exact Python.bind_eq_ok.mpr ⟨_, hcheck, hrest⟩

include hlength in
/-- The first bit that helps is taken. -/
theorem tryFlips_some {tried : List (Nat × Nat)} {data : Bytes}
    (hsome : ∃ flip ∈ tried, Codeword (bitsOf (flipBit block flip.1 flip.2)))
    (hdata : ∀ flip ∈ tried, Codeword (bitsOf (flipBit block flip.1 flip.2)) →
      (flipBit block flip.1 flip.2).take 7 = data) :
    tryFlips block tried = .ok (some data) := by
  induction tried with
  | nil =>
      obtain ⟨_, hmem, _⟩ := hsome
      cases hmem
  | cons flip tried ih =>
      have hcheck := checkCodeBlock_eq ((flipBit_length block flip.1 flip.2).trans hlength)
      refine Python.bind_eq_ok.mpr ⟨_, hcheck, ?_⟩
      by_cases hcode : Codeword (bitsOf (flipBit block flip.1 flip.2))
      · simp only [decide_eq_true hcode, if_true]
        rw [hdata flip mem_cons_self hcode]
        rfl
      · simp only [decide_eq_false hcode, Bool.false_eq_true, if_false]
        refine ih ?_ fun f hf => hdata f (mem_cons_of_mem _ hf)
        obtain ⟨f, hmem, hf⟩ := hsome
        cases mem_cons.mp hmem with
        | inl heq => exact absurd (heq ▸ hf) hcode
        | inr htail => exact ⟨f, htail, hf⟩

end Search

section Correct

variable {block : Bytes} {e : List Bool} (hlength : block.length = 8) (he : e.length = 64)
  (hcode : Codeword (bitsOf block))

include hlength he in
/-- A received block, and the same with one bit of it turned over. -/
theorem bitsOf_received {flip : Nat × Nat} (hflip : flip ∈ flips) :
    (corrupt block e).length = 8 ∧
      bitsOf (flipBit (corrupt block e) flip.1 flip.2) =
        addBits (bitsOf block) (addBits e (single 64 (bitPlace flip.1 flip.2))) := by
  have hpattern : e.length = 8 * block.length := by omega
  have hreceived : (corrupt block e).length = 8 := by rw [corrupt_length hpattern, hlength]
  obtain ⟨hbyte, hbit⟩ := mem_flips_iff.mp hflip
  refine ⟨hreceived, ?_⟩
  rw [bitsOf_flipBit _ (by omega) hbit, bitsOf_corrupt hpattern, hreceived, addBits_assoc]

include hlength hcode in
/-- A block received as sent is taken as it is. -/
theorem correctCodeBlock_sent : correctCodeBlock block = .ok (block.take 7, true, 0) := by
  have hcheck := checkCodeBlock_eq hlength
  rw [decide_eq_true hcode] at hcheck
  exact Python.bind_eq_ok.mpr ⟨_, hcheck, rfl⟩

include hlength he hcode in
/-- **One error is corrected.** -/
theorem correctCodeBlock_one (hone : e.count true = 1) :
    correctCodeBlock (corrupt block e) = .ok (block.take 7, true, 1) := by
  have hpattern : e.length = 8 * block.length := by omega
  have hword : (bitsOf block).length = 64 := by rw [bitsOf_length, hlength]
  have hreceived : (corrupt block e).length = 8 := by rw [corrupt_length hpattern, hlength]
  obtain ⟨k, hk, hsingle⟩ := eq_single hone
  rw [he] at hk hsingle
  have hbad : ¬ Codeword (bitsOf (corrupt block e)) := by
    intro hgood
    rw [bitsOf_corrupt hpattern] at hgood
    have hnone := codeword_distance hword he hcode hgood (by omega)
    exact hnone (count_pos_iff.mp (by omega))
  -- a bit helps exactly when it is the wrong one
  have hright : ∀ flip ∈ flips, bitPlace flip.1 flip.2 = k →
      flipBit (corrupt block e) flip.1 flip.2 = block := by
    intro flip hflip hplace
    refine bitsOf_injective ?_
    rw [(bitsOf_received hlength he hflip).2, hplace, hsingle, addBits_self]
    exact addBits_clear (by simp [hword]) fun b hb => eq_of_mem_replicate hb
  have honly : ∀ flip ∈ flips, Codeword (bitsOf (flipBit (corrupt block e) flip.1 flip.2)) →
      bitPlace flip.1 flip.2 = k := by
    intro flip hflip hgood
    rw [(bitsOf_received hlength he hflip).2] at hgood
    have hplace := bitPlace_lt hflip
    have hcount := count_addBits_le e (single 64 (bitPlace flip.1 flip.2))
    rw [single_count hplace] at hcount
    have hnone := codeword_distance hword (by simp [he]) hcode hgood (by omega)
    have hsame := eq_of_addBits_clear (by simp [he]) hnone
    rw [hsingle] at hsame
    exact (single_injective hk hplace hsame).symm
  have hcheck := checkCodeBlock_eq hreceived
  rw [decide_eq_false hbad] at hcheck
  obtain ⟨flip, hflip, hplace⟩ := exists_flip hk
  have htried : tryFlips (corrupt block e) flips = .ok (some (block.take 7)) := by
    refine tryFlips_some hreceived ⟨flip, hflip, ?_⟩ ?_
    · rw [hright flip hflip hplace]
      exact hcode
    · intro flip' hflip' hgood
      rw [hright flip' hflip' (honly flip' hflip' hgood)]
  exact Python.bind_eq_ok.mpr ⟨_, hcheck, Python.bind_eq_ok.mpr ⟨_, htried, rfl⟩⟩

include hlength he hcode in
/-- **Two errors are found.** -/
theorem correctCodeBlock_two (htwo : e.count true = 2) :
    ∃ data, correctCodeBlock (corrupt block e) = .ok (data, false, 0) := by
  have hpattern : e.length = 8 * block.length := by omega
  have hword : (bitsOf block).length = 64 := by rw [bitsOf_length, hlength]
  have hreceived : (corrupt block e).length = 8 := by rw [corrupt_length hpattern, hlength]
  have hbad : ¬ Codeword (bitsOf (corrupt block e)) := by
    intro hgood
    rw [bitsOf_corrupt hpattern] at hgood
    have hnone := codeword_distance hword he hcode hgood (by omega)
    exact hnone (count_pos_iff.mp (by omega))
  have hnone : ∀ flip ∈ flips,
      ¬ Codeword (bitsOf (flipBit (corrupt block e) flip.1 flip.2)) := by
    intro flip hflip hgood
    rw [(bitsOf_received hlength he hflip).2] at hgood
    have hplace := bitPlace_lt hflip
    have hcount := count_addBits_le e (single 64 (bitPlace flip.1 flip.2))
    rw [single_count hplace] at hcount
    have hclear := codeword_distance hword (by simp [he]) hcode hgood (by omega)
    have hsame := eq_of_addBits_clear (by simp [he]) hclear
    rw [hsame, single_count hplace] at htwo
    omega
  have hcheck := checkCodeBlock_eq hreceived
  rw [decide_eq_false hbad] at hcheck
  exact ⟨_, Python.bind_eq_ok.mpr
    ⟨_, hcheck, Python.bind_eq_ok.mpr ⟨_, tryFlips_none hreceived hnone, rfl⟩⟩⟩

end Correct

/-- Checking a block of eight octets always comes to an end. -/
theorem correctCodeBlock_total {block : Bytes} (h : block.length = 8) :
    ∃ answer, correctCodeBlock block = .ok answer := by
  have htried : ∀ tried, ∃ found, tryFlips block tried = .ok found := by
    intro tried
    induction tried with
    | nil => exact ⟨none, rfl⟩
    | cons flip tried ih =>
        have hcheck := checkCodeBlock_eq ((flipBit_length block flip.1 flip.2).trans h)
        obtain ⟨found, hfound⟩ := ih
        by_cases hcode : Codeword (bitsOf (flipBit block flip.1 flip.2))
        · rw [decide_eq_true hcode] at hcheck
          exact ⟨_, Python.bind_eq_ok.mpr ⟨_, hcheck, rfl⟩⟩
        · rw [decide_eq_false hcode] at hcheck
          exact ⟨found, Python.bind_eq_ok.mpr ⟨_, hcheck, hfound⟩⟩
  have hcheck := checkCodeBlock_eq h
  by_cases hcode : Codeword (bitsOf block)
  · exact ⟨_, correctCodeBlock_sent h hcode⟩
  · rw [decide_eq_false hcode] at hcheck
    obtain ⟨found, hfound⟩ := htried flips
    cases found with
    | none => exact ⟨_, Python.bind_eq_ok.mpr
        ⟨_, hcheck, Python.bind_eq_ok.mpr ⟨none, hfound, rfl⟩⟩⟩
    | some data => exact ⟨_, Python.bind_eq_ok.mpr
        ⟨_, hcheck, Python.bind_eq_ok.mpr ⟨some data, hfound, rfl⟩⟩⟩

/-! ### Whole blocks -/

section Block

variable {block : Bytes} (hlength : block.length = 8)

include hlength in
/-- Turning over a bit is an error at its place. -/
theorem flipBit_eq_corrupt {byteIdx bitIdx : Nat} (hbyte : byteIdx < 8) (hbit : bitIdx < 8) :
    flipBit block byteIdx bitIdx = corrupt block (single 64 (bitPlace byteIdx bitIdx)) := by
  have hpattern : (single 64 (bitPlace byteIdx bitIdx)).length = 8 * block.length := by
    rw [single_length, hlength]
  refine bitsOf_injective ?_
  rw [bitsOf_flipBit block (hlength ▸ hbyte) hbit, bitsOf_corrupt hpattern, hlength]

include hlength in
/-- Turning over two bits is an error at both places. -/
theorem flipBit_twice {byteIdx bitIdx byteIdx' bitIdx' : Nat} (hbyte : byteIdx < 8)
    (hbit : bitIdx < 8) (hbyte' : byteIdx' < 8) (hbit' : bitIdx' < 8) :
    flipBit (flipBit block byteIdx bitIdx) byteIdx' bitIdx' =
      corrupt block (addBits (single 64 (bitPlace byteIdx bitIdx))
        (single 64 (bitPlace byteIdx' bitIdx'))) := by
  have hflipped : (flipBit block byteIdx bitIdx).length = 8 :=
    (flipBit_length block byteIdx bitIdx).trans hlength
  have hpattern : (addBits (single 64 (bitPlace byteIdx bitIdx))
      (single 64 (bitPlace byteIdx' bitIdx'))).length = 8 * block.length := by
    rw [addBits_length, single_length, single_length, hlength]
    rfl
  refine bitsOf_injective ?_
  rw [bitsOf_flipBit _ (hflipped ▸ hbyte') hbit', bitsOf_flipBit block (hlength ▸ hbyte) hbit,
    bitsOf_corrupt hpattern, hflipped, hlength, addBits_assoc]

end Block

/-- Two distinct places are two errors. -/
theorem count_two {n i j : Nat} (hi : i < n) (hj : j < n) (hne : i ≠ j) :
    (addBits (single n i) (single n j)).count true = 2 := by
  induction n generalizing i j with
  | zero => cases hi
  | succ n ih =>
      have hclear (k : Nat) : addBits (replicate n false) (single n k) = single n k := by
        rw [addBits_comm]
        exact addBits_clear (by simp) fun b hb => eq_of_mem_replicate hb
      cases i with
      | zero =>
          cases j with
          | zero => exact absurd rfl hne
          | succ j =>
              rw [single_zero, single_succ, addBits_cons, hclear]
              simp [single_count (Nat.lt_of_succ_lt_succ hj)]
      | succ i =>
          cases j with
          | zero =>
              rw [single_zero, single_succ, addBits_cons, addBits_comm, hclear]
              simp [single_count (Nat.lt_of_succ_lt_succ hi)]
          | succ j =>
              have hrest := ih (Nat.lt_of_succ_lt_succ hi) (Nat.lt_of_succ_lt_succ hj)
                fun heq => hne (congrArg _ heq)
              rw [single_succ, single_succ, addBits_cons]
              simpa using hrest

theorem bitPlace_injective {byteIdx bitIdx byteIdx' bitIdx' : Nat} (hbit : bitIdx < 8)
    (hbit' : bitIdx' < 8) (h : bitPlace byteIdx bitIdx = bitPlace byteIdx' bitIdx') :
    (byteIdx, bitIdx) = (byteIdx', bitIdx') := by
  unfold bitPlace at h
  rw [Prod.mk.injEq]
  omega

/-- **A code block corrects one error and detects two.** -/
theorem codeBlock_corrects_one_detects_two {data : Bytes} (h : data.length = 7) :
    ∃ block, encodeCodeBlock data = .ok block ∧ correctCodeBlock block = .ok (data, true, 0) ∧
      (∀ byteIdx < 8, ∀ bitIdx < 8,
        correctCodeBlock (flipBit block byteIdx bitIdx) = .ok (data, true, 1)) ∧
      ∀ byteIdx < 8, ∀ bitIdx < 8, ∀ byteIdx' < 8, ∀ bitIdx' < 8,
        (byteIdx, bitIdx) ≠ (byteIdx', bitIdx') →
          ∃ received, correctCodeBlock (flipBit (flipBit block byteIdx bitIdx) byteIdx' bitIdx') =
            .ok (received, false, 0) := by
  obtain ⟨block, hencoded, hlength, hdata, hcode⟩ := encodeCodeBlock_eq_ok h
  have hplace {byteIdx bitIdx : Nat} (hbyte : byteIdx < 8) (hbit : bitIdx < 8) :
      bitPlace byteIdx bitIdx < 64 :=
    @bitPlace_lt (byteIdx, bitIdx) (mem_flips_iff.mpr ⟨hbyte, hbit⟩)
  refine ⟨block, hencoded, hdata ▸ correctCodeBlock_sent hlength hcode, ?_, ?_⟩
  · intro byteIdx hbyte bitIdx hbit
    rw [flipBit_eq_corrupt hlength hbyte hbit, ← hdata]
    exact correctCodeBlock_one hlength (single_length _ _) hcode (single_count (hplace hbyte hbit))
  · intro byteIdx hbyte bitIdx hbit byteIdx' hbyte' bitIdx' hbit' hne
    rw [flipBit_twice hlength hbyte hbit hbyte' hbit']
    refine correctCodeBlock_two hlength (by simp) hcode ?_
    exact count_two (hplace hbyte hbit) (hplace hbyte' hbit')
      fun hsame => hne (bitPlace_injective hbit hbit' hsame)

/-- The first octets of a telecommand frame. -/
theorem codeBlock_corrects_frame :
    ∃ block, encodeCodeBlock [0x20, 0x2A, 0x00, 0x0B, 0x00, 0x18, 0x01] = .ok block ∧
      correctCodeBlock block = .ok ([0x20, 0x2A, 0x00, 0x0B, 0x00, 0x18, 0x01], true, 0) ∧
      (∀ byteIdx < 8, ∀ bitIdx < 8, correctCodeBlock (flipBit block byteIdx bitIdx) =
        .ok ([0x20, 0x2A, 0x00, 0x0B, 0x00, 0x18, 0x01], true, 1)) ∧
      ∀ byteIdx < 8, ∀ bitIdx < 8, ∀ byteIdx' < 8, ∀ bitIdx' < 8,
        (byteIdx, bitIdx) ≠ (byteIdx', bitIdx') →
          ∃ received, correctCodeBlock (flipBit (flipBit block byteIdx bitIdx) byteIdx' bitIdx') =
            .ok (received, false, 0) :=
  codeBlock_corrects_one_detects_two rfl

end Ccsds
