import Mathlib.Data.List.Basic
import Mathlib.Tactic.Common

/-!
# Text as UTF-8 octets

What is encoded decodes to itself.  A text that has to fit is cut between characters: the longest
prefix that fits is what is left when octets are dropped from the end until the rest is well formed.

Octets that are not well formed decode with a replacement character for each maximal subpart of an
ill-formed sequence, so decoding is total.
-/

namespace Utf8

/-- The octets of characters. -/
def encode (chars : List Char) : List UInt8 := chars.flatMap String.utf8EncodeChar

/-- The character that octets begin with. -/
def decodeChar? (raw : List UInt8) : Option Char := ByteArray.utf8DecodeChar? ⟨raw.toArray⟩ 0

/-- Octets that encode characters. -/
def WellFormed (raw : List UInt8) : Prop := ∃ chars, raw = encode chars

/-! ### Decoding -/

/-- How many octets continue a sequence, when the next one is within bounds. -/
def continuation : Nat → Nat → Nat → List UInt8 → Nat
  | 0, _, _, _ => 0
  | _ + 1, _, _, [] => 0
  | more + 1, low, high, octet :: rest =>
      if low ≤ octet.toNat ∧ octet.toNat ≤ high then continuation more 0x80 0xBF rest + 1 else 0

/-- The length of the maximal subpart that ill-formed octets begin with. -/
def subpart : List UInt8 → Nat
  | [] => 0
  | octet :: rest =>
      let lead := octet.toNat
      1 +
        if 0xC2 ≤ lead ∧ lead ≤ 0xDF then continuation 1 0x80 0xBF rest
        else if lead = 0xE0 then continuation 2 0xA0 0xBF rest
        else if lead = 0xED then continuation 2 0x80 0x9F rest
        else if 0xE1 ≤ lead ∧ lead ≤ 0xEF then continuation 2 0x80 0xBF rest
        else if lead = 0xF0 then continuation 3 0x90 0xBF rest
        else if lead = 0xF4 then continuation 3 0x80 0x8F rest
        else if 0xF1 ≤ lead ∧ lead ≤ 0xF3 then continuation 3 0x80 0xBF rest
        else 0

/-- As many characters as there may be, with replacements. -/
def decodeChars : Nat → List UInt8 → List Char
  | 0, _ => []
  | _ + 1, [] => []
  | more + 1, octet :: rest =>
      match decodeChar? (octet :: rest) with
      | some c => c :: decodeChars more ((octet :: rest).drop c.utf8Size)
      | none => Char.ofNat 0xFFFD :: decodeChars more ((octet :: rest).drop (subpart (octet :: rest)))

/-- `raw.decode("utf-8", errors="replace")`. -/
def decode (raw : List UInt8) : List Char := decodeChars raw.length raw

open List

theorem mk_toArray (raw : List UInt8) : (⟨raw.toArray⟩ : ByteArray) = raw.toByteArray :=
  ByteArray.ext data_toByteArray.symm

theorem encode_cons (c : Char) (chars : List Char) :
    encode (c :: chars) = String.utf8EncodeChar c ++ encode chars := flatMap_cons

theorem encode_append (chars chars' : List Char) :
    encode (chars ++ chars') = encode chars ++ encode chars' := flatMap_append

theorem encode_initial {chars chars' : List Char} (h : chars <+: chars') :
    encode chars <+: encode chars' := by
  obtain ⟨rest, rfl⟩ := h
  exact ⟨encode rest, (encode_append chars rest).symm⟩

/-- The first character is found again, whatever follows it. -/
theorem decodeChar?_encode_append (c : Char) (chars : List Char) (rest : List UInt8) :
    decodeChar? (encode (c :: chars) ++ rest) = some c := by
  unfold decodeChar?
  rw [mk_toArray, encode_cons, append_assoc, toByteArray_append]
  exact ByteArray.utf8DecodeChar?_utf8EncodeChar_append

theorem encode_ne_nil (c : Char) (chars : List Char) : encode (c :: chars) ≠ [] := by
  exact append_ne_nil_of_left_ne_nil String.utf8EncodeChar_ne_nil _

theorem decodeChars_encode (chars : List Char) (more : Nat) (h : (encode chars).length ≤ more) :
    decodeChars more (encode chars) = chars := by
  induction chars generalizing more with
  | nil => cases more <;> rfl
  | cons c chars ih =>
      have hlength : (encode (c :: chars)).length = c.utf8Size + (encode chars).length := by
        rw [encode_cons, length_append, String.length_utf8EncodeChar]
      have hsize := c.utf8Size_pos
      have hfirst := decodeChar?_encode_append c chars []
      have hrest : (encode (c :: chars)).drop c.utf8Size = encode chars := by
        rw [encode_cons, ← String.length_utf8EncodeChar c, drop_left]
      cases more with
      | zero => omega
      | succ more =>
          obtain ⟨octet, rest, hsplit⟩ := exists_cons_of_ne_nil (encode_ne_nil c chars)
          rw [append_nil] at hfirst
          rw [hsplit] at hfirst hrest ⊢
          simp only [decodeChars, hfirst, hrest]
          rw [ih more (by omega)]

/-- What is encoded decodes to itself. -/
theorem decode_encode (chars : List Char) : decode (encode chars) = chars :=
  decodeChars_encode chars _ (Nat.le_refl _)

/-! ### Cutting -/

/-- The longest prefix that takes at most so many octets. -/
def fitting : Nat → List Char → List Char
  | _, [] => []
  | room, c :: chars => if c.utf8Size ≤ room then c :: fitting (room - c.utf8Size) chars else []

theorem fitting_initial (room : Nat) (chars : List Char) : fitting room chars <+: chars := by
  induction chars generalizing room with
  | nil => exact prefix_refl _
  | cons c chars ih =>
      unfold fitting
      split_ifs
      · exact cons_prefix_cons.mpr ⟨rfl, ih _⟩
      · exact nil_prefix

theorem encode_length_cons (c : Char) (chars : List Char) :
    (encode (c :: chars)).length = c.utf8Size + (encode chars).length := by
  rw [encode_cons, length_append, String.length_utf8EncodeChar]

theorem fitting_length (room : Nat) (chars : List Char) :
    (encode (fitting room chars)).length ≤ room := by
  induction chars generalizing room with
  | nil => exact Nat.zero_le _
  | cons c chars ih =>
      unfold fitting
      split_ifs with hfits
      · have htail := ih (room - c.utf8Size)
        rw [encode_length_cons]
        omega
      · exact Nat.zero_le _

/-- A prefix that fits is a prefix of the longest one. -/
theorem initial_fitting {room : Nat} {chars other : List Char} (hinitial : other <+: chars)
    (hfits : (encode other).length ≤ room) : other <+: fitting room chars := by
  induction other generalizing room chars with
  | nil => exact nil_prefix
  | cons c other ih =>
      obtain ⟨rest, rfl⟩ := hinitial
      rw [encode_length_cons] at hfits
      rw [cons_append, fitting, if_pos (by omega)]
      exact cons_prefix_cons.mpr ⟨rfl, ih (prefix_append _ _) (by omega)⟩

/-- What fits is kept whole. -/
theorem fitting_eq_self {room : Nat} {chars : List Char} (h : (encode chars).length ≤ room) :
    fitting room chars = chars :=
  (fitting_initial room chars).eq_of_length_le
    (initial_fitting (prefix_refl chars) h).length_le

/-- A prefix of the octets that is well formed encodes a prefix of the characters. -/
theorem initial_of_encode {chars other : List Char} (h : encode other <+: encode chars) :
    other <+: chars := by
  induction other generalizing chars with
  | nil => exact nil_prefix
  | cons c other ih =>
      obtain ⟨rest, hrest⟩ := h
      cases chars with
      | nil => exact absurd (append_eq_nil_iff.mp hrest).1 (encode_ne_nil c other)
      | cons d chars =>
          have hfirst := decodeChar?_encode_append c other rest
          have hsame := decodeChar?_encode_append d chars []
          rw [hrest] at hfirst
          rw [append_nil, hfirst, Option.some_inj] at hsame
          subst hsame
          refine cons_prefix_cons.mpr ⟨rfl, ih ⟨rest, ?_⟩⟩
          rw [encode_cons, encode_cons, append_assoc] at hrest
          exact append_cancel_left hrest

/-- The first octets are well formed exactly when the longest prefix that fits takes them all. -/
theorem wellFormed_take {room : Nat} {chars : List Char} (h : room ≤ (encode chars).length) :
    WellFormed ((encode chars).take room) ↔
      (encode chars).take room = encode (fitting room chars) := by
  constructor
  · rintro ⟨other, heq⟩
    have hlength : (encode other).length = room := by
      rw [← heq, length_take, Nat.min_eq_left h]
    have hother : other <+: chars := by
      apply initial_of_encode
      rw [← heq]
      exact take_prefix _ _
    obtain ⟨rest, hrest⟩ := initial_fitting hother (Nat.le_of_eq hlength)
    have hbound := fitting_length room chars
    rw [← hrest, encode_append, length_append, hlength] at hbound
    have hempty : encode rest = [] := eq_nil_of_length_eq_zero (by omega)
    rw [heq, ← hrest, encode_append, hempty, append_nil]
  · intro heq
    exact ⟨_, heq⟩

/-- One octet less fits the same characters, unless they take all of the room. -/
theorem fitting_succ {room : Nat} {chars : List Char}
    (h : (encode (fitting (room + 1) chars)).length ≤ room) :
    fitting (room + 1) chars = fitting room chars := by
  have hwide := initial_fitting (fitting_initial (room + 1) chars) h
  have hnarrow := initial_fitting (fitting_initial room chars)
    (Nat.le_succ_of_le (fitting_length room chars))
  exact hwide.eq_of_length_le hnarrow.length_le

theorem validateUTF8_iff (raw : List UInt8) :
    ByteArray.validateUTF8 ⟨raw.toArray⟩ = true ↔ WellFormed raw := by
  rw [ByteArray.validateUTF8_eq_true_iff, mk_toArray]
  constructor
  · rintro ⟨chars, heq⟩
    exact ⟨chars, toByteArray_inj.mp heq⟩
  · rintro ⟨chars, rfl⟩
    exact ⟨chars, rfl⟩

end Utf8
