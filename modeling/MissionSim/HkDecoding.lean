import MissionSim.Division
import MissionSim.StructFields
import MissionSim.TmBuilder

/-!
# The ground's reading of housekeeping reports

The mission control system keeps the housekeeping structures of its own configuration and takes
a report apart with them: each field has the width of its format and is divided by the scale.

Both sides round.  The product of a value and the scale is a double, and so is the quotient of
the count: a value comes back within half a step and a little more.
-/

namespace TmBuilder

open Octets Binary32 Python Effects

/-- `struct.calcsize('>' + fmt)`. -/
def PackFormat.size : PackFormat → Nat
  | .b | .B => 1
  | .h | .H => 2
  | .i | .I | .f => 4

/-- `struct.unpack('>' + fmt, bs)[0]`. -/
def PackFormat.unpack (bs : Bytes) : PackFormat → Value
  | .b | .h | .i => .int (unpackSigned bs)
  | .B | .H | .I => .int (unpackUnsigned bs)
  | .f => .float (unpackFloat bs)

/-- The counts an integer format holds. -/
def PackFormat.Holds (n : Int) : PackFormat → Prop
  | .b => FitsSigned 1 n
  | .B => 0 ≤ n ∧ n < 2 ^ 8
  | .h => FitsSigned 2 n
  | .H => 0 ≤ n ∧ n < 2 ^ 16
  | .i => FitsSigned 4 n
  | .I => 0 ≤ n ∧ n < 2 ^ 32
  | .f => False

instance (n : Int) : (fmt : PackFormat) → Decidable (fmt.Holds n)
  | .b | .h | .i => inferInstanceAs (Decidable (FitsSigned _ n))
  | .B | .H | .I => inferInstanceAs (Decidable (_ ∧ _))
  | .f => inferInstanceAs (Decidable False)

/-- `raw_val / scale if scale != 0 else raw_val`. -/
def HkParameter.value (p : HkParameter) (raw : Value) : Except PyError Value :=
  if truthy p.scale then do
    let x ← raw.toFloat
    pure (.float (x.div p.scale))
  else .ok raw

/-- The value a parameter store has for a parameter of a structure. -/
def HkParameter.stored (p : HkParameter) (params : Dict Nat Value) : Value :=
  (params.get? p.paramId).getD (.int 0)

end TmBuilder

namespace TmProcessor

open Octets Binary32 Python Effects TmBuilder List

/-- What `_process_hk` makes of a report. -/
inductive HkReport where
  | empty
  | raw (sid : Nat)
  | params (sid : Nat) (params : Dict Nat Value)

/-- The loop of `_process_hk`, on the data from the current offset. -/
def decodeFields : List HkParameter → Bytes → Dict Nat Value → Except PyError (Dict Nat Value)
  | [], _, params => .ok params
  | p :: rest, data, params =>
      if data.length < p.packFormat.size then .ok params
      else do
        let value ← p.value (p.packFormat.unpack (data.take p.packFormat.size))
        decodeFields rest (data.drop p.packFormat.size) (params.set p.paramId value)

/-- `_process_hk(data)`. -/
def processHk (hkStructures : Dict Nat (List HkParameter)) (data : Bytes) :
    Except PyError HkReport :=
  if data.length < 2 then .ok .empty
  else
    match hkStructures.get? (unpackU16 data) with
    | none | some [] => .ok (.raw (unpackU16 data))
    | some parameters => .params (unpackU16 data) <$> decodeFields parameters (data.drop 2) .empty

/-! ### Fields -/

variable {x : FloatValue}

theorem toFloat_int {n : Int} (h : FloatValue.ofInt n = some x) :
    (Value.int n).toFloat = .ok x := by
  simp [Value.toFloat, h]

/-- What `float(value)` returns or raises. -/
theorem toFloat_cases (value : Value) :
    (∃ x, value.toFloat = .ok x) ∨ value.toFloat = .error .overflowError ∨
      value.toFloat = .error .typeError := by
  cases value with
  | int n =>
      cases hof : FloatValue.ofInt n with
      | none => exact .inr (.inl (by simp [Value.toFloat, hof]))
      | some x => exact .inl ⟨x, toFloat_int hof⟩
  | float x => exact .inl ⟨x, rfl⟩
  | none | other => exact .inr (.inr rfl)

/-- A count is packed, or is refused as one that does not fit. -/
theorem pack_cases (n : Int) (fmt : PackFormat) :
    (∃ bs, fmt.pack n = .ok bs ∧ bs.length = fmt.size) ∨ fmt.pack n = .error .structError ∨
      fmt.pack n = .error .overflowError := by
  have hunsigned : ∀ k, (∃ bs, packUnsigned k n = .ok bs ∧ bs.length = k) ∨
      packUnsigned k n = .error .structError := by
    intro k
    unfold packUnsigned
    split_ifs
    · exact .inl ⟨_, rfl, by simp⟩
    · exact .inr rfl
  have hsigned : ∀ k, 0 < k → (∃ bs, packSigned k n = .ok bs ∧ bs.length = k) ∨
      packSigned k n = .error .structError := by
    intro k hk
    by_cases hfits : FitsSigned k n
    · obtain ⟨bs, hpack, hlength, -⟩ := packSigned_eq hk hfits
      exact .inl ⟨bs, hpack, hlength⟩
    · exact .inr (if_neg hfits)
  cases fmt with
  | b => exact (hsigned 1 (by decide)).imp_right .inl
  | B => exact (hunsigned 1).imp_right .inl
  | h => exact (hsigned 2 (by decide)).imp_right .inl
  | H => exact (hunsigned 2).imp_right .inl
  | i => exact (hsigned 4 (by decide)).imp_right .inl
  | I => exact (hunsigned 4).imp_right .inl
  | f =>
      have hfloat : PackFormat.f.pack n = (Value.toFloat (.int n) >>= packFloat) := rfl
      rw [hfloat]
      rcases toFloat_cases (.int n) with ⟨x, hx⟩ | hx | hx
      · have hpack : (Except.ok x >>= packFloat : Except PyError Bytes) = packFloat x := rfl
        rw [hx, hpack, packFloat]
        cases x.toBits with
        | none => exact .inr (.inr rfl)
        | some bits => exact .inl ⟨packU32 bits, rfl, rfl⟩
      · rw [hx]
        exact .inr (.inr rfl)
      · cases hof : FloatValue.ofInt n with
        | none | some => simp [Value.toFloat, hof] at hx

/-- A zero fits every format. -/
theorem pack_zero (fmt : PackFormat) :
    ∃ bs, fmt.pack 0 = .ok bs ∧ bs.length = fmt.size := by
  cases fmt with
  | f =>
      have hzero : FloatValue.ofInt 0 = some (.finite false 0 (-1074)) := by decide +kernel
      have hfloat : PackFormat.f.pack 0 = (Value.toFloat (.int 0) >>= packFloat) := rfl
      have hpack : packFloat (.finite false 0 (-1074)) = .ok (packU32 0) := by decide +kernel
      refine ⟨packU32 0, ?_, rfl⟩
      generalize FloatValue.finite false 0 (-1074) = zero at hzero hpack
      rw [hfloat, toFloat_int hzero]
      exact hpack
  | _ => exact ⟨_, rfl, rfl⟩

/-- A count that a format holds comes back from its field. -/
theorem unpack_pack {n : Int} {fmt : PackFormat} (h : fmt.Holds n) :
    ∃ bs, fmt.pack n = .ok bs ∧ bs.length = fmt.size ∧ fmt.unpack bs = .int n := by
  have hunsigned : ∀ k, 0 ≤ n ∧ n < 2 ^ (8 * k) → ∃ bs, packUnsigned k n = .ok bs ∧
      bs.length = k ∧ Value.int (unpackUnsigned bs) = .int n := by
    rintro k ⟨hlow, hhigh⟩
    obtain ⟨m, rfl⟩ := Int.eq_ofNat_of_zero_le hlow
    have hlt : m < 2 ^ (8 * k) := by exact_mod_cast hhigh
    exact ⟨_, packUnsigned_eq hlt, octetsOf_length k m, by rw [unpackUnsigned_octetsOf hlt]⟩
  have hsigned : ∀ k, 0 < k → FitsSigned k n → ∃ bs, packSigned k n = .ok bs ∧
      bs.length = k ∧ Value.int (unpackSigned bs) = .int n := by
    intro k hk hfits
    obtain ⟨bs, hpack, hlength, hunpack⟩ := packSigned_eq hk hfits
    exact ⟨bs, hpack, hlength, by rw [hunpack]⟩
  cases fmt with
  | b => exact hsigned 1 (by decide) h
  | B => exact hunsigned 1 h
  | h => exact hsigned 2 (by decide) h
  | H => exact hunsigned 2 h
  | i => exact hsigned 4 (by decide) h
  | I => exact hunsigned 4 h
  | f => exact absurd h id

theorem holds_bound {n : Int} {fmt : PackFormat} (h : fmt.Holds n) : n.natAbs < 2 ^ 32 := by
  cases fmt <;> simp only [PackFormat.Holds, FitsSigned] at h <;> omega

/-- The product of a value and the scale is a number or an infinity. -/
def HkParameter.Packable (p : HkParameter) (value : Value) : Prop :=
  ∀ x, value.toFloat = .ok x → ∀ negative payload, x.mul p.scale ≠ .nan negative payload

open HkParameter

/-- **Packing is total** but for NaNs. -/
theorem HkParameter.pack_total {p : HkParameter} {value : Value} (h : HkParameter.Packable p value) :
    ∃ field, p.pack value = .ok field ∧ field.length = p.packFormat.size := by
  unfold pack
  rcases toFloat_cases value with ⟨x, hx⟩ | hx | hx
  · rw [hx]
    cases hproduct : x.mul p.scale with
    | nan negative payload => exact absurd hproduct (h x hx negative payload)
    | infinite negative =>
        simp only [bind, Except.bind, hproduct, roundInt]
        exact pack_zero p.packFormat
    | finite negative m e =>
        simp only [bind, Except.bind, hproduct, roundInt]
        rcases pack_cases (nearest negative m e) p.packFormat with ⟨bs, hpack, hlength⟩ | hpack | hpack
        · rw [hpack]
          exact ⟨bs, rfl, hlength⟩
        · rw [hpack]
          exact pack_zero p.packFormat
        · rw [hpack]
          exact pack_zero p.packFormat
  · rw [hx]
    exact pack_zero p.packFormat
  · rw [hx]
    exact pack_zero p.packFormat

/-- Every field is read, whatever it holds. -/
theorem HkParameter.value_total (p : HkParameter) {field : Bytes}
    (h : field.length = p.packFormat.size) :
    ∃ v, p.value (p.packFormat.unpack field) = .ok v := by
  have hint : ∀ n : Int, n.natAbs < 2 ^ 53 → ∃ v, p.value (.int n) = .ok v := by
    intro n hn
    obtain ⟨s, m, e, hof, -⟩ := ofInt_exact hn
    unfold HkParameter.value
    rw [toFloat_int hof]
    split_ifs
    · exact ⟨_, rfl⟩
    · exact ⟨_, rfl⟩
  have hlt := unpackUnsigned_lt field
  have hsize : 2 ^ (8 * field.length) ≤ 2 ^ 32 := by
    refine Nat.pow_le_pow_right (by decide) ?_
    rw [h]
    cases p.packFormat <;> decide
  have hsigned : (unpackSigned field).natAbs < 2 ^ 53 := by
    have hpos : 0 < field.length := by
      rw [h]
      cases p.packFormat <;> decide
    have hfits := (packSigned_unpackSigned hpos).1
    have hhalf := two_pow_half hpos
    have hlow : -(2 ^ 32 : Int) ≤ unpackSigned field := by
      linarith [hfits.1]
    have hhigh : unpackSigned field < 2 ^ 32 := by
      linarith [hfits.2]
    omega
  have hunsigned : ((unpackUnsigned field : Nat) : Int).natAbs < 2 ^ 53 := by omega
  cases hformat : p.packFormat with
  | b | h | i => exact hint _ hsigned
  | B | H | I => exact hint _ hunsigned
  | f =>
      unfold HkParameter.value PackFormat.unpack
      split_ifs
      · exact ⟨_, rfl⟩
      · exact ⟨_, rfl⟩

/-! ### Quantisation -/

/-- A value in the range of its format and scale: the rounded product with the scale is a count
the format holds. -/
structure InRange (p : HkParameter) (value : Value) (x : FloatValue) (n : Int) : Prop where
  scale : p.scale.rat ≠ 0
  double : |p.scale.rat| < 2 ^ (1024 : Int)
  number : value.toFloat = .ok x
  count : roundInt (x.mul p.scale) = .ok n
  holds : p.packFormat.Holds n

/-- What a value in range is read as: its count is within half a step and the rounding of the
product, and the value read is the count over the scale, to double precision. -/
structure WithinStep (p : HkParameter) (x : FloatValue) (n : Int) (y : FloatValue) : Prop where
  count : |(n : ℚ) - x.rat * p.scale.rat| ≤ 1 / 2 + 1 / 2 ^ 21
  value : (∃ negative m e, y = .finite negative m e ∧
      |y.rat * p.scale.rat - x.rat * p.scale.rat| ≤ 1 / 2 + 1 / 2 ^ 19) ∨
    ∃ negative, y = .infinite negative ∧ (2 : ℚ) ^ (1023 : Int) ≤ |n / p.scale.rat|

theorem truthy_of_rat (h : x.rat ≠ 0) : truthy x = true := by
  obtain ⟨negative, m, e, rfl, hm⟩ := FloatValue.rat_ne_zero h
  simpa [truthy] using hm

/-- The factors of a finite product with a number are numbers. -/
theorem mul_finite {s s' : Bool} {m' k : Nat} {e' j : Int} (hm' : m' ≠ 0)
    (h : x.mul (.finite s' m' e') = .finite s k j) :
    ∃ sx m e, x = .finite sx m e ∧ FloatValue.round (sx ^^ s') (m * m') (e + e') = .finite s k j := by
  cases x with
  | finite sx m e => exact ⟨sx, m, e, rfl, h⟩
  | infinite negative =>
      simp only [FloatValue.mul, if_neg hm'] at h
      cases h
  | nan negative payload =>
      cases h

/-- The count of a value in range. -/
theorem count_error {p : HkParameter} {value : Value} {n : Int} (h : InRange p value x n) :
    |(n : ℚ) - x.rat * p.scale.rat| ≤ 1 / 2 + 1 / 2 ^ 21 := by
  obtain ⟨s', m', e', hscale, hm'⟩ := FloatValue.rat_ne_zero h.scale
  have hcount := h.count
  rw [hscale] at hcount ⊢
  cases hproduct : x.mul (.finite s' m' e') with
  | nan | infinite => simp [hproduct, roundInt] at hcount
  | finite s k j =>
      obtain ⟨sx, m, e, rfl, hround⟩ := mul_finite hm' hproduct
      have hn : nearest s k j = n := by simpa [hproduct, roundInt] using hcount
      have hnearest := nearest_error s k j
      rw [hn] at hnearest
      obtain ⟨hsign, -⟩ := round_finite hround
      have hsmall : (k : ℚ) * 2 ^ j < 2 ^ 33 := by
        have hbound : |(n : ℚ)| ≤ 2 ^ 32 := by
          have hnat := (holds_bound h.holds).le
          rw [← Int.cast_abs, Int.abs_eq_natAbs]
          exact_mod_cast hnat
        have habs := abs_sub_abs_le_abs_sub (dyadic s k j) n
        rw [abs_dyadic, abs_sub_comm] at habs
        linarith
      have herror := round_below hround hsmall
      have hvalue : |dyadic s k j - dyadic sx m e * dyadic s' m' e'| ≤ 1 / 2 ^ 21 := by
        rw [dyadic_mul, ← hsign, abs_dyadic_sub]
        exact_mod_cast herror.trans (by norm_num)
      calc |(n : ℚ) - dyadic sx m e * dyadic s' m' e'|
          ≤ |(n : ℚ) - dyadic s k j| + |dyadic s k j - dyadic sx m e * dyadic s' m' e'| :=
            abs_sub_le _ _ _
        _ ≤ 1 / 2 + 1 / 2 ^ 21 := add_le_add hnearest hvalue

/-- **A value in range is read within half a step.** -/
theorem InRange.read {p : HkParameter} {value : Value} {n : Int} (h : InRange p value x n) :
    ∃ field y, p.pack value = .ok field ∧ field.length = p.packFormat.size ∧
      p.value (p.packFormat.unpack field) = .ok (.float y) ∧ WithinStep p x n y := by
  obtain ⟨field, hpack, hlength, hunpack⟩ := unpack_pack h.holds
  have hcount := count_error h
  have hbound := holds_bound h.holds
  obtain ⟨sn, mn, en, hof, hexact⟩ := ofInt_exact (show n.natAbs < 2 ^ 53 by omega)
  obtain ⟨s', m', e', hscale, hm'⟩ := FloatValue.rat_ne_zero h.scale
  refine ⟨field, (FloatValue.finite sn mn en).div p.scale, ?_, hlength, ?_, hcount, ?_⟩
  · unfold pack
    rw [h.number]
    simp only [bind, Except.bind]
    rw [h.count]
    simp only
    rw [hpack]
  · unfold HkParameter.value
    rw [if_pos (truthy_of_rat h.scale), hunpack, toFloat_int hof]
    rfl
  · have hdouble := h.double
    have hrat : p.scale.rat = dyadic s' m' e' := by rw [hscale, FloatValue.rat]
    have hmagnitude : |p.scale.rat| = m' * 2 ^ e' := by rw [hrat, abs_dyadic]
    have hnumber : |(n : ℚ)| = mn * 2 ^ en := by rw [← hexact, abs_dyadic]
    have hpos : (0 : ℚ) < m' * 2 ^ e' := by
      rw [← hmagnitude]
      exact abs_pos.mpr h.scale
    rcases div_error sn s' mn en e' hm' with ⟨k, j, hdiv, herror⟩ | ⟨hdiv, hlarge⟩
    · refine .inl ⟨sn ^^ s', k, j, by rw [hscale, hdiv], ?_⟩
      have hread : |dyadic (sn ^^ s') k j * p.scale.rat - n| ≤ 1 / 2 ^ 20 + 1 / 2 ^ 50 := by
        have hsigns : (sn ^^ s' ^^ s') = sn := by cases sn <;> cases s' <;> rfl
        have hquotient : (mn : ℚ) * 2 ^ en / (m' * 2 ^ e') * (m' * 2 ^ e') = mn * 2 ^ en :=
          div_mul_cancel₀ _ hpos.ne'
        have hscaled : |((k * m' : Nat) : ℚ) * 2 ^ (j + e') - mn * 2 ^ en| =
            |(k : ℚ) * 2 ^ j - mn * 2 ^ en / (m' * 2 ^ e')| * (m' * 2 ^ e') := by
          conv_rhs => rw [← abs_of_pos hpos, ← abs_mul, abs_of_pos hpos, sub_mul, hquotient]
          rw [zpow_add₀ (by norm_num)]
          push_cast
          congr 1
          ring
        rw [hrat, dyadic_mul, hsigns, ← hexact, abs_dyadic_sub, hscaled]
        refine (mul_le_mul_of_nonneg_right herror hpos.le).trans ?_
        rw [add_mul, div_mul_eq_mul_div, hquotient, ← hnumber, ← hmagnitude]
        have hcountBound : |(n : ℚ)| / 2 ^ 52 ≤ 1 / 2 ^ 20 := by
          have hint : |(n : ℚ)| ≤ 2 ^ 32 := by
            rw [← Int.cast_abs, Int.abs_eq_natAbs]
            exact_mod_cast hbound.le
          linarith
        have hlast : (2 : ℚ) ^ (-1074 : Int) * |p.scale.rat| ≤ 1 / 2 ^ 50 := by
          have hmul := mul_le_mul_of_nonneg_left hdouble.le
            (zpow_nonneg (by norm_num) (-1074) : (0 : ℚ) ≤ 2 ^ (-1074 : Int))
          rw [← zpow_add₀ (by norm_num)] at hmul
          exact hmul.trans (by norm_num)
        exact add_le_add hcountBound hlast
      have hval : ((FloatValue.finite sn mn en).div p.scale).rat = dyadic (sn ^^ s') k j := by
        rw [hscale, hdiv, FloatValue.rat]
      rw [hval]
      calc |dyadic (sn ^^ s') k j * p.scale.rat - x.rat * p.scale.rat|
          ≤ |dyadic (sn ^^ s') k j * p.scale.rat - n| + |(n : ℚ) - x.rat * p.scale.rat| :=
            abs_sub_le _ _ _
        _ ≤ (1 / 2 ^ 20 + 1 / 2 ^ 50) + (1 / 2 + 1 / 2 ^ 21) := add_le_add hread hcount
        _ ≤ 1 / 2 + 1 / 2 ^ 19 := by norm_num
    · refine .inr ⟨sn ^^ s', by rw [hscale, hdiv], ?_⟩
      rw [abs_div, hnumber, hmagnitude]
      exact hlarge

/-! ### Reports -/

/-- A field of a report: the parameter it is of, and its octets. -/
abbrev Cell := HkParameter × Bytes

/-- **The fields of a report are read one by one**, each of its own octets; a parameter that
stands there twice has the value of its last field. -/
theorem decodeFields_cells {cells : List Cell}
    (h : ∀ cell ∈ cells, cell.2.length = cell.1.packFormat.size) (params : Dict Nat Value) :
    ∃ decoded, decodeFields (cells.map Prod.fst) (cells.flatMap Prod.snd) params = .ok decoded ∧
      (∀ id, id ∉ cells.map (·.1.paramId) → decoded.get? id = params.get? id) ∧
      ∀ before cell after, cells = before ++ cell :: after →
        cell.1.paramId ∉ after.map (·.1.paramId) →
        ∃ v, cell.1.value (cell.1.packFormat.unpack cell.2) = .ok v ∧
          decoded.get? cell.1.paramId = some v := by
  induction cells generalizing params with
  | nil =>
      refine ⟨params, rfl, fun _ _ => rfl, ?_⟩
      intro before cell after hsplit
      simp at hsplit
  | cons cell cells ih =>
      have hlength := h cell mem_cons_self
      obtain ⟨v, hv⟩ := value_total cell.1 hlength
      obtain ⟨decoded, hdecode, hkept, hread⟩ :=
        ih (fun c hc => h c (mem_cons_of_mem _ hc)) (params.set cell.1.paramId v)
      refine ⟨decoded, ?_, ?_, ?_⟩
      · have hfirst : (cell.2 ++ cells.flatMap Prod.snd).take cell.1.packFormat.size = cell.2 :=
          take_left' hlength
        have hrest : (cell.2 ++ cells.flatMap Prod.snd).drop cell.1.packFormat.size =
            cells.flatMap Prod.snd := drop_left' hlength
        have henough : ¬ (cell.2 ++ cells.flatMap Prod.snd).length < cell.1.packFormat.size := by
          rw [length_append]
          omega
        rw [map_cons, flatMap_cons, decodeFields, if_neg henough, hfirst, hrest, hv]
        exact hdecode
      · intro id hid
        rw [map_cons, mem_cons, not_or] at hid
        rw [hkept id hid.2, Dict.get?_set_ne _ hid.1]
      · intro before other after hsplit hlast
        cases before with
        | nil =>
            obtain ⟨rfl, rfl⟩ := hsplit
            exact ⟨v, hv, by rw [hkept _ hlast, Dict.get?_set_same]⟩
        | cons first before =>
            rw [cons_append, cons.injEq] at hsplit
            exact hread before other after hsplit.2 hlast

/-- The octets of a structure's parameters. -/
def hkLength (parameters : List HkParameter) : Nat := (parameters.map (·.packFormat.size)).sum

/-- The parameters of a structure are packed one by one. -/
theorem pack_cells {parameters : List HkParameter} {params : Dict Nat Value}
    (h : ∀ p ∈ parameters, HkParameter.Packable p (p.stored params)) :
    ∃ cells : List Cell, cells.map Prod.fst = parameters ∧
      (parameters.mapM fun p => p.pack (p.stored params)) = .ok (cells.map Prod.snd) ∧
      (cells.flatMap Prod.snd).length = hkLength parameters ∧
      ∀ cell ∈ cells, cell.1.pack (cell.1.stored params) = .ok cell.2 ∧
        cell.2.length = cell.1.packFormat.size := by
  induction parameters with
  | nil => exact ⟨[], rfl, rfl, rfl, by simp⟩
  | cons p parameters ih =>
      obtain ⟨cells, hparameters, hpacked, hlength, hcells⟩ :=
        ih (fun q hq => h q (mem_cons_of_mem _ hq))
      obtain ⟨field, hpack, hfield⟩ := pack_total (h p mem_cons_self)
      refine ⟨(p, field) :: cells, by rw [map_cons, hparameters], ?_, ?_, ?_⟩
      · rw [mapM_cons, hpack, hpacked]
        rfl
      · rw [flatMap_cons, length_append, hlength, hfield]
        rfl
      · intro cell hcell
        rcases mem_cons.mp hcell with rfl | hrest
        · exact ⟨hpack, hfield⟩
        · exact hcells cell hrest

/-- A report whose fields are packed is built. -/
theorem buildHkPacket_eq_ok {sid cuc : Nat} (hcuc : cuc < 2 ^ 32) {parameters : List HkParameter}
    {params : Dict Nat Value} {packed : List Bytes}
    (hpacked : (parameters.mapM fun p => p.pack (p.stored params)) = .ok packed)
    (hfits : (packU16 sid ++ packed.flatten).length + 8 < 2 ^ 16) (b : Builder) :
    buildHkPacket sid params (some parameters) cuc b =
      .ok (some { apid := b.apid, sequenceCount := b.next.seqCount, service := 3, subtype := 25,
                  cuc := cuc, data := packU16 sid ++ packed.flatten }) b.next := by
  have hbuilt := packTm_eq_ok 3 25 hcuc hfits b
  unfold stored at hpacked
  refine Effects.bind_eq_ok.mpr ⟨packed, b, by rw [hpacked]; rfl, ?_⟩
  rw [map_eq_pure_bind]
  exact Effects.bind_eq_ok.mpr ⟨_, b.next, hbuilt, rfl⟩

/-- **Housekeeping reports are built and read.**  Without a NaN among the products, a report of a
structure that fits a packet is built and has the length of its structure.  The ground reads
every parameter, at its last place in the structure, from a field packed of that parameter's
value alone, and a value in range within half a step. -/
theorem buildHkPacket_read {sid cuc : Nat} (hsid : sid < 2 ^ 16) (hcuc : cuc < 2 ^ 32)
    {parameters : List HkParameter} (hfits : hkLength parameters + 10 < 2 ^ 16)
    {params : Dict Nat Value} (hpackable : ∀ p ∈ parameters, HkParameter.Packable p (p.stored params))
    {hkStructures : Dict Nat (List HkParameter)} (hsame : hkStructures.get? sid = some parameters)
    (b : Builder) :
    ∃ pkt b', buildHkPacket sid params (some parameters) cuc b = .ok (some pkt) b' ∧
      pkt.data.length = 2 + hkLength parameters ∧
      ∀ before p after, parameters = before ++ p :: after →
        p.paramId ∉ after.map HkParameter.paramId →
        ∃ decoded field v, processHk hkStructures pkt.data = .ok (.params sid decoded) ∧
          p.pack (p.stored params) = .ok field ∧ p.value (p.packFormat.unpack field) = .ok v ∧
          decoded.get? p.paramId = some v ∧
          ∀ x n, InRange p (p.stored params) x n → ∃ y, v = .float y ∧ WithinStep p x n y := by
  obtain ⟨cells, hparameters, hpacked, hlength, hcells⟩ := pack_cells hpackable
  have hdata : (packU16 sid ++ (cells.map Prod.snd).flatten).length = 2 + hkLength parameters := by
    rw [List.length_append, packU16_length, ← List.flatMap_def, hlength]
  have hshort : (packU16 sid ++ (cells.map Prod.snd).flatten).length + 8 < 2 ^ 16 := by
    rw [hdata]
    omega
  refine ⟨{ apid := b.apid, sequenceCount := b.next.seqCount, service := 3, subtype := 25,
            cuc := cuc, data := packU16 sid ++ (cells.map Prod.snd).flatten }, b.next,
    buildHkPacket_eq_ok hcuc hpacked hshort b, hdata, ?_⟩
  intro before p after hsplit hlast
  obtain ⟨decoded, hdecode, -, hread⟩ :=
    decodeFields_cells (fun cell hcell => (hcells cell hcell).2) .empty
  obtain ⟨cellsBefore, rest, hcut, hbefore, hrest⟩ :=
    List.map_eq_append_iff.mp (hparameters.trans hsplit)
  obtain ⟨cell, cellsAfter, rfl, hcell, hafter⟩ := List.map_eq_cons_iff.mp hrest
  obtain ⟨hpack, -⟩ := hcells cell (by rw [hcut]; simp)
  rw [hcell] at hpack
  have hnot : cell.1.paramId ∉ cellsAfter.map (·.1.paramId) := by
    have hids : cellsAfter.map (·.1.paramId) = after.map HkParameter.paramId := by
      rw [← hafter, List.map_map]
      rfl
    rw [hids, hcell]
    exact hlast
  obtain ⟨v, hv, hget⟩ := hread cellsBefore cell cellsAfter hcut hnot
  rw [hcell] at hv hget
  refine ⟨decoded, cell.2, v, ?_, hpack, hv, hget, ?_⟩
  · have hshort : ¬ (packU16 sid ++ (cells.map Prod.snd).flatten).length < 2 := by
      rw [hdata]
      omega
    have hread : unpackU16 (packU16 sid ++ (cells.map Prod.snd).flatten) = sid := by
      rw [unpackU16_packU16_append, Nat.mod_eq_of_lt hsid]
    have hrest : (packU16 sid ++ (cells.map Prod.snd).flatten).drop 2 = cells.flatMap Prod.snd := by
      rw [List.drop_left' (packU16_length sid), List.flatMap_def]
    rw [hparameters] at hdecode
    unfold processHk
    rw [if_neg hshort, hread, hsame, hrest, hsplit]
    rw [hsplit] at hdecode
    cases before with
    | nil | cons => exact congrArg (HkReport.params sid <$> ·) hdecode
  · intro x n hrange
    obtain ⟨field, y, hpack', -, hy, hwithin⟩ := hrange.read
    obtain rfl : field = cell.2 := Except.ok.inj (hpack'.symm.trans hpack)
    exact ⟨y, Except.ok.inj (hv.symm.trans hy), hwithin⟩

/-- A parameter in tenths, packed in two octets. -/
def tenth : HkParameter := { paramId := 0x100, packFormat := .H, scale := .finite false 10 0 }

/-- The parameter store that holds one value. -/
def storeOf (x : FloatValue) : Dict Nat Value := Dict.empty.set tenth.paramId (.float x)

theorem threeHalves_read :
    ∃ pkt b' decoded y,
      buildHkPacket 1 (storeOf (.finite false 3 (-1))) (some [tenth]) (0 : Nat) { apid := 1 } =
          .ok (some pkt) b' ∧
        processHk (Dict.empty.set 1 [tenth]) pkt.data = .ok (.params 1 decoded) ∧
        decoded.get? tenth.paramId = some (.float y) ∧
        WithinStep tenth (.finite false 3 (-1)) 15 y := by
  have hproduct : (FloatValue.finite false 3 (-1)).mul tenth.scale =
      .finite false 8444249301319680 (-49) := by decide +kernel
  have hpackable : ∀ p ∈ [tenth], HkParameter.Packable p (p.stored (storeOf (.finite false 3 (-1)))) := by
    intro p hp x hx negative payload
    obtain rfl := List.mem_singleton.mp hp
    obtain rfl := Except.ok.inj hx
    rw [hproduct]
    nofun
  have hrange : InRange tenth (tenth.stored (storeOf (.finite false 3 (-1)))) (.finite false 3 (-1)) 15 := by
    refine ⟨by decide +kernel, by decide +kernel, rfl, ?_, by decide⟩
    rw [hproduct]
    decide +kernel
  obtain ⟨pkt, b', hbuilt, -, hread⟩ := buildHkPacket_read (by decide) (Nat.two_pow_pos 32) (by decide)
    hpackable (Dict.get?_set_same Dict.empty 1 [tenth]) { apid := 1 }
  obtain ⟨decoded, field, v, hdecoded, -, -, hget, hwithin⟩ := hread [] tenth [] rfl (by simp)
  obtain ⟨y, rfl, hy⟩ := hwithin _ _ hrange
  exact ⟨pkt, b', decoded, y, hbuilt, hdecoded, hget, hy⟩

/-- The double nearest to 0.15. -/
def fifteenHundredths : FloatValue := .finite false 5404319552844595 (-55)

/-- A NaN in the parameter store, as a telecommand can put it there, stops the report; and
0.15 comes back as 0.2, by the rounding of the product a little more than half a step away. -/
theorem nan_not_packed :
    (∃ b', buildHkPacket 1 (storeOf (.nan false 0)) (some [tenth]) 0 { apid := 1 } =
      .error .valueError b') ∧
    ∃ pkt b' decoded y,
      buildHkPacket 1 (storeOf fifteenHundredths) (some [tenth]) (0 : Nat) { apid := 1 } =
          .ok (some pkt) b' ∧
        processHk (Dict.empty.set 1 [tenth]) pkt.data = .ok (.params 1 decoded) ∧
        decoded.get? tenth.paramId = some (.float y) ∧
        1 / 2 < |y.rat * 10 - fifteenHundredths.rat * 10| := by
  have hpacked : ([tenth].mapM fun p => p.pack (p.stored (storeOf fifteenHundredths))) =
      .ok [[0, 2]] := by decide +kernel
  refine ⟨⟨_, rfl⟩, _, _, _, (FloatValue.finite false 2 0).div (.finite false 10 0),
    buildHkPacket_eq_ok (by decide) hpacked (by decide) _, rfl, ?_, ?_⟩
  · decide +kernel
  · decide +kernel

end TmProcessor
