import MissionSim.Rounding
import MissionSim.Services

/-!
# The report decoders of the mission control system

The tables of the on-board services are reported record by record.  A decoder walks the
records by their count, and stops at one that is cut off.

The results tell what the decoders make of the reports that the dispatcher builds: every
entry of the table, with the fields reduced as the report's fields reduce them.
-/

namespace PusReports

open Octets Binary32 Python Effects TmBuilder TcScheduler Spacecraft List

/-! ### Decoding -/

/-- Read up to `n` records; a record that is cut off ends the walk. -/
def readRecords {α : Type} (read : Bytes → Option (α × Bytes)) : Nat → Bytes → List α
  | 0, _ => []
  | n + 1, data =>
      match read data with
      | none => []
      | some (entry, rest) => entry :: readRecords read n rest

/-- An entry of the schedule report. -/
structure ScheduleEntry where
  id : Nat
  execTimeCuc : Nat
  apid : Nat
  service : Nat
  subtype : Nat
  dataLen : Nat
  dataHex : String
  truncated : Bool
  deriving DecidableEq, Repr

/-- The schedule report. -/
structure ScheduleReport where
  count : Nat
  enabled : Bool
  nextId : Nat
  entries : List ScheduleEntry
  deriving DecidableEq, Repr

/-- An entry of the report of the monitoring definitions. -/
structure MonitorEntry where
  monId : Nat
  paramId : Nat
  checkType : Nat
  enabled : Bool
  lowLimit : FloatValue
  highLimit : FloatValue
  deriving DecidableEq, Repr

/-- An entry of the report of the event-action rules. -/
structure RuleEntry where
  eaId : Nat
  triggerKind : Nat
  triggerKindName : String
  triggerId : Nat
  actionFuncId : Nat
  enabled : Bool
  deriving DecidableEq, Repr

/-- An entry of the store status report; the fill is in tenths of a per cent. -/
structure StoreEntry where
  id : Nat
  count : Nat
  capacity : Nat
  enabled : Bool
  fillTenths : Int
  overflow : Bool
  circular : Bool
  wrapCount : Nat
  name : String
  deriving DecidableEq, Repr

/-- `payload.hex().upper()`. -/
def hexOctets (data : Bytes) : String := String.join (data.map fun octet => hexUpper 2 octet.toNat)

/-- `raw.decode("ascii", errors="replace")`. -/
def decodeAscii (data : Bytes) : String :=
  String.ofList (data.map fun octet =>
    if octet.toNat < 128 then Char.ofNat octet.toNat else Char.ofNat 0xFFFD)

def readMonitor (data : Bytes) : Option (MonitorEntry × Bytes) :=
  if data.length < 14 then none
  else some
    ({ monId := unpackU16 data
       paramId := unpackU16 (data.drop 2)
       checkType := unpackU8 (data.drop 4)
       enabled := unpackU8 (data.drop 5) != 0
       lowLimit := unpackFloat (data.drop 6)
       highLimit := unpackFloat (data.drop 10) }, data.drop 14)

/-- `parse_s12_definitions(data)`. -/
def parseS12Definitions (data : Bytes) : List MonitorEntry :=
  if data.length < 2 then [] else readRecords readMonitor (unpackU16 data) (data.drop 2)

def readRule (data : Bytes) : Option (RuleEntry × Bytes) :=
  if data.length < 7 then none
  else
    let kind := unpackU8 (data.drop 2)
    some
      ({ eaId := unpackU16 data
         triggerKind := kind
         triggerKindName := if kind = triggerKindParam then "param" else "event"
         triggerId := unpackU16 (data.drop 3)
         actionFuncId := unpackU8 (data.drop 5)
         enabled := unpackU8 (data.drop 6) != 0 }, data.drop 7)

/-- `parse_s19_definitions(data)`. -/
def parseS19Definitions (data : Bytes) : List RuleEntry :=
  if data.length < 2 then [] else readRecords readRule (unpackU16 data) (data.drop 2)

def readCommand (data : Bytes) : Option (ScheduleEntry × Bytes) :=
  if data.length < 12 then none
  else
    let dataLen := unpackU8 (data.drop 10)
    let n := unpackU8 (data.drop 11)
    let payload := (data.drop 12).take n
    if payload.length < n then none
    else some
      ({ id := unpackU16 data
         execTimeCuc := unpackU32 (data.drop 2)
         apid := unpackU16 (data.drop 6)
         service := unpackU8 (data.drop 8)
         subtype := unpackU8 (data.drop 9)
         dataLen := dataLen
         dataHex := hexOctets payload
         truncated := decide (n < dataLen) }, (data.drop 12).drop n)

/-- The order of the sort key `(exec_time_cuc, id)`. -/
def timeThenId (time id time' id' : Nat) : Bool :=
  decide (time < time' ∨ time = time' ∧ id ≤ id')

/-- `parse_s11_schedule(data)`. -/
def parseS11Schedule (data : Bytes) : Option ScheduleReport :=
  if data.length < 5 then none
  else some
    { count := unpackU16 data
      enabled := unpackU8 (data.drop 2) != 0
      nextId := unpackU16 (data.drop 3)
      entries := (readRecords readCommand (unpackU16 data) (data.drop 5)).mergeSort fun a b =>
        timeThenId a.execTimeCuc a.id b.execTimeCuc b.id }

def readStore (data : Bytes) : Option (StoreEntry × Bytes) :=
  if data.length < 12 then none
  else
    let flags := unpackU8 (data.drop 8)
    let nameLen := unpackU8 (data.drop 11)
    let rawName := (data.drop 12).take nameLen
    if rawName.length < nameLen then none
    else some
      ({ id := unpackU8 data
         count := unpackU16 (data.drop 1)
         capacity := unpackU16 (data.drop 3)
         enabled := unpackU8 (data.drop 5) != 0
         fillTenths := tenthsOf (quotient (unpackU16 (data.drop 6)) 10)
         overflow := flags &&& 1 != 0
         circular := flags &&& 2 != 0
         wrapCount := unpackU16 (data.drop 9)
         name := decodeAscii rawName }, (data.drop 12).drop nameLen)

/-- `parse_s15_store_status(data)`. -/
def parseS15StoreStatus (data : Bytes) : List StoreEntry :=
  if data.length < 1 then [] else readRecords readStore (unpackU8 data) (data.drop 1)

/-- What is read of every record of a report, its records being read one by one. -/
theorem readRecords_flatten {α β : Type} {read : Bytes → Option (α × Bytes)} {entry : β → α}
    {items : List β} {records : List Bytes}
    (h : List.Forall₂ (fun item bytes => ∀ rest, read (bytes ++ rest) = some (entry item, rest))
      items records) :
    readRecords read items.length records.flatten = items.map entry := by
  induction h with
  | nil => rfl
  | cons hfirst _ ih =>
      rw [flatten_cons, length_cons, readRecords, hfirst]
      exact congrArg (cons _) ih

theorem readRecords_flatMap {α β : Type} {read : Bytes → Option (α × Bytes)} {entry : β → α}
    {record : β → Bytes} {items : List β}
    (h : ∀ item rest, read (record item ++ rest) = some (entry item, rest)) :
    readRecords read items.length (items.flatMap record) = items.map entry := by
  refine readRecords_flatten (forall₂_map_right_iff.mpr ?_)
  exact forall₂_same.mpr fun item _ => h item

/-! ### The records -/

/-- The entry of a rule. -/
def ruleEntry (enabled : List Nat) (item : Nat × EventAction) : RuleEntry where
  eaId := item.1 % 2 ^ 16
  triggerKind := item.2.triggerKind % 2 ^ 8
  triggerKindName := if item.2.triggerKind % 2 ^ 8 = triggerKindParam then "param" else "event"
  triggerId := item.2.eventType % 2 ^ 16
  actionFuncId := item.2.actionFuncId % 2 ^ 8
  enabled := enabled.contains item.1

theorem toNat_ne_zero (b : Bool) : (b.toNat % 2 ^ 8 != 0) = b := by cases b <;> rfl

theorem readRule_record (enabled : List Nat) (item : Nat × EventAction) (rest : Bytes) :
    readRule (ruleRecord enabled item ++ rest) = some (ruleEntry enabled item, rest) := by
  have hlong : ¬ (ruleRecord enabled item ++ rest).length < 7 := by
    simp only [ruleRecord, length_append, packU16_length, packU8_length]
    omega
  rw [readRule, if_neg hlong]
  simp only [ruleRecord, ruleEntry, append_assoc, unpackU16_packU16_append, drop_packU16,
    drop_packU8, drop_zero, unpackU8_packU8_append, toNat_ne_zero]

/-- A value as a single-precision field carries it. -/
def single (x : FloatValue) : FloatValue := (x.toBits.map FloatValue.ofBits).getD x

/-- The entry of a monitoring definition. -/
def monitorEntry (item : Nat × MonitorDefinition) : MonitorEntry where
  monId := item.1 % 2 ^ 16
  paramId := item.2.paramId % 2 ^ 16
  checkType := item.2.checkType % 2 ^ 8
  enabled := item.2.enabled
  lowLimit := single item.2.lowLimit
  highLimit := single item.2.highLimit

/-- What a single-precision field carries has the pattern of the value. -/
theorem toBits_single (x : FloatValue) : (single x).toBits = x.toBits := by
  unfold single
  cases h : x.toBits with
  | none => exact h
  | some bits => exact (toBits_ofBits_toBits h).2

theorem unpackFloat_packFloat {x : FloatValue} {bs : Bytes} (h : packFloat x = .ok bs)
    (rest : Bytes) : bs.length = 4 ∧ unpackFloat (bs ++ rest) = single x ∧
      ∀ k, (bs ++ rest).drop (k + 4) = rest.drop k := by
  unfold packFloat at h
  split at h
  · rename_i bits hbits
    cases h
    refine ⟨packU32_length bits, ?_, fun k => drop_packU32 k bits rest⟩
    rw [unpackFloat, unpackU32_packU32_append, Nat.mod_eq_of_lt (toBits_ofBits_toBits hbits).1,
      single, hbits]
    rfl
  · cases h

theorem readMonitor_record {item : Nat × MonitorDefinition} {bytes : Bytes}
    (h : monitorRecord item = .ok bytes) (rest : Bytes) :
    readMonitor (bytes ++ rest) = some (monitorEntry item, rest) := by
  unfold monitorRecord at h
  cases hlow : packFloat item.2.lowLimit with
  | error e =>
      rw [hlow] at h
      cases h
  | ok low =>
      cases hhigh : packFloat item.2.highLimit with
      | error e =>
          rw [hlow, hhigh] at h
          cases h
      | ok high =>
          rw [hlow, hhigh] at h
          cases h
          obtain ⟨hlowLength, hlowRead, hlowDrop⟩ := unpackFloat_packFloat hlow (high ++ rest)
          obtain ⟨hhighLength, hhighRead, hhighDrop⟩ := unpackFloat_packFloat hhigh rest
          rw [readMonitor, if_neg (by
            simp only [length_append, packU16_length, packU8_length]
            omega)]
          simp only [monitorEntry, append_assoc, unpackU16_packU16_append, drop_packU16,
            drop_packU8, drop_zero, unpackU8_packU8_append, toNat_ne_zero, hlowRead, hlowDrop,
            hhighRead, hhighDrop]

/-- The entry of a scheduled command; the length of its data is reported up to 255. -/
def commandEntry (c : ScheduledCommand) : ScheduleEntry where
  id := c.id % 2 ^ 16
  execTimeCuc := c.execTime % 2 ^ 32
  apid := c.identity.apid % 2 ^ 16
  service := c.identity.service % 2 ^ 8
  subtype := c.identity.subtype % 2 ^ 8
  dataLen := min c.identity.dataLen 255
  dataHex := hexOctets (c.identity.data.take 255)
  truncated := decide ((c.identity.data.take 255).length < min c.identity.dataLen 255)

theorem readCommand_record (c : ScheduledCommand) (rest : Bytes) :
    readCommand (scheduleRecord c ++ rest) = some (commandEntry c, rest) := by
  have hlength : (c.identity.data.take 255).length % 2 ^ 8 = (c.identity.data.take 255).length :=
    Nat.mod_eq_of_lt (lt_of_le_of_lt (length_take_le _ _) (by decide))
  have hdataLen : min c.identity.dataLen 255 % 2 ^ 8 = min c.identity.dataLen 255 :=
    Nat.mod_eq_of_lt (by omega)
  unfold scheduleRecord
  generalize hdetail : c.identity.data.take 255 = detail at hlength
  rw [readCommand, if_neg (by
    simp only [length_append, packU16_length, packU32_length, packU8_length]
    omega)]
  simp only [append_assoc, unpackU16_packU16_append, unpackU32_packU32_append, drop_packU32,
    drop_packU16, drop_packU8, drop_zero, unpackU8_packU8_append, hlength, hdataLen,
    take_left', drop_left', lt_irrefl, if_false, commandEntry, hdetail]

/-! ### The fill of a store -/

theorem round_sign {m : Nat} {e : Int} : (∃ m' e', FloatValue.round false m e = .finite false m' e') ∨
    FloatValue.round false m e = .infinite false := by
  unfold FloatValue.round
  dsimp only
  split_ifs
  · exact .inl ⟨_, _, rfl⟩
  · exact .inr rfl

theorem quotient_sign (n d : Nat) : (∃ m e, quotient n d = .finite false m e) ∨
    quotient n d = .infinite false := by
  have hneg : decide ((n : Int) < 0) = false := decide_eq_false (by omega)
  unfold quotient
  exact round_sign

/-- The fill of a store in tenths of a per cent, as it is rounded on board. -/
def fillTenths (count capacity : Nat) : Int :=
  if 0 < capacity then tenthsOf ((quotient count capacity).mul (floatOf 100)) else 0

theorem fillTenths_nonneg (count capacity : Nat) : ∃ k : Nat, fillTenths count capacity = k := by
  unfold fillTenths
  split_ifs
  · rcases quotient_sign count capacity with ⟨m, e, hq⟩ | hq
    · have hmul : (FloatValue.finite false m e).mul (floatOf 100) =
          FloatValue.round false (m * 100) (e + 0) := rfl
      rw [hq, hmul]
      rcases @round_sign (m * 100) (e + 0) with ⟨m', e', hr⟩ | hr <;> rw [hr]
      · exact ⟨_, rfl⟩
      · exact ⟨0, rfl⟩
    · rw [hq]
      exact ⟨0, rfl⟩
  · exact ⟨0, rfl⟩

/-- Ten times the tenth of a number is close to it. -/
theorem quotient_ten {k : Nat} (hk : k < 2 ^ 49) :
    ∃ m j : Nat, quotient k 10 = .finite false m (-j) ∧ |ratio (m * 10) j - k| ≤ 1 / 16 := by
  obtain ⟨m, j, hq, herror⟩ := @quotient_error k 10 46 (by decide) (by omega) (by decide)
  refine ⟨m, j, hq, ?_⟩
  have hscale : ratio (m * 10) j - k = 10 * (ratio m j - k / (10 : Nat)) := by
    unfold ratio
    push_cast
    ring
  rw [hscale, abs_mul, abs_of_pos (by norm_num : (0 : ℚ) < 10)]
  calc 10 * |ratio m j - k / (10 : Nat)| ≤ 10 * (1 / 2 ^ (54 - 46) + 1 / 2 ^ 64) :=
        mul_le_mul_of_nonneg_left herror (by norm_num)
    _ ≤ 1 / 16 := by norm_num

/-- Rounding a tenth to tenths gives the number back. -/
theorem tenthsOf_quotient {k : Nat} (hk : k < 2 ^ 49) : tenthsOf (quotient k 10) = k := by
  obtain ⟨m, j, hq, hclose⟩ := quotient_ten hk
  rw [hq]
  exact nearest_eq_of_close (hclose.trans (by norm_num))

/-- A tenth, scaled by ten and rounded, gives the number back. -/
theorem roundInt_tenfold {k : Nat} (hk : k < 2 ^ 49) :
    roundInt ((quotient k 10).mul (floatOf 10)) = .ok k := by
  obtain ⟨m, j, hq, hclose⟩ := quotient_ten hk
  have hvalue : ratio (m * 10) j < 2 ^ 50 := by
    have habove := (abs_le.mp hclose).2
    have hbound : (k : ℚ) ≤ 2 ^ 49 := by exact_mod_cast hk.le
    linarith
  have hm : m * 10 < 2 ^ (j + 50) := by
    unfold ratio at hvalue
    rw [div_lt_iff₀ (by positivity), ← pow_add, Nat.add_comm] at hvalue
    exact_mod_cast hvalue
  obtain ⟨m', j', hround, herror⟩ := round_error hm (by decide)
  have hmul : (FloatValue.finite false m (-j)).mul (floatOf 10) =
      FloatValue.round false (m * 10) (-j + 0) := rfl
  rw [hq, hmul, add_zero, hround]
  refine congrArg Except.ok (nearest_eq_of_close ?_)
  calc |ratio m' j' - k| ≤ |ratio m' j' - ratio (m * 10) j| + |ratio (m * 10) j - k| :=
        abs_sub_le _ _ _
    _ ≤ 1 / 2 ^ (54 - 50) + 1 / 16 := add_le_add herror hclose
    _ ≤ 1 / 4 := by norm_num

/-- A large number stays large. -/
theorem roundInt_tenfold_large {k : Nat} {n : Int} (hk : 2 ^ 49 ≤ k)
    (h : roundInt ((quotient k 10).mul (floatOf 10)) = .ok n) : 2 ^ 48 ≤ n := by
  rcases quotient_sign k 10 with ⟨m, e, hq⟩ | hq
  · have hmul : (FloatValue.finite false m e).mul (floatOf 10) =
        FloatValue.round false (m * 10) (e + 0) := rfl
    rw [hq, hmul, add_zero] at h
    have htenth : (2 : ℚ) ^ 45 ≤ m * 2 ^ e := by
      have hneg : decide ((k : Int) < 0) = false := decide_eq_false (by omega)
      unfold quotient at hq
      rw [hneg, Int.natAbs_natCast] at hq
      refine le_round ?_ hq
      have hshift : (64 + bitLength 10) = 68 := by decide
      rw [hshift]
      have hlow : 2 ^ 114 ≤ 2 * (k * 2 ^ 68 / 10) := by omega
      have hlow' : (2 : ℚ) ^ 114 ≤ (2 * (k * 2 ^ 68 / 10) +
          if k * 2 ^ 68 % 10 = 0 then 0 else 1 : Nat) := by
        exact_mod_cast hlow.trans (Nat.le_add_right _ _)
      have hexp : (2 : ℚ) ^ 45 = 2 ^ 114 * 2 ^ (-((68 : Nat) : Int) - 1) := by norm_num
      rw [hexp]
      exact mul_le_mul_of_nonneg_right hlow' (zpow_nonneg (by norm_num) _)
    have hten : (2 : ℚ) ^ 48 ≤ (m * 10 : Nat) * 2 ^ e := by
      have hscale : ((m * 10 : Nat) : ℚ) * 2 ^ e = 10 * (m * 2 ^ e) := by
        push_cast
        ring
      linarith [show (2 : ℚ) ^ 48 = 8 * 2 ^ 45 by norm_num, show (0 : ℚ) ≤ 2 ^ 45 by norm_num]
    rcases @round_sign (m * 10) e with ⟨m', e', hr⟩ | hr
    · rw [hr] at h
      cases h
      have hlarge := @le_roundAt m' 48 e' 0 (le_round hten hr) (.inl (by decide))
      rw [zpow_zero, mul_one] at hlarge
      show (2 ^ 48 : Int) ≤ ((roundAt 0 m' e' : Nat) : Int)
      exact_mod_cast hlarge
    · rw [hr] at h
      cases h
  · rw [hq] at h
    cases h

/-- The field of the fill holds the tenths, up to the greatest number it can hold. -/
theorem fillField_eq {count capacity fill : Nat} (h : fillField count capacity = .ok fill) :
    (fill : Int) = min (fillTenths count capacity) 0xFFFF := by
  by_cases hcapacity : 0 < capacity
  · obtain ⟨k, hk⟩ := fillTenths_nonneg count capacity
    have htenths : tenthsOf ((quotient count capacity).mul (floatOf 100)) = k := by
      rw [fillTenths, if_pos hcapacity] at hk
      exact hk
    unfold fillField at h
    rw [if_pos hcapacity, htenths] at h
    dsimp only at h
    cases hround : roundInt ((quotient k 10).mul (floatOf 10)) with
    | error e =>
        rw [hround] at h
        cases h
    | ok n =>
        rw [hround] at h
        have hfield : min n.toNat 0xFFFF = fill := Except.ok.inj h
        by_cases hsmall : k < 2 ^ 49
        · obtain rfl : (k : Int) = n := Except.ok.inj ((roundInt_tenfold hsmall).symm.trans hround)
          omega
        · have hlarge := roundInt_tenfold_large (not_lt.mp hsmall) hround
          omega
  · have hzero : roundInt ((floatOf 0).mul (floatOf 10)) = .ok 0 := by decide +kernel
    unfold fillField at h
    rw [if_neg hcapacity] at h
    dsimp only at h
    rw [hzero] at h
    cases h
    rw [fillTenths, if_neg hcapacity]
    rfl

/-- The first characters of a name, with a mark for those that are not ASCII. -/
def asciiName (name : String) : String :=
  String.ofList ((name.toList.take 32).map fun c => if c.toNat < 128 then c else '?')

/-- The entry of a store. -/
def storeEntry (item : Nat × TmStorage.Store TmPacket) : StoreEntry where
  id := item.1 % 2 ^ 8
  count := item.2.packets.length % 2 ^ 16
  capacity := item.2.capacity % 2 ^ 16
  enabled := item.2.enabled
  fillTenths := min (fillTenths item.2.packets.length item.2.capacity) 0xFFFF
  overflow := item.2.overflow
  circular := item.2.circular
  wrapCount := item.2.wrapCount % 2 ^ 16
  name := asciiName item.2.name

theorem decodeAscii_encodeName (name : String) :
    (encodeName name).length < 2 ^ 8 ∧ decodeAscii (encodeName name) = asciiName name := by
  unfold encodeName decodeAscii asciiName
  constructor
  · rw [length_map]
    exact lt_of_le_of_lt (length_take_le _ _) (by decide)
  · rw [map_map]
    refine congrArg String.ofList (map_congr_left fun c _ => ?_)
    by_cases hascii : c.toNat < 128
    · have hsame : c.toNat % 256 = c.toNat := Nat.mod_eq_of_lt (by omega)
      simp [hascii, hsame]
    · simp [hascii]

theorem flags_eq (overflow circular : Bool) :
    (((overflow.toNat ||| circular.toNat <<< 1) % 2 ^ 8) &&& 1 != 0) = overflow ∧
      (((overflow.toNat ||| circular.toNat <<< 1) % 2 ^ 8) &&& 2 != 0) = circular := by
  cases overflow <;> cases circular <;> decide

theorem readStore_record {item : Nat × TmStorage.Store TmPacket} {bytes : Bytes}
    (h : storeRecord item = .ok bytes) (rest : Bytes) :
    readStore (bytes ++ rest) = some (storeEntry item, rest) := by
  unfold storeRecord at h
  cases hfill : fillField item.2.packets.length item.2.capacity with
  | error e =>
      dsimp only at h
      rw [hfill] at h
      cases h
  | ok fill =>
      dsimp only at h
      rw [hfill] at h
      cases h
      obtain ⟨hname, hdecoded⟩ := decodeAscii_encodeName item.2.name
      obtain ⟨hoverflow, hcircular⟩ := flags_eq item.2.overflow item.2.circular
      have htenths := fillField_eq hfill
      have hfillMod : fill % 2 ^ 16 = fill := Nat.mod_eq_of_lt (by omega)
      have hread : tenthsOf (quotient fill 10) = fill := tenthsOf_quotient (by omega)
      rw [readStore, if_neg (by
        simp only [length_append, packU16_length, packU8_length]
        omega)]
      simp only [storeEntry, append_assoc, unpackU16_packU16_append, drop_packU16, drop_packU8,
        drop_zero, unpackU8_packU8_append, toNat_ne_zero, Nat.mod_eq_of_lt hname,
        take_left', drop_left', lt_irrefl, if_false, hdecoded, hoverflow, hcircular,
        hfillMod, hread, ← htenths]

/-! ### The reports -/

section Reports

variable {M : Type}

/-- The body of TM(11,18). -/
def scheduleReport (e : Engine M) : Except PyError Bytes := do
  let count ← packUnsigned 2 e.tcScheduler.listCommands.length
  pure (count ++ packU8 e.tcScheduler.enabled.toNat ++ packU16 e.tcScheduler.nextId ++
    e.tcScheduler.listCommands.flatMap scheduleRecord)

/-- The body of TM(12,13). -/
def monitorReport (e : Engine M) : Except PyError Bytes := do
  let count ← packUnsigned 2 e.dispatcher.s12Definitions.size
  let records ← e.dispatcher.s12Definitions.items.mapM monitorRecord
  pure (count ++ records.flatten)

/-- The stores in the order of their status report. -/
def statusOrder (e : Engine M) : List (Nat × TmStorage.Store TmPacket) :=
  e.downlink.storage.items.mergeSort fun a b => a.1 ≤ b.1

/-- The body of TM(15,14). -/
def storeReport (e : Engine M) : Except PyError Bytes := do
  let count ← packUnsigned 1 (statusOrder e).length
  let records ← (statusOrder e).mapM storeRecord
  pure (count ++ records.flatten)

/-- The body of TM(19,128). -/
def ruleReport (e : Engine M) : Except PyError Bytes := do
  let count ← packUnsigned 2 e.dispatcher.s19Definitions.size
  pure (count ++ e.dispatcher.s19Definitions.items.flatMap (ruleRecord e.dispatcher.s19EnabledIds))

/-- A request whose report fits one packet is answered by that packet, and what is decoded of
it is `expected`. -/
def Decoded {α : Type} (request : Program M (List TmPacket)) (e : Engine M)
    (report : Except PyError Bytes) (parse : Bytes → α) (expected : α) : Prop :=
  ∀ body, report = .ok body → body.length + 8 < 2 ^ 16 →
    ∃ pkt e', request e = .ok [pkt] e' ∧ pkt.data = body ∧ parse pkt.data = expected

theorem packUnsigned_range {octets n : Nat} {field : Bytes} (h : packUnsigned octets n = .ok field) :
    n < 2 ^ (8 * octets) := by
  unfold packUnsigned at h
  split_ifs at h with hrange
  exact_mod_cast hrange.2

theorem packTm_data (service subtype : Nat) {data : Bytes} (h : data.length + 8 < 2 ^ 16)
    (b : Builder) :
    wp (packTm service subtype data) (fun pkt _ => pkt.data = data) (fun _ _ => False) b := by
  unfold packTm
  simp only [wp_bind, wp_fromExcept, wp_modify, wp_get, if_pos h, wp_pure, implies_true, true_and]
  intro error herror
  simp [packUnsigned] at herror

/-- The packet of a report that fits. -/
theorem report_packet {service subtype : Nat} {body : Bytes} (e : Engine M)
    (h : body.length + 8 < 2 ^ 16) :
    ∃ pkt e', report service subtype body 0 e = .ok [pkt] e' ∧ pkt.data = body := by
  have hwp : wp (report service subtype body) (fun pkts _ => ∃ pkt, pkts = [pkt] ∧ pkt.data = body)
      (fun _ _ => False) e := by
    unfold report building
    rw [wp_map, wp_zoom]
    exact wp_mono (packTm_data service subtype h e.tmBuilder) (fun pkt _ hdata => ⟨pkt, rfl, hdata⟩)
      fun _ _ => False.elim
  unfold wp at hwp
  cases hrun : report service subtype body 0 e with
  | ok pkts e' =>
      rw [hrun] at hwp
      obtain ⟨pkt, rfl, hdata⟩ := hwp
      exact ⟨pkt, e', rfl, hdata⟩
  | error error e' =>
      rw [hrun] at hwp
      exact hwp.elim

variable {e : Engine M}

/-- A handler that packs a report and sends it answers as `Decoded` says. -/
theorem decoded_of_report {α : Type} {request : Program M (List TmPacket)}
    {packed : Except PyError Bytes} {service subtype : Nat} {parse : Bytes → α} {expected : α}
    (hrequest : request e = (fromExcept packed >>= fun body => report service subtype body) e)
    (hparse : ∀ body, packed = .ok body → parse body = expected) :
    Decoded request e packed parse expected := by
  intro body hbody hfits
  obtain ⟨pkt, e', hsent, hdata⟩ := @report_packet M service subtype body e hfits
  refine ⟨pkt, e', ?_, hdata, hdata ▸ hparse body hbody⟩
  rw [hrequest, hbody]
  exact hsent

theorem parseS11Schedule_report {body : Bytes} (h : scheduleReport e = .ok body) :
    parseS11Schedule body = some
      { count := e.tcScheduler.listCommands.length
        enabled := e.tcScheduler.enabled
        nextId := e.tcScheduler.nextId % 2 ^ 16
        entries := (e.tcScheduler.listCommands.map commandEntry).mergeSort fun a b =>
          timeThenId a.execTimeCuc a.id b.execTimeCuc b.id } := by
  unfold scheduleReport at h
  cases hcount : packUnsigned 2 e.tcScheduler.listCommands.length with
  | error error =>
      rw [hcount] at h
      cases h
  | ok count =>
      have hrange := packUnsigned_range hcount
      obtain rfl := Except.ok.inj ((packUnsigned_two hrange).symm.trans hcount)
      rw [hcount] at h
      cases h
      rw [parseS11Schedule, if_neg (by
        simp only [length_append, packU16_length, packU8_length]
        omega)]
      simp only [append_assoc, unpackU16_packU16_append, drop_packU16, drop_packU8,
        drop_zero, unpackU8_packU8_append, toNat_ne_zero, Nat.mod_eq_of_lt hrange,
        readRecords_flatMap readCommand_record]

theorem parseS12Definitions_report {body : Bytes} (h : monitorReport e = .ok body) :
    parseS12Definitions body = e.dispatcher.s12Definitions.items.map monitorEntry := by
  unfold monitorReport at h
  cases hcount : packUnsigned 2 e.dispatcher.s12Definitions.size with
  | error error =>
      rw [hcount] at h
      cases h
  | ok count =>
      have hrange := packUnsigned_range hcount
      obtain rfl := Except.ok.inj ((packUnsigned_two hrange).symm.trans hcount)
      cases hrecords : e.dispatcher.s12Definitions.items.mapM monitorRecord with
      | error error =>
          rw [hcount, hrecords] at h
          cases h
      | ok records =>
          rw [hcount, hrecords] at h
          cases h
          have hread := (mapM_eq_ok_iff.mp hrecords).imp fun item bytes hbytes rest =>
            readMonitor_record hbytes rest
          rw [parseS12Definitions, if_neg (by rw [length_append, packU16_length]; omega)]
          simp only [unpackU16_packU16_append,
            Nat.mod_eq_of_lt hrange]
          exact readRecords_flatten hread

theorem parseS15StoreStatus_report {body : Bytes} (h : storeReport e = .ok body) :
    parseS15StoreStatus body = (statusOrder e).map storeEntry := by
  unfold storeReport at h
  cases hcount : packUnsigned 1 (statusOrder e).length with
  | error error =>
      rw [hcount] at h
      cases h
  | ok count =>
      have hrange := packUnsigned_range hcount
      obtain rfl := Except.ok.inj ((packUnsigned_one hrange).symm.trans hcount)
      cases hrecords : (statusOrder e).mapM storeRecord with
      | error error =>
          rw [hcount, hrecords] at h
          cases h
      | ok records =>
          rw [hcount, hrecords] at h
          cases h
          have hread := (mapM_eq_ok_iff.mp hrecords).imp fun item bytes hbytes rest =>
            readStore_record hbytes rest
          rw [parseS15StoreStatus, if_neg (by simp)]
          simp only [unpackU8_packU8_append,
            Nat.mod_eq_of_lt hrange]
          exact readRecords_flatten hread

theorem parseS19Definitions_report {body : Bytes} (h : ruleReport e = .ok body) :
    parseS19Definitions body =
      e.dispatcher.s19Definitions.items.map (ruleEntry e.dispatcher.s19EnabledIds) := by
  unfold ruleReport at h
  cases hcount : packUnsigned 2 e.dispatcher.s19Definitions.size with
  | error error =>
      rw [hcount] at h
      cases h
  | ok count =>
      have hrange := packUnsigned_range hcount
      obtain rfl := Except.ok.inj ((packUnsigned_two hrange).symm.trans hcount)
      rw [hcount] at h
      cases h
      rw [parseS19Definitions, if_neg (by rw [length_append, packU16_length]; omega)]
      simp only [unpackU16_packU16_append, Nat.mod_eq_of_lt hrange]
      exact readRecords_flatMap (readRule_record _)

/-! ### The handlers -/

section Handlers

-- unfolding the range check of a field would count down from its bound
attribute [local irreducible] packUnsigned

theorem handleS11_report (e : Engine M) (data : Bytes) :
    handleS11 17 data e =
      (fromExcept (scheduleReport e) >>= fun body => report 11 18 body) e := by
  unfold handleS11 scheduleReport
  simp only [Nat.reduceEqDiff, false_and, if_false, if_true]
  rw [get_bind]
  cases packUnsigned 2 e.tcScheduler.listCommands.length <;> rfl

theorem handleS12_report (e : Engine M) (data : Bytes) :
    handleS12 12 data e =
      (fromExcept (monitorReport e) >>= fun body => report 12 13 body) e := by
  unfold handleS12 monitorReport
  simp only [Nat.reduceEqDiff, false_and, or_self, if_false, if_true]
  rw [get_bind]
  cases packUnsigned 2 e.dispatcher.s12Definitions.size with
  | error error => rfl
  | ok count => cases e.dispatcher.s12Definitions.items.mapM monitorRecord <;> rfl

theorem handleS15_report (e : Engine M) (data : Bytes) :
    handleS15 13 data e =
      (fromExcept (storeReport e) >>= fun body => report 15 14 body) e := by
  unfold handleS15 storeReport statusOrder
  simp only [Nat.reduceEqDiff, false_and, if_false, if_true]
  rw [get_bind]
  cases packUnsigned 1 (e.downlink.storage.items.mergeSort fun a b => a.1 ≤ b.1).length with
  | error error => rfl
  | ok count =>
      cases (e.downlink.storage.items.mergeSort fun a b => a.1 ≤ b.1).mapM storeRecord <;> rfl

theorem handleS19_report (e : Engine M) (data : Bytes) :
    handleS19 8 data e =
      (fromExcept (ruleReport e) >>= fun body => report 19 128 body) e := by
  unfold handleS19 ruleReport
  simp only [Nat.reduceEqDiff, false_and, if_false, if_true]
  rw [get_bind]
  cases packUnsigned 2 e.dispatcher.s19Definitions.size <;> rfl

end Handlers

/-- **The reports and their decoders.**  What the decoders make of the reports on the tables is
every entry of the table, with its numbers reduced to the width of their fields: the commands
in the order of their times and, at one time, of their numbers; the limits of the monitors
with their single-precision patterns; the stores in the order of their numbers. -/
theorem reports_decoded (e : Engine M) (data : Bytes) :
    Decoded (handleS11 17 data) e (scheduleReport e) parseS11Schedule (some
      { count := e.tcScheduler.listCommands.length
        enabled := e.tcScheduler.enabled
        nextId := e.tcScheduler.nextId % 2 ^ 16
        entries := (e.tcScheduler.listCommands.map commandEntry).mergeSort fun a b =>
          timeThenId a.execTimeCuc a.id b.execTimeCuc b.id }) ∧
    Decoded (handleS12 12 data) e (monitorReport e) parseS12Definitions
      (e.dispatcher.s12Definitions.items.map monitorEntry) ∧
    (∀ item : Nat × MonitorDefinition,
      (monitorEntry item).lowLimit.toBits = item.2.lowLimit.toBits ∧
        (monitorEntry item).highLimit.toBits = item.2.highLimit.toBits) ∧
    Decoded (handleS15 13 data) e (storeReport e) parseS15StoreStatus
      ((statusOrder e).map storeEntry) ∧
    Decoded (handleS19 8 data) e (ruleReport e) parseS19Definitions
      (e.dispatcher.s19Definitions.items.map (ruleEntry e.dispatcher.s19EnabledIds)) :=
  ⟨decoded_of_report (handleS11_report e data) fun _ => parseS11Schedule_report,
    decoded_of_report (handleS12_report e data) fun _ => parseS12Definitions_report,
    fun item => ⟨toBits_single item.2.lowLimit, toBits_single item.2.highLimit⟩,
    decoded_of_report (handleS15_report e data) fun _ => parseS15StoreStatus_report,
    decoded_of_report (handleS19_report e data) fun _ => parseS19Definitions_report⟩

end Reports

/-- An engine with one monitoring definition. -/
def oneMonitor : Engine PlainModels :=
  finalState (handleS12 6 (packU16 7 ++ packU16 0x0100 ++ packU8 1 ++ [0, 0, 0, 0] ++
    [0x3F, 0x80, 0, 0])) plainEngine

theorem reports_decoded_one :
    ∃ body pkt e', monitorReport oneMonitor = .ok body ∧
      handleS12 12 [] oneMonitor = .ok [pkt] e' ∧ pkt.data = body ∧
      parseS12Definitions pkt.data = oneMonitor.dispatcher.s12Definitions.items.map monitorEntry := by
  have hbody : monitorReport oneMonitor = .ok ([0, 1] ++ packU16 7 ++ packU16 0x0100 ++ packU8 1 ++
      packU8 1 ++ [0, 0, 0, 0] ++ [0x3F, 0x80, 0, 0]) := by decide +kernel
  obtain ⟨pkt, e', hsent⟩ := (reports_decoded oneMonitor []).2.1 _ hbody (by decide)
  exact ⟨_, pkt, e', hbody, hsent⟩

/-- An engine with a scheduled telecommand of three hundred octets of data. -/
def longSchedule : Engine PlainModels :=
  finalState (handleS11 4 (packU32 100 ++ packU16 0x1864 ++ packU16 0xC000 ++ packU16 304 ++
    [0x20, 8, 1] ++ List.replicate 300 0 ++ [0, 0])) plainEngine

/-- The length of the data is reported as 255, which is not the length in the width of its
field either. -/
theorem data_length_saturates :
    ((value? (handleS11 17 []) longSchedule).bind fun pkts =>
        pkts.head?.bind fun pkt => parseS11Schedule pkt.data).map
      (fun report => report.entries.map ScheduleEntry.dataLen) = some [255] ∧
    (longSchedule.tcScheduler.listCommands.map fun c => c.identity.dataLen) = [300] ∧
    300 % 2 ^ 8 ≠ 255 := by
  decide +kernel

end PusReports
