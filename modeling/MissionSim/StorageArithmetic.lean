import MissionSim.SegmentStore

/-!
# The arithmetic of the store

The total memory shrinks with every bad segment, also below the memory that is used.  Captures look
at what is left, so they are safe.  A tick in imaging mode cuts the used memory down to the total and
divides by it; the deletion of a scene divides by it too, and does not cap the percentage.

The fill percentage is in range, no data is lost and nothing is divided by zero in every run without
such ticks and deletions, and without a deletion of a negative number of images.
-/

namespace Payload

open Python Effects PayloadState

/-! ### Safe arithmetic -/

/-- `ZeroDivisionError`. -/
def zeroDivision : PyError := .other "float division by zero"

/-- A program divides by zero. -/
def Divides {α : Type} (x : PayloadProgram α) (s : PayloadState) : Prop :=
  ∃ s', x s = .error zeroDivision s'

/-- An event divides by zero. -/
def DividesByZero (s : PayloadState) : PayloadEvent → Prop
  | .command cmd => Divides (handleCommand cmd) s
  | .inject failure => Divides (injectFailure failure) s
  | .clear failure => Divides (clearFailure failure) s
  | .device deviceId onOff => Divides (setDeviceState deviceId onOff) s
  | .tick found => Divides (tick found) s
  | .restore => False

/-- The events that delete images. -/
def PayloadEvent.deletes : PayloadEvent → Bool
  | .command (.deleteImage _ _) => true
  | .command _ | .inject _ | .clear _ | .device _ _ | .tick _ | .restore => false

/-- The fill percentage is one. -/
def PayloadState.PctInRange (s : PayloadState) : Prop := 0 ≤ s.storeUsedPct ∧ s.storeUsedPct ≤ 100

/-- An event divides by nothing that is zero, leaves the percentage in range, and loses no data. -/
structure SafeArithmetic (s : PayloadState) (event : PayloadEvent) : Prop where
  divides : ¬ DividesByZero s event
  pct : (step s event).PctInRange
  kept : event.deletes = false → s.memUsedMb ≤ (step s event).memUsedMb

/-- The data of a tick. -/
def Surroundings.dataMb (found : Surroundings) : ℚ := found.dataRateMbps / 8 * found.dt

/-- **What breaks the arithmetic.**  Data is generated with no good segment, with more used than
there is, or less than none; a scene is deleted with no good segment, or what stays used is more than
there is; or so many images less than none are deleted that the percentage passes its limit. -/
inductive Overcommits (s : PayloadState) : PayloadEvent → Prop
  | imaging {found} (himaging : (s.prepare found).Imaging)
      (hbad : s.memTotalMb = 0 ∨ s.memTotalMb < s.memUsedMb ∨ found.dataMb < 0) :
      Overcommits s (.tick found)
  | scene {scene id image} (count) (hid : scene.toInt = .ok id)
      (himage : (s.imageCatalog.find? fun image => image.sceneId = id) = some image)
      (hbad : s.memTotalMb = 0 ∨ s.memTotalMb < max 0 (s.memUsedMb - image.sizeMb)) :
      Overcommits s (.command (.deleteImage (some scene) count))
  | oldest {sceneId count n} (hscene : sceneId = none ∨ sceneId = some .none)
      (hcount : intArg count 1 = .ok n)
      (hbad : 100 < s.storeUsedPct - s.imageSizeMb * n / s.totalStorageMb * 100) :
      Overcommits s (.command (.deleteImage sceneId count))

/-! ### The layout of the store -/

/-- Segments have a size; the bad ones are segments, and the total is that of the good ones. -/
structure Laid (s : PayloadState) : Prop where
  storage : 0 < s.totalStorageMb
  segment : 0 < s.segmentSizeMb
  nodup : s.badSegments.Nodup
  bad_lt : ∀ n ∈ s.badSegments, n < s.numSegments
  total : s.memTotalMb = ((s.numSegments : ℚ) - s.badSegments.length) * s.segmentSizeMb

variable {s : PayloadState}

theorem Laid.total_nonneg (h : Laid s) : 0 ≤ s.memTotalMb := by
  have hsub : s.badSegments ⊆ List.range s.numSegments :=
    fun n hn => List.mem_range.mpr (h.bad_lt n hn)
  have hlength := (h.nodup.subperm hsub).length_le
  rw [List.length_range] at hlength
  have hcast : (s.badSegments.length : ℚ) ≤ s.numSegments := Nat.cast_le.mpr hlength
  rw [h.total]
  exact mul_nonneg (sub_nonneg.mpr hcast) h.segment.le

theorem Laid.of_same {s s' : PayloadState} (h : Laid s)
    (hstorage : s'.totalStorageMb = s.totalStorageMb) (hsize : s'.segmentSizeMb = s.segmentSizeMb)
    (hsegments : s'.numSegments = s.numSegments) (hbad : s'.badSegments = s.badSegments)
    (htotal : s'.memTotalMb = s.memTotalMb) : Laid s' := by
  constructor
  · rw [hstorage]
    exact h.storage
  · rw [hsize]
    exact h.segment
  · rw [hbad]
    exact h.nodup
  · rw [hbad, hsegments]
    exact h.bad_lt
  · rw [htotal, hsegments, hbad, hsize]
    exact h.total

/-- A configured store is laid out. -/
theorem configured_laid {config : PayloadConfig} (h : configure config = .ok s) : Laid s := by
  obtain ⟨segmentSize, hsize, hs⟩ := Python.bind_eq_ok.mp h
  cases hs
  unfold quotient at hsize
  split at hsize
  · cases hsize
  · rename_i hsome
    cases hsize
    have hpos : (0 : ℚ) < config.numMemorySegments :=
      lt_of_le_of_ne (Nat.cast_nonneg _) (Ne.symm hsome)
    constructor
    · exact config.totalStorageMb_pos
    · exact div_pos config.totalStorageMb_pos hpos
    · exact List.nodup_nil
    · intro n hn
      cases hn
    · show config.totalStorageMb = ((config.numMemorySegments : ℚ) - (0 : Nat)) *
        (config.totalStorageMb / config.numMemorySegments)
      rw [Nat.cast_zero, sub_zero, mul_div_cancel₀ _ hsome]

theorem failSegment_laid (segment : Int) (h : Laid s) : Laid (s.failSegment segment) := by
  unfold failSegment
  split
  · rename_i hgood
    refine ⟨h.storage, h.segment, ?_, ?_, rfl⟩
    · rw [← List.concat_eq_append]
      exact h.nodup.concat hgood.2
    · intro n hn
      rcases List.mem_append.mp hn with hold | hnew
      · exact h.bad_lt n hold
      · rw [List.mem_singleton.mp hnew]
        show segment.toNat < s.numSegments
        omega
  · exact h

theorem mendSegment_laid (segment : Int) (h : Laid s) : Laid (s.mendSegment segment) := by
  unfold mendSegment
  split
  · refine ⟨h.storage, h.segment, h.nodup.erase _, ?_, rfl⟩
    intro n hn
    exact h.bad_lt n (List.mem_of_mem_erase hn)
  · refine ⟨h.storage, h.segment, List.nodup_nil, ?_, rfl⟩
    intro n hn
    cases hn

/-! ### What leaves the arithmetic alone -/

/-- The books of the store are left alone, and it stays laid out. -/
structure Steady (s s' : PayloadState) : Prop where
  pct : s'.storeUsedPct = s.storeUsedPct
  used : s'.memUsedMb = s.memUsedMb
  laid : Laid s → Laid s'

instance : Std.Refl Steady := ⟨fun _ => ⟨rfl, rfl, id⟩⟩

instance : IsTrans PayloadState Steady where
  trans _ _ _ h h' := ⟨h'.pct.trans h.pct, h'.used.trans h.used, h'.laid ∘ h.laid⟩

/-- A state that differs in nothing that the store is laid out by. -/
theorem Steady.of_same {s s' : PayloadState} (hpct : s'.storeUsedPct = s.storeUsedPct)
    (hused : s'.memUsedMb = s.memUsedMb) (hstorage : s'.totalStorageMb = s.totalStorageMb)
    (hsize : s'.segmentSizeMb = s.segmentSizeMb) (hsegments : s'.numSegments = s.numSegments)
    (hbad : s'.badSegments = s.badSegments) (htotal : s'.memTotalMb = s.memTotalMb) :
    Steady s s' :=
  ⟨hpct, hused, fun h => h.of_same hstorage hsize hsegments hbad htotal⟩

theorem failSegment_steady (segment : Int) (s : PayloadState) :
    Steady s (s.failSegment segment) := by
  refine ⟨?_, ?_, failSegment_laid segment⟩
  · unfold failSegment
    split <;> rfl
  · unfold failSegment
    split <;> rfl

theorem mendSegment_steady (segment : Int) (s : PayloadState) :
    Steady s (s.mendSegment segment) := by
  refine ⟨?_, ?_, mendSegment_laid segment⟩
  · unfold mendSegment
    split <;> rfl
  · unfold mendSegment
    split <;> rfl

/-- A program that leaves the arithmetic alone and divides by nothing. -/
def Calm {α : Type} (x : PayloadProgram α) : Prop :=
  ∀ s, wp x (fun _ s' => Steady s s') (fun e s' => e ≠ zeroDivision ∧ Steady s s') s

section Calm

variable {α β : Type}

theorem calm_pure (a : α) : Calm (pure a) := fun s => refl_of Steady s

theorem calm_modify {f : PayloadState → PayloadState} (h : ∀ s, Steady s (f s)) :
    Calm (modify f) := h

theorem calm_bind {x : PayloadProgram β} {f : β → PayloadProgram α} (hx : Calm x)
    (hf : ∀ b, Calm (f b)) : Calm (x >>= f) := by
  intro s
  rw [wp_bind]
  refine wp_mono (hx s) (fun b mid hmid => ?_) fun _ _ he => he
  refine wp_mono (hf b mid) (fun _ _ hs' => trans_of Steady hmid hs') ?_
  intro e s' he
  exact ⟨he.1, trans_of Steady hmid he.2⟩

/-- A change and a reply. -/
theorem calm_change {f : PayloadState → PayloadState} {a : α} (h : ∀ s, Steady s (f s)) :
    Calm (do modify f; pure a) := calm_bind (calm_modify h) fun _ => calm_pure a

theorem calm_get : Calm (get : PayloadProgram PayloadState) := fun s => refl_of Steady s

theorem calm_ite {c : Prop} [Decidable c] {x y : PayloadProgram α} (hx : Calm x) (hy : Calm y) :
    Calm (if c then x else y) := by
  intro s
  rw [wp_ite]
  exact ⟨fun _ => hx s, fun _ => hy s⟩

theorem calm_fromExcept {x : Except PyError α} (h : x ≠ .error zeroDivision) :
    Calm (fromExcept x) := by
  intro s
  rw [wp_fromExcept]
  refine ⟨fun _ _ => refl_of Steady s, fun e he => ⟨?_, refl_of Steady s⟩⟩
  intro hzero
  exact h (by rw [he, hzero])

theorem calm_store {x : Except PyError α} {put : α → PayloadState → PayloadState}
    (h : x ≠ .error zeroDivision) (hput : ∀ a s, Steady s (put a s)) : Calm (store x put) :=
  calm_bind (calm_fromExcept h) fun a => calm_modify (hput a)

end Calm

/-- A conversion divides by nothing. -/
theorem toInt_ne_zeroDivision (v : Value) : v.toInt ≠ .error zeroDivision := by
  unfold Value.toInt
  split <;> exact nofun

theorem intArg_ne_zeroDivision (arg : Option Value) (default : Int) :
    intArg arg default ≠ .error zeroDivision := toInt_ne_zeroDivision _

theorem settings_calm {cmd : PayloadCommand} (h : Settings cmd) : Calm (handleCommand cmd) := by
  cases h with
  | setMode | setBandConfig =>
      apply calm_bind (calm_fromExcept (intArg_ne_zeroDivision _ _))
      intro m
      apply calm_ite
      · exact calm_change fun _ => .of_same rfl rfl rfl rfl rfl rfl rfl
      · exact calm_pure _
  | setScene sceneId =>
      apply calm_bind (calm_fromExcept (intArg_ne_zeroDivision _ _))
      intro scene
      exact calm_change fun _ => .of_same rfl rfl rfl rfl rfl rfl rfl
  | markBadSegment segment =>
      apply calm_bind (calm_fromExcept (intArg_ne_zeroDivision _ _))
      intro n
      apply calm_bind calm_get
      intro s
      apply calm_ite
      · exact calm_change (failSegment_steady n)
      · exact calm_pure _
  | setCompression algorithm ratio =>
      apply calm_bind calm_get
      intro s
      apply calm_bind (calm_fromExcept (intArg_ne_zeroDivision _ _))
      intro algo
      apply calm_ite (calm_pure _)
      apply calm_ite (calm_pure _)
      exact calm_change fun _ => .of_same rfl rfl rfl rfl rfl rfl rfl
  | other => exact calm_pure _

theorem injectFailure_calm (failure : PayloadFailure) : Calm (injectFailure failure) := by
  cases failure with
  | coolerFailure | fpaDegraded
  | ccdLineDropout => exact calm_modify fun _ => .of_same rfl rfl rfl rfl rfl rfl rfl
  | imageCorrupt count =>
      exact calm_store (intArg_ne_zeroDivision _ _) fun _ _ => .of_same rfl rfl rfl rfl rfl rfl rfl
  | memorySegmentFail segment => exact calm_store (intArg_ne_zeroDivision _ _) failSegment_steady
  | other => exact calm_pure _

theorem clearFailure_calm (failure : PayloadFailure) : Calm (clearFailure failure) := by
  cases failure with
  | coolerFailure | fpaDegraded | imageCorrupt
  | ccdLineDropout => exact calm_modify fun _ => .of_same rfl rfl rfl rfl rfl rfl rfl
  | memorySegmentFail segment => exact calm_store (intArg_ne_zeroDivision _ _) mendSegment_steady
  | other => exact calm_pure _

theorem setDeviceState_calm (deviceId : Nat) (onOff : Bool) :
    Calm (setDeviceState deviceId onOff) := by
  apply calm_bind calm_get
  intro s
  apply calm_ite
  · exact calm_change fun _ => .of_same rfl rfl rfl rfl rfl rfl rfl
  · exact calm_pure _

variable (found : Surroundings)

theorem prepare_steady (s : PayloadState) : Steady s (s.prepare found) := by
  obtain ⟨mode, ready, timer, hprepare⟩ := prepare_eq found s
  rw [hprepare]
  exact .of_same rfl rfl rfl rfl rfl rfl rfl

theorem follow_steady (s : PayloadState) : Steady s (s.follow found) := by
  obtain ⟨mid, seen, mode, err, stab, remaining, worst, quality, images, -, rfl, hfollow⟩ :=
    follow_eq found s
  rw [hfollow]
  exact .of_same rfl rfl rfl rfl rfl rfl rfl

/-! ### Ticks -/

variable {E : PyError → PayloadState → Prop}

/-- The fill percentage is updated, or a division by zero is raised. -/
theorem wp_updateStorePct_iff {bound : ℚ → ℚ} {Q : PUnit → PayloadState → Prop} :
    wp (updateStorePct bound) Q E s ↔
      (s.memTotalMb ≠ 0 →
        Q ⟨⟩ { s with storeUsedPct := bound (s.memUsedMb / s.memTotalMb * 100) }) ∧
      (s.memTotalMb = 0 → E zeroDivision s) := by
  unfold updateStorePct quotient
  rw [wp_bind, wp_get, wp_store]
  by_cases hzero : s.memTotalMb = 0
  · simp [hzero, zeroDivision]
  · simp [hzero]

/-- The memory with the data of a tick. -/
def PayloadState.filled (found : Surroundings) (s : PayloadState) : PayloadState :=
  { s with memUsedMb := min s.memTotalMb (s.memUsedMb + found.dataMb) }

/-- What a tick that generates data does with the memory. -/
def PayloadState.generated (found : Surroundings) (s : PayloadState) : PayloadState :=
  { s.filled found with
    storeUsedPct := min 100 ((s.filled found).memUsedMb / s.memTotalMb * 100)
    checksumErrors := if found.checksumFails then s.checksumErrors + 1 else s.checksumErrors }

theorem wp_tick_iff {found : Surroundings} {Q : PUnit → PayloadState → Prop} :
    wp (tick found) Q E s ↔
      ((s.prepare found).Imaging → (s.prepare found).memTotalMb ≠ 0 →
        Q ⟨⟩ (((s.prepare found).generated found).follow found)) ∧
      ((s.prepare found).Imaging → (s.prepare found).memTotalMb = 0 →
        E zeroDivision ((s.prepare found).filled found)) ∧
      (¬ (s.prepare found).Imaging → Q ⟨⟩ ((s.prepare found).follow found)) := by
  unfold tick generate
  rw [wp_bind, wp_modify, wp_bind, wp_bind, wp_get, wp_when]
  constructor
  · rintro ⟨himaging, hidle⟩
    refine ⟨fun h hgood => ?_, fun h hbad => ?_, fun h => hidle h⟩
    · have hrun := himaging h
      rw [wp_bind, wp_modify, wp_bind, wp_updateStorePct_iff] at hrun
      exact hrun.1 hgood
    · have hrun := himaging h
      rw [wp_bind, wp_modify, wp_bind, wp_updateStorePct_iff] at hrun
      exact hrun.2 hbad
  · rintro ⟨hgood, hbad, hidle⟩
    refine ⟨fun h => ?_, fun h => hidle h⟩
    rw [wp_bind, wp_modify, wp_bind, wp_updateStorePct_iff]
    exact ⟨hgood h, hbad h⟩

theorem prepare_total (s : PayloadState) : (s.prepare found).memTotalMb = s.memTotalMb := by
  obtain ⟨mode, ready, timer, hprepare⟩ := prepare_eq found s
  rw [hprepare]

/-- The percentage is in range, and the used memory is not negative. -/
structure InRange (s : PayloadState) : Prop where
  used : 0 ≤ s.memUsedMb
  pct : s.PctInRange

/-- How a program ends that divides by nothing that is zero. -/
theorem ends_of_wp {α : Type} {x : PayloadProgram α} {P : PayloadState → Prop}
    (h : wp x (fun _ s' => P s') (fun e s' => e ≠ zeroDivision ∧ P s') s) :
    ¬ Divides x s ∧ P (finalState x s) := by
  constructor
  · rintro ⟨s', hs'⟩
    exact ((wp_of_error hs').mp h).1 rfl
  · exact wp_state.mp (wp_mono h (fun _ _ hs' => hs') fun _ _ hs' => hs'.2)

/-- A program that ends in no other way than by dividing by zero. -/
theorem divides_of_wp {α : Type} {x : PayloadProgram α}
    (h : wp x (fun _ _ => False) (fun e _ => e = zeroDivision) s) : Divides x s := by
  unfold wp at h
  cases hrun : x s with
  | ok a s' =>
      rw [hrun] at h
      exact h.elim
  | error e s' =>
      rw [hrun] at h
      exact ⟨s', by rw [hrun, h]⟩

/-- A calm program is safe. -/
theorem Calm.ends {α : Type} {x : PayloadProgram α} (h : Calm x) (s : PayloadState) :
    ¬ Divides x s ∧ Steady s (finalState x s) := ends_of_wp (h s)

theorem Steady.safe {s s' : PayloadState} (h : Steady s s') (hin : InRange s) :
    s'.PctInRange ∧ s.memUsedMb ≤ s'.memUsedMb := by
  refine ⟨?_, h.used.ge⟩
  unfold PayloadState.PctInRange
  rw [h.pct]
  exact hin.pct

/-- A percentage of what is there. -/
theorem pct_of_le {used total : ℚ} (hused : 0 ≤ used) (hle : used ≤ total) (htotal : total ≠ 0) :
    0 ≤ used / total * 100 ∧ used / total * 100 ≤ 100 := by
  have hpos : 0 < total := lt_of_le_of_ne (hused.trans hle) (Ne.symm htotal)
  have hshare : used / total ≤ 1 := (div_le_one hpos).mpr hle
  constructor
  · positivity
  · linarith

theorem tick_safe_iff {found : Surroundings} (hin : InRange s) :
    SafeArithmetic s (.tick found) ↔ ¬ Overcommits s (.tick found) := by
  have hprepared := prepare_steady found s
  have htotal := prepare_total found s
  constructor
  · rintro hsafe (⟨himaging, hbad⟩)
    by_cases hzero : s.memTotalMb = 0
    · refine hsafe.divides (divides_of_wp (wp_tick_iff.mpr ?_))
      rw [htotal]
      exact ⟨fun _ hgood => hgood hzero, fun _ _ => rfl, fun hidle => hidle himaging⟩
    · have hless : (step s (.tick found)).memUsedMb < s.memUsedMb := by
        refine (wp_state (P := fun s' => s'.memUsedMb < s.memUsedMb)).mp (wp_tick_iff.mpr ?_)
        refine ⟨fun _ _ => ?_, fun _ hbad => absurd (htotal ▸ hbad) hzero,
          fun hidle => absurd himaging hidle⟩
        rw [(follow_steady found _).used]
        show min (s.prepare found).memTotalMb ((s.prepare found).memUsedMb + found.dataMb) < _
        rw [htotal, hprepared.used]
        rcases hbad with hbad | hbad | hbad
        · exact absurd hbad hzero
        · exact lt_of_le_of_lt (min_le_left _ _) hbad
        · refine lt_of_le_of_lt (min_le_right _ _) ?_
          linarith
      exact absurd (hsafe.kept rfl) (not_le.mpr hless)
  · intro hnot
    have hends : ¬ Divides (tick found) s ∧ (finalState (tick found) s).PctInRange ∧
        s.memUsedMb ≤ (finalState (tick found) s).memUsedMb := by
      refine ends_of_wp (P := fun s' => s'.PctInRange ∧ s.memUsedMb ≤ s'.memUsedMb)
        (wp_tick_iff.mpr ⟨fun himaging hgood => ?_, fun himaging hbad => ?_, fun _ => ?_⟩)
      · have hroom : s.memUsedMb ≤ s.memTotalMb := by
          by_contra hover
          exact hnot (.imaging himaging (.inr (.inl (not_le.mp hover))))
        have hdata : 0 ≤ found.dataMb := by
          by_contra hless
          exact hnot (.imaging himaging (.inr (.inr (not_le.mp hless))))
        have hused : s.memUsedMb ≤ min s.memTotalMb (s.memUsedMb + found.dataMb) :=
          le_min hroom (by linarith)
        have hpct := pct_of_le (hin.used.trans hused) (min_le_left _ _) (htotal ▸ hgood)
        have hfollow := follow_steady found ((s.prepare found).generated found)
        unfold PayloadState.PctInRange
        rw [hfollow.pct, hfollow.used]
        show (0 ≤ min 100 (min (s.prepare found).memTotalMb
            ((s.prepare found).memUsedMb + found.dataMb) / (s.prepare found).memTotalMb * 100) ∧
          min 100 (min (s.prepare found).memTotalMb
            ((s.prepare found).memUsedMb + found.dataMb) / (s.prepare found).memTotalMb * 100) ≤
              100) ∧ s.memUsedMb ≤ min (s.prepare found).memTotalMb
            ((s.prepare found).memUsedMb + found.dataMb)
        rw [htotal, hprepared.used]
        exact ⟨⟨le_min (by norm_num) hpct.1, min_le_left _ _⟩, hused⟩
      · exact absurd (.imaging himaging (.inl (htotal ▸ hbad))) hnot
      · exact (trans_of Steady hprepared (follow_steady found _)).safe hin
    exact ⟨hends.1, hends.2.1, fun _ => hends.2.2⟩

/-! ### Captures -/

section Checks

variable {α β : Type}

/-- Checks that divide by nothing that is zero. -/
def Spared (x : Except CaptureStop α) : Prop := x ≠ .error (.raised zeroDivision)

theorem spared_bind {x : Except CaptureStop β} {f : β → Except CaptureStop α} (hx : Spared x)
    (hf : ∀ b, Spared (f b)) : Spared (x >>= f) := by
  cases x with
  | error stop => exact fun h => hx (congrArg Except.error (Except.error.inj h))
  | ok b => exact hf b

theorem spared_require {c : Prop} [Decidable c] {why : CaptureRefusal} :
    Spared (require c why) := by
  unfold require
  split
  · exact nofun
  · exact nofun

theorem spared_computed {x : Except PyError α} (h : x ≠ .error zeroDivision) :
    Spared (computed x) := by
  cases x with
  | ok a => exact nofun
  | error e =>
      intro hraised
      exact h (congrArg Except.error (CaptureStop.raised.inj (Except.error.inj hraised)))

theorem spared_orZero (arg : Option Value) : Spared (computed (orZero arg)) := by
  apply spared_computed
  unfold orZero
  dsimp only
  split
  · exact toInt_ne_zeroDivision _
  · exact nofun

end Checks

/-- The compression ratio is not zero, so the checks of a capture divide by nothing that is. -/
theorem checkCapture_spared (hs : Sound s) (cmd : CaptureCommand) :
    Spared (s.checkCapture cmd) := by
  apply spared_bind spared_require
  intro _
  apply spared_bind spared_require
  intro _
  apply spared_bind
  · unfold checkPointing
    split
    · exact spared_bind spared_require fun _ => spared_bind spared_require fun _ => spared_require
    · exact nofun
  intro _
  apply spared_bind
  · exact spared_bind (spared_orZero _) fun _ => spared_bind spared_require fun _ => nofun
  intro reqScene
  apply spared_bind
  · exact spared_bind (spared_orZero _) fun _ => spared_bind spared_require fun _ => nofun
  intro lines
  apply spared_bind
  · apply spared_computed
    unfold storedSize quotient
    rw [if_neg hs.ratio.ne']
    split <;> exact nofun
  intro storedSize
  apply spared_bind spared_require
  split
  · exact nofun
  · exact nofun

/-- What a capture leaves of the store: the image is counted in, and the layout stays. -/
theorem capture_ends (cmd : CaptureCommand) (draw : ℚ) (hl : Laid s) (hs : Sound s)
    (hin : InRange s) :
    ¬ Divides (capture cmd draw) s ∧ (finalState (capture cmd draw) s).PctInRange ∧
      s.memUsedMb ≤ (finalState (capture cmd draw) s).memUsedMb := by
  refine ends_of_wp (P := fun s' => s'.PctInRange ∧ s.memUsedMb ≤ s'.memUsedMb) ?_
  unfold capture
  rw [wp_bind, wp_get]
  cases hcheck : s.checkCapture cmd with
  | error stop =>
      cases stop with
      | raised e =>
          refine ⟨?_, hin.pct, le_refl _⟩
          intro hzero
          exact checkCapture_spared hs cmd (by rw [hcheck, hzero])
      | refused why => exact ⟨hin.pct, le_refl _⟩
  | ok shot =>
      have hpos := shot_pos hs hcheck
      have hroom := (checkCapture_shot hcheck).room
      -- an image takes space, so there is some left
      have hfits : s.memUsedMb + shot.storedSize ≤ s.memTotalMb := by
        unfold availableStorageMb at hroom
        rw [← hl.total] at hroom
        rcases le_max_iff.mp hroom with hnone | hspace
        · linarith
        · linarith
      have hused : 0 ≤ s.memUsedMb + shot.storedSize := by
        have hold := hin.used
        linarith
      have htotal : s.memTotalMb ≠ 0 := by
        have hold := hin.used
        linarith
      have hpct := pct_of_le hused hfits htotal
      have hcount : (s.countCorrupt.file shot (s.image shot draw)).memTotalMb = s.memTotalMb ∧
          (s.countCorrupt.file shot (s.image shot draw)).memUsedMb =
            s.memUsedMb + shot.storedSize := by
        unfold countCorrupt
        split
        · exact ⟨rfl, rfl⟩
        · exact ⟨rfl, rfl⟩
      unfold expose
      rw [wp_bind, wp_get, wp_bind, wp_modify, wp_bind, wp_modify, wp_bind, wp_updateStorePct_iff,
        hcount.1, hcount.2]
      refine ⟨fun _ => ?_, fun hzero => absurd hzero htotal⟩
      refine ⟨⟨le_min (by norm_num) hpct.1, min_le_left _ _⟩, ?_⟩
      linarith

/-! ### Deletions -/

theorem wp_deleteScene_iff {scene : Value} {Q : Reply → PayloadState → Prop} {id : Int}
    {image : ImageMetadata} (hid : scene.toInt = .ok id)
    (himage : (s.imageCatalog.find? fun image => image.sceneId = id) = some image) :
    wp (deleteScene scene) Q E s ↔
      (s.memTotalMb ≠ 0 → Q .done { (s.freed image).deleted id with
        storeUsedPct := max 0 ((s.freed image).memUsedMb / s.memTotalMb * 100) }) ∧
      (s.memTotalMb = 0 → E zeroDivision (s.freed image)) := by
  unfold deleteScene
  rw [hid]
  simp only [wp_bind, wp_fromExcept, Except.ok.injEq, forall_eq', reduceCtorEq, false_implies,
    implies_true, and_true, wp_get, himage, wp_updateStorePct_iff]
  rfl

/-- A deletion that finds no scene divides by nothing and changes nothing. -/
theorem deleteScene_missing {scene : Value} {s : PayloadState}
    (h : ∀ id image, scene.toInt = .ok id →
      (s.imageCatalog.find? fun image => image.sceneId = id) ≠ some image) :
    wp (deleteScene scene) (fun _ s' => s' = s) (fun e s' => e ≠ zeroDivision ∧ s' = s) s := by
  unfold deleteScene
  rw [wp_bind, wp_fromExcept]
  refine ⟨fun id hid => ?_, fun e he => ⟨?_, rfl⟩⟩
  · have hnone : (s.imageCatalog.find? fun image => image.sceneId = id) = none :=
      Option.eq_none_iff_forall_ne_some.mpr fun image => h id image hid
    rw [wp_bind, wp_get, hnone]
    rfl
  · intro hzero
    exact toInt_ne_zeroDivision scene (by rw [he, hzero])

/-- A deletion that leaves more than there is room for puts the percentage above 100. -/
theorem deleteScene_over {scene : Value} {id : Int} {image : ImageMetadata}
    (hid : scene.toInt = .ok id)
    (himage : (s.imageCatalog.find? fun image => image.sceneId = id) = some image)
    (htotal : 0 < s.memTotalMb) (hover : s.memTotalMb < (s.freed image).memUsedMb) :
    100 < (finalState (deleteScene scene) s).storeUsedPct := by
  refine (wp_state (P := fun s' : PayloadState => 100 < s'.storeUsedPct)).mp ?_
  refine (wp_deleteScene_iff hid himage).mpr ⟨fun _ => ?_, fun hzero => absurd hzero htotal.ne'⟩
  refine lt_max_of_lt_right ?_
  have hshare : 1 < (s.freed image).memUsedMb / s.memTotalMb := (one_lt_div htotal).mpr hover
  linarith

/-- A deletion is safe where what is left of the scene fits, and where there is no scene. -/
theorem deleteScene_ends {scene : Value} {s : PayloadState} (hin : InRange s)
    (hfits : ∀ id image, scene.toInt = .ok id →
      (s.imageCatalog.find? fun image => image.sceneId = id) = some image →
      s.memTotalMb ≠ 0 ∧ (s.freed image).memUsedMb ≤ s.memTotalMb) :
    ¬ Divides (deleteScene scene) s ∧ (finalState (deleteScene scene) s).PctInRange := by
  apply ends_of_wp
  by_cases hfound : ∃ id image, scene.toInt = .ok id ∧
      (s.imageCatalog.find? fun image => image.sceneId = id) = some image
  · obtain ⟨id, image, hid, himage⟩ := hfound
    obtain ⟨hgood, hle⟩ := hfits id image hid himage
    have hpct := pct_of_le (le_max_left 0 (s.memUsedMb - image.sizeMb)) hle hgood
    refine (wp_deleteScene_iff hid himage).mpr ⟨fun _ => ?_, fun hzero => absurd hzero hgood⟩
    exact ⟨le_max_left _ _, max_le (by norm_num) hpct.2⟩
  · refine wp_mono (deleteScene_missing ?_) (fun _ s' hs' => ?_) fun _ s' hs' => ⟨hs'.1, ?_⟩
    · intro id image hid himage
      exact hfound ⟨id, image, hid, himage⟩
    · rw [hs']
      exact hin.pct
    · rw [hs'.2]
      exact hin.pct

theorem deleteScene_safe_iff {scene : Value} (hscene : scene ≠ .none) (count : Option Value)
    (hl : Laid s) (hin : InRange s) :
    SafeArithmetic s (.command (.deleteImage (some scene) count)) ↔
      ¬ Overcommits s (.command (.deleteImage (some scene) count)) := by
  have hstep := step_deleteScene hscene count s
  have hdivides : DividesByZero s (.command (.deleteImage (some scene) count)) ↔
      Divides (deleteScene scene) s := by
    cases scene with
    | none => exact absurd rfl hscene
    | int | float | other => rfl
  constructor
  · intro hsafe hover
    cases hover with
    | scene _ hid himage hbad =>
        by_cases hzero : s.memTotalMb = 0
        · refine hsafe.divides (hdivides.mpr (divides_of_wp ?_))
          exact (wp_deleteScene_iff hid himage).mpr ⟨fun hgood => hgood hzero, fun _ => rfl⟩
        · have htotal : 0 < s.memTotalMb := lt_of_le_of_ne hl.total_nonneg (Ne.symm hzero)
          have hpct := hsafe.pct
          rw [hstep] at hpct
          have hmore := deleteScene_over hid himage htotal (hbad.resolve_left hzero)
          exact absurd hpct.2 (not_le.mpr hmore)
    | oldest hnone _ _ =>
        rcases hnone with hnone | hnone
        · cases hnone
        · exact hscene (Option.some.inj hnone)
  · intro hnot
    have hends : ¬ Divides (deleteScene scene) s ∧
        (finalState (deleteScene scene) s).PctInRange := by
      apply deleteScene_ends hin
      intro id image hid himage
      constructor
      · intro hzero
        exact hnot (.scene count hid himage (.inl hzero))
      · by_contra hover
        exact hnot (.scene count hid himage (.inr (not_le.mp hover)))
    refine ⟨fun hzero => hends.1 (hdivides.mp hzero), ?_, nofun⟩
    rw [hstep]
    exact hends.2

theorem dropOldest_pct (s : PayloadState) : s.dropOldest.storeUsedPct = s.storeUsedPct := by
  unfold dropOldest
  split <;> rfl

theorem dropOldest_iterate_pct (n : Nat) (s : PayloadState) :
    (dropOldest^[n] s).storeUsedPct = s.storeUsedPct := by
  induction n generalizing s with
  | zero => rfl
  | succ n ih => rw [Function.iterate_succ_apply, ih, dropOldest_pct]

/-- The percentage that the deletion of the oldest leaves. -/
theorem wp_deleteOldest_iff {count : Option Value} {P : PayloadState → Prop} (hl : Laid s)
    (hP : ∀ {s s' : PayloadState}, s'.storeUsedPct = s.storeUsedPct → (P s' ↔ P s)) :
    wp (deleteOldest count) (fun _ s' => P s') E s ↔
      (∀ n, intArg count 1 = .ok n → P { s with
        storeUsedPct := max 0 (s.storeUsedPct - s.imageSizeMb * n / s.totalStorageMb * 100) }) ∧
      ∀ e, intArg count 1 = .error e → E e s := by
  have hquotient : ∀ n : Int, quotient (s.imageSizeMb * n) s.totalStorageMb =
      .ok (s.imageSizeMb * n / s.totalStorageMb) := fun n => if_neg hl.storage.ne'
  unfold deleteOldest
  rw [wp_bind, wp_fromExcept]
  refine and_congr (forall_congr' fun n => imp_congr_right fun _ => ?_) Iff.rfl
  rw [wp_bind, wp_get, wp_bind, wp_store, hquotient n]
  simp only [Except.ok.injEq, forall_eq', reduceCtorEq, false_implies, implies_true, and_true]
  exact hP (dropOldest_iterate_pct _ _)

/-- The percentage of a deletion by a number of images that is too high. -/
theorem deleteOldest_over {count : Option Value} {n : Int} (hl : Laid s)
    (hcount : intArg count 1 = .ok n)
    (hover : 100 < s.storeUsedPct - s.imageSizeMb * n / s.totalStorageMb * 100) :
    100 < (finalState (deleteOldest count) s).storeUsedPct := by
  refine (wp_state (P := fun s' : PayloadState => 100 < s'.storeUsedPct)).mp ?_
  refine (wp_deleteOldest_iff hl fun hsame => by rw [hsame]).mpr ⟨fun m hm => ?_, ?_⟩
  · obtain rfl := Except.ok.inj (hcount.symm.trans hm)
    exact lt_max_of_lt_right hover
  · intro e he
    cases hcount.symm.trans he

theorem deleteOldest_ends {count : Option Value} {s : PayloadState} (hl : Laid s) (hin : InRange s)
    (hfits : ∀ n : Int, intArg count 1 = .ok n →
      s.storeUsedPct - s.imageSizeMb * n / s.totalStorageMb * 100 ≤ 100) :
    ¬ Divides (deleteOldest count) s ∧ (finalState (deleteOldest count) s).PctInRange := by
  apply ends_of_wp
  refine (wp_deleteOldest_iff hl fun hsame => ?_).mpr ⟨fun n hn => ?_, fun e he => ⟨?_, hin.pct⟩⟩
  · unfold PayloadState.PctInRange
    rw [hsame]
  · exact ⟨le_max_left _ _, max_le (by norm_num) (hfits n hn)⟩
  · intro hzero
    exact intArg_ne_zeroDivision count 1 (by rw [he, hzero])

theorem deleteOldest_safe_iff {sceneId count : Option Value}
    (hscene : sceneId = none ∨ sceneId = some .none) (hl : Laid s) (hin : InRange s) :
    SafeArithmetic s (.command (.deleteImage sceneId count)) ↔
      ¬ Overcommits s (.command (.deleteImage sceneId count)) := by
  have hprogram : handleCommand (.deleteImage sceneId count) = deleteOldest count := by
    rcases hscene with rfl | rfl
    · rfl
    · rfl
  have hstep : step s (.command (.deleteImage sceneId count)) =
      finalState (deleteOldest count) s := congrArg (finalState · s) hprogram
  constructor
  · intro hsafe hover
    cases hover with
    | scene _ hid _ _ =>
        rcases hscene with hnone | hnone
        · cases hnone
        · cases hnone
          cases hid
    | oldest _ hcount hbad =>
        have hpct := hsafe.pct
        rw [hstep] at hpct
        exact absurd hpct.2 (not_le.mpr (deleteOldest_over hl hcount hbad))
  · intro hnot
    have hends : ¬ Divides (deleteOldest count) s ∧
        (finalState (deleteOldest count) s).PctInRange := by
      apply deleteOldest_ends hl hin
      intro n hn
      by_contra hover
      exact hnot (.oldest hscene hn (not_le.mp hover))
    refine ⟨?_, ?_, nofun⟩
    · show ¬ Divides (handleCommand (.deleteImage sceneId count)) s
      rw [hprogram]
      exact hends.1
    · rw [hstep]
      exact hends.2

/-! ### Steps -/

/-- The layout stays, and what is used does not fall below nothing. -/
structure Stays (s s' : PayloadState) : Prop where
  laid : Laid s → Laid s'
  used : 0 ≤ s.memUsedMb → 0 ≤ s'.memUsedMb

instance : Std.Refl Stays := ⟨fun _ => ⟨id, id⟩⟩

instance : IsTrans PayloadState Stays where
  trans _ _ _ h h' := ⟨h'.laid ∘ h.laid, h'.used ∘ h.used⟩

theorem updateStorePct_stays (bound : ℚ → ℚ) : Keeps Stays (updateStorePct bound) := by
  apply keeps_bind keeps_get
  intro s
  exact keeps_store fun _ _ => ⟨fun h => h.of_same rfl rfl rfl rfl rfl, id⟩

theorem deleteScene_stays (scene : Value) : Keeps Stays (deleteScene scene) := by
  apply keeps_bind (keeps_fromExcept _)
  intro id
  apply keeps_bind keeps_get
  intro s
  split
  · exact keeps_pure _
  · apply keeps_bind
    · apply keeps_modify
      intro s
      exact ⟨fun h => h.of_same rfl rfl rfl rfl rfl, fun _ => le_max_left _ _⟩
    · intro _
      apply keeps_bind (updateStorePct_stays _)
      intro _
      refine keeps_bind (keeps_modify fun s => ?_) fun _ => keeps_pure _
      exact ⟨fun h => h.of_same rfl rfl rfl rfl rfl, fun h => h⟩

theorem dropOldest_stays (s : PayloadState) : Stays s s.dropOldest := by
  unfold dropOldest
  split
  · exact refl_of Stays s
  · exact ⟨fun h => h.of_same rfl rfl rfl rfl rfl, fun _ => le_max_left _ _⟩

theorem deleteOldest_stays (count : Option Value) : Keeps Stays (deleteOldest count) := by
  apply keeps_bind (keeps_fromExcept _)
  intro cnt
  apply keeps_bind keeps_get
  intro s
  apply keeps_bind
  · exact keeps_store fun _ _ => ⟨fun h => h.of_same rfl rfl rfl rfl rfl, id⟩
  · intro _
    apply keeps_bind
    · exact keeps_modify fun _ => ⟨fun h => h.of_same rfl rfl rfl rfl rfl, id⟩
    · intro _
      refine keeps_bind (keeps_modify fun s => ?_) fun _ => keeps_pure _
      generalize min cnt.toNat _ = n
      induction n generalizing s with
      | zero => exact refl_of Stays s
      | succ n ih =>
          exact trans_of Stays (dropOldest_stays s) (ih _)

/-- What a deletion leaves, with a scene or without. -/
theorem deleteImage_stays (sceneId count : Option Value) :
    Keeps Stays (handleCommand (.deleteImage sceneId count)) := by
  cases sceneId with
  | none => exact deleteOldest_stays count
  | some scene =>
      cases scene with
      | none => exact deleteOldest_stays count
      | int | float | other => exact deleteScene_stays _

theorem capture_laid (cmd : CaptureCommand) (draw : ℚ) (hl : Laid s) :
    Laid (finalState (capture cmd draw) s) := by
  cases hcheck : s.checkCapture cmd with
  | error stop =>
      rw [capture_stopped hcheck]
      exact hl
  | ok shot =>
      have hfiled : Laid (s.countCorrupt.file shot (s.image shot draw)) := by
        unfold countCorrupt
        split
        · exact hl.of_same rfl rfl rfl rfl rfl
        · exact hl.of_same rfl rfl rfl rfl rfl
      refine wp_state.mp ?_
      unfold capture
      rw [wp_bind, wp_get, hcheck]
      unfold expose
      rw [wp_bind, wp_get, wp_bind, wp_modify, wp_bind, wp_modify, wp_bind, wp_updateStorePct_iff]
      refine ⟨fun _ => ?_, fun _ => hfiled⟩
      exact hfiled.of_same rfl rfl rfl rfl rfl

theorem tick_laid (hl : Laid s) : Laid (finalState (tick found) s) := by
  have hprepared := (prepare_steady found s).laid hl
  refine wp_state.mp (wp_tick_iff.mpr ⟨fun _ _ => ?_, fun _ _ => ?_, fun _ => ?_⟩)
  · exact (follow_steady found _).laid (hprepared.of_same rfl rfl rfl rfl rfl)
  · exact hprepared.of_same rfl rfl rfl rfl rfl
  · exact (follow_steady found _).laid hprepared

/-- An event leaves the arithmetic alone, or captures, deletes or is a tick. -/
theorem calm_or_counts (s : PayloadState) (event : PayloadEvent) :
    (¬ DividesByZero s event ∧ Steady s (step s event) ∧ ¬ Overcommits s event) ∨
      (∃ cmd draw, event = .command (.capture cmd draw)) ∨
      (∃ sceneId count, event = .command (.deleteImage sceneId count)) ∨
      ∃ found, event = .tick found := by
  cases event with
  | command cmd =>
      have hsettings (h : Settings cmd) : ¬ DividesByZero s (.command cmd) ∧
          Steady s (step s (.command cmd)) ∧ ¬ Overcommits s (.command cmd) := by
        obtain ⟨hdivides, hsteady⟩ := (settings_calm h).ends s
        refine ⟨hdivides, hsteady, ?_⟩
        rintro (_ | _ | _) <;> cases h
      cases cmd with
      | setMode | setScene | markBadSegment | setBandConfig | setCompression
      | other => exact .inl (hsettings (by constructor))
      | capture cmd draw => exact .inr (.inl ⟨cmd, draw, rfl⟩)
      | deleteImage sceneId count => exact .inr (.inr (.inl ⟨sceneId, count, rfl⟩))
  | inject failure =>
      obtain ⟨hdivides, hsteady⟩ := (injectFailure_calm failure).ends s
      exact .inl ⟨hdivides, hsteady, nofun⟩
  | clear failure =>
      obtain ⟨hdivides, hsteady⟩ := (clearFailure_calm failure).ends s
      exact .inl ⟨hdivides, hsteady, nofun⟩
  | device deviceId onOff =>
      obtain ⟨hdivides, hsteady⟩ := (setDeviceState_calm deviceId onOff).ends s
      exact .inl ⟨hdivides, hsteady, nofun⟩
  | tick found => exact .inr (.inr (.inr ⟨found, rfl⟩))
  | restore => exact .inl ⟨id, .of_same rfl rfl rfl rfl rfl rfl rfl, nofun⟩

/-- **An event is safe** exactly when it is none of those that break the arithmetic. -/
theorem step_safe_iff (hl : Laid s) (hs : Sound s) (hin : InRange s) (event : PayloadEvent) :
    SafeArithmetic s event ↔ ¬ Overcommits s event := by
  rcases calm_or_counts s event with
    ⟨hdivides, hsteady, hnot⟩ | ⟨cmd, draw, rfl⟩ | ⟨sceneId, count, rfl⟩ | ⟨found, rfl⟩
  · obtain ⟨hpct, hkept⟩ := hsteady.safe hin
    exact iff_of_true ⟨hdivides, hpct, fun _ => hkept⟩ hnot
  · obtain ⟨hdivides, hpct, hkept⟩ := capture_ends cmd draw hl hs hin
    exact iff_of_true ⟨hdivides, hpct, fun _ => hkept⟩ nofun
  · cases sceneId with
    | none => exact deleteOldest_safe_iff (.inl rfl) hl hin
    | some scene =>
        by_cases hscene : scene = .none
        · exact deleteOldest_safe_iff (.inr (congrArg some hscene)) hl hin
        · exact deleteScene_safe_iff hscene count hl hin
  · exact tick_safe_iff hin

theorem step_laid (hl : Laid s) (event : PayloadEvent) : Laid (step s event) := by
  rcases calm_or_counts s event with
    ⟨-, hsteady, -⟩ | ⟨cmd, draw, rfl⟩ | ⟨sceneId, count, rfl⟩ | ⟨found, rfl⟩
  · exact hsteady.laid hl
  · exact capture_laid cmd draw hl
  · exact ((deleteImage_stays sceneId count).final s).laid hl
  · exact tick_laid found hl

/-- A safe event leaves the books in range. -/
theorem SafeArithmetic.inRange {s : PayloadState} {event : PayloadEvent}
    (h : SafeArithmetic s event) (hin : InRange s) : InRange (step s event) := by
  refine ⟨?_, h.pct⟩
  cases hdeletes : event.deletes with
  | false => exact hin.used.trans (h.kept hdeletes)
  | true =>
      cases event with
      | command cmd =>
          cases cmd with
          | deleteImage sceneId count => exact ((deleteImage_stays sceneId count).final s).used hin.used
          | _ => cases hdeletes
      | _ => cases hdeletes

/-! ### Runs -/

/-- Every event of a run is safe. -/
def StorageSafe (s : PayloadState) (events : List PayloadEvent) : Prop :=
  ∀ i event, events[i]? = some event → SafeArithmetic (Runs.after step s (events.take i)) event

theorem configured_inRange {config : PayloadConfig} (h : configure config = .ok s) : InRange s := by
  obtain ⟨segmentSize, -, hs⟩ := Python.bind_eq_ok.mp h
  cases hs
  have hstore := config.totalStorageMb_pos
  refine ⟨?_, ?_⟩
  · positivity
  · show (0 : ℚ) ≤ 20 ∧ (20 : ℚ) ≤ 100
    norm_num

/-- **The arithmetic of the store is safe** in a run of a configured payload exactly when no event
breaks it. -/
theorem storageSafe_iff {config : PayloadConfig} {s : PayloadState} (h : configure config = .ok s)
    (events : List PayloadEvent) :
    StorageSafe s events ↔
      ∀ i, ¬ Runs.HappensAt step s events (fun s event => Overcommits s event) i := by
  have hlaid : ∀ i, Laid (Runs.after step s (events.take i)) := by
    intro i
    apply Runs.invariant (P := Laid)
    · intro _ event hl
      exact step_laid hl event
    · exact configured_laid h
  have hsound := fun i => configured_sound h (events.take i)
  constructor
  · rintro hsafe i ⟨event, hevent, hover⟩
    have hin : InRange (Runs.after step s (events.take i)) := by
      apply Runs.holds_between (Nat.zero_le i) (configured_inRange h)
      intro k earlier _ _ hearlier hbefore
      exact (hsafe k earlier hearlier).inRange hbefore
    exact (step_safe_iff (hlaid i) (hsound i) hin event).mp (hsafe i event hevent) hover
  · intro hnever
    have hsafe : ∀ i event, events[i]? = some event →
        InRange (Runs.after step s (events.take i)) →
          SafeArithmetic (Runs.after step s (events.take i)) event := by
      intro i event hevent hin
      refine (step_safe_iff (hlaid i) (hsound i) hin event).mpr ?_
      intro hover
      exact hnever i ⟨event, hevent, hover⟩
    intro i event hevent
    apply hsafe i event hevent
    apply Runs.holds_between (Nat.zero_le i) (configured_inRange h)
    intro k earlier _ _ hearlier hbefore
    exact (hsafe k earlier hearlier hbefore).inRange hbefore

/-! ### Examples -/

/-- Data is generated for a second with one segment bad. -/
def oneSegmentBad : List PayloadEvent :=
  [.command (.setMode (some (.int 2))), .inject (.memorySegmentFail none),
    .tick { dt := 60, dataRateMbps := 1 / 8 }]

theorem smallStore_oneSegmentBad : StorageSafe smallState oneSegmentBad := by
  refine (storageSafe_iff smallStore_configured oneSegmentBad).mpr ?_
  rintro i ⟨event, hevent, hover⟩
  have hroom : ∀ i < 3, 0 < (Runs.after step smallState (oneSegmentBad.take i)).memTotalMb ∧
      (Runs.after step smallState (oneSegmentBad.take i)).memUsedMb ≤
        (Runs.after step smallState (oneSegmentBad.take i)).memTotalMb := by
    decide +kernel
  obtain ⟨hpos, hused⟩ := hroom i (List.getElem?_eq_some_iff.mp hevent).1
  have hmem := List.mem_of_getElem? hevent
  simp only [oneSegmentBad, List.mem_cons, List.not_mem_nil, or_false] at hmem
  rcases hmem with rfl | rfl | rfl
  · cases hover
  · cases hover
  · cases hover with
    | imaging himaging hbad =>
        rcases hbad with hbad | hbad | hbad
        · exact hpos.ne' hbad
        · exact absurd hused (not_le.mpr hbad)
        · revert hbad
          decide +kernel

/-- Imaging with every segment bad. -/
def allSegmentsBad : List PayloadEvent :=
  .command (.setMode (some (.int 2))) ::
    ((List.range 4).map fun n => .inject (.memorySegmentFail (some (.int n)))) ++ [.tick { dt := 60 }]

/-- The tick divides by zero. -/
theorem allSegmentsBad_divides :
    ¬ ∀ (config : PayloadConfig) (s : PayloadState) (events : List PayloadEvent),
      configure config = .ok s → StorageSafe s events := by
  intro hall
  have hsafe := hall smallStore smallState allSegmentsBad smallStore_configured 5 (.tick { dt := 60 })
    rfl
  have hfacts : ((Runs.after step smallState (allSegmentsBad.take 5)).prepare { dt := 60 }).Imaging ∧
      ((Runs.after step smallState (allSegmentsBad.take 5)).prepare { dt := 60 }).memTotalMb = 0 := by
    decide +kernel
  refine hsafe.divides (divides_of_wp (wp_tick_iff.mpr ⟨?_, fun _ _ => rfl, ?_⟩))
  · intro _ hgood
    exact hgood hfacts.2
  · intro hidle
    exact hidle hfacts.1

end Payload
