import MissionSim.Ledger
import MissionSim.Payload
import MissionSim.Runs
import Mathlib.Tactic.Positivity

/-!
# Accounting for the image store

The used memory and the image count of the payload are kept beside its catalogue.  They are the
books of a store whose entries are the scenes with their sizes.

While no data is generated, captures file and deletions withdraw.  There are three ways out of
step.  The 1001st image evicts the oldest without its memory or count.  A deletion frees the memory
of an image and then raises, where no segment is good.  A new model restarts the scene counter, so
an automatic capture may take a scene that the restored catalogue has.
-/

namespace Payload

open Python Effects Ledger PayloadState List

/-! ### Books -/

/-- What the books say of an image. -/
def ImageMetadata.entry (image : ImageMetadata) : Int × ℚ := (image.sceneId, image.sizeMb)

/-- The books of the image store. -/
def PayloadState.books (s : PayloadState) : Books Int ℚ :=
  ⟨s.memUsedMb, s.imageCount, s.imageCatalog.map ImageMetadata.entry⟩

@[simp] theorem books_keys (s : PayloadState) : s.books.keys = s.sceneIds := map_map

theorem books_entryOf (id : Int) (s : PayloadState) :
    s.books.entryOf id =
      (s.imageCatalog.find? fun image => image.sceneId = id).map ImageMetadata.entry :=
  find?_map

/-- Every image takes space, and so will the next. -/
structure Sound (s : PayloadState) : Prop where
  image : 0 < s.imageSizeMb
  ratio : 0 < s.compressionRatio
  sizes : ∀ e ∈ s.books.entries, 0 < e.2

/-- The totals count at least the entries, and no scene is there twice. -/
structure Solvent (b : Books Int ℚ) : Prop where
  surplus : 0 ≤ b.surplus
  excess : 0 ≤ b.excess
  distinct : b.keys.Nodup

variable {s : PayloadState}

/-- A configured model starts with an empty catalogue. -/
theorem configured_solvent {config : PayloadConfig} (h : configure config = .ok s) :
    Sound s ∧ Solvent s.books := by
  obtain ⟨segmentSize, -, hs⟩ := Python.bind_eq_ok.mp h
  cases hs
  have hstore := config.totalStorageMb_pos
  have hused : (0 : ℚ) ≤ 20 / 100 * config.totalStorageMb := by positivity
  constructor
  · exact ⟨config.imageSizeMb_pos, by norm_num, fun e he => by cases he⟩
  · refine ⟨?_, le_refl _, nodup_nil⟩
    show (0 : ℚ) ≤ 20 / 100 * config.totalStorageMb - 0
    rwa [sub_zero]

/-! ### What leaves the store alone -/

/-- The store, the scene counter and what makes an image take space are left alone. -/
structure Aside (s s' : PayloadState) : Prop where
  books : s'.books = s.books
  counter : s'.nextSceneId = s.nextSceneId
  imageSize : s'.imageSizeMb = s.imageSizeMb
  ratio : 0 < s.compressionRatio → 0 < s'.compressionRatio

instance : Std.Refl Aside := ⟨fun _ => ⟨rfl, rfl, rfl, id⟩⟩

instance : IsTrans PayloadState Aside where
  trans _ _ _ h h' :=
    ⟨h'.books.trans h.books, h'.counter.trans h.counter, h'.imageSize.trans h.imageSize,
      h'.ratio ∘ h.ratio⟩

theorem Aside.sound {s s' : PayloadState} (h : Aside s s') (hs : Sound s) : Sound s' := by
  refine ⟨?_, h.ratio hs.ratio, ?_⟩
  · rw [h.imageSize]
    exact hs.image
  · rw [h.books]
    exact hs.sizes

/-- The catalogue, its books and what makes an image take space are left alone. -/
structure Untouched (s s' : PayloadState) : Prop where
  catalog : s'.imageCatalog = s.imageCatalog
  books : s'.books = s.books
  counter : s'.nextSceneId = s.nextSceneId
  segmentSize : s'.segmentSizeMb = s.segmentSizeMb
  imageSize : s'.imageSizeMb = s.imageSizeMb
  ratio : 0 < s.compressionRatio → 0 < s'.compressionRatio

instance : Std.Refl Untouched := ⟨fun _ => ⟨rfl, rfl, rfl, rfl, rfl, id⟩⟩

instance : IsTrans PayloadState Untouched where
  trans _ _ _ h h' :=
    ⟨h'.catalog.trans h.catalog, h'.books.trans h.books, h'.counter.trans h.counter,
      h'.segmentSize.trans h.segmentSize, h'.imageSize.trans h.imageSize, h'.ratio ∘ h.ratio⟩

theorem Untouched.aside {s s' : PayloadState} (h : Untouched s s') : Aside s s' :=
  ⟨h.books, h.counter, h.imageSize, h.ratio⟩

theorem updateStorePct_untouched (bound : ℚ → ℚ) : Keeps Untouched (updateStorePct bound) := by
  refine keeps_bind keeps_get fun s => ?_
  exact keeps_store fun _ _ => ⟨rfl, rfl, rfl, rfl, rfl, id⟩

/-- The fill percentage is updated, unless no segment is good. -/
theorem wp_updateStorePct {bound : ℚ → ℚ} {Q : PUnit → PayloadState → Prop}
    {E : PyError → PayloadState → Prop}
    (hgood : s.memTotalMb ≠ 0 → ∀ pct, Q ⟨⟩ { s with storeUsedPct := pct })
    (hbad : s.memTotalMb = 0 → ∀ e, E e s) : wp (updateStorePct bound) Q E s := by
  unfold updateStorePct quotient
  rw [wp_bind, wp_get, wp_store]
  split
  · exact ⟨nofun, fun e _ => hbad ‹_› e⟩
  · exact ⟨fun q _ => hgood ‹_› _, nofun⟩

theorem failSegment_untouched (segment : Int) (s : PayloadState) :
    Untouched s (s.failSegment segment) := by
  unfold failSegment
  split
  · exact ⟨rfl, rfl, rfl, rfl, rfl, id⟩
  · exact refl_of Untouched s

theorem mendSegment_untouched (segment : Int) (s : PayloadState) :
    Untouched s (s.mendSegment segment) := by
  unfold mendSegment
  split
  · exact ⟨rfl, rfl, rfl, rfl, rfl, id⟩
  · exact ⟨rfl, rfl, rfl, rfl, rfl, id⟩

/-- The commands that leave the store alone. -/
inductive Settings : PayloadCommand → Prop
  | setMode (mode) : Settings (.setMode mode)
  | setScene (sceneId) : Settings (.setScene sceneId)
  | markBadSegment (segment) : Settings (.markBadSegment segment)
  | setBandConfig (mask) : Settings (.setBandConfig mask)
  | setCompression (algorithm ratio) : Settings (.setCompression algorithm ratio)
  | other : Settings .other

theorem settings_untouched {cmd : PayloadCommand} (h : Settings cmd) :
    Keeps Untouched (handleCommand cmd) := by
  cases h with
  | setMode | setBandConfig =>
      refine keeps_bind (keeps_fromExcept _) fun m => ?_
      refine keeps_ite (fun _ => ?_) fun _ => keeps_pure _
      exact keeps_bind (keeps_modify fun _ => ⟨rfl, rfl, rfl, rfl, rfl, id⟩) fun _ => keeps_pure _
  | setScene sceneId =>
      refine keeps_bind (keeps_fromExcept _) fun scene => ?_
      exact keeps_bind (keeps_modify fun _ => ⟨rfl, rfl, rfl, rfl, rfl, id⟩) fun _ => keeps_pure _
  | markBadSegment segment =>
      refine keeps_bind (keeps_fromExcept _) fun n => ?_
      refine keeps_bind keeps_get fun s => ?_
      refine keeps_ite (fun _ => ?_) fun _ => keeps_pure _
      exact keeps_bind (keeps_modify fun s => failSegment_untouched n s) fun _ => keeps_pure _
  | setCompression algorithm ratio =>
      refine keeps_bind keeps_get fun s => ?_
      refine keeps_bind (keeps_fromExcept _) fun algo => ?_
      refine keeps_ite (fun _ => keeps_pure _) fun _ => ?_
      refine keeps_ite (fun _ => keeps_pure _) fun _ => ?_
      refine keeps_bind (keeps_modify fun s => ⟨rfl, rfl, rfl, rfl, rfl, fun h => ?_⟩) fun _ =>
        keeps_pure _
      split
      · assumption
      · exact h
  | other => exact keeps_pure _

theorem injectFailure_untouched (failure : PayloadFailure) :
    Keeps Untouched (injectFailure failure) := by
  cases failure with
  | coolerFailure | fpaDegraded
  | ccdLineDropout => exact keeps_modify fun _ => ⟨rfl, rfl, rfl, rfl, rfl, id⟩
  | imageCorrupt count => exact keeps_store fun _ _ => ⟨rfl, rfl, rfl, rfl, rfl, id⟩
  | memorySegmentFail segment => exact keeps_store failSegment_untouched
  | other => exact keeps_pure _

theorem clearFailure_untouched (failure : PayloadFailure) : Keeps Untouched (clearFailure failure) := by
  cases failure with
  | coolerFailure | fpaDegraded | imageCorrupt
  | ccdLineDropout => exact keeps_modify fun _ => ⟨rfl, rfl, rfl, rfl, rfl, id⟩
  | memorySegmentFail segment => exact keeps_store mendSegment_untouched
  | other => exact keeps_pure _

theorem setDeviceState_untouched (deviceId : Nat) (onOff : Bool) :
    Keeps Untouched (setDeviceState deviceId onOff) := by
  refine keeps_bind keeps_get fun s => ?_
  refine keeps_ite (fun _ => ?_) fun _ => keeps_pure _
  exact keeps_bind (keeps_modify fun _ => ⟨rfl, rfl, rfl, rfl, rfl, id⟩) fun _ => keeps_pure _

/-! ### Ticks -/

/-- What comes before the data concerns the mode and the detector. -/
theorem prepare_eq (found : Surroundings) (s : PayloadState) :
    ∃ mode ready timer, s.prepare found =
      { s with mode := mode, fpaReady := ready, fpaReadyTimer := timer } := by
  have hline : ∃ mode ready timer, s.lineGate found =
      { s with mode := mode, fpaReady := ready, fpaReadyTimer := timer } := by
    unfold lineGate
    split
    · exact ⟨_, _, _, rfl⟩
    · exact ⟨_, _, _, rfl⟩
  obtain ⟨mode, ready, timer, hline⟩ := hline
  unfold prepare settle
  rw [hline]
  split
  · exact ⟨_, _, _, rfl⟩
  · exact ⟨_, _, _, rfl⟩

/-- What comes after it samples the pointing, and may find that a strip was lost. -/
theorem follow_eq (found : Surroundings) (s : PayloadState) :
    ∃ mid seen mode err stab remaining worst quality images,
      (images = s.imageCatalog ∨
        images = changeLast s.stripSceneId (ImageMetadata.lost found.draw) s.imageCatalog) ∧
      mid = { s with
        aocsSeen := seen, aocsModeSeen := mode, aocsTotalErrSeen := err, aocsRateStabSeen := stab
        stripRemainingS := remaining, stripWorstErrDeg := worst, lastSceneQuality := quality
        imageCatalog := images } ∧
      s.follow found = (mid.adaptCompression found).applyDevicePowerGates := by
  have hsample : ∃ seen mode err stab, s.sample found =
      { s with
        aocsSeen := seen, aocsModeSeen := mode, aocsTotalErrSeen := err
        aocsRateStabSeen := stab } := by
    unfold sample
    split
    · exact ⟨_, _, _, _, rfl⟩
    · exact ⟨_, _, _, _, rfl⟩
  obtain ⟨seen, mode, err, stab, hsample⟩ := hsample
  unfold follow monitorStrip
  rw [hsample]
  split
  · refine ⟨_, _, _, _, _, _, _, _, _, ?_, rfl, rfl⟩
    split
    · exact .inr rfl
    · exact .inl rfl
  · exact ⟨_, _, _, _, _, _, _, _, _, .inl rfl, rfl, rfl⟩

theorem prepare_untouched (found : Surroundings) (s : PayloadState) :
    Untouched s (s.prepare found) := by
  obtain ⟨mode, ready, timer, hprepare⟩ := prepare_eq found s
  rw [hprepare]
  exact ⟨rfl, rfl, rfl, rfl, rfl, id⟩

theorem lost_entry (draw : ℚ) (image : ImageMetadata) :
    (image.lost draw).entry = image.entry := by
  unfold ImageMetadata.lost
  split
  · rfl
  · rfl

/-- What is found out of the last image of a scene is nothing that an image keeps. -/
theorem changeLast_map {γ : Type} {g : ImageMetadata → γ} (sceneId : Int)
    {f : ImageMetadata → ImageMetadata} (hf : ∀ image, g (f image) = g image)
    (catalog : List ImageMetadata) :
    (changeLast sceneId f catalog).map g = catalog.map g := by
  induction catalog with
  | nil => rfl
  | cons image rest ih =>
      unfold changeLast
      split
      · rw [map_cons, map_cons, hf image]
      · rw [map_cons, map_cons, ih]

theorem follow_aside (found : Surroundings) (s : PayloadState) : Aside s (s.follow found) := by
  have hadapt (t : PayloadState) : Aside t (t.adaptCompression found) := by
    refine ⟨rfl, rfl, rfl, fun _ => ?_⟩
    show 0 < if t.mode = 2 then 4 - max 0 (min 1 found.entropy) * (5 / 2) else 2
    split
    · have hentropy : max 0 (min 1 found.entropy) ≤ 1 := max_le zero_le_one (min_le_left 1 _)
      linarith
    · norm_num
  have hgates (t : PayloadState) : Aside t t.applyDevicePowerGates := by
    refine ⟨rfl, rfl, rfl, fun h => ?_⟩
    show 0 < if t.powered 0x0604 then t.compressionRatio else 1
    split
    · exact h
    · exact zero_lt_one
  obtain ⟨mid, seen, mode, err, stab, remaining, worst, quality, images, himages, rfl, hfollow⟩ :=
    follow_eq found s
  rw [hfollow]
  refine trans_of Aside ?_ (trans_of Aside (hadapt _) (hgates _))
  refine ⟨?_, rfl, rfl, id⟩
  unfold books
  simp only [Books.mk.injEq, true_and]
  rcases himages with rfl | rfl
  · rfl
  · exact changeLast_map _ (lost_entry found.draw) _

/-- A tick that generates no data leaves the store alone. -/
theorem tick_aside {found : Surroundings} (hidle : ¬ (s.prepare found).Imaging) :
    Aside s (finalState (tick found) s) := by
  refine wp_state.mp ?_
  unfold tick generate
  rw [wp_bind, wp_modify, wp_bind, wp_bind, wp_get, wp_when]
  refine ⟨fun h => absurd h hidle, fun _ => ?_⟩
  exact trans_of Aside (prepare_untouched found s).aside (follow_aside found _)

/-! ### Captures -/

theorem require_eq_ok {c : Prop} [Decidable c] {why : CaptureRefusal} {u : Unit} :
    require c why = .ok u ↔ c := by
  unfold require
  split
  · exact ⟨fun _ => ‹c›, fun _ => rfl⟩
  · exact ⟨nofun, fun h => absurd h ‹¬ c›⟩

theorem computed_eq_ok {α : Type} {x : Except PyError α} {a : α} :
    computed x = .ok a ↔ x = .ok a := by
  cases x with
  | error e => exact ⟨nofun, nofun⟩
  | ok b =>
      constructor
      · intro h
        exact congrArg Except.ok (Except.ok.inj h)
      · intro h
        exact congrArg Except.ok (Except.ok.inj h)

variable {shot : Shot}

/-- What a capture that passes its checks takes: a free scene, and space in a good segment. -/
structure Allots (s : PayloadState) (shot : Shot) : Prop where
  scene : shot.reqScene = 0 ∨ shot.reqScene ∉ s.sceneIds
  stored : ∃ lines : Int, 256 ≤ lines ∧ s.storedSize (s.baseSize lines) = .ok shot.storedSize
  room : shot.storedSize ≤ s.availableStorageMb
  segment : shot.segment ∉ s.badSegments

theorem checkCapture_shot {cmd : CaptureCommand} (h : s.checkCapture cmd = .ok shot) :
    Allots s shot := by
  obtain ⟨-, -, h⟩ := Python.bind_eq_ok.mp h
  obtain ⟨-, -, h⟩ := Python.bind_eq_ok.mp h
  obtain ⟨-, -, h⟩ := Python.bind_eq_ok.mp h
  obtain ⟨reqScene, hscene, h⟩ := Python.bind_eq_ok.mp h
  obtain ⟨lines, hlines, h⟩ := Python.bind_eq_ok.mp h
  obtain ⟨storedSize, hstored, h⟩ := Python.bind_eq_ok.mp h
  obtain ⟨_, hroom, h⟩ := Python.bind_eq_ok.mp h
  split at h
  · cases h
  · rename_i segment hgood
    cases h
    have hfree := find?_some hgood
    refine ⟨?_, ⟨lines, ?_, computed_eq_ok.mp hstored⟩, require_eq_ok.mp hroom,
      of_decide_eq_true hfree⟩
    · obtain ⟨asked, -, hscene⟩ := Python.bind_eq_ok.mp hscene
      obtain ⟨_, hfree, hscene⟩ := Python.bind_eq_ok.mp hscene
      cases hscene
      exact require_eq_ok.mp hfree
    · obtain ⟨asked, -, hlines⟩ := Python.bind_eq_ok.mp hlines
      obtain ⟨_, hrange, hlines⟩ := Python.bind_eq_ok.mp hlines
      cases hlines
      exact (require_eq_ok.mp hrange).1

theorem baseSize_pos (h : 0 < s.imageSizeMb) {lines : Int} (hlines : 256 ≤ lines) :
    0 < s.baseSize lines := by
  have hbands : (0 : ℚ) < s.activeBands := Nat.cast_pos.mpr (Nat.lt_of_lt_of_le Nat.one_pos
    (le_max_left 1 _))
  unfold baseSize
  positivity

theorem storedSize_pos (h : 0 < s.compressionRatio) {baseSize stored : ℚ} (hbase : 0 < baseSize)
    (hstored : s.storedSize baseSize = .ok stored) : 0 < stored := by
  unfold storedSize quotient at hstored
  split at hstored
  · rw [if_neg h.ne'] at hstored
    cases hstored
    exact div_pos hbase h
  · cases hstored
    exact hbase

/-- An image takes space. -/
theorem shot_pos {cmd : CaptureCommand} (hs : Sound s) (h : s.checkCapture cmd = .ok shot) :
    0 < shot.storedSize := by
  obtain ⟨lines, hlines, hstored⟩ := (checkCapture_shot h).stored
  exact storedSize_pos hs.ratio (baseSize_pos hs.image hlines) hstored

/-- A capture that does not pass its checks changes nothing. -/
theorem capture_stopped {cmd : CaptureCommand} {stop : CaptureStop}
    (h : s.checkCapture cmd = .error stop) (draw : ℚ) : finalState (capture cmd draw) s = s := by
  refine (wp_state (P := fun s' => s' = s)).mp ?_
  unfold capture
  rw [wp_bind, wp_get, h]
  cases stop with
  | raised | refused => rfl

/-- A corrupt image is filed as any other. -/
theorem countCorrupt_file (shot : Shot) (image : ImageMetadata) (s : PayloadState) :
    Aside (s.file shot image) (s.countCorrupt.file shot image) := by
  unfold countCorrupt
  split
  · exact ⟨rfl, rfl, rfl, id⟩
  · exact refl_of Aside _

/-- A capture that passes its checks files the image, and leaves the rest of the store alone. -/
theorem capture_files {cmd : CaptureCommand} (h : s.checkCapture cmd = .ok shot) (draw : ℚ) :
    wp (capture cmd draw)
      (fun reply s' => Aside (s.file shot (s.image shot draw)) s' ∧
        ∃ image, reply = .captured image)
      (fun _ s' => Aside (s.file shot (s.image shot draw)) s') s := by
  unfold capture
  rw [wp_bind, wp_get, h]
  unfold expose
  rw [wp_bind, wp_get, wp_bind, wp_modify, wp_bind, wp_modify, wp_bind]
  have hfile := countCorrupt_file shot (s.image shot draw) s
  have haside : Keeps Aside (updateStorePct (min 100)) :=
    (updateStorePct_untouched (min 100)).mono fun _ _ h => h.aside
  refine wp_mono (haside.after hfile) (fun _ s' hs' => ?_) fun _ _ hs' => hs'
  refine ⟨trans_of Aside hs' ?_, _, rfl⟩
  exact ⟨rfl, rfl, rfl, id⟩

/-- A refused capture did not pass its checks. -/
theorem capture_refused {cmd : CaptureCommand} {draw : ℚ} {why : CaptureRefusal}
    (h : value? (capture cmd draw) s = some (.captureRefused why)) :
    ∃ stop, s.checkCapture cmd = .error stop := by
  cases hcheck : s.checkCapture cmd with
  | error stop => exact ⟨stop, rfl⟩
  | ok shot =>
      have hfiles := capture_files hcheck draw
      rcases wp_outcome hfiles with ⟨reply, hreply, -, image, rfl⟩ | ⟨hnone, -⟩
      · cases h.symm.trans hreply
      · cases h.symm.trans hnone

/-- The books with one more image. -/
def PayloadState.booked (shot : Shot) (s : PayloadState) : Books Int ℚ :=
  s.books.file (s.sceneFor shot.reqScene) shot.storedSize

theorem filed_entries (catalog : List ImageMetadata) (image : ImageMetadata) :
    (filed catalog image).map ImageMetadata.entry =
      if catalog.length < 1000 then catalog.map ImageMetadata.entry ++ [image.entry]
      else (catalog.map ImageMetadata.entry ++ [image.entry]).tail := by
  unfold filed
  simp only [length_append, length_singleton]
  split
  · rw [if_neg (by omega), map_tail, map_append]
    rfl
  · rw [if_pos (by omega), map_append]
    rfl

theorem file_books (shot : Shot) (draw : ℚ) (s : PayloadState) :
    (s.file shot (s.image shot draw)).books =
      if s.imageCatalog.length < 1000 then s.booked shot else (s.booked shot).dropOldest := by
  unfold books file
  simp only [filed_entries]
  split
  · rfl
  · rfl

/-- A capture that passes its checks, as seen by the store. -/
theorem capture_shot {cmd : CaptureCommand} (h : s.checkCapture cmd = .ok shot) (draw : ℚ) :
    Aside (s.file shot (s.image shot draw)) (finalState (capture cmd draw) s) :=
  wp_state.mp (wp_mono (capture_files h draw) (fun _ _ hs' => hs'.1) fun _ _ hs' => hs')

theorem capture_sound {cmd : CaptureCommand} (hs : Sound s) (draw : ℚ) :
    Sound (finalState (capture cmd draw) s) := by
  cases hcheck : s.checkCapture cmd with
  | error stop =>
      rw [capture_stopped hcheck]
      exact hs
  | ok shot =>
      refine (capture_shot hcheck draw).sound ⟨hs.image, hs.ratio, ?_⟩
      have hbooked : ∀ e ∈ (s.booked shot).entries, 0 < e.2 := by
        intro e he
        rcases mem_append.mp he with hold | hnew
        · exact hs.sizes e hold
        · obtain rfl := mem_singleton.mp hnew
          exact shot_pos hs hcheck
      rw [file_books]
      split
      · exact hbooked
      · exact fun e he => hbooked e (mem_of_mem_tail he)

/-- What a capture that passes its checks writes into the books. -/
theorem capture_books {cmd : CaptureCommand} (h : s.checkCapture cmd = .ok shot) (draw : ℚ) :
    (finalState (capture cmd draw) s).books =
      if s.imageCatalog.length < 1000 then s.booked shot else (s.booked shot).dropOldest := by
  rw [(capture_shot h draw).books, file_books]

/-! ### Deletions -/

/-- A deletion of what is no number, or of a scene that is not there, changes nothing. -/
theorem deleteScene_absent {scene : Value} (h : ∀ id, scene.toInt = .ok id → id ∉ s.sceneIds) :
    finalState (deleteScene scene) s = s := by
  refine (wp_state (P := fun s' => s' = s)).mp ?_
  unfold deleteScene
  rw [wp_bind, wp_fromExcept]
  refine ⟨fun id hid => ?_, fun _ _ => rfl⟩
  have hnone : (s.imageCatalog.find? fun image => image.sceneId = id) = none := by
    refine find?_eq_none.mpr ?_
    intro image hmem hsame
    exact h id hid (mem_map.mpr ⟨image, hmem, of_decide_eq_true hsame⟩)
  rw [wp_bind, wp_get, hnone]
  rfl

/-- The space of an image is freed. -/
def PayloadState.freed (image : ImageMetadata) (s : PayloadState) : PayloadState :=
  { s with memUsedMb := max 0 (s.memUsedMb - image.sizeMb) }

/-- The image of a scene is gone. -/
def PayloadState.deleted (id : Int) (s : PayloadState) : PayloadState :=
  { s with
    imageCount := max 0 (s.imageCount - 1)
    imageCatalog := s.imageCatalog.eraseP fun image => image.sceneId = id }

/-- A deletion, up to the update of the fill percentage. -/
theorem wp_deleteScene {scene : Value} {s : PayloadState} {id : Int} {image : ImageMetadata}
    {P : PayloadState → Prop} (hid : scene.toInt = .ok id)
    (himage : (s.imageCatalog.find? fun image => image.sceneId = id) = some image)
    (h : wp (updateStorePct (max 0)) (fun _ s' => P (s'.deleted id)) (fun _ s' => P s')
      (s.freed image)) : P (finalState (deleteScene scene) s) := by
  refine wp_state.mp ?_
  unfold deleteScene
  rw [wp_bind, wp_fromExcept, hid]
  refine ⟨fun id' hid' => ?_, nofun⟩
  cases hid'
  rw [wp_bind, wp_get, himage]
  rw [wp_bind, wp_modify, wp_bind]
  exact h

/-- Where no segment is good, a deletion raises with the space freed and the image there. -/
theorem deleteScene_raises {scene : Value} {id : Int} {image : ImageMetadata}
    (hid : scene.toInt = .ok id)
    (himage : (s.imageCatalog.find? fun image => image.sceneId = id) = some image)
    (hbad : s.memTotalMb = 0) : finalState (deleteScene scene) s = s.freed image := by
  refine wp_deleteScene (P := fun s' => s' = s.freed image) hid himage ?_
  apply wp_updateStorePct
  · intro hgood
    exact absurd hbad hgood
  · intro _ e
    rfl

/-- Where some segment is good, a deletion frees the space and takes the image away. -/
theorem deleteScene_deletes {scene : Value} {id : Int} {image : ImageMetadata}
    (hid : scene.toInt = .ok id)
    (himage : (s.imageCatalog.find? fun image => image.sceneId = id) = some image)
    (hgood : s.memTotalMb ≠ 0) :
    Aside ((s.freed image).deleted id) (finalState (deleteScene scene) s) := by
  refine wp_deleteScene hid himage ?_
  apply wp_updateStorePct
  · intro _ pct
    exact ⟨rfl, rfl, rfl, fun h => h⟩
  · intro hbad
    exact absurd hbad hgood

theorem deleted_books (id : Int) (image : ImageMetadata) (s : PayloadState) :
    ((s.freed image).deleted id).books = s.books.withdraw id image.entry.2 := by
  unfold books deleted freed Books.withdraw
  simp only [Books.mk.injEq, true_and]
  rw [eraseP_map]
  exact ⟨rfl, rfl⟩

/-- A deletion finds its image, or changes nothing. -/
theorem deleteScene_cases (scene : Value) (s : PayloadState) :
    finalState (deleteScene scene) s = s ∨
      ∃ id image, scene.toInt = .ok id ∧
        (s.imageCatalog.find? fun image => image.sceneId = id) = some image := by
  cases hid : scene.toInt with
  | error e =>
      refine .inl (deleteScene_absent ?_)
      intro id hid'
      cases hid.symm.trans hid'
  | ok id =>
      cases himage : s.imageCatalog.find? fun image => image.sceneId = id with
      | none =>
          refine .inl (deleteScene_absent ?_)
          intro id' hid' hmem
          obtain rfl := Except.ok.inj (hid.symm.trans hid')
          obtain ⟨image, hcatalog, hsame⟩ := mem_map.mp hmem
          exact find?_eq_none.mp himage image hcatalog (decide_eq_true hsame)
      | some image => exact .inr ⟨id, image, rfl, himage⟩

theorem deleteScene_sound (scene : Value) (hs : Sound s) :
    Sound (finalState (deleteScene scene) s) := by
  rcases deleteScene_cases scene s with hsame | ⟨id, image, hid, himage⟩
  · rw [hsame]
    exact hs
  · by_cases hbad : s.memTotalMb = 0
    · rw [deleteScene_raises hid himage hbad]
      exact ⟨hs.image, hs.ratio, hs.sizes⟩
    · refine (deleteScene_deletes hid himage hbad).sound ⟨hs.image, hs.ratio, ?_⟩
      rw [deleted_books]
      exact fun e he => hs.sizes e (mem_of_mem_eraseP he)

/-! ### Steps -/

/-- What is not meant: an image is deleted by number, or a tick generates data. -/
inductive Outside (s : PayloadState) : PayloadEvent → Prop
  | noScene (count) : Outside s (.command (.deleteImage none count))
  | nullScene (count) : Outside s (.command (.deleteImage (some .none) count))
  | imaging {found} (h : (s.prepare found).Imaging) : Outside s (.tick found)

/-- What acts on the store. -/
inductive Acting : PayloadEvent → Prop
  | capture (cmd draw) : Acting (.command (.capture cmd draw))
  | deleteScene {scene} (h : scene ≠ .none) (count) :
      Acting (.command (.deleteImage (some scene) count))
  | restore : Acting .restore

variable {event : PayloadEvent}

theorem untouched_or_acting (s : PayloadState) (event : PayloadEvent) :
    Untouched s (step s event) ∨ (∃ cmd draw, event = .command (.capture cmd draw)) ∨
      (∃ scene count, event = .command (.deleteImage scene count)) ∨
      (∃ found, event = .tick found) ∨ event = .restore := by
  cases event with
  | command cmd =>
      have hsettings (h : Settings cmd) : Untouched s (step s (.command cmd)) :=
        (settings_untouched h).final s
      cases cmd with
      | capture cmd draw => exact .inr (.inl ⟨cmd, draw, rfl⟩)
      | deleteImage scene count => exact .inr (.inr (.inl ⟨scene, count, rfl⟩))
      | setMode | setScene | markBadSegment | setBandConfig | setCompression
      | other => exact .inl (hsettings (by constructor))
  | inject failure => exact .inl ((injectFailure_untouched failure).final s)
  | clear failure => exact .inl ((clearFailure_untouched failure).final s)
  | device deviceId onOff => exact .inl ((setDeviceState_untouched deviceId onOff).final s)
  | tick found => exact .inr (.inr (.inr (.inl ⟨found, rfl⟩)))
  | restore => exact .inr (.inr (.inr (.inr rfl)))

theorem acting_or_aside (hinside : ¬ Outside s event) : Acting event ∨ Aside s (step s event) := by
  rcases untouched_or_acting s event with
    h | ⟨cmd, draw, rfl⟩ | ⟨scene, count, rfl⟩ | ⟨found, rfl⟩ | rfl
  · exact .inr h.aside
  · exact .inl (.capture cmd draw)
  · cases scene with
    | none => exact absurd (.noScene count) hinside
    | some scene =>
        refine .inl (.deleteScene ?_ count)
        rintro rfl
        exact hinside (.nullScene count)
  · exact .inr (tick_aside fun h => hinside (.imaging h))
  · exact .inl .restore

theorem step_deleteScene {scene : Value} (h : scene ≠ .none) (count : Option Value)
    (s : PayloadState) :
    step s (.command (.deleteImage (some scene) count)) = finalState (deleteScene scene) s := by
  cases scene with
  | none => exact absurd rfl h
  | int | float | other => rfl

theorem step_sound (hs : Sound s) (hinside : ¬ Outside s event) : Sound (step s event) := by
  rcases acting_or_aside hinside with hacting | haside
  · cases hacting with
    | capture cmd draw => exact capture_sound hs draw
    | deleteScene h count =>
        rw [step_deleteScene h]
        exact deleteScene_sound _ hs
    | restore => exact ⟨hs.image, hs.ratio, hs.sizes⟩
  · exact haside.sound hs

/-- **A leak.**  An image evicts the oldest; an automatic scene is in the catalogue; or a deletion
finds its image, and no good segment. -/
inductive Leaks (s : PayloadState) : PayloadEvent → Prop
  | evicts {cmd shot} (hshot : s.checkCapture cmd = .ok shot)
      (hfull : 1000 ≤ s.imageCatalog.length) (draw) : Leaks s (.command (.capture cmd draw))
  | collides {cmd shot} (hshot : s.checkCapture cmd = .ok shot) (hauto : shot.reqScene = 0)
      (htaken : s.nextSceneId + 1 ∈ s.sceneIds) (draw) : Leaks s (.command (.capture cmd draw))
  | raises {scene id} (hid : scene.toInt = .ok id) (hmem : id ∈ s.sceneIds)
      (hbad : s.memTotalMb = 0) (count) : Leaks s (.command (.deleteImage (some scene) count))

/-- Surplus and excess are kept, and no scene is there twice. -/
structure Kept (b b' : Books Int ℚ) : Prop where
  surplus : b'.surplus = b.surplus
  excess : b'.excess = b.excess
  distinct : b'.keys.Nodup

theorem Kept.solvent {b b' : Books Int ℚ} (h : Kept b b') (hb : Solvent b) : Solvent b' :=
  ⟨h.surplus ▸ hb.surplus, h.excess ▸ hb.excess, h.distinct⟩

theorem Kept.trans {b b' b'' : Books Int ℚ} (h : Kept b b') (h' : Kept b' b'') : Kept b b'' :=
  ⟨h'.surplus.trans h.surplus, h'.excess.trans h.excess, h'.distinct⟩

/-- The scene of a capture that passes its checks is new, unless the scene counter collides. -/
theorem sceneFor_fresh {cmd : CaptureCommand} (h : s.checkCapture cmd = .ok shot)
    (hfree : ¬ (shot.reqScene = 0 ∧ s.nextSceneId + 1 ∈ s.sceneIds)) :
    s.sceneFor shot.reqScene ∉ s.sceneIds := by
  unfold sceneFor
  split
  · intro hmem
    exact hfree ⟨‹_›, hmem⟩
  · exact (checkCapture_shot h).scene.resolve_left ‹_›

theorem capture_kept {cmd : CaptureCommand} (hb : Solvent s.books) (draw : ℚ)
    (hnot : ¬ Leaks s (.command (.capture cmd draw))) :
    Kept s.books (finalState (capture cmd draw) s).books := by
  cases hcheck : s.checkCapture cmd with
  | error stop =>
      rw [capture_stopped hcheck]
      exact ⟨rfl, rfl, hb.distinct⟩
  | ok shot =>
      have hroom : s.imageCatalog.length < 1000 := by
        by_contra hfull
        exact hnot (.evicts hcheck (Nat.le_of_not_lt hfull) draw)
      have hfresh : s.sceneFor shot.reqScene ∉ s.sceneIds := by
        apply sceneFor_fresh hcheck
        intro h
        exact hnot (.collides hcheck h.1 h.2 draw)
      rw [capture_books hcheck, if_pos hroom]
      rw [← books_keys] at hfresh
      have hdistinct : (s.booked shot).keys.Nodup :=
        Books.file_nodup.mpr ⟨hb.distinct, hfresh⟩
      exact ⟨Books.file_surplus _ _ _, Books.file_excess _ _ _, hdistinct⟩

theorem deleteScene_kept {scene : Value} (hs : Sound s) (hb : Solvent s.books)
    (hnot : ∀ id, scene.toInt = .ok id → id ∈ s.sceneIds → s.memTotalMb ≠ 0) :
    Kept s.books (finalState (deleteScene scene) s).books := by
  rcases deleteScene_cases scene s with hsame | ⟨id, image, hid, himage⟩
  · rw [hsame]
    exact ⟨rfl, rfl, hb.distinct⟩
  · have hentry : s.books.entryOf id = some image.entry := by
      rw [books_entryOf, himage]
      rfl
    have hmem : id ∈ s.sceneIds := by
      have hsame := find?_some himage
      exact mem_map.mpr ⟨image, mem_of_find?_eq_some himage, of_decide_eq_true hsame⟩
    rw [(deleteScene_deletes hid himage (hnot id hid hmem)).books, deleted_books]
    have hsizes : ∀ e ∈ s.books.entries, 0 ≤ e.2 := fun e he => (hs.sizes e he).le
    have hsurplus := Books.withdraw_surplus hentry hb.surplus hsizes
    have hexcess := Books.withdraw_excess hentry hb.excess
    exact ⟨hsurplus, hexcess, Books.withdraw_nodup _ _ hb.distinct⟩

/-- **An event keeps the books**, unless it leaks. -/
theorem step_kept (hs : Sound s) (hb : Solvent s.books) (hinside : ¬ Outside s event)
    (hnot : ¬ Leaks s event) : Kept s.books (step s event).books := by
  rcases acting_or_aside hinside with hacting | haside
  · cases hacting with
    | capture cmd draw => exact capture_kept hb draw hnot
    | deleteScene h count =>
        rw [step_deleteScene h]
        apply deleteScene_kept hs hb
        intro id hid hmem hbad
        exact hnot (.raises hid hmem hbad count)
    | restore => exact ⟨rfl, rfl, hb.distinct⟩
  · rw [haside.books]
    exact ⟨rfl, rfl, hb.distinct⟩

/-- What an image evicts still counts. -/
theorem evicting_not_kept {cmd : CaptureCommand} (hshot : s.checkCapture cmd = .ok shot)
    (hfull : 1000 ≤ s.imageCatalog.length) (draw : ℚ) :
    ¬ Kept s.books (finalState (capture cmd draw) s).books := by
  intro hkept
  have hbooks := capture_books hshot draw
  rw [if_neg (Nat.not_lt.mpr hfull)] at hbooks
  have hnonempty : (s.booked shot).entries ≠ [] := concat_ne_nil _ _
  have hexcess : (s.booked shot).dropOldest.excess = s.books.excess := by
    rw [← hbooks]
    exact hkept.excess
  rw [Books.dropOldest_excess hnonempty] at hexcess
  have hbooked : (s.booked shot).excess = s.books.excess := Books.file_excess _ _ _
  omega

/-- A leak does not keep the books. -/
theorem leak_not_kept (hs : Sound s) (hb : Solvent s.books) (hleak : Leaks s event) :
    ¬ Kept s.books (step s event).books := by
  cases hleak with
  | evicts hshot hfull draw => exact evicting_not_kept hshot hfull draw
  | @collides cmd shot hshot hauto htaken draw =>
      by_cases hroom : s.imageCatalog.length < 1000
      · intro hkept
        have hdistinct : (s.booked shot).keys.Nodup := by
          have hbooks := capture_books hshot draw
          rw [if_pos hroom] at hbooks
          rw [← hbooks]
          exact hkept.distinct
        have hfresh := (Books.file_nodup.mp hdistinct).2
        rw [books_keys, hauto] at hfresh
        exact hfresh htaken
      · exact evicting_not_kept hshot (Nat.le_of_not_lt hroom) draw
  | @raises scene id hid hmem hbad count =>
      intro hkept
      have hscene : scene ≠ .none := by
        rintro rfl
        cases hid
      obtain ⟨image, himage⟩ : ∃ image,
          (s.imageCatalog.find? fun image => image.sceneId = id) = some image := by
        obtain ⟨image, hcatalog, hsame⟩ := mem_map.mp hmem
        refine Option.isSome_iff_exists.mp (find?_isSome.mpr ⟨image, hcatalog, ?_⟩)
        exact decide_eq_true hsame
      have hentry : s.books.entryOf id = some image.entry := by
        rw [books_entryOf, himage]
        rfl
      have hsurplus := hkept.surplus
      rw [step_deleteScene hscene, deleteScene_raises hid himage hbad] at hsurplus
      have hfree := Books.free_surplus hentry hb.surplus fun e he => (hs.sizes e he).le
      have hsize : 0 < image.entry.2 := hs.sizes _ (mem_of_find?_eq_some hentry)
      have hlost : s.books.surplus = s.books.surplus - image.entry.2 := hsurplus.symm.trans hfree
      linarith

/-! ### The scene counter -/

/-- The scene counter is ahead of the catalogue. -/
def Ahead (s : PayloadState) : Prop := ∀ id ∈ s.sceneIds, id ≤ s.nextSceneId

theorem Ahead.not_taken (h : Ahead s) : s.nextSceneId + 1 ∉ s.sceneIds := by
  intro hmem
  have hle := h _ hmem
  omega

theorem Ahead.of_aside {s s' : PayloadState} (h : Ahead s) (haside : Aside s s') : Ahead s' := by
  intro id hid
  rw [← books_keys, haside.books, books_keys] at hid
  rw [haside.counter]
  exact h id hid

theorem file_ahead (h : Ahead s) (shot : Shot) (draw : ℚ) :
    Ahead (s.file shot (s.image shot draw)) := by
  have hbooked : ∀ id ∈ (s.booked shot).keys,
      id ≤ (s.file shot (s.image shot draw)).nextSceneId := by
    intro id hid
    show id ≤ if shot.reqScene = 0 then s.nextSceneId + 1 else max s.nextSceneId shot.reqScene
    unfold booked Books.file Books.keys at hid
    rw [map_append] at hid
    rcases mem_append.mp hid with hold | hnew
    · have hle := h id (books_keys s ▸ hold)
      split
      · omega
      · exact hle.trans (le_max_left _ _)
    · obtain rfl := mem_singleton.mp hnew
      unfold sceneFor
      split
      · exact le_refl _
      · exact le_max_right _ _
  intro id hid
  rw [← books_keys, file_books] at hid
  split at hid
  · exact hbooked id hid
  · apply hbooked
    obtain ⟨e, he, rfl⟩ := mem_map.mp hid
    exact mem_map_of_mem (mem_of_mem_tail he)

/-- Every event but a restart keeps the scene counter ahead. -/
theorem step_ahead (h : Ahead s) (hinside : ¬ Outside s event) (hrestart : event ≠ .restore) :
    Ahead (step s event) := by
  rcases acting_or_aside hinside with hacting | haside
  · cases hacting with
    | capture cmd draw =>
        show Ahead (finalState (capture cmd draw) s)
        cases hcheck : s.checkCapture cmd with
        | error stop =>
            rw [capture_stopped hcheck]
            exact h
        | ok shot => exact (file_ahead h shot draw).of_aside (capture_shot hcheck draw)
    | @deleteScene scene hscene count =>
        rw [step_deleteScene hscene]
        rcases deleteScene_cases scene s with hsame | ⟨id, image, hid, himage⟩
        · rw [hsame]
          exact h
        · by_cases hbad : s.memTotalMb = 0
          · rw [deleteScene_raises hid himage hbad]
            exact h
          · refine Ahead.of_aside ?_ (deleteScene_deletes hid himage hbad)
            intro id' hid'
            refine h id' ((eraseP_sublist.map _).subset hid')
    | restore => exact absurd rfl hrestart
  · exact h.of_aside haside

/-- **Only a restart makes the counter collide.** -/
theorem never_taken (h : Ahead s) (events : List PayloadEvent)
    (hinside : ∀ i, ¬ Runs.HappensAt step s events (fun s event => Outside s event) i)
    (hrestart : .restore ∉ events) (i : Nat) :
    (Runs.after step s (events.take i)).nextSceneId + 1 ∉
      (Runs.after step s (events.take i)).sceneIds := by
  apply Ahead.not_taken
  refine Runs.holds_between (Nat.zero_le i) h ?_
  intro k event _ _ hevent hahead
  apply step_ahead hahead
  · intro houtside
    exact hinside k ⟨event, hevent, houtside⟩
  · rintro rfl
    exact hrestart (mem_of_getElem? hevent)

/-! ### Runs -/

/-- **Image store accounting.**  At every position of a run the used memory less the sizes of the
catalogue and the image count less its length are those of the start, no scene is in the catalogue
twice, and a refused capture changes nothing. -/
structure Accounted (s : PayloadState) (events : List PayloadEvent) : Prop where
  memory : ∀ i, (Runs.after step s (events.take i)).books.surplus = s.books.surplus
  count : ∀ i, (Runs.after step s (events.take i)).books.excess = s.books.excess
  distinct : ∀ i, (Runs.after step s (events.take i)).sceneIds.Nodup
  refused : ∀ i cmd draw why, events[i]? = some (.command (.capture cmd draw)) →
    value? (capture cmd draw) (Runs.after step s (events.take i)) = some (.captureRefused why) →
      Runs.after step s (events.take (i + 1)) = Runs.after step s (events.take i)

theorem Accounted.keptAt {events : List PayloadEvent} (h : Accounted s events) (i : Nat) :
    Kept s.books (Runs.after step s (events.take i)).books := by
  refine ⟨h.memory i, h.count i, ?_⟩
  rw [books_keys]
  exact h.distinct i

/-- A refused capture changes nothing, in any run. -/
theorem refused_unchanged {s : PayloadState} {events : List PayloadEvent} {i : Nat}
    {cmd : CaptureCommand} {draw : ℚ} {why : CaptureRefusal}
    (hevent : events[i]? = some (.command (.capture cmd draw)))
    (hrefused : value? (capture cmd draw) (Runs.after step s (events.take i)) =
      some (.captureRefused why)) :
    Runs.after step s (events.take (i + 1)) = Runs.after step s (events.take i) := by
  obtain ⟨stop, hstop⟩ := capture_refused hrefused
  rw [Runs.after_take_succ hevent]
  exact capture_stopped hstop draw

/-- **The image store is accounted for in a run**, without deletions by number and with data
generation idle, exactly when no event leaks. -/
theorem accounted_iff {s : PayloadState} (hs : Sound s) (hb : Solvent s.books)
    (events : List PayloadEvent)
    (hinside : ∀ i, ¬ Runs.HappensAt step s events (fun s event => Outside s event) i) :
    Accounted s events ↔
      ∀ i, ¬ Runs.HappensAt step s events (fun s event => Leaks s event) i := by
  have hsound : ∀ i, Sound (Runs.after step s (events.take i)) :=
    Runs.invariant_unless (fun _ _ h hnot => step_sound h hnot) hs hinside
  constructor
  · rintro h i ⟨event, hevent, hleak⟩
    have hsolvent := (h.keptAt i).solvent hb
    apply leak_not_kept (hsound i) hsolvent hleak
    have hnext : Runs.after step s (events.take (i + 1)) =
        step (Runs.after step s (events.take i)) event := Runs.after_take_succ hevent
    rw [← hnext]
    exact ⟨(h.memory (i + 1)).trans (h.memory i).symm, (h.count (i + 1)).trans (h.count i).symm,
      (h.keptAt (i + 1)).distinct⟩
  · intro hnever
    have hkept : ∀ i, Kept s.books (Runs.after step s (events.take i)).books := by
      intro i
      refine Runs.holds_between (P := fun s' : PayloadState => Kept s.books s'.books)
        (Nat.zero_le i) ⟨rfl, rfl, hb.distinct⟩ ?_
      intro k event _ _ hevent hk
      apply hk.trans
      apply step_kept (hsound k) (hk.solvent hb)
      · intro houtside
        exact hinside k ⟨event, hevent, houtside⟩
      · intro hleak
        exact hnever k ⟨event, hevent, hleak⟩
    refine ⟨fun i => (hkept i).surplus, fun i => (hkept i).excess, fun i => ?_,
      fun i cmd draw why => refused_unchanged⟩
    rw [← books_keys]
    exact (hkept i).distinct

theorem new_sound : Sound {} := ⟨by norm_num, by norm_num, fun e he => by cases he⟩

theorem new_solvent : Solvent ({} : PayloadState).books :=
  ⟨by decide +kernel, le_refl _, nodup_nil⟩

/-- The detector settles, and imaging mode is set. -/
def settled : List PayloadEvent := [.tick { dt := 60 }, .command (.setMode (some (.int 2)))]

/-- After that, only the events that follow are to be looked at. -/
theorem settled_inside {events : List PayloadEvent}
    (h : ∀ event ∈ events, ∀ s, ¬ Outside s event) (i : Nat) :
    ¬ Runs.HappensAt step {} (settled ++ events) (fun s event => Outside s event) i := by
  rintro ⟨event, hevent, houtside⟩
  match i, hevent with
  | 0, hevent =>
      cases hevent
      cases houtside with
      | imaging himaging =>
          have hidle : ¬ (({} : PayloadState).prepare { dt := 60 }).Imaging := by decide
          exact hidle himaging
  | 1, hevent =>
      cases hevent
      cases houtside
  | i + 2, hevent => exact h event (mem_of_getElem? hevent) _ houtside

/-- After an image is taken, the counter is at a free number. -/
theorem image_not_taken :
    let events := settled ++ [.command (.capture {} 0)]
    (Runs.after step {} (events.take 3)).nextSceneId + 1 ∉
      (Runs.after step {} (events.take 3)).sceneIds := by
  refine never_taken (fun id hid => absurd hid not_mem_nil) _ (settled_inside fun event hevent s => ?_)
    (by simp [settled]) 3
  obtain rfl := mem_singleton.mp hevent
  rintro ⟨⟩

/-- An image taken and deleted. -/
def takenAndDeleted : List PayloadEvent :=
  settled ++ [.command (.capture {} 0), .command (.deleteImage (some (.int 101)) none)]

theorem takenAndDeleted_accounted : Accounted {} takenAndDeleted := by
  refine (accounted_iff new_sound new_solvent takenAndDeleted (settled_inside ?_)).mpr ?_
  · simp only [List.forall_mem_cons, List.not_mem_nil, false_implies, implies_true, and_true]
    constructor
    · rintro s ⟨⟩
    · rintro s ⟨⟩
  · rintro i ⟨event, hevent, hleak⟩
    have hlt : i < 4 := (List.getElem?_eq_some_iff.mp hevent).1
    have hfine : ∀ i < 4,
        (Runs.after step {} (takenAndDeleted.take i)).imageCatalog.length < 1000 ∧
          (Runs.after step {} (takenAndDeleted.take i)).nextSceneId + 1 ∉
            (Runs.after step {} (takenAndDeleted.take i)).sceneIds ∧
          (Runs.after step {} (takenAndDeleted.take i)).memTotalMb ≠ 0 := by
      decide +kernel
    obtain ⟨hroom, hfree, hgood⟩ := hfine i hlt
    cases hleak with
    | evicts hshot hfull draw => exact absurd hfull (Nat.not_le.mpr hroom)
    | collides hshot hauto htaken draw => exact hfree htaken
    | raises hid hmem hbad count => exact hgood hbad

/-- An image taken, and another in a new model with the saved state. -/
def takenAndRestored : List PayloadEvent :=
  settled ++ [.command (.capture {} 0), .restore, .command (.capture {} 0)]

theorem takenAndRestored_twice :
    (∀ i, ¬ Runs.HappensAt step {} takenAndRestored (fun s event => Outside s event) i) ∧
      ¬ Accounted {} takenAndRestored := by
  constructor
  · apply settled_inside
    simp only [List.forall_mem_cons, List.not_mem_nil, false_implies, implies_true, and_true]
    refine ⟨?_, ?_, ?_⟩
    · rintro s ⟨⟩
    · rintro s ⟨⟩
    · rintro s ⟨⟩
  · intro h
    have hdistinct := h.distinct 5
    revert hdistinct
    decide +kernel

end Payload
