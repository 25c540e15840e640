import MissionSim.Bins
import MissionSim.ImageStore

/-!
# Segments of the image store

The segments are bins, and an image is put into the first segment that is not bad.  A capture asks
for space in the whole store, never in the segment it picks, so a segment is over full as soon as
the captures that pick it outweigh it.

Nothing but a capture adds to a segment, so a run keeps every segment within its size exactly when
each of its captures finds the space in the segment it picks.
-/

namespace Payload

open Python Effects Bins PayloadState

/-! ### Placements -/

/-- Where an image is, and what it takes there. -/
def ImageMetadata.placement (image : ImageMetadata) : Nat × ℚ := (image.segment, image.sizeMb)

/-- What is in which segment. -/
def PayloadState.placements (s : PayloadState) : List (Nat × ℚ) :=
  s.imageCatalog.map ImageMetadata.placement

/-- The store has no segment over full. -/
def PayloadState.InBounds (s : PayloadState) : Prop :=
  Within (fun _ => s.segmentSizeMb) s.placements

theorem placement_sizes (s : PayloadState) :
    (∀ e ∈ s.books.entries, 0 < e.2) ↔ ∀ e ∈ s.placements, 0 < e.2 := by
  unfold books placements
  simp only [List.forall_mem_map]
  rfl

/-- Images may have gone from the store; none has come, or has another place or size. -/
structure Thinned (s s' : PayloadState) : Prop where
  placements : s'.placements.Sublist s.placements
  segmentSize : s'.segmentSizeMb = s.segmentSizeMb
  imageSize : s'.imageSizeMb = s.imageSizeMb
  ratio : 0 < s.compressionRatio → 0 < s'.compressionRatio

instance : Std.Refl Thinned := ⟨fun _ => ⟨List.Sublist.refl _, rfl, rfl, fun h => h⟩⟩

instance : IsTrans PayloadState Thinned where
  trans _ _ _ h h' :=
    ⟨h'.placements.trans h.placements, h'.segmentSize.trans h.segmentSize,
      h'.imageSize.trans h.imageSize, fun hratio => h'.ratio (h.ratio hratio)⟩

variable {s s' : PayloadState}

theorem Thinned.sound (h : Thinned s s') (hs : Sound s) : Sound s' := by
  refine ⟨?_, h.ratio hs.ratio, ?_⟩
  · rw [h.imageSize]
    exact hs.image
  · have hsizes := (placement_sizes s).mp hs.sizes
    exact (placement_sizes s').mpr fun e he => hsizes e (h.placements.subset he)

theorem Thinned.inBounds (h : Thinned s s') (hs : Sound s) (hin : s.InBounds) : s'.InBounds := by
  have hsizes := (placement_sizes s).mp hs.sizes
  intro segment
  rw [h.segmentSize]
  exact Within.sublist hin h.placements (fun e he => (hsizes e he).le) segment

/-- What leaves catalogue and configuration alone. -/
theorem thinned_of_same (hcatalog : s'.imageCatalog = s.imageCatalog)
    (hsegment : s'.segmentSizeMb = s.segmentSizeMb) (himage : s'.imageSizeMb = s.imageSizeMb)
    (hratio : 0 < s.compressionRatio → 0 < s'.compressionRatio) : Thinned s s' := by
  refine ⟨?_, hsegment, himage, hratio⟩
  unfold placements
  rw [hcatalog]

theorem Untouched.thinned (h : Untouched s s') : Thinned s s' :=
  thinned_of_same h.catalog h.segmentSize h.imageSize h.ratio

/-! ### Commands -/

theorem updateStorePct_thinned (bound : ℚ → ℚ) : Keeps Thinned (updateStorePct bound) :=
  (updateStorePct_untouched bound).mono fun _ _ h => h.thinned

/-- A deletion of a scene. -/
theorem deleteScene_thinned (scene : Value) : Keeps Thinned (deleteScene scene) := by
  refine keeps_bind (keeps_fromExcept _) fun id => ?_
  refine keeps_bind keeps_get fun s => ?_
  cases s.imageCatalog.find? fun image => image.sceneId = id with
  | none => exact keeps_pure _
  | some image =>
      refine keeps_bind (keeps_modify fun _ => thinned_of_same rfl rfl rfl fun h => h) fun _ => ?_
      refine keeps_bind (updateStorePct_thinned _) fun _ => ?_
      refine keeps_bind (keeps_modify fun s => ?_) fun _ => keeps_pure _
      exact ⟨List.eraseP_sublist.map _, rfl, rfl, fun h => h⟩

theorem dropOldest_thinned (s : PayloadState) : Thinned s s.dropOldest := by
  unfold dropOldest
  split
  · exact refl_of Thinned s
  · rename_i image rest hcatalog
    refine ⟨?_, rfl, rfl, fun h => h⟩
    unfold placements
    rw [hcatalog]
    exact (List.sublist_cons_self image rest).map _

/-- A deletion of the oldest. -/
theorem deleteOldest_thinned (count : Option Value) : Keeps Thinned (deleteOldest count) := by
  have hdrop (n : Nat) (s : PayloadState) : Thinned s (dropOldest^[n] s) := by
    induction n generalizing s with
    | zero => exact refl_of Thinned s
    | succ n ih =>
        exact trans_of Thinned (dropOldest_thinned s) (ih _)
  refine keeps_bind (keeps_fromExcept _) fun cnt => ?_
  refine keeps_bind keeps_get fun s => ?_
  refine keeps_bind (keeps_store fun _ _ => thinned_of_same rfl rfl rfl fun h => h) fun _ => ?_
  refine keeps_bind (keeps_modify fun _ => thinned_of_same rfl rfl rfl fun h => h) fun _ => ?_
  exact keeps_bind (keeps_modify fun s => hdrop _ s) fun _ => keeps_pure _

/-! ### Ticks -/

theorem generate_thinned (found : Surroundings) : Keeps Thinned (generate found) := by
  refine keeps_bind keeps_get fun s => keeps_when fun _ => ?_
  refine keeps_bind (keeps_modify fun _ => thinned_of_same rfl rfl rfl fun h => h) fun _ => ?_
  refine keeps_bind (updateStorePct_thinned _) fun _ => ?_
  exact keeps_modify fun _ => thinned_of_same rfl rfl rfl fun h => h

theorem lost_placement (draw : ℚ) (image : ImageMetadata) :
    (image.lost draw).placement = image.placement := by
  unfold ImageMetadata.lost
  split
  · rfl
  · rfl

theorem follow_thinned (found : Surroundings) (s : PayloadState) : Thinned s (s.follow found) := by
  have haside := follow_aside found s
  obtain ⟨mid, seen, mode, err, stab, remaining, worst, quality, images, himages, rfl, hfollow⟩ :=
    follow_eq found s
  rw [hfollow] at haside ⊢
  refine ⟨?_, rfl, haside.imageSize, haside.ratio⟩
  unfold placements
  rcases himages with rfl | rfl
  · exact List.Sublist.refl _
  · have hkept := changeLast_map s.stripSceneId (lost_placement found.draw) s.imageCatalog
    exact hkept ▸ List.Sublist.refl (s.imageCatalog.map ImageMetadata.placement)

theorem tick_thinned (found : Surroundings) : Keeps Thinned (tick found) := by
  refine keeps_bind (keeps_modify fun s => (prepare_untouched found s).thinned) fun _ => ?_
  refine keeps_bind (generate_thinned found) fun _ => ?_
  exact keeps_modify (follow_thinned found)

/-- **Only a capture adds to a segment.** -/
theorem thinned_or_capture (s : PayloadState) (event : PayloadEvent) :
    Thinned s (step s event) ∨ ∃ cmd draw, event = .command (.capture cmd draw) := by
  rcases untouched_or_acting s event with
    h | hcapture | ⟨sceneId, count, rfl⟩ | ⟨found, rfl⟩ | rfl
  · exact .inl h.thinned
  · exact .inr hcapture
  · by_cases hscene : sceneId = none ∨ sceneId = some .none
    · rcases hscene with rfl | rfl
      · exact .inl ((deleteOldest_thinned count).final s)
      · exact .inl ((deleteOldest_thinned count).final s)
    · obtain ⟨scene, rfl⟩ := Option.ne_none_iff_exists'.mp fun h => hscene (.inl h)
      rw [step_deleteScene fun h => hscene (.inr (congrArg some h))]
      exact .inl ((deleteScene_thinned scene).final s)
  · exact .inl ((tick_thinned found).final s)
  · exact .inl (thinned_of_same rfl rfl rfl fun h => h)

/-! ### Captures -/

/-- What stays of the catalogue when one more image is filed. -/
def PayloadState.kept (s : PayloadState) : List (Nat × ℚ) :=
  if s.imageCatalog.length < 1000 then s.placements else s.placements.tail

theorem kept_sublist (s : PayloadState) : s.kept.Sublist s.placements := by
  unfold kept
  split
  · exact List.Sublist.refl _
  · exact List.tail_sublist _

theorem filed_placements (catalog : List ImageMetadata) (image : ImageMetadata) :
    (filed catalog image).map ImageMetadata.placement =
      (if catalog.length < 1000 then catalog.map ImageMetadata.placement
        else (catalog.map ImageMetadata.placement).tail) ++ [image.placement] := by
  unfold filed
  simp only [List.length_append, List.length_singleton]
  by_cases hroom : catalog.length < 1000
  · rw [if_neg (by omega), if_pos hroom, List.map_append]
    rfl
  · have hnonempty : catalog ≠ [] := by
      rintro rfl
      exact hroom (by decide)
    rw [if_pos (by omega), if_neg hroom, List.tail_append_of_ne_nil hnonempty, List.map_append,
      List.map_tail]
    rfl

/-- The image of a shot, among the images that stay. -/
theorem file_placements (shot : Shot) (draw : ℚ) (s : PayloadState) :
    (s.file shot (s.image shot draw)).placements = s.kept ++ [(shot.segment, shot.storedSize)] :=
  filed_placements s.imageCatalog (s.image shot draw)

variable {s : PayloadState} {cmd : CaptureCommand}

/-- A capture that passes its checks, as seen by the segments. -/
theorem capture_placements {shot : Shot} (h : s.checkCapture cmd = .ok shot) (draw : ℚ) :
    (finalState (capture cmd draw) s).placements = s.kept ++ [(shot.segment, shot.storedSize)] ∧
      (finalState (capture cmd draw) s).segmentSizeMb = s.segmentSizeMb := by
  rw [← file_placements shot draw s]
  refine (wp_state (P := fun s' : PayloadState =>
    s'.placements = (s.file shot (s.image shot draw)).placements ∧
      s'.segmentSizeMb = s.segmentSizeMb)).mp ?_
  unfold capture
  rw [wp_bind, wp_get, h]
  unfold expose updateStorePct
  have hcount : (s.countCorrupt.file shot (s.image shot draw)).placements =
      (s.file shot (s.image shot draw)).placements ∧
        (s.countCorrupt.file shot (s.image shot draw)).segmentSizeMb = s.segmentSizeMb := by
    unfold countCorrupt
    split
    · exact ⟨rfl, rfl⟩
    · exact ⟨rfl, rfl⟩
  rw [wp_bind, wp_get, wp_bind, wp_modify, wp_bind, wp_modify, wp_bind, wp_bind, wp_get, wp_store]
  refine ⟨fun q _ => ?_, fun _ _ => hcount⟩
  exact hcount

/-- The image that a capture answers with is the one of its shot. -/
theorem captured_segment {draw : ℚ} {image : ImageMetadata}
    (h : value? (capture cmd draw) s = some (.captured image)) : image.segment ∉ s.badSegments := by
  cases hcheck : s.checkCapture cmd with
  | error stop =>
      have hnone : wp (capture cmd draw) (fun reply _ => reply ≠ .captured image)
          (fun _ _ => True) s := by
        unfold capture
        rw [wp_bind, wp_get, hcheck]
        cases stop with
        | raised e => trivial
        | refused why =>
            intro hreply
            cases hreply
      rcases wp_outcome hnone with ⟨reply, hreply, hne⟩ | ⟨hraised, -⟩
      · exact absurd (Option.some.inj (hreply.symm.trans h)) hne
      · cases hraised.symm.trans h
  | ok shot =>
      have hreply : wp (capture cmd draw) (fun reply _ => reply = .captured (s.image shot draw))
          (fun _ _ => True) s := by
        unfold capture expose updateStorePct
        rw [wp_bind, wp_get, hcheck]
        rw [wp_bind, wp_get, wp_bind, wp_modify, wp_bind, wp_modify, wp_bind, wp_bind, wp_get,
          wp_store]
        exact ⟨fun _ _ => rfl, fun _ _ => trivial⟩
      rcases wp_outcome hreply with ⟨reply, hvalue, hsame⟩ | ⟨hraised, -⟩
      · have hanswer := Option.some.inj (hvalue.symm.trans h)
        obtain rfl : s.image shot draw = image := by
          rw [hsame] at hanswer
          exact Reply.captured.inj hanswer
        exact (checkCapture_shot hcheck).segment
      · cases hraised.symm.trans h

/-- **A capture that over fills.**  It passes its checks, and the segment it picks has no space. -/
inductive Overfills (s : PayloadState) : PayloadEvent → Prop
  | capture {cmd shot} (hshot : s.checkCapture cmd = .ok shot)
      (hfull : s.segmentSizeMb < load shot.segment s.kept + shot.storedSize) (draw) :
      Overfills s (.command (.capture cmd draw))

theorem capture_inBounds_iff {shot : Shot} (h : s.checkCapture cmd = .ok shot) (draw : ℚ)
    (hs : Sound s) (hin : s.InBounds) :
    (finalState (capture cmd draw) s).InBounds ↔
      load shot.segment s.kept + shot.storedSize ≤ s.segmentSizeMb := by
  obtain ⟨hplacements, hsegment⟩ := capture_placements h draw
  have hsizes := (placement_sizes s).mp hs.sizes
  have hkept : Within (fun _ => s.segmentSizeMb) s.kept :=
    Within.sublist hin (kept_sublist s) fun e he => (hsizes e he).le
  unfold PayloadState.InBounds
  rw [hplacements, hsegment]
  exact within_concat_iff hkept shot.segment shot.storedSize

theorem step_stays_sound (hs : Sound s) (event : PayloadEvent) : Sound (step s event) := by
  rcases thinned_or_capture s event with hthin | ⟨cmd, draw, rfl⟩
  · exact hthin.sound hs
  · exact capture_sound hs draw

/-- **An event keeps every segment within its size** exactly when it does not over fill one. -/
theorem step_inBounds_iff (hs : Sound s) (hin : s.InBounds) (event : PayloadEvent) :
    (step s event).InBounds ↔ ¬ Overfills s event := by
  rcases thinned_or_capture s event with hthin | ⟨cmd, draw, rfl⟩
  · refine ⟨?_, fun _ => hthin.inBounds hs hin⟩
    rintro hbounds (⟨hshot, hfull, draw⟩)
    exact absurd ((capture_inBounds_iff hshot draw hs hin).mp hbounds) (not_le.mpr hfull)
  · show (finalState (capture cmd draw) s).InBounds ↔ _
    cases hcheck : s.checkCapture cmd with
    | error stop =>
        rw [capture_stopped hcheck]
        refine ⟨?_, fun _ => hin⟩
        rintro - (⟨hshot, -, -⟩)
        cases hcheck.symm.trans hshot
    | ok shot =>
        rw [capture_inBounds_iff hcheck draw hs hin]
        constructor
        · rintro hspace (⟨hshot, hfull, -⟩)
          obtain rfl := Except.ok.inj (hcheck.symm.trans hshot)
          exact absurd hspace (not_le.mpr hfull)
        · intro hnot
          by_contra hfull
          exact hnot (.capture hcheck (not_le.mp hfull) draw)

/-! ### Runs -/

/-- **Images are where there is room.**  An accepted capture is in a good segment, and at every
position of a run no segment holds more than its size. -/
structure Housed (s : PayloadState) (events : List PayloadEvent) : Prop where
  good : ∀ i cmd draw image, events[i]? = some (.command (.capture cmd draw)) →
    value? (capture cmd draw) (Runs.after step s (events.take i)) = some (.captured image) →
      image.segment ∉ (Runs.after step s (events.take i)).badSegments
  within : ∀ i segment, load segment (Runs.after step s (events.take i)).placements ≤
    (Runs.after step s (events.take i)).segmentSizeMb

/-- A configured store is empty, and its segments have a size. -/
theorem configured_inBounds {config : PayloadConfig} (h : configure config = .ok s) :
    s.InBounds := by
  obtain ⟨segmentSize, hsize, hs⟩ := Python.bind_eq_ok.mp h
  cases hs
  intro segment
  unfold quotient at hsize
  split at hsize
  · cases hsize
  · cases hsize
    exact div_nonneg config.totalStorageMb_pos.le (Nat.cast_nonneg _)

theorem configured_sound {config : PayloadConfig} (h : configure config = .ok s)
    (events : List PayloadEvent) : Sound (Runs.after step s events) := by
  apply Runs.invariant
  · intro _ event hs
    exact step_stays_sound hs event
  · exact (configured_solvent h).1

/-- **Segments hold their images in a run of a configured store** exactly when every capture finds
the space in the segment it picks. -/
theorem housed_iff {config : PayloadConfig} {s : PayloadState} (h : configure config = .ok s)
    (events : List PayloadEvent) :
    Housed s events ↔
      ∀ i, ¬ Runs.HappensAt step s events (fun s event => Overfills s event) i := by
  have hsound := fun i => configured_sound h (events.take i)
  constructor
  · rintro hhoused i ⟨event, hevent, hover⟩
    have hnext : Runs.after step s (events.take (i + 1)) =
        step (Runs.after step s (events.take i)) event := Runs.after_take_succ hevent
    have hbounds : (step (Runs.after step s (events.take i)) event).InBounds := by
      rw [← hnext]
      exact hhoused.within (i + 1)
    exact (step_inBounds_iff (hsound i) (hhoused.within i) event).mp hbounds hover
  · intro hnever
    refine ⟨fun i cmd draw image _ hreply => captured_segment hreply, fun i => ?_⟩
    refine Runs.holds_between (P := PayloadState.InBounds) (Nat.zero_le i) (configured_inBounds h)
      ?_
    intro k event _ _ hevent hin
    refine (step_inBounds_iff (hsound k) hin event).mpr fun hover => ?_
    exact hnever k ⟨event, hevent, hover⟩

/-- Four segments of 4 MB each. -/
def smallStore : PayloadConfig where
  imageSizeMb := 4
  totalStorageMb := 16
  numMemorySegments := 4
  lineRateHz := 500
  imageSizeMb_pos := by norm_num
  totalStorageMb_pos := by norm_num

/-- The small store as configured. -/
def smallState : PayloadState :=
  { imageSizeMb := 4, totalStorageMb := 16, numSegments := 4, segmentSizeMb := 4
    memTotalMb := 16, memUsedMb := 16 / 5, lineRateHz := 500 }

theorem smallStore_configured : configure smallStore = .ok smallState := by
  have hsize : quotient smallStore.totalStorageMb smallStore.numMemorySegments = .ok 4 := by
    decide +kernel
  have hused : 20 / 100 * smallStore.totalStorageMb = 16 / 5 := by decide +kernel
  unfold configure
  rw [hsize, hused]
  rfl

/-- Captures of the small store. -/
def shots (n : Nat) : List PayloadEvent := settled ++ List.replicate n (.command (.capture {} 0))

/-- Two images of 2 MB fit into the first segment. -/
theorem smallStore_twoImages : Housed smallState (shots 2) := by
  refine (housed_iff smallStore_configured (shots 2)).mpr ?_
  rintro i ⟨event, hevent, hover⟩
  have hlt : i < 4 := (List.getElem?_eq_some_iff.mp hevent).1
  have hfits : ∀ i < 4,
      ((Runs.after step smallState ((shots 2).take i)).checkCapture {} =
          .error (.refused .notImaging) ∨
        (Runs.after step smallState ((shots 2).take i)).checkCapture {} = .ok ⟨0, 2048, 4, 2, 0⟩) ∧
      load 0 (Runs.after step smallState ((shots 2).take i)).kept + 2 ≤
        (Runs.after step smallState ((shots 2).take i)).segmentSizeMb := by
    decide +kernel
  obtain ⟨hcheck, hspace⟩ := hfits i hlt
  cases hover with
  | @capture cmd shot hshot hfull draw =>
      have hmem := List.mem_of_getElem? hevent
      obtain ⟨rfl, -⟩ : cmd = {} ∧ draw = 0 := by simpa [shots, settled] using hmem
      rcases hcheck with hcheck | hcheck
      · cases hcheck.symm.trans hshot
      · obtain rfl := Except.ok.inj (hcheck.symm.trans hshot)
        exact absurd hspace (not_le.mpr hfull)

/-- The third image goes there too, with three segments empty. -/
theorem smallStore_threeImages :
    configure smallStore = .ok smallState ∧ ¬ Housed smallState (shots 3) := by
  refine ⟨smallStore_configured, fun h => ?_⟩
  have hload := h.within 5 0
  revert hload
  decide +kernel

end Payload
