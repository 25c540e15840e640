import MissionSim.Effects
import MissionSim.PythonFloats

/-!
# The payload

An imager with a store of segments.  A capture checks mode, detector, pointing, arguments and
space, and files the image in a catalogue of at most 1000; an image is deleted by its scene, or the
oldest by their number.  A tick in imaging mode fills the store with raw data.

Sizes and times are exact.  The thermal model, the radiometry, the calibration, the mechanisms, the
transfer, the stamps of an image, the events and the published parameters are left out, and so are
the texts of replies.
-/

namespace Payload

open Python Effects

/-! ### State -/

/-- `0=OK, 1=PARTIAL, 2=CORRUPT`. -/
inductive ImageStatus where
  | ok | incomplete | corrupt
  deriving DecidableEq, Repr

/-- An entry of the catalogue. -/
structure ImageMetadata where
  sceneId : Int
  lines : Int
  quality : ℚ
  status : ImageStatus
  sizeMb : ℚ
  rawSizeMb : ℚ
  compressionRatio : ℚ
  compressionAlgorithm : Int
  segment : Nat
  deriving DecidableEq

/-- `device_states` at power-up. -/
def poweredDevices : Dict Nat Bool :=
  ((((Dict.empty.set 0x0600 true).set 0x0601 true).set 0x0602 true).set 0x0603 true).set 0x0604 true

/-- What is modelled of `PayloadState`.  `nextSceneId` and `lineRateHz` are attributes of the model
beside it, so they are not part of its saved state. -/
structure PayloadState where
  mode : Int := 0
  storeUsedPct : ℚ := 20
  imageCount : Int := 0
  currentSceneId : Int := 0
  checksumErrors : Nat := 0
  imageSizeMb : ℚ := 4
  totalStorageMb : ℚ := 20000
  coolerFailed : Bool := false
  fpaDegraded : Bool := false
  numSegments : Nat := 8
  segmentSizeMb : ℚ := 2500
  badSegments : List Nat := []
  imageCatalog : List ImageMetadata := []
  memTotalMb : ℚ := 20000
  memUsedMb : ℚ := 4000
  lastSceneId : Int := 0
  lastSceneQuality : ℚ := 100
  fpaReady : Bool := false
  memSegmentsBad : Nat := 0
  compressionRatio : ℚ := 2
  compressionAlgorithm : Int := 3
  compressionEnabled : Bool := true
  bandEnableMask : Nat := 0x0F
  aocsSeen : Bool := false
  aocsModeSeen : Int := 0
  aocsTotalErrSeen : ℚ := 0
  aocsRateStabSeen : ℚ := 0
  stripRemainingS : ℚ := 0
  stripWorstErrDeg : ℚ := 0
  stripSceneId : Int := 0
  corruptRemaining : Int := 0
  ccdLineDropout : Bool := false
  fpaReadyTimer : ℚ := 0
  fpaReadyHysteresisS : ℚ := 60
  deviceStates : Dict Nat Bool := poweredDevices
  nextSceneId : Int := 100
  lineRateHz : ℚ := 500

/-- A program on the model. -/
abbrev PayloadProgram (α : Type) := EStateM PyError PayloadState α

/-- `device_states.get(device_id, True)`. -/
def PayloadState.powered (s : PayloadState) (deviceId : Nat) : Bool :=
  (s.deviceStates.get? deviceId).getD true

/-- What is used of a configuration.  An image takes space, and the store has some. -/
structure PayloadConfig where
  imageSizeMb : ℚ
  totalStorageMb : ℚ
  numMemorySegments : Nat
  lineRateHz : ℚ
  imageSizeMb_pos : 0 < imageSizeMb
  totalStorageMb_pos : 0 < totalStorageMb

/-- `x / y`. -/
def quotient (x y : ℚ) : Except PyError ℚ :=
  if y = 0 then .error (.other "float division by zero") else .ok (x / y)

/-- `configure(config)` of a new model. -/
def configure (config : PayloadConfig) : Except PyError PayloadState := do
  let segmentSize ← quotient config.totalStorageMb config.numMemorySegments
  pure { imageSizeMb := config.imageSizeMb
         totalStorageMb := config.totalStorageMb
         numSegments := config.numMemorySegments
         segmentSizeMb := segmentSize
         memTotalMb := config.totalStorageMb
         memUsedMb := 20 / 100 * config.totalStorageMb
         lineRateHz := config.lineRateHz }

/-! ### Captures -/

/-- Why a capture is refused. -/
inductive CaptureRefusal where
  | notImaging
  | fpaNotReady
  | pointingNotFine
  | pointingErrorHigh
  | rateStabilityHigh
  | sceneTaken (sceneId : Int)
  | linesOutOfRange (lines : Int)
  | insufficientStorage
  | noUsableSegments
  deriving DecidableEq, Repr

/-- `error_code` of the refusals that have one. -/
def CaptureRefusal.errorCode : CaptureRefusal → Option Nat
  | .pointingNotFine => some 0x0021
  | .pointingErrorHigh => some 0x0022
  | .rateStabilityHigh => some 0x0023
  | .sceneTaken _ | .linesOutOfRange _ => some 0x0003
  | .notImaging | .fpaNotReady | .insufficientStorage | .noUsableSegments => none

/-- What a command answers. -/
inductive Reply where
  | done
  | captured (image : ImageMetadata)
  | captureRefused (why : CaptureRefusal)
  | failed
  deriving DecidableEq

/-- The arguments of `capture`. -/
structure CaptureCommand where
  sceneId : Option Value := none
  lines : Option Value := none
  force : Bool := false

/-- Why a capture does not come about. -/
inductive CaptureStop where
  | raised (e : PyError)
  | refused (why : CaptureRefusal)
  deriving DecidableEq

/-- What a capture that passes its checks is to take. -/
structure Shot where
  reqScene : Int
  lines : Int
  baseSize : ℚ
  storedSize : ℚ
  segment : Nat
  deriving DecidableEq

/-- A check, with the refusal where it fails. -/
def require (c : Prop) [Decidable c] (why : CaptureRefusal) : Except CaptureStop Unit :=
  if c then .ok () else .error (.refused why)

/-- A computed value, or the exception raised instead. -/
def computed {α : Type} : Except PyError α → Except CaptureStop α
  | .ok a => .ok a
  | .error e => .error (.raised e)

/-- `int(cmd.get(key, 0) or 0)`. -/
def orZero (arg : Option Value) : Except PyError Int :=
  let v := arg.getD (.int 0)
  if v.truthy then v.toInt else .ok 0

/-- The scene ids of the catalogue. -/
def PayloadState.sceneIds (s : PayloadState) : List Int := s.imageCatalog.map ImageMetadata.sceneId

/-- The fine-pointing gate. -/
def PayloadState.checkPointing (force : Bool) (s : PayloadState) : Except CaptureStop Unit :=
  if s.aocsSeen ∧ ¬ force then do
    require (s.aocsModeSeen = 5) .pointingNotFine
    require (s.aocsTotalErrSeen ≤ 5 / 100) .pointingErrorHigh
    require (s.aocsRateStabSeen ≤ 5 / 1000) .rateStabilityHigh
  else .ok ()

/-- The scene asked for; 0 asks for the next free one. -/
def PayloadState.checkScene (arg : Option Value) (s : PayloadState) : Except CaptureStop Int := do
  let reqScene ← computed (orZero arg)
  require (reqScene = 0 ∨ reqScene ∉ s.sceneIds) (.sceneTaken reqScene)
  pure reqScene

/-- The lines asked for; 0 asks for those of the reference frame. -/
def checkLines (arg : Option Value) : Except CaptureStop Int := do
  let asked ← computed (orZero arg)
  let lines := if asked = 0 then 2048 else asked
  require (256 ≤ lines ∧ lines ≤ 20000) (.linesOutOfRange lines)
  pure lines

/-- `max(1, bin(band_enable_mask & 0x0F).count('1'))`. -/
def PayloadState.activeBands (s : PayloadState) : Nat :=
  max 1 ((List.range 4).countP fun i => s.bandEnableMask.testBit i)

/-- The raw volume of a frame. -/
def PayloadState.baseSize (lines : Int) (s : PayloadState) : ℚ :=
  s.imageSizeMb * (lines / 2048) * (s.activeBands / 4)

/-- The stored volume of a frame. -/
def PayloadState.storedSize (baseSize : ℚ) (s : PayloadState) : Except PyError ℚ :=
  if s.compressionEnabled then quotient baseSize s.compressionRatio else .ok baseSize

/-- `_available_storage_mb()`. -/
def PayloadState.availableStorageMb (s : PayloadState) : ℚ :=
  max 0 (((s.numSegments : ℚ) - s.badSegments.length) * s.segmentSizeMb - s.memUsedMb)

/-- `_find_free_segment()`. -/
def PayloadState.findFreeSegment (s : PayloadState) : Option Nat :=
  (List.range s.numSegments).find? fun segment => segment ∉ s.badSegments

/-- The checks of a capture, in their order. -/
def PayloadState.checkCapture (cmd : CaptureCommand) (s : PayloadState) :
    Except CaptureStop Shot := do
  require (s.mode = 2) .notImaging
  require (s.fpaReady = true) .fpaNotReady
  s.checkPointing cmd.force
  let reqScene ← s.checkScene cmd.sceneId
  let lines ← checkLines cmd.lines
  let baseSize := s.baseSize lines
  let storedSize ← computed (s.storedSize baseSize)
  require (storedSize ≤ s.availableStorageMb) .insufficientStorage
  match s.findFreeSegment with
  | none => .error (.refused .noUsableSegments)
  | some segment => .ok ⟨reqScene, lines, baseSize, storedSize, segment⟩

/-- `rng.uniform(low, high)` for a draw between 0 and 1. -/
def uniform (low high draw : ℚ) : ℚ := low + (high - low) * draw

/-- The status and the quality of the next image. -/
def PayloadState.grade (draw : ℚ) (s : PayloadState) : ImageStatus × ℚ :=
  if 0 < s.corruptRemaining then (.corrupt, uniform 10 30 draw)
  else if s.ccdLineDropout then (.incomplete, uniform 60 85 draw)
  else if s.fpaDegraded then (.ok, uniform 80 95 draw)
  else (.ok, 100)

/-- A corrupt image is counted. -/
def PayloadState.countCorrupt (s : PayloadState) : PayloadState :=
  if 0 < s.corruptRemaining then
    { s with corruptRemaining := s.corruptRemaining - 1, checksumErrors := s.checksumErrors + 1 }
  else s

/-- The scene of the next image. -/
def PayloadState.sceneFor (reqScene : Int) (s : PayloadState) : Int :=
  if reqScene = 0 then s.nextSceneId + 1 else reqScene

/-- The next image. -/
def PayloadState.image (shot : Shot) (draw : ℚ) (s : PayloadState) : ImageMetadata where
  sceneId := s.sceneFor shot.reqScene
  lines := shot.lines
  quality := (s.grade draw).2
  status := (s.grade draw).1
  sizeMb := shot.storedSize
  rawSizeMb := shot.baseSize
  compressionRatio := s.compressionRatio
  compressionAlgorithm := s.compressionAlgorithm
  segment := shot.segment

/-- The catalogue with one more image, without the oldest when it is over full. -/
def filed (catalog : List ImageMetadata) (image : ImageMetadata) : List ImageMetadata :=
  let longer := catalog ++ [image]
  if 1000 < longer.length then longer.tail else longer

/-- The image goes into the catalogue. -/
def PayloadState.file (shot : Shot) (image : ImageMetadata) (s : PayloadState) : PayloadState :=
  { s with
    nextSceneId := if shot.reqScene = 0 then s.nextSceneId + 1 else max s.nextSceneId shot.reqScene
    imageCatalog := filed s.imageCatalog image
    stripRemainingS := shot.lines / max 1 s.lineRateHz
    stripWorstErrDeg := if s.aocsSeen then s.aocsTotalErrSeen else 0
    stripSceneId := image.sceneId
    imageCount := s.imageCount + 1
    memUsedMb := s.memUsedMb + shot.storedSize }

/-- `store_used_pct`, within a bound. -/
def updateStorePct (bound : ℚ → ℚ) : PayloadProgram Unit := do
  let s ← get
  store (quotient s.memUsedMb s.memTotalMb) fun q s => { s with storeUsedPct := bound (q * 100) }

/-- Take an image that passed the checks. -/
def expose (shot : Shot) (draw : ℚ) : PayloadProgram Reply := do
  let s ← get
  let image := s.image shot draw
  modify PayloadState.countCorrupt
  modify (PayloadState.file shot image)
  updateStorePct (min 100)
  modify fun s => { s with
    currentSceneId := image.sceneId
    lastSceneId := image.sceneId
    lastSceneQuality := image.quality }
  pure (.captured image)

/-- `capture`, for a draw of the generator. -/
def capture (cmd : CaptureCommand) (draw : ℚ) : PayloadProgram Reply := do
  let s ← get
  match s.checkCapture cmd with
  | .error (.raised e) => throw e
  | .error (.refused why) => pure (.captureRefused why)
  | .ok shot => expose shot draw

/-! ### Deletions -/

/-- `delete_image` of a scene. -/
def deleteScene (sceneId : Value) : PayloadProgram Reply := do
  let id ← fromExcept sceneId.toInt
  let s ← get
  match s.imageCatalog.find? fun image => image.sceneId = id with
  | none => pure .failed
  | some image =>
      modify fun s => { s with memUsedMb := max 0 (s.memUsedMb - image.sizeMb) }
      updateStorePct (max 0)
      modify fun s => { s with
        imageCount := max 0 (s.imageCount - 1)
        imageCatalog := s.imageCatalog.eraseP fun image => image.sceneId = id }
      pure .done

/-- The oldest image goes. -/
def PayloadState.dropOldest (s : PayloadState) : PayloadState :=
  match s.imageCatalog with
  | [] => s
  | image :: rest => { s with
      imageCatalog := rest, memUsedMb := max 0 (s.memUsedMb - image.sizeMb) }

/-- `delete_image` of the oldest. -/
def deleteOldest (count : Option Value) : PayloadProgram Reply := do
  let cnt ← fromExcept (intArg count 1)
  let s ← get
  store (quotient (s.imageSizeMb * cnt) s.totalStorageMb) fun freed s =>
    { s with storeUsedPct := max 0 (s.storeUsedPct - freed * 100) }
  modify fun s => { s with imageCount := max 0 (s.imageCount - cnt) }
  modify PayloadState.dropOldest^[min cnt.toNat s.imageCatalog.length]
  pure .done

/-- `delete_image`: without a scene, of the oldest. -/
def deleteImage (sceneId count : Option Value) : PayloadProgram Reply :=
  match sceneId with
  | none | some .none => deleteOldest count
  | some scene => deleteScene scene

/-! ### Segments, modes and settings -/

/-- The total follows the bad segments. -/
def PayloadState.setBadSegments (bad : List Nat) (s : PayloadState) : PayloadState :=
  { s with
    badSegments := bad
    memSegmentsBad := bad.length
    memTotalMb := ((s.numSegments : ℚ) - bad.length) * s.segmentSizeMb }

/-- A segment goes bad, if there is such a good segment. -/
def PayloadState.failSegment (segment : Int) (s : PayloadState) : PayloadState :=
  if (0 ≤ segment ∧ segment < s.numSegments) ∧ segment.toNat ∉ s.badSegments then
    s.setBadSegments (s.badSegments ++ [segment.toNat])
  else s

/-- `mark_bad_segment`. -/
def markBadSegment (segment : Option Value) : PayloadProgram Reply := do
  let n ← fromExcept (intArg segment 0)
  let s ← get
  if 0 ≤ n ∧ n < s.numSegments then do
    modify (PayloadState.failSegment n)
    pure .done
  else pure .failed

/-- `set_mode`. -/
def setMode (mode : Option Value) : PayloadProgram Reply := do
  let m ← fromExcept (intArg mode 0)
  if m ∈ [0, 1, 2] then do
    modify fun s => { s with mode := m }
    pure .done
  else pure .failed

/-- `set_scene`. -/
def setScene (sceneId : Option Value) : PayloadProgram Reply := do
  let id ← fromExcept (intArg sceneId 0)
  modify fun s => { s with currentSceneId := id }
  pure .done

/-- `set_band_config`. -/
def setBandConfig (mask : Option Value) : PayloadProgram Reply := do
  let m ← fromExcept (intArg mask 0x0F)
  if 0 < m ∧ m ≤ 0x0F then do
    modify fun s => { s with bandEnableMask := m.toNat }
    pure .done
  else pure .failed

/-- `set_compression`. -/
def setCompression (algorithm : Option Value) (ratio : ℚ) : PayloadProgram Reply := do
  let s ← get
  let algo ← fromExcept (intArg algorithm s.compressionAlgorithm)
  if ¬ (0 ≤ algo ∧ algo ≤ 3) then pure .failed
  else if ratio ≠ 0 ∧ ¬ (1 ≤ ratio ∧ ratio ≤ 4) then pure .failed
  else do
    modify fun s => { s with
      compressionAlgorithm := algo
      compressionRatio := if 0 < ratio then ratio else s.compressionRatio }
    pure .done

/-- `handle_command`'s commands; `other` is one that changes nothing of what is modelled. -/
inductive PayloadCommand where
  | setMode (mode : Option Value)
  | setScene (sceneId : Option Value)
  | capture (cmd : CaptureCommand) (draw : ℚ)
  | deleteImage (sceneId count : Option Value)
  | markBadSegment (segment : Option Value)
  | setBandConfig (mask : Option Value)
  | setCompression (algorithm : Option Value) (ratio : ℚ)
  | other

/-- `handle_command(cmd)`. -/
def handleCommand : PayloadCommand → PayloadProgram Reply
  | .setMode mode => setMode mode
  | .setScene sceneId => setScene sceneId
  | .capture cmd draw => capture cmd draw
  | .deleteImage sceneId count => deleteImage sceneId count
  | .markBadSegment segment => markBadSegment segment
  | .setBandConfig mask => setBandConfig mask
  | .setCompression algorithm ratio => setCompression algorithm ratio
  | .other => pure .done

/-! ### Failures, devices and saved states -/

/-- The failures of the model; `magnitude` is whether it is not zero. -/
inductive PayloadFailure where
  | coolerFailure (magnitude : Bool)
  | fpaDegraded (magnitude : Bool)
  | imageCorrupt (count : Option Value)
  | memorySegmentFail (segment : Option Value)
  | ccdLineDropout (magnitude : Bool)
  | other

/-- `inject_failure(failure)`. -/
def injectFailure : PayloadFailure → PayloadProgram Unit
  | .coolerFailure magnitude => modify fun s => { s with coolerFailed := magnitude }
  | .fpaDegraded magnitude => modify fun s => { s with fpaDegraded := magnitude }
  | .imageCorrupt count => store (intArg count 3) fun n s => { s with corruptRemaining := n }
  | .memorySegmentFail segment => store (intArg segment 0) PayloadState.failSegment
  | .ccdLineDropout magnitude => modify fun s => { s with ccdLineDropout := magnitude }
  | .other => pure ()

/-- A segment is good again, or all are. -/
def PayloadState.mendSegment (segment : Int) (s : PayloadState) : PayloadState :=
  if 0 ≤ segment ∧ segment.toNat ∈ s.badSegments then
    s.setBadSegments (s.badSegments.erase segment.toNat)
  else s.setBadSegments []

/-- `clear_failure(failure)`. -/
def clearFailure : PayloadFailure → PayloadProgram Unit
  | .coolerFailure _ => modify fun s => { s with coolerFailed := false }
  | .fpaDegraded _ => modify fun s => { s with fpaDegraded := false }
  | .imageCorrupt _ => modify fun s => { s with corruptRemaining := 0 }
  | .memorySegmentFail segment => store (intArg segment (-1)) PayloadState.mendSegment
  | .ccdLineDropout _ => modify fun s => { s with ccdLineDropout := false }
  | .other => pure ()

/-- `set_device_state(device_id, on_off)`. -/
def setDeviceState (deviceId : Nat) (onOff : Bool) : PayloadProgram Bool := do
  let s ← get
  if s.deviceStates.contains deviceId then do
    modify fun s => { s with deviceStates := s.deviceStates.set deviceId onOff }
    pure true
  else pure false

/-- `set_state(get_state())` of a new model with the same configuration. -/
def PayloadState.restored (s : PayloadState) : PayloadState := { s with nextSceneId := 100 }

/-! ### Ticks -/

/-- The pointing that the attitude control publishes. -/
structure Pointing where
  mode : Int
  totalErr : ℚ
  rateStab : ℚ

/-- What a tick finds: its length, the power line, whether the detector is in its range, the data
rate, whether a checksum fails, the pointing if there is one, a draw for a strip that is lost, and
the entropy of the scene. -/
structure Surroundings where
  dt : ℚ
  line : Bool := true
  tempInRange : Bool := true
  dataRateMbps : ℚ := 80
  checksumFails : Bool := false
  pointing : Option Pointing := none
  draw : ℚ := 0
  entropy : ℚ := 0

/-- The power line of the payload. -/
def PayloadState.lineGate (found : Surroundings) (s : PayloadState) : PayloadState :=
  if ¬ found.line ∧ s.mode ≠ 0 then { s with mode := 0, fpaReady := false, fpaReadyTimer := 0 }
  else s

/-- The readiness of the detector. -/
def PayloadState.settle (found : Surroundings) (s : PayloadState) : PayloadState :=
  if found.tempInRange ∧ ¬ s.coolerFailed then
    { s with
      fpaReadyTimer := s.fpaReadyTimer + found.dt
      fpaReady := s.fpaReady || decide (s.fpaReadyHysteresisS ≤ s.fpaReadyTimer + found.dt) }
  else { s with fpaReady := false, fpaReadyTimer := 0 }

/-- Imaging mode generates data. -/
def PayloadState.Imaging (s : PayloadState) : Prop :=
  s.mode = 2 ∧ s.fpaReady = true ∧ s.coolerFailed = false

instance (s : PayloadState) : Decidable s.Imaging := inferInstanceAs (Decidable (_ ∧ _ ∧ _))

/-- The data of imaging mode. -/
def generate (found : Surroundings) : PayloadProgram Unit := do
  let s ← get
  when s.Imaging do
    modify fun s => { s with
      memUsedMb := min s.memTotalMb (s.memUsedMb + found.dataRateMbps / 8 * found.dt) }
    updateStorePct (min 100)
    modify fun s => { s with
      checksumErrors := if found.checksumFails then s.checksumErrors + 1 else s.checksumErrors }

/-- The pointing is sampled. -/
def PayloadState.sample (found : Surroundings) (s : PayloadState) : PayloadState :=
  match found.pointing with
  | none => s
  | some p => { s with
      aocsSeen := true, aocsModeSeen := p.mode, aocsTotalErrSeen := p.totalErr,
      aocsRateStabSeen := p.rateStab }

/-- An image whose strip was lost. -/
def ImageMetadata.lost (draw : ℚ) (image : ImageMetadata) : ImageMetadata :=
  if image.status = .ok then
    { image with status := .incomplete, quality := min image.quality (uniform 55 80 draw) }
  else image

/-- The last image of a scene is changed. -/
def changeLast (sceneId : Int) (f : ImageMetadata → ImageMetadata) :
    List ImageMetadata → List ImageMetadata
  | [] => []
  | image :: rest =>
      if image.sceneId = sceneId ∧ sceneId ∉ rest.map ImageMetadata.sceneId then f image :: rest
      else image :: changeLast sceneId f rest

/-- The strip that is scanned. -/
def PayloadState.monitorStrip (found : Surroundings) (s : PayloadState) : PayloadState :=
  if 0 < s.stripRemainingS then
    let fineLost := s.aocsSeen ∧ (s.aocsModeSeen ≠ 5 ∨ 5 / 100 < s.aocsTotalErrSeen)
    let last := (s.imageCatalog.filter fun image => image.sceneId = s.stripSceneId).getLast?
    { s with
      stripRemainingS := max 0 (s.stripRemainingS - found.dt)
      stripWorstErrDeg := if fineLost then max s.stripWorstErrDeg s.aocsTotalErrSeen
        else s.stripWorstErrDeg
      imageCatalog := if fineLost then
          changeLast s.stripSceneId (ImageMetadata.lost found.draw) s.imageCatalog
        else s.imageCatalog
      lastSceneQuality := if fineLost then
          (last.map fun image => (image.lost found.draw).quality).getD s.lastSceneQuality
        else s.lastSceneQuality }
  else s

/-- The compression follows the scene. -/
def PayloadState.adaptCompression (found : Surroundings) (s : PayloadState) : PayloadState :=
  { s with
    compressionRatio := if s.mode = 2 then 4 - max 0 (min 1 found.entropy) * (5 / 2) else 2
    memSegmentsBad := s.badSegments.length }

/-- `_apply_device_power_gates(s)`. -/
def PayloadState.applyDevicePowerGates (s : PayloadState) : PayloadState :=
  { s with
    mode := if s.powered 0x0600 then s.mode else 0
    fpaReady := s.powered 0x0600 && s.fpaReady
    fpaReadyTimer := if s.powered 0x0600 then s.fpaReadyTimer else 0
    compressionRatio := if s.powered 0x0604 then s.compressionRatio else 1 }

/-- What a tick does before it generates data. -/
def PayloadState.prepare (found : Surroundings) (s : PayloadState) : PayloadState :=
  (s.lineGate found).settle found

/-- What a tick does after it generated data. -/
def PayloadState.follow (found : Surroundings) (s : PayloadState) : PayloadState :=
  (((s.sample found).monitorStrip found).adaptCompression found).applyDevicePowerGates

/-- `tick(dt)`. -/
def tick (found : Surroundings) : PayloadProgram Unit := do
  modify (PayloadState.prepare found)
  generate found
  modify (PayloadState.follow found)

/-! ### Runs -/

/-- What happens to the model: a command, a failure, a device switched, a tick, or its saved state
taken into a new model. -/
inductive PayloadEvent where
  | command (cmd : PayloadCommand)
  | inject (failure : PayloadFailure)
  | clear (failure : PayloadFailure)
  | device (deviceId : Nat) (onOff : Bool)
  | tick (found : Surroundings)
  | restore

/-- The state after an event, also one that raises. -/
def step (s : PayloadState) : PayloadEvent → PayloadState
  | .command cmd => finalState (handleCommand cmd) s
  | .inject failure => finalState (injectFailure failure) s
  | .clear failure => finalState (clearFailure failure) s
  | .device deviceId onOff => finalState (setDeviceState deviceId onOff) s
  | .tick found => finalState (tick found) s
  | .restore => s.restored

end Payload
