import CryptoUsb.DeceptionEvents
import CryptoUsb.FakeMetadata
import CryptoUsb.TransparentPrimitives

/-!
# The deception engine

An activation chooses a kind of content, generates it, names it and records the event.  It raises
only where the record cannot be written; the content is what its kind says.
-/

namespace CryptoUsb

open ByteString RandomDraws IsoDateTime Simulations ContentGenerators

/-- What an engine is built with, apart from its event repository.  `gradient` stands for the
floating-point expression of the image generator. -/
structure DeceptionEngine (State : Type) where
  rng : Random State
  zlib : Zlib
  gradient : Int → Nat → Int

/-- The arguments of `activate`, and the two readings of the clock. -/
structure Activation where
  trigger : DeceptionTrigger
  fileId : Option String := none
  contentType : Option DeceptionContentType := none
  deviceInfo : Option PresentedDeviceInfo := none
  contentClock : UtcInstant
  clock : UtcInstant

namespace DeceptionEngine

section Engine

variable {State : Type} (engine : DeceptionEngine State)

/-- `_GENERATORS`, with the sizes that the generators default to.  Nothing for a `struct.error`. -/
def generate (now : UtcInstant) (fileId : Option String) :
    DeceptionContentType → Drawing State PyError (Option Bytes)
  | .fakeText => some <$> generateFakeText engine.rng
  | .fakePdf => some <$> generateFakePdf engine.rng
  | .fakeImage => generateFakeImage engine.rng engine.zlib engine.gradient 64 64
  | .corruptedData => some <$> generateCorruptedData engine.rng 512
  | .fakeMetadata => some <$> generateFakeMetadata engine.rng now fileId

def stems : List String :=
  ["report", "document", "file", "data", "notes"]

def filenameFor (contentType : DeceptionContentType) : Drawing State PyError String := do
  let stem ← engine.rng.choice stems
  let number ← engine.rng.randint 1000 9999
  return stem ++ "_" ++ toString number ++ "." ++ contentType.fileExtension

/-- `content_type or self._rng.choice(list(DeceptionContentType))`. -/
def chooseType (contentType : Option DeceptionContentType) :
    Drawing State PyError DeceptionContentType :=
  match contentType with
  | some forced => pure forced
  | none => engine.rng.choice DeceptionContentType.all

/-- `activate` up to its record of the event.  Nothing for a `struct.error`. -/
def activate (activation : Activation) : Drawing State PyError (Option DeceptionResponse) := do
  let chosenType ← engine.chooseType activation.contentType
  match ← engine.generate activation.contentClock activation.fileId chosenType with
  | none => return none
  | some content => do
      let filename ← engine.filenameFor chosenType
      return some {
        trigger := activation.trigger
        contentType := chosenType
        content
        mimeType := chosenType.mimeType
        filename
        generatedAt := activation.clock }

end Engine

/-! ## What is handed back -/

section Contents

variable {State : Type} {engine : DeceptionEngine State}

/-- The content is what its kind says. -/
def WellFormed (engine : DeceptionEngine State) (now : UtcInstant) (fileId : Option String)
    (content : Bytes) : DeceptionContentType → Prop
  | .fakeText => ∃ draws, content = DecoyContent.generateFakeText draws
  | .fakePdf => WellFormedPdf content
  | .fakeImage => ∃ rows, PngImage.decode engine.zlib.decompress content = some ⟨64, 64, rows⟩ ∧
      NoisyGradient (engine.gradient 64) 64 rows
  | .corruptedData => content.length = 512 ∧
      ∃ draws, Legible (DecoyContent.generateFakeText draws) content
  | .fakeMetadata => ∃ metadata, ReadsAs content metadata ∧ FakeRecord now metadata ∧
      ∀ given, fileId = some given → given ≠ "" → metadata.fileId = given

/-- The standard libraries that the engine relies on do what they document. -/
structure Documented (engine : DeceptionEngine State) : Prop where
  rng : engine.rng.Documented
  zlib : engine.zlib.Documented

theorem generate_always (documented : engine.Documented) (now : UtcInstant)
    (fileId : Option String) (contentType : DeceptionContentType) :
    Always (engine.generate now fileId contentType) fun generated =>
      ∃ content, generated = some content ∧ engine.WellFormed now fileId content contentType := by
  cases contentType with
  | fakeText =>
      refine .map ((generateFakeText_always documented.rng).imp fun content drawn => ?_)
      exact ⟨content, rfl, drawn⟩
  | fakePdf =>
      refine .map ((generateFakePdf_always documented.rng).imp fun content wellFormed => ?_)
      exact ⟨content, rfl, wellFormed⟩
  | fakeImage =>
      have small : Zlib.compressBound (64 * (1 + 3 * 64)) < 2 ^ 31 := by decide
      refine (generateFakeImage_always documented.rng documented.zlib (by decide) (by decide)
        small).imp fun generated decoded => ?_
      obtain ⟨file, rows, rfl, decodes, noisy⟩ := decoded
      exact ⟨file, rfl, rows, decodes, noisy⟩
  | corruptedData =>
      refine .map ((generateCorruptedData_always documented.rng 512).imp fun content made => ?_)
      exact ⟨content, rfl, by omega, made.2⟩
  | fakeMetadata =>
      refine .map ((generateFakeMetadata_always documented.rng now fileId).imp
        fun content made => ?_)
      exact ⟨content, rfl, made⟩

theorem chooseType_always (documented : engine.Documented)
    (contentType : Option DeceptionContentType) :
    Always (engine.chooseType contentType) fun chosen =>
      ∀ forced, contentType = some forced → chosen = forced := by
  cases contentType with
  | some forced => exact .pure fun _ same => Option.some.inj same
  | none => exact (documented.rng.choice (by decide)).imp fun _ _ _ same => by cases same

/-- A file name of one of the stems, a number of four digits and the extension. -/
def Named (contentType : DeceptionContentType) (filename : String) : Prop :=
  ∃ stem ∈ stems, ∃ number : Int, 1000 ≤ number ∧ number ≤ 9999 ∧
    filename = stem ++ "_" ++ toString number ++ "." ++ contentType.fileExtension

theorem filenameFor_always (documented : engine.Documented)
    (contentType : DeceptionContentType) :
    Always (engine.filenameFor contentType) (Named contentType) := by
  refine .bind (documented.rng.choice (by decide)) fun stem chosen => ?_
  refine .bind (documented.rng.randint (by decide)) fun number bounds => ?_
  exact .pure ⟨stem, chosen, number, bounds.1, bounds.2, rfl⟩

/-- A response to an activation. -/
structure Answers (engine : DeceptionEngine State) (activation : Activation)
    (response : DeceptionResponse) : Prop where
  trigger : response.trigger = activation.trigger
  forced : ∀ forced, activation.contentType = some forced → response.contentType = forced
  mimeType : response.mimeType = response.contentType.mimeType
  content : engine.WellFormed activation.contentClock activation.fileId response.content
    response.contentType
  filename : Named response.contentType response.filename
  generatedAt : response.generatedAt = activation.clock

theorem activate_always (documented : engine.Documented) (activation : Activation) :
    Always (engine.activate activation) fun returned =>
      ∃ response, returned = some response ∧ engine.Answers activation response := by
  refine .bind (chooseType_always documented activation.contentType) fun chosen forced => ?_
  refine .bind (generate_always documented _ _ _) fun generated made => ?_
  obtain ⟨content, rfl, wellFormed⟩ := made
  refine .bind (filenameFor_always documented chosen) fun filename named => ?_
  exact .pure ⟨_, rfl, rfl, forced, rfl, wellFormed, named, rfl⟩

end Contents

/-! ## The events that activations leave -/

/-- An activation, and the fault of the write of its event. -/
structure Call where
  activation : Activation
  fault : Option SqliteFault := none

/-- What an activation records of its response. -/
def noteOf (activation : Activation) (response : DeceptionResponse) : EventNote where
  trigger := activation.trigger
  contentType := response.contentType
  fileId := activation.fileId
  generatedAt := response.generatedAt.1
  deviceInfo := activation.deviceInfo

section Trail

variable {State : Type}

/-- `activate` with an event repository.  A generator that raised would keep it from the record. -/
def respond (engine : DeceptionEngine State) (held : State × DeceptionEvents) (call : Call) :
    (State × DeceptionEvents) × Raises (Option DeceptionResponse) :=
  match engine.activate call.activation held.1 with
  | .error exc => (held, .error exc)
  | .ok (none, next) => ((next, held.2), .ok none)
  | .ok (some response, next) =>
      let recorded := held.2.record call.fault (noteOf call.activation response)
      ((next, recorded.1), recorded.2.map fun _ => some response)

/-- The trail after a call that ended so. -/
def noticed (trail : EventTrail) (ended : Call × Raises (Option DeceptionResponse)) : EventTrail :=
  match ended.2 with
  | .ok (some response) => trail.note (noteOf ended.1.activation response)
  | _ => trail

variable {engine : DeceptionEngine State} {events : DeceptionEvents} {trail : EventTrail}

end Trail

end DeceptionEngine

section Activations

variable {State : Type} {engine : DeceptionEngine State}

end Activations

/-! ## An engine that counts -/

def countingEngine : DeceptionEngine Nat where
  rng := countingRandom
  zlib := storedZlib
  gradient height y := 255 * y / max (height - 1) 1

theorem countingEngine_documented : countingEngine.Documented :=
  ⟨countingRandom_documented, storedZlib_documented⟩

end CryptoUsb
