import CryptoUsb.ContentTypes
import CryptoUsb.ProtectionKeySlots
import CryptoUsb.Simulations

/-!
# Deception events

The table of activations, with its identifiers that are never given twice.  It is a trail that
grows at its front and can be emptied.
-/

namespace CryptoUsb

open IsoDateTime Simulations

namespace DeceptionTrigger

def all : List DeceptionTrigger :=
  [.wrongCredentials, .accessAlreadyUsed, .deviceMismatch, .metadataTampering, .integrityFailure]

def value : DeceptionTrigger → String
  | .wrongCredentials => "wrong_credentials"
  | .accessAlreadyUsed => "access_already_used"
  | .deviceMismatch => "device_mismatch"
  | .metadataTampering => "metadata_tampering"
  | .integrityFailure => "integrity_failure"

/-- `DeceptionTrigger(value)`. -/
def ofValue (text : String) : Raises DeceptionTrigger :=
  match all.find? fun trigger => trigger.value == text with
  | some trigger => .ok trigger
  | none => raise .valueError s!"'{text}' is not a valid DeceptionTrigger"

@[simp] theorem ofValue_value (trigger : DeceptionTrigger) :
    ofValue trigger.value = .ok trigger := by
  cases trigger <;> rfl

end DeceptionTrigger

namespace DeceptionContentType

/-- `DeceptionContentType(value)`. -/
def ofValue (text : String) : Raises DeceptionContentType :=
  match all.find? fun contentType => contentType.value == text with
  | some contentType => .ok contentType
  | none => raise .valueError s!"'{text}' is not a valid DeceptionContentType"

@[simp] theorem ofValue_value (contentType : DeceptionContentType) :
    ofValue contentType.value = .ok contentType := by
  cases contentType <;> rfl

end DeceptionContentType

/-! ## The table -/

/-- A row with the identifier that the database gave it. -/
structure StoredEvent where
  id : Nat
  row : DeceptionEventRow

/-- The rows, and the last identifier that was given. -/
structure DeceptionEvents where
  sequence : Nat := 0
  rows : List StoredEvent := []

structure DeceptionEventRecord where
  id : Nat
  trigger : DeceptionTrigger
  contentType : DeceptionContentType
  fileId : Option String
  generatedAt : DateTime
  deviceInfo : PresentedDeviceInfo
  deriving DecidableEq

/-- The arguments of `record`. -/
structure EventNote where
  trigger : DeceptionTrigger
  contentType : DeceptionContentType
  fileId : Option String
  generatedAt : DateTime
  deviceInfo : Option PresentedDeviceInfo := none

/-- `PresentedDeviceInfo()`. -/
def PresentedDeviceInfo.absent : PresentedDeviceInfo :=
  ⟨none, none, none, none, none, none⟩

/-- A statement or its commit fails with an error of the database. -/
structure SqliteFault where
  text : String

namespace DeceptionEvents

/-- The columns that are written. -/
def rowOf (note : EventNote) : DeceptionEventRow :=
  let info := note.deviceInfo.getD .absent
  { trigger := note.trigger.value
    contentType := note.contentType.value
    fileId := note.fileId
    generatedAt := isoformat note.generatedAt
    usbSerial := info.usbSerial
    vendorId := info.vendorId
    productId := info.productId
    hardwareSerial := info.hardwareSerial
    mountPoint := info.mountPoint
    label := info.label }

def record (events : DeceptionEvents) (fault : Option SqliteFault) (note : EventNote) :
    DeceptionEvents × Raises Unit :=
  match fault with
  | some fault => (events, raise .sqliteError fault.text)
  | none =>
      ({ sequence := events.sequence + 1
         rows := events.rows ++ [⟨events.sequence + 1, rowOf note⟩] }, .ok ())

def readEvent (stored : StoredEvent) : Raises DeceptionEventRecord := do
  let trigger ← DeceptionTrigger.ofValue stored.row.trigger
  let contentType ← DeceptionContentType.ofValue stored.row.contentType
  let generatedAt ← asDateTime (.str stored.row.generatedAt)
  return {
    id := stored.id
    trigger
    contentType
    fileId := stored.row.fileId
    generatedAt
    deviceInfo := {
      usbSerial := stored.row.usbSerial
      vendorId := stored.row.vendorId
      productId := stored.row.productId
      hardwareSerial := stored.row.hardwareSerial
      mountPoint := stored.row.mountPoint
      label := stored.row.label } }

/-- `ORDER BY id DESC`. -/
def newestFirst (rows : List StoredEvent) : List StoredEvent :=
  rows.mergeSort fun first second => decide (second.id ≤ first.id)

def listEvents (events : DeceptionEvents) : Raises (List DeceptionEventRecord) :=
  (newestFirst events.rows).mapM readEvent

def count (events : DeceptionEvents) : Nat :=
  events.rows.length

/-- The rows go, the sequence stays; the number of deleted rows. -/
def clear (events : DeceptionEvents) (fault : Option SqliteFault) : DeceptionEvents × Raises Nat :=
  match fault with
  | some fault => (events, raise .sqliteError fault.text)
  | none => ({ events with rows := [] }, .ok events.rows.length)

end DeceptionEvents

/-! ## Calls and answers -/

inductive EventCall
  | record (note : EventNote) (fault : Option SqliteFault)
  | listEvents
  | count
  | clear (fault : Option SqliteFault)

inductive EventAnswer
  | recorded
  | events (records : List DeceptionEventRecord)
  | number (value : Nat)

def DeceptionEvents.respond (events : DeceptionEvents) :
    EventCall → DeceptionEvents × Raises EventAnswer
  | .record note fault =>
      let recorded := events.record fault note
      (recorded.1, recorded.2.map fun _ => .recorded)
  | .listEvents => (events, events.listEvents.map .events)
  | .count => (events, .ok (.number events.count))
  | .clear fault =>
      let cleared := events.clear fault
      (cleared.1, cleared.2.map .number)

/-! ## The trail -/

/-- The events since the last clearing, the newest one first, and how many there have ever
been. -/
structure EventTrail where
  everRecorded : Nat := 0
  events : List DeceptionEventRecord := []

namespace EventTrail

/-- The next event. -/
def entry (trail : EventTrail) (note : EventNote) : DeceptionEventRecord where
  id := trail.everRecorded + 1
  trigger := note.trigger
  contentType := note.contentType
  fileId := note.fileId
  generatedAt := note.generatedAt
  deviceInfo := note.deviceInfo.getD .absent

def note (trail : EventTrail) (note : EventNote) : EventTrail :=
  ⟨trail.everRecorded + 1, trail.entry note :: trail.events⟩

def respond (trail : EventTrail) : EventCall → EventTrail × Raises EventAnswer
  | .record _ (some fault) => (trail, raise .sqliteError fault.text)
  | .record note none => (trail.note note, .ok .recorded)
  | .listEvents => (trail, .ok (.events trail.events))
  | .count => (trail, .ok (.number trail.events.length))
  | .clear (some fault) => (trail, raise .sqliteError fault.text)
  | .clear none => ({ trail with events := [] }, .ok (.number trail.events.length))

end EventTrail

namespace DeceptionEvents

/-- The rows were written in the order of their identifiers, and are the trail from its end. -/
structure Refines (events : DeceptionEvents) (trail : EventTrail) : Prop where
  sequence : events.sequence = trail.everRecorded
  ascending : events.rows.Pairwise fun first second => first.id < second.id
  given : ∀ stored ∈ events.rows, stored.id ≤ events.sequence
  read : events.rows.reverse.mapM readEvent = .ok trail.events

variable {events : DeceptionEvents} {trail : EventTrail}

/-- Rows in the order of their identifiers are listed from the last one on. -/
theorem newestFirst_of_ascending {rows : List StoredEvent}
    (ascending : rows.Pairwise fun first second => first.id < second.id) :
    newestFirst rows = rows.reverse := by
  have same : (newestFirst rows).Perm rows := List.mergeSort_perm rows _
  have sorted : (newestFirst rows).Pairwise fun first second => second.id ≤ first.id := by
    refine (List.pairwise_mergeSort ?_ ?_ rows).imp fun ordered => of_decide_eq_true ordered
    · intro first second third before after
      simp only [decide_eq_true_eq] at before after ⊢
      omega
    · intro first second
      simp only [Bool.or_eq_true, decide_eq_true_eq]
      omega
  have distinct : (newestFirst rows).Pairwise fun first second => first.id ≠ second.id :=
    (ascending.imp Nat.ne_of_lt).perm same.symm Ne.symm
  have descending : (newestFirst rows).Pairwise fun first second => second.id < first.id :=
    (sorted.and distinct).imp fun both => Nat.lt_of_le_of_ne both.1 both.2.symm
  apply List.Perm.eq_of_pairwise _ descending (List.pairwise_reverse.mpr ascending)
    (same.trans (List.reverse_perm rows).symm)
  intro first second _ _ above below
  exact absurd above (Nat.lt_asymm below)

theorem readEvent_rowOf (id : Nat) (note : EventNote) :
    readEvent ⟨id, rowOf note⟩ = .ok {
      id
      trigger := note.trigger
      contentType := note.contentType
      fileId := note.fileId
      generatedAt := note.generatedAt
      deviceInfo := note.deviceInfo.getD .absent } := by
  simp [readEvent, rowOf, pure, Except.pure]

theorem Refines.listEvents (refines : events.Refines trail) :
    events.listEvents = .ok trail.events := by
  rw [DeceptionEvents.listEvents, newestFirst_of_ascending refines.ascending, refines.read]

theorem length_of_mapM_readEvent {rows : List StoredEvent} {records : List DeceptionEventRecord}
    (read : rows.mapM readEvent = .ok records) : rows.length = records.length := by
  induction rows generalizing records with
  | nil =>
      rw [List.mapM_nil] at read
      rw [← Except.ok.inj read]
      rfl
  | cons stored rows ih =>
      rw [List.mapM_cons] at read
      obtain ⟨record, -, others⟩ := bind_eq_ok.mp read
      obtain ⟨records, readOthers, same⟩ := bind_eq_ok.mp others
      rw [← Except.ok.inj same, List.length_cons, List.length_cons, ih readOthers]

theorem Refines.count (refines : events.Refines trail) : events.count = trail.events.length := by
  rw [← length_of_mapM_readEvent refines.read, List.length_reverse]
  rfl

theorem Refines.record (refines : events.Refines trail) (note : EventNote) :
    (events.record none note).1.Refines (trail.note note) where
  sequence := congrArg (· + 1) refines.sequence
  ascending := by
    rw [DeceptionEvents.record, List.pairwise_append]
    refine ⟨refines.ascending, List.pairwise_singleton .., ?_⟩
    intro stored member last isLast
    rw [List.mem_singleton.mp isLast]
    exact Nat.lt_succ_of_le (refines.given stored member)
  given := by
    intro stored member
    rcases List.mem_append.mp member with earlier | last
    · exact Nat.le_succ_of_le (refines.given stored earlier)
    · rw [List.mem_singleton.mp last]
      exact Nat.le_refl _
  read := by
    show ((events.rows ++ [_]).reverse.mapM readEvent) = _
    rw [List.reverse_concat, List.mapM_cons, readEvent_rowOf, refines.read, refines.sequence]
    rfl

theorem Refines.clear (refines : events.Refines trail) :
    (events.clear none).1.Refines { trail with events := [] } :=
  ⟨refines.sequence, .nil, by simp [DeceptionEvents.clear], rfl⟩

theorem simulates : Simulates respond EventTrail.respond id (fun _ => True) Refines where
  step := by
    intro events trail call refines _
    cases call with
    | record note fault =>
        cases fault with
        | some fault => exact ⟨rfl, refines⟩
        | none => exact ⟨rfl, refines.record note⟩
    | listEvents =>
        rw [respond, refines.listEvents]
        exact ⟨rfl, refines⟩
    | count =>
        rw [respond, refines.count]
        exact ⟨rfl, refines⟩
    | clear fault =>
        cases fault with
        | some fault => exact ⟨rfl, refines⟩
        | none =>
            refine ⟨?_, refines.clear⟩
            show (Except.ok (EventAnswer.number events.count) : Raises EventAnswer) = _
            rw [refines.count]
            rfl

end DeceptionEvents

/-- Whatever is recorded, listed, counted and cleared, the table answers as the trail: every event
is listed as it was noted, the newest one first, under an identifier that no other event has ever
had. -/
theorem deceptionEvents_refine_trail (calls : List EventCall) :
    (answers DeceptionEvents.respond {} calls).2 = (answers EventTrail.respond {} calls).2 := by
  have initially : DeceptionEvents.Refines {} {} := ⟨rfl, .nil, by simp, rfl⟩
  have alike := (DeceptionEvents.simulates.run initially fun call (_ : call ∈ calls) => trivial).1
  rwa [List.map_id] at alike

end CryptoUsb
