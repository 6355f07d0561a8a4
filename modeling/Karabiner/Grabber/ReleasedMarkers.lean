import Karabiner.Grabber.MadeEntries

/-! # The marker after the last release

`insert_device_keys_and_pointing_buttons_are_released_event` remembers the pressed keys of a
device over all its batches. The monitor of the device can stop while a key is held, and
the key is still remembered when the monitor starts again. Such a left-over key is the only
thing that makes the marker wrong (`ReleasedMarkers.exact_iff_nothingLeftOver`).
-/

open Foundation.Execution

namespace Karabiner

namespace ReleasedMarkers

/-- The entry is no marker. -/
def unmarked (entry : Entry) : Bool :=
  decide (entry.event ≠ .deviceKeysAndPointingButtonsAreReleased)

/-- A batch of entries before the markers are inserted. -/
structure Batch where
  entries : List Entry
  unmarked : ∀ entry ∈ entries, unmarked entry = true

/-- What `make_entries` returns is such a batch. -/
def Batch.ofValues (deviceId : DeviceId) (isGamePad : Bool) (parameters : MakeEntriesParameters)
    (hat : HatDirection) (values : List HidValue) : Batch where
  entries := (MakeEntries.makeEntries deviceId isGamePad parameters hat values).1
  unmarked := by
    refine MakeEntries.forall_makeEntries (fun parts entry made => ?_)
      (fun value before entry made => ?_) parameters hat values
    · unfold MotionParts.entries at made
      split at made
      · rw [List.mem_singleton.mp made]
        rfl
      · cases made
    · obtain ⟨_, _, ⟨_, event⟩ | ⟨_, event⟩⟩ := MakeEntries.mem_entries made
      · simp [ReleasedMarkers.unmarked, event]
      · simp [ReleasedMarkers.unmarked, event]

/-- What happens to the entry of a device in `device_grabber`. -/
inductive Action where
  | arrived (batch : Batch)
  | stopped
  | started

/-- The pressed keys of the device, with the entries of all batches and of those since the
monitor was last started. -/
structure Life where
  pressedKeysManager : PressedKeysManager
  history : List Entry
  sinceStart : List Entry

def initial : Life := ⟨⟨[]⟩, [], []⟩

def step (deviceId : DeviceId) (life : Life) : Action → Life
  | .arrived batch =>
      { pressedKeysManager :=
          (insertReleasedEvents deviceId batch.entries life.pressedKeysManager).2
        history := life.history ++ batch.entries
        sinceStart := life.sinceStart ++ batch.entries }
  -- The handler of the entry looks after the LED and the stick converter only.
  | .stopped => life
  | .started => { life with sinceStart := [] }

/-! ## What the entries report -/

/-- Whether a key of the device is down after an entry, given whether it was before. -/
def noteReport (deviceId : DeviceId) (key : MomentarySwitchEvent) (down : Bool) (entry : Entry) :
    Bool :=
  if entry.deviceId = deviceId then
    match entry.event.momentarySwitchEvent? with
    | some other => noteKey key down (other, entry.eventType)
    | none => down
  else down

/-- The entries report the key of the device down. -/
def reportedDown (deviceId : DeviceId) (key : MomentarySwitchEvent) (entries : List Entry) :
    Bool :=
  entries.foldl (noteReport deviceId key) false

theorem reportedDown_append (deviceId : DeviceId) (key : MomentarySwitchEvent)
    (entries : List Entry) (entry : Entry) :
    reportedDown deviceId key (entries ++ [entry]) =
      noteReport deviceId key (reportedDown deviceId key entries) entry := by
  unfold reportedDown
  rw [List.foldl_append]
  rfl

/-- After these entries the next one releases the last key of the device that they report
down. -/
def ReleasesLast (deviceId : DeviceId) (entries : List Entry) (entry : Entry) : Prop :=
  entry.deviceId = deviceId ∧ entry.eventType = .keyUp ∧
    ∃ key, entry.event = .momentarySwitchEvent key ∧ reportedDown deviceId key entries = true ∧
      ∀ other, reportedDown deviceId other entries = true → other = key

/-- The marker of an entry. -/
def releasedMarker (deviceId : DeviceId) (entry : Entry) : Entry :=
  .make deviceId entry.eventTimeStamp .deviceKeysAndPointingButtonsAreReleased .single none
    .deviceKeysAndPointingButtonsAreReleased .virtualEvent

/-- The batch with a marker after each release of the last key, and with no other one. -/
inductive Marked (deviceId : DeviceId) : List Entry → List Entry → List Entry → Prop where
  | nil {before : List Entry} : Marked deviceId before [] []
  | marker {before rest output : List Entry} {entry : Entry}
      (last : ReleasesLast deviceId before entry)
      (others : Marked deviceId (before ++ [entry]) rest output) :
      Marked deviceId before (entry :: rest) (entry :: releasedMarker deviceId entry :: output)
  | plain {before rest output : List Entry} {entry : Entry}
      (notLast : ¬ReleasesLast deviceId before entry)
      (others : Marked deviceId (before ++ [entry]) rest output) :
      Marked deviceId before (entry :: rest) (entry :: output)

/-- The batch of the action is marked for the keys reported down since the monitor was last
started, and it is the same without its markers. -/
def Exact (deviceId : DeviceId) (life : Life) : Action → Prop
  | .arrived batch =>
      Marked deviceId life.sinceStart batch.entries
          (insertReleasedEvents deviceId batch.entries life.pressedKeysManager).1 ∧
        (insertReleasedEvents deviceId batch.entries life.pressedKeysManager).1.filter unmarked =
          batch.entries
  | .stopped => True
  | .started => True

/-! ## Left-over keys -/

/-- The entry is a key_down or key_up of the key. -/
def Reports (deviceId : DeviceId) (key : MomentarySwitchEvent) (entry : Entry) : Prop :=
  entry.deviceId = deviceId ∧ entry.eventType ≠ .single ∧ entry.event = .momentarySwitchEvent key

/-- The key was down when the monitor was last started, and nothing has been heard of it
since. -/
def LeftOver (deviceId : DeviceId) (history sinceStart : List Entry)
    (key : MomentarySwitchEvent) : Prop :=
  reportedDown deviceId key history = true ∧
    ∀ entry ∈ sinceStart, ¬Reports deviceId key entry

/-- At a key_up no left-over key counts: there is none when the key is the last one reported
down, and the key is not the only left-over one when no key is reported down. -/
def NoneCounts (deviceId : DeviceId) (history sinceStart : List Entry) (entry : Entry) : Prop :=
  entry.deviceId = deviceId → entry.eventType = .keyUp →
    ∀ key, entry.event = .momentarySwitchEvent key →
      ((∀ other, reportedDown deviceId other sinceStart = true ↔ other = key) →
        ∀ other, ¬LeftOver deviceId history sinceStart other) ∧
      ((∀ other, reportedDown deviceId other sinceStart = false) →
        ¬∀ other, LeftOver deviceId history sinceStart other ↔ other = key)

/-- No left-over key counts at a key_up of the batch. -/
def NothingLeftOver (deviceId : DeviceId) (life : Life) : Action → Prop
  | .arrived batch => ∀ before entry rest, batch.entries = before ++ entry :: rest →
      NoneCounts deviceId (life.history ++ before) (life.sinceStart ++ before) entry
  | .stopped => True
  | .started => True

/-! ## The markers of a batch -/

section

variable {deviceId : DeviceId}

/-- The remembered keys are those that the entries report down. -/
def Tracks (deviceId : DeviceId) (manager : PressedKeysManager) (history : List Entry) : Prop :=
  ∀ key, key ∈ manager.entries ↔ reportedDown deviceId key history = true

/-- What the loop remembers after an entry. -/
def noteEntry (deviceId : DeviceId) (manager : PressedKeysManager) (entry : Entry) :
    PressedKeysManager :=
  match entry.event.momentarySwitchEvent? with
  | some e =>
      if entry.deviceId = deviceId then
        match entry.eventType with
        | .keyDown => manager.insert e
        | .keyUp => manager.erase e
        | .single => manager
      else manager
  | none => manager

/-- The loop puts a marker behind the entry. -/
def Fires (deviceId : DeviceId) (manager : PressedKeysManager) (entry : Entry) : Prop :=
  entry.deviceId = deviceId ∧ entry.eventType = .keyUp ∧ !manager.empty ∧
    (noteEntry deviceId manager entry).empty

instance (manager : PressedKeysManager) (entry : Entry) :
    Decidable (Fires deviceId manager entry) :=
  inferInstanceAs (Decidable (_ ∧ _))

theorem insertReleasedEvents_cons (entry : Entry) (rest : List Entry)
    (manager : PressedKeysManager) :
    insertReleasedEvents deviceId (entry :: rest) manager =
      (entry :: (if Fires deviceId manager entry then [releasedMarker deviceId entry] else []) ++
          (insertReleasedEvents deviceId rest (noteEntry deviceId manager entry)).1,
        (insertReleasedEvents deviceId rest (noteEntry deviceId manager entry)).2) := rfl

/-- The remembered keys go on to be those that the entries report down, an entry later. -/
theorem Tracks.noteEntry {manager : PressedKeysManager} {history : List Entry}
    (tracks : Tracks deviceId manager history) (entry : Entry) :
    Tracks deviceId (noteEntry deviceId manager entry) (history ++ [entry]) := by
  intro key
  rw [reportedDown_append]
  unfold ReleasedMarkers.noteEntry noteReport
  cases isKey : entry.event.momentarySwitchEvent? with
  | none => simpa using tracks key
  | some e =>
      by_cases own : entry.deviceId = deviceId
      swap
      · simpa [own] using tracks key
      · simp only [own, if_true]
        unfold noteKey
        cases entry.eventType with
        | single => exact tracks key
        | keyDown =>
            rw [PressedKeysManager.mem_insert, tracks key, Bool.or_eq_true, decide_eq_true_iff]
            exact or_congr_left eq_comm
        | keyUp =>
            rw [PressedKeysManager.mem_erase, tracks key, and_comm, Bool.and_eq_true,
              Bool.not_eq_true', decide_eq_false_iff_not]
            exact and_congr_left fun _ => ne_comm

theorem empty_iff (manager : PressedKeysManager) :
    manager.empty = true ↔ ∀ key, key ∉ manager.entries := by
  unfold PressedKeysManager.empty
  rw [List.isEmpty_iff, List.eq_nil_iff_forall_not_mem]

/-- A marker is put behind the release of the last key that the entries report down. -/
theorem Tracks.fires_iff {manager : PressedKeysManager} {history : List Entry}
    (tracks : Tracks deviceId manager history) (entry : Entry) :
    Fires deviceId manager entry ↔ ReleasesLast deviceId history entry := by
  unfold Fires ReleasesLast
  refine and_congr_right fun own => and_congr_right fun isUp => ?_
  rw [Bool.not_eq_true', Bool.eq_false_iff, ne_eq, empty_iff, empty_iff]
  unfold ReleasedMarkers.noteEntry
  constructor
  · rintro ⟨some, none⟩
    cases isKey : entry.event.momentarySwitchEvent? with
    | none =>
        rw [isKey] at none
        exact absurd none some
    | some e =>
        simp only [isKey, own, isUp, if_true, PressedKeysManager.mem_erase, not_and_not_right]
          at none
        refine ⟨e, Event.momentarySwitchEvent?_eq_some.mp isKey, ?_, fun other down =>
          none other ((tracks other).mpr down)⟩
        obtain ⟨key, held⟩ := not_forall_not.mp some
        rw [← none key held]
        exact (tracks key).mp held
  · rintro ⟨key, isKey, down, last⟩
    rw [isKey]
    refine ⟨fun none => none key ((tracks key).mpr down), fun other held => ?_⟩
    simp only [Event.momentarySwitchEvent?, own, isUp, if_true, PressedKeysManager.mem_erase]
      at held
    exact held.2 (last other ((tracks other).mp held.1))

/-- The loop marks a batch for all keys that were ever reported down. -/
theorem Tracks.marked {manager : PressedKeysManager} {history : List Entry}
    (tracks : Tracks deviceId manager history) (entries : List Entry) :
    Marked deviceId history entries (insertReleasedEvents deviceId entries manager).1 ∧
      Tracks deviceId (insertReleasedEvents deviceId entries manager).2 (history ++ entries) := by
  induction entries generalizing manager history with
  | nil => exact ⟨.nil, by rw [List.append_nil]; exact tracks⟩
  | cons entry rest ih =>
      obtain ⟨others, after⟩ := ih (tracks.noteEntry entry)
      rw [insertReleasedEvents_cons]
      refine ⟨?_, by rw [List.append_cons]; exact after⟩
      split
      · rename_i fires
        exact .marker ((tracks.fires_iff entry).mp fires) others
      · rename_i quiet
        exact .plain (mt (tracks.fires_iff entry).mpr quiet) others

/-- Without its markers a marked batch is what it was. -/
theorem Marked.filter_unmarked {before entries output : List Entry}
    (marked : Marked deviceId before entries output)
    (plain : ∀ entry ∈ entries, unmarked entry = true) : output.filter unmarked = entries := by
  induction marked with
  | nil => rfl
  | marker _ _ ih =>
      rw [List.filter_cons_of_pos (plain _ List.mem_cons_self),
        List.filter_cons_of_neg (by simp [unmarked, releasedMarker, Entry.make]),
        ih fun entry member => plain entry (List.mem_cons_of_mem _ member)]
  | plain _ _ ih =>
      rw [List.filter_cons_of_pos (plain _ List.mem_cons_self),
        ih fun entry member => plain entry (List.mem_cons_of_mem _ member)]

/-- A marked batch does not start with a marker. -/
theorem Marked.not_marker {before entries output : List Entry} {entry : Entry}
    (plain : ∀ entry ∈ entries, unmarked entry = true) :
    ¬Marked deviceId before entries (releasedMarker deviceId entry :: output) := by
  intro marked
  have first : unmarked (releasedMarker deviceId entry) = true := by
    cases marked with
    | marker => exact plain _ List.mem_cons_self
    | plain => exact plain _ List.mem_cons_self
  simp [unmarked, releasedMarker, Entry.make] at first

/-- A condition on the entries of a batch is one on the first entry and one on the others. -/
theorem forall_split_cons {condition : List Entry → Entry → Prop} {first : Entry}
    {entries : List Entry} :
    (∀ before entry rest, first :: entries = before ++ entry :: rest → condition before entry) ↔
      condition [] first ∧ ∀ before entry rest, entries = before ++ entry :: rest →
        condition (first :: before) entry := by
  constructor
  · intro all
    exact ⟨all [] first entries rfl, fun before entry rest split =>
      all (first :: before) entry rest (by rw [split, List.cons_append])⟩
  · rintro ⟨one, others⟩ before entry rest split
    cases before with
    | nil =>
        obtain ⟨rfl, rfl⟩ := List.cons.inj split
        exact one
    | cons other before =>
        obtain ⟨rfl, rfl⟩ := List.cons.inj split
        exact others before entry rest rfl

/-- The same marked batch is right for two histories exactly when these have the same last
releases in it. -/
theorem Marked.congr {first second entries output : List Entry}
    (marked : Marked deviceId first entries output)
    (plain : ∀ entry ∈ entries, unmarked entry = true) :
    Marked deviceId second entries output ↔
      ∀ before entry rest, entries = before ++ entry :: rest →
        (ReleasesLast deviceId (second ++ before) entry ↔
          ReleasesLast deviceId (first ++ before) entry) := by
  induction marked generalizing second with
  | nil => exact ⟨fun _ before entry rest split => by simp at split, fun _ => .nil⟩
  | @marker first rest output entry last others ih =>
      have later : ∀ other ∈ rest, unmarked other = true := fun other member =>
        plain other (List.mem_cons_of_mem entry member)
      have head : Marked deviceId second (entry :: rest)
          (entry :: releasedMarker deviceId entry :: output) ↔
          ReleasesLast deviceId second entry ∧ Marked deviceId (second ++ [entry]) rest output := by
        constructor
        · intro both
          cases both with
          | marker last' others' => exact ⟨last', others'⟩
          | plain _ others' => exact absurd others' (Marked.not_marker later)
        · exact fun both => .marker both.1 both.2
      rw [head, ih later, forall_split_cons]
      simp only [List.append_nil, List.append_assoc, List.singleton_append]
      exact and_congr_left fun _ => (iff_true_right last).symm
  | @plain first rest output entry notLast others ih =>
      have later : ∀ other ∈ rest, unmarked other = true := fun other member =>
        plain other (List.mem_cons_of_mem entry member)
      have head : Marked deviceId second (entry :: rest) (entry :: output) ↔
          ¬ReleasesLast deviceId second entry ∧
            Marked deviceId (second ++ [entry]) rest output := by
        constructor
        · intro both
          cases both with
          | marker => exact absurd others (Marked.not_marker later)
          | plain notLast' others' => exact ⟨notLast', others'⟩
        · exact fun both => .plain both.1 both.2
      rw [head, ih later, forall_split_cons]
      simp only [List.append_nil, List.append_assoc, List.singleton_append]
      exact and_congr_left fun _ => (iff_false_right notLast).symm

/-! ## When no left-over key counts -/

/-- An entry says whether the key is down, or it says nothing about the key. -/
theorem noteReport_cases (key : MomentarySwitchEvent) (entry : Entry) :
    (Reports deviceId key entry ∧
      ∃ now, ∀ down, noteReport deviceId key down entry = now) ∨
    (¬Reports deviceId key entry ∧ ∀ down, noteReport deviceId key down entry = down) := by
  unfold Reports noteReport noteKey
  by_cases own : entry.deviceId = deviceId
  swap
  · exact .inr ⟨fun reports => own reports.1, fun down => if_neg own⟩
  simp only [own, if_true, true_and]
  cases event : entry.event with
  | momentarySwitchEvent other =>
      by_cases same : other = key
      · subst same
        cases entry.eventType with
        | keyDown =>
            exact .inl ⟨⟨by simp, rfl⟩, true, fun down => by simp [Event.momentarySwitchEvent?]⟩
        | keyUp =>
            exact .inl ⟨⟨by simp, rfl⟩, false, fun down => by simp [Event.momentarySwitchEvent?]⟩
        | single => exact .inr ⟨fun reports => reports.1 rfl, fun down => rfl⟩
      · refine .inr ⟨fun reports => same (Event.momentarySwitchEvent.inj reports.2), fun down => ?_⟩
        cases entry.eventType <;> simp [Event.momentarySwitchEvent?, same]
  | _ => exact .inr ⟨fun reports => Event.noConfusion reports.2, fun down => rfl⟩

/-- What the entries say about the key does not depend on what was before, or they say
nothing about it. -/
theorem foldl_noteReport (key : MomentarySwitchEvent) (entries : List Entry) (down : Bool) :
    entries.foldl (noteReport deviceId key) down = reportedDown deviceId key entries ∧
        (∃ entry ∈ entries, Reports deviceId key entry) ∨
      entries.foldl (noteReport deviceId key) down = down ∧
        ∀ entry ∈ entries, ¬Reports deviceId key entry := by
  induction entries generalizing down with
  | nil => exact .inr ⟨rfl, fun _ member => absurd member List.not_mem_nil⟩
  | cons entry rest ih =>
      unfold reportedDown
      rw [List.foldl_cons, List.foldl_cons]
      rcases noteReport_cases key entry with ⟨reports, now, same⟩ | ⟨silent, same⟩
      · rw [same, same]
        exact .inl ⟨rfl, entry, List.mem_cons_self, reports⟩
      · rw [same, same]
        rcases ih down with ⟨settled, other, member, reports⟩ | ⟨kept, silentRest⟩
        · exact .inl ⟨settled, other, List.mem_cons_of_mem _ member, reports⟩
        · exact .inr ⟨kept, List.forall_mem_cons.mpr ⟨silent, silentRest⟩⟩

/-- A key that is down in the whole history is down since the start or left over. -/
theorem leftOver_iff {history sinceStart : List Entry} (later : sinceStart <:+ history)
    (key : MomentarySwitchEvent) :
    LeftOver deviceId history sinceStart key ↔
      reportedDown deviceId key history = true ∧
        ¬reportedDown deviceId key sinceStart = true := by
  obtain ⟨before, rfl⟩ := later
  refine and_congr_right fun down => ?_
  have split : reportedDown deviceId key (before ++ sinceStart) =
      sinceStart.foldl (noteReport deviceId key) (reportedDown deviceId key before) :=
    List.foldl_append
  constructor
  · intro silent
    rcases foldl_noteReport key sinceStart false with ⟨_, entry, member, reports⟩ | ⟨kept, _⟩
    · exact absurd reports (silent entry member)
    · exact Bool.eq_false_iff.mp kept
  · intro up
    rcases foldl_noteReport key sinceStart (reportedDown deviceId key before) with
      ⟨settled, _⟩ | ⟨_, silent⟩
    · exact absurd (settled.symm.trans (split.symm.trans down)) up
    · exact silent

/-- A key that is down by the entries since a start is down by all of them. -/
theorem reportedDown_of_suffix {history sinceStart : List Entry}
    (later : sinceStart <:+ history) {key : MomentarySwitchEvent}
    (down : reportedDown deviceId key sinceStart = true) :
    reportedDown deviceId key history = true := by
  obtain ⟨before, rfl⟩ := later
  have split : reportedDown deviceId key (before ++ sinceStart) =
      sinceStart.foldl (noteReport deviceId key) (reportedDown deviceId key before) :=
    List.foldl_append
  rw [split]
  rcases foldl_noteReport key sinceStart (reportedDown deviceId key before) with
    ⟨settled, _⟩ | ⟨_, silent⟩
  · exact settled.trans down
  · rcases foldl_noteReport key sinceStart false with ⟨_, entry, member, reports⟩ | ⟨kept, _⟩
    · exact absurd reports (silent entry member)
    · exact absurd down (Bool.eq_false_iff.mp kept)

theorem releasesLast_key {entries : List Entry} {entry : Entry} {key : MomentarySwitchEvent}
    (own : entry.deviceId = deviceId) (isUp : entry.eventType = .keyUp)
    (isKey : entry.event = .momentarySwitchEvent key) :
    ReleasesLast deviceId entries entry ↔
      ∀ other, reportedDown deviceId other entries = true ↔ other = key := by
  constructor
  · rintro ⟨_, _, released, isReleased, down, last⟩ other
    obtain rfl : key = released := Event.momentarySwitchEvent.inj (isKey.symm.trans isReleased)
    exact ⟨last other, fun same => same ▸ down⟩
  · exact fun only => ⟨own, isUp, key, isKey, (only key).mpr rfl, fun other => (only other).mp⟩

/-- Keys that are down or left over are one key only exactly when that key is the only one
down and none is left over, or the other way round. -/
theorem only_iff {α : Type} {down left : α → Prop} (apart : ∀ key, left key → ¬down key)
    (key : α) :
    ((∀ other, down other ↔ other = key) ↔ ∀ other, down other ∨ left other ↔ other = key) ↔
      ((∀ other, down other ↔ other = key) → ∀ other, ¬left other) ∧
        ((∀ other, ¬down other) → ¬∀ other, left other ↔ other = key) := by
  constructor
  · intro same
    refine ⟨fun only other isLeft => ?_, fun none onlyLeft => ?_⟩
    · exact apart other isLeft ((only other).mpr ((same.mp only other).mp (.inr isLeft)))
    · refine none key ((same.mpr fun other => ?_) key |>.mpr rfl)
      rw [← onlyLeft other, or_iff_right (none other)]
  · rintro ⟨noneLeft, notLeft⟩
    constructor
    · intro only other
      rw [or_iff_left (noneLeft only other), only other]
    · intro both
      by_cases isDown : down key
      · exact fun other => ⟨fun held => (both other).mp (.inl held), fun same => same ▸ isDown⟩
      · have none : ∀ other, ¬down other := fun other held =>
          isDown ((both other).mp (.inl held) ▸ held)
        refine absurd (fun other => ?_) (notLeft none)
        rw [← both other, or_iff_right (none other)]

/-- The last releases in the whole history and since the start are the same as long as no
left-over key counts. -/
theorem releasesLast_iff {history sinceStart : List Entry} (later : sinceStart <:+ history)
    (entry : Entry) :
    (ReleasesLast deviceId sinceStart entry ↔ ReleasesLast deviceId history entry) ↔
      NoneCounts deviceId history sinceStart entry := by
  unfold NoneCounts
  by_cases own : entry.deviceId = deviceId
  swap
  · exact iff_of_true (iff_of_false (fun last => own last.1) fun last => own last.1)
      fun isOwn => absurd isOwn own
  by_cases isUp : entry.eventType = .keyUp
  swap
  · exact iff_of_true (iff_of_false (fun last => isUp last.2.1) fun last => isUp last.2.1)
      fun _ up => absurd up isUp
  by_cases isKey : ∃ key, entry.event = .momentarySwitchEvent key
  swap
  · refine iff_of_true (iff_of_false ?_ ?_) fun _ _ key event => absurd ⟨key, event⟩ isKey
    · exact fun ⟨_, _, key, event, _⟩ => isKey ⟨key, event⟩
    · exact fun ⟨_, _, key, event, _⟩ => isKey ⟨key, event⟩
  obtain ⟨key, event⟩ := isKey
  have one : (∀ key, entry.event = .momentarySwitchEvent key →
      ((∀ other, reportedDown deviceId other sinceStart = true ↔ other = key) →
        ∀ other, ¬LeftOver deviceId history sinceStart other) ∧
      ((∀ other, reportedDown deviceId other sinceStart = false) →
        ¬∀ other, LeftOver deviceId history sinceStart other ↔ other = key)) ↔
      ((∀ other, reportedDown deviceId other sinceStart = true ↔ other = key) →
        ∀ other, ¬LeftOver deviceId history sinceStart other) ∧
      ((∀ other, reportedDown deviceId other sinceStart = false) →
        ¬∀ other, LeftOver deviceId history sinceStart other ↔ other = key) := by
    constructor
    · exact fun all => all key event
    · intro all other isOther
      obtain rfl : key = other := Event.momentarySwitchEvent.inj (event.symm.trans isOther)
      exact all
  rw [forall_prop_of_true own, forall_prop_of_true isUp, one, releasesLast_key own isUp event,
    releasesLast_key own isUp event]
  have whole : ∀ other, reportedDown deviceId other history = true ↔
      reportedDown deviceId other sinceStart = true ∨
        LeftOver deviceId history sinceStart other := by
    intro other
    rw [leftOver_iff later]
    have := @reportedDown_of_suffix deviceId _ _ later other
    tauto
  have apart : ∀ other, LeftOver deviceId history sinceStart other →
      ¬reportedDown deviceId other sinceStart = true :=
    fun other left => ((leftOver_iff later other).mp left).2
  simp only [whole, ← Bool.not_eq_true]
  exact only_iff apart key

/-! ## The markers of a run -/

/-- The remembered keys and the two lists of entries belong together. -/
def Sound (deviceId : DeviceId) (life : Life) : Prop :=
  Tracks deviceId life.pressedKeysManager life.history ∧ life.sinceStart <:+ life.history

/-- An action keeps the life of a device sound: what is remembered of its keys is what has been
reported. -/
theorem Sound.step {life : Life} (sound : Sound deviceId life) (action : Action) :
    Sound deviceId (step deviceId life action) := by
  cases action with
  | stopped => exact sound
  | started => exact ⟨sound.1, List.nil_suffix⟩
  | arrived batch =>
      obtain ⟨before, same⟩ := sound.2
      refine ⟨(sound.1.marked batch.entries).2, before, ?_⟩
      change before ++ (life.sinceStart ++ batch.entries) = life.history ++ batch.entries
      rw [← same, List.append_assoc]

/-- A batch has the right markers exactly when no left-over key counts in it. -/
theorem Sound.exact_iff {life : Life} (sound : Sound deviceId life) (action : Action) :
    Exact deviceId life action ↔ NothingLeftOver deviceId life action := by
  cases action with
  | stopped => exact Iff.rfl
  | started => exact Iff.rfl
  | arrived batch =>
      have marked := (sound.1.marked batch.entries).1
      have plain := marked.filter_unmarked batch.unmarked
      refine (and_iff_left plain).trans ((marked.congr batch.unmarked).trans ?_)
      refine forall_congr' fun before => forall_congr' fun entry => forall_congr' fun rest =>
        imp_congr_right fun _ => releasesLast_iff ?_ entry
      obtain ⟨early, same⟩ := sound.2
      exact ⟨early, by rw [← same, List.append_assoc]⟩

end

/-- Over the life of a device the markers are exact as long as no left-over key counts, and
no longer. -/
theorem exact_iff_nothingLeftOver (deviceId : DeviceId) (actions : List Action) :
    StepsMeet (step deviceId) (Exact deviceId) initial actions ↔
      StepsMeet (step deviceId) (NothingLeftOver deviceId) initial actions := by
  refine stepsMeet_iff (fun life action sound => Sound.exact_iff sound action)
    (fun life action sound _ => Sound.step sound action) actions ?_
  exact ⟨fun key => by simp [initial, reportedDown], List.suffix_refl _⟩

/-- A report with one value of a key of the device. -/
def keyValues (timeStamp : Int) (usage : Usage) (integerValue : Int) : Batch :=
  .ofValues 1 false ⟨id, id⟩ [] [⟨timeStamp, integerValue, some UsagePage.keyboardOrKeypad,
    some usage⟩]

/-- The monitor stops while A is held; when B is pressed and released after it has started
again, no marker follows. -/
theorem exact_counterexample : ¬∀ (deviceId : DeviceId) (actions : List Action),
    StepsMeet (step deviceId) (Exact deviceId) initial actions := by
  intro all
  have run := all 1 [.started, .arrived (keyValues 1 0x04 1), .stopped, .started,
    .arrived (keyValues 2 0x05 1), .arrived (keyValues 3 0x05 0)]
  obtain ⟨-, -, -, -, -, ⟨marked, -⟩, -⟩ := run
  cases marked with
  | plain notLast =>
      refine notLast ⟨rfl, rfl, _, rfl, by decide, fun other down => ?_⟩
      by_contra different
      have up : reportedDown 1 other (keyValues 2 0x05 1).entries = false := by
        change (decide (MomentarySwitchEvent.make UsagePage.keyboardOrKeypad 0x05 = other) ||
          false) = false
        rw [Bool.or_false, decide_eq_false_iff_not]
        exact Ne.symm different
      exact absurd down (Bool.eq_false_iff.mp up)

end ReleasedMarkers

end Karabiner
