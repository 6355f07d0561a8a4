import Mathlib.Logic.Function.Basic
import Karabiner.Foundation.Execution
import Karabiner.Grabber.HidValues

/-! # The keys of a hat switch over time

`hat_switch_converter` remembers the last direction of each device as a mask of four bits, and
turns the next value of the hat switch into the keys that go down or up. Between two erasures of
a device each of its keys goes down and up in turn, the keys that are left down are those that the
last value points to, and other devices do not matter (`HatSwitchRun.dpadEvents_consistent`).
-/

namespace Karabiner

/-- `hat_switch_converter`. A device without an entry has no last direction. -/
structure HatSwitchConverter where
  lastDirections : DeviceId → Option Nat

namespace HatSwitchConverter

/-! ## Directions as masks -/

def up : Nat := 0x1 <<< 0
def down : Nat := 0x1 <<< 1
def right : Nat := 0x1 <<< 2
def left : Nat := 0x1 <<< 3

/-- The direction of a value of the hat switch. -/
def currentDirection (hatSwitchValue : Int) : Nat :=
  if hatSwitchValue = 0 then up
  else if hatSwitchValue = 1 then up ||| right
  else if hatSwitchValue = 2 then right
  else if hatSwitchValue = 3 then down ||| right
  else if hatSwitchValue = 4 then down
  else if hatSwitchValue = 5 then down ||| left
  else if hatSwitchValue = 6 then left
  else if hatSwitchValue = 7 then up ||| left
  else 0

/-- The bits and their keys, in the order of the loop of `to_dpad_events`. -/
def dpadKeys : List (Nat × Usage) :=
  [(up, Usage.dpadUp), (down, Usage.dpadDown), (right, Usage.dpadRight), (left, Usage.dpadLeft)]

/-- The body of the loop of `to_dpad_events`. -/
def dpadEvent (lastDirection currentDirection : Nat) (key : Nat × Usage) :
    List (MomentarySwitchEvent × EventType) :=
  (if lastDirection &&& key.1 = 0 ∧ currentDirection &&& key.1 ≠ 0 then
    [(.make UsagePage.genericDesktop key.2, .keyDown)] else []) ++
  (if lastDirection &&& key.1 ≠ 0 ∧ currentDirection &&& key.1 = 0 then
    [(.make UsagePage.genericDesktop key.2, .keyUp)] else [])

/-- `to_dpad_events`. -/
def toDpadEvents (converter : HatSwitchConverter) (deviceId : DeviceId) (hatSwitchValue : Int) :
    List (MomentarySwitchEvent × EventType) × HatSwitchConverter :=
  let lastDirection := (converter.lastDirections deviceId).getD 0
  let current := currentDirection hatSwitchValue
  (dpadKeys.flatMap (dpadEvent lastDirection current),
    { converter with
      lastDirections := Function.update converter.lastDirections deviceId (some current) })

def eraseDevice (converter : HatSwitchConverter) (deviceId : DeviceId) : HatSwitchConverter :=
  { converter with lastDirections := Function.update converter.lastDirections deviceId none }

def clear : HatSwitchConverter := ⟨fun _ => none⟩

/-! ## Where a hat switch points to -/

/-- A value counts eighths of a turn from the top, and a key is pointed to from both sides. -/
def Points (hatSwitchValue : Int) (usage : Usage) : Prop :=
  usage = Usage.dpadUp ∧ hatSwitchValue ∈ [7, 0, 1] ∨
    usage = Usage.dpadRight ∧ hatSwitchValue ∈ [1, 2, 3] ∨
    usage = Usage.dpadDown ∧ hatSwitchValue ∈ [3, 4, 5] ∨
    usage = Usage.dpadLeft ∧ hatSwitchValue ∈ [5, 6, 7]

instance (hatSwitchValue : Int) (usage : Usage) : Decidable (Points hatSwitchValue usage) :=
  inferInstanceAs (Decidable (_ ∨ _))

/-- The mask of a value has the bits of the keys that the value points to. -/
theorem currentDirection_iff (hatSwitchValue : Int) :
    ∀ key ∈ dpadKeys,
      currentDirection hatSwitchValue &&& key.1 ≠ 0 ↔ Points hatSwitchValue key.2 := by
  by_cases known : hatSwitchValue ∈ ([0, 1, 2, 3, 4, 5, 6, 7] : List Int)
  · revert hatSwitchValue
    decide
  · have nowhere : currentDirection hatSwitchValue = 0 := by
      simp only [List.mem_cons, List.not_mem_nil, or_false, not_or] at known
      simp only [currentDirection, known, if_false]
    intro key _
    rw [nowhere, Nat.zero_and]
    refine iff_of_false (fun differs => differs rfl) fun points => known ?_
    simp only [Points, List.mem_cons, List.not_mem_nil, or_false] at points ⊢
    omega

/-- The directions of the entries of a device are the same. -/
theorem mem_ofValue_iff (hatSwitchValue : Int) :
    ∀ key ∈ dpadKeys, key.2 ∈ HatDirection.ofValue hatSwitchValue ↔ Points hatSwitchValue key.2 := by
  by_cases known : hatSwitchValue ∈ ([0, 1, 2, 3, 4, 5, 6, 7] : List Int)
  · revert hatSwitchValue
    decide
  · have nowhere : HatDirection.ofValue hatSwitchValue = [] := by
      simp only [List.mem_cons, List.not_mem_nil, or_false, not_or] at known
      simp only [HatDirection.ofValue, known, if_false]
    intro key _
    rw [nowhere]
    refine iff_of_false List.not_mem_nil fun points => known ?_
    simp only [Points, List.mem_cons, List.not_mem_nil, or_false] at points ⊢
    omega

/-- A key goes down when it is pointed to and was not, and up when it was and is not any more. -/
theorem dpadEvent_eq {last current : Nat} {key : Nat × Usage} {was is : Prop} [Decidable was]
    [Decidable is] (wasIff : last &&& key.1 ≠ 0 ↔ was) (isIff : current &&& key.1 ≠ 0 ↔ is) :
    dpadEvent last current key =
      if ¬was ∧ is then [(.make UsagePage.genericDesktop key.2, .keyDown)]
      else if was ∧ ¬is then [(.make UsagePage.genericDesktop key.2, .keyUp)]
      else [] := by
  have wasNot : last &&& key.1 = 0 ↔ ¬was := by rw [← wasIff, not_ne_iff]
  have isNot : current &&& key.1 = 0 ↔ ¬is := by rw [← isIff, not_ne_iff]
  by_cases pointed : was
  · by_cases points : is <;> simp [dpadEvent, wasNot, isNot, pointed, points]
  · by_cases points : is <;> simp [dpadEvent, wasNot, isNot, pointed, points]

/-- The keys that an entry with a value of the hat switch is made to. -/
theorem flatMap_dpadEvent (last current : Int) :
    dpadKeys.flatMap (dpadEvent (currentDirection last) (currentDirection current)) =
      HatDirection.toDpadEvents (.ofValue last) (.ofValue current) := by
  have each : ∀ key ∈ dpadKeys,
      dpadEvent (currentDirection last) (currentDirection current) key =
        if key.2 ∉ HatDirection.ofValue last ∧ key.2 ∈ HatDirection.ofValue current then
          [(.make UsagePage.genericDesktop key.2, .keyDown)]
        else if key.2 ∈ HatDirection.ofValue last ∧ key.2 ∉ HatDirection.ofValue current then
          [(.make UsagePage.genericDesktop key.2, .keyUp)]
        else [] := by
    intro key isKey
    apply dpadEvent_eq
    · rw [currentDirection_iff last key isKey, mem_ofValue_iff last key isKey]
    · rw [currentDirection_iff current key isKey, mem_ofValue_iff current key isKey]
  rw [List.flatMap_congr each, HatDirection.toDpadEvents, List.filterMap_eq_flatMap_toList]
  have keys : [Usage.dpadUp, Usage.dpadDown, Usage.dpadRight, Usage.dpadLeft] =
      dpadKeys.map Prod.snd := rfl
  rw [keys, List.flatMap_map]
  refine List.flatMap_congr fun key _ => ?_
  split
  · rfl
  · split <;> rfl

/-! ## The strokes of a key -/

/-- The strokes of a key of the d-pad. -/
def strokes (usage : Usage) (events : List (MomentarySwitchEvent × EventType)) : List EventType :=
  (events.filter fun event => event.1 = .make UsagePage.genericDesktop usage).map Prod.snd

/-- The key goes down when it is up, and up when it is down, and nothing else. -/
def AlternatesFrom : Bool → List EventType → Prop
  | _, [] => True
  | false, .keyDown :: rest => AlternatesFrom true rest
  | true, .keyUp :: rest => AlternatesFrom false rest
  | _, _ :: _ => False

/-- Whether the key is down after its strokes. -/
def heldAfter (held : Bool) (strokes : List EventType) : Bool :=
  strokes.foldl (fun _ stroke => stroke == .keyDown) held

theorem strokes_append (usage : Usage) (first second : List (MomentarySwitchEvent × EventType)) :
    strokes usage (first ++ second) = strokes usage first ++ strokes usage second := by
  rw [strokes, List.filter_append, List.map_append, strokes, strokes]

theorem heldAfter_append (held : Bool) (first second : List EventType) :
    heldAfter held (first ++ second) = heldAfter (heldAfter held first) second :=
  List.foldl_append

/-- Strokes alternate across two parts when the second one goes on from where the first one has left
the key. -/
theorem AlternatesFrom.append {held : Bool} {first second : List EventType}
    (one : AlternatesFrom held first) (two : AlternatesFrom (heldAfter held first) second) :
    AlternatesFrom held (first ++ second) := by
  induction first generalizing held with
  | nil => exact two
  | cons stroke rest ih =>
      cases held with
      | false =>
          cases stroke with
          | keyDown => exact ih one two
          | keyUp => exact one.elim
          | single => exact one.elim
      | true =>
          cases stroke with
          | keyUp => exact ih one two
          | keyDown => exact one.elim
          | single => exact one.elim

theorem strokes_dpadEvent_of_ne (last current : Nat) {key : Nat × Usage} {usage : Usage}
    (other : usage ≠ key.2) : strokes usage (dpadEvent last current key) = [] := by
  have different : MomentarySwitchEvent.make UsagePage.genericDesktop key.2 ≠
      .make UsagePage.genericDesktop usage := by
    intro same
    injection same with pair
    injection pair with _ isUsage
    exact other isUsage.symm
  unfold dpadEvent
  split <;> split <;> simp [strokes, different]

theorem strokes_dpadEvent_self (last current : Nat) (key : Nat × Usage) :
    strokes key.2 (dpadEvent last current key) = (dpadEvent last current key).map Prod.snd := by
  unfold dpadEvent
  split <;> split <;> simp [strokes]

/-- The strokes of one key in one call. -/
theorem strokes_flatMap_dpadEvent (last current : Nat) :
    ∀ key ∈ dpadKeys, strokes key.2 (dpadKeys.flatMap (dpadEvent last current)) =
      (dpadEvent last current key).map Prod.snd := by
  have split : ∀ (keys : List (Nat × Usage)) (usage : Usage),
      strokes usage (keys.flatMap (dpadEvent last current)) =
        keys.flatMap fun key => strokes usage (dpadEvent last current key) := by
    intro keys usage
    induction keys with
    | nil => rfl
    | cons key rest ih => rw [List.flatMap_cons, List.flatMap_cons, strokes_append, ih]
  intro key isKey
  rw [split, ← strokes_dpadEvent_self]
  simp only [dpadKeys, List.mem_cons, List.not_mem_nil, or_false] at isKey
  rcases isKey with rfl | rfl | rfl | rfl
  all_goals
    simp (disch := decide) only [dpadKeys, List.flatMap_cons, List.flatMap_nil, List.append_nil,
      List.nil_append, strokes_dpadEvent_of_ne]

end HatSwitchConverter

/-! ## Runs -/

/-- A converter, and for each device the events and the last value since its last erasure. -/
structure HatSwitchRun where
  converter : HatSwitchConverter
  emitted : DeviceId → List (MomentarySwitchEvent × EventType)
  lastValue : DeviceId → Option Int

namespace HatSwitchRun

open HatSwitchConverter

inductive Action where
  | toDpadEvents (deviceId : DeviceId) (hatSwitchValue : Int)
  | eraseDevice (deviceId : DeviceId)
  | clear

def initial : HatSwitchRun := ⟨.clear, fun _ => [], fun _ => none⟩

def step (run : HatSwitchRun) : Action → HatSwitchRun
  | .toDpadEvents deviceId hatSwitchValue =>
      let result := run.converter.toDpadEvents deviceId hatSwitchValue
      { converter := result.2
        emitted := Function.update run.emitted deviceId (run.emitted deviceId ++ result.1)
        lastValue := Function.update run.lastValue deviceId (some hatSwitchValue) }
  | .eraseDevice deviceId =>
      { converter := run.converter.eraseDevice deviceId
        emitted := Function.update run.emitted deviceId []
        lastValue := Function.update run.lastValue deviceId none }
  | .clear => initial

/-- The actions that have to do with a device. -/
def Action.concerns (deviceId : DeviceId) : Action → Bool
  | .toDpadEvents other _ => other == deviceId
  | .eraseDevice other => other == deviceId
  | .clear => true

/-- The last value points to the key, if there was one. -/
def PointsLast (lastValue : Option Int) (usage : Usage) : Prop :=
  ∃ value, lastValue = some value ∧ Points value usage

/-- The converter remembers the last value of a device, and the device has the events of it. -/
structure Sound (run : HatSwitchRun) (deviceId : DeviceId) : Prop where
  remembered : run.converter.lastDirections deviceId =
    (run.lastValue deviceId).map currentDirection
  known : ∀ event ∈ run.emitted deviceId,
    ∃ key ∈ dpadKeys, event.1 = .make UsagePage.genericDesktop key.2
  alternates : ∀ key ∈ dpadKeys, AlternatesFrom false (strokes key.2 (run.emitted deviceId))
  held : ∀ key ∈ dpadKeys, heldAfter false (strokes key.2 (run.emitted deviceId)) = true ↔
    PointsLast (run.lastValue deviceId) key.2

/-- A device of which nothing is remembered, and for which nothing was emitted, is sound. -/
theorem sound_of_nothing {run : HatSwitchRun} {deviceId : DeviceId}
    (directions : run.converter.lastDirections deviceId = none)
    (emitted : run.emitted deviceId = []) (lastValue : run.lastValue deviceId = none) :
    run.Sound deviceId where
  remembered := by
    rw [directions, lastValue]
    rfl
  known event member := by
    rw [emitted] at member
    exact absurd member List.not_mem_nil
  alternates key _ := by
    rw [emitted]
    trivial
  held key _ := by
    rw [emitted, lastValue]
    refine iff_of_false nofun ?_
    rintro ⟨value, isValue, -⟩
    cases isValue

theorem sound_initial (deviceId : DeviceId) : initial.Sound deviceId := sound_of_nothing rfl rfl rfl

/-- Nothing of a device has changed. -/
theorem Sound.of_same {run after : HatSwitchRun} {deviceId : DeviceId} (sound : run.Sound deviceId)
    (directions : after.converter.lastDirections deviceId = run.converter.lastDirections deviceId)
    (emitted : after.emitted deviceId = run.emitted deviceId)
    (lastValue : after.lastValue deviceId = run.lastValue deviceId) : after.Sound deviceId where
  remembered := by rw [directions, lastValue, sound.remembered]
  known := by
    rw [emitted]
    exact sound.known
  alternates := by
    rw [emitted]
    exact sound.alternates
  held := by
    rw [emitted, lastValue]
    exact sound.held

/-- The mask that is remembered has the bits of the keys that the last value points to. -/
theorem Sound.lastDirection_iff {run : HatSwitchRun} {deviceId : DeviceId}
    (sound : run.Sound deviceId) :
    ∀ key ∈ dpadKeys, (run.converter.lastDirections deviceId).getD 0 &&& key.1 ≠ 0 ↔
      PointsLast (run.lastValue deviceId) key.2 := by
  intro key isKey
  rw [sound.remembered]
  cases isLast : run.lastValue deviceId with
  | none =>
      rw [Option.map_none, Option.getD_none, Nat.zero_and]
      refine iff_of_false (fun differs => differs rfl) ?_
      rintro ⟨value, isValue, -⟩
      cases isValue
  | some value =>
      rw [Option.map_some, Option.getD_some, currentDirection_iff value key isKey]
      refine ⟨fun points => ⟨value, rfl, points⟩, ?_⟩
      rintro ⟨other, isOther, points⟩
      obtain rfl := Option.some.inj isOther
      exact points

/-- One key in one call. -/
theorem Sound.stroke {run : HatSwitchRun} {deviceId : DeviceId} (sound : run.Sound deviceId)
    (hatSwitchValue : Int) {key : Nat × Usage} (isKey : key ∈ dpadKeys) {held : Bool}
    (isHeld : held = true ↔ PointsLast (run.lastValue deviceId) key.2) :
    let stroke := strokes key.2 (run.converter.toDpadEvents deviceId hatSwitchValue).1
    AlternatesFrom held stroke ∧ (heldAfter held stroke = true ↔ Points hatSwitchValue key.2) := by
  classical
  have event := dpadEvent_eq (sound.lastDirection_iff key isKey)
    (currentDirection_iff hatSwitchValue key isKey)
  dsimp only [HatSwitchConverter.toDpadEvents]
  rw [strokes_flatMap_dpadEvent _ _ key isKey, event]
  by_cases was : PointsLast (run.lastValue deviceId) key.2
  · obtain rfl := isHeld.mpr was
    by_cases points : Points hatSwitchValue key.2
    · simp [was, points, AlternatesFrom, heldAfter]
    · simp [was, points, AlternatesFrom, heldAfter]
  · obtain rfl : held = false := Bool.eq_false_iff.mpr fun isTrue => was (isHeld.mp isTrue)
    by_cases points : Points hatSwitchValue key.2
    · simp [was, points, AlternatesFrom, heldAfter]
    · simp [was, points, AlternatesFrom, heldAfter]

theorem mem_dpadEvent {last current : Nat} {key : Nat × Usage}
    {event : MomentarySwitchEvent × EventType} (member : event ∈ dpadEvent last current key) :
    event.1 = .make UsagePage.genericDesktop key.2 := by
  rcases List.mem_append.mp member with isDown | isUp
  · split at isDown
    · rw [List.mem_singleton.mp isDown]
    · cases isDown
  · split at isUp
    · rw [List.mem_singleton.mp isUp]
    · cases isUp

/-- Each action keeps a device sound: what is remembered of it is the last value, and its keys
alternate. -/
theorem Sound.step {run : HatSwitchRun} {deviceId : DeviceId} (sound : run.Sound deviceId)
    (action : Action) : (run.step action).Sound deviceId := by
  cases action with
  | toDpadEvents other hatSwitchValue =>
      by_cases same : deviceId = other
      · subst same
        have emitted : (run.step (.toDpadEvents deviceId hatSwitchValue)).emitted deviceId =
            run.emitted deviceId ++ (run.converter.toDpadEvents deviceId hatSwitchValue).1 :=
          Function.update_self ..
        have lastValue : (run.step (.toDpadEvents deviceId hatSwitchValue)).lastValue deviceId =
            some hatSwitchValue := Function.update_self ..
        have strokesOf : ∀ key : Nat × Usage,
            strokes key.2 ((run.step (.toDpadEvents deviceId hatSwitchValue)).emitted deviceId) =
              strokes key.2 (run.emitted deviceId) ++
                strokes key.2 (run.converter.toDpadEvents deviceId hatSwitchValue).1 := by
          intro key
          rw [emitted, strokes_append]
        refine ⟨?_, fun event member => ?_, fun key isKey => ?_, fun key isKey => ?_⟩
        · rw [lastValue]
          exact Function.update_self ..
        · rw [emitted] at member
          rcases List.mem_append.mp member with earlier | now
          · exact sound.known event earlier
          · obtain ⟨key, isKey, isEvent⟩ := List.mem_flatMap.mp now
            exact ⟨key, isKey, mem_dpadEvent isEvent⟩
        · rw [strokesOf]
          exact (sound.alternates key isKey).append
            (sound.stroke hatSwitchValue isKey (sound.held key isKey)).1
        · rw [strokesOf, heldAfter_append, lastValue,
            (sound.stroke hatSwitchValue isKey (sound.held key isKey)).2]
          refine ⟨fun points => ⟨hatSwitchValue, rfl, points⟩, ?_⟩
          rintro ⟨value, isValue, points⟩
          obtain rfl := Option.some.inj isValue
          exact points
      · exact sound.of_same (Function.update_of_ne same ..) (Function.update_of_ne same ..)
          (Function.update_of_ne same ..)
  | eraseDevice other =>
      by_cases same : deviceId = other
      · subst same
        exact sound_of_nothing (Function.update_self ..) (Function.update_self ..)
          (Function.update_self ..)
      · exact sound.of_same (Function.update_of_ne same ..) (Function.update_of_ne same ..)
          (Function.update_of_ne same ..)
  | clear => exact sound_initial deviceId

/-! ## Devices apart -/

/-- What a run has of a device. -/
def ofDevice (run : HatSwitchRun) (deviceId : DeviceId) :
    Option Nat × List (MomentarySwitchEvent × EventType) :=
  (run.converter.lastDirections deviceId, run.emitted deviceId)

/-- An action of another device changes nothing. -/
theorem ofDevice_step_of_other (run : HatSwitchRun) {deviceId : DeviceId} {action : Action}
    (other : action.concerns deviceId = false) :
    (run.step action).ofDevice deviceId = run.ofDevice deviceId := by
  cases action with
  | toDpadEvents device hatSwitchValue =>
      have different : deviceId ≠ device := fun same => by simp [Action.concerns, same] at other
      exact Prod.ext (Function.update_of_ne different ..) (Function.update_of_ne different ..)
  | eraseDevice device =>
      have different : deviceId ≠ device := fun same => by simp [Action.concerns, same] at other
      exact Prod.ext (Function.update_of_ne different ..) (Function.update_of_ne different ..)
  | clear => cases other

/-- An action does the same to a device in two runs that have the same of it. -/
theorem ofDevice_step_congr {run other : HatSwitchRun} {deviceId : DeviceId}
    (same : run.ofDevice deviceId = other.ofDevice deviceId) (action : Action) :
    (run.step action).ofDevice deviceId = (other.step action).ofDevice deviceId := by
  by_cases concerns : action.concerns deviceId = true
  · cases action with
    | toDpadEvents device hatSwitchValue =>
        obtain rfl : device = deviceId := beq_iff_eq.mp concerns
        have directions := congrArg Prod.fst same
        have emitted := congrArg Prod.snd same
        dsimp only [ofDevice] at directions emitted
        simp only [ofDevice, step, HatSwitchConverter.toDpadEvents, Function.update_self,
          directions, emitted]
    | eraseDevice device =>
        obtain rfl : device = deviceId := beq_iff_eq.mp concerns
        simp only [ofDevice, step, HatSwitchConverter.eraseDevice, Function.update_self]
    | clear => rfl
  · rw [ofDevice_step_of_other run (Bool.eq_false_iff.mpr concerns),
      ofDevice_step_of_other other (Bool.eq_false_iff.mpr concerns), same]

/-- The actions of other devices may be left out. -/
theorem ofDevice_filter (actions : List Action) (deviceId : DeviceId) :
    (actions.foldl step initial).ofDevice deviceId =
      ((actions.filter (Action.concerns deviceId)).foldl step initial).ofDevice deviceId := by
  have whole : ∀ run other : HatSwitchRun, run.ofDevice deviceId = other.ofDevice deviceId →
      (actions.foldl step run).ofDevice deviceId =
        ((actions.filter (Action.concerns deviceId)).foldl step other).ofDevice deviceId := by
    induction actions with
    | nil => exact fun _ _ same => same
    | cons action rest ih =>
        intro run other same
        by_cases concerns : action.concerns deviceId = true
        · rw [List.filter_cons_of_pos concerns]
          exact ih _ _ (ofDevice_step_congr same action)
        · rw [List.filter_cons_of_neg concerns]
          apply ih
          exact (ofDevice_step_of_other run (Bool.eq_false_iff.mpr concerns)).trans same
  exact whole initial initial rfl

/-- In every run, each key of the d-pad of a device goes down and up in turn since the last erasure
of the device, the keys that are left down are those that the last value points to, and the
events are those of the run without the other devices. -/
theorem dpadEvents_consistent (actions : List Action) (deviceId : DeviceId) :
    let run := actions.foldl step initial
    (∀ event ∈ run.emitted deviceId,
        ∃ key ∈ dpadKeys, event.1 = .make UsagePage.genericDesktop key.2) ∧
      (∀ key ∈ dpadKeys, AlternatesFrom false (strokes key.2 (run.emitted deviceId)) ∧
        (heldAfter false (strokes key.2 (run.emitted deviceId)) = true ↔
          PointsLast (run.lastValue deviceId) key.2)) ∧
      run.emitted deviceId =
        ((actions.filter (Action.concerns deviceId)).foldl step initial).emitted deviceId := by
  have preserved : ∀ (run : HatSwitchRun) (action : Action),
      run.Sound deviceId → (run.step action).Sound deviceId :=
    fun _ action isSound => isSound.step action
  have sound := Foundation.Execution.invariant_of_steps preserved (sound_initial deviceId) actions
  refine ⟨sound.known, fun key isKey => ⟨sound.alternates key isKey, sound.held key isKey⟩, ?_⟩
  exact congrArg Prod.snd (ofDevice_filter actions deviceId)

end HatSwitchRun

end Karabiner
