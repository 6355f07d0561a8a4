import Karabiner.Basic.Manipulator
import Karabiner.Foundation.Execution
import Karabiner.Grabber.MergedInput
import Karabiner.VirtualDevices.KeyEventDispatcher

/-! # Secure event input

When secure event input becomes enabled the fallback posts an entry that releases all
keys of device 0, forgets the physical keys and clears the modifiers of the dispatcher.
The entry goes through all stages of the pipeline, but the basic manipulators do not
handle it: a stage holds no key afterwards exactly when it held none before
(`Karabiner.GrabberPipeline.resets_iff`). The same entry is inserted for the real devices
when their last key is released, and these are not resets: the entry of a reset is the one
of device 0.
-/

namespace Karabiner

/-- A manager of basic manipulators and its output queue, which is the input queue of the
next one. -/
structure StageConnection where
  manipulators : List Basic
  output : EventQueue

/-- The parts of `device_grabber` that remember which keys are down. The last stage, to
which `keys` belongs, is not shown. -/
structure GrabberPipeline [HidReportLibrary] where
  cgeventtapFallbackEnabled : Bool
  input : MergedInput
  connections : List StageConnection
  keys : KeyDispatch

namespace GrabberPipeline

/-- The stage with the given number, of the connections behind an input queue. -/
def stage? : Nat → EventQueue → List StageConnection → Option (Stage Basic)
  | _, _, [] => none
  | 0, input, connection :: _ => some ⟨connection.manipulators, input, connection.output⟩
  | number + 1, _, connection :: rest => stage? number connection.output rest

/-- A change of one stage. -/
def changeStage (change : Stage Basic → Stage Basic) : Nat → EventQueue → List StageConnection →
    EventQueue × List StageConnection
  | _, input, [] => (input, [])
  | 0, input, connection :: rest =>
      let changed := change ⟨connection.manipulators, input, connection.output⟩
      (changed.input, ⟨changed.manipulators, changed.output⟩ :: rest)
  | number + 1, input, connection :: rest =>
      let (output, changed) := changeStage change number connection.output rest
      (input, ⟨connection.manipulators, output⟩ :: changed)

theorem stage?_changeStage (change : Stage Basic → Stage Basic) (number : Nat)
    (input : EventQueue) (connections : List StageConnection) :
    stage? number (changeStage change number input connections).1
        (changeStage change number input connections).2 =
      (stage? number input connections).map change := by
  induction connections generalizing number input with
  | nil => cases number <;> rfl
  | cons connection rest ih =>
      cases number with
      | zero => rfl
      | succ number => exact ih number connection.output

variable [HidReportLibrary]

def stageAt (pipeline : GrabberPipeline) (number : Nat) : Option (Stage Basic) :=
  stage? number pipeline.input.mergedInputEventQueue pipeline.connections

def modifyStage (pipeline : GrabberPipeline) (number : Nat)
    (change : Stage Basic → Stage Basic) : GrabberPipeline :=
  let (queue, connections) := changeStage change number pipeline.input.mergedInputEventQueue
    pipeline.connections
  { pipeline with
    input := { pipeline.input with mergedInputEventQueue := queue }
    connections := connections }

theorem stageAt_modifyStage (pipeline : GrabberPipeline) (number : Nat)
    (change : Stage Basic → Stage Basic) :
    (pipeline.modifyStage number change).stageAt number =
      (pipeline.stageAt number).map change :=
  stage?_changeStage change number _ _

variable [ExpressionLibrary] [MachTimebase]

/-- The handler of `secure_event_input_enabled_changed`. -/
def secureEventInputEnabledChanged (pipeline : GrabberPipeline) (enabled : Bool) (now : Int) :
    GrabberPipeline :=
  if !pipeline.cgeventtapFallbackEnabled then pipeline
  else if enabled then
    { pipeline with
      input :=
        { pipeline.input.postDeviceKeysAndPointingButtonsAreReleasedEvent now with
          physicalPressed := fun _ => [] }
      keys := pipeline.keys.clearPressedModifierFlags }
  else pipeline

/-- The entry that the handler posts when secure event input becomes enabled. The entries of
this event that are inserted behind the releases of a device carry the number of the device. -/
def IsReset (entry : Entry) : Prop :=
  entry.deviceId = 0 ∧ entry.event = .deviceKeysAndPointingButtonsAreReleased

instance (entry : Entry) : Decidable (IsReset entry) := inferInstanceAs (Decidable (_ ∧ _))

inductive Action where
  /-- An entry that has to pass the balance filter. Only the handler posts that of a reset. -/
  | push (entry : Entry) (notReset : ¬IsReset entry)
  /-- A device is ungrabbed or taken away. -/
  | ungrab (deviceId : DeviceId) (now : Int)
  | sortEvents
  | secureEventInputEnabledChanged (enabled : Bool) (now : Int)
  | setCgeventtapFallbackEnabled (value : Bool)
  /-- A manager processes the front entry of its input queue. -/
  | manipulate (number : Nat) (now : Int) (reorder : Bool)
  /-- The manipulators of a manager are replaced. -/
  | invalidateManipulators (number : Nat)
  | pushBackManipulator (number : Nat) (manipulator : Basic)
  /-- The last stage takes the events of the last queue. -/
  | keysChanged (keys : KeyDispatch)

def step (pipeline : GrabberPipeline) : Action → GrabberPipeline
  | .push entry _ => { pipeline with input := pipeline.input.pushBalanced entry }
  | .ungrab deviceId now => { pipeline with input := pipeline.input.ungrab deviceId now }
  | .sortEvents => { pipeline with input := pipeline.input.sortEvents }
  | .secureEventInputEnabledChanged enabled now =>
      pipeline.secureEventInputEnabledChanged enabled now
  | .setCgeventtapFallbackEnabled value => { pipeline with cgeventtapFallbackEnabled := value }
  | .manipulate number now reorder =>
      pipeline.modifyStage number fun stage => (stage.manipulate now reorder).2
  | .invalidateManipulators number =>
      pipeline.modifyStage number Stage.invalidateManipulators
  | .pushBackManipulator number manipulator =>
      pipeline.modifyStage number fun stage => stage.pushBackManipulator manipulator
  | .keysChanged keys => { pipeline with keys := keys }

omit [ExpressionLibrary] [MachTimebase] in
/-- Empty managers and queues. -/
def initial (size : Nat) : GrabberPipeline :=
  ⟨false, .initial, List.replicate size ⟨[], .initial⟩, .initial⟩

/-- The entry of a reset is at the front of the input queue. -/
def AtReset (stage : Stage Basic) : Prop :=
  ∃ front rest, stage.input.events = front :: rest ∧ IsReset front

/-- No manipulator takes a key for pressed. -/
def TreatsKeysAsUp (stage : Stage Basic) : Prop :=
  ∀ basic ∈ stage.manipulators, ∀ front : Entry, basic.alreadyManipulated front = false

/-- No record holds a key. -/
def HoldsNoKey (stage : Stage Basic) : Prop :=
  ∀ basic ∈ stage.manipulators, ∀ current ∈ basic.manipulatedOriginalEvents,
    current.fromEvents = []

/-- What a reset has to do: the filter accepts every key_down and no modifier is left in
the dispatcher, and each stage through which the entry has gone treats every key as up. -/
def Resets (pipeline : GrabberPipeline) (action : Action) : Prop :=
  match action with
  | .secureEventInputEnabledChanged enabled _ =>
      pipeline.cgeventtapFallbackEnabled = true → enabled = true →
        (∀ deviceId event, ((pipeline.step action).input.unbalancedMomentarySwitchEvent deviceId
          event .keyDown).1 = false) ∧
        (pipeline.step action).keys.dispatcher.pressedModifierFlags = ∅
  | .manipulate number _ _ =>
      ∀ stage after, pipeline.stageAt number = some stage →
        (pipeline.step action).stageAt number = some after → AtReset stage →
          TreatsKeysAsUp after
  | _ => True

/-- A stage that the entry of a reset goes through holds no key. -/
def ResetsNothingHeld (pipeline : GrabberPipeline) (action : Action) : Prop :=
  match action with
  | .manipulate number _ _ =>
      ∀ stage, pipeline.stageAt number = some stage → AtReset stage → HoldsNoKey stage
  | _ => True

omit [HidReportLibrary] [ExpressionLibrary] [MachTimebase] in
/-- A manipulator answers for the keys of its records. -/
theorem treatsKeysAsUp_iff (stage : Stage Basic) : TreatsKeysAsUp stage ↔ HoldsNoKey stage := by
  constructor
  · intro up basic member current record
    apply List.eq_nil_iff_forall_not_mem.mpr
    intro fromEvent held
    -- The key_down of the key that is held.
    have answer := up basic member
      ⟨fromEvent.deviceId, ⟨0, 0⟩, fromEvent.event, .keyDown, none, fromEvent.originalEvent,
        .original, false, .valid⟩
    have exists_ : current.fromEventExists fromEvent = true := decide_eq_true held
    have answers : basic.manipulatedOriginalEvents.any
        (fun current => current.fromEventExists fromEvent) = true :=
      List.any_eq_true.mpr ⟨current, record, exists_⟩
    rw [← Bool.not_eq_true] at answer
    exact answer answers
  · intro none_ basic member front
    unfold Basic.alreadyManipulated
    cases front.eventType with
    | keyDown =>
        apply Bool.eq_false_iff.mpr
        intro answers
        obtain ⟨current, record, exists_⟩ := List.any_eq_true.mp answers
        have held : front.fromEvent ∈ current.fromEvents := of_decide_eq_true exists_
        rw [none_ basic member current record] at held
        cases held
    | keyUp => rfl
    | single => rfl

omit [HidReportLibrary] in
/-- The handler of the manipulators does nothing. -/
theorem handleEach_released (manipulators : List Basic) (front : Entry) (output : EventQueue) :
    Stage.handleEach (fun m output =>
        Manipulator.handleDeviceKeysAndPointingButtonsAreReleasedEvent m front output)
      manipulators output = (manipulators, output) := by
  induction manipulators with
  | nil => rfl
  | cons basic others ih =>
      unfold Stage.handleEach
      rw [show Manipulator.handleDeviceKeysAndPointingButtonsAreReleasedEvent basic front output =
        (basic, output) from rfl]
      dsimp only
      rw [ih]

omit [HidReportLibrary] in
theorem manipulators_of_atReset {stage : Stage Basic} (atReset : AtReset stage) (now : Int)
    (reorder : Bool) : (stage.manipulate now reorder).2.manipulators = stage.manipulators := by
  obtain ⟨front, rest, events, -, event⟩ := atReset
  have dispatched : stage.dispatchFront front rest now = ⟨false, stage.manipulators, front,
      (stage.output.eraseAllActiveModifierFlagsExceptLockAndSticky
        front.deviceId).eraseAllActivePointingButtonsExceptLock front.deviceId⟩ := by
    unfold Stage.dispatchFront
    rw [event]
    dsimp only [Stage.eventKind]
    rw [handleEach_released]
  rw [Stage.manipulate_of_not_waits events (congrArg Stage.LoopResult.waits dispatched), dispatched]
  rfl

omit [HidReportLibrary] [ExpressionLibrary] [MachTimebase] in
/-- A filter that remembers nothing accepts every key_down. -/
theorem accepted_of_empty (input : MergedInput)
    (empty : ∀ deviceId, input.physicalPressed deviceId = [])
    (deviceId : DeviceId) (event : Event) :
    (input.unbalancedMomentarySwitchEvent deviceId event .keyDown).1 = false := by
  unfold MergedInput.unbalancedMomentarySwitchEvent
  rw [empty deviceId]
  cases event.momentarySwitchEvent? with
  | none => rfl
  | some key =>
      dsimp only
      split
      · rfl
      · rw [if_neg List.not_mem_nil]

/-- One action resets as it has to exactly when no stage holds a key as the entry goes
through it. -/
theorem resets_step_iff (pipeline : GrabberPipeline) (action : Action) :
    pipeline.Resets action ↔ pipeline.ResetsNothingHeld action := by
  cases action with
  | secureEventInputEnabledChanged enabled now =>
      refine iff_of_true (fun fallback isEnabled => ?_) trivial
      have handled : pipeline.step (.secureEventInputEnabledChanged enabled now) =
          { pipeline with
            input :=
              { pipeline.input.postDeviceKeysAndPointingButtonsAreReleasedEvent now with
                physicalPressed := fun _ => [] }
            keys := pipeline.keys.clearPressedModifierFlags } := by
        change pipeline.secureEventInputEnabledChanged enabled now = _
        unfold secureEventInputEnabledChanged
        rw [fallback, isEnabled, Bool.not_true, if_neg Bool.false_ne_true, if_pos rfl]
      rw [handled]
      exact ⟨accepted_of_empty _ fun _ => rfl, rfl⟩
  | manipulate number now reorder =>
      have after : ∀ stage, pipeline.stageAt number = some stage →
          (pipeline.step (.manipulate number now reorder)).stageAt number =
            some (stage.manipulate now reorder).2 := by
        intro stage found
        change (pipeline.modifyStage number _).stageAt number = _
        rw [stageAt_modifyStage, found]
        rfl
      have same : ∀ stage, AtReset stage →
          (TreatsKeysAsUp (stage.manipulate now reorder).2 ↔ HoldsNoKey stage) := by
        intro stage atReset
        rw [treatsKeysAsUp_iff]
        unfold HoldsNoKey
        rw [manipulators_of_atReset atReset]
      constructor
      · intro resets stage found atReset
        exact (same stage atReset).mp (resets stage _ found (after stage found) atReset)
      · intro nothing stage changed found reached atReset
        rw [after stage found] at reached
        obtain rfl := Option.some.inj reached
        exact (same stage atReset).mpr (nothing stage found atReset)
  | push _ _ => exact Iff.rfl
  | ungrab _ _ => exact Iff.rfl
  | sortEvents => exact Iff.rfl
  | setCgeventtapFallbackEnabled _ => exact Iff.rfl
  | invalidateManipulators _ => exact Iff.rfl
  | pushBackManipulator _ _ => exact Iff.rfl
  | keysChanged _ => exact Iff.rfl

/-- In every run, the resets leave nothing behind exactly when no stage holds a key as the
entry of a reset goes through it. -/
theorem resets_iff (size : Nat) (actions : List Action) :
    Foundation.Execution.StepsMeet step Resets (initial size) actions ↔
      Foundation.Execution.StepsMeet step ResetsNothingHeld (initial size) actions :=
  @Foundation.Execution.stepsMeet_iff _ _ step (fun _ => True) Resets ResetsNothingHeld
    (fun pipeline action _ => pipeline.resets_step_iff action) (fun _ _ _ _ => trivial) _ actions
    trivial

/-- A manipulator that makes another key of a key. -/
def changeKey (from_ to_ : MomentarySwitchEvent) : Basic where
  validity := .valid
  conditionManager := ⟨[]⟩
  parameters := .initial
  from_ := ⟨[.momentarySwitchEvent from_], ⟨[], []⟩, none, .initial⟩
  to_ := [⟨.momentarySwitchEvent to_, [], false, true, false, 0, ⟨[]⟩⟩]
  toAfterKeyUp := []
  toIfAlone := []
  manipulatedOriginalEvents := []

/-- A key of the fallback is held when secure event input becomes enabled. -/
def resetWhileHeld : List Action :=
  let keyA := MomentarySwitchEvent.make UsagePage.keyboardOrKeypad Usage.keyboardA
  let keyB := MomentarySwitchEvent.make UsagePage.keyboardOrKeypad Usage.keyboardB
  [.setCgeventtapFallbackEnabled true, .pushBackManipulator 0 (changeKey keyA keyB),
    .push (.original 0 10 (.momentarySwitchEvent keyA) .keyDown) (by decide),
    .manipulate 0 10 false, .secureEventInputEnabledChanged true 20]

omit [HidReportLibrary] [ExpressionLibrary] [MachTimebase] in
/-- The manipulator still takes the key for pressed when the reset has gone through. -/
theorem resetWhileHeld_notReset :
    let _ := listReports
    let _ := nanosecondTimebase
    let _ := zeroExpressions
    ¬ Foundation.Execution.StepsMeet step Resets (initial 1)
      (resetWhileHeld ++ [.manipulate 0 20 false]) := by
  intro reports timebase expressions meets
  have last := ((Foundation.Execution.stepsMeet_append _ _ _ _).mp meets).2.1
  have nothing := (resets_step_iff _ _).mp last
  obtain ⟨stage, found, facts⟩ : ∃ stage, (resetWhileHeld.foldl step (initial 1)).stageAt 0 =
      some stage ∧ (stage.input.events.map fun entry => (entry.deviceId, entry.event),
        stage.manipulators.map fun basic => basic.manipulatedOriginalEvents.map fun current =>
          current.fromEvents.length) =
        ([(0, .deviceKeysAndPointingButtonsAreReleased)], [[1]]) := by
    apply Option.map_eq_some_iff.mp
    decide
  obtain ⟨fronts, held⟩ := Prod.mk.inj facts
  obtain ⟨front, _, events, isReset, rest⟩ := List.map_eq_cons_iff.mp fronts
  have empty := nothing stage found ⟨front, _, events, Prod.mk.inj isReset⟩
  obtain ⟨basic, _, manipulators, records, _⟩ := List.map_eq_cons_iff.mp held
  obtain ⟨current, _, recorded, one, _⟩ := List.map_eq_cons_iff.mp records
  have member : basic ∈ stage.manipulators := manipulators ▸ List.mem_cons_self
  have record : current ∈ basic.manipulatedOriginalEvents := recorded ▸ List.mem_cons_self
  rw [empty basic member current record] at one
  cases one

end GrabberPipeline

end Karabiner
