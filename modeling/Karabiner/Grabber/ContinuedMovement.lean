import Mathlib.Data.Rat.Sqrt
import Karabiner.Foundation.Execution
import Karabiner.Foundation.Since
import Karabiner.Grabber.GamePadStickConverter

/-! # Which stick drives the continued movement

The timer runs exactly while a stick drives the movement, and it is started by a stick that comes
into the continued movement position. It is stopped when neither stick is in the position. So the
stick that has started it goes on driving the movement after it has left the position, while the
other stick is held (`GamePadStickConverter.drivenMovement`).
-/

namespace Karabiner

open Foundation Execution

variable {α : Type} [Field α] [LinearOrder α]

theorem StickName.mode_ne_none (name : StickName) : name.mode ≠ .none := by
  cases name <;> decide

theorem StickName.mode_injective {name other : StickName} (same : name.mode = other.mode) :
    name = other := by
  revert same
  cases name <;> cases other <;> decide

theorem StickName.eq_or_eq_other (name one : StickName) : one = name ∨ one = name.other := by
  cases name <;> cases one <;> decide

namespace Stick

variable [StickFunctions α]

@[simp]
theorem settings_updateStickSensorValue (stick : Stick α) (axis : StickAxis)
    (logicalMax logicalMin integerValue : Int) :
    (stick.updateStickSensorValue axis logicalMax logicalMin integerValue).settings =
      stick.settings := by
  have kept : ∀ stick : Stick α, stick.updateValues.settings = stick.settings := by
    intro stick
    simp only [updateValues, updateMagnitudes]
    split <;> split <;> rfl
  cases axis <;> exact kept _

end Stick

namespace GamePadStickConverter

/-- The stick is in the continued movement position. -/
def InPosition (converter : GamePadStickConverter α) (name : StickName) : Prop :=
  (converter.stick name).continuedMovement = true

instance (converter : GamePadStickConverter α) (name : StickName) :
    Decidable (converter.InPosition name) :=
  inferInstanceAs (Decidable (_ = true))

section Frame

variable [StickFunctions α] [FloorRing α] (converter : GamePadStickConverter α)

/-- Posting changes the values of the formulas and what has arrived. -/
theorem exists_postEvent (mode : ContinuedMovementMode) :
    ∃ x y v h arrived, converter.postEvent mode = { converter with
      xValue := x, yValue := y, verticalWheelValue := v, horizontalWheelValue := h, arrived } := by
  cases mode with
  | none => exact ⟨_, _, _, _, _, rfl⟩
  | xy =>
      simp only [postEvent, postXyEvent, arrive]
      split <;> exact ⟨_, _, _, _, _, rfl⟩
  | wheels =>
      simp only [postEvent, postWheelsEvent, arrive]
      split <;> exact ⟨_, _, _, _, _, rfl⟩

@[simp]
theorem stick_postEvent (mode : ContinuedMovementMode) (name : StickName) :
    (converter.postEvent mode).stick name = converter.stick name := by
  obtain ⟨x, y, v, h, arrived, isPosted⟩ := converter.exists_postEvent mode
  rw [isPosted]
  cases name <;> rfl

@[simp]
theorem continuedMovementMode_postEvent (mode : ContinuedMovementMode) :
    (converter.postEvent mode).continuedMovementMode = converter.continuedMovementMode := by
  obtain ⟨x, y, v, h, arrived, isPosted⟩ := converter.exists_postEvent mode
  rw [isPosted]

@[simp]
theorem continuedMovementTimer_postEvent (mode : ContinuedMovementMode) :
    (converter.postEvent mode).continuedMovementTimer = converter.continuedMovementTimer := by
  obtain ⟨x, y, v, h, arrived, isPosted⟩ := converter.exists_postEvent mode
  rw [isPosted]

@[simp]
theorem capturedIntervals_postEvent (mode : ContinuedMovementMode) :
    (converter.postEvent mode).capturedIntervals = converter.capturedIntervals := by
  obtain ⟨x, y, v, h, arrived, isPosted⟩ := converter.exists_postEvent mode
  rw [isPosted]

end Frame

/-! ## One step -/

/-- What a step keeps besides the stick that it updates. -/
structure Steers (before after : GamePadStickConverter α) (name : StickName) : Prop where
  other : after.stick name.other = before.stick name.other
  settings : (after.stick name).settings = (before.stick name).settings

/-- The mode and the timer are kept. -/
structure Goes (before after : GamePadStickConverter α) : Prop where
  mode : after.continuedMovementMode = before.continuedMovementMode
  enabled : after.continuedMovementTimer.enabled = before.continuedMovementTimer.enabled
  captured : after.capturedIntervals = before.capturedIntervals

/-- A stick in the position starts the timer, and drives the movement. -/
structure Starts (before after : GamePadStickConverter α) (name : StickName) : Prop where
  inPosition : after.InPosition name
  disabled : before.continuedMovementTimer.enabled = false
  mode : after.continuedMovementMode = name.mode
  enabled : after.continuedMovementTimer.enabled = true
  captured : after.capturedIntervals = before.capturedIntervals ++
    [(after.stick name).settings.continuedMovementIntervalMilliseconds]

/-- The last stick has left the position. -/
structure Stops (before after : GamePadStickConverter α) : Prop where
  released : ∀ name, ¬after.InPosition name
  mode : after.continuedMovementMode = .none
  enabled : after.continuedMovementTimer.enabled = false
  captured : after.capturedIntervals = before.capturedIntervals

variable [StickFunctions α] [FloorRing α] {converter : GamePadStickConverter α}

/-- The mode and the timer after the handler of a stick. -/
theorem updateContinuedMovementTimer_cases {name : StickName}
    (positive : 0 < (converter.stick name).settings.continuedMovementIntervalMilliseconds) :
    let after := converter.updateContinuedMovementTimer name.mode
      (converter.stick name).getContinuedMovementIntervalMilliseconds
    (∀ one, after.stick one = converter.stick one) ∧
      (Goes converter after ∧ (after.InPosition name ∧
          converter.continuedMovementTimer.enabled = true ∨
        ¬after.InPosition name ∧ (converter.continuedMovementMode = .none ∨
          after.InPosition name.other)) ∨
      Starts converter after name ∨ Stops converter after) := by
  intro after
  by_cases inPosition : (converter.stick name).continuedMovement = true
  · have interval : (converter.stick name).getContinuedMovementIntervalMilliseconds ≠ 0 := by
      rw [Stick.getContinuedMovementIntervalMilliseconds, if_pos inPosition]
      exact positive.ne'
    cases enabled : converter.continuedMovementTimer.enabled with
    | true =>
        have same : after = converter := by
          simp [after, updateContinuedMovementTimer, interval, enabled]
        rw [same]
        exact ⟨fun _ => rfl, .inl ⟨⟨rfl, rfl, rfl⟩, .inl ⟨inPosition, rfl⟩⟩⟩
    | false =>
        have isAfter : after = { converter with
            continuedMovementMode := name.mode
            continuedMovementTimerCount := 0
            continuedMovementTimer := converter.continuedMovementTimer.start 300
            capturedIntervals := converter.capturedIntervals ++
              [(converter.stick name).settings.continuedMovementIntervalMilliseconds] } := by
          simp only [after, updateContinuedMovementTimer, interval, enabled]
          simp [Stick.getContinuedMovementIntervalMilliseconds, inPosition]
        have sticks : ∀ one, after.stick one = converter.stick one := by
          rw [isAfter]
          intro one
          cases one <;> rfl
        refine ⟨sticks, .inr (.inl ⟨?_, enabled, by rw [isAfter], by rw [isAfter]; rfl, ?_⟩)⟩
        · rw [InPosition, sticks]
          exact inPosition
        · rw [sticks, isAfter]
  · have interval : (converter.stick name).getContinuedMovementIntervalMilliseconds = 0 := by
      rw [Stick.getContinuedMovementIntervalMilliseconds, if_neg inPosition]
    by_cases idle : converter.continuedMovementMode = .none
    · have isAfter : after = converter.postEvent name.mode := by
        simp [after, updateContinuedMovementTimer, interval, idle]
      rw [isAfter]
      refine ⟨fun _ => by simp, .inl ⟨⟨by simp, by simp, by simp⟩, .inr ⟨?_, .inl idle⟩⟩⟩
      simpa [InPosition] using inPosition
    · by_cases held : (converter.stick name.other).continuedMovement = true
      · have same : after = converter := by
          cases name <;>
            simp_all [after, updateContinuedMovementTimer, stick, StickName.other]
        rw [same]
        exact ⟨fun _ => rfl, .inl ⟨⟨rfl, rfl, rfl⟩, .inr ⟨inPosition, .inr held⟩⟩⟩
      · have isAfter : after = { converter with
            continuedMovementMode := .none
            continuedMovementTimer := converter.continuedMovementTimer.stop } := by
          cases name <;>
            simp_all [after, updateContinuedMovementTimer, stick, StickName.other]
        have sticks : ∀ one, after.stick one = converter.stick one := by
          rw [isAfter]
          intro one
          cases one <;> rfl
        refine ⟨sticks, .inr (.inr ⟨fun one => ?_, by rw [isAfter], by rw [isAfter]; rfl,
          by rw [isAfter]⟩)⟩
        rw [InPosition, sticks]
        rcases name.eq_or_eq_other one with rfl | rfl
        · exact inPosition
        · exact held

/-- An update of a stick. -/
theorem updateStick_cases {name : StickName}
    (positive : 0 < (converter.stick name).settings.continuedMovementIntervalMilliseconds)
    (axis : StickAxis) (logicalMax logicalMin integerValue : Int) :
    let after := converter.updateStick name axis logicalMax logicalMin integerValue
    Steers converter after name ∧
      (Goes converter after ∧ (after.InPosition name ∧
          converter.continuedMovementTimer.enabled = true ∨
        ¬after.InPosition name ∧ (converter.continuedMovementMode = .none ∨
          after.InPosition name.other)) ∨
      Starts converter after name ∨ Stops converter after) := by
  intro after
  let stick := (converter.stick name).updateStickSensorValue axis logicalMax logicalMin integerValue
  let moved := converter.setStick name stick
  have isStick : moved.stick name = stick := by cases name <;> rfl
  have isOther : moved.stick name.other = converter.stick name.other := by cases name <;> rfl
  have same : Goes converter moved := by cases name <;> exact ⟨rfl, rfl, rfl⟩
  have isAfter : after = moved.updateContinuedMovementTimer name.mode
      (moved.stick name).getContinuedMovementIntervalMilliseconds := by rw [isStick]; rfl
  have movedPositive :
      0 < (moved.stick name).settings.continuedMovementIntervalMilliseconds := by
    rw [isStick, Stick.settings_updateStickSensorValue]
    exact positive
  obtain ⟨sticks, cases⟩ := updateContinuedMovementTimer_cases movedPositive
  rw [← isAfter] at sticks cases
  refine ⟨⟨(sticks name.other).trans isOther, ?_⟩, ?_⟩
  · rw [sticks, isStick, Stick.settings_updateStickSensorValue]
  · rw [same.enabled, same.mode] at cases
    rcases cases with ⟨goes, kept⟩ | starts | stops
    · exact .inl ⟨⟨goes.mode.trans same.mode, goes.enabled.trans same.enabled,
        goes.captured.trans same.captured⟩, kept⟩
    · exact .inr (.inl ⟨starts.inPosition, same.enabled ▸ starts.disabled, starts.mode,
        starts.enabled, same.captured ▸ starts.captured⟩)
    · exact .inr (.inr ⟨stops.released, stops.mode, stops.enabled,
        stops.captured.trans same.captured⟩)

/-- The function of the timer posts, and does not stop the timer. -/
theorem goes_callFunction {interval : Int} (captured : interval ≠ 0) :
    Goes converter (converter.callFunction interval) ∧
      ∀ name, (converter.callFunction interval).stick name = converter.stick name := by
  unfold callFunction
  dsimp only
  split
  · exact ⟨⟨rfl, rfl, rfl⟩, fun name => by cases name <;> rfl⟩
  · refine ⟨⟨by simp, ?_, by simp⟩, fun name => ?_⟩
    · simp [ContinuedMovementTimer.setInterval, captured]
    · let counted := { converter with
        continuedMovementTimerCount := converter.continuedMovementTimerCount + 1 }
      let posted := counted.postEvent counted.continuedMovementMode
      calc _ = posted.stick name := by cases name <;> rfl
        _ = counted.stick name := stick_postEvent ..
        _ = converter.stick name := by cases name <;> rfl
  · exact ⟨⟨by simp, by simp, by simp⟩, fun name => by rw [stick_postEvent]; cases name <;> rfl⟩

/-! ## Every state -/

/-- The timer runs while a stick drives the movement, and then a stick is in the position. -/
structure Sound (converter : GamePadStickConverter α) : Prop where
  timer : converter.continuedMovementTimer.enabled = true ↔
    converter.continuedMovementMode ≠ .none
  held : converter.continuedMovementMode ≠ .none → ∃ name, converter.InPosition name
  intervals : ∀ name,
    0 < (converter.stick name).settings.continuedMovementIntervalMilliseconds
  captured : ∀ interval ∈ converter.capturedIntervals, interval ≠ 0

/-- The stick that an action updates. -/
def Action.Updates : Action → StickName → Prop
  | .update own _ _ _ _, name => own = name
  | .tick _, _ => False

/-- The mode and the timer are kept. While a stick drives the movement, a stick is in the position,
and otherwise none comes into it. -/
structure Continues (before : GamePadStickConverter α) (action : Action)
    (after : GamePadStickConverter α) : Prop extends Goes before after where
  held : before.continuedMovementMode ≠ .none → ∃ name, after.InPosition name
  released : before.continuedMovementMode = .none → ∀ name, after.InPosition name →
    after.stick name = before.stick name ∧ ¬action.Updates name

/-- A step goes on, or it starts the movement of a stick, or it stops the movement. -/
theorem step_cases (sound : converter.Sound) (action : Action) :
    (Continues converter action (converter.step action) ∨
      (∃ name, Starts converter (converter.step action) name) ∨
      Stops converter (converter.step action)) ∧
    ∀ name, ((converter.step action).stick name).settings = (converter.stick name).settings := by
  cases action with
  | update name axis logicalMax logicalMin integerValue =>
      obtain ⟨steers, cases⟩ := updateStick_cases (sound.intervals name) axis logicalMax logicalMin
        integerValue
      refine ⟨?_, fun one => ?_⟩
      · rcases cases with ⟨goes, ⟨inPosition, enabled⟩ | ⟨notName, idleOrOther⟩⟩ | starts | stops
        · exact .inl ⟨goes, fun _ => ⟨name, inPosition⟩,
            fun idle => absurd idle (sound.timer.mp enabled)⟩
        · refine .inl ⟨goes, fun driven => ?_, fun _ one inPosition => ?_⟩
          · exact ⟨name.other, idleOrOther.resolve_left driven⟩
          · rcases name.eq_or_eq_other one with rfl | rfl
            · exact absurd inPosition notName
            · exact ⟨steers.other, by cases name <;> exact nofun⟩
        · exact .inr (.inl ⟨name, starts⟩)
        · exact .inr (.inr stops)
      · rcases name.eq_or_eq_other one with rfl | rfl
        · exact steers.settings
        · exact congrArg Stick.settings steers.other
  | tick function =>
      have kept : Goes converter (converter.step (.tick function)) ∧
          ∀ name, (converter.step (.tick function)).stick name = converter.stick name := by
        rw [step]
        cases found : converter.capturedIntervals[function]? with
        | none => exact ⟨⟨rfl, rfl, rfl⟩, fun _ => rfl⟩
        | some interval =>
            exact goes_callFunction (sound.captured interval (List.mem_of_getElem? found))
      obtain ⟨goes, sticks⟩ := kept
      refine ⟨.inl ⟨goes, fun driven => ?_, fun _ name _ => ⟨sticks name, id⟩⟩,
        fun name => congrArg Stick.settings (sticks name)⟩
      obtain ⟨name, inPosition⟩ := sound.held driven
      exact ⟨name, by rwa [InPosition, sticks]⟩

/-- A step keeps the converter sound: the timer runs while a stick drives the movement. -/
theorem Sound.step (sound : converter.Sound) (action : Action) :
    (converter.step action).Sound := by
  obtain ⟨cases, settings⟩ := step_cases sound action
  have intervals : ∀ name,
      0 < ((converter.step action).stick name).settings.continuedMovementIntervalMilliseconds :=
    fun name => settings name ▸ sound.intervals name
  rcases cases with continues | ⟨name, starts⟩ | stops
  · refine ⟨?_, ?_, intervals, ?_⟩
    · rw [continues.enabled, continues.mode]
      exact sound.timer
    · rw [continues.mode]
      exact continues.held
    · rw [continues.captured]
      exact sound.captured
  · refine ⟨iff_of_true starts.enabled ?_, fun _ => ⟨name, starts.inPosition⟩, intervals, ?_⟩
    · rw [starts.mode]
      exact name.mode_ne_none
    · rw [starts.captured]
      intro interval member
      rcases List.mem_append.mp member with earlier | own
      · exact sound.captured interval earlier
      · rw [List.mem_singleton.mp own]
        exact (intervals name).ne'
  · refine ⟨iff_of_false ?_ (not_not.mpr stops.mode), fun driven => absurd stops.mode driven,
      intervals, ?_⟩
    · rw [stops.enabled]
      exact Bool.false_ne_true
    · rw [stops.captured]
      exact sound.captured

/-! ## Histories -/

/-- The steps of a converter. -/
abbrev History (α : Type) := List (GamePadStickConverter α × Action × GamePadStickConverter α)

/-- The stick has sent a value. -/
def HasMoved (history : History α) (name : StickName) : Prop :=
  ∃ transition ∈ history, transition.2.1.Updates name

/-- The stick drives the movement and leaves the position, while the other stick is held. -/
def Leaves (name : StickName)
    (transition : GamePadStickConverter α × Action × GamePadStickConverter α) : Prop :=
  transition.1.continuedMovementMode = name.mode ∧ transition.1.InPosition name ∧
    ¬transition.2.2.InPosition name ∧ transition.2.2.InPosition name.other ∧
    transition.2.2.continuedMovementMode = name.mode

/-- The stick comes back into the position, or it does not drive the movement. -/
def Returns (name : StickName)
    (transition : GamePadStickConverter α × Action × GamePadStickConverter α) : Prop :=
  transition.2.2.InPosition name ∨ transition.2.2.continuedMovementMode ≠ name.mode

/-- No stick is in the position while the movement is stopped, but for one without a positive
threshold that has not sent a value. -/
def Released (history : History α) (converter : GamePadStickConverter α) : Prop :=
  converter.continuedMovementMode = .none → ∀ name,
    HasMoved history name ∨
        0 < (converter.stick name).settings.continuedMovementAbsoluteMagnitudeThreshold →
      ¬converter.InPosition name

/-- How the continued movement follows the sticks. The timer is enabled while a stick drives the
movement, and then a stick is in the position. The stick that drives it is in the position, unless
it has left it while the other stick was held. -/
structure DrivenMovement (history : History α) (converter : GamePadStickConverter α) : Prop where
  timer : converter.continuedMovementTimer.enabled = true ↔
    converter.continuedMovementMode ≠ .none
  held : converter.continuedMovementMode ≠ .none → ∃ name, converter.InPosition name
  released : Released history converter
  named : ∀ name, converter.continuedMovementMode = name.mode →
    (converter.InPosition name ↔ ¬Since (Leaves name) (Returns name) history)

omit [Field α] [LinearOrder α] [StickFunctions α] [FloorRing α] in
theorem hasMoved_concat {history : History α} {name : StickName}
    {transition : GamePadStickConverter α × Action × GamePadStickConverter α} :
    HasMoved (history ++ [transition]) name ↔
      HasMoved history name ∨ transition.2.1.Updates name := by
  simp [HasMoved, or_and_right, exists_or]

/-- What has been released stays so: an action that updates no stick brings none into the position.
-/
theorem Released.step {history : History α} (released : Released history converter)
    (sound : converter.Sound) (action : Action) :
    Released (history ++ [(converter, action, converter.step action)])
      (converter.step action) := by
  intro idle name moved inPosition
  obtain ⟨cases, settings⟩ := step_cases sound action
  rcases cases with continues | ⟨own, starts⟩ | stops
  · rw [continues.mode] at idle
    obtain ⟨same, notUpdated⟩ := continues.released idle name inPosition
    rw [settings, hasMoved_concat, or_iff_left notUpdated] at moved
    apply released idle name moved
    rwa [InPosition, ← same]
  · rw [starts.mode] at idle
    exact own.mode_ne_none idle
  · exact stops.released name inPosition

/-- The stick that drives the movement without being in the position has left it. -/
theorem since_leaves_step {history : History α} {name : StickName}
    (since : Since (Leaves name) (Returns name) history ↔
      converter.continuedMovementMode = name.mode ∧ ¬converter.InPosition name)
    (sound : converter.Sound) (action : Action) :
    Since (Leaves name) (Returns name) (history ++ [(converter, action, converter.step action)]) ↔
      (converter.step action).continuedMovementMode = name.mode ∧
        ¬(converter.step action).InPosition name := by
  rw [since_concat, since]
  constructor
  · rintro (⟨-, -, notIn, -, mode⟩ | ⟨-, stays⟩)
    · exact ⟨mode, notIn⟩
    · exact ⟨not_not.mp fun different => stays (.inr different), fun back => stays (.inl back)⟩
  · rintro ⟨mode, notIn⟩
    have before : converter.continuedMovementMode = name.mode := by
      rcases (step_cases sound action).1 with continues | ⟨own, starts⟩ | stops
      · rw [← continues.mode, mode]
      · obtain rfl := StickName.mode_injective (starts.mode.symm.trans mode)
        exact absurd starts.inPosition notIn
      · exact absurd (mode.symm.trans stops.mode) name.mode_ne_none
    by_cases wasIn : converter.InPosition name
    · left
      obtain ⟨held, inPosition⟩ := (sound.step action).held (mode ▸ name.mode_ne_none)
      rcases name.eq_or_eq_other held with rfl | rfl
      · exact absurd inPosition notIn
      · exact ⟨before, wasIn, notIn, inPosition, mode⟩
    · right
      exact ⟨⟨before, wasIn⟩, fun returns => returns.elim notIn fun different => different mode⟩

/-- What holds along a run. -/
structure Runs (history : History α) (converter : GamePadStickConverter α) : Prop where
  sound : converter.Sound
  released : Released history converter
  since : ∀ name, Since (Leaves name) (Returns name) history ↔
    converter.continuedMovementMode = name.mode ∧ ¬converter.InPosition name

theorem Runs.step {history : History α} (runs : Runs history converter) (action : Action) :
    Runs (history ++ [(converter, action, converter.step action)]) (converter.step action) where
  sound := runs.sound.step action
  released := runs.released.step runs.sound action
  since name := since_leaves_step (runs.since name) runs.sound action

omit [StickFunctions α] [FloorRing α] in
/-- A converter that has just been made, with positive intervals, runs as its history says. -/
theorem runs_new {xySettings wheelsSettings : StickSettings α}
    (xyPositive : 0 < xySettings.continuedMovementIntervalMilliseconds)
    (wheelsPositive : 0 < wheelsSettings.continuedMovementIntervalMilliseconds)
    (formulas : StickFormulas) : Runs [] (new xySettings wheelsSettings formulas) where
  sound :=
    { timer := iff_of_false Bool.false_ne_true (not_not.mpr rfl)
      held := fun driven => absurd rfl driven
      intervals := fun name => by
        cases name
        · exact xyPositive
        · exact wheelsPositive
      captured := fun _ member => absurd member List.not_mem_nil }
  released := by
    rintro - name (⟨_, member, -⟩ | positive) inPosition
    · exact absurd member List.not_mem_nil
    · cases name <;> exact absurd (of_decide_eq_true inPosition) (not_le_of_gt positive)
  since name := iff_of_false not_since_nil fun both => name.mode_ne_none both.1.symm

/-- How the continued movement follows the sticks in every state of every run. -/
theorem drivenMovement_run {xySettings wheelsSettings : StickSettings α}
    (xyPositive : 0 < xySettings.continuedMovementIntervalMilliseconds)
    (wheelsPositive : 0 < wheelsSettings.continuedMovementIntervalMilliseconds)
    (formulas : StickFormulas) (actions : List Action) :
    DrivenMovement (transitions step (new xySettings wheelsSettings formulas) actions)
      (actions.foldl step (new xySettings wheelsSettings formulas)) := by
  have runs : Runs (transitions step (new xySettings wheelsSettings formulas) actions)
      (actions.foldl step (new xySettings wheelsSettings formulas)) :=
    history_invariant (runs_new xyPositive wheelsPositive formulas)
      (fun _ _ action runs => runs.step action) actions
  refine ⟨runs.sound.timer, runs.sound.held, runs.released, fun name mode => ?_⟩
  rw [runs.since, and_iff_right mode, not_not]

/-! ## The stick that is let go first -/

/-- The rational numbers. The angle is that of a stick that is not tilted vertically, and no
formula has a value. -/
@[reducible] def rationalFunctions : StickFunctions ℚ := ⟨Rat.sqrt, fun _ _ => 0, fun _ _ => none⟩

def sampleSettings : StickSettings ℚ := ⟨1 / 10, 1 / 100, 1, 20⟩

/-- Both sticks are tilted to the right, and the first one is let go. -/
def firstLetGo : List Action :=
  [.update .xy .horizontal 2 0 2, .tick 0, .update .wheels .horizontal 2 0 2,
    .update .xy .horizontal 2 0 1]

omit [Field α] [LinearOrder α] [StickFunctions α] [FloorRing α] in
/-- With both sticks tilted and the first one let go, the movement follows the sticks as described.
-/
theorem drivenMovement_firstLetGo :
    let _ := rationalFunctions
    let start := new sampleSettings sampleSettings ⟨"", "", "", ""⟩
    DrivenMovement (transitions step start firstLetGo) (firstLetGo.foldl step start) := by
  intro functions start
  exact drivenMovement_run (by decide) (by decide) ⟨"", "", "", ""⟩ firstLetGo

omit [Field α] [LinearOrder α] [StickFunctions α] [FloorRing α] in
/-- The stick that was let go still drives the movement, and the other one is held. -/
theorem firstLetGo_drives :
    let _ := rationalFunctions
    let start := new sampleSettings sampleSettings ⟨"", "", "", ""⟩
    ((firstLetGo.foldl step start).continuedMovementMode = .xy ∧
        ¬(firstLetGo.foldl step start).InPosition .xy ∧
        (firstLetGo.foldl step start).InPosition .wheels) ∧
      ¬∀ (actions : List Action) (name : StickName),
        (actions.foldl step start).continuedMovementMode = name.mode →
          (actions.foldl step start).InPosition name := by
  intro functions start
  have first : (firstLetGo.foldl step start).continuedMovementMode = .xy ∧
      ¬(firstLetGo.foldl step start).InPosition .xy ∧
      (firstLetGo.foldl step start).InPosition .wheels := by decide +kernel
  exact ⟨first, fun all => first.2.1 (all firstLetGo .xy first.1)⟩

end GamePadStickConverter

end Karabiner
