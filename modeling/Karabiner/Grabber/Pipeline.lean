import Karabiner.Basic.TimerCalls
import Karabiner.Manipulator.MouseBasic
import Karabiner.Manipulator.MouseMotionToScroll
import Karabiner.Manipulator.Punctuality
import Karabiner.VirtualDevices.PostEventToVirtualDevices

/-! # The pipeline of the grabber

`device_grabber::manipulate` lets the connected managers work and asks for another call while an
entry is left in an input queue. Several such calls may be pending, and entries that have to wait
may be served by any of them. The calls come to an end, and then every queue is empty
(`DeviceGrabber.pipeline_drains`).
-/

namespace Karabiner

/-- A manipulator of any kind that the managers of the grabber hold. -/
inductive PipelineManipulator [HidReportLibrary] where
  | basic (basic : TimedBasic)
  | mouseBasic (mouse : MouseBasic)
  | mouseMotionToScroll (scroll : MouseMotionToScroll)
  | postEvents (m : PostEventToVirtualDevices)

/-! ## Manipulators are punctual -/

section Basic

variable [ExpressionLibrary] [MachTimebase]

omit [ExpressionLibrary] in
/-- How the look-ahead delays the front entry, and until when it lets it wait. -/
theorem Basic.inTime_decideByLookAhead (basic : Basic) (front : Entry) (entries : List Entry)
    (now : Int) (mandatory : List ModifierFlag) :
    let decided := basic.decideByLookAhead front entries now mandatory
    decided.2.eventTimeStamp.timeStamp = front.eventTimeStamp.timeStamp ∧
      decided.2.eventTimeStamp.inputDelayDuration ≤
        max front.eventTimeStamp.inputDelayDuration basic.simultaneousThreshold ∧
      (decided.1 = .waits → now < decided.2.eventTimeStamp.makeTimeStampWithInputDelay) := by
  unfold Basic.decideByLookAhead
  dsimp only
  split
  · exact ⟨rfl, le_max_left _ _, nofun⟩
  · split
    · split
      · rename_i early
        exact ⟨rfl, le_rfl, fun _ => early⟩
      · split <;> exact ⟨rfl, le_rfl, nofun⟩
    · exact ⟨rfl, le_max_left _ _, nofun⟩

omit [ExpressionLibrary] in
/-- Deciding about a press lets the entry wait no longer than the manipulator's own patience. -/
theorem Basic.inTime_decideKeyDown (basic : Basic) (front : Entry) (entries : List Entry)
    (output : EventQueue) (now : Int) :
    let decided := basic.decideKeyDown front entries output now
    decided.2.1.eventTimeStamp.timeStamp = front.eventTimeStamp.timeStamp ∧
      decided.2.1.eventTimeStamp.inputDelayDuration ≤
        max front.eventTimeStamp.inputDelayDuration basic.simultaneousThreshold ∧
      (decided.1 = .waits → now < decided.2.1.eventTimeStamp.makeTimeStampWithInputDelay) := by
  unfold Basic.decideKeyDown
  split
  · exact ⟨rfl, le_max_left _ _, nofun⟩
  · split
    · exact ⟨rfl, le_max_left _ _, nofun⟩
    · split
      · exact ⟨rfl, le_max_left _ _, nofun⟩
      · dsimp only
        split
        · exact Basic.inTime_decideByLookAhead basic front entries now _
        · exact ⟨rfl, le_max_left _ _, nofun⟩

/-- What a call does to the time of the front entry, and that it leaves the configuration of the
manipulator alone. -/
theorem TimedBasic.inTime_manipulate (manipulator : TimedBasic) (front : Entry)
    (input output : EventQueue) (now : Int) :
    let called := manipulator.manipulate front input output now
    called.2.2.1.eventTimeStamp.timeStamp = front.eventTimeStamp.timeStamp ∧
      called.2.2.1.eventTimeStamp.inputDelayDuration ≤
        max front.eventTimeStamp.inputDelayDuration manipulator.basic.simultaneousThreshold ∧
      (called.1 = .needsWaitUntilTimeStamp → now <
        called.2.2.1.eventTimeStamp.makeTimeStampWithInputDelay) ∧
      called.2.1.basic = manipulator.basic := by
  have noted := manipulator.basic_cancelTimers front output
  unfold TimedBasic.manipulate
  dsimp only
  rw [← noted]
  generalize manipulator.cancelTimers front output = canceled
  split
  · exact ⟨rfl, le_max_left _ _, nofun, rfl⟩
  · split
    · cases front.eventType with
      | single => exact ⟨rfl, le_max_left _ _, nofun, rfl⟩
      | keyUp =>
          dsimp only
          unfold TimedBasic.manipulateKeyUp
          split
          · exact ⟨rfl, le_max_left _ _, nofun, rfl⟩
          · exact ⟨rfl, le_max_left _ _, nofun, rfl⟩
      | keyDown =>
          dsimp only
          obtain ⟨time, delay, early⟩ :=
            canceled.1.basic.inTime_decideKeyDown front input.events canceled.2 now
          unfold TimedBasic.manipulateKeyDown
          split
          · rename_i decided
            rw [decided] at time delay
            exact ⟨time, delay, nofun, rfl⟩
          · rename_i decided
            rw [decided] at time delay early
            exact ⟨time, delay, fun _ => early rfl, rfl⟩
          · rename_i decided
            rw [decided] at time delay
            exact ⟨time, delay, nofun, rfl⟩
    · exact ⟨rfl, le_max_left _ _, nofun, rfl⟩

end Basic

namespace PipelineManipulator

variable [HidReportLibrary] [ExpressionLibrary] [MachTimebase]

/-- The functions of each kind. -/
instance : Manipulator PipelineManipulator where
  alreadyManipulated
    | .basic own, front => Manipulator.alreadyManipulated own front
    | .mouseBasic _, _ => false
    | .mouseMotionToScroll own, front => Manipulator.alreadyManipulated own front
    | .postEvents own, front => Manipulator.alreadyManipulated own front
  manipulate
    | .basic own, front, input, output, now =>
        let (result, changed, front, output) := Manipulator.manipulate own front input output now
        (result, .basic changed, front, output)
    | .mouseBasic own, front, _, output, _ =>
        let (result, front, output) := own.manipulate front output
        (result, .mouseBasic own, front, output)
    | .mouseMotionToScroll own, front, input, output, now =>
        let (result, changed, front, output) := Manipulator.manipulate own front input output now
        (result, .mouseMotionToScroll changed, front, output)
    | .postEvents own, front, input, output, now =>
        let (result, changed, front, output) := Manipulator.manipulate own front input output now
        (result, .postEvents changed, front, output)
  active
    | .basic own => Manipulator.active own
    | .mouseBasic _ => false
    | .mouseMotionToScroll own => Manipulator.active own
    | .postEvents own => Manipulator.active own
  getValidity
    | .basic own => Manipulator.getValidity own
    | .mouseBasic own => own.validity
    | .mouseMotionToScroll own => own.validity
    | .postEvents own => Manipulator.getValidity own
  setValidity
    | .basic own, validity => .basic (Manipulator.setValidity own validity)
    | .mouseBasic own, validity => .mouseBasic { own with validity := validity }
    | .mouseMotionToScroll own, validity => .mouseMotionToScroll { own with validity := validity }
    | .postEvents own, validity => .postEvents (Manipulator.setValidity own validity)
  handleDeviceKeysAndPointingButtonsAreReleasedEvent
    | .basic own, front, output =>
        let (changed, output) :=
          Manipulator.handleDeviceKeysAndPointingButtonsAreReleasedEvent own front output
        (.basic changed, output)
    | .mouseBasic own, _, output => (.mouseBasic own, output)
    | .mouseMotionToScroll own, _, output => (.mouseMotionToScroll own, output)
    | .postEvents own, front, output =>
        let (changed, output) :=
          Manipulator.handleDeviceKeysAndPointingButtonsAreReleasedEvent own front output
        (.postEvents changed, output)
  handleDeviceUngrabbedEvent
    | .basic own, deviceId, output, timeStamp =>
        .basic (Manipulator.handleDeviceUngrabbedEvent own deviceId output timeStamp)
    | .mouseBasic own, _, _, _ => .mouseBasic own
    | .mouseMotionToScroll own, _, _, _ => .mouseMotionToScroll own
    | .postEvents own, deviceId, output, timeStamp =>
        .postEvents (Manipulator.handleDeviceUngrabbedEvent own deviceId output timeStamp)
  handlePointingDeviceEventFromEventTap
    | .basic own, front, output =>
        let (changed, output) :=
          Manipulator.handlePointingDeviceEventFromEventTap own front output
        (.basic changed, output)
    | .mouseBasic own, _, output => (.mouseBasic own, output)
    | .mouseMotionToScroll own, _, output => (.mouseMotionToScroll own, output)
    | .postEvents own, front, output =>
        let (changed, output) :=
          Manipulator.handlePointingDeviceEventFromEventTap own front output
        (.postEvents changed, output)

/-- The threshold of a `basic` manipulator. No other one lets an entry wait. -/
def threshold : PipelineManipulator → Int
  | .basic own => own.basic.simultaneousThreshold
  | _ => 0

/-- What a call does to the time of the front entry. -/
theorem inTime_manipulate (m : PipelineManipulator) (front : Entry) (input output : EventQueue)
    (now : Int) :
    let called := Manipulator.manipulate m front input output now
    called.2.2.1.eventTimeStamp.timeStamp = front.eventTimeStamp.timeStamp ∧
      called.2.2.1.eventTimeStamp.inputDelayDuration ≤
        max front.eventTimeStamp.inputDelayDuration m.threshold ∧
      (called.1 = .needsWaitUntilTimeStamp → now <
        called.2.2.1.eventTimeStamp.makeTimeStampWithInputDelay) ∧
      called.2.1.threshold = m.threshold := by
  cases m with
  | basic own =>
      obtain ⟨time, delay, early, kept⟩ := own.inTime_manipulate front input output now
      exact ⟨time, delay, early, congrArg Basic.simultaneousThreshold kept⟩
  | mouseBasic own =>
      have passes : (own.manipulate front output).1 ≠ .needsWaitUntilTimeStamp ∧
          (own.manipulate front output).2.1.eventTimeStamp = front.eventTimeStamp := by
        unfold MouseBasic.manipulate
        split <;> exact ⟨nofun, rfl⟩
      exact ⟨congrArg _ passes.2, (congrArg _ passes.2).le.trans (le_max_left _ _),
        fun waits => absurd waits passes.1, rfl⟩
  | mouseMotionToScroll own =>
      obtain ⟨running, same⟩ := own.manipulate_cases front output now
      exact ⟨congrArg _ same, (congrArg _ same).le.trans (le_max_left _ _),
        fun waits => absurd waits running, rfl⟩
  | postEvents own =>
      have same : (own.manipulate front output).2.1.eventTimeStamp = front.eventTimeStamp := by
        unfold PostEventToVirtualDevices.manipulate
        split <;> rfl
      exact ⟨congrArg _ same, (congrArg _ same).le.trans (le_max_left _ _), nofun, rfl⟩

instance : PunctualManipulator PipelineManipulator where
  patience := threshold
  timeStamp_eq m front input output now := (m.inTime_manipulate front input output now).1
  delay_le m front input output now := (m.inTime_manipulate front input output now).2.1
  early_of_waits m front input output now := (m.inTime_manipulate front input output now).2.2.1
  patience_manipulate m front input output now :=
    (m.inTime_manipulate front input output now).2.2.2
  patience_released m _ _ := by cases m <;> rfl
  patience_ungrabbed m _ _ _ := by cases m <;> rfl
  patience_eventTap m front _ := by
    cases m with
    | basic own =>
        refine congrArg Basic.simultaneousThreshold ?_
        unfold TimedBasic.unsetAloneIfNeeded
        split <;> rfl
    | mouseBasic _ | mouseMotionToScroll _ | postEvents _ => rfl

end PipelineManipulator

namespace DeviceGrabber

variable [HidReportLibrary] [ExpressionLibrary] [MachTimebase]

omit [ExpressionLibrary] [MachTimebase] in
/-- `posted_event_queue_->clear_events`, for the output queue of the last connection. -/
def clearPosted :
    List (ManagerConnection PipelineManipulator) → List (ManagerConnection PipelineManipulator)
  | [] => []
  | [last] => [{ last with output := last.output.clearEvents }]
  | connection :: next :: rest => connection :: clearPosted (next :: rest)

/-- `device_grabber::manipulate`, with the time of the call that it asks for. The posting of
reports is a job of its own. -/
def manipulate (reorder : Bool) (connector : Connector PipelineManipulator) (now : Int) :
    Connector PipelineManipulator × Option Int :=
  let manipulated := connector.manipulate now reorder
  let cleared := { manipulated with connections := clearPosted manipulated.connections }
  (cleared, cleared.minInputEventTimeStamp)

omit [ExpressionLibrary] [MachTimebase] in
theorem length_clearPosted (connections : List (ManagerConnection PipelineManipulator)) :
    (clearPosted connections).length = connections.length := by
  induction connections using clearPosted.induct with
  | case1 => rfl
  | case2 last => rfl
  | case3 connection next rest ih =>
      rw [clearPosted, List.length_cons, ih]
      rfl

omit [ExpressionLibrary] [MachTimebase] in
theorem inputsFrom_clearPosted (input : EventQueue)
    (connections : List (ManagerConnection PipelineManipulator)) :
    Connector.inputsFrom input (clearPosted connections) =
      Connector.inputsFrom input connections := by
  induction connections using clearPosted.induct generalizing input with
  | case1 => rfl
  | case2 last => rfl
  | case3 connection next rest ih =>
      rw [clearPosted, Connector.inputsFrom, ih]
      rfl

omit [ExpressionLibrary] [MachTimebase] in
/-- The first input queues are as empty as before when the posted entries are cleared. -/
theorem emptiedFrom_clearPosted_iff (index : Nat) (input : EventQueue)
    (connections : List (ManagerConnection PipelineManipulator)) :
    Connector.EmptiedFrom index input (clearPosted connections) ↔
      Connector.EmptiedFrom index input connections := by
  induction connections using clearPosted.induct generalizing index input with
  | case1 => exact Iff.rfl
  | case2 last =>
      cases index with
      | zero => exact Iff.rfl
      | succ index => cases index <;> exact Iff.rfl
  | case3 connection next rest ih =>
      cases index with
      | zero => exact Iff.rfl
      | succ index =>
          rw [clearPosted]
          exact and_congr_right fun _ => ih index connection.output

/-- What is due by a time is so after the posted entries have been cleared. -/
theorem dueFrom_clearPosted_iff (bound : Int) (index : Nat) (input : EventQueue)
    (connections : List (ManagerConnection PipelineManipulator)) :
    Connector.DueFrom bound index input (clearPosted connections) ↔
      Connector.DueFrom bound index input connections := by
  induction connections using clearPosted.induct generalizing index input with
  | case1 => exact Iff.rfl
  | case2 last =>
      cases index with
      | zero => exact Iff.rfl
      | succ index =>
          rw [clearPosted, Connector.DueFrom, Connector.DueFrom]
          cases index <;> exact Iff.rfl
  | case3 connection next rest ih =>
      cases index with
      | zero => exact Iff.rfl
      | succ index =>
          rw [clearPosted]
          exact ih index connection.output

omit [ExpressionLibrary] [MachTimebase] in
/-- With the last output queue cleared, every output queue is empty if every input queue is. -/
theorem outputs_empty {input : EventQueue}
    {connections : List (ManagerConnection PipelineManipulator)}
    (empty : ∀ queue ∈ Connector.inputsFrom input connections, queue.events = []) :
    ∀ connection ∈ clearPosted connections, connection.output.events = [] := by
  induction connections using clearPosted.induct generalizing input with
  | case1 => exact fun _ member => absurd member List.not_mem_nil
  | case2 last => exact List.forall_mem_singleton.mpr rfl
  | case3 connection next rest ih =>
      rw [Connector.inputsFrom, List.forall_mem_cons] at empty
      rw [clearPosted]
      refine List.forall_mem_cons.mpr ⟨?_, ih empty.2⟩
      exact empty.2 connection.output List.mem_cons_self

/-- The first connections of a pipeline of some length have nothing queued. -/
def Emptied (length index : Nat) (connector : Connector PipelineManipulator) : Prop :=
  connector.connections.length = length ∧
    Connector.EmptiedFrom index connector.input connector.connections

/-- The pipeline drains: each call takes entries from the first queue that has any, and makes them
due by no later time. -/
theorem drains (reorder : Bool) (length : Nat) :
    Foundation.Draining.Drains (manipulate reorder) length (Emptied length) fun index connector
      bound => Connector.DueFrom bound index connector.input connector.connections where
  fewer _ emptied := ⟨emptied.1, emptied.2.fewer⟩
  kept := by
    rintro index connector time - ⟨same, emptied⟩
    refine ⟨?_, (emptiedFrom_clearPosted_iff ..).mpr (emptied.manipulateFrom time reorder)⟩
    exact (length_clearPosted _).trans ((Connector.length_manipulateFrom ..).trans same)
  exists_bound connector _ := Connector.exists_dueFrom _ connector.input connector.connections
  bound_kept time _ emptied isDue :=
    (dueFrom_clearPosted_iff ..).mpr (isDue.manipulateFrom emptied.2 time reorder)
  served := by
    rintro index connector bound time - ⟨same, emptied⟩ isDue left
    refine Connector.lt_of_not_emptied reorder emptied isDue fun more => left ⟨?_, ?_⟩
    · exact (length_clearPosted _).trans ((Connector.length_manipulateFrom ..).trans same)
    · exact (emptiedFrom_clearPosted_iff ..).mpr more
  asks := by
    rintro connector time ⟨same, -⟩ left
    have served := Connector.manipulateFrom_served time reorder connector.input
      connector.connections
    have sameLength : (manipulate reorder connector time).1.connections.length = length :=
      (length_clearPosted _).trans ((Connector.length_manipulateFrom ..).trans same)
    cases asked : (manipulate reorder connector time).2 with
    | none =>
        have empty := (Connector.minInputEventTimeStamp_eq_none_iff _).mp asked
        refine absurd ⟨sameLength, ?_⟩ left
        rw [← sameLength]
        exact (Connector.emptiedFrom_length_iff ..).mpr empty
    | some next =>
        obtain ⟨queue, member, isStamp⟩ := Connector.exists_of_minInputEventTimeStamp asked
        refine ⟨next, rfl, served queue ?_ next isStamp⟩
        exact inputsFrom_clearPosted _ _ ▸ member
  rests := by
    rintro connector time ⟨same, emptied⟩
    rw [← same] at emptied
    refine (Connector.minInputEventTimeStamp_eq_none_iff _).mpr ?_
    exact (Connector.emptiedFrom_length_iff ..).mp emptied

/-- From any state of the pipeline, with any calls of `device_grabber::manipulate` pending that are
made in any order, and without further input: there is no endless run of calls, and when no call is
pending any more, every queue is empty. -/
theorem pipeline_drains (reorder : Bool) (connector : Connector PipelineManipulator) (time : Int)
    (others : List Int) :
    Acc (fun after before => Foundation.Draining.Step (manipulate reorder) before after)
        (connector, time :: others) ∧
      ∀ final, Relation.ReflTransGen (Foundation.Draining.Step (manipulate reorder))
          (connector, time :: others) (final, []) →
        (∀ queue ∈ final.inputs, queue.events = []) ∧
          ∀ connection ∈ final.connections, connection.output.events = [] := by
  have drains := drains reorder connector.connections.length
  have start : Emptied connector.connections.length 0 connector := ⟨rfl, by
    cases connector.connections <;> exact trivial⟩
  refine ⟨drains.terminates start _, fun final run => ?_⟩
  obtain ⟨same, emptied⟩ := (drains.emptied_of_run start (List.cons_ne_nil _ _) run).2 rfl
  rw [← same] at emptied
  have empty := (Connector.emptiedFrom_length_iff ..).mp emptied
  refine ⟨empty, ?_⟩
  rcases run.cases_tail with isStart | ⟨before, _, last⟩
  · cases isStart
  · generalize isFinal : (final, ([] : List Int)) = stop at last
    cases last with
    | make state earlier now later =>
        obtain ⟨rfl, -⟩ := Prod.mk.inj isFinal
        let manipulated := state.manipulate now reorder
        have before : ∀ queue ∈ Connector.inputsFrom manipulated.input manipulated.connections,
            queue.events = [] := inputsFrom_clearPosted manipulated.input _ ▸ empty
        exact outputs_empty before

end DeviceGrabber

end Karabiner
