import Mathlib.Data.Finset.Order
import Mathlib.Order.Lattice
import Karabiner.Manipulator.Connector

/-! # Managers that do not wait for ever

A manipulator may let the front entry wait, and then it raises the input delay of the entry, up to a
limit of its own. So a manager lets an entry wait only until its time stamp is older than the
limits of all its manipulators, and connected managers are emptied by the calls that
`min_input_event_time_stamp` asks for.
-/

namespace Karabiner

/-- A manipulator that raises the input delay of an entry to a limit, and lets the entry wait only
until it is due. -/
class PunctualManipulator (M : Type) [Manipulator M] where
  patience : M → Int
  timeStamp_eq : ∀ (m : M) front input output now,
    (Manipulator.manipulate m front input output now).2.2.1.eventTimeStamp.timeStamp =
      front.eventTimeStamp.timeStamp
  delay_le : ∀ (m : M) front input output now,
    (Manipulator.manipulate m front input output now).2.2.1.eventTimeStamp.inputDelayDuration ≤
      max front.eventTimeStamp.inputDelayDuration (patience m)
  early_of_waits : ∀ (m : M) front input output now,
    (Manipulator.manipulate m front input output now).1 = .needsWaitUntilTimeStamp → now <
      (Manipulator.manipulate m front input output
        now).2.2.1.eventTimeStamp.makeTimeStampWithInputDelay
  patience_manipulate : ∀ (m : M) front input output now,
    patience (Manipulator.manipulate m front input output now).2.1 = patience m
  patience_released : ∀ (m : M) front output,
    patience (Manipulator.handleDeviceKeysAndPointingButtonsAreReleasedEvent m front output).1 =
      patience m
  patience_ungrabbed : ∀ (m : M) deviceId output timeStamp,
    patience (Manipulator.handleDeviceUngrabbedEvent m deviceId output timeStamp) = patience m
  patience_eventTap : ∀ (m : M) front output,
    patience (Manipulator.handlePointingDeviceEventFromEventTap m front output).1 = patience m

open PunctualManipulator (patience)

/-- An entry is due by a time, and is so after any of the limits has been put on it. -/
structure Entry.DueBy (bound : Int) (limits : List Int) (entry : Entry) : Prop where
  own : entry.eventTimeStamp.makeTimeStampWithInputDelay ≤ bound
  limited : ∀ limit ∈ limits, entry.eventTimeStamp.timeStamp + limit ≤ bound

/-- Entries that a list of manipulators lets wait until a time at most. -/
def DueBy {M : Type} [Manipulator M] [PunctualManipulator M] (bound : Int) (manipulators : List M)
    (events : List Entry) : Prop :=
  ∀ entry ∈ events, entry.DueBy bound (manipulators.map patience)

/-- Every finite list of entries is due by some time. -/
theorem exists_dueBy {M : Type} [Manipulator M] [PunctualManipulator M] (manipulators : List M)
    (events : List Entry) : ∃ bound, DueBy bound manipulators events := by
  induction events with
  | nil => exact ⟨0, fun _ member => absurd member List.not_mem_nil⟩
  | cons entry rest ih =>
      obtain ⟨bound, later⟩ := ih
      have limits : ∃ limit, ∀ own ∈ manipulators.map patience, own ≤ limit := by
        obtain ⟨limit, isLimit⟩ := (manipulators.map patience).toFinset.exists_le
        exact ⟨limit, fun own member => isLimit own (List.mem_toFinset.mpr member)⟩
      obtain ⟨limit, isLimit⟩ := limits
      refine ⟨max bound (max entry.eventTimeStamp.makeTimeStampWithInputDelay
        (entry.eventTimeStamp.timeStamp + limit)), fun other member => ?_⟩
      rcases List.mem_cons.mp member with rfl | isLater
      · refine ⟨by omega, fun own isOwn => ?_⟩
        have := isLimit own isOwn
        omega
      · obtain ⟨isDue, limited⟩ := later other isLater
        exact ⟨by omega, fun own isOwn => by
          have := limited own isOwn
          omega⟩

namespace Stage

variable {M : Type} [Manipulator M] [PunctualManipulator M]

/-- What the manager has done to the front entry, where it took its time. -/
structure InTime (now : Int) (manipulators : List M) (front : Entry) (result : LoopResult M) :
    Prop where
  patience : result.manipulators.map patience = manipulators.map patience
  due : ∀ bound, front.DueBy bound (manipulators.map PunctualManipulator.patience) →
    result.front.DueBy bound (manipulators.map PunctualManipulator.patience)
  early : result.waits = true → now < result.front.eventTimeStamp.makeTimeStampWithInputDelay

/-- One manipulator keeps the entry due by any time by which it was due. -/
theorem dueBy_manipulate {bound : Int} {limits : List Int} {m : M} (isLimit : patience m ∈ limits)
    {front : Entry} (isDue : front.DueBy bound limits) (input output : EventQueue) (now : Int) :
    (Manipulator.manipulate m front input output now).2.2.1.DueBy bound limits := by
  have time := PunctualManipulator.timeStamp_eq m front input output now
  have delay := PunctualManipulator.delay_le m front input output now
  have own := isDue.own
  have limited := isDue.limited _ isLimit
  constructor
  · unfold EventTimeStamp.makeTimeStampWithInputDelay at own ⊢
    omega
  · rw [time]
    exact isDue.limited

/-- The manipulators in turn keep the entry due, and it waits only if it is early. -/
theorem manipulateEach_inTime (rest : List Entry) (input : EventQueue) (now : Int)
    (manipulators : List M) (front : Entry) (output : EventQueue) :
    InTime now manipulators front (manipulateEach rest input now manipulators front output) := by
  suffices general : ∀ limits, (∀ m ∈ manipulators, patience m ∈ limits) →
      (manipulateEach rest input now manipulators front output).manipulators.map patience =
          manipulators.map patience ∧
        (∀ bound, front.DueBy bound limits →
          (manipulateEach rest input now manipulators front output).front.DueBy bound limits) ∧
        ((manipulateEach rest input now manipulators front output).waits = true → now <
          (manipulateEach rest input now manipulators front
            output).front.eventTimeStamp.makeTimeStampWithInputDelay) by
    obtain ⟨same, due, early⟩ := general _ fun m member => List.mem_map_of_mem member
    exact ⟨same, due, early⟩
  induction manipulators generalizing front output with
  | nil => exact fun _ _ => ⟨rfl, fun _ isDue => isDue, nofun⟩
  | cons m others ih =>
      intro limits isLimit
      have due : ∀ bound, front.DueBy bound limits → _ := fun bound isDue =>
        dueBy_manipulate (isLimit m List.mem_cons_self) isDue
          { input with events := front :: rest } output now
      have early := PunctualManipulator.early_of_waits m front
        { input with events := front :: rest } output now
      have kept := PunctualManipulator.patience_manipulate m front
        { input with events := front :: rest } output now
      rcases step : Manipulator.manipulate m front { input with events := front :: rest } output
        now with ⟨result, changed, delayed, posted⟩
      rw [step] at due early kept
      by_cases waits : result = .needsWaitUntilTimeStamp
      · subst waits
        rw [manipulateEach_waits step]
        refine ⟨?_, due, fun _ => early rfl⟩
        rw [List.map_cons, List.map_cons, kept]
      · rw [manipulateEach_cons waits step]
        obtain ⟨same, later, isEarly⟩ := ih delayed posted limits fun other member =>
          isLimit other (List.mem_cons_of_mem _ member)
        refine ⟨?_, fun bound isDue => later bound (due bound isDue), isEarly⟩
        rw [List.map_cons, List.map_cons, same, kept]

omit [Manipulator M] [PunctualManipulator M] in
theorem handleEach_fst {N : Type} (measure : M → N) {handler : M → EventQueue → M × EventQueue}
    (kept : ∀ m output, measure (handler m output).1 = measure m) (manipulators : List M)
    (output : EventQueue) :
    (handleEach handler manipulators output).1.map measure = manipulators.map measure := by
  induction manipulators generalizing output with
  | nil => rfl
  | cons m rest ih => rw [handleEach, List.map_cons, List.map_cons, kept, ih]

/-- Handing the front entry over keeps it due, and it waits only if it is early. -/
theorem dispatchFront_inTime (stage : Stage M) (front : Entry) (rest : List Entry) (now : Int) :
    InTime now stage.manipulators front (stage.dispatchFront front rest now) := by
  unfold dispatchFront
  cases eventKind front.event with
  | keysReleased =>
      refine ⟨handleEach_fst patience (fun m output => ?_) _ _, fun _ isDue => isDue, nofun⟩
      exact PunctualManipulator.patience_released m front output
  | deviceUngrabbed =>
      refine ⟨?_, fun _ isDue => isDue, nofun⟩
      dsimp only
      rw [List.map_map]
      exact List.map_congr_left fun m _ => PunctualManipulator.patience_ungrabbed m _ _ _
  | fromEventTap =>
      refine ⟨handleEach_fst patience (fun m output => ?_) _ _, fun _ isDue => isDue, nofun⟩
      exact PunctualManipulator.patience_eventTap m front output
  | ignored => exact ⟨rfl, fun _ isDue => isDue, nofun⟩
  | manipulated =>
      dsimp only
      split
      · exact ⟨rfl, fun _ isDue => ⟨isDue.own, isDue.limited⟩, nofun⟩
      · exact manipulateEach_inTime rest stage.input now stage.manipulators front stage.output

variable [ExpressionLibrary]

/-- No entry of the input queue is left that a call at this time would have had to take. -/
def Served (now : Int) (input : EventQueue) : Prop :=
  ∀ time, Connector.makeInputEventTimeStampWithInputDelay input = some time → now < time

omit [PunctualManipulator M] in
/-- A call that has processed the front entry has taken one entry from the input queue. -/
theorem length_of_processed {stage : Stage M} {now : Int} {reorder : Bool}
    (processed : (stage.manipulate now reorder).1 = true) :
    (stage.manipulate now reorder).2.input.events.length + 1 = stage.input.events.length := by
  cases events : stage.input.events with
  | nil =>
      rw [manipulate, events] at processed
      cases processed
  | cons front rest =>
      rw [manipulate_of_front events] at processed ⊢
      split at processed
      · cases processed
      · rename_i running
        rw [if_neg running]
        change stage.input.events.tail.length + 1 = _
        rw [events]
        rfl

omit [PunctualManipulator M] in
/-- Manipulators that have become invalid are removed without an entry, and nothing else. -/
theorem manipulate_of_empty {stage : Stage M} (empty : stage.input.events = []) (now : Int)
    (reorder : Bool) :
    stage.manipulate now reorder =
      (false, { stage with manipulators := removeInvalidManipulators stage.manipulators }) := by
  rw [manipulate, empty]

/-- A call that stops has left no entry that was to be taken by now. -/
theorem manipulate_served {stage : Stage M} {now : Int} {reorder : Bool}
    (stopped : (stage.manipulate now reorder).1 = false) :
    Served now (stage.manipulate now reorder).2.input := by
  intro time isTime
  cases events : stage.input.events with
  | nil =>
      rw [manipulate_of_empty events] at isTime
      change stage.input.events.head?.map _ = some time at isTime
      rw [events] at isTime
      cases isTime
  | cons front rest =>
      rw [manipulate_of_front events] at stopped isTime
      by_cases waits : (stage.dispatchFront front rest now).waits = true
      · rw [if_pos waits] at isTime
        obtain rfl := Option.some.inj isTime
        exact (dispatchFront_inTime stage front rest now).early waits
      · rw [if_neg waits] at stopped
        cases stopped

omit [ExpressionLibrary] in
theorem DueBy.removeInvalid {bound : Int} {manipulators : List M} {events : List Entry}
    (isDue : DueBy bound manipulators events) :
    DueBy bound (removeInvalidManipulators manipulators) events := fun entry member =>
  ⟨(isDue entry member).own, fun limit isLimit => (isDue entry member).limited limit
    (List.map_subset _ List.filter_sublist.subset isLimit)⟩

/-- A call keeps the entries of the input queue due by the same time. -/
theorem manipulate_dueBy {bound : Int} {stage : Stage M}
    (isDue : DueBy bound stage.manipulators stage.input.events) (now : Int) (reorder : Bool) :
    DueBy bound (stage.manipulate now reorder).2.manipulators
      (stage.manipulate now reorder).2.input.events := by
  cases events : stage.input.events with
  | nil =>
      rw [manipulate_of_empty events]
      exact DueBy.removeInvalid isDue
  | cons front rest =>
      have inTime := dispatchFront_inTime stage front rest now
      rw [events] at isDue
      rw [manipulate_of_front events]
      split
      · refine DueBy.removeInvalid fun entry member => ?_
        rw [inTime.patience]
        rcases List.mem_cons.mp member with rfl | later
        · exact inTime.due bound (isDue front List.mem_cons_self)
        · exact isDue entry (List.mem_cons_of_mem _ later)
      · intro entry member
        change entry.DueBy bound ((stage.dispatchFront front rest now).manipulators.map patience)
        rw [inTime.patience]
        refine isDue entry (List.mem_of_mem_tail ?_)
        rw [← events]
        exact member

/-! ## The loop of a connection -/

theorem manipulateLoop_dueBy {bound : Int} (stage : Stage M)
    (isDue : DueBy bound stage.manipulators stage.input.events) (now : Int) (reorder : Bool)
    (fuel : Nat) :
    DueBy bound (manipulateLoop now reorder fuel stage).manipulators
      (manipulateLoop now reorder fuel stage).input.events := by
  induction fuel generalizing stage with
  | zero => exact isDue
  | succ fuel ih =>
      rw [manipulateLoop]
      dsimp only
      split
      · exact ih _ (manipulate_dueBy isDue now reorder)
      · exact manipulate_dueBy isDue now reorder

/-- The loop does not end because of its bound. -/
theorem manipulateLoop_served (now : Int) (reorder : Bool) {fuel : Nat} {stage : Stage M}
    (enough : stage.input.events.length < fuel) :
    Served now (manipulateLoop now reorder fuel stage).input := by
  induction fuel generalizing stage with
  | zero => omega
  | succ fuel ih =>
      rw [manipulateLoop]
      dsimp only
      split
      · rename_i processed
        have fewer := length_of_processed processed
        exact ih (by omega)
      · rename_i stopped
        exact manipulate_served (Bool.eq_false_iff.mpr stopped)

theorem manipulateAll_served (stage : Stage M) (now : Int) (reorder : Bool) :
    Served now (stage.manipulateAll now reorder).input :=
  manipulateLoop_served now reorder (Nat.lt_succ_self _)

omit [PunctualManipulator M] in
theorem manipulateAll_of_empty {stage : Stage M} (empty : stage.input.events = []) (now : Int)
    (reorder : Bool) :
    stage.manipulateAll now reorder =
      { stage with manipulators := removeInvalidManipulators stage.manipulators } := by
  rw [manipulateAll, manipulateLoop, manipulate_of_empty empty]
  rfl

end Stage

namespace Connector

variable {M : Type} [Manipulator M] [PunctualManipulator M] [ExpressionLibrary]

/-- The input queues of the first connections are empty. -/
def EmptiedFrom : Nat → EventQueue → List (ManagerConnection M) → Prop
  | 0, _, _ | _ + 1, _, [] => True
  | index + 1, input, connection :: rest =>
      input.events = [] ∧ EmptiedFrom index connection.output rest

/-- What is queued for a connection is due by a time. -/
def DueFrom (bound : Int) : Nat → EventQueue → List (ManagerConnection M) → Prop
  | _, _, [] => True
  | 0, input, connection :: _ => DueBy bound connection.manipulators input.events
  | index + 1, _, connection :: rest => DueFrom bound index connection.output rest

omit [Manipulator M] [PunctualManipulator M] [ExpressionLibrary] in
theorem EmptiedFrom.fewer {index : Nat} {input : EventQueue}
    {connections : List (ManagerConnection M)}
    (emptied : EmptiedFrom (index + 1) input connections) :
    EmptiedFrom index input connections := by
  induction index generalizing input connections with
  | zero => trivial
  | succ index ih =>
      cases connections with
      | nil => trivial
      | cons connection rest => exact ⟨emptied.1, ih emptied.2⟩

omit [Manipulator M] [PunctualManipulator M] [ExpressionLibrary] in
theorem emptiedFrom_length_iff (input : EventQueue) (connections : List (ManagerConnection M)) :
    EmptiedFrom connections.length input connections ↔
      ∀ queue ∈ inputsFrom input connections, queue.events = [] := by
  induction connections generalizing input with
  | nil => exact iff_of_true trivial fun _ member => absurd member List.not_mem_nil
  | cons connection rest ih =>
      rw [inputsFrom, List.forall_mem_cons, ← ih]
      exact Iff.rfl

omit [ExpressionLibrary] in
theorem exists_dueFrom (index : Nat) (input : EventQueue)
    (connections : List (ManagerConnection M)) :
    ∃ bound, DueFrom bound index input connections := by
  induction connections generalizing index input with
  | nil => exact ⟨0, by unfold DueFrom; trivial⟩
  | cons connection rest ih =>
      cases index with
      | zero => exact exists_dueBy connection.manipulators input.events
      | succ index => exact ih index connection.output

omit [PunctualManipulator M] in
/-- What the call does to the first connection, if nothing is queued for it. -/
theorem manipulateFrom_of_empty (now : Int) (reorder : Bool) {input : EventQueue}
    (empty : input.events = []) (connection : ManagerConnection M)
    (rest : List (ManagerConnection M)) :
    manipulateFrom now reorder input (connection :: rest) =
      (input, ⟨Stage.removeInvalidManipulators connection.manipulators,
          (manipulateFrom now reorder connection.output rest).1⟩ ::
        (manipulateFrom now reorder connection.output rest).2) := by
  rw [manipulateFrom]
  dsimp only
  rw [Stage.manipulateAll_of_empty empty]

omit [PunctualManipulator M] in
theorem length_manipulateFrom (now : Int) (reorder : Bool) (input : EventQueue)
    (connections : List (ManagerConnection M)) :
    (manipulateFrom now reorder input connections).2.length = connections.length := by
  induction connections generalizing input with
  | nil => rfl
  | cons connection rest ih =>
      rw [manipulateFrom, List.length_cons, List.length_cons, ih]

omit [PunctualManipulator M] in
theorem EmptiedFrom.manipulateFrom {index : Nat} {input : EventQueue}
    {connections : List (ManagerConnection M)} (emptied : EmptiedFrom index input connections)
    (now : Int) (reorder : Bool) :
    EmptiedFrom index (manipulateFrom now reorder input connections).1
      (manipulateFrom now reorder input connections).2 := by
  induction connections generalizing index input with
  | nil => exact emptied
  | cons connection rest ih =>
      cases index with
      | zero => trivial
      | succ index =>
          rw [manipulateFrom_of_empty now reorder emptied.1]
          exact ⟨emptied.1, ih emptied.2⟩

/-- Calling the connections in turn keeps what is queued for one of them due, as the ones before it
have nothing to hand over. -/
theorem DueFrom.manipulateFrom {bound : Int} {index : Nat} {input : EventQueue}
    {connections : List (ManagerConnection M)} (emptied : EmptiedFrom index input connections)
    (isDue : DueFrom bound index input connections) (now : Int) (reorder : Bool) :
    DueFrom bound index (manipulateFrom now reorder input connections).1
      (manipulateFrom now reorder input connections).2 := by
  induction connections generalizing index input with
  | nil => exact isDue
  | cons connection rest ih =>
      cases index with
      | zero =>
          exact Stage.manipulateLoop_dueBy ⟨connection.manipulators, input, connection.output⟩
            isDue now reorder _
      | succ index =>
          rw [manipulateFrom_of_empty now reorder emptied.1]
          exact ih emptied.2 isDue

/-- A connection is emptied, or something is queued for it that is not due at this time. -/
theorem lt_of_not_emptied {bound : Int} {index : Nat} {input : EventQueue}
    {connections : List (ManagerConnection M)} {now : Int} (reorder : Bool)
    (emptied : EmptiedFrom index input connections)
    (isDue : DueFrom bound index input connections)
    (left : ¬ EmptiedFrom (index + 1) (Connector.manipulateFrom now reorder input connections).1
      (Connector.manipulateFrom now reorder input connections).2) : now < bound := by
  induction connections generalizing index input with
  | nil => exact absurd trivial left
  | cons connection rest ih =>
      cases index with
      | zero =>
          let stage : Stage M := ⟨connection.manipulators, input, connection.output⟩
          have served := stage.manipulateAll_served now reorder
          have stillDue : DueBy bound (stage.manipulateAll now reorder).manipulators
              (stage.manipulateAll now reorder).input.events :=
            Stage.manipulateLoop_dueBy stage isDue now reorder _
          cases events : (stage.manipulateAll now reorder).input.events with
          | nil => exact absurd ⟨events, trivial⟩ left
          | cons front later =>
              rw [events] at stillDue
              have early := served front.eventTimeStamp.makeTimeStampWithInputDelay (by
                rw [makeInputEventTimeStampWithInputDelay, events]
                rfl)
              exact early.trans_le (stillDue front List.mem_cons_self).own
      | succ index =>
          rw [manipulateFrom_of_empty now reorder emptied.1] at left
          exact ih emptied.2 isDue fun more => left ⟨emptied.1, more⟩

/-- What is still queued after a call has a later time. -/
theorem manipulateFrom_served (now : Int) (reorder : Bool) (input : EventQueue)
    (connections : List (ManagerConnection M)) :
    ∀ queue ∈ inputsFrom (manipulateFrom now reorder input connections).1
      (manipulateFrom now reorder input connections).2, Stage.Served now queue := by
  induction connections generalizing input with
  | nil => exact fun _ member => absurd member List.not_mem_nil
  | cons connection rest ih =>
      let stage : Stage M := ⟨connection.manipulators, input, connection.output⟩
      refine List.forall_mem_cons.mpr ⟨stage.manipulateAll_served now reorder, ?_⟩
      exact ih (stage.manipulateAll now reorder).output

end Connector

end Karabiner
