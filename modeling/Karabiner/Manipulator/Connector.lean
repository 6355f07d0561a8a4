import Karabiner.Foundation.Draining
import Karabiner.Manipulator.Manager

/-! # The connected managers

`manipulator_managers_connector` joins the managers of the pipeline: the output queue of one is the
input queue of the next. A call lets each manager take what it can from its input queue, and the
first entries that are left say when the next call is needed (`min_input_event_time_stamp`).
-/

namespace Karabiner

namespace Stage

variable {M : Type} [Manipulator M] [ExpressionLibrary]

/-- The loop of `connection::manipulate`, with a bound for its calls. -/
def manipulateLoop (now : Int) (reorder : Bool) : Nat → Stage M → Stage M
  | 0, stage => stage
  | fuel + 1, stage =>
      let (processed, after) := stage.manipulate now reorder
      if processed then manipulateLoop now reorder fuel after else after

/-- `connection::manipulate`. Every call that goes on has erased an entry from the input queue, so
the loop ends before its bound. -/
def manipulateAll (stage : Stage M) (now : Int) (reorder : Bool) : Stage M :=
  manipulateLoop now reorder (stage.input.events.length + 1) stage

end Stage

/-- `manipulator_managers_connector::connection`: a manager and its output queue. -/
structure ManagerConnection (M : Type) where
  manipulators : List M
  output : EventQueue

/-- `manipulator_managers_connector`. Each connection takes its input from the output queue of the
one before it, the first one from `input`. -/
structure Connector (M : Type) where
  input : EventQueue
  connections : List (ManagerConnection M)

namespace Connector

variable {M : Type}

/-- The input queues of the connections. -/
def inputsFrom : EventQueue → List (ManagerConnection M) → List EventQueue
  | _, [] => []
  | input, connection :: rest => input :: inputsFrom connection.output rest

def inputs (connector : Connector M) : List EventQueue :=
  inputsFrom connector.input connector.connections

/-- `make_input_event_time_stamp_with_input_delay`. -/
def makeInputEventTimeStampWithInputDelay (input : EventQueue) : Option Int :=
  input.events.head?.map fun front => front.eventTimeStamp.makeTimeStampWithInputDelay

/-- The body of the loop of `min_input_event_time_stamp`. -/
def earlier (result : Option Int) (input : EventQueue) : Option Int :=
  match makeInputEventTimeStampWithInputDelay input with
  | some time =>
      match result with
      | some least => if time < least then some time else some least
      | none => some time
  | none => result

/-- `min_input_event_time_stamp`. -/
def minInputEventTimeStamp (connector : Connector M) : Option Int :=
  connector.inputs.foldl earlier none

variable [Manipulator M] [ExpressionLibrary]

/-- The loop of `manipulate` over the connections, from an input queue. -/
def manipulateFrom (now : Int) (reorder : Bool) : EventQueue → List (ManagerConnection M) →
    EventQueue × List (ManagerConnection M)
  | input, [] => (input, [])
  | input, connection :: rest =>
      let stage : Stage M := ⟨connection.manipulators, input, connection.output⟩
      let served := stage.manipulateAll now reorder
      let (output, later) := manipulateFrom now reorder served.output rest
      (served.input, ⟨served.manipulators, output⟩ :: later)

/-- `manipulator_managers_connector::manipulate`. -/
def manipulate (connector : Connector M) (now : Int) (reorder : Bool) : Connector M :=
  let (input, connections) := manipulateFrom now reorder connector.input connector.connections
  ⟨input, connections⟩

/-! ## When the next call is needed -/

omit [Manipulator M] [ExpressionLibrary] in
/-- The least time of the inputs is none exactly if all of them are empty, and else it is that of
one of them. -/
theorem foldl_earlier (inputs : List EventQueue) (start : Option Int) :
    (inputs.foldl earlier start = none ↔ start = none ∧ ∀ input ∈ inputs, input.events = []) ∧
      ∀ time, inputs.foldl earlier start = some time → start = some time ∨
        ∃ input ∈ inputs, makeInputEventTimeStampWithInputDelay input = some time := by
  induction inputs generalizing start with
  | nil => exact ⟨by simp, fun time isTime => .inl isTime⟩
  | cons input rest ih =>
      obtain ⟨isNone, isSome⟩ := ih (earlier start input)
      rw [List.foldl_cons]
      cases stamp : makeInputEventTimeStampWithInputDelay input with
      | none =>
          have same : earlier start input = start := by rw [earlier, stamp]
          have empty : input.events = [] := by
            rw [makeInputEventTimeStampWithInputDelay, Option.map_eq_none_iff] at stamp
            exact List.head?_eq_none_iff.mp stamp
          rw [same] at isNone isSome ⊢
          refine ⟨isNone.trans (and_congr_right fun _ => ?_), fun time isTime => ?_⟩
          · rw [List.forall_mem_cons]
            exact (and_iff_right empty).symm
          · refine (isSome time isTime).imp_right ?_
            rintro ⟨later, member, isStamp⟩
            exact ⟨later, List.mem_cons_of_mem _ member, isStamp⟩
      | some own =>
          have filled : input.events ≠ [] := by
            intro empty
            rw [makeInputEventTimeStampWithInputDelay, empty] at stamp
            cases stamp
          have found : ∃ least, earlier start input = some least ∧
              (least = own ∨ start = some least) := by
            rw [earlier, stamp]
            cases start with
            | none => exact ⟨own, rfl, .inl rfl⟩
            | some least =>
                dsimp only
                split
                · exact ⟨own, rfl, .inl rfl⟩
                · exact ⟨least, rfl, .inr rfl⟩
          obtain ⟨least, isLeast, origin⟩ := found
          rw [isLeast] at isNone isSome ⊢
          refine ⟨iff_of_false ?_ ?_, fun time isTime => ?_⟩
          · intro nothing
            cases (isNone.mp nothing).1
          · exact fun ⟨_, allEmpty⟩ => filled (allEmpty input List.mem_cons_self)
          · rcases isSome time isTime with first | ⟨later, member, isStamp⟩
            · obtain rfl := Option.some.inj first
              rcases origin with rfl | before
              · exact .inr ⟨input, List.mem_cons_self, stamp⟩
              · exact .inl before
            · exact .inr ⟨later, List.mem_cons_of_mem _ member, isStamp⟩

omit [Manipulator M] [ExpressionLibrary] in
theorem minInputEventTimeStamp_eq_none_iff (connector : Connector M) :
    connector.minInputEventTimeStamp = none ↔
      ∀ input ∈ connector.inputs, input.events = [] :=
  (foldl_earlier connector.inputs none).1.trans (and_iff_right rfl)

omit [Manipulator M] [ExpressionLibrary] in
/-- The time is that of the first entry of an input queue. -/
theorem exists_of_minInputEventTimeStamp {connector : Connector M} {time : Int}
    (isTime : connector.minInputEventTimeStamp = some time) :
    ∃ input ∈ connector.inputs, makeInputEventTimeStampWithInputDelay input = some time :=
  ((foldl_earlier connector.inputs none).2 time isTime).resolve_left nofun

end Connector

end Karabiner
