import Karabiner.Manipulator.Manager

/-! # Manipulators that behave alike

Two kinds of manipulators behave alike when each function of one answers as that of the other
does. A manager then does the same with either kind (`Simulates.stage_manipulate`).
-/

namespace Karabiner

/-- While the invariant holds, every function answers as that of the viewed manipulator does, and
keeps the invariant. -/
structure Simulates {M N : Type} [Manipulator M] [Manipulator N] (view : M → N)
    (invariant : M → Prop) : Prop where
  alreadyManipulated : ∀ m front, invariant m →
    Manipulator.alreadyManipulated (view m) front = Manipulator.alreadyManipulated m front
  manipulate : ∀ m front input output now, invariant m →
    let answer := Manipulator.manipulate m front input output now
    invariant answer.2.1 ∧ Manipulator.manipulate (view m) front input output now =
      (answer.1, view answer.2.1, answer.2.2)
  active : ∀ m, invariant m → Manipulator.active (view m) = Manipulator.active m
  getValidity : ∀ m, Manipulator.getValidity (view m) = Manipulator.getValidity m
  setValidity : ∀ m validity, invariant m → invariant (Manipulator.setValidity m validity) ∧
    Manipulator.setValidity (view m) validity = view (Manipulator.setValidity m validity)
  keysReleased : ∀ m front output, invariant m →
    let handled :=
      Manipulator.handleDeviceKeysAndPointingButtonsAreReleasedEvent m front output
    invariant handled.1 ∧
      Manipulator.handleDeviceKeysAndPointingButtonsAreReleasedEvent (view m) front output =
        (view handled.1, handled.2)
  deviceUngrabbed : ∀ m deviceId output timeStamp, invariant m →
    invariant (Manipulator.handleDeviceUngrabbedEvent m deviceId output timeStamp) ∧
      Manipulator.handleDeviceUngrabbedEvent (view m) deviceId output timeStamp =
        view (Manipulator.handleDeviceUngrabbedEvent m deviceId output timeStamp)
  fromEventTap : ∀ m front output, invariant m →
    let handled := Manipulator.handlePointingDeviceEventFromEventTap m front output
    invariant handled.1 ∧
      Manipulator.handlePointingDeviceEventFromEventTap (view m) front output =
        (view handled.1, handled.2)

namespace Simulates

variable {M N : Type} [Manipulator M] [Manipulator N] {view : M → N} {invariant : M → Prop}

/-- The stage with its manipulators viewed. -/
def viewStage (view : M → N) (stage : Stage M) : Stage N :=
  ⟨stage.manipulators.map view, stage.input, stage.output⟩

omit [Manipulator M] [Manipulator N] in
/-- Handlers that are alike on single manipulators are alike on the list of them. -/
theorem handleEach (handler : M → EventQueue → M × EventQueue)
    (viewed : N → EventQueue → N × EventQueue)
    (alike : ∀ m output, invariant m → invariant (handler m output).1 ∧
      viewed (view m) output = (view (handler m output).1, (handler m output).2))
    {manipulators : List M} (holds : ∀ m ∈ manipulators, invariant m) (output : EventQueue) :
    (∀ m ∈ (Stage.handleEach handler manipulators output).1, invariant m) ∧
      Stage.handleEach viewed (manipulators.map view) output =
        ((Stage.handleEach handler manipulators output).1.map view,
          (Stage.handleEach handler manipulators output).2) := by
  induction manipulators generalizing output with
  | nil => exact ⟨fun _ member => absurd member List.not_mem_nil, rfl⟩
  | cons m others ih =>
      obtain ⟨own, othersHold⟩ := List.forall_mem_cons.mp holds
      obtain ⟨kept, same⟩ := alike m output own
      obtain ⟨othersKept, othersSame⟩ := ih othersHold (handler m output).2
      rw [List.map_cons]
      unfold Stage.handleEach
      dsimp only
      rw [same]
      dsimp only
      rw [othersSame]
      exact ⟨List.forall_mem_cons.mpr ⟨kept, othersKept⟩, rfl⟩

/-- The manipulators in turn answer an entry as their views do, and keep the invariant. -/
theorem manipulateEach (simulates : Simulates view invariant) (rest : List Entry)
    (input : EventQueue) (now : Int) {manipulators : List M}
    (holds : ∀ m ∈ manipulators, invariant m) (front : Entry) (output : EventQueue) :
    let result := Stage.manipulateEach rest input now manipulators front output
    (∀ m ∈ result.manipulators, invariant m) ∧
      Stage.manipulateEach rest input now (manipulators.map view) front output =
        ⟨result.waits, result.manipulators.map view, result.front, result.output⟩ := by
  induction manipulators generalizing front output with
  | nil => exact ⟨fun _ member => absurd member List.not_mem_nil, rfl⟩
  | cons m others ih =>
      obtain ⟨own, othersHold⟩ := List.forall_mem_cons.mp holds
      obtain ⟨kept, same⟩ :=
        simulates.manipulate m front { input with events := front :: rest } output now own
      generalize answer : Manipulator.manipulate m front { input with events := front :: rest }
        output now = outcome at kept same
      obtain ⟨result, changed, delayed, posted⟩ := outcome
      rw [List.map_cons]
      by_cases running : result = .needsWaitUntilTimeStamp
      · subst running
        rw [Stage.manipulateEach_waits answer, Stage.manipulateEach_waits same]
        exact ⟨List.forall_mem_cons.mpr ⟨kept, othersHold⟩, rfl⟩
      · obtain ⟨othersKept, othersSame⟩ := ih othersHold delayed posted
        rw [Stage.manipulateEach_cons running answer, Stage.manipulateEach_cons running same,
          othersSame]
        exact ⟨List.forall_mem_cons.mpr ⟨kept, othersKept⟩, rfl⟩

theorem removeInvalidManipulators (simulates : Simulates view invariant) {manipulators : List M}
    (holds : ∀ m ∈ manipulators, invariant m) :
    (∀ m ∈ Stage.removeInvalidManipulators manipulators, invariant m) ∧
      Stage.removeInvalidManipulators (manipulators.map view) =
        (Stage.removeInvalidManipulators manipulators).map view := by
  refine ⟨fun m member => holds m (List.mem_filter.mp member).1, ?_⟩
  unfold Stage.removeInvalidManipulators
  rw [List.filter_map]
  apply congrArg
  refine List.filter_congr fun m member => ?_
  rw [Function.comp_apply, simulates.getValidity, simulates.active m (holds m member)]

theorem any_alreadyManipulated (simulates : Simulates view invariant) {manipulators : List M}
    (holds : ∀ m ∈ manipulators, invariant m) (front : Entry) :
    ((manipulators.map view).any fun m => Manipulator.alreadyManipulated m front) =
      manipulators.any fun m => Manipulator.alreadyManipulated m front := by
  rw [List.any_map, Bool.eq_iff_iff, List.any_eq_true, List.any_eq_true]
  refine exists_congr fun m => and_congr_right fun member => ?_
  rw [Function.comp_apply, simulates.alreadyManipulated m front (holds m member)]

/-- The front entry is dispatched to the views as it is to the manipulators. -/
theorem dispatchFront (simulates : Simulates view invariant) {stage : Stage M}
    (holds : ∀ m ∈ stage.manipulators, invariant m) (front : Entry) (rest : List Entry)
    (now : Int) :
    let result := stage.dispatchFront front rest now
    (∀ m ∈ result.manipulators, invariant m) ∧
      (viewStage view stage).dispatchFront front rest now =
        ⟨result.waits, result.manipulators.map view, result.front, result.output⟩ := by
  unfold Stage.dispatchFront viewStage
  dsimp only
  cases Stage.eventKind front.event with
  | keysReleased =>
      dsimp only
      obtain ⟨kept, same⟩ := handleEach
        (fun m output =>
          Manipulator.handleDeviceKeysAndPointingButtonsAreReleasedEvent m front output)
        (fun m output =>
          Manipulator.handleDeviceKeysAndPointingButtonsAreReleasedEvent m front output)
        (fun m output own => simulates.keysReleased m front output own) holds
        ((stage.output.eraseAllActiveModifierFlagsExceptLockAndSticky
          front.deviceId).eraseAllActivePointingButtonsExceptLock front.deviceId)
      rw [same]
      exact ⟨kept, rfl⟩
  | deviceUngrabbed =>
      dsimp only
      refine ⟨fun after isAfter => ?_, ?_⟩
      · obtain ⟨m, member, rfl⟩ := List.mem_map.mp isAfter
        exact (simulates.deviceUngrabbed m _ _ _ (holds m member)).1
      · have same : ∀ m ∈ stage.manipulators, _ = _ := fun m member =>
          (simulates.deviceUngrabbed m front.deviceId ((stage.output.eraseAllActiveModifierFlags
            front.deviceId).eraseAllActivePointingButtons front.deviceId)
            front.eventTimeStamp.timeStamp (holds m member)).2
        rw [List.map_map, List.map_map]
        exact congrArg (Stage.LoopResult.mk false · front _) (List.map_congr_left same)
  | fromEventTap =>
      dsimp only
      obtain ⟨kept, same⟩ := handleEach
        (fun m output => Manipulator.handlePointingDeviceEventFromEventTap m front output)
        (fun m output => Manipulator.handlePointingDeviceEventFromEventTap m front output)
        (fun m output own => simulates.fromEventTap m front output own) holds stage.output
      rw [same]
      exact ⟨kept, rfl⟩
  | ignored => exact ⟨holds, rfl⟩
  | manipulated =>
      dsimp only
      rw [simulates.any_alreadyManipulated holds]
      split
      · exact ⟨holds, rfl⟩
      · exact simulates.manipulateEach rest stage.input now holds front stage.output

variable [ExpressionLibrary]

/-- The manager does the same with either kind. -/
theorem stage_manipulate (simulates : Simulates view invariant) {stage : Stage M}
    (holds : ∀ m ∈ stage.manipulators, invariant m) (now : Int) (reorder : Bool) :
    let result := stage.manipulate now reorder
    (∀ m ∈ result.2.manipulators, invariant m) ∧
      (viewStage view stage).manipulate now reorder = (result.1, viewStage view result.2) := by
  have input : (viewStage view stage).input = stage.input := rfl
  unfold Stage.manipulate
  rw [input]
  cases stage.input.events with
  | nil =>
      obtain ⟨kept, same⟩ := simulates.removeInvalidManipulators holds
      have viewed : (viewStage view stage).manipulators = stage.manipulators.map view := rfl
      refine ⟨kept, ?_⟩
      dsimp only
      rw [viewed, same]
      rfl
  | cons front rest =>
      obtain ⟨kept, same⟩ := simulates.dispatchFront holds front rest now
      dsimp only at kept same ⊢
      rw [same]
      generalize stage.dispatchFront front rest now = result at kept ⊢
      cases waits : result.waits with
      | true =>
          obtain ⟨left, sameLeft⟩ := simulates.removeInvalidManipulators kept
          rw [if_pos rfl, if_pos rfl, sameLeft]
          exact ⟨left, rfl⟩
      | false => exact ⟨kept, rfl⟩

end Simulates

end Karabiner
