import Karabiner.Basic.ModifierDebt
import Karabiner.Foundation.Execution

/-! # The life of a record

From its key_down on, other keys and devices change a record, its own keys are released, and the
optional tasks send lists for it. Once its key_up has been sent the record owes nothing, so the
key_ups of each modifier that have been posted for it are as many as its key_downs
(`RecordLife.balanced`).
-/

namespace Karabiner

/-- A record and all that has been posted for it. -/
structure RecordLife where
  current : ManipulatedOriginalEvent
  posted : List Entry

/-- What happens to a record: other keys and devices change it, its own keys are released, and
the optional tasks send their lists. -/
inductive RecordAction where
  | unsetAlone
  | ungrab (deviceId : DeviceId)
  | keyUp (front : Entry)
  | heldDown (front : Entry) (toEvents : List ToEventDefinition)
  | otherKeyPressed (front : Entry)
  | delayedAction (front : Entry) (toEvents : List ToEventDefinition)

namespace RecordLife

/-- A computation for the record, on the output queue as it is by then. -/
def send (life : RecordLife) (queue : EventQueue) (body : Sending → Sending) : RecordLife :=
  let before : Sending := ⟨queue, 0, life.current⟩
  ⟨(body before).current, life.posted ++ before.entriesPosted (body before)⟩

/-- The record is not changed otherwise, and nothing is posted. -/
def change (life : RecordLife) (current : ManipulatedOriginalEvent) : RecordLife :=
  ⟨current, life.posted⟩

variable [ExpressionLibrary] [MachTimebase]

/-- The key_down for which the record is made. -/
def start (basic : Basic) (front : Entry) (queue : EventQueue)
    (current : ManipulatedOriginalEvent) : RecordLife :=
  send ⟨current, []⟩ queue (basic.sendAtKeyDown front)

/-- An action, on the output queue as it is by then. -/
def step (basic : Basic) (life : RecordLife) : EventQueue × RecordAction → RecordLife
  | (_, .unsetAlone) => life.change life.current.unsetAlone
  | (_, .ungrab deviceId) => life.change (life.current.eraseFromEventsByDeviceId deviceId)
  | (queue, .keyUp front) =>
      (life.change (life.current.eraseFromEvent front.fromEvent)).send queue
        (basic.sendAtKeyUp front)
  | (queue, .heldDown front toEvents) => life.send queue (·.sendWhenHeldDown front toEvents)
  | (queue, .otherKeyPressed front) => life.send queue (·.releaseToEvents front)
  | (queue, .delayedAction front toEvents) => life.send queue (·.postDelayedAction front toEvents)

omit [ExpressionLibrary] [MachTimebase] in
/-- The first key_up cancels `to_if_held_down` and resets `to_if_other_key_pressed`. -/
def Allowed (life : RecordLife) : EventQueue × RecordAction → Prop
  | (_, .keyUp front) => front.fromEvent ∈ life.current.fromEvents
  | (_, .heldDown _ _) | (_, .otherKeyPressed _) => life.current.keyUpPosted = false
  | _ => True

omit [ExpressionLibrary] [MachTimebase] in
/-- What was posted is what the record does not owe, and after its key_up it owes nothing. -/
structure Settled (life : RecordLife) : Prop where
  sum : ∀ flag, (life.posted.map fun entry => entry.sent.modifierStroke flag).sum +
    life.current.modifierDebt flag = 0
  discharged : life.current.keyUpPosted = true → life.current.Discharged

omit [ExpressionLibrary] [MachTimebase] in
/-- Sending on behalf of a record keeps its life settled, if the body settles what it lowers and
discharges what it owes. -/
theorem Settled.send {life : RecordLife} (settled : life.Settled) {queue : EventQueue}
    {body : Sending → Sending} (settles : ∀ sending, Sending.Settles sending (body sending))
    (discharged : (body ⟨queue, 0, life.current⟩).current.keyUpPosted = true →
      (body ⟨queue, 0, life.current⟩).current.Discharged) :
    (life.send queue body).Settled where
  sum flag := by
    have posted := (settles ⟨queue, 0, life.current⟩).entriesPosted flag
    have before := settled.sum flag
    unfold RecordLife.send
    dsimp only at posted ⊢
    rw [List.map_append, List.sum_append]
    omega
  discharged := discharged

omit [ExpressionLibrary] [MachTimebase] in
/-- A change of the record that leaves the kept events and the mandatory modifiers as they are keeps
its life settled. -/
theorem Settled.change {life : RecordLife} (settled : life.Settled)
    {current : ManipulatedOriginalEvent} (kept : current.eventsAtKeyUp = life.current.eventsAtKeyUp)
    (mandatory : current.mandatory = life.current.mandatory)
    (posted : current.keyUpPosted = life.current.keyUpPosted) :
    (life.change current).Settled where
  sum flag := by
    have before := settled.sum flag
    unfold ManipulatedOriginalEvent.modifierDebt at before ⊢
    unfold RecordLife.change
    rw [kept, ManipulatedOriginalEvent.liftedModifiers_congr mandatory]
    exact before
  discharged isPosted := by
    obtain ⟨none, noneLifted⟩ := settled.discharged (posted.symm.trans isPosted)
    exact ⟨kept.trans none,
      (ManipulatedOriginalEvent.liftedModifiers_congr mandatory).trans noneLifted⟩

theorem settled_start (basic : Basic) (front : Entry) (queue : EventQueue)
    {current : ManipulatedOriginalEvent} (discharged : current.Discharged)
    (notPosted : current.keyUpPosted = false) : (start basic front queue current).Settled := by
  have fresh : RecordLife.Settled ⟨current, []⟩ := by
    refine ⟨fun flag => ?_, fun _ => discharged⟩
    rw [discharged.modifierDebt_eq_zero]
    rfl
  refine fresh.send (fun sending => Sending.settles_pressToEvents sending front basic.to_)
    fun posted => ?_
  have keys := congrArg (·.2.1) (basic.sends_sendAtKeyDown front ⟨queue, 0, current⟩).keys
  exact absurd (posted.symm.trans (keys.trans notPosted)) (by decide)

/-- The record that a delayed action leaves. -/
theorem discharged_postDelayedAction (sending : Sending) (front : Entry)
    (toEvents : List ToEventDefinition)
    (discharged : sending.current.keyUpPosted = true → sending.current.Discharged) :
    (sending.postDelayedAction front toEvents).current.keyUpPosted = true →
      (sending.postDelayedAction front toEvents).current.Discharged := by
  unfold Sending.postDelayedAction Sending.withKeyDownModifierFlags
  dsimp only
  rw [(Sending.sends_postActiveModifierFlags _ _ _).2, Sending.current_postLazyModifierKeyEvents]
  generalize reached : Sending.postLazyModifierKeyEvents (Sending.postActiveModifierFlags _ _ _)
    _ _ _ = inside
  have same : inside.current = sending.current := by
    rw [← reached, Sending.current_postLazyModifierKeyEvents,
      (Sending.sends_postActiveModifierFlags _ _ _).2]
  obtain ⟨extra, kept⟩ := Sending.sends_postExtraToEvents inside front toEvents
  have lifted := ManipulatedOriginalEvent.liftedModifiers_congr
    (Sending.mandatory_sendFiltered inside front toEvents fun filtered =>
      Sending.mandatory_foldl (Sending.mandatory_postExtraToEvent front) filtered)
  have posted : (inside.postExtraToEvents front toEvents).current.keyUpPosted =
      inside.current.keyUpPosted := congrArg (·.2.1) extra.keys
  intro isPosted
  rw [posted, same] at isPosted
  obtain ⟨none, noneLifted⟩ := discharged isPosted
  exact ⟨by rw [kept, same, none], lifted.trans (by rw [same, noneLifted])⟩

omit [MachTimebase] in
/-- The tasks that a key_up stops do not count as one. -/
theorem keyUpPosted_releaseToEvents (sending : Sending) (front : Entry) :
    (sending.releaseToEvents front).current.keyUpPosted = sending.current.keyUpPosted := by
  have posted := congrArg (·.2.1) (Sending.sends_postEventsAtKeyUp sending front).1.keys
  exact (congrArg (·.2.1) (Sending.sends_postFromMandatoryModifiersKeyDown
    (sending.postEventsAtKeyUp front) front).1.keys).trans posted

/-- One action on a record keeps its life settled, as long as the action is one the record allows.
-/
theorem Settled.step {basic : Basic} {life : RecordLife} (settled : life.Settled)
    (action : EventQueue × RecordAction) (allowed : life.Allowed action) :
    (life.step basic action).Settled := by
  obtain ⟨queue, action⟩ := action
  cases action with
  | unsetAlone => exact settled.change rfl rfl rfl
  | ungrab deviceId => exact settled.change rfl rfl rfl
  | keyUp front =>
      have erased : (life.change (life.current.eraseFromEvent front.fromEvent)).Settled :=
        settled.change rfl rfl rfl
      refine erased.send (basic.settles_sendAtKeyUp front) fun posted => ?_
      obtain ⟨-, -, waits | discharged⟩ := basic.sends_sendAtKeyUp front
        ⟨queue, 0, life.current.eraseFromEvent front.fromEvent⟩ erased.discharged
      · have same := congrArg Sending.current waits.1
        change (basic.sendAtKeyUp front ⟨queue, 0, life.current.eraseFromEvent
          front.fromEvent⟩).current.keyUpPosted = true at posted
        change (basic.sendAtKeyUp front ⟨queue, 0, life.current.eraseFromEvent
          front.fromEvent⟩).current.Discharged
        rw [same] at posted ⊢
        exact erased.discharged posted
      · exact discharged
  | heldDown front toEvents =>
      have notPosted : life.current.keyUpPosted = false := allowed
      refine settled.send (fun sending => sending.settles_sendWhenHeldDown front toEvents)
        fun posted => ?_
      have pressed := congrArg (·.2.1) (Basic.sends_sendAtKeyDown
        { basic with to_ := toEvents } front
        (Sending.releaseToEvents ⟨queue, 0, life.current⟩ front)).keys
      have kept := pressed.trans (keyUpPosted_releaseToEvents ⟨queue, 0, life.current⟩ front)
      exact absurd (posted.symm.trans (kept.trans notPosted)) (by decide)
  | otherKeyPressed front =>
      have notPosted : life.current.keyUpPosted = false := allowed
      refine settled.send (fun sending => sending.settles_releaseToEvents front) fun posted => ?_
      have kept := keyUpPosted_releaseToEvents ⟨queue, 0, life.current⟩ front
      exact absurd (posted.symm.trans (kept.trans notPosted)) (by decide)
  | delayedAction front toEvents =>
      exact settled.send (fun sending => sending.settles_postDelayedAction front toEvents)
        (discharged_postDelayedAction _ front toEvents settled.discharged)

/-- Once the key_up of a record has been sent, each modifier has gone up as often as down. -/
theorem balanced (basic : Basic) (front : Entry) (queue : EventQueue)
    {current : ManipulatedOriginalEvent} (discharged : current.Discharged)
    (notPosted : current.keyUpPosted = false) (actions : List (EventQueue × RecordAction))
    (allowed : Foundation.Execution.StepsMeet (step basic) Allowed
      (start basic front queue current) actions)
    (posted : (actions.foldl (step basic) (start basic front queue current)).current.keyUpPosted =
      true) (flag : ModifierFlag) :
    let sents := (actions.foldl (step basic) (start basic front queue current)).posted.map
      Entry.sent
    sents.countP (Sent.isModifierEvent flag .keyUp) =
      sents.countP (Sent.isModifierEvent flag .keyDown) := by
  have settled : (actions.foldl (step basic) (start basic front queue current)).Settled :=
    @Foundation.Execution.invariant_of_stepsMeet _ _ (step basic) Settled Allowed
      (fun _ action settled allowed => settled.step action allowed) _ actions
      (settled_start basic front queue discharged notPosted) allowed
  intro sents
  have sum := settled.sum flag
  rw [(settled.discharged posted).modifierDebt_eq_zero, add_zero] at sum
  have total : (sents.map (Sent.modifierStroke flag)).sum = 0 := by
    rw [← sum, List.map_map]
    rfl
  rw [Sent.sum_modifierStroke] at total
  omega

end RecordLife

end Karabiner
