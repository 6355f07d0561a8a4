import Karabiner.Basic.DelayedActions
import Karabiner.Basic.TimerRuns
import Karabiner.Foundation.OneShot
import Karabiner.Manipulator.Simulation

/-! # Runs with delayed actions

A manipulator with timers keeps a log of its delayed action: which key_downs it was shown, for
which record the action was set up, when its task has fired, and for which record `post_events` has
posted. The log is only written, and the manager does the same without it
(`LoggedBasic.simulates_timed`). While no manipulator is removed whose delayed action is pending,
every delayed action ends once, in the way that it has to, and each ending posts its list to the
output queue (`DelayedRun.endsOnce_of_stepsMeet`).
A manipulator counts as active while it holds a key, whatever is pending, and with one that is
removed its delayed action is lost (`DelayedRun.removedWhilePending_loses`).
-/

namespace Karabiner

open Foundation

/-- A manipulator with timers, how many entries were handled, and its log. -/
structure LoggedBasic where
  timed : TimedBasic
  handled : Nat
  log : List OneShot.Event

namespace LoggedBasic

open TimedBasic

def ofTimed (timed : TimedBasic) : LoggedBasic := ⟨timed, 0, []⟩

/-- `post_events` has run for its record, if there is one. -/
def posted (timed : TimedBasic) (how : OneShot.Ending) : List OneShot.Event :=
  OneShot.endOf (timed.delayedTarget.map SharedRecord.identity) how

/-- The start of `manipulate`: a key_down is shown, and `cancel` posts. -/
def shown (manipulator : LoggedBasic) (front : Entry) : List OneShot.Event :=
  if front.eventType = .keyDown then
    .arrived manipulator.handled :: posted (manipulator.timed.noted front) .canceled
  else []

/-- The end of `manipulate`: the action is set up for the record of a key_down. -/
def setUp (manipulator : LoggedBasic) (front : Entry) (result : ManipulateResult) :
    List OneShot.Event :=
  if front.eventType = .keyDown ∧ result = .manipulated ∧
      manipulator.timed.hasDelayedEvents = true then
    [.started manipulator.handled manipulator.timed.made]
  else []

variable [ExpressionLibrary] [MachTimebase]

def manipulate (manipulator : LoggedBasic) (front : Entry) (input output : EventQueue)
    (now : Int) : ManipulateResult × LoggedBasic × Entry × EventQueue :=
  let answer := manipulator.timed.manipulate front input output now
  (answer.1,
    { manipulator with
      timed := answer.2.1
      log := manipulator.log ++ manipulator.shown front ++ manipulator.setUp front answer.1 },
    answer.2.2)

/-- The timer of the delayed action fires, if it is due. -/
def fireDelayedAction (manipulator : LoggedBasic) (output : EventQueue) (now : Int) :
    LoggedBasic × EventQueue :=
  let fired := manipulator.timed.fireDelayedAction output now
  let events := if manipulator.timed.delayedIsDue now then
    .fired :: posted manipulator.timed .fired else []
  ({ manipulator with
      timed := fired.1
      log := manipulator.log ++ events }, fired.2)

def fireHeldDown (manipulator : LoggedBasic) (output : EventQueue) (now : Int) :
    LoggedBasic × EventQueue :=
  let fired := manipulator.timed.fireHeldDown output now
  ({ manipulator with timed := fired.1 }, fired.2)

omit [ExpressionLibrary] [MachTimebase] in
/-- The entry was handled. -/
def note (manipulator : LoggedBasic) (front : Entry) : LoggedBasic :=
  { manipulator with
    timed := manipulator.timed.note front
    handled := manipulator.handled + 1 }

instance : Manipulator LoggedBasic where
  alreadyManipulated manipulator := manipulator.timed.alreadyManipulated
  manipulate := manipulate
  active manipulator := Manipulator.active manipulator.timed
  getValidity manipulator := Manipulator.getValidity manipulator.timed
  setValidity manipulator validity :=
    { manipulator with timed := Manipulator.setValidity manipulator.timed validity }
  handleDeviceKeysAndPointingButtonsAreReleasedEvent manipulator _ output := (manipulator, output)
  handleDeviceUngrabbedEvent manipulator deviceId _ _ :=
    { manipulator with timed := manipulator.timed.eraseDevice deviceId }
  handlePointingDeviceEventFromEventTap manipulator front output :=
    ({ manipulator with
        timed := manipulator.timed.unsetAloneIfNeeded front.originalEvent front.eventType },
      output)

/-- The log changes nothing. -/
theorem simulates_timed : Simulates LoggedBasic.timed fun _ => True where
  alreadyManipulated _ _ _ := rfl
  manipulate _ _ _ _ _ _ := ⟨trivial, rfl⟩
  active _ _ := rfl
  getValidity _ := rfl
  setValidity _ _ _ := ⟨trivial, rfl⟩
  keysReleased _ _ _ _ := ⟨trivial, rfl⟩
  deviceUngrabbed _ _ _ _ _ := ⟨trivial, rfl⟩
  fromEventTap _ _ _ _ := ⟨trivial, rfl⟩

/-! ## What the endings post -/

omit [ExpressionLibrary] [MachTimebase] in
/-- The list of the delayed action for an ending. -/
def listFor : OneShot.Ending → ToDelayedAction → List ToEventDefinition
  | .fired => ToDelayedAction.toIfInvoked
  | .canceled => ToDelayedAction.toIfCanceled

omit [ExpressionLibrary] [MachTimebase] in
/-- What the endings that a call logs have posted: nothing if there is none, and the list of the
ending, for the record that it is logged for. -/
def EndingsPost (timed : TimedBasic) (logged : List OneShot.Event) (before after : EventQueue) :
    Prop :=
  (logged.filter OneShot.Event.isEnd = [] ∧ after = before) ∨
    ∃ record how, logged.filter OneShot.Event.isEnd = [.ended record.identity how] ∧
      timed.PostedDelayed record (listFor how) before after

/-- The calls of a manipulator post for the endings that they log: a call of `manipulate` first
this and then what it posts without the delayed action, and the timer only this. -/
structure PostsEndings (manipulator : LoggedBasic) : Prop where
  manipulate : ∀ front input output now,
    let call := manipulator.manipulate front input output now
    ∃ logged canceled, call.2.1.log = manipulator.log ++ logged ∧
      EndingsPost (manipulator.timed.noted front) logged output canceled ∧
      call.2.2.2 =
        (manipulator.timed.withoutDelayedAction.manipulate front input canceled now).2.2.2
  fireDelayedAction : ∀ output now,
    let call := manipulator.fireDelayedAction output now
    ∃ logged, call.1.log = manipulator.log ++ logged ∧
      EndingsPost manipulator.timed logged output call.2

omit [ExpressionLibrary] [MachTimebase] in
theorem filter_posted (timed : TimedBasic) (how : OneShot.Ending) :
    (posted timed how).filter OneShot.Event.isEnd = posted timed how := by
  unfold posted OneShot.endOf
  cases timed.delayedTarget <;> rfl

omit [ExpressionLibrary] [MachTimebase] in
/-- `post_events` posts for the ending that is logged with it. -/
theorem endingsPost_of_posts {timed : TimedBasic} (how : OneShot.Ending)
    {logged : List OneShot.Event} {before after : EventQueue}
    (isLogged : logged.filter OneShot.Event.isEnd = posted timed how)
    (posts : (timed.delayedTarget = none → after = before) ∧
      ∀ record, timed.delayedTarget = some record →
        timed.PostedDelayed record (listFor how) before after) :
    EndingsPost timed logged before after := by
  unfold posted at isLogged
  cases isTarget : timed.delayedTarget with
  | none =>
      rw [isTarget] at isLogged
      exact .inl ⟨isLogged, posts.1 isTarget⟩
  | some record =>
      rw [isTarget] at isLogged
      exact .inr ⟨record, how, isLogged, posts.2 record isTarget⟩

/-- Each call of the logged manipulator posts exactly the lists of the endings that it logs, at the
end of the output queue. -/
theorem postsEndings (manipulator : LoggedBasic) : manipulator.PostsEndings where
  manipulate front input output now := by
    refine ⟨_, (manipulator.timed.cancelTimers front output).2, List.append_assoc _ _ _, ?_,
      manipulator.timed.output_manipulate front input output now⟩
    have setUp : (manipulator.setUp front
        (manipulator.timed.manipulate front input output now).1).filter OneShot.Event.isEnd = [] := by
      unfold LoggedBasic.setUp
      split <;> rfl
    rw [shown]
    split
    · rename_i isDown
      refine endingsPost_of_posts .canceled ?_
        (manipulator.timed.cancelTimers_posts isDown output)
      rw [List.filter_append, setUp, List.append_nil]
      exact filter_posted _ _
    · rename_i notDown
      refine .inl ⟨setUp, ?_⟩
      rw [cancelTimers_of_ne manipulator.timed notDown output]
  fireDelayedAction output now := by
    refine ⟨_, rfl, ?_⟩
    split
    · rename_i isDue
      exact endingsPost_of_posts .fired (filter_posted _ _)
        (manipulator.timed.fireDelayedAction_posts isDue output)
    · rename_i notDue
      exact .inl ⟨rfl, manipulator.timed.fireDelayedAction_of_not_due
        (Bool.eq_false_iff.mpr notDue) output⟩

/-! ## What the log says -/

omit [ExpressionLibrary] [MachTimebase] in
/-- The log is that of the slot. -/
structure LogSound (manipulator : LoggedBasic) : Prop where
  log : OneShot.Sound manipulator.handled manipulator.timed.made
    manipulator.timed.pendingDelayed manipulator.log
  delayed : manipulator.timed.DelayedSound

namespace LogSound

variable {manipulator : LoggedBasic}

omit [ExpressionLibrary] [MachTimebase] in
theorem of_same (sound : manipulator.LogSound) {after : TimedBasic}
    (same : SameDelayed manipulator.timed after) :
    LogSound { manipulator with timed := after } where
  log := by
    dsimp only
    rw [same.made, same.pendingDelayed]
    exact sound.log
  delayed := same.sound sound.delayed

omit [ExpressionLibrary] [MachTimebase] in
/-- The number of the entry that was handled may have been logged. -/
theorem note_of_next (log : OneShot.Sound (manipulator.handled + 1) manipulator.timed.made
      manipulator.timed.pendingDelayed manipulator.log)
    (delayed : manipulator.timed.DelayedSound) (front : Entry) :
    (manipulator.note front).LogSound := by
  have same : SameDelayed manipulator.timed (manipulator.timed.note front) :=
    .of_map rfl rfl rfl fun _ => rfl
  refine ⟨?_, same.sound delayed⟩
  rw [LoggedBasic.note]
  dsimp only
  rw [same.made, same.pendingDelayed]
  exact log

omit [ExpressionLibrary] [MachTimebase] in
theorem note (sound : manipulator.LogSound) (front : Entry) : (manipulator.note front).LogSound :=
  note_of_next (sound.log.mono (Nat.le_succ _) (Nat.le_refl _)) sound.delayed front

omit [ExpressionLibrary] [MachTimebase] in
/-- What is shown cancels what is pending. -/
theorem shown (sound : manipulator.LogSound) {front : Entry}
    (isDown : front.eventType = .keyDown) :
    OneShot.Sound manipulator.handled manipulator.timed.made none
      (manipulator.log ++ manipulator.shown front) := by
  have noted := manipulator.timed.sameDelayed_note front
  have isShown : manipulator.shown front = .arrived manipulator.handled ::
      OneShot.endOf manipulator.timed.pendingDelayed .canceled := by
    rw [LoggedBasic.shown, if_pos isDown, posted, (noted.sound sound.delayed).delayedTarget,
      noted.pendingDelayed]
  rw [isShown]
  exact sound.log.arrive

/-- What a call leaves. The log of a key_down that is manipulated is that of the next entry. -/
theorem manipulate (sound : manipulator.LogSound) (front : Entry) (input output : EventQueue)
    (now : Int) :
    let answer := manipulator.manipulate front input output now
    (∀ entry, (answer.2.1.note entry).LogSound) ∧
      (answer.1 ≠ .manipulated → answer.2.1.LogSound) := by
  obtain ⟨kept, canceled⟩ := manipulate_delayed sound.delayed front input output now
  by_cases isDown : front.eventType = .keyDown
  · obtain ⟨isSound, passed, taken⟩ := canceled isDown
    have isShown := sound.shown isDown
    by_cases isTaken : (manipulator.timed.manipulate front input output now).1 = .manipulated
    · refine ⟨fun entry => note_of_next ?_ isSound entry, fun notTaken => absurd isTaken notTaken⟩
      obtain ⟨made, isPending⟩ := taken isTaken
      dsimp only [LoggedBasic.manipulate]
      rw [made, isPending, setUp]
      by_cases has : manipulator.timed.hasDelayedEvents = true
      · rw [if_pos has, if_pos ⟨isDown, isTaken, has⟩]
        exact isShown.start
      · rw [if_neg has, if_neg fun all => has all.2.2, List.append_nil]
        exact isShown.mono (Nat.le_succ _) (Nat.le_succ _)
    · have isLog : (manipulator.manipulate front input output now).2.1.LogSound := by
        obtain ⟨made, idle⟩ := passed isTaken
        refine ⟨?_, isSound⟩
        dsimp only [LoggedBasic.manipulate]
        rw [made, idle, setUp, if_neg fun all => isTaken all.2.1, List.append_nil]
        exact isShown
      exact ⟨isLog.note, fun _ => isLog⟩
  · have isLog : (manipulator.manipulate front input output now).2.1.LogSound := by
      have same := sound.of_same (kept isDown)
      rw [LoggedBasic.manipulate, LoggedBasic.shown, if_neg isDown, setUp,
        if_neg fun all => isDown all.1, List.append_nil, List.append_nil]
      exact same
    exact ⟨isLog.note, fun _ => isLog⟩

/-- The call of the timer keeps the log sound: the action it ends was the pending one and is pending
no more. -/
theorem fireDelayedAction (sound : manipulator.LogSound) (output : EventQueue) (now : Int) :
    (manipulator.fireDelayedAction output now).1.LogSound := by
  obtain ⟨isSound, made, isPending⟩ := fireDelayedAction_delayed sound.delayed output now
  refine ⟨?_, isSound⟩
  dsimp only [LoggedBasic.fireDelayedAction]
  rw [made, isPending]
  by_cases isDue : manipulator.timed.delayedIsDue now = true
  · rw [if_pos isDue, if_pos isDue, posted, sound.delayed.delayedTarget]
    exact sound.log.fire
  · rw [if_neg isDue, if_neg isDue, List.append_nil]
    exact sound.log

theorem fireHeldDown (sound : manipulator.LogSound) (output : EventQueue) (now : Int) :
    (manipulator.fireHeldDown output now).1.LogSound :=
  sound.of_same (manipulator.timed.fireHeldDown_delayed output now)

omit [ExpressionLibrary] [MachTimebase] in
/-- Nothing is pending for a manipulator that is not shown an entry any more. -/
theorem miss (sound : manipulator.LogSound) (idle : manipulator.timed.pendingDelayed = none) :
    LogSound { manipulator with log := manipulator.log ++ [.arrived manipulator.handled] } := by
  refine ⟨?_, sound.delayed⟩
  dsimp only
  rw [idle]
  exact (idle ▸ sound.log).arriveIdle _

end LogSound

/-! ## The front entry -/

/-- An entry that is manipulated is invalid afterwards, and an invalid entry passes. -/
theorem validity_manipulate (manipulator : LoggedBasic) (front : Entry) (input output : EventQueue)
    (now : Int) :
    let answer := manipulator.manipulate front input output now
    (answer.1 = .manipulated → answer.2.2.1.validity = .invalid) ∧
      (front.validity = .invalid → answer.1 = .passed ∧ answer.2.2.1.validity = .invalid) := by
  dsimp only [LoggedBasic.manipulate]
  rw [TimedBasic.manipulate]
  generalize manipulator.timed.cancelTimers front output = start
  obtain ⟨noted, canceled⟩ := start
  dsimp only
  by_cases isInvalid : front.validity = .invalid
  · rw [if_pos isInvalid]
    exact ⟨nofun, fun _ => ⟨rfl, isInvalid⟩⟩
  · rw [if_neg isInvalid]
    refine ⟨?_, fun invalid => absurd invalid isInvalid⟩
    split
    · cases front.eventType with
      | keyDown =>
          dsimp only
          unfold manipulateKeyDown
          split
          · exact nofun
          · exact nofun
          · exact fun _ => rfl
      | keyUp =>
          dsimp only
          unfold manipulateKeyUp
          split
          · exact nofun
          · exact fun _ => rfl
      | single => exact nofun
    · exact nofun

/-- What the loop leaves. When one of the manipulators waits, none has manipulated the entry. -/
theorem logSound_manipulateEach (rest : List Entry) (input : EventQueue) (now : Int)
    {manipulators : List LoggedBasic} (sound : ∀ manipulator ∈ manipulators, manipulator.LogSound)
    (front : Entry) (output : EventQueue) :
    let result := Stage.manipulateEach rest input now manipulators front output
    (∀ manipulator ∈ result.manipulators, ∀ entry, (manipulator.note entry).LogSound) ∧
      (front.validity = .invalid → result.waits = false) ∧
      (result.waits = true → ∀ manipulator ∈ result.manipulators, manipulator.LogSound) := by
  induction manipulators generalizing front output with
  | nil =>
      exact ⟨fun _ member => absurd member List.not_mem_nil, fun _ => rfl,
        fun _ _ member => absurd member List.not_mem_nil⟩
  | cons manipulator others ih =>
      obtain ⟨own, othersSound⟩ := List.forall_mem_cons.mp sound
      obtain ⟨noted, kept⟩ := own.manipulate front { input with events := front :: rest } output now
      obtain ⟨taken, invalid⟩ := manipulator.validity_manipulate front
        { input with events := front :: rest } output now
      generalize answer : manipulator.manipulate front { input with events := front :: rest }
        output now = outcome at noted kept taken invalid
      obtain ⟨result, changed, delayed, posted⟩ := outcome
      dsimp only at noted kept taken invalid
      by_cases running : result = .needsWaitUntilTimeStamp
      · subst running
        have left := List.forall_mem_cons.mpr ⟨kept nofun, othersSound⟩
        rw [Stage.manipulateEach_waits answer]
        exact ⟨fun other isOther => (left other isOther).note,
          fun isInvalid => absurd (invalid isInvalid).1 nofun, fun _ => left⟩
      · obtain ⟨othersNoted, runs, othersKept⟩ := ih othersSound delayed posted
        rw [Stage.manipulateEach_cons running answer]
        refine ⟨List.forall_mem_cons.mpr ⟨noted, othersNoted⟩, fun isInvalid => ?_,
          fun waits => List.forall_mem_cons.mpr ⟨kept fun isTaken => ?_, othersKept waits⟩⟩
        · exact runs (invalid isInvalid).2
        · rw [runs (taken isTaken)] at waits
          cases waits

/-- Handing the front entry to the manipulators keeps the log of each of them sound. -/
theorem logSound_dispatchFront {stage : Stage LoggedBasic}
    (sound : ∀ manipulator ∈ stage.manipulators, manipulator.LogSound) (front : Entry)
    (rest : List Entry) (now : Int) :
    let result := stage.dispatchFront front rest now
    (∀ manipulator ∈ result.manipulators, ∀ entry, (manipulator.note entry).LogSound) ∧
      (result.waits = true → ∀ manipulator ∈ result.manipulators, manipulator.LogSound) := by
  have all : ∀ manipulators : List LoggedBasic,
      (∀ manipulator ∈ manipulators, manipulator.LogSound) →
        (∀ manipulator ∈ manipulators, ∀ entry, (manipulator.note entry).LogSound) ∧
          (false = true → ∀ manipulator ∈ manipulators, manipulator.LogSound) :=
    fun manipulators isSound => ⟨fun manipulator member => (isSound manipulator member).note, nofun⟩
  unfold Stage.dispatchFront
  cases Stage.eventKind front.event with
  | keysReleased =>
      have unchanged := TimerRun.handleEach_map (fun manipulator : LoggedBasic => manipulator)
        stage.manipulators ((stage.output.eraseAllActiveModifierFlagsExceptLockAndSticky
          front.deviceId).eraseAllActivePointingButtonsExceptLock front.deviceId)
      dsimp only [Manipulator.handleDeviceKeysAndPointingButtonsAreReleasedEvent]
      rw [unchanged, List.map_id']
      exact all _ sound
  | deviceUngrabbed =>
      apply all
      intro after isAfter
      obtain ⟨manipulator, member, rfl⟩ := List.mem_map.mp isAfter
      exact (sound manipulator member).of_same (sameDelayed_eraseDevice _ _)
  | fromEventTap =>
      have unset := TimerRun.handleEach_map
        (fun manipulator : LoggedBasic => { manipulator with
          timed := manipulator.timed.unsetAloneIfNeeded front.originalEvent front.eventType })
        stage.manipulators stage.output
      dsimp only [Manipulator.handlePointingDeviceEventFromEventTap]
      rw [unset]
      apply all
      intro after isAfter
      obtain ⟨manipulator, member, rfl⟩ := List.mem_map.mp isAfter
      exact (sound manipulator member).of_same (sameDelayed_unsetAloneIfNeeded _ _ _)
  | ignored => exact all _ sound
  | manipulated =>
      dsimp only
      split
      · exact all _ sound
      · obtain ⟨noted, -, kept⟩ :=
          logSound_manipulateEach rest stage.input now sound front stage.output
        exact ⟨noted, kept⟩

end LoggedBasic

/-- A stage whose manipulators keep logs, and the manipulators that were removed from it. -/
structure DelayedRun where
  stage : Stage LoggedBasic
  removed : List LoggedBasic

namespace DelayedRun

open TimerRun (Action)

def initial : DelayedRun := ⟨⟨[], .initial, .initial⟩, []⟩

/-- A timer of a manipulator fires. -/
def fire (stage : Stage LoggedBasic) (position : Nat)
    (timer : LoggedBasic → EventQueue → LoggedBasic × EventQueue) : Stage LoggedBasic :=
  match stage.manipulators[position]? with
  | some manipulator =>
      let fired := timer manipulator stage.output
      { stage with
        manipulators := stage.manipulators.set position fired.1
        output := fired.2 }
  | none => stage

/-- A key_down is missed by a manipulator that was removed. -/
def miss (manipulator : LoggedBasic) : LoggedBasic :=
  { manipulator with log := manipulator.log ++ [.arrived manipulator.handled] }

variable [ExpressionLibrary] [MachTimebase]

/-- The stage after an action. -/
def nextStage (stage : Stage LoggedBasic) : Action → Stage LoggedBasic
  | .push entry => { stage with input := stage.input.pushBackEntry entry }
  | .manipulate now reorder =>
      let result := stage.manipulate now reorder
      match stage.input.events with
      | [] => result.2
      | front :: _ =>
          if result.1 then
            { result.2 with
              manipulators := result.2.manipulators.map fun manipulator => manipulator.note front }
          else result.2
  | .changeEnvironment environment =>
      { stage with output := { stage.output with manipulatorEnvironment := environment } }
  | .takeOutput => { stage with output := stage.output.eraseFrontEvent }
  | .invalidateManipulators => stage.invalidateManipulators
  | .pushBackManipulator manipulator => stage.pushBackManipulator (.ofTimed manipulator)
  | .heldDown position now =>
      fire stage position fun manipulator output => manipulator.fireHeldDown output now
  | .delayedAction position now =>
      fire stage position fun manipulator output => manipulator.fireDelayedAction output now

/-- What `remove_invalid_manipulators` removes. -/
def removable (manipulators : List LoggedBasic) : List LoggedBasic :=
  manipulators.filter fun manipulator =>
    Manipulator.getValidity manipulator == .invalid && !Manipulator.active manipulator

/-- The manipulators that an action removes. -/
def removedBy (stage : Stage LoggedBasic) : Action → List LoggedBasic
  | .manipulate now _ =>
      match stage.input.events with
      | [] => removable stage.manipulators
      | front :: rest =>
          let result := stage.dispatchFront front rest now
          if result.waits then removable result.manipulators else []
  | .invalidateManipulators =>
      removable (stage.manipulators.map fun manipulator =>
        Manipulator.setValidity manipulator .invalid)
  | .push _ | .changeEnvironment _ | .takeOutput | .pushBackManipulator _ | .heldDown _ _
  | .delayedAction _ _ => []

/-- Whether an action passes a key_down to the manipulators. -/
def passesKeyDown (stage : Stage LoggedBasic) : Action → Bool
  | .manipulate _ _ => stage.input.events.head?.any fun front =>
      decide (Stage.eventKind front.event = .manipulated ∧ front.eventType = .keyDown) &&
        !(decide (front.validity = .valid) && stage.manipulators.any fun manipulator =>
          Manipulator.alreadyManipulated manipulator front)
  | .push _ | .changeEnvironment _ | .takeOutput | .invalidateManipulators
  | .pushBackManipulator _ | .heldDown _ _ | .delayedAction _ _ => false

def step (run : DelayedRun) (action : Action) : DelayedRun where
  stage := nextStage run.stage action
  removed :=
    (if passesKeyDown run.stage action then run.removed.map miss else run.removed) ++
      removedBy run.stage action

/-- The manipulators of the stage and those that were removed. -/
def manipulators (run : DelayedRun) : List LoggedBasic := run.stage.manipulators ++ run.removed

omit [ExpressionLibrary] [MachTimebase] in
/-- A new manipulator has no pending action. -/
def WellFormed (_ : DelayedRun) : Action → Prop
  | .pushBackManipulator manipulator => manipulator.toDelayedAction.all (fun delayed =>
      delayed.current.isNone && delayed.task.isNone) = true
  | .push _ | .manipulate _ _ | .changeEnvironment _ | .takeOutput | .invalidateManipulators
  | .heldDown _ _ | .delayedAction _ _ => True

/-- No manipulator is removed whose delayed action is pending. -/
def KeepsPending (run : DelayedRun) (action : Action) : Prop :=
  ∀ manipulator ∈ removedBy run.stage action, manipulator.timed.pendingDelayed = none

omit [ExpressionLibrary] [MachTimebase] in
instance (run : DelayedRun) : ∀ action, Decidable (run.WellFormed action)
  | .pushBackManipulator _ => inferInstanceAs (Decidable (_ = _))
  | .push _ | .manipulate _ _ | .changeEnvironment _ | .takeOutput | .invalidateManipulators
  | .heldDown _ _ | .delayedAction _ _ => isTrue trivial

instance (run : DelayedRun) (action : Action) : Decidable (run.KeepsPending action) :=
  inferInstanceAs (Decidable (∀ manipulator ∈ removedBy run.stage action,
    manipulator.timed.pendingDelayed = none))

/-! ## The same runs without logs -/

omit [ExpressionLibrary] [MachTimebase] in
/-- A timer of the logged manipulator is seen, without the log, as the timer of the manipulator
itself. -/
theorem viewStage_fire (stage : Stage LoggedBasic) (position : Nat)
    {timer : LoggedBasic → EventQueue → LoggedBasic × EventQueue}
    {timedTimer : TimedBasic → EventQueue → TimedBasic × EventQueue}
    (same : ∀ manipulator output, timedTimer manipulator.timed output =
      ((timer manipulator output).1.timed, (timer manipulator output).2))
    (processed consumed : List Entry) :
    (TimerRun.fire ⟨Simulates.viewStage LoggedBasic.timed stage, processed, consumed⟩ position
      timedTimer).stage = Simulates.viewStage LoggedBasic.timed (fire stage position timer) := by
  have found : (Simulates.viewStage LoggedBasic.timed stage).manipulators[position]? =
      stage.manipulators[position]?.map LoggedBasic.timed := List.getElem?_map
  unfold TimerRun.fire fire
  dsimp only
  rw [found]
  cases stage.manipulators[position]? with
  | none => rfl
  | some manipulator =>
      dsimp only [Option.map_some]
      rw [Simulates.viewStage]
      dsimp only
      rw [same, Simulates.viewStage, List.map_set]

/-- An action does the same without the logs. -/
theorem viewStage_nextStage (stage : Stage LoggedBasic) (processed consumed : List Entry)
    (action : Action) :
    (TimerRun.step ⟨Simulates.viewStage LoggedBasic.timed stage, processed, consumed⟩
      action).stage = Simulates.viewStage LoggedBasic.timed (nextStage stage action) := by
  have holds : ∀ manipulators : List LoggedBasic, ∀ manipulator ∈ manipulators, True :=
    fun _ _ _ => trivial
  cases action with
  | push entry => rfl
  | manipulate now reorder =>
      obtain ⟨-, same⟩ :=
        LoggedBasic.simulates_timed.stage_manipulate (holds stage.manipulators) now reorder
      have input : (Simulates.viewStage LoggedBasic.timed stage).input = stage.input := rfl
      unfold TimerRun.step nextStage
      dsimp only at same ⊢
      rw [same, input]
      cases stage.input.events with
      | nil => rfl
      | cons front rest =>
          dsimp only
          split
          · unfold TimerRun.handled Simulates.viewStage
            dsimp only
            rw [List.map_map, List.map_map]
            rfl
          · rfl
  | changeEnvironment environment => rfl
  | takeOutput => rfl
  | invalidateManipulators =>
      have same : (Simulates.viewStage LoggedBasic.timed stage).invalidateManipulators =
          Simulates.viewStage LoggedBasic.timed stage.invalidateManipulators := by
        obtain ⟨-, removed⟩ := LoggedBasic.simulates_timed.removeInvalidManipulators
          (holds (stage.manipulators.map fun manipulator =>
            Manipulator.setValidity manipulator .invalid))
        unfold Stage.invalidateManipulators Simulates.viewStage
        dsimp only
        rw [← removed, List.map_map, List.map_map]
        rfl
      exact same
  | pushBackManipulator manipulator =>
      rw [TimerRun.step, nextStage, Stage.pushBackManipulator, Stage.pushBackManipulator,
        Simulates.viewStage, Simulates.viewStage]
      dsimp only
      rw [List.map_append]
      rfl
  | heldDown position now => exact viewStage_fire stage position (fun _ _ => rfl) _ _
  | delayedAction position now => exact viewStage_fire stage position (fun _ _ => rfl) _ _

/-- A run does the same without the logs. -/
theorem viewStage_foldl (actions : List Action) :
    (actions.foldl TimerRun.step TimerRun.initial).stage =
      Simulates.viewStage LoggedBasic.timed (actions.foldl step initial).stage := by
  have same : ∀ (run : DelayedRun) (timerRun : TimerRun),
      timerRun.stage = Simulates.viewStage LoggedBasic.timed run.stage →
        (actions.foldl TimerRun.step timerRun).stage =
          Simulates.viewStage LoggedBasic.timed (actions.foldl step run).stage := by
    induction actions with
    | nil => exact fun _ _ isViewed => isViewed
    | cons action rest ih =>
        rintro run ⟨stage, processed, consumed⟩ rfl
        exact ih _ _ (viewStage_nextStage run.stage processed consumed action)
  exact same initial TimerRun.initial rfl

/-! ## The logs -/

omit [ExpressionLibrary] [MachTimebase] in
/-- A manipulator without a pending action may start with an empty log. -/
theorem logSound_ofTimed {timed : TimedBasic} (idle : timed.toDelayedAction.all (fun delayed =>
    delayed.current.isNone && delayed.task.isNone) = true) :
    (LoggedBasic.ofTimed timed).LogSound := by
  have isIdle : ∀ delayed, timed.toDelayedAction = some delayed →
      delayed.current = none ∧ delayed.task = none := by
    intro delayed isDelayed
    rw [isDelayed, Option.all_some, Bool.and_eq_true, Option.isNone_iff_eq_none,
      Option.isNone_iff_eq_none] at idle
    exact idle
  have noRecord : timed.pendingDelayed = none := by
    cases isDelayed : timed.toDelayedAction with
    | none =>
        rw [TimedBasic.pendingDelayed, isDelayed]
        rfl
    | some delayed =>
        rw [TimedBasic.pendingDelayed, isDelayed]
        exact (isIdle delayed isDelayed).1
  constructor
  · rw [LoggedBasic.ofTimed, noRecord]
    exact OneShot.sound_nil _ _
  · refine ⟨fun delayed isDelayed => ?_, fun delayed isDelayed isCurrent => ?_,
      fun identity isPending => ?_⟩
    · rw [(isIdle delayed isDelayed).1, (isIdle delayed isDelayed).2]
      rfl
    · rw [(isIdle delayed isDelayed).1] at isCurrent
      cases isCurrent
    · cases noRecord.symm.trans isPending

omit [ExpressionLibrary] [MachTimebase] in
/-- A timer keeps the log of every manipulator of the stage sound, as it is called on one of them
only. -/
theorem logSound_fire {stage : Stage LoggedBasic}
    (sound : ∀ manipulator ∈ stage.manipulators, manipulator.LogSound) (position : Nat)
    {timer : LoggedBasic → EventQueue → LoggedBasic × EventQueue}
    (keeps : ∀ manipulator output, manipulator.LogSound → (timer manipulator output).1.LogSound) :
    ∀ manipulator ∈ (fire stage position timer).manipulators, manipulator.LogSound := by
  unfold fire
  split
  · rename_i manipulator found
    intro after isAfter
    rcases List.mem_or_eq_of_mem_set isAfter with earlier | rfl
    · exact sound after earlier
    · exact keeps manipulator _ (sound manipulator (List.mem_of_getElem? found))
  · exact sound

/-- An action keeps the logs sound, also those of the manipulators that it removes. -/
theorem logSound_nextStage {stage : Stage LoggedBasic}
    (sound : ∀ manipulator ∈ stage.manipulators, manipulator.LogSound) (action : Action)
    {run : DelayedRun} (wellFormed : run.WellFormed action) :
    (∀ manipulator ∈ (nextStage stage action).manipulators, manipulator.LogSound) ∧
      ∀ manipulator ∈ removedBy stage action, manipulator.LogSound := by
  have none : ∀ manipulator ∈ ([] : List LoggedBasic), manipulator.LogSound :=
    fun _ member => absurd member List.not_mem_nil
  have split : ∀ manipulators : List LoggedBasic,
      (∀ manipulator ∈ manipulators, manipulator.LogSound) →
        (∀ manipulator ∈ Stage.removeInvalidManipulators manipulators, manipulator.LogSound) ∧
          ∀ manipulator ∈ removable manipulators, manipulator.LogSound :=
    fun manipulators isSound => ⟨fun _ member => isSound _ (List.mem_filter.mp member).1,
      fun _ member => isSound _ (List.mem_filter.mp member).1⟩
  cases action with
  | push entry => exact ⟨sound, none⟩
  | manipulate now reorder =>
      unfold nextStage removedBy Stage.manipulate
      cases stage.input.events with
      | nil => exact split _ sound
      | cons front rest =>
          dsimp only
          obtain ⟨noted, kept⟩ := LoggedBasic.logSound_dispatchFront sound front rest now
          generalize stage.dispatchFront front rest now = result at noted kept
          cases waits : result.waits with
          | true => exact split _ (kept waits)
          | false =>
              refine ⟨fun after isAfter => ?_, none⟩
              obtain ⟨manipulator, member, rfl⟩ := List.mem_map.mp isAfter
              exact noted manipulator member front
  | changeEnvironment environment => exact ⟨sound, none⟩
  | takeOutput => exact ⟨sound, none⟩
  | invalidateManipulators =>
      apply split
      intro after isAfter
      obtain ⟨manipulator, member, rfl⟩ := List.mem_map.mp isAfter
      exact (sound manipulator member).of_same ⟨rfl, rfl, fun record isRecord _ =>
        ⟨record, isRecord, rfl⟩⟩
  | pushBackManipulator manipulator =>
      have new := List.forall_mem_singleton.mpr (logSound_ofTimed wellFormed)
      exact ⟨List.forall_mem_append.mpr ⟨sound, new⟩, none⟩
  | heldDown position now =>
      exact ⟨logSound_fire sound position fun _ output isSound =>
        isSound.fireHeldDown output now, none⟩
  | delayedAction position now =>
      exact ⟨logSound_fire sound position fun _ output isSound =>
        isSound.fireDelayedAction output now, none⟩

omit [ExpressionLibrary] [MachTimebase] in
/-- The logs are sound, and nothing is pending for the manipulators that were removed. -/
structure Sound (run : DelayedRun) : Prop where
  manipulators : ∀ manipulator ∈ run.stage.manipulators, manipulator.LogSound
  removed : ∀ manipulator ∈ run.removed,
    manipulator.LogSound ∧ manipulator.timed.pendingDelayed = none

omit [ExpressionLibrary] [MachTimebase] in
theorem sound_initial : initial.Sound :=
  ⟨fun _ member => absurd member List.not_mem_nil, fun _ member => absurd member List.not_mem_nil⟩

/-- One step of a run keeps it sound, if no action that is pending is replaced without having been
ended. -/
theorem Sound.step {run : DelayedRun} (sound : run.Sound) (action : Action)
    (wellFormed : run.WellFormed action) (keeps : run.KeepsPending action) :
    (run.step action).Sound := by
  obtain ⟨next, gone⟩ := logSound_nextStage sound.manipulators action wellFormed
  refine ⟨next, List.forall_mem_append.mpr ⟨?_, fun manipulator member => ?_⟩⟩
  · split
    · intro after isAfter
      obtain ⟨manipulator, member, rfl⟩ := List.mem_map.mp isAfter
      obtain ⟨isSound, idle⟩ := sound.removed manipulator member
      exact ⟨isSound.miss idle, idle⟩
    · exact sound.removed
  · exact ⟨gone manipulator member, keeps manipulator member⟩

/-- In every run that removes no manipulator whose delayed action is pending, every delayed action
ends once, in the way that it has to, and the calls post for the endings and for nothing else. -/
theorem endsOnce_of_stepsMeet (actions : List Action)
    (wellFormed : Execution.StepsMeet step WellFormed initial actions)
    (keeps : Execution.StepsMeet step KeepsPending initial actions) :
    ∀ manipulator ∈ (actions.foldl step initial).manipulators,
      OneShot.EndsOnce manipulator.log ∧ manipulator.PostsEndings := by
  have preserved : ∀ run action, Sound run → run.WellFormed action ∧ run.KeepsPending action →
      (run.step action).Sound :=
    fun _ action isSound meets => isSound.step action meets.1 meets.2
  have sound := Execution.invariant_of_stepsMeet preserved sound_initial (wellFormed.and keeps)
  intro manipulator member
  refine ⟨?_, manipulator.postsEndings⟩
  rcases List.mem_append.mp member with staying | gone
  · exact (sound.manipulators manipulator staying).log.endsOnce
  · exact (sound.removed manipulator gone).1.log.endsOnce

/-! ## Runs -/

omit [ExpressionLibrary] [MachTimebase] in
/-- A is tapped, and B is pressed in the same second. -/
def canceledByB : List Action :=
  .pushBackManipulator TimerRun.holdForB :: TimerRun.handleKey 10 Usage.keyboardA .keyDown ++
    TimerRun.handleKey 100 Usage.keyboardA .keyUp ++
    TimerRun.handleKey 200 Usage.keyboardB .keyDown

omit [ExpressionLibrary] [MachTimebase] in
/-- The manipulators are replaced after A was tapped, and B is pressed in the same second. -/
def removedWhilePending : List Action :=
  .pushBackManipulator TimerRun.holdForB :: TimerRun.handleKey 10 Usage.keyboardA .keyDown ++
    TimerRun.handleKey 100 Usage.keyboardA .keyUp ++
    .invalidateManipulators :: TimerRun.handleKey 200 Usage.keyboardB .keyDown

omit [ExpressionLibrary] [MachTimebase] in
/-- B posts the home key, once. -/
theorem endsOnce_canceledByB :
    let _ := zeroExpressions
    let _ := nanosecondTimebase
    let run := canceledByB.foldl step initial
    let home := Event.momentarySwitchEvent (.make UsagePage.keyboardOrKeypad Usage.keyboardHome)
    (∀ manipulator ∈ run.manipulators,
      OneShot.EndsOnce manipulator.log ∧ manipulator.PostsEndings) ∧
      (run.stage.output.events.map Entry.sent).filter (fun sent => sent.event = home) =
        [⟨1, home, .keyDown⟩, ⟨1, home, .keyUp⟩] := by
  intro expressions timebase run home
  exact ⟨endsOnce_of_stepsMeet canceledByB (by decide) (by decide), by decide⟩

omit [ExpressionLibrary] [MachTimebase] in
/-- Nothing is posted for A, although B was pressed. -/
theorem removedWhilePending_loses :
    let _ := zeroExpressions
    let _ := nanosecondTimebase
    let run := removedWhilePending.foldl step initial
    let home := Event.momentarySwitchEvent (.make UsagePage.keyboardOrKeypad Usage.keyboardHome)
    Execution.StepsMeet step WellFormed initial removedWhilePending ∧
      (∀ entry ∈ run.stage.output.events, entry.event ≠ home) ∧
      ∃ manipulator ∈ run.manipulators, ¬OneShot.EndsOnce manipulator.log := by
  decide

end DelayedRun

end Karabiner
