import Karabiner.Basic.HeldDownTimer
import Karabiner.Foundation.Execution

/-! # Runs with timers

A stage of basic manipulators with timers, which fire at any time. While a run meets the condition
`TimerRun.KeepsWatched`, every key that the held-down timer presses for a record is released when
the keys of the record go up, and the timer presses nothing after that
(`TimerRun.neverStrands_of_stepsMeet`). A device that is ungrabbed in between breaks both
(`TimerRun.firesAfterUngrab_strands`).
-/

namespace Karabiner

open Foundation

/-- The entries that were handled, and those that were taken from the output queue. -/
structure TimerRun where
  stage : Stage TimedBasic
  processed : List Entry
  consumed : List Entry

namespace TimerRun

open TimedBasic

inductive Action where
  | push (entry : Entry)
  | manipulate (now : Int) (reorder : Bool)
  | changeEnvironment (environment : ManipulatorEnvironment)
  | takeOutput
  | invalidateManipulators
  | pushBackManipulator (manipulator : TimedBasic)
  | heldDown (position : Nat) (now : Int)
  | delayedAction (position : Nat) (now : Int)

/-- Everything that was posted to the output queue. -/
def got (run : TimerRun) : List Entry := run.consumed ++ run.stage.output.events

def initial : TimerRun := ⟨⟨[], .initial, .initial⟩, [], []⟩

/-- A timer of a manipulator fires. -/
def fire (run : TimerRun) (position : Nat)
    (timer : TimedBasic → EventQueue → TimedBasic × EventQueue) : TimerRun :=
  match run.stage.manipulators[position]? with
  | some manipulator =>
      let fired := timer manipulator run.stage.output
      { run with
        stage := { run.stage with
          manipulators := run.stage.manipulators.set position fired.1
          output := fired.2 } }
  | none => run

/-- The front entry was handled. -/
def handled (run : TimerRun) (stage : Stage TimedBasic) (front : Entry) : TimerRun :=
  { run with
    stage := { stage with
      manipulators := stage.manipulators.map fun manipulator => manipulator.note front }
    processed := run.processed ++ [front] }

variable [ExpressionLibrary] [MachTimebase]

def step (run : TimerRun) : Action → TimerRun
  | .push entry =>
      { run with stage := { run.stage with input := run.stage.input.pushBackEntry entry } }
  | .manipulate now reorder =>
      let result := run.stage.manipulate now reorder
      match run.stage.input.events with
      | [] => { run with stage := result.2 }
      | front :: _ =>
          if result.1 then run.handled result.2 front else { run with stage := result.2 }
  | .changeEnvironment environment =>
      { run with
        stage := { run.stage with
          output := { run.stage.output with manipulatorEnvironment := environment } } }
  | .takeOutput =>
      { run with
        stage := { run.stage with output := run.stage.output.eraseFrontEvent }
        consumed := run.consumed ++ run.stage.output.events.take 1 }
  | .invalidateManipulators => { run with stage := run.stage.invalidateManipulators }
  | .pushBackManipulator manipulator =>
      { run with stage := run.stage.pushBackManipulator manipulator }
  | .heldDown position now =>
      run.fire position fun manipulator output => manipulator.fireHeldDown output now
  | .delayedAction position now =>
      run.fire position fun manipulator output => manipulator.fireDelayedAction output now

omit [ExpressionLibrary] [MachTimebase] in
/-- What is pushed: the key_downs and key_ups of every key alternate, and a new manipulator
has no record and no pending timer. -/
def WellFormed (run : TimerRun) : Action → Prop
  | .push entry => entry.validity = .valid ∧
      (entry.event.momentarySwitchEvent?.isSome = true →
        let pushed := run.processed ++ run.stage.input.events ++ [entry]
        heldCount entry.fromEvent pushed = 0 ∨ heldCount entry.fromEvent pushed = 1)
  | .pushBackManipulator manipulator =>
      manipulator.records.isEmpty = true ∧ manipulator.pendingHeldDown.isNone = true
  | .manipulate _ _ | .changeEnvironment _ | .takeOutput | .invalidateManipulators
  | .heldDown _ _ | .delayedAction _ _ => True

/-! ## The condition -/

omit [ExpressionLibrary] [MachTimebase] in
/-- A key_up is not for a key that a watched record shares with another record. -/
def ReleasesWatched (manipulators : List TimedBasic) (front : Entry) : Prop :=
  front.eventType = .keyUp → ∀ manipulator ∈ manipulators, ∀ record ∈ manipulator.records,
    manipulator.Watches record → front.fromEvent ∈ record.current.fromEvents →
      (allKeys manipulators).count front.fromEvent = 1

omit [ExpressionLibrary] [MachTimebase] in
/-- An ungrabbed device does not hold all the keys of a record which has yet to release what the
timer has posted. -/
def KeepsPosted (manipulators : List TimedBasic) (front : Entry) : Prop :=
  front.event = .deviceUngrabbed → ∀ manipulator ∈ manipulators,
    ∀ record ∈ manipulator.records, record.listed = true → record.heldDown = true →
      record.current.eventsAtKeyUp ≠ [] →
        (record.current.eraseFromEventsByDeviceId front.deviceId).fromEvents ≠ []

omit [ExpressionLibrary] in
/-- No record is dropped, passed over or outlived by the timer while it is watched. -/
def KeepsWatched (run : TimerRun) : Action → Prop
  | .manipulate _ _ => ∀ front ∈ run.stage.input.events.head?,
      ReleasesWatched run.stage.manipulators front ∧ KeepsPosted run.stage.manipulators front
  | .heldDown position now => ∀ manipulator ∈ run.stage.manipulators[position]?,
      ∀ target ∈ manipulator.heldDownTarget now, target.2.2.listed = true
  | .push _ | .changeEnvironment _ | .takeOutput | .invalidateManipulators
  | .pushBackManipulator _ | .delayedAction _ _ => True

omit [ExpressionLibrary] [MachTimebase] in
instance (manipulator : TimedBasic) (record : SharedRecord) :
    Decidable (manipulator.Watches record) :=
  inferInstanceAs (Decidable (_ ∨ _ ∧ _))

omit [ExpressionLibrary] [MachTimebase] in
instance (manipulators : List TimedBasic) (front : Entry) :
    Decidable (ReleasesWatched manipulators front) :=
  inferInstanceAs (Decidable (_ → ∀ manipulator ∈ manipulators, ∀ record ∈ manipulator.records,
    manipulator.Watches record → front.fromEvent ∈ record.current.fromEvents → _))

omit [ExpressionLibrary] [MachTimebase] in
instance (manipulators : List TimedBasic) (front : Entry) :
    Decidable (KeepsPosted manipulators front) :=
  inferInstanceAs (Decidable (_ → ∀ manipulator ∈ manipulators,
    ∀ record ∈ manipulator.records, _ → _ → _ → _ ≠ _))

omit [ExpressionLibrary] in
instance (run : TimerRun) : ∀ action, Decidable (run.KeepsWatched action)
  | .manipulate _ _ => inferInstanceAs (Decidable (∀ front ∈ run.stage.input.events.head?,
      ReleasesWatched run.stage.manipulators front ∧ KeepsPosted run.stage.manipulators front))
  | .heldDown position now => inferInstanceAs (Decidable (∀ manipulator ∈
      run.stage.manipulators[position]?, ∀ target ∈ manipulator.heldDownTarget now, _ = true))
  | .push _ | .changeEnvironment _ | .takeOutput | .invalidateManipulators
  | .pushBackManipulator _ | .delayedAction _ _ => isTrue trivial

omit [ExpressionLibrary] [MachTimebase] in
instance (run : TimerRun) : ∀ action, Decidable (run.WellFormed action)
  | .push _ => inferInstanceAs (Decidable (_ ∧ (_ → _ ∨ _)))
  | .pushBackManipulator _ => inferInstanceAs (Decidable (_ ∧ _))
  | .manipulate _ _ | .changeEnvironment _ | .takeOutput | .invalidateManipulators
  | .heldDown _ _ | .delayedAction _ _ => isTrue trivial

/-! ## The front entry -/

omit [ExpressionLibrary] [MachTimebase] in
/-- A handler that does not post changes each manipulator by itself. -/
theorem handleEach_map {M : Type} [Manipulator M] (changed : M → M) (manipulators : List M)
    (output : EventQueue) :
    Stage.handleEach (fun manipulator output => (changed manipulator, output)) manipulators output =
      (manipulators.map changed, output) := by
  induction manipulators with
  | nil => rfl
  | cons manipulator others ih =>
      unfold Stage.handleEach
      dsimp only
      rw [ih, List.map_cons]

/-- What the front entry makes of a manipulator. -/
inductive Treated (front : Entry) (rest before final : List Entry) (manipulator : TimedBasic) :
    TimedBasic → Prop where
  | quiet {after : TimedBasic} (quiet : Quiet manipulator after) :
      Treated front rest before final manipulator after
  | erased (isUngrabbed : front.event = .deviceUngrabbed) :
      Treated front rest before final manipulator (manipulator.eraseDevice front.deviceId)
  | called {entry : Entry} {output : EventQueue}
      {answer : ManipulateResult × TimedBasic × Entry × EventQueue}
      (sameType : entry.eventType = front.eventType)
      (handles : Handles manipulator entry rest output answer) (start : before <+: output.events)
      (finish : answer.2.2.2.events <+: final) :
      Treated front rest before final manipulator answer.2.1

/-- What the switch on the front entry does to the manipulators and the output queue. -/
structure Dispatches (manipulators : List TimedBasic) (front : Entry) (rest before : List Entry)
    (result : Stage.LoopResult TimedBasic) : Prop where
  grows : before <+: result.output.events
  treated : List.Forall₂ (Treated front rest before result.output.events) manipulators
    result.manipulators
  valid : result.waits = true → result.front.validity = .valid
  released : front.eventType = .keyUp → front.event.momentarySwitchEvent?.isSome = true →
    (allKeys manipulators).count front.fromEvent = 1 → front.validity = .valid →
      front.fromEvent ∉ allKeys result.manipulators
  ungrabbed : front.event = .deviceUngrabbed →
    result.manipulators = manipulators.map fun manipulator => manipulator.eraseDevice front.deviceId

omit [ExpressionLibrary] [MachTimebase] in
/-- An entry that no manipulator is called with. -/
theorem dispatches_of_quiet {manipulators others : List TimedBasic} {front : Entry}
    {rest : List Entry} {before output : EventQueue} (events : output.events = before.events)
    (quiet : List.Forall₂ Quiet manipulators others)
    (notKey : front.event.momentarySwitchEvent? = none)
    (notUngrabbed : front.event ≠ .deviceUngrabbed) :
    Dispatches manipulators front rest before.events ⟨false, others, front, output⟩ where
  grows := ⟨[], by rw [List.append_nil, events]⟩
  treated := quiet.imp fun _ _ quiet => .quiet quiet
  valid waits := nomatch waits
  released _ isKey := by
    rw [notKey] at isKey
    cases isKey
  ungrabbed isUngrabbed := absurd isUngrabbed notUngrabbed

/-- Handing the front entry to the sound manipulators of a stage dispatches it. -/
theorem dispatches_dispatchFront {stage : Stage TimedBasic} {got : List Entry}
    (sound : ∀ manipulator ∈ stage.manipulators, manipulator.Sound got) (front : Entry)
    (rest : List Entry) (now : Int) :
    Dispatches stage.manipulators front rest stage.output.events
      (stage.dispatchFront front rest now) := by
  have notKey : Stage.eventKind front.event ≠ .manipulated →
      front.event.momentarySwitchEvent? = none := by
    intro notManipulated
    cases isEvent : front.event with
    | momentarySwitchEvent key =>
        rw [isEvent] at notManipulated
        exact absurd rfl notManipulated
    | _ => rfl
  have notUngrabbed : Stage.eventKind front.event ≠ .deviceUngrabbed →
      front.event ≠ .deviceUngrabbed := by
    intro otherKind isUngrabbed
    rw [isUngrabbed] at otherKind
    exact otherKind rfl
  have same : List.Forall₂ Quiet stage.manipulators stage.manipulators :=
    List.forall₂_same.mpr fun manipulator _ => .refl manipulator
  unfold Stage.dispatchFront
  cases kind : Stage.eventKind front.event with
  | keysReleased =>
      rw [kind] at notKey notUngrabbed
      have unchanged := handleEach_map (fun manipulator : TimedBasic => manipulator)
        stage.manipulators ((stage.output.eraseAllActiveModifierFlagsExceptLockAndSticky
          front.deviceId).eraseAllActivePointingButtonsExceptLock front.deviceId)
      rw [List.map_id'] at unchanged
      dsimp only [Manipulator.handleDeviceKeysAndPointingButtonsAreReleasedEvent]
      rw [unchanged]
      exact dispatches_of_quiet rfl same (notKey nofun) (notUngrabbed nofun)
  | deviceUngrabbed =>
      rw [kind] at notKey
      have isUngrabbed : front.event = .deviceUngrabbed := by
        cases isEvent : front.event with
        | deviceUngrabbed => rfl
        | _ => rw [isEvent] at kind; cases kind
      refine ⟨List.prefix_refl _, ?_, nofun, fun _ isKey => ?_, fun _ => rfl⟩
      · exact List.forall₂_map_right_iff.mpr
          (List.forall₂_same.mpr fun manipulator _ => .erased isUngrabbed)
      · rw [notKey nofun] at isKey
        cases isKey
  | fromEventTap =>
      rw [kind] at notKey notUngrabbed
      have noted := handleEach_map
        (fun manipulator : TimedBasic =>
          manipulator.unsetAloneIfNeeded front.originalEvent front.eventType)
        stage.manipulators stage.output
      dsimp only [Manipulator.handlePointingDeviceEventFromEventTap]
      rw [noted]
      refine dispatches_of_quiet rfl ?_ (notKey nofun) (notUngrabbed nofun)
      exact List.forall₂_map_right_iff.mpr (List.forall₂_same.mpr fun manipulator _ =>
        manipulator.quiet_unsetAloneIfNeeded front.originalEvent front.eventType)
  | ignored =>
      rw [kind] at notKey notUngrabbed
      exact dispatches_of_quiet rfl same (notKey nofun) (notUngrabbed nofun)
  | manipulated =>
      rw [kind] at notUngrabbed
      dsimp only
      split
      · rename_i taken
        refine ⟨List.prefix_refl _, same.imp fun _ _ quiet => .quiet quiet, nofun,
          fun isKeyUp _ _ _ => ?_, fun isUngrabbed => absurd isUngrabbed (notUngrabbed nofun)⟩
        obtain ⟨manipulator, -, isTaken⟩ := List.any_eq_true.mp taken.2
        change manipulator.alreadyManipulated front = true at isTaken
        unfold alreadyManipulated at isTaken
        rw [isKeyUp] at isTaken
        cases isTaken
      · obtain ⟨grows, called⟩ :=
          called_manipulateEach rest stage.input now sound front stage.output
        refine ⟨grows, called.imp fun manipulator after outcome => ?_,
          valid_of_waits rest stage.input now sound front stage.output,
          fun isKeyUp _ once isValid => ?_,
          fun isUngrabbed => absurd isUngrabbed (notUngrabbed nofun)⟩
        · rcases outcome with rfl | ⟨entry, output, answer, type, handles, rfl, start, finish⟩
          · exact .quiet (.refl after)
          · exact .called type handles start finish
        · exact not_mem_keys_of_keyUp rest stage.input now sound isKeyUp (by omega)
            (fun _ => isValid) stage.output

section Treated

variable {front : Entry} {rest before final got all : List Entry} {manipulator after : TimedBasic}

omit [ExpressionLibrary] [MachTimebase] in
theorem Treated.sound (treated : Treated front rest before final manipulator after)
    (sound : manipulator.Sound got) (earlier : got ⊆ all) (posted : final ⊆ all) :
    after.Sound all := by
  cases treated with
  | quiet quiet => exact (sound.quiet quiet).mono earlier
  | erased => exact (sound.eraseDevice front.deviceId).mono earlier
  | called _ handles _ finish =>
      exact sound.handles handles earlier (List.Subset.trans finish.subset posted)

omit [ExpressionLibrary] [MachTimebase] in
/-- A key_up starts no timer. -/
theorem Treated.narrows (treated : Treated front rest before final manipulator after)
    (sound : manipulator.Sound got) (isKeyUp : front.eventType = .keyUp) :
    Narrows manipulator after := by
  cases treated with
  | quiet quiet => exact quiet.narrows
  | erased => exact narrows_eraseDevice manipulator front.deviceId
  | called sameType handles => exact narrows_of_handles sound (sameType.trans isKeyUp) handles

omit [ExpressionLibrary] [MachTimebase] in
/-- What the timer has posted is still to be released, or was released. -/
theorem Treated.owes (treated : Treated front rest before final manipulator after)
    (sound : manipulator.Sound got) {posted since : List Entry} {keys : List FromEvent}
    (owes : Owes posted keys since manipulator) (grows : before <+: final)
    (others : front.event = .deviceUngrabbed → ∀ record ∈ manipulator.records,
      record.listed = true → record.heldDown = true → record.current.eventsAtKeyUp ≠ [] →
        (record.current.eraseFromEventsByDeviceId front.deviceId).fromEvents ≠ []) :
    Owes posted keys since after ∨ Settled posted before final := by
  cases treated with
  | quiet quiet => exact .inl (owes.quiet quiet)
  | erased isUngrabbed =>
      rcases owes.eraseDevice (others isUngrabbed) before with still | settled
      · exact .inl still
      · exact .inr (settled.mono (.refl before) grows.sublist.subperm)
  | called _ handles start finish =>
      rcases owes.handles sound handles with still | settled
      · exact .inl still
      · exact .inr (settled.mono start.sublist.subperm finish.sublist.subperm)

end Treated

omit [ExpressionLibrary] [MachTimebase] in
/-- Both lists of a relation have members that are related. -/
theorem exists_of_forall₂ {α β : Type} {related : α → β → Prop} {first : List α} {second : List β}
    (all : List.Forall₂ related first second) :
    (∀ a ∈ first, ∃ b ∈ second, related a b) ∧ ∀ b ∈ second, ∃ a ∈ first, related a b := by
  induction all with
  | nil => exact ⟨fun _ member => absurd member List.not_mem_nil,
      fun _ member => absurd member List.not_mem_nil⟩
  | @cons a b first second isRelated _ ih =>
      constructor
      · intro x member
        rcases List.mem_cons.mp member with rfl | later
        · exact ⟨b, List.mem_cons_self, isRelated⟩
        · obtain ⟨y, isMember, both⟩ := ih.1 x later
          exact ⟨y, List.mem_cons_of_mem _ isMember, both⟩
      · intro y member
        rcases List.mem_cons.mp member with rfl | later
        · exact ⟨a, List.mem_cons_self, isRelated⟩
        · obtain ⟨x, isMember, both⟩ := ih.2 y later
          exact ⟨x, List.mem_cons_of_mem _ isMember, both⟩

omit [ExpressionLibrary] [MachTimebase] in
/-- Watched records wait for no key that the entry lets go. -/
theorem Dispatches.keeps {manipulators : List TimedBasic} {front : Entry}
    {rest before got : List Entry} {result : Stage.LoopResult TimedBasic}
    (dispatches : Dispatches manipulators front rest before result)
    (sound : ∀ manipulator ∈ manipulators, manipulator.Sound got)
    (after : ∀ manipulator ∈ result.manipulators, ∃ all, manipulator.Sound all)
    (releases : ReleasesWatched manipulators front) (isValid : front.validity = .valid) :
    ∀ manipulator ∈ result.manipulators, ∀ record ∈ manipulator.records,
      manipulator.Watches record → ∀ fromEvent ∈ record.current.fromEvents,
        ¬front.LetsGo fromEvent := by
  intro manipulator isManipulator record isRecord watches fromEvent member letsGo
  obtain ⟨all, isSound⟩ := after manipulator isManipulator
  rcases letsGo with ⟨rfl, isKeyUp⟩ | ⟨isUngrabbed, sameDevice⟩
  · obtain ⟨key, isKey⟩ := FromEventDefinition.momentarySwitchEvent_of_testEvent
      ((isSound.records record isRecord).tested _ member)
    have event : front.event = .momentarySwitchEvent key := isKey
    obtain ⟨earlier, isEarlier, treated⟩ :=
      (exists_of_forall₂ dispatches.treated).2 manipulator isManipulator
    obtain ⟨source, isSource, watched, -, fewer⟩ :=
      treated.narrows (sound earlier isEarlier) isKeyUp record isRecord watches
    have once := releases isKeyUp earlier isEarlier source isSource watched (fewer member)
    have gone := dispatches.released isKeyUp (by rw [event]; rfl) once isValid
    exact gone (List.mem_flatMap.mpr ⟨manipulator, isManipulator,
      mem_keys.mpr ⟨record, isRecord, member⟩⟩)
  · rw [dispatches.ungrabbed isUngrabbed] at isManipulator
    obtain ⟨earlier, isEarlier, rfl⟩ := List.mem_map.mp isManipulator
    exact not_mem_keys_eraseDevice (sound earlier isEarlier)
      (mem_keys.mpr ⟨record, isRecord, member⟩) sameDevice.symm

/-! ## The run -/

omit [ExpressionLibrary] [MachTimebase] in
/-- What holds while no watched record is dropped or passed over. -/
structure Sound (run : TimerRun) : Prop where
  queued : ∀ entry ∈ run.stage.input.events, entry.validity = .valid
  manipulators : ∀ manipulator ∈ run.stage.manipulators, manipulator.Sound run.got

omit [ExpressionLibrary] [MachTimebase] in
theorem sound_initial : initial.Sound where
  queued _ member := absurd member List.not_mem_nil
  manipulators _ member := absurd member List.not_mem_nil

omit [ExpressionLibrary] [MachTimebase] in
/-- The run goes on, and entries are handled. What the timer has posted is still to be released,
or was released. -/
structure Advances (run next : TimerRun) (handled : List Entry) : Prop where
  sound : next.Sound
  processed : next.processed = run.processed ++ handled
  grows : run.got.Subperm next.got
  owes : ∀ posted keys since, (∃ manipulator ∈ run.stage.manipulators,
      Owes posted keys since manipulator) →
    (∃ manipulator ∈ next.stage.manipulators, Owes posted keys (since ++ handled) manipulator) ∨
      Settled posted run.got next.got

omit [ExpressionLibrary] [MachTimebase] in
theorem Advances.refl {run : TimerRun} (sound : run.Sound) : Advances run run [] where
  sound := sound
  processed := (List.append_nil _).symm
  grows := .refl _
  owes posted keys since owes := .inl (by
    rw [List.append_nil]
    exact owes)

omit [ExpressionLibrary] [MachTimebase] in
theorem Advances.trans {run middle next : TimerRun} {handled more : List Entry}
    (one : Advances run middle handled) (two : Advances middle next more) :
    Advances run next (handled ++ more) where
  sound := two.sound
  processed := by rw [two.processed, one.processed, List.append_assoc]
  grows := one.grows.trans two.grows
  owes posted keys since owes := by
    rcases one.owes posted keys since owes with still | settled
    · rcases two.owes posted keys (since ++ handled) still with later | settled
      · rw [← List.append_assoc]
        exact .inl later
      · exact .inr (settled.mono one.grows (.refl _))
    · exact .inr (settled.mono (.refl _) two.grows)

/-- No record changes in what it holds and owes. -/
theorem advances_of_quiet {run next : TimerRun} (sound : run.Sound)
    (queued : ∀ entry ∈ next.stage.input.events, entry.validity = .valid)
    (processed : next.processed = run.processed) (grows : run.got.Subperm next.got)
    (known : ∀ later ∈ next.stage.manipulators,
      (∃ manipulator ∈ run.stage.manipulators, Quiet manipulator later) ∨ later.Sound next.got)
    (kept : ∀ manipulator ∈ run.stage.manipulators, Manipulator.active manipulator = true →
      ∃ later ∈ next.stage.manipulators, Quiet manipulator later) : Advances run next [] where
  sound := by
    refine ⟨queued, fun later isLater => ?_⟩
    rcases known later isLater with ⟨manipulator, isManipulator, quiet⟩ | isSound
    · exact ((sound.manipulators manipulator isManipulator).quiet quiet).mono grows.subset
    · exact isSound
  processed := by rw [processed, List.append_nil]
  grows := grows
  owes posted keys since owes := by
    obtain ⟨manipulator, isManipulator, record, isRecord, keeps⟩ := owes
    have active : Manipulator.active manipulator = true :=
      List.any_eq_true.mpr ⟨record, isRecord, keeps.listed⟩
    obtain ⟨later, isLater, quiet⟩ := kept manipulator isManipulator active
    rw [List.append_nil]
    exact .inl ⟨later, isLater, Owes.quiet ⟨record, isRecord, keeps⟩ quiet⟩

/-- A manipulator that has a key in use is not removed. -/
theorem mem_removeInvalidManipulators {manipulators : List TimedBasic}
    {manipulator : TimedBasic} (isManipulator : manipulator ∈ manipulators)
    (active : Manipulator.active manipulator = true) :
    manipulator ∈ Stage.removeInvalidManipulators manipulators := by
  refine List.mem_filter.mpr ⟨isManipulator, ?_⟩
  rw [active]
  simp

theorem advances_removeInvalidManipulators {run : TimerRun} (sound : run.Sound) :
    Advances run { run with stage := { run.stage with
      manipulators := Stage.removeInvalidManipulators run.stage.manipulators } } [] := by
  refine advances_of_quiet sound sound.queued rfl (.refl _) (fun later isLater => .inl ?_)
    fun manipulator isManipulator active => ?_
  · exact ⟨later, (List.mem_filter.mp isLater).1, .refl later⟩
  · exact ⟨manipulator, mem_removeInvalidManipulators isManipulator active, .refl manipulator⟩

/-- Invalidating the manipulators handles no entry and leaves the records as they are. -/
theorem advances_invalidateManipulators {run : TimerRun} (sound : run.Sound) :
    Advances run (run.step .invalidateManipulators) [] := by
  have quiet : ∀ manipulator : TimedBasic,
      Quiet manipulator (Manipulator.setValidity manipulator .invalid) :=
    fun manipulator => Quiet.of_records rfl rfl rfl fun _ isPending => isPending
  have invalid : Advances run { run with stage := { run.stage with
      manipulators := run.stage.manipulators.map fun manipulator =>
        Manipulator.setValidity manipulator .invalid } } [] := by
    refine advances_of_quiet sound sound.queued rfl (.refl _) (fun later isLater => .inl ?_)
      fun manipulator isManipulator _ => ?_
    · obtain ⟨manipulator, isManipulator, rfl⟩ := List.mem_map.mp isLater
      exact ⟨manipulator, isManipulator, quiet manipulator⟩
    · exact ⟨_, List.mem_map_of_mem isManipulator, quiet manipulator⟩
  exact invalid.trans (advances_removeInvalidManipulators invalid.sound)

omit [ExpressionLibrary] [MachTimebase] in
/-- A timer fires that keeps what its manipulator owes. -/
theorem advances_fire {run : TimerRun} (sound : run.Sound) (position : Nat)
    {timer : TimedBasic → EventQueue → TimedBasic × EventQueue}
    (fires : ∀ manipulator ∈ run.stage.manipulators[position]?,
      (timer manipulator run.stage.output).1.Sound
        (run.consumed ++ (timer manipulator run.stage.output).2.events) ∧
      run.stage.output.events <+: (timer manipulator run.stage.output).2.events ∧
      ∀ posted keys since, Owes posted keys since manipulator →
        Owes posted keys since (timer manipulator run.stage.output).1) :
    Advances run (run.fire position timer) [] := by
  unfold fire
  cases found : run.stage.manipulators[position]? with
  | none => exact .refl sound
  | some manipulator =>
      obtain ⟨isSound, posts, owes⟩ := fires manipulator found
      have grows : run.got.Subperm
          (run.consumed ++ (timer manipulator run.stage.output).2.events) :=
        ((List.Sublist.refl run.consumed).append posts.sublist).subperm
      refine ⟨⟨sound.queued, fun later isLater => ?_⟩, (List.append_nil _).symm, grows,
        fun posted keys since before => .inl ?_⟩
      · rcases List.mem_or_eq_of_mem_set isLater with same | rfl
        · exact (sound.manipulators later same).mono grows.subset
        · exact isSound
      · obtain ⟨other, isOther, owesOther⟩ := before
        obtain ⟨index, bound, rfl⟩ := List.getElem_of_mem isOther
        rw [List.append_nil]
        by_cases same : index = position
        · subst same
          rw [List.getElem?_eq_getElem bound] at found
          obtain rfl := Option.some.inj found
          exact ⟨_, List.mem_set bound _, owes posted keys since owesOther⟩
        · refine ⟨_, @List.mem_of_getElem? _ _ index _ ?_, owesOther⟩
          rw [List.getElem?_set_ne (Ne.symm same), List.getElem?_eq_getElem bound]

/-- The timer of `to_if_held_down` advances the run without handling an entry, whether or not it
finds its record. -/
theorem advances_heldDown {run : TimerRun} (sound : run.Sound) (position : Nat) (now : Int) :
    Advances run (run.step (.heldDown position now)) [] := by
  refine @advances_fire run sound position
    (fun manipulator output => manipulator.fireHeldDown output now) fun manipulator found => ?_
  have isSound := sound.manipulators manipulator (List.mem_of_getElem? found)
  cases isTarget : manipulator.heldDownTarget now with
  | none =>
      obtain ⟨quiet, same⟩ := quiet_fireHeldDown isTarget run.stage.output
      rw [same]
      exact ⟨isSound.quiet quiet, List.prefix_refl _, fun _ _ _ owes => owes.quiet quiet⟩
  | some target =>
      obtain ⟨heldDown, front, record⟩ := target
      obtain ⟨isRecord, isPending⟩ := heldDownTarget_eq_some isTarget
      obtain ⟨-, -, lifted⟩ := isSound.pending _ isPending record isRecord rfl
      obtain ⟨first, last, events, -⟩ := @parts_sendWhenHeldDown _ _ run.stage.output heldDown front
        record run.got (isSound.records record isRecord).keepsReleases lifted
      have posts : run.stage.output.events <+:
          (manipulator.fireHeldDown run.stage.output now).2.events := by
        rw [fireHeldDown_of_target isTarget]
        refine ⟨first ++ heldDownList run.stage.output heldDown front record ++ last, ?_⟩
        rw [events]
        simp only [List.append_assoc]
      refine ⟨(isSound.fireHeldDown_of_target isTarget run.stage.output).mono ?_, posts,
        fun _ _ _ owes => owes.fireHeldDown_of_target isSound isTarget run.stage.output⟩
      exact ((List.Sublist.refl run.consumed).append posts.sublist).subset

theorem advances_delayedAction {run : TimerRun} (sound : run.Sound) (position : Nat) (now : Int) :
    Advances run (run.step (.delayedAction position now)) [] := by
  refine @advances_fire run sound position
    (fun manipulator output => manipulator.fireDelayedAction output now) fun manipulator found => ?_
  have isSound := sound.manipulators manipulator (List.mem_of_getElem? found)
  obtain ⟨quiet, posts⟩ := quiet_fireDelayedAction isSound.distinct run.stage.output now
  refine ⟨(isSound.quiet quiet).mono ?_, posts, fun _ _ _ owes => owes.quiet quiet⟩
  exact ((List.Sublist.refl run.consumed).append posts.sublist).subset

omit [ExpressionLibrary] [MachTimebase] in
/-- A manipulator without records and without a pending timer is sound, whatever it has been given.
-/
theorem sound_of_records {manipulator : TimedBasic} (noRecords : manipulator.records = [])
    (notPending : manipulator.pendingHeldDown = none) (got : List Entry) :
    manipulator.Sound got := by
  have noRecord : ∀ record, record ∉ manipulator.records := by
    rw [noRecords]
    exact fun _ => List.not_mem_nil
  refine ⟨?_, fun record member => absurd member (noRecord record),
    fun record member => absurd member (noRecord record),
    fun record member => absurd member (noRecord record), fun task isPending => ?_⟩
  · unfold Distinct
    rw [noRecords]
    exact List.nodup_nil
  · rw [notPending] at isPending
    cases isPending

omit [MachTimebase] in
/-- What `manipulate` leaves in the output queue when the front entry was handled. -/
theorem subperm_finishFront (input : EventQueue) (result : Stage.LoopResult TimedBasic)
    (reorder : Bool) :
    result.output.events.Subperm (Stage.finishFront input result reorder).output.events := by
  unfold Stage.finishFront
  dsimp only
  have pushed : result.output.events.Subperm (if result.front.validity = .valid then
      result.output.pushBackEntry result.front else result.output).events := by
    split
    · exact (List.sublist_append_left _ _).subperm
    · exact .refl _
  cases reorder with
  | true => exact pushed.trans (EventQueue.sortEvents_perm _).symm.subperm
  | false => exact pushed

/-- The front entry is handled, or it waits. -/
theorem advances_manipulate {run : TimerRun} (sound : run.Sound) (now : Int) (reorder : Bool)
    (keeps : run.KeepsWatched (.manipulate now reorder)) :
    ∃ handled, Advances run (run.step (.manipulate now reorder)) handled := by
  unfold step Stage.manipulate
  cases queued : run.stage.input.events with
  | nil => exact ⟨[], advances_removeInvalidManipulators sound⟩
  | cons front rest =>
      obtain ⟨releases, others⟩ := keeps front (by rw [queued]; rfl)
      obtain ⟨isValid, restValid⟩ := List.forall_mem_cons.mp (queued ▸ sound.queued)
      have dispatches := dispatches_dispatchFront sound.manipulators front rest now
      dsimp only
      generalize run.stage.dispatchFront front rest now = result at dispatches ⊢
      have owes : ∀ posted keys since, (∃ manipulator ∈ run.stage.manipulators,
          Owes posted keys since manipulator) →
          (∃ manipulator ∈ result.manipulators, Owes posted keys since manipulator) ∨
            Settled posted run.got (run.consumed ++ result.output.events) := by
        rintro posted keys since ⟨manipulator, isManipulator, owes⟩
        obtain ⟨after, isAfter, treated⟩ :=
          (exists_of_forall₂ dispatches.treated).1 manipulator isManipulator
        rcases treated.owes (sound.manipulators manipulator isManipulator) owes dispatches.grows
          (fun isUngrabbed => others isUngrabbed manipulator isManipulator) with still | settled
        · exact .inl ⟨after, isAfter, still⟩
        · exact .inr (settled.append run.consumed)
      have isSound : ∀ all, run.got ⊆ all → result.output.events ⊆ all →
          ∀ after ∈ result.manipulators, after.Sound all := by
        intro all earlier posted after isAfter
        obtain ⟨manipulator, isManipulator, treated⟩ :=
          (exists_of_forall₂ dispatches.treated).2 after isAfter
        exact treated.sound (sound.manipulators manipulator isManipulator) earlier posted
      have grows : run.got.Subperm (run.consumed ++ result.output.events) :=
        ((List.Sublist.refl run.consumed).append dispatches.grows.sublist).subperm
      cases waits : result.waits with
      | true =>
          rw [if_pos rfl, if_neg Bool.false_ne_true]
          let waiting : TimerRun := ⟨⟨result.manipulators,
            { run.stage.input with events := result.front :: rest }, result.output⟩,
            run.processed, run.consumed⟩
          have middle : Advances run waiting [] := by
            refine ⟨⟨?_, ?_⟩, (List.append_nil _).symm, grows, fun posted keys since before => ?_⟩
            · exact List.forall_mem_cons.mpr ⟨dispatches.valid waits, restValid⟩
            · exact isSound _ grows.subset (List.subset_append_right _ _)
            · rw [List.append_nil]
              exact owes posted keys since before
          exact ⟨_, middle.trans (advances_removeInvalidManipulators middle.sound)⟩
      | false =>
          rw [if_neg Bool.false_ne_true]
          dsimp only
          rw [if_pos rfl]
          have pushed := subperm_finishFront run.stage.input result reorder
          have more : (run.consumed ++ result.output.events).Subperm (run.consumed ++
              (Stage.finishFront run.stage.input result reorder).output.events) :=
            (List.Subperm.refl run.consumed).append pushed
          have allSound := isSound _ (grows.trans more).subset
            (List.Subset.trans (List.subset_append_right run.consumed _) more.subset)
          have gone := dispatches.keeps sound.manipulators
            (fun after isAfter => ⟨_, allSound after isAfter⟩) releases isValid
          refine ⟨[front], ⟨?_, fun later isLater => ?_⟩, rfl, grows.trans more,
            fun posted keys since before => ?_⟩
          · have erased : (run.stage.input.eraseFrontEvent).events = rest := by
              unfold EventQueue.eraseFrontEvent
              rw [queued]
              rfl
            intro entry member
            change entry ∈ run.stage.input.eraseFrontEvent.events at member
            rw [erased] at member
            exact restValid entry member
          · obtain ⟨after, isAfter, rfl⟩ := List.mem_map.mp isLater
            exact (allSound after isAfter).note (gone after isAfter)
          · rcases owes posted keys since before with ⟨after, isAfter, still⟩ | settled
            · exact .inl ⟨_, List.mem_map_of_mem isAfter, still.note front⟩
            · exact .inr (settled.mono (.refl _) more)

/-- Every step of a sound run advances it, if no watched record loses its key in it. -/
theorem advances_step {run : TimerRun} (sound : run.Sound) (action : Action)
    (wellFormed : run.WellFormed action) (keeps : run.KeepsWatched action) :
    ∃ handled, Advances run (run.step action) handled := by
  have kept : ∀ manipulator ∈ run.stage.manipulators, Manipulator.active manipulator = true →
      ∃ later ∈ run.stage.manipulators, Quiet manipulator later :=
    fun manipulator isManipulator _ => ⟨manipulator, isManipulator, .refl manipulator⟩
  have known : ∀ got, ∀ later ∈ run.stage.manipulators,
      (∃ manipulator ∈ run.stage.manipulators, Quiet manipulator later) ∨
        TimedBasic.Sound got later :=
    fun got later isLater => .inl ⟨later, isLater, .refl later⟩
  cases action with
  | push entry =>
      refine ⟨[], advances_of_quiet sound ?_ rfl (.refl _) (known _) kept⟩
      exact List.forall_mem_append.mpr ⟨sound.queued, List.forall_mem_singleton.mpr wellFormed.1⟩
  | manipulate now reorder => exact advances_manipulate sound now reorder keeps
  | changeEnvironment environment =>
      exact ⟨[], advances_of_quiet sound sound.queued rfl (.refl _) (known _) kept⟩
  | takeOutput =>
      have same : (run.step .takeOutput).got = run.got := by
        unfold got step EventQueue.eraseFrontEvent
        dsimp only
        cases run.stage.output.events <;> simp
      refine ⟨[], advances_of_quiet sound sound.queued rfl ?_ (known _) kept⟩
      rw [same]
  | invalidateManipulators => exact ⟨[], advances_invalidateManipulators sound⟩
  | pushBackManipulator manipulator =>
      obtain ⟨none, notPending⟩ := wellFormed
      refine ⟨[], advances_of_quiet sound sound.queued rfl (.refl _) (fun later isLater => ?_)
        fun earlier isEarlier _ => ⟨earlier, List.mem_append_left _ isEarlier, .refl earlier⟩⟩
      rcases List.mem_append.mp isLater with isEarlier | isNew
      · exact .inl ⟨later, isEarlier, .refl later⟩
      · obtain rfl := List.mem_singleton.mp isNew
        exact .inr (sound_of_records (List.isEmpty_iff.mp none)
          (Option.isNone_iff_eq_none.mp notPending) _)
  | heldDown position now => exact ⟨[], advances_heldDown sound position now⟩
  | delayedAction position now => exact ⟨[], advances_delayedAction sound position now⟩

/-- What a run does whose steps keep the watched records. -/
theorem advances_run {run : TimerRun} (sound : run.Sound) (actions : List Action)
    (wellFormed : Execution.StepsMeet step WellFormed run actions)
    (keeps : Execution.StepsMeet step KeepsWatched run actions) :
    ∃ handled, Advances run (actions.foldl step run) handled := by
  induction actions generalizing run with
  | nil => exact ⟨[], .refl sound⟩
  | cons action rest ih =>
      obtain ⟨handled, first⟩ := advances_step sound action wellFormed.1 keeps.1
      obtain ⟨more, later⟩ := ih first.sound wellFormed.2 keeps.2
      exact ⟨handled ++ more, first.trans later⟩

/-! ## What the timer presses -/

omit [MachTimebase] in
/-- The held-down timer has fired for a record. It posts nothing when the keys of the record have
been let go. What it presses outside its list was released, and the list is released by the time
the keys are let go. -/
structure StrandsNothing (fired next final : TimerRun) (heldDown : ToIfHeldDown) (front : Entry)
    (record : SharedRecord) : Prop where
  silent : (∀ fromEvent ∈ record.keys, LetGo record.since fromEvent) →
    next.stage.output.events = fired.stage.output.events
  posts : ∃ first last, next.stage.output.events = fired.stage.output.events ++ first ++
      heldDownList fired.stage.output heldDown front record ++ last ∧
    ∀ entry ∈ first ++ last, Answered (fired.got ++ first) entry
  released : (∀ fromEvent ∈ record.keys,
      LetGo (record.since ++ final.processed.drop fired.processed.length) fromEvent) →
    Settled (heldDownList fired.stage.output heldDown front record) next.got final.got

/-- The held-down timer strands no key when it fires in a run: it posts for a record that is
alive and that it is pending for, and otherwise nothing. -/
def NeverStrands (actions : List Action) : Prop :=
  ∀ before position now after, actions = before ++ .heldDown position now :: after →
    let fired := before.foldl step initial
    let next := fired.step (.heldDown position now)
    (∀ manipulator, fired.stage.manipulators[position]? = some manipulator →
      ∀ heldDown front record,
        manipulator.heldDownTarget now = some (heldDown, front, record) →
          (record ∈ manipulator.records ∧
            manipulator.pendingHeldDown = some (front, record.identity)) ∧
          StrandsNothing fired next (actions.foldl step initial) heldDown front record) ∧
    ((∀ manipulator, fired.stage.manipulators[position]? = some manipulator →
        manipulator.heldDownTarget now = none) →
      next.stage.output.events = fired.stage.output.events)

/-- A timer that has no record to post for posts nothing. -/
theorem events_heldDown_of_none (run : TimerRun) (position : Nat) (now : Int)
    (noTarget : ∀ manipulator, run.stage.manipulators[position]? = some manipulator →
      manipulator.heldDownTarget now = none) :
    (run.step (.heldDown position now)).stage.output.events = run.stage.output.events := by
  unfold step fire
  dsimp only
  cases found : run.stage.manipulators[position]? with
  | none => rfl
  | some manipulator =>
      dsimp only
      unfold fireHeldDown
      rw [noTarget manipulator found]

omit [ExpressionLibrary] [MachTimebase] in
/-- A watched record waits for a key of its own that is held. -/
theorem exists_held {manipulator : TimedBasic} {got : List Entry}
    (sound : manipulator.Sound got) {record : SharedRecord}
    (isRecord : record ∈ manipulator.records) (listed : record.listed = true)
    (watches : manipulator.Watches record) :
    ∃ fromEvent ∈ record.keys, ¬LetGo record.since fromEvent := by
  have isSound := sound.records record isRecord
  obtain ⟨fromEvent, member⟩ := List.exists_mem_of_ne_nil _ (isSound.listed_iff.mp listed)
  exact ⟨fromEvent, isSound.own fromEvent member,
    sound.held record isRecord watches fromEvent member⟩

/-- The timer strands a key if it posts when the keys of its record have been let go. -/
theorem not_neverStrands {before after : List Action} {position : Nat} {now : Int}
    (letGo : ∀ manipulator ∈ (before.foldl step initial).stage.manipulators[position]?,
      ∀ target ∈ manipulator.heldDownTarget now,
        ∀ fromEvent ∈ target.2.2.keys, LetGo target.2.2.since fromEvent)
    (isDue : ((before.foldl step initial).stage.manipulators[position]?.bind fun manipulator =>
      manipulator.heldDownTarget now).isSome = true)
    (posts : ((before.foldl step initial).step (.heldDown position now)).stage.output.events ≠
      (before.foldl step initial).stage.output.events) :
    ¬NeverStrands (before ++ .heldDown position now :: after) := by
  intro strands
  obtain ⟨target, isTarget⟩ := Option.isSome_iff_exists.mp isDue
  obtain ⟨manipulator, found, isTarget⟩ := Option.bind_eq_some_iff.mp isTarget
  have firing := ((strands before position now after rfl).1 manipulator found target.1 target.2.1
    target.2.2 isTarget).2
  exact posts (firing.silent (letGo manipulator found target isTarget))

/-! ## Runs -/

omit [ExpressionLibrary] [MachTimebase] in
/-- From A to B when it is held for 500 milliseconds, and to home when another key is pressed in
the first second. -/
def holdForB : TimedBasic where
  basic :=
    { validity := .valid
      conditionManager := ⟨[]⟩
      parameters := .initial
      from_ := ⟨[.momentarySwitchEvent (.make UsagePage.keyboardOrKeypad Usage.keyboardA)],
        ⟨[], []⟩, none, .initial⟩
      to_ := []
      toAfterKeyUp := []
      toIfAlone := []
      manipulatedOriginalEvents := [] }
  records := []
  made := 0
  toIfHeldDown := some ⟨[⟨.momentarySwitchEvent (.make UsagePage.keyboardOrKeypad Usage.keyboardB),
    [], false, true, false, 0, ⟨[]⟩⟩], 500, none, none⟩
  toDelayedAction := some ⟨[], [⟨.momentarySwitchEvent
    (.make UsagePage.keyboardOrKeypad Usage.keyboardHome), [], false, true, false, 0, ⟨[]⟩⟩],
    1000, none, none, none⟩

omit [ExpressionLibrary] [MachTimebase] in
/-- An entry of device 1 is pushed and handled. -/
def handleEntry (milliseconds : Int) (event : Event) (eventType : EventType) : List Action :=
  let now := milliseconds * 1000000
  [.push (.original 1 now event eventType), .manipulate now false]

omit [ExpressionLibrary] [MachTimebase] in
/-- A key of device 1 is pushed and handled. -/
def handleKey (milliseconds : Int) (usage : Usage) (eventType : EventType) : List Action :=
  handleEntry milliseconds (.momentarySwitchEvent (.make UsagePage.keyboardOrKeypad usage))
    eventType

omit [ExpressionLibrary] [MachTimebase] in
/-- A is held until after the timer has fired. -/
def heldPlayed : List Action :=
  .pushBackManipulator holdForB :: handleKey 10 Usage.keyboardA .keyDown ++
    .heldDown 0 (600 * 1000000) :: handleKey 700 Usage.keyboardA .keyUp

omit [ExpressionLibrary] [MachTimebase] in
/-- The keyboard is ungrabbed while A is held. -/
def ungrabbedWhileHeld : List Action :=
  .pushBackManipulator holdForB :: handleKey 10 Usage.keyboardA .keyDown ++
    handleEntry 100 .deviceUngrabbed .single

omit [ExpressionLibrary] [MachTimebase] in
/-- Both timers fire after the keyboard was ungrabbed. -/
def firesAfterUngrab : List Action :=
  ungrabbedWhileHeld ++ .heldDown 0 (600 * 1000000) :: [.delayedAction 0 (1200 * 1000000)]

end TimerRun

end Karabiner
