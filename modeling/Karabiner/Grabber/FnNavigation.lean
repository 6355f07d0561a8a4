import Mathlib.Data.Int.Order.Basic
import Mathlib.Logic.Function.Basic
import Karabiner.Foundation.Execution
import Karabiner.Foundation.ExpiringList
import Karabiner.Grabber.EventTapMonitor

/-! # Navigation keys under the fn key

The event tap reports a navigation key that is pressed with fn as another key, and
`normalize_fn_modified_navigation_event` undoes that. For the release it remembers an
expiration of every key_down it has remapped, the repeated ones included, and forgets one
with each key_up. A key is released as it was pressed exactly while no expiration is left
when a press that began without fn ends (`releasedAsPressed_iff`).
-/

namespace Karabiner

namespace EventTapMonitor

/-! ## One event -/

/-- The keys that are remapped, and what they become. -/
def fnModifiedKeys : List (Usage × Usage) :=
  [(Usage.keyboardHome, Usage.keyboardLeftArrow), (Usage.keyboardEnd, Usage.keyboardRightArrow),
    (Usage.keyboardPageUp, Usage.keyboardUpArrow),
    (Usage.keyboardPageDown, Usage.keyboardDownArrow),
    (Usage.keypadEnter, Usage.keyboardReturnOrEnter),
    (Usage.keyboardDeleteForward, Usage.keyboardDeleteOrBackspace)]

theorem remapFnModifiedKeyEvent_cases {event remapped : MomentarySwitchEvent}
    (isRemapped : remapFnModifiedKeyEvent event = some remapped) :
    ∃ pair ∈ fnModifiedKeys, event = .make UsagePage.keyboardOrKeypad pair.1 ∧
      remapped = .make UsagePage.keyboardOrKeypad pair.2 := by
  simp only [remapFnModifiedKeyEvent] at isRemapped
  repeat' split at isRemapped
  all_goals simp_all [fnModifiedKeys]

/-- A key that is remapped becomes another one. -/
theorem remapFnModifiedKeyEvent_ne {event remapped : MomentarySwitchEvent}
    (isRemapped : remapFnModifiedKeyEvent event = some remapped) : remapped ≠ event := by
  obtain ⟨pair, member, rfl, rfl⟩ := remapFnModifiedKeyEvent_cases isRemapped
  have different : ∀ pair ∈ fnModifiedKeys,
      MomentarySwitchEvent.make UsagePage.keyboardOrKeypad pair.2 ≠
        .make UsagePage.keyboardOrKeypad pair.1 := by decide
  exact different pair member

/-- The fn key is not remapped. -/
theorem makeModifierFlag_of_remapped {event remapped : MomentarySwitchEvent}
    (isRemapped : remapFnModifiedKeyEvent event = some remapped) :
    event.makeModifierFlag ≠ some .fn := by
  obtain ⟨pair, member, rfl, rfl⟩ := remapFnModifiedKeyEvent_cases isRemapped
  have noModifier : ∀ pair ∈ fnModifiedKeys,
      (MomentarySwitchEvent.make UsagePage.keyboardOrKeypad pair.1).makeModifierFlag ≠
        some .fn := by decide
  exact noModifier pair member

section Normalized

variable {monitor : EventTapMonitor} {event remapped : MomentarySwitchEvent} {now : Int}

/-- The expirations of the key that are not reached. -/
def unexpired (monitor : EventTapMonitor) (key : MomentarySwitchEvent) (now : Int) : List Int :=
  (monitor.purgeExpirations now).fnModifiedKeyDownEventCounts key

theorem mem_unexpired {key : MomentarySwitchEvent} {expiration : Int}
    (remembered : expiration ∈ monitor.fnModifiedKeyDownEventCounts key)
    (later : now < expiration) : expiration ∈ monitor.unexpired key now :=
  @Foundation.ExpiringList.mem_expire_of_lt Int Int _ (fun e => e) now _ expiration remembered later

/-- A key_down is remapped when fn is pressed, which is remembered. -/
theorem normalize_keyDown (isRemapped : remapFnModifiedKeyEvent event = some remapped) :
    monitor.normalizeFnModifiedNavigationEvent .keyDown event now =
      if monitor.fnPressed then
        (remapped, (monitor.purgeExpirations now).setExpirations event
          (monitor.unexpired event now ++ [now + fnModifiedKeyDownEventTtl]))
      else (event, monitor.purgeExpirations now) := by
  simp only [normalizeFnModifiedNavigationEvent, isRemapped,
    if_neg (makeModifierFlag_of_remapped isRemapped)]
  rfl

/-- A key_up is remapped when an expiration of the key is not reached, which is forgotten. -/
theorem normalize_keyUp (isRemapped : remapFnModifiedKeyEvent event = some remapped) :
    monitor.normalizeFnModifiedNavigationEvent .keyUp event now =
      match monitor.unexpired event now with
      | _ :: rest => (remapped, (monitor.purgeExpirations now).setExpirations event rest)
      | [] => (event, monitor.purgeExpirations now) := by
  simp only [normalizeFnModifiedNavigationEvent, isRemapped,
    if_neg (makeModifierFlag_of_remapped isRemapped)]
  rfl

/-- An event changes the expirations of a key only when it is a key_down or key_up of it. -/
theorem normalize_expirations_of_other {eventType : EventType} {key : MomentarySwitchEvent}
    (other : event ≠ key) :
    (monitor.normalizeFnModifiedNavigationEvent eventType event
      now).2.fnModifiedKeyDownEventCounts key = monitor.unexpired key now := by
  unfold normalizeFnModifiedNavigationEvent
  dsimp only
  split
  · cases eventType <;> rfl
  · split
    · cases eventType with
      | keyDown =>
          dsimp only
          split
          · exact if_neg (Ne.symm other)
          · rfl
      | keyUp =>
          dsimp only
          split
          · exact if_neg (Ne.symm other)
          · rfl
      | single => rfl
    · rfl

/-- A callback remembers what the normalization does. -/
theorem callback_expirations (posted : PostedState) (eventType : EventType) (autorepeat : Bool)
    (absoluteNow : Int) :
    (monitor.callback posted eventType event autorepeat now
      absoluteNow).2.1.fnModifiedKeyDownEventCounts =
      (monitor.normalizeFnModifiedNavigationEvent eventType event
        now).2.fnModifiedKeyDownEventCounts := by
  unfold callback
  dsimp only
  split
  · rfl
  · split <;> rfl

end Normalized

/-! ## Callbacks -/

/-- A call of `callback` for a keyboard event. -/
structure Callback where
  /-- What the stage that posts events has posted by then. -/
  posted : PostedState
  eventType : EventType
  event : MomentarySwitchEvent
  autorepeat : Bool
  steadyNow : Int
  now : Int

/-- A press of a key that has not ended. -/
structure Press where
  /-- What the first key_down was normalized to. -/
  normalized : MomentarySwitchEvent
  /-- fn was pressed at the first key_down. -/
  withFn : Bool
  since : Int

/-- The monitor with the presses that its callbacks tell of. -/
structure FnRun where
  monitor : EventTapMonitor
  press : MomentarySwitchEvent → Option Press
  time : Int

namespace FnRun

def start (id : Nat) (cgeventtapFallbackEnabled : Bool) (time : Int) : FnRun :=
  ⟨.create id cgeventtapFallbackEnabled, fun _ => none, time⟩

/-- What the event of the callback is normalized to. -/
def normalized (run : FnRun) (call : Callback) : MomentarySwitchEvent :=
  (run.monitor.normalizeFnModifiedNavigationEvent call.eventType call.event call.steadyNow).1

/-- The presses after a callback. -/
def pressAfter (run : FnRun) (call : Callback) : MomentarySwitchEvent → Option Press :=
  match call.eventType, run.press call.event with
  | .keyDown, none =>
      Function.update run.press call.event
        (some ⟨run.normalized call, run.monitor.fnPressed, call.steadyNow⟩)
  | .keyUp, _ => Function.update run.press call.event none
  | _, _ => run.press

def step (run : FnRun) (call : Callback) : FnRun where
  monitor := (run.monitor.callback call.posted call.eventType call.event call.autorepeat
    call.steadyNow call.now).2.1
  press := run.pressAfter call
  time := call.steadyNow

/-- The clock does not go back, and each navigation key alternates: a key_down is repeated
exactly while the key is pressed, and a key_up ends a press that is shorter than the time
to live. -/
structure InTurn (run : FnRun) (call : Callback) : Prop where
  later : run.time ≤ call.steadyNow
  keyDown : (remapFnModifiedKeyEvent call.event).isSome = true → call.eventType = .keyDown →
    call.autorepeat = (run.press call.event).isSome
  keyUp : (remapFnModifiedKeyEvent call.event).isSome = true → call.eventType = .keyUp →
    ∃ press, run.press call.event = some press ∧
      call.steadyNow < press.since + fnModifiedKeyDownEventTtl

/-- The key_up of a navigation key is normalized to what the first key_down of its press was. -/
def ReleasedAsPressed (run : FnRun) (call : Callback) : Prop :=
  (remapFnModifiedKeyEvent call.event).isSome = true → call.eventType = .keyUp →
    ∀ press, run.press call.event = some press → run.normalized call = press.normalized

/-- When a press of a navigation key that began without fn ends, all expirations that are
remembered of the key are reached. -/
def NothingLeft (run : FnRun) (call : Callback) : Prop :=
  (remapFnModifiedKeyEvent call.event).isSome = true → call.eventType = .keyUp →
    ∀ press, run.press call.event = some press → press.withFn = false →
      ∀ expiration ∈ run.monitor.fnModifiedKeyDownEventCounts call.event,
        expiration ≤ call.steadyNow

/-- What is known of the press of a navigation key: what it is normalized to, and that the
expiration of its first key_down is remembered until it is reached. -/
structure PressSound (run : FnRun) (key remapped : MomentarySwitchEvent) (press : Press) :
    Prop where
  normalized : press.normalized = if press.withFn then remapped else key
  remembered : press.withFn = true → run.time < press.since + fnModifiedKeyDownEventTtl →
    press.since + fnModifiedKeyDownEventTtl ∈ run.monitor.fnModifiedKeyDownEventCounts key

def Sound (run : FnRun) : Prop :=
  ∀ key remapped press, remapFnModifiedKeyEvent key = some remapped →
    run.press key = some press → run.PressSound key remapped press

theorem sound_start (id : Nat) (cgeventtapFallbackEnabled : Bool) (time : Int) :
    (start id cgeventtapFallbackEnabled time).Sound := nofun

/-- A callback for another key leaves the press of a key as it is. -/
theorem pressAfter_of_ne {run : FnRun} {call : Callback} {key : MomentarySwitchEvent}
    (other : key ≠ call.event) : run.pressAfter call key = run.press key := by
  unfold pressAfter
  cases call.eventType with
  | keyDown =>
      cases run.press call.event with
      | none => exact Function.update_of_ne other _ _
      | some _ => rfl
  | keyUp => exact Function.update_of_ne other _ _
  | single => rfl

theorem step_expirations (run : FnRun) (call : Callback) :
    (run.step call).monitor.fnModifiedKeyDownEventCounts =
      (run.monitor.normalizeFnModifiedNavigationEvent call.eventType call.event
        call.steadyNow).2.fnModifiedKeyDownEventCounts :=
  callback_expirations _ _ _ _

/-- A press that goes on stays sound when the expirations of its key that are not reached are
still remembered. -/
theorem PressSound.step {run : FnRun} {call : Callback} {key remapped : MomentarySwitchEvent}
    {press : Press} (sound : run.PressSound key remapped press)
    (later : run.time ≤ call.steadyNow)
    (kept : run.monitor.unexpired key call.steadyNow ⊆
      (run.step call).monitor.fnModifiedKeyDownEventCounts key) :
    (run.step call).PressSound key remapped press where
  normalized := sound.normalized
  remembered withFn notReached := by
    apply kept
    apply mem_unexpired
    · exact sound.remembered withFn (Int.lt_of_le_of_lt later notReached)
    · exact notReached

/-- A callback keeps what is known of the presses. -/
theorem Sound.step {run : FnRun} {call : Callback} (sound : run.Sound)
    (inTurn : run.InTurn call) : (run.step call).Sound := by
  intro key remapped press isRemapped isPressed
  change run.pressAfter call key = some press at isPressed
  by_cases own : call.event = key
  swap
  · rw [pressAfter_of_ne (Ne.symm own)] at isPressed
    apply (sound key remapped press isRemapped isPressed).step inTurn.later
    rw [step_expirations, normalize_expirations_of_other own]
    exact List.Subset.refl _
  · subst own
    cases type : call.eventType with
    | keyDown =>
        have expirations := run.step_expirations call
        rw [type, normalize_keyDown isRemapped] at expirations
        cases before : run.press call.event with
        | none =>
            -- The press begins.
            simp only [pressAfter, type, before, Function.update_self, Option.some.injEq]
              at isPressed
            subst isPressed
            constructor
            · simp only [normalized, type, normalize_keyDown isRemapped]
              split <;> rfl
            · intro withFn _
              rw [expirations, if_pos withFn]
              simp [setExpirations]
        | some other =>
            simp only [pressAfter, type, before, Option.some.injEq] at isPressed
            subst isPressed
            apply (sound call.event remapped other isRemapped before).step inTurn.later
            rw [expirations]
            split
            · simp [setExpirations]
            · exact List.Subset.refl _
    | keyUp => simp [pressAfter, type] at isPressed
    | single =>
        simp only [pressAfter, type] at isPressed
        apply (sound call.event remapped press isRemapped isPressed).step inTurn.later
        rw [step_expirations, type]
        simp only [normalizeFnModifiedNavigationEvent, isRemapped,
          if_neg (makeModifierFlag_of_remapped isRemapped)]
        exact List.Subset.refl _

/-- A key is released as it was pressed exactly when nothing is left. -/
theorem releasedAsPressed_call {run : FnRun} {call : Callback} (sound : run.Sound)
    (inTurn : run.InTurn call) : run.ReleasedAsPressed call ↔ run.NothingLeft call := by
  unfold ReleasedAsPressed NothingLeft
  refine forall_congr' fun isNavigation => forall_congr' fun isKeyUp => forall_congr' fun press =>
    forall_congr' fun isPressed => ?_
  obtain ⟨remapped, isRemapped⟩ := Option.isSome_iff_exists.mp isNavigation
  have pressSound := sound call.event remapped press isRemapped isPressed
  have released : run.normalized call =
      if run.monitor.unexpired call.event call.steadyNow = [] then call.event else remapped := by
    rw [normalized, isKeyUp, normalize_keyUp isRemapped]
    cases run.monitor.unexpired call.event call.steadyNow <;> rfl
  rw [released, pressSound.normalized]
  cases withFn : press.withFn with
  | true =>
      -- The expiration of the first key_down is still there.
      obtain ⟨_, same, short⟩ := inTurn.keyUp isNavigation isKeyUp
      rw [isPressed, Option.some.injEq] at same
      subst same
      have remembered := mem_unexpired
        (pressSound.remembered withFn (Int.lt_of_le_of_lt inTurn.later short)) short
      rw [if_neg (List.ne_nil_of_mem remembered)]
      exact iff_of_true rfl nofun
  | false =>
      have allReached : run.monitor.unexpired call.event call.steadyNow = [] ↔
          ∀ expiration ∈ run.monitor.fnModifiedKeyDownEventCounts call.event,
            expiration ≤ call.steadyNow := by
        change List.dropWhile _ _ = [] ↔ _
        simp
      rw [← allReached]
      have different := remapFnModifiedKeyEvent_ne isRemapped
      by_cases nothing : run.monitor.unexpired call.event call.steadyNow = []
      · simp [nothing]
      · simp [nothing, different]

open Foundation.Execution in
/-- In every run of callbacks in which the navigation keys alternate and no press is as long as
the time to live, the keys are released as they were pressed exactly when nothing is left of
other key_downs whenever a press that began without fn ends. -/
theorem releasedAsPressed_iff (id : Nat) (cgeventtapFallbackEnabled : Bool) (time : Int)
    (calls : List Callback)
    (inTurn : StepsMeet step InTurn (start id cgeventtapFallbackEnabled time) calls) :
    StepsMeet step ReleasedAsPressed (start id cgeventtapFallbackEnabled time) calls ↔
      StepsMeet step NothingLeft (start id cgeventtapFallbackEnabled time) calls := by
  have agree := @stepsMeet_iff _ _ step Sound
    (fun run call => run.InTurn call ∧ run.ReleasedAsPressed call)
    (fun run call => run.InTurn call ∧ run.NothingLeft call)
    (fun run call sound => and_congr_right fun inTurn => releasedAsPressed_call sound inTurn)
    (fun run call sound meets => sound.step meets.1) _ calls
    (sound_start id cgeventtapFallbackEnabled time)
  constructor
  · intro released
    exact (agree.mp (inTurn.and released)).imp fun _ _ both => both.2
  · intro nothingLeft
    exact (agree.mpr (inTurn.and nothingLeft)).imp fun _ _ both => both.2

/-! ## Without repeats under fn -/

/-- No navigation key repeats while fn is pressed. -/
def NoRepeatWithFn (run : FnRun) (call : Callback) : Prop :=
  (remapFnModifiedKeyEvent call.event).isSome = true → call.eventType = .keyDown →
    run.monitor.fnPressed = true → run.press call.event = none

/-- Only a press that began with fn has an expiration, and not more than one. -/
def OneForEachPress (run : FnRun) : Prop :=
  ∀ key remapped, remapFnModifiedKeyEvent key = some remapped →
    (run.monitor.fnModifiedKeyDownEventCounts key).length ≤ 1 ∧
      (run.monitor.fnModifiedKeyDownEventCounts key ≠ [] →
        ∃ press, run.press key = some press ∧ press.withFn = true)

theorem oneForEachPress_start (id : Nat) (cgeventtapFallbackEnabled : Bool) (time : Int) :
    (start id cgeventtapFallbackEnabled time).OneForEachPress :=
  fun _ _ _ => ⟨Nat.zero_le 1, fun some => absurd rfl some⟩

/-- When only unreached expirations of a key are kept, so is what is known of its number. -/
theorem OneForEachPress.of_unexpired {run : FnRun} {call : Callback}
    (one : run.OneForEachPress) {key remapped : MomentarySwitchEvent}
    (isRemapped : remapFnModifiedKeyEvent key = some remapped)
    (expirations : (run.step call).monitor.fnModifiedKeyDownEventCounts key =
      run.monitor.unexpired key call.steadyNow)
    (goesOn : ∀ press, run.press key = some press → run.pressAfter call key = some press) :
    ((run.step call).monitor.fnModifiedKeyDownEventCounts key).length ≤ 1 ∧
      ((run.step call).monitor.fnModifiedKeyDownEventCounts key ≠ [] →
        ∃ press, (run.step call).press key = some press ∧ press.withFn = true) := by
  obtain ⟨atMostOne, began⟩ := one key remapped isRemapped
  have kept : (run.monitor.unexpired key call.steadyNow).Sublist
      (run.monitor.fnModifiedKeyDownEventCounts key) := List.dropWhile_sublist _
  rw [expirations]
  refine ⟨kept.length_le.trans atMostOne, fun some => ?_⟩
  obtain ⟨press, isPressed, withFn⟩ := began fun noneBefore =>
    some (List.sublist_nil.mp (noneBefore ▸ kept))
  exact ⟨press, goesOn press isPressed, withFn⟩

/-- A callback that is no repetition with fn keeps one navigation event for each press. -/
theorem OneForEachPress.step {run : FnRun} {call : Callback} (one : run.OneForEachPress)
    (noRepeat : run.NoRepeatWithFn call) : (run.step call).OneForEachPress := by
  intro key remapped isRemapped
  have expirations := run.step_expirations call
  by_cases own : call.event = key
  swap
  · apply one.of_unexpired isRemapped
    · rw [expirations, normalize_expirations_of_other own]
    · intro press isPressed
      rwa [pressAfter_of_ne (Ne.symm own)]
  · subst own
    obtain ⟨atMostOne, began⟩ := one call.event remapped isRemapped
    cases type : call.eventType with
    | keyDown =>
        rw [type, normalize_keyDown isRemapped] at expirations
        cases fn : run.monitor.fnPressed with
        | true =>
            have before := noRepeat (by rw [isRemapped]; rfl) type fn
            have noneLeft : run.monitor.fnModifiedKeyDownEventCounts call.event = [] := by
              by_contra some
              obtain ⟨press, isPressed, _⟩ := began some
              rw [before] at isPressed
              cases isPressed
            have unexpired : run.monitor.unexpired call.event call.steadyNow = [] := by
              change List.dropWhile _ _ = []
              rw [noneLeft]
              rfl
            rw [expirations, if_pos fn, unexpired]
            refine ⟨by simp [setExpirations], fun _ =>
              ⟨⟨run.normalized call, true, call.steadyNow⟩, ?_, rfl⟩⟩
            simp [FnRun.step, pressAfter, type, before, fn]
        | false =>
            apply one.of_unexpired isRemapped
            · rw [expirations, fn]
              rfl
            · intro press isPressed
              simp [pressAfter, type, isPressed]
    | keyUp =>
        rw [type, normalize_keyUp isRemapped] at expirations
        have atMost : (run.monitor.unexpired call.event call.steadyNow).length ≤ 1 :=
          (List.dropWhile_sublist _).length_le.trans atMostOne
        have noneLeft :
            (run.step call).monitor.fnModifiedKeyDownEventCounts call.event = [] := by
          rw [expirations]
          match unexpired : run.monitor.unexpired call.event call.steadyNow with
          | [] => exact unexpired
          | [_] => simp [setExpirations]
          | _ :: _ :: _ => simp [unexpired] at atMost
        rw [noneLeft]
        exact ⟨Nat.zero_le 1, fun some => absurd rfl some⟩
    | single =>
        apply one.of_unexpired isRemapped
        · rw [expirations, type]
          simp only [normalizeFnModifiedNavigationEvent, isRemapped,
            if_neg (makeModifierFlag_of_remapped isRemapped)]
          rfl
        · intro press isPressed
          rwa [pressAfter, type]

/-- Without repeats under fn, the navigation keys are released as they were pressed. -/
theorem stepsMeet_releasedAsPressed_of_noRepeatWithFn (id : Nat)
    (cgeventtapFallbackEnabled : Bool) (time : Int) (calls : List Callback)
    (inTurn : Foundation.Execution.StepsMeet step InTurn
      (start id cgeventtapFallbackEnabled time) calls)
    (noRepeat : Foundation.Execution.StepsMeet step NoRepeatWithFn
      (start id cgeventtapFallbackEnabled time) calls) :
    Foundation.Execution.StepsMeet step ReleasedAsPressed
      (start id cgeventtapFallbackEnabled time) calls := by
  have both := @Foundation.Execution.stepsMeet_iff _ _ step
    (fun run => run.Sound ∧ run.OneForEachPress)
    (fun run call => run.InTurn call ∧ run.NoRepeatWithFn call)
    (fun run call => (run.InTurn call ∧ run.NoRepeatWithFn call) ∧ run.ReleasedAsPressed call)
    (fun run call kept => (and_iff_left_of_imp fun meets => by
      refine (releasedAsPressed_call kept.1 meets.1).mpr ?_
      intro isNavigation _ press isPressed withoutFn expiration remembered
      obtain ⟨remapped, isRemapped⟩ := Option.isSome_iff_exists.mp isNavigation
      obtain ⟨other, same, withFn⟩ :=
        (kept.2 call.event remapped isRemapped).2 (List.ne_nil_of_mem remembered)
      rw [isPressed, Option.some.injEq] at same
      rw [← same, withoutFn] at withFn
      cases withFn).symm)
    (fun run call kept meets => ⟨kept.1.step meets.1, kept.2.step meets.2⟩) _ calls
    ⟨sound_start id cgeventtapFallbackEnabled time,
      oneForEachPress_start id cgeventtapFallbackEnabled time⟩
  exact (both.mp (inTurn.and noRepeat)).imp fun _ _ meets => meets.2

end FnRun

/-! ## A repeat under fn -/

section Repeat

/-- The callback of a key at a second of the clock, when nothing has been posted. -/
def callbackAt (second : Int) (eventType : EventType) (event : MomentarySwitchEvent)
    (autorepeat : Bool) : Callback :=
  ⟨⟨⟨[]⟩, .initial⟩, eventType, event, autorepeat, second * 1000000000, second * 1000000000⟩

def home : MomentarySwitchEvent := .make UsagePage.keyboardOrKeypad Usage.keyboardHome

/-- Home is pressed and released under fn. -/
def pressedWithFn : List Callback :=
  [callbackAt 1 .keyDown (.ofModifierFlag .fn) false, callbackAt 2 .keyDown home false,
    callbackAt 3 .keyUp home false]

/-- Home repeats once under fn, and is pressed and released again without fn. -/
def repeatedWithFn : List Callback :=
  [callbackAt 1 .keyDown (.ofModifierFlag .fn) false, callbackAt 2 .keyDown home false,
    callbackAt 3 .keyDown home true, callbackAt 4 .keyUp home false,
    callbackAt 5 .keyUp (.ofModifierFlag .fn) false, callbackAt 6 .keyDown home false,
    callbackAt 7 .keyUp home false]

/-- Home is released before it repeats, as what it was pressed as. -/
theorem releasedAsPressed_pressedWithFn :
    Foundation.Execution.StepsMeet FnRun.step FnRun.ReleasedAsPressed (.start 0 true 0)
      pressedWithFn := by
  refine (FnRun.releasedAsPressed_iff 0 true 0 pressedWithFn ?_).mpr ?_
  · refine ⟨⟨by decide, nofun, nofun⟩, ⟨by decide, fun _ _ => rfl, nofun⟩,
      ⟨by decide, nofun, fun _ _ => ⟨_, rfl, ?_⟩⟩, trivial⟩
    decide
  · refine ⟨nofun, nofun, fun _ _ press isPress notFn => ?_, trivial⟩
    obtain rfl := Option.some.inj isPress
    cases notFn

/-- After a repeat under fn, home is released as the left arrow key though it was pressed as
home. -/
theorem home_released_as_leftArrow :
    Foundation.Execution.StepsMeet FnRun.step FnRun.InTurn (.start 0 true 0) repeatedWithFn ∧
      ¬Foundation.Execution.StepsMeet FnRun.step FnRun.ReleasedAsPressed (.start 0 true 0)
        repeatedWithFn := by
  constructor
  · refine ⟨⟨by decide, nofun, nofun⟩, ⟨by decide, fun _ _ => rfl, nofun⟩,
      ⟨by decide, fun _ _ => rfl, nofun⟩, ⟨by decide, nofun, fun _ _ => ⟨_, rfl, ?_⟩⟩,
      ⟨by decide, nofun, nofun⟩, ⟨by decide, fun _ _ => rfl, nofun⟩,
      ⟨by decide, nofun, fun _ _ => ⟨_, rfl, ?_⟩⟩, trivial⟩
    · decide
    · decide
  · rintro ⟨_, _, _, _, _, _, released, _⟩
    have same := released rfl rfl _ rfl
    revert same
    decide

end Repeat

end EventTapMonitor

end Karabiner
