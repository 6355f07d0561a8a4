import Karabiner.VirtualDevices.PostedKeys

/-! # The event tap monitor

In the fallback mode the keys of devices that are not seized come from an event
tap. A keyboard event is normalized for the fn key, passed through when it is an
event of the virtual keyboard that comes back or while the loop guard suspends the
fallback, and else swallowed and handed to the grabber. Times of the steady clock
are nanoseconds.
-/

namespace Karabiner

/-- `krbn::keyboard_fallback_loop_guard`. -/
structure KeyboardFallbackLoopGuard where
  rateWindow : Int
  rateThreshold : Nat
  suspensionDuration : Int
  timestamps : MomentarySwitchEvent → List Int
  suspendedUntil : Option Int

namespace KeyboardFallbackLoopGuard

/-- The default arguments of the constructor. -/
def initial : KeyboardFallbackLoopGuard :=
  ⟨100 * 1000000, 10, 1000 * 1000000, fun _ => [], none⟩

/-- The timestamps of a key that are not expired, and the new one
(`purge_expired_timestamps`). -/
def recentTimestamps (loopGuard : KeyboardFallbackLoopGuard) (key : MomentarySwitchEvent)
    (now : Int) : List Int :=
  (loopGuard.timestamps key).dropWhile (fun t => decide (t ≤ now - loopGuard.rateWindow)) ++ [now]

/-- The part of `should_suspend` after a running suspension: the rate of the key. -/
def countKey (loopGuard : KeyboardFallbackLoopGuard) (key : MomentarySwitchEvent) (now : Int) :
    Bool × KeyboardFallbackLoopGuard :=
  if !key.valid || key.pointingButton then (false, loopGuard)
  else
    let recent := loopGuard.recentTimestamps key now
    if recent.length ≤ loopGuard.rateThreshold then
      (false,
        { loopGuard with
          timestamps := fun other => if other = key then recent else loopGuard.timestamps other })
    else
      (true,
        { loopGuard with
          suspendedUntil := some (now + loopGuard.suspensionDuration)
          timestamps := fun _ => [] })

/-- `should_suspend`. -/
def shouldSuspend (loopGuard : KeyboardFallbackLoopGuard) (key : MomentarySwitchEvent)
    (now : Int) : Bool × KeyboardFallbackLoopGuard :=
  match loopGuard.suspendedUntil with
  | some suspendedUntil =>
      if now < suspendedUntil then (true, loopGuard)
      else
        -- The fallback is resumed.
        { loopGuard with suspendedUntil := none, timestamps := fun _ => [] }.countKey key now
  | none => loopGuard.countKey key now

end KeyboardFallbackLoopGuard

/-- Whether the event tap of a monitor is attached to its run loop. -/
inductive TapState where
  | notStarted
  | attached
  | cleanedUp
deriving DecidableEq

/-- `krbn::event_tap_monitor`. -/
structure EventTapMonitor where
  /-- Tells the monitors of the grabber apart. -/
  id : Nat
  cgeventtapFallbackEnabled : Bool
  /-- The slots of `keyboard_event_arrived` are connected. -/
  connected : Bool
  tap : TapState
  fnPressed : Bool
  fnModifiedKeyDownEventCounts : MomentarySwitchEvent → List Int
  loopGuard : KeyboardFallbackLoopGuard

/-- What the event tap monitor shares with the stage that posts events. -/
structure PostedState where
  virtualHidKeyboardPressedKeys : PressedKeysManager
  keyboardSuppression : KeyboardSuppression

namespace EventTapMonitor

def create (id : Nat) (cgeventtapFallbackEnabled : Bool) : EventTapMonitor :=
  ⟨id, cgeventtapFallbackEnabled, true, .notStarted, false, fun _ => [], .initial⟩

/-- `fn_modified_key_down_event_ttl_`: 30 seconds. -/
def fnModifiedKeyDownEventTtl : Int := 30 * 1000000000

/-- `remap_fn_modified_key_event`. -/
def remapFnModifiedKeyEvent (event : MomentarySwitchEvent) : Option MomentarySwitchEvent :=
  let key := fun usage => MomentarySwitchEvent.make UsagePage.keyboardOrKeypad usage
  if event = key Usage.keyboardHome then some (key Usage.keyboardLeftArrow)
  else if event = key Usage.keyboardEnd then some (key Usage.keyboardRightArrow)
  else if event = key Usage.keyboardPageUp then some (key Usage.keyboardUpArrow)
  else if event = key Usage.keyboardPageDown then some (key Usage.keyboardDownArrow)
  else if event = key Usage.keypadEnter then some (key Usage.keyboardReturnOrEnter)
  else if event = key Usage.keyboardDeleteForward then some (key Usage.keyboardDeleteOrBackspace)
  else none

/-- The expirations that have not been reached; a key without any is not listed. -/
def purgeExpirations (monitor : EventTapMonitor) (now : Int) : EventTapMonitor :=
  { monitor with
    fnModifiedKeyDownEventCounts := fun key =>
      (monitor.fnModifiedKeyDownEventCounts key).dropWhile fun expiration =>
        decide (expiration ≤ now) }

def setExpirations (monitor : EventTapMonitor) (key : MomentarySwitchEvent)
    (expirations : List Int) : EventTapMonitor :=
  { monitor with
    fnModifiedKeyDownEventCounts := fun other =>
      if other = key then expirations else monitor.fnModifiedKeyDownEventCounts other }

/-- `normalize_fn_modified_navigation_event`: the event of the pair. -/
def normalizeFnModifiedNavigationEvent (monitor : EventTapMonitor) (eventType : EventType)
    (event : MomentarySwitchEvent) (now : Int) : MomentarySwitchEvent × EventTapMonitor :=
  let purged := monitor.purgeExpirations now
  if event.makeModifierFlag = some .fn then
    match eventType with
    | .keyDown => (event, { purged with fnPressed := true })
    | .keyUp => (event, { purged with fnPressed := false })
    | .single => (event, purged)
  else
    match remapFnModifiedKeyEvent event with
    | some remapped =>
        let expirations := purged.fnModifiedKeyDownEventCounts event
        match eventType with
        | .keyDown =>
            if purged.fnPressed then
              (remapped, purged.setExpirations event (expirations ++ [now + fnModifiedKeyDownEventTtl]))
            else (event, purged)
        | .keyUp =>
            match expirations with
            | _ :: rest => (remapped, purged.setExpirations event rest)
            | [] => (event, purged)
        | .single => (event, purged)
    | none => (event, purged)

/-- `should_skip_keyboard_event`: whether the event is passed through. The type
`kCGEventKeyDown` with the field `kCGKeyboardEventAutorepeat` is `autorepeat`. -/
def shouldSkipKeyboardEvent (monitor : EventTapMonitor) (posted : PostedState)
    (eventType : EventType) (event : MomentarySwitchEvent) (autorepeat : Bool) (now : Int) :
    Bool × PostedState :=
  if !monitor.cgeventtapFallbackEnabled then (false, posted)
  else if eventType == .keyDown && autorepeat then
    (posted.virtualHidKeyboardPressedKeys.contains event, posted)
  else
    let (consumed, suppression) := posted.keyboardSuppression.consume event eventType now
    (consumed, { posted with keyboardSuppression := suppression })

/-- `callback` for a keyboard event, at a time of the steady clock and a time of the
absolute clock: the event handed to the grabber, if any. -/
def callback (monitor : EventTapMonitor) (posted : PostedState) (eventType : EventType)
    (event : MomentarySwitchEvent) (autorepeat : Bool) (steadyNow now : Int) :
    Option MomentarySwitchEvent × EventTapMonitor × PostedState :=
  let (normalized, monitor) :=
    monitor.normalizeFnModifiedNavigationEvent eventType event steadyNow
  let (skip, posted) := monitor.shouldSkipKeyboardEvent posted eventType normalized autorepeat now
  if skip then (none, monitor, posted)
  else if monitor.cgeventtapFallbackEnabled then
    let (suspend, loopGuard) := monitor.loopGuard.shouldSuspend normalized steadyNow
    (if suspend then none else some normalized, { monitor with loopGuard := loopGuard }, posted)
  else (none, monitor, posted)

/-- The normalization only notes what it has to know about the fn key. -/
theorem normalizeFnModifiedNavigationEvent_frame (monitor : EventTapMonitor)
    (eventType : EventType) (event : MomentarySwitchEvent) (now : Int) :
    ∃ fnPressed counts,
      (monitor.normalizeFnModifiedNavigationEvent eventType event now).2 =
        { monitor with fnPressed := fnPressed, fnModifiedKeyDownEventCounts := counts } := by
  unfold normalizeFnModifiedNavigationEvent
  dsimp only
  split
  · cases eventType <;> exact ⟨_, _, rfl⟩
  · split
    · cases eventType with
      | keyDown =>
          dsimp only
          split <;> exact ⟨_, _, rfl⟩
      | keyUp =>
          dsimp only
          split <;> exact ⟨_, _, rfl⟩
      | single => exact ⟨_, _, rfl⟩
    · exact ⟨_, _, rfl⟩

/-- What the callbacks leave as it is. -/
def SameTap (monitor after : EventTapMonitor) : Prop :=
  after.id = monitor.id ∧ after.connected = monitor.connected ∧ after.tap = monitor.tap

/-- A callback changes neither the monitor's identity nor its tap and connections. -/
theorem sameTap_callback (monitor : EventTapMonitor) (posted : PostedState)
    (eventType : EventType) (event : MomentarySwitchEvent) (autorepeat : Bool)
    (steadyNow now : Int) :
    monitor.SameTap (monitor.callback posted eventType event autorepeat steadyNow now).2.1 := by
  obtain ⟨fnPressed, counts, frame⟩ :=
    monitor.normalizeFnModifiedNavigationEvent_frame eventType event steadyNow
  unfold callback
  dsimp only
  rw [frame]
  split
  · exact ⟨rfl, rfl, rfl⟩
  · split <;> exact ⟨rfl, rfl, rfl⟩

/-- The key_up of a physical key passes every filter as the given key: it is normalized
to that key, no posted event waits to be recognised as it, and the loop guard does not
suspend. -/
def LetsKeyUpThrough (monitor : EventTapMonitor) (posted : PostedState)
    (event : MomentarySwitchEvent) (steadyNow now : Int) (key : MomentarySwitchEvent) : Prop :=
  monitor.cgeventtapFallbackEnabled = true ∧
    (monitor.normalizeFnModifiedNavigationEvent .keyUp event steadyNow).1 = key ∧
    (posted.keyboardSuppression.consume key .keyUp now).1 = false ∧
    (monitor.loopGuard.shouldSuspend key steadyNow).1 = false

/-- A key_up that passes every filter is handed to the grabber. -/
theorem callback_of_letsKeyUpThrough {monitor : EventTapMonitor} {posted : PostedState}
    {event key : MomentarySwitchEvent} {steadyNow now : Int}
    (through : monitor.LetsKeyUpThrough posted event steadyNow now key) (autorepeat : Bool) :
    (monitor.callback posted .keyUp event autorepeat steadyNow now).1 = some key := by
  obtain ⟨enabled, normalized, notConsumed, notSuspended⟩ := through
  obtain ⟨fnPressed, counts, frame⟩ :=
    monitor.normalizeFnModifiedNavigationEvent_frame .keyUp event steadyNow
  unfold callback
  dsimp only
  rw [frame, normalized]
  unfold shouldSkipKeyboardEvent
  rw [enabled, notSuspended]
  simp [notConsumed]

end EventTapMonitor

end Karabiner
