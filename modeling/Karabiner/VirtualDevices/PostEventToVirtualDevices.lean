import Karabiner.Manipulator.Manager
import Karabiner.VirtualDevices.KeyEventDispatcher

/-! # Posting events to the virtual devices

The last stage of the pipeline (`post_event_to_virtual_devices`) turns the
entries it receives into reports of the virtual keyboard and the virtual
pointing device. Notifications to the user are left out.
-/

namespace Karabiner

/-- `mouse_key_handler`: the mouse keys in use, by device. -/
structure MouseKeyHandler where
  entries : List (DeviceId × MouseKey)
  scrollDirectionIsNatural : Bool
deriving DecidableEq

namespace MouseKeyHandler

def active (handler : MouseKeyHandler) : Bool := !handler.entries.isEmpty

/-- `erase_entry`. -/
def eraseMouseKey (handler : MouseKeyHandler) (deviceId : DeviceId) (mouseKey : MouseKey) :
    MouseKeyHandler :=
  { handler with
    entries := handler.entries.filter fun pair => !(pair.1 == deviceId && pair.2 == mouseKey) }

/-- `push_back_mouse_key`. -/
def pushBackMouseKey (handler : MouseKeyHandler) (deviceId : DeviceId) (mouseKey : MouseKey) :
    MouseKeyHandler :=
  { handler with
    entries := (handler.eraseMouseKey deviceId mouseKey).entries ++ [(deviceId, mouseKey)] }

/-- `erase_mouse_keys_by_device_id`. -/
def eraseMouseKeysByDeviceId (handler : MouseKeyHandler) (deviceId : DeviceId) :
    MouseKeyHandler :=
  { handler with entries := handler.entries.filter fun pair => !(pair.1 == deviceId) }

end MouseKeyHandler

/-- `pointing_button_manager::make_hid_report_buttons`. -/
def PointingButtonManager.makeHidReportButtons [HidReportLibrary]
    (manager : PointingButtonManager) : HidReportLibrary.Buttons :=
  manager.pressedUsages.foldl HidReportLibrary.insertButton HidReportLibrary.noButtons

/-- `post_event_to_virtual_devices`. -/
structure PostEventToVirtualDevices [HidReportLibrary] where
  /-- `key_event_dispatcher_` and `queue_`. -/
  keys : KeyDispatch
  mouseKeyHandler : MouseKeyHandler
  pressedButtons : HidReportLibrary.Buttons
  sleepShortcutDelay : Int

namespace PostEventToVirtualDevices

variable [HidReportLibrary]

def initial : PostEventToVirtualDevices :=
  ⟨.initial, ⟨[], false⟩, HidReportLibrary.noButtons, 500⟩

variable [MachTimebase]

/-- Whether a key is power or eject. -/
def powerOrEject (event : MomentarySwitchEvent) : Bool :=
  (event.usagePair.usagePage == UsagePage.keyboardOrKeypad &&
      event.usagePair.usage == Usage.keyboardPower) ||
    (event.usagePair.usagePage == UsagePage.consumer &&
      (event.usagePair.usage == Usage.consumerPower ||
        event.usagePair.usage == Usage.consumerEject))

/-- `make_time_stamp_with_sleep_shortcut_delay_if_needed`: command+option+power or
eject, and escape at the login window, put the machine to sleep. -/
def makeTimeStampWithSleepShortcutDelayIfNeeded (m : PostEventToVirtualDevices)
    (event : MomentarySwitchEvent) (output : EventQueue) (timeStamp : Int) : Int :=
  let delayed := timeStamp + MachTimebase.makeAbsoluteTimeDuration m.sleepShortcutDelay
  let manager := output.modifierFlagManager
  let optionPressed := manager.isPressed .leftOption || manager.isPressed .rightOption
  let commandPressed := manager.isPressed .leftCommand || manager.isPressed .rightCommand
  if powerOrEject event && optionPressed && commandPressed then delayed
  else if event.usagePair.usagePage == UsagePage.keyboardOrKeypad &&
      event.usagePair.usage == Usage.keyboardEscape &&
      output.manipulatorEnvironment.frontmostApplication.bundleIdentifier ==
        some "com.apple.loginwindow" then delayed
  else timeStamp

def dispatchModifierKeyEvent (m : PostEventToVirtualDevices) (manager : ModifierFlagManager)
    (timeStamp : Int) : PostEventToVirtualDevices :=
  { m with keys := m.keys.dispatchModifierKeyEvent manager timeStamp }

def mapQueue (m : PostEventToVirtualDevices) (change : PostedEventQueue → PostedEventQueue) :
    PostEventToVirtualDevices :=
  { m with keys := { m.keys with queue := change m.keys.queue } }

/-- Neither a key repeats nor a pointing button or mouse key is in use. -/
def modifiersMayChange (m : PostEventToVirtualDevices) : Bool :=
  !m.keys.queue.keyboardRepeatDetector.isRepeating &&
    HidReportLibrary.emptyButtons m.pressedButtons && !m.mouseKeyHandler.active

/-- `post_pointing_input_report`. -/
def postPointingInputReport (m : PostEventToVirtualDevices) (front : Entry) (output : EventQueue) :
    PostEventToVirtualDevices :=
  let buttons := output.pointingButtonManager.makeHidReportButtons
  let report : PointingInput := match front.event with
    | .pointingMotion motion =>
        ⟨buttons, motion.x, motion.y, motion.verticalWheel, motion.horizontalWheel⟩
    | _ => ⟨buttons, 0, 0, 0, 0⟩
  { m.mapQueue (·.emplaceBackPointingInput report front.eventType front.eventTimeStamp.timeStamp)
    with pressedButtons := buttons }

/-- The key_down or key_up of a key that is neither a modifier nor a pointing
button. -/
def postKey (m : PostEventToVirtualDevices) (front : Entry) (event : MomentarySwitchEvent)
    (output : EventQueue) : PostEventToVirtualDevices :=
  match front.eventType with
  | .keyDown =>
      { m with
        keys := m.keys.dispatchKeyDownEvent front.deviceId event.usagePair
          (m.makeTimeStampWithSleepShortcutDelayIfNeeded event output
            front.eventTimeStamp.timeStamp) }
  | .keyUp =>
      { m with
        keys := m.keys.dispatchKeyUpEvent event.usagePair front.eventTimeStamp.timeStamp }
  | .single => m

/-- A command is queued at its key_down. -/
def postCommand (m : PostEventToVirtualDevices) (front : Entry) (value : PostedValue) :
    PostEventToVirtualDevices :=
  if front.eventType = .keyDown then
    m.mapQueue (·.pushBackCommand value front.eventTimeStamp.timeStamp)
  else m

/-- The switch of `manipulate` on the event, after the entry has been pushed to the
output queue. -/
def postEvent (m : PostEventToVirtualDevices) (front : Entry) (output : EventQueue) :
    PostEventToVirtualDevices :=
  match front.event with
  | .momentarySwitchEvent event =>
      if event.valid then
        if event.pointingButton then m.postPointingInputReport front output
        else if event.modifierFlag then m
        else m.postKey front event output
      else m
  | .pointingMotion _ => m.postPointingInputReport front output
  | .shellCommand command => m.postCommand front (.shellCommand command)
  | .sendUserCommand json => m.postCommand front (.sendUserCommand json)
  | .selectInputSource specifiers => m.postCommand front (.selectInputSource specifiers)
  | .softwareFunction json => m.postCommand front (.softwareFunction json)
  | .mouseKey key =>
      match front.eventType with
      | .keyDown =>
          { m with mouseKeyHandler := m.mouseKeyHandler.pushBackMouseKey front.deviceId key }
      | .keyUp =>
          { m with mouseKeyHandler := m.mouseKeyHandler.eraseMouseKey front.deviceId key }
      | .single => m
  | .stopKeyboardRepeat =>
      match m.keys.queue.keyboardRepeatDetector.repeatingKey with
      | some event =>
          { m with
            keys := m.keys.dispatchKeyUpEvent event.usagePair front.eventTimeStamp.timeStamp }
      | none => m
  | .systemPreferencesPropertiesChanged properties =>
      { m with
        mouseKeyHandler :=
          { m.mouseKeyHandler with
            scrollDirectionIsNatural := properties.scrollDirectionIsNatural } }
  | _ => m

/-- The caps lock LED sets the state of the dispatcher while no sticky caps lock is
active. -/
def synchronizeCapsLock (m : PostEventToVirtualDevices) (front : Entry) (output : EventQueue) :
    PostEventToVirtualDevices :=
  match front.event with
  | .capsLockStateChanged state =>
      if output.modifierFlagManager.stickySize .capsLock = 0 then
        if state ≠ 0 then { m with keys := m.keys.insertPressedModifierFlag .capsLock }
        else { m with keys := m.keys.erasePressedModifierFlag .capsLock }
      else m
  | _ => m

/-- Whether the front entry is a modifier key event. -/
def modifierKeyEvent (front : Entry) : Bool :=
  match front.event with
  | .momentarySwitchEvent event => event.modifierFlag
  | _ => false

/-- Whether the modifiers are dispatched before the entry is pushed. -/
def dispatchesBefore (m : PostEventToVirtualDevices) (front : Entry) : Bool :=
  !modifierKeyEvent front &&
    (front.eventType == .keyDown ||
      (match front.event with
        | .pointingMotion _ => m.modifiersMayChange
        | _ => false))

/-- Whether the modifiers are dispatched after the entry is pushed. -/
def dispatchesAfter (front : Entry) : Bool := modifierKeyEvent front && !front.lazy

variable [ExpressionLibrary]

/-- `post_event_to_virtual_devices::manipulate`. -/
def manipulate (m : PostEventToVirtualDevices) (front : Entry) (output : EventQueue) :
    PostEventToVirtualDevices × Entry × EventQueue :=
  if front.validity = .invalid then (m, front, output)
  else
    let timeStamp := front.eventTimeStamp.timeStamp
    let synchronized := m.synchronizeCapsLock front output
    let before := if synchronized.dispatchesBefore front then
        synchronized.dispatchModifierKeyEvent output.modifierFlagManager timeStamp
      else synchronized
    let pushed := output.pushBackEntry front
    let posted := before.postEvent { front with validity := .invalid } pushed
    let after := if dispatchesAfter front then
        posted.dispatchModifierKeyEvent pushed.modifierFlagManager timeStamp
      else posted
    (after, { front with validity := .invalid }, pushed)

/-- Report the buttons of the output queue if they are not those last reported. -/
def reportButtons (m : PostEventToVirtualDevices) (output : EventQueue) (timeStamp : Int) :
    PostEventToVirtualDevices :=
  let buttons := output.pointingButtonManager.makeHidReportButtons
  if HidReportLibrary.sameButtons m.pressedButtons buttons then m
  else
    { m.mapQueue (·.emplaceBackPointingInput ⟨buttons, 0, 0, 0, 0⟩ .keyUp timeStamp) with
      pressedButtons := buttons }

def handleDeviceKeysAndPointingButtonsAreReleasedEvent (m : PostEventToVirtualDevices)
    (front : Entry) (output : EventQueue) : PostEventToVirtualDevices × EventQueue :=
  let timeStamp := front.eventTimeStamp.timeStamp
  let dispatched := m.dispatchModifierKeyEvent output.modifierFlagManager timeStamp
  -- The sticky caps lock has just been sent as a toggle.
  let erased :=
    { output with
      modifierFlagManager := output.modifierFlagManager.eraseCapsLockStickyModifierFlags }
  let reported := dispatched.reportButtons erased timeStamp
  ({ reported with
      mouseKeyHandler := reported.mouseKeyHandler.eraseMouseKeysByDeviceId front.deviceId },
    erased)

def handleDeviceUngrabbedEvent (m : PostEventToVirtualDevices) (deviceId : DeviceId)
    (output : EventQueue) (timeStamp : Int) : PostEventToVirtualDevices :=
  -- Release pressed keys, buttons, modifiers and mouse keys.
  let released := { m with keys := m.keys.dispatchKeyUpEventsByDeviceId deviceId timeStamp }
  let reported := released.reportButtons output timeStamp
  let dispatched := reported.dispatchModifierKeyEvent output.modifierFlagManager timeStamp
  { dispatched with
    mouseKeyHandler := dispatched.mouseKeyHandler.eraseMouseKeysByDeviceId deviceId }

def handlePointingDeviceEventFromEventTap (m : PostEventToVirtualDevices) (front : Entry)
    (output : EventQueue) : PostEventToVirtualDevices :=
  match front.eventType with
  | .keyDown | .single =>
      if m.modifiersMayChange then
        m.dispatchModifierKeyEvent output.modifierFlagManager front.eventTimeStamp.timeStamp
      else m
  | .keyUp => m

instance : Manipulator PostEventToVirtualDevices where
  alreadyManipulated := fun _ _ => false
  manipulate := fun m front _ output _ => (.passed, m.manipulate front output)
  active := fun m => !m.keys.queue.events.isEmpty
  getValidity := fun _ => .valid
  setValidity := fun m _ => m
  handleDeviceKeysAndPointingButtonsAreReleasedEvent :=
    handleDeviceKeysAndPointingButtonsAreReleasedEvent
  handleDeviceUngrabbedEvent := handleDeviceUngrabbedEvent
  handlePointingDeviceEventFromEventTap := fun m front output =>
    (m.handlePointingDeviceEventFromEventTap front output, output)

/-! ## Posting -/

/-- Post the queued events whose time stamp has come (`queue::async_post_events`)
to the virtual HID device client, which is gone when `client` is false. The posted
reports are returned in order; the job is run again later for the rest. -/
def postEvents (client : Bool) (now : Int) : List PostedEvent → PostedEventQueue →
    List PostedEvent × PostedEventQueue
  | [], queue => ([], { queue with events := [] })
  | event :: rest, queue =>
      if event.timeStamp > now then ([], { queue with events := event :: rest })
      else
        let handled := if client then queue.handlePostedMomentarySwitchEvent event now else queue
        let (posted, final) := postEvents client now rest handled
        (if client then event :: posted else posted, final)

/-- `async_post_events`. -/
def asyncPostEvents (m : PostEventToVirtualDevices) (client : Bool) (now : Int) :
    List PostedEvent × PostEventToVirtualDevices :=
  let (posted, queue) := postEvents client now m.keys.queue.events m.keys.queue
  (posted, { m with keys := { m.keys with queue := queue } })

/-- `clear_virtual_hid_keyboard_pressed_keys`. -/
def clearVirtualHidKeyboardPressedKeys (m : PostEventToVirtualDevices) :
    PostEventToVirtualDevices :=
  m.mapQueue fun queue =>
    { queue with
      virtualHidKeyboardPressedKeysManager := queue.virtualHidKeyboardPressedKeysManager.clear }

/-- The job of `async_release_virtual_hid_keyboard_pressed_keys`: a key_up for each
of the posted keys, which `make_entries_and_clear` took before in the order of the
hash set, and the dispatcher forgets all keys. There is no job when no key was
posted. -/
def releasePressedKeys (m : PostEventToVirtualDevices) (pressedKeys : List MomentarySwitchEvent)
    (timeStamp : Int) : PostEventToVirtualDevices :=
  if pressedKeys = [] then m
  else
    let released := m.mapQueue fun queue =>
      (pressedKeys.filter fun e => e.valid && !e.pointingButton).foldl
        (fun queue e => queue.emplaceBackKeyEvent e.usagePair .keyUp timeStamp) queue
    { released with keys := released.keys.clear }

/-- The timer of the mouse key handler posts a pointing report with the buttons of
the output queue. -/
def postMouseKeyReport (m : PostEventToVirtualDevices) (output : EventQueue)
    (x y verticalWheel horizontalWheel timeStamp : Int) : PostEventToVirtualDevices :=
  m.mapQueue (·.emplaceBackPointingInput
    ⟨output.pointingButtonManager.makeHidReportButtons, x, y, verticalWheel, horizontalWheel⟩
    .single timeStamp)

end PostEventToVirtualDevices

end Karabiner
