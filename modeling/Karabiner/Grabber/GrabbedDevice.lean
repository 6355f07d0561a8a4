import Karabiner.Foundation.Execution
import Karabiner.Grabber.HidValues
import Karabiner.Grabber.MergedInput

/-! # A device and its grabber

The values of a connected device pass the filter of its entry, become entries, and
reach the merged input queue while the device is seized and not disabled. The
release of a key that is down is answered by a key_up exactly when it passes both
(`Grabber.releasesAnswered_iff`); a device that is disabled while a key is down, or
whose vendor events are ignored from then on, keeps the key down.
-/

namespace Karabiner

/-- What the core configuration says about a device, and the global settings its
grabber reads. -/
structure DeviceConfiguration where
  ignoreVendorEvents : Bool
  treatAsBuiltInKeyboard : Bool
  makeEntriesParameters : MakeEntriesParameters
  filterUselessEventsFromSpecificDevices : Bool
  reorderSameTimestampInputEventsToPrioritizeModifiers : Bool

/-- `device_grabber_details::entry`. -/
structure GrabbedDevice where
  deviceId : DeviceId
  properties : DeviceProperties
  configuration : DeviceConfiguration
  pressedKeysManager : PressedKeysManager
  /-- `hat_switch_converter::last_directions_` of the device. -/
  hat : HatDirection
  disabled : Bool
  /-- `hid_device_events_monitor::seized`. -/
  seized : Bool

namespace GrabbedDevice

/-- Whether the vendor events of the device are ignored. -/
def vendorEvent (usagePage : UsagePage) : Bool :=
  usagePage == UsagePage.appleVendorTopCase ||
    (decide (0xff00 ≤ usagePage) && decide (usagePage ≤ 0xffff))

/-- `is_nintendo_pro_controller_0x057e_0x2009`, connected by USB. -/
def nintendoProController (device : GrabbedDevice) : Bool :=
  device.properties.vendorId == 0x057e && device.properties.productId == 0x2009 &&
    device.properties.transport == "USB"

/-- The values that the `values_arrived` handler erases. -/
def filtered (device : GrabbedDevice) (value : HidValue) : Bool :=
  (device.configuration.ignoreVendorEvents && !device.properties.isApple &&
    (match value.usagePage with
      | some usagePage => vendorEvent usagePage
      | none => false)) ||
  (device.configuration.filterUselessEventsFromSpecificDevices && device.nintendoProController &&
    (value.usagePage == some UsagePage.button ||
      value.conformsTo UsagePage.genericDesktop Usage.genericDesktopX ||
      value.conformsTo UsagePage.genericDesktop Usage.genericDesktopY ||
      value.conformsTo UsagePage.genericDesktop Usage.genericDesktopZ ||
      value.conformsTo UsagePage.genericDesktop Usage.genericDesktopRz))

/-- `set_disabled`. -/
def setDisabled (device : GrabbedDevice) (value : Bool) : GrabbedDevice :=
  if device.properties.isVirtualDevice then device else { device with disabled := value }

/-- `determine_is_built_in_keyboard`. -/
def determineIsBuiltInKeyboard (device : GrabbedDevice) : Bool :=
  device.properties.isBuiltInKeyboard || device.configuration.treatAsBuiltInKeyboard

/-- The entries that the `values_arrived` handler makes. -/
def arrivedEntries (device : GrabbedDevice) (values : List HidValue) :
    List Entry × GrabbedDevice :=
  let kept := values.filter fun value => !device.filtered value
  let (made, hat) := MakeEntries.makeEntries device.deviceId device.properties.isGamePad
    device.configuration.makeEntriesParameters device.hat kept
  let (entries, manager) := insertReleasedEvents device.deviceId made device.pressedKeysManager
  (entries, { device with hat := hat, pressedKeysManager := manager })

end GrabbedDevice

/-- `device_grabber` with one device, which is gone once it has been terminated. -/
structure Grabber where
  device : GrabbedDevice
  connected : Bool
  input : MergedInput
  lastCapsLockState : Option Bool

namespace Grabber

variable [ExpressionLibrary]

/-- What `hid_values_arrived` does with an entry of the virtual keyboard. -/
def arriveVirtual (now : Int) (grabber : Grabber) (entry : Entry) : Grabber :=
  match entry.event with
  | .capsLockStateChanged state =>
      { grabber with
        input := grabber.input.postCapsLockStateChangedEvent (decide (state ≠ 0)) now
        lastCapsLockState := some (decide (state ≠ 0)) }
  | _ => grabber

/-- What `hid_values_arrived` does with an entry of another device. -/
def arriveEntry (device : GrabbedDevice) (input : MergedInput) (entry : Entry) : MergedInput :=
  if !device.disabled && device.seized then input.pushBalanced entry else input

/-- `device_grabber::hid_values_arrived`. -/
def hidValuesArrived (grabber : Grabber) (entries : List Entry) (now : Int) : Grabber :=
  if grabber.device.properties.isVirtualDevice then entries.foldl (arriveVirtual now) grabber
  else
    let arrived := entries.foldl (arriveEntry grabber.device) grabber.input
    { grabber with
      input :=
        if grabber.device.configuration.reorderSameTimestampInputEventsToPrioritizeModifiers then
          arrived.sortEvents
        else arrived }

/-- The `values_arrived` handler of the entry. -/
def valuesArrived (grabber : Grabber) (values : List HidValue) (now : Int) : Grabber :=
  if grabber.connected then
    let (entries, device) := grabber.device.arrivedEntries values
    { grabber with device := device }.hidValuesArrived entries now
  else grabber

/-- `update_devices_disabled`, given whether some device asks to disable the built-in
keyboard. -/
def updateDevicesDisabled (grabber : Grabber) (needToDisableBuiltInKeyboard : Bool) : Grabber :=
  { grabber with
    device := grabber.device.setDisabled
      (grabber.device.determineIsBuiltInKeyboard && needToDisableBuiltInKeyboard) }

/-- What can happen to the grabber of a device: values arrive, the monitor opens or
closes the device and reports it later, the configuration is reloaded, other devices
come and go, and the device is removed. -/
inductive Action where
  | valuesArrived (values : List HidValue) (now : Int)
  | seizedChanged (seized : Bool)
  | started (now : Int)
  | stopped (now : Int)
  | terminated (now : Int)
  | updateDevicesDisabled (needToDisableBuiltInKeyboard : Bool)
  | coreConfigurationUpdated (configuration : DeviceConfiguration)
      (needToDisableBuiltInKeyboard : Bool)

def step (grabber : Grabber) : Action → Grabber
  | .valuesArrived values now => grabber.valuesArrived values now
  | .seizedChanged seized => { grabber with device := { grabber.device with seized := seized } }
  | .started now =>
      if grabber.connected then
        { grabber with
          input := grabber.input.postDeviceGrabbedEvent grabber.device.deviceId
            grabber.device.properties now }
      else grabber
  | .stopped now =>
      if grabber.connected then
        { grabber with input := grabber.input.ungrab grabber.device.deviceId now }
      else grabber
  | .terminated now =>
      { grabber with
        device := { grabber.device with hat := [] }
        connected := false
        input := grabber.input.ungrab grabber.device.deviceId now }
  | .updateDevicesDisabled needToDisable => grabber.updateDevicesDisabled needToDisable
  | .coreConfigurationUpdated configuration needToDisable =>
      { grabber with
        device := { grabber.device with configuration := configuration } }.updateDevicesDisabled
        needToDisable

/-- A device that has just been matched. -/
def initial (deviceId : DeviceId) (properties : DeviceProperties)
    (configuration : DeviceConfiguration) : Grabber where
  device := ⟨deviceId, properties, configuration, ⟨[]⟩, [], false, false⟩
  connected := true
  input := .initial
  lastCapsLockState := none

end Grabber

end Karabiner
