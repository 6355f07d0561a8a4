import Mathlib.Logic.Basic

/-! # Usage pairs, modifier flags and momentary switch events

The values the whole event pipeline is made of: HID usage pages and usages
(`pqrs::hid`), the modifier flags, and the events of keys, consumer keys and
pointing buttons. A usage is an `int32_t` in the source and a device id a
`uint64_t`; neither takes part in arithmetic that could wrap, so both are plain
numbers here.
-/

namespace Karabiner

/-- `krbn::device_id`. Device `0` stands for events that no device sent. -/
abbrev DeviceId := Nat

abbrev UsagePage := Int

abbrev Usage := Int

namespace UsagePage

def undefined : UsagePage := 0x00
def genericDesktop : UsagePage := 0x01
def keyboardOrKeypad : UsagePage := 0x07
def button : UsagePage := 0x09
def consumer : UsagePage := 0x0c
def appleVendorKeyboard : UsagePage := 0xff01
def appleVendorTopCase : UsagePage := 0x00ff
def leds : UsagePage := 0x08

end UsagePage

namespace Usage

def undefined : Usage := 0x00

def keyboardA : Usage := 0x04
def keyboardB : Usage := 0x05
def keyboardReturnOrEnter : Usage := 0x28
def keyboardEscape : Usage := 0x29
def keyboardDeleteOrBackspace : Usage := 0x2a
def keyboardCapsLock : Usage := 0x39
def keyboardHome : Usage := 0x4a
def keyboardPageUp : Usage := 0x4b
def keyboardDeleteForward : Usage := 0x4c
def keyboardEnd : Usage := 0x4d
def keyboardPageDown : Usage := 0x4e
def keyboardRightArrow : Usage := 0x4f
def keyboardLeftArrow : Usage := 0x50
def keyboardDownArrow : Usage := 0x51
def keyboardUpArrow : Usage := 0x52
def keypadEnter : Usage := 0x58
def keyboardPower : Usage := 0x66
def keyboardLeftControl : Usage := 0xe0
def keyboardLeftShift : Usage := 0xe1
def keyboardLeftAlt : Usage := 0xe2
def keyboardLeftGui : Usage := 0xe3
def keyboardRightControl : Usage := 0xe4
def keyboardRightShift : Usage := 0xe5
def keyboardRightAlt : Usage := 0xe6
def keyboardRightGui : Usage := 0xe7

/-- `apple_vendor_top_case::keyboard_fn`. -/
def keyboardFn : Usage := 0x0003

def consumerPower : Usage := 0x30
def consumerEject : Usage := 0xb8

/-- `apple_vendor_keyboard::function`. -/
def function : Usage := 0x0003

/-- `keyboard_or_keypad::reserved`. -/
def keyboardReserved : Usage := 0xffff

def ledCapsLock : Usage := 0x02
def acPan : Usage := 0x0238

/-- The usages of `generic_desktop` that are read by name. -/
def genericDesktopX : Usage := 0x30
def genericDesktopY : Usage := 0x31
def genericDesktopZ : Usage := 0x32
def genericDesktopRz : Usage := 0x35
def genericDesktopWheel : Usage := 0x38
def genericDesktopHatSwitch : Usage := 0x39
def dpadUp : Usage := 0x90
def dpadDown : Usage := 0x91
def dpadRight : Usage := 0x92
def dpadLeft : Usage := 0x93

end Usage

/-- `pqrs::hid::usage_pair`. -/
structure UsagePair where
  usagePage : UsagePage
  usage : Usage
deriving DecidableEq

/-- `krbn::modifier_flag`. -/
inductive ModifierFlag where
  | zero
  | capsLock
  | leftControl
  | leftShift
  | leftOption
  | leftCommand
  | rightControl
  | rightShift
  | rightOption
  | rightCommand
  | fn
  | end_
deriving DecidableEq

/-- `krbn::event_type`. -/
inductive EventType where
  | keyDown
  | keyUp
  | single
deriving DecidableEq

/-- `krbn::validity`. -/
inductive Validity where
  | invalid
  | valid
deriving DecidableEq

/-- `krbn::sticky_modifier_type`. -/
inductive StickyModifierType where
  | on
  | off
  | toggle
deriving DecidableEq

/-- `krbn::momentary_switch_event`: the event of a key, a consumer key or a
pointing button. -/
structure MomentarySwitchEvent where
  usagePair : UsagePair
deriving DecidableEq

namespace MomentarySwitchEvent

/-- The constructor from a usage page and a usage. -/
def make (usagePage : UsagePage) (usage : Usage) : MomentarySwitchEvent :=
  ⟨⟨usagePage, usage⟩⟩

/-- The constructor from a modifier flag; `zero` and `end_` leave the default,
undefined usage pair. -/
def ofModifierFlag : ModifierFlag → MomentarySwitchEvent
  | .zero => make UsagePage.undefined Usage.undefined
  | .capsLock => make UsagePage.keyboardOrKeypad Usage.keyboardCapsLock
  | .leftControl => make UsagePage.keyboardOrKeypad Usage.keyboardLeftControl
  | .leftShift => make UsagePage.keyboardOrKeypad Usage.keyboardLeftShift
  | .leftOption => make UsagePage.keyboardOrKeypad Usage.keyboardLeftAlt
  | .leftCommand => make UsagePage.keyboardOrKeypad Usage.keyboardLeftGui
  | .rightControl => make UsagePage.keyboardOrKeypad Usage.keyboardRightControl
  | .rightShift => make UsagePage.keyboardOrKeypad Usage.keyboardRightShift
  | .rightOption => make UsagePage.keyboardOrKeypad Usage.keyboardRightAlt
  | .rightCommand => make UsagePage.keyboardOrKeypad Usage.keyboardRightGui
  | .fn => make UsagePage.appleVendorTopCase Usage.keyboardFn
  | .end_ => make UsagePage.undefined Usage.undefined

/-- `momentary_switch_event::make_modifier_flag`. Caps lock is not a modifier
flag here. -/
def makeModifierFlag (event : MomentarySwitchEvent) : Option ModifierFlag :=
  let usagePage := event.usagePair.usagePage
  let usage := event.usagePair.usage
  if usagePage = UsagePage.keyboardOrKeypad then
    if usage = Usage.keyboardLeftControl then some .leftControl
    else if usage = Usage.keyboardLeftShift then some .leftShift
    else if usage = Usage.keyboardLeftAlt then some .leftOption
    else if usage = Usage.keyboardLeftGui then some .leftCommand
    else if usage = Usage.keyboardRightControl then some .rightControl
    else if usage = Usage.keyboardRightShift then some .rightShift
    else if usage = Usage.keyboardRightAlt then some .rightOption
    else if usage = Usage.keyboardRightGui then some .rightCommand
    else none
  else if usagePage = UsagePage.appleVendorKeyboard then
    if usage = Usage.function then some .fn else none
  else if usagePage = UsagePage.appleVendorTopCase then
    if usage = Usage.keyboardFn then some .fn else none
  else none

/-- The usages of the name tables, in the order of the tables. -/
def consumerKeyCodes : List Usage :=
  [0xcf, 0x04, 0x30, 0x40, 0x41, 0x42, 0x43, 0x44, 0x45, 0x46, 0x47, 0x48, 0x60, 0x61, 0x62, 0x63,
    0x64, 0x65, 0x66, 0x67, 0x68, 0x69, 0x6a, 0x6b, 0x6c, 0x6d, 0x6e, 0x6f, 0x70, 0x80, 0xb3, 0xb4,
    0xb5, 0xb6, 0xb7, 0xb8, 0xcd, 0xcf, 0xe2, 0xe5, 0xe7, 0xe9, 0xea, 0x152, 0x153, 0x183, 0x184,
    0x185, 0x186, 0x187, 0x188, 0x189, 0x18a, 0x18b, 0x18c, 0x18d, 0x18e, 0x18f, 0x190, 0x191,
    0x192, 0x193, 0x194, 0x195, 0x196, 0x197, 0x198, 0x199, 0x19a, 0x19b, 0x19c, 0x19d, 0x19e,
    0x19f, 0x1a0, 0x1a1, 0x1a2, 0x1a3, 0x1a4, 0x1a5, 0x1a6, 0x1a7, 0x1a8, 0x1a9, 0x1aa, 0x1ab,
    0x1ac, 0x1ad, 0x1ae, 0x1af, 0x1b0, 0x1b1, 0x1b2, 0x1b3, 0x1b4, 0x1b5, 0x1b6, 0x1b7, 0x1b8,
    0x1b9, 0x1ba, 0x1bc, 0x1bd, 0x1be, 0x1bf, 0x1c0, 0x1c1, 0x1c2, 0x1c3, 0x1c4, 0x1c5, 0x1c6,
    0x1c7, 0x1c8, 0x1c9, 0x1ca, 0x1cb, 0x221, 0x223, 0x224, 0x225, 0x227, 0x22a, 0x22d, 0x22e,
    0x29d, 0x29f, 0x2a0, 0x2a2, 0xb3]

def appleVendorKeyboardKeyCodes : List Usage :=
  [0x10, 0x01, 0x02, 0x03, 0x04, 0x10, 0x11, 0x20, 0x21, 0x30]

def appleVendorTopCaseKeyCodes : List Usage := [0x03, 0x04, 0x05, 0x06, 0x07, 0x08, 0x09]

def genericDesktopKeyCodes : List Usage := [0x82, 0x86, 0x90, 0x91, 0x92, 0x93, 0x9b]

/-- `momentary_switch_event::target`: whether a usage is one of a key, a consumer key
or a pointing button. -/
def target (usagePage : UsagePage) (usage : Usage) : Bool :=
  if usagePage = UsagePage.keyboardOrKeypad then
    decide (Usage.keyboardA ≤ usage) && decide (usage < Usage.keyboardReserved)
  else if usagePage = UsagePage.consumer then decide (usage ∈ consumerKeyCodes)
  else if usagePage = UsagePage.appleVendorKeyboard then
    decide (usage ∈ appleVendorKeyboardKeyCodes)
  else if usagePage = UsagePage.appleVendorTopCase then
    decide (usage ∈ appleVendorTopCaseKeyCodes)
  else if usagePage = UsagePage.button then true
  else if usagePage = UsagePage.genericDesktop then decide (usage ∈ genericDesktopKeyCodes)
  else false

def valid (event : MomentarySwitchEvent) : Bool :=
  event.usagePair.usagePage != UsagePage.undefined && event.usagePair.usage != Usage.undefined

def modifierFlag (event : MomentarySwitchEvent) : Bool :=
  event.makeModifierFlag.isSome

def capsLock (event : MomentarySwitchEvent) : Bool :=
  event.usagePair.usagePage == UsagePage.keyboardOrKeypad &&
    event.usagePair.usage == Usage.keyboardCapsLock

def pointingButton (event : MomentarySwitchEvent) : Bool :=
  event.usagePair.usagePage == UsagePage.button

/-- The key a modifier flag stands for carries that flag, except for caps lock
and the two sentinels. -/
theorem makeModifierFlag_ofModifierFlag (flag : ModifierFlag) (proper : flag ≠ .capsLock)
    (notZero : flag ≠ .zero) (notEnd : flag ≠ .end_) :
    (ofModifierFlag flag).makeModifierFlag = some flag := by
  cases flag <;> first | rfl | contradiction

theorem valid_ofModifierFlag (flag : ModifierFlag) (notZero : flag ≠ .zero)
    (notEnd : flag ≠ .end_) : (ofModifierFlag flag).valid = true := by
  cases flag <;> first | rfl | contradiction

end MomentarySwitchEvent

end Karabiner
