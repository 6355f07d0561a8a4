import Mathlib.Data.List.Basic
import Karabiner.EventQueue.Event

/-! # What is remembered about posted keys

The keys held on the virtual keyboard (`pressed_keys_manager`), the posted
events that the event tap has to ignore when they come back
(`keyboard_suppression`), and the key the system repeats
(`keyboard_repeat_detector`).
-/

namespace Karabiner

/-- `krbn::pressed_keys_manager`: a set of events. The order of the list stands
for the unspecified order of the source's hash set. -/
structure PressedKeysManager where
  entries : List MomentarySwitchEvent
deriving DecidableEq

namespace PressedKeysManager

def insert (manager : PressedKeysManager) (value : MomentarySwitchEvent) : PressedKeysManager :=
  ⟨manager.entries.insert value⟩

def erase (manager : PressedKeysManager) (value : MomentarySwitchEvent) : PressedKeysManager :=
  ⟨manager.entries.filter fun entry => !(entry == value)⟩

def empty (manager : PressedKeysManager) : Bool := manager.entries.isEmpty

def contains (manager : PressedKeysManager) (value : MomentarySwitchEvent) : Bool :=
  decide (value ∈ manager.entries)

def clear (_manager : PressedKeysManager) : PressedKeysManager := ⟨[]⟩

@[simp] theorem mem_insert {manager : PressedKeysManager} {value other : MomentarySwitchEvent} :
    other ∈ (manager.insert value).entries ↔ other = value ∨ other ∈ manager.entries :=
  List.mem_insert_iff

@[simp] theorem mem_erase {manager : PressedKeysManager} {value other : MomentarySwitchEvent} :
    other ∈ (manager.erase value).entries ↔ other ∈ manager.entries ∧ other ≠ value := by
  simp [erase]

end PressedKeysManager

/-- `keyboard_suppression::entry`. -/
structure SuppressionEntry where
  event : MomentarySwitchEvent
  eventType : EventType
  expiresAt : Int
deriving DecidableEq

/-- `krbn::keyboard_suppression`. -/
structure KeyboardSuppression where
  entries : List SuppressionEntry
  ttl : Int
  maxSize : Nat
deriving DecidableEq

namespace KeyboardSuppression

/-- The default arguments of the constructor. -/
def initial : KeyboardSuppression := ⟨[], 50, 1024⟩

/-- `purge_expired_entries_unlocked`: expired entries are dropped from the front. -/
def purgeExpired (suppression : KeyboardSuppression) (now : Int) : KeyboardSuppression :=
  { suppression with
    entries := suppression.entries.dropWhile fun entry => decide (entry.expiresAt ≤ now) }

/-- `keyboard_suppression::enqueue`. -/
def enqueue [MachTimebase] (suppression : KeyboardSuppression) (event : MomentarySwitchEvent)
    (eventType : EventType) (now : Int) : KeyboardSuppression :=
  if !event.valid || event.pointingButton then suppression
  else
    let purged := suppression.purgeExpired now
    let entries := purged.entries ++
      [⟨event, eventType, now + MachTimebase.makeAbsoluteTimeDuration purged.ttl⟩]
    { purged with entries := entries.drop (entries.length - purged.maxSize) }

/-- `keyboard_suppression::consume`: whether an entry matched, and what is left. -/
def consume (suppression : KeyboardSuppression) (event : MomentarySwitchEvent)
    (eventType : EventType) (now : Int) : Bool × KeyboardSuppression :=
  let purged := suppression.purgeExpired now
  let matching := fun entry : SuppressionEntry =>
    entry.event == event && entry.eventType == eventType
  (purged.entries.any matching, { purged with entries := purged.entries.eraseP matching })

end KeyboardSuppression

/-- `krbn::keyboard_repeat_detector`. -/
structure KeyboardRepeatDetector where
  repeatingKey : Option MomentarySwitchEvent
deriving DecidableEq

namespace KeyboardRepeatDetector

/-- `keyboard_repeat_detector::set`. -/
def set (detector : KeyboardRepeatDetector) (event : MomentarySwitchEvent)
    (eventType : EventType) : KeyboardRepeatDetector :=
  if event.valid then
    match eventType with
    | .keyDown => if event.modifierFlag then detector else ⟨some event⟩
    | .keyUp => if detector.repeatingKey = some event then ⟨none⟩ else detector
    | .single => detector
  else detector

def isRepeating (detector : KeyboardRepeatDetector) : Bool := detector.repeatingKey.isSome

end KeyboardRepeatDetector

end Karabiner
