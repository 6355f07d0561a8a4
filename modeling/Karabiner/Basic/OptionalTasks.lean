import Karabiner.Basic.Manipulator

/-! # The optional tasks of a basic manipulator

`to_if_held_down`, `to_delayed_action` and `to_if_other_key_pressed` send further `to` lists for
a record. Each call of theirs starts with a time stamp delay of its own, which does not delay
the queue.
-/

namespace Karabiner

namespace Sending

variable [ExpressionLibrary]

/-- The events that the record keeps are posted, and its modifiers are pressed again. -/
def releaseToEvents (sending : Sending) (front : Entry) : Sending :=
  (sending.postEventsAtKeyUp front).postFromMandatoryModifiersKeyDown front

variable [MachTimebase]

/-- A `to` list is sent with the mandatory modifiers released; they stay released if the list
ends with a modifier. -/
def pressToEvents (sending : Sending) (front : Entry) (toEvents : List ToEventDefinition) :
    Sending :=
  let sent := (sending.postFromMandatoryModifiersKeyUp front).postEventsAtKeyDown front toEvents
  if isLastToEventModifierKeyEvent toEvents then sent
  else sent.postFromMandatoryModifiersKeyDown front

/-- The task of `to_if_held_down`, for the key_down that has set it up. -/
def sendWhenHeldDown (sending : Sending) (front : Entry) (toEvents : List ToEventDefinition) :
    Sending :=
  (sending.releaseToEvents front).pressToEvents front toEvents

/-- `to_delayed_action::post_events`. All mandatory modifiers are released and pressed again. -/
def postDelayedAction (sending : Sending) (front : Entry) (toEvents : List ToEventDefinition) :
    Sending :=
  sending.withKeyDownModifierFlags front fun sending =>
    let released := sending.postLazyModifierKeyEvents front
      sending.current.fromMandatoryModifiers .keyUp
    let posted := released.postExtraToEvents front toEvents
    posted.postLazyModifierKeyEvents front posted.current.fromMandatoryModifiers .keyDown

end Sending

end Karabiner
