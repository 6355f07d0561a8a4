import Karabiner.Grabber.MergedInput

/-! # What the balance filter accepts

Events of any devices are fed to `unbalanced_momentary_switch_event`, and what it remembers
of a device is erased when the device stops or terminates. For each key the filter lets an
alternating stream through, and exactly that (`BalanceFilter.acceptsAlternating`).
-/

namespace Karabiner

namespace BalanceFilter

/-- What happens to the filter. -/
inductive Action where
  | feed (deviceId : DeviceId) (event : Event) (eventType : EventType)
  /-- The device has stopped or is terminated. -/
  | erase (deviceId : DeviceId)
  /-- Secure event input is enabled. -/
  | clear

/-- The filter lets the event through. -/
def accepts (input : MergedInput) : Action → Bool
  | .feed deviceId event eventType =>
      !(input.unbalancedMomentarySwitchEvent deviceId event eventType).1
  | .erase _ => true
  | .clear => true

def step (input : MergedInput) : Action → MergedInput
  | .feed deviceId event eventType =>
      (input.unbalancedMomentarySwitchEvent deviceId event eventType).2
  | .erase deviceId => input.setPhysicalPressed deviceId []
  | .clear => { input with physicalPressed := fun _ => [] }

/-- A stream without the events that are dropped from it. -/
def accepted : MergedInput → List Action → List Action
  | _, [] => []
  | input, action :: rest =>
      if accepts input action then action :: accepted (step input action) rest
      else accepted (step input action) rest

/-- The action is about the device. -/
def Action.concerns (deviceId : DeviceId) : Action → Bool
  | .feed other _ _ => decide (other = deviceId)
  | .erase other => decide (other = deviceId)
  | .clear => true

/-- The action is about the key of the device. -/
def Action.concernsKey (deviceId : DeviceId) (key : MomentarySwitchEvent) : Action → Bool
  | .feed other event _ =>
      decide (other = deviceId) && decide (event = .momentarySwitchEvent key)
  | .erase other => decide (other = deviceId)
  | .clear => true

/-- Whether the key is down after an event. -/
def downAfter (down : Bool) : EventType → Bool
  | .keyDown => true
  | .keyUp => false
  | .single => down

/-- A key_down has to come while the key is up, and a key_up while it is down. An event that is
neither does not count. -/
def inTurn (down : Bool) : EventType → Bool
  | .keyDown => !down
  | .keyUp => down
  | .single => true

/-- Between the erasures the key_downs and key_ups of the key come in turn, the first one of
them a key_down unless the key is down at the start. -/
def Alternating (deviceId : DeviceId) (key : MomentarySwitchEvent) : Bool → List Action → Prop
  | _, [] => True
  | down, .feed other event eventType :: rest =>
      if other = deviceId ∧ event = .momentarySwitchEvent key then
        inTurn down eventType = true ∧ Alternating deviceId key (downAfter down eventType) rest
      else Alternating deviceId key down rest
  | down, .erase other :: rest =>
      Alternating deviceId key (if other = deviceId then false else down) rest
  | _, .clear :: rest => Alternating deviceId key false rest

/-! ## One action -/

/-- An event is no key_down or key_up of a valid key, or it is dropped because it says what is
known, or what is known changes with it. -/
theorem unbalanced_cases (input : MergedInput) (deviceId : DeviceId) (event : Event)
    (eventType : EventType) :
    (input.unbalancedMomentarySwitchEvent deviceId event eventType = (false, input) ∧
      ∀ key, event = .momentarySwitchEvent key → key.valid = true → eventType = .single) ∨
    ∃ key, event = .momentarySwitchEvent key ∧ key.valid = true ∧
      (input.unbalancedMomentarySwitchEvent deviceId event eventType = (true, input) ∧
          (eventType = .keyDown ∧ key ∈ input.physicalPressed deviceId ∨
            eventType = .keyUp ∧ key ∉ input.physicalPressed deviceId) ∨
        input.unbalancedMomentarySwitchEvent deviceId event eventType =
            (false, input.setPhysicalPressed deviceId
              (key :: input.physicalPressed deviceId)) ∧
          eventType = .keyDown ∧ key ∉ input.physicalPressed deviceId ∨
        input.unbalancedMomentarySwitchEvent deviceId event eventType =
            (false, input.setPhysicalPressed deviceId
              ((input.physicalPressed deviceId).filter fun k => !(k == key))) ∧
          eventType = .keyUp ∧ key ∈ input.physicalPressed deviceId) := by
  unfold MergedInput.unbalancedMomentarySwitchEvent
  cases isKey : event.momentarySwitchEvent? with
  | none =>
      refine .inl ⟨rfl, fun key event _ => ?_⟩
      rw [event] at isKey
      cases isKey
  | some key =>
      obtain rfl := Event.momentarySwitchEvent?_eq_some.mp isKey
      dsimp only
      cases valid : key.valid with
      | false =>
          refine .inl ⟨rfl, fun other same otherValid => ?_⟩
          obtain rfl : key = other := by injection same
          rw [valid] at otherValid
          cases otherValid
      | true =>
          cases eventType with
          | single => exact .inl ⟨rfl, fun _ _ _ => rfl⟩
          | keyDown =>
              refine .inr ⟨key, rfl, valid, ?_⟩
              by_cases held : key ∈ input.physicalPressed deviceId
              · exact .inl ⟨by simp [held], .inl ⟨rfl, held⟩⟩
              · exact .inr (.inl ⟨by simp [held], rfl, held⟩)
          | keyUp =>
              refine .inr ⟨key, rfl, valid, ?_⟩
              by_cases held : key ∈ input.physicalPressed deviceId
              · exact .inr (.inr ⟨by simp [held], rfl, held⟩)
              · exact .inl ⟨by simp [held], .inr ⟨rfl, held⟩⟩

/-- An event that the filter does not accept changes nothing. -/
theorem step_of_dropped {input : MergedInput} {action : Action}
    (dropped : accepts input action = false) : step input action = input := by
  cases action with
  | erase => cases dropped
  | clear => cases dropped
  | feed deviceId event eventType =>
      change (!(input.unbalancedMomentarySwitchEvent deviceId event eventType).1) = false
        at dropped
      change (input.unbalancedMomentarySwitchEvent deviceId event eventType).2 = input
      rcases unbalanced_cases input deviceId event eventType with
        ⟨same, _⟩ | ⟨_, _, _, ⟨same, _⟩ | ⟨changed, _⟩ | ⟨changed, _⟩⟩
      · rw [same]
      · rw [same]
      · rw [changed] at dropped
        cases dropped
      · rw [changed] at dropped
        cases dropped

/-- What the filter remembers of a device decides alone about its events. -/
theorem step_congr {first second : MergedInput} {deviceId : DeviceId}
    (same : first.physicalPressed deviceId = second.physicalPressed deviceId) {action : Action}
    (own : action.concerns deviceId = true) :
    accepts first action = accepts second action ∧
      (step first action).physicalPressed deviceId =
        (step second action).physicalPressed deviceId := by
  cases action with
  | clear => exact ⟨rfl, rfl⟩
  | erase other =>
      obtain rfl : other = deviceId := of_decide_eq_true own
      exact ⟨rfl, by simp [step, MergedInput.setPhysicalPressed]⟩
  | feed other event eventType =>
      obtain rfl : other = deviceId := of_decide_eq_true own
      simp only [accepts, step, MergedInput.unbalancedMomentarySwitchEvent, same]
      cases event.momentarySwitchEvent? with
      | none => exact ⟨rfl, same⟩
      | some key =>
          dsimp only
          split
          · exact ⟨rfl, same⟩
          · cases eventType with
            | single => exact ⟨rfl, same⟩
            | keyDown =>
                dsimp only
                split
                · exact ⟨rfl, same⟩
                · exact ⟨rfl, by simp [MergedInput.setPhysicalPressed]⟩
            | keyUp =>
                dsimp only
                split
                · exact ⟨rfl, same⟩
                · exact ⟨rfl, by simp [MergedInput.setPhysicalPressed]⟩

/-- An action of another device changes nothing for the device. -/
theorem step_of_other {input : MergedInput} {deviceId : DeviceId} {action : Action}
    (other : action.concerns deviceId = false) :
    (step input action).physicalPressed deviceId = input.physicalPressed deviceId := by
  cases action with
  | clear => cases other
  | erase device => exact if_neg (Ne.symm (of_decide_eq_false other))
  | feed device event eventType =>
      have different : deviceId ≠ device := Ne.symm (of_decide_eq_false other)
      change (input.unbalancedMomentarySwitchEvent device event eventType).2.physicalPressed
        deviceId = _
      rcases unbalanced_cases input device event eventType with
        ⟨same, _⟩ | ⟨_, _, _, ⟨same, _⟩ | ⟨changed, _⟩ | ⟨changed, _⟩⟩
      · rw [same]
      · rw [same]
      · rw [changed]
        exact if_neg different
      · rw [changed]
        exact if_neg different

/-! ## One key -/

section Key

variable {deviceId : DeviceId} {key : MomentarySwitchEvent}

/-- What the filter knows of the key. -/
def isDown (input : MergedInput) (deviceId : DeviceId) (key : MomentarySwitchEvent) : Bool :=
  decide (key ∈ input.physicalPressed deviceId)

/-- An action that is not about the key keeps what is known of it. -/
theorem isDown_of_other (input : MergedInput) {action : Action}
    (other : action.concernsKey deviceId key = false) :
    isDown (step input action) deviceId key = isDown input deviceId key := by
  unfold isDown
  rw [decide_eq_decide]
  by_cases own : action.concerns deviceId = true
  swap
  · rw [step_of_other (Bool.eq_false_iff.mpr own)]
  · cases action with
    | clear => cases other
    | erase => exact absurd own (Bool.eq_false_iff.mp other)
    | feed device event eventType =>
        obtain rfl : device = deviceId := of_decide_eq_true own
        have isOther : event ≠ .momentarySwitchEvent key := by
          simpa [Action.concernsKey] using other
        change key ∈ (input.unbalancedMomentarySwitchEvent device event
          eventType).2.physicalPressed device ↔ _
        rcases unbalanced_cases input device event eventType with
          ⟨same, _⟩ | ⟨pressed, isKey, _, ⟨same, _⟩ | ⟨changed, _⟩ | ⟨changed, _⟩⟩
        · rw [same]
        · rw [same]
        · have different : key ≠ pressed := fun equal => isOther (equal ▸ isKey)
          rw [changed]
          simp [MergedInput.setPhysicalPressed, different]
        · have different : key ≠ pressed := fun equal => isOther (equal ▸ isKey)
          rw [changed]
          simp [MergedInput.setPhysicalPressed, different]

/-- An event of the key is let through exactly when it comes in turn. -/
theorem accepts_feed (input : MergedInput) (valid : key.valid = true) (eventType : EventType) :
    accepts input (.feed deviceId (.momentarySwitchEvent key) eventType) =
        inTurn (isDown input deviceId key) eventType ∧
      isDown (step input (.feed deviceId (.momentarySwitchEvent key) eventType)) deviceId key =
        downAfter (isDown input deviceId key) eventType := by
  change (!(input.unbalancedMomentarySwitchEvent deviceId (.momentarySwitchEvent key)
      eventType).1) = _ ∧
    decide (key ∈ (input.unbalancedMomentarySwitchEvent deviceId (.momentarySwitchEvent key)
      eventType).2.physicalPressed deviceId) = _
  unfold isDown
  rcases unbalanced_cases input deviceId (.momentarySwitchEvent key) eventType with
    ⟨same, quiet⟩ | ⟨pressed, isKey, _, rest⟩
  · obtain rfl := quiet key rfl valid
    rw [same]
    exact ⟨rfl, rfl⟩
  · obtain rfl : key = pressed := by injection isKey
    rcases rest with ⟨same, ⟨rfl, held⟩ | ⟨rfl, released⟩⟩ | ⟨changed, rfl, released⟩ |
      ⟨changed, rfl, held⟩
    · simp [same, held, inTurn, downAfter]
    · simp [same, released, inTurn, downAfter]
    · simp [changed, released, inTurn, downAfter, MergedInput.setPhysicalPressed]
    · simp [changed, held, inTurn, downAfter, MergedInput.setPhysicalPressed]

/-- An erasure of the device forgets the key. -/
theorem isDown_erase (input : MergedInput) (other : DeviceId) :
    isDown (step input (.erase other)) deviceId key =
      if other = deviceId then false else isDown input deviceId key := by
  split
  · rename_i same
    simp [isDown, step, MergedInput.setPhysicalPressed, same]
  · rename_i different
    exact isDown_of_other input (decide_eq_false different)

/-! ## A stream -/

theorem accepted_cons_of_accepts {input : MergedInput} {action : Action}
    (accepts : accepts input action = true) (rest : List Action) :
    accepted input (action :: rest) = action :: accepted (step input action) rest :=
  if_pos accepts

theorem accepted_cons_of_dropped {input : MergedInput} {action : Action}
    (dropped : accepts input action = false) (rest : List Action) :
    accepted input (action :: rest) = accepted input rest := by
  conv_lhs => unfold accepted
  rw [if_neg (Bool.eq_false_iff.mp dropped), step_of_dropped dropped]

theorem alternating_cons_of_own (down : Bool) (eventType : EventType) (rest : List Action) :
    Alternating deviceId key down
        (.feed deviceId (.momentarySwitchEvent key) eventType :: rest) ↔
      inTurn down eventType = true ∧
        Alternating deviceId key (downAfter down eventType) rest := by
  conv_lhs => unfold Alternating
  rw [if_pos ⟨rfl, rfl⟩]

theorem alternating_cons_of_other {action : Action}
    (other : action.concernsKey deviceId key = false) (down : Bool) (rest : List Action) :
    Alternating deviceId key down (action :: rest) ↔ Alternating deviceId key down rest := by
  cases action with
  | clear => cases other
  | erase device =>
      conv_lhs => unfold Alternating
      rw [if_neg (of_decide_eq_false other)]
  | feed device event eventType =>
      conv_lhs => unfold Alternating
      rw [if_neg (by simpa [Action.concernsKey] using other)]

/-- An action is about another key, or it is an event of the key, or it erases the key. -/
theorem action_cases (deviceId : DeviceId) (key : MomentarySwitchEvent) (action : Action) :
    action.concernsKey deviceId key = false ∨
    (∃ eventType, action = .feed deviceId (.momentarySwitchEvent key) eventType) ∨
    action = .erase deviceId ∨ action = .clear := by
  cases action with
  | clear => exact .inr (.inr (.inr rfl))
  | erase other =>
      by_cases own : other = deviceId
      · exact .inr (.inr (.inl (by rw [own])))
      · exact .inl (decide_eq_false own)
  | feed other event eventType =>
      by_cases own : other = deviceId ∧ event = .momentarySwitchEvent key
      · exact .inr (.inl ⟨eventType, by rw [own.1, own.2]⟩)
      · exact .inl (by simpa [Action.concernsKey] using own)

/-- What the filter lets through alternates, and it goes on to alternate with the events that
come in turn for what the filter knows. -/
theorem alternating_accepted_append (valid : key.valid = true) (actions : List Action)
    (input : MergedInput) (more : List Action) :
    Alternating deviceId key (isDown input deviceId key) (accepted input actions ++ more) ↔
      Alternating deviceId key (isDown (actions.foldl step input) deviceId key) more := by
  induction actions generalizing input with
  | nil => exact Iff.rfl
  | cons action rest ih =>
      rw [List.foldl_cons, ← ih]
      cases passes : accepts input action with
      | false => rw [accepted_cons_of_dropped passes, step_of_dropped passes]
      | true =>
          rw [accepted_cons_of_accepts passes, List.cons_append]
          rcases action_cases deviceId key action with other | ⟨eventType, rfl⟩ | rfl | rfl
          · rw [alternating_cons_of_other other, isDown_of_other input other]
          · obtain ⟨same, after⟩ := @accepts_feed deviceId key input valid eventType
            rw [alternating_cons_of_own, after, ← same, passes]
            exact and_iff_right rfl
          · rw [isDown_erase, if_pos rfl]
            conv_lhs => unfold Alternating
            rw [if_pos rfl]
          · exact Iff.rfl

/-- A stream in which the key alternates keeps all its events. -/
theorem accepted_of_alternating (valid : key.valid = true) (actions : List Action)
    (input : MergedInput)
    (alternating : Alternating deviceId key (isDown input deviceId key) actions) :
    (accepted input actions).filter (Action.concernsKey deviceId key) =
      actions.filter (Action.concernsKey deviceId key) := by
  induction actions generalizing input with
  | nil => rfl
  | cons action rest ih =>
      rcases action_cases deviceId key action with other | ⟨eventType, rfl⟩ | rfl | rfl
      · rw [alternating_cons_of_other other, ← isDown_of_other input other] at alternating
        have skipped : ¬action.concernsKey deviceId key = true := Bool.eq_false_iff.mp other
        rw [List.filter_cons_of_neg skipped, ← ih _ alternating]
        cases passes : accepts input action with
        | false => rw [accepted_cons_of_dropped passes, step_of_dropped passes]
        | true => rw [accepted_cons_of_accepts passes, List.filter_cons_of_neg skipped]
      · obtain ⟨same, after⟩ := @accepts_feed deviceId key input valid eventType
        rw [alternating_cons_of_own, ← after] at alternating
        rw [accepted_cons_of_accepts (same.trans alternating.1), List.filter_cons,
          List.filter_cons, ih _ alternating.2]
      · have later : Alternating deviceId key
            (isDown (step input (.erase deviceId)) deviceId key) rest := by
          rw [isDown_erase, if_pos rfl]
          simpa [Alternating] using alternating
        rw [accepted_cons_of_accepts rfl, List.filter_cons, List.filter_cons, ih _ later]
      · rw [accepted_cons_of_accepts rfl, List.filter_cons, List.filter_cons,
          ih (step input .clear) alternating]

end Key

/-- An event is only dropped when its key does not alternate. -/
theorem accepted_eq_self (actions : List Action) (input : MergedInput)
    (alternating : ∀ deviceId key, key.valid = true →
      Alternating deviceId key (isDown input deviceId key) actions) :
    accepted input actions = actions := by
  induction actions generalizing input with
  | nil => rfl
  | cons action rest ih =>
      have later : ∀ deviceId key, key.valid = true →
          Alternating deviceId key (isDown (step input action) deviceId key) rest := by
        intro deviceId key valid
        have before := alternating deviceId key valid
        rcases action_cases deviceId key action with other | ⟨eventType, rfl⟩ | rfl | rfl
        · rwa [alternating_cons_of_other other, ← isDown_of_other input other] at before
        · rw [(accepts_feed input valid eventType).2]
          exact ((alternating_cons_of_own _ _ _).mp before).2
        · rw [isDown_erase, if_pos rfl]
          simpa [Alternating] using before
        · exact before
      cases passes : accepts input action with
      | true => rw [accepted_cons_of_accepts passes, ih _ later]
      | false =>
          cases action with
          | clear => cases passes
          | erase => cases passes
          | feed deviceId event eventType =>
              rcases unbalanced_cases input deviceId event eventType with
                ⟨same, _⟩ | ⟨key, rfl, valid, _⟩
              · change (!(_ : Bool × MergedInput).1) = false at passes
                rw [same] at passes
                cases passes
              · have turn := (alternating_cons_of_own _ _ _).mp (alternating deviceId key valid)
                rw [(accepts_feed input valid eventType).1, turn.1] at passes
                cases passes

/-- The filter drops nothing from what it has let through. -/
theorem accepted_accepted (input : MergedInput) (actions : List Action) :
    accepted input (accepted input actions) = accepted input actions := by
  induction actions generalizing input with
  | nil => rfl
  | cons action rest ih =>
      cases passes : accepts input action with
      | false => rw [accepted_cons_of_dropped passes, ih]
      | true => rw [accepted_cons_of_accepts passes, accepted_cons_of_accepts passes, ih]

/-- What is let through of a device does not depend on the other devices. -/
theorem accepted_concerns {first second : MergedInput} {deviceId : DeviceId}
    (same : first.physicalPressed deviceId = second.physicalPressed deviceId)
    (actions : List Action) :
    (accepted first actions).filter (Action.concerns deviceId) =
      accepted second (actions.filter (Action.concerns deviceId)) := by
  induction actions generalizing first second with
  | nil => rfl
  | cons action rest ih =>
      cases own : action.concerns deviceId with
      | false =>
          have skipped : ¬action.concerns deviceId = true := Bool.eq_false_iff.mp own
          rw [List.filter_cons_of_neg skipped, ← ih ((step_of_other own).trans same)]
          cases passes : accepts first action with
          | false => rw [accepted_cons_of_dropped passes, step_of_dropped passes]
          | true => rw [accepted_cons_of_accepts passes, List.filter_cons_of_neg skipped]
      | true =>
          obtain ⟨decision, after⟩ := step_congr same own
          rw [List.filter_cons_of_pos own]
          cases passes : accepts first action with
          | false =>
              rw [accepted_cons_of_dropped passes, accepted_cons_of_dropped (decision ▸ passes)]
              exact ih same
          | true =>
              rw [accepted_cons_of_accepts passes, accepted_cons_of_accepts (decision ▸ passes),
                List.filter_cons_of_pos own, ih after]

/-! ## The streams of all runs -/

/-- The balance filter accepts exactly an alternating stream. -/
structure AcceptsAlternating (actions : List Action) : Prop where
  /-- What is let through alternates. -/
  alternates : ∀ deviceId key, key.valid = true →
    Alternating deviceId key false (accepted .initial actions)
  /-- An event of a key that would not go on to alternate is dropped, and no other one. -/
  exactly : ∀ deviceId event eventType,
    accepts (actions.foldl step .initial) (.feed deviceId event eventType) = true ↔
      ∀ key, event = .momentarySwitchEvent key → key.valid = true →
        Alternating deviceId key false
          (accepted .initial actions ++ [.feed deviceId event eventType])
  /-- A key that alternates keeps all its events. -/
  keeps : ∀ deviceId key, key.valid = true → Alternating deviceId key false actions →
    (accepted .initial actions).filter (Action.concernsKey deviceId key) =
      actions.filter (Action.concernsKey deviceId key)
  /-- A stream in which all keys alternate is let through as it is. -/
  entirely : (∀ deviceId key, key.valid = true → Alternating deviceId key false actions) →
    accepted .initial actions = actions
  again : accepted .initial (accepted .initial actions) = accepted .initial actions
  independent : ∀ deviceId, (accepted .initial actions).filter (Action.concerns deviceId) =
    accepted .initial (actions.filter (Action.concerns deviceId))

/-- In every run the balance filter accepts exactly the events with which the stream of each key of
each device goes on to alternate, beginning with a key_down. -/
theorem acceptsAlternating (actions : List Action) : AcceptsAlternating actions where
  alternates deviceId key valid := by
    have stream := @alternating_accepted_append deviceId key valid actions .initial []
    rw [List.append_nil] at stream
    exact stream.mpr trivial
  exactly deviceId event eventType := by
    constructor
    · rintro passes key rfl valid
      refine (alternating_accepted_append valid actions .initial _).mpr ?_
      rw [alternating_cons_of_own, ← (accepts_feed _ valid eventType).1]
      exact ⟨passes, trivial⟩
    · intro alternates
      rcases unbalanced_cases (actions.foldl step .initial) deviceId event eventType with
        ⟨same, _⟩ | ⟨key, rfl, valid, _⟩
      · change (!(_ : Bool × MergedInput).1) = true
        rw [same]
        rfl
      · have turn := (alternating_accepted_append valid actions .initial _).mp
          (alternates key rfl valid)
        rw [(accepts_feed _ valid eventType).1]
        exact ((alternating_cons_of_own _ _ _).mp turn).1
  keeps deviceId key valid := accepted_of_alternating valid actions .initial
  entirely := accepted_eq_self actions .initial
  again := accepted_accepted .initial actions
  independent deviceId := accepted_concerns rfl actions

end BalanceFilter

end Karabiner
