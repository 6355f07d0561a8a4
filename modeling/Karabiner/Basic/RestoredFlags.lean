import Karabiner.Basic.SentFlags
import Karabiner.ModifierFlags.Scoped

/-! # What the restorer of the key modifiers leaves

`scoped_from_key_modifier_flags_state_restorer` finds the flags to push with scoped modifier
flags and then posts them as events, which makes caps lock a sticky modifier, and sticky
modifiers are erased by every key in between. So it is neutral but for caps lock
(`Sending.neutral_iff`).
-/

namespace Karabiner

open ModifierFlagManager

/-- Nothing is added, and only sticky flags are removed. -/
structure Neutral (before after : ModifierFlagManager) : Prop where
  noneAdded : ∀ flag,
    after.activeModifierFlags.count flag ≤ before.activeModifierFlags.count flag
  onlySticky : ∀ flag : ActiveModifierFlag, flag.sticky = false →
    after.activeModifierFlags.count flag = before.activeModifierFlags.count flag

namespace ToEventDefinition

/-- The `to` event is a key, or the key of the `from`. -/
def IsKey (definition : ToEventDefinition) : Prop :=
  (∃ event, definition.eventDefinition = .momentarySwitchEvent event) ∨
    definition.eventDefinition = .fromEvent

/-- The key is not a modifier, so its key_down erases the sticky modifiers. -/
def erasesSticky (definition : ToEventDefinition) : Bool :=
  match definition.eventDefinition with
  | .momentarySwitchEvent event => !event.modifierFlag
  | _ => false

/-- How often caps lock is pressed as a modifier of the `to` event. -/
def capsLockModifiers (definition : ToEventDefinition) : Nat :=
  definition.makeModifierEvents.countP MomentarySwitchEvent.capsLock

end ToEventDefinition

namespace Sending

/-- The keys that are posted by one `post_extra_to_events` after the other. -/
def extraKeys (context : ConditionContext) (current : ManipulatedOriginalEvent)
    (environment : ManipulatorEnvironment) :
    Bool → List (List ToEventDefinition) → List ToEventDefinition
  | _, [] => []
  | halted, toEvents :: rest =>
      let keys := if halted then []
        else (filterAndReplaceEvents context current toEvents environment).1
      keys ++ extraKeys context current environment
        (halted || keys.any ToEventDefinition.halt) rest

/-- The restorer around calls of `post_extra_to_events`. -/
def restoredAround [ExpressionLibrary] [MachTimebase] (sending : Sending) (front : Entry)
    (lists : List (List ToEventDefinition)) : Sending :=
  sending.withKeyDownModifierFlags front fun sending =>
    lists.foldl (fun sending toEvents => sending.postExtraToEvents front toEvents) sending

/-- The caps lock flags of a device that the scoped modifier flags push, with their signs. -/
def scopedCapsLock (manager : ModifierFlagManager) (modifierFlags : List ModifierFlag)
    (deviceId : DeviceId) : Int :=
  ((ScopedModifierFlags.make manager modifierFlags).scopedActiveModifierFlags.map fun flag =>
    if flag.modifierFlag = .capsLock ∧ flag.deviceId = deviceId then flag.getCount else 0).sum

/-- The sticky caps lock that is left once the last key that erases it is released: its own caps
lock modifier is turned off, and what the restorer pushed is taken back. It was there before. -/
def CapsLockSettled (sending : Sending) (front : Entry) (lists : List (List ToEventDefinition)) :
    Prop :=
  let manager := sending.queue.modifierFlagManager
  let keys := extraKeys ⟨front.deviceId, front.state⟩ sending.current
    sending.queue.manipulatorEnvironment sending.current.halted lists
  ∀ key ∈ (keys.filter ToEventDefinition.erasesSticky).getLast?, ∀ deviceId,
    let left : Int := -(if deviceId = front.deviceId then key.capsLockModifiers else 0) -
      scopedCapsLock manager sending.current.keyDownModifierFlags deviceId
    left.toNat ≤ manager.activeModifierFlags.count (.make .increaseSticky .capsLock deviceId) ∧
      (-left).toNat ≤
        manager.activeModifierFlags.count (.make .decreaseSticky .capsLock deviceId)

end Sending

/-! ## The events of a key -/

namespace Sent

variable {kind : CounterKind} {modifierFlag : ModifierFlag} {deviceId : DeviceId}

theorem counted_make {type : ActiveModifierFlagType} (noLed : type.ledLock = false)
    (flag : ModifierFlag) (sender : DeviceId) :
    counted kind modifierFlag deviceId (.make type flag sender) =
      if kind = type.kind ∧ modifierFlag = flag ∧ deviceId = sender then type.getCount else 0 := by
  have own : (ActiveModifierFlag.make type flag sender).deviceId = sender := by
    unfold ActiveModifierFlag.make
    dsimp only
    rw [if_neg (by rw [noLed]; exact Bool.false_ne_true)]
  unfold counted
  rw [own]
  rfl

/-- What the event of a modifier flag adds to a counter. -/
theorem change_modifierSent {flag : ModifierFlag}
    (valid : (MomentarySwitchEvent.ofModifierFlag flag).valid = true) (sender : DeviceId) :
    change kind modifierFlag deviceId (modifierSent sender .keyDown (.ofModifierFlag flag)) =
        (if kind = (if flag = .capsLock then .sticky else .plain) ∧ modifierFlag = flag ∧
          deviceId = sender then 1 else 0) ∧
      change kind modifierFlag deviceId (modifierSent sender .keyUp (.ofModifierFlag flag)) =
        -(if kind = (if flag = .capsLock then .sticky else .plain) ∧ modifierFlag = flag ∧
          deviceId = sender then 1 else 0) := by
  obtain ⟨down, up⟩ := pushedFlags_modifierSent valid sender
  unfold change
  rw [down, up, List.map_singleton, List.map_singleton, List.sum_singleton, List.sum_singleton]
  by_cases capsLock : flag = .capsLock
  · rw [if_pos capsLock, if_pos capsLock, if_pos capsLock, counted_make rfl, counted_make rfl]
    refine ⟨rfl, ?_⟩
    by_cases own : kind = .sticky ∧ modifierFlag = flag ∧ deviceId = sender
    · rw [if_pos own]
      exact if_pos own
    · rw [if_neg own]
      exact if_neg own
  · rw [if_neg capsLock, if_neg capsLock, if_neg capsLock, counted_make rfl, counted_make rfl]
    refine ⟨rfl, ?_⟩
    by_cases own : kind = .plain ∧ modifierFlag = flag ∧ deviceId = sender
    · rw [if_pos own]
      exact if_pos own
    · rw [if_neg own]
      exact if_neg own

/-- A key adds to no sticky counter, and its key_up takes back what its key_down added. -/
theorem change_key (sender : DeviceId) (event : MomentarySwitchEvent) :
    change kind modifierFlag deviceId ⟨sender, .momentarySwitchEvent event, .keyUp⟩ =
        -change kind modifierFlag deviceId ⟨sender, .momentarySwitchEvent event, .keyDown⟩ ∧
      ∀ eventType, change .sticky modifierFlag deviceId
        ⟨sender, .momentarySwitchEvent event, eventType⟩ = 0 := by
  have pushed : ∀ eventType,
      pushedFlags ⟨sender, .momentarySwitchEvent event, eventType⟩ =
        (event.makeModifierFlag.map fun flag => ActiveModifierFlag.make
          (if eventType = .keyDown then .increase else .decrease) flag sender).toList :=
    fun _ => rfl
  unfold change
  rw [pushed, pushed]
  cases isModifier : event.makeModifierFlag with
  | none =>
      refine ⟨rfl, fun eventType => ?_⟩
      rw [pushed, isModifier]
      rfl
  | some flag =>
      have both : ∀ {kind} eventType, ((Option.map (fun flag => ActiveModifierFlag.make
          (if eventType = EventType.keyDown then .increase else .decrease) flag sender)
          (some flag)).toList.map (counted kind modifierFlag deviceId)).sum =
          if kind = .plain ∧ modifierFlag = flag ∧ deviceId = sender then
            (if eventType = .keyDown then 1 else -1) else 0 := by
        intro kind eventType
        rw [Option.map_some, Option.toList_some, List.map_singleton, List.sum_singleton]
        split
        · rw [counted_make rfl]
          rfl
        · rw [counted_make rfl]
          rfl
      refine ⟨?_, fun eventType => ?_⟩
      · rw [both, both]
        split <;> rfl
      · rw [pushed, isModifier, both]
        exact if_neg fun same => nomatch same.1

theorem sum_map_eq_neg {α : Type} {weigh other : α → Int} {elements : List α}
    (odd : ∀ element ∈ elements, weigh element = -other element) :
    (elements.map weigh).sum = -(elements.map other).sum := by
  induction elements with
  | nil => rfl
  | cons element rest ih =>
      obtain ⟨own, others⟩ := List.forall_mem_cons.mp odd
      rw [List.map_cons, List.map_cons, List.sum_cons, List.sum_cons, own, ih others, neg_add]

/-- The modifiers of a `to` event are modifier flags. -/
theorem exists_flag_of_mem_makeModifierEvents {definition : ToEventDefinition}
    {event : MomentarySwitchEvent} (member : event ∈ definition.makeModifierEvents) :
    ∃ flag, event = .ofModifierFlag flag ∧
      (MomentarySwitchEvent.ofModifierFlag flag).valid = true := by
  have valid := Sending.valid_of_mem_makeModifierEvents member
  obtain ⟨modifier, _, made⟩ := List.mem_filterMap.mp member
  cases flags : modifier.getModifierFlags with
  | nil =>
      rw [flags] at made
      cases made
  | cons flag rest =>
      rw [flags] at made
      dsimp only at made
      split at made
      · obtain rfl := Option.some.inj made
        exact ⟨flag, rfl, valid⟩
      · cases made

/-- The modifiers of a `to` event, pressed and released. -/
theorem change_modifiers (definition : ToEventDefinition) (sender : DeviceId) :
    ((definition.makeModifierEvents.map (modifierSent sender .keyUp)).map
        (change kind modifierFlag deviceId)).sum =
      -((definition.makeModifierEvents.map (modifierSent sender .keyDown)).map
        (change kind modifierFlag deviceId)).sum := by
  rw [List.map_map, List.map_map]
  refine sum_map_eq_neg fun event member => ?_
  obtain ⟨flag, rfl, valid⟩ := exists_flag_of_mem_makeModifierEvents member
  obtain ⟨down, up⟩ :=
    @change_modifierSent kind modifierFlag deviceId flag valid sender
  exact up.trans (congrArg Neg.neg down.symm)

/-- Only caps lock adds to a sticky counter. -/
theorem sticky_modifiers (definition : ToEventDefinition) (sender : DeviceId) :
    ((definition.makeModifierEvents.map (modifierSent sender .keyDown)).map
        (change .sticky modifierFlag deviceId)).sum =
      if modifierFlag = .capsLock ∧ deviceId = sender then
        (definition.capsLockModifiers : Int) else 0 := by
  have each : ∀ events : List MomentarySwitchEvent, (∀ event ∈ events, ∃ flag,
      event = .ofModifierFlag flag ∧ (MomentarySwitchEvent.ofModifierFlag flag).valid = true) →
      ((events.map (modifierSent sender .keyDown)).map
        (change .sticky modifierFlag deviceId)).sum =
        if modifierFlag = .capsLock ∧ deviceId = sender then
          (events.countP MomentarySwitchEvent.capsLock : Int) else 0 := by
    intro events
    induction events with
    | nil => exact fun _ => (ite_self 0).symm
    | cons event rest ih =>
        intro flags
        obtain ⟨⟨flag, rfl, valid⟩, others⟩ := List.forall_mem_cons.mp flags
        rw [List.map_cons, List.map_cons, List.sum_cons, ih others,
          (change_modifierSent valid sender).1, List.countP_cons]
        by_cases capsLock : flag = .capsLock
        · subst capsLock
          by_cases own : modifierFlag = .capsLock ∧ deviceId = sender
          · have isCapsLock : (MomentarySwitchEvent.ofModifierFlag .capsLock).capsLock = true := rfl
            rw [if_pos own, if_pos own, if_pos ⟨rfl, own⟩, if_pos isCapsLock]
            push_cast
            omega
          · rw [if_neg own, if_neg own, if_neg fun both => own both.2]
            rfl
        · have notCapsLock : (MomentarySwitchEvent.ofModifierFlag flag).capsLock = false := by
            cases flag with
            | capsLock => exact absurd rfl capsLock
            | _ => rfl
          rw [if_neg capsLock, if_neg (fun both => nomatch both.1), notCapsLock, zero_add]
          rfl
  exact each _ fun event => exists_flag_of_mem_makeModifierEvents

/-- Pressed and released, a key leaves the counters of the pressed keys. -/
theorem change_definition {definition : ToEventDefinition} {event : MomentarySwitchEvent}
    (isKey : definition.eventDefinition = .momentarySwitchEvent event) (sender : DeviceId) :
    ((definition.presses sender ++ definition.releases sender).map
      (change kind modifierFlag deviceId)).sum = 0 := by
  unfold ToEventDefinition.presses ToEventDefinition.releases
  rw [isKey]
  dsimp only [EventDefinition.toEvent]
  rw [List.map_append, List.map_append, List.map_singleton, List.map_cons, List.sum_append,
    List.sum_append, List.sum_singleton, List.sum_cons, change_modifiers,
    (change_key sender event).1]
  omega

theorem quiet_modifiers (definition : ToEventDefinition) (sender : DeviceId)
    (eventType : EventType) :
    ∀ sent ∈ definition.makeModifierEvents.map (modifierSent sender eventType),
      sent.erasesSticky = false := by
  intro sent member
  obtain ⟨event, isModifier, rfl⟩ := List.mem_map.mp member
  obtain ⟨flag, rfl, valid⟩ := exists_flag_of_mem_makeModifierEvents isModifier
  exact erasesSticky_modifierSent valid sender eventType

/-- A key that is not a modifier leaves what its modifiers turn off, and other keys change
nothing. -/
theorem sticky_definition {definition : ToEventDefinition} {event : MomentarySwitchEvent}
    (isKey : definition.eventDefinition = .momentarySwitchEvent event) (sender : DeviceId)
    (counters : ModifierFlagCounters) :
    ((definition.presses sender ++ definition.releases sender).foldl count counters).counter
        .sticky modifierFlag deviceId =
      if definition.erasesSticky then
        -(if modifierFlag = .capsLock ∧ deviceId = sender then
          (definition.capsLockModifiers : Int) else 0)
      else counters.counter .sticky modifierFlag deviceId := by
  have total := @change_definition .sticky modifierFlag deviceId definition event isKey sender
  have erases : definition.erasesSticky = !event.modifierFlag := by
    unfold ToEventDefinition.erasesSticky
    rw [isKey]
  unfold ToEventDefinition.presses ToEventDefinition.releases at total ⊢
  rw [isKey] at total ⊢
  dsimp only [EventDefinition.toEvent] at total ⊢
  have notUp : erasesSticky ⟨sender, .momentarySwitchEvent event, .keyUp⟩ = false := rfl
  have down : erasesSticky ⟨sender, .momentarySwitchEvent event, .keyDown⟩ =
      !event.modifierFlag := rfl
  cases isModifier : event.modifierFlag with
  | true =>
      rw [erases, isModifier, if_neg (by simp), sticky_foldl ?_, total, add_zero]
      intro sent member
      rcases List.mem_append.mp member with pressed | released
      · rcases List.mem_append.mp pressed with modifier | key
        · exact quiet_modifiers definition sender .keyDown sent modifier
        · rw [List.mem_singleton.mp key, down, isModifier]
          rfl
      · rcases List.mem_cons.mp released with key | modifier
        · rw [key]
          exact notUp
        · exact quiet_modifiers definition sender .keyUp sent modifier
  | false =>
      have quiet : ∀ sent ∈ (⟨sender, .momentarySwitchEvent event, .keyUp⟩ : Sent) ::
          definition.makeModifierEvents.map (modifierSent sender .keyUp),
          sent.erasesSticky = false :=
        List.forall_mem_cons.mpr ⟨notUp, quiet_modifiers definition sender .keyUp⟩
      have erased : CounterKind.sticky = .sticky ∧
          erasesSticky ⟨sender, .momentarySwitchEvent event, .keyDown⟩ = true := by
        rw [down, isModifier]
        exact ⟨rfl, rfl⟩
      rw [erases, isModifier, if_pos (by simp), List.foldl_append, sticky_foldl quiet,
        List.foldl_append, List.foldl_cons, List.foldl_nil, counter_count, if_pos erased, zero_add,
        List.map_cons, List.sum_cons,
        (@change_key .sticky modifierFlag deviceId sender event).2, zero_add, change_modifiers,
        sticky_modifiers]

/-- Of several keys, the last one that is not a modifier decides. -/
theorem sticky_keys {keys : List ToEventDefinition}
    (areKeys : ∀ key ∈ keys, ∃ event, key.eventDefinition = .momentarySwitchEvent event)
    (sender : DeviceId) (counters : ModifierFlagCounters) :
    ((keys.flatMap fun key => key.presses sender ++ key.releases sender).foldl count
        counters).counter .sticky modifierFlag deviceId =
      match (keys.filter ToEventDefinition.erasesSticky).getLast? with
      | some key => -(if modifierFlag = .capsLock ∧ deviceId = sender then
          (key.capsLockModifiers : Int) else 0)
      | none => counters.counter .sticky modifierFlag deviceId := by
  induction keys using List.reverseRecOn with
  | nil => rfl
  | append_singleton earlier key ih =>
      obtain ⟨others, last⟩ := List.forall_mem_append.mp areKeys
      obtain ⟨event, isKey⟩ := last key (List.mem_singleton_self key)
      rw [List.flatMap_append, List.flatMap_singleton, List.foldl_append,
        sticky_definition isKey, List.filter_append]
      cases erases : key.erasesSticky with
      | true =>
          rw [if_pos rfl, List.filter_cons_of_pos erases, List.filter_nil,
            List.getLast?_append_of_ne_nil _ (List.cons_ne_nil _ _)]
          rfl
      | false =>
          rw [if_neg Bool.false_ne_true,
            List.filter_cons_of_neg (by rw [erases]; exact Bool.false_ne_true), List.filter_nil,
            List.append_nil]
          exact ih others

end Sent

/-! ## The events of the restorer -/

namespace Sent

variable {kind : CounterKind} {modifierFlag : ModifierFlag} {deviceId : DeviceId}

/-- What the restorer posts for a flag adds to a counter. -/
def restoredChange (kind : CounterKind) (modifierFlag : ModifierFlag) (deviceId : DeviceId)
    (flag : ActiveModifierFlag) : Int :=
  if (MomentarySwitchEvent.ofModifierFlag flag.modifierFlag).valid = true ∧
      kind = (if flag.modifierFlag = .capsLock then .sticky else .plain) ∧
      modifierFlag = flag.modifierFlag ∧ deviceId = flag.deviceId then
    flag.getCount
  else 0

theorem restoredChange_inverse (flag : ActiveModifierFlag) :
    restoredChange kind modifierFlag deviceId flag.inverse =
      -restoredChange kind modifierFlag deviceId flag := by
  unfold restoredChange
  rw [ActiveModifierFlag.inverse_modifierFlag, ActiveModifierFlag.inverse_deviceId,
    ActiveModifierFlag.getCount_inverse, apply_ite Neg.neg, neg_zero]

/-- Restoring flags changes each counter by the inverse of the flags, as far as they can be sent as
key events. -/
theorem change_activeModifierFlags (flags : List ActiveModifierFlag) :
    ((activeModifierFlagsSent flags).map (change kind modifierFlag deviceId)).sum =
      (flags.map (restoredChange kind modifierFlag deviceId)).sum := by
  unfold activeModifierFlagsSent
  induction flags with
  | nil => rfl
  | cons flag rest ih =>
      rw [List.map_cons, List.sum_cons, ← ih]
      cases valid : (MomentarySwitchEvent.ofModifierFlag flag.modifierFlag).valid with
      | false =>
          rw [List.filter_cons_of_neg (by rw [valid]; exact Bool.false_ne_true)]
          have none : restoredChange kind modifierFlag deviceId flag = 0 := by
            unfold restoredChange
            rw [valid]
            exact if_neg fun both => Bool.false_ne_true both.1
          rw [none, zero_add]
      | true =>
          rw [List.filter_cons_of_pos (by exact valid), List.map_cons, List.map_cons,
            List.sum_cons]
          congr 1
          obtain ⟨down, up⟩ :=
            @change_modifierSent kind modifierFlag deviceId flag.modifierFlag valid flag.deviceId
          unfold restoredChange
          rw [valid]
          rcases flag.type.getCount_cases with more | less
          · have count : flag.getCount = 1 := more
            rw [count, if_pos (by decide), down]
            exact if_congr (and_iff_right rfl).symm rfl rfl
          · have count : flag.getCount = -1 := less
            rw [count, if_neg (by decide), up]
            by_cases own : kind = (if flag.modifierFlag = .capsLock then .sticky else .plain) ∧
                modifierFlag = flag.modifierFlag ∧ deviceId = flag.deviceId
            · rw [if_pos own, if_pos ⟨rfl, own⟩]
            · rw [if_neg own, if_neg fun both => own both.2]
              rfl

theorem quiet_activeModifierFlags (flags : List ActiveModifierFlag) :
    ∀ sent ∈ activeModifierFlagsSent flags, sent.erasesSticky = false := by
  intro sent member
  obtain ⟨flag, isFlag, rfl⟩ := List.mem_map.mp member
  exact erasesSticky_modifierSent (List.mem_filter.mp isFlag).2 flag.deviceId _

theorem direct_activeModifierFlags (flags : List ActiveModifierFlag) :
    ∀ sent ∈ activeModifierFlagsSent flags, sent.Direct := by
  intro sent member
  obtain ⟨flag, -, rfl⟩ := List.mem_map.mp member
  exact direct_modifierSent flag.deviceId _ _

/-- The key of an element and its modifiers are sent as events that change the flags directly. -/
theorem direct_definition {definition : ToEventDefinition} {event : MomentarySwitchEvent}
    (isKey : definition.eventDefinition = .momentarySwitchEvent event) (sender : DeviceId) :
    ∀ sent ∈ definition.presses sender ++ definition.releases sender, sent.Direct := by
  have key : ∀ eventType, Direct ⟨sender, .momentarySwitchEvent event, eventType⟩ :=
    fun _ => ⟨fun _ => nofun, fun _ => nofun⟩
  have modifiers : ∀ eventType, ∀ sent ∈ definition.makeModifierEvents.map
      (modifierSent sender eventType), sent.Direct := by
    intro eventType sent member
    obtain ⟨modifier, -, rfl⟩ := List.mem_map.mp member
    exact direct_modifierSent sender eventType modifier
  unfold ToEventDefinition.presses ToEventDefinition.releases
  rw [isKey]
  refine List.forall_mem_append.mpr ⟨List.forall_mem_append.mpr ⟨modifiers .keyDown, ?_⟩,
    List.forall_mem_cons.mpr ⟨key .keyUp, modifiers .keyUp⟩⟩
  exact List.forall_mem_singleton.mpr (key .keyDown)

/-- The counters after the restorer around some keys, and the sticky ones but for caps lock
erased, if one of the keys erases them. -/
theorem counter_restored {keys : List ToEventDefinition}
    (areKeys : ∀ key ∈ keys, ∃ event, key.eventDefinition = .momentarySwitchEvent event)
    (flags : List ActiveModifierFlag) (sender : DeviceId) (counters : ModifierFlagCounters) :
    ((activeModifierFlagsSent flags ++
        (keys.flatMap fun key => key.presses sender ++ key.releases sender) ++
        activeModifierFlagsSent (flags.map ActiveModifierFlag.inverse)).foldl count
        counters).counter kind modifierFlag deviceId =
      match kind, (keys.filter ToEventDefinition.erasesSticky).getLast? with
      | .sticky, some key => -(if modifierFlag = .capsLock ∧ deviceId = sender then
          (key.capsLockModifiers : Int) else 0) -
          (flags.map (restoredChange .sticky modifierFlag deviceId)).sum
      | _, _ => counters.counter kind modifierFlag deviceId := by
  have inverse : ∀ kind, ((activeModifierFlagsSent (flags.map ActiveModifierFlag.inverse)).map
      (change kind modifierFlag deviceId)).sum =
      -(flags.map (restoredChange kind modifierFlag deviceId)).sum := by
    intro kind
    rw [change_activeModifierFlags, List.map_map]
    exact sum_map_eq_neg fun flag _ => restoredChange_inverse flag
  have inner : ∀ kind, ((keys.flatMap fun key => key.presses sender ++ key.releases sender).map
      (change kind modifierFlag deviceId)).sum = 0 := by
    intro kind
    clear inverse
    induction keys with
    | nil => rfl
    | cons key rest ih =>
        obtain ⟨⟨event, isKey⟩, others⟩ := List.forall_mem_cons.mp areKeys
        rw [List.flatMap_cons, List.map_append, List.sum_append, change_definition isKey,
          ih others, add_zero]
  have added : ∀ kind, kind ≠ .sticky →
      ((activeModifierFlagsSent flags ++
        (keys.flatMap fun key => key.presses sender ++ key.releases sender) ++
        activeModifierFlagsSent (flags.map ActiveModifierFlag.inverse)).foldl count
        counters).counter kind modifierFlag deviceId =
      counters.counter kind modifierFlag deviceId := by
    intro kind notSticky
    rw [counter_foldl _ notSticky, List.map_append, List.map_append, List.sum_append,
      List.sum_append, change_activeModifierFlags, inner, inverse]
    omega
  cases kind with
  | plain => exact added .plain nofun
  | lock => exact added .lock nofun
  | ledLock => exact added .ledLock nofun
  | sticky =>
      rw [List.foldl_append, sticky_foldl (quiet_activeModifierFlags _), inverse,
        List.foldl_append, sticky_keys areKeys]
      cases (keys.filter ToEventDefinition.erasesSticky).getLast? with
      | some key => rfl
      | none =>
          dsimp only
          rw [sticky_foldl (quiet_activeModifierFlags _), change_activeModifierFlags]
          omega

end Sent

namespace Sending

/-! ## Calls of `post_extra_to_events` with keys -/

variable [ExpressionLibrary]

/-- Keys leave the environment, and the record but for being halted. -/
structure Continues (halts : Bool) (before after : Sending) : Prop where
  environment : after.queue.manipulatorEnvironment = before.queue.manipulatorEnvironment
  current : after.current = { before.current with halted := before.current.halted || halts }

omit [ExpressionLibrary] in
theorem Continues.refl (sending : Sending) : Continues false sending sending :=
  ⟨rfl, by rw [Bool.or_false]⟩

omit [ExpressionLibrary] in
theorem Continues.trans {first second : Bool} {before middle after : Sending}
    (one : Continues first before middle) (two : Continues second middle after) :
    Continues (first || second) before after :=
  ⟨two.environment.trans one.environment, by rw [two.current, one.current, Bool.or_assoc]⟩

theorem continues_post (sending : Sending) (front : Entry) {event : EventAtKeyUp}
    (isKey : (∃ key, event.event = .momentarySwitchEvent key) ∨
      ∃ flag type, event.event = .stickyModifier flag type) :
    Continues false sending (sending.post front event) := by
  refine ⟨?_, by rw [Bool.or_false]; rfl⟩
  obtain ⟨deviceId, event, eventType, originalEvent, lazy⟩ := event
  rcases isKey with ⟨key, rfl⟩ | ⟨flag, type, rfl⟩
  · rfl
  · rfl

theorem continues_postLazyModifierKeyEvent (sending : Sending) (front : Entry)
    (event : MomentarySwitchEvent) (eventType : EventType) (sender : DeviceId) (lazy : Bool) :
    Continues false sending
      (sending.postLazyModifierKeyEvent front event eventType sender lazy) := by
  unfold postLazyModifierKeyEvent
  split
  · refine continues_post sending front ?_
    unfold makeLazyModifierKeyEvent
    dsimp only
    split
    · exact .inr ⟨_, _, rfl⟩
    · exact .inl ⟨_, rfl⟩
  · exact Continues.refl sending

theorem continues_foldl (front : Entry) (eventType : EventType) (sender : DeviceId) (lazy : Bool)
    (events : List MomentarySwitchEvent) (sending : Sending) :
    Continues false sending (events.foldl (fun sending event =>
      sending.postLazyModifierKeyEvent front event eventType sender lazy) sending) := by
  induction events generalizing sending with
  | nil => exact Continues.refl sending
  | cons event rest ih =>
      exact (continues_postLazyModifierKeyEvent sending front event eventType sender lazy).trans
        (ih _)

theorem continues_postActiveModifierFlags (front : Entry) (flags : List ActiveModifierFlag)
    (sending : Sending) :
    Continues false sending (sending.postActiveModifierFlags front flags) := by
  unfold postActiveModifierFlags
  induction flags generalizing sending with
  | nil => exact Continues.refl sending
  | cons flag rest ih =>
      exact (continues_postLazyModifierKeyEvent sending front _ _ flag.deviceId true).trans (ih _)

variable [MachTimebase]

/-- An extra key leaves the environment as it is, and the record too, which it halts if it is to. -/
theorem continues_postExtraToEvent (front : Entry) (sending : Sending)
    {definition : ToEventDefinition} {event : MomentarySwitchEvent}
    (isKey : definition.eventDefinition = .momentarySwitchEvent event) :
    Continues definition.halt sending (postExtraToEvent front sending definition) := by
  unfold postExtraToEvent
  rw [isKey]
  dsimp only [EventDefinition.toEvent]
  have pressed : ∀ sending : Sending, Continues definition.halt sending
      (sending.postKeyDown front definition (.momentarySwitchEvent event)) := by
    intro sending
    let down : EventAtKeyUp := ⟨front.deviceId, .momentarySwitchEvent event, .keyDown,
      front.originalEvent, definition.lazy⟩
    have posted : Continues false sending (sending.post front down) :=
      continues_post sending front (.inl ⟨event, rfl⟩)
    unfold postKeyDown
    dsimp only
    cases definition.halt with
    | true =>
        rw [if_pos rfl]
        refine ⟨posted.environment, ?_⟩
        rw [posted.current, Bool.or_true]
    | false =>
        rw [if_neg Bool.false_ne_true]
        exact posted
  have released : ∀ sending : Sending, Continues false sending
      (sending.postKeyUp front definition (.momentarySwitchEvent event)) := by
    intro sending
    let up : EventAtKeyUp := ⟨front.deviceId, .momentarySwitchEvent event, .keyUp,
      front.originalEvent, definition.lazy⟩
    have posted : Continues false (sending.holdDown definition)
        ((sending.holdDown definition).post front up) :=
      continues_post (sending.holdDown definition) front (.inl ⟨event, rfl⟩)
    exact ⟨posted.environment, posted.current⟩
  have all := (((continues_foldl front .keyDown front.deviceId true definition.makeModifierEvents
    sending).trans (pressed _)).trans (released _)).trans
    (continues_foldl front .keyUp front.deviceId true definition.makeModifierEvents _)
  rw [Bool.false_or, Bool.or_false, Bool.or_false] at all
  exact all

/-- A list of extra keys leaves the environment as it is and halts the record exactly if one of the
keys does. -/
theorem continues_extraList (front : Entry) {keys : List ToEventDefinition}
    (areKeys : ∀ key ∈ keys, ∃ event, key.eventDefinition = .momentarySwitchEvent event)
    (sending : Sending) :
    Continues (keys.any ToEventDefinition.halt) sending
      (keys.foldl (postExtraToEvent front) sending) := by
  induction keys generalizing sending with
  | nil => exact Continues.refl sending
  | cons key rest ih =>
      obtain ⟨⟨event, isKey⟩, others⟩ := List.forall_mem_cons.mp areKeys
      exact (continues_postExtraToEvent front sending isKey).trans (ih others _)

omit [ExpressionLibrary] [MachTimebase] in
/-- What is left of a list of keys are keys. -/
theorem keys_of_filterAndReplaceEvents {context : ConditionContext}
    {current : ManipulatedOriginalEvent} {toEvents : List ToEventDefinition}
    (areKeys : ∀ definition ∈ toEvents, definition.IsKey) (environment : ManipulatorEnvironment) :
    ∀ key ∈ (filterAndReplaceEvents context current toEvents environment).1,
      ∃ event, key.eventDefinition = .momentarySwitchEvent event := by
  induction toEvents generalizing environment with
  | nil => exact fun _ none => absurd none List.not_mem_nil
  | cons definition rest ih =>
      obtain ⟨own, others⟩ := List.forall_mem_cons.mp areKeys
      unfold filterAndReplaceEvents
      dsimp only
      split
      · split
        · refine List.forall_mem_append.mpr ⟨fun key member => ?_, ih others _⟩
          obtain ⟨fromEvent, -, made⟩ := List.mem_filterMap.mp member
          obtain ⟨event, -, rfl⟩ := Option.map_eq_some_iff.mp made
          exact ⟨event, rfl⟩
        · rename_i notFrom
          exact List.forall_mem_cons.mpr ⟨own.resolve_right notFrom, ih others _⟩
      · exact ih others _

/-- The keys that are posted are known beforehand. -/
theorem emits_extraLists (front : Entry) {lists : List (List ToEventDefinition)}
    (areKeys : ∀ toEvents ∈ lists, ∀ definition ∈ toEvents, definition.IsKey)
    {current : ManipulatedOriginalEvent} {environment : ManipulatorEnvironment}
    (sending : Sending) (fromEvents : sending.current.fromEvents = current.fromEvents)
    (clock : sending.queue.manipulatorEnvironment.setVariableSystemNowMilliseconds =
      environment.setVariableSystemNowMilliseconds) :
    let keys := extraKeys ⟨front.deviceId, front.state⟩ current environment
      sending.current.halted lists
    (∀ key ∈ keys, ∃ event, key.eventDefinition = .momentarySwitchEvent event) ∧
      ∃ holds, Emits front
        (keys.flatMap fun key => key.presses front.deviceId ++ key.releases front.deviceId)
        holds sending
        (lists.foldl (fun sending toEvents => sending.postExtraToEvents front toEvents)
          sending) := by
  induction lists generalizing sending with
  | nil => exact ⟨fun _ none => absurd none List.not_mem_nil, [], Emits.refl front sending⟩
  | cons toEvents rest ih =>
      obtain ⟨own, others⟩ := List.forall_mem_cons.mp areKeys
      dsimp only
      unfold extraKeys
      rw [List.foldl_cons]
      cases halted : sending.current.halted with
      | true =>
          have skipped : sending.postExtraToEvents front toEvents = sending :=
            sendFiltered_of_halted halted front toEvents _
          rw [skipped, if_pos rfl]
          have later := ih others sending fromEvents clock
          rw [halted] at later
          exact later
      | false =>
          obtain ⟨same, refreshed⟩ := @filterAndReplaceEvents_congr
            ⟨front.deviceId, front.state⟩ sending.current current fromEvents toEvents
            sending.queue.manipulatorEnvironment environment clock
          have keys := @keys_of_filterAndReplaceEvents ⟨front.deviceId, front.state⟩ current
            toEvents own environment
          have call : sending.postExtraToEvents front toEvents =
              (filterAndReplaceEvents ⟨front.deviceId, front.state⟩ current toEvents
                environment).1.foldl (postExtraToEvent front) { sending with
                  queue := { sending.queue with
                    manipulatorEnvironment := (filterAndReplaceEvents
                      ⟨front.deviceId, front.state⟩ sending.current toEvents
                      sending.queue.manipulatorEnvironment).2 } } := by
            unfold postExtraToEvents sendFiltered
            rw [halted, if_neg Bool.false_ne_true, ← same]
          rw [if_neg Bool.false_ne_true]
          dsimp only
          rw [Bool.false_or]
          generalize (filterAndReplaceEvents ⟨front.deviceId, front.state⟩ current toEvents
            environment).1 = chosen at keys call ⊢
          generalize (filterAndReplaceEvents ⟨front.deviceId, front.state⟩ sending.current toEvents
            sending.queue.manipulatorEnvironment).2 = environment' at refreshed call
          have start : Emits front [] [] sending
              { sending with queue := { sending.queue with manipulatorEnvironment := environment' } } :=
            Emits.of_idle rfl rfl rfl rfl
          have emits := start.trans (emits_postExtraToEvents { sending with
            queue := { sending.queue with manipulatorEnvironment := environment' } } front chosen)
          have continues := continues_extraList front keys
            { sending with queue := { sending.queue with manipulatorEnvironment := environment' } }
          rw [← call] at emits continues
          have haltedAfter : (sending.postExtraToEvents front toEvents).current.halted =
              chosen.any ToEventDefinition.halt := by
            rw [continues.current]
            exact (congrArg (· || _) halted).trans (Bool.false_or _)
          obtain ⟨laterKeys, holds, later⟩ := ih others (sending.postExtraToEvents front toEvents)
            (by rw [continues.current]; exact fromEvents)
            (by rw [continues.environment]; exact refreshed.trans clock)
          rw [haltedAfter] at laterKeys later
          have both := emits.trans later
          rw [List.nil_append, ← List.flatMap_append] at both
          exact ⟨List.forall_mem_append.mpr ⟨keys, laterKeys⟩, _, both⟩

/-! ## Neutral but for caps lock -/

omit [ExpressionLibrary] [MachTimebase] in
/-- What the restored flags change of sticky caps lock is read off the flags of the scope. -/
theorem restoredChange_capsLock (manager : ModifierFlagManager)
    (modifierFlags : List ModifierFlag) (deviceId : DeviceId) :
    ((ScopedModifierFlags.make manager modifierFlags).scopedActiveModifierFlags.map
        (Sent.restoredChange .sticky .capsLock deviceId)).sum =
      scopedCapsLock manager modifierFlags deviceId := by
  unfold scopedCapsLock
  congr 1
  refine List.map_congr_left fun flag _ => ?_
  unfold Sent.restoredChange
  refine if_congr ⟨?_, ?_⟩ rfl rfl
  · rintro ⟨_, _, isCapsLock, own⟩
    exact ⟨isCapsLock.symm, own.symm⟩
  · rintro ⟨isCapsLock, own⟩
    rw [isCapsLock]
    exact ⟨rfl, (if_pos rfl).symm, rfl, own.symm⟩

omit [ExpressionLibrary] [MachTimebase] in
/-- Other modifiers are not sticky when they are posted. -/
theorem restoredChange_other {modifierFlag : ModifierFlag} (other : modifierFlag ≠ .capsLock)
    (flags : List ActiveModifierFlag) (deviceId : DeviceId) :
    (flags.map (Sent.restoredChange .sticky modifierFlag deviceId)).sum = 0 := by
  refine List.sum_eq_zero fun change member => ?_
  obtain ⟨flag, -, rfl⟩ := List.mem_map.mp member
  unfold Sent.restoredChange
  refine if_neg ?_
  rintro ⟨_, sticky, same, _⟩
  rw [← same, if_neg other] at sticky
  cases sticky

/-- The flags after the restorer, as counters. -/
theorem represents_restoredAround {sending : Sending} {counters : ModifierFlagCounters}
    (reached : Queued sending.queue.modifierFlagManager counters) (front : Entry)
    {lists : List (List ToEventDefinition)}
    (areKeys : ∀ toEvents ∈ lists, ∀ definition ∈ toEvents, definition.IsKey) :
    ∃ after, Represents (sending.restoredAround front lists).queue.modifierFlagManager after ∧
      ∀ kind modifierFlag deviceId, after.counter kind modifierFlag deviceId =
        match kind, ((extraKeys ⟨front.deviceId, front.state⟩ sending.current
          sending.queue.manipulatorEnvironment sending.current.halted lists).filter
            ToEventDefinition.erasesSticky).getLast? with
        | .sticky, some key => -(if modifierFlag = .capsLock ∧ deviceId = front.deviceId then
            (key.capsLockModifiers : Int) else 0) -
            ((ScopedModifierFlags.make sending.queue.modifierFlagManager
              sending.current.keyDownModifierFlags).scopedActiveModifierFlags.map
              (Sent.restoredChange .sticky modifierFlag deviceId)).sum
        | _, _ => counters.counter kind modifierFlag deviceId := by
  have restored := (ScopedModifierFlags.make_spec reached sending.current.keyDownModifierFlags).2.2
  unfold restoredAround withKeyDownModifierFlags ScopedModifierFlags.getInverseActiveModifierFlags
  dsimp only
  generalize ScopedModifierFlags.make sending.queue.modifierFlagManager
    sending.current.keyDownModifierFlags = scope at restored ⊢
  let start : Sending :=
    { sending with queue := { sending.queue with modifierFlagManager := scope.destroy } }
  have pushed := emits_postActiveModifierFlags start front scope.scopedActiveModifierFlags
  have kept := continues_postActiveModifierFlags front scope.scopedActiveModifierFlags start
  generalize start.postActiveModifierFlags front scope.scopedActiveModifierFlags = inside
    at pushed kept ⊢
  have sameCurrent : inside.current = sending.current := by
    rw [kept.current, Bool.or_false]
  have sameEnvironment : inside.queue.manipulatorEnvironment =
      sending.queue.manipulatorEnvironment := kept.environment
  obtain ⟨keys, holds, body⟩ := emits_extraLists front areKeys inside rfl rfl
  rw [sameCurrent, sameEnvironment] at keys body
  generalize extraKeys ⟨front.deviceId, front.state⟩ sending.current
    sending.queue.manipulatorEnvironment sending.current.halted lists = extra at keys body ⊢
  have taken := emits_postActiveModifierFlags (lists.foldl (fun sending toEvents =>
    sending.postExtraToEvents front toEvents) inside) front
    (scope.scopedActiveModifierFlags.map ActiveModifierFlag.inverse)
  have all := ((pushed.trans body).trans taken).flags
  have direct : ∀ sent ∈ activeModifierFlagsSent scope.scopedActiveModifierFlags ++
      (extra.flatMap fun key => key.presses front.deviceId ++ key.releases front.deviceId) ++
      activeModifierFlagsSent (scope.scopedActiveModifierFlags.map ActiveModifierFlag.inverse),
      sent.Direct := by
    refine List.forall_mem_append.mpr ⟨List.forall_mem_append.mpr
      ⟨Sent.direct_activeModifierFlags _, fun sent member => ?_⟩,
      Sent.direct_activeModifierFlags _⟩
    obtain ⟨key, isKey, own⟩ := List.mem_flatMap.mp member
    obtain ⟨event, isEvent⟩ := keys key isKey
    exact Sent.direct_definition isEvent front.deviceId sent own
  refine ⟨_, ?_, fun kind modifierFlag deviceId => Sent.counter_restored keys
    scope.scopedActiveModifierFlags front.deviceId counters⟩
  rw [all]
  exact Sent.represents_foldl direct (reached.represents.of_perm restored)

omit [ExpressionLibrary] [MachTimebase] in
/-- Lists whose counters are the same but for the sticky ones differ in sticky flags only. -/
theorem neutral_iff_sticky {before after : ModifierFlagManager}
    {counters others : ModifierFlagCounters} (first : Represents before counters)
    (second : Represents after others)
    (same : ∀ kind, kind ≠ .sticky → ∀ modifierFlag deviceId,
      others.counter kind modifierFlag deviceId = counters.counter kind modifierFlag deviceId) :
    Neutral before after ↔ ∀ modifierFlag deviceId,
      (others.counter .sticky modifierFlag deviceId).toNat ≤
          before.activeModifierFlags.count (.make .increaseSticky modifierFlag deviceId) ∧
        (-others.counter .sticky modifierFlag deviceId).toNat ≤
          before.activeModifierFlags.count (.make .decreaseSticky modifierFlag deviceId) := by
  have increased : ∀ modifierFlag deviceId,
      others.value (.make .increaseSticky modifierFlag deviceId) =
        others.counter .sticky modifierFlag deviceId := fun _ _ => one_mul _
  have decreased : ∀ modifierFlag deviceId,
      others.value (.make .decreaseSticky modifierFlag deviceId) =
        -others.counter .sticky modifierFlag deviceId := fun _ _ => neg_one_mul _
  constructor
  · intro neutral modifierFlag deviceId
    rw [← decreased, ← increased, ← second.count_eq, ← second.count_eq]
    exact ⟨neutral.noneAdded _, neutral.noneAdded _⟩
  · intro sticky
    have equal : ∀ flag : ActiveModifierFlag, flag.kind ≠ .sticky →
        after.activeModifierFlags.count flag = before.activeModifierFlags.count flag := by
      intro flag notSticky
      rw [second.count_eq, first.count_eq, ModifierFlagCounters.value,
        ModifierFlagCounters.value, same flag.kind notSticky]
    refine ⟨fun flag => ?_, fun flag notSticky => equal flag fun isSticky => ?_⟩
    · by_cases isSticky : flag.kind = .sticky
      · obtain ⟨more, less⟩ := sticky flag.modifierFlag flag.deviceId
        rw [← increased, ← second.count_eq] at more
        rw [← decreased, ← second.count_eq] at less
        have type : flag.type = .increaseSticky ∨ flag.type = .decreaseSticky :=
          ActiveModifierFlagType.eq_or_eq_inverse_of_kind (isSticky : _ = _)
        rcases type with increase | decrease
        · have own : flag = .make .increaseSticky flag.modifierFlag flag.deviceId :=
            (ActiveModifierFlag.ext_iff' _ _).mpr ⟨increase, rfl, rfl⟩
          rwa [← own] at more
        · have own : flag = .make .decreaseSticky flag.modifierFlag flag.deviceId :=
            (ActiveModifierFlag.ext_iff' _ _).mpr ⟨decrease, rfl, rfl⟩
          rwa [← own] at less
      · exact (equal flag isSticky).le
    · unfold ActiveModifierFlag.sticky at notSticky
      rw [ActiveModifierFlagType.sticky_eq, beq_eq_false_iff_ne] at notSticky
      exact notSticky isSticky

/-- The restorer is neutral exactly when what it leaves of caps lock was there before. -/
theorem neutral_iff (operations : List ModifierFlagOperation)
    (kinds : ∀ flag, .pushBack flag ∈ operations → flag.type ∈ queuedTypes) (sending : Sending)
    (reached : sending.queue.modifierFlagManager =
      operations.foldl ModifierFlagOperation.apply ⟨[]⟩) (front : Entry)
    (lists : List (List ToEventDefinition))
    (areKeys : ∀ toEvents ∈ lists, ∀ definition ∈ toEvents, definition.IsKey) :
    Neutral sending.queue.modifierFlagManager
        (sending.restoredAround front lists).queue.modifierFlagManager ↔
      sending.CapsLockSettled front lists := by
  obtain ⟨counters, queued⟩ := queued_run kinds
  rw [← reached] at queued
  obtain ⟨after, represents, counted⟩ := represents_restoredAround queued front areKeys
  unfold CapsLockSettled
  dsimp only
  generalize ((extraKeys ⟨front.deviceId, front.state⟩ sending.current
    sending.queue.manipulatorEnvironment sending.current.halted lists).filter
      ToEventDefinition.erasesSticky).getLast? = last at counted ⊢
  have others : ∀ kind, kind ≠ .sticky → ∀ modifierFlag deviceId,
      after.counter kind modifierFlag deviceId =
        counters.counter kind modifierFlag deviceId := by
    intro kind notSticky modifierFlag deviceId
    rw [counted]
    cases kind with
    | sticky => exact absurd rfl notSticky
    | _ => rfl
  rw [neutral_iff_sticky queued.represents represents others]
  cases last with
  | none =>
      refine iff_of_true (fun modifierFlag deviceId => ?_) fun _ none => nomatch none
      rw [counted .sticky, queued.represents.count_eq, queued.represents.count_eq]
      exact ⟨(congrArg Int.toNat (one_mul _)).ge, (congrArg Int.toNat (neg_one_mul _)).ge⟩
  | some key =>
      have left : ∀ deviceId, after.counter .sticky .capsLock deviceId =
          -((if deviceId = front.deviceId then key.capsLockModifiers else 0 : Nat) : Int) -
            scopedCapsLock sending.queue.modifierFlagManager sending.current.keyDownModifierFlags
              deviceId := by
        intro deviceId
        rw [counted .sticky, ← restoredChange_capsLock, Nat.cast_ite, Nat.cast_zero]
        exact congrArg (fun n : Int => -n - _) (if_congr (and_iff_right rfl) rfl rfl)
      have cleared : ∀ modifierFlag, modifierFlag ≠ .capsLock → ∀ deviceId,
          after.counter .sticky modifierFlag deviceId = 0 := by
        intro modifierFlag other deviceId
        rw [counted .sticky, restoredChange_other other]
        dsimp only
        rw [if_neg fun same => other same.1]
        rfl
      simp only [Option.mem_def, Option.some.injEq, forall_eq', ← left]
      refine ⟨fun all deviceId => all .capsLock deviceId, fun capsLock modifierFlag deviceId => ?_⟩
      by_cases own : modifierFlag = .capsLock
      · rw [own]
        exact capsLock deviceId
      · rw [cleared modifierFlag own]
        exact ⟨Nat.zero_le _, Nat.zero_le _⟩

/-- A key that was pressed without modifiers, while one flag is active. -/
def sendingWithFlag (flag : ActiveModifierFlag) : Sending :=
  ⟨{ EventQueue.initial with
      modifierFlagManager := [ModifierFlagOperation.pushBack flag].foldl
        ModifierFlagOperation.apply ⟨[]⟩ }, 0, .make [] [] 0 [] 1⟩

/-- Left shift and B are to be posted. -/
def shiftedB : List ToEventDefinition :=
  [⟨.momentarySwitchEvent (.make UsagePage.keyboardOrKeypad Usage.keyboardB), [.leftShift], false,
    true, false, 0, ⟨[]⟩⟩]

omit [ExpressionLibrary] [MachTimebase] in
/-- While left shift is held the list with B is neutral, as no caps lock flag is open. -/
theorem neutral_iff_shiftedB :
    let _ := zeroExpressions
    let _ := nanosecondTimebase
    let sending := sendingWithFlag (.make .increase .leftShift 1)
    let front := Entry.original 1 10
      (.momentarySwitchEvent (.make UsagePage.keyboardOrKeypad Usage.keyboardA)) .keyUp
    Neutral sending.queue.modifierFlagManager
        (sending.restoredAround front [shiftedB]).queue.modifierFlagManager ↔
      sending.CapsLockSettled front [shiftedB] := by
  intro expressions timebase sending front
  refine neutral_iff [.pushBack (.make .increase .leftShift 1)] (fun flag member => ?_) sending rfl
    front [shiftedB] ?_
  · obtain rfl := ModifierFlagOperation.pushBack.inj (List.mem_singleton.mp member)
    decide
  · exact List.forall_mem_singleton.mpr (List.forall_mem_singleton.mpr (.inl ⟨_, rfl⟩))

omit [ExpressionLibrary] [MachTimebase] in
/-- With the caps lock LED on, B leaves a sticky caps lock. -/
theorem capsLockLed_notNeutral :
    let _ := zeroExpressions
    let _ := nanosecondTimebase
    let sending := sendingWithFlag (.make .increaseLedLock .capsLock 1)
    let front := Entry.original 1 10
      (.momentarySwitchEvent (.make UsagePage.keyboardOrKeypad Usage.keyboardA)) .keyUp
    ¬Neutral sending.queue.modifierFlagManager
      (sending.restoredAround front [shiftedB]).queue.modifierFlagManager := by
  intro expressions timebase sending front neutral
  exact absurd (neutral.noneAdded (.make .increaseSticky .capsLock 0)) (by decide)

end Sending

end Karabiner
