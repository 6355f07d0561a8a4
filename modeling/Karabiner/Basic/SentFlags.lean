import Karabiner.Basic.Emissions
import Karabiner.ModifierFlags.Sums

/-! # The modifier flags of what is sent

The events that `event_sender` posts push flags of pressed keys and, for caps lock, sticky
flags; a key_down that is not a modifier erases all sticky flags. In the counters of the output
queue that is a sum for the pressed keys and, for the sticky flags, the sum since the last such
key_down.
-/

namespace Karabiner

open ModifierFlagManager

namespace Sent

/-- The flags that are pushed for an event. -/
def pushedFlags (sent : Sent) : List ActiveModifierFlag :=
  match sent.event with
  | .momentarySwitchEvent event =>
      (event.makeModifierFlag.map fun flag => ActiveModifierFlag.make
        (if sent.eventType = .keyDown then .increase else .decrease) flag sent.deviceId).toList
  | .stickyModifier flag type =>
      if sent.eventType = .keyDown ∨ sent.eventType = .single then
        [.make (if type = .on then .increaseSticky else .decreaseSticky) flag sent.deviceId]
      else []
  | _ => []

/-- A key_down that is not a modifier erases the sticky flags. -/
def erasesSticky (sent : Sent) : Bool :=
  match sent.event with
  | .momentarySwitchEvent event => sent.eventType == .keyDown && !event.modifierFlag
  | _ => false

/-- The flags that are pushed do not depend on those that are there, and are none of a LED. -/
def Direct (sent : Sent) : Prop :=
  (∀ flag, sent.event ≠ .stickyModifier flag .toggle) ∧
    ∀ state, sent.event ≠ .capsLockStateChanged state

/-- What the event does to the counters. -/
def count (counters : ModifierFlagCounters) (sent : Sent) : ModifierFlagCounters :=
  let pushed := sent.pushedFlags.foldl ModifierFlagCounters.push counters
  if sent.erasesSticky then pushed.erase fun kind _ _ => !(kind == .sticky) else pushed

/-- What the event adds to a counter. -/
def change (kind : CounterKind) (modifierFlag : ModifierFlag) (deviceId : DeviceId)
    (sent : Sent) : Int :=
  (sent.pushedFlags.map (counted kind modifierFlag deviceId)).sum

/-- An event changes the flags in two parts: it pushes its own flags, and a press of a key ends the
sticky ones. -/
theorem applyFlags_eq {sent : Sent} (direct : sent.Direct) (manager : ModifierFlagManager) :
    sent.applyFlags manager =
      if sent.erasesSticky then
        (sent.pushedFlags.foldl pushBackActiveModifierFlag manager).eraseAllStickyModifierFlags
      else sent.pushedFlags.foldl pushBackActiveModifierFlag manager := by
  obtain ⟨deviceId, event, eventType⟩ := sent
  obtain ⟨notToggle, notLed⟩ := direct
  cases event with
  | momentarySwitchEvent event =>
      have condition : (eventType = .keyDown ∧ Validity.valid = .valid ∧
          event.modifierFlag = false) ↔ (eventType == .keyDown && !event.modifierFlag) = true := by
        simp
      unfold applyFlags EventQueue.updateModifierFlags pushedFlags erasesSticky
      dsimp only
      rw [if_congr condition rfl rfl]
      cases event.makeModifierFlag with
      | none => rfl
      | some flag => rfl
  | stickyModifier flag type =>
      unfold applyFlags EventQueue.updateModifierFlags pushedFlags erasesSticky
      dsimp only
      rw [if_neg Bool.false_ne_true]
      split
      · cases type with
        | toggle => exact absurd rfl (notToggle flag)
        | on => rfl
        | off => rfl
      · rfl
  | capsLockStateChanged state => exact absurd rfl (notLed state)
  | _ => rfl

/-- The flags that an event pushes are plain or sticky, never those of a lock. -/
theorem kind_of_mem_pushedFlags {sent : Sent} {flag : ActiveModifierFlag}
    (member : flag ∈ sent.pushedFlags) : flag.kind = .plain ∨ flag.kind = .sticky := by
  unfold pushedFlags at member
  split at member
  · obtain ⟨modifierFlag, -, rfl⟩ := Option.map_eq_some_iff.mp (Option.mem_toList.mp member)
    refine .inl ?_
    unfold ActiveModifierFlag.kind ActiveModifierFlag.make
    dsimp only
    split <;> rfl
  · split at member
    · rw [List.mem_singleton.mp member]
      refine .inr ?_
      unfold ActiveModifierFlag.kind ActiveModifierFlag.make
      dsimp only
      split <;> rfl
    · exact absurd member List.not_mem_nil
  · exact absurd member List.not_mem_nil

/-- The counters follow the manager through each event that is sent. -/
theorem represents_applyFlags {sent : Sent} (direct : sent.Direct)
    {manager : ModifierFlagManager} {counters : ModifierFlagCounters}
    (represents : Represents manager counters) :
    Represents (sent.applyFlags manager) (sent.count counters) := by
  have pushed : ∀ flags : List ActiveModifierFlag, ∀ {manager counters},
      Represents manager counters →
      Represents (flags.foldl pushBackActiveModifierFlag manager)
        (flags.foldl ModifierFlagCounters.push counters) := by
    intro flags
    induction flags with
    | nil => exact fun represents => represents
    | cons flag rest ih => exact fun represents => ih (represents.pushBack flag)
  rw [applyFlags_eq direct]
  unfold count
  dsimp only
  split
  · exact (pushed sent.pushedFlags represents).apply .eraseAllSticky
  · exact pushed sent.pushedFlags represents

theorem represents_foldl {sents : List Sent} (direct : ∀ sent ∈ sents, sent.Direct)
    {manager : ModifierFlagManager} {counters : ModifierFlagCounters}
    (represents : Represents manager counters) :
    Represents (sents.foldl applyFlags manager) (sents.foldl count counters) := by
  induction sents generalizing manager counters with
  | nil => exact represents
  | cons sent rest ih =>
      obtain ⟨own, others⟩ := List.forall_mem_cons.mp direct
      exact ih others (represents_applyFlags own represents)

/-- The counters after an event: a key_down that is not a modifier clears the sticky ones. -/
theorem counter_count (counters : ModifierFlagCounters) (sent : Sent) (kind : CounterKind)
    (modifierFlag : ModifierFlag) (deviceId : DeviceId) :
    (sent.count counters).counter kind modifierFlag deviceId =
      if kind = .sticky ∧ sent.erasesSticky = true then 0
      else counters.counter kind modifierFlag deviceId +
        sent.change kind modifierFlag deviceId := by
  have pushes : ∀ flags : List ActiveModifierFlag,
      (∀ flag ∈ flags, flag.kind = .plain ∨ flag.kind = .sticky) →
      ∀ counters : ModifierFlagCounters,
        (flags.foldl ModifierFlagCounters.push counters).counter kind modifierFlag deviceId =
          counters.counter kind modifierFlag deviceId +
            (flags.map (counted kind modifierFlag deviceId)).sum := by
    intro flags
    induction flags with
    | nil => exact fun _ counters => (add_zero _).symm
    | cons flag rest ih =>
        intro kinds counters
        obtain ⟨own, others⟩ := List.forall_mem_cons.mp kinds
        rw [List.foldl_cons, ih others, ModifierFlagCounters.counter_push, List.map_cons,
          List.sum_cons, ← add_assoc, counted]
        congr 1
        split
        · rename_i same
          rw [same.1]
          rcases own with plain | sticky
          · rw [plain]
            rfl
          · rw [sticky]
            rfl
        · rw [add_zero]
  have pushed := pushes sent.pushedFlags (fun flag => kind_of_mem_pushedFlags) counters
  unfold count change
  dsimp only
  cases sent.erasesSticky with
  | false =>
      rw [if_neg Bool.false_ne_true, if_neg (fun both => Bool.false_ne_true both.2)]
      exact pushed
  | true =>
      rw [if_pos rfl, ModifierFlagCounters.counter_erase, pushed]
      cases kind <;> rfl

/-- Counters other than the sticky ones add up. -/
theorem counter_foldl (sents : List Sent) {kind : CounterKind} (notSticky : kind ≠ .sticky)
    (modifierFlag : ModifierFlag) (deviceId : DeviceId) (counters : ModifierFlagCounters) :
    (sents.foldl count counters).counter kind modifierFlag deviceId =
      counters.counter kind modifierFlag deviceId +
        (sents.map (change kind modifierFlag deviceId)).sum := by
  induction sents generalizing counters with
  | nil => exact (add_zero _).symm
  | cons sent rest ih =>
      rw [List.foldl_cons, ih, counter_count, if_neg (fun both => notSticky both.1), List.map_cons,
        List.sum_cons, add_assoc]

/-- So do the sticky ones, as long as nothing erases them. -/
theorem sticky_foldl {sents : List Sent} (quiet : ∀ sent ∈ sents, sent.erasesSticky = false)
    (modifierFlag : ModifierFlag) (deviceId : DeviceId) (counters : ModifierFlagCounters) :
    (sents.foldl count counters).counter .sticky modifierFlag deviceId =
      counters.counter .sticky modifierFlag deviceId +
        (sents.map (change .sticky modifierFlag deviceId)).sum := by
  induction sents generalizing counters with
  | nil => exact (add_zero _).symm
  | cons sent rest ih =>
      obtain ⟨own, others⟩ := List.forall_mem_cons.mp quiet
      rw [List.foldl_cons, ih others, counter_count,
        if_neg (fun both => by rw [own] at both; exact Bool.false_ne_true both.2), List.map_cons,
        List.sum_cons, add_assoc]

/-! ## The events of modifiers and keys -/

/-- The event of a modifier flag: the key of the flag, or caps lock as a sticky modifier. -/
theorem pushedFlags_modifierSent {flag : ModifierFlag}
    (valid : (MomentarySwitchEvent.ofModifierFlag flag).valid = true) (deviceId : DeviceId) :
    (modifierSent deviceId .keyDown (.ofModifierFlag flag)).pushedFlags =
        [.make (if flag = .capsLock then .increaseSticky else .increase) flag deviceId] ∧
      (modifierSent deviceId .keyUp (.ofModifierFlag flag)).pushedFlags =
        [.make (if flag = .capsLock then .decreaseSticky else .decrease) flag deviceId] := by
  cases flag with
  | zero => exact absurd valid (by decide)
  | end_ => exact absurd valid (by decide)
  | _ => exact ⟨rfl, rfl⟩

theorem erasesSticky_modifierSent {flag : ModifierFlag}
    (valid : (MomentarySwitchEvent.ofModifierFlag flag).valid = true) (deviceId : DeviceId)
    (eventType : EventType) :
    (modifierSent deviceId eventType (.ofModifierFlag flag)).erasesSticky = false := by
  cases flag with
  | zero => exact absurd valid (by decide)
  | end_ => exact absurd valid (by decide)
  | capsLock => rfl
  | _ => cases eventType <;> rfl

theorem direct_modifierSent (deviceId : DeviceId) (eventType : EventType)
    (event : MomentarySwitchEvent) : (modifierSent deviceId eventType event).Direct := by
  unfold modifierSent makeLazyModifierKeyEvent
  cases event.capsLock with
  | false => exact ⟨fun _ => nofun, fun _ => nofun⟩
  | true =>
      refine ⟨fun flag toggle => ?_, fun _ => nofun⟩
      cases eventType <;> cases toggle

end Sent

end Karabiner
