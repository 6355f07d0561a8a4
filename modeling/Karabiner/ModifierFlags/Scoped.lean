import Karabiner.ModifierFlags.Sums

/-! # Scoped modifier flags

`scoped_modifier_flags` makes a modifier flag manager report exactly the given
modifiers, notes the flags it pushed for that, and pushes their inverses when it is
destroyed.

The loops are given with fuel, and `Constructs` is the constructor without it. The
state of a scope is its base manager after the noted flags
(`Karabiner.ScopedModifierFlags.Scopes`), so what the scope reports and what is left
after it are sums over the noted flags.
-/

namespace Karabiner

/-- A manager while it is scoped, and the flags pushed so far. -/
structure ScopedModifierFlags where
  manager : ModifierFlagManager
  scopedActiveModifierFlags : List ActiveModifierFlag

namespace ScopedModifierFlags

def push (scope : ScopedModifierFlags) (flag : ActiveModifierFlag) : ScopedModifierFlags where
  manager := scope.manager.pushBackActiveModifierFlag flag
  scopedActiveModifierFlags := scope.scopedActiveModifierFlags ++ [flag]

/-- The `while` loop of the constructor for a modifier that has to be pressed. -/
def press (modifierFlag : ModifierFlag) : Nat → ScopedModifierFlags → ScopedModifierFlags
  | 0, scope => scope
  | fuel + 1, scope =>
      if scope.manager.isPressed modifierFlag then scope
      else press modifierFlag fuel (scope.push (.make .increase modifierFlag 0))

/-- The loop of the constructor for a modifier that must not be pressed, over a copy of
the active flags. -/
def release (modifierFlag : ModifierFlag) :
    List ActiveModifierFlag → ScopedModifierFlags → ScopedModifierFlags
  | [], scope => scope
  | flag :: rest, scope =>
      if flag.modifierFlag = modifierFlag then
        release modifierFlag rest (scope.push (.make flag.type.inverse flag.modifierFlag 0))
      else release modifierFlag rest scope

/-- The body of the loop of the constructor. -/
def scopeFlag (modifierFlags : List ModifierFlag) (scope : ScopedModifierFlags)
    (modifierFlag : ModifierFlag) : ScopedModifierFlags :=
  if modifierFlag ∈ modifierFlags then
    scope.press modifierFlag (scope.manager.activeModifierFlags.length + 1)
  else if scope.manager.isPressed modifierFlag then
    scope.release modifierFlag scope.manager.activeModifierFlags
  else scope

/-- The constructor. -/
def make (manager : ModifierFlagManager) (modifierFlags : List ModifierFlag) :
    ScopedModifierFlags :=
  ModifierFlagManager.allModifierFlags.foldl (scopeFlag modifierFlags) ⟨manager, []⟩

/-- `get_inverse_active_modifier_flags`. -/
def getInverseActiveModifierFlags (scope : ScopedModifierFlags) : List ActiveModifierFlag :=
  scope.scopedActiveModifierFlags.map ActiveModifierFlag.inverse

/-- The manager after the destructor. -/
def destroy (scope : ScopedModifierFlags) : ModifierFlagManager :=
  scope.getInverseActiveModifierFlags.foldl
    ModifierFlagManager.pushBackActiveModifierFlag scope.manager

/-! ## The constructor as the source runs it -/

/-- The `while` loop, as long as it runs. -/
inductive Presses (modifierFlag : ModifierFlag) :
    ScopedModifierFlags → ScopedModifierFlags → Prop where
  | stop {scope : ScopedModifierFlags} (pressed : scope.manager.isPressed modifierFlag = true) :
      Presses modifierFlag scope scope
  | pass {scope result : ScopedModifierFlags}
      (notPressed : scope.manager.isPressed modifierFlag = false)
      (rest : Presses modifierFlag (scope.push (.make .increase modifierFlag 0)) result) :
      Presses modifierFlag scope result

/-- The loop of the constructor over the modifiers of the source. -/
inductive Constructs (modifierFlags : List ModifierFlag) :
    List ModifierFlag → ScopedModifierFlags → ScopedModifierFlags → Prop where
  | done {scope : ScopedModifierFlags} : Constructs modifierFlags [] scope scope
  | requested {modifierFlag : ModifierFlag} {others : List ModifierFlag}
      {scope pressed result : ScopedModifierFlags} (member : modifierFlag ∈ modifierFlags)
      (loop : Presses modifierFlag scope pressed)
      (rest : Constructs modifierFlags others pressed result) :
      Constructs modifierFlags (modifierFlag :: others) scope result
  | unwanted {modifierFlag : ModifierFlag} {others : List ModifierFlag}
      {scope result : ScopedModifierFlags} (notMember : modifierFlag ∉ modifierFlags)
      (pressed : scope.manager.isPressed modifierFlag = true)
      (rest : Constructs modifierFlags others
        (scope.release modifierFlag scope.manager.activeModifierFlags) result) :
      Constructs modifierFlags (modifierFlag :: others) scope result
  | left {modifierFlag : ModifierFlag} {others : List ModifierFlag}
      {scope result : ScopedModifierFlags} (notMember : modifierFlag ∉ modifierFlags)
      (notPressed : scope.manager.isPressed modifierFlag = false)
      (rest : Constructs modifierFlags others scope result) :
      Constructs modifierFlags (modifierFlag :: others) scope result

theorem Presses.pressed {modifierFlag : ModifierFlag} {scope result : ScopedModifierFlags}
    (loop : Presses modifierFlag scope result) : result.manager.isPressed modifierFlag = true := by
  induction loop with
  | stop pressed => exact pressed
  | pass _ _ ih => exact ih

/-! ## The flags noted so far -/

open ModifierFlagManager

/-- The manager is its base after the noted flags, which clear only LED locks the
base has. -/
structure Scopes (base : ModifierFlagManager) (counters : ModifierFlagCounters)
    (scope : ScopedModifierFlags) : Prop where
  manager_eq : scope.manager =
    scope.scopedActiveModifierFlags.foldl pushBackActiveModifierFlag base
  noted : ∀ flag ∈ scope.scopedActiveModifierFlags, flag.type ∈ summedTypes ∨
    (flag.type = .decreaseLedLock ∧ counters.led flag.modifierFlag = true)

section Scopes

variable {base : ModifierFlagManager} {counters : ModifierFlagCounters}
  {scope : ScopedModifierFlags}

theorem Scopes.types (scopes : Scopes base counters scope) :
    ∀ flag ∈ scope.scopedActiveModifierFlags, flag.type ∈ queuedTypes := by
  intro flag member
  rcases scopes.noted flag member with summed | ⟨clears, _⟩
  · exact List.mem_append_left _ summed
  · rw [clears]
    exact List.mem_append_right _ (List.mem_cons_of_mem _ List.mem_cons_self)

theorem Scopes.clears (scopes : Scopes base counters scope) :
    ∀ flag ∈ scope.scopedActiveModifierFlags, flag.ledLock = true → flag.getCount = -1 := by
  intro flag member led
  rcases scopes.noted flag member with summed | ⟨clears, _⟩
  · rw [ledLock_of_summed summed] at led
    cases led
  · rw [ActiveModifierFlag.getCount, clears]
    rfl

/-- The counters of the manager of a scope. -/
def scopedCounters (counters : ModifierFlagCounters) (scope : ScopedModifierFlags) :
    ModifierFlagCounters :=
  scope.scopedActiveModifierFlags.foldl ModifierFlagCounters.push counters

theorem Scopes.queued (scopes : Scopes base counters scope) (reached : Queued base counters) :
    Queued scope.manager (scopedCounters counters scope) := by
  rw [scopes.manager_eq]
  exact reached.pushes scopes.types

/-- A flag that is pushed within a scope is noted there with its change of the counters. -/
theorem Scopes.push (scopes : Scopes base counters scope) {flag : ActiveModifierFlag}
    (noted : flag.type ∈ summedTypes ∨
      (flag.type = .decreaseLedLock ∧ counters.led flag.modifierFlag = true)) :
    Scopes base counters (scope.push flag) where
  manager_eq := by
    unfold ScopedModifierFlags.push
    dsimp only
    rw [List.foldl_append, ← scopes.manager_eq]
    rfl
  noted := by
    intro other member
    rcases List.mem_append.mp member with earlier | own
    · exact scopes.noted other earlier
    · rw [List.mem_singleton.mp own]
      exact noted

/-- Pushing several flags notes all of them. -/
theorem foldl_push (scope : ScopedModifierFlags) (flags : List ActiveModifierFlag) :
    flags.foldl ScopedModifierFlags.push scope =
      ⟨flags.foldl pushBackActiveModifierFlag scope.manager,
        scope.scopedActiveModifierFlags ++ flags⟩ := by
  induction flags generalizing scope with
  | nil => simp
  | cons flag rest ih =>
      rw [List.foldl_cons, ih]
      simp [ScopedModifierFlags.push]

theorem Scopes.pushes (scopes : Scopes base counters scope) {flags : List ActiveModifierFlag}
    (noted : ∀ flag ∈ flags, flag.type ∈ summedTypes ∨
      (flag.type = .decreaseLedLock ∧ counters.led flag.modifierFlag = true)) :
    Scopes base counters (flags.foldl ScopedModifierFlags.push scope) := by
  induction flags generalizing scope with
  | nil => exact scopes
  | cons flag rest ih =>
      exact ih (scopes.push (noted flag List.mem_cons_self)) fun other member =>
        noted other (List.mem_cons_of_mem _ member)

/-! ## A modifier that has to be pressed -/

/-- A sum of counts is at least minus the number of flags. -/
theorem neg_length_le_weigh (manager : ModifierFlagManager)
    (counts : ActiveModifierFlag → Bool) :
    -(manager.activeModifierFlags.length : Int) ≤ manager.weigh counts := by
  rw [weigh_eq]
  induction manager.activeModifierFlags with
  | nil => simp
  | cons flag rest ih =>
      have one : -1 ≤ weight counts flag := by
        unfold weight ActiveModifierFlag.getCount
        split
        · rcases flag.type.getCount_cases with count | count <;> omega
        · omega
      rw [List.map_cons, List.sum_cons, List.length_cons]
      omega

/-- Every pass adds one to the sum, so the loop ends with the modifier pressed. -/
theorem Scopes.press (scopes : Scopes base counters scope) (reached : Queued base counters)
    (modifierFlag : ModifierFlag) (fuel : Nat)
    (enough : 1 - scope.manager.weigh (ownCounts modifierFlag) ≤ fuel) :
    Scopes base counters (scope.press modifierFlag fuel) ∧
      Presses modifierFlag scope (scope.press modifierFlag fuel) ∧
      ∀ other, other ≠ modifierFlag →
        (scope.press modifierFlag fuel).manager.isPressed other =
          scope.manager.isPressed other := by
  induction fuel generalizing scope with
  | zero =>
      have pressed := (isPressed_iff_weigh (scopes.queued reached).represents modifierFlag).mpr
        (.inl (by omega))
      exact ⟨scopes, .stop pressed, fun _ _ => rfl⟩
  | succ fuel ih =>
      unfold ScopedModifierFlags.press
      cases pressed : scope.manager.isPressed modifierFlag with
      | true => exact ⟨scopes, .stop pressed, fun _ _ => rfl⟩
      | false =>
          have summed : ActiveModifierFlagType.increase ∈ summedTypes := List.mem_cons_self
          let flag := ActiveModifierFlag.make .increase modifierFlag 0
          have more : (scope.push flag).manager.weigh (ownCounts modifierFlag) =
              scope.manager.weigh (ownCounts modifierFlag) +
                weight (ownCounts modifierFlag) flag :=
            (scopes.queued reached).weigh_pushBack (List.mem_append_left _ summed)
              (ownCounts_inverse modifierFlag) fun _ => ownCounts_ledLock modifierFlag
          have one : weight (ownCounts modifierFlag) flag = 1 := by
            simp [weight, ownCounts, flag, ActiveModifierFlag.make, ActiveModifierFlag.ledLock,
              ActiveModifierFlag.getCount, ActiveModifierFlagType.ledLock,
              ActiveModifierFlagType.getCount]
          have pushed : Scopes base counters (scope.push flag) := scopes.push (.inl summed)
          obtain ⟨later, loop, others⟩ := ih pushed (by omega)
          refine ⟨later, .pass pressed loop, fun other different => ?_⟩
          exact (others other different).trans
            (isPressed_pushBack_other (scopes.queued reached).represents (Ne.symm different))

/-! ## A modifier that must not be pressed -/

/-- The flags the constructor pushes to release a modifier. -/
def releasing (modifierFlag : ModifierFlag) (flags : List ActiveModifierFlag) :
    List ActiveModifierFlag :=
  (flags.filter fun flag => flag.modifierFlag == modifierFlag).map fun flag =>
    .make flag.type.inverse flag.modifierFlag 0

/-- Releasing a modifier pushes the inverse of each of its flags that is to be released. -/
theorem release_eq (modifierFlag : ModifierFlag) (flags : List ActiveModifierFlag)
    (scope : ScopedModifierFlags) :
    scope.release modifierFlag flags =
      (releasing modifierFlag flags).foldl ScopedModifierFlags.push scope := by
  induction flags generalizing scope with
  | nil => rfl
  | cons flag rest ih =>
      unfold release
      by_cases own : flag.modifierFlag = modifierFlag
      · rw [if_pos own, ih]
        simp [releasing, own]
      · rw [if_neg own, ih]
        simp [releasing, own]

theorem mem_releasing {modifierFlag : ModifierFlag} {flags : List ActiveModifierFlag}
    {flag : ActiveModifierFlag} (member : flag ∈ releasing modifierFlag flags) :
    ∃ source ∈ flags, source.modifierFlag = modifierFlag ∧
      flag = .make source.type.inverse source.modifierFlag 0 := by
  obtain ⟨source, selected, rfl⟩ := List.mem_map.mp member
  obtain ⟨present, own⟩ := List.mem_filter.mp selected
  exact ⟨source, present, beq_iff_eq.mp own, rfl⟩

/-- The flags that release a modifier weigh the opposite of its own flags. -/
theorem weight_releasing (modifierFlag : ModifierFlag) (flags : List ActiveModifierFlag) :
    ((releasing modifierFlag flags).map (weight (ownCounts modifierFlag))).sum =
      -(flags.map (weight (ownCounts modifierFlag))).sum := by
  induction flags with
  | nil => rfl
  | cons flag rest ih =>
      rw [List.map_cons, List.sum_cons, neg_add, ← ih]
      by_cases own : flag.modifierFlag = modifierFlag
      · have opposite : weight (ownCounts modifierFlag)
            (.make flag.type.inverse flag.modifierFlag 0) =
            -weight (ownCounts modifierFlag) flag :=
          -- The device of the pushed flag does not count.
          weight_inverse (ownCounts_inverse modifierFlag flag)
        simp [releasing, own, ← opposite]
      · have none : weight (ownCounts modifierFlag) flag = 0 := by
          simp [weight, ownCounts, own]
        simp [releasing, own, none]

theorem ledAmong_releasing {manager : ModifierFlagManager} {reached : ModifierFlagCounters}
    (represents : Represents manager reached) {modifierFlag : ModifierFlag}
    (led : reached.led modifierFlag = true) :
    ledAmong (releasing modifierFlag manager.activeModifierFlags) modifierFlag = true := by
  have present : ActiveModifierFlag.make .increaseLedLock modifierFlag 0 ∈
      manager.activeModifierFlags := by
    rw [represents.mem_iff]
    simp [ModifierFlagCounters.value, ActiveModifierFlag.kind, ActiveModifierFlag.make,
      ActiveModifierFlagType.kind, ActiveModifierFlag.getCount, ActiveModifierFlagType.getCount,
      ModifierFlagCounters.counter, led]
  refine List.any_eq_true.mpr ⟨.make .decreaseLedLock modifierFlag 0, ?_, ?_⟩
  · exact List.mem_map.mpr ⟨_, List.mem_filter.mpr ⟨present, beq_self_eq_true _⟩, rfl⟩
  · exact Bool.and_eq_true_iff.mpr ⟨rfl, beq_self_eq_true _⟩

/-- Releasing leaves the sum of the modifier at zero and its LED lock cleared. -/
theorem Scopes.release (scopes : Scopes base counters scope) (reached : Queued base counters)
    (modifierFlag : ModifierFlag) :
    let released := scope.release modifierFlag scope.manager.activeModifierFlags
    Scopes base counters released ∧ released.manager.isPressed modifierFlag = false ∧
      ∀ other, other ≠ modifierFlag →
        released.manager.isPressed other = scope.manager.isPressed other := by
  have current := scopes.queued reached
  have noted : ∀ flag ∈ releasing modifierFlag scope.manager.activeModifierFlags,
      flag.type ∈ summedTypes ∨
        (flag.type = .decreaseLedLock ∧ counters.led flag.modifierFlag = true) := by
    intro flag member
    obtain ⟨source, present, _, rfl⟩ := mem_releasing member
    rcases current.type_mem present with summed | led
    · left
      change source.type.inverse ∈ summedTypes
      revert summed
      cases source.type <;> simp [summedTypes, ActiveModifierFlagType.inverse]
    · right
      refine ⟨congrArg ActiveModifierFlagType.inverse led, ?_⟩
      have isLed : source.ledLock = true := congrArg ActiveModifierFlagType.ledLock led
      have positive := (current.represents.mem_iff source).mp present
      rw [current.represents.ledLock_mem present isLed] at positive
      have lit : (scopedCounters counters scope).led source.modifierFlag = true := by
        by_contra dark
        rw [Bool.not_eq_true] at dark
        simp [ModifierFlagCounters.value, ActiveModifierFlag.kind, ActiveModifierFlag.make,
          ActiveModifierFlagType.kind, ModifierFlagCounters.counter, dark] at positive
      rw [scopedCounters, led_pushes_clear counters scopes.clears] at lit
      exact (Bool.and_eq_true_iff.mp lit).1
  have later := scopes.pushes noted
  dsimp only
  rw [release_eq]
  refine ⟨later, ?_, fun other different => ?_⟩
  · rw [Bool.eq_false_iff]
    intro pressed
    have types : ∀ flag ∈ releasing modifierFlag scope.manager.activeModifierFlags,
        flag.type ∈ queuedTypes := by
      intro flag member
      rcases noted flag member with summed | ⟨clears, _⟩
      · exact List.mem_append_left _ summed
      · rw [clears]
        exact List.mem_append_right _ (List.mem_cons_of_mem _ List.mem_cons_self)
    have balanced := current.weigh_pushes types (ownCounts_inverse modifierFlag)
      fun _ => ownCounts_ledLock modifierFlag
    rw [weight_releasing, ← weigh_eq, add_neg_cancel] at balanced
    rcases (isPressed_iff_weigh (later.queued reached).represents modifierFlag).mp pressed with
      positive | ⟨_, lit⟩
    · rw [foldl_push, balanced] at positive
      exact absurd positive (lt_irrefl 0)
    · have before := lit
      rw [scopedCounters, led_pushes_clear counters later.clears, foldl_push] at before
      obtain ⟨lit, dark⟩ := Bool.and_eq_true_iff.mp before
      unfold ledAmong at dark
      rw [List.any_append, Bool.not_or, Bool.and_eq_true] at dark
      have now : (scopedCounters counters scope).led modifierFlag = true := by
        rw [scopedCounters, led_pushes_clear counters scopes.clears, lit]
        exact dark.1
      have cleared := ledAmong_releasing current.represents now
      unfold ledAmong at cleared
      rw [cleared] at dark
      cases dark.2
  · rw [foldl_push]
    apply isPressed_pushes_other current.represents
    intro flag member
    obtain ⟨source, _, own, rfl⟩ := mem_releasing member
    exact fun same => different (same.symm.trans own)

/-! ## The whole constructor -/

/-- One round of the constructor settles its modifier and leaves the others alone. -/
theorem Scopes.scopeFlag (scopes : Scopes base counters scope) (reached : Queued base counters)
    (modifierFlags : List ModifierFlag) (modifierFlag : ModifierFlag) :
    let built := scope.scopeFlag modifierFlags modifierFlag
    Scopes base counters built ∧
      (built.manager.isPressed modifierFlag = true ↔ modifierFlag ∈ modifierFlags) ∧
      (∀ other, other ≠ modifierFlag →
        built.manager.isPressed other = scope.manager.isPressed other) ∧
      ∀ others result, Constructs modifierFlags others built result →
        Constructs modifierFlags (modifierFlag :: others) scope result := by
  unfold ScopedModifierFlags.scopeFlag
  dsimp only
  by_cases member : modifierFlag ∈ modifierFlags
  · have enough := neg_length_le_weigh scope.manager (ownCounts modifierFlag)
    obtain ⟨later, loop, others⟩ := scopes.press reached modifierFlag
      (scope.manager.activeModifierFlags.length + 1) (by omega)
    rw [if_pos member]
    exact ⟨later, iff_of_true loop.pressed member, others,
      fun _ _ rest => .requested member loop rest⟩
  · rw [if_neg member]
    cases pressed : scope.manager.isPressed modifierFlag with
    | true =>
        obtain ⟨later, notPressed, others⟩ := scopes.release reached modifierFlag
        rw [if_pos rfl]
        refine ⟨later, iff_of_false ?_ member, others,
          fun _ _ rest => .unwanted member pressed rest⟩
        rw [notPressed]
        exact Bool.false_ne_true
    | false =>
        rw [if_neg Bool.false_ne_true]
        refine ⟨scopes, iff_of_false ?_ member, fun _ _ => rfl,
          fun _ _ rest => .left member pressed rest⟩
        rw [pressed]
        exact Bool.false_ne_true

/-- The flags of a scope are pressed and released one modifier after the other, each of them once.
-/
theorem Scopes.scopeFlags (scopes : Scopes base counters scope) (reached : Queued base counters)
    (modifierFlags : List ModifierFlag) {flags : List ModifierFlag} (nodup : flags.Nodup) :
    let built := flags.foldl (ScopedModifierFlags.scopeFlag modifierFlags) scope
    Scopes base counters built ∧
      (∀ modifierFlag ∈ flags,
        built.manager.isPressed modifierFlag = true ↔ modifierFlag ∈ modifierFlags) ∧
      (∀ modifierFlag, modifierFlag ∉ flags →
        built.manager.isPressed modifierFlag = scope.manager.isPressed modifierFlag) ∧
      Constructs modifierFlags flags scope built := by
  induction flags generalizing scope with
  | nil => exact ⟨scopes, fun _ member => absurd member List.not_mem_nil, fun _ _ => rfl, .done⟩
  | cons first rest ih =>
      obtain ⟨notLater, nodup⟩ := List.nodup_cons.mp nodup
      obtain ⟨one, settled, others, constructs⟩ := scopes.scopeFlag reached modifierFlags first
      obtain ⟨all, later, untouched, run⟩ := ih one nodup
      refine ⟨all, ?_, ?_, constructs _ _ run⟩
      · intro modifierFlag member
        rcases List.mem_cons.mp member with rfl | member
        · rw [List.foldl_cons, untouched modifierFlag notLater]
          exact settled
        · exact later modifierFlag member
      · intro modifierFlag absent
        rw [List.mem_cons, not_or] at absent
        rw [List.foldl_cons, untouched modifierFlag absent.2]
        exact others modifierFlag absent.1

/-! ## The destructor -/

/-- The inverses undo the noted flags: the sums cancel, and every LED lock that was
cleared was set before. -/
theorem Scopes.destroy (scopes : Scopes base counters scope) (reached : Queued base counters) :
    scope.destroy.activeModifierFlags.Perm base.activeModifierFlags := by
  have inverseTypes : ∀ flag ∈ scope.getInverseActiveModifierFlags,
      flag.type ∈ summedTypes ∨ flag.type = .increaseLedLock := by
    intro flag member
    obtain ⟨source, present, rfl⟩ := List.mem_map.mp member
    rw [ActiveModifierFlag.inverse_type]
    rcases scopes.noted source present with summed | ⟨clears, _⟩
    · left
      revert summed
      cases source.type <;> simp [summedTypes, ActiveModifierFlagType.inverse]
    · right
      rw [clears]
      rfl
  have current := scopes.queued reached
  have after := current.pushes fun flag member => by
    rcases inverseTypes flag member with summed | sets
    · exact List.mem_append_left _ summed
    · rw [sets]
      exact List.mem_append_right _ List.mem_cons_self
  refine after.represents.perm reached.represents fun kind modifierFlag deviceId => ?_
  have sums : kind = .plain ∨ kind = .sticky →
      (scope.getInverseActiveModifierFlags.foldl ModifierFlagCounters.push
        (scopedCounters counters scope)).counter kind modifierFlag deviceId =
        counters.counter kind modifierFlag deviceId := by
    intro summed
    rw [counter_pushes _ _ summed, scopedCounters, counter_pushes _ _ summed,
      getInverseActiveModifierFlags,
      sum_map_inverse (counted_inverse kind modifierFlag deviceId)]
    exact add_neg_cancel_right _ _
  cases kind with
  | plain => exact sums (.inl rfl)
  | sticky => exact sums (.inr rfl)
  | lock =>
      unfold ModifierFlagCounters.counter
      dsimp only
      rw [after.unlocked, reached.unlocked]
  | ledLock =>
      have inverses : ledAmong scope.getInverseActiveModifierFlags modifierFlag =
          ledAmong scope.scopedActiveModifierFlags modifierFlag := by
        unfold ledAmong getInverseActiveModifierFlags
        rw [List.any_map]
        congr 1
        funext flag
        simp [ActiveModifierFlag.ledLock]
      have restored : (scope.getInverseActiveModifierFlags.foldl ModifierFlagCounters.push
          (scopedCounters counters scope)).led modifierFlag = counters.led modifierFlag := by
        rw [led_pushes_set _ fun flag member led => by
            rcases inverseTypes flag member with summed | sets
            · rw [ledLock_of_summed summed] at led
              cases led
            · rw [ActiveModifierFlag.getCount, sets]
              rfl,
          scopedCounters, led_pushes_clear counters scopes.clears, inverses]
        cases cleared : ledAmong scope.scopedActiveModifierFlags modifierFlag with
        | false => simp
        | true =>
            obtain ⟨flag, member, own⟩ := List.any_eq_true.mp cleared
            obtain ⟨led, same⟩ := Bool.and_eq_true_iff.mp own
            rcases scopes.noted flag member with summed | ⟨_, lit⟩
            · rw [ledLock_of_summed summed] at led
              cases led
            · rw [← beq_iff_eq.mp same, lit]
              rfl
      unfold ModifierFlagCounters.counter
      dsimp only
      rw [restored]

end Scopes

end ScopedModifierFlags

namespace ScopedModifierFlags

open ModifierFlagManager

/-- A scope leads from the flags that were to the modifiers that are asked for, and has noted how.
-/
theorem make_spec {manager : ModifierFlagManager} {counters : ModifierFlagCounters}
    (reached : Queued manager counters) (modifierFlags : List ModifierFlag) :
    let scope := make manager modifierFlags
    Constructs modifierFlags allModifierFlags ⟨manager, []⟩ scope ∧
      (∀ modifierFlag ∈ allModifierFlags,
        scope.manager.isPressed modifierFlag = true ↔ modifierFlag ∈ modifierFlags) ∧
      scope.destroy.activeModifierFlags.Perm manager.activeModifierFlags := by
  have empty : Scopes manager counters ⟨manager, []⟩ :=
    ⟨rfl, fun _ member => absurd member List.not_mem_nil⟩
  have nodup : allModifierFlags.Nodup := by decide
  obtain ⟨scopes, settled, _, constructs⟩ := empty.scopeFlags reached modifierFlags nodup
  exact ⟨constructs, settled, scopes.destroy reached⟩

end ScopedModifierFlags

namespace ModifierFlagManager

/-- Operations that push no locks of keys reach only queued lists. -/
theorem queued_run {operations : List ModifierFlagOperation}
    (kinds : ∀ flag, .pushBack flag ∈ operations → flag.type ∈ queuedTypes) :
    ∃ counters, Queued (operations.foldl ModifierFlagOperation.apply ⟨[]⟩) counters := by
  suffices run : ∀ manager counters, Queued manager counters →
      ∃ reached, Queued (operations.foldl ModifierFlagOperation.apply manager) reached from
    run _ _ queued_empty
  induction operations with
  | nil => exact fun manager counters reached => ⟨counters, reached⟩
  | cons operation rest ih =>
      intro manager counters reached
      have here := reached.apply operation fun flag isPush =>
        kinds flag (isPush ▸ List.mem_cons_self)
      exact ih (fun flag member => kinds flag (List.mem_cons_of_mem _ member)) _ _ here

end ModifierFlagManager

namespace ScopedModifierFlags

/-- From any list an event queue can reach, the constructor comes to an end, the
manager then reports exactly the requested modifiers, and the destructor leaves the
flags that were there before. -/
theorem scopes_exactly (operations : List ModifierFlagOperation)
    (kinds : ∀ flag, .pushBack flag ∈ operations →
      flag.type ∈ ModifierFlagManager.queuedTypes) (modifierFlags : List ModifierFlag) :
    let manager := operations.foldl ModifierFlagOperation.apply ⟨[]⟩
    let scope := make manager modifierFlags
    Constructs modifierFlags ModifierFlagManager.allModifierFlags ⟨manager, []⟩ scope ∧
      (∀ modifierFlag ∈ ModifierFlagManager.allModifierFlags,
        scope.manager.isPressed modifierFlag = true ↔ modifierFlag ∈ modifierFlags) ∧
      scope.destroy.activeModifierFlags.Perm manager.activeModifierFlags := by
  obtain ⟨counters, reached⟩ := ModifierFlagManager.queued_run kinds
  exact make_spec reached modifierFlags

/-- Left shift held by a device and by a sticky modifier, the caps lock LED lit, and
right command requested. -/
theorem scopes_exactly_heldShift :
    let operations := [.make .increase .leftShift 1, .make .increaseSticky .leftShift 2,
      .make .increaseLedLock .capsLock 1].map ModifierFlagOperation.pushBack
    let manager := operations.foldl ModifierFlagOperation.apply ⟨[]⟩
    let scope := make manager [.rightCommand]
    scope.scopedActiveModifierFlags = [.make .decreaseLedLock .capsLock 0,
        .make .decrease .leftShift 0, .make .decreaseSticky .leftShift 0,
        .make .increase .rightCommand 0] ∧
      (∀ modifierFlag ∈ ModifierFlagManager.allModifierFlags,
        scope.manager.isPressed modifierFlag = true ↔ modifierFlag ∈ [.rightCommand]) ∧
      scope.destroy.activeModifierFlags.Perm manager.activeModifierFlags := by
  have built := scopes_exactly
    ([.make .increase .leftShift 1, .make .increaseSticky .leftShift 2,
      .make .increaseLedLock .capsLock 1].map ModifierFlagOperation.pushBack)
    (by
      intro flag member
      simp only [List.map_cons, List.map_nil, List.mem_cons, ModifierFlagOperation.pushBack.injEq,
        List.not_mem_nil, or_false] at member
      rcases member with rfl | rfl | rfl <;> decide)
    [.rightCommand]
  exact ⟨by decide, built.2⟩

end ScopedModifierFlags

end Karabiner
