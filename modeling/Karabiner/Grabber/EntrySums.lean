import Karabiner.Grabber.EntryOrder

/-! # What the made entries add up to

The loop of `make_entries` keeps the values of the axes until it adds them as one motion.
For a device that is not a game pad, each value of a key, of an axis or of the LED goes into
one entry, and the motions add up to the values (`MakeEntries.makeEntries_conserves`).
-/

namespace Karabiner

namespace PointingMotion

/-- The part of a motion along an axis. -/
def part (motion : PointingMotion) : Axis → Int
  | .x => motion.x
  | .y => motion.y
  | .verticalWheel => motion.verticalWheel
  | .horizontalWheel => motion.horizontalWheel

end PointingMotion

/-- What an entry moves along an axis. -/
def Entry.motionPart (entry : Entry) (axis : Axis) : Int :=
  match entry.event with
  | .pointingMotion motion => motion.part axis
  | _ => 0

namespace HidValue

/-- The entry of a value of a key or button. -/
def keyEntryOf (value : HidValue) (deviceId : DeviceId) : Option Entry :=
  match value.usagePage, value.usage with
  | some usagePage, some usage =>
      if MomentarySwitchEvent.target usagePage usage then
        let event := Event.momentarySwitchEvent (.make usagePage usage)
        some (.make deviceId ⟨value.timeStamp, 0⟩ event
          (if value.integerValue ≠ 0 then .keyDown else .keyUp) (some value.integerValue)
          event .original)
      else none
  | _, _ => none

/-- The value is one of a key or button. -/
def isTarget (value : HidValue) : Bool :=
  match value.usagePage, value.usage with
  | some usagePage, some usage => MomentarySwitchEvent.target usagePage usage
  | _, _ => false

/-- The value is one of a key, of an axis or of the LED of caps lock. -/
def isUsed (value : HidValue) : Bool :=
  value.isTarget || (value.axis? false).isSome ||
    value.conformsTo UsagePage.leds Usage.ledCapsLock

/-- What a value moves along an axis. -/
def motionPart (value : HidValue) (parameters : MakeEntriesParameters) (axis : Axis) : Int :=
  if value.axis? false = some axis then value.adjusted parameters axis else 0

theorem isUsed_of_axis {value : HidValue} {axis : Axis}
    (isAxis : value.axis? false = some axis) : value.isUsed = true := by
  simp [isUsed, isAxis]

theorem motionPart_of_axis {value : HidValue} {axis : Axis}
    (isAxis : value.axis? false = some axis) (parameters : MakeEntriesParameters)
    (other : Axis) :
    value.motionPart parameters other =
      if other = axis then value.adjusted parameters axis else 0 := by
  unfold motionPart
  rw [isAxis]
  by_cases same : other = axis
  · rw [if_pos same, if_pos (congrArg some same.symm), same]
  · rw [if_neg same, if_neg fun equal => same (Option.some.inj equal).symm]

theorem motionPart_of_other {value : HidValue} (other : value.axis? false = none)
    (parameters : MakeEntriesParameters) (axis : Axis) :
    value.motionPart parameters axis = 0 := by
  unfold motionPart
  rw [other]
  exact if_neg (Option.some_ne_none axis).symm

/-- A value that is not collected and is used makes one entry. -/
theorem length_entries {value : HidValue} (other : value.axis? false = none)
    (deviceId : DeviceId) (hat : HatDirection) :
    (value.entries deviceId false hat).length = if value.isUsed then 1 else 0 := by
  unfold entries isUsed isTarget
  rw [other]
  cases usagePage : value.usagePage with
  | none => simp [conformsTo, usagePage]
  | some page =>
      cases usage : value.usage with
      | none => simp [conformsTo, usage]
      | some number =>
          dsimp only
          split
          · rename_i target
            simp [target]
          · rename_i noTarget
            split
            · rename_i led
              simp [led]
            · rename_i noLed
              simp [noTarget, noLed, hatSwitch]

/-- The key entries among those of a value. -/
theorem filter_isKey_entries (value : HidValue) (deviceId : DeviceId) (hat : HatDirection) :
    (value.entries deviceId false hat).filter Entry.isKey = (value.keyEntryOf deviceId).toList := by
  unfold entries keyEntryOf
  cases value.usagePage with
  | none => rfl
  | some page =>
      cases value.usage with
      | none => rfl
      | some number =>
          dsimp only
          split
          · rfl
          split
          · rfl
          · simp [hatSwitch]

/-- No device but a game pad has a hat switch. -/
theorem entries_hat (value : HidValue) (deviceId : DeviceId) (hat : HatDirection) :
    value.entries deviceId false hat = value.entries deviceId false [] := by
  simp [entries, hatSwitch]

theorem keyEntry_of_axis {value : HidValue} {axis : Axis}
    (isAxis : value.axis? false = some axis) (deviceId : DeviceId) :
    value.keyEntryOf deviceId = none := by
  obtain ⟨_, _, isPage, isNumber, noTarget, _, _⟩ := conformsTo_of_axis isAxis
  simp [keyEntryOf, isPage, isNumber, noTarget]

end HidValue

namespace MakeEntries

variable {deviceId : DeviceId} {parameters : MakeEntriesParameters}

/-! ## The keys -/

theorem filter_isKey_parts (parts : MotionParts) :
    (parts.entries deviceId).filter Entry.isKey = [] := by
  unfold MotionParts.entries
  split
  · rfl
  · rfl

theorem filter_isKey_step (state : MakeEntries) (value : HidValue) :
    (step deviceId false parameters state value).result.filter Entry.isKey =
      state.result.filter Entry.isKey ++ (value.keyEntryOf deviceId).toList := by
  rw [step_eq]
  cases isAxis : value.axis? false with
  | none => exact (List.filter_append _ _).trans (congrArg _ (value.filter_isKey_entries _ _))
  | some axis =>
      rw [HidValue.keyEntry_of_axis isAxis, Option.toList_none, List.append_nil]
      change (state.flushIf deviceId _).result.filter Entry.isKey = _
      unfold flushIf
      split
      · rw [List.filter_append, filter_isKey_parts, List.append_nil]
      · rfl

/-- The key entries are those of the values of keys, in their order. -/
theorem filter_isKey_makeEntries (hat : HatDirection) (values : List HidValue) :
    (makeEntries deviceId false parameters hat values).1.filter Entry.isKey =
      values.filterMap (HidValue.keyEntryOf · deviceId) := by
  have fold : ∀ state : MakeEntries,
      (values.foldl (step deviceId false parameters) state).result.filter Entry.isKey =
        state.result.filter Entry.isKey ++ values.filterMap (HidValue.keyEntryOf · deviceId) := by
    induction values with
    | nil => exact fun state => (List.append_nil _).symm
    | cons value rest ih =>
        intro state
        rw [List.foldl_cons, ih, filter_isKey_step, List.append_assoc]
        cases made : value.keyEntryOf deviceId with
        | none => simp [made]
        | some entry => simp [made]
  unfold makeEntries
  rw [List.filter_append, filter_isKey_parts, List.append_nil]
  exact fold _

/-! ## The motions -/

section

variable {values : List HidValue}

/-- What the value of a number moves along an axis. -/
def partAt (parameters : MakeEntriesParameters) (values : List HidValue) (axis : Axis)
    (number : Nat) : Int :=
  (values[number]?.map fun value => value.motionPart parameters axis).getD 0

/-- The value of a number goes into an entry. -/
def usedAt (values : List HidValue) (number : Nat) : Bool := values[number]?.any HidValue.isUsed

/-- The value of a number is one of an axis. -/
def OfAxis (values : List HidValue) (number : Nat) : Prop :=
  ∃ value, values[number]? = some value ∧ (value.axis? false).isSome = true

/-- The entry is made of the values of the numbers: a motion adds up values of axes, and
another entry is one of a single value. -/
structure MadeOf (deviceId : DeviceId) (parameters : MakeEntriesParameters)
    (values : List HidValue) (entry : Entry) (numbers : List Nat) : Prop where
  nonempty : numbers ≠ []
  parts : ∀ axis, entry.motionPart axis = (numbers.map (partAt parameters values axis)).sum
  motion : entry.isMotion = true → ∀ number ∈ numbers, OfAxis values number
  other : entry.isMotion = false → ∃ number value, numbers = [number] ∧
    values[number]? = some value ∧ entry ∈ value.entries deviceId false []

/-- The loop has accounted for the values so far: each that is used is in one entry or is
collected. -/
structure Accounts (deviceId : DeviceId) (parameters : MakeEntriesParameters)
    (values : List HidValue) (noted : Noted) : Prop where
  numbers : (noted.entries.flatMap Prod.snd ++ noted.collected).Perm
    ((List.range noted.count).filter (usedAt values))
  entries : ∀ x ∈ noted.entries, MadeOf deviceId parameters values x.1 x.2
  pending : ∀ axis, (noted.state.parts.part axis).getD 0 =
    (noted.collected.map (partAt parameters values axis)).sum
  axes : ∀ number ∈ noted.collected, OfAxis values number
  idle : noted.state.parts.timeStamp = none ↔ noted.collected = []

theorem motionPart_motion (parts : MotionParts) (last : Int) (axis : Axis) :
    (motion deviceId parts last).motionPart axis = (parts.part axis).getD 0 := by
  cases axis <;> rfl

/-- The motion that is collected is made of the collected values. -/
theorem Accounts.madeOf_motion {noted : Noted}
    (accounts : Accounts deviceId parameters values noted) (some : noted.collected ≠ [])
    (last : Int) :
    MadeOf deviceId parameters values (motion deviceId noted.state.parts last)
      noted.collected := by
  refine ⟨some, fun axis => ?_, fun _ => accounts.axes, fun isOther => ?_⟩
  · rw [motionPart_motion]
    exact accounts.pending axis
  · cases isOther

/-- A value that is no key, axis or LED makes no entry; another one that is not collected
makes one, which moves nothing. -/
theorem Accounts.other {noted : Noted} {taken : List Axis} {last : Int}
    (accounts : Accounts deviceId parameters values noted) (collects : Collects noted taken last)
    {value : HidValue} (isNext : values[noted.count]? = some value)
    (other : value.axis? false = none) :
    Accounts deviceId parameters values (noted.step deviceId false parameters value) := by
  obtain ⟨entries, collected, _, _⟩ :=
    @Collects.other deviceId false parameters noted taken last collects value other
  have count : (noted.step deviceId false parameters value).count = noted.count + 1 := by
    simp [Noted.step, other]
  have parts : (noted.step deviceId false parameters value).state.parts =
      noted.state.parts := by
    simp [Noted.step, other, step_eq]
  have none : ∀ axis, partAt parameters values axis noted.count = 0 := by
    intro axis
    simp [partAt, isNext, HidValue.motionPart_of_other other]
  refine ⟨?_, ?_, ?_, ?_, ?_⟩
  · have numbers : ((value.entries deviceId false noted.state.hat).map
        (·, [noted.count])).flatMap Prod.snd =
          if usedAt values noted.count then [noted.count] else [] := by
      have length := HidValue.length_entries other deviceId noted.state.hat
      have isUsed : usedAt values noted.count = value.isUsed := by simp [usedAt, isNext]
      rw [isUsed]
      cases used : value.isUsed with
      | true =>
          obtain ⟨entry, made⟩ := List.length_eq_one_iff.mp (length.trans (if_pos used))
          simp [made]
      | false =>
          have made := List.length_eq_zero_iff.mp (length.trans (if_neg (by simp [used])))
          simp [made]
    rw [entries, collected, count, List.range_succ, List.filter_append, List.flatMap_append,
      numbers, List.append_assoc]
    have single : [noted.count].filter (usedAt values) =
        if usedAt values noted.count then [noted.count] else [] := List.filter_cons
    rw [single]
    refine (List.Perm.append_left _ List.perm_append_comm).trans ?_
    rw [← List.append_assoc]
    exact accounts.numbers.append_right _
  · rw [entries]
    intro x member
    rcases List.mem_append.mp member with before | added
    · exact accounts.entries x before
    · obtain ⟨entry, made, rfl⟩ := List.mem_map.mp added
      have still : entry.isMotion = false ∧ ∀ axis, entry.motionPart axis = 0 := by
        obtain ⟨_, _, ⟨key, event⟩ | ⟨state, event⟩⟩ := mem_entries made
        · simp [Entry.isMotion, Entry.motionPart, event]
        · simp [Entry.isMotion, Entry.motionPart, event]
      refine ⟨List.cons_ne_nil _ _, fun axis => ?_, fun isMotion => ?_, fun _ => ?_⟩
      · rw [List.map_singleton, List.sum_singleton, none, still.2]
      · rw [still.1] at isMotion
        cases isMotion
      · exact ⟨noted.count, value, rfl, isNext, value.entries_hat deviceId _ ▸ made⟩
  · rw [parts, collected]
    exact accounts.pending
  · rw [collected]
    exact accounts.axes
  · rw [parts, collected]
    exact accounts.idle

theorem range_succ_of_axis {noted : Noted} {value : HidValue} {axis : Axis}
    (isNext : values[noted.count]? = some value) (isAxis : value.axis? false = some axis) :
    (List.range (noted.count + 1)).filter (usedAt values) =
      (List.range noted.count).filter (usedAt values) ++ [noted.count] := by
  have used : usedAt values noted.count = true := by
    simp [usedAt, isNext, HidValue.isUsed_of_axis isAxis]
  rw [List.range_succ, List.filter_append, List.filter_cons_of_pos used, List.filter_nil]

/-- A value of an axis is collected, and what was collected before it is added first when it
has the axis already. -/
theorem Accounts.axis {noted : Noted} {taken : List Axis} {last : Int}
    (accounts : Accounts deviceId parameters values noted) (collects : Collects noted taken last)
    {value : HidValue} (isNext : values[noted.count]? = some value) {axis : Axis}
    (isAxis : value.axis? false = some axis) :
    Accounts deviceId parameters values (noted.step deviceId false parameters value) := by
  have count : (noted.step deviceId false parameters value).count = noted.count + 1 := by
    simp [Noted.step, isAxis]
  have now : ∀ other, partAt parameters values other noted.count =
      if other = axis then value.adjusted parameters axis else 0 := by
    intro other
    simp [partAt, isNext, HidValue.motionPart_of_axis isAxis]
  have isOfAxis : OfAxis values noted.count := ⟨value, isNext, by rw [isAxis]; rfl⟩
  by_cases isTaken : axis ∈ taken
  · obtain ⟨entries, collected, _, _⟩ := @Collects.flushed deviceId false
      parameters noted taken last collects value axis isAxis isTaken
    have isSet : (noted.state.parts.part axis).isSome = true :=
      (collects.axes axis).mpr isTaken
    have parts : (noted.step deviceId false parameters value).state.parts =
        MotionParts.empty.setPart value.timeStamp (value.adjusted parameters axis) axis := by
      simp [Noted.step, isAxis, step_eq, flushIf, isSet]
    refine ⟨?_, ?_, ?_, ?_, ?_⟩
    · rw [entries, collected, count, range_succ_of_axis isNext isAxis, List.flatMap_append]
      simpa using accounts.numbers.append_right [noted.count]
    · rw [entries]
      refine List.forall_mem_append.mpr ⟨accounts.entries, List.forall_mem_singleton.mpr ?_⟩
      exact accounts.madeOf_motion (collects.collected (List.ne_nil_of_mem isTaken)) last
    · intro other
      rw [parts, collected, MotionParts.part_setPart, MotionParts.part_empty, List.map_singleton,
        List.sum_singleton, now]
      split
      · rfl
      · rfl
    · rw [collected]
      exact List.forall_mem_singleton.mpr isOfAxis
    · rw [parts, MotionParts.timeStamp_setPart, collected]
      exact iff_of_false (Option.some_ne_none _) (List.cons_ne_nil _ _)
  · obtain ⟨entries, collected, _, _⟩ := @Collects.joined deviceId false
      parameters noted taken last collects value axis isAxis isTaken
    have unset : ¬(noted.state.parts.part axis).isSome = true :=
      mt (collects.axes axis).mp isTaken
    have parts : (noted.step deviceId false parameters value).state.parts =
        noted.state.parts.setPart value.timeStamp (value.adjusted parameters axis) axis := by
      simp [Noted.step, isAxis, step_eq, flushIf, unset]
    refine ⟨?_, ?_, ?_, ?_, ?_⟩
    · rw [entries, collected, count, range_succ_of_axis isNext isAxis, ← List.append_assoc]
      exact accounts.numbers.append_right _
    · rw [entries]
      exact accounts.entries
    · intro other
      rw [parts, collected, MotionParts.part_setPart, List.map_append, List.sum_append,
        List.map_singleton, List.sum_singleton, now, ← accounts.pending other]
      split
      · rename_i same
        have isNone : noted.state.parts.part axis = none := Option.not_isSome_iff_eq_none.mp unset
        simp [same, isNone]
      · exact (Int.add_zero _).symm
    · rw [collected]
      exact List.forall_mem_append.mpr ⟨accounts.axes, List.forall_mem_singleton.mpr isOfAxis⟩
    · rw [parts, MotionParts.timeStamp_setPart, collected]
      exact iff_of_false (Option.some_ne_none _)
        (List.append_ne_nil_of_right_ne_nil _ (List.cons_ne_nil _ _))

/-- The loop accounts for all values. -/
theorem Accounts.foldl {noted : Noted} {taken : List Axis} {last : Int}
    (accounts : Accounts deviceId parameters values noted) (collects : Collects noted taken last)
    (rest : List HidValue) (isRest : values.drop noted.count = rest) :
    Accounts deviceId parameters values (rest.foldl (Noted.step deviceId false parameters) noted) ∧
      (rest.foldl (Noted.step deviceId false parameters) noted).count =
        noted.count + rest.length := by
  induction rest generalizing noted taken last with
  | nil => exact ⟨accounts, rfl⟩
  | cons value rest ih =>
      have isNext : values[noted.count]? = some value := by
        rw [← List.head?_drop, isRest, List.head?_cons]
      have count : (noted.step deviceId false parameters value).count = noted.count + 1 := by
        unfold Noted.step
        cases value.axis? false with
        | none => rfl
        | some axis => rfl
      have isRest' : values.drop (noted.step deviceId false parameters value).count = rest := by
        rw [count, ← List.tail_drop, isRest, List.tail_cons]
      have shift : noted.count + (value :: rest).length =
          (noted.step deviceId false parameters value).count + rest.length := by
        rw [count, List.length_cons]
        omega
      rw [List.foldl_cons, shift]
      cases isAxis : value.axis? false with
      | none =>
          exact ih (accounts.other collects isNext isAxis) (collects.other isAxis).2.2.2 isRest'
      | some axis =>
          have stepped := @Accounts.axis deviceId parameters values noted taken last accounts
            collects value isNext axis isAxis
          by_cases isTaken : axis ∈ taken
          · exact ih stepped (collects.flushed isAxis isTaken).2.2.2 isRest'
          · exact ih stepped (collects.joined isAxis isTaken).2.2.2 isRest'

/-- What is collected in the end is added as the last motion. -/
theorem Accounts.final {noted : Noted} {taken : List Axis} {last : Int}
    (accounts : Accounts deviceId parameters values noted) (collects : Collects noted taken last) :
    ((noted.final deviceId).flatMap Prod.snd).Perm
        ((List.range noted.count).filter (usedAt values)) ∧
      ∀ x ∈ noted.final deviceId, MadeOf deviceId parameters values x.1 x.2 := by
  unfold Noted.final
  rw [collects.entries_parts]
  split
  · rename_i none
    rw [List.map_nil, List.append_nil]
    have nothing : noted.collected = [] :=
      accounts.idle.mp (collects.time.trans (if_pos none))
    have numbers := accounts.numbers
    rw [nothing, List.append_nil] at numbers
    exact ⟨numbers, accounts.entries⟩
  · refine ⟨by simpa using accounts.numbers, ?_⟩
    refine List.forall_mem_append.mpr ⟨accounts.entries, List.forall_mem_singleton.mpr ?_⟩
    rename_i some
    exact accounts.madeOf_motion (collects.collected some) last

theorem accounts_initial (hat : HatDirection) :
    Accounts deviceId parameters values (.initial hat) := by
  refine ⟨List.Perm.nil, ?_, ?_, ?_, iff_of_true rfl rfl⟩
  · exact fun _ none => absurd none List.not_mem_nil
  · intro axis
    cases axis <;> rfl
  · exact fun _ none => absurd none List.not_mem_nil

/-- The sum over the values that are used is the one over the values of the axis. -/
theorem sum_partAt (parameters : MakeEntriesParameters) (values : List HidValue) (axis : Axis) :
    (((List.range values.length).filter (usedAt values)).map
        (partAt parameters values axis)).sum =
      ((values.filter fun value => value.axis? false = some axis).map
        (HidValue.adjusted · parameters axis)).sum := by
  induction values using List.reverseRecOn with
  | nil => rfl
  | append_singleton before value ih =>
      have stays : ∀ number ∈ List.range before.length,
          usedAt (before ++ [value]) number = usedAt before number := by
        intro number member
        unfold usedAt
        rw [List.getElem?_append_left (List.mem_range.mp member)]
      have same : ∀ number ∈ (List.range before.length).filter (usedAt before),
          partAt parameters (before ++ [value]) axis number =
            partAt parameters before axis number := by
        intro number member
        unfold partAt
        rw [List.getElem?_append_left (List.mem_range.mp (List.mem_filter.mp member).1)]
      have now : (([before.length].filter (usedAt (before ++ [value]))).map
          (partAt parameters (before ++ [value]) axis)).sum =
            value.motionPart parameters axis := by
        have isLast : partAt parameters (before ++ [value]) axis before.length =
            value.motionPart parameters axis := by simp [partAt]
        have used : usedAt (before ++ [value]) before.length = value.isUsed := by simp [usedAt]
        rw [List.filter_cons, used]
        split
        · simp [isLast]
        · rename_i unused
          have other : value.axis? false ≠ some axis := fun isAxis =>
            unused (HidValue.isUsed_of_axis isAxis)
          simp [HidValue.motionPart, other]
      rw [List.length_append, List.length_singleton, List.range_succ, List.filter_append,
        List.map_append, List.sum_append, now, List.filter_congr stays,
        List.map_congr_left same, ih, List.filter_append, List.map_append, List.sum_append]
      congr 1
      unfold HidValue.motionPart
      rw [List.filter_cons]
      split
      · rename_i isAxis
        simp [isAxis]
      · rename_i other
        simp [other]

end

/-- The made entries of a device that is not a game pad lose and repeat nothing. The key
entries are those of the values of keys in their order. Each axis moves by the sum of its
values. Each entry is made of some of the values, and each value that is used goes into one
of them. -/
theorem makeEntries_conserves (deviceId : DeviceId) (parameters : MakeEntriesParameters)
    (hat : HatDirection) (values : List HidValue) :
    (makeEntries deviceId false parameters hat values).1.filter Entry.isKey =
        values.filterMap (HidValue.keyEntryOf · deviceId) ∧
      (∀ axis, ((makeEntries deviceId false parameters hat values).1.map
          (Entry.motionPart · axis)).sum =
        ((values.filter fun value => value.axis? false = some axis).map
          (HidValue.adjusted · parameters axis)).sum) ∧
      ∃ made : List (Entry × List Nat),
        made.map Prod.fst = (makeEntries deviceId false parameters hat values).1 ∧
        (made.flatMap Prod.snd).Perm ((List.range values.length).filter (usedAt values)) ∧
        ∀ x ∈ made, MadeOf deviceId parameters values x.1 x.2 := by
  obtain ⟨_, _, collects⟩ :=
    @Collects.foldl deviceId false parameters _ _ _ (collects_initial hat) values
  obtain ⟨accounts, count⟩ := @Accounts.foldl deviceId parameters values _ _ _
    (accounts_initial hat) (collects_initial hat) values rfl
  obtain ⟨numbers, madeOf⟩ := @Accounts.final deviceId parameters values _ _ _ accounts collects
  have total : (values.foldl (Noted.step deviceId false parameters) (.initial hat)).count =
      values.length := count.trans (Nat.zero_add _)
  rw [total] at numbers
  have made := notedEntries_fst deviceId false parameters hat values
  refine ⟨filter_isKey_makeEntries hat values, fun axis => ?_,
    notedEntries deviceId false parameters hat values, made, numbers, madeOf⟩
  have parts : (notedEntries deviceId false parameters hat values).map
      (fun x => x.1.motionPart axis) =
        (notedEntries deviceId false parameters hat values).map
          fun x => (x.2.map (partAt parameters values axis)).sum :=
    List.map_congr_left fun x member => (madeOf x member).parts axis
  calc ((makeEntries deviceId false parameters hat values).1.map (Entry.motionPart · axis)).sum
      = ((notedEntries deviceId false parameters hat values).map
          fun x => (x.2.map (partAt parameters values axis)).sum).sum := by
        rw [← made, List.map_map, ← parts]
        rfl
    _ = (((notedEntries deviceId false parameters hat values).flatMap Prod.snd).map
          (partAt parameters values axis)).sum := by
        rw [List.map_flatMap, List.flatMap_def, List.sum_flatten, List.map_map]
        rfl
    _ = (((List.range values.length).filter (usedAt values)).map
          (partAt parameters values axis)).sum := (numbers.map _).sum_eq
    _ = _ := sum_partAt parameters values axis

end MakeEntries

end Karabiner
