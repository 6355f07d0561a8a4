import Karabiner.EventQueue.CanonicalOrder
import Karabiner.Grabber.MadeEntries

/-! # The order of the made entries

The entries of keys are added at once, and a motion is added when one of its axes comes
again or at the end. So a key that comes behind the last value of a motion is added before
it, and nothing else is out of order (`MakeEntries.keepsTime_iff_inTime`).
-/

namespace Karabiner

/-- An entry is a pointing motion. -/
def Entry.isMotion (entry : Entry) : Bool :=
  match entry.event with
  | .pointingMotion _ => true
  | _ => false

namespace MakeEntries

/-! ## Which values an entry is made of -/

/-- The loop with the entries added so far and the values that each of them is made of. -/
structure Noted where
  state : MakeEntries
  entries : List (Entry × List Nat)
  /-- The values that are collected for the next motion. -/
  collected : List Nat
  /-- The number of values so far. -/
  count : Nat

def Noted.initial (hat : HatDirection) : Noted := ⟨⟨[], .empty, hat⟩, [], [], 0⟩

/-- A value of an axis adds the motion collected before it, if any; the entries another value
adds are made of that value. -/
def Noted.step (deviceId : DeviceId) (isGamePad : Bool) (parameters : MakeEntriesParameters)
    (noted : Noted) (value : HidValue) : Noted :=
  let state := MakeEntries.step deviceId isGamePad parameters noted.state value
  let added := state.result.drop noted.state.result.length
  match value.axis? isGamePad with
  | some _ =>
      { state := state
        entries := noted.entries ++ added.map fun entry => (entry, noted.collected)
        collected := (if added = [] then noted.collected else []) ++ [noted.count]
        count := noted.count + 1 }
  | none =>
      { state := state
        entries := noted.entries ++ added.map fun entry => (entry, [noted.count])
        collected := noted.collected
        count := noted.count + 1 }

/-- The motion that is left is added in the end. -/
def Noted.final (deviceId : DeviceId) (noted : Noted) : List (Entry × List Nat) :=
  noted.entries ++ (noted.state.parts.entries deviceId).map fun entry => (entry, noted.collected)

/-- The made entries, each with the numbers of the values it is made of. -/
def notedEntries (deviceId : DeviceId) (isGamePad : Bool) (parameters : MakeEntriesParameters)
    (hat : HatDirection) (values : List HidValue) : List (Entry × List Nat) :=
  (values.foldl (Noted.step deviceId isGamePad parameters) (.initial hat)).final deviceId

/-- The values of the second entry all come before those of the first one. -/
def MadeBefore (x y : Entry × List Nat) : Prop := ∀ s ∈ y.2, ∀ r ∈ x.2, s < r

/-- The entries are in order of time, and no motion made of values that precede a button or
key is placed behind it. -/
structure KeepsTime (deviceId : DeviceId) (isGamePad : Bool) (parameters : MakeEntriesParameters)
    (hat : HatDirection) (values : List HidValue) : Prop where
  ordered : (makeEntries deviceId isGamePad parameters hat values).1.Pairwise fun x y =>
    x.eventTimeStamp.timeStamp ≤ y.eventTimeStamp.timeStamp
  motions : (notedEntries deviceId isGamePad parameters hat values).Pairwise fun x y =>
    x.1.isKey = true → y.1.isMotion = true → ¬MadeBefore x y

/-! ## What comes behind a motion -/

/-- The axes collected after a value: the motion is added before an axis it has already. -/
def nextTaken (isGamePad : Bool) (taken : List Axis) (value : HidValue) : List Axis :=
  match value.axis? isGamePad with
  | some axis => if axis ∈ taken then [axis] else axis :: taken
  | none => taken

/-- The next value of an axis is collected with the axes that are taken. -/
def Joined (isGamePad : Bool) (taken : List Axis) (values : List HidValue) : Prop :=
  ∃ axis ∈ (values.filterMap (HidValue.axis? · isGamePad)).head?, axis ∉ taken

/-- Nothing overtakes a motion: where no value of an axis is to join the motion that is
collected, no key is pressed or released, and no other entry is made of a later time than
the last value of the motion. -/
def InTime (deviceId : DeviceId) (isGamePad : Bool) :
    List Axis → Int → HatDirection → List HidValue → Prop
  | _, _, _, [] => True
  | taken, last, hat, value :: rest =>
      (taken = [] ∨ Joined isGamePad taken rest ∨
        ∀ entry ∈ value.entries deviceId isGamePad hat,
          entry.isKey = false ∧ value.timeStamp ≤ last) ∧
      InTime deviceId isGamePad (nextTaken isGamePad taken value)
        (if (value.axis? isGamePad).isSome then value.timeStamp else last)
        (value.nextHat isGamePad hat) rest

/-! ## One value -/

section

variable {deviceId : DeviceId} {isGamePad : Bool} {parameters : MakeEntriesParameters}

/-- What the loop has collected and added so far. -/
structure Collects (noted : Noted) (taken : List Axis) (last : Int) : Prop where
  axes : ∀ axis, (noted.state.parts.part axis).isSome = true ↔ axis ∈ taken
  time : noted.state.parts.timeStamp = if taken = [] then none else some last
  collected : taken ≠ [] → noted.collected ≠ []
  collectedEarlier : ∀ s ∈ noted.collected, s < noted.count
  made : ∀ x ∈ noted.entries, x.2 ≠ []
  madeEarlier : ∀ x ∈ noted.entries, ∀ r ∈ x.2, r < noted.count
  erase : noted.entries.map Prod.fst = noted.state.result

/-- The motion that is collected. -/
def motion (deviceId : DeviceId) (parts : MotionParts) (last : Int) : Entry :=
  .original deviceId last (.pointingMotion ⟨parts.x.getD 0, parts.y.getD 0,
    parts.verticalWheel.getD 0, parts.horizontalWheel.getD 0⟩) .single

/-- Motion that has been collected becomes one entry at the last time, and none if nothing was
collected. -/
theorem Collects.entries_parts {noted : Noted} {taken : List Axis} {last : Int}
    (collects : Collects noted taken last) :
    noted.state.parts.entries deviceId =
      if taken = [] then [] else [motion deviceId noted.state.parts last] := by
  unfold MotionParts.entries
  rw [collects.time]
  split
  · rename_i timeStamp isSome
    split at isSome
    · cases isSome
    · rename_i some
      rw [if_neg some, Option.some.inj isSome]
      rfl
  · rename_i isNone
    split at isNone
    · rename_i none
      rw [if_pos none]
    · cases isNone

/-- A value that is not collected adds its entries. -/
theorem Collects.other {noted : Noted} {taken : List Axis} {last : Int}
    (collects : Collects noted taken last) {value : HidValue}
    (other : value.axis? isGamePad = none) :
    (noted.step deviceId isGamePad parameters value).entries = noted.entries ++
        (value.entries deviceId isGamePad noted.state.hat).map (·, [noted.count]) ∧
      (noted.step deviceId isGamePad parameters value).collected = noted.collected ∧
      (noted.step deviceId isGamePad parameters value).state.hat =
        value.nextHat isGamePad noted.state.hat ∧
      Collects (noted.step deviceId isGamePad parameters value) taken last := by
  have stepped : noted.step deviceId isGamePad parameters value =
      { state :=
          { result := noted.state.result ++ value.entries deviceId isGamePad noted.state.hat
            parts := noted.state.parts
            hat := value.nextHat isGamePad noted.state.hat }
        entries := noted.entries ++
          (value.entries deviceId isGamePad noted.state.hat).map (·, [noted.count])
        collected := noted.collected
        count := noted.count + 1 } := by
    unfold Noted.step
    simp only [step_eq, other, List.drop_left]
  rw [stepped]
  refine ⟨rfl, rfl, rfl, collects.axes, collects.time, collects.collected, ?_, ?_, ?_, ?_⟩
  · exact fun s member => Nat.lt_succ_of_lt (collects.collectedEarlier s member)
  · intro x member
    rcases List.mem_append.mp member with before | added
    · exact collects.made x before
    · obtain ⟨_, _, rfl⟩ := List.mem_map.mp added
      exact List.cons_ne_nil _ _
  · intro x member r isValue
    rcases List.mem_append.mp member with before | added
    · exact Nat.lt_succ_of_lt (collects.madeEarlier x before r isValue)
    · obtain ⟨_, _, rfl⟩ := List.mem_map.mp added
      rw [List.mem_singleton.mp isValue]
      exact Nat.lt_succ_self _
  · simp [collects.erase, Function.comp_def]

/-- A value of an axis that is not taken joins the motion. -/
theorem Collects.joined {noted : Noted} {taken : List Axis} {last : Int}
    (collects : Collects noted taken last) {value : HidValue} {axis : Axis}
    (isAxis : value.axis? isGamePad = some axis) (free : axis ∉ taken) :
    (noted.step deviceId isGamePad parameters value).entries = noted.entries ∧
      (noted.step deviceId isGamePad parameters value).collected =
        noted.collected ++ [noted.count] ∧
      (noted.step deviceId isGamePad parameters value).state.hat = noted.state.hat ∧
      Collects (noted.step deviceId isGamePad parameters value) (axis :: taken)
        value.timeStamp := by
  have unset : ¬(noted.state.parts.part axis).isSome = true := mt (collects.axes axis).mp free
  have stepped : noted.step deviceId isGamePad parameters value =
      { state := { noted.state with
          parts := noted.state.parts.setPart value.timeStamp (value.adjusted parameters axis) axis }
        entries := noted.entries
        collected := noted.collected ++ [noted.count]
        count := noted.count + 1 } := by
    unfold Noted.step
    simp [step_eq, isAxis, flushIf, unset]
  rw [stepped]
  refine ⟨rfl, rfl, rfl, fun other => ?_, ?_, ?_, ?_, collects.made, ?_, collects.erase⟩
  · change ((noted.state.parts.setPart _ _ axis).part other).isSome = true ↔ _
    rw [MotionParts.part_setPart, List.mem_cons, ← collects.axes]
    split
    · rename_i same
      exact iff_of_true rfl (.inl same)
    · rename_i different
      exact (or_iff_right different).symm
  · rw [if_neg (List.cons_ne_nil _ _)]
    exact MotionParts.timeStamp_setPart _ _ _ _
  · exact fun _ => List.append_ne_nil_of_right_ne_nil _ (List.cons_ne_nil _ _)
  · intro s member
    rcases List.mem_append.mp member with before | now
    · exact Nat.lt_succ_of_lt (collects.collectedEarlier s before)
    · rw [List.mem_singleton.mp now]
      exact Nat.lt_succ_self _
  · exact fun x member r isValue => Nat.lt_succ_of_lt (collects.madeEarlier x member r isValue)

/-- A value of an axis that is taken adds the motion and starts a new one. -/
theorem Collects.flushed {noted : Noted} {taken : List Axis} {last : Int}
    (collects : Collects noted taken last) {value : HidValue} {axis : Axis}
    (isAxis : value.axis? isGamePad = some axis) (isTaken : axis ∈ taken) :
    (noted.step deviceId isGamePad parameters value).entries =
        noted.entries ++ [(motion deviceId noted.state.parts last, noted.collected)] ∧
      (noted.step deviceId isGamePad parameters value).collected = [noted.count] ∧
      (noted.step deviceId isGamePad parameters value).state.hat = noted.state.hat ∧
      Collects (noted.step deviceId isGamePad parameters value) [axis] value.timeStamp := by
  have isSet : (noted.state.parts.part axis).isSome = true := (collects.axes axis).mpr isTaken
  have some : taken ≠ [] := List.ne_nil_of_mem isTaken
  have stepped : noted.step deviceId isGamePad parameters value =
      { state :=
          { result := noted.state.result ++ [motion deviceId noted.state.parts last]
            parts := MotionParts.empty.setPart value.timeStamp (value.adjusted parameters axis) axis
            hat := noted.state.hat }
        entries := noted.entries ++ [(motion deviceId noted.state.parts last, noted.collected)]
        collected := [noted.count]
        count := noted.count + 1 } := by
    unfold Noted.step
    simp [step_eq, isAxis, flushIf, isSet, collects.entries_parts, some]
  rw [stepped]
  refine ⟨rfl, rfl, rfl, fun other => ?_, ?_, ?_, ?_, ?_, ?_, ?_⟩
  · change ((MotionParts.empty.setPart _ _ axis).part other).isSome = true ↔ _
    rw [MotionParts.part_setPart, List.mem_singleton, MotionParts.part_empty]
    split
    · rename_i same
      exact iff_of_true rfl same
    · rename_i different
      exact iff_of_false (by simp) different
  · rw [if_neg (List.cons_ne_nil _ _)]
    exact MotionParts.timeStamp_setPart _ _ _ _
  · exact fun _ => List.cons_ne_nil _ _
  · intro s member
    rw [List.mem_singleton.mp member]
    exact Nat.lt_succ_self _
  · intro x member
    rcases List.mem_append.mp member with before | now
    · exact collects.made x before
    · rw [List.mem_singleton.mp now]
      exact collects.collected some
  · intro x member r isValue
    rcases List.mem_append.mp member with before | now
    · exact Nat.lt_succ_of_lt (collects.madeEarlier x before r isValue)
    · rw [List.mem_singleton.mp now] at isValue
      exact Nat.lt_succ_of_lt (collects.collectedEarlier r isValue)
  · simp [collects.erase]

/-! ## The values of a list -/

/-- Neither the time nor the values of two entries are the wrong way round. -/
def Follows (x y : Entry × List Nat) : Prop :=
  x.1.eventTimeStamp.timeStamp ≤ y.1.eventTimeStamp.timeStamp ∧
    (x.1.isKey = true → y.1.isMotion = true → ¬MadeBefore x y)

/-- An entry would be out of order with the motion that is collected. -/
def Overtakes (noted : Noted) (last : Int) : Prop :=
  ∃ x ∈ noted.entries, last < x.1.eventTimeStamp.timeStamp ∨
    x.1.isKey = true ∧ ∀ s ∈ noted.collected, ∀ r ∈ x.2, s < r

/-- The motion goes behind the entries exactly when none of them has overtaken it. -/
theorem pairwise_motion_iff (noted : Noted) (last : Int) :
    (noted.entries ++ [(motion deviceId noted.state.parts last, noted.collected)]).Pairwise
        Follows ↔
      noted.entries.Pairwise Follows ∧ ¬Overtakes noted last := by
  rw [List.pairwise_append]
  refine and_congr_right fun _ => ?_
  rw [and_iff_right (List.pairwise_singleton _ _)]
  unfold Overtakes
  constructor
  · rintro behind ⟨x, member, late | ⟨isKey, later⟩⟩
    · exact absurd (behind x member _ List.mem_cons_self).1 (not_le.mpr late)
    · exact (behind x member _ List.mem_cons_self).2 isKey rfl later
  · intro none x member y isMotion
    rw [List.mem_singleton.mp isMotion]
    refine ⟨not_lt.mp fun late => none ⟨x, member, .inl late⟩, fun isKey _ later => ?_⟩
    exact none ⟨x, member, .inr ⟨isKey, later⟩⟩

/-- The entries of a value that is not collected go behind those of earlier times. -/
theorem pairwise_entries_iff (noted : Noted) (value : HidValue) (hat : HatDirection)
    (early : ∀ x ∈ noted.entries, x.1.eventTimeStamp.timeStamp ≤ value.timeStamp) :
    (noted.entries ++ (value.entries deviceId isGamePad hat).map (·, [noted.count])).Pairwise
        Follows ↔
      noted.entries.Pairwise Follows := by
  have made : ∀ y ∈ (value.entries deviceId isGamePad hat).map (·, [noted.count]),
      y.1.eventTimeStamp.timeStamp = value.timeStamp ∧ y.1.isMotion = false := by
    intro y member
    obtain ⟨entry, isMade, rfl⟩ := List.mem_map.mp member
    obtain ⟨_, time, kind⟩ := mem_entries isMade
    refine ⟨congrArg EventTimeStamp.timeStamp time, ?_⟩
    rcases kind with ⟨_, event⟩ | ⟨_, event⟩
    · simp [Entry.isMotion, event]
    · simp [Entry.isMotion, event]
  have still : ∀ y ∈ (value.entries deviceId isGamePad hat).map (·, [noted.count]), ∀ x,
      x.1.eventTimeStamp.timeStamp ≤ value.timeStamp → Follows x y := by
    intro y member x earlier
    refine ⟨by rw [(made y member).1]; exact earlier, fun _ isMotion => ?_⟩
    rw [(made y member).2] at isMotion
    cases isMotion
  rw [List.pairwise_append]
  constructor
  · exact fun all => all.1
  · refine fun before => ⟨before, ?_, fun x isBefore y member => still y member x (early x isBefore)⟩
    refine List.pairwise_of_forall_mem_list fun x isFirst y member => ?_
    exact still y member x (le_of_eq (made x isFirst).1)

/-- Only a key, or an entry of a later time, overtakes the motion. -/
theorem Collects.overtakes_iff {noted : Noted} {taken : List Axis} {last : Int}
    (collects : Collects noted taken last) {value : HidValue}
    (other : value.axis? isGamePad = none) :
    Overtakes (noted.step deviceId isGamePad parameters value) last ↔
      Overtakes noted last ∨
        ¬∀ entry ∈ value.entries deviceId isGamePad noted.state.hat,
          entry.isKey = false ∧ value.timeStamp ≤ last := by
  obtain ⟨entries, collected, _, _⟩ :=
    @Collects.other deviceId isGamePad parameters noted taken last collects value other
  unfold Overtakes
  rw [entries, collected]
  constructor
  · rintro ⟨x, member, late⟩
    rcases List.mem_append.mp member with before | now
    · exact .inl ⟨x, before, late⟩
    · obtain ⟨entry, made, rfl⟩ := List.mem_map.mp now
      refine .inr fun quiet => ?_
      obtain ⟨noKey, inTime⟩ := quiet entry made
      rcases late with later | ⟨isKey, _⟩
      · rw [(mem_entries made).2.1] at later
        exact absurd later (not_lt.mpr inTime)
      · rw [noKey] at isKey
        cases isKey
  · rintro (⟨x, before, late⟩ | loud)
    · exact ⟨x, List.mem_append_left _ before, late⟩
    · push Not at loud
      obtain ⟨entry, made, late⟩ := loud
      refine ⟨(entry, [noted.count]), List.mem_append_right _ (List.mem_map_of_mem made), ?_⟩
      cases isKey : entry.isKey with
      | true =>
          refine .inr ⟨rfl, fun s member r isValue => ?_⟩
          rw [List.mem_singleton.mp isValue]
          exact collects.collectedEarlier s member
      | false =>
          refine .inl ?_
          rw [(mem_entries made).2.1]
          exact late isKey

/-- Nothing has overtaken a motion that ends with the value before. -/
theorem not_overtakes {noted : Noted} {last : Int} {count : Nat}
    (early : ∀ x ∈ noted.entries, x.1.eventTimeStamp.timeStamp ≤ last)
    (made : ∀ x ∈ noted.entries, x.2 ≠ []) (madeEarlier : ∀ x ∈ noted.entries, ∀ r ∈ x.2, r < count)
    (isLast : count ∈ noted.collected) : ¬Overtakes noted last := by
  rintro ⟨x, member, late | ⟨_, later⟩⟩
  · exact absurd late (not_lt.mpr (early x member))
  · obtain ⟨r, isValue⟩ := List.exists_mem_of_ne_nil _ (made x member)
    exact absurd (later count isLast r isValue) (Nat.lt_asymm (madeEarlier x member r isValue))

theorem joined_cons_of_other {value : HidValue} (other : value.axis? isGamePad = none)
    (taken : List Axis) (rest : List HidValue) :
    Joined isGamePad taken (value :: rest) ↔ Joined isGamePad taken rest := by
  simp [Joined, other]

theorem joined_cons_of_axis {value : HidValue} {axis : Axis}
    (isAxis : value.axis? isGamePad = some axis) (taken : List Axis) (rest : List HidValue) :
    Joined isGamePad taken (value :: rest) ↔ axis ∉ taken := by
  simp [Joined, isAxis]

/-- From what is collected and added, the entries of the remaining values come out in order
exactly when these are in time and what has overtaken the motion is made up for. -/
theorem Collects.final_iff {noted : Noted} {taken : List Axis} {last : Int}
    (collects : Collects noted taken last) (values : List HidValue)
    (sorted : values.Pairwise fun v w => v.timeStamp ≤ w.timeStamp)
    (early : ∀ x ∈ noted.entries, ∀ value ∈ values,
      x.1.eventTimeStamp.timeStamp ≤ value.timeStamp)
    (earlyMotion : taken ≠ [] → ∀ value ∈ values, last ≤ value.timeStamp) :
    ((values.foldl (Noted.step deviceId isGamePad parameters) noted).final deviceId).Pairwise
        Follows ↔
      noted.entries.Pairwise Follows ∧
        InTime deviceId isGamePad taken last noted.state.hat values ∧
        (taken ≠ [] → Overtakes noted last → Joined isGamePad taken values) := by
  induction values generalizing noted taken last with
  | nil =>
      have noMore : ¬Joined isGamePad taken [] := fun ⟨_, isNext, _⟩ => by cases isNext
      change (noted.entries ++ (noted.state.parts.entries deviceId).map
        fun entry => (entry, noted.collected)).Pairwise Follows ↔ _
      rw [collects.entries_parts]
      split
      · rename_i none
        rw [List.map_nil, List.append_nil]
        exact ⟨fun before => ⟨before, trivial, fun some => absurd none some⟩, fun all => all.1⟩
      · rename_i some
        rw [List.map_cons, List.map_nil, pairwise_motion_iff]
        refine and_congr_right fun _ => ⟨fun kept => ⟨trivial, fun _ late => absurd late kept⟩, ?_⟩
        exact fun all late => noMore (all.2 some late)
  | cons value rest ih =>
      obtain ⟨fromValue, sortedRest⟩ := List.pairwise_cons.mp sorted
      have earlyValue := fun x member => early x member value List.mem_cons_self
      have earlyRest := fun x member w isLater => early x member w (List.mem_cons_of_mem _ isLater)
      rw [List.foldl_cons]
      conv_rhs => unfold InTime nextTaken
      cases isAxis : value.axis? isGamePad with
      | none =>
          obtain ⟨entries, _, hat, after⟩ :=
            @Collects.other deviceId isGamePad parameters noted taken last collects value isAxis
          have late := @Collects.overtakes_iff deviceId isGamePad parameters _ _ _ collects _ isAxis
          rw [ih after sortedRest, entries, hat, late, pairwise_entries_iff noted value _ earlyValue,
            joined_cons_of_other isAxis]
          · simp only [Option.isSome_none, Bool.false_eq_true, if_false]
            tauto
          · rw [entries]
            intro x member w isLater
            rcases List.mem_append.mp member with before | now
            · exact earlyRest x before w isLater
            · obtain ⟨entry, made, rfl⟩ := List.mem_map.mp now
              rw [(mem_entries made).2.1]
              exact fromValue w isLater
          · exact fun some w isLater => earlyMotion some w (List.mem_cons_of_mem _ isLater)
      | some axis =>
          have quiet := value.entries_of_axis isAxis deviceId noted.state.hat
          rw [value.nextHat_of_axis isAxis, joined_cons_of_axis isAxis, quiet]
          simp only [Option.isSome_some, if_true, List.not_mem_nil, false_implies,
            implies_true, or_true, true_and]
          by_cases isTaken : axis ∈ taken
          · have some : taken ≠ [] := List.ne_nil_of_mem isTaken
            obtain ⟨entries, collected, hat, after⟩ := @Collects.flushed deviceId isGamePad
              parameters noted taken last collects value axis isAxis isTaken
            have kept : ¬Overtakes (noted.step deviceId isGamePad parameters value)
                value.timeStamp := by
              refine not_overtakes (entries ▸ ?_) after.made (entries ▸ ?_)
                (collected ▸ List.mem_singleton_self noted.count)
              · exact List.forall_mem_append.mpr ⟨earlyValue,
                  List.forall_mem_singleton.mpr (earlyMotion some value List.mem_cons_self)⟩
              · exact List.forall_mem_append.mpr ⟨collects.madeEarlier,
                  List.forall_mem_singleton.mpr collects.collectedEarlier⟩
            rw [ih after sortedRest, entries, hat, pairwise_motion_iff, if_pos isTaken]
            · tauto
            · rw [entries]
              exact List.forall_mem_append.mpr ⟨earlyRest, List.forall_mem_singleton.mpr
                fun w isLater => earlyMotion some w (List.mem_cons_of_mem _ isLater)⟩
            · exact fun _ w isLater => fromValue w isLater
          · obtain ⟨entries, collected, hat, after⟩ := @Collects.joined deviceId isGamePad
              parameters noted taken last collects value axis isAxis isTaken
            have kept : ¬Overtakes (noted.step deviceId isGamePad parameters value)
                value.timeStamp :=
              not_overtakes (entries ▸ earlyValue) after.made (entries ▸ collects.madeEarlier)
                (collected ▸ List.mem_append_right _ (List.mem_singleton_self noted.count))
            rw [ih after sortedRest, entries, hat, if_neg isTaken]
            · tauto
            · rw [entries]
              exact earlyRest
            · exact fun _ w isLater => fromValue w isLater

/-- What is collected stays collected. -/
theorem Collects.foldl {noted : Noted} {taken : List Axis} {last : Int}
    (collects : Collects noted taken last) (values : List HidValue) :
    ∃ taken' last', Collects (values.foldl (Noted.step deviceId isGamePad parameters) noted)
      taken' last' := by
  induction values generalizing noted taken last with
  | nil => exact ⟨taken, last, collects⟩
  | cons value rest ih =>
      cases isAxis : value.axis? isGamePad with
      | none => exact ih (collects.other isAxis).2.2.2
      | some axis =>
          by_cases isTaken : axis ∈ taken
          · exact ih (collects.flushed isAxis isTaken).2.2.2
          · exact ih (collects.joined isAxis isTaken).2.2.2

theorem foldl_state (noted : Noted) (values : List HidValue) :
    (values.foldl (Noted.step deviceId isGamePad parameters) noted).state =
      values.foldl (MakeEntries.step deviceId isGamePad parameters) noted.state := by
  induction values generalizing noted with
  | nil => rfl
  | cons value rest ih =>
      rw [List.foldl_cons, List.foldl_cons, ih]
      unfold Noted.step
      cases value.axis? isGamePad with
      | none => rfl
      | some axis => rfl

theorem collects_initial (hat : HatDirection) : Collects (.initial hat) [] 0 := by
  refine ⟨fun axis => ?_, rfl, fun some => absurd rfl some, ?_, ?_, ?_, rfl⟩
  · exact iff_of_false (by simp [Noted.initial]) List.not_mem_nil
  · exact fun _ none => absurd none List.not_mem_nil
  · exact fun _ none => absurd none List.not_mem_nil
  · exact fun _ none => absurd none List.not_mem_nil

end

/-- The noted entries are the made ones. -/
theorem notedEntries_fst (deviceId : DeviceId) (isGamePad : Bool)
    (parameters : MakeEntriesParameters) (hat : HatDirection) (values : List HidValue) :
    (notedEntries deviceId isGamePad parameters hat values).map Prod.fst =
      (makeEntries deviceId isGamePad parameters hat values).1 := by
  obtain ⟨_, _, collects⟩ :=
    @Collects.foldl deviceId isGamePad parameters _ _ _ (collects_initial hat) values
  unfold notedEntries Noted.final makeEntries
  rw [List.map_append, collects.erase, foldl_state, List.map_map]
  exact congrArg (_ ++ ·) (List.map_id _)

/-- The entries of values in order of time keep their order exactly when nothing overtakes a
motion. -/
theorem keepsTime_iff_inTime (deviceId : DeviceId) (isGamePad : Bool)
    (parameters : MakeEntriesParameters) (hat : HatDirection) (values : List HidValue)
    (sorted : values.Pairwise fun v w => v.timeStamp ≤ w.timeStamp) :
    KeepsTime deviceId isGamePad parameters hat values ↔
      InTime deviceId isGamePad [] 0 hat values := by
  have final := @Collects.final_iff deviceId isGamePad parameters _ _ _ (collects_initial hat)
    values sorted (fun _ none => absurd none List.not_mem_nil) (fun some => absurd rfl some)
  have start : (Noted.initial hat).entries.Pairwise Follows := List.Pairwise.nil
  rw [and_iff_right start, and_iff_left fun some => absurd rfl some] at final
  refine Iff.trans ?_ final
  have times : (makeEntries deviceId isGamePad parameters hat values).1.Pairwise (fun x y =>
      x.eventTimeStamp.timeStamp ≤ y.eventTimeStamp.timeStamp) ↔
      (notedEntries deviceId isGamePad parameters hat values).Pairwise fun x y =>
        x.1.eventTimeStamp.timeStamp ≤ y.1.eventTimeStamp.timeStamp := by
    rw [← notedEntries_fst, List.pairwise_map]
  have split : (notedEntries deviceId isGamePad parameters hat values).Pairwise Follows ↔
      (notedEntries deviceId isGamePad parameters hat values).Pairwise (fun x y =>
        x.1.eventTimeStamp.timeStamp ≤ y.1.eventTimeStamp.timeStamp) ∧
      (notedEntries deviceId isGamePad parameters hat values).Pairwise fun x y =>
        x.1.isKey = true → y.1.isMotion = true → ¬MadeBefore x y :=
    List.pairwise_and_iff
  refine Iff.trans ?_ split.symm
  constructor
  · exact fun keeps => ⟨times.mp keeps.ordered, keeps.motions⟩
  · exact fun both => ⟨times.mpr both.1, both.2⟩

/-- The button of a mouse is pressed before the mouse moves. -/
theorem keepsTime_clickAndMove : KeepsTime 1 false ⟨id, id⟩ []
    [⟨1, 1, some UsagePage.button, some 1⟩,
      ⟨2, 10, some UsagePage.genericDesktop, some Usage.genericDesktopX⟩] :=
  (keepsTime_iff_inTime 1 false ⟨id, id⟩ [] _ (by decide)).mpr
    ⟨.inl rfl, .inl rfl, trivial⟩

/-- A mouse moves along X, and a button of it is pressed a tick later: the button overtakes
the motion. -/
theorem keepsTime_counterexample : ¬∀ (deviceId : DeviceId) (isGamePad : Bool)
    (parameters : MakeEntriesParameters) (hat : HatDirection) (values : List HidValue),
    (values.Pairwise fun v w => v.timeStamp ≤ w.timeStamp) →
    KeepsTime deviceId isGamePad parameters hat values := by
  intro all
  have keeps := (all 1 false ⟨id, id⟩ []
    [⟨1, 10, some UsagePage.genericDesktop, some Usage.genericDesktopX⟩,
      ⟨2, 1, some UsagePage.button, some 1⟩] (by decide)).ordered
  exact absurd keeps (by decide)

end MakeEntries

end Karabiner
