import Karabiner.VirtualDevices.KeyEventDispatcher

/-! # The reports show the pressed state

Over any sequence of dispatcher calls, the report last built for a page holds
exactly the keys of that page that the dispatcher remembers, with the fn key on
its page when fn is pressed, and the modifiers of the keyboard report are the
pressed modifier flags. A report has a fixed number of slots and a full one
ignores an insertion, so a call that puts a new usage into a report has to find a
free slot there; the other calls need none.
-/

namespace Karabiner

variable [HidReportLibrary]

namespace PostedEventQueue

/-- The page of a key report. -/
def pageOf (event : PostedEvent) : Option KeyPage :=
  match event.value with
  | .keyInput page _ _ => some page
  | _ => none

/-- The report last built for a page; an empty one before the first. -/
def builtReport (queue : PostedEventQueue) (page : KeyPage) : PostedValue :=
  match queue.events.reverse.find? fun event => pageOf event == some page with
  | some event => event.value
  | none => PostedEventQueue.initial.report page

theorem builtReport_append (queue : PostedEventQueue) (event : PostedEvent) (page : KeyPage) :
    (queue.append event).builtReport page =
      if pageOf event = some page then event.value else queue.builtReport page := by
  unfold builtReport append
  simp only [List.reverse_append, List.reverse_cons, List.reverse_nil, List.nil_append,
    List.cons_append, List.find?_cons]
  by_cases same : pageOf event = some page
  · simp [same]
  · rw [if_neg same, beq_false_of_ne same]

theorem pageOf_report (queue : PostedEventQueue) (page : KeyPage) (timeStamp : Int)
    (posted : Option (MomentarySwitchEvent × EventType)) :
    pageOf ⟨queue.report page, timeStamp, posted⟩ = some page := rfl

/-- For every page the report last built is the accumulated one. -/
def Built (queue : PostedEventQueue) : Prop :=
  ∀ page, queue.builtReport page = queue.report page

theorem built_initial : Built PostedEventQueue.initial := fun _ => rfl

/-- The report of a page depends on its keys and, for the keyboard, on the
modifiers. -/
theorem report_congr {first second : PostedEventQueue} (page : KeyPage)
    (keys : first.keys page = second.keys page)
    (modifiers : page = .keyboardOrKeypad → first.modifiers = second.modifiers) :
    first.report page = second.report page := by
  unfold report
  rw [keys]
  cases page with
  | keyboardOrKeypad => rw [modifiers rfl]
  | _ => rfl

theorem changeReports_keys_other (queue : PostedEventQueue) (page other : KeyPage)
    (event : MomentarySwitchEvent) (eventType : EventType) (different : other ≠ page) :
    (queue.changeReports page event eventType).keys other = queue.keys other := by
  unfold changeReports
  split
  · rfl
  · exact if_neg different

theorem changeReports_modifiers_other (queue : PostedEventQueue) (page : KeyPage)
    (event : MomentarySwitchEvent) (eventType : EventType) (different : page ≠ .keyboardOrKeypad) :
    (queue.changeReports page event eventType).modifiers = queue.modifiers := by
  unfold changeReports
  split
  · contradiction
  · rfl

/-- A key that is no modifier changes the keys of its page. -/
theorem changeReports_key (queue : PostedEventQueue) (page : KeyPage)
    (event : MomentarySwitchEvent) (eventType : EventType)
    (plain : hidReportModifier event = none) :
    (queue.changeReports page event eventType).keys = (fun other =>
        if other = page then changeKeys (queue.keys page) event.usagePair.usage eventType
        else queue.keys other) ∧
      (queue.changeReports page event eventType).modifiers = queue.modifiers := by
  unfold changeReports
  rw [plain]
  cases page <;> exact ⟨rfl, rfl⟩

variable [MachTimebase]

/-- A key event is enqueued with the report built so far, so that the queue stays built. -/
theorem Built.emplaceBackKeyEvent {queue : PostedEventQueue} (built : Built queue)
    (usagePair : UsagePair) (eventType : EventType) (timeStamp : Int) :
    Built (queue.emplaceBackKeyEvent usagePair eventType timeStamp) := by
  intro other
  cases onPage : KeyPage.ofUsagePage usagePair.usagePage with
  | none =>
      obtain ⟨keys, modifiers, events⟩ :=
        emplaceBackKeyEvent_offPage queue usagePair eventType timeStamp onPage
      rw [report_congr other (congrFun keys other) fun _ => modifiers, ← built other]
      unfold builtReport
      rw [events]
  | some page =>
      obtain ⟨stamped, keys, modifiers, events, _, adjusted, detector, equal⟩ :=
        emplaceBackKeyEvent_eq queue usagePair eventType timeStamp onPage
      rw [equal]
      change ((stamped.changeReports page ⟨usagePair⟩ eventType).append _).builtReport other =
        (stamped.changeReports page ⟨usagePair⟩ eventType).report other
      rw [builtReport_append, pageOf_report]
      by_cases same : page = other
      · rw [if_pos (congrArg some same), same]
      · rw [if_neg fun both => same (Option.some.inj both)]
        have unchanged : (stamped.changeReports page ⟨usagePair⟩ eventType).builtReport other =
            queue.builtReport other := by
          unfold builtReport
          rw [changeReports_events, events]
        rw [unchanged, built other]
        apply report_congr
        · rw [changeReports_keys_other _ _ _ _ _ (Ne.symm same), keys]
        · rintro rfl
          rw [changeReports_modifiers_other _ _ _ _ same, modifiers]

/-- What the event of a key that is no modifier does to the reports. -/
theorem emplaceBackKeyEvent_key (queue : PostedEventQueue) (usagePair : UsagePair)
    (eventType : EventType) (timeStamp : Int) {page : KeyPage}
    (onPage : KeyPage.ofUsagePage usagePair.usagePage = some page)
    (plain : hidReportModifier ⟨usagePair⟩ = none) :
    (∀ other, (queue.emplaceBackKeyEvent usagePair eventType timeStamp).keys other =
        if other = page then changeKeys (queue.keys page) usagePair.usage eventType
        else queue.keys other) ∧
      (queue.emplaceBackKeyEvent usagePair eventType timeStamp).modifiers =
        queue.modifiers := by
  obtain ⟨stamped, keys, modifiers, _, _, adjusted, detector, equal⟩ :=
    emplaceBackKeyEvent_eq queue usagePair eventType timeStamp onPage
  obtain ⟨changedKeys, changedModifiers⟩ :=
    changeReports_key stamped page ⟨usagePair⟩ eventType plain
  rw [equal]
  constructor
  · intro other
    exact (congrFun changedKeys other).trans (by rw [keys])
  · exact changedModifiers.trans modifiers

/-- A key event leaves the keys of the other pages alone. -/
theorem emplaceBackKeyEvent_keys_other (queue : PostedEventQueue) (usagePair : UsagePair)
    (eventType : EventType) (timeStamp : Int) {page other : KeyPage}
    (onPage : KeyPage.ofUsagePage usagePair.usagePage = some page) (different : other ≠ page) :
    (queue.emplaceBackKeyEvent usagePair eventType timeStamp).keys other = queue.keys other := by
  obtain ⟨stamped, keys, _, _, _, adjusted, detector, equal⟩ :=
    emplaceBackKeyEvent_eq queue usagePair eventType timeStamp onPage
  rw [equal, ← keys]
  exact changeReports_keys_other stamped page other ⟨usagePair⟩ eventType different

/-- What the event of a modifier of the keyboard report does to the reports. -/
theorem emplaceBackKeyEvent_modifier (queue : PostedEventQueue) (flag : ModifierFlag)
    (member : flag ∈ hidReportModifiers) (eventType : EventType) (timeStamp : Int) :
    (queue.emplaceBackKeyEvent (MomentarySwitchEvent.ofModifierFlag flag).usagePair eventType
        timeStamp).keys = queue.keys ∧
      (queue.emplaceBackKeyEvent (MomentarySwitchEvent.ofModifierFlag flag).usagePair eventType
        timeStamp).modifiers = changeModifiers queue.modifiers flag eventType := by
  have onPage : KeyPage.ofUsagePage
      (MomentarySwitchEvent.ofModifierFlag flag).usagePair.usagePage =
        some .keyboardOrKeypad := by
    revert member
    cases flag <;> simp [hidReportModifiers] <;> rfl
  have modifier : hidReportModifier ⟨(MomentarySwitchEvent.ofModifierFlag flag).usagePair⟩ =
      some flag := by
    revert member
    cases flag <;> simp [hidReportModifiers] <;> rfl
  obtain ⟨stamped, keys, modifiers, _, _, adjusted, detector, equal⟩ :=
    emplaceBackKeyEvent_eq queue _ eventType timeStamp onPage
  rw [equal]
  constructor
  · simp only [append, changeReports, modifier]
    exact keys
  · simp only [append, changeReports, modifier]
    rw [modifiers]

end PostedEventQueue

namespace KeyDispatch

/-- A usage pair that the dispatcher handles as a key: it is on a page with a key
report, is no modifier, and fits a report. -/
def PlainKey (usagePair : UsagePair) : Prop :=
  (KeyPage.ofUsagePage usagePair.usagePage).isSome = true ∧
    (MomentarySwitchEvent.mk usagePair).makeModifierFlag = none ∧ Reportable usagePair.usage

instance (usagePair : UsagePair) : Decidable (PlainKey usagePair) :=
  inferInstanceAs (Decidable (_ ∧ _))

/-- The usage pair of caps lock. -/
def capsLockKey : UsagePair := (MomentarySwitchEvent.ofModifierFlag .capsLock).usagePair

omit [HidReportLibrary] in
theorem plainKey_capsLock : PlainKey capsLockKey := by decide

omit [HidReportLibrary] in
theorem hidReportModifier_of_plain {usagePair : UsagePair} (plain : PlainKey usagePair) :
    PostedEventQueue.hidReportModifier ⟨usagePair⟩ = none := by
  unfold PostedEventQueue.hidReportModifier
  rw [plain.2.1]
  rfl

omit [HidReportLibrary] in
/-- A usage pair is on one page only. -/
theorem usagePair_ne_of_otherPage {usagePair : UsagePair} {page other : KeyPage}
    (onPage : KeyPage.ofUsagePage usagePair.usagePage = some page) (otherPage : other ≠ page)
    (usage : Usage) : usagePair ≠ ⟨other.usagePage, usage⟩ := by
  intro same
  have pages : KeyPage.ofUsagePage usagePair.usagePage = some other :=
    KeyPage.ofUsagePage_eq_some.mpr (congrArg UsagePair.usagePage same)
  exact otherPage (Option.some.inj (pages.symm.trans onPage))

/-- The usages the report of a page has to show: the keys held on the page, and
fn on the top case page while fn is pressed. -/
def Shown (dispatcher : KeyEventDispatcher) (page : KeyPage) (usage : Usage) : Prop :=
  (∃ k ∈ dispatcher.pressedKeys, k.2 = ⟨page.usagePage, usage⟩) ∨
    (page = .appleVendorTopCase ∧ usage = Usage.keyboardFn ∧
      ModifierFlag.fn ∈ dispatcher.pressedModifierFlags)

/-- The reports of the queue show the state of the dispatcher. -/
structure ReportsRefine (state : KeyDispatch) : Prop where
  /-- No usage pair is held twice. -/
  nodup : (state.dispatcher.pressedKeys.map Prod.snd).Nodup
  /-- Every held key is handled as a key. -/
  plain : ∀ k ∈ state.dispatcher.pressedKeys, PlainKey k.2
  /-- Only the flags the dispatcher runs over are pressed. -/
  flags : ∀ flag ∈ state.dispatcher.pressedModifierFlags, flag ∈ dispatchedFlags
  /-- The keys of each report are the keys held on its page. -/
  keys : ∀ page usage, usage ∈ HidReportLibrary.keyUsages (state.queue.keys page) ↔
    Shown state.dispatcher page usage
  /-- The modifiers of the keyboard report are the pressed modifier flags. -/
  modifiers : ∀ flag ∈ hidReportModifiers,
    HidReportLibrary.modifierExists state.queue.modifiers flag =
      decide (flag ∈ state.dispatcher.pressedModifierFlags)
  /-- The report last built for a page is the accumulated one. -/
  built : state.queue.Built

/-- A report has a free slot. -/
def Room (state : KeyDispatch) (page : KeyPage) : Prop :=
  (HidReportLibrary.keyUsages (state.queue.keys page)).length < HidReportLibrary.capacity

/-- Dispatching the modifiers presses fn: the manager reports it and it is not
pressed yet. -/
def PressesFn (state : KeyDispatch) (manager : ModifierFlagManager) : Prop :=
  manager.isPressed .fn = true ∧ ModifierFlag.fn ∉ state.dispatcher.pressedModifierFlags

/-- Nothing is pressed at the start, and the reports are empty. -/
theorem reportsRefine_initial [LawfulHidReport] : ReportsRefine KeyDispatch.initial where
  nodup := List.nodup_nil
  plain := fun k member => absurd member List.not_mem_nil
  flags := fun flag member => absurd member (Finset.notMem_empty flag)
  keys := by
    intro page usage
    have none := LawfulHidReport.mem_noKeys usage
    constructor
    · exact fun member => absurd member none
    · rintro (⟨k, member, _⟩ | ⟨_, _, member⟩)
      · exact absurd member List.not_mem_nil
      · exact absurd member (Finset.notMem_empty _)
  modifiers := by
    intro flag _
    exact LawfulHidReport.noModifiers_exists flag
  built := PostedEventQueue.built_initial

omit [HidReportLibrary] in
/-- On its page a plain key is shown exactly when it is held. -/
theorem shown_iff_of_plain {dispatcher : KeyEventDispatcher} {page : KeyPage} {usage : Usage}
    (plain : PlainKey ⟨page.usagePage, usage⟩) :
    Shown dispatcher page usage ↔
      ∃ k ∈ dispatcher.pressedKeys, k.2 = ⟨page.usagePage, usage⟩ := by
  constructor
  · rintro (held | ⟨rfl, rfl, _⟩)
    · exact held
    · exact absurd plain.2.1 (by decide)
  · exact Or.inl

variable [MachTimebase] [LawfulHidReport]

section Keys

variable {state : KeyDispatch} (refines : ReportsRefine state) {usagePair : UsagePair}
  (plain : PlainKey usagePair) (timeStamp : Int)

include refines plain

/-- Pressing a key keeps the reports right. Only a key that is not held yet goes
into a report, so only that needs a free slot. -/
theorem ReportsRefine.dispatchKeyDownEvent (deviceId : DeviceId)
    (room : ¬ state.keyEventExists usagePair = true →
      ∀ page, KeyPage.ofUsagePage usagePair.usagePage = some page → Room state page) :
    ReportsRefine (state.dispatchKeyDownEvent deviceId usagePair timeStamp) := by
  unfold KeyDispatch.dispatchKeyDownEvent
  split
  · exact refines
  rename_i absent
  obtain ⟨page, onPage⟩ := Option.isSome_iff_exists.mp plain.1
  have usagePage : usagePair.usagePage = page.usagePage := KeyPage.ofUsagePage_eq_some.mp onPage
  obtain ⟨changedKeys, changedModifiers⟩ := state.queue.emplaceBackKeyEvent_key usagePair .keyDown
    timeStamp onPage (hidReportModifier_of_plain plain)
  refine ⟨?_, ?_, refines.flags, ?_, ?_, refines.built.emplaceBackKeyEvent usagePair .keyDown
    timeStamp⟩
  · exact nodup_pressedKeys_append refines.nodup absent deviceId
  · intro k member
    rcases List.mem_append.mp member with member | member
    · exact refines.plain k member
    · rw [List.mem_singleton.mp member]
      exact plain
  · intro other usage
    have before := refines.keys other usage
    have after : Shown ⟨state.dispatcher.pressedKeys ++ [(deviceId, usagePair)],
          state.dispatcher.pressedModifierFlags⟩ other usage ↔
        Shown state.dispatcher other usage ∨ usagePair = ⟨other.usagePage, usage⟩ := by
      simp only [Shown, List.mem_append, List.mem_singleton, or_and_right, exists_or,
        exists_eq_left]
      exact or_right_comm
    change usage ∈ HidReportLibrary.keyUsages
      ((state.queue.emplaceBackKeyEvent usagePair .keyDown timeStamp).keys other) ↔ _
    refine Iff.trans ?_ after.symm
    rw [changedKeys, ← before]
    by_cases samePage : other = page
    · subst samePage
      rw [if_pos rfl]
      by_cases sameUsage : usage = usagePair.usage
      · have pressed := LawfulHidReport.mem_insertKey_self (state.queue.keys other)
          usagePair.usage plain.2.2 (room absent other onPage)
        constructor
        · intro _
          right
          rw [sameUsage, ← usagePage]
        · intro _
          rw [sameUsage]
          exact pressed
      · have different : usagePair ≠ ⟨other.usagePage, usage⟩ := fun same =>
          sameUsage (congrArg UsagePair.usage same).symm
        rw [PostedEventQueue.changeKeys,
          LawfulHidReport.mem_insertKey_other _ _ _ plain.2.2 sameUsage]
        simp [different]
    · have different := usagePair_ne_of_otherPage onPage samePage usage
      rw [if_neg samePage]
      simp [different]
  · intro flag member
    exact (congrArg (HidReportLibrary.modifierExists · flag) changedModifiers).trans
      (refines.modifiers flag member)

omit plain in
/-- Releasing a key keeps the reports right. -/
theorem ReportsRefine.dispatchKeyUpEvent :
    ReportsRefine (state.dispatchKeyUpEvent usagePair timeStamp) := by
  unfold KeyDispatch.dispatchKeyUpEvent
  split
  swap
  · exact refines
  rename_i held
  obtain ⟨heldKey, heldMember, heldUsage⟩ := (keyEventExists_iff state usagePair).mp held
  have plain : PlainKey usagePair := heldUsage ▸ refines.plain heldKey heldMember
  obtain ⟨page, onPage⟩ := Option.isSome_iff_exists.mp plain.1
  have usagePage : usagePair.usagePage = page.usagePage := KeyPage.ofUsagePage_eq_some.mp onPage
  obtain ⟨changedKeys, changedModifiers⟩ := state.queue.emplaceBackKeyEvent_key usagePair .keyUp
    timeStamp onPage (hidReportModifier_of_plain plain)
  refine ⟨?_, ?_, refines.flags, ?_, ?_, refines.built.emplaceBackKeyEvent usagePair .keyUp
    timeStamp⟩
  · exact refines.nodup.sublist (List.filter_sublist.map Prod.snd)
  · exact fun k member => refines.plain k (List.mem_filter.mp member).1
  · intro other usage
    have before := refines.keys other usage
    have shown : Shown ⟨state.dispatcher.pressedKeys.filter fun k => !(k.2 == usagePair),
          state.dispatcher.pressedModifierFlags⟩ other usage ↔
        Shown state.dispatcher other usage ∧ usagePair ≠ ⟨other.usagePage, usage⟩ := by
      unfold Shown
      constructor
      · rintro (⟨k, member, same⟩ | ⟨rfl, rfl, fn⟩)
        · obtain ⟨memberBefore, different⟩ := List.mem_filter.mp member
          refine ⟨Or.inl ⟨k, memberBefore, same⟩, ?_⟩
          intro usages
          rw [same, usages] at different
          simp at different
        · refine ⟨Or.inr ⟨rfl, rfl, fn⟩, ?_⟩
          rintro rfl
          exact absurd plain.2.1 (by decide)
      · rintro ⟨⟨k, member, same⟩ | fn, different⟩
        · refine Or.inl ⟨k, List.mem_filter.mpr ⟨member, ?_⟩, same⟩
          rw [same]
          simpa using Ne.symm different
        · exact Or.inr fn
    change usage ∈ HidReportLibrary.keyUsages
      ((state.queue.emplaceBackKeyEvent usagePair .keyUp timeStamp).keys other) ↔ _
    refine Iff.trans ?_ shown.symm
    rw [changedKeys, ← before]
    by_cases samePage : other = page
    · subst samePage
      rw [if_pos rfl, PostedEventQueue.changeKeys,
        LawfulHidReport.mem_eraseKey_reportable _ _ plain.2.2]
      refine and_congr_right fun _ => not_congr ?_
      constructor
      · rintro rfl
        rw [← usagePage]
      · exact fun same => (congrArg UsagePair.usage same).symm
    · rw [if_neg samePage]
      exact (and_iff_left (usagePair_ne_of_otherPage onPage samePage usage)).symm
  · intro flag member
    exact (congrArg (HidReportLibrary.modifierExists · flag) changedModifiers).trans
      (refines.modifiers flag member)

/-- Pressing and releasing a key that is not held leaves the reports as they were. -/
theorem ReportsRefine.enqueueTap
    (notHeld : ∀ k ∈ state.dispatcher.pressedKeys, k.2 ≠ usagePair) :
    ReportsRefine ((state.enqueueKeyEvent usagePair .keyDown timeStamp).enqueueKeyEvent usagePair
      .keyUp timeStamp) := by
  obtain ⟨page, onPage⟩ := Option.isSome_iff_exists.mp plain.1
  have usagePage : usagePair.usagePage = page.usagePage := KeyPage.ofUsagePage_eq_some.mp onPage
  have noModifier := hidReportModifier_of_plain plain
  obtain ⟨downKeys, downModifiers⟩ := state.queue.emplaceBackKeyEvent_key usagePair .keyDown
    timeStamp onPage noModifier
  obtain ⟨upKeys, upModifiers⟩ :=
    (state.queue.emplaceBackKeyEvent usagePair .keyDown timeStamp).emplaceBackKeyEvent_key
      usagePair .keyUp timeStamp onPage noModifier
  have built := (refines.built.emplaceBackKeyEvent usagePair .keyDown
    timeStamp).emplaceBackKeyEvent usagePair .keyUp timeStamp
  refine ⟨refines.nodup, refines.plain, refines.flags, ?_, ?_, built⟩
  · intro other usage
    refine Iff.trans ?_ (refines.keys other usage)
    change usage ∈ HidReportLibrary.keyUsages (((state.queue.emplaceBackKeyEvent usagePair .keyDown
      timeStamp).emplaceBackKeyEvent usagePair .keyUp timeStamp).keys other) ↔ _
    rw [upKeys]
    by_cases samePage : other = page
    · subst samePage
      rw [if_pos rfl, downKeys, if_pos rfl, PostedEventQueue.changeKeys,
        PostedEventQueue.changeKeys, LawfulHidReport.mem_eraseKey_reportable _ _ plain.2.2]
      by_cases sameUsage : usage = usagePair.usage
      · have absent : ¬ usage ∈ HidReportLibrary.keyUsages (state.queue.keys other) := by
          rw [refines.keys, shown_iff_of_plain (by rw [sameUsage, ← usagePage]; exact plain)]
          rintro ⟨k, member, same⟩
          refine notHeld k member ?_
          rw [same, sameUsage, ← usagePage]
        exact ⟨fun both => absurd sameUsage both.2, fun member => absurd member absent⟩
      · rw [LawfulHidReport.mem_insertKey_other _ _ _ plain.2.2 sameUsage]
        exact and_iff_left sameUsage
    · rw [if_neg samePage, downKeys, if_neg samePage]
  · intro flag member
    refine Eq.trans ?_ (refines.modifiers flag member)
    exact congrArg (HidReportLibrary.modifierExists · flag) (upModifiers.trans downModifiers)

end Keys

section Modifiers

variable {state : KeyDispatch} (refines : ReportsRefine state) (timeStamp : Int)

include refines

theorem ReportsRefine.sendCapsLock : ReportsRefine (state.sendCapsLock timeStamp) := by
  unfold KeyDispatch.sendCapsLock
  dsimp only
  split
  · apply (refines.dispatchKeyUpEvent timeStamp).enqueueTap plainKey_capsLock
    intro k member same
    rw [pressedKeys_dispatchKeyUpEvent] at member
    have different := (List.mem_filter.mp member).2
    simp [same, capsLockKey] at different
  · rename_i absent
    apply refines.enqueueTap plainKey_capsLock
    exact fun k member same => absent ((keyEventExists_iff state _).mpr ⟨k, member, same⟩)

omit [MachTimebase] [LawfulHidReport] timeStamp in
/-- The held keys do not include fn, which travels as a modifier. -/
theorem ReportsRefine.fn_notHeld (k : DeviceId × UsagePair)
    (member : k ∈ state.dispatcher.pressedKeys) :
    k.2 ≠ ⟨KeyPage.appleVendorTopCase.usagePage, Usage.keyboardFn⟩ := by
  intro same
  have plain := (refines.plain k member).2.1
  rw [same] at plain
  exact absurd plain (by decide)

omit [HidReportLibrary] [MachTimebase] [LawfulHidReport] refines timeStamp in
/-- Which usages are shown depends on the pressed flags through fn only. -/
theorem shown_congr {pressedKeys : List (DeviceId × UsagePair)} {first second : Finset ModifierFlag}
    (fn : ModifierFlag.fn ∈ first ↔ ModifierFlag.fn ∈ second) (page : KeyPage) (usage : Usage) :
    Shown ⟨pressedKeys, first⟩ page usage ↔ Shown ⟨pressedKeys, second⟩ page usage := by
  unfold Shown
  rw [fn]

variable {flag : ModifierFlag} {flags : Finset ModifierFlag} {pressed : Bool}
  (changed : ∀ other, other ∈ flags ↔
    if other = flag then pressed = true else other ∈ state.dispatcher.pressedModifierFlags)

include changed

omit [MachTimebase] [LawfulHidReport] timeStamp in
/-- Only caps lock changes the pressed flags without changing a report. -/
theorem ReportsRefine.setCapsLock (capsLock : flag = .capsLock) :
    ReportsRefine ⟨⟨state.dispatcher.pressedKeys, flags⟩, state.queue⟩ where
  nodup := refines.nodup
  plain := refines.plain
  flags := by
    intro other member
    by_cases same : other = flag
    · rw [same, capsLock]
      decide
    · have before := (changed other).mp member
      rw [if_neg same] at before
      exact refines.flags other before
  keys := by
    intro page usage
    have fn := changed .fn
    rw [if_neg (by rw [capsLock]; decide)] at fn
    exact (refines.keys page usage).trans (shown_congr fn.symm page usage)
  modifiers := by
    intro other member
    have different : other ≠ flag := by
      rintro rfl
      rw [capsLock] at member
      exact absurd member (by decide)
    have same := changed other
    rw [if_neg different] at same
    exact (refines.modifiers other member).trans (decide_eq_decide.mpr same).symm
  built := refines.built

/-- Pressing or releasing fn changes the top case report. -/
theorem ReportsRefine.enqueueFn (fn : flag = .fn)
    (room : pressed = true → Room state .appleVendorTopCase) :
    ReportsRefine ⟨⟨state.dispatcher.pressedKeys, flags⟩, state.queue.emplaceBackKeyEvent
      (MomentarySwitchEvent.ofModifierFlag .fn).usagePair
      (if pressed then .keyDown else .keyUp) timeStamp⟩ := by
  have onPage : KeyPage.ofUsagePage (MomentarySwitchEvent.ofModifierFlag .fn).usagePair.usagePage =
    some .appleVendorTopCase := rfl
  obtain ⟨changedKeys, changedModifiers⟩ := state.queue.emplaceBackKeyEvent_key
    (MomentarySwitchEvent.ofModifierFlag .fn).usagePair (if pressed then .keyDown else .keyUp)
    timeStamp onPage rfl
  have reportable : Reportable (MomentarySwitchEvent.ofModifierFlag .fn).usagePair.usage := by
    decide
  have fnChanged := changed .fn
  rw [if_pos fn.symm] at fnChanged
  refine ⟨refines.nodup, refines.plain, ?_, ?_, ?_, refines.built.emplaceBackKeyEvent _ _ _⟩
  · intro other member
    by_cases same : other = flag
    · rw [same, fn]
      decide
    · have before := (changed other).mp member
      rw [if_neg same] at before
      exact refines.flags other before
  · intro page usage
    dsimp only
    rw [changedKeys]
    by_cases samePage : page = .appleVendorTopCase
    · subst samePage
      rw [if_pos rfl]
      by_cases sameUsage : usage = Usage.keyboardFn
      · subst sameUsage
        have shown : Shown ⟨state.dispatcher.pressedKeys, flags⟩ .appleVendorTopCase
            Usage.keyboardFn ↔ pressed = true := by
          unfold Shown
          rw [fnChanged]
          constructor
          · rintro (⟨k, member, same⟩ | ⟨_, _, yes⟩)
            · exact absurd same (refines.fn_notHeld k member)
            · exact yes
          · exact fun yes => Or.inr ⟨rfl, rfl, yes⟩
        rw [shown]
        cases pressed with
        | true =>
            have inserted := LawfulHidReport.mem_insertKey_self
              (state.queue.keys .appleVendorTopCase) _ reportable (room rfl)
            exact iff_of_true inserted rfl
        | false =>
            refine iff_of_false ?_ Bool.false_ne_true
            intro member
            exact ((LawfulHidReport.mem_eraseKey_reportable _ _ reportable).mp member).2 rfl
      · have shown : Shown ⟨state.dispatcher.pressedKeys, flags⟩ .appleVendorTopCase usage ↔
            Shown state.dispatcher .appleVendorTopCase usage := by
          simp [Shown, sameUsage]
        rw [shown, ← refines.keys]
        cases pressed with
        | true => exact LawfulHidReport.mem_insertKey_other _ _ _ reportable sameUsage
        | false =>
            exact (LawfulHidReport.mem_eraseKey_reportable _ _ reportable).trans
              (and_iff_left sameUsage)
    · rw [if_neg samePage, refines.keys]
      simp [Shown, samePage]
  · intro other member
    have different : other ≠ flag := by
      rintro rfl
      rw [fn] at member
      exact absurd member (by decide)
    have same := changed other
    rw [if_neg different] at same
    refine Eq.trans (congrArg (HidReportLibrary.modifierExists · other) changedModifiers) ?_
    exact (refines.modifiers other member).trans (decide_eq_decide.mpr same).symm

/-- Pressing or releasing a general modifier changes the keyboard report. -/
theorem ReportsRefine.enqueueModifier (general : flag ∈ hidReportModifiers) :
    ReportsRefine ⟨⟨state.dispatcher.pressedKeys, flags⟩, state.queue.emplaceBackKeyEvent
      (MomentarySwitchEvent.ofModifierFlag flag).usagePair
      (if pressed then .keyDown else .keyUp) timeStamp⟩ := by
  obtain ⟨sameKeys, changedModifiers⟩ := state.queue.emplaceBackKeyEvent_modifier flag general
    (if pressed then .keyDown else .keyUp) timeStamp
  have notFn : ModifierFlag.fn ≠ flag := by
    rintro rfl
    exact absurd general (by decide)
  refine ⟨refines.nodup, refines.plain, ?_, ?_, ?_, refines.built.emplaceBackKeyEvent _ _ _⟩
  · intro other member
    by_cases same : other = flag
    · rw [same]
      revert general
      cases flag <;> decide
    · have before := (changed other).mp member
      rw [if_neg same] at before
      exact refines.flags other before
  · intro page usage
    dsimp only
    rw [sameKeys, refines.keys]
    have fnSame := changed .fn
    rw [if_neg notFn] at fnSame
    exact shown_congr fnSame.symm page usage
  · intro other member
    refine Eq.trans (congrArg (HidReportLibrary.modifierExists · other) changedModifiers) ?_
    have target : decide (other ∈ flags) =
        if other = flag then pressed
        else decide (other ∈ state.dispatcher.pressedModifierFlags) := by
      have same := changed other
      by_cases equal : other = flag
      · rw [if_pos equal] at same ⊢
        simp [same]
      · rw [if_neg equal] at same ⊢
        exact decide_eq_decide.mpr same
    change _ = decide (other ∈ flags)
    rw [target]
    cases pressed with
    | true =>
        refine (LawfulHidReport.insertModifier_exists _ _ _ general member).trans ?_
        rw [refines.modifiers other member]
        by_cases equal : other = flag <;> simp [equal]
    | false =>
        refine (LawfulHidReport.eraseModifier_exists _ _ _ general member).trans ?_
        rw [refines.modifiers other member]
        by_cases equal : other = flag <;> simp [equal]

/-- A modifier that is sent shows in the reports as it is pressed, if there is room for `fn` when it
is to be pressed. -/
theorem ReportsRefine.sendModifier (dispatched : flag ∈ dispatchedFlags)
    (room : flag = .fn → pressed = true → Room state .appleVendorTopCase) :
    ReportsRefine ((state.setPressedModifierFlags flags).sendModifier flag
      (if pressed then .keyDown else .keyUp) timeStamp) := by
  unfold KeyDispatch.sendModifier
  by_cases capsLock : flag = .capsLock
  · rw [if_pos capsLock]
    exact (refines.setCapsLock changed capsLock).sendCapsLock timeStamp
  · have valid : (MomentarySwitchEvent.ofModifierFlag flag).valid = true := by
      apply MomentarySwitchEvent.valid_ofModifierFlag <;> rintro rfl <;>
        exact absurd dispatched (by decide)
    rw [if_neg capsLock]
    simp only [valid, if_true]
    by_cases fn : flag = .fn
    · have sent := refines.enqueueFn timeStamp changed fn (room fn)
      rw [← fn] at sent
      exact sent
    · refine refines.enqueueModifier timeStamp changed ?_
      revert dispatched capsLock fn
      cases flag <;> decide

end Modifiers

/-! ## Dispatching the modifiers -/

omit [HidReportLibrary] [MachTimebase] [LawfulHidReport] in
theorem capsLockKey_onPage :
    KeyPage.ofUsagePage capsLockKey.usagePage = some .keyboardOrKeypad := rfl

omit [LawfulHidReport] in
theorem topCaseKeys_dispatchKeyUpEvent (state : KeyDispatch) (timeStamp : Int) :
    (state.dispatchKeyUpEvent capsLockKey timeStamp).queue.keys .appleVendorTopCase =
      state.queue.keys .appleVendorTopCase := by
  unfold dispatchKeyUpEvent
  split
  · exact PostedEventQueue.emplaceBackKeyEvent_keys_other _ _ _ _ capsLockKey_onPage nofun
  · rfl

omit [LawfulHidReport] in
/-- Only fn changes the top case report. -/
theorem topCaseKeys_sendModifier (state : KeyDispatch) (flag : ModifierFlag)
    (eventType : EventType) (timeStamp : Int) (dispatched : flag ∈ dispatchedFlags)
    (notFn : flag ≠ .fn) :
    (state.sendModifier flag eventType timeStamp).queue.keys .appleVendorTopCase =
      state.queue.keys .appleVendorTopCase := by
  unfold sendModifier
  split
  · unfold sendCapsLock
    dsimp only
    have topCase : KeyPage.appleVendorTopCase ≠ .keyboardOrKeypad := nofun
    have tap := fun released : KeyDispatch =>
      (PostedEventQueue.emplaceBackKeyEvent_keys_other
        (released.queue.emplaceBackKeyEvent capsLockKey .keyDown timeStamp) capsLockKey .keyUp
        timeStamp capsLockKey_onPage topCase).trans
      (PostedEventQueue.emplaceBackKeyEvent_keys_other released.queue capsLockKey .keyDown
        timeStamp capsLockKey_onPage topCase)
    split
    · exact (tap _).trans (topCaseKeys_dispatchKeyUpEvent state timeStamp)
    · exact tap state
  · rename_i notCapsLock
    have onPage : KeyPage.ofUsagePage
        (MomentarySwitchEvent.ofModifierFlag flag).usagePair.usagePage =
          some .keyboardOrKeypad := by
      revert dispatched notFn notCapsLock
      cases flag <;> decide
    dsimp only
    split
    · exact PostedEventQueue.emplaceBackKeyEvent_keys_other _ _ _ _ onPage nofun
    · rfl

omit [LawfulHidReport] in
/-- Only `fn` has a key on the top case page, so that the other modifiers leave its report as it is.
-/
theorem topCaseKeys_dispatchModifierFlag (manager : ModifierFlagManager) (timeStamp : Int)
    (state : KeyDispatch) (flag : ModifierFlag) (dispatched : flag ∈ dispatchedFlags)
    (notFn : flag ≠ .fn) :
    (dispatchModifierFlag manager timeStamp state flag).queue.keys .appleVendorTopCase =
      state.queue.keys .appleVendorTopCase := by
  unfold dispatchModifierFlag
  dsimp only
  split
  · split
    · rfl
    · exact topCaseKeys_sendModifier _ flag .keyDown timeStamp dispatched notFn
  · split
    · exact topCaseKeys_sendModifier _ flag .keyUp timeStamp dispatched notFn
    · rfl

/-- Dispatching a modifier refines the reports, if there is room for `fn` when the manager has it
newly pressed. -/
theorem ReportsRefine.dispatchModifierFlag {state : KeyDispatch} (refines : ReportsRefine state)
    (manager : ModifierFlagManager) (timeStamp : Int) {flag : ModifierFlag}
    (dispatched : flag ∈ dispatchedFlags)
    (room : flag = .fn → PressesFn state manager → Room state .appleVendorTopCase) :
    ReportsRefine (KeyDispatch.dispatchModifierFlag manager timeStamp state flag) := by
  unfold KeyDispatch.dispatchModifierFlag
  dsimp only
  split
  · rename_i reported
    split
    · exact refines
    · rename_i absent
      have changed : ∀ other, other ∈ insert flag state.dispatcher.pressedModifierFlags ↔
          if other = flag then true = true
          else other ∈ state.dispatcher.pressedModifierFlags := by
        intro other
        rw [Finset.mem_insert]
        by_cases same : other = flag <;> simp [same]
      have sent := refines.sendModifier timeStamp changed dispatched fun fn _ =>
        room fn ⟨fn ▸ reported, fn ▸ absent⟩
      rw [if_pos rfl] at sent
      exact sent
  · split
    · have changed : ∀ other, other ∈ state.dispatcher.pressedModifierFlags.erase flag ↔
          if other = flag then false = true
          else other ∈ state.dispatcher.pressedModifierFlags := by
        intro other
        rw [Finset.mem_erase]
        by_cases same : other = flag <;> simp [same]
      have sent := refines.sendModifier timeStamp changed dispatched
        fun _ pressed => absurd pressed Bool.false_ne_true
      rw [if_neg Bool.false_ne_true] at sent
      exact sent
    · exact refines

/-- Running over the flags keeps the reports right: fn is put into the top case
report once at most, and only where the manager reports it and it was not pressed. -/
theorem ReportsRefine.dispatchModifierFlags (manager : ModifierFlagManager) (timeStamp : Int)
    (flags : List ModifierFlag) {state : KeyDispatch} (refines : ReportsRefine state)
    (dispatched : ∀ flag ∈ flags, flag ∈ dispatchedFlags)
    (room : PressesFn state manager → Room state .appleVendorTopCase) :
    ReportsRefine (flags.foldl (KeyDispatch.dispatchModifierFlag manager timeStamp) state) := by
  induction flags generalizing state with
  | nil => exact refines
  | cons flag rest ih =>
      have member := dispatched flag List.mem_cons_self
      have step := refines.dispatchModifierFlag manager timeStamp member fun _ => room
      refine ih step (fun other inRest => dispatched other (List.mem_cons_of_mem _ inRest)) ?_
      rintro ⟨reported, absent⟩
      rw [mem_dispatchModifierFlag] at absent
      by_cases fn : ModifierFlag.fn = flag
      · -- fn has been dispatched, so it is pressed if the manager reports it.
        rw [if_pos fn, ← fn] at absent
        exact absurd reported absent
      · rw [if_neg fn] at absent
        unfold Room
        rw [topCaseKeys_dispatchModifierFlag manager timeStamp state flag member (Ne.symm fn)]
        exact room ⟨reported, absent⟩

theorem ReportsRefine.dispatchModifierKeyEvent {state : KeyDispatch}
    (refines : ReportsRefine state) (manager : ModifierFlagManager) (timeStamp : Int)
    (room : PressesFn state manager → Room state .appleVendorTopCase) :
    ReportsRefine (state.dispatchModifierKeyEvent manager timeStamp) :=
  refines.dispatchModifierFlags manager timeStamp dispatchedFlags (fun _ member => member) room

/-! ## Runs of dispatcher calls -/

/-- The calls of the dispatcher's public functions. -/
inductive Call where
  | keyDown (deviceId : DeviceId) (usagePair : UsagePair) (timeStamp : Int)
  | keyUp (usagePair : UsagePair) (timeStamp : Int)
  | modifierKey (manager : ModifierFlagManager) (timeStamp : Int)
  | keyUpsByDeviceId (deviceId : DeviceId) (timeStamp : Int)
  | insertCapsLock
  | eraseCapsLock

def call (state : KeyDispatch) : Call → KeyDispatch
  | .keyDown deviceId usagePair timeStamp => state.dispatchKeyDownEvent deviceId usagePair timeStamp
  | .keyUp usagePair timeStamp => state.dispatchKeyUpEvent usagePair timeStamp
  | .modifierKey manager timeStamp => state.dispatchModifierKeyEvent manager timeStamp
  | .keyUpsByDeviceId deviceId timeStamp => state.dispatchKeyUpEventsByDeviceId deviceId timeStamp
  | .insertCapsLock => state.insertPressedModifierFlag .capsLock
  | .eraseCapsLock => state.erasePressedModifierFlag .capsLock

/-- A pressed key is a plain key, and a usage that the call puts into a report
finds a free slot there: the key when it is not held yet, fn when dispatching the
modifiers presses it. -/
def Admissible (state : KeyDispatch) : Call → Prop
  | .keyDown _ usagePair _ => PlainKey usagePair ∧
      (¬ state.keyEventExists usagePair = true →
        ∀ page, KeyPage.ofUsagePage usagePair.usagePage = some page → Room state page)
  | .modifierKey manager _ => PressesFn state manager → Room state .appleVendorTopCase
  | .keyUp _ _ | .keyUpsByDeviceId _ _ | .insertCapsLock | .eraseCapsLock => True

instance (state : KeyDispatch) (page : KeyPage) : Decidable (Room state page) :=
  inferInstanceAs (Decidable (_ < _))

instance (state : KeyDispatch) (manager : ModifierFlagManager) :
    Decidable (PressesFn state manager) :=
  inferInstanceAs (Decidable (_ ∧ _))

instance decidableAdmissible (state : KeyDispatch) : ∀ action, Decidable (Admissible state action)
  | .keyDown _ usagePair _ =>
      match onPage : KeyPage.ofUsagePage usagePair.usagePage with
      | some page =>
          decidable_of_iff (PlainKey usagePair ∧
            (¬ state.keyEventExists usagePair = true → Room state page)) (by
            simp [Admissible, onPage])
      | none => isFalse fun both => by
          have isSome := both.1.1
          simp [onPage] at isSome
  | .modifierKey manager _ =>
      inferInstanceAs (Decidable (PressesFn state manager → Room state .appleVendorTopCase))
  | .keyUp _ _ | .keyUpsByDeviceId _ _ | .insertCapsLock | .eraseCapsLock => isTrue trivial

/-- Every admissible call keeps the reports right. -/
theorem ReportsRefine.call {state : KeyDispatch} (refines : ReportsRefine state) (action : Call)
    (admissible : Admissible state action) : ReportsRefine (state.call action) := by
  cases action with
  | keyDown deviceId usagePair timeStamp =>
      exact refines.dispatchKeyDownEvent admissible.1 timeStamp deviceId admissible.2
  | keyUp usagePair timeStamp => exact refines.dispatchKeyUpEvent timeStamp
  | modifierKey manager timeStamp =>
      exact refines.dispatchModifierKeyEvent manager timeStamp admissible
  | keyUpsByDeviceId deviceId timeStamp =>
      exact dispatchKeyUpEventsLoop_induction deviceId timeStamp
        (fun _ reached _ _ _ => reached.dispatchKeyUpEvent timeStamp) _ state refines
  | insertCapsLock =>
      have changed : ∀ other, other ∈ insert .capsLock state.dispatcher.pressedModifierFlags ↔
          if other = .capsLock then true = true
          else other ∈ state.dispatcher.pressedModifierFlags := by
        intro other
        rw [Finset.mem_insert]
        by_cases same : other = .capsLock <;> simp [same]
      exact refines.setCapsLock changed rfl
  | eraseCapsLock =>
      have changed : ∀ other, other ∈ state.dispatcher.pressedModifierFlags.erase .capsLock ↔
          if other = .capsLock then false = true
          else other ∈ state.dispatcher.pressedModifierFlags := by
        intro other
        rw [Finset.mem_erase]
        by_cases same : other = .capsLock <;> simp [same]
      exact refines.setCapsLock changed rfl

/-- The reports show the pressed state after every call of every run from a fresh
dispatcher and a fresh queue: no usage pair is held twice, the report last built
for a page holds exactly the keys held on it (and fn while it is pressed), the
modifiers of the keyboard report are the pressed flags, and after the modifiers
are dispatched the pressed flags are those the manager reports. The run presses
plain keys, and a usage that is put into a report finds a free slot. -/
theorem reports_refine (calls : List Call)
    (admissible : Foundation.Execution.StepsMeet KeyDispatch.call Admissible KeyDispatch.initial
      calls) :
    let state := calls.foldl KeyDispatch.call KeyDispatch.initial
    (state.dispatcher.pressedKeys.map Prod.snd).Nodup ∧
    (∀ page, state.queue.builtReport page = state.queue.report page ∧
      ∀ usage, usage ∈ HidReportLibrary.keyUsages (state.queue.keys page) ↔
        (∃ k ∈ state.dispatcher.pressedKeys, k.2 = ⟨page.usagePage, usage⟩) ∨
        (page = .appleVendorTopCase ∧ usage = Usage.keyboardFn ∧
          ModifierFlag.fn ∈ state.dispatcher.pressedModifierFlags)) ∧
    (∀ flag ∈ hidReportModifiers, HidReportLibrary.modifierExists state.queue.modifiers flag =
      decide (flag ∈ state.dispatcher.pressedModifierFlags)) ∧
    (∀ manager timeStamp,
      (state.call (.modifierKey manager timeStamp)).dispatcher.pressedModifierFlags =
        manager.makeModifierFlags.toFinset) := by
  have preserved : ∀ state action, ReportsRefine state → Admissible state action →
      ReportsRefine (KeyDispatch.call state action) :=
    fun _ action reached condition => reached.call action condition
  have refines : ReportsRefine (calls.foldl KeyDispatch.call KeyDispatch.initial) :=
    Foundation.Execution.invariant_of_stepsMeet preserved reportsRefine_initial admissible
  exact ⟨refines.nodup, fun page => ⟨refines.built page, refines.keys page⟩, refines.modifiers,
    fun manager timeStamp => pressedModifierFlags_dispatchModifierKeyEvent _ manager timeStamp
      refines.flags⟩

/-- Thirty three keys of the consumer page, one after another. -/
def consumerKeyCalls : List Call :=
  (List.range 33).map fun index => .keyDown 1 ⟨UsagePage.consumer, 0x20 + (index : Int)⟩ 10

omit [HidReportLibrary] [MachTimebase] [LawfulHidReport] in
/-- With the 32 slots of the driver the last of thirty three held keys is remembered
by the dispatcher and not in the report. -/
theorem thirtyThreeConsumerKeys_notShown :
    let _ := listReports
    let _ := nanosecondTimebase
    let state := consumerKeyCalls.foldl KeyDispatch.call KeyDispatch.initial
    ¬ ∀ page usage, usage ∈ HidReportLibrary.keyUsages (state.queue.keys page) ↔
      (∃ k ∈ state.dispatcher.pressedKeys, k.2 = ⟨page.usagePage, usage⟩) ∨
      (page = .appleVendorTopCase ∧ usage = Usage.keyboardFn ∧
        ModifierFlag.fn ∈ state.dispatcher.pressedModifierFlags) := by
  intro _ _ state shown
  have held : (1, (⟨UsagePage.consumer, 0x40⟩ : UsagePair)) ∈ state.dispatcher.pressedKeys := by
    decide +kernel
  have missing : (0x40 : Int) ∉ HidReportLibrary.keyUsages (state.queue.keys .consumer) := by
    decide +kernel
  exact missing ((shown .consumer 0x40).mpr (Or.inl ⟨_, held, rfl⟩))

/-- Two devices press the same key and one of them a modifier; then a device goes. -/
def overlappingCalls : List Call :=
  [.keyDown 1 ⟨UsagePage.keyboardOrKeypad, Usage.keyboardA⟩ 10,
    .keyDown 2 ⟨UsagePage.keyboardOrKeypad, Usage.keyboardA⟩ 20,
    .keyDown 2 ⟨UsagePage.keyboardOrKeypad, Usage.keyboardB⟩ 30,
    .modifierKey ⟨[.make .increase .fn 1]⟩ 40,
    .keyUpsByDeviceId 2 50]

omit [HidReportLibrary] [MachTimebase] [LawfulHidReport] in
/-- Calls for two devices overlap on one key, and the reports show what is pressed throughout. -/
theorem reports_refine_overlappingCalls :
    let _ := listReports
    let _ := nanosecondTimebase
    let state := overlappingCalls.foldl KeyDispatch.call KeyDispatch.initial
    ∀ usage, usage ∈ HidReportLibrary.keyUsages (state.queue.keys .keyboardOrKeypad) ↔
      (∃ k ∈ state.dispatcher.pressedKeys, k.2 = ⟨UsagePage.keyboardOrKeypad, usage⟩) ∨
      (KeyPage.keyboardOrKeypad = .appleVendorTopCase ∧ usage = Usage.keyboardFn ∧
        ModifierFlag.fn ∈ state.dispatcher.pressedModifierFlags) :=
  ((@reports_refine listReports nanosecondTimebase lawful_listReports overlappingCalls
    (by decide)).2.1 .keyboardOrKeypad).2

end KeyDispatch

end Karabiner
