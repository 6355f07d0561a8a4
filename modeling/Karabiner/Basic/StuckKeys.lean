import Karabiner.Basic.OwnedKeys
import Karabiner.EventQueue.SortedEvents
import Karabiner.Foundation.Execution

/-! # No stuck keys

A manager of basic manipulators whose queues, environment and manipulators change while it
runs. A look-ahead may take a key_down of a key that is held for something else: the
key_up before it is then taken for the key_up of the claimed one. A key may also be claimed
by two records, and a mandatory modifier may be pressed again for another device than the
one it was released for. In all other runs nothing is left once all keys are up
(`Karabiner.KeyRun.nothingStuck_of_stepsMeet`).
-/

namespace Karabiner

namespace Basic

theorem owners_congr {first second : List Basic} (same : first.map quiet = second.map quiet) :
    owners first = owners second := by
  have quieted : ∀ manipulators : List Basic, owners manipulators =
      (manipulators.map quiet).flatMap fun basic =>
        basic.manipulatedOriginalEvents.map fun current => (basic.from_, current) := by
    intro manipulators
    rw [List.flatMap_map]
    rfl
  rw [quieted, quieted, same]

theorem owners_append (first second : List Basic) :
    owners (first ++ second) = owners first ++ owners second :=
  List.flatMap_append

/-- The records of one manipulator. -/
theorem owners_cons (basic : Basic) (others : List Basic) :
    owners (basic :: others) = (basic.manipulatedOriginalEvents.map fun current =>
      (basic.from_, current.unsetAlone)) ++ owners others := by
  change (basic.quiet.manipulatedOriginalEvents.map fun current => (basic.from_, current)) ++ _ = _
  unfold quiet
  rw [List.map_map]
  rfl

theorem mem_owners {manipulators : List Basic} {basic : Basic}
    {current : ManipulatedOriginalEvent} (isManipulator : basic ∈ manipulators)
    (isRecord : current ∈ basic.manipulatedOriginalEvents) :
    (basic.from_, current.unsetAlone) ∈ owners manipulators :=
  List.mem_flatMap.mpr ⟨basic, isManipulator, List.mem_map.mpr
    ⟨current.unsetAlone, List.mem_map_of_mem isRecord, rfl⟩⟩

theorem mem_ownedKeys_owners {manipulators : List Basic} {fromEvent : FromEvent} :
    fromEvent ∈ ownedKeys (owners manipulators) ↔ ∃ basic ∈ manipulators,
      ∃ current ∈ basic.manipulatedOriginalEvents, fromEvent ∈ current.fromEvents := by
  unfold ownedKeys owners quiet
  simp only [List.mem_flatMap, List.mem_map]
  constructor
  · rintro ⟨_, ⟨basic, isManipulator, _, ⟨current, isRecord, rfl⟩, rfl⟩, held⟩
    exact ⟨basic, isManipulator, current, isRecord, held⟩
  · rintro ⟨basic, isManipulator, current, isRecord, held⟩
    exact ⟨_, ⟨basic, isManipulator, _, ⟨current, isRecord, rfl⟩, rfl⟩, held⟩

/-- A manipulator that is removed has no record. -/
theorem owners_removeInvalidManipulators [ExpressionLibrary] [MachTimebase]
    (manipulators : List Basic) :
    owners (Stage.removeInvalidManipulators manipulators) = owners manipulators := by
  induction manipulators with
  | nil => rfl
  | cons basic rest ih =>
      unfold Stage.removeInvalidManipulators at ih ⊢
      rw [List.filter_cons]
      split
      · rw [owners_cons, owners_cons, ih]
      · rename_i removed
        have none : basic.manipulatedOriginalEvents = [] := by
          cases records : basic.manipulatedOriginalEvents with
          | nil => rfl
          | cons current others =>
              refine absurd ?_ removed
              simp [Manipulator.active, records]
        rw [owners_cons, none, ih]
        rfl

theorem owners_setValidity (manipulators : List Basic) (validity : Validity) :
    owners (manipulators.map fun basic => { basic with validity := validity }) =
      owners manipulators := by
  induction manipulators with
  | nil => rfl
  | cons basic rest ih => rw [List.map_cons, owners_cons, owners_cons, ih]

variable [ExpressionLibrary] [MachTimebase]

omit [MachTimebase] in
/-- The front entry counts if it is passed on. -/
theorem balance_afterLoop {result : Stage.LoopResult Basic} (running : result.waits = false)
    (deviceId : DeviceId) (key : MomentarySwitchEvent) :
    balance deviceId key (afterLoop result).events = balance deviceId key result.output.events +
      if result.front.validity = .valid then
        eventCount deviceId key result.front.deviceId result.front.event result.front.eventType
      else 0 := by
  unfold afterLoop
  rw [running, if_neg Bool.false_ne_true]
  split
  · unfold EventQueue.pushBackEntry
    dsimp only
    rw [balance_append, balance_singleton]
  · exact (Int.add_zero _).symm

/-- The other keys that a key_down takes with it are up and belong to no record. -/
def ClaimsFreeKeys (stage : Stage Basic) (processed : List Entry) (front : Entry)
    (rest : List Entry) (now : Int) : Prop :=
  ∀ fromEvent ∈ claimedKeys rest now stage.manipulators front stage.output,
    fromEvent ≠ front.fromEvent → heldCount fromEvent processed = 0 ∧
      ∀ basic ∈ stage.manipulators, ∀ current ∈ basic.manipulatedOriginalEvents,
        fromEvent ∉ current.fromEvents

/-- A key_up that presses mandatory modifiers again is from the device they were released
for. -/
def RestoresOwnModifiers (stage : Stage Basic) (front : Entry) : Prop :=
  ∀ basic ∈ stage.manipulators, ∀ current ∈ basic.manipulatedOriginalEvents,
    front.fromEvent ∈ current.fromEvents →
      ¬ (basic.from_.simultaneousOptions.keyUpWhen = .all ∧
        (current.eraseFromEvent front.fromEvent).fromEvents ≠ []) →
      current.liftedModifiers ≠ [] → front.deviceId = current.keyDownDeviceId

/-- The keys of the front entry are not mixed up with those of a record. -/
def UnmixedFront (stage : Stage Basic) (processed : List Entry) (now : Int) : List Entry → Prop
  | [] => True
  | front :: rest =>
      (front.eventType = .keyDown →
        (stage.manipulators.any fun basic => basic.alreadyManipulated front) = false →
          ClaimsFreeKeys stage processed front rest now) ∧
      (front.eventType = .keyUp → RestoresOwnModifiers stage front)

instance (stage : Stage Basic) (processed : List Entry) (front : Entry) (rest : List Entry)
    (now : Int) : Decidable (ClaimsFreeKeys stage processed front rest now) :=
  inferInstanceAs (Decidable (∀ fromEvent ∈ _, _ → _ ∧
    ∀ basic ∈ _, ∀ current ∈ Basic.manipulatedOriginalEvents basic,
      fromEvent ∉ ManipulatedOriginalEvent.fromEvents current))

instance (stage : Stage Basic) (front : Entry) : Decidable (RestoresOwnModifiers stage front) :=
  inferInstanceAs (Decidable (∀ basic ∈ stage.manipulators,
    ∀ current ∈ Basic.manipulatedOriginalEvents basic, _ → _ → _ → _))

instance (stage : Stage Basic) (processed : List Entry) (now : Int) :
    ∀ entries, Decidable (UnmixedFront stage processed now entries)
  | [] => isTrue trivial
  | _ :: _ => inferInstanceAs (Decidable ((_ → _ → _) ∧ (_ → _)))

/-- What the switch of the manager makes of a stage. -/
def Dispatched (processed consumed rest : List Entry) (front : Entry)
    (result : Stage.LoopResult Basic) : Prop :=
  result.waits = true ∧ Ownership (owners result.manipulators) processed (result.front :: rest)
      (consumed ++ result.output.events) ∨
    result.waits = false ∧ Ownership (owners result.manipulators) (processed ++ [front]) rest
      (consumed ++ (afterLoop result).events)

namespace Ownership

variable {stage : Stage Basic} {processed consumed rest : List Entry} {front : Entry}

omit [MachTimebase] in
/-- An entry that passes all manipulators. -/
theorem passed {manipulators : List Basic} {result : Stage.LoopResult Basic}
    (sound : Ownership (owners manipulators) processed (front :: rest)
      (consumed ++ stage.output.events))
    (records : result.manipulators.map quiet = manipulators.map quiet)
    (running : result.waits = false) (same : SameKey front result.front)
    (settled : ∀ deviceId key, balance deviceId key result.output.events =
      balance deviceId key stage.output.events)
    (notOwned : front.eventType = .single ∨ front.fromEvent ∉ ownedKeys (owners manipulators)) :
    Dispatched processed consumed rest front result := by
  refine .inr ⟨running, ?_⟩
  rw [owners_congr records]
  have isValid : result.front.validity = .valid :=
    same.validity.trans (sound.valid front List.mem_cons_self)
  have device : result.front.deviceId = front.deviceId :=
    congrArg FromEvent.deviceId same.fromEvent
  have event : result.front.event = front.event := congrArg FromEvent.event same.fromEvent
  refine sound.advance (fun owned isKeyUp => ?_) fun deviceId key => ?_
  · rcases notOwned with single | free
    · rw [single] at isKeyUp
      cases isKeyUp
    · exact free owned
  · rw [balance_append, balance_append, balance_afterLoop running, if_pos isValid, settled, device,
      event, same.eventType]
    rcases notOwned with single | free
    · have zero : eventCount deviceId key front.deviceId front.event front.eventType = 0 := by
        unfold eventCount
        rw [single]
        exact ite_self 0
      rw [zero, ite_self]
      omega
    · rw [if_neg free]
      omega

/-- What a record that gives up a key has sent and still owes. -/
theorem settled_sendAtKeyUp (basic : Basic) (front : Entry) (output : EventQueue)
    {current : ManipulatedOriginalEvent}
    (posted : current.keyUpPosted = true → current.Discharged)
    (own : ¬ (basic.from_.simultaneousOptions.keyUpWhen = .all ∧
        (current.eraseFromEvent front.fromEvent).fromEvents ≠ []) →
      current.liftedModifiers ≠ [] → front.deviceId = current.keyDownDeviceId) :
    let sent := basic.sendAtKeyUp front ⟨output, 0, current.eraseFromEvent front.fromEvent⟩
    sent.current.fromEvents = (current.eraseFromEvent front.fromEvent).fromEvents ∧
      (sent.current.keyUpPosted = true → sent.current.Discharged) ∧
      ∀ deviceId key, balance deviceId key sent.queue.events +
          (if sent.current.fromEvents = [] then 0
            else sent.current.owed sent.current.keyDownDeviceId deviceId key) =
        balance deviceId key output.events +
          current.owed current.keyDownDeviceId deviceId key := by
  intro sent
  obtain ⟨settled, fromEvents, outcome⟩ := basic.sends_sendAtKeyUp front
    ⟨output, 0, current.eraseFromEvent front.fromEvent⟩ posted
  have waiting : sent = ⟨output, 0, current.eraseFromEvent front.fromEvent⟩ →
      (current.eraseFromEvent front.fromEvent).fromEvents ≠ [] →
      ∀ deviceId key, balance deviceId key sent.queue.events +
          (if sent.current.fromEvents = [] then 0
            else sent.current.owed sent.current.keyDownDeviceId deviceId key) =
        balance deviceId key output.events +
          current.owed current.keyDownDeviceId deviceId key := by
    intro same left deviceId key
    rw [same, if_neg left]
    rfl
  by_cases waits : basic.from_.simultaneousOptions.keyUpWhen = .all ∧
      (current.eraseFromEvent front.fromEvent).fromEvents ≠ []
  · have same : sent = ⟨output, 0, current.eraseFromEvent front.fromEvent⟩ := if_pos waits
    refine ⟨fromEvents, ?_, waiting same waits.2⟩
    rw [same]
    exact posted
  · rcases outcome with ⟨same, left⟩ | discharged
    · refine ⟨fromEvents, ?_, waiting same left⟩
      rw [show sent = _ from same]
      exact posted
    · refine ⟨fromEvents, fun _ => discharged, fun deviceId key => ?_⟩
      have total := settled deviceId key
      unfold Sending.settled at total
      have owes : current.owed front.deviceId deviceId key =
          current.owed current.keyDownDeviceId deviceId key :=
        ManipulatedOriginalEvent.owed_congr (own waits) deviceId key
      have erased : (current.eraseFromEvent front.fromEvent).owed front.deviceId deviceId key =
          current.owed front.deviceId deviceId key := rfl
      have none : ∀ sender, sent.current.owed sender deviceId key = 0 :=
        fun sender => discharged.owed_eq_zero sender deviceId key
      rw [none, ite_self]
      rw [show (basic.sendAtKeyUp front ⟨output, 0, current.eraseFromEvent front.fromEvent⟩) = sent
        from rfl, none, erased, owes] at total
      exact total

/-- A key_up that a record takes. -/
theorem released {before after : List Basic} {basic changed : Basic}
    {recordsBefore recordsAfter : List ManipulatedOriginalEvent}
    {current : ManipulatedOriginalEvent} {result : Stage.LoopResult Basic}
    (sound : Ownership (owners (before ++ basic :: after)) processed (front :: rest)
      (consumed ++ stage.output.events))
    (isKeyUp : front.eventType = .keyUp)
    (releases : ReleasesKey basic front stage.output recordsBefore current recordsAfter changed
      result.output)
    (records : result.manipulators.map quiet = (before ++ changed :: after).map quiet)
    (running : result.waits = false) (taken : result.front.validity = .invalid)
    (own : ¬ (basic.from_.simultaneousOptions.keyUpWhen = .all ∧
        (current.eraseFromEvent front.fromEvent).fromEvents ≠ []) →
      current.liftedModifiers ≠ [] → front.deviceId = current.keyDownDeviceId) :
    Dispatched processed consumed rest front result := by
  refine .inr ⟨running, ?_⟩
  rw [owners_congr records]
  have old : owners (before ++ basic :: after) =
      (owners before ++ recordsBefore.map fun record => (basic.from_, record.unsetAlone)) ++
        (basic.from_, current.unsetAlone) ::
          ((recordsAfter.map fun record => (basic.from_, record.unsetAlone)) ++ owners after) := by
    rw [owners_append, owners_cons, releases.records, List.map_append, List.append_assoc,
      List.append_assoc]
    rfl
  rw [old] at sound
  have posted : current.keyUpPosted = true → current.Discharged :=
    sound.discharged (basic.from_, current.unsetAlone) (by simp)
  have spec := settled_sendAtKeyUp basic front stage.output posted own
  have sentEvents := releases.sent
  have changedIs := releases.released
  generalize basic.sendAtKeyUp front ⟨stage.output, 0, current.eraseFromEvent front.fromEvent⟩ =
    sent at spec sentEvents changedIs
  obtain ⟨fromEvents, discharged, settled⟩ := spec
  have recorded : owners (before ++ changed :: after) =
      (owners before ++ recordsBefore.map fun record => (basic.from_, record.unsetAlone)) ++
        ((if sent.current.fromEvents = [] then [] else [sent.current]).map fun record =>
          (basic.from_, record.unsetAlone)) ++
          ((recordsAfter.map fun record => (basic.from_, record.unsetAlone)) ++ owners after) := by
    rw [changedIs, owners_append, owners_cons]
    simp only [List.map_append, List.append_assoc]
  rw [recorded]
  refine sound.release isKeyUp releases.held ?_ (fun owner isKept => ?_) fun deviceId key => ?_
  · split
    · rename_i none
      exact none.symm.trans fromEvents
    · exact (List.append_nil _).trans fromEvents
  · split at isKept
    · cases isKept
    · rename_i left
      obtain rfl := List.mem_singleton.mp isKept
      exact ⟨rfl, left, discharged⟩
  · have total := settled deviceId key
    rw [balance_append, balance_append, balance_afterLoop running, if_neg (by simp [taken]),
      sentEvents, events_finishSending]
    have kept : owedBalance deviceId key ((if sent.current.fromEvents = [] then []
          else [sent.current]).map fun record => (basic.from_, record.unsetAlone)) =
        if sent.current.fromEvents = [] then 0
          else sent.current.owed sent.current.keyDownDeviceId deviceId key := by
      split
      · rfl
      · exact Int.add_zero _
    have same : current.unsetAlone.owed current.unsetAlone.keyDownDeviceId deviceId key =
        current.owed current.keyDownDeviceId deviceId key := rfl
    rw [kept, same]
    omega

omit [MachTimebase] in
/-- A key_down that one manipulator claims with other keys. -/
theorem claimed {before after : List Basic} {basic : Basic} {record : ManipulatedOriginalEvent}
    {keys : List FromEvent} {result : Stage.LoopResult Basic}
    (sound : Ownership (owners (before ++ basic :: after)) processed (front :: rest)
      (consumed ++ stage.output.events))
    (isKeyDown : front.eventType = .keyDown) (claims : ClaimedKeys basic front rest keys)
    (new : NewRecord front stage.output keys record result.output)
    (records : result.manipulators.map quiet = (before ++ { basic with
      manipulatedOriginalEvents := basic.manipulatedOriginalEvents ++ [record] } :: after).map
        quiet)
    (running : result.waits = false) (taken : result.front.validity = .invalid)
    (fresh : ∀ fromEvent ∈ keys,
      fromEvent ∉ ownedKeys (owners (before ++ basic :: after)) ∧
        heldCount fromEvent processed = 0) :
    Dispatched processed consumed rest front result := by
  refine .inr ⟨running, ?_⟩
  rw [owners_congr records]
  have old : owners (before ++ basic :: after) =
      (owners before ++ basic.manipulatedOriginalEvents.map fun current =>
        (basic.from_, current.unsetAlone)) ++ owners after := by
    rw [owners_append, owners_cons, List.append_assoc]
  have recorded : owners (before ++ { basic with
        manipulatedOriginalEvents := basic.manipulatedOriginalEvents ++ [record] } :: after) =
      (owners before ++ basic.manipulatedOriginalEvents.map fun current =>
        (basic.from_, current.unsetAlone)) ++ (basic.from_, record.unsetAlone) :: owners after := by
    rw [owners_append, owners_cons, List.map_append, List.append_assoc, List.append_assoc]
    rfl
  rw [old] at sound fresh
  rw [recorded]
  have fromEvents : record.unsetAlone.fromEvents = keys := new.fromEvents
  refine sound.claim isKeyDown (fromEvents ▸ claims.own) (fromEvents ▸ claims.nodup)
    (fromEvents ▸ claims.tested) (fromEvents ▸ claims.queued) (fromEvents ▸ fresh)
    new.keyUpPosted new.keyDownDeviceId fun deviceId key => ?_
  have settled := new.settled deviceId key
  have same : record.unsetAlone.owed front.deviceId deviceId key =
      record.owed front.deviceId deviceId key := rfl
  rw [balance_append, balance_append, balance_afterLoop running, if_neg (by simp [taken]), same]
  omega

omit [ExpressionLibrary] [MachTimebase] in
/-- A key is owned exactly when a manipulator says that it has manipulated its key_down. -/
theorem alreadyManipulated_iff {manipulators : List Basic} (isKeyDown : front.eventType = .keyDown) :
    (manipulators.any fun basic => basic.alreadyManipulated front) = true ↔
      front.fromEvent ∈ ownedKeys (owners manipulators) := by
  rw [mem_ownedKeys_owners]
  unfold alreadyManipulated ManipulatedOriginalEvent.fromEventExists
  rw [isKeyDown]
  simp

omit [ExpressionLibrary] [MachTimebase] in
/-- Only a key_down can have been manipulated already. -/
theorem not_alreadyManipulated (manipulators : List Basic)
    (notKeyDown : front.eventType ≠ .keyDown) :
    (manipulators.any fun basic => basic.alreadyManipulated front) = false := by
  unfold alreadyManipulated
  cases type : front.eventType with
  | keyDown => exact absurd type notKeyDown
  | keyUp => simp
  | single => simp

/-- The manipulators on a key_up. -/
theorem dispatch_keyUp (now : Int)
    (sound : Ownership (owners stage.manipulators) processed (front :: rest)
      (consumed ++ stage.output.events))
    (type : front.eventType = .keyUp) (restores : RestoresOwnModifiers stage front) :
    Dispatched processed consumed rest front
      (Stage.manipulateEach rest stage.input now stage.manipulators front stage.output) := by
  have outcome := manipulateEach_keyUp (sound.valid front List.mem_cons_self) type rest stage.input
    stage.output now stage.manipulators
  generalize Stage.manipulateEach rest stage.input now stage.manipulators front stage.output =
    result at outcome ⊢
  rcases outcome with ⟨free, records, running, same, settled⟩ | ⟨before, basic, after,
    recordsBefore, current, recordsAfter, changed, split, releases, records, running, taken⟩
  · refine sound.passed records running (same ▸ SameKey.refl front)
      (fun deviceId key => by rw [settled]) (.inr fun owned => ?_)
    obtain ⟨basic, isManipulator, current, isRecord, held⟩ := mem_ownedKeys_owners.mp owned
    have tested : FromEventDefinition.testEvent front.event basic.from_ = true :=
      sound.tested _ (mem_owners isManipulator isRecord) front.fromEvent held
    exact free basic isManipulator tested current isRecord held
  · have member : basic ∈ stage.manipulators := by
      rw [split]
      simp
    have isRecord : current ∈ basic.manipulatedOriginalEvents := by
      rw [releases.records]
      simp
    have own := restores basic member current isRecord releases.held
    rw [split] at sound
    exact sound.released type releases records running (by rw [taken]) own

/-- The manipulators on a key_down of a key that is not owned. -/
theorem dispatch_keyDown (now : Int)
    (sound : Ownership (owners stage.manipulators) processed (front :: rest)
      (consumed ++ stage.output.events))
    (type : front.eventType = .keyDown)
    (free : front.fromEvent ∉ ownedKeys (owners stage.manipulators))
    (claimsFree : ClaimsFreeKeys stage processed front rest now) :
    Dispatched processed consumed rest front
      (Stage.manipulateEach rest stage.input now stage.manipulators front stage.output) := by
  have outcome := manipulateEach_keyDown rest stage.input now stage.manipulators front
    stage.output (sound.valid front List.mem_cons_self) type
  unfold ClaimsFreeKeys at claimsFree
  unfold KeyDownOutcome at outcome
  generalize Stage.manipulateEach rest stage.input now stage.manipulators front
    stage.output = result at outcome ⊢
  generalize claimedKeys rest now stage.manipulators front stage.output = keys
    at claimsFree outcome
  rcases outcome with ⟨records, same, settled⟩ | ⟨before, basic, after, record, split,
    claimed, new, records, running, taken⟩
  · cases waits : result.waits with
    | false => exact sound.passed records waits same settled (.inr free)
    | true =>
        refine .inl ⟨waits, ?_⟩
        rw [owners_congr records]
        refine sound.wait same fun deviceId key => ?_
        rw [balance_append, balance_append, settled]
  · have fresh : ∀ fromEvent ∈ keys,
        fromEvent ∉ ownedKeys (owners stage.manipulators) ∧ heldCount fromEvent processed = 0 := by
      intro fromEvent member
      by_cases own : fromEvent = front.fromEvent
      · obtain ⟨key, isKey⟩ := FromEventDefinition.momentarySwitchEvent_of_testEvent
          (claimed.tested front.fromEvent claimed.own)
        rw [own]
        exact ⟨free, (sound.heldCount_front isKey).1 type⟩
      · obtain ⟨up, unclaimed⟩ := claimsFree fromEvent member own
        refine ⟨fun owned => ?_, up⟩
        obtain ⟨holder, isManipulator, current, isRecord, held⟩ := mem_ownedKeys_owners.mp owned
        exact unclaimed holder isManipulator current isRecord held
    rw [split] at sound fresh
    exact sound.claimed type claimed new records running taken fresh

/-- The switch of the manager on the front entry. -/
theorem dispatch (now : Int)
    (sound : Ownership (owners stage.manipulators) processed (front :: rest)
      (consumed ++ stage.output.events))
    (claims : front.eventType = .keyDown →
      front.fromEvent ∉ ownedKeys (owners stage.manipulators) →
      ClaimsFreeKeys stage processed front rest now)
    (restores : front.eventType = .keyUp → RestoresOwnModifiers stage front) :
    Dispatched processed consumed rest front (stage.dispatchFront front rest now) := by
  have isValid := sound.valid front List.mem_cons_self
  by_cases kind : Stage.eventKind front.event = .manipulated
  · rw [stage.dispatchFront_manipulated now kind]
    cases type : front.eventType with
    | single =>
        have notKeyDown : front.eventType ≠ .keyDown := by
          simp [type]
        have notAlready := not_alreadyManipulated stage.manipulators notKeyDown
        rw [if_neg (by simp [notAlready]), manipulateEach_of_passed fun basic _ =>
          manipulate_of_passes _ _ now (.inr (.inr type))]
        exact sound.passed (map_quiet_unsetAloneIfNeeded _ _ _) rfl (SameKey.refl front)
          (fun _ _ => rfl) (.inl type)
    | keyUp =>
        have notKeyDown : front.eventType ≠ .keyDown := by
          simp [type]
        have notAlready := not_alreadyManipulated stage.manipulators notKeyDown
        rw [if_neg (by simp [notAlready])]
        exact sound.dispatch_keyUp now type (restores type)
    | keyDown =>
        cases already : stage.manipulators.any fun basic => basic.alreadyManipulated front with
        | true =>
            have owned := (alreadyManipulated_iff type).mp already
            rw [if_pos ⟨isValid, rfl⟩]
            refine .inr ⟨rfl, sound.advance (fun _ isKeyUp => ?_) fun deviceId key => ?_⟩
            · rw [type] at isKeyUp
              cases isKeyUp
            · rw [balance_append, balance_append, balance_afterLoop rfl, if_neg (by simp),
                if_pos owned]
              exact (Int.add_assoc _ _ 0).symm
        | false =>
            have free : front.fromEvent ∉ ownedKeys (owners stage.manipulators) := by
              intro owned
              rw [(alreadyManipulated_iff type).mpr owned] at already
              cases already
            rw [if_neg (by simp)]
            exact sound.dispatch_keyDown now type free (claims type free)
  · obtain ⟨manipulators, changed, passed, events, _, records⟩ :=
      @Stage.dispatchFront_passed _ _ stage front rest now kind
    rw [passed]
    refine sound.passed (records (sound.grabbed front List.mem_cons_self)) rfl (SameKey.refl front)
      (fun deviceId key => by rw [events]) (.inr fun owned => ?_)
    obtain ⟨key, isKey⟩ := sound.key_of_mem owned
    have event : front.event = .momentarySwitchEvent key := isKey
    exact kind (by rw [event]; rfl)

end Ownership

end Basic

/-! ## Runs -/

/-- A manager, the entries it has taken from its input queue and those that were taken from
its output queue. -/
structure KeyRun where
  stage : Stage Basic
  processed : List Entry
  consumed : List Entry

namespace KeyRun

inductive Action where
  | push (entry : Entry)
  | manipulate (now : Int) (reorder : Bool)
  | changeEnvironment (environment : ManipulatorEnvironment)
  | takeOutput
  | invalidateManipulators
  | pushBackManipulator (basic : Basic)

variable [ExpressionLibrary] [MachTimebase]

omit [MachTimebase] [ExpressionLibrary] in
def initial : KeyRun := ⟨⟨[], .initial, .initial⟩, [], []⟩

def step (run : KeyRun) : Action → KeyRun
  | .push entry =>
      { run with stage := { run.stage with input := run.stage.input.pushBackEntry entry } }
  | .manipulate now reorder =>
      let result := run.stage.manipulate now reorder
      { run with
        stage := result.2
        processed :=
          if result.1 then run.processed ++ run.stage.input.events.take 1 else run.processed }
  | .changeEnvironment environment =>
      { run with
        stage := { run.stage with
          output := { run.stage.output with manipulatorEnvironment := environment } } }
  | .takeOutput =>
      { run with
        stage := { run.stage with output := run.stage.output.eraseFrontEvent }
        consumed := run.consumed ++ run.stage.output.events.take 1 }
  | .invalidateManipulators => { run with stage := run.stage.invalidateManipulators }
  | .pushBackManipulator basic => { run with stage := run.stage.pushBackManipulator basic }

omit [ExpressionLibrary] [MachTimebase] in
/-- What is pushed: the key_downs and key_ups of every key alternate, and a new manipulator
has no record. -/
def WellFormed (run : KeyRun) : Action → Prop
  | .push entry => entry.validity = .valid ∧ entry.event ≠ .deviceUngrabbed ∧
      (entry.event.momentarySwitchEvent?.isSome = true →
        let pushed := run.processed ++ run.stage.input.events ++ [entry]
        heldCount entry.fromEvent pushed = 0 ∨ heldCount entry.fromEvent pushed = 1)
  | .pushBackManipulator basic => basic.manipulatedOriginalEvents = []
  | .manipulate _ _ | .changeEnvironment _ | .takeOutput | .invalidateManipulators => True

omit [ExpressionLibrary] in
/-- The keys of a call are not mixed up. -/
def Unmixed (run : KeyRun) : Action → Prop
  | .manipulate now _ =>
      Basic.UnmixedFront run.stage run.processed now run.stage.input.events
  | .push _ | .changeEnvironment _ | .takeOutput | .invalidateManipulators
  | .pushBackManipulator _ => True

omit [ExpressionLibrary] in
instance (run : KeyRun) : ∀ action, Decidable (run.Unmixed action)
  | .manipulate now _ => inferInstanceAs (Decidable
      (Basic.UnmixedFront run.stage run.processed now run.stage.input.events))
  | .push _ | .changeEnvironment _ | .takeOutput | .invalidateManipulators
  | .pushBackManipulator _ => isTrue trivial

omit [ExpressionLibrary] [MachTimebase] in
instance (run : KeyRun) : ∀ action, Decidable (run.WellFormed action)
  | .push _ => inferInstanceAs (Decidable (_ ∧ _ ∧ (_ → _ ∨ _)))
  | .pushBackManipulator basic => decidable_of_iff (basic.manipulatedOriginalEvents.isEmpty = true)
      List.isEmpty_iff
  | .manipulate _ _ | .changeEnvironment _ | .takeOutput | .invalidateManipulators =>
      isTrue trivial

omit [ExpressionLibrary] [MachTimebase] in
/-- Once all keys are up, no manipulator holds a key, and every key of every device has been
released in the output as often as it was pressed. -/
def NothingStuck (run : KeyRun) : Prop :=
  run.stage.input.events = [] →
    (∀ fromEvent key, fromEvent.event = .momentarySwitchEvent key →
      heldCount fromEvent run.processed = 0) →
    (∀ basic ∈ run.stage.manipulators, basic.manipulatedOriginalEvents = []) ∧
      ∀ deviceId key,
        keyCount deviceId key .keyUp (run.consumed ++ run.stage.output.events) =
          keyCount deviceId key .keyDown (run.consumed ++ run.stage.output.events)

omit [ExpressionLibrary] [MachTimebase] in
/-- The invariant of a run. -/
def Sound (run : KeyRun) : Prop :=
  Basic.Ownership (Basic.owners run.stage.manipulators) run.processed run.stage.input.events
    (run.consumed ++ run.stage.output.events)

omit [ExpressionLibrary] [MachTimebase] in
theorem sound_initial : initial.Sound :=
  ⟨fun _ member => absurd member List.not_mem_nil, fun _ member => absurd member List.not_mem_nil,
    alternates_nil, fun _ member => absurd member List.not_mem_nil, List.nodup_nil,
    fun _ member => absurd member List.not_mem_nil, fun _ member => absurd member List.not_mem_nil,
    fun _ member => absurd member List.not_mem_nil, fun _ _ => rfl⟩

/-- A manipulation by the stage keeps the run sound: the balance of each key is that of the records
that own it. -/
theorem sound_manipulate {run : KeyRun} (sound : run.Sound) (now : Int) (reorder : Bool)
    (unmixed : run.Unmixed (.manipulate now reorder)) :
    (run.step (.manipulate now reorder)).Sound := by
  unfold Unmixed at unmixed
  unfold Sound at sound ⊢
  unfold step Stage.manipulate
  cases queued : run.stage.input.events with
  | nil =>
      rw [queued] at sound
      dsimp only
      rw [Basic.owners_removeInvalidManipulators, queued]
      exact sound
  | cons front rest =>
      rw [queued] at sound unmixed
      have dispatched := sound.dispatch now (fun isKeyDown free => unmixed.1 isKeyDown (by
        rw [← Bool.not_eq_true, Basic.Ownership.alreadyManipulated_iff isKeyDown]
        exact free)) unmixed.2
      dsimp only
      generalize run.stage.dispatchFront front rest now = result at dispatched ⊢
      rcases dispatched with ⟨waits, owned⟩ | ⟨running, owned⟩
      · rw [waits, if_pos rfl]
        dsimp only
        rw [if_neg Bool.false_ne_true, Basic.owners_removeInvalidManipulators]
        exact owned
      · rw [running, if_neg Bool.false_ne_true]
        have erased : (run.stage.input.eraseFrontEvent).events = rest := by
          unfold EventQueue.eraseFrontEvent
          rw [queued]
          rfl
        have pushed : Basic.afterLoop result = if result.front.validity = .valid then
            result.output.pushBackEntry result.front else result.output := by
          unfold Basic.afterLoop
          rw [running, if_neg Bool.false_ne_true]
        unfold Stage.finishFront
        dsimp only
        rw [if_pos rfl, erased, ← pushed]
        refine owned.congr_output fun deviceId key => ?_
        rw [balance_append, balance_append]
        cases reorder with
        | true => rw [if_pos rfl, balance_perm (EventQueue.sortEvents_perm _)]
        | false => rw [if_neg Bool.false_ne_true]

/-- One step of the run keeps it sound, as long as no key is handed over while another device holds
the same one. -/
theorem Sound.step {run : KeyRun} (sound : run.Sound) (action : Action)
    (wellFormed : run.WellFormed action) (unmixed : run.Unmixed action) :
    (run.step action).Sound := by
  cases action with
  | push entry =>
      obtain ⟨isValid, notUngrabbed, next⟩ := wellFormed
      refine Basic.Ownership.push sound isValid notUngrabbed fun key isKey => ?_
      have event : entry.event = .momentarySwitchEvent key := isKey
      have count := next (by rw [event]; rfl)
      dsimp only at count
      rw [heldCount_append, heldCount_singleton, if_pos rfl] at count ⊢
      exact count
  | manipulate now reorder => exact sound_manipulate sound now reorder unmixed
  | changeEnvironment environment => exact sound
  | takeOutput =>
      unfold Sound at sound ⊢
      unfold KeyRun.step EventQueue.eraseFrontEvent
      dsimp only
      have same : run.consumed ++ run.stage.output.events.take 1 ++ run.stage.output.events.tail =
          run.consumed ++ run.stage.output.events := by
        cases run.stage.output.events <;> simp
      rw [same]
      exact sound
  | invalidateManipulators =>
      unfold Sound at sound ⊢
      have same : Basic.owners (run.step .invalidateManipulators).stage.manipulators =
          Basic.owners run.stage.manipulators :=
        (Basic.owners_removeInvalidManipulators _).trans (Basic.owners_setValidity _ _)
      rw [same]
      exact sound
  | pushBackManipulator basic =>
      unfold Sound at sound ⊢
      have fresh : basic.manipulatedOriginalEvents = [] := wellFormed
      have same : Basic.owners (run.step (.pushBackManipulator basic)).stage.manipulators =
          Basic.owners run.stage.manipulators := by
        refine (Basic.owners_append run.stage.manipulators [basic]).trans ?_
        rw [Basic.owners_cons, fresh]
        exact List.append_nil _
      rw [same]
      exact sound

omit [ExpressionLibrary] [MachTimebase] in
/-- In a sound run nothing is stuck. -/
theorem Sound.nothingStuck {run : KeyRun} (sound : run.Sound) : run.NothingStuck := by
  intro empty released
  unfold Sound at sound
  rw [empty] at sound
  obtain ⟨none, balanced⟩ := sound.nothing_owned released
  refine ⟨fun basic isManipulator => List.eq_nil_iff_forall_not_mem.mpr fun current isRecord => ?_,
    fun deviceId key => ?_⟩
  · have owner := Basic.mem_owners isManipulator isRecord
    rw [none] at owner
    cases owner
  · have zero := balanced deviceId key
    rw [balance_eq_sub] at zero
    omega

/-- In every run whose keys are not mixed up, nothing is stuck once all keys are up. -/
theorem nothingStuck_of_stepsMeet (actions : List Action)
    (wellFormed : Foundation.Execution.StepsMeet step WellFormed initial actions)
    (unmixed : Foundation.Execution.StepsMeet step Unmixed initial actions) :
    (actions.foldl step initial).NothingStuck := by
  have sound : (actions.foldl step initial).Sound :=
    @Foundation.Execution.invariant_of_stepsMeet _ _ step Sound
      (fun run action => run.WellFormed action ∧ run.Unmixed action)
      (fun _ action sound both => Sound.step sound action both.1 both.2) initial actions
      sound_initial (wellFormed.and unmixed)
  exact sound.nothingStuck

omit [ExpressionLibrary] [MachTimebase] in
/-- A manipulator from A and B, pressed together, to return. -/
def chord : Basic where
  validity := .valid
  conditionManager := ⟨[]⟩
  parameters := .initial
  from_ := ⟨[.momentarySwitchEvent (.make UsagePage.keyboardOrKeypad Usage.keyboardA),
    .momentarySwitchEvent (.make UsagePage.keyboardOrKeypad Usage.keyboardB)], ⟨[], []⟩, none,
    .initial⟩
  to_ := [⟨.momentarySwitchEvent (.make UsagePage.keyboardOrKeypad Usage.keyboardReturnOrEnter),
    [], false, true, false, 0, ⟨[]⟩⟩]
  toAfterKeyUp := []
  toIfAlone := []
  manipulatedOriginalEvents := []

omit [ExpressionLibrary] [MachTimebase] in
def keyEntry (timeStamp : Int) (usage : Usage) (eventType : EventType) : Entry :=
  .original 1 timeStamp (.momentarySwitchEvent (.make UsagePage.keyboardOrKeypad usage)) eventType

omit [ExpressionLibrary] [MachTimebase] in
/-- A and B are pressed together and released. -/
def chordPlayed : List Action :=
  [.pushBackManipulator chord, .push (keyEntry 10 Usage.keyboardA .keyDown),
    .push (keyEntry 20 Usage.keyboardB .keyDown), .manipulate 30 true, .manipulate 30 true,
    .push (keyEntry 40 Usage.keyboardA .keyUp), .push (keyEntry 50 Usage.keyboardB .keyUp),
    .manipulate 60 true, .manipulate 60 true]

omit [ExpressionLibrary] [MachTimebase] in
/-- A is pressed and passes when its time is over; then B is pressed, and A is released and
pressed again in the time of B. -/
def pressedAgain : List Action :=
  [.pushBackManipulator chord, .push (keyEntry 0 Usage.keyboardA .keyDown),
    .manipulate 60000000 false, .push (keyEntry 70000000 Usage.keyboardB .keyDown),
    .push (keyEntry 70000001 Usage.keyboardA .keyUp),
    .push (keyEntry 70000002 Usage.keyboardA .keyDown),
    .manipulate 70000003 false, .manipulate 70000003 false, .manipulate 70000003 false,
    .push (keyEntry 200000000 Usage.keyboardA .keyUp),
    .push (keyEntry 200000001 Usage.keyboardB .keyUp),
    .manipulate 300000000 false, .manipulate 300000000 false, .manipulate 300000000 false]

omit [ExpressionLibrary] [MachTimebase] in
/-- The chord is pressed and released in time, and in the end no key is stuck. -/
theorem nothingStuck_chordPlayed :
    let _ := zeroExpressions
    let _ := nanosecondTimebase
    (chordPlayed.foldl step initial).NothingStuck := by
  intro expressions timebase
  exact nothingStuck_of_stepsMeet chordPlayed (by decide) (by decide)

omit [ExpressionLibrary] [MachTimebase] in
/-- The key_up of A is taken for the one of the key_down that was claimed. -/
theorem pressedAgain_stuck :
    let _ := zeroExpressions
    let _ := nanosecondTimebase
    Foundation.Execution.StepsMeet step WellFormed initial pressedAgain ∧
      ¬ (pressedAgain.foldl step initial).NothingStuck := by
  intro expressions timebase
  refine ⟨by decide, fun nothingStuck => ?_⟩
  have released : ∀ entry ∈ (pressedAgain.foldl step initial).processed,
      heldCount entry.fromEvent (pressedAgain.foldl step initial).processed = 0 := by decide
  have counts := (nothingStuck (by decide) fun fromEvent _ _ =>
    heldCount_eq_zero_of_mem released fromEvent).2 1
    (.make UsagePage.keyboardOrKeypad Usage.keyboardA)
  revert counts
  decide

end KeyRun

end Karabiner
