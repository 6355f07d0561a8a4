import Karabiner.Basic.FirstPosted
import Karabiner.Basic.Loop
import Karabiner.Foundation.Execution

/-! # Reordering the output of basic manipulators

With `reorder_same_timestamp_input_events_to_prioritize_modifiers` the output queue is
sorted after each entry. What a call posts is delayed by one tick less than the number of
its events, so the next entry of the same report ties with the last of them, and a
modifier that was released comes behind the next key. The output keeps the order in which
it was posted exactly when no call starts with an event that has to be swapped with the
last one of the queue (`Karabiner.OrderedRun.inOrder_iff`).
-/

namespace Karabiner

/-- What `needs_swap` reads of an entry. -/
def Entry.swapKey (entry : Entry) : Int × Event × EventType :=
  (entry.eventTimeStamp.timeStamp, entry.event, entry.eventType)

theorem EventQueue.needsSwap_congr {v1 v2 other : Entry} (same : v2.swapKey = other.swapKey) :
    needsSwap v1 v2 = needsSwap v1 other := by
  obtain ⟨time, event, type⟩ : v2.eventTimeStamp.timeStamp = other.eventTimeStamp.timeStamp ∧
      v2.event = other.event ∧ v2.eventType = other.eventType := by
    simpa [Entry.swapKey] using same
  unfold needsSwap
  rw [time, event, type]

/-- The entries a queue has got are in order, and the first one is like the given entry. -/
structure Adds (first : Option Entry) (before after : EventQueue) (added : List Entry) :
    Prop where
  events : after.events = before.events ++ added
  ordered : EventQueue.Ordered added
  first : added.head?.map Entry.swapKey = first.map Entry.swapKey

namespace Basic

/-- An entry that is put in an output queue, with the event that is posted for it. -/
def outputEntry (front : Entry) (output : EventQueue) (lead : Event × EventType) : Entry :=
  { front with
    event := lead.1
    eventType := lead.2
    eventTimeStamp := { front.eventTimeStamp with
      timeStamp := front.eventTimeStamp.timeStamp + output.timeStampDelay } }

variable [MachTimebase]

/-- The first event that a valid front entry puts in the output queue: it passes the
manipulators up to one that waits for other keys or takes it. -/
def frontLead (rest : List Entry) (now : Int) : List Basic → Entry → EventQueue →
    Option (Event × EventType)
  | [], front, _ => some (front.event, front.eventType)
  | basic :: others, front, output =>
      if FromEventDefinition.testEvent front.event basic.from_ then
        match front.eventType with
        | .keyDown =>
            match basic.decideKeyDown front (front :: rest) output now with
            | (.notTarget, delayed, environment) =>
                frontLead rest now others delayed
                  { output with manipulatorEnvironment := environment }
            | (.waits, _, _) => some (.stopKeyboardRepeat, .single)
            | (.claims fromEvents mandatory, delayed, environment) =>
                basic.keyDownLead delayed
                  ⟨{ output with manipulatorEnvironment := environment }, 0,
                    .make fromEvents mandatory front.eventTimeStamp.timeStamp
                      output.modifierFlagManager.makeModifierFlags front.deviceId⟩
        | .keyUp =>
            match findRecord front.fromEvent basic.manipulatedOriginalEvents with
            | none => frontLead rest now others front output
            | some (_, current, _) =>
                basic.keyUpLead front ⟨output, 0, current.eraseFromEvent front.fromEvent⟩
        | .single => frontLead rest now others front output
      else frontLead rest now others front output

/-- A decision leaves the time of the front entry as it is. -/
theorem timeStamp_decideKeyDown (basic : Basic) (front : Entry) (entries : List Entry)
    (output : EventQueue) (now : Int) :
    (basic.decideKeyDown front entries output now).2.1.eventTimeStamp.timeStamp =
      front.eventTimeStamp.timeStamp := by
  unfold decideKeyDown
  split
  · rfl
  · split
    · rfl
    · split
      · rfl
      · dsimp only
        split
        · unfold decideByLookAhead
          dsimp only
          split
          · rfl
          · split
            · split
              · rfl
              · split <;> rfl
            · rfl
        · rfl

/-- The time of the front entry after a decision. -/
theorem timeStamp_of_decided {basic : Basic} {front delayed : Entry} {entries : List Entry}
    {output : EventQueue} {now : Int} {decision : KeyDownDecision}
    {environment : ManipulatorEnvironment}
    (decided : basic.decideKeyDown front entries output now = (decision, delayed, environment)) :
    delayed.eventTimeStamp.timeStamp = front.eventTimeStamp.timeStamp := by
  have time := basic.timeStamp_decideKeyDown front entries output now
  rw [decided] at time
  exact time

omit [MachTimebase] in
theorem keyDownLead_unsetAloneIfNeeded (basic : Basic) (event : Event) (eventType : EventType)
    (front : Entry) (sending : Sending) :
    (basic.unsetAloneIfNeeded event eventType).keyDownLead front sending =
      basic.keyDownLead front sending := by
  unfold unsetAloneIfNeeded
  split <;> rfl

variable [ExpressionLibrary]

omit [MachTimebase] [ExpressionLibrary] in
/-- An entry whose first event is known adds this to the output queue. -/
theorem adds_of_posts {front delayed : Entry} {first : Option (Event × EventType)}
    {output : EventQueue} {current : ManipulatedOriginalEvent} {after : Sending}
    {environment : ManipulatorEnvironment}
    (posts : Sending.Posts delayed first
      ⟨{ output with manipulatorEnvironment := environment }, 0, current⟩ after)
    (time : delayed.eventTimeStamp.timeStamp = front.eventTimeStamp.timeStamp) :
    ∃ added, Adds (first.map (outputEntry front output)) output (finishSending after) added := by
  obtain ⟨posted, own⟩ := posts
  refine ⟨posted, (events_finishSending after).trans own.events, own.ordered, ?_⟩
  rw [← own.first]
  cases posted with
  | nil => rfl
  | cons entry rest =>
      have started := own.starts entry rfl
      unfold Sending.nextTimeStamp at started
      rw [time, Int.add_zero] at started
      simp only [List.head?_cons, Option.map_some, Entry.swapKey, outputEntry, started]

omit [MachTimebase] [ExpressionLibrary] in
/-- The front entry and the queue count as far as their times do. -/
theorem swapKey_outputEntry {front delayed : Entry} {output other : EventQueue}
    (time : delayed.eventTimeStamp.timeStamp = front.eventTimeStamp.timeStamp)
    (delay : other.timeStampDelay = output.timeStampDelay)
    (lead : Option (Event × EventType)) :
    (lead.map (outputEntry delayed other)).map Entry.swapKey =
      (lead.map (outputEntry front output)).map Entry.swapKey := by
  cases lead with
  | none => rfl
  | some pair => simp only [Option.map_some, Entry.swapKey, outputEntry, time, delay]

omit [MachTimebase] in
/-- A front entry that passes is added. -/
theorem adds_front (front : Entry) (output : EventQueue) :
    ∃ added, Adds (some (outputEntry front output (front.event, front.eventType))) output
      (output.pushBackEntry front) added :=
  ⟨[_], rfl, List.isChain_singleton _, rfl⟩

omit [MachTimebase] in
/-- An entry that waits adds the event that stops the repeat of the keyboard. -/
theorem adds_stopKeyboardRepeat {front delayed : Entry} (output : EventQueue)
    (environment : ManipulatorEnvironment)
    (time : delayed.eventTimeStamp.timeStamp = front.eventTimeStamp.timeStamp) :
    ∃ added, Adds (some (outputEntry front output (.stopKeyboardRepeat, .single))) output
      (postStopKeyboardRepeat { output with manipulatorEnvironment := environment } delayed)
        added := by
  refine ⟨[_], rfl, List.isChain_singleton _, ?_⟩
  simp only [List.head?_cons, Option.map_some, Entry.swapKey, outputEntry, Entry.make, time]

/-- What the manipulators and a front entry that passes them add to the output queue. -/
theorem adds_manipulateEach (rest : List Entry) (input : EventQueue) (now : Int)
    (manipulators : List Basic) (front : Entry) (output : EventQueue)
    (isValid : front.validity = .valid) :
    (∃ added, Adds ((frontLead rest now manipulators front output).map (outputEntry front output))
      output (afterLoop (Stage.manipulateEach rest input now manipulators front output)) added) ∧
      ((Stage.manipulateEach rest input now manipulators front output).waits = true →
        frontLead rest now manipulators front output = some (.stopKeyboardRepeat, .single)) := by
  induction manipulators generalizing front output with
  | nil =>
      have pushed : afterLoop ⟨false, [], front, output⟩ = output.pushBackEntry front := by
        unfold afterLoop
        rw [if_neg Bool.false_ne_true, if_pos isValid]
      refine ⟨?_, nofun⟩
      change ∃ added, Adds _ output (afterLoop ⟨false, [], front, output⟩) added
      rw [pushed]
      exact adds_front front output
  | cons basic others ih =>
      -- The entry is shown to the manipulators that follow, later than it was at most.
      have passes : ∀ {delayed : Entry} {environment : ManipulatorEnvironment},
          basic.manipulate front { input with events := front :: rest } output now =
            (.passed, basic.unsetAloneIfNeeded front.event front.eventType, delayed,
              { output with manipulatorEnvironment := environment }) →
          delayed.eventTimeStamp.timeStamp = front.eventTimeStamp.timeStamp →
          delayed.validity = .valid →
          (∃ added, Adds ((frontLead rest now others delayed
              { output with manipulatorEnvironment := environment }).map (outputEntry front output))
            output (afterLoop
              (Stage.manipulateEach rest input now (basic :: others) front output)) added) ∧
          ((Stage.manipulateEach rest input now (basic :: others) front output).waits = true →
            frontLead rest now others delayed { output with manipulatorEnvironment := environment } =
              some (.stopKeyboardRepeat, .single)) := by
        intro delayed environment shape time valid
        obtain ⟨⟨added, own⟩, waiting⟩ :=
          ih delayed { output with manipulatorEnvironment := environment } valid
        rw [Stage.manipulateEach_cons (by simp) shape]
        exact ⟨⟨added, own.events, own.ordered,
          own.first.trans (swapKey_outputEntry time rfl _)⟩, waiting⟩
      have handled := handles_manipulate basic rest input output now isValid
      unfold frontLead
      generalize shape : basic.manipulate front { input with events := front :: rest } output now =
        answer at handled
      cases handled with
      | ignores tests =>
          rw [if_neg (by simp [tests])]
          exact passes shape rfl isValid
      | single tests type =>
          rw [if_pos tests, type]
          exact passes shape rfl isValid
      | unheld tests type found =>
          rw [if_pos tests, type, found]
          exact passes (shape.trans (by rw [type, unsetAloneIfNeeded_keyUp tests])) rfl isValid
      | releases tests type found isSent =>
          rw [if_pos tests, type, found, Stage.manipulateEach_cons (by simp) shape,
            manipulateEach_invalid { front with validity := .invalid } rfl, isSent]
          exact ⟨adds_of_posts (basic.posts_sendAtKeyUp front _) rfl, nofun⟩
      | notTarget tests type decided same =>
          rw [if_pos tests, type, decided]
          exact passes shape (timeStamp_of_decided decided) (same.validity.trans isValid)
      | waits tests type decided same =>
          rw [if_pos tests, type, decided, Stage.manipulateEach_waits shape]
          exact ⟨adds_stopKeyboardRepeat output _ (timeStamp_of_decided decided), fun _ => rfl⟩
      | @claims delayed environment fromEvents mandatory noted sent tests type decided same _
          isNoted isSent =>
          rw [if_pos tests, type, decided, Stage.manipulateEach_cons (by simp) shape,
            manipulateEach_invalid { delayed with validity := .invalid } rfl, isSent]
          have posts := noted.posts_sendAtKeyDown delayed
            ⟨{ output with manipulatorEnvironment := environment }, 0,
              .make fromEvents mandatory front.eventTimeStamp.timeStamp
                output.modifierFlagManager.makeModifierFlags front.deviceId⟩
          rw [isNoted, keyDownLead_unsetAloneIfNeeded, ← isNoted] at posts
          exact ⟨adds_of_posts posts (timeStamp_of_decided decided), nofun⟩

end Basic

namespace Stage

variable [ExpressionLibrary] [MachTimebase]

omit [ExpressionLibrary] in
/-- The first entry that a call puts in the output queue. -/
def firstOutput (stage : Stage Basic) (now : Int) : Option Entry :=
  match stage.input.events with
  | [] => none
  | front :: rest =>
      let lead :=
        if front.validity = .invalid then none
        else if eventKind front.event = .manipulated then
          if stage.manipulators.any (fun basic => basic.alreadyManipulated front) then none
          else Basic.frontLead rest now stage.manipulators front stage.output
        else some (front.event, front.eventType)
      lead.map (Basic.outputEntry front stage.output)

omit [ExpressionLibrary] in
/-- The last entry of the output queue is not to be swapped with the first one that the call
puts behind it. -/
def Separated (stage : Stage Basic) (now : Int) : Prop :=
  ∀ last ∈ stage.output.events.getLast?, ∀ first ∈ stage.firstOutput now,
    EventQueue.needsSwap last first = false

/-- The entries that a call puts in the output queue, before the queue is sorted. -/
def postedEntries (stage : Stage Basic) (now : Int) : List Entry :=
  (stage.manipulate now false).2.output.events.drop stage.output.events.length

/-- The output queue after a call that does not sort it. -/
theorem output_manipulate (stage : Stage Basic) {front : Entry} {rest : List Entry}
    (next : stage.input.events = front :: rest) (now : Int) :
    (stage.manipulate now false).2.output =
      Basic.afterLoop (stage.dispatchFront front rest now) := by
  unfold manipulate Basic.afterLoop
  rw [next]
  dsimp only
  split <;> rfl

omit [MachTimebase] in
/-- An entry that the manipulators do not change, and that is passed on if it is valid. -/
theorem adds_passed (front : Entry) {output changed : EventQueue} (manipulators : List Basic)
    (events : changed.events = output.events)
    (delay : changed.timeStampDelay = output.timeStampDelay) :
    ∃ added, Adds ((if front.validity = .invalid then none
        else some (front.event, front.eventType)).map (Basic.outputEntry front output)) output
      (Basic.afterLoop ⟨false, manipulators, front, changed⟩) added := by
  unfold Basic.afterLoop
  rw [if_neg Bool.false_ne_true]
  cases isValid : front.validity with
  | invalid => exact ⟨[], by rw [List.append_nil]; exact events, List.isChain_nil, rfl⟩
  | valid =>
      obtain ⟨added, own⟩ := Basic.adds_front front changed
      refine ⟨added, own.events.trans (by rw [events]), own.ordered, own.first.trans ?_⟩
      exact Basic.swapKey_outputEntry rfl delay (some (front.event, front.eventType))

/-- What a call adds to the output queue when it is not sorted, and that a call that waits
adds no key. -/
theorem adds_dispatchFront (stage : Stage Basic) {front : Entry} {rest : List Entry}
    (next : stage.input.events = front :: rest) (now : Int) :
    (∃ added, Adds (stage.firstOutput now) stage.output
      (Basic.afterLoop (stage.dispatchFront front rest now)) added) ∧
      ((stage.dispatchFront front rest now).waits = true →
        stage.firstOutput now =
          some (Basic.outputEntry front stage.output (.stopKeyboardRepeat, .single))) := by
  unfold firstOutput
  rw [next]
  dsimp only
  by_cases kind : eventKind front.event = .manipulated
  · rw [stage.dispatchFront_manipulated now kind]
    cases isValid : front.validity with
    | invalid =>
        rw [if_pos rfl, if_neg (by simp), Basic.manipulateEach_invalid front isValid]
        have passed := adds_passed front (stage.manipulators.map fun basic =>
          basic.unsetAloneIfNeeded front.event front.eventType) (rfl : stage.output.events = _) rfl
        rw [isValid] at passed
        exact ⟨passed, nofun⟩
    | valid =>
        rw [if_neg (by simp), if_pos kind]
        cases already : stage.manipulators.any fun basic => basic.alreadyManipulated front with
        | true =>
            rw [if_pos rfl, if_pos ⟨rfl, rfl⟩]
            exact ⟨adds_passed { front with validity := .invalid } stage.manipulators rfl rfl, nofun⟩
        | false =>
            rw [if_neg Bool.false_ne_true, if_neg (by simp)]
            obtain ⟨added, waiting⟩ := Basic.adds_manipulateEach rest stage.input now
              stage.manipulators front stage.output isValid
            refine ⟨added, fun waits => ?_⟩
            rw [waiting waits]
            rfl
  · obtain ⟨manipulators, changed, passed, events, delay, _⟩ :=
      @dispatchFront_passed _ _ stage front rest now kind
    rw [passed, if_neg kind]
    exact ⟨adds_passed front manipulators events delay, nofun⟩

/-- What a call adds to the output queue when it is not sorted. -/
theorem adds_manipulate (stage : Stage Basic) (now : Int) :
    ∃ added, Adds (stage.firstOutput now) stage.output (stage.manipulate now false).2.output
      added := by
  cases queued : stage.input.events with
  | nil =>
      unfold firstOutput manipulate
      rw [queued]
      exact ⟨[], (List.append_nil _).symm, List.isChain_nil, rfl⟩
  | cons front rest =>
      rw [stage.output_manipulate queued now]
      exact (stage.adds_dispatchFront queued now).1

/-- The entries that a call puts in the output queue come behind those it held. -/
theorem events_manipulate (stage : Stage Basic) (now : Int) :
    (stage.manipulate now false).2.output.events =
      stage.output.events ++ stage.postedEntries now := by
  obtain ⟨added, own⟩ := stage.adds_manipulate now
  unfold postedEntries
  rw [own.events, List.drop_left]

/-- The queue is in order before it is sorted exactly when its last entry is not to be
swapped with the first one the call adds. -/
theorem ordered_iff_separated (stage : Stage Basic) (now : Int)
    (ordered : EventQueue.Ordered stage.output.events) :
    EventQueue.Ordered (stage.manipulate now false).2.output.events ↔ stage.Separated now := by
  obtain ⟨added, own⟩ := stage.adds_manipulate now
  have known : ∀ last first, first ∈ added.head? → ∀ other ∈ stage.firstOutput now,
      EventQueue.needsSwap last first = EventQueue.needsSwap last other := by
    intro last first isFirst other isOther
    have same := own.first
    rw [Option.mem_def.mp isFirst, Option.mem_def.mp isOther] at same
    exact EventQueue.needsSwap_congr (Option.some.inj same)
  unfold EventQueue.Ordered at ordered ⊢
  rw [own.events, List.isChain_append]
  constructor
  · rintro ⟨_, _, boundary⟩ last isLast other isOther
    cases starts : added.head? with
    | none =>
        have same := own.first
        rw [starts, Option.mem_def.mp isOther] at same
        cases same
    | some first =>
        rw [← known last first starts other isOther]
        exact boundary last isLast first starts
  · intro separated
    refine ⟨ordered, own.ordered, fun last isLast first isFirst => ?_⟩
    cases leads : stage.firstOutput now with
    | none =>
        have same := own.first
        rw [leads, Option.mem_def.mp isFirst] at same
        cases same
    | some other =>
        rw [known last first isFirst other leads]
        exact separated last isLast other leads

/-- A call sorts its output queue, unless it waits; then there is nothing to sort. -/
theorem events_manipulate_sorted (stage : Stage Basic) (now : Int)
    (ordered : EventQueue.Ordered stage.output.events) :
    (stage.manipulate now true).2.output.events =
      (stage.manipulate now false).2.output.sortEvents.events := by
  have separatedIf := stage.ordered_iff_separated now ordered
  have unsorted := (stage.manipulate now false).2.output.sortEvents_eq_iff
  cases queued : stage.input.events with
  | nil =>
      have same : (stage.manipulate now false).2.output = stage.output := by
        unfold manipulate
        rw [queued]
      have kept : (stage.manipulate now true).2.output = stage.output := by
        unfold manipulate
        rw [queued]
      rw [same] at unsorted ⊢
      rw [kept, unsorted.mpr ordered]
  | cons front rest =>
      have lead := (stage.adds_dispatchFront queued now).2
      cases waits : (stage.dispatchFront front rest now).waits with
      | true =>
          have separated : stage.Separated now := by
            intro last _ first isFirst
            rw [lead waits] at isFirst
            obtain rfl := Option.some.inj isFirst
            exact EventQueue.needsSwap_of_notKey rfl
          rw [unsorted.mpr (separatedIf.mpr separated)]
          unfold manipulate
          rw [queued]
          dsimp only
          rw [waits]
          rfl
      | false =>
          unfold manipulate
          rw [queued]
          dsimp only
          rw [waits]
          rfl

end Stage

/-! ## Runs -/

/-- A manager whose output queue is sorted after each entry, the entries that the next one
has taken from it, and what was posted, call by call. -/
structure OrderedRun where
  stage : Stage Basic
  taken : List Entry
  posted : List (List Entry)

namespace OrderedRun

inductive Action where
  | manipulate (now : Int)
  | takeOutput
  | pushInput (entry : Entry)

variable [ExpressionLibrary] [MachTimebase]

def step (run : OrderedRun) : Action → OrderedRun
  | .manipulate now =>
      { run with
        stage := (run.stage.manipulate now true).2
        posted := run.posted ++ [run.stage.postedEntries now] }
  | .takeOutput =>
      { run with
        stage := { run.stage with output := run.stage.output.eraseFrontEvent }
        taken := run.taken ++ run.stage.output.events.take 1 }
  | .pushInput entry =>
      { run with
        stage := { run.stage with input := (run.stage.input.pushBackEntry entry).sortEvents } }

omit [ExpressionLibrary] [MachTimebase] in
/-- Nothing is taken yet, and nothing is posted but what the output queue holds. -/
def start (stage : Stage Basic) : OrderedRun := ⟨stage, [], [stage.output.events]⟩

omit [ExpressionLibrary] [MachTimebase] in
/-- The output is what was posted, call by call and each in the order of posting. -/
def InOrder (run : OrderedRun) : Prop :=
  run.taken ++ run.stage.output.events = run.posted.flatten

instance (run : OrderedRun) : Decidable run.InOrder :=
  inferInstanceAs (Decidable (_ = _))

omit [ExpressionLibrary] in
/-- A call does not start with an entry that is to be swapped with the last one of the
output queue. -/
def Separated (run : OrderedRun) : Action → Prop
  | .manipulate now => run.stage.Separated now
  | .takeOutput | .pushInput _ => True

omit [ExpressionLibrary] [MachTimebase] in
/-- What the steps keep while the output is in order. -/
structure Sorted (run : OrderedRun) : Prop where
  inOrder : run.InOrder
  ordered : EventQueue.Ordered run.stage.output.events

/-- One step keeps the order exactly when it is separated from what was posted before. -/
theorem inOrder_step_iff {run : OrderedRun} (sorted : run.Sorted) (action : Action) :
    (run.step action).InOrder ↔ run.Separated action := by
  have inOrder := sorted.inOrder
  unfold InOrder at inOrder ⊢
  cases action with
  | manipulate now =>
      unfold step Separated
      dsimp only
      rw [List.flatten_append, List.flatten_singleton, ← inOrder, List.append_assoc,
        List.append_cancel_left_eq, ← run.stage.events_manipulate,
        run.stage.events_manipulate_sorted now sorted.ordered, EventQueue.sortEvents_eq_iff]
      exact run.stage.ordered_iff_separated now sorted.ordered
  | takeOutput =>
      refine iff_of_true ?_ trivial
      unfold step EventQueue.eraseFrontEvent
      dsimp only
      rw [← inOrder, List.append_assoc]
      cases run.stage.output.events <;> rfl
  | pushInput entry => exact iff_of_true inOrder trivial

theorem Sorted.step {run : OrderedRun} (sorted : run.Sorted) {action : Action}
    (inOrder : (run.step action).InOrder) : (run.step action).Sorted := by
  refine ⟨inOrder, ?_⟩
  cases action with
  | manipulate now =>
      unfold OrderedRun.step
      dsimp only
      rw [run.stage.events_manipulate_sorted now sorted.ordered]
      exact EventQueue.ordered_sortEvents _
  | takeOutput => exact sorted.ordered.tail
  | pushInput entry => exact sorted.ordered

/-- The output stays in the order of posting exactly as long as no call starts with an entry
that `sort_events` swaps with the last one of the output queue. -/
theorem inOrder_iff (stage : Stage Basic) (actions : List Action)
    (sorted : stage.output.sortEvents.events = stage.output.events) :
    Foundation.Execution.StepsMeet step (fun run action => (run.step action).InOrder) (start stage)
        actions ↔
      Foundation.Execution.StepsMeet step Separated (start stage) actions := by
  refine Foundation.Execution.stepsMeet_iff
    (fun run action sorted => inOrder_step_iff sorted action)
    (fun run action sorted inOrder => Sorted.step sorted inOrder) actions ⟨?_, ?_⟩
  · exact (List.append_nil _).symm
  · exact stage.output.sortEvents_eq_iff.mp sorted

/-- A manipulator from the key A to left shift and B. -/
def shiftedKey : Basic where
  validity := .valid
  conditionManager := ⟨[]⟩
  parameters := .initial
  from_ := ⟨[.momentarySwitchEvent (.make UsagePage.keyboardOrKeypad Usage.keyboardA)],
    ⟨[], []⟩, none, .initial⟩
  to_ := [⟨.momentarySwitchEvent (.make UsagePage.keyboardOrKeypad Usage.keyboardB),
    [.leftShift], false, true, false, 0, ⟨[]⟩⟩]
  toAfterKeyUp := []
  toIfAlone := []
  manipulatedOriginalEvents := []

/-- A and return are pressed in one report. -/
def oneReport : Stage Basic :=
  let entryOf (usage : Usage) := Entry.original 1 10
    (.momentarySwitchEvent (.make UsagePage.keyboardOrKeypad usage)) .keyDown
  ⟨[shiftedKey], { EventQueue.initial with
    events := [entryOf Usage.keyboardA, entryOf Usage.keyboardReturnOrEnter] }, .initial⟩

omit [ExpressionLibrary] [MachTimebase] in
/-- At the report in which left shift comes up behind return, the order is kept as little as the
entries are separated. -/
theorem inOrder_iff_oneReport :
    let _ := zeroExpressions
    let _ := nanosecondTimebase
    let actions := [.manipulate 20, .manipulate 20]
    Foundation.Execution.StepsMeet step (fun run action => (run.step action).InOrder)
        (start oneReport) actions ↔
      Foundation.Execution.StepsMeet step Separated (start oneReport) actions := by
  intro expressions timebase actions
  exact inOrder_iff oneReport actions rfl

omit [ExpressionLibrary] [MachTimebase] in
/-- The key_up of left shift comes behind return, which is typed with shift. -/
theorem oneReport_notInOrder :
    let _ := zeroExpressions
    let _ := nanosecondTimebase
    oneReport.input.sortEvents.events = oneReport.input.events ∧
      ¬ Foundation.Execution.StepsMeet step (fun run action => (run.step action).InOrder)
        (start oneReport) [.manipulate 20, .manipulate 20] := by
  decide

end OrderedRun

end Karabiner
