import Karabiner.Basic.HoldTimes
import Karabiner.Basic.PostingOrder
import Karabiner.Manipulator.MouseBasic

/-! # The times in an output queue

Whatever a call posts starts at the time of the front entry and the delay of the output queue,
and the delay grows by what the call took (`EventQueue.Follows`), until the queue is drained. So
the times in the output queue of a manager of `basic` and `mouse_basic` manipulators never fall,
exactly as long as no key_up is posted before its key_down because of a negative
`hold_down_milliseconds` (`TimedRun.inTimeOrder_iff`). The times are compared as the 64-bit time
points they are in the source, in runs in which none of them wraps.
-/

namespace Karabiner

namespace EventQueue

/-- The times of the entries. -/
def timeStamps (queue : EventQueue) : List Int :=
  queue.events.map fun entry => entry.eventTimeStamp.timeStamp

/-- What a call adds for an entry of a time. It starts at the time and the delay of the queue, its
times never fall exactly if no hold time is too negative, and then the new delay leads up to the
last of them. -/
structure AddsTimes (time : Int) (holds : List Int) (before after : EventQueue) (added : List Int) :
    Prop where
  timeStamps : after.timeStamps = before.timeStamps ++ added
  starts : ∀ first ∈ added.head?, first = time + before.timeStampDelay
  chain : added.IsChain (· ≤ ·) ↔ ∀ hold ∈ holds, -1 ≤ hold
  ends : (∀ hold ∈ holds, -1 ≤ hold) →
    ((time + before.timeStampDelay) :: added).getLast? = some (time + after.timeStampDelay)

/-- A call adds entries that follow what the queue holds. -/
def Follows (time : Int) (holds : List Int) (before after : EventQueue) : Prop :=
  ∃ added, AddsTimes time holds before after added

namespace Follows

variable {time : Int} {holds : List Int} {before after : EventQueue}

/-- Nothing is added. -/
theorem of_same (events : after.events = before.events)
    (delay : after.timeStampDelay = before.timeStampDelay) : Follows time [] before after := by
  refine ⟨[], ?_, fun _ none => absurd none (Option.not_mem_none _),
    iff_of_true List.isChain_nil fun _ none => absurd none List.not_mem_nil, fun _ => ?_⟩
  · unfold timeStamps
    rw [events, List.append_nil]
  · rw [delay]
    rfl

/-- One entry of the time is added. -/
theorem of_pushBackEntry [ExpressionLibrary] (queue : EventQueue) (entry : Entry) :
    Follows entry.eventTimeStamp.timeStamp [] queue (queue.pushBackEntry entry) := by
  refine ⟨[entry.eventTimeStamp.timeStamp + queue.timeStampDelay], ?_, fun first isFirst => ?_,
    iff_of_true (List.isChain_singleton _) fun _ none => absurd none List.not_mem_nil,
    fun _ => rfl⟩
  · unfold timeStamps pushBackEntry
    rw [List.map_append]
    rfl
  · exact (Option.some.inj isFirst).symm

/-- Of the queue before only its entries and its delay matter. -/
theorem changeBefore {other : EventQueue} (follows : Follows time holds other after)
    (events : other.events = before.events)
    (delay : other.timeStampDelay = before.timeStampDelay) : Follows time holds before after := by
  have same : other.timeStamps = before.timeStamps := by
    unfold EventQueue.timeStamps
    rw [events]
  obtain ⟨added, adds⟩ := follows
  refine ⟨added, by rw [adds.timeStamps, same], ?_, adds.chain, ?_⟩
  · rw [← delay]
    exact adds.starts
  · rw [← delay]
    exact adds.ends

/-- Sorting the queue leaves its times where they are. -/
theorem sortEvents (follows : Follows time holds before after) :
    Follows time holds before after.sortEvents := by
  obtain ⟨added, adds⟩ := follows
  exact ⟨added, after.timeStamps_sortEvents.trans adds.timeStamps, adds.starts, adds.chain,
    adds.ends⟩

/-- What is posted tick by tick, once the delay of the queue has been increased. -/
theorem of_paced {front : Entry} {first : Option (Event × EventType)} {output : EventQueue}
    {environment : ManipulatorEnvironment} {current : ManipulatedOriginalEvent} {sent : Sending}
    (paced : Sending.Paced front holds
      ⟨{ output with manipulatorEnvironment := environment }, 0, current⟩ sent)
    (posts : Sending.Posts front first
      ⟨{ output with manipulatorEnvironment := environment }, 0, current⟩ sent) :
    Follows front.eventTimeStamp.timeStamp holds output (Basic.finishSending sent) := by
  obtain ⟨⟨entries, events, rises⟩, delay⟩ := paced
  have starts := posts.starts
  rw [Sending.entriesPosted_of_append events] at starts
  have started : Sending.nextTimeStamp
      ⟨{ output with manipulatorEnvironment := environment }, 0, current⟩ front =
        front.eventTimeStamp.timeStamp + output.timeStampDelay := by
    unfold Sending.nextTimeStamp
    dsimp only
    omega
  have ended : sent.nextTimeStamp front =
      front.eventTimeStamp.timeStamp + sent.timeStampDelay + output.timeStampDelay := by
    unfold Sending.nextTimeStamp
    rw [delay]
  rw [started] at starts rises
  rw [ended] at rises
  have first : ∀ first ∈ (entries.map fun entry => entry.eventTimeStamp.timeStamp).head?,
      first = front.eventTimeStamp.timeStamp + output.timeStampDelay := by
    intro first isFirst
    rw [List.head?_map] at isFirst
    obtain ⟨entry, member, rfl⟩ := Option.map_eq_some_iff.mp isFirst
    exact starts entry member
  have rising := rises.chain 0 (by omega)
  have last := rises.ends
  generalize addedAre : (entries.map fun entry => entry.eventTimeStamp.timeStamp) = added
    at first rising last
  simp only [Int.add_zero, Int.zero_sub] at rising
  have chain : added.IsChain (· ≤ ·) ↔ ∀ hold ∈ holds, -1 ≤ hold := by
    rw [← rising, List.isChain_cons]
    refine (and_iff_right fun next isNext => ?_).symm
    rw [first next isNext]
    omega
  refine ⟨added, ?_, first, chain, fun allows => ?_⟩
  · unfold timeStamps
    rw [Basic.events_finishSending, events, List.map_append, addedAre]
  · cases added with
    | nil =>
        have nothing : sent.timeStampDelay = 0 := by
          rw [List.getLast?_singleton, Option.some.injEq] at last
          omega
        unfold Basic.finishSending
        rw [if_neg (by omega), delay]
        rfl
    | cons start rest =>
        obtain rfl := first start rfl
        rw [List.getLast?_cons_cons] at last ⊢
        have behind : ∀ later ∈ rest, _ ≤ later :=
          (List.pairwise_cons.mp (List.isChain_iff_pairwise.mp (chain.mpr allows))).1
        have positive : sent.timeStampDelay > 0 := by
          rcases List.mem_cons.mp (List.mem_of_getLast? last) with same | later
          · omega
          · have rises := behind _ later
            omega
        have increased : (Basic.finishSending sent).timeStampDelay =
            output.timeStampDelay + (sent.timeStampDelay - 1) := by
          unfold Basic.finishSending EventQueue.increaseTimeStampDelay
          rw [if_pos positive]
          exact congrArg (· + _) delay
        rw [last, increased]
        congr 1
        omega

/-- The queue is still in order exactly if no hold time is too negative. -/
theorem isChain_iff (follows : Follows time holds before after)
    (chain : before.timeStamps.IsChain (· ≤ ·))
    (behind : ∀ last ∈ before.timeStamps.getLast?, last ≤ time + before.timeStampDelay) :
    after.timeStamps.IsChain (· ≤ ·) ↔ ∀ hold ∈ holds, -1 ≤ hold := by
  obtain ⟨added, adds⟩ := follows
  rw [adds.timeStamps, List.isChain_append, ← adds.chain]
  refine ⟨fun all => all.2.1, fun own => ⟨chain, own, fun last isLast first isFirst => ?_⟩⟩
  rw [adds.starts first isFirst]
  exact behind last isLast

/-- Then the queue ends at the time and its new delay at the latest. -/
theorem behind_of_allows (follows : Follows time holds before after)
    (allows : ∀ hold ∈ holds, -1 ≤ hold)
    (behind : ∀ last ∈ before.timeStamps.getLast?, last ≤ time + before.timeStampDelay) :
    ∀ last ∈ after.timeStamps.getLast?, last ≤ time + after.timeStampDelay := by
  obtain ⟨added, adds⟩ := follows
  have ends := adds.ends allows
  rw [adds.timeStamps]
  intro last isLast
  cases added with
  | nil =>
      rw [List.append_nil] at isLast
      have same := Option.some.inj ends
      exact same ▸ behind last isLast
  | cons first rest =>
      rw [List.getLast?_append_of_ne_nil _ (List.cons_ne_nil first rest)] at isLast
      rw [List.getLast?_cons_cons, Option.mem_def.mp isLast] at ends
      exact Int.le_of_eq (Option.some.inj ends)

end Follows

end EventQueue

namespace Basic

theorem to_unsetAloneIfNeeded (basic : Basic) (event : Event) (eventType : EventType) :
    (basic.unsetAloneIfNeeded event eventType).to_ = basic.to_ := by
  unfold unsetAloneIfNeeded
  split <;> rfl

end Basic

namespace ComplexManipulator

variable [ExpressionLibrary] [MachTimebase]

/-- The hold times of what a valid front entry makes the manipulators post: it passes them up to
one that waits for other keys or takes it. -/
def frontHolds (rest : List Entry) (now : Int) : List ComplexManipulator → Entry → EventQueue →
    List Int
  | [], _, _ => []
  | .mouseBasic mouse :: others, front, output =>
      match mouse.testFront front output.manipulatorEnvironment with
      | (none, environment) =>
          frontHolds rest now others front { output with manipulatorEnvironment := environment }
      | (some _, _) => []
  | .basic own :: others, front, output =>
      if FromEventDefinition.testEvent front.event own.from_ then
        match front.eventType with
        | .keyDown =>
            match own.decideKeyDown front (front :: rest) output now with
            | (.notTarget, delayed, environment) =>
                frontHolds rest now others delayed
                  { output with manipulatorEnvironment := environment }
            | (.waits, _, _) => []
            | (.claims fromEvents mandatory, delayed, environment) =>
                Sending.listHolds ⟨{ output with manipulatorEnvironment := environment }, 0,
                  .make fromEvents mandatory front.eventTimeStamp.timeStamp
                    output.modifierFlagManager.makeModifierFlags front.deviceId⟩ delayed own.to_
        | .keyUp =>
            match Basic.findRecord front.fromEvent own.manipulatedOriginalEvents with
            | none => frontHolds rest now others front output
            | some (_, current, _) =>
                own.keyUpHolds front ⟨output, 0, current.eraseFromEvent front.fromEvent⟩
        | .single => frontHolds rest now others front output
      else frontHolds rest now others front output

/-- An entry that was taken is passed by the manipulators that follow. -/
theorem manipulateEach_invalid (front : Entry) (invalid : front.validity = .invalid)
    (rest : List Entry) (input output : EventQueue) (now : Int)
    (manipulators : List ComplexManipulator) :
    ∃ changed, Stage.manipulateEach rest input now manipulators front output =
      ⟨false, changed, front, output⟩ := by
  induction manipulators with
  | nil => exact ⟨[], rfl⟩
  | cons manipulator others ih =>
      obtain ⟨changed, passed⟩ := ih
      cases manipulator with
      | basic own =>
          have shape : own.manipulate front { input with events := front :: rest } output now =
              (.passed, own.unsetAloneIfNeeded front.event front.eventType, front, output) :=
            Basic.manipulate_of_passes _ output now (.inl invalid)
          exact ⟨.basic (own.unsetAloneIfNeeded front.event front.eventType) :: changed, by
            rw [Stage.manipulateEach_cons (by simp) (manipulate_basic shape), passed]⟩
      | mouseBasic mouse =>
          have shape : mouse.manipulate front output = (.passed, front, output) := by
            unfold MouseBasic.manipulate
            rw [mouse.testFront_of_invalid invalid]
          exact ⟨.mouseBasic mouse :: changed, by
            rw [Stage.manipulateEach_cons (by simp) (manipulate_mouseBasic shape), passed]⟩

/-- What the loop over the manipulators leaves in the output queue, with the front entry if it
passes. -/
def afterLoop (result : Stage.LoopResult ComplexManipulator) : EventQueue :=
  if result.waits then result.output
  else if result.front.validity = .valid then result.output.pushBackEntry result.front
  else result.output

/-- What the loop leaves follows what the output queue held, and the entry keeps its time. -/
structure LoopFollows (front : Entry) (holds : List Int) (output : EventQueue)
    (result : Stage.LoopResult ComplexManipulator) : Prop where
  follows : EventQueue.Follows front.eventTimeStamp.timeStamp holds output (afterLoop result)
  time : result.front.eventTimeStamp.timeStamp = front.eventTimeStamp.timeStamp

section OneManipulator

variable {manipulator changed : ComplexManipulator} {others : List ComplexManipulator}
  {front delayed : Entry} {rest : List Entry} {input output : EventQueue} {now : Int}
  {holds : List Int}

/-- The entry is shown to the manipulators that follow, later than it was at most. -/
theorem loopFollows_of_passed {environment : ManipulatorEnvironment}
    (shape : Manipulator.manipulate manipulator front { input with events := front :: rest } output
      now = (.passed, changed, delayed, { output with manipulatorEnvironment := environment }))
    (time : delayed.eventTimeStamp.timeStamp = front.eventTimeStamp.timeStamp)
    (later : LoopFollows delayed holds { output with manipulatorEnvironment := environment }
      (Stage.manipulateEach rest input now others delayed
        { output with manipulatorEnvironment := environment })) :
    LoopFollows front holds output
      (Stage.manipulateEach rest input now (manipulator :: others) front output) := by
  have follows := later.follows
  rw [time] at follows
  rw [Stage.manipulateEach_cons (by simp) shape]
  exact ⟨follows.changeBefore rfl rfl, later.time.trans time⟩

/-- The manipulators that follow do not see an entry that was taken. -/
theorem loopFollows_of_taken {sent : EventQueue}
    (shape : Manipulator.manipulate manipulator front { input with events := front :: rest } output
      now = (.manipulated, changed, { delayed with validity := .invalid }, sent))
    (time : delayed.eventTimeStamp.timeStamp = front.eventTimeStamp.timeStamp)
    (follows : EventQueue.Follows front.eventTimeStamp.timeStamp holds output sent) :
    LoopFollows front holds output
      (Stage.manipulateEach rest input now (manipulator :: others) front output) := by
  obtain ⟨left, same⟩ := manipulateEach_invalid { delayed with validity := .invalid } rfl
    rest input sent now others
  rw [Stage.manipulateEach_cons (by simp) shape, same]
  exact ⟨follows, time⟩

/-- A motion is passed, or another one is posted for it. -/
theorem loopFollows_mouseBasic (mouse : MouseBasic)
    (later : ∀ environment, LoopFollows front
      (frontHolds rest now others front { output with manipulatorEnvironment := environment })
      { output with manipulatorEnvironment := environment }
      (Stage.manipulateEach rest input now others front
        { output with manipulatorEnvironment := environment })) :
    LoopFollows front (frontHolds rest now (.mouseBasic mouse :: others) front output) output
      (Stage.manipulateEach rest input now (.mouseBasic mouse :: others) front output) := by
  unfold frontHolds
  cases tested : mouse.testFront front output.manipulatorEnvironment with
  | mk change environment =>
      cases change with
      | none =>
          have shape : mouse.manipulate front output =
              (.passed, front, { output with manipulatorEnvironment := environment }) := by
            unfold MouseBasic.manipulate
            rw [tested]
          exact loopFollows_of_passed (manipulate_mouseBasic shape) rfl (later environment)
      | some motion =>
          let changed : Entry :=
            { front with
              event := .pointingMotion motion
              state := .manipulated
              validity := .valid }
          have shape : mouse.manipulate front output =
              (.manipulated, { front with validity := .invalid },
                { output with manipulatorEnvironment := environment }.pushBackEntry changed) := by
            unfold MouseBasic.manipulate
            rw [tested]
          have posted : EventQueue.Follows front.eventTimeStamp.timeStamp []
              { output with manipulatorEnvironment := environment } _ :=
            EventQueue.Follows.of_pushBackEntry _ changed
          exact loopFollows_of_taken (manipulate_mouseBasic shape) rfl (posted.changeBefore rfl rfl)

/-- An entry is passed, it waits, or what was paced is sent for it. -/
theorem loopFollows_basic (own : Basic) (isValid : front.validity = .valid)
    (later : ∀ delayed output, delayed.validity = .valid →
      LoopFollows delayed (frontHolds rest now others delayed output) output
        (Stage.manipulateEach rest input now others delayed output)) :
    LoopFollows front (frontHolds rest now (.basic own :: others) front output) output
      (Stage.manipulateEach rest input now (.basic own :: others) front output) := by
  have handled := Basic.handles_manipulate own rest input output now isValid
  unfold frontHolds
  generalize shape : own.manipulate front { input with events := front :: rest } output now =
    answer at handled
  cases handled with
  | ignores tests =>
      rw [if_neg (by simp [tests])]
      exact loopFollows_of_passed (manipulate_basic shape) rfl (later front output isValid)
  | single tests type =>
      rw [if_pos tests, type]
      exact loopFollows_of_passed (manipulate_basic shape) rfl (later front output isValid)
  | unheld tests type found =>
      rw [if_pos tests, type, found]
      exact loopFollows_of_passed (manipulate_basic shape) rfl (later front output isValid)
  | releases tests type found isSent =>
      rw [if_pos tests, type, found]
      refine loopFollows_of_taken (manipulate_basic shape) rfl ?_
      rw [isSent]
      exact EventQueue.Follows.of_paced (own.paced_sendAtKeyUp front _)
        (own.posts_sendAtKeyUp front _)
  | notTarget tests type decided same =>
      rw [if_pos tests, type, decided]
      exact loopFollows_of_passed (manipulate_basic shape) (Basic.timeStamp_of_decided decided)
        (later _ _ (same.validity.trans isValid))
  | @waits delayed environment tests type decided =>
      have time := Basic.timeStamp_of_decided decided
      have posted := EventQueue.Follows.of_pushBackEntry
        { output with manipulatorEnvironment := environment }
        { Entry.make delayed.deviceId delayed.eventTimeStamp .stopKeyboardRepeat .single none
            delayed.originalEvent .virtualEvent with
          lazy := true }
      rw [if_pos tests, type, decided, Stage.manipulateEach_waits (manipulate_basic shape)]
      exact ⟨time ▸ posted.changeBefore rfl rfl, time⟩
  | @claims delayed environment fromEvents mandatory noted sent tests type decided _ _ isNoted
      isSent =>
      have time := Basic.timeStamp_of_decided decided
      have paced := noted.paced_sendAtKeyDown delayed
        ⟨{ output with manipulatorEnvironment := environment }, 0,
          .make fromEvents mandatory front.eventTimeStamp.timeStamp
            output.modifierFlagManager.makeModifierFlags front.deviceId⟩
      have sameList : noted.to_ = own.to_ := by rw [isNoted, Basic.to_unsetAloneIfNeeded]
      rw [sameList] at paced
      have posted := EventQueue.Follows.of_paced paced (noted.posts_sendAtKeyDown delayed _)
      rw [if_pos tests, type, decided]
      refine loopFollows_of_taken (manipulate_basic shape) time ?_
      rw [isSent]
      exact time ▸ posted

end OneManipulator

/-- What the manipulators post for a valid entry follows what the output queue holds. -/
theorem loopFollows_manipulateEach (rest : List Entry) (input : EventQueue) (now : Int)
    (manipulators : List ComplexManipulator) (front : Entry) (output : EventQueue)
    (isValid : front.validity = .valid) :
    LoopFollows front (frontHolds rest now manipulators front output) output
      (Stage.manipulateEach rest input now manipulators front output) := by
  induction manipulators generalizing front output with
  | nil =>
      have pushed : afterLoop ⟨false, [], front, output⟩ = output.pushBackEntry front := by
        unfold afterLoop
        rw [if_neg Bool.false_ne_true, if_pos isValid]
      change LoopFollows front [] output ⟨false, [], front, output⟩
      refine ⟨?_, rfl⟩
      rw [pushed]
      exact EventQueue.Follows.of_pushBackEntry output front
  | cons manipulator others ih =>
      cases manipulator with
      | basic own =>
          exact loopFollows_basic own isValid fun delayed output valid => ih delayed output valid
      | mouseBasic mouse => exact loopFollows_mouseBasic mouse fun _ => ih front _ isValid

end ComplexManipulator

namespace Stage

variable [ExpressionLibrary] [MachTimebase]

omit [ExpressionLibrary] [MachTimebase] in
/-- Handlers that leave the output queue alone. -/
theorem output_handleEach {M : Type} [Manipulator M] (handler : M → EventQueue → M × EventQueue)
    (same : ∀ manipulator output, (handler manipulator output).2 = output)
    (manipulators : List M) (output : EventQueue) :
    (handleEach handler manipulators output).2 = output := by
  induction manipulators generalizing output with
  | nil => rfl
  | cons manipulator rest ih =>
      exact (ih (handler manipulator output).2).trans (same manipulator output)

/-- The hold times of the key_ups that a call posts at once. -/
def holdsAtOnce (stage : Stage ComplexManipulator) (now : Int) : List Int :=
  match stage.input.events with
  | [] => []
  | front :: rest =>
      if front.validity = .valid ∧ eventKind front.event = .manipulated ∧
          stage.manipulators.any (fun m => Manipulator.alreadyManipulated m front) = false then
        ComplexManipulator.frontHolds rest now stage.manipulators front stage.output
      else []

omit [MachTimebase] in
/-- An entry that the manipulators leave alone is added if it is valid. -/
theorem follows_passed (front : Entry) {output changed : EventQueue}
    (manipulators : List ComplexManipulator) (events : changed.events = output.events)
    (delay : changed.timeStampDelay = output.timeStampDelay) :
    EventQueue.Follows front.eventTimeStamp.timeStamp [] output
      (ComplexManipulator.afterLoop ⟨false, manipulators, front, changed⟩) := by
  unfold ComplexManipulator.afterLoop
  rw [if_neg Bool.false_ne_true]
  dsimp only
  split
  · exact (EventQueue.Follows.of_pushBackEntry changed front).changeBefore events delay
  · exact EventQueue.Follows.of_same events delay

/-- What a call adds, before it sorts the queue. -/
theorem follows_dispatchFront (stage : Stage ComplexManipulator) {front : Entry}
    {rest : List Entry} (next : stage.input.events = front :: rest) (now : Int) :
    ComplexManipulator.LoopFollows front (stage.holdsAtOnce now) stage.output
      (stage.dispatchFront front rest now) := by
  unfold holdsAtOnce dispatchFront
  rw [next]
  dsimp only
  cases kind : eventKind front.event with
  | keysReleased =>
      rw [if_neg (by simp)]
      dsimp only
      refine ⟨follows_passed front _ ?_ ?_, rfl⟩
      · rw [output_handleEach _ (fun manipulator _ => by cases manipulator <;> rfl)]
        rfl
      · rw [output_handleEach _ (fun manipulator _ => by cases manipulator <;> rfl)]
        rfl
  | deviceUngrabbed =>
      rw [if_neg (by simp)]
      exact ⟨follows_passed front _ rfl rfl, rfl⟩
  | fromEventTap =>
      rw [if_neg (by simp)]
      dsimp only
      refine ⟨follows_passed front _ ?_ ?_, rfl⟩
      · rw [output_handleEach _ (fun manipulator _ => by cases manipulator <;> rfl)]
      · rw [output_handleEach _ (fun manipulator _ => by cases manipulator <;> rfl)]
  | ignored =>
      rw [if_neg (by simp)]
      exact ⟨follows_passed front _ rfl rfl, rfl⟩
  | manipulated =>
      dsimp only
      cases isValid : front.validity with
      | invalid =>
          rw [if_neg (by simp), if_neg (by simp)]
          obtain ⟨changed, passed⟩ := ComplexManipulator.manipulateEach_invalid front isValid rest
            stage.input stage.output now stage.manipulators
          rw [passed]
          exact ⟨follows_passed front _ rfl rfl, rfl⟩
      | valid =>
          cases already : stage.manipulators.any fun m =>
              Manipulator.alreadyManipulated m front with
          | true =>
              rw [if_neg (by simp), if_pos ⟨rfl, rfl⟩]
              exact ⟨follows_passed { front with validity := .invalid } _ rfl rfl, rfl⟩
          | false =>
              rw [if_pos ⟨rfl, rfl, rfl⟩, if_neg (by simp)]
              exact ComplexManipulator.loopFollows_manipulateEach rest stage.input now
                stage.manipulators front stage.output isValid

/-- What a call adds to the output queue, and what it leaves of the input queue. -/
theorem follows_manipulate (stage : Stage ComplexManipulator) {front : Entry}
    {rest : List Entry} (next : stage.input.events = front :: rest) (now : Int) (reorder : Bool) :
    EventQueue.Follows front.eventTimeStamp.timeStamp (stage.holdsAtOnce now) stage.output
        (stage.manipulate now reorder).2.output ∧
      (stage.manipulate now reorder).2.input.timeStamps <:+ stage.input.timeStamps := by
  obtain ⟨follows, time⟩ := stage.follows_dispatchFront next now
  rw [manipulate_of_front next]
  unfold ComplexManipulator.afterLoop at follows
  cases waits : (stage.dispatchFront front rest now).waits with
  | true =>
      rw [waits, if_pos rfl] at follows
      rw [if_pos rfl]
      refine ⟨follows, ?_⟩
      unfold EventQueue.timeStamps
      rw [next, List.map_cons, List.map_cons, time]
  | false =>
      rw [waits, if_neg Bool.false_ne_true] at follows
      rw [if_neg Bool.false_ne_true]
      unfold finishFront
      dsimp only
      refine ⟨?_, ?_⟩
      · cases reorder with
        | true => exact follows.sortEvents
        | false => exact follows
      · unfold EventQueue.timeStamps EventQueue.eraseFrontEvent
        exact (List.tail_suffix stage.input.events).map _

end Stage

/-! ## Runs -/

/-- A manager with its queues, and the times of the entries its input queue has got. -/
structure TimedRun where
  stage : Stage ComplexManipulator
  received : List Int

namespace TimedRun

inductive Action where
  | manipulate (now : Int) (reorder : Bool)
  /-- The next stage erases the front entry of the output queue. -/
  | takeOutput
  | pushInput (entry : Entry) (reorder : Bool)
  | invalidateManipulators
  | pushBackManipulator (manipulator : ComplexManipulator)

variable [ExpressionLibrary] [MachTimebase]

omit [ExpressionLibrary] [MachTimebase] in
/-- Both queues are empty. -/
def start (manipulators : List ComplexManipulator) (input output : EventQueue) : TimedRun :=
  ⟨⟨manipulators, { input with events := [] }, { output with events := [] }⟩, []⟩

def step (run : TimedRun) : Action → TimedRun
  | .manipulate now reorder => { run with stage := (run.stage.manipulate now reorder).2 }
  | .takeOutput =>
      { run with stage := { run.stage with output := run.stage.output.eraseFrontEvent } }
  | .pushInput entry reorder =>
      let pushed := run.stage.input.pushBackEntry entry
      { stage := { run.stage with input := if reorder then pushed.sortEvents else pushed }
        received := run.received ++
          [entry.eventTimeStamp.timeStamp + run.stage.input.timeStampDelay] }
  | .invalidateManipulators => { run with stage := run.stage.invalidateManipulators }
  | .pushBackManipulator manipulator =>
      { run with stage := run.stage.pushBackManipulator manipulator }

omit [ExpressionLibrary] [MachTimebase] in
/-- The entries come with times that never fall. -/
def WellFormed (run : TimedRun) : Action → Prop
  | .pushInput entry _ => ∀ earlier ∈ run.received,
      earlier ≤ entry.eventTimeStamp.timeStamp + run.stage.input.timeStampDelay
  | .manipulate _ _ | .takeOutput | .invalidateManipulators | .pushBackManipulator _ => True

omit [ExpressionLibrary] [MachTimebase] in
/-- The times in the output queue never fall. -/
def InTimeOrder (run : TimedRun) : Prop :=
  run.stage.output.events.Pairwise fun one other =>
    one.eventTimeStamp.toUInt64 ≤ other.eventTimeStamp.toUInt64

/-- The step leaves the time stamps of the output queue in the range of the source's. -/
def StaysInRange (run : TimedRun) (action : Action) : Prop :=
  ∀ entry ∈ (run.step action).stage.output.events, entry.eventTimeStamp.InRange

omit [ExpressionLibrary] [MachTimebase] in
/-- In the range of the source's time stamps the order is that of the integers. -/
theorem inTimeOrder_iff_isChain {run : TimedRun}
    (inRange : ∀ entry ∈ run.stage.output.events, entry.eventTimeStamp.InRange) :
    run.InTimeOrder ↔ run.stage.output.timeStamps.IsChain (· ≤ ·) := by
  unfold InTimeOrder EventQueue.timeStamps
  rw [List.isChain_iff_pairwise, List.pairwise_map]
  exact List.Pairwise.iff_of_mem fun isOne isOther =>
    EventTimeStamp.toUInt64_le_iff (inRange _ isOne) (inRange _ isOther)

/-- No key_up that a call posts at once comes before its key_down. -/
def HoldsInTime (run : TimedRun) : Action → Prop
  | .manipulate now _ => ∀ hold ∈ run.stage.holdsAtOnce now, -1 ≤ hold
  | .takeOutput | .pushInput _ _ | .invalidateManipulators | .pushBackManipulator _ => True

omit [ExpressionLibrary] [MachTimebase] in
instance (run : TimedRun) : ∀ action, Decidable (run.WellFormed action)
  | .pushInput _ _ => inferInstanceAs (Decidable (∀ earlier ∈ run.received, earlier ≤ _))
  | .manipulate _ _ | .takeOutput | .invalidateManipulators | .pushBackManipulator _ =>
      isTrue trivial

omit [ExpressionLibrary] [MachTimebase] in
instance (run : TimedRun) : Decidable run.InTimeOrder :=
  inferInstanceAs (Decidable (List.Pairwise _ _))

instance (run : TimedRun) (action : Action) : Decidable (run.StaysInRange action) :=
  inferInstanceAs (Decidable (∀ entry ∈ _, _))

omit [ExpressionLibrary] [MachTimebase] in
/-- What the steps keep: the output queue ends at a time that was handled and the delay of the
queue at the latest, and the entries still to come are not earlier than that time. -/
structure Sound (run : TimedRun) : Prop where
  inTimeOrder : run.stage.output.timeStamps.IsChain (· ≤ ·)
  input : run.stage.input.timeStamps.Pairwise (· ≤ ·)
  received : ∀ time ∈ run.stage.input.timeStamps, time ∈ run.received
  behind : ∀ last ∈ run.stage.output.timeStamps.getLast?, ∃ reached ∈ run.received,
    last ≤ reached + run.stage.output.timeStampDelay ∧
      ∀ time ∈ run.stage.input.timeStamps, reached ≤ time

omit [ExpressionLibrary] [MachTimebase] in
theorem sound_start (manipulators : List ComplexManipulator) (input output : EventQueue) :
    (start manipulators input output).Sound :=
  ⟨List.isChain_nil, List.Pairwise.nil, fun _ none => absurd none List.not_mem_nil,
    fun _ none => absurd none (Option.not_mem_none _)⟩

omit [ExpressionLibrary] [MachTimebase] in
/-- The next entry is not earlier than what the output queue ends with. -/
theorem Sound.behind_front {run : TimedRun} (sound : run.Sound) {front : Entry}
    {rest : List Entry} (next : run.stage.input.events = front :: rest) :
    ∀ last ∈ run.stage.output.timeStamps.getLast?,
      last ≤ front.eventTimeStamp.timeStamp + run.stage.output.timeStampDelay := by
  intro last isLast
  obtain ⟨reached, -, until_, ahead⟩ := sound.behind last isLast
  have later := ahead front.eventTimeStamp.timeStamp (by
    unfold EventQueue.timeStamps
    rw [next]
    exact List.mem_cons_self)
  omega

/-- A call keeps the order exactly if no key_up that it posts comes before its key_down. -/
theorem inTimeOrder_manipulate_iff {run : TimedRun} (sound : run.Sound) (now : Int)
    (reorder : Bool) :
    ((run.stage.manipulate now reorder).2.output.timeStamps.IsChain (· ≤ ·)) ↔
      ∀ hold ∈ run.stage.holdsAtOnce now, -1 ≤ hold := by
  cases queued : run.stage.input.events with
  | nil =>
      unfold Stage.holdsAtOnce Stage.manipulate
      rw [queued]
      exact iff_of_true sound.inTimeOrder fun _ none => absurd none List.not_mem_nil
  | cons front rest =>
      exact (run.stage.follows_manipulate queued now reorder).1.isChain_iff sound.inTimeOrder
        (sound.behind_front queued)

/-- A call that keeps the order. -/
theorem Sound.manipulate {run : TimedRun} (sound : run.Sound) (now : Int) (reorder : Bool)
    (inTime : ∀ hold ∈ run.stage.holdsAtOnce now, -1 ≤ hold) :
    (run.step (.manipulate now reorder)).Sound := by
  have inTimeOrder := (inTimeOrder_manipulate_iff sound now reorder).mpr inTime
  cases queued : run.stage.input.events with
  | nil =>
      have same : (run.stage.manipulate now reorder).2 = { run.stage with
          manipulators := Stage.removeInvalidManipulators run.stage.manipulators } := by
        unfold Stage.manipulate
        rw [queued]
      unfold TimedRun.step
      dsimp only
      rw [same]
      exact ⟨sound.inTimeOrder, sound.input, sound.received, sound.behind⟩
  | cons front rest =>
      obtain ⟨follows, left⟩ := run.stage.follows_manipulate queued now reorder
      have isFirst : run.stage.input.timeStamps =
          front.eventTimeStamp.timeStamp ::
            rest.map fun entry => entry.eventTimeStamp.timeStamp := by
        unfold EventQueue.timeStamps
        rw [queued, List.map_cons]
      have isReceived : front.eventTimeStamp.timeStamp ∈ run.received := by
        refine sound.received _ ?_
        rw [isFirst]
        exact List.mem_cons_self
      refine ⟨inTimeOrder, sound.input.sublist left.sublist,
        fun time member => sound.received time (left.subset member), fun last isLast =>
          ⟨front.eventTimeStamp.timeStamp, isReceived,
            follows.behind_of_allows inTime (sound.behind_front queued) last isLast,
            fun time member => ?_⟩⟩
      have ordered := sound.input
      rw [isFirst] at ordered
      have known := left.subset member
      rw [isFirst] at known
      rcases List.mem_cons.mp known with rfl | later
      · exact Int.le_refl _
      · exact (List.pairwise_cons.mp ordered).1 time later

/-- An entry that is not earlier than those before comes last. -/
theorem Sound.pushInput {run : TimedRun} (sound : run.Sound) (entry : Entry) (reorder : Bool)
    (wellFormed : run.WellFormed (.pushInput entry reorder)) :
    (run.step (.pushInput entry reorder)).Sound := by
  have pushed : (run.step (.pushInput entry reorder)).stage.input.timeStamps =
      run.stage.input.timeStamps ++
        [entry.eventTimeStamp.timeStamp + run.stage.input.timeStampDelay] := by
    have unsorted : (run.stage.input.pushBackEntry entry).timeStamps =
        run.stage.input.timeStamps ++
          [entry.eventTimeStamp.timeStamp + run.stage.input.timeStampDelay] := by
      unfold EventQueue.timeStamps EventQueue.pushBackEntry
      rw [List.map_append]
      rfl
    unfold TimedRun.step
    cases reorder with
    | true => exact (EventQueue.timeStamps_sortEvents _).trans unsorted
    | false => exact unsorted
  refine ⟨sound.inTimeOrder, ?_, ?_, fun last isLast => ?_⟩
  · rw [pushed, List.pairwise_append]
    refine ⟨sound.input, List.pairwise_singleton _ _, fun earlier member time isNew => ?_⟩
    rw [List.mem_singleton.mp isNew]
    exact wellFormed earlier (sound.received earlier member)
  · rw [pushed]
    exact List.forall_mem_append.mpr
      ⟨fun time member => List.mem_append_left _ (sound.received time member),
        List.forall_mem_singleton.mpr (List.mem_append_right _ List.mem_cons_self)⟩
  · obtain ⟨reached, member, until_, ahead⟩ := sound.behind last isLast
    refine ⟨reached, List.mem_append_left _ member, until_, ?_⟩
    rw [pushed]
    exact List.forall_mem_append.mpr
      ⟨ahead, List.forall_mem_singleton.mpr (wellFormed reached member)⟩

/-- The next stage takes the front entry. The delay is reset when no entry is left. -/
theorem Sound.takeOutput {run : TimedRun} (sound : run.Sound) :
    (run.step .takeOutput).Sound := by
  have erased : (run.step .takeOutput).stage.output.timeStamps =
      run.stage.output.timeStamps.tail := List.map_tail
  refine ⟨?_, sound.input, sound.received, ?_⟩
  · rw [erased]
    exact sound.inTimeOrder.tail
  · rw [erased]
    intro last isLast
    cases events : run.stage.output.events with
    | nil =>
        unfold EventQueue.timeStamps at isLast
        rw [events] at isLast
        exact absurd isLast (Option.not_mem_none _)
    | cons front rest =>
        cases rest with
        | nil =>
            unfold EventQueue.timeStamps at isLast
            rw [events] at isLast
            exact absurd isLast (Option.not_mem_none _)
        | cons second others =>
            have sameLast : last ∈ run.stage.output.timeStamps.getLast? := by
              unfold EventQueue.timeStamps at isLast ⊢
              rw [events] at isLast ⊢
              exact isLast
            have sameDelay : (run.step .takeOutput).stage.output.timeStampDelay =
                run.stage.output.timeStampDelay := by
              unfold TimedRun.step EventQueue.eraseFrontEvent
              dsimp only
              rw [events]
              exact if_neg (List.cons_ne_nil second others)
            rw [sameDelay]
            exact sound.behind last sameLast

/-- One step. -/
theorem Sound.step {run : TimedRun} (sound : run.Sound) (action : Action)
    (wellFormed : run.WellFormed action) (inTime : run.HoldsInTime action) :
    (run.step action).Sound := by
  cases action with
  | manipulate now reorder => exact sound.manipulate now reorder inTime
  | takeOutput => exact sound.takeOutput
  | pushInput entry reorder => exact sound.pushInput entry reorder wellFormed
  | invalidateManipulators =>
      exact ⟨sound.inTimeOrder, sound.input, sound.received, sound.behind⟩
  | pushBackManipulator manipulator =>
      exact ⟨sound.inTimeOrder, sound.input, sound.received, sound.behind⟩

/-- One step keeps the order exactly if no key_up comes before its key_down. -/
theorem inTimeOrder_step_iff {run : TimedRun} (sound : run.Sound) (action : Action)
    (wellFormed : run.WellFormed action) (inRange : run.StaysInRange action) :
    (run.step action).InTimeOrder ↔ run.HoldsInTime action := by
  rw [inTimeOrder_iff_isChain inRange]
  cases action with
  | manipulate now reorder => exact inTimeOrder_manipulate_iff sound now reorder
  | takeOutput => exact iff_of_true sound.takeOutput.inTimeOrder trivial
  | pushInput entry reorder =>
      exact iff_of_true (sound.pushInput entry reorder wellFormed).inTimeOrder trivial
  | invalidateManipulators => exact iff_of_true sound.inTimeOrder trivial
  | pushBackManipulator manipulator => exact iff_of_true sound.inTimeOrder trivial

/-- The times in the output queue never fall, exactly as long as no key_up is posted before its
key_down, in every run in which no time stamp wraps. -/
theorem inTimeOrder_iff (manipulators : List ComplexManipulator) (input output : EventQueue)
    (actions : List Action)
    (wellFormed : Foundation.Execution.StepsMeet step WellFormed (start manipulators input output)
      actions)
    (inRange : Foundation.Execution.StepsMeet step StaysInRange (start manipulators input output)
      actions) :
    Foundation.Execution.StepsMeet step (fun run action => (run.step action).InTimeOrder)
        (start manipulators input output) actions ↔
      Foundation.Execution.StepsMeet step HoldsInTime (start manipulators input output)
        actions := by
  have both := @Foundation.Execution.stepsMeet_iff _ _ step Sound
    (fun run action => (run.WellFormed action ∧ run.StaysInRange action) ∧
      (run.step action).InTimeOrder)
    (fun run action => (run.WellFormed action ∧ run.StaysInRange action) ∧ run.HoldsInTime action)
    (fun run action sound => and_congr_right fun allowed =>
      inTimeOrder_step_iff sound action allowed.1 allowed.2)
    (fun run action sound meets => sound.step action meets.1.1
      ((inTimeOrder_step_iff sound action meets.1.1 meets.1.2).mp meets.2))
    (start manipulators input output) actions (sound_start manipulators input output)
  have allowed := wellFormed.and inRange
  constructor
  · exact fun inOrder => (both.mp (allowed.and inOrder)).imp fun _ _ meets => meets.2
  · exact fun inTime => (both.mpr (allowed.and inTime)).imp fun _ _ meets => meets.2

omit [ExpressionLibrary] [MachTimebase] in
/-- From A to B, which is held for a time and does not repeat. -/
def keyHeld (holdDownMilliseconds : Int) : ComplexManipulator :=
  .basic {
    validity := .valid
    conditionManager := ⟨[]⟩
    parameters := .initial
    from_ := ⟨[.momentarySwitchEvent (.make UsagePage.keyboardOrKeypad Usage.keyboardA)],
      ⟨[], []⟩, none, .initial⟩
    to_ := [⟨.momentarySwitchEvent (.make UsagePage.keyboardOrKeypad Usage.keyboardB), [], false,
      false, false, holdDownMilliseconds, ⟨[]⟩⟩]
    toAfterKeyUp := []
    toIfAlone := []
    manipulatedOriginalEvents := [] }

omit [ExpressionLibrary] [MachTimebase] in
/-- A is pressed and manipulated. -/
def keyPressed : List Action :=
  [.pushInput (.original 1 2000000
      (.momentarySwitchEvent (.make UsagePage.keyboardOrKeypad Usage.keyboardA)) .keyDown) false,
    .manipulate 2000010 false]

omit [ExpressionLibrary] [MachTimebase] in
/-- Held for five milliseconds, B is released behind its press. -/
theorem inTimeOrder_iff_keyHeld :
    let _ := zeroExpressions
    let _ := nanosecondTimebase
    Foundation.Execution.StepsMeet step (fun run action => (run.step action).InTimeOrder)
      (start [keyHeld 5] .initial .initial) keyPressed := by
  intro expressions timebase
  have inTime : Foundation.Execution.StepsMeet step HoldsInTime
      (start [keyHeld 5] .initial .initial) keyPressed := by
    refine ⟨trivial, fun hold member => ?_, trivial⟩
    revert hold
    decide
  exact (inTimeOrder_iff [keyHeld 5] .initial .initial keyPressed (by decide) (by decide)).mpr
    inTime

omit [ExpressionLibrary] [MachTimebase] in
/-- B is released a millisecond before it is pressed. -/
theorem keyHeld_notInTimeOrder :
    let _ := zeroExpressions
    let _ := nanosecondTimebase
    Foundation.Execution.StepsMeet step WellFormed (start [keyHeld (-1)] .initial .initial)
        keyPressed ∧
      Foundation.Execution.StepsMeet step StaysInRange (start [keyHeld (-1)] .initial .initial)
        keyPressed ∧
      ¬Foundation.Execution.StepsMeet step (fun run action => (run.step action).InTimeOrder)
        (start [keyHeld (-1)] .initial .initial) keyPressed := by
  decide

end TimedRun

end Karabiner
