import Mathlib.Data.List.Dedup
import Mathlib.Data.List.Forall2
import Karabiner.Basic.LookAhead

/-! # The chord of a simultaneous manipulator

The look-ahead is satisfied when every definition of the `from` is passed by some of the keys
found so far. One key may pass several definitions, and then the manipulator takes fewer keys
than it has definitions. When that cannot happen, it fires on full chords only
(`Basic.firesOnFullChord_iff`).
-/

namespace Karabiner

namespace Basic

/-! ## Full chords -/

/-- The key_down is found in the queue and its key is not released in what is given. -/
def StillDown (before : List Entry) (entry : Entry) : Prop :=
  ∃ earlier later, before = earlier ++ entry :: later ∧
    ∀ other ∈ later, other.validity = .valid → other.eventType = .keyUp →
      other.fromEvent ≠ entry.fromEvent

/-- The queue starts with a full chord: as many different keys as there are definitions, each
of them passing its own, pressed in time and not released before the chord is complete, with
no other key pressed before it is complete. -/
structure Chord (basic : Basic) (endTimeStamp : Int) (before : List Entry) (chord : List Entry) :
    Prop where
  matched : List.Forall₂ (fun entry definition =>
    FromEventDefinition.testEventDefinition entry.event definition = true) chord
    basic.from_.eventDefinitions
  distinct : (chord.map Entry.fromEvent).Nodup
  pressed : ∀ entry ∈ chord, entry.validity = .valid ∧ entry.eventType = .keyDown ∧
    entry.eventTimeStamp.timeStamp ≤ endTimeStamp
  stillDown : ∀ entry ∈ chord, StillDown before entry
  uninterrupted : basic.from_.simultaneousOptions.detectKeyDownUninterruptedly = false →
    ∀ entry ∈ before, entry.validity = .valid → entry.eventType = .keyDown →
      FromEventDefinition.testEvent entry.event basic.from_ = true

/-- A full chord is found in the queue. -/
def FullChord (basic : Basic) (endTimeStamp : Int) (entries : List Entry) : Prop :=
  ∃ before after chord, entries = before ++ after ∧ Chord basic endTimeStamp before chord

/-- Different events, pressed in an order that passes the test, cover all definitions only if
there are as many of them. -/
def CoversInFull (basic : Basic) : Prop :=
  ∀ events : List Event, events.Nodup →
    (∀ event ∈ events, FromEventDefinition.testEvent event basic.from_ = true) →
    FromEventDefinition.testKeyOrder events basic.from_.simultaneousOptions.keyDownOrder
      basic.from_.eventDefinitions = true →
    (∀ definition ∈ basic.from_.eventDefinitions, ∃ event ∈ events,
      FromEventDefinition.testEventDefinition event definition = true) →
    basic.from_.eventDefinitions.length ≤ events.length

/-! ## The keys found by the look-ahead -/

/-- The keys are found in what has been seen, and nothing has cancelled the chord. -/
structure Held (basic : Basic) (endTimeStamp : Int) (seen : List Entry)
    (fromEvents : List FromEvent) : Prop where
  down : ∀ fromEvent ∈ fromEvents, ∃ entry : Entry, entry.fromEvent = fromEvent ∧
    (entry.validity = .valid ∧ entry.eventType = .keyDown ∧
      entry.eventTimeStamp.timeStamp ≤ endTimeStamp) ∧ StillDown seen entry
  uninterrupted : basic.from_.simultaneousOptions.detectKeyDownUninterruptedly = false →
    ∀ entry ∈ seen, entry.validity = .valid → entry.eventType = .keyDown →
      FromEventDefinition.testEvent entry.event basic.from_ = true

/-- The keys were found when they first passed all definitions, or they do not yet. -/
structure Progress (basic : Basic) (endTimeStamp : Int) (seen : List Entry) (look : LookAhead) :
    Prop where
  events : look.orderedKeyDownEvents = look.fromEvents.map FromEvent.event
  distinct : (look.fromEvents.map FromEvent.event).Nodup
  tested : ∀ fromEvent ∈ look.fromEvents,
    FromEventDefinition.testEvent fromEvent.event basic.from_ = true
  held : Held basic endTimeStamp seen look.fromEvents ∨
    ∃ before after first later, seen = before ++ after ∧ look.fromEvents = first ++ later ∧
      Held basic endTimeStamp before first ∧ basic.allFromEventsFound first = true

section

variable {basic : Basic} {endTimeStamp : Int} {seen : List Entry} {entry : Entry}

theorem StillDown.append {found : Entry} (still : StillDown seen found)
    (kept : entry.validity = .valid → entry.eventType = .keyUp →
      entry.fromEvent ≠ found.fromEvent) : StillDown (seen ++ [entry]) found := by
  obtain ⟨earlier, later, rfl, quiet⟩ := still
  refine ⟨earlier, later ++ [entry], by simp, fun other member => ?_⟩
  rcases List.mem_append.mp member with before | now
  · exact quiet other before
  · rw [List.mem_singleton.mp now]
    exact kept

/-- An entry that releases no found key and interrupts nothing keeps the keys. -/
theorem Held.append {fromEvents : List FromEvent} (held : Held basic endTimeStamp seen fromEvents)
    (kept : entry.validity = .valid → entry.eventType = .keyUp → entry.fromEvent ∉ fromEvents)
    (uninterrupted : basic.from_.simultaneousOptions.detectKeyDownUninterruptedly = false →
      entry.validity = .valid → entry.eventType = .keyDown →
        FromEventDefinition.testEvent entry.event basic.from_ = true) :
    Held basic endTimeStamp (seen ++ [entry]) fromEvents where
  down fromEvent member := by
    obtain ⟨found, same, pressed, still⟩ := held.down fromEvent member
    refine ⟨found, same, pressed, still.append fun isValid isUp equal => ?_⟩
    exact kept isValid isUp (by rw [equal, same]; exact member)
  uninterrupted detect other member := by
    rcases List.mem_append.mp member with before | now
    · exact held.uninterrupted detect other before
    · rw [List.mem_singleton.mp now]
      exact uninterrupted detect

/-- An invalid entry is skipped. -/
theorem Progress.skip {look : LookAhead} (progress : Progress basic endTimeStamp seen look)
    (isInvalid : entry.validity = .invalid) :
    Progress basic endTimeStamp (seen ++ [entry]) look where
  events := progress.events
  distinct := progress.distinct
  tested := progress.tested
  held := by
    have notValid : entry.validity ≠ .valid := by
      rw [isInvalid]
      exact Validity.noConfusion
    rcases progress.held with held | ⟨before, after, first, later, rfl, split, held, found⟩
    · exact .inl (held.append (fun isValid => absurd isValid notValid)
        fun _ isValid => absurd isValid notValid)
    · exact .inr ⟨before, after ++ [entry], first, later, by simp, split, held, found⟩

/-- An entry after which the keys found are the same, or one more, as long as the chord is
not complete. -/
theorem Progress.extend {look noted : LookAhead} (progress : Progress basic endTimeStamp seen look)
    {more : List FromEvent} (split : noted.fromEvents = look.fromEvents ++ more)
    (events : noted.orderedKeyDownEvents = noted.fromEvents.map FromEvent.event)
    (distinct : (noted.fromEvents.map FromEvent.event).Nodup)
    (tested : ∀ fromEvent ∈ noted.fromEvents,
      FromEventDefinition.testEvent fromEvent.event basic.from_ = true)
    (held : Held basic endTimeStamp seen look.fromEvents →
      basic.allFromEventsFound look.fromEvents = false →
      Held basic endTimeStamp (seen ++ [entry]) noted.fromEvents) :
    Progress basic endTimeStamp (seen ++ [entry]) noted where
  events := events
  distinct := distinct
  tested := tested
  held := by
    rcases progress.held with before | ⟨before, after, first, later, rfl, isFirst, first', found⟩
    · cases found : basic.allFromEventsFound look.fromEvents with
      | false => exact .inl (held before found)
      | true => exact .inr ⟨seen, [entry], look.fromEvents, more, rfl, split, before, found⟩
    · exact .inr ⟨before, after ++ [entry], first, later ++ more, by simp,
        by rw [split, isFirst, List.append_assoc], first', found⟩

/-- The look ahead goes on with a valid entry in time that is one of its targets: what it has seen
grows by this entry. -/
theorem Progress.noteEntry {look : LookAhead} (progress : Progress basic endTimeStamp seen look)
    (isValid : entry.validity = .valid)
    (inTime : entry.eventTimeStamp.timeStamp ≤ endTimeStamp)
    (target : (basic.noteEntry look entry).isTarget = true) :
    Progress basic endTimeStamp (seen ++ [entry]) (basic.noteEntry look entry) := by
  have notes := notes_noteEntry basic look entry
  generalize basic.noteEntry look entry = noted at notes target ⊢
  cases notes with
  | cancels => cases target
  | keeps fromEvents ordered notReleased uninterrupted =>
      have split : noted.fromEvents = look.fromEvents ++ [] := by rw [fromEvents, List.append_nil]
      refine progress.extend split ?_ ?_ ?_ fun held missing => ?_
      · rw [ordered, fromEvents]
        exact progress.events
      · rw [fromEvents]
        exact progress.distinct
      · rw [fromEvents]
        exact progress.tested
      · rw [fromEvents]
        exact held.append (fun _ isUp => notReleased isUp missing)
          fun detect _ isDown => uninterrupted isDown detect missing
  | adds type tests absent =>
      refine progress.extend rfl ?_ (nodup_addKey progress.distinct absent)
        (List.forall_mem_append.mpr ⟨progress.tested, List.forall_mem_singleton.mpr tests⟩)
        fun held _ => ?_
      · rw [List.map_append, ← progress.events]
        rfl
      · have kept : Held basic endTimeStamp (seen ++ [entry]) look.fromEvents := by
          refine held.append (fun _ isUp => ?_) fun _ _ _ => tests
          rw [type] at isUp
          cases isUp
        refine ⟨List.forall_mem_append.mpr ⟨kept.down, List.forall_mem_singleton.mpr ?_⟩,
          kept.uninterrupted⟩
        exact ⟨entry, rfl, ⟨isValid, type, inTime⟩, seen, [], rfl,
          fun _ none => absurd none List.not_mem_nil⟩

/-- What the look-ahead has found at its end, in the entries that it has seen. -/
theorem Progress.lookAhead (rest : List Entry) {look : LookAhead}
    (progress : Progress basic endTimeStamp seen look) (start : look.isTarget = true)
    (target : (basic.lookAhead endTimeStamp rest look).isTarget = true) :
    ∃ seen' unseen, seen ++ rest = seen' ++ unseen ∧
      Progress basic endTimeStamp seen' (basic.lookAhead endTimeStamp rest look) := by
  induction rest generalizing seen look with
  | nil => exact ⟨seen, [], rfl, progress⟩
  | cons entry rest ih =>
      unfold Basic.lookAhead at target ⊢
      rw [start] at target ⊢
      rw [if_neg (by simp)] at target ⊢
      rw [List.append_cons]
      split
      · rename_i isInvalid
        rw [if_pos isInvalid] at target
        exact ih (progress.skip isInvalid) start target
      · rename_i notInvalid
        rw [if_neg notInvalid] at target
        have isValid : entry.validity = .valid := by
          cases valid : entry.validity with
          | valid => rfl
          | invalid => exact absurd valid notInvalid
        split
        · exact ⟨seen, entry :: rest, by simp, progress⟩
        · rename_i inTime
          rw [if_neg inTime] at target
          cases noted : (basic.noteEntry look entry).isTarget with
          | true => exact ih (progress.noteEntry isValid (not_lt.mp inTime) noted) noted target
          | false =>
              have stopped : basic.lookAhead endTimeStamp rest (basic.noteEntry look entry) =
                  basic.noteEntry look entry := by
                cases rest with
                | nil => rfl
                | cons other others =>
                    unfold Basic.lookAhead
                    rw [noted]
                    rfl
              rw [stopped, noted] at target
              cases target

end

/-! ## The definitions that are passed -/

/-- When no fewer elements cover the definitions, each definition has an element of its own. -/
theorem matched_of_minimal {α β : Type} [DecidableEq α] {passes : α → β → Prop}
    {elements : List α} {definitions : List β}
    (covers : ∀ definition ∈ definitions, ∃ element ∈ elements, passes element definition)
    (minimal : ∀ few : List α, few.Nodup → few ⊆ elements →
      (∀ definition ∈ definitions, ∃ element ∈ few, passes element definition) →
        definitions.length ≤ few.length) :
    ∃ chosen : List α, chosen ⊆ elements ∧ chosen.Nodup ∧
      List.Forall₂ passes chosen definitions := by
  have choice : ∃ chosen : List α, chosen ⊆ elements ∧
      List.Forall₂ passes chosen definitions := by
    clear minimal
    induction definitions with
    | nil => exact ⟨[], List.nil_subset _, .nil⟩
    | cons definition rest ih =>
        obtain ⟨chosen, subset, matched⟩ := ih fun other member =>
          covers other (List.mem_cons_of_mem _ member)
        obtain ⟨element, isElement, passed⟩ := covers definition List.mem_cons_self
        exact ⟨element :: chosen, List.cons_subset.mpr ⟨isElement, subset⟩, .cons passed matched⟩
  obtain ⟨chosen, subset, matched⟩ := choice
  have covered : ∀ definition ∈ definitions, ∃ element ∈ chosen.dedup,
      passes element definition := by
    intro definition member
    obtain ⟨i, bound, rfl⟩ := List.mem_iff_getElem.mp member
    have chosenBound : i < chosen.length := matched.length_eq ▸ bound
    refine ⟨chosen[i], List.mem_dedup.mpr (List.getElem_mem chosenBound), ?_⟩
    exact (List.forall₂_iff_get.mp matched).2 i chosenBound bound
  have enough := minimal chosen.dedup (List.nodup_dedup chosen)
    (fun _ member => subset (List.mem_dedup.mp member)) covered
  have same : chosen.dedup = chosen :=
    (List.dedup_sublist chosen).eq_of_length_le (matched.length_eq ▸ enough)
  exact ⟨chosen, subset, same ▸ List.nodup_dedup chosen, matched⟩

/-- Events in order pass the definitions one after the other. -/
theorem forall₂_of_testInOrder {fromEvents : List FromEvent} {definitions : List EventDefinition}
    (ordered : FromEventDefinition.testInOrder (fromEvents.map FromEvent.event) definitions = true)
    (enough : definitions.length ≤ fromEvents.length) :
    List.Forall₂ (fun fromEvent definition =>
      FromEventDefinition.testEventDefinition (FromEvent.event fromEvent) definition = true)
      (fromEvents.take definitions.length) definitions := by
  induction definitions generalizing fromEvents with
  | nil => exact .nil
  | cons definition rest ih =>
      cases fromEvents with
      | nil => simp at enough
      | cons fromEvent others =>
          obtain ⟨passed, later⟩ := Bool.and_eq_true_iff.mp ordered
          exact .cons passed (ih later (by simpa using enough))

theorem testInOrder_append {first later : List Event} {definitions : List EventDefinition}
    (ordered : FromEventDefinition.testInOrder (first ++ later) definitions = true) :
    FromEventDefinition.testInOrder first definitions = true := by
  induction first generalizing definitions with
  | nil => cases definitions <;> rfl
  | cons event rest ih =>
      cases definitions with
      | nil => rfl
      | cons definition others =>
          obtain ⟨passed, restOrdered⟩ := Bool.and_eq_true_iff.mp ordered
          exact Bool.and_eq_true_iff.mpr ⟨passed, ih restOrdered⟩

/-- Keys that pass all definitions of a manipulator that covers in full match them one by
one. -/
theorem CoversInFull.matched {basic : Basic} (full : CoversInFull basic)
    {first later : List FromEvent}
    (distinct : (first.map FromEvent.event).Nodup)
    (tested : ∀ fromEvent ∈ first,
      FromEventDefinition.testEvent fromEvent.event basic.from_ = true)
    (ordered : FromEventDefinition.testKeyOrder ((first ++ later).map FromEvent.event)
      basic.from_.simultaneousOptions.keyDownOrder basic.from_.eventDefinitions = true)
    (found : basic.allFromEventsFound first = true) :
    ∃ chord : List FromEvent, chord ⊆ first ∧ chord.Nodup ∧
      List.Forall₂ (fun fromEvent definition =>
        FromEventDefinition.testEventDefinition (FromEvent.event fromEvent) definition = true)
        chord basic.from_.eventDefinitions := by
  have covers : ∀ definition ∈ basic.from_.eventDefinitions, ∃ fromEvent ∈ first,
      FromEventDefinition.testEventDefinition fromEvent.event definition = true :=
    fun definition member => List.any_eq_true.mp (List.all_eq_true.mp found definition member)
  have nodup : first.Nodup := List.Nodup.of_map _ distinct
  have count : ∀ few : List FromEvent, few.Nodup → few ⊆ first →
      FromEventDefinition.testKeyOrder (few.map FromEvent.event)
        basic.from_.simultaneousOptions.keyDownOrder basic.from_.eventDefinitions = true →
      (∀ definition ∈ basic.from_.eventDefinitions, ∃ fromEvent ∈ few,
        FromEventDefinition.testEventDefinition fromEvent.event definition = true) →
      basic.from_.eventDefinitions.length ≤ few.length := by
    intro few fewNodup subset inOrder covered
    rw [← List.length_map (f := FromEvent.event)]
    refine full (few.map FromEvent.event) ?_ ?_ inOrder ?_
    · exact fewNodup.map_on fun x isX y isY equal =>
        List.inj_on_of_nodup_map distinct (subset isX) (subset isY) equal
    · intro event member
      obtain ⟨fromEvent, isFew, rfl⟩ := List.mem_map.mp member
      exact tested fromEvent (subset isFew)
    · intro definition member
      obtain ⟨fromEvent, isFew, passed⟩ := covered definition member
      exact ⟨fromEvent.event, List.mem_map_of_mem isFew, passed⟩
  rw [List.map_append] at ordered
  cases order : basic.from_.simultaneousOptions.keyDownOrder with
  | insensitive =>
      exact matched_of_minimal covers fun few fewNodup subset covered =>
        count few fewNodup subset (by rw [order]; rfl) covered
  | strict =>
      rw [order] at ordered
      have inOrder := testInOrder_append ordered
      have enough := count first nodup (List.Subset.refl first) (by rw [order]; exact inOrder) covers
      exact ⟨first.take basic.from_.eventDefinitions.length, List.take_subset _ _,
        nodup.sublist (List.take_sublist _ _), forall₂_of_testInOrder inOrder enough⟩
  | strictInverse =>
      rw [order] at ordered
      have inOrder := testInOrder_append ordered
      have enough := count first nodup (List.Subset.refl first) (by rw [order]; exact inOrder) covers
      have matched := forall₂_of_testInOrder inOrder (by rw [List.length_reverse]; exact enough)
      refine ⟨(first.take basic.from_.eventDefinitions.reverse.length).reverse, ?_, ?_, ?_⟩
      · exact fun _ member => List.take_subset _ _ (List.mem_reverse.mp member)
      · exact List.nodup_reverse.mpr (nodup.sublist (List.take_sublist _ _))
      · have turned := List.forall₂_reverse_iff.mpr matched
        rw [List.reverse_reverse] at turned
        exact turned

/-! ## Firing -/

variable [MachTimebase]

/-- A key_down at the front of the input queue is only manipulated on a full chord. -/
def FiresOnFullChord [ExpressionLibrary] (basic : Basic) : Prop :=
  ∀ (front : Entry) (input output : EventQueue) (rest : List Entry) (now : Int),
    input.events = front :: rest → front.eventType = .keyDown →
    (basic.manipulate front input output now).1 = .manipulated →
    FullChord basic (front.eventTimeStamp.timeStamp + basic.simultaneousThreshold) input.events

/-- The manipulator takes no key at all: it is invalid, its threshold is negative, or its
conditions are never fulfilled. -/
def NeverFires (basic : Basic) : Prop :=
  basic.validity = .invalid ∨ basic.simultaneousThreshold < 0 ∨
    ∀ context environment, (basic.conditionManager.isFulfilled context environment).1 = false

/-- What is known when a key_down is claimed. -/
theorem lookAhead_of_claims {basic : Basic} {front : Entry} {entries : List Entry}
    {output : EventQueue} {now : Int} {fromEvents : List FromEvent}
    {modifiers : List ModifierFlag}
    (claims : (basic.decideKeyDown front entries output now).1 = .claims fromEvents modifiers) :
    let look := basic.lookAhead (front.eventTimeStamp.timeStamp + basic.simultaneousThreshold)
      entries ⟨true, [], [], []⟩
    look.isTarget = true ∧ basic.allFromEventsFound look.fromEvents = true ∧
      FromEventDefinition.testKeyOrder look.orderedKeyDownEvents
        basic.from_.simultaneousOptions.keyDownOrder basic.from_.eventDefinitions = true := by
  unfold decideKeyDown at claims
  split at claims
  · cases claims
  split at claims
  · cases claims
  split at claims
  · cases claims
  dsimp only at claims
  split at claims
  swap
  · cases claims
  unfold decideByLookAhead at claims
  dsimp only at claims ⊢
  generalize basic.lookAhead (front.eventTimeStamp.timeStamp + basic.simultaneousThreshold)
    entries ⟨true, [], [], []⟩ = look at claims ⊢
  split at claims
  · cases claims
  rename_i isTarget
  simp only [Bool.or_eq_true, Bool.not_eq_true', not_or, Bool.not_eq_false] at isTarget
  obtain ⟨⟨⟨target, _⟩, ordered⟩, _⟩ := isTarget
  refine ⟨target, ?_, ordered⟩
  split at claims
  · split at claims
    · cases claims
    split at claims
    · cases claims
    rename_i found
    simpa using found
  · rename_i found
    simp only [Bool.or_eq_true, Bool.not_eq_true', not_or, Bool.not_eq_false] at found
    exact found.2

/-- A key_down is manipulated when it is claimed. -/
theorem manipulated_iff [ExpressionLibrary] {basic : Basic} {front : Entry}
    {input output : EventQueue} {now : Int} (isDown : front.eventType = .keyDown) :
    (basic.manipulate front input output now).1 = .manipulated ↔
      front.validity = .valid ∧ FromEventDefinition.testEvent front.event basic.from_ = true ∧
        ∃ fromEvents modifiers, (basic.decideKeyDown front input.events output now).1 =
          .claims fromEvents modifiers := by
  cases validity : front.validity with
  | invalid =>
      rw [manipulate_of_passes input output now (.inl validity)]
      exact iff_of_false nofun fun valid => nomatch valid.1
  | valid =>
      cases tests : FromEventDefinition.testEvent front.event basic.from_ with
      | false =>
          rw [manipulate_of_passes input output now (.inr (.inl tests))]
          exact iff_of_false nofun fun valid => nomatch valid.2.1
      | true =>
          rw [manipulate_keyDown input output now validity isDown tests]
          unfold manipulateKeyDown
          rw [decideKeyDown_unsetAloneIfNeeded]
          rcases basic.decideKeyDown front input.events output now with
            ⟨_ | _ | ⟨fromEvents, modifiers⟩, delayed, environment⟩
          · exact iff_of_false nofun fun ⟨_, _, _, _, claims⟩ => nomatch claims
          · exact iff_of_false nofun fun ⟨_, _, _, _, claims⟩ => nomatch claims
          · exact iff_of_true rfl ⟨rfl, rfl, fromEvents, modifiers, rfl⟩

/-- A manipulator that covers in full fires on full chords only. -/
theorem firesOnFullChord_of_coversInFull [ExpressionLibrary] {basic : Basic}
    (full : CoversInFull basic) : FiresOnFullChord basic := by
  intro front input output rest now _ isDown manipulated
  obtain ⟨_, _, _, _, claims⟩ := (manipulated_iff isDown).mp manipulated
  obtain ⟨target, found, ordered⟩ := lookAhead_of_claims claims
  have start : Progress basic (front.eventTimeStamp.timeStamp + basic.simultaneousThreshold) []
      ⟨true, [], [], []⟩ :=
    ⟨rfl, List.nodup_nil, fun _ none => absurd none List.not_mem_nil,
      .inl ⟨fun _ none => absurd none List.not_mem_nil,
        fun _ _ none => absurd none List.not_mem_nil⟩⟩
  obtain ⟨seen, unseen, split, progress⟩ := start.lookAhead input.events rfl target
  rw [progress.events] at ordered
  generalize basic.lookAhead (front.eventTimeStamp.timeStamp + basic.simultaneousThreshold)
    input.events ⟨true, [], [], []⟩ = look at found ordered progress
  have complete : ∃ before after first later, seen = before ++ after ∧
      look.fromEvents = first ++ later ∧
      Held basic (front.eventTimeStamp.timeStamp + basic.simultaneousThreshold) before first ∧
      basic.allFromEventsFound first = true := by
    rcases progress.held with held | complete
    · exact ⟨seen, [], look.fromEvents, [], (List.append_nil _).symm, (List.append_nil _).symm,
        held, found⟩
    · exact complete
  obtain ⟨before, after, first, later, isSeen, isFirst, held, foundFirst⟩ := complete
  have distinct := progress.distinct
  rw [isFirst, List.map_append] at distinct
  rw [isFirst] at ordered
  obtain ⟨chord, subset, nodup, matched⟩ := full.matched
    (List.nodup_append.mp distinct).1
    (fun fromEvent member => progress.tested fromEvent (by
      rw [isFirst]
      exact List.mem_append_left _ member)) ordered foundFirst
  -- Each key of the chord has its key_down in the queue.
  obtain ⟨entries, isChord, pressed⟩ : ∃ entries : List Entry,
      entries.map Entry.fromEvent = chord ∧ ∀ entry ∈ entries,
        (entry.validity = .valid ∧ entry.eventType = .keyDown ∧ entry.eventTimeStamp.timeStamp ≤
          front.eventTimeStamp.timeStamp + basic.simultaneousThreshold) ∧
        StillDown before entry := by
    clear matched nodup
    induction chord with
    | nil => exact ⟨[], rfl, fun _ none => absurd none List.not_mem_nil⟩
    | cons fromEvent rest ih =>
        obtain ⟨isFound, others⟩ := List.cons_subset.mp subset
        obtain ⟨entries, isRest, pressed⟩ := ih others
        obtain ⟨entry, same, isPressed, still⟩ := held.down fromEvent isFound
        refine ⟨entry :: entries, by rw [List.map_cons, same, isRest], ?_⟩
        exact List.forall_mem_cons.mpr ⟨⟨isPressed, still⟩, pressed⟩
  refine ⟨before, after ++ unseen, entries, ?_, ?_, ?_, ?_, ?_, held.uninterrupted⟩
  · rw [List.nil_append] at split
    rw [split, isSeen, List.append_assoc]
  · rw [← isChord, List.forall₂_map_left_iff] at matched
    exact matched
  · rw [isChord]
    exact nodup
  · exact fun entry member => (pressed entry member).1
  · exact fun entry member => (pressed entry member).2

/-! ## Chords that are not full -/

/-- The key_downs of some events, all at the same time. -/
def keyDowns (deviceId : DeviceId) (state : EntryState) (eventIntegerValue : Option Int)
    (events : List Event) : List Entry :=
  events.map fun event =>
    .make deviceId ⟨0, 0⟩ event .keyDown eventIntegerValue event state

omit [MachTimebase] in
/-- Different keys of the `from` are all found. -/
theorem lookAhead_keyDowns (basic : Basic) (deviceId : DeviceId) (state : EntryState)
    (value : Option Int) {endTimeStamp : Int} (inTime : 0 ≤ endTimeStamp) (events : List Event)
    (tested : ∀ event ∈ events, FromEventDefinition.testEvent event basic.from_ = true)
    {look : LookAhead} (target : look.isTarget = true)
    (distinct : (look.fromEvents.map FromEvent.event ++ events).Nodup) :
    basic.lookAhead endTimeStamp (keyDowns deviceId state value events) look =
      { look with
        fromEvents := look.fromEvents ++ events.map fun event => ⟨deviceId, event, event⟩
        orderedKeyDownEvents := look.orderedKeyDownEvents ++ events } := by
  induction events generalizing look with
  | nil => simp [keyDowns, lookAhead]
  | cons event rest ih =>
      obtain ⟨isTested, restTested⟩ := List.forall_mem_cons.mp tested
      have absent : ¬(look.fromEvents.any fun fromEvent =>
          decide (fromEvent.event = event)) = true := by
        intro found
        obtain ⟨fromEvent, member, same⟩ := List.any_eq_true.mp found
        exact (List.nodup_append.mp distinct).2.2 fromEvent.event (List.mem_map_of_mem member)
          event List.mem_cons_self (of_decide_eq_true same)
      have noted : basic.noteEntry look
          (.make deviceId ⟨0, 0⟩ event .keyDown value event state) =
          { look with
            fromEvents := look.fromEvents ++ [⟨deviceId, event, event⟩]
            orderedKeyDownEvents := look.orderedKeyDownEvents ++ [event] } := by
        unfold noteEntry Entry.make
        dsimp only
        rw [if_pos isTested, if_neg absent]
        rfl
      change basic.lookAhead endTimeStamp
        (.make deviceId ⟨0, 0⟩ event .keyDown value event state ::
          keyDowns deviceId state value rest) look = _
      unfold lookAhead
      rw [target, if_neg (by simp), if_neg (by simp [Entry.make]),
        if_neg (by simpa [Entry.make] using inTime), noted]
      have later : ((look.fromEvents ++ [(⟨deviceId, event, event⟩ : FromEvent)]).map
          FromEvent.event ++ rest).Nodup := by
        simpa using distinct
      refine (@ih restTested { look with
        fromEvents := look.fromEvents ++ [⟨deviceId, event, event⟩]
        orderedKeyDownEvents := look.orderedKeyDownEvents ++ [event] } target later).trans ?_
      simp [target]

/-- Modifiers pressed on one device. -/
def pressedModifiers (flags : List ModifierFlag) : ModifierFlagManager :=
  ⟨flags.map fun flag => .make .increase flag 0⟩

omit [MachTimebase] in
/-- The flags that were pressed one after the other on a new manager are exactly those that are
pressed. -/
theorem isPressed_pressedModifiers (flags : List ModifierFlag) (flag : ModifierFlag) :
    (pressedModifiers flags).isPressed flag = decide (flag ∈ flags) := by
  have own : (pressedModifiers flags).activeModifierFlags.filter (·.modifierFlag == flag) =
      List.replicate (flags.count flag) (.make .increase flag 0) := by
    have same : (flags.filter fun other => other == flag) =
        List.replicate (flags.count flag) flag := List.filter_beq flag
    unfold pressedModifiers
    rw [List.filter_map]
    change (flags.filter fun other => other == flag).map _ = _
    rw [same, List.map_replicate]
  have kept : (List.replicate (flags.count flag) (ActiveModifierFlag.make .increase flag 0)).filter
      (fun f => !f.ledLock) = List.replicate (flags.count flag) (.make .increase flag 0) :=
    List.filter_eq_self.mpr fun other member => by
      rw [List.eq_of_mem_replicate member]
      rfl
  have noLed : (List.replicate (flags.count flag) (ActiveModifierFlag.make .increase flag 0)).filter
      (fun f => f.ledLock) = [] :=
    List.filter_eq_nil_iff.mpr fun other member => by
      rw [List.eq_of_mem_replicate member]
      exact Bool.false_ne_true
  unfold ModifierFlagManager.isPressed
  rw [own]
  dsimp only
  rw [kept, noLed, List.length_replicate, List.map_replicate, List.sum_replicate]
  split
  · rename_i none
    exact (decide_eq_false (List.count_eq_zero.mp none)).symm
  · rename_i some
    have isPressed : flag ∈ flags := List.count_pos_iff.mp (Nat.pos_of_ne_zero some)
    rw [decide_eq_true isPressed, decide_eq_true_iff]
    change 0 < flags.count flag • (1 : Int)
    simpa using isPressed

omit [MachTimebase] in
/-- The modifiers that a `from` asks for can be pressed. -/
theorem exists_testModifiers (definition : FromModifiersDefinition) :
    ∃ manager modifiers, definition.testModifiers manager = some modifiers := by
  unfold FromModifiersDefinition.testModifiers
  by_cases any : Modifier.any ∈ definition.mandatoryModifiers
  · exact ⟨pressedModifiers [], _, if_pos any⟩
  let mandatory := Modifier.all.filter fun modifier =>
    decide (modifier ∈ definition.mandatoryModifiers)
  let asked := mandatory.flatMap Modifier.getModifierFlags
  have passes : ∀ (modifiers : List Modifier) (found : List ModifierFlag),
      (∀ modifier ∈ modifiers, modifier ∈ mandatory) →
      ∃ final, FromModifiersDefinition.testMandatory (pressedModifiers asked) modifiers found =
        some final := by
    intro modifiers
    induction modifiers with
    | nil => exact fun found _ => ⟨found, rfl⟩
    | cons modifier rest ih =>
        intro found areMandatory
        obtain ⟨isMandatory, others⟩ := List.forall_mem_cons.mp areMandatory
        have notAny : modifier ≠ .any := fun isAny =>
          any (isAny ▸ of_decide_eq_true (List.mem_filter.mp isMandatory).2)
        obtain ⟨flag, more, flags⟩ : ∃ flag more, modifier.getModifierFlags = flag :: more := by
          cases modifier with
          | any => exact absurd rfl notAny
          | _ => exact ⟨_, _, rfl⟩
        have isPressed : (pressedModifiers asked).isPressed flag = true := by
          rw [isPressed_pressedModifiers]
          exact decide_eq_true (List.mem_flatMap.mpr ⟨modifier, isMandatory, by simp [flags]⟩)
        unfold FromModifiersDefinition.testMandatory FromModifiersDefinition.testModifier
        rw [if_neg notAny, flags, List.find?_cons_of_pos isPressed]
        exact ih _ others
  obtain ⟨final, isFinal⟩ := passes mandatory [] fun _ member => member
  refine ⟨pressedModifiers asked, final, ?_⟩
  rw [if_neg any, isFinal]
  dsimp only
  rw [if_neg]
  rintro ⟨_, extra⟩
  obtain ⟨flag, isExtra, isPressed⟩ := List.any_eq_true.mp extra
  rw [isPressed_pressedModifiers, decide_eq_true_iff] at isPressed
  obtain ⟨modifier, isMandatory, own⟩ := List.mem_flatMap.mp isPressed
  obtain ⟨isModifier, asks⟩ := List.mem_filter.mp isMandatory
  have covered := (List.mem_filter.mp isExtra).2
  rw [Bool.not_eq_true', decide_eq_false_iff_not] at covered
  refine covered (List.mem_flatMap.mpr ⟨modifier, List.mem_filter.mpr ⟨isModifier, ?_⟩, own⟩)
  rw [asks, Bool.true_or]

omit [MachTimebase] in
/-- A chord among some key_downs has no more keys than there are events. -/
theorem FullChord.length_le {basic : Basic} {deviceId : DeviceId} {state : EntryState}
    {value : Option Int} {endTimeStamp : Int} {events : List Event}
    (full : FullChord basic endTimeStamp (keyDowns deviceId state value events)) :
    basic.from_.eventDefinitions.length ≤ events.length := by
  obtain ⟨before, after, chord, split, isChord⟩ := full
  have found : chord.map Entry.fromEvent ⊆ (keyDowns deviceId state value events).map
      Entry.fromEvent := by
    refine List.map_subset _ fun entry member => ?_
    obtain ⟨earlier, later, isBefore, _⟩ := isChord.stillDown entry member
    rw [split, isBefore]
    simp
  have count := (List.subperm_of_subset isChord.distinct found).length_le
  rw [List.length_map, List.length_map, isChord.matched.length_eq] at count
  exact count.trans_eq (List.length_map _)

/-- Different keys that pass all definitions are taken. -/
theorem decideKeyDown_keyDowns {basic : Basic} {context : ConditionContext} {front : Entry}
    {output : EventQueue} {events : List Event} {modifiers : List ModifierFlag}
    (isValid : basic.validity ≠ .invalid) (threshold : 0 ≤ basic.simultaneousThreshold)
    (areFulfilled : basic.from_.fromModifiersDefinition.testModifiers output.modifierFlagManager =
      some modifiers)
    (fulfilled : (basic.conditionManager.isFulfilled context output.manipulatorEnvironment).1 =
      true)
    (isFront : ∃ event, front = .make context.deviceId ⟨0, 0⟩ event .keyDown
      basic.from_.eventIntegerValue event context.state)
    (nonempty : events ≠ []) (nodup : events.Nodup)
    (tested : ∀ event ∈ events, FromEventDefinition.testEvent event basic.from_ = true)
    (ordered : FromEventDefinition.testKeyOrder events
      basic.from_.simultaneousOptions.keyDownOrder basic.from_.eventDefinitions = true)
    (covered : ∀ definition ∈ basic.from_.eventDefinitions, ∃ event ∈ events,
      FromEventDefinition.testEventDefinition event definition = true) :
    (basic.decideKeyDown front (keyDowns context.deviceId context.state
      basic.from_.eventIntegerValue events) output basic.simultaneousThreshold).1 =
      .claims (events.map fun event => ⟨context.deviceId, event, event⟩) modifiers := by
  obtain ⟨event, rfl⟩ := isFront
  have found : basic.allFromEventsFound
      (events.map fun event => ⟨context.deviceId, event, event⟩) = true := by
    refine List.all_eq_true.mpr fun definition member => ?_
    obtain ⟨passing, isEvent, passed⟩ := covered definition member
    exact List.any_eq_true.mpr ⟨_, List.mem_map_of_mem isEvent, passed⟩
  have upOrder : FromEventDefinition.testKeyOrder []
      basic.from_.simultaneousOptions.keyUpOrder basic.from_.eventDefinitions = true := by
    unfold FromEventDefinition.testKeyOrder
    split
    · rfl
    · rfl
    · rfl
  have notEmpty : (events.map fun event =>
      (⟨context.deviceId, event, event⟩ : FromEvent)).isEmpty = false := by
    simpa using nonempty
  have inTime : 0 ≤ 0 + basic.simultaneousThreshold := by rwa [zero_add]
  unfold decideKeyDown Entry.make
  dsimp only
  rw [if_neg isValid, areFulfilled]
  dsimp only
  rw [if_neg (fun other => other.2 rfl), if_pos fulfilled]
  unfold decideByLookAhead
  dsimp only
  rw [lookAhead_keyDowns basic context.deviceId context.state _ inTime events tested rfl
    (by simpa using nodup)]
  dsimp only
  rw [List.nil_append, List.nil_append, notEmpty, ordered, upOrder, found,
    max_eq_right threshold]
  unfold EventTimeStamp.makeTimeStampWithInputDelay
  rw [if_neg (by simp), zero_add]
  split
  · rw [if_neg (lt_irrefl _), if_neg (by simp)]
  · rfl

/-- A manipulator that is covered by fewer keys fires on them, unless it never fires. -/
theorem not_firesOnFullChord [ExpressionLibrary] {basic : Basic} (fires : ¬NeverFires basic)
    (few : ¬CoversInFull basic) : ¬FiresOnFullChord basic := by
  unfold NeverFires at fires
  push Not at fires
  obtain ⟨isValid, threshold, context, environment, fulfilled⟩ := fires
  unfold CoversInFull at few
  push Not at few
  obtain ⟨events, nodup, tested, ordered, covered, fewer⟩ := few
  obtain ⟨manager, modifiers, areFulfilled⟩ :=
    exists_testModifiers basic.from_.fromModifiersDefinition
  cases events with
  | nil =>
      obtain ⟨definition, member⟩ := List.exists_mem_of_length_pos fewer
      obtain ⟨event, none, _⟩ := covered definition member
      exact absurd none List.not_mem_nil
  | cons event rest =>
      intro onFullChord
      let front : Entry := .make context.deviceId ⟨0, 0⟩ event .keyDown
        basic.from_.eventIntegerValue event context.state
      let entries := keyDowns context.deviceId context.state basic.from_.eventIntegerValue
        (event :: rest)
      let input : EventQueue := { EventQueue.initial with events := entries }
      let output : EventQueue := { EventQueue.initial with
        modifierFlagManager := manager
        manipulatorEnvironment := environment }
      have isFulfilled : (basic.conditionManager.isFulfilled context environment).1 = true := by
        simpa using fulfilled
      have claims : (basic.decideKeyDown front input.events output
          basic.simultaneousThreshold).1 = .claims _ modifiers :=
        decideKeyDown_keyDowns isValid threshold areFulfilled isFulfilled
          ⟨event, rfl⟩ (List.cons_ne_nil _ _) nodup tested ordered covered
      have manipulated : (basic.manipulate front input output basic.simultaneousThreshold).1 =
          .manipulated :=
        (manipulated_iff rfl).mpr ⟨rfl, tested event List.mem_cons_self, _, _, claims⟩
      have full := onFullChord front input output _ _ rfl rfl manipulated
      exact absurd full.length_le (not_le.mpr fewer)

/-- A manipulator that never fires claims no key. -/
theorem not_claims_of_neverFires {basic : Basic} (never : NeverFires basic) {front : Entry}
    {entries rest : List Entry} {output : EventQueue} {now : Int}
    (isFront : entries = front :: rest) (valid : front.validity = .valid)
    {fromEvents : List FromEvent} {modifiers : List ModifierFlag} :
    (basic.decideKeyDown front entries output now).1 ≠ .claims fromEvents modifiers := by
  intro claims
  unfold decideKeyDown at claims
  split at claims
  · cases claims
  rename_i notInvalid
  split at claims
  · cases claims
  split at claims
  · cases claims
  dsimp only at claims
  split at claims
  swap
  · cases claims
  rename_i fulfilled
  rcases never with isInvalid | negative | unfulfilled
  · exact notInvalid isInvalid
  · -- The front entry itself is too late.
    have none : basic.lookAhead (front.eventTimeStamp.timeStamp + basic.simultaneousThreshold)
        entries ⟨true, [], [], []⟩ = ⟨true, [], [], []⟩ := by
      rw [isFront]
      unfold lookAhead
      rw [if_neg (by simp), if_neg (by simp [valid]), if_pos (by omega)]
    unfold decideByLookAhead at claims
    dsimp only at claims
    rw [none] at claims
    cases claims
  · rw [unfulfilled] at fulfilled
    cases fulfilled

/-- A manipulator fires on full chords only exactly when it never fires or covers in full. -/
theorem firesOnFullChord_iff [ExpressionLibrary] (basic : Basic) :
    FiresOnFullChord basic ↔ NeverFires basic ∨ CoversInFull basic := by
  constructor
  · intro onFullChord
    by_contra neither
    obtain ⟨fires, few⟩ := not_or.mp neither
    exact not_firesOnFullChord fires few onFullChord
  · rintro (never | full)
    · intro front input output rest now isFront isDown manipulated
      obtain ⟨valid, _, _, _, claims⟩ := (manipulated_iff isDown).mp manipulated
      exact absurd claims (not_claims_of_neverFires never isFront valid)
    · exact firesOnFullChord_of_coversInFull full

/-- A simultaneous `from` of the key A and any key. -/
def coveredTwice : Basic where
  validity := .valid
  conditionManager := ⟨[]⟩
  parameters := .initial
  from_ := ⟨[.momentarySwitchEvent (.make UsagePage.keyboardOrKeypad Usage.keyboardA),
    .any .keyCode], ⟨[], []⟩, none, .initial⟩
  to_ := []
  toAfterKeyUp := []
  toIfAlone := []
  manipulatedOriginalEvents := []

omit [MachTimebase] in
/-- The key A alone is both of them. -/
theorem coveredTwice_notFullChord :
    let _ := zeroExpressions
    let _ := nanosecondTimebase
    ¬FiresOnFullChord coveredTwice := by
  intro expressions timebase onFullChord
  let event : Event := .momentarySwitchEvent (.make UsagePage.keyboardOrKeypad Usage.keyboardA)
  let front : Entry := .make 1 ⟨0, 0⟩ event .keyDown none event .original
  let input : EventQueue := { EventQueue.initial with events := [front] }
  have manipulated : (coveredTwice.manipulate front input .initial 100).1 = .manipulated := by
    decide
  have full : FullChord coveredTwice _ (keyDowns 1 .original none [event]) :=
    onFullChord front input .initial [] 100 rfl rfl manipulated
  exact absurd full.length_le (by decide)

end Basic

end Karabiner
