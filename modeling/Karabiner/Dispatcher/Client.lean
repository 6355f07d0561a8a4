import Karabiner.Dispatcher.Dispatcher

/-! # The jobs of one object

A client of the dispatcher sees the jobs of its own object only. These are a queue of the same kind:
a job of the client is inserted among the client's own jobs (`Dispatcher.own_insertEntry`), the jobs
of other objects are not seen, and a job of the client that the worker thread takes is the first one
of them (`Dispatcher.own_take`). What the jobs that are to be done at once ask for is, in the end,
what the last of them asks for (`Dispatcher.lastOf`).
-/

namespace Karabiner

namespace Dispatcher

variable {α : Type}

/-- The entries of an object. -/
def own (objectId : Nat) (queue : List (DispatcherEntry α)) : List (DispatcherEntry α) :=
  queue.filter (·.objectId == objectId)

variable {queue : List (DispatcherEntry α)} {entry : DispatcherEntry α}

theorem insertEntry_cons_of_le {first : DispatcherEntry α} (le : first.when_ ≤ entry.when_)
    (rest : List (DispatcherEntry α)) :
    insertEntry entry (first :: rest) = first :: insertEntry entry rest := by
  unfold insertEntry
  rw [List.takeWhile_cons_of_pos (by simpa using le),
    List.dropWhile_cons_of_pos (by simpa using le)]
  rfl

theorem insertEntry_cons_of_lt {first : DispatcherEntry α} (lt : entry.when_ < first.when_)
    (rest : List (DispatcherEntry α)) :
    insertEntry entry (first :: rest) = entry :: first :: rest := by
  have later : ¬ first.when_ ≤ entry.when_ := Nat.not_le_of_lt lt
  unfold insertEntry
  rw [List.takeWhile_cons_of_neg (by simpa using later),
    List.dropWhile_cons_of_neg (by simpa using later)]
  rfl

/-- An entry is inserted in front of the first later one, which keeps the queue sorted by time. -/
theorem sorted_insertEntry (sorted : queue.Pairwise ByTime) :
    (insertEntry entry queue).Pairwise ByTime := by
  induction queue with
  | nil => exact List.pairwise_singleton _ _
  | cons first rest ih =>
      obtain ⟨isFirst, restSorted⟩ := List.pairwise_cons.mp sorted
      obtain le | lt := (Nat.lt_or_ge entry.when_ first.when_).symm
      · rw [insertEntry_cons_of_le le]
        refine List.pairwise_cons.mpr ⟨fun other isLater => ?_, ih restSorted⟩
        obtain rfl | isRest := mem_insertEntry.mp isLater
        · exact le
        · exact isFirst other isRest
      · rw [insertEntry_cons_of_lt lt]
        refine List.pairwise_cons.mpr ⟨fun other isLater => ?_, sorted⟩
        obtain rfl | isRest := List.mem_cons.mp isLater
        · exact Nat.le_of_lt lt
        · exact Nat.le_trans (Nat.le_of_lt lt) (isFirst other isRest)

/-- An entry of the object is inserted among its entries, and another one is not seen. -/
theorem own_insertEntry (objectId : Nat) (sorted : queue.Pairwise ByTime) :
    own objectId (insertEntry entry queue) =
      if entry.objectId = objectId then insertEntry entry (own objectId queue)
      else own objectId queue := by
  induction queue with
  | nil =>
      by_cases isOwn : entry.objectId = objectId
      · simp [own, insertEntry, isOwn]
      · simp [own, insertEntry, isOwn]
  | cons first rest ih =>
      obtain ⟨isFirst, restSorted⟩ := List.pairwise_cons.mp sorted
      have next := ih restSorted
      obtain le | lt := (Nat.lt_or_ge entry.when_ first.when_).symm
      · rw [insertEntry_cons_of_le le]
        by_cases firstOwn : first.objectId = objectId
        · have kept : ∀ others, own objectId (first :: others) = first :: own objectId others :=
            fun others => List.filter_cons_of_pos (by simpa using firstOwn)
          rw [kept, kept, next]
          split
          · rw [insertEntry_cons_of_le le]
          · rfl
        · have kept : ∀ others, own objectId (first :: others) = own objectId others :=
            fun others => List.filter_cons_of_neg (by simpa using firstOwn)
          rw [kept, kept, next]
      · rw [insertEntry_cons_of_lt lt]
        split
        · rename_i isOwn
          have allLater : ∀ other ∈ own objectId (first :: rest), entry.when_ < other.when_ := by
            intro other isLater
            obtain rfl | isRest := List.mem_cons.mp (List.mem_filter.mp isLater).1
            · exact lt
            · exact Nat.lt_of_lt_of_le lt (isFirst other isRest)
          have front : own objectId (entry :: first :: rest) =
              entry :: own objectId (first :: rest) :=
            List.filter_cons_of_pos (by simpa using isOwn)
          rw [front]
          cases others : own objectId (first :: rest) with
          | nil => rfl
          | cons other more =>
              rw [insertEntry_cons_of_lt (allLater other (others ▸ List.mem_cons_self))]
        · rename_i isOther
          exact List.filter_cons_of_neg (by simpa using isOther)

/-- When the worker thread takes an entry of the object, it is the first one of the object. -/
theorem own_take (dispatcher : Dispatcher α) (objectId now : Nat)
    (idle : dispatcher.running = none) {taken : DispatcherEntry α}
    (isTaken : (dispatcher.take now).running = some taken) :
    own objectId dispatcher.queue =
      if taken.objectId = objectId then taken :: own objectId (dispatcher.take now).queue
      else own objectId (dispatcher.take now).queue := by
  unfold take at isTaken ⊢
  rw [idle] at isTaken ⊢
  cases isQueue : dispatcher.queue with
  | nil =>
      rw [isQueue] at isTaken
      simp [idle] at isTaken
  | cons first rest =>
      rw [isQueue] at isTaken
      dsimp only at isTaken ⊢
      split at isTaken
      · rename_i due
        rw [if_pos due]
        obtain rfl := Option.some.inj isTaken
        dsimp only
        split
        · rename_i isOwn
          exact List.filter_cons_of_pos (by simpa using isOwn)
        · rename_i isOther
          exact List.filter_cons_of_neg (by simpa using isOther)
      · rw [idle] at isTaken
        cases isTaken

/-! ## The last request -/

variable {β : Type} (request : α → Option β)

/-- What the job of an entry asks for. -/
def requestOf (entry : DispatcherEntry α) : Option β := request entry.job

/-- What the last of the jobs that ask for something asks for. -/
def lastOf (queue : List (DispatcherEntry α)) : Option β :=
  (queue.filterMap (requestOf request)).getLast?

variable {request}

/-- A job that asks for nothing. -/
theorem lastOf_insertEntry (asksNothing : request entry.job = none) :
    lastOf request (insertEntry entry queue) = lastOf request queue := by
  unfold lastOf insertEntry
  rw [List.filterMap_append, List.filterMap_cons_none (f := requestOf request) asksNothing,
    ← List.filterMap_append, List.takeWhile_append_dropWhile]

/-- A request that is enqueued now is the last one. -/
theorem lastOf_insertEntry_now (sorted : queue.Pairwise ByTime)
    (immediate : ∀ other ∈ queue, request other.job ≠ none → other.when_ ≤ whenImmediately)
    {objectId : Nat} {job : α} {asked : β} (asks : request job = some asked) :
    lastOf request (insertEntry ⟨objectId, job, whenImmediately⟩ queue) = some asked := by
  have noLater : (queue.dropWhile fun other =>
      decide (other.when_ ≤ whenImmediately)).filterMap (requestOf request) = [] := by
    rw [List.filterMap_eq_nil_iff]
    intro other isLater
    by_contra asksLater
    have early := immediate other ((List.dropWhile_sublist _).subset isLater) asksLater
    exact absurd (lt_of_mem_dropWhile sorted isLater) (Nat.not_lt_of_le early)
  have isAsked : requestOf request ⟨objectId, job, whenImmediately⟩ = some asked := asks
  unfold lastOf insertEntry
  rw [List.filterMap_append, List.filterMap_cons_some isAsked, noLater]
  exact List.getLast?_concat

theorem lastOf_cons (entry : DispatcherEntry α) (rest : List (DispatcherEntry α)) :
    lastOf request (entry :: rest) = (lastOf request rest).or (request entry.job) := by
  unfold lastOf
  cases asks : request entry.job with
  | none => rw [List.filterMap_cons_none (f := requestOf request) asks, Option.or_none]
  | some asked =>
      rw [List.filterMap_cons_some (f := requestOf request) asks, List.getLast?_cons]
      cases (rest.filterMap (requestOf request)).getLast? <;> rfl

theorem lastOf_eq_none :
    lastOf request queue = none ↔ ∀ other ∈ queue, request other.job = none := by
  rw [lastOf, List.getLast?_eq_none_iff, List.filterMap_eq_nil_iff]
  rfl

end Dispatcher

end Karabiner
