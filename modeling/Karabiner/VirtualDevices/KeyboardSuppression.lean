import Karabiner.Foundation.ExpiringList
import Karabiner.VirtualDevices.PostedKeys
import Mathlib.Data.List.Induction
import Mathlib.Order.Bounds.Basic

/-! # What the event tap has to ignore

`keyboard_suppression` looks for expired entries at the front only, takes matched ones out
of the middle, and drops the oldest when there are too many. The entries expire in the order
they were enqueued in, so it is a multiset of bounded size whose members expire
(`KeyboardSuppression.isExpiringMultiset`).
-/

namespace Karabiner

namespace KeyboardSuppression

open Foundation

/-! ## Runs of calls -/

/-- A call of a suppression. -/
inductive Call where
  | enqueue (event : MomentarySwitchEvent) (eventType : EventType) (now : Int)
  | consume (event : MomentarySwitchEvent) (eventType : EventType) (now : Int)
  | purgeExpired (now : Int)

def Call.now : Call → Int
  | .enqueue _ _ now | .consume _ _ now | .purgeExpired now => now

variable [MachTimebase]

def step (suppression : KeyboardSuppression) : Call → KeyboardSuppression
  | .enqueue event eventType now => suppression.enqueue event eventType now
  | .consume event eventType now => (suppression.consume event eventType now).2
  | .purgeExpired now => suppression.purgeExpired now

/-- The entry of a call that enqueues a valid event of no pointing button. -/
def Call.entry? (ttl : Int) : Call → Option SuppressionEntry
  | .enqueue event eventType now =>
      if !event.valid || event.pointingButton then none
      else some ⟨event, eventType, now + MachTimebase.makeAbsoluteTimeDuration ttl⟩
  | .consume _ _ _ | .purgeExpired _ => none

/-- A suppression that keeps the numbers of its entries, and of those that were matched or
evicted. -/
structure History where
  stored : List (SuppressionEntry × Nat)
  /-- The number of entries enqueued so far. -/
  count : Nat
  matched : List Nat
  evicted : List Nat

namespace History

def initial : History := ⟨[], 0, [], []⟩

def purgeExpired (history : History) (now : Int) : History :=
  { history with stored := ExpiringList.expire (fun x => x.1.expiresAt) now history.stored }

/-- The entry is the one a call of `consume` looks for. -/
def matching (event : MomentarySwitchEvent) (eventType : EventType)
    (x : SuppressionEntry × Nat) : Bool :=
  x.1.event == event && x.1.eventType == eventType

def step (ttl : Int) (maxSize : Nat) (history : History) : Call → History
  | .enqueue event eventType now =>
      if !event.valid || event.pointingButton then history
      else
        let stored := (history.purgeExpired now).stored ++
          [(⟨event, eventType, now + MachTimebase.makeAbsoluteTimeDuration ttl⟩, history.count)]
        { stored := stored.drop (stored.length - maxSize)
          count := history.count + 1
          matched := history.matched
          evicted := history.evicted ++ (stored.take (stored.length - maxSize)).map Prod.snd }
  | .consume event eventType now =>
      let purged := history.purgeExpired now
      { purged with
        stored := purged.stored.eraseP (matching event eventType)
        matched := history.matched ++
          (purged.stored.find? (matching event eventType)).toList.map Prod.snd }
  | .purgeExpired now => history.purgeExpired now

/-- Of the enqueued entries, those that were neither matched nor evicted. -/
def waiting (history : History) (enqueued : List SuppressionEntry) :
    List (SuppressionEntry × Nat) :=
  enqueued.zipIdx.filter fun x => decide (x.2 ∉ history.matched ∧ x.2 ∉ history.evicted)

/-- The entry of the number is one that a call of `consume` may match: it is of the event and
type, has not expired, and was neither matched nor evicted. -/
structure Available (history : History) (enqueued : List SuppressionEntry)
    (event : MomentarySwitchEvent) (eventType : EventType) (now : Int) (number : Nat) :
    Prop where
  entry : ∃ expiresAt, enqueued[number]? = some ⟨event, eventType, expiresAt⟩ ∧ now < expiresAt
  unmatched : number ∉ history.matched
  unevicted : number ∉ history.evicted

/-- The numbers of the entries that wait and have not expired, from the oldest. -/
def live (history : History) (enqueued : List SuppressionEntry) (now : Int) : List Nat :=
  ((history.waiting enqueued).filter fun x => decide (now < x.1.expiresAt)).map Prod.snd

end History

/-! ## The entries that wait -/

omit [MachTimebase] in
/-- Entries of distinct numbers, without those of the middle. -/
theorem filter_notMem_middle {gone middle rest : List (SuppressionEntry × Nat)}
    (nodup : ((gone ++ (middle ++ rest)).map Prod.snd).Nodup) :
    (gone ++ (middle ++ rest)).filter (fun x => decide (x.2 ∉ middle.map Prod.snd)) =
      gone ++ rest := by
  rw [List.map_append, List.map_append, List.nodup_append, List.nodup_append] at nodup
  obtain ⟨_, ⟨_, _, apart⟩, before⟩ := nodup
  have goneStays : gone.filter (fun x => decide (x.2 ∉ middle.map Prod.snd)) = gone := by
    refine List.filter_eq_self.mpr fun x member => decide_eq_true fun isMiddle => ?_
    exact before _ (List.mem_map_of_mem member) _ (List.mem_append_left _ isMiddle) rfl
  have middleGoes : middle.filter (fun x => decide (x.2 ∉ middle.map Prod.snd)) = [] := by
    refine List.filter_eq_nil_iff.mpr fun x member isOther => ?_
    exact of_decide_eq_true isOther (List.mem_map_of_mem member)
  have restStays : rest.filter (fun x => decide (x.2 ∉ middle.map Prod.snd)) = rest := by
    refine List.filter_eq_self.mpr fun x member => decide_eq_true fun isMiddle => ?_
    exact apart _ isMiddle _ (List.mem_map_of_mem member) rfl
  rw [List.filter_append, List.filter_append, goneStays, middleGoes, restStays, List.nil_append]

section

omit [MachTimebase]

variable {history : History} {enqueued : List SuppressionEntry} {last now : Int}

theorem History.mem_waiting {x : SuppressionEntry × Nat} :
    x ∈ history.waiting enqueued ↔
      enqueued[x.2]? = some x.1 ∧ x.2 ∉ history.matched ∧ x.2 ∉ history.evicted := by
  unfold waiting
  rw [List.mem_filter, List.mem_zipIdx_iff_getElem?, decide_eq_true_iff]

theorem History.available_purgeExpired {event : MomentarySwitchEvent} {eventType : EventType}
    {number : Nat} :
    (history.purgeExpired last).Available enqueued event eventType now number ↔
      history.Available enqueued event eventType now number :=
  ⟨fun ⟨entry, unmatched, unevicted⟩ => ⟨entry, unmatched, unevicted⟩,
    fun ⟨entry, unmatched, unevicted⟩ => ⟨entry, unmatched, unevicted⟩⟩

/-- The numbers of the entries are in order. -/
theorem History.pairwise_waiting (history : History) (enqueued : List SuppressionEntry) :
    (history.waiting enqueued).Pairwise fun x y => x.2 < y.2 := by
  refine List.Pairwise.sublist List.filter_sublist ?_
  have numbers : (enqueued.zipIdx.map Prod.snd).Pairwise (· < ·) := by
    rw [List.zipIdx_map_snd]
    exact List.pairwise_lt_range'
  exact List.pairwise_map.mp numbers

theorem History.nodup_waiting (history : History) (enqueued : List SuppressionEntry) :
    ((history.waiting enqueued).map Prod.snd).Nodup :=
  List.pairwise_map.mpr ((history.pairwise_waiting enqueued).imp fun less => less.ne)

/-- The enqueued entries expire in their order, and those that wait are stored or have
expired. -/
structure Keeps (enqueued : List SuppressionEntry) (history : History) (maxSize : Nat)
    (latest last : Int) : Prop where
  count : history.count = enqueued.length
  ordered : enqueued.Pairwise fun x y => x.expiresAt ≤ y.expiresAt
  recent : ∀ x ∈ enqueued, x.expiresAt ≤ latest
  waits : ∃ gone, history.waiting enqueued = gone ++ history.stored ∧
    ∀ x ∈ gone, x.1.expiresAt ≤ last
  matched : ∀ number ∈ history.matched, number < enqueued.length
  evicted : ∀ number ∈ history.evicted, number < enqueued.length
  nodup : history.matched.Nodup
  size : history.stored.length ≤ maxSize

variable {maxSize : Nat} {latest : Int}

theorem Keeps.mono (keeps : Keeps enqueued history maxSize latest last) (later : last ≤ now)
    {latestNow : Int} (latestLater : latest ≤ latestNow) :
    Keeps enqueued history maxSize latestNow now := by
  obtain ⟨gone, waiting, expired⟩ := keeps.waits
  exact { keeps with
    recent := fun x member => (keeps.recent x member).trans latestLater
    waits := ⟨gone, waiting, fun x member => (expired x member).trans later⟩ }

theorem Keeps.ordered_waiting (keeps : Keeps enqueued history maxSize latest last) :
    (history.waiting enqueued).Pairwise fun x y => x.1.expiresAt ≤ y.1.expiresAt := by
  refine List.Pairwise.sublist List.filter_sublist ?_
  have entries : (enqueued.zipIdx.map Prod.fst).Pairwise fun x y => x.expiresAt ≤ y.expiresAt := by
    rw [List.zipIdx_map_fst]
    exact keeps.ordered
  exact (List.pairwise_map (f := Prod.fst)).mp entries

theorem Keeps.ordered_stored (keeps : Keeps enqueued history maxSize latest last) :
    history.stored.Pairwise fun x y => x.1.expiresAt ≤ y.1.expiresAt := by
  obtain ⟨gone, waiting, _⟩ := keeps.waits
  have ordered := keeps.ordered_waiting
  rw [waiting] at ordered
  exact (List.pairwise_append.mp ordered).2.1

/-- What is purged has expired, and no expired entry stays behind. -/
theorem Keeps.purgeExpired (keeps : Keeps enqueued history maxSize latest last)
    (later : last ≤ now) :
    Keeps enqueued (history.purgeExpired now) maxSize latest now ∧
      ∀ x ∈ (history.purgeExpired now).stored, now < x.1.expiresAt := by
  obtain ⟨gone, waiting, expired⟩ := keeps.waits
  refine ⟨{ keeps with waits := ?_, size := ?_ }, ?_⟩
  · refine ⟨gone ++ ExpiringList.expired (fun x => x.1.expiresAt) now history.stored, ?_, ?_⟩
    · have parts := ExpiringList.expired_append_expire
        (fun x : SuppressionEntry × Nat => x.1.expiresAt) now history.stored
      rw [List.append_assoc]
      exact waiting.trans (congrArg (gone ++ ·) parts.symm)
    · refine List.forall_mem_append.mpr ⟨fun x member => (expired x member).trans later, ?_⟩
      exact fun x member => ExpiringList.le_of_mem_expired
        (fun x : SuppressionEntry × Nat => x.1.expiresAt) member
  · exact (ExpiringList.expire_sublist _ now history.stored).length_le.trans keeps.size
  · exact fun x member => ExpiringList.lt_of_mem_expire keeps.ordered_stored member

/-- After purging, the stored entries are the ones that wait and have not expired. -/
theorem Keeps.live_eq (keeps : Keeps enqueued history maxSize latest now)
    (unexpired : ∀ x ∈ history.stored, now < x.1.expiresAt) :
    history.live enqueued now = history.stored.map Prod.snd := by
  obtain ⟨gone, waiting, expired⟩ := keeps.waits
  unfold History.live
  have none : gone.filter (fun x => decide (now < x.1.expiresAt)) = [] :=
    List.filter_eq_nil_iff.mpr fun x member isLater =>
      absurd (expired x member) (not_le.mpr (of_decide_eq_true isLater))
  have all : history.stored.filter (fun x => decide (now < x.1.expiresAt)) = history.stored :=
    List.filter_eq_self.mpr fun x member => decide_eq_true (unexpired x member)
  rw [waiting, List.filter_append, none, all, List.nil_append]

/-- After purging, the entries that may be matched are the matching ones that are stored. -/
theorem Keeps.available_iff (keeps : Keeps enqueued history maxSize latest now)
    (unexpired : ∀ x ∈ history.stored, now < x.1.expiresAt) (event : MomentarySwitchEvent)
    (eventType : EventType) (number : Nat) :
    history.Available enqueued event eventType now number ↔
      ∃ x ∈ history.stored, History.matching event eventType x = true ∧ x.2 = number := by
  obtain ⟨gone, waiting, expired⟩ := keeps.waits
  constructor
  · rintro ⟨⟨expiresAt, isEntry, isLater⟩, unmatched, unevicted⟩
    have waits : (⟨event, eventType, expiresAt⟩, number) ∈ history.waiting enqueued :=
      History.mem_waiting.mpr ⟨isEntry, unmatched, unevicted⟩
    rw [waiting] at waits
    refine ⟨_, (List.mem_append.mp waits).resolve_left fun isGone => ?_, ?_, rfl⟩
    · exact absurd (expired _ isGone) (not_le.mpr isLater)
    · simp [History.matching]
  · rintro ⟨⟨⟨event', eventType', expiresAt⟩, _⟩, member, isMatching, rfl⟩
    have waits := List.mem_append_right gone member
    rw [← waiting] at waits
    obtain ⟨isEntry, unmatched, unevicted⟩ := History.mem_waiting.mp waits
    simp only [History.matching, Bool.and_eq_true, beq_iff_eq] at isMatching
    obtain ⟨rfl, rfl⟩ := isMatching
    exact ⟨⟨expiresAt, isEntry, unexpired _ member⟩, unmatched, unevicted⟩

/-- The entries that wait after some more of them were evicted. -/
theorem History.waiting_evicted (stored : List (SuppressionEntry × Nat)) (count : Nat)
    (matched evicted numbers : List Nat) (enqueued : List SuppressionEntry) :
    History.waiting ⟨stored, count, matched, evicted ++ numbers⟩ enqueued =
      (History.waiting ⟨stored, count, matched, evicted⟩ enqueued).filter
        fun x => decide (x.2 ∉ numbers) := by
  unfold waiting
  rw [List.filter_filter]
  refine List.filter_congr fun x _ => ?_
  simp only [List.mem_append, not_or, Bool.decide_and]
  cases decide (x.2 ∉ numbers) <;> simp

/-- The entries that wait after some more of them were matched. -/
theorem History.waiting_matched (stored : List (SuppressionEntry × Nat)) (count : Nat)
    (matched evicted numbers : List Nat) (enqueued : List SuppressionEntry) :
    History.waiting ⟨stored, count, matched ++ numbers, evicted⟩ enqueued =
      (History.waiting ⟨stored, count, matched, evicted⟩ enqueued).filter
        fun x => decide (x.2 ∉ numbers) := by
  unfold waiting
  rw [List.filter_filter]
  refine List.filter_congr fun x _ => ?_
  simp only [List.mem_append, not_or, Bool.decide_and]
  cases decide (x.2 ∉ numbers) <;> simp

/-- A new entry waits behind the others. -/
theorem Keeps.waiting_enqueue (keeps : Keeps enqueued history maxSize latest last)
    (entry : SuppressionEntry) :
    history.waiting (enqueued ++ [entry]) =
      history.waiting enqueued ++ [(entry, enqueued.length)] := by
  have isNew : decide (enqueued.length ∉ history.matched ∧ enqueued.length ∉ history.evicted) =
      true := by
    refine decide_eq_true ⟨fun member => ?_, fun member => ?_⟩
    · exact absurd (keeps.matched _ member) (lt_irrefl _)
    · exact absurd (keeps.evicted _ member) (lt_irrefl _)
  unfold History.waiting
  rw [List.zipIdx_append, List.filter_append, Nat.zero_add, List.zipIdx_singleton]
  exact congrArg (List.filter _ _ ++ ·)
    (List.filter_eq_self.mpr (List.forall_mem_singleton.mpr isNew))

end

/-! ## The calls -/

section

variable {history : History} {enqueued : List SuppressionEntry} {last now latest ttl : Int}
  {maxSize : Nat}

omit [MachTimebase] in
theorem number_lt_of_mem_stored (keeps : Keeps enqueued history maxSize latest last)
    {x : SuppressionEntry × Nat} (member : x ∈ history.stored) : x.2 < enqueued.length := by
  obtain ⟨gone, waiting, _⟩ := keeps.waits
  have waits := List.mem_append_right gone member
  rw [← waiting] at waits
  exact (List.getElem?_eq_some_iff.mp (History.mem_waiting.mp waits).1).1

/-- Enqueueing evicts the oldest of the live entries and the new one, so that not too many
are left. -/
theorem Keeps.enqueue (keeps : Keeps enqueued history maxSize latest last) (later : last ≤ now)
    (latestLater : latest ≤ now + MachTimebase.makeAbsoluteTimeDuration ttl)
    {event : MomentarySwitchEvent} (isValid : event.valid = true)
    (noButton : event.pointingButton = false) (eventType : EventType) :
    (history.step ttl maxSize (.enqueue event eventType now)).evicted = history.evicted ++
        (history.live enqueued now ++ [enqueued.length]).take
          ((history.live enqueued now ++ [enqueued.length]).length - maxSize) ∧
      Keeps
        (enqueued ++ [⟨event, eventType, now + MachTimebase.makeAbsoluteTimeDuration ttl⟩])
        (history.step ttl maxSize (.enqueue event eventType now)) maxSize
        (now + MachTimebase.makeAbsoluteTimeDuration ttl) now := by
  obtain ⟨purged, unexpired⟩ := keeps.purgeExpired later
  have live : history.live enqueued now = (history.purgeExpired now).stored.map Prod.snd :=
    purged.live_eq unexpired
  generalize isEntry : (⟨event, eventType, now + MachTimebase.makeAbsoluteTimeDuration ttl⟩ :
    SuppressionEntry) = entry
  have expires : entry.expiresAt = now + MachTimebase.makeAbsoluteTimeDuration ttl := by
    rw [← isEntry]
  obtain ⟨gone, waiting, expired⟩ := purged.waits
  generalize isAll : (history.purgeExpired now).stored ++ [(entry, enqueued.length)] = all
  have numbers : history.live enqueued now ++ [enqueued.length] = all.map Prod.snd := by
    rw [live, ← isAll, List.map_append, List.map_singleton]
  have stepped : history.step ttl maxSize (.enqueue event eventType now) =
      { stored := all.drop (all.length - maxSize)
        count := enqueued.length + 1
        matched := history.matched
        evicted := history.evicted ++ (all.take (all.length - maxSize)).map Prod.snd } := by
    simp only [History.step, isValid, noButton, keeps.count, isEntry, isAll, Bool.not_true,
      Bool.or_self, Bool.false_eq_true, if_false]
  have waitingAll : history.waiting (enqueued ++ [entry]) =
      gone ++ (all.take (all.length - maxSize) ++ all.drop (all.length - maxSize)) := by
    rw [List.take_append_drop, ← isAll, keeps.waiting_enqueue entry, ← List.append_assoc]
    exact congrArg (· ++ [(entry, enqueued.length)]) waiting
  rw [stepped, numbers, List.length_map, ← List.map_take]
  refine ⟨rfl, ?_, ?_, ?_, ?_, ?_, ?_, keeps.nodup, ?_⟩
  · simp only [List.length_append, List.length_singleton]
  · refine List.pairwise_append.mpr ⟨keeps.ordered, List.pairwise_singleton _ _, ?_⟩
    intro x member y isNew
    rw [List.mem_singleton.mp isNew, expires]
    exact (keeps.recent x member).trans latestLater
  · refine List.forall_mem_append.mpr ⟨?_, List.forall_mem_singleton.mpr expires.le⟩
    exact fun x member => (keeps.recent x member).trans latestLater
  · refine ⟨gone, ?_, expired⟩
    rw [History.waiting_evicted]
    have same : History.waiting ⟨all.drop (all.length - maxSize), enqueued.length + 1,
        history.matched, history.evicted⟩ (enqueued ++ [entry]) =
          history.waiting (enqueued ++ [entry]) := rfl
    have nodup := history.nodup_waiting (enqueued ++ [entry])
    rw [waitingAll] at nodup
    rw [same, waitingAll]
    exact filter_notMem_middle nodup
  · intro number member
    rw [List.length_append]
    exact Nat.lt_add_right _ (keeps.matched number member)
  · intro number member
    rw [List.length_append, List.length_singleton]
    rcases List.mem_append.mp member with before | isEvicted
    · exact Nat.lt_succ_of_lt (keeps.evicted number before)
    · obtain ⟨x, isTaken, rfl⟩ := List.mem_map.mp isEvicted
      have isOne := List.mem_of_mem_take isTaken
      rw [← isAll] at isOne
      rcases List.mem_append.mp isOne with before | isNew
      · exact Nat.lt_succ_of_lt (number_lt_of_mem_stored purged before)
      · rw [List.mem_singleton.mp isNew]
        exact Nat.lt_succ_self _
  · rw [List.length_drop]
    omega

omit [MachTimebase] in
/-- The first matching entry is taken out, if there is one. -/
theorem take_matching (stored : List (SuppressionEntry × Nat))
    (matching : SuppressionEntry × Nat → Bool) :
    (stored.find? matching = none ∧ stored.eraseP matching = stored ∧
        ∀ x ∈ stored, matching x = false) ∨
      ∃ older x newer, stored = older ++ x :: newer ∧ stored.find? matching = some x ∧
        stored.eraseP matching = older ++ newer ∧ matching x = true ∧
        ∀ y ∈ older, matching y = false := by
  cases found : stored.find? matching with
  | none =>
      have noMatch := List.find?_eq_none.mp found
      refine .inl ⟨rfl, List.eraseP_of_forall_not noMatch, fun x member => ?_⟩
      exact Bool.eq_false_iff.mpr (noMatch x member)
  | some x =>
      obtain ⟨isMatch, older, newer, parts, before⟩ := List.find?_eq_some_iff_append.mp found
      have olderNot : ∀ y ∈ older, matching y = false := fun y member => by
        simpa using before y member
      refine .inr ⟨older, x, newer, parts, rfl, ?_, isMatch, olderNot⟩
      rw [parts, List.eraseP_append_right _ (fun y member => by simp [olderNot y member]),
        List.eraseP_cons_of_pos isMatch]

omit [MachTimebase] in
/-- The first of the stored entries that match is the oldest one that may be matched. -/
theorem Keeps.isLeast_available (keeps : Keeps enqueued history maxSize latest now)
    (unexpired : ∀ x ∈ history.stored, now < x.1.expiresAt) {event : MomentarySwitchEvent}
    {eventType : EventType} {older newer : List (SuppressionEntry × Nat)}
    {x : SuppressionEntry × Nat} (parts : history.stored = older ++ x :: newer)
    (isMatch : History.matching event eventType x = true)
    (olderNot : ∀ y ∈ older, History.matching event eventType y = false) :
    IsLeast {number | history.Available enqueued event eventType now number} x.2 := by
  have available := keeps.available_iff unexpired event eventType
  constructor
  · refine (available x.2).mpr ⟨x, ?_, isMatch, rfl⟩
    rw [parts]
    exact List.mem_append_right _ List.mem_cons_self
  · intro number isAvailable
    obtain ⟨y, member, isOther, rfl⟩ := (available number).mp isAvailable
    obtain ⟨gone, waiting, _⟩ := keeps.waits
    have ordered := history.pairwise_waiting enqueued
    rw [waiting, parts, List.pairwise_append, List.pairwise_append, List.pairwise_cons] at ordered
    obtain ⟨_, ⟨_, ⟨newerLater, _⟩, _⟩, _⟩ := ordered
    rw [parts] at member
    rcases List.mem_append.mp member with isOlder | isRest
    · rw [olderNot y isOlder] at isOther
      cases isOther
    · rcases List.mem_cons.mp isRest with rfl | isNewer
      · exact le_rfl
      · exact (newerLater y isNewer).le

/-- A call of `consume` matches the oldest entry that it may match, if there is one. -/
theorem Keeps.consume (keeps : Keeps enqueued history maxSize latest last) (later : last ≤ now)
    (event : MomentarySwitchEvent) (eventType : EventType) :
    Keeps enqueued (history.step ttl maxSize (.consume event eventType now)) maxSize latest
        now ∧
      (((history.purgeExpired now).stored.any (History.matching event eventType) = false ∧
          (∀ number, ¬history.Available enqueued event eventType now number) ∧
          (history.step ttl maxSize (.consume event eventType now)).matched =
            history.matched) ∨
        ∃ number,
          (history.purgeExpired now).stored.any (History.matching event eventType) = true ∧
          IsLeast {number | history.Available enqueued event eventType now number} number ∧
          (history.step ttl maxSize (.consume event eventType now)).matched =
            history.matched ++ [number]) := by
  obtain ⟨purged, unexpired⟩ := keeps.purgeExpired later
  have available := purged.available_iff unexpired event eventType
  have stepped : history.step ttl maxSize (.consume event eventType now) =
      { stored := (history.purgeExpired now).stored.eraseP (History.matching event eventType)
        count := history.count
        matched := history.matched ++ ((history.purgeExpired now).stored.find?
          (History.matching event eventType)).toList.map Prod.snd
        evicted := history.evicted } := rfl
  rcases take_matching (history.purgeExpired now).stored (History.matching event eventType) with
    ⟨found, left, noMatch⟩ | ⟨older, x, newer, parts, found, left, isMatch, olderNot⟩
  · rw [stepped, found, left, Option.toList_none, List.map_nil, List.append_nil]
    refine ⟨purged, .inl ⟨List.any_eq_false.mpr fun x member => ?_, fun number => ?_, rfl⟩⟩
    · exact Bool.eq_false_iff.mp (noMatch x member)
    · intro isAvailable
      obtain ⟨x, member, isMatch, _⟩ :=
        (available number).mp (History.available_purgeExpired.mpr isAvailable)
      rw [noMatch x member] at isMatch
      cases isMatch
  · have least : IsLeast {number | history.Available enqueued event eventType now number} x.2 := by
      simpa only [History.available_purgeExpired] using
        purged.isLeast_available unexpired parts isMatch olderNot
    have isStored : x ∈ (history.purgeExpired now).stored := by
      rw [parts]
      exact List.mem_append_right _ List.mem_cons_self
    rw [stepped, found, left, Option.toList_some, List.map_singleton]
    refine ⟨{ purged with waits := ?_, matched := ?_, nodup := ?_, size := ?_ },
      .inr ⟨x.2, List.any_eq_true.mpr ⟨x, isStored, isMatch⟩, least, rfl⟩⟩
    · obtain ⟨gone, waiting, expired⟩ := purged.waits
      refine ⟨gone, ?_, expired⟩
      have waitingParts : history.waiting enqueued = (gone ++ older) ++ ([x] ++ newer) := by
        rw [List.append_assoc, List.singleton_append, ← parts]
        exact waiting
      have nodup := history.nodup_waiting enqueued
      have same : History.waiting ⟨older ++ newer, history.count, history.matched,
          history.evicted⟩ enqueued = history.waiting enqueued := rfl
      rw [waitingParts] at nodup
      rw [History.waiting_matched, same, waitingParts]
      exact (filter_notMem_middle nodup).trans (List.append_assoc gone older newer)
    · exact List.forall_mem_append.mpr ⟨keeps.matched,
        List.forall_mem_singleton.mpr (number_lt_of_mem_stored purged isStored)⟩
    · refine List.nodup_append.mpr ⟨keeps.nodup, List.pairwise_singleton _ _, ?_⟩
      rintro number before _ isLast rfl
      exact least.1.unmatched (List.mem_singleton.mp isLast ▸ before)
    · have size := purged.size
      rw [parts] at size
      simp only [List.length_append, List.length_cons] at size ⊢
      omega

/-- A call keeps the entries in order, and those that wait stored. -/
theorem Keeps.step (keeps : Keeps enqueued history maxSize
      (last + MachTimebase.makeAbsoluteTimeDuration ttl) last) (call : Call)
    (later : last ≤ call.now) :
    Keeps (enqueued ++ (call.entry? ttl).toList) (history.step ttl maxSize call) maxSize
      (call.now + MachTimebase.makeAbsoluteTimeDuration ttl) call.now := by
  have latestLater := Int.add_le_add_right later (MachTimebase.makeAbsoluteTimeDuration ttl)
  cases call with
  | enqueue event eventType now =>
      by_cases isIgnored : (!event.valid || event.pointingButton) = true
      · simp only [Call.entry?, History.step, if_pos isIgnored, Option.toList_none,
          List.append_nil]
        exact keeps.mono later latestLater
      · obtain ⟨isValid, noButton⟩ : event.valid = true ∧ event.pointingButton = false := by
          simpa using isIgnored
        rw [Call.entry?, if_neg isIgnored, Option.toList_some]
        exact (keeps.enqueue later latestLater isValid noButton eventType).2
  | consume event eventType now =>
      rw [Call.entry?, Option.toList_none, List.append_nil]
      exact ((keeps.consume later event eventType).1).mono le_rfl latestLater
  | purgeExpired now =>
      rw [Call.entry?, Option.toList_none, List.append_nil]
      exact (keeps.purgeExpired later).1.mono le_rfl latestLater

/-- The history of calls in order of time. -/
theorem keeps_run (ttl : Int) (maxSize : Nat) (calls : List Call)
    (inOrder : calls.Pairwise fun x y => x.now ≤ y.now) (last : Int)
    (latest : ∀ call ∈ calls, call.now ≤ last) :
    Keeps (calls.filterMap (Call.entry? ttl)) (calls.foldl (History.step ttl maxSize) .initial)
      maxSize (last + MachTimebase.makeAbsoluteTimeDuration ttl) last := by
  induction calls using List.reverseRecOn generalizing last with
  | nil =>
      refine ⟨rfl, List.Pairwise.nil, ?_, ⟨[], rfl, ?_⟩, ?_, ?_, List.nodup_nil, Nat.zero_le _⟩
      · exact fun _ none => absurd none List.not_mem_nil
      · exact fun _ none => absurd none List.not_mem_nil
      · exact fun _ none => absurd none List.not_mem_nil
      · exact fun _ none => absurd none List.not_mem_nil
  | append_singleton before call ih =>
      obtain ⟨inOrderBefore, _, earlier⟩ := List.pairwise_append.mp inOrder
      have keeps := ih inOrderBefore call.now fun x member =>
        earlier x member call (List.mem_singleton_self call)
      have inTime := latest call (List.mem_append_right _ (List.mem_singleton_self call))
      have after := (keeps.step call le_rfl).mono inTime
        (Int.add_le_add_right inTime (MachTimebase.makeAbsoluteTimeDuration ttl))
      rw [List.foldl_append, List.filterMap_append]
      cases isEntry : call.entry? ttl with
      | none => simpa [isEntry] using after
      | some entry => simpa [isEntry] using after

/-! ## The numbers are only noted -/

omit [MachTimebase] in
theorem entries_purgeExpired (suppression : KeyboardSuppression) (history : History)
    (same : suppression.entries = history.stored.map Prod.fst) (now : Int) :
    (suppression.purgeExpired now).entries = (history.purgeExpired now).stored.map Prod.fst := by
  unfold KeyboardSuppression.purgeExpired History.purgeExpired ExpiringList.expire
  rw [same]
  exact List.dropWhile_map

/-- Without the numbers, a step of the history is the one of the suppression. -/
theorem entries_step (suppression : KeyboardSuppression) (history : History)
    (same : suppression.entries = history.stored.map Prod.fst) (call : Call) :
    (suppression.step call).entries =
        (history.step suppression.ttl suppression.maxSize call).stored.map Prod.fst ∧
      (suppression.step call).ttl = suppression.ttl ∧
      (suppression.step call).maxSize = suppression.maxSize := by
  have purged := fun now => entries_purgeExpired suppression history same now
  cases call with
  | enqueue event eventType now =>
      unfold KeyboardSuppression.step KeyboardSuppression.enqueue History.step
      dsimp only
      split
      · exact ⟨same, rfl, rfl⟩
      · refine ⟨?_, rfl, rfl⟩
        change List.drop _ ((suppression.purgeExpired now).entries ++ _) = _
        rw [purged now]
        simp [KeyboardSuppression.purgeExpired]
  | consume event eventType now =>
      refine ⟨?_, rfl, rfl⟩
      change (suppression.purgeExpired now).entries.eraseP _ = _
      rw [purged now]
      exact List.eraseP_map
  | purgeExpired now => exact ⟨purged now, rfl, rfl⟩

/-- Without the numbers, the history is the suppression. -/
theorem entries_run (ttl : Int) (maxSize : Nat) (calls : List Call) :
    (calls.foldl KeyboardSuppression.step ⟨[], ttl, maxSize⟩).entries =
        (calls.foldl (History.step ttl maxSize) .initial).stored.map Prod.fst ∧
      (calls.foldl KeyboardSuppression.step ⟨[], ttl, maxSize⟩).ttl = ttl ∧
      (calls.foldl KeyboardSuppression.step ⟨[], ttl, maxSize⟩).maxSize = maxSize := by
  induction calls using List.reverseRecOn with
  | nil => exact ⟨rfl, rfl, rfl⟩
  | append_singleton before call ih =>
      obtain ⟨same, isTtl, isMaxSize⟩ := ih
      have stepped := entries_step _ _ same call
      rw [isTtl, isMaxSize] at stepped
      rw [List.foldl_append, List.foldl_append]
      exact stepped

/-- A suppression is a multiset of bounded size whose members expire. Each of its calls in
order of time matches an enqueued entry at most once, a call of `consume` matches the oldest
entry of its event and type that has not expired, been matched or been evicted, and a call of
`enqueue` evicts the oldest of the entries that wait beyond the size. -/
theorem isExpiringMultiset (ttl : Int) (maxSize : Nat) (calls : List Call)
    (inOrder : calls.Pairwise fun x y => x.now ≤ y.now) (now : Int)
    (latest : ∀ call ∈ calls, call.now ≤ now) :
    let suppression := calls.foldl KeyboardSuppression.step ⟨[], ttl, maxSize⟩
    let history := calls.foldl (History.step ttl maxSize) .initial
    let enqueued := calls.filterMap (Call.entry? ttl)
    suppression.entries = history.stored.map Prod.fst ∧
      suppression.entries.length ≤ maxSize ∧
      history.matched.Nodup ∧
      (∀ event eventType,
        ((suppression.consume event eventType now).1 = false ∧
            (∀ number, ¬history.Available enqueued event eventType now number) ∧
            (history.step ttl maxSize (.consume event eventType now)).matched =
              history.matched) ∨
          ∃ number, (suppression.consume event eventType now).1 = true ∧
            IsLeast {number | history.Available enqueued event eventType now number} number ∧
            (history.step ttl maxSize (.consume event eventType now)).matched =
              history.matched ++ [number]) ∧
      ∀ event eventType, event.valid = true → event.pointingButton = false →
        (history.step ttl maxSize (.enqueue event eventType now)).evicted = history.evicted ++
          (history.live enqueued now ++ [enqueued.length]).take
            ((history.live enqueued now ++ [enqueued.length]).length - maxSize) := by
  intro suppression history enqueued
  have keeps := keeps_run ttl maxSize calls inOrder now latest
  have same := (entries_run ttl maxSize calls).1
  refine ⟨same, ?_, keeps.nodup, fun event eventType => ?_, fun event eventType isValid noButton =>
    (keeps.enqueue le_rfl le_rfl isValid noButton eventType).1⟩
  · exact (congrArg List.length same).trans_le ((List.length_map _).trans_le keeps.size)
  · have result : (suppression.consume event eventType now).1 =
        (history.purgeExpired now).stored.any (History.matching event eventType) := by
      change (suppression.purgeExpired now).entries.any _ = _
      rw [entries_purgeExpired suppression history same now]
      exact List.any_map
    rw [result]
    exact (keeps.consume le_rfl event eventType).2

omit [MachTimebase] in
/-- A key that is posted is ignored when it comes back in time. -/
theorem consume_postedKey :
    let _ := nanosecondTimebase
    let key := MomentarySwitchEvent.make UsagePage.keyboardOrKeypad Usage.keyboardA
    (([Call.enqueue key .keyDown 100].foldl step ⟨[], 50, 1024⟩).consume key .keyDown 200).1 =
      true := by
  intro _ key
  obtain ⟨_, _, _, consumes, _⟩ := isExpiringMultiset 50 1024
    [Call.enqueue key .keyDown 100] (List.pairwise_singleton _ _) 200
    (List.forall_mem_singleton.mpr (by decide))
  rcases consumes key .keyDown with ⟨_, none, _⟩ | ⟨_, isConsumed, _⟩
  · exact absurd ⟨⟨50000100, by decide, by decide⟩, by decide, by decide⟩ (none 0)
  · exact isConsumed

end

end KeyboardSuppression

end Karabiner
