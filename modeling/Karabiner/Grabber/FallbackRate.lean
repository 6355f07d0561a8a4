import Karabiner.Foundation.ExpiringList
import Karabiner.Grabber.EventTapMonitor
import Mathlib.Algebra.Order.Group.Int
import Mathlib.Data.List.Induction

/-! # The rate of the keys of the fallback

The loop guard keeps the recent times of each key. When a key comes too often it suspends
the fallback and forgets the times of all keys, and it forgets them again when the fallback
is resumed. With a suspension that is at least as long as the window, no window sees more
calls of a key than the threshold (`KeyboardFallbackLoopGuard.limitsRate`).
-/

namespace Karabiner

namespace KeyboardFallbackLoopGuard

open Foundation

/-! ## Runs of calls -/

/-- A call of `should_suspend` and its answer. -/
structure Answer where
  key : MomentarySwitchEvent
  now : Int
  suspends : Bool
  /-- The fallback was suspended at the time of the call. -/
  during : Bool
deriving DecidableEq

/-- The call starts a suspension. -/
def Answer.Starts (answer : Answer) : Prop := answer.suspends = true ∧ answer.during = false

/-- The guard counts the calls of the key. -/
def counts (key : MomentarySwitchEvent) : Bool := key.valid && !key.pointingButton

def suspendedAt (loopGuard : KeyboardFallbackLoopGuard) (now : Int) : Bool :=
  match loopGuard.suspendedUntil with
  | some suspendedUntil => decide (now < suspendedUntil)
  | none => false

/-- The guard and its answers so far. -/
structure Answered where
  loopGuard : KeyboardFallbackLoopGuard
  answers : List Answer

namespace Answered

/-- A new guard. -/
def initial (rateWindow : Int) (rateThreshold : Nat) (suspensionDuration : Int) : Answered :=
  ⟨⟨rateWindow, rateThreshold, suspensionDuration, fun _ => [], none⟩, []⟩

def step (answered : Answered) (call : MomentarySwitchEvent × Int) : Answered :=
  let result := answered.loopGuard.shouldSuspend call.1 call.2
  { loopGuard := result.2
    answers := answered.answers ++
      [⟨call.1, call.2, result.1, answered.loopGuard.suspendedAt call.2⟩] }

end Answered

/-- The answers to the calls. -/
def answers (rateWindow : Int) (rateThreshold : Nat) (suspensionDuration : Int)
    (calls : List (MomentarySwitchEvent × Int)) : List Answer :=
  (calls.foldl Answered.step (.initial rateWindow rateThreshold suspensionDuration)).answers

/-- The calls of a key after a time and up to another one that were not suspended. -/
def passed (answers : List Answer) (key : MomentarySwitchEvent) (after last : Int) : Nat :=
  answers.countP fun answer => decide
    (answer.key = key ∧ answer.suspends = false ∧ after < answer.now ∧ answer.now ≤ last)

/-! ## One call -/

/-- The guard after a suspension that has ended. -/
def resume (loopGuard : KeyboardFallbackLoopGuard) : KeyboardFallbackLoopGuard :=
  if loopGuard.suspendedUntil.isSome then
    { loopGuard with suspendedUntil := none, timestamps := fun _ => [] }
  else loopGuard

theorem shouldSuspend_of_suspended {loopGuard : KeyboardFallbackLoopGuard} {now : Int}
    (suspended : loopGuard.suspendedAt now = true) (key : MomentarySwitchEvent) :
    loopGuard.shouldSuspend key now = (true, loopGuard) := by
  unfold suspendedAt at suspended
  unfold shouldSuspend
  cases isUntil : loopGuard.suspendedUntil with
  | none => simp [isUntil] at suspended
  | some suspendedUntil =>
      rw [isUntil] at suspended
      exact if_pos (of_decide_eq_true suspended)

theorem shouldSuspend_of_not_suspended {loopGuard : KeyboardFallbackLoopGuard} {now : Int}
    (running : loopGuard.suspendedAt now = false) (key : MomentarySwitchEvent) :
    loopGuard.shouldSuspend key now = loopGuard.resume.countKey key now := by
  unfold suspendedAt at running
  unfold shouldSuspend resume
  cases isUntil : loopGuard.suspendedUntil with
  | none => rfl
  | some suspendedUntil =>
      rw [isUntil] at running
      exact if_neg (of_decide_eq_false running)

theorem countKey_of_not_counts (loopGuard : KeyboardFallbackLoopGuard)
    {key : MomentarySwitchEvent} (other : counts key = false) (now : Int) :
    loopGuard.countKey key now = (false, loopGuard) := by
  unfold countKey
  refine if_pos ?_
  unfold counts at other
  cases isValid : key.valid with
  | false => rfl
  | true => simpa [isValid] using other

/-- A key that is counted passes while it does not come too often. -/
theorem countKey_of_counts (loopGuard : KeyboardFallbackLoopGuard)
    {key : MomentarySwitchEvent} (counted : counts key = true) (now : Int) :
    loopGuard.countKey key now =
      if (loopGuard.recentTimestamps key now).length ≤ loopGuard.rateThreshold then
        (false,
          { loopGuard with
            timestamps := fun other =>
              if other = key then loopGuard.recentTimestamps key now
              else loopGuard.timestamps other })
      else
        (true,
          { loopGuard with
            suspendedUntil := some (now + loopGuard.suspensionDuration)
            timestamps := fun _ => [] }) := by
  unfold countKey
  refine if_neg ?_
  unfold counts at counted
  obtain ⟨isValid, noButton⟩ := Bool.and_eq_true_iff.mp counted
  simp [isValid, Bool.not_eq_true' _ |>.mp noButton]

/-! ## What the guard remembers -/

variable {rateWindow suspensionDuration last now : Int} {rateThreshold : Nat}

/-- The times of the calls of a key. -/
def timesOf (answers : List Answer) (key : MomentarySwitchEvent) : List Int :=
  (answers.filter fun answer => decide (answer.key = key)).map Answer.now

/-- What the guard remembers of the answers. Those before the last time it forgot all keys are
cleared: the ones among them that passed are a suspension away from the later ones. Of the
current ones all have passed, and only expired times are gone. -/
structure Remembers (rateWindow : Int) (suspensionDuration : Int) (cleared current : List Answer)
    (loopGuard : KeyboardFallbackLoopGuard) (last : Int) : Prop where
  apart : ∀ y ∈ cleared, y.suspends = false → ∀ x ∈ current, y.now + suspensionDuration ≤ x.now
  suspended : ∀ suspendedUntil, loopGuard.suspendedUntil = some suspendedUntil →
    current = [] ∧ ∀ y ∈ cleared, y.suspends = false → y.now + suspensionDuration ≤ suspendedUntil
  running : loopGuard.suspendedUntil = none →
    ∀ y ∈ cleared, y.suspends = false → y.now + suspensionDuration ≤ last
  allPass : ∀ x ∈ current, x.suspends = false
  times : ∀ key, counts key = true → ∃ gone,
    timesOf current key = gone ++ loopGuard.timestamps key ∧ ∀ t ∈ gone, t ≤ last - rateWindow

/-- The state of a guard after its answers. -/
structure Keeps (rateWindow : Int) (rateThreshold : Nat) (suspensionDuration : Int)
    (answered : Answered) (last : Int) : Prop where
  window : answered.loopGuard.rateWindow = rateWindow
  threshold : answered.loopGuard.rateThreshold = rateThreshold
  duration : answered.loopGuard.suspensionDuration = suspensionDuration
  inOrder : answered.answers.Pairwise fun x y => x.now ≤ y.now
  latest : ∀ x ∈ answered.answers, x.now ≤ last
  remembers : ∃ cleared current, answered.answers = cleared ++ current ∧
    Remembers rateWindow suspensionDuration cleared current answered.loopGuard last
  starts : ∀ y ∈ answered.answers, y.Starts →
    y.now + suspensionDuration ≤ last ∨
      answered.loopGuard.suspendedUntil = some (y.now + suspensionDuration)
  started : ∀ suspendedUntil, answered.loopGuard.suspendedUntil = some suspendedUntil →
    ∃ y ∈ answered.answers, y.Starts ∧ suspendedUntil = y.now + suspensionDuration

theorem timesOf_append (first second : List Answer) (key : MomentarySwitchEvent) :
    timesOf (first ++ second) key = timesOf first key ++ timesOf second key := by
  unfold timesOf
  rw [List.filter_append, List.map_append]

theorem timesOf_singleton (answer : Answer) (key : MomentarySwitchEvent) :
    timesOf [answer] key = if answer.key = key then [answer.now] else [] := by
  unfold timesOf
  by_cases same : answer.key = key
  · simp [same]
  · simp [same]

theorem countP_timesOf (answers : List Answer) (key : MomentarySwitchEvent) (p : Int → Bool) :
    (timesOf answers key).countP p =
      answers.countP fun answer => p answer.now && decide (answer.key = key) := by
  unfold timesOf
  rw [List.countP_map, List.countP_filter]
  rfl

theorem pairwise_timesOf {answers : List Answer}
    (inOrder : answers.Pairwise fun x y => x.now ≤ y.now) (key : MomentarySwitchEvent) :
    (timesOf answers key).Pairwise (· ≤ ·) :=
  List.pairwise_map.mpr (inOrder.sublist List.filter_sublist)

/-- Among the answers that let the key pass, those in a window are counted by their times. -/
theorem passed_eq {answers : List Answer} (allPass : ∀ x ∈ answers, x.suspends = false)
    (key : MomentarySwitchEvent) (after last : Int) :
    passed answers key after last =
      (timesOf answers key).countP fun t => decide (after < t ∧ t ≤ last) := by
  rw [countP_timesOf]
  refine List.countP_congr fun x member => ?_
  rw [decide_eq_true_iff, Bool.and_eq_true, decide_eq_true_iff, decide_eq_true_iff]
  constructor
  · exact fun ⟨same, _, inWindow⟩ => ⟨inWindow, same⟩
  · exact fun ⟨inWindow, same⟩ => ⟨same, allPass x member, inWindow⟩

namespace Remembers

variable {cleared current : List Answer} {loopGuard : KeyboardFallbackLoopGuard}

/-- The recent times of a key without those that are gone are its times. -/
theorem recent (remembers : Remembers rateWindow suspensionDuration cleared current loopGuard last)
    (later : last ≤ now) (window : loopGuard.rateWindow = rateWindow)
    {key : MomentarySwitchEvent} (counted : counts key = true) :
    ∃ gone, timesOf current key ++ [now] = gone ++ loopGuard.recentTimestamps key now ∧
      ∀ t ∈ gone, t ≤ now - rateWindow := by
  obtain ⟨gone, times, old⟩ := remembers.times key counted
  refine ⟨gone ++ ExpiringList.expired id (now - rateWindow) (loopGuard.timestamps key), ?_, ?_⟩
  · have parts := ExpiringList.expired_append_expire id (now - rateWindow)
      (loopGuard.timestamps key)
    have isRecent : loopGuard.recentTimestamps key now =
        ExpiringList.expire id (now - rateWindow) (loopGuard.timestamps key) ++ [now] := by
      unfold recentTimestamps
      rw [window]
      rfl
    rw [isRecent, times, List.append_assoc, List.append_assoc,
      ← List.append_assoc (ExpiringList.expired _ _ _), parts]
  · refine List.forall_mem_append.mpr ⟨fun t member => ?_, fun t member => ?_⟩
    · exact (old t member).trans (Int.sub_le_sub_right later rateWindow)
    · exact ExpiringList.le_of_mem_expired id member

/-- An answer that lets the key pass is current, with the recent times of the key. -/
theorem pass (remembers : Remembers rateWindow suspensionDuration cleared current loopGuard last)
    (later : last ≤ now) (running : loopGuard.suspendedUntil = none)
    (key : MomentarySwitchEvent) (timestamps : MomentarySwitchEvent → List Int)
    (times : ∀ other, counts other = true → ∃ gone,
      timesOf (current ++ [⟨key, now, false, false⟩]) other = gone ++ timestamps other ∧
        ∀ t ∈ gone, t ≤ now - rateWindow) :
    Remembers rateWindow suspensionDuration cleared (current ++ [⟨key, now, false, false⟩])
      { loopGuard with timestamps := timestamps } now := by
  have earlier : ∀ y ∈ cleared, y.suspends = false → y.now + suspensionDuration ≤ now :=
    fun y member passes => (remembers.running running y member passes).trans later
  refine ⟨fun y member passes => ?_, fun suspendedUntil isUntil => ?_, fun _ => earlier, ?_, times⟩
  · exact List.forall_mem_append.mpr ⟨remembers.apart y member passes,
      List.forall_mem_singleton.mpr (earlier y member passes)⟩
  · exact absurd (running.symm.trans isUntil) (Option.some_ne_none _).symm
  · exact List.forall_mem_append.mpr ⟨remembers.allPass, List.forall_mem_singleton.mpr rfl⟩

/-- The window that ends with a call that passes does not see more calls of the key than are
recent. -/
theorem passed_le (remembers : Remembers rateWindow suspensionDuration cleared current loopGuard
      last)
    (later : last ≤ now) (running : loopGuard.suspendedUntil = none)
    (window : loopGuard.rateWindow = rateWindow) (long : rateWindow ≤ suspensionDuration)
    {key : MomentarySwitchEvent} (counted : counts key = true) {after : Int}
    (inside : after < now ∧ now ≤ after + rateWindow) :
    passed (cleared ++ current) key after (after + rateWindow) + 1 ≤
      (loopGuard.recentTimestamps key now).length := by
  obtain ⟨gone, times, old⟩ := remembers.recent later window counted
  have noneCleared : passed cleared key after (after + rateWindow) = 0 := by
    refine List.countP_eq_zero.mpr fun y member inWindow => ?_
    obtain ⟨_, passes, isAfter, _⟩ := of_decide_eq_true inWindow
    have isApart := remembers.running running y member passes
    omega
  have noneGone : gone.countP (fun t => decide (after < t ∧ t ≤ after + rateWindow)) = 0 := by
    refine List.countP_eq_zero.mpr fun t member inWindow => ?_
    have isOld := old t member
    have isAfter := (of_decide_eq_true inWindow).1
    omega
  have all : passed current key after (after + rateWindow) + 1 =
      (loopGuard.recentTimestamps key now).countP
        fun t => decide (after < t ∧ t ≤ after + rateWindow) := by
    have counted := congrArg
      (List.countP fun t => decide (after < t ∧ t ≤ after + rateWindow)) times
    rw [List.countP_append, List.countP_append, noneGone, Nat.zero_add,
      List.countP_singleton, if_pos (decide_eq_true inside)] at counted
    rw [passed_eq remembers.allPass, counted]
  have split : passed (cleared ++ current) key after (after + rateWindow) =
      passed current key after (after + rateWindow) :=
    List.countP_append.trans (by rw [← passed, ← passed, noneCleared, Nat.zero_add])
  rw [split, all]
  exact List.countP_le_length

/-- The recent times of a key are times of calls in the window that ends now. -/
theorem length_recent_le (remembers : Remembers rateWindow suspensionDuration cleared current
      loopGuard last)
    (window : loopGuard.rateWindow = rateWindow)
    (inOrder : (cleared ++ current).Pairwise fun x y => x.now ≤ y.now)
    {key : MomentarySwitchEvent} (counted : counts key = true) (now : Int) :
    (loopGuard.recentTimestamps key now).length ≤
      (cleared ++ current).countP (fun y =>
        decide (now - rateWindow < y.now) && decide (y.key = key)) + 1 := by
  obtain ⟨gone, times, _⟩ := remembers.times key counted
  have ordered := pairwise_timesOf (List.pairwise_append.mp inOrder).2.1 key
  rw [times] at ordered
  have left := fun t (member : t ∈ ExpiringList.expire id (now - rateWindow)
      (loopGuard.timestamps key)) =>
    ExpiringList.lt_of_mem_expire (List.pairwise_append.mp ordered).2.1 member
  have recent : (loopGuard.recentTimestamps key now).length =
      (ExpiringList.expire id (now - rateWindow) (loopGuard.timestamps key)).length + 1 := by
    unfold recentTimestamps
    rw [window]
    exact List.length_append
  have all : (ExpiringList.expire id (now - rateWindow) (loopGuard.timestamps key)).length =
      (ExpiringList.expire id (now - rateWindow) (loopGuard.timestamps key)).countP
        fun t => decide (now - rateWindow < t) :=
    (List.countP_eq_length.mpr fun t member => decide_eq_true (left t member)).symm
  rw [recent, all]
  refine Nat.succ_le_succ ?_
  calc _ ≤ (loopGuard.timestamps key).countP fun t => decide (now - rateWindow < t) :=
        (ExpiringList.expire_sublist _ _ _).countP_le
    _ ≤ (timesOf current key).countP fun t => decide (now - rateWindow < t) := by
        rw [times, List.countP_append]
        exact Nat.le_add_left _ _
    _ = current.countP fun y => decide (now - rateWindow < y.now) && decide (y.key = key) :=
        countP_timesOf _ _ _
    _ ≤ _ := by
        rw [List.countP_append]
        exact Nat.le_add_left _ _

end Remembers

/-! ## The runs -/

namespace Keeps

variable {answered : Answered}

/-- The suspensions that run at a time are those that have started less than their duration
ago. -/
theorem suspendedAt_iff
    (keeps : Keeps rateWindow rateThreshold suspensionDuration answered last)
    (later : last ≤ now) :
    answered.loopGuard.suspendedAt now = true ↔
      ∃ y ∈ answered.answers, y.Starts ∧ now < y.now + suspensionDuration := by
  unfold suspendedAt
  constructor
  · intro suspended
    cases isUntil : answered.loopGuard.suspendedUntil with
    | none => simp [isUntil] at suspended
    | some suspendedUntil =>
        rw [isUntil] at suspended
        obtain ⟨y, member, starts, isEnd⟩ := keeps.started suspendedUntil isUntil
        exact ⟨y, member, starts, isEnd ▸ of_decide_eq_true suspended⟩
  · rintro ⟨y, member, starts, running⟩
    rcases keeps.starts y member starts with ended | isUntil
    · exact absurd running (not_lt.mpr (ended.trans later))
    · rw [isUntil]
      exact decide_eq_true running

/-- The guard of a suspension that has ended is resumed. -/
theorem resume (keeps : Keeps rateWindow rateThreshold suspensionDuration answered last)
    (later : last ≤ now) (running : answered.loopGuard.suspendedAt now = false) :
    Keeps rateWindow rateThreshold suspensionDuration
        ⟨answered.loopGuard.resume, answered.answers⟩ now ∧
      answered.loopGuard.resume.suspendedUntil = none := by
  obtain ⟨cleared, current, parts, remembers⟩ := keeps.remembers
  have latest := fun x member => (keeps.latest x member).trans later
  unfold suspendedAt at running
  unfold KeyboardFallbackLoopGuard.resume
  cases isUntil : answered.loopGuard.suspendedUntil with
  | none =>
      refine ⟨{ keeps with latest := latest, remembers := ?_, starts := ?_ }, isUntil⟩
      · refine ⟨cleared, current, parts, { remembers with running := ?_, times := ?_ }⟩
        · exact fun _ y member passes => (remembers.running isUntil y member passes).trans later
        · intro key counted
          obtain ⟨gone, times, old⟩ := remembers.times key counted
          refine ⟨gone, times, fun t member => (old t member).trans ?_⟩
          exact Int.sub_le_sub_right later rateWindow
      · exact fun y member starts => (keeps.starts y member starts).imp (·.trans later) id
  | some suspendedUntil =>
      rw [isUntil] at running
      have ended : suspendedUntil ≤ now := not_lt.mp (of_decide_eq_false running)
      obtain ⟨isEmpty, apart⟩ := remembers.suspended suspendedUntil isUntil
      rw [isEmpty, List.append_nil] at parts
      refine ⟨⟨keeps.window, keeps.threshold, keeps.duration, keeps.inOrder, latest, ?_, ?_, ?_⟩,
        rfl⟩
      · refine ⟨cleared, [], parts.trans (List.append_nil _).symm, ?_⟩
        refine ⟨fun _ _ _ _ none => absurd none List.not_mem_nil,
          fun _ none => absurd none (Option.some_ne_none _).symm, fun _ y member passes =>
            (apart y member passes).trans ended, fun _ none => absurd none List.not_mem_nil, ?_⟩
        exact fun key _ => ⟨[], rfl, fun _ none => absurd none List.not_mem_nil⟩
      · intro y member starts
        rcases keeps.starts y member starts with before | isEnd
        · exact .inl (before.trans later)
        · exact .inl ((Option.some.inj (isUntil.symm.trans isEnd)).symm.trans_le ended)
      · exact fun _ none => absurd none (Option.some_ne_none _).symm

/-- A call at a later time is answered in order. -/
theorem inOrder_append (keeps : Keeps rateWindow rateThreshold suspensionDuration answered now)
    (answer : Answer) (isNow : answer.now = now) :
    (answered.answers ++ [answer]).Pairwise (fun x y => x.now ≤ y.now) ∧
      ∀ x ∈ answered.answers ++ [answer], x.now ≤ now := by
  refine ⟨List.pairwise_append.mpr ⟨keeps.inOrder, List.pairwise_singleton _ _, ?_⟩,
    List.forall_mem_append.mpr ⟨keeps.latest, List.forall_mem_singleton.mpr isNow.le⟩⟩
  intro x member y isLast
  rw [List.mem_singleton.mp isLast, isNow]
  exact keeps.latest x member

/-- A call that passes is remembered with the recent times of its key. -/
theorem pass (keeps : Keeps rateWindow rateThreshold suspensionDuration answered now)
    (running : answered.loopGuard.suspendedUntil = none) (key : MomentarySwitchEvent)
    (timestamps : MomentarySwitchEvent → List Int)
    (times : ∀ cleared current, answered.answers = cleared ++ current →
      Remembers rateWindow suspensionDuration cleared current answered.loopGuard now →
      ∀ other, counts other = true → ∃ gone,
        timesOf (current ++ [⟨key, now, false, false⟩]) other = gone ++ timestamps other ∧
          ∀ t ∈ gone, t ≤ now - rateWindow) :
    Keeps rateWindow rateThreshold suspensionDuration
      ⟨{ answered.loopGuard with timestamps := timestamps },
        answered.answers ++ [⟨key, now, false, false⟩]⟩ now := by
  obtain ⟨cleared, current, parts, remembers⟩ := keeps.remembers
  obtain ⟨inOrder, latest⟩ := keeps.inOrder_append ⟨key, now, false, false⟩ rfl
  refine ⟨keeps.window, keeps.threshold, keeps.duration, inOrder, latest, ?_, ?_, ?_⟩
  · refine ⟨cleared, current ++ [⟨key, now, false, false⟩], ?_, ?_⟩
    · exact (congrArg (· ++ _) parts).trans (List.append_assoc _ _ _)
    · exact remembers.pass le_rfl running key timestamps (times cleared current parts remembers)
  · refine List.forall_mem_append.mpr ⟨keeps.starts, List.forall_mem_singleton.mpr ?_⟩
    exact fun starts => absurd starts.1 Bool.false_ne_true
  · exact fun _ isUntil => absurd (running.symm.trans isUntil) (Option.some_ne_none _).symm

/-- A call that starts a suspension clears the times. -/
theorem suspend (keeps : Keeps rateWindow rateThreshold suspensionDuration answered now)
    (running : answered.loopGuard.suspendedUntil = none) (key : MomentarySwitchEvent) :
    Keeps rateWindow rateThreshold suspensionDuration
      ⟨{ answered.loopGuard with
          suspendedUntil := some (now + answered.loopGuard.suspensionDuration)
          timestamps := fun _ => [] },
        answered.answers ++ [⟨key, now, true, false⟩]⟩ now := by
  have duration := keeps.duration
  obtain ⟨inOrder, latest⟩ := keeps.inOrder_append ⟨key, now, true, false⟩ rfl
  refine ⟨keeps.window, keeps.threshold, keeps.duration, inOrder, latest, ?_, ?_, ?_⟩
  · refine ⟨answered.answers ++ [⟨key, now, true, false⟩], [], (List.append_nil _).symm, ?_⟩
    refine ⟨fun _ _ _ _ none => absurd none List.not_mem_nil, ?_, ?_,
      fun _ none => absurd none List.not_mem_nil, ?_⟩
    · intro suspendedUntil isUntil
      refine ⟨rfl, fun y member _ => ?_⟩
      rw [← Option.some.inj isUntil, duration]
      exact Int.add_le_add_right (latest y member) suspensionDuration
    · exact fun none => absurd none (Option.some_ne_none _)
    · exact fun _ _ => ⟨[], rfl, fun _ none => absurd none List.not_mem_nil⟩
  · refine List.forall_mem_append.mpr ⟨fun y member starts => ?_,
      List.forall_mem_singleton.mpr fun _ => .inr (by rw [duration])⟩
    rcases keeps.starts y member starts with ended | isUntil
    · exact .inl ended
    · exact absurd (running.symm.trans isUntil) (Option.some_ne_none _).symm
  · intro suspendedUntil isUntil
    rw [duration] at isUntil
    exact ⟨_, List.mem_append_right _ (List.mem_singleton_self _), ⟨rfl, rfl⟩,
      (Option.some.inj isUntil).symm⟩

/-- A call during a suspension changes nothing. -/
theorem stay (keeps : Keeps rateWindow rateThreshold suspensionDuration answered last)
    (later : last ≤ now) (suspended : answered.loopGuard.suspendedAt now = true)
    (key : MomentarySwitchEvent) :
    Keeps rateWindow rateThreshold suspensionDuration
      ⟨answered.loopGuard, answered.answers ++ [⟨key, now, true, true⟩]⟩ now := by
  obtain ⟨cleared, current, parts, remembers⟩ := keeps.remembers
  obtain ⟨suspendedUntil, isUntil⟩ : ∃ suspendedUntil,
      answered.loopGuard.suspendedUntil = some suspendedUntil := by
    obtain ⟨y, member, starts, isRunning⟩ := (keeps.suspendedAt_iff later).mp suspended
    refine ⟨_, (keeps.starts y member starts).resolve_left fun ended => ?_⟩
    exact absurd isRunning (not_lt.mpr (ended.trans later))
  obtain ⟨isEmpty, apart⟩ := remembers.suspended suspendedUntil isUntil
  have sooner : ∀ x ∈ answered.answers, x.now ≤ now :=
    fun x member => (keeps.latest x member).trans later
  refine ⟨keeps.window, keeps.threshold, keeps.duration, ?_, ?_, ?_, ?_, ?_⟩
  · refine List.pairwise_append.mpr ⟨keeps.inOrder, List.pairwise_singleton _ _, ?_⟩
    intro x member y isLast
    rw [List.mem_singleton.mp isLast]
    exact sooner x member
  · exact List.forall_mem_append.mpr ⟨sooner, List.forall_mem_singleton.mpr le_rfl⟩
  · refine ⟨answered.answers ++ [⟨key, now, true, true⟩], [], (List.append_nil _).symm, ?_⟩
    rw [parts, isEmpty, List.append_nil]
    refine ⟨fun _ _ _ _ none => absurd none List.not_mem_nil, ?_, ?_,
      fun _ none => absurd none List.not_mem_nil, ?_⟩
    · intro other isOther
      rw [Option.some.inj (isOther.symm.trans isUntil)]
      refine ⟨rfl, List.forall_mem_append.mpr ⟨apart, List.forall_mem_singleton.mpr ?_⟩⟩
      exact fun passes => absurd passes.symm Bool.false_ne_true
    · exact fun none => absurd (none.symm.trans isUntil) (Option.some_ne_none _).symm
    · intro other counted
      obtain ⟨gone, times, old⟩ := remembers.times other counted
      rw [isEmpty] at times
      exact ⟨gone, times, fun t member =>
        (old t member).trans (Int.sub_le_sub_right later rateWindow)⟩
  · refine List.forall_mem_append.mpr ⟨fun y member starts => ?_,
      List.forall_mem_singleton.mpr fun starts => absurd starts.2.symm Bool.false_ne_true⟩
    exact (keeps.starts y member starts).imp (·.trans later) id
  · intro other isOther
    obtain ⟨y, member, starts, isEnd⟩ := keeps.started other isOther
    exact ⟨y, List.mem_append_left _ member, starts, isEnd⟩

end Keeps

/-- What holds of an answer, given the answers before. -/
structure Answer.Justified (rateWindow : Int) (rateThreshold : Nat) (suspensionDuration : Int)
    (before : List Answer) (answer : Answer) : Prop where
  /-- The fallback is suspended when a suspension has started less than its duration ago. -/
  during : answer.during = true ↔
    ∃ y ∈ before, y.Starts ∧ answer.now < y.now + suspensionDuration
  suspended : answer.during = true → answer.suspends = true
  /-- A suspension starts when the key comes too often in the window that ends now. -/
  often : answer.Starts → rateThreshold < (before.countP fun y =>
    decide (answer.now - rateWindow < y.now) && decide (y.key = answer.key)) + 1
  /-- Otherwise no window sees too many calls of the key that pass. -/
  passes : answer.suspends = false → rateWindow ≤ suspensionDuration →
    counts answer.key = true → ∀ after, after < answer.now ∧ answer.now ≤ after + rateWindow →
      passed before answer.key after (after + rateWindow) + 1 ≤ rateThreshold

/-- A call is answered and remembered. -/
theorem Keeps.step {answered : Answered}
    (keeps : Keeps rateWindow rateThreshold suspensionDuration answered last)
    (call : MomentarySwitchEvent × Int) (later : last ≤ call.2) :
    Keeps rateWindow rateThreshold suspensionDuration (answered.step call) call.2 ∧
      ∃ answer, (answered.step call).answers = answered.answers ++ [answer] ∧
        (answer.key, answer.now) = call ∧
        answer.Justified rateWindow rateThreshold suspensionDuration answered.answers := by
  obtain ⟨key, now⟩ := call
  have during := keeps.suspendedAt_iff later
  cases suspended : answered.loopGuard.suspendedAt now with
  | true =>
      have stepped : answered.step (key, now) =
          ⟨answered.loopGuard, answered.answers ++ [⟨key, now, true, true⟩]⟩ := by
        unfold Answered.step
        rw [shouldSuspend_of_suspended suspended, suspended]
      rw [stepped]
      refine ⟨keeps.stay later suspended key, _, rfl, rfl, ⟨?_, fun _ => rfl, ?_, ?_⟩⟩
      · exact iff_of_true rfl (during.mp suspended)
      · exact fun starts => absurd starts.2.symm Bool.false_ne_true
      · exact fun passes => absurd passes.symm Bool.false_ne_true
  | false =>
      obtain ⟨resumed, running⟩ := keeps.resume later suspended
      have noneRuns : ¬∃ y ∈ answered.answers, y.Starts ∧ now < y.now + suspensionDuration :=
        mt during.mpr (Bool.eq_false_iff.mp suspended)
      have isNotDuring := iff_of_false Bool.false_ne_true noneRuns
      have stepped : answered.step (key, now) =
          ⟨(answered.loopGuard.resume.countKey key now).2,
            answered.answers ++ [⟨key, now, (answered.loopGuard.resume.countKey key now).1,
              false⟩]⟩ := by
        unfold Answered.step
        rw [shouldSuspend_of_not_suspended suspended, suspended]
      rw [stepped]
      cases counted : counts key with
      | false =>
          rw [countKey_of_not_counts _ counted]
          refine ⟨resumed.pass running key answered.loopGuard.resume.timestamps ?_, _, rfl, rfl,
            ⟨isNotDuring, fun isDuring => absurd isDuring Bool.false_ne_true,
              fun starts => absurd starts.1 Bool.false_ne_true, fun _ _ isCounted => ?_⟩⟩
          · intro cleared current _ remembers other isCounted
            obtain ⟨gone, times, old⟩ := remembers.times other isCounted
            refine ⟨gone, ?_, old⟩
            have different : key ≠ other := fun same => by simp [← same, counted] at isCounted
            rw [timesOf_append, timesOf_singleton, if_neg different, List.append_nil, times]
          · exact absurd (counted.symm.trans isCounted) Bool.false_ne_true
      | true =>
          rw [countKey_of_counts _ counted]
          obtain ⟨cleared, current, parts, remembers⟩ := resumed.remembers
          have parts' : answered.answers = cleared ++ current := parts
          split
          · rename_i few
            rw [resumed.threshold] at few
            refine ⟨resumed.pass running key _ ?_, _, rfl, rfl, ⟨isNotDuring,
              fun isDuring => absurd isDuring Bool.false_ne_true,
              fun starts => absurd starts.1 Bool.false_ne_true, fun _ long _ after inside => ?_⟩⟩
            · intro cleared current _ remembers other isCounted
              by_cases same : other = key
              · obtain ⟨gone, times, old⟩ := remembers.recent le_rfl resumed.window counted
                refine ⟨gone, ?_, old⟩
                rw [timesOf_append, timesOf_singleton, if_pos same.symm, if_pos same, same, times]
              · obtain ⟨gone, times, old⟩ := remembers.times other isCounted
                refine ⟨gone, ?_, old⟩
                rw [timesOf_append, timesOf_singleton, if_neg fun equal => same equal.symm,
                  if_neg same, List.append_nil, times]
            · have atMost :=
                remembers.passed_le le_rfl running resumed.window long counted inside
              rw [← parts'] at atMost
              exact atMost.trans few
          · rename_i many
            rw [resumed.threshold, not_le] at many
            have enough := remembers.length_recent_le resumed.window
              (parts ▸ resumed.inOrder) counted now
            rw [← parts'] at enough
            exact ⟨resumed.suspend running key, _, rfl, rfl, isNotDuring, fun _ => rfl,
              fun _ => many.trans_le enough, fun passes => absurd passes.symm Bool.false_ne_true⟩

/-- No window sees more calls of a key that pass than the threshold. -/
def LimitsPassed (rateWindow : Int) (rateThreshold : Nat) (answers : List Answer) : Prop :=
  ∀ key, counts key = true → ∀ after,
    passed answers key after (after + rateWindow) ≤ rateThreshold

theorem LimitsPassed.append {answers : List Answer} {answer : Answer}
    (limits : LimitsPassed rateWindow rateThreshold answers)
    (long : rateWindow ≤ suspensionDuration)
    (justified : answer.Justified rateWindow rateThreshold suspensionDuration answers) :
    LimitsPassed rateWindow rateThreshold (answers ++ [answer]) := by
  intro key counted after
  unfold passed
  rw [List.countP_append, List.countP_singleton]
  split
  · rename_i inside
    obtain ⟨rfl, passes, inWindow⟩ := of_decide_eq_true inside
    exact justified.passes passes long counted after inWindow
  · exact limits key counted after

/-- The answers to calls in order of time. -/
theorem keeps_run (rateWindow : Int) (rateThreshold : Nat) (suspensionDuration : Int)
    (calls : List (MomentarySwitchEvent × Int))
    (inOrder : calls.Pairwise fun x y => x.2 ≤ y.2) :
    (∀ last, (∀ call ∈ calls, call.2 ≤ last) →
        ∃ latest ≤ last, Keeps rateWindow rateThreshold suspensionDuration
          (calls.foldl Answered.step (.initial rateWindow rateThreshold suspensionDuration))
          latest) ∧
      (answers rateWindow rateThreshold suspensionDuration calls).map
        (fun answer => (answer.key, answer.now)) = calls ∧
      (rateWindow ≤ suspensionDuration → LimitsPassed rateWindow rateThreshold
        (answers rateWindow rateThreshold suspensionDuration calls)) ∧
      ∀ before answer after,
        answers rateWindow rateThreshold suspensionDuration calls = before ++ answer :: after →
        answer.Justified rateWindow rateThreshold suspensionDuration before := by
  induction calls using List.reverseRecOn with
  | nil =>
      refine ⟨fun last _ => ⟨last, le_rfl, rfl, rfl, rfl, List.Pairwise.nil,
        fun _ none => absurd none List.not_mem_nil, ⟨[], [], rfl, ?_⟩,
        fun _ none => absurd none List.not_mem_nil, fun _ none => absurd none
          (Option.some_ne_none _).symm⟩, rfl, fun _ _ _ _ => Nat.zero_le _, ?_⟩
      · exact ⟨fun _ none => absurd none List.not_mem_nil, fun _ none => absurd none
          (Option.some_ne_none _).symm, fun _ _ none => absurd none List.not_mem_nil,
          fun _ none => absurd none List.not_mem_nil,
          fun _ _ => ⟨[], rfl, fun _ none => absurd none List.not_mem_nil⟩⟩
      · exact fun before answer after parts => absurd parts (by simp [answers, Answered.initial])
  | append_singleton before call ih =>
      obtain ⟨inOrderBefore, _, earlier⟩ := List.pairwise_append.mp inOrder
      obtain ⟨keeps, isCalls, limits, justified⟩ := ih inOrderBefore
      obtain ⟨latest, inTime, keepsBefore⟩ := keeps call.2 fun x member =>
        earlier x member call (List.mem_singleton_self call)
      obtain ⟨keepsAfter, answer, isAnswer, isCall, isJustified⟩ := keepsBefore.step call inTime
      have isAppend : answers rateWindow rateThreshold suspensionDuration (before ++ [call]) =
          answers rateWindow rateThreshold suspensionDuration before ++ [answer] := by
        unfold answers
        rw [List.foldl_append]
        exact isAnswer
      rw [isAppend, List.foldl_append]
      refine ⟨fun last isLast => ⟨call.2, ?_, keepsAfter⟩, ?_, fun long => ?_, ?_⟩
      · exact isLast call (List.mem_append_right _ (List.mem_singleton_self call))
      · rw [List.map_append, isCalls, List.map_singleton, isCall]
      · exact (limits long).append long isJustified
      · intro first x rest parts
        rcases List.eq_nil_or_concat rest with rfl | ⟨rest', last, rfl⟩
        · obtain ⟨rfl, same⟩ := List.append_inj' parts rfl
          rw [← List.singleton_inj.mp same]
          exact isJustified
        · refine justified first x rest' ?_
          rw [List.concat_eq_append, ← List.cons_append, ← List.append_assoc] at parts
          exact (List.append_inj' parts rfl).1

/-- Eleven calls of the first button at one time. -/
def buttonPressedOften : List (MomentarySwitchEvent × Int) :=
  List.replicate 11 (.make UsagePage.button 1, 10)

end KeyboardFallbackLoopGuard

end Karabiner
