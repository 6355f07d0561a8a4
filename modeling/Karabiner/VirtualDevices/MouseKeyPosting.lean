import Karabiner.Dispatcher.TimerProgress
import Karabiner.VirtualDevices.CountConverter
import Karabiner.VirtualDevices.PostEventToVirtualDevices

/-! # The timer of the mouse keys

`mouse_key_handler` posts a pointing report every 20 milliseconds while mouse keys are held. The
timer is started whenever a key is pressed or released, and its function stops it when the keys come
to nothing. Jobs of the timer that are already queued are done after that, and keys may be pressed
and released between any of them.

The products of `double` are a parameter. No result needs a fact about them.
-/

namespace Karabiner

/-- The arithmetic of `double` that the mouse keys use. -/
class MouseKeyArithmetic where
  times : Rat → Rat → Rat
  /-- `static_cast<double>(percentage) / 100.0`. -/
  ofPercentage : Int → Rat
  /-- `static_cast<int>` of the product of the value and the factors. -/
  scaled : Int → List Rat → Int

namespace MouseKey

variable [MouseKeyArithmetic]

/-- `mouse_key()`. -/
def none : MouseKey := ⟨0, 0, 0, 0, 1⟩

/-- `operator+=`: the speed multipliers are multiplied. -/
def add (first second : MouseKey) : MouseKey where
  x := first.x + second.x
  y := first.y + second.y
  verticalWheel := first.verticalWheel + second.verticalWheel
  horizontalWheel := first.horizontalWheel + second.horizontalWheel
  speedMultiplier := MouseKeyArithmetic.times first.speedMultiplier second.speedMultiplier

/-- `invert_wheel`. -/
def invertWheel (key : MouseKey) : MouseKey :=
  { key with verticalWheel := -key.verticalWheel, horizontalWheel := -key.horizontalWheel }

/-- `is_zero`. -/
def isZero (key : MouseKey) : Bool :=
  decide (key.x = 0 ∧ key.y = 0 ∧ key.verticalWheel = 0 ∧ key.horizontalWheel = 0)

omit [MouseKeyArithmetic] in
@[simp] theorem isZero_invertWheel (key : MouseKey) : key.invertWheel.isZero = key.isZero := by
  simp [isZero, invertWheel]

end MouseKey

/-- The axes of a pointing report. -/
inductive MouseKeyAxis where
  | x
  | y
  | verticalWheel
  | horizontalWheel
deriving DecidableEq

/-- What `post_event` reads of the environment. -/
structure MouseKeyInputs [HidReportLibrary] where
  buttons : HidReportLibrary.Buttons
  /-- `mouse_key_xy_scale` of the selected profile. -/
  mouseKeyXyScale : Int

/-- `mouse_key_handler`, with the reports that it has posted. The function of the timer is the time
stamp that it has captured. -/
structure MouseKeyPosting [HidReportLibrary] where
  handler : MouseKeyHandler
  /-- `weak_output_event_queue_` has a queue. -/
  output : Bool
  lastMouseKeyTotal : Option MouseKey
  converters : MouseKeyAxis → CountConverter
  client : TimerClient Int
  posted : List (PointingInput × Int)

/-- What happens: keys are pressed and released, and the worker thread does a job. -/
inductive MouseKeyAction [HidReportLibrary] where
  | pushBackMouseKey (deviceId : DeviceId) (mouseKey : MouseKey) (timeStamp : Int)
  | eraseMouseKey (deviceId : DeviceId) (mouseKey : MouseKey) (timeStamp : Int)
  | eraseMouseKeysByDeviceId (deviceId : DeviceId) (timeStamp : Int)
  | setSystemPreferencesProperties (scrollDirectionIsNatural : Bool)
  /-- The output queue is released. -/
  | releaseOutput
  | work (now : Nat) (inputs : MouseKeyInputs)

namespace MouseKeyPosting

variable [HidReportLibrary]

def initial : MouseKeyPosting where
  handler := ⟨[], false⟩
  output := false
  lastMouseKeyTotal := none
  converters := fun _ => .ofThreshold 128 (by decide)
  client := .initial
  posted := []

/-- 20 milliseconds. -/
def interval : Nat := 20000000

/-- `start_timer`. -/
def startTimer (posting : MouseKeyPosting) (timeStamp : Int) : MouseKeyPosting :=
  { posting with client := posting.client.start timeStamp interval }

variable [MouseKeyArithmetic]

/-- The sum in `post_event`. -/
def total (handler : MouseKeyHandler) : MouseKey :=
  let total := handler.entries.foldl (fun total entry => total.add entry.2) MouseKey.none
  if handler.scrollDirectionIsNatural then total else total.invertWheel

/-- What is given to the converter of an axis. -/
def amount (total : MouseKey) (inputs : MouseKeyInputs) : MouseKeyAxis → Int
  | .x => MouseKeyArithmetic.scaled total.x
      [total.speedMultiplier, MouseKeyArithmetic.ofPercentage inputs.mouseKeyXyScale]
  | .y => MouseKeyArithmetic.scaled total.y
      [total.speedMultiplier, MouseKeyArithmetic.ofPercentage inputs.mouseKeyXyScale]
  | .verticalWheel => MouseKeyArithmetic.scaled total.verticalWheel [total.speedMultiplier]
  | .horizontalWheel => MouseKeyArithmetic.scaled total.horizontalWheel [total.speedMultiplier]

/-- The converters before a report: they are reset when the sum is not that of the last report. -/
def readyConverters (posting : MouseKeyPosting) : MouseKeyAxis → CountConverter :=
  if posting.lastMouseKeyTotal = some (total posting.handler) then posting.converters
  else fun axis => (posting.converters axis).reset

/-- `post_event`, with whether it has posted. -/
def postEvent (posting : MouseKeyPosting) (inputs : MouseKeyInputs) (timeStamp : Int) :
    MouseKeyPosting × Bool :=
  let total := total posting.handler
  if !posting.output then (posting, false)
  else if total.isZero then ({ posting with lastMouseKeyTotal := none }, false)
  else
    let updated (axis : MouseKeyAxis) : Int × CountConverter :=
      (posting.readyConverters axis).update (amount total inputs axis)
    let report : PointingInput :=
      ⟨inputs.buttons, (updated .x).1, (updated .y).1, (updated .verticalWheel).1,
        (updated .horizontalWheel).1⟩
    ({ posting with
        lastMouseKeyTotal := some total
        converters := fun axis => (updated axis).2
        posted := posting.posted ++ [(report, timeStamp)] }, true)

/-- The function of the timer. The time that is added to the time stamp is lost with the copy that
it is added to. -/
def callTimer (posting : MouseKeyPosting) (inputs : MouseKeyInputs) (timeStamp : Int) :
    MouseKeyPosting :=
  let (posted, success) := posting.postEvent inputs timeStamp
  if success then posted else { posted with client := posted.client.stop }

/-- The worker thread does the first job of the handler when its time has come. -/
def work (posting : MouseKeyPosting) (now : Nat) (inputs : MouseKeyInputs) : MouseKeyPosting :=
  let (client, function) := posting.client.work now
  let worked := { posting with client := client }
  match function with
  | some timeStamp => worked.callTimer inputs timeStamp
  | none => worked

def step (posting : MouseKeyPosting) : MouseKeyAction → MouseKeyPosting
  | .pushBackMouseKey deviceId mouseKey timeStamp =>
      { posting with
        handler := posting.handler.pushBackMouseKey deviceId mouseKey
        output := true }.startTimer timeStamp
  | .eraseMouseKey deviceId mouseKey timeStamp =>
      { posting with
        handler := posting.handler.eraseMouseKey deviceId mouseKey
        output := true }.startTimer timeStamp
  | .eraseMouseKeysByDeviceId deviceId timeStamp =>
      { posting with
        handler := posting.handler.eraseMouseKeysByDeviceId deviceId }.startTimer timeStamp
  | .setSystemPreferencesProperties scrollDirectionIsNatural =>
      { posting with
        handler := { posting.handler with
          scrollDirectionIsNatural := scrollDirectionIsNatural } }
  | .releaseOutput => { posting with output := false }
  | .work now inputs => posting.work now inputs

/-! ## The timer goes on while keys are held -/

/-- There is something to post. -/
def Held (posting : MouseKeyPosting) : Prop :=
  posting.output = true ∧ (total posting.handler).isZero = false

/-- What every step keeps. -/
structure KeepsPosting (posting : MouseKeyPosting) : Prop where
  client : posting.client.Kept
  paced : posting.client.Paced
  enabled : posting.Held → posting.client.timer.enabled = true

variable {posting : MouseKeyPosting}

theorem keepsPosting_initial : (initial : MouseKeyPosting).KeepsPosting where
  client := TimerClient.kept_initial
  paced := TimerClient.paced_initial
  enabled held := nomatch held.1

omit [HidReportLibrary] in
/-- The direction of the wheels does not matter for whether there is something to post. -/
theorem isZero_total_setDirection (handler : MouseKeyHandler) (value : Bool) :
    (total { handler with scrollDirectionIsNatural := value }).isZero =
      (total handler).isZero := by
  unfold total
  dsimp only
  split <;> split <;> simp

theorem KeepsPosting.startTimer (client : posting.client.Kept) (paced : posting.client.Paced)
    (timeStamp : Int) : (posting.startTimer timeStamp).KeepsPosting :=
  ⟨client.start timeStamp interval, paced.start timeStamp (by decide), fun _ => rfl⟩

theorem posted_postEvent (posting : MouseKeyPosting) (inputs : MouseKeyInputs) (timeStamp : Int) :
    (¬posting.Held → (posting.postEvent inputs timeStamp).1.posted = posting.posted) ∧
      (posting.Held →
        (posting.postEvent inputs timeStamp).1.posted.length = posting.posted.length + 1) := by
  unfold postEvent Held
  cases output : posting.output with
  | false => simp
  | true =>
      cases isZero : (total posting.handler).isZero with
      | true => simp [isZero]
      | false => simp [isZero]

/-- What a report changes: the handler and the timer are left as they are. -/
theorem postEvent_cases (posting : MouseKeyPosting) (inputs : MouseKeyInputs) (timeStamp : Int) :
    (posting.postEvent inputs timeStamp).1.client = posting.client ∧
      (posting.postEvent inputs timeStamp).1.handler = posting.handler ∧
      (posting.postEvent inputs timeStamp).1.output = posting.output ∧
      ((posting.postEvent inputs timeStamp).2 = true ↔ posting.Held) := by
  unfold postEvent Held
  cases output : posting.output with
  | false => simp [output]
  | true =>
      cases isZero : (total posting.handler).isZero with
      | true => simp [isZero]
      | false => simp [isZero]

/-- A call of the timer keeps the posting going while a mouse key is held. -/
theorem KeepsPosting.callTimer (keeps : posting.KeepsPosting) (inputs : MouseKeyInputs)
    (timeStamp : Int) : (posting.callTimer inputs timeStamp).KeepsPosting := by
  obtain ⟨sameClient, sameHandler, sameOutput, success⟩ :=
    postEvent_cases posting inputs timeStamp
  have held : (posting.postEvent inputs timeStamp).1.Held ↔ posting.Held := by
    unfold Held
    rw [sameHandler, sameOutput]
  unfold MouseKeyPosting.callTimer
  dsimp only
  split
  · rename_i isPosted
    refine ⟨sameClient ▸ keeps.client, sameClient ▸ keeps.paced, fun _ => ?_⟩
    rw [sameClient]
    exact keeps.enabled (success.mp isPosted)
  · rename_i notPosted
    refine ⟨TimerClient.Kept.stop (sameClient ▸ keeps.client),
      TimerClient.Paced.stop (sameClient ▸ keeps.paced), fun isHeld => ?_⟩
    exact absurd (success.mpr (held.mp isHeld)) notPosted

theorem KeepsPosting.work (keeps : posting.KeepsPosting) (now : Nat) (inputs : MouseKeyInputs) :
    (posting.work now inputs).KeepsPosting := by
  have worked : KeepsPosting { posting with client := (posting.client.work now).1 } :=
    ⟨keeps.client.work now, keeps.paced.work keeps.client now, fun held => by
      rw [TimerClient.enabled_work]
      exact keeps.enabled held⟩
  unfold MouseKeyPosting.work
  dsimp only
  split
  · exact worked.callTimer inputs _
  · exact worked

/-- Every step keeps the posting going while a mouse key is held. -/
theorem KeepsPosting.step (keeps : posting.KeepsPosting) (action : MouseKeyAction) :
    (posting.step action).KeepsPosting := by
  cases action with
  | pushBackMouseKey deviceId mouseKey timeStamp =>
      exact @KeepsPosting.startTimer _ _ { posting with
        handler := posting.handler.pushBackMouseKey deviceId mouseKey
        output := true } keeps.client keeps.paced timeStamp
  | eraseMouseKey deviceId mouseKey timeStamp =>
      exact @KeepsPosting.startTimer _ _ { posting with
        handler := posting.handler.eraseMouseKey deviceId mouseKey
        output := true } keeps.client keeps.paced timeStamp
  | eraseMouseKeysByDeviceId deviceId timeStamp =>
      exact @KeepsPosting.startTimer _ _ { posting with
        handler := posting.handler.eraseMouseKeysByDeviceId deviceId } keeps.client keeps.paced
        timeStamp
  | setSystemPreferencesProperties scrollDirectionIsNatural =>
      refine ⟨keeps.client, keeps.paced, fun held => keeps.enabled ⟨held.1, ?_⟩⟩
      rw [← held.2]
      exact (isZero_total_setDirection posting.handler scrollDirectionIsNatural).symm
  | releaseOutput => exact ⟨keeps.client, keeps.paced, fun held => nomatch held.1⟩
  | work now inputs => exact keeps.work now inputs

theorem keepsPosting_foldl (actions : List MouseKeyAction) :
    (actions.foldl step initial).KeepsPosting := by
  induction actions using List.reverseRecOn with
  | nil => exact keepsPosting_initial
  | append_singleton actions action ih =>
      rw [List.foldl_append]
      exact ih.step action

/-! ## The jobs of the timer -/

/-- A job with the time and the environment that it is done in. -/
def doJob (posting : MouseKeyPosting) (job : Nat × MouseKeyInputs) : MouseKeyPosting :=
  posting.work job.1 job.2

/-- The time of a job has come. -/
def JobDue (posting : MouseKeyPosting) (job : Nat × MouseKeyInputs) : Prop :=
  posting.client.Due job.1

/-- A job leaves what is held, and posts a report when it is a call while something is held. -/
theorem doJob_cases (keeps : posting.KeepsPosting) (job : Nat × MouseKeyInputs)
    (due : posting.JobDue job) :
    ((posting.doJob job).Held ↔ posting.Held) ∧
      ((posting.doJob job).posted = posting.posted ∧
          (posting.doJob job).client.measure < posting.client.measure ∨
        posting.Held ∧ (posting.doJob job).posted.length = posting.posted.length + 1) := by
  unfold doJob MouseKeyPosting.work
  dsimp only
  split
  case h_2 isNone =>
    exact ⟨.rfl, .inl ⟨rfl, TimerClient.measure_work_lt keeps.paced keeps.client due isNone⟩⟩
  case h_1 timeStamp isRun =>
    let worked : MouseKeyPosting := { posting with client := (posting.client.work job.1).1 }
    obtain ⟨sameClient, sameHandler, sameOutput, success⟩ :=
      postEvent_cases worked job.2 timeStamp
    have held : (worked.postEvent job.2 timeStamp).1.Held ↔ posting.Held := by
      unfold Held
      rw [sameHandler, sameOutput]
    obtain ⟨nothing, report⟩ := posted_postEvent worked job.2 timeStamp
    by_cases isHeld : posting.Held
    · have called : worked.callTimer job.2 timeStamp = (worked.postEvent job.2 timeStamp).1 := by
        unfold callTimer
        exact if_pos (success.mpr isHeld)
      change ((worked.callTimer job.2 timeStamp).Held ↔ posting.Held) ∧
        (_ ∨ posting.Held ∧ (worked.callTimer job.2 timeStamp).posted.length = _)
      rw [called]
      exact ⟨held, .inr ⟨isHeld, report isHeld⟩⟩
    · have called : worked.callTimer job.2 timeStamp =
          { (worked.postEvent job.2 timeStamp).1 with client := worked.client.stop } := by
        unfold callTimer
        dsimp only
        rw [if_neg fun posts => isHeld (success.mp posts), sameClient]
      change ((worked.callTimer job.2 timeStamp).Held ↔ posting.Held) ∧
        ((worked.callTimer job.2 timeStamp).posted = _ ∧
          (worked.callTimer job.2 timeStamp).client.measure < _ ∨ _)
      rw [called]
      exact ⟨held, .inl ⟨nothing isHeld, TimerClient.measure_stop_lt due isRun⟩⟩

theorem KeepsPosting.doJob (keeps : posting.KeepsPosting) (job : Nat × MouseKeyInputs) :
    (posting.doJob job).KeepsPosting := keeps.work job.1 job.2

/-- Jobs that are done while nothing is pressed or released, each at its time, post a report or are
not more than the measure. -/
theorem posted_or_length_le (jobs : List (Nat × MouseKeyInputs)) (keeps : posting.KeepsPosting)
    (due : Foundation.Execution.StepsMeet doJob JobDue posting jobs) :
    posting.posted.length < (jobs.foldl doJob posting).posted.length ∨
      (jobs.foldl doJob posting).posted = posting.posted ∧
        jobs.length ≤ posting.client.measure := by
  induction jobs generalizing posting with
  | nil => exact .inr ⟨rfl, Nat.zero_le _⟩
  | cons job jobs ih =>
      obtain ⟨-, ⟨same, less⟩ | ⟨-, more⟩⟩ := doJob_cases keeps job due.1
      · obtain later | ⟨sameLater, few⟩ := ih (keeps.doJob job) due.2
        · exact .inl (same ▸ later)
        · refine .inr ⟨sameLater.trans same, ?_⟩
          rw [List.length_cons]
          omega
      · refine .inl ?_
        rw [List.foldl_cons]
        obtain later | ⟨sameLater, -⟩ := ih (keeps.doJob job) due.2
        · omega
        · rw [sameLater]
          omega

/-- While nothing is held no report is posted. -/
theorem posted_of_not_held (jobs : List (Nat × MouseKeyInputs)) (keeps : posting.KeepsPosting)
    (due : Foundation.Execution.StepsMeet doJob JobDue posting jobs) (released : ¬posting.Held) :
    (jobs.foldl doJob posting).posted = posting.posted := by
  induction jobs generalizing posting with
  | nil => rfl
  | cons job jobs ih =>
      obtain ⟨held, ⟨same, -⟩ | ⟨isHeld, -⟩⟩ := doJob_cases keeps job due.1
      · exact (ih (keeps.doJob job) due.2 (held.not.mpr released)).trans same
      · exact absurd isHeld released

/-- A timer that is on has a job to do. -/
theorem exists_queued_of_held (keeps : posting.KeepsPosting) (held : posting.Held) :
    posting.client.queue ≠ [] := by
  intro isEmpty
  have isOn := keeps.client.enabled_iff.mp (keeps.enabled held)
  have hasFunction : posting.client.timer.function.isSome = true := by
    rwa [isEmpty] at isOn
  have one := keeps.client.armed hasFunction
  rw [isEmpty] at one
  cases one

/-- In every run of presses, releases and jobs: while mouse keys are held that do not come to
nothing, there is a job to do, and the jobs that are done, each at its time, post a report after a
bounded number of them; once the keys come to nothing, no report is posted any more and only a
bounded number of jobs is left to do. -/
theorem posts_iff_held (actions : List MouseKeyAction) :
    let posting := actions.foldl step initial
    (posting.Held → posting.client.queue ≠ []) ∧
      ∀ jobs, Foundation.Execution.StepsMeet doJob JobDue posting jobs →
        (posting.Held → posting.client.measure < jobs.length →
          posting.posted.length < (jobs.foldl doJob posting).posted.length) ∧
        (¬posting.Held → (jobs.foldl doJob posting).posted = posting.posted ∧
          jobs.length ≤ posting.client.measure) := by
  have keeps := keepsPosting_foldl actions
  refine ⟨exists_queued_of_held keeps, fun jobs due => ⟨fun _ many => ?_, fun released => ?_⟩⟩
  · obtain more | ⟨-, few⟩ := posted_or_length_le jobs keeps due
    · exact more
    · exact absurd many (Nat.not_lt_of_le few)
  · have same := posted_of_not_held jobs keeps due released
    obtain more | ⟨-, few⟩ := posted_or_length_le jobs keeps due
    · rw [same] at more
      exact absurd more (Nat.lt_irrefl _)
    · exact ⟨same, few⟩

end MouseKeyPosting

end Karabiner
