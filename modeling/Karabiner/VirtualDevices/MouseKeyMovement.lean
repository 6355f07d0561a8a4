import Karabiner.VirtualDevices.MouseKeyPosting

/-! # The movement of the mouse keys

Each report carries a whole number of counts, and what is left of an amount is carried on to the
next report. While the sum of the keys stays the same, the counts that have been reported are never
a whole count away from what the keys have come to (`MouseKeyMovement.abs_given_sub_lt`).
-/

namespace Karabiner

open Foundation Foundation.CarriedRemainder

variable [HidReportLibrary]

/-- What a report says of an axis. -/
def PointingInput.along (report : PointingInput) : MouseKeyAxis → Int
  | .x => report.x
  | .y => report.y
  | .verticalWheel => report.verticalWheel
  | .horizontalWheel => report.horizontalWheel

/-- The handler, with what the converters have been given since they were reset. -/
structure MouseKeyMovement where
  posting : MouseKeyPosting
  /-- The number of the reports before the reset. -/
  before : Nat
  amounts : List (MouseKeyAxis → Int)

namespace MouseKeyMovement

variable [MouseKeyArithmetic]

def initial : MouseKeyMovement := ⟨.initial, 0, []⟩

/-- The amounts of a job that has posted, after a reset or added to those before. -/
def noteReport (movement : MouseKeyMovement) (inputs : MouseKeyInputs) : MouseKeyMovement :=
  let total := MouseKeyPosting.total movement.posting.handler
  if movement.posting.lastMouseKeyTotal = some total then
    { movement with amounts := movement.amounts ++ [MouseKeyPosting.amount total inputs] }
  else
    { movement with
      before := movement.posting.posted.length
      amounts := [MouseKeyPosting.amount total inputs] }

def step (movement : MouseKeyMovement) (action : MouseKeyAction) : MouseKeyMovement :=
  let next := movement.posting.step action
  match action with
  | .work _ inputs =>
      if movement.posting.posted.length < next.posted.length then
        { movement.noteReport inputs with posting := next }
      else { movement with posting := next }
  | _ => { movement with posting := next }

/-- The counts of an axis in a list of reports. -/
def counts (reports : List (PointingInput × Int)) (axis : MouseKeyAxis) : Int :=
  reports.foldl (fun sum report => sum + report.1.along axis) 0

/-- The counts that have been reported since the reset. -/
def reported (movement : MouseKeyMovement) (axis : MouseKeyAxis) : Int :=
  counts (movement.posting.posted.drop movement.before) axis

/-- What the converter of an axis has been given since the reset. -/
def given (movement : MouseKeyMovement) (axis : MouseKeyAxis) : Int :=
  movement.amounts.foldl (fun sum amount => sum + amount axis) 0

/-- Each amount fits into one report. -/
def Fits (movement : MouseKeyMovement) : MouseKeyAction → Prop
  | .work _ inputs => ∀ axis,
      |MouseKeyPosting.amount (MouseKeyPosting.total movement.posting.handler) inputs axis| ≤
        128 * (127 : Nat)
  | _ => True

/-! ## One step -/

/-- What `update` gives for an axis. -/
def updated (posting : MouseKeyPosting) (inputs : MouseKeyInputs) (axis : MouseKeyAxis) :
    Int × CountConverter :=
  (posting.readyConverters axis).update
    (MouseKeyPosting.amount (MouseKeyPosting.total posting.handler) inputs axis)

/-- A report comes with the converters that made it; nothing else changes them. -/
theorem postEvent_converters (posting : MouseKeyPosting) (inputs : MouseKeyInputs)
    (timeStamp : Int) :
    ((posting.postEvent inputs timeStamp).1.posted = posting.posted ∧
        (posting.postEvent inputs timeStamp).1.converters = posting.converters) ∨
      ∃ report : PointingInput, (∀ axis, report.along axis = (updated posting inputs axis).1) ∧
        (posting.postEvent inputs timeStamp).1.posted = posting.posted ++ [(report, timeStamp)] ∧
        (posting.postEvent inputs timeStamp).1.converters =
          fun axis => (updated posting inputs axis).2 := by
  unfold MouseKeyPosting.postEvent
  dsimp only
  split
  · exact .inl ⟨rfl, rfl⟩
  · split
    · exact .inl ⟨rfl, rfl⟩
    · exact .inr ⟨_, fun axis => by cases axis <;> rfl, rfl, rfl⟩

theorem callTimer_converters (posting : MouseKeyPosting) (inputs : MouseKeyInputs)
    (timeStamp : Int) :
    (posting.callTimer inputs timeStamp).posted = (posting.postEvent inputs timeStamp).1.posted ∧
      (posting.callTimer inputs timeStamp).converters =
        (posting.postEvent inputs timeStamp).1.converters := by
  unfold MouseKeyPosting.callTimer
  dsimp only
  split <;> exact ⟨rfl, rfl⟩

/-- The worker posts nothing and converts nothing, or posts one report of the sums that the
converters have been given. -/
theorem work_converters (posting : MouseKeyPosting) (now : Nat) (inputs : MouseKeyInputs) :
    ((posting.work now inputs).posted = posting.posted ∧
        (posting.work now inputs).converters = posting.converters) ∨
      ∃ (report : PointingInput) (timeStamp : Int),
        (∀ axis, report.along axis = (updated posting inputs axis).1) ∧
        (posting.work now inputs).posted = posting.posted ++ [(report, timeStamp)] ∧
        (posting.work now inputs).converters = fun axis => (updated posting inputs axis).2 := by
  unfold MouseKeyPosting.work
  dsimp only
  split
  · rename_i timeStamp _
    let worked : MouseKeyPosting := { posting with client := (posting.client.work now).1 }
    obtain ⟨samePosted, sameConverters⟩ := callTimer_converters worked inputs timeStamp
    obtain ⟨noReport, unchanged⟩ | ⟨report, made, posted, converters⟩ :=
      postEvent_converters worked inputs timeStamp
    · exact .inl ⟨samePosted.trans noReport, sameConverters.trans unchanged⟩
    · exact .inr ⟨report, timeStamp, made, samePosted.trans posted,
        sameConverters.trans converters⟩
  · exact .inl ⟨rfl, rfl⟩

/-! ## Nothing is lost -/

/-- What every step keeps, as long as the amounts fit. -/
structure Conserves (movement : MouseKeyMovement) : Prop where
  threshold : ∀ axis, (movement.posting.converters axis).threshold = 128
  before_le : movement.before ≤ movement.posting.posted.length
  balanced : ∀ axis, Balanced 128 (movement.reported axis) (movement.given axis)
    (movement.posting.converters axis).count

variable {movement : MouseKeyMovement}

omit [MouseKeyArithmetic] in
theorem conserves_initial : (initial : MouseKeyMovement).Conserves :=
  ⟨fun _ => rfl, le_rfl, fun _ => balanced_zero (by decide)⟩

omit [MouseKeyArithmetic] in
theorem counts_concat (reports : List (PointingInput × Int)) (report : PointingInput × Int)
    (axis : MouseKeyAxis) :
    counts (reports ++ [report]) axis = counts reports axis + report.1.along axis := by
  rw [counts, List.foldl_append]
  rfl

omit [MouseKeyArithmetic] in
theorem given_concat (posting : MouseKeyPosting) (before : Nat)
    (amounts : List (MouseKeyAxis → Int)) (amount : MouseKeyAxis → Int) (axis : MouseKeyAxis) :
    given ⟨posting, before, amounts ++ [amount]⟩ axis =
      given ⟨posting, before, amounts⟩ axis + amount axis := by
  rw [given, List.foldl_append]
  rfl

omit [HidReportLibrary] [MouseKeyArithmetic] in
/-- A converter that is balanced says all of an amount that fits. -/
theorem update_balanced (converter : CountConverter) {reported given amount : Int}
    (threshold : converter.threshold = 128) (balanced : Balanced 128 reported given converter.count)
    (fits : |amount| ≤ 128 * (127 : Nat)) :
    Balanced 128 (reported + (converter.update amount).1) (given + amount)
        (converter.update amount).2.count ∧
      (converter.update amount).2.threshold = 128 := by
  obtain ⟨unit, count, positive⟩ := converter
  obtain rfl : unit = 128 := threshold
  have all : CountConverter.clamp (emit 128 count amount).1 = (emit 128 count amount).1 := by
    obtain ⟨above, below⟩ := abs_le.mp (balanced.abs_emit_le fits)
    rw [CountConverter.clamp, max_eq_left (by exact_mod_cast above),
      min_eq_left (by exact_mod_cast below)]
  rw [CountConverter.update_eq]
  dsimp only
  rw [all]
  exact ⟨balanced.emit amount, rfl⟩

/-- A job that posts. -/
theorem Conserves.report (conserves : movement.Conserves) {now : Nat} {inputs : MouseKeyInputs}
    (fits : movement.Fits (.work now inputs)) {report : PointingInput} {timeStamp : Int}
    {next : MouseKeyPosting}
    (made : ∀ axis, report.along axis = (updated movement.posting inputs axis).1)
    (posted : next.posted = movement.posting.posted ++ [(report, timeStamp)])
    (converters : ∀ axis, next.converters axis = (updated movement.posting inputs axis).2) :
    Conserves { movement.noteReport inputs with posting := next } := by
  unfold noteReport
  dsimp only
  split
  · rename_i same
    let total := MouseKeyPosting.total movement.posting.handler
    have ready (axis : MouseKeyAxis) : updated movement.posting inputs axis =
        (movement.posting.converters axis).update (MouseKeyPosting.amount total inputs axis) := by
      rw [updated, MouseKeyPosting.readyConverters, if_pos same]
    have kept (axis : MouseKeyAxis) := update_balanced _ (conserves.threshold axis)
      (conserves.balanced axis) (fits axis)
    refine ⟨fun axis => ?_, ?_, fun axis => ?_⟩
    · rw [converters, ready]
      exact (kept axis).2
    · rw [posted, List.length_append]
      exact Nat.le_add_right_of_le conserves.before_le
    · rw [reported, posted, List.drop_append_of_le_length conserves.before_le, counts_concat,
        made, converters, ready, given_concat]
      exact (kept axis).1
  · rename_i different
    let total := MouseKeyPosting.total movement.posting.handler
    have ready (axis : MouseKeyAxis) : updated movement.posting inputs axis =
        (movement.posting.converters axis).reset.update
          (MouseKeyPosting.amount total inputs axis) := by
      rw [updated, MouseKeyPosting.readyConverters, if_neg different]
    have kept (axis : MouseKeyAxis) := update_balanced (movement.posting.converters axis).reset
      (conserves.threshold axis) (balanced_zero (by decide)) (fits axis)
    refine ⟨fun axis => ?_, ?_, fun axis => ?_⟩
    · rw [converters, ready]
      exact (kept axis).2
    · rw [posted, List.length_append]
      exact Nat.le_add_right _ _
    · rw [reported, posted, List.drop_left, ← List.nil_append [(report, timeStamp)],
        counts_concat, made, converters, ready, ← List.nil_append [MouseKeyPosting.amount _ _],
        given_concat]
      exact (kept axis).1

omit [MouseKeyArithmetic] in
/-- A step that posts nothing. -/
theorem Conserves.silent (conserves : movement.Conserves) {next : MouseKeyPosting}
    (posted : next.posted = movement.posting.posted)
    (converters : next.converters = movement.posting.converters) :
    Conserves { movement with posting := next } := by
  refine ⟨fun axis => converters ▸ conserves.threshold axis, posted ▸ conserves.before_le,
    fun axis => ?_⟩
  have balanced := conserves.balanced axis
  unfold reported at balanced ⊢
  dsimp only
  rw [posted, converters]
  exact balanced

/-- A step conserves the movement, if the sums that it converts fit into an integer. -/
theorem Conserves.step (conserves : movement.Conserves) (action : MouseKeyAction)
    (fits : movement.Fits action) : (movement.step action).Conserves := by
  cases action with
  | work now inputs =>
      obtain ⟨posted, converters⟩ | ⟨report, timeStamp, made, posted, converters⟩ :=
        work_converters movement.posting now inputs
      · have noReport : ¬movement.posting.posted.length <
            (movement.posting.step (.work now inputs)).posted.length :=
          Nat.not_lt_of_le (congrArg List.length posted).le
        rw [MouseKeyMovement.step, if_neg noReport]
        exact conserves.silent posted converters
      · have isReport : movement.posting.posted.length <
            (movement.posting.step (.work now inputs)).posted.length := by
          rw [MouseKeyPosting.step, posted, List.length_append]
          exact Nat.lt_succ_self _
        rw [MouseKeyMovement.step, if_pos isReport]
        exact conserves.report fits made posted (congrFun converters)
  | pushBackMouseKey _ _ _ => exact conserves.silent rfl rfl
  | eraseMouseKey _ _ _ => exact conserves.silent rfl rfl
  | eraseMouseKeysByDeviceId _ _ => exact conserves.silent rfl rfl
  | setSystemPreferencesProperties _ => exact conserves.silent rfl rfl
  | releaseOutput => exact conserves.silent rfl rfl

/-- In every run in which each amount fits into one report: since the sum of the keys last changed,
128 times the counts that have been reported are less than 128 away from what the keys have come to,
on every axis and however many reports there have been, and the converter has what is missing. -/
theorem abs_given_sub_lt (actions : List MouseKeyAction)
    (fits : Execution.StepsMeet step Fits initial actions) (axis : MouseKeyAxis) :
    let movement := actions.foldl step initial
    |movement.given axis - 128 * movement.reported axis| < 128 ∧
      (movement.posting.converters axis).count =
        movement.given axis - 128 * movement.reported axis := by
  have conserves : Conserves (actions.foldl step initial) :=
    @Execution.invariant_of_stepsMeet _ _ step Conserves Fits
      (fun _ action conserves fits => conserves.step action fits) _ _ conserves_initial fits
  have balanced := conserves.balanced axis
  exact ⟨balanced.abs_sub_lt, eq_sub_of_add_eq' balanced.conserved⟩

/-- `double` where its products are exact. -/
@[reducible] def exactProducts : MouseKeyArithmetic where
  times first second := first * second
  ofPercentage percentage := percentage / 100
  scaled value factors :=
    let product : Rat := factors.foldl (fun product factor => product * factor) value
    product.num.tdiv product.den

/-- A key is held for three reports. -/
def heldKey : List (@MouseKeyAction listReports) :=
  let _ := listReports
  [.pushBackMouseKey 1 ⟨300, -100, 0, 0, 1⟩ 10, .work 20 ⟨[], 100⟩, .work 20 ⟨[], 100⟩,
    .work 20000020 ⟨[], 100⟩, .work 20000020 ⟨[], 100⟩, .work 40000020 ⟨[], 100⟩,
    .work 40000020 ⟨[], 100⟩]

omit [HidReportLibrary] [MouseKeyArithmetic] in
/-- A mouse key is held for some calls of the timer, and the reports are within one unit of the
movement. -/
theorem abs_given_sub_lt_heldKey :
    let _ := listReports
    let _ := exactProducts
    let movement := heldKey.foldl step initial
    movement.given .x = 900 ∧ |movement.given .x - 128 * movement.reported .x| < 128 :=
  let _ := listReports
  let _ := exactProducts
  have fits : Execution.StepsMeet step Fits initial heldKey := by
    refine ⟨trivial, ?_, ?_, ?_, ?_, ?_, ?_, trivial⟩ <;> intro axis <;> cases axis <;>
      decide +kernel
  ⟨by decide +kernel, (abs_given_sub_lt heldKey fits .x).1⟩

end MouseKeyMovement

end Karabiner
