import Karabiner.Grabber.HidValues
import Mathlib.Data.Nat.Bitwise
import Mathlib.Data.List.Chain

/-! # Buttons in padding bits

Some trackballs report buttons in bits that their report descriptor declares as padding. The
bits are found in the descriptor, and read from the reports. The guards of `findConfiguration`
and of `shouldAcceptReport` together keep the reads inside the reports and the numbers of the
buttons apart from the declared ones (`Elecom.Trackball.decodesSafely`).
-/

namespace Karabiner

namespace Elecom

/-! ## The descriptor -/

/-- `report_descriptor::report_type`. -/
inductive ReportType where
  | input
  | output
  | feature
deriving DecidableEq

/-- `report_descriptor::collection`, the members that are read. -/
structure Collection where
  type : UInt8
  usage : Option UsagePair
deriving DecidableEq

/-- `report_descriptor::usage_set`. -/
structure UsageSet where
  usages : List UsagePair
  usageMinimum : Option UsagePair
  usageMaximum : Option UsagePair
deriving DecidableEq

/-- `report_descriptor::report_field`, the members that are read. -/
structure ReportField where
  reportType : ReportType
  reportId : Int
  bitOffset : UInt64
  sizeBits : UInt32
  count : UInt32
  flags : UInt32
  usagePage : UsagePage
  usages : List UsagePair
  usageSets : List UsageSet
  usageMinimum : Option UsagePair
  usageMaximum : Option UsagePair
  logicalMinimum : Int
  logicalMaximum : Int
  collectionPath : List Collection
deriving DecidableEq

namespace ReportFieldFlag

def constant : UInt32 := 1
def variable_ : UInt32 := 2
def relative : UInt32 := 4

end ReportFieldFlag

def ReportField.hasFlag (field : ReportField) (flag : UInt32) : Bool := field.flags &&& flag != 0

namespace Trackball

/-- `trackball::configuration`. -/
structure Configuration where
  reportId : UInt8
  buttonsBitOffset : UInt64
  buttonCount : UInt64
  firstButton : UInt8
deriving DecidableEq

/-- `details::same_collection_path`. -/
def sameCollectionPath (a b : ReportField) : Bool := a.collectionPath == b.collectionPath

/-- The usages `mouse` and `pointer` of the generic desktop page. -/
def mouseUsage : UsagePair := ⟨UsagePage.genericDesktop, 0x02⟩
def pointerUsage : UsagePair := ⟨UsagePage.genericDesktop, 0x01⟩

/-- `details::in_mouse_pointer_collection`. -/
def inMousePointerCollection (field : ReportField) : Bool :=
  match field.collectionPath with
  | first :: second :: _ => first.usage == some mouseUsage && second.usage == some pointerUsage
  | _ => false

/-- `is_target_device`. -/
def isTargetDevice (vendorId productId : Nat) : Bool :=
  vendorId == 0x056e &&
    (productId == 0x00fe || productId == 0x01aa || productId == 0x01ab || productId == 0x01ac)

/-- `std::numeric_limits<uint64_t>::max()`, which is the one of `size_t` too. -/
def uint64Max : UInt64 := 0xffffffffffffffff

/-- The field declares the buttons 1 to 5 of a mouse. -/
def declaresButtons (buttons : ReportField) : Bool :=
  buttons.reportType == .input && !buttons.hasFlag ReportFieldFlag.constant &&
    buttons.hasFlag ReportFieldFlag.variable_ && !buttons.hasFlag ReportFieldFlag.relative &&
    buttons.usagePage == UsagePage.button && buttons.sizeBits == 1 && buttons.count == 5 &&
    buttons.logicalMinimum == 0 && buttons.logicalMaximum == 1 &&
    buttons.usageMinimum == some ⟨UsagePage.button, 1⟩ &&
    buttons.usageMaximum == some ⟨UsagePage.button, 5⟩ &&
    buttons.bitOffset % 8 == 0 && inMousePointerCollection buttons

/-- The field is the padding behind the buttons. -/
def isPaddingOf (padding buttons : ReportField) : Bool :=
  padding.reportType == buttons.reportType && padding.reportId == buttons.reportId &&
    padding.hasFlag ReportFieldFlag.constant && padding.bitOffset == buttons.bitOffset + 5 &&
    padding.usages.isEmpty && padding.usageSets.isEmpty && padding.usageMinimum.isNone &&
    padding.usageMaximum.isNone && sameCollectionPath buttons padding

/-- The loop of `find_configuration` on two fields that follow each other. -/
def configurationOf (buttons padding : ReportField) : Option Configuration :=
  if !declaresButtons buttons then none
  else if !isPaddingOf padding buttons then none
  else
    let reportId := buttons.reportId
    let paddingSizeBits := padding.sizeBits.toUInt64
    let paddingCount := padding.count.toUInt64
    if paddingCount ≠ 0 ∧ paddingSizeBits > uint64Max / paddingCount then none
    else
      let paddingBitCount := paddingSizeBits * paddingCount
      -- The largest usage of the buttons is 5.
      let firstButton : UInt64 :=
        UInt64.ofInt ((buttons.usageMaximum.map UsagePair.usage).getD 0) + 1
      if reportId < 0 ∨ reportId > 255 ∨ paddingBitCount = 0 ∨ paddingBitCount > uint64Max ∨
          firstButton > 255 ∨ paddingBitCount > 255 - firstButton + 1 then none
      else if reportId ≠ 0 ∧ padding.bitOffset > uint64Max - 8 then none
      else
        let buttonsBitOffset :=
          if reportId ≠ 0 then padding.bitOffset + 8 else padding.bitOffset
        if paddingBitCount > uint64Max - buttonsBitOffset then none
        else
          some
            { reportId := UInt8.ofInt reportId
              buttonsBitOffset := buttonsBitOffset
              buttonCount := paddingBitCount
              firstButton := firstButton.toUInt8 }

/-- The first pair of fields that has a configuration. -/
def findInFields : List ReportField → Option Configuration
  | buttons :: padding :: rest =>
      match configurationOf buttons padding with
      | some configuration => some configuration
      | none => findInFields (padding :: rest)
  | _ => none

/-- `find_configuration`, given the fields of the parsed descriptor. -/
def findConfiguration (vendorId productId : Nat) (fields : Option (List ReportField)) :
    Option Configuration :=
  if !isTargetDevice vendorId productId then none
  else fields.bind findInFields

/-! ## The reports -/

/-- `trackball::handler`. -/
structure Handler where
  configuration : Configuration
  lastButtons : List UInt8
deriving DecidableEq

namespace Handler

/-- The constructor. -/
def new (configuration : Configuration) : Handler :=
  ⟨configuration, List.replicate configuration.buttonCount.toNat 0⟩

/-- `should_accept_report`. -/
def shouldAcceptReport (handler : Handler) (reportId : UInt32) (report : List UInt8) : Bool :=
  let configuration := handler.configuration
  if reportId ≠ configuration.reportId.toUInt32 ∨ configuration.buttonCount = 0 ∨
      configuration.buttonCount - 1 > uint64Max - configuration.buttonsBitOffset then false
  else
    let lastBitOffset := configuration.buttonsBitOffset + configuration.buttonCount - 1
    decide ((lastBitOffset / 8).toNat < report.length)

/-- The loop of `handle` on one button. There is no result when a byte or a button is read
that does not exist. -/
def handleButton (report : List UInt8) (timeStamp : Int) (state : Handler × List HidValue)
    (i : Nat) : Option (Handler × List HidValue) :=
  let (handler, result) := state
  let configuration := handler.configuration
  let bitOffset := configuration.buttonsBitOffset + UInt64.ofNat i
  let mask : UInt8 := 1 <<< (bitOffset % 8).toUInt8
  match report[(bitOffset / 8).toNat]?, handler.lastButtons[i]? with
  | some byte, some last =>
      let pressed := byte &&& mask != 0
      let values : List HidValue :=
        if pressed != (last != 0) then
          [{ timeStamp := timeStamp
             integerValue := if pressed then 1 else 0
             usagePage := some UsagePage.button
             usage := some
              (configuration.firstButton.toUInt64 + UInt64.ofNat i).toUInt8.toNat }]
        else []
      some ({ handler with lastButtons := handler.lastButtons.set i (if pressed then 1 else 0) },
        result ++ values)
  | _, _ => none

/-- `handle`. -/
def handle (handler : Handler) (report : List UInt8) (timeStamp : Int) :
    Option (Handler × List HidValue) :=
  (List.range handler.configuration.buttonCount.toNat).foldlM (handleButton report timeStamp)
    (handler, [])

/-- `reset`. -/
def reset (handler : Handler) : Handler :=
  { handler with lastButtons := handler.lastButtons.map fun _ => 0 }

end Handler

/-! ## The guards -/

/-- What the guards of `find_configuration` leave: up to 250 buttons behind the declared ones,
at bits whose numbers do not wrap. -/
structure Configuration.Safe (configuration : Configuration) : Prop where
  first : configuration.firstButton = 6
  positive : 0 < configuration.buttonCount.toNat
  few : configuration.buttonCount.toNat ≤ 250
  fits : configuration.buttonsBitOffset.toNat + configuration.buttonCount.toNat < 2 ^ 64

theorem usageMaximum_of_declaresButtons {buttons : ReportField}
    (declares : declaresButtons buttons = true) :
    buttons.usageMaximum = some ⟨UsagePage.button, 5⟩ := by
  unfold declaresButtons at declares
  simp only [Bool.and_eq_true, beq_iff_eq] at declares
  obtain ⟨⟨⟨_, isMaximum⟩, _⟩, _⟩ := declares
  exact isMaximum

/-- A configuration that is found in the fields reads within the report. -/
theorem safe_of_configurationOf {buttons padding : ReportField} {configuration : Configuration}
    (found : configurationOf buttons padding = some configuration) : configuration.Safe := by
  unfold configurationOf at found
  split at found
  · cases found
  rename_i declares
  split at found
  · cases found
  dsimp only at found
  split at found
  · cases found
  split at found
  · cases found
  rename_i inRange
  split at found
  · cases found
  generalize (if buttons.reportId ≠ 0 then padding.bitOffset + 8 else padding.bitOffset) =
    offset at found
  split at found
  · cases found
  rename_i fits
  have isMaximum := usageMaximum_of_declaresButtons (by simpa using declares)
  rw [isMaximum] at inRange found
  generalize padding.sizeBits.toUInt64 * padding.count.toUInt64 = bits at inRange fits found
  simp only [not_or, Option.map_some, Option.getD_some] at inRange
  obtain ⟨_, _, some, _, _, few⟩ := inRange
  have limit : (255 - (UInt64.ofInt 5 + 1) + 1 : UInt64) = 250 := by decide
  rw [limit] at few
  have fitsNat := UInt64.le_iff_toNat_le.mp (UInt64.not_lt.mp fits)
  have offsetLe : offset ≤ uint64Max :=
    UInt64.le_iff_toNat_le.mpr (Nat.le_of_lt_succ offset.toNat_lt)
  rw [UInt64.toNat_sub_of_le _ _ offsetLe] at fitsNat
  have offsetNat := UInt64.le_iff_toNat_le.mp offsetLe
  have isMax : uint64Max.toNat = 2 ^ 64 - 1 := rfl
  rw [isMax] at fitsNat offsetNat
  rw [← Option.some.inj found]
  constructor
  · exact (by decide : (UInt64.ofInt 5 + 1).toUInt8 = 6)
  · exact Nat.pos_of_ne_zero fun isZero => some (UInt64.toNat_inj.mp isZero)
  · exact UInt64.le_iff_toNat_le.mp (UInt64.not_lt.mp few)
  · dsimp only
    omega

/-- The first two neighbors that make a configuration are found. -/
theorem findInFields_cons (buttons padding : ReportField) (rest : List ReportField) :
    findInFields (buttons :: padding :: rest) =
      (configurationOf buttons padding).or (findInFields (padding :: rest)) := by
  change (match configurationOf buttons padding with
    | some configuration => some configuration
    | none => findInFields (padding :: rest)) = _
  cases configurationOf buttons padding <;> rfl

/-- Whatever device and fields it is looked up for, a configuration reads within the report. -/
theorem safe_of_findConfiguration {vendorId productId : Nat} {fields : Option (List ReportField)}
    {configuration : Configuration}
    (found : findConfiguration vendorId productId fields = some configuration) :
    configuration.Safe := by
  have inFields : ∀ fields : List ReportField, findInFields fields = some configuration →
      configuration.Safe := by
    intro fields isFound
    induction fields with
    | nil => cases isFound
    | cons buttons rest ih =>
        cases rest with
        | nil => cases isFound
        | cons padding rest =>
            rw [findInFields_cons] at isFound
            cases isFirst : configurationOf buttons padding with
            | some first =>
                rw [isFirst] at isFound
                exact safe_of_configurationOf (Option.some.inj isFound ▸ isFirst)
            | none =>
                rw [isFirst] at isFound
                exact ih isFound
  unfold findConfiguration at found
  split at found
  · cases found
  · obtain ⟨list, _, isFound⟩ := Option.bind_eq_some_iff.mp found
    exact inFields list isFound

/-! ## The reads -/

/-- A bit of a report. -/
def bitAt (report : List UInt8) (number : Nat) : Bool :=
  report[number / 8]?.any fun byte => byte.toNat.testBit (number % 8)

/-- The number of the bit of a button. -/
def Configuration.bitOffset (configuration : Configuration) (i : Nat) : Nat :=
  configuration.buttonsBitOffset.toNat + i

/-- The usage of a button, as it is computed for the emitted values. -/
def Configuration.buttonUsage (configuration : Configuration) (i : Nat) : Usage :=
  (configuration.firstButton.toUInt64 + UInt64.ofNat i).toUInt8.toNat

section

variable {configuration : Configuration} {i : Nat}

theorem toNat_ofNat_button (safe : configuration.Safe)
    (isButton : i < configuration.buttonCount.toNat) : (UInt64.ofNat i).toNat = i := by
  have few := safe.few
  rw [UInt64.toNat_ofNat']
  exact Nat.mod_eq_of_lt (by omega)

theorem toNat_bitOffset (safe : configuration.Safe)
    (isButton : i < configuration.buttonCount.toNat) :
    (configuration.buttonsBitOffset + UInt64.ofNat i).toNat = configuration.bitOffset i := by
  have fits := safe.fits
  rw [UInt64.toNat_add, toNat_ofNat_button safe isButton, Configuration.bitOffset]
  exact Nat.mod_eq_of_lt (by omega)

/-- The numbers of the buttons follow each other from 6. -/
theorem buttonUsage_eq (safe : configuration.Safe)
    (isButton : i < configuration.buttonCount.toNat) :
    configuration.buttonUsage i = 6 + (i : Int) := by
  have few := safe.few
  unfold Configuration.buttonUsage
  have noWrap : (6 + i) % 2 ^ 64 % 2 ^ 8 = 6 + i := by omega
  have isSix : (6 : UInt8).toUInt64.toNat = 6 := rfl
  rw [safe.first, UInt64.toNat_toUInt8, UInt64.toNat_add, toNat_ofNat_button safe isButton, isSix,
    noWrap]
  rfl

/-- An accepted report has the bytes of all buttons. -/
theorem lt_length_of_shouldAcceptReport {handler : Handler}
    (safe : handler.configuration.Safe) {reportId : UInt32} {report : List UInt8}
    (accepts : handler.shouldAcceptReport reportId report = true)
    (isButton : i < handler.configuration.buttonCount.toNat) :
    handler.configuration.bitOffset i / 8 < report.length := by
  have fits := safe.fits
  unfold Handler.shouldAcceptReport at accepts
  dsimp only at accepts
  split at accepts
  · cases accepts
  · rename_i guards
    have inside := of_decide_eq_true accepts
    have positive := safe.positive
    have noWrap : (handler.configuration.buttonsBitOffset + handler.configuration.buttonCount -
        1).toNat = handler.configuration.buttonsBitOffset.toNat +
          handler.configuration.buttonCount.toNat - 1 := by
      have sum : (handler.configuration.buttonsBitOffset +
          handler.configuration.buttonCount).toNat =
            handler.configuration.buttonsBitOffset.toNat +
              handler.configuration.buttonCount.toNat := by
        rw [UInt64.toNat_add]
        exact Nat.mod_eq_of_lt fits
      have one : (1 : UInt64) ≤ handler.configuration.buttonsBitOffset +
          handler.configuration.buttonCount := by
        rw [UInt64.le_iff_toNat_le, sum]
        exact positive.trans_le (Nat.le_add_left _ _)
      rw [UInt64.toNat_sub_of_le _ _ one, sum]
      rfl
    rw [UInt64.toNat_div, noWrap] at inside
    refine lt_of_le_of_lt (Nat.div_le_div_right ?_) inside
    unfold Configuration.bitOffset
    omega

/-- The mask takes a bit of a byte. -/
theorem and_mask_ne_zero (byte : UInt8) (number : UInt64) :
    (byte &&& 1 <<< (number % 8).toUInt8 != 0) = byte.toNat.testBit (number.toNat % 8) := by
  have small : number.toNat % 8 < 8 := Nat.mod_lt _ (by decide)
  have shift : (number % 8).toUInt8.toNat = number.toNat % 8 := by
    have eight : (8 : UInt64).toNat = 8 := rfl
    rw [UInt64.toNat_toUInt8, UInt64.toNat_mod, eight]
    omega
  have mask : (1 <<< (number % 8).toUInt8 : UInt8).toNat = 2 ^ (number.toNat % 8) := by
    have isSmall : 2 ^ (number.toNat % 8) < 2 ^ 8 := Nat.pow_lt_pow_right (by decide) small
    have one : (1 : UInt8).toNat = 1 := rfl
    rw [UInt8.toNat_shiftLeft, shift, Nat.mod_eq_of_lt small, one, Nat.shiftLeft_eq, Nat.one_mul]
    exact Nat.mod_eq_of_lt isSmall
  have isZero : byte &&& 1 <<< (number % 8).toUInt8 = 0 ↔
      byte.toNat.testBit (number.toNat % 8) = false := by
    rw [← UInt8.toNat_inj, UInt8.toNat_and, mask, Nat.and_two_pow]
    cases byte.toNat.testBit (number.toNat % 8) with
    | false => simp
    | true => simp
  cases isBit : byte.toNat.testBit (number.toNat % 8) with
  | false => rw [isZero.mpr isBit]; rfl
  | true =>
      refine bne_iff_ne.mpr fun isNone => ?_
      rw [isZero.mp isNone] at isBit
      cases isBit

/-- The handler of which the buttons were pressed in the last report. -/
def Handler.ofPressed (configuration : Configuration) (pressed : Nat → Bool) : Handler where
  configuration := configuration
  lastButtons := (List.range configuration.buttonCount.toNat).map fun i =>
    if pressed i then 1 else 0

/-- The value that a button emits when it changes. -/
def emits (configuration : Configuration) (timeStamp : Int) (i : Nat) (last pressed : Bool) :
    List HidValue :=
  if pressed != last then
    [⟨timeStamp, if pressed then 1 else 0, some UsagePage.button,
      some (configuration.buttonUsage i)⟩]
  else []

theorem Handler.new_eq (configuration : Configuration) :
    Handler.new configuration = .ofPressed configuration fun _ => false := by
  simp [Handler.new, Handler.ofPressed]

theorem Handler.reset_ofPressed (configuration : Configuration) (pressed : Nat → Bool) :
    (Handler.ofPressed configuration pressed).reset = .ofPressed configuration fun _ => false := by
  simp [Handler.reset, Handler.ofPressed, Function.comp_def]

theorem Handler.ofPressed_congr (configuration : Configuration) {first second : Nat → Bool}
    (same : ∀ i < configuration.buttonCount.toNat, first i = second i) :
    Handler.ofPressed configuration first = .ofPressed configuration second := by
  unfold Handler.ofPressed
  congr 1
  refine List.map_congr_left fun i member => ?_
  rw [same i (List.mem_range.mp member)]

/-- A button of an accepted report is read, and emits a value when it changes. -/
theorem handleButton_eq (safe : configuration.Safe) {report : List UInt8}
    (isButton : i < configuration.buttonCount.toNat)
    (inside : configuration.bitOffset i / 8 < report.length) (timeStamp : Int)
    (pressed : Nat → Bool) (result : List HidValue) :
    Handler.handleButton report timeStamp (.ofPressed configuration pressed, result) i =
      some (.ofPressed configuration
          (Function.update pressed i (bitAt report (configuration.bitOffset i))),
        result ++ emits configuration timeStamp i (pressed i)
          (bitAt report (configuration.bitOffset i))) := by
  have index : ((configuration.buttonsBitOffset + UInt64.ofNat i) / 8).toNat =
      configuration.bitOffset i / 8 := by
    rw [UInt64.toNat_div, toNat_bitOffset safe isButton]
    rfl
  have byte : report[configuration.bitOffset i / 8]? =
      some report[configuration.bitOffset i / 8] := List.getElem?_eq_getElem inside
  have isBit := and_mask_ne_zero report[configuration.bitOffset i / 8]
    (configuration.buttonsBitOffset + UInt64.ofNat i)
  rw [toNat_bitOffset safe isButton] at isBit
  have bit : bitAt report (configuration.bitOffset i) =
      report[configuration.bitOffset i / 8].toNat.testBit (configuration.bitOffset i % 8) := by
    unfold bitAt
    rw [byte]
    rfl
  have last : (Handler.ofPressed configuration pressed).lastButtons[i]? =
      some (if pressed i then 1 else 0) := by
    simp [Handler.ofPressed, isButton]
  have wasPressed : ((if pressed i then 1 else 0 : UInt8) != 0) = pressed i := by
    cases pressed i with
    | false => rfl
    | true => rfl
  have set : (Handler.ofPressed configuration pressed).lastButtons.set i
      (if bitAt report (configuration.bitOffset i) then 1 else 0) =
        (Handler.ofPressed configuration (Function.update pressed i
          (bitAt report (configuration.bitOffset i)))).lastButtons := by
    unfold Handler.ofPressed
    refine List.ext_getElem ?_ fun j _ isBelow => ?_
    · rw [List.length_set, List.length_map, List.length_map]
    rw [List.getElem_set, List.getElem_map, List.getElem_map, List.getElem_range]
    split
    · rename_i same
      rw [← same, Function.update_self]
    · rename_i different
      rw [Function.update_of_ne (Ne.symm different)]
  unfold Handler.handleButton
  dsimp only
  rw [show (Handler.ofPressed configuration pressed).configuration = configuration from rfl, index,
    byte, last]
  dsimp only
  rw [isBit, ← bit, wasPressed]
  rw [set]
  rfl

/-- An accepted report is read, and each button that changes emits a value. -/
theorem handle_eq (safe : configuration.Safe) {report : List UInt8}
    (inside : ∀ i < configuration.buttonCount.toNat,
      configuration.bitOffset i / 8 < report.length) (timeStamp : Int) (pressed : Nat → Bool) :
    (Handler.ofPressed configuration pressed).handle report timeStamp =
      some (.ofPressed configuration fun i => bitAt report (configuration.bitOffset i),
        (List.range configuration.buttonCount.toNat).flatMap fun i =>
          emits configuration timeStamp i (pressed i)
            (bitAt report (configuration.bitOffset i))) := by
  have loop : ∀ n ≤ configuration.buttonCount.toNat,
      (List.range n).foldlM (Handler.handleButton report timeStamp)
          (.ofPressed configuration pressed, []) =
        some (.ofPressed configuration fun i =>
            if i < n then bitAt report (configuration.bitOffset i) else pressed i,
          (List.range n).flatMap fun i => emits configuration timeStamp i (pressed i)
            (bitAt report (configuration.bitOffset i))) := by
    intro n
    induction n with
    | zero => exact fun _ => rfl
    | succ n ih =>
        intro most
        rw [List.range_succ, List.foldlM_append, ih (Nat.le_of_succ_le most), List.flatMap_append,
          List.flatMap_singleton]
        simp only [Option.bind_eq_bind, Option.bind_some, List.foldlM_cons, List.foldlM_nil,
          handleButton_eq safe most (inside n most), Option.pure_def, lt_irrefl, if_false]
        refine congrArg some (Prod.ext (Handler.ofPressed_congr _ fun i _ => ?_) rfl)
        by_cases same : i = n
        · rw [same, Function.update_self, if_pos (Nat.lt_succ_self n)]
        · rw [Function.update_of_ne same]
          have below : i < n ↔ i < n + 1 := by omega
          simp only [below]
  refine (loop _ le_rfl).trans ?_
  refine congrArg some (Prod.ext (Handler.ofPressed_congr _ fun i isButton => ?_) rfl)
  exact if_pos isButton

end

/-! ## The runs -/

/-- What reaches a handler. -/
inductive Action where
  | report (reportId : UInt32) (report : List UInt8) (timeStamp : Int)
  | reset

/-- A handler, with what it has emitted since it was reset and the last accepted report. -/
structure Running where
  handler : Handler
  emitted : List HidValue
  last : Option (List UInt8)

namespace Running

def start (configuration : Configuration) : Running := ⟨.new configuration, [], none⟩

/-- A report that is not accepted is not handled. -/
def step (running : Running) : Action → Option Running
  | .report reportId report timeStamp =>
      if running.handler.shouldAcceptReport reportId report then
        (running.handler.handle report timeStamp).map fun result =>
          ⟨result.1, running.emitted ++ result.2, some report⟩
      else some running
  | .reset => some ⟨running.handler.reset, [], none⟩

/-- The bit of a button in the last report. -/
def pressed (running : Running) (configuration : Configuration) (i : Nat) : Bool :=
  running.last.any fun report => bitAt report (configuration.bitOffset i)

/-- What a button has emitted. -/
def valuesOf (running : Running) (configuration : Configuration) (i : Nat) : List Int :=
  (running.emitted.filter fun value =>
    decide (value.usage = some (configuration.buttonUsage i))).map HidValue.integerValue

/-- The values are ones and zeros in turn, from a one on. -/
def Alternates (values : List Int) : Prop := (0 :: values).IsChain fun a b => b = 1 - a

/-- The invariant of a run: the handler has the bits of the last report, and what each button
has emitted alternates up to its bit. -/
structure Decodes (configuration : Configuration) (running : Running) : Prop where
  handler : running.handler = .ofPressed configuration (running.pressed configuration)
  usages : ∀ value ∈ running.emitted, value.usagePage = some UsagePage.button ∧
    ∃ i < configuration.buttonCount.toNat, value.usage = some (configuration.buttonUsage i)
  values : ∀ i < configuration.buttonCount.toNat,
    Alternates (running.valuesOf configuration i) ∧
    (running.valuesOf configuration i).getLast?.getD 0 =
      if running.pressed configuration i then 1 else 0

end Running

/-- Only its own values are those of a button. -/
theorem filter_emits {configuration : Configuration} (safe : configuration.Safe) {i : Nat}
    (isButton : i < configuration.buttonCount.toNat) (timeStamp : Int) (last pressed : Nat → Bool)
    {n : Nat} (most : n ≤ configuration.buttonCount.toNat) :
    (((List.range n).flatMap fun j =>
        emits configuration timeStamp j (last j) (pressed j)).filter fun value =>
          decide (value.usage = some (configuration.buttonUsage i))) =
      if i < n then emits configuration timeStamp i (last i) (pressed i) else [] := by
  induction n with
  | zero => rfl
  | succ n ih =>
      have own : (emits configuration timeStamp n (last n) (pressed n)).filter (fun value =>
          decide (value.usage = some (configuration.buttonUsage i))) =
            if n = i then emits configuration timeStamp n (last n) (pressed n) else [] := by
        have usages : configuration.buttonUsage n = configuration.buttonUsage i ↔ n = i := by
          rw [buttonUsage_eq safe most, buttonUsage_eq safe isButton]
          change 6 + (n : Int) = 6 + (i : Int) ↔ n = i
          omega
        unfold emits
        split
        · by_cases same : n = i
          · simp [same]
          · simp [usages, same]
        · simp
      rw [List.range_succ, List.flatMap_append, List.flatMap_singleton, List.filter_append,
        ih (Nat.le_of_succ_le most), own]
      by_cases same : n = i
      · rw [if_neg (show ¬i < n by omega), if_pos same, if_pos (show i < n + 1 by omega), same,
          List.nil_append]
      · rw [if_neg same, List.append_nil]
        have below : i < n ↔ i < n + 1 := by omega
        simp only [below]

/-- A value that is emitted continues the values of the button. -/
theorem Running.Alternates.append {values : List Int} (alternates : Running.Alternates values)
    {last pressed : Bool} (isLast : values.getLast?.getD 0 = if last then 1 else 0)
    (configuration : Configuration) (timeStamp : Int) (i : Nat) :
    Running.Alternates (values ++ (emits configuration timeStamp i last pressed).map
        HidValue.integerValue) ∧
      (values ++ (emits configuration timeStamp i last pressed).map
        HidValue.integerValue).getLast?.getD 0 = if pressed then 1 else 0 := by
  unfold emits
  split
  · rename_i changed
    rw [List.map_singleton]
    refine ⟨?_, by rw [List.getLast?_concat]; rfl⟩
    change (0 :: (values ++ [_])).IsChain _
    rw [← List.cons_append, List.isChain_append]
    refine ⟨alternates, List.isChain_singleton _, ?_⟩
    intro x isEnd y isNew
    rw [List.getLast?_cons, isLast] at isEnd
    rw [← Option.some.inj isEnd, ← Option.some.inj isNew]
    cases last with
    | false =>
        cases pressed with
        | false => cases changed
        | true => rfl
    | true =>
        cases pressed with
        | false => rfl
        | true => cases changed
  · rename_i unchanged
    rw [List.map_nil, List.append_nil]
    refine ⟨alternates, ?_⟩
    have same : pressed = last := by
      cases last with
      | false =>
          cases pressed with
          | false => rfl
          | true => exact absurd rfl unchanged
      | true =>
          cases pressed with
          | false => exact absurd rfl unchanged
          | true => rfl
    rw [same]
    exact isLast

/-- Every action can be taken, and keeps the invariant. -/
theorem Running.Decodes.step {configuration : Configuration} (safe : configuration.Safe)
    {running : Running} (decodes : Running.Decodes configuration running) (action : Action) :
    ∃ next, running.step action = some next ∧ Running.Decodes configuration next := by
  have isConfiguration : running.handler.configuration = configuration := by
    rw [decodes.handler]
    rfl
  cases action with
  | reset =>
      refine ⟨_, rfl, ?_, fun _ none => absurd none List.not_mem_nil, fun i _ => ?_⟩
      · change running.handler.reset = _
        rw [decodes.handler]
        exact Handler.reset_ofPressed _ _
      · exact ⟨List.isChain_singleton _, rfl⟩
  | report reportId report timeStamp =>
      unfold Running.step
      dsimp only
      split
      · rename_i accepts
        have inside : ∀ i < configuration.buttonCount.toNat,
            configuration.bitOffset i / 8 < report.length := by
          intro i isButton
          have isInside := lt_length_of_shouldAcceptReport (isConfiguration ▸ safe) accepts
            (isConfiguration ▸ isButton)
          rwa [isConfiguration] at isInside
        rw [decodes.handler, handle_eq safe inside, Option.map_some]
        refine ⟨_, rfl, rfl, ?_, fun i isButton => ?_⟩
        · refine List.forall_mem_append.mpr ⟨decodes.usages, fun value member => ?_⟩
          obtain ⟨i, isBelow, isEmitted⟩ := List.mem_flatMap.mp member
          unfold emits at isEmitted
          split at isEmitted
          · rw [List.mem_singleton.mp isEmitted]
            exact ⟨rfl, i, List.mem_range.mp isBelow, rfl⟩
          · cases isEmitted
        · obtain ⟨alternates, isLast⟩ := decodes.values i isButton
          have after := @Running.Alternates.append _ alternates _
            (bitAt report (configuration.bitOffset i)) isLast configuration timeStamp i
          have own := filter_emits safe isButton timeStamp (running.pressed configuration)
            (fun i => bitAt report (configuration.bitOffset i)) le_rfl
          rw [if_pos isButton] at own
          unfold Running.valuesOf at after ⊢
          rw [List.filter_append, List.map_append, own]
          exact after
      · exact ⟨running, rfl, decodes⟩

/-- The buttons of a configuration that is found are decoded safely in every run: nothing is
read outside of an accepted report, the usages of the buttons are distinct and none of them is
one of the declared buttons, and each button emits ones and zeros in turn up to its bit in the
last report. -/
theorem decodesSafely {vendorId productId : Nat} {fields : Option (List ReportField)}
    {configuration : Configuration}
    (found : findConfiguration vendorId productId fields = some configuration)
    (actions : List Action) :
    (∀ i < configuration.buttonCount.toNat,
        6 ≤ configuration.buttonUsage i ∧ configuration.buttonUsage i ≤ 255 ∧
          ∀ j < configuration.buttonCount.toNat,
            configuration.buttonUsage i = configuration.buttonUsage j → i = j) ∧
      ∃ running, actions.foldlM Running.step (.start configuration) = some running ∧
        (∀ value ∈ running.emitted, value.usagePage = some UsagePage.button ∧
          ∃ i < configuration.buttonCount.toNat,
            value.usage = some (configuration.buttonUsage i)) ∧
        ∀ i < configuration.buttonCount.toNat,
          Running.Alternates (running.valuesOf configuration i) ∧
          (running.valuesOf configuration i).getLast?.getD 0 =
            if running.pressed configuration i then 1 else 0 := by
  have safe := safe_of_findConfiguration found
  have few := safe.few
  refine ⟨fun i isButton => ?_, ?_⟩
  · rw [buttonUsage_eq safe isButton]
    have low : (6 : Int) ≤ 6 + (i : Int) := by omega
    have high : 6 + (i : Int) ≤ 255 := by omega
    refine ⟨low, high, fun j isOther same => ?_⟩
    rw [buttonUsage_eq safe isOther] at same
    have equal : 6 + (i : Int) = 6 + (j : Int) := same
    omega
  · have run : ∀ running, Running.Decodes configuration running → ∃ final,
        actions.foldlM Running.step running = some final ∧
          Running.Decodes configuration final := by
      induction actions with
      | nil => exact fun running decodes => ⟨running, rfl, decodes⟩
      | cons action rest ih =>
          intro running decodes
          obtain ⟨next, isNext, decodesNext⟩ := decodes.step safe action
          obtain ⟨final, isFinal, decodesFinal⟩ := ih next decodesNext
          refine ⟨final, ?_, decodesFinal⟩
          rw [List.foldlM_cons, isNext]
          exact isFinal
    obtain ⟨final, isFinal, decodes⟩ := run (.start configuration)
      ⟨Handler.new_eq configuration, fun _ none => absurd none List.not_mem_nil,
        fun i _ => ⟨List.isChain_singleton _, rfl⟩⟩
    exact ⟨final, isFinal, decodes.usages, decodes.values⟩

/-- The fields of a trackball with eight buttons: five declared ones and three in the padding. -/
def hugeFields : List ReportField :=
  [{ reportType := .input, reportId := 1, bitOffset := 0, sizeBits := 1, count := 5, flags := 2
     usagePage := UsagePage.button, usages := [], usageSets := []
     usageMinimum := some ⟨UsagePage.button, 1⟩, usageMaximum := some ⟨UsagePage.button, 5⟩
     logicalMinimum := 0, logicalMaximum := 1
     collectionPath := [⟨1, some mouseUsage⟩, ⟨0, some pointerUsage⟩] },
    { reportType := .input, reportId := 1, bitOffset := 5, sizeBits := 3, count := 1, flags := 1
      usagePage := UsagePage.button, usages := [], usageSets := []
      usageMinimum := none, usageMaximum := none
      logicalMinimum := 0, logicalMaximum := 1
      collectionPath := [⟨1, some mouseUsage⟩, ⟨0, some pointerUsage⟩] }]

/-- The first button behind the declared ones is pressed. -/
theorem decodesSafely_huge :
    6 ≤ (⟨1, 13, 3, 6⟩ : Configuration).buttonUsage 0 ∧
      ∃ running, [Action.report 1 [1, 0x20] 10].foldlM Running.step (.start ⟨1, 13, 3, 6⟩) =
        some running := by
  have found : findConfiguration 0x056e 0x01aa (some hugeFields) = some ⟨1, 13, 3, 6⟩ := by
    decide
  obtain ⟨usages, running, isRunning, _⟩ := decodesSafely found [.report 1 [1, 0x20] 10]
  exact ⟨(usages 0 (by decide)).1, running, isRunning⟩

end Trackball

end Elecom

end Karabiner
