import Karabiner.Configuration.DeviceIdentifiers
import Karabiner.Configuration.JsonHelper

/-! # Identifiers in JSON

Identifiers are written over the JSON they were read from: a known key has the value of the
identifiers, or is erased when the value is that of no device. What is written is read as the
same identifiers.
-/

namespace Karabiner

namespace DeviceIdentifiers

/-- A number that is not zero. -/
def writtenNumber (value : Nat) : Option Json := if value ≠ 0 then some (.unsigned value) else none

/-- A flag that is set. -/
def writtenFlag (value : Bool) : Option Json :=
  if value ≠ false then some (.boolean value) else none

/-- A string that is not empty. -/
def writtenString (value : String) : Option Json :=
  if value ≠ "" then some (.string value) else none

/-- `to_json`, which starts with the JSON that the identifiers were read from. -/
def updateJson (identifiers : DeviceIdentifiers) (members : Members) : Members :=
  members
    |>.put "vendor_id" (writtenNumber identifiers.vendorId)
    |>.put "product_id" (writtenNumber identifiers.productId)
    |>.put "is_keyboard" (writtenFlag identifiers.isKeyboard)
    |>.put "is_pointing_device" (writtenFlag identifiers.isPointingDevice)
    |>.put "is_game_pad" (writtenFlag identifiers.isGamePad)
    |>.put "is_consumer" (writtenFlag identifiers.isConsumer)
    |>.put "is_virtual_device" (writtenFlag identifiers.isVirtualDevice)
    |>.put "device_address" (writtenString identifiers.deviceAddress)

def toJson (identifiers : DeviceIdentifiers) : Json :=
  .object (identifiers.updateJson identifiers.json.items)

/-! ## Reading what was written -/

/-- The keys that `device_identifiers` knows. -/
def knownKeys : List String :=
  ["vendor_id", "product_id", "is_keyboard", "is_pointing_device", "is_game_pad", "is_consumer",
    "is_virtual_device", "device_address"]

/-- The members of other keys. -/
def othersOf (keys : List String) (members : Members) : Members :=
  members.filter fun member => decide (member.1 ∉ keys)

/-- A member that was put is read after those of the keys that are not put later. -/
theorem foldlM_othersOf_put {keys : List String} {key : String} (first : key ∉ keys)
    (members : Members) (value : Option Json) (start : DeviceIdentifiers) :
    (othersOf keys (members.put key value)).foldlM readMember start = (do
      let before ← (othersOf (key :: keys) members).foldlM readMember start
      (value.map fun json => (key, json)).toList.foldlM readMember before) := by
  have split : othersOf keys (members.put key value) =
      othersOf (key :: keys) members ++ (value.map fun json => (key, json)).toList := by
    rw [othersOf, Members.put, List.filter_append, List.filter_filter]
    congr 1
    · refine List.filter_congr fun member _ => ?_
      rw [Bool.and_comm, Bool.eq_iff_iff]
      simp [List.mem_cons, not_or]
    · cases value <;> simp [first]
  rw [split, List.foldlM_append]

theorem readMember_of_unknown {member : String × Json} (unknown : member.1 ∉ knownKeys)
    (start : DeviceIdentifiers) : readMember start member = .ok start := by
  obtain ⟨key, json⟩ := member
  simp only [knownKeys, List.mem_cons, List.not_mem_nil, or_false, not_or] at unknown
  obtain ⟨vendor, product, keyboard, pointing, gamePad, consumer, virtual, address⟩ := unknown
  simp only [readMember]
  rfl

theorem foldlM_unknown (members : Members) (start : DeviceIdentifiers) :
    (othersOf knownKeys members).foldlM readMember start = .ok start := by
  have unknown : ∀ member ∈ othersOf knownKeys members, member.1 ∉ knownKeys :=
    fun member isMember => of_decide_eq_true (List.mem_filter.mp isMember).2
  generalize othersOf knownKeys members = others at unknown
  induction others with
  | nil => rfl
  | cons member rest ih =>
      obtain ⟨first, later⟩ := List.forall_mem_cons.mp unknown
      rw [List.foldlM_cons, readMember_of_unknown first]
      exact ih later

theorem othersOf_nil (members : Members) : othersOf [] members = members := by
  simp [othersOf]

/-- A value that is written or left out is read as the value, when what is left out is read so. -/
theorem foldlM_written {T : Type} [DecidableEq T] {key : String} {value absent : T} {json : Json}
    {start after : DeviceIdentifiers} (isAbsent : value = absent → after = start)
    (isRead : readMember start (key, json) = .ok after) :
    ((if value ≠ absent then some json else none).map fun json =>
      (key, json)).toList.foldlM readMember start = .ok after := by
  split
  · rw [Option.map_some, Option.toList_some, List.foldlM_cons, isRead]
    rfl
  · rename_i notWritten
    rw [isAbsent (not_not.mp notWritten)]
    rfl

theorem ok_bind {ε α β : Type} (value : α) (next : α → Except ε β) :
    (Except.ok value >>= next) = next value := rfl

theorem foldlM_writtenNumber {key : String} (set : DeviceIdentifiers → Nat → DeviceIdentifiers)
    (isRead : ∀ start value, readMember start (key, .unsigned value) = .ok (set start value))
    {start : DeviceIdentifiers} (unset : set start 0 = start) (value : Nat) :
    ((writtenNumber value).map fun json => (key, json)).toList.foldlM readMember start =
      .ok (set start value) :=
  foldlM_written (fun zero => by rw [zero, unset]) (isRead start value)

theorem foldlM_writtenFlag {key : String} (set : DeviceIdentifiers → Bool → DeviceIdentifiers)
    (isRead : ∀ start value, readMember start (key, .boolean value) = .ok (set start value))
    {start : DeviceIdentifiers} (unset : set start false = start) (value : Bool) :
    ((writtenFlag value).map fun json => (key, json)).toList.foldlM readMember start =
      .ok (set start value) :=
  foldlM_written (fun none => by rw [none, unset]) (isRead start value)

/-- What is written is read as the same identifiers. -/
theorem ofJson_toJson (identifiers : DeviceIdentifiers) :
    ofJson identifiers.toJson = .ok { identifiers with json := identifiers.toJson } := by
  have allKnown : ∀ members, othersOf ["vendor_id", "product_id", "is_keyboard",
      "is_pointing_device", "is_game_pad", "is_consumer", "is_virtual_device",
      "device_address"] members = othersOf knownKeys members := fun _ => rfl
  refine (ok_bind (identifiers.updateJson identifiers.json.items) _).trans ?_
  rw [updateJson, ← othersOf_nil (Members.put _ _ _)]
  iterate 8 rw [foldlM_othersOf_put (by decide)]
  rw [allKnown, foldlM_unknown, ok_bind]
  simp only [default, ofParameters, ite_self]
  -- one known key after the other, in the order they were put
  rw [foldlM_writtenNumber (fun start value => { start with vendorId := value })
    (fun _ _ => rfl) rfl, ok_bind]
  dsimp only
  rw [foldlM_writtenNumber (fun start value => { start with productId := value })
    (fun _ _ => rfl) rfl, ok_bind]
  dsimp only
  rw [foldlM_writtenFlag (fun start value => { start with isKeyboard := value })
    (fun _ _ => rfl) rfl, ok_bind]
  dsimp only
  rw [foldlM_writtenFlag (fun start value => { start with isPointingDevice := value })
    (fun _ _ => rfl) rfl, ok_bind]
  dsimp only
  rw [foldlM_writtenFlag (fun start value => { start with isGamePad := value })
    (fun _ _ => rfl) rfl, ok_bind]
  dsimp only
  rw [foldlM_writtenFlag (fun start value => { start with isConsumer := value })
    (fun _ _ => rfl) rfl, ok_bind]
  dsimp only
  rw [foldlM_writtenFlag (fun start value => { start with isVirtualDevice := value })
    (fun _ _ => rfl) rfl, ok_bind]
  dsimp only
  refine foldlM_written (fun empty => ?_) rfl
  rw [empty]

end DeviceIdentifiers

end Karabiner
