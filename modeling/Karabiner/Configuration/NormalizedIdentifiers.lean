import Karabiner.Configuration.WrittenIdentifiers

/-! # The normal form of identifiers

`to_normalized_json` writes the known values only, and an address only if both ids are zero, as
the constructor from parameters has it. The constructor from JSON keeps any address and
`operator==` compares it. So identifiers that are the same have the same normal form, and the
converse holds for those whose address counts (`DeviceIdentifiers.normalForm_spec`).
-/

namespace Karabiner

/-- Two objects are equal, in whatever order their members are listed. -/
def Json.SameMembers (first second : Json) : Prop := ∀ key, first.find? key = second.find? key

namespace DeviceIdentifiers

/-- The identifiers that `to_normalized_json` writes. -/
def normalized (identifiers : DeviceIdentifiers) : DeviceIdentifiers :=
  .ofParameters
    { vendorId := identifiers.vendorId
      productId := identifiers.productId
      isKeyboard := identifiers.isKeyboard
      isPointingDevice := identifiers.isPointingDevice
      isGamePad := identifiers.isGamePad
      isConsumer := identifiers.isConsumer
      isVirtualDevice := identifiers.isVirtualDevice
      deviceAddress := identifiers.deviceAddress }

/-- `to_normalized_json`. -/
def toNormalizedJson (identifiers : DeviceIdentifiers) : Json := identifiers.normalized.toJson

/-- There is no address, or it is that of a device without vendor and product. -/
def AddressCounts (identifiers : DeviceIdentifiers) : Prop :=
  identifiers.deviceAddress = "" ∨ identifiers.vendorId = 0 ∧ identifiers.productId = 0

/-! ## The values of the normal form -/

theorem deviceAddress_normalized (identifiers : DeviceIdentifiers) :
    identifiers.normalized.deviceAddress = identifiers.deviceAddress ↔
      identifiers.AddressCounts := by
  change (if identifiers.vendorId = 0 ∧ identifiers.productId = 0 then identifiers.deviceAddress
    else "") = identifiers.deviceAddress ↔ _
  by_cases zero : identifiers.vendorId = 0 ∧ identifiers.productId = 0
  · rw [if_pos zero]
    exact iff_of_true rfl (.inr zero)
  · rw [if_neg zero, eq_comm]
    exact ⟨.inl, fun counts => counts.resolve_right zero⟩

/-- The normal form is that of the same identifiers exactly when the address counts. -/
theorem same_normalized_iff (identifiers : DeviceIdentifiers) :
    identifiers.normalized.same identifiers = true ↔ identifiers.AddressCounts := by
  rw [same_iff, ← deviceAddress_normalized]
  exact ⟨fun same => same.2.2.2.2, fun address => ⟨⟨rfl, rfl, rfl, rfl⟩, rfl, rfl, rfl, address⟩⟩

theorem same_trans {first second third : DeviceIdentifiers} (one : first.same second = true)
    (two : second.same third = true) : first.same third = true := by
  rw [same_iff] at one two ⊢
  obtain ⟨⟨vendor, product, keyboard, pointing⟩, gamePad, consumer, virtual, address⟩ := one
  rw [vendor, product, keyboard, pointing, gamePad, consumer, virtual, address]
  exact two

theorem same_symm {first second : DeviceIdentifiers} (same : first.same second = true) :
    second.same first = true := by
  rw [same_iff] at same ⊢
  obtain ⟨⟨vendor, product, keyboard, pointing⟩, gamePad, consumer, virtual, address⟩ := same
  exact ⟨⟨vendor.symm, product.symm, keyboard.symm, pointing.symm⟩, gamePad.symm, consumer.symm,
    virtual.symm, address.symm⟩

/-- The same identifiers have the same normal form. -/
theorem normalized_eq_of_same {first second : DeviceIdentifiers}
    (same : first.same second = true) : first.normalized = second.normalized := by
  obtain ⟨⟨vendor, product, keyboard, pointing⟩, gamePad, consumer, virtual, address⟩ :=
    (same_iff first second).mp same
  rw [normalized, normalized, vendor, product, keyboard, pointing, gamePad, consumer, virtual,
    address]

/-! ## The members of the normal form -/

theorem writtenNumber_inj {first second : Nat}
    (same : writtenNumber first = writtenNumber second) : first = second := by
  by_cases one : first = 0
  · by_cases two : second = 0
    · rw [one, two]
    · simp [writtenNumber, one, two] at same
  · by_cases two : second = 0
    · simp [writtenNumber, one, two] at same
    · simpa [writtenNumber, one, two] using same

theorem writtenFlag_inj {first second : Bool} (same : writtenFlag first = writtenFlag second) :
    first = second := by
  cases first <;> cases second <;> simp [writtenFlag] at same ⊢

theorem writtenString_inj {first second : String}
    (same : writtenString first = writtenString second) : first = second := by
  by_cases one : first = ""
  · by_cases two : second = ""
    · rw [one, two]
    · simp [writtenString, one, two] at same
  · by_cases two : second = ""
    · simp [writtenString, one, two] at same
    · simpa [writtenString, one, two] using same

/-- The known keys of what is written. -/
theorem find?_toJson (identifiers : DeviceIdentifiers) :
    identifiers.toJson.find? "vendor_id" = writtenNumber identifiers.vendorId ∧
      identifiers.toJson.find? "product_id" = writtenNumber identifiers.productId ∧
      identifiers.toJson.find? "is_keyboard" = writtenFlag identifiers.isKeyboard ∧
      identifiers.toJson.find? "is_pointing_device" = writtenFlag identifiers.isPointingDevice ∧
      identifiers.toJson.find? "is_game_pad" = writtenFlag identifiers.isGamePad ∧
      identifiers.toJson.find? "is_consumer" = writtenFlag identifiers.isConsumer ∧
      identifiers.toJson.find? "is_virtual_device" = writtenFlag identifiers.isVirtualDevice ∧
      identifiers.toJson.find? "device_address" = writtenString identifiers.deviceAddress := by
  simp [toJson, updateJson, Json.find?, Members.lookup_put]

/-- What is written has the same members only if the identifiers are the same. -/
theorem same_of_sameMembers {first second : DeviceIdentifiers}
    (members : first.toJson.SameMembers second.toJson) : first.same second = true := by
  obtain ⟨vendor, product, keyboard, pointing, gamePad, consumer, virtual, address⟩ :=
    find?_toJson first
  obtain ⟨vendor', product', keyboard', pointing', gamePad', consumer', virtual', address'⟩ :=
    find?_toJson second
  have number : ∀ {key : String} {one two : Nat}, first.toJson.find? key = writtenNumber one →
      second.toJson.find? key = writtenNumber two → one = two :=
    fun isOne isTwo => writtenNumber_inj (isOne.symm.trans ((members _).trans isTwo))
  have flag : ∀ {key : String} {one two : Bool}, first.toJson.find? key = writtenFlag one →
      second.toJson.find? key = writtenFlag two → one = two :=
    fun isOne isTwo => writtenFlag_inj (isOne.symm.trans ((members _).trans isTwo))
  rw [same_iff]
  exact ⟨⟨number vendor vendor', number product product', flag keyboard keyboard',
    flag pointing pointing'⟩, flag gamePad gamePad', flag consumer consumer',
    flag virtual virtual', writtenString_inj (address.symm.trans ((members _).trans address'))⟩

/-- Normal forms are equal exactly when the identifiers are the same up to an address that does
not count. -/
theorem sameMembers_toNormalizedJson_iff (first second : DeviceIdentifiers) :
    first.toNormalizedJson.SameMembers second.toNormalizedJson ↔
      first.normalized.same second.normalized = true := by
  refine ⟨same_of_sameMembers, fun same key => ?_⟩
  have whole : first.normalized = second.normalized := by
    have again := normalized_eq_of_same same
    have twice : ∀ identifiers : DeviceIdentifiers,
        identifiers.normalized.normalized = identifiers.normalized := by
      intro identifiers
      rw [normalized, normalized]
      simp only [ofParameters]
      congr 1
      split <;> rfl
    rw [twice, twice] at again
    exact again
  rw [toNormalizedJson, toNormalizedJson, whole]

/-! ## Comparison and normal form -/

/-- The same identifiers have equal normal forms, and identifiers whose addresses count are the
same if their normal forms are equal. What is written is read as the same identifiers, and the
normal form is read as the same identifiers exactly when the address counts. -/
theorem normalForm_spec (first second : DeviceIdentifiers) :
    (first.toNormalizedJson.SameMembers second.toNormalizedJson ↔
        first.normalized.same second.normalized = true) ∧
      (first.same second = true →
        first.toNormalizedJson.SameMembers second.toNormalizedJson) ∧
      (first.AddressCounts → second.AddressCounts →
        (first.same second = true ↔
          first.toNormalizedJson.SameMembers second.toNormalizedJson)) ∧
      (∃ read, ofJson first.toJson = .ok read ∧ read.same first = true) ∧
      ∃ read, ofJson first.toNormalizedJson = .ok read ∧
        (read.same first = true ↔ first.AddressCounts) := by
  have forward : first.same second = true →
      first.toNormalizedJson.SameMembers second.toNormalizedJson := by
    intro same key
    rw [toNormalizedJson, toNormalizedJson, normalized_eq_of_same same]
  refine ⟨sameMembers_toNormalizedJson_iff first second, forward, fun one two =>
    ⟨forward, fun members => ?_⟩, ⟨_, ofJson_toJson first, ?_⟩, ⟨_, ofJson_toJson _, ?_⟩⟩
  · have isSame := (sameMembers_toNormalizedJson_iff first second).mp members
    have start := same_symm ((same_normalized_iff first).mpr one)
    exact same_trans start (same_trans isSame ((same_normalized_iff second).mpr two))
  · exact (same_iff _ _).mpr ⟨⟨rfl, rfl, rfl, rfl⟩, rfl, rfl, rfl, rfl⟩
  · -- What is read differs from the normal form in the JSON only.
    rw [← same_normalized_iff first, same_iff, same_iff]

/-- A mouse by its ids, and with an address as well. -/
def withAddress : Json :=
  .object [("device_address", .string "aa-bb-cc-dd-ee-ff"), ("is_pointing_device", .boolean true),
    ("product_id", .unsigned 5678), ("vendor_id", .unsigned 1234)]

def withoutAddress : Json :=
  .object [("is_pointing_device", .boolean true), ("product_id", .unsigned 5678),
    ("vendor_id", .unsigned 1234)]

/-- Both are read, are not the same, and have one normal form, which is not read as the first. -/
theorem withAddress_differs :
    ∃ first second, ofJson withAddress = .ok first ∧ ofJson withoutAddress = .ok second ∧
      first.same second = false ∧
      first.toNormalizedJson.SameMembers second.toNormalizedJson ∧
      ∃ read, ofJson first.toNormalizedJson = .ok read ∧ read.same first = false :=
  ⟨_, _, rfl, rfl, rfl, fun _ => rfl, _, rfl, rfl⟩

end DeviceIdentifiers

end Karabiner
