import Mathlib.Data.List.Pairwise
import Karabiner.Configuration.SimpleModifications

/-! # Saving simple modifications

A save writes the first complete pair of each `from` that no default equals, and a load reads
the defaults and then what was saved. The `from` of what is saved are different, and so are
those of what is loaded. A default in the second format is the exception: it is migrated when
it is read, and compared as it was when it is written.
-/

namespace Karabiner

namespace SimpleModifications

open JsonText

variable [JsonText]

/-! ## Defaults -/

/-- `from` and `to` of each default, as they are. -/
def defaultEntries (defaultJson : Json) : List (Json × Json) :=
  defaultJson.elements.map fun j => (memberOf j "from", memberOf j "to")

/-- A default as it is read. -/
def migrated (entry : Json × Json) : Json × Json := (entry.1, migrateToJson entry.2)

/-- A JSON array of entries whose `from` are different objects, none with an empty key. -/
structure Defaults (json : Json) : Prop where
  isArray : json.isArray = true
  entries : ∀ j ∈ json.elements, ∃ members, j = .object members ∧
    (members.map Prod.fst).Nodup ∧
    (∃ fromMembers, members.lookup "from" = some (.object fromMembers) ∧
      "" ∉ fromMembers.map Prod.fst) ∧
    ∃ toJson, members.lookup "to" = some toJson
  distinct : (defaultEntries json).Pairwise fun first second => equal first.1 second.1 = false
  readsBack : ∀ entry ∈ defaultEntries json, ReadsBackEntry (migrated entry)

omit [JsonText] in
theorem withoutEmptyKey_of_not_mem {members : List (String × Json)}
    (noEmptyKey : "" ∉ members.map Prod.fst) : withoutEmptyKey members = members := by
  refine List.filter_eq_self.mpr fun member isMember => ?_
  simp only [bne_iff_ne]
  exact fun empty => noEmptyKey (empty ▸ List.mem_map_of_mem isMember)

omit [JsonText] in
theorem lookup_cons_of_ne {key other : String} (different : other ≠ key) (value : Json)
    (rest : List (String × Json)) : ((key, value) :: rest).lookup other = rest.lookup other := by
  rw [List.lookup_cons, beq_eq_false_iff_ne.mpr different]

omit [JsonText] in
/-- What the members of an entry with different keys leave. -/
theorem foldlM_readMember {members : List (String × Json)} (keys : (members.map Prod.fst).Nodup)
    (fromObject : ∀ value, members.lookup "from" = some value →
      ∃ fromMembers, value = .object fromMembers ∧ "" ∉ fromMembers.map Prod.fst)
    (entry : Option Json × Option Json) :
    members.foldlM readMember entry =
      .ok ((members.lookup "from").or entry.1,
        ((members.lookup "to").map migrateToJson).or entry.2) := by
  induction members generalizing entry with
  | nil => rfl
  | cons member rest ih =>
      obtain ⟨key, value⟩ := member
      obtain ⟨notLater, restKeys⟩ := List.nodup_cons.mp keys
      have noLater : rest.lookup key = none := by
        rw [List.lookup_eq_none_iff]
        intro other isLater
        simp only [bne_iff_ne]
        exact fun same => notLater (List.mem_map.mpr ⟨other, isLater, same.symm⟩)
      by_cases isFrom : key = "from"
      · subst isFrom
        obtain ⟨fromMembers, rfl, noEmptyKey⟩ := fromObject value (by simp)
        have step : readMember entry ("from", .object fromMembers) =
            .ok (some (.object fromMembers), entry.2) := by
          simp only [readMember, eraseEmptyKey, withoutEmptyKey_of_not_mem noEmptyKey]
          rfl
        rw [List.foldlM_cons, step]
        refine (ih restKeys (fun value isValue => ?_) _).trans ?_
        · rw [noLater] at isValue
          cases isValue
        · simp [noLater, lookup_cons_of_ne (show "to" ≠ "from" by simp)]
      · have fromLater := lookup_cons_of_ne (Ne.symm isFrom) value rest
        have onRest := ih restKeys fun value isValue => fromObject value (fromLater ▸ isValue)
        by_cases isTo : key = "to"
        · subst isTo
          rw [List.foldlM_cons]
          refine (onRest (entry.1, some (migrateToJson value))).trans ?_
          simp [fromLater, noLater]
        · have step : readMember entry (key, value) = .ok entry := by
            simp only [readMember]
          rw [List.foldlM_cons, step]
          refine (onRest entry).trans ?_
          rw [fromLater, lookup_cons_of_ne (Ne.symm isTo)]

/-- The defaults are read as their entries, migrated. -/
theorem readEntries_defaults {json : Json} (defaults : Defaults json) :
    readEntries json = .ok ((defaultEntries json).map migrated) := by
  obtain ⟨values, rfl⟩ : ∃ values, json = .array values := by
    cases json with
    | array values => exact ⟨values, rfl⟩
    | _ => exact absurd defaults.isArray (by simp [Json.isArray])
  rw [defaultEntries, List.map_map]
  apply readEntries_array
  intro j member
  obtain ⟨members, rfl, keys, ⟨fromMembers, isFrom, noEmptyKey⟩, toJson, isTo⟩ :=
    defaults.entries j member
  rw [readEntry, foldlM_readMember keys (fun value isValue => ⟨fromMembers,
    (Option.some.inj (isFrom.symm.trans isValue)).symm, noEmptyKey⟩)]
  simp only [isFrom, isTo, migrated, memberOf, Json.find?, Function.comp_apply]
  rfl

/-- A new object with the defaults and what the configuration file has. -/
def load (defaultJson json : Json) : Except SimpleModificationsError SimpleModifications := do
  (← initial.update defaultJson).update json

/-- No `from` object has an empty key. -/
def NoEmptyKey (pairs : List (String × String)) : Prop :=
  ∀ pair ∈ pairs, ∀ json, parseJsonc pair.1 = some json → "" ∉ json.items.map Prod.fst

theorem isDefault_eq_true {defaultJson : Json} {entry : Json × Json} :
    isDefault defaultJson entry = true ↔
      ∃ other ∈ defaultEntries defaultJson,
        equal entry.1 other.1 = true ∧ equal entry.2 other.2 = true := by
  simp [isDefault, defaultEntries]

/-! ## What is saved -/

/-- The entries of a save. -/
def saved (modifications : SimpleModifications) (defaultJson : Json) : List (Json × Json) :=
  writtenEntries defaultJson [] modifications.pairs

theorem mem_saved {modifications : SimpleModifications} {defaultJson : Json}
    {entry : Json × Json} :
    entry ∈ modifications.saved defaultJson ↔
      ∃ pair, FirstComplete modifications.pairs pair ∧ complete pair = some entry ∧
        isDefault defaultJson entry = false := by
  simp [saved, mem_writtenEntries]

/-- A saved entry is that of a pair. -/
theorem pair_of_mem_saved {modifications : SimpleModifications} {defaultJson : Json}
    (canonical : CanonicalPairs modifications.pairs) {entry : Json × Json}
    (isSaved : entry ∈ modifications.saved defaultJson) :
    textOf entry ∈ modifications.pairs ∧ complete (textOf entry) = some entry ∧
      ReadsBackEntry entry := by
  obtain ⟨pair, first, isComplete, _⟩ := mem_saved.mp isSaved
  obtain ⟨rfl, readsBack⟩ := textOf_of_complete (canonical pair first.mem) isComplete
  exact ⟨first.mem, isComplete, readsBack⟩

/-- What is saved is read as it is. -/
theorem readEntries_toJson {modifications : SimpleModifications} {defaultJson : Json}
    (canonical : CanonicalPairs modifications.pairs)
    (noEmptyKey : NoEmptyKey modifications.pairs) :
    readEntries (modifications.toJson defaultJson) = .ok (modifications.saved defaultJson) := by
  have same : ((modifications.saved defaultJson).map entryJson).map
      (fun j => (memberOf j "from", memberOf j "to")) = modifications.saved defaultJson := by
    rw [List.map_map]
    exact List.map_id'' (fun entry => rfl) _
  refine (readEntries_array fun j member => ?_).trans (congrArg Except.ok same)
  obtain ⟨entry, isSaved, rfl⟩ := List.mem_map.mp member
  obtain ⟨isPair, isComplete, _⟩ := pair_of_mem_saved canonical isSaved
  obtain ⟨isFrom, _, ⟨first, members, isObject⟩, value, values, isArray⟩ :=
    complete_eq_some isComplete
  obtain ⟨fromJson, toJson⟩ := entry
  obtain rfl : fromJson = .object (first :: members) := isObject
  obtain rfl : toJson = .array (value :: values) := isArray
  have noKey : "" ∉ (first :: members).map Prod.fst := noEmptyKey _ isPair _ isFrom
  have read : readMember (none, none) ("from", .object (first :: members)) =
      .ok (some (.object (first :: members)), none) := by
    simp only [readMember, eraseEmptyKey, withoutEmptyKey_of_not_mem noKey]
    rfl
  simp only [entryJson, readEntry, List.foldlM_cons, read]
  rfl

/-- The `from` of what is saved are different. -/
theorem nodup_writtenEntries {pairs : List (String × String)} (canonical : CanonicalPairs pairs)
    (defaultJson : Json) (froms : List String) :
    ((writtenEntries defaultJson froms pairs).map fun entry => dump entry.1).Nodup := by
  induction pairs generalizing froms with
  | nil => exact List.nodup_nil
  | cons head rest ih =>
      have onRest := ih fun pair member => canonical pair (List.mem_cons_of_mem _ member)
      simp only [writtenEntries]
      split
      · exact onRest froms
      · rename_i entry isComplete
        split
        · exact onRest froms
        · split
          · exact onRest _
          · refine List.nodup_cons.mpr ⟨fun later => ?_, onRest _⟩
            obtain ⟨other, isLater, sameFrom⟩ := List.mem_map.mp later
            obtain ⟨pair, fresh, first, otherComplete, _⟩ :=
              (mem_writtenEntries ..).mp isLater
            obtain ⟨ofHead, _⟩ := textOf_of_complete (canonical head List.mem_cons_self) isComplete
            obtain ⟨ofPair, _⟩ := textOf_of_complete
              (canonical pair (List.mem_cons_of_mem _ first.mem)) otherComplete
            refine fresh (List.mem_cons.mpr (.inl ?_))
            rw [← ofPair, ← ofHead]
            exact sameFrom

/-! ## What a new object has -/

section Lawful

variable [lawful : LawfulJsonText] {defaultJson : Json} {edited : SimpleModifications}

/-- A default is found by its `from`. -/
theorem eq_of_equal_from (defaults : Defaults defaultJson) {first second : Json × Json}
    (isFirst : first ∈ defaultEntries defaultJson) (isSecond : second ∈ defaultEntries defaultJson)
    (same : equal first.1 second.1 = true) : first = second := by
  by_contra different
  have symmetric : Std.Symm fun one other : Json × Json => equal one.1 other.1 = false :=
    ⟨fun one other distinct => (lawful.equal_comm other.1 one.1).trans distinct⟩
  rw [defaults.distinct.forall isFirst isSecond different] at same
  cases same

theorem nodup_migrated (defaults : Defaults defaultJson) :
    (((defaultEntries defaultJson).map migrated).map fun entry => dump entry.1).Nodup := by
  rw [List.map_map, List.Nodup, List.pairwise_map]
  refine defaults.distinct.imp fun {first second} distinct same => ?_
  rw [lawful.equal_self first.1 second.1 same] at distinct
  cases distinct

omit lawful in
theorem readsBack_defaults {defaultJson : Json} (defaults : Defaults defaultJson) :
    ∀ entry ∈ (defaultEntries defaultJson).map migrated, ReadsBackEntry entry := by
  intro entry member
  obtain ⟨other, isDefault, rfl⟩ := List.mem_map.mp member
  exact defaults.readsBack other isDefault

/-- What is loaded from JSON that reads back has canonical pairs only. -/
theorem canonicalPairs_load (defaults : Defaults defaultJson) {json : Json}
    (readsBack : ∀ entries, readEntries json = .ok entries → ∀ entry ∈ entries,
      ReadsBackEntry entry)
    {loaded : SimpleModifications} (isLoaded : load defaultJson json = .ok loaded) :
    CanonicalPairs loaded.pairs := by
  rw [load, update_eq_ok (readEntries_defaults defaults)] at isLoaded
  cases areRead : readEntries json with
  | error thrown =>
      simp only [update, areRead] at isLoaded
      cases isLoaded
  | ok entries =>
      have updated := (update_eq_ok areRead).symm.trans isLoaded
      obtain rfl := Except.ok.inj updated
      exact canonicalPairs_updated (readsBack entries areRead) (canonicalPairs_updated
        (readsBack_defaults defaults) fun _ member => absurd member List.not_mem_nil)

/-- What a new object has after a load: what was saved, and the defaults of other `from`. -/
def HasSaved (defaultJson : Json) (edited loaded : SimpleModifications) : Prop :=
  ∀ pair, pair ∈ loaded.pairs ↔
    (∃ entry ∈ edited.saved defaultJson, pair = textOf entry) ∨
      (∃ entry ∈ defaultEntries defaultJson, pair = textOf (migrated entry)) ∧
        ∀ entry ∈ edited.saved defaultJson, pair.1 ≠ dump entry.1

/-- A new object that reads the defaults and then a save. -/
theorem exists_load (defaults : Defaults defaultJson) (canonical : CanonicalPairs edited.pairs)
    (noEmptyKey : NoEmptyKey edited.pairs) :
    ∃ loaded, load defaultJson (edited.toJson defaultJson) = .ok loaded ∧
      DistinctFroms loaded.pairs ∧ CanonicalPairs loaded.pairs ∧
      HasSaved defaultJson edited loaded := by
  have readsBackDefaults := readsBack_defaults defaults
  have readsBackSaved : ∀ entry ∈ edited.saved defaultJson, ReadsBackEntry entry :=
    fun entry isSaved => (pair_of_mem_saved canonical isSaved).2.2
  have startDistinct : DistinctFroms initial.pairs := List.nodup_nil
  have startCanonical : CanonicalPairs initial.pairs :=
    fun _ member => absurd member List.not_mem_nil
  refine ⟨_, ?_, distinctFroms_updated readsBackSaved
    (distinctFroms_updated readsBackDefaults startDistinct),
    canonicalPairs_updated readsBackSaved (canonicalPairs_updated readsBackDefaults startCanonical),
    fun pair => ?_⟩
  · rw [load, update_eq_ok (readEntries_defaults defaults)]
    exact update_eq_ok (readEntries_toJson canonical noEmptyKey)
  · rw [mem_updated, mem_foldl_putEntry readsBackSaved (nodup_writtenEntries canonical _ _),
      mem_updated, mem_foldl_putEntry readsBackDefaults (nodup_migrated defaults)]
    simp only [List.mem_map, exists_exists_and_eq_and, initial, List.not_mem_nil, false_and,
      or_false]

/-- What a default in the second format needs to be left out of a save: another complete pair
of its `from`. -/
def KeepsMigrated (defaultJson : Json) (modifications : SimpleModifications) : Prop :=
  ∀ entry ∈ defaultEntries defaultJson, entry.1.items ≠ [] → withoutEmptyKey entry.2.items ≠ [] →
    ∃ pair ∈ modifications.pairs, pair.1 = dump entry.1 ∧ (complete pair).isSome = true

omit lawful in
/-- Whether the texts of an entry are complete is seen from its outlines. -/
theorem complete_textOf {entry : Json × Json} (readsBack : ReadsBackEntry entry) :
    (complete (textOf entry)).isSome = true ↔
      (∃ key keys, entry.1.outline = .object (key :: keys)) ∧
        ∃ length, entry.2.outline = .array (length + 1) := by
  obtain ⟨⟨readFrom, isFrom, _, fromOutline⟩, readTo, isTo, _, toOutline⟩ := readsBack
  rw [← fromOutline, ← toOutline]
  simp only [complete, textOf, isFrom, isTo]
  cases readFrom with
  | object members =>
      cases members with
      | nil => simp [Json.outline]
      | cons first members =>
          cases readTo with
          | array values => cases values <;> simp [Json.outline]
          | _ => simp [Json.outline]
  | _ => simp [Json.outline]

/-- A default in the second format does not equal what is read from it. -/
theorem isDefault_eq_false_of_migrated (defaults : Defaults defaultJson) {entry : Json × Json}
    (isEntry : entry ∈ defaultEntries defaultJson)
    (isObject : withoutEmptyKey entry.2.items ≠ []) {read : Json × Json}
    (sameFrom : dump read.1 = dump entry.1) (isArray : read.2.isArray = true) :
    isDefault defaultJson read = false := by
  refine Bool.eq_false_iff.mpr fun isDefault => ?_
  obtain ⟨other, isOther, equalFrom, equalTo⟩ := isDefault_eq_true.mp isDefault
  rw [lawful.equal_congr _ _ _ sameFrom] at equalFrom
  obtain rfl := eq_of_equal_from defaults isEntry isOther equalFrom
  have otherIsArray := lawful.isArray_of_equal _ _ equalTo
  rw [isArray] at otherIsArray
  cases isTo : entry.2 with
  | object members => rw [isTo] at otherIsArray; cases otherIsArray
  | _ => rw [isTo] at isObject; exact isObject rfl

/-- A default that stays in the new object is left out, unless it was migrated. -/
theorem migrated_of_mem_saved (defaults : Defaults defaultJson) {entry read : Json × Json}
    (isEntry : entry ∈ defaultEntries defaultJson)
    (sameText : textOf read = textOf (migrated entry))
    (isComplete : complete (textOf read) = some read)
    (notDefault : isDefault defaultJson read = false) :
    entry.1.items ≠ [] ∧ withoutEmptyKey entry.2.items ≠ [] := by
  have outlines := (complete_textOf (defaults.readsBack entry isEntry)).mp
    (by rw [← sameText, isComplete]; rfl)
  obtain ⟨⟨key, keys, fromOutline⟩, length, toOutline⟩ := outlines
  constructor
  · intro noMembers
    cases isFrom : entry.1 with
    | object members =>
        rw [isFrom] at noMembers
        simp only [migrated, isFrom, Json.outline] at fromOutline
        obtain rfl : members = [] := noMembers
        cases fromOutline
    | _ =>
        simp only [migrated, isFrom, Json.outline] at fromOutline
        cases fromOutline
  · intro noMembers
    obtain ⟨sameFrom, sameTo⟩ := Prod.mk.inj sameText
    cases isTo : entry.2 with
    | object members =>
        rw [isTo] at noMembers
        simp only [migrated, isTo, migrateToJson, show withoutEmptyKey members = [] from noMembers,
          Json.outline] at toOutline
        cases toOutline
    | _ =>
        -- what is no object is not migrated, so that it equals the default
        have unchanged : migrateToJson entry.2 = entry.2 := by rw [isTo]; rfl
        have isDefault := isDefault_eq_true.mpr ⟨entry, isEntry,
          lawful.equal_self _ _ sameFrom,
          lawful.equal_self _ _ (sameTo.trans (by rw [migrated, unchanged]))⟩
        rw [isDefault] at notDefault
        cases notDefault

omit lawful in
/-- A complete pair of a new object is in its next save, unless it is a default. -/
theorem mem_saved_of_mem {loaded : SimpleModifications} (distinct : DistinctFroms loaded.pairs)
    {entry : Json × Json} (isPair : textOf entry ∈ loaded.pairs)
    (isComplete : complete (textOf entry) = some entry)
    (notDefault : isDefault defaultJson entry = false) : entry ∈ loaded.saved defaultJson :=
  mem_saved.mpr ⟨textOf entry, distinct.firstComplete isPair (by rw [isComplete]; rfl), isComplete,
    notDefault⟩

omit lawful in
/-- A default with members in `from` and `to` is complete once it is migrated. -/
theorem complete_migrated (defaults : Defaults defaultJson) {entry : Json × Json}
    (isEntry : entry ∈ defaultEntries defaultJson) (someFrom : entry.1.items ≠ [])
    (isObject : withoutEmptyKey entry.2.items ≠ []) :
    (complete (textOf (migrated entry))).isSome = true := by
  rw [complete_textOf (defaults.readsBack entry isEntry)]
  constructor
  · cases isFrom : entry.1 with
    | object members =>
        cases members with
        | nil => rw [isFrom] at someFrom; exact absurd rfl someFrom
        | cons first members => exact ⟨_, _, by rw [migrated, isFrom]; rfl⟩
    | _ => rw [isFrom] at someFrom; exact absurd rfl someFrom
  · cases isTo : entry.2 with
    | object members =>
        rw [isTo] at isObject
        cases kept : withoutEmptyKey members with
        | nil => exact absurd kept isObject
        | cons first rest => exact ⟨0, by simp only [migrated, isTo, migrateToJson, kept]; rfl⟩
    | _ => rw [isTo] at isObject; exact absurd rfl isObject

/-- A migrated default without another pair of its `from` comes back in the next save. -/
theorem keepsMigrated_of_same (defaults : Defaults defaultJson)
    (canonical : CanonicalPairs edited.pairs) {loaded : SimpleModifications}
    (distinct : DistinctFroms loaded.pairs) (canonicalLoaded : CanonicalPairs loaded.pairs)
    (hasSaved : HasSaved defaultJson edited loaded)
    (same : ∀ entry, entry ∈ loaded.saved defaultJson ↔ entry ∈ edited.saved defaultJson) :
    KeepsMigrated defaultJson edited := by
  intro entry isEntry someFrom isObject
  by_contra noPair
  have others : ∀ other ∈ edited.saved defaultJson, dump entry.1 ≠ dump other.1 := by
    intro other isSaved sameFrom
    obtain ⟨isPair, isComplete, _⟩ := pair_of_mem_saved canonical isSaved
    exact noPair ⟨textOf other, isPair, sameFrom.symm, by rw [isComplete]; rfl⟩
  have stays : textOf (migrated entry) ∈ loaded.pairs :=
    (hasSaved _).mpr (.inr ⟨⟨entry, isEntry, rfl⟩, others⟩)
  obtain ⟨read, isRead⟩ :=
    Option.isSome_iff_exists.mp (complete_migrated defaults isEntry someFrom isObject)
  obtain ⟨sameText, _⟩ := textOf_of_complete (canonicalLoaded _ stays) isRead
  obtain ⟨_, _, _, value, values, isArray⟩ := complete_eq_some isRead
  obtain ⟨sameFrom, _⟩ := Prod.mk.inj sameText
  have notDefault := isDefault_eq_false_of_migrated defaults isEntry isObject sameFrom
    (by rw [isArray]; rfl)
  rw [← sameText] at stays isRead
  have isSaved := (same read).mp (mem_saved_of_mem distinct stays isRead notDefault)
  exact others read isSaved sameFrom.symm

/-- A pair that a migrated default needs is saved. -/
theorem saved_of_keepsMigrated (defaults : Defaults defaultJson)
    (canonical : CanonicalPairs edited.pairs) (keeps : KeepsMigrated defaultJson edited)
    {entry : Json × Json} (isEntry : entry ∈ defaultEntries defaultJson)
    (someFrom : entry.1.items ≠ []) (isObject : withoutEmptyKey entry.2.items ≠ []) :
    ∃ other ∈ edited.saved defaultJson, dump other.1 = dump entry.1 := by
  obtain ⟨pair, isPair, sameFrom, isComplete⟩ := keeps entry isEntry someFrom isObject
  obtain ⟨first, firstFrom, isFirst⟩ := exists_firstComplete isPair isComplete
  obtain ⟨read, isRead⟩ := Option.isSome_iff_exists.mp isFirst.isSome
  obtain ⟨sameText, _⟩ := textOf_of_complete (canonical _ isFirst.mem) isRead
  obtain ⟨_, _, _, value, values, isArray⟩ := complete_eq_some isRead
  have readFrom : dump read.1 = dump entry.1 :=
    (congrArg Prod.fst sameText).trans (firstFrom.trans sameFrom)
  have notDefault := isDefault_eq_false_of_migrated defaults isEntry isObject readFrom
    (by rw [isArray]; rfl)
  exact ⟨read, mem_saved.mpr ⟨first, isFirst, isRead, notDefault⟩, readFrom⟩

/-- The next save of a new object has the entries of the first one exactly when no migrated
default comes back. -/
theorem mem_saved_loaded_iff (defaults : Defaults defaultJson)
    (canonical : CanonicalPairs edited.pairs) {loaded : SimpleModifications}
    (distinct : DistinctFroms loaded.pairs) (canonicalLoaded : CanonicalPairs loaded.pairs)
    (hasSaved : HasSaved defaultJson edited loaded) :
    (∀ entry, entry ∈ loaded.saved defaultJson ↔ entry ∈ edited.saved defaultJson) ↔
      KeepsMigrated defaultJson edited := by
  refine ⟨keepsMigrated_of_same defaults canonical distinct canonicalLoaded hasSaved,
    fun keeps entry => ⟨fun isSaved => ?_, fun isSaved => ?_⟩⟩
  · obtain ⟨isPair, isComplete, _⟩ := pair_of_mem_saved canonicalLoaded isSaved
    obtain ⟨_, _, _, notDefault⟩ := mem_saved.mp isSaved
    rcases (hasSaved _).mp isPair with ⟨first, isFirst, sameText⟩ |
      ⟨⟨other, isOther, sameText⟩, others⟩
    · obtain ⟨_, firstComplete, _⟩ := pair_of_mem_saved canonical isFirst
      rw [← sameText, isComplete] at firstComplete
      exact Option.some.inj firstComplete ▸ isFirst
    · obtain ⟨someFrom, isObject⟩ :=
        migrated_of_mem_saved defaults isOther sameText isComplete notDefault
      obtain ⟨kept, isKept, sameFrom⟩ :=
        saved_of_keepsMigrated defaults canonical keeps isOther someFrom isObject
      exact absurd ((congrArg Prod.fst sameText).trans sameFrom.symm) (others kept isKept)
  · obtain ⟨_, isComplete, _⟩ := pair_of_mem_saved canonical isSaved
    obtain ⟨_, _, _, notDefault⟩ := mem_saved.mp isSaved
    exact mem_saved_of_mem distinct ((hasSaved _).mpr (.inl ⟨entry, isSaved, rfl⟩)) isComplete
      notDefault

/-- A pair whose values equal a default is written like it. -/
def WrittenLikeDefault (defaultJson : Json) (pair : String × String) : Prop :=
  ∀ entry, complete pair = some entry → ∀ other ∈ defaultEntries defaultJson,
    equal entry.1 other.1 = true → equal entry.2 other.2 = true → pair = textOf other

/-- The first complete pair of its `from` is in the new object. -/
theorem mem_loaded_of_firstComplete {loaded : SimpleModifications}
    (canonical : CanonicalPairs edited.pairs) (hasSaved : HasSaved defaultJson edited loaded)
    {pair : String × String} (first : FirstComplete edited.pairs pair)
    (like : WrittenLikeDefault defaultJson pair) : pair ∈ loaded.pairs := by
  obtain ⟨entry, isComplete⟩ := Option.isSome_iff_exists.mp first.isSome
  obtain ⟨isText, _⟩ := textOf_of_complete (canonical pair first.mem) isComplete
  rw [hasSaved]
  cases isDefault : isDefault defaultJson entry with
  | false => exact .inl ⟨entry, mem_saved.mpr ⟨pair, first, isComplete, isDefault⟩, isText.symm⟩
  | true =>
      obtain ⟨other, isOther, equalFrom, equalTo⟩ := isDefault_eq_true.mp isDefault
      have isArray := lawful.isArray_of_equal _ _ equalTo
      obtain ⟨_, _, _, value, values, entryTo⟩ := complete_eq_some isComplete
      have unchanged : migrated other = other := by
        obtain ⟨otherFrom, otherTo⟩ := other
        rw [entryTo] at isArray
        cases otherTo with
        | array values => rfl
        | _ => cases isArray
      refine .inr ⟨⟨other, isOther, ?_⟩, fun later isSaved sameFrom => ?_⟩
      · rw [unchanged]
        exact like entry isComplete other isOther equalFrom equalTo
      · obtain ⟨owner, isFirst, ownerComplete, notDefault⟩ := mem_saved.mp isSaved
        obtain ⟨ownerText, _⟩ := textOf_of_complete (canonical owner isFirst.mem) ownerComplete
        obtain rfl : pair = owner :=
          first.unique isFirst (sameFrom.trans (congrArg Prod.fst ownerText))
        obtain rfl := Option.some.inj (isComplete.symm.trans ownerComplete)
        rw [isDefault] at notDefault
        cases notDefault

omit [JsonText] lawful in
/-- Two settings write the same elements exactly if they have saved the same entries. -/
theorem mem_elements_toJson [JsonText] {first second : SimpleModifications} {defaultJson : Json} :
    (∀ j, j ∈ (first.toJson defaultJson).elements ↔ j ∈ (second.toJson defaultJson).elements) ↔
      ∀ entry, entry ∈ first.saved defaultJson ↔ entry ∈ second.saved defaultJson := by
  have injective : Function.Injective entryJson := by
    rintro ⟨fromJson, toJson⟩ ⟨otherFrom, otherTo⟩ same
    simpa [entryJson] using same
  constructor
  · intro same entry
    have ofEntry := same (entryJson entry)
    simpa only [toJson, Json.elements, saved,
      List.mem_map_of_injective injective] using ofEntry
  · intro same j
    simp only [toJson, Json.elements, List.mem_map]
    exact exists_congr fun entry => and_congr_left fun _ => same entry

/-- Whatever a new object with the defaults has read and however it was edited, a save has each
`from` once, and so has a new object that reads it. The next save has the same entries exactly
when no migrated default comes back, and the new object has each first complete pair that is
written like the default it equals. -/
theorem survives_save (defaultJson json : Json) (defaults : Defaults defaultJson)
    (readsBack : ∀ entries, readEntries json = .ok entries → ∀ entry ∈ entries,
      ReadsBackEntry entry)
    (loaded : SimpleModifications) (isLoaded : load defaultJson json = .ok loaded)
    (calls : List Edit) (noEmptyKey : NoEmptyKey (calls.foldl edit loaded).pairs) :
    (((calls.foldl edit loaded).toJson defaultJson).elements.map
        fun j => dump (memberOf j "from")).Nodup ∧
      ∃ fresh, load defaultJson ((calls.foldl edit loaded).toJson defaultJson) = .ok fresh ∧
        DistinctFroms fresh.pairs ∧
        ((∀ j, j ∈ (fresh.toJson defaultJson).elements ↔
            j ∈ ((calls.foldl edit loaded).toJson defaultJson).elements) ↔
          KeepsMigrated defaultJson (calls.foldl edit loaded)) ∧
        ∀ pair, FirstComplete (calls.foldl edit loaded).pairs pair →
          WrittenLikeDefault defaultJson pair → pair ∈ fresh.pairs := by
  have canonical := canonicalPairs_edits calls loaded
    (canonicalPairs_load defaults readsBack isLoaded)
  obtain ⟨fresh, isFresh, distinct, canonicalFresh, hasSaved⟩ :=
    exists_load defaults canonical noEmptyKey
  refine ⟨?_, fresh, isFresh, distinct, ?_, fun pair first like =>
    mem_loaded_of_firstComplete canonical hasSaved first like⟩
  · simp only [toJson, Json.elements, List.map_map]
    exact nodup_writtenEntries canonical defaultJson []
  · exact mem_elements_toJson.trans
      (mem_saved_loaded_iff defaults canonical distinct canonicalFresh hasSaved)

end Lawful

/-! ## Some texts -/

/-- A key, as a `from` or as a `to` of the second format. -/
def keyCode (key : String) : Json := .object [("key_code", .string key)]

omit [JsonText] in
/-- The text of a value, as far as the values below need it. -/
def sampleDump : Json → String
  | .object [] => "\x7b\x7d"
  | .object [(key, .string value)] => "\x7b\"" ++ key ++ "\":\"" ++ value ++ "\"\x7d"
  | .array [] => "[]"
  | .array [.object [(key, .string value)]] =>
      "[\x7b\"" ++ key ++ "\":\"" ++ value ++ "\"\x7d]"
  | .array _ => "[null]"
  | _ => "null"

def sampleValues : List Json :=
  [.object [], .array [], keyCode "f1", .array [keyCode "f1"], .array [keyCode "a"],
    .array [keyCode "b"]]

/-- The texts of a few values. A single pair is in natural order. -/
@[reducible]
def sampleText : JsonText where
  dump := sampleDump
  parseJsonc text := sampleValues.find? fun value => sampleDump value == text
  equal first second := sampleDump first == sampleDump second
  naturalSort pairs := pairs

omit [JsonText] in
/-- The text of an array, and of nothing else, starts with a bracket. -/
theorem isArray_eq_of_sampleDump (json : Json) :
    json.isArray = ((sampleDump json).toList.head? == some '[') := by
  unfold sampleDump
  split <;> simp_all [Json.isArray]

omit [JsonText] in
theorem readsBack_sample {json : Json} (isSample : json ∈ sampleValues) :
    @ReadsBack sampleText json := by
  simp only [sampleValues, List.mem_cons, List.not_mem_nil, or_false] at isSample
  rcases isSample with rfl | rfl | rfl | rfl | rfl | rfl <;> exact ⟨_, rfl, rfl, rfl⟩

omit [JsonText] in
/-- The sample text is lawful: it reads what it writes. -/
theorem lawful_sampleText : @LawfulJsonText sampleText := by
  let _ := sampleText
  refine { readsBack_object := readsBack_sample (by simp [sampleValues])
           readsBack_array := readsBack_sample (by simp [sampleValues])
           readsBack_parsed := fun text json isRead => ?_
           equal_self := fun first second same => beq_iff_eq.mpr same
           equal_comm := fun first second => ?_
           equal_congr := fun first second other same => ?_
           isArray_of_equal := fun first second same => ?_
           naturalSort_perm := fun pairs => .refl _ }
  · have isSample : json ∈ sampleValues := List.mem_of_find?_eq_some isRead
    refine ⟨readsBack_sample isSample, readsBack_sample ?_⟩
    simp only [sampleValues, List.mem_cons, List.not_mem_nil, or_false] at isSample
    rcases isSample with rfl | rfl | rfl | rfl | rfl | rfl <;>
      simp [sampleValues, migrateToJson, withoutEmptyKey, keyCode]
  · simp [equal, eq_comm]
  · exact congrArg (· == sampleDump other) same
  · rw [isArray_eq_of_sampleDump, isArray_eq_of_sampleDump, beq_iff_eq.mp same]

/-- The default of a function key, with its `to` in the second or the third format. -/
def defaultKey (toJson : Json) : Json :=
  .array [.object [("from", keyCode "f1"), ("to", toJson)]]

omit [JsonText] in
theorem defaults_defaultKey {toJson : Json}
    (readsBack : @ReadsBack sampleText (migrateToJson toJson)) :
    @Defaults sampleText (defaultKey toJson) := by
  let _ := sampleText
  refine { isArray := rfl
           entries := fun j isEntry => ?_
           distinct := List.pairwise_singleton _ _
           readsBack := fun entry isEntry => ?_ }
  · obtain rfl := List.mem_singleton.mp isEntry
    exact ⟨_, rfl, by simp, ⟨_, rfl, by simp⟩, _, rfl⟩
  · obtain rfl := List.mem_singleton.mp isEntry
    exact ⟨readsBack_sample (by simp [sampleValues, migrated, memberOf, Json.find?]), readsBack⟩

omit [JsonText] in
/-- A key that is set to something else than its default. -/
theorem survives_save_replaced :
    let _ := sampleText
    let defaultJson := defaultKey (.array [keyCode "a"])
    let edited := [Edit.replacePair 0 (sampleDump (keyCode "f1"))
      (sampleDump (.array [keyCode "b"]))].foldl edit
        ⟨[(sampleDump (keyCode "f1"), sampleDump (.array [keyCode "a"]))]⟩
    ∃ fresh, load defaultJson (edited.toJson defaultJson) = .ok fresh ∧
      (∀ j, j ∈ (fresh.toJson defaultJson).elements ↔ j ∈ (edited.toJson defaultJson).elements) ∧
      textOf (keyCode "f1", .array [keyCode "b"]) ∈ fresh.pairs := by
  let _ := sampleText
  let _ := lawful_sampleText
  have isDefaults : Defaults (defaultKey (.array [keyCode "a"])) :=
    defaults_defaultKey (readsBack_sample (by simp [sampleValues, migrateToJson]))
  obtain ⟨_, fresh, isFresh, _, same, firsts⟩ :=
    survives_save _ (.array []) isDefaults
      (fun entries areRead entry member => by
        obtain rfl := Except.ok.inj areRead
        exact absurd member List.not_mem_nil)
      ⟨[(sampleDump (keyCode "f1"), sampleDump (.array [keyCode "a"]))]⟩ rfl
      [.replacePair 0 (sampleDump (keyCode "f1")) (sampleDump (.array [keyCode "b"]))]
      (fun pair member json isRead => by
        obtain rfl := List.mem_singleton.mp member
        obtain rfl := Option.some.inj isRead
        simp [keyCode, Json.items])
  refine ⟨fresh, isFresh, same.mpr fun entry isEntry _ isObject => ?_,
    firsts _ ⟨[], [], rfl, rfl, fun _ member => absurd member List.not_mem_nil⟩ ?_⟩
  · obtain rfl := List.mem_singleton.mp isEntry
    exact absurd rfl isObject
  · intro entry isComplete other isOther _ equalTo
    obtain rfl := Option.some.inj isComplete
    obtain rfl := List.mem_singleton.mp isOther
    exact absurd equalTo (by decide)

/-- The next save has the entries of the save that was read. -/
def SameEntries (defaultJson : Json) (edited : SimpleModifications) : Prop :=
  ∀ fresh, load defaultJson (edited.toJson defaultJson) = .ok fresh →
    ∀ j, j ∈ (fresh.toJson defaultJson).elements ↔ j ∈ (edited.toJson defaultJson).elements

omit [JsonText] in
/-- An erased default in the second format comes back in the next save. -/
theorem erased_default_returns :
    let _ := sampleText
    ∃ loaded, Defaults (defaultKey (keyCode "a")) ∧
      load (defaultKey (keyCode "a")) (.array []) = .ok loaded ∧
      NoEmptyKey (loaded.edit (.erasePair 0)).pairs ∧
      ¬SameEntries (defaultKey (keyCode "a")) (loaded.edit (.erasePair 0)) := by
  let _ := sampleText
  have isDefaults : Defaults (defaultKey (keyCode "a")) := defaults_defaultKey
    (readsBack_sample (by simp [sampleValues, migrateToJson, keyCode, withoutEmptyKey]))
  refine ⟨⟨[(sampleDump (keyCode "f1"), sampleDump (.array [keyCode "a"]))]⟩, isDefaults, rfl,
    fun _ member => absurd member List.not_mem_nil, fun same => ?_⟩
  have back := (same _ rfl (entryJson (keyCode "f1", .array [keyCode "a"]))).mp List.mem_cons_self
  exact List.not_mem_nil back

end SimpleModifications

end Karabiner
