import Mathlib.Data.List.Perm.Basic
import Mathlib.Data.List.Nodup
import Karabiner.Types.Json

/-! # Simple modifications

`simple_modifications` keeps what the user has edited as pairs of texts, `from` and `to`, each
the text of a JSON value. A pair counts when its `from` is an object and its `to` an array, both
not empty. Several pairs may have one `from`: the first of them is saved, and none that equals
a default. What is saved is read over the defaults, where the last pair of a `from` stays.
-/

namespace Karabiner

/-- The texts of JSON values and their comparison, which belong to the JSON library, and the
natural order of texts. -/
class JsonText where
  /-- `json.dump()`. -/
  dump : Json → String
  /-- `json_utility::parse_jsonc`, without a result when it throws. -/
  parseJsonc : String → Option Json
  /-- `operator==`. -/
  equal : Json → Json → Bool
  /-- `std::sort` of the pairs by the natural order of `from`. -/
  naturalSort : List (String × String) → List (String × String)

namespace JsonText

variable [JsonText]

/-- The text of the value is read as a value of the same text and the same outline. -/
def ReadsBack (json : Json) : Prop :=
  ∃ read, parseJsonc (dump json) = some read ∧ dump read = dump json ∧
    read.outline = json.outline

end JsonText

/-- What `update` throws. -/
inductive SimpleModificationsError where
  /-- `json must be array or object`. -/
  | mustBeArrayOrObject (json : Json)
  /-- The `type_error` of `erase` on what is no object. -/
  | cannotErase (json : Json)

/-- `simple_modifications`: `from` and `to`, as their texts. -/
structure SimpleModifications where
  pairs : List (String × String)
deriving DecidableEq

namespace SimpleModifications

def initial : SimpleModifications := ⟨[]⟩

/-- The members without the one of the empty key. -/
def withoutEmptyKey (members : List (String × Json)) : List (String × Json) :=
  members.filter fun member => member.1 != ""

/-- `migrate_to_json`: an object of the second format becomes an array. -/
def migrateToJson : Json → Json
  | .object members =>
      match withoutEmptyKey members with
      | [] => .array []
      | result => .array [.object result]
  | json => json

end SimpleModifications

/-- What is known of the texts of values. Values of one text are equal to the same values, an
array is equal to arrays only, and a sort changes the order only. -/
class LawfulJsonText [JsonText] : Prop where
  readsBack_object : JsonText.ReadsBack (.object [])
  readsBack_array : JsonText.ReadsBack (.array [])
  /-- What was read is written as a text that it is read from. -/
  readsBack_parsed : ∀ text json, JsonText.parseJsonc text = some json →
    JsonText.ReadsBack json ∧ JsonText.ReadsBack (SimpleModifications.migrateToJson json)
  equal_self : ∀ first second, JsonText.dump first = JsonText.dump second →
    JsonText.equal first second = true
  equal_comm : ∀ first second, JsonText.equal first second = JsonText.equal second first
  equal_congr : ∀ first second other, JsonText.dump first = JsonText.dump second →
    JsonText.equal first other = JsonText.equal second other
  isArray_of_equal : ∀ first second, JsonText.equal first second = true →
    first.isArray = second.isArray
  naturalSort_perm : ∀ pairs, (JsonText.naturalSort pairs).Perm pairs

namespace SimpleModifications

/-! ## Reading -/

/-- `from_json.erase("")`. -/
def eraseEmptyKey : Json → Except SimpleModificationsError Json
  | .object members => .ok (.object (withoutEmptyKey members))
  | json => .error (.cannotErase json)

/-- One member of an entry; an unknown key is logged. -/
def readMember (entry : Option Json × Option Json) (member : String × Json) :
    Except SimpleModificationsError (Option Json × Option Json) :=
  match member.1 with
  | "from" => do return (some (← eraseEmptyKey member.2), entry.2)
  | "to" => .ok (entry.1, some (migrateToJson member.2))
  | _ => .ok entry

/-- An entry of the second or third format, when it has both members. -/
def readEntry : Json → Except SimpleModificationsError (Option (Json × Json))
  | .object members => do
      match ← members.foldlM readMember (none, none) with
      | (some fromJson, some toJson) => return some (fromJson, toJson)
      | _ => return none
  | _ => .ok none

/-- A member of the first format. The value of a string is never `empty()`. -/
def readFirstFormat (member : String × Json) : Option (Json × Json) :=
  match member.2 with
  | .string value =>
      some (if member.1 = "" then .object [] else .object [("key_code", .string member.1)],
        .array [.object [("key_code", .string value)]])
  | _ => none

/-- The entries that `handle_json` finds, in order. -/
def readEntries : Json → Except SimpleModificationsError (List (Json × Json))
  | .array values => do return (← values.mapM readEntry).filterMap id
  | .object members => .ok (members.filterMap readFirstFormat)
  | json => .error (.mustBeArrayOrObject json)

theorem mapM_of_each {f : Json → Except SimpleModificationsError (Option (Json × Json))}
    {g : Json → Json × Json} {values : List Json}
    (each : ∀ j ∈ values, f j = .ok (some (g j))) :
    values.mapM f = .ok (values.map fun j => some (g j)) := by
  induction values with
  | nil => rfl
  | cons j rest ih =>
      rw [List.mapM_cons, each j List.mem_cons_self,
        ih fun other member => each other (List.mem_cons_of_mem _ member)]
      rfl

/-- An array is read as its entries when each of its values is read as one. -/
theorem readEntries_array {g : Json → Json × Json} {values : List Json}
    (each : ∀ j ∈ values, readEntry j = .ok (some (g j))) :
    readEntries (.array values) = .ok (values.map g) := by
  have found : (values.map fun j => some (g j)).filterMap id = values.map g := by
    simp [List.filterMap_map]
  rw [readEntries, mapM_of_each each, ← found]
  rfl

variable [JsonText]

open JsonText

/-- `erase_by_from_json_string`. -/
def eraseByFromJsonString (pairs : List (String × String)) (fromText : String) :
    List (String × String) :=
  match parseJsonc fromText with
  | some json => pairs.filter fun pair => pair.1 != dump json
  | none => pairs

/-- An entry takes the place of the pairs that have its `from`. -/
def putEntry (pairs : List (String × String)) (entry : Json × Json) : List (String × String) :=
  eraseByFromJsonString pairs (dump entry.1) ++ [(dump entry.1, dump entry.2)]

/-- `update`. -/
def update (modifications : SimpleModifications) (json : Json) :
    Except SimpleModificationsError SimpleModifications := do
  let entries ← readEntries json
  return ⟨naturalSort (entries.foldl putEntry modifications.pairs)⟩

/-! ## Editing -/

/-- `push_back_pair`. -/
def pushBackPair (modifications : SimpleModifications) : SimpleModifications :=
  ⟨modifications.pairs ++ [(dump (.object []), dump (.array []))]⟩

/-- `erase_pair`. -/
def erasePair (modifications : SimpleModifications) (index : Nat) : SimpleModifications :=
  if index < modifications.pairs.length then ⟨modifications.pairs.eraseIdx index⟩
  else modifications

/-- `replace_pair`. -/
def replacePair (modifications : SimpleModifications) (index : Nat) (fromText toText : String) :
    SimpleModifications :=
  match parseJsonc fromText, parseJsonc toText with
  | some fromJson, some toJson =>
      ⟨modifications.pairs.set index (dump fromJson, dump (migrateToJson toJson))⟩
  | _, _ => modifications

/-- The first pair of the `from` gets another `to`. -/
def replaceFirst (fromText toText : String) : List (String × String) → List (String × String)
  | [] => []
  | pair :: rest =>
      if pair.1 = fromText then (pair.1, toText) :: rest
      else pair :: replaceFirst fromText toText rest

/-- `replace_second`. -/
def replaceSecond (modifications : SimpleModifications) (fromText toText : String) :
    SimpleModifications :=
  match parseJsonc fromText, parseJsonc toText with
  | some fromJson, some toJson =>
      ⟨replaceFirst (dump fromJson) (dump (migrateToJson toJson)) modifications.pairs⟩
  | _, _ => modifications

/-! ## Writing -/

/-- The values of a pair that counts. -/
def complete (pair : String × String) : Option (Json × Json) :=
  match parseJsonc pair.1, parseJsonc pair.2 with
  | some (.object (first :: members)), some (.array (value :: values)) =>
      some (.object (first :: members), .array (value :: values))
  | _, _ => none

/-- `j[key]`. -/
def memberOf (json : Json) (key : String) : Json := (json.find? key).getD .null

/-- The entry is the one of a default. -/
def isDefault (defaultJson : Json) (entry : Json × Json) : Bool :=
  defaultJson.elements.any fun j =>
    equal entry.1 (memberOf j "from") && equal entry.2 (memberOf j "to")

/-- The entries that `to_json` writes, after those with a `from` of the set. -/
def writtenEntries (defaultJson : Json) (froms : List String) :
    List (String × String) → List (Json × Json)
  | [] => []
  | pair :: rest =>
      match complete pair with
      | none => writtenEntries defaultJson froms rest
      | some entry =>
          if pair.1 ∈ froms then writtenEntries defaultJson froms rest
          else if isDefault defaultJson entry then
            writtenEntries defaultJson (pair.1 :: froms) rest
          else entry :: writtenEntries defaultJson (pair.1 :: froms) rest

/-- The JSON of an entry. -/
def entryJson (entry : Json × Json) : Json := .object [("from", entry.1), ("to", entry.2)]

/-- `to_json`. -/
def toJson (modifications : SimpleModifications) (defaultJson : Json) : Json :=
  .array ((writtenEntries defaultJson [] modifications.pairs).map entryJson)

theorem isObject_of_complete {pair : String × String} {entry : Json × Json}
    (isComplete : complete pair = some entry) : ∃ members, entry.1 = .object members := by
  unfold complete at isComplete
  split at isComplete
  · obtain rfl := Option.some.inj isComplete
    exact ⟨_, rfl⟩
  · cases isComplete

/-- The from objects that are written are objects, which the reader asks for. -/
theorem isObject_of_mem_writtenEntries {defaultJson : Json} {froms : List String}
    {pairs : List (String × String)} {entry : Json × Json}
    (isWritten : entry ∈ writtenEntries defaultJson froms pairs) :
    ∃ members, entry.1 = .object members := by
  induction pairs generalizing froms with
  | nil => cases isWritten
  | cons pair rest ih =>
      unfold writtenEntries at isWritten
      split at isWritten
      · exact ih isWritten
      · rename_i own isComplete
        split at isWritten
        · exact ih isWritten
        · split at isWritten
          · exact ih isWritten
          · rcases List.mem_cons.mp isWritten with rfl | later
            · exact isObject_of_complete isComplete
            · exact ih later

/-- What is written is accepted. -/
theorem exists_update_toJson (modifications saved : SimpleModifications) (defaultJson : Json) :
    ∃ updated, modifications.update (saved.toJson defaultJson) = .ok updated := by
  have areRead : readEntries (saved.toJson defaultJson) =
      .ok (((writtenEntries defaultJson [] saved.pairs).map entryJson).map fun j =>
        (.object (withoutEmptyKey (memberOf j "from").items),
          migrateToJson (memberOf j "to"))) := by
    refine readEntries_array fun j isWritten => ?_
    obtain ⟨⟨fromJson, toJson⟩, isEntry, rfl⟩ := List.mem_map.mp isWritten
    obtain ⟨members, rfl⟩ := isObject_of_mem_writtenEntries isEntry
    rfl
  rw [update, areRead]
  exact ⟨_, rfl⟩

/-! ## Texts -/

/-- A text that its value is written as. -/
def Canonical (text : String) : Prop := ∃ json, parseJsonc text = some json ∧ dump json = text

theorem canonical_dump {json : Json} (readsBack : ReadsBack json) : Canonical (dump json) := by
  obtain ⟨read, isRead, sameText, _⟩ := readsBack
  exact ⟨read, isRead, sameText⟩

/-- What is read from a text that it is written as reads back. -/
theorem Canonical.readsBack {text : String} (canonical : Canonical text) {json : Json}
    (isRead : parseJsonc text = some json) : dump json = text ∧ ReadsBack json := by
  obtain ⟨read, isRead', sameText⟩ := canonical
  obtain rfl : read = json := by rw [isRead, Option.some.injEq] at isRead'; exact isRead'.symm
  exact ⟨sameText, read, sameText ▸ isRead, rfl, rfl⟩

def CanonicalPairs (pairs : List (String × String)) : Prop :=
  ∀ pair ∈ pairs, Canonical pair.1 ∧ Canonical pair.2

/-- The texts of an entry. -/
def textOf (entry : Json × Json) : String × String := (dump entry.1, dump entry.2)

def ReadsBackEntry (entry : Json × Json) : Prop := ReadsBack entry.1 ∧ ReadsBack entry.2

/-- What is complete is an object and an array that are not empty. -/
theorem complete_eq_some {pair : String × String} {entry : Json × Json}
    (isComplete : complete pair = some entry) :
    parseJsonc pair.1 = some entry.1 ∧ parseJsonc pair.2 = some entry.2 ∧
      (∃ first members, entry.1 = .object (first :: members)) ∧
      ∃ value values, entry.2 = .array (value :: values) := by
  unfold complete at isComplete
  split at isComplete
  · rename_i isFrom isTo
    obtain rfl := Option.some.inj isComplete
    exact ⟨isFrom, isTo, ⟨_, _, rfl⟩, _, _, rfl⟩
  · cases isComplete

theorem textOf_of_complete {pair : String × String} {entry : Json × Json}
    (canonical : Canonical pair.1 ∧ Canonical pair.2)
    (isComplete : complete pair = some entry) :
    textOf entry = pair ∧ ReadsBackEntry entry := by
  obtain ⟨isFrom, isTo, _, _⟩ := complete_eq_some isComplete
  obtain ⟨sameFrom, readsFrom⟩ := canonical.1.readsBack isFrom
  obtain ⟨sameTo, readsTo⟩ := canonical.2.readsBack isTo
  exact ⟨Prod.ext sameFrom sameTo, readsFrom, readsTo⟩

/-! ## Pairs after an update -/

theorem mem_putEntry {pairs : List (String × String)} {entry : Json × Json}
    (readsBack : ReadsBack entry.1) (pair : String × String) :
    pair ∈ putEntry pairs entry ↔
      pair = textOf entry ∨ pair ∈ pairs ∧ pair.1 ≠ dump entry.1 := by
  obtain ⟨read, isRead, sameText, _⟩ := readsBack
  simp [putEntry, eraseByFromJsonString, isRead, sameText, textOf, or_comm]

/-- Entries of different `from` take the place of the pairs that have one of them. -/
theorem mem_foldl_putEntry {entries : List (Json × Json)}
    (readsBack : ∀ entry ∈ entries, ReadsBackEntry entry)
    (distinct : (entries.map fun entry => dump entry.1).Nodup) (pairs : List (String × String))
    (pair : String × String) :
    pair ∈ entries.foldl putEntry pairs ↔
      (∃ entry ∈ entries, pair = textOf entry) ∨
        pair ∈ pairs ∧ ∀ entry ∈ entries, pair.1 ≠ dump entry.1 := by
  induction entries generalizing pairs with
  | nil => simp
  | cons entry rest ih =>
      obtain ⟨notLater, distinctRest⟩ := List.nodup_cons.mp distinct
      rw [List.foldl_cons, ih (fun entry member => readsBack entry (List.mem_cons_of_mem _ member))
        distinctRest, mem_putEntry (readsBack entry List.mem_cons_self).1]
      constructor
      · rintro (⟨later, member, isLater⟩ | ⟨isEntry | ⟨before, other⟩, others⟩)
        · exact .inl ⟨later, List.mem_cons_of_mem _ member, isLater⟩
        · exact .inl ⟨entry, List.mem_cons_self, isEntry⟩
        · exact .inr ⟨before, List.forall_mem_cons.mpr ⟨other, others⟩⟩
      · rintro (⟨found, member, isFound⟩ | ⟨before, others⟩)
        · rcases List.mem_cons.mp member with rfl | later
          · refine .inr ⟨.inl isFound, fun other isOther same => notLater ?_⟩
            rw [isFound] at same
            exact List.mem_map.mpr ⟨other, isOther, same.symm⟩
          · exact .inl ⟨found, later, isFound⟩
        · obtain ⟨other, others⟩ := List.forall_mem_cons.mp others
          exact .inr ⟨.inr ⟨before, other⟩, others⟩

/-- The pairs have different `from`. -/
def DistinctFroms (pairs : List (String × String)) : Prop := (pairs.map Prod.fst).Nodup

/-- Entries that read back are put into the table under different from objects. -/
theorem DistinctFroms.foldl_putEntry {entries : List (Json × Json)}
    (readsBack : ∀ entry ∈ entries, ReadsBackEntry entry) {pairs : List (String × String)}
    (distinct : DistinctFroms pairs) : DistinctFroms (entries.foldl putEntry pairs) := by
  induction entries generalizing pairs with
  | nil => exact distinct
  | cons entry rest ih =>
      apply ih fun entry member => readsBack entry (List.mem_cons_of_mem _ member)
      obtain ⟨read, isRead, sameText, _⟩ := (readsBack entry List.mem_cons_self).1
      rw [DistinctFroms, putEntry, List.map_append, List.nodup_append]
      refine ⟨?_, List.nodup_singleton _, ?_⟩
      · rw [eraseByFromJsonString, isRead]
        exact distinct.sublist (List.filter_sublist.map _)
      · simp only [eraseByFromJsonString, isRead, sameText, List.map_cons, List.map_nil,
          List.mem_singleton]
        rintro fromText member other rfl same
        obtain ⟨pair, kept, rfl⟩ := List.mem_map.mp member
        obtain ⟨_, different⟩ := List.mem_filter.mp kept
        exact absurd same (by simpa using different)

theorem CanonicalPairs.foldl_putEntry {entries : List (Json × Json)}
    (readsBack : ∀ entry ∈ entries, ReadsBackEntry entry) {pairs : List (String × String)}
    (canonical : CanonicalPairs pairs) : CanonicalPairs (entries.foldl putEntry pairs) := by
  induction entries generalizing pairs with
  | nil => exact canonical
  | cons entry rest ih =>
      apply ih fun entry member => readsBack entry (List.mem_cons_of_mem _ member)
      intro pair member
      have own := readsBack entry List.mem_cons_self
      rcases (mem_putEntry own.1 pair).mp member with rfl | ⟨before, _⟩
      · exact ⟨canonical_dump own.1, canonical_dump own.2⟩
      · exact canonical pair before

/-! ## What is written -/

/-- The first complete pair of its `from`. -/
def FirstComplete (pairs : List (String × String)) (pair : String × String) : Prop :=
  ∃ before after, pairs = before ++ pair :: after ∧ (complete pair).isSome = true ∧
    ∀ other ∈ before, other.1 = pair.1 → complete other = none

/-- The first complete pair of a from object is the head, or one of the rest if the head has another
from object or is incomplete. -/
theorem firstComplete_cons (first : String × String) (rest : List (String × String))
    (pair : String × String) :
    FirstComplete (first :: rest) pair ↔
      pair = first ∧ (complete first).isSome = true ∨
        FirstComplete rest pair ∧ (first.1 = pair.1 → complete first = none) := by
  constructor
  · rintro ⟨before, after, split, isComplete, earlier⟩
    cases before with
    | nil =>
        obtain ⟨rfl, rfl⟩ := List.cons.inj split
        exact .inl ⟨rfl, isComplete⟩
    | cons other before =>
        obtain ⟨rfl, rfl⟩ := List.cons.inj split
        obtain ⟨here, earlier⟩ := List.forall_mem_cons.mp earlier
        exact .inr ⟨⟨before, after, rfl, isComplete, earlier⟩, here⟩
  · rintro (⟨rfl, isComplete⟩ | ⟨⟨before, after, rfl, isComplete, earlier⟩, here⟩)
    · exact ⟨[], rest, rfl, isComplete, fun _ member => absurd member List.not_mem_nil⟩
    · exact ⟨first :: before, after, rfl, isComplete, List.forall_mem_cons.mpr ⟨here, earlier⟩⟩

theorem FirstComplete.mem {pairs : List (String × String)} {pair : String × String}
    (first : FirstComplete pairs pair) : pair ∈ pairs := by
  obtain ⟨before, after, rfl, _⟩ := first
  exact List.mem_append_right _ List.mem_cons_self

/-- There is at most one first complete pair of a from object. -/
theorem FirstComplete.unique {pairs : List (String × String)} {pair other : String × String}
    (first : FirstComplete pairs pair) (isOther : FirstComplete pairs other)
    (sameFrom : pair.1 = other.1) : pair = other := by
  induction pairs with
  | nil => exact absurd first.mem List.not_mem_nil
  | cons head rest ih =>
      rcases (firstComplete_cons ..).mp first with ⟨rfl, isComplete⟩ | ⟨first, here⟩
      · rcases (firstComplete_cons ..).mp isOther with ⟨rfl, _⟩ | ⟨_, incomplete⟩
        · rfl
        · rw [incomplete sameFrom] at isComplete
          cases isComplete
      · rcases (firstComplete_cons ..).mp isOther with ⟨rfl, isComplete⟩ | ⟨isOther, _⟩
        · rw [here sameFrom.symm] at isComplete
          cases isComplete
        · exact ih first isOther

/-- A `from` with a complete pair has a first one. -/
theorem exists_firstComplete {pairs : List (String × String)} {pair : String × String}
    (member : pair ∈ pairs) (isComplete : (complete pair).isSome = true) :
    ∃ first, first.1 = pair.1 ∧ FirstComplete pairs first := by
  induction pairs with
  | nil => cases member
  | cons head rest ih =>
      by_cases here : head.1 = pair.1 ∧ (complete head).isSome = true
      · exact ⟨head, here.1, (firstComplete_cons ..).mpr (.inl ⟨rfl, here.2⟩)⟩
      · have later : pair ∈ rest := by
          rcases List.mem_cons.mp member with rfl | later
          · exact absurd ⟨rfl, isComplete⟩ here
          · exact later
        obtain ⟨first, sameFrom, isFirst⟩ := ih later
        refine ⟨first, sameFrom, (firstComplete_cons ..).mpr (.inr ⟨isFirst, fun same => ?_⟩)⟩
        exact Option.not_isSome_iff_eq_none.mp fun some => here ⟨same.trans sameFrom, some⟩

/-- Among pairs of different `from` every complete one is the first. -/
theorem DistinctFroms.firstComplete {pairs : List (String × String)}
    (distinct : DistinctFroms pairs) {pair : String × String} (member : pair ∈ pairs)
    (isComplete : (complete pair).isSome = true) : FirstComplete pairs pair := by
  obtain ⟨before, after, rfl⟩ := List.append_of_mem member
  refine ⟨before, after, rfl, isComplete, fun other isBefore same => ?_⟩
  rw [DistinctFroms, List.map_append, List.nodup_append] at distinct
  exact absurd same (distinct.2.2 _ (List.mem_map_of_mem isBefore) _ (by simp))

theorem FirstComplete.isSome {pairs : List (String × String)} {pair : String × String}
    (first : FirstComplete pairs pair) : (complete pair).isSome = true := by
  obtain ⟨_, _, _, isComplete, _⟩ := first
  exact isComplete

/-- The first complete pairs are written, save the defaults. -/
theorem mem_writtenEntries (defaultJson : Json) (pairs : List (String × String))
    (froms : List String) (entry : Json × Json) :
    entry ∈ writtenEntries defaultJson froms pairs ↔
      ∃ pair, pair.1 ∉ froms ∧ FirstComplete pairs pair ∧ complete pair = some entry ∧
        isDefault defaultJson entry = false := by
  induction pairs generalizing froms with
  | nil => simp [writtenEntries, FirstComplete]
  | cons head rest ih =>
      simp only [firstComplete_cons, writtenEntries]
      cases isComplete : complete head with
      | none =>
          simp only [ih]
          exact exists_congr fun pair => by simp
      | some own =>
          dsimp only
          -- from here on the `from` of the head counts as remembered
          have later : ∀ pair, pair.1 ∉ head.1 :: froms ∧ FirstComplete rest pair ↔
              pair.1 ∉ froms ∧ FirstComplete rest pair ∧ ¬head.1 = pair.1 := by
            intro pair
            simp only [List.mem_cons, not_or, eq_comm (a := head.1)]
            tauto
          by_cases remembered : head.1 ∈ froms
          · rw [if_pos remembered, ih]
            refine exists_congr fun pair => ⟨?_, ?_⟩
            · rintro ⟨fresh, first, rest⟩
              exact ⟨fresh, .inr ⟨first, fun same => absurd (same ▸ remembered) fresh⟩, rest⟩
            · rintro ⟨fresh, ⟨rfl, _⟩ | ⟨first, _⟩, rest⟩
              · exact absurd remembered fresh
              · exact ⟨fresh, first, rest⟩
          · have tail : entry ∈ writtenEntries defaultJson (head.1 :: froms) rest ↔
                ∃ pair, pair.1 ∉ froms ∧ (FirstComplete rest pair ∧ ¬head.1 = pair.1) ∧
                  complete pair = some entry ∧ isDefault defaultJson entry = false := by
              rw [ih]
              refine exists_congr fun pair => ?_
              rw [← and_assoc, later, and_assoc]
            rw [if_neg remembered]
            split
            · rename_i skipped
              rw [tail]
              refine exists_congr fun pair => ⟨?_, ?_⟩
              · rintro ⟨fresh, ⟨first, other⟩, rest⟩
                exact ⟨fresh, .inr ⟨first, fun same => absurd same other⟩, rest⟩
              · rintro ⟨fresh, ⟨rfl, _⟩ | ⟨first, other⟩, found, kept⟩
                · obtain rfl := Option.some.inj (isComplete.symm.trans found)
                  rw [skipped] at kept
                  cases kept
                · exact ⟨fresh, ⟨first, fun same => nomatch other same⟩, found, kept⟩
            · rename_i written
              rw [List.mem_cons, tail]
              constructor
              · rintro (rfl | ⟨pair, fresh, ⟨first, other⟩, rest⟩)
                · exact ⟨head, remembered, .inl ⟨rfl, rfl⟩, isComplete,
                    Bool.eq_false_iff.mpr written⟩
                · exact ⟨pair, fresh, .inr ⟨first, fun same => absurd same other⟩, rest⟩
              · rintro ⟨pair, fresh, ⟨rfl, _⟩ | ⟨first, other⟩, found, kept⟩
                · exact .inl (Option.some.inj (found.symm.trans isComplete))
                · exact .inr ⟨pair, fresh, ⟨first, fun same => nomatch other same⟩, found, kept⟩

/-! ## Edits -/

/-- A call of the settings window. -/
inductive Edit where
  | pushBackPair
  | erasePair (index : Nat)
  | replacePair (index : Nat) (fromText toText : String)
  | replaceSecond (fromText toText : String)

def edit (modifications : SimpleModifications) : Edit → SimpleModifications
  | .pushBackPair => modifications.pushBackPair
  | .erasePair index => modifications.erasePair index
  | .replacePair index fromText toText => modifications.replacePair index fromText toText
  | .replaceSecond fromText toText => modifications.replaceSecond fromText toText

omit [JsonText] in
/-- Replacing the first pair of a from object adds no other pair than the new one. -/
theorem mem_replaceFirst {fromText toText : String} {pairs : List (String × String)}
    {pair : String × String} (member : pair ∈ replaceFirst fromText toText pairs) :
    pair ∈ pairs ∨ pair = (fromText, toText) := by
  induction pairs with
  | nil => exact .inl member
  | cons head rest ih =>
      unfold replaceFirst at member
      split at member
      · rename_i same
        rcases List.mem_cons.mp member with rfl | later
        · exact .inr (by rw [same])
        · exact .inl (List.mem_cons_of_mem _ later)
      · rcases List.mem_cons.mp member with rfl | later
        · exact .inl List.mem_cons_self
        · exact (ih later).imp_left (List.mem_cons_of_mem _)

section Lawful

variable [lawful : LawfulJsonText]

theorem canonical_replaced {fromText toText : String} {fromJson toJson : Json}
    (isFrom : parseJsonc fromText = some fromJson) (isTo : parseJsonc toText = some toJson) :
    Canonical (dump fromJson) ∧ Canonical (dump (migrateToJson toJson)) :=
  ⟨canonical_dump (lawful.readsBack_parsed _ _ isFrom).1,
    canonical_dump (lawful.readsBack_parsed _ _ isTo).2⟩

/-- An edit leaves texts that their values are written as. -/
theorem canonicalPairs_edit (modifications : SimpleModifications) (call : Edit)
    (canonical : CanonicalPairs modifications.pairs) :
    CanonicalPairs (modifications.edit call).pairs := by
  cases call with
  | pushBackPair =>
      intro pair member
      rcases List.mem_append.mp member with before | new
      · exact canonical pair before
      · obtain rfl := List.mem_singleton.mp new
        exact ⟨canonical_dump lawful.readsBack_object, canonical_dump lawful.readsBack_array⟩
  | erasePair index =>
      simp only [edit, erasePair]
      split
      · exact fun pair member => canonical pair (List.mem_of_mem_eraseIdx member)
      · exact canonical
  | replacePair index fromText toText =>
      simp only [edit, replacePair]
      split
      · rename_i isFrom isTo
        intro pair member
        rcases List.mem_or_eq_of_mem_set member with before | rfl
        · exact canonical pair before
        · exact canonical_replaced isFrom isTo
      · exact canonical
  | replaceSecond fromText toText =>
      simp only [edit, replaceSecond]
      split
      · rename_i isFrom isTo
        intro pair member
        rcases mem_replaceFirst member with before | rfl
        · exact canonical pair before
        · exact canonical_replaced isFrom isTo
      · exact canonical

theorem canonicalPairs_edits (calls : List Edit) (modifications : SimpleModifications)
    (canonical : CanonicalPairs modifications.pairs) :
    CanonicalPairs (calls.foldl edit modifications).pairs := by
  induction calls generalizing modifications with
  | nil => exact canonical
  | cons call rest ih => exact ih _ (canonicalPairs_edit modifications call canonical)

/-! ## Updates -/

omit lawful in
theorem update_eq_ok {modifications : SimpleModifications} {json : Json}
    {entries : List (Json × Json)} (areRead : readEntries json = .ok entries) :
    modifications.update json =
      .ok ⟨naturalSort (entries.foldl putEntry modifications.pairs)⟩ := by
  simp only [update, areRead]
  rfl

/-- The pairs after an update, whatever their order. -/
theorem mem_updated {modifications : SimpleModifications} {entries : List (Json × Json)}
    (pair : String × String) :
    pair ∈ naturalSort (entries.foldl putEntry modifications.pairs) ↔
      pair ∈ entries.foldl putEntry modifications.pairs :=
  (lawful.naturalSort_perm _).mem_iff

theorem canonicalPairs_updated {modifications : SimpleModifications}
    {entries : List (Json × Json)} (readsBack : ∀ entry ∈ entries, ReadsBackEntry entry)
    (canonical : CanonicalPairs modifications.pairs) :
    CanonicalPairs (naturalSort (entries.foldl putEntry modifications.pairs)) :=
  fun pair member =>
    canonical.foldl_putEntry readsBack pair ((lawful.naturalSort_perm _).mem_iff.mp member)

theorem distinctFroms_updated {modifications : SimpleModifications}
    {entries : List (Json × Json)} (readsBack : ∀ entry ∈ entries, ReadsBackEntry entry)
    (distinct : DistinctFroms modifications.pairs) :
    DistinctFroms (naturalSort (entries.foldl putEntry modifications.pairs)) :=
  ((lawful.naturalSort_perm _).map Prod.fst).nodup_iff.mpr (distinct.foldl_putEntry readsBack)

end Lawful

end SimpleModifications

end Karabiner
