import Karabiner.Configuration.LoadedConfiguration
import Karabiner.Configuration.SavedModifications

/-! # The selected profile

Whether a profile is selected depends on the flags of the profiles and their order only. An edit
changes the selected profile when it selects another, when it erases it, and when it moves a
profile that would be selected past another one: several profiles may have the flag, and without
a flag the first one counts.
-/

namespace Karabiner

namespace SelectedFlag

/-! ## Identities and flags -/

/-- The first that has the flag, or the first. -/
def selected (flags : List (Nat × Bool)) : Option (Nat × Bool) :=
  (flags.find? Prod.snd).or flags.head?

/-- What may be selected: with a flag the others may not. -/
def candidate (flags : List (Nat × Bool)) (entry : Nat × Bool) : Bool :=
  !flags.any Prod.snd || entry.2

theorem mem_of_selected {flags : List (Nat × Bool)} {entry : Nat × Bool}
    (isSelected : selected flags = some entry) : entry ∈ flags := by
  rcases Option.or_eq_some_iff.mp isSelected with found | ⟨_, first⟩
  · exact List.mem_of_find?_eq_some found
  · exact List.mem_of_head? first

/-- The first candidate is selected. -/
theorem selected_eq_find?_candidate (flags : List (Nat × Bool)) :
    selected flags = flags.find? (candidate flags) := by
  cases any : flags.any Prod.snd with
  | true =>
      have same : candidate flags = Prod.snd := by
        funext entry
        simp [candidate, any]
      rw [selected, same]
      obtain ⟨entry, member, isFlagged⟩ := List.any_eq_true.mp any
      cases found : flags.find? Prod.snd with
      | none =>
          rw [List.find?_eq_none] at found
          exact absurd isFlagged (found entry member)
      | some first => rfl
  | false =>
      have same : candidate flags = fun _ => true := by
        funext entry
        simp [candidate, any]
      have none : flags.find? Prod.snd = none := by
        rw [List.find?_eq_none]
        exact List.any_eq_false.mp any
      rw [selected, same, none, Option.none_or]
      cases flags <;> rfl

theorem selected_append {flags : List (Nat × Bool)} (some : flags ≠ []) (id : Nat) :
    selected (flags ++ [(id, false)]) = selected flags := by
  have head : (flags ++ [(id, false)]).head? = flags.head? := by
    cases flags with
    | nil => exact absurd rfl some
    | cons first rest => rfl
  rw [selected, selected, head, List.find?_append]
  simp

/-- An entry that is not the selected one can be left out without changing which one is selected. -/
theorem selected_append_of_ne {front rest : List (Nat × Bool)} {entry : Nat × Bool}
    (other : selected (front ++ entry :: rest) ≠ some entry) :
    selected (front ++ rest) = selected (front ++ entry :: rest) := by
  unfold selected at other ⊢
  rw [List.find?_append, List.find?_append] at *
  cases inFront : front.find? Prod.snd with
  | some first => simp
  | none =>
      rw [inFront, Option.none_or] at other
      rw [Option.none_or, Option.none_or]
      obtain ⟨id, flag⟩ := entry
      cases flag with
      | true => exact absurd rfl other
      | false =>
          rw [List.find?_cons_of_neg (by simp)] at other ⊢
          cases front with
          | cons first front => rfl
          | nil =>
              cases inRest : rest.find? Prod.snd with
              | some first => rfl
              | none =>
                  rw [inRest] at other
                  exact absurd rfl other

/-- What is selected stays so when another one is erased. -/
theorem selected_eraseIdx {flags : List (Nat × Bool)} {index : Nat} {entry : Nat × Bool}
    (isErased : flags[index]? = some entry) (other : selected flags ≠ some entry) :
    selected (flags.eraseIdx index) = selected flags := by
  obtain ⟨inRange, rfl⟩ := List.getElem?_eq_some_iff.mp isErased
  have split : flags = flags.take index ++ flags[index] :: flags.drop (index + 1) := by
    rw [← List.drop_eq_getElem_cons inRange, List.take_append_drop]
  have same := congrArg selected split
  rw [same] at other
  rw [List.eraseIdx_eq_take_drop_succ, selected_append_of_ne other, ← same]

/-- The one that gets the flag alone is selected. -/
theorem selected_of_only {flags : List (Nat × Bool)} {index : Nat}
    (inRange : index < flags.length) :
    selected (flags.mapIdx fun i entry => (entry.1, i == index)) =
      some (flags[index].1, true) := by
  have found : (flags.mapIdx fun i entry => (entry.1, i == index)).find? Prod.snd =
      some (flags[index].1, true) := by
    rw [List.find?_eq_some_iff_getElem]
    refine ⟨rfl, index, by simpa using inRange, by simp, fun before isBefore => ?_⟩
    simp
    omega
  rw [selected, found, Option.some_or]

/-- A move changes what is selected exactly when it moves it past another candidate. -/
theorem selected_moveElement_iff {flags : List (Nat × Bool)} (distinct : flags.Nodup)
    (sourceIndex destinationIndex : Nat) :
    selected (VectorUtility.moveElement flags sourceIndex destinationIndex) = selected flags ↔
      ¬VectorUtility.PassesAnother (candidate flags) flags sourceIndex destinationIndex := by
  have sameCandidates : candidate (VectorUtility.moveElement flags sourceIndex destinationIndex) =
      candidate flags := by
    funext entry
    rw [candidate, candidate, (VectorUtility.moveElement_perm flags _ _).any_eq]
  rw [selected_eq_find?_candidate, selected_eq_find?_candidate, sameCandidates,
    VectorUtility.find?_moveElement_iff distinct]

end SelectedFlag

namespace LoadedConfiguration

variable {G M C : Type}

/-! ## Profiles as flags -/

/-- The identities of the profiles, with their flags. -/
def flags (configuration : LoadedConfiguration G M C) : List (Nat × Bool) :=
  configuration.profiles.map fun object => (object.id, object.profile.selected.value)

/-- The identity of the selected profile. -/
def selectedId (configuration : LoadedConfiguration G M C) : Option Nat :=
  configuration.getSelectedProfile.map ProfileObject.id

theorem selectedId_eq (configuration : LoadedConfiguration G M C) :
    configuration.selectedId = (SelectedFlag.selected configuration.flags).map Prod.fst := by
  rw [selectedId, getSelectedProfile, SelectedFlag.selected, flags, List.find?_map, List.head?_map,
    ← Option.map_or, Option.map_map]
  rfl

/-- There is a profile, and identities are never used twice. -/
structure Sound (configuration : LoadedConfiguration G M C) : Prop where
  some : configuration.flags ≠ []
  distinct : (configuration.flags.map Prod.fst).Nodup
  made : ∀ id ∈ configuration.flags.map Prod.fst, id < configuration.made

/-- Two entries of the flags are one when their identities are. -/
theorem Sound.selectedId_eq_iff {configuration : LoadedConfiguration G M C}
    (sound : configuration.Sound) {flags : List (Nat × Bool)}
    (same : flags.Perm configuration.flags) :
    (SelectedFlag.selected flags).map Prod.fst = configuration.selectedId ↔
      SelectedFlag.selected flags = SelectedFlag.selected configuration.flags := by
  rw [selectedId_eq]
  refine ⟨fun sameId => ?_, congrArg (Option.map Prod.fst)⟩
  have distinct := sound.distinct
  cases isFirst : SelectedFlag.selected flags with
  | none => rw [isFirst] at sameId; exact (Option.map_eq_none_iff.mp sameId.symm).symm
  | some first =>
      rw [isFirst] at sameId
      obtain ⟨second, isSecond, sameEntry⟩ := Option.map_eq_some_iff.mp sameId.symm
      have inFlags := same.mem_iff.mp (SelectedFlag.mem_of_selected isFirst)
      rw [isSecond, List.inj_on_of_nodup_map distinct (SelectedFlag.mem_of_selected isSecond)
        inFlags sameEntry]

/-! ## Edits -/

theorem flags_setProfileName (configuration : LoadedConfiguration G M C) (index : Nat)
    (name : String) : (configuration.setProfileName index name).flags = configuration.flags := by
  refine List.ext_getElem? fun i => ?_
  simp only [flags, setProfileName, List.getElem?_map, List.getElem?_modify]
  cases configuration.profiles[i]? with
  | none => rfl
  | some object =>
      by_cases isIndex : index = i
      · simp [isIndex]
      · simp [isIndex]

theorem flags_selectProfile {configuration : LoadedConfiguration G M C} {index : Nat}
    (inRange : index < configuration.profiles.length) :
    (configuration.selectProfile index).flags =
      configuration.flags.mapIdx fun i entry => (entry.1, i == index) := by
  rw [selectProfile, if_pos inRange]
  refine List.ext_getElem? fun i => ?_
  simp only [flags, List.getElem?_map, List.getElem?_mapIdx]
  cases configuration.profiles[i]? <;> rfl

theorem flags_pushBack (configuration : LoadedConfiguration G M C) (profile : Profile C) :
    (configuration.pushBack profile).flags =
      configuration.flags ++ [(configuration.made, profile.selected.value)] := by
  simp [pushBack, flags]

theorem flags_moveProfile (configuration : LoadedConfiguration G M C)
    (sourceIndex destinationIndex : Nat) :
    (configuration.moveProfile sourceIndex destinationIndex).flags =
      VectorUtility.moveElement configuration.flags sourceIndex destinationIndex :=
  VectorUtility.map_moveElement ..

theorem flags_eraseIdx (configuration : LoadedConfiguration G M C) (index : Nat) :
    flags { configuration with profiles := configuration.profiles.eraseIdx index } =
      configuration.flags.eraseIdx index := by
  rw [flags, flags, List.eraseIdx_map]

section Edits

variable [SettingsObject G] [SettingsObject M] [SettingsObject C] [JsonText]

omit [SettingsObject G] [SettingsObject M] in
/-- A profile that is added does not have the flag. -/
theorem edit_pushBack_cases (configuration : LoadedConfiguration G M C) :
    configuration.edit .pushBack = configuration ∨ ∃ profile : Profile C,
      profile.selected.value = false ∧
        configuration.edit .pushBack = configuration.pushBack profile := by
  simp only [LoadedConfiguration.edit]
  cases pushed : configuration.pushBackProfile with
  | error thrown => exact .inl rfl
  | ok added =>
      obtain ⟨profile, isRead, same⟩ := exists_of_bind_eq_ok pushed
      obtain rfl := Except.ok.inj same
      exact .inr ⟨profile, Profile.selected_eq_false isRead (by simp), rfl⟩

omit [SettingsObject G] [SettingsObject M] in
theorem edit_duplicate_cases (configuration : LoadedConfiguration G M C) (source : Profile C) :
    configuration.edit (.duplicate source) = configuration ∨ ∃ profile : Profile C,
      profile.selected.value = false ∧
        configuration.edit (.duplicate source) = configuration.pushBack profile := by
  simp only [LoadedConfiguration.edit]
  cases pushed : configuration.duplicateProfile source with
  | error thrown => exact .inl rfl
  | ok added =>
      obtain ⟨copy, _, same⟩ := exists_of_bind_eq_ok pushed
      obtain rfl := Except.ok.inj same
      exact .inr ⟨_, rfl, rfl⟩

omit [SettingsObject G] [SettingsObject M] [SettingsObject C] [JsonText] in
/-- A profile that is pushed behind the others keeps the configuration sound. -/
theorem Sound.pushBack {configuration : LoadedConfiguration G M C} (sound : configuration.Sound)
    (profile : Profile C) : (configuration.pushBack profile).Sound := by
  have ids : (configuration.pushBack profile).flags.map Prod.fst =
      configuration.flags.map Prod.fst ++ [configuration.made] := by
    rw [flags_pushBack, List.map_append]
    rfl
  refine ⟨?_, ?_, ?_⟩
  · rw [flags_pushBack]
    exact List.append_ne_nil_of_left_ne_nil sound.some _
  · rw [ids, List.nodup_append]
    refine ⟨sound.distinct, List.nodup_singleton _, fun id isId other isOther => ?_⟩
    rw [List.mem_singleton.mp isOther]
    exact Nat.ne_of_lt (sound.made id isId)
  · rw [ids]
    intro id isId
    rcases List.mem_append.mp isId with before | new
    · exact Nat.lt_succ_of_lt (sound.made id before)
    · rw [List.mem_singleton.mp new]
      exact Nat.lt_succ_self _

omit [SettingsObject G] [SettingsObject M] [SettingsObject C] [JsonText] in
/-- An edit that keeps identities, or loses some, keeps them different. -/
theorem Sound.of_sublist {configuration edited : LoadedConfiguration G M C}
    (sound : configuration.Sound) (some : edited.flags ≠ [])
    (ids : (edited.flags.map Prod.fst).Subperm (configuration.flags.map Prod.fst))
    (made : edited.made = configuration.made) : edited.Sound where
  some := some
  distinct := by
    obtain ⟨kept, isPerm, isSublist⟩ := ids
    exact isPerm.nodup (sound.distinct.sublist isSublist)
  made := fun id isId => made ▸ sound.made id (ids.subset isId)

omit [SettingsObject G] [SettingsObject M] in
/-- Every edit keeps the configuration sound. -/
theorem Sound.edit {configuration : LoadedConfiguration G M C} (sound : configuration.Sound)
    (call : ProfileEdit C) : (configuration.edit call).Sound := by
  cases call with
  | select index =>
      simp only [LoadedConfiguration.edit]
      by_cases inRange : index < configuration.profiles.length
      · have flags := flags_selectProfile inRange
        have ids : (configuration.selectProfile index).flags.map Prod.fst =
            configuration.flags.map Prod.fst := by
          rw [flags]
          refine List.ext_getElem? fun i => ?_
          simp only [List.getElem?_map, List.getElem?_mapIdx]
          cases configuration.flags[i]? <;> rfl
        refine sound.of_sublist ?_ (by rw [ids]) ?_
        · rw [flags]
          simpa using sound.some
        · rw [selectProfile, if_pos inRange]
      · rw [selectProfile, if_neg inRange]
        exact sound
  | pushBack =>
      rcases configuration.edit_pushBack_cases with same | ⟨profile, _, same⟩
      · rw [same]
        exact sound
      · rw [same]
        exact sound.pushBack profile
  | duplicate source =>
      rcases configuration.edit_duplicate_cases source with same | ⟨profile, _, same⟩
      · rw [same]
        exact sound
      · rw [same]
        exact sound.pushBack profile
  | move sourceIndex destinationIndex =>
      have moved := VectorUtility.moveElement_perm configuration.flags sourceIndex destinationIndex
      have flags := configuration.flags_moveProfile sourceIndex destinationIndex
      refine sound.of_sublist ?_ ?_ rfl
      · intro empty
        rw [LoadedConfiguration.edit, flags] at empty
        rw [empty] at moved
        exact sound.some moved.nil_eq.symm
      · rw [LoadedConfiguration.edit, flags]
        exact (moved.map Prod.fst).subperm
  | setName index name =>
      have flags := configuration.flags_setProfileName index name
      exact sound.of_sublist (flags ▸ sound.some) (by rw [LoadedConfiguration.edit, flags]) rfl
  | erase index =>
      simp only [LoadedConfiguration.edit, eraseProfile]
      split
      · rename_i several
        have flags := configuration.flags_eraseIdx index
        refine sound.of_sublist ?_ ?_ rfl
        · rw [flags]
          intro empty
          have length := congrArg List.length empty
          rw [List.length_eraseIdx_of_lt (by simpa [LoadedConfiguration.flags] using several.1)]
            at length
          simp only [LoadedConfiguration.flags, List.length_map, List.length_nil] at length
          omega
        · rw [flags]
          exact ((List.eraseIdx_sublist ..).map Prod.fst).subperm
      · exact sound

/-! ## Which profile is selected -/

omit [SettingsObject G] [SettingsObject M] [SettingsObject C] [JsonText] in
/-- A valid index selects its profile. -/
theorem selectedId_selectProfile (configuration : LoadedConfiguration G M C) {index : Nat}
    {object : ProfileObject C} (isAt : configuration.profiles[index]? = some object) :
    (configuration.selectProfile index).selectedId = some object.id := by
  obtain ⟨inRange, rfl⟩ := List.getElem?_eq_some_iff.mp isAt
  have inFlags : index < configuration.flags.length := by simpa [flags] using inRange
  rw [selectedId_eq, flags_selectProfile inRange, SelectedFlag.selected_of_only inFlags]
  simp [flags]

omit [SettingsObject G] [SettingsObject M] [SettingsObject C] [JsonText] in
/-- A move keeps the selected profile exactly if that one is not moved past another that may be
selected. -/
theorem selectedId_moveProfile_iff {configuration : LoadedConfiguration G M C}
    (sound : configuration.Sound) (sourceIndex destinationIndex : Nat) :
    (configuration.moveProfile sourceIndex destinationIndex).selectedId =
        configuration.selectedId ↔
      ¬VectorUtility.PassesAnother (SelectedFlag.candidate configuration.flags)
        configuration.flags sourceIndex destinationIndex := by
  have moved := VectorUtility.moveElement_perm configuration.flags sourceIndex destinationIndex
  rw [selectedId_eq (configuration.moveProfile ..), flags_moveProfile,
    sound.selectedId_eq_iff moved,
    SelectedFlag.selected_moveElement_iff (List.Nodup.of_map Prod.fst sound.distinct)]

omit [SettingsObject G] [SettingsObject M] [SettingsObject C] [JsonText] in
/-- Erasing another profile than the selected one keeps the selection. -/
theorem selectedId_eraseProfile {configuration : LoadedConfiguration G M C} {index : Nat}
    (other : ∀ object, configuration.profiles[index]? = some object →
      configuration.selectedId ≠ some object.id) :
    (configuration.eraseProfile index).selectedId = configuration.selectedId := by
  rw [eraseProfile]
  split
  · rename_i several
    have isAt := List.getElem?_eq_getElem several.1
    have notSelected := other _ isAt
    have inFlags : configuration.flags[index]? = some (configuration.profiles[index].id,
        configuration.profiles[index].profile.selected.value) := by
      rw [flags, List.getElem?_map, isAt]
      rfl
    rw [selectedId_eq] at notSelected
    rw [selectedId_eq, selectedId_eq, flags_eraseIdx,
      SelectedFlag.selected_eraseIdx inFlags fun same => notSelected (by rw [same]; rfl)]
  · rfl

omit [SettingsObject G] [SettingsObject M] [SettingsObject C] [JsonText] in
/-- An added profile is never selected at once. -/
theorem selectedId_pushBack {configuration : LoadedConfiguration G M C}
    (sound : configuration.Sound) {profile : Profile C} (isOff : profile.selected.value = false) :
    (configuration.pushBack profile).selectedId = configuration.selectedId := by
  rw [selectedId_eq, selectedId_eq, flags_pushBack, isOff,
    SelectedFlag.selected_append sound.some]

/-- The profile that an edit erases. -/
def ErasesSelected (configuration : LoadedConfiguration G M C) (call : ProfileEdit C) : Prop :=
  ∃ index object, call = .erase index ∧ configuration.profiles[index]? = some object ∧
    configuration.selectedId = some object.id

/-- The edit moves the selected profile past another one that could be selected. -/
def MovesSelected (configuration : LoadedConfiguration G M C) (call : ProfileEdit C) : Prop :=
  ∃ sourceIndex destinationIndex, call = .move sourceIndex destinationIndex ∧
    VectorUtility.PassesAnother (SelectedFlag.candidate configuration.flags) configuration.flags
      sourceIndex destinationIndex

omit [SettingsObject G] [SettingsObject M] [SettingsObject C] [JsonText] in
/-- The only profile with the flag stays selected wherever it is moved. -/
theorem not_movesSelected_of_single {configuration : LoadedConfiguration G M C}
    (single : (configuration.flags.filter Prod.snd).length = 1) (call : ProfileEdit C) :
    ¬configuration.MovesSelected call := by
  rintro ⟨sourceIndex, destinationIndex, _, passes⟩
  obtain ⟨entry, isOnly⟩ := List.length_eq_one_iff.mp single
  have isFlagged : entry ∈ configuration.flags.filter Prod.snd := isOnly ▸ List.mem_singleton_self _
  obtain ⟨member, flagged⟩ := List.mem_filter.mp isFlagged
  have candidates : SelectedFlag.candidate configuration.flags = Prod.snd := by
    funext other
    rw [SelectedFlag.candidate, List.any_eq_true.mpr ⟨entry, member, flagged⟩]
    rfl
  rw [candidates] at passes
  exact VectorUtility.not_passesAnother_of_single (by omega) _ _ passes

omit [SettingsObject G] [SettingsObject M] in
/-- Another edit than the selection of a profile changes which one is selected exactly when it
moves the selected one past another that could be selected. -/
theorem selectedId_edit_iff {configuration : LoadedConfiguration G M C}
    (sound : configuration.Sound) {call : ProfileEdit C}
    (notSelect : ∀ index, call ≠ .select index)
    (notErased : ¬configuration.ErasesSelected call) :
    (configuration.edit call).selectedId = configuration.selectedId ↔
      ¬configuration.MovesSelected call := by
  have stays : ∀ {edit : ProfileEdit C}, (∀ first last, edit ≠ .move first last) →
      ¬configuration.MovesSelected edit :=
    fun notMove ⟨first, last, isMove, _⟩ => notMove first last isMove
  cases call with
  | select index => exact absurd rfl (notSelect index)
  | pushBack =>
      refine iff_of_true ?_ (stays fun _ _ => nofun)
      rcases configuration.edit_pushBack_cases with same | ⟨profile, isOff, same⟩
      · rw [same]
      · rw [same, selectedId_pushBack sound isOff]
  | duplicate source =>
      refine iff_of_true ?_ (stays fun _ _ => nofun)
      rcases configuration.edit_duplicate_cases source with same | ⟨profile, isOff, same⟩
      · rw [same]
      · rw [same, selectedId_pushBack sound isOff]
  | move sourceIndex destinationIndex =>
      refine (selectedId_moveProfile_iff sound sourceIndex destinationIndex).trans
        (not_congr ⟨fun passes => ⟨_, _, rfl, passes⟩, ?_⟩)
      rintro ⟨_, _, same, passes⟩
      cases same
      exact passes
  | setName index name =>
      refine iff_of_true ?_ (stays fun _ _ => nofun)
      rw [edit, selectedId_eq, selectedId_eq, flags_setProfileName]
  | erase index =>
      refine iff_of_true (selectedId_eraseProfile fun object isAt isSelected => ?_)
        (stays fun _ _ => nofun)
      exact notErased ⟨index, object, rfl, isAt, isSelected⟩

/-! ## Loading -/

omit [SettingsObject G] [SettingsObject M] in
theorem readProfiles_ne_nil {members : Members} {errorHandling : ErrorHandling}
    {profiles : List (Profile C)} (areRead : readProfiles members errorHandling = .ok profiles) :
    profiles ≠ [] := by
  obtain ⟨read, _, areRead⟩ := exists_of_bind_eq_ok areRead
  cases read with
  | nil =>
      obtain ⟨profile, _, areRead⟩ := exists_of_bind_eq_ok areRead
      obtain rfl := Except.ok.inj areRead
      exact List.cons_ne_nil _ _
  | cons first rest =>
      obtain rfl := Except.ok.inj areRead
      exact List.cons_ne_nil _ _

/-- A configuration that has just been read is sound. -/
theorem sound_ofJson {json : Json} {errorHandling : ErrorHandling}
    {loaded : LoadedConfiguration G M C} (isRead : ofJson json errorHandling = .ok loaded) :
    loaded.Sound := by
  obtain ⟨members, _, isRead⟩ := exists_of_bind_eq_ok isRead
  obtain ⟨globals, _, isRead⟩ := exists_of_bind_eq_ok isRead
  obtain ⟨machine, _, isRead⟩ := exists_of_bind_eq_ok isRead
  obtain ⟨profiles, areRead, isRead⟩ := exists_of_bind_eq_ok isRead
  obtain rfl := Except.ok.inj isRead
  have some := readProfiles_ne_nil areRead
  have ids : (profiles.mapIdx fun index profile => ProfileObject.mk index profile).map
      ProfileObject.id = List.range profiles.length := by
    exact List.ext_getElem (by simp) fun i _ _ => by simp
  have sameIds : (flags (G := G) (M := M) ⟨members, errorHandling, globals, machine,
      profiles.mapIdx fun index profile => ⟨index, profile⟩, profiles.length⟩).map Prod.fst =
      List.range profiles.length := by
    rw [flags, List.map_map]
    exact ids
  refine ⟨?_, ?_, fun id isId => ?_⟩
  · simpa [flags] using some
  · exact sameIds ▸ List.nodup_range
  · exact List.mem_range.mp (sameIds ▸ isId)

omit [SettingsObject G] [SettingsObject M] in
theorem sound_run {configuration : LoadedConfiguration G M C} (sound : configuration.Sound)
    (calls : List (ProfileEdit C)) : (calls.foldl edit configuration).Sound := by
  induction calls generalizing configuration with
  | nil => exact sound
  | cons call rest ih => exact ih (sound.edit call)

/-- Whatever configuration is accepted and however its profiles are edited, there is a profile, a
valid index selects its profile, and another edit changes which one is selected, save when it
erases it, exactly when it moves it past another that could be selected. -/
theorem selected_profile_kept {json : Json} {errorHandling : ErrorHandling}
    {loaded : LoadedConfiguration G M C} (accepted : ofJson json errorHandling = .ok loaded)
    (calls : List (ProfileEdit C)) :
    let final := calls.foldl edit loaded
    final.profiles ≠ [] ∧ (final.profiles.map ProfileObject.id).Nodup ∧
      (∀ index object, final.profiles[index]? = some object →
        (final.edit (.select index)).selectedId = some object.id) ∧
      ∀ call : ProfileEdit C, (∀ index, call ≠ .select index) → ¬final.ErasesSelected call →
        ((final.edit call).selectedId = final.selectedId ↔ ¬final.MovesSelected call) := by
  intro final
  have sound := sound_run (sound_ofJson accepted) calls
  refine ⟨fun empty => sound.some (by rw [flags, empty]; rfl), ?_,
    fun index object isAt => selectedId_selectProfile _ isAt,
    fun call notSelect notErased => selectedId_edit_iff sound notSelect notErased⟩
  have distinct := sound.distinct
  rw [flags, List.map_map] at distinct
  exact distinct

end Edits

/-- Two profiles without a flag. -/
def twoProfilesJson : Json :=
  .object [("profiles", .array [.object [("name", .string "a")], .object [("name", .string "b")]])]

/-- The second profile is selected and the first one renamed. The second one stays selected when it
is moved in front of the first. -/
theorem selected_profile_kept_moved :
    let _ := SimpleModifications.sampleText
    let _ := SettingsObject.none
    ∃ loaded : LoadedConfiguration Unit Unit Unit, ofJson twoProfilesJson .strict = .ok loaded ∧
      let final := [.select 1, .setName 0 "c"].foldl edit loaded
      (final.edit (.move 1 0)).selectedId = final.selectedId ∧
        final.selectedId ≠ loaded.selectedId := by
  let _ := SimpleModifications.sampleText
  let _ := SettingsObject.none
  obtain ⟨loaded, accepted⟩ : ∃ loaded : LoadedConfiguration Unit Unit Unit,
      ofJson twoProfilesJson .strict = .ok loaded := ⟨_, rfl⟩
  refine ⟨loaded, accepted, ?_⟩
  obtain ⟨_, _, _, kept⟩ := selected_profile_kept accepted [.select 1, .setName 0 "c"]
  have isLoaded := Except.ok.inj accepted
  refine ⟨(kept (.move 1 0) (fun _ => nofun) ?_).mpr (not_movesSelected_of_single ?_ _), ?_⟩
  · rintro ⟨_, _, isErase, _⟩
    cases isErase
  · rw [← isLoaded]
    decide
  · rw [← isLoaded]
    decide

/-- Without a flag the profile that is moved behind the other is not selected any longer. -/
theorem moved_profile_not_selected :
    let _ := SimpleModifications.sampleText
    let _ := SettingsObject.none
    ∃ loaded : LoadedConfiguration Unit Unit Unit, ofJson twoProfilesJson .strict = .ok loaded ∧
      (loaded.edit (.move 0 2)).selectedId ≠ loaded.selectedId := by
  let _ := SimpleModifications.sampleText
  let _ := SettingsObject.none
  exact ⟨_, rfl, by decide⟩

end LoadedConfiguration

end Karabiner
