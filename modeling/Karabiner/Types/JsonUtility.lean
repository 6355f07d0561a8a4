import Karabiner.Types.Json

/-! # Strings of several lines

A string is saved as an array of its lines when it has a newline. The lines are read with
`getline`, which does not see whether the last line ends with a newline, and they are
joined again with newlines between them (`JsonUtility.unmarshalString_marshalString`).
-/

namespace Karabiner

namespace JsonUtility

/-- One element of the array: its line and a newline, when it is a string. -/
def appendLine (ss : List Char) : Json → Option (List Char)
  | .string line => some (ss ++ line.toList ++ ['\n'])
  | _ => none

/-- `json_utility::unmarshal_string`. -/
def unmarshalString (key : String) (value : Json) : Except UnmarshalError String :=
  match value with
  | .string s => .ok s
  | .array values =>
      match values.foldlM appendLine [] with
      -- The last newline is removed.
      | some ss => .ok (.ofList ss.dropLast)
      | none => .error (.mustBe key "array of string, or string" value)
  | _ => .error (.mustBe key "array of string, or string" value)

/-- The lines that `std::getline` reads, given the part of a line read so far. At the end of
the stream a line without characters is not one. -/
def getlines (line : List Char) : List Char → List (List Char)
  | [] => if line.isEmpty then [] else [line]
  | c :: rest => if c = '\n' then line :: getlines [] rest else getlines (line ++ [c]) rest

/-- `json_utility::marshal_string`. -/
def marshalString (value : String) : Json :=
  if '\n' ∈ value.toList then
    .array ((getlines [] value.toList).map fun line => .string (.ofList line))
  else .string value

/-- The string without the newline at its end, if it has one. -/
def withoutLastNewline (value : String) : String :=
  if value.toList.getLast? = some '\n' then .ofList value.toList.dropLast else value

/-! ## Lines joined again -/

/-- The lines, each with a newline. -/
def joined (lines : List (List Char)) : List Char := lines.flatMap (· ++ ['\n'])

theorem foldlM_appendLine (lines : List (List Char)) (ss : List Char) :
    (lines.map fun line => Json.string (.ofList line)).foldlM appendLine ss =
      some (ss ++ joined lines) := by
  induction lines generalizing ss with
  | nil => simp [joined]
  | cons line rest ih =>
      have first : appendLine ss (.string (.ofList line)) = some (ss ++ line ++ ['\n']) := by
        simp [appendLine]
      rw [List.map_cons, List.foldlM_cons, first]
      refine (ih (ss ++ line ++ ['\n'])).trans ?_
      simp [joined]

/-- The lines of a string give it back, with a newline at the end. -/
theorem joined_getlines (line rest : List Char) (noNewline : '\n' ∉ line) :
    joined (getlines line rest) =
      if line ++ rest = [] ∨ (line ++ rest).getLast? = some '\n' then line ++ rest
      else line ++ rest ++ ['\n'] := by
  induction rest generalizing line with
  | nil =>
      rw [List.append_nil]
      cases isLast : line.getLast? with
      | none =>
          rw [List.getLast?_eq_none_iff.mp isLast]
          rfl
      | some c =>
          have some : line ≠ [] := fun none => by simp [none] at isLast
          have different : c ≠ '\n' := fun same =>
            noNewline (same ▸ List.mem_of_getLast? isLast)
          simp [getlines, joined, some, different]
  | cons c rest ih =>
      unfold getlines
      split
      · rename_i isNewline
        have next := ih [] List.not_mem_nil
        rw [List.nil_append] at next
        have first : joined (line :: getlines [] rest) =
            line ++ '\n' :: joined (getlines [] rest) := by simp [joined]
        rw [first, next, isNewline]
        cases rest with
        | nil => simp
        | cons d more => simp [List.getLast?_cons_cons, apply_ite]
      · rename_i different
        have next := ih (line ++ [c]) (by simpa [eq_comm] using ⟨noNewline, different⟩)
        rw [next, List.append_assoc, List.singleton_append]

/-- What a saved string is read as: the newline at its end is lost. -/
theorem unmarshalString_marshal (key value : String) :
    unmarshalString key (marshalString value) = .ok (withoutLastNewline value) := by
  unfold marshalString
  split
  · rename_i newline
    have lines := joined_getlines [] value.toList List.not_mem_nil
    rw [List.nil_append] at lines
    have some : value.toList ≠ [] := List.ne_nil_of_mem newline
    simp only [unmarshalString, foldlM_appendLine, List.nil_append, lines, some, false_or]
    unfold withoutLastNewline
    split
    · rfl
    · simp
  · rename_i noNewline
    have isOther : value.toList.getLast? ≠ some '\n' := fun isLast =>
      noNewline (List.mem_of_getLast? isLast)
    simp [unmarshalString, withoutLastNewline, isOther]

/-- A string that is saved is read again without the newline at its end, and so is the string
of a value that is read and saved. -/
theorem unmarshalString_marshalString (key : String) :
    (∀ value, unmarshalString key (marshalString value) = .ok (withoutLastNewline value)) ∧
      (∀ json value, unmarshalString key json = .ok value →
        unmarshalString key (marshalString value) = .ok (withoutLastNewline value)) ∧
      ∀ value, withoutLastNewline value = value ↔ value.toList.getLast? ≠ some '\n' := by
  refine ⟨unmarshalString_marshal key, fun _ value _ => unmarshalString_marshal key value,
    fun value => ⟨fun same isLast => ?_, fun isOther => if_neg isOther⟩⟩
  unfold withoutLastNewline at same
  rw [if_pos isLast] at same
  have shorter := congrArg (fun s => s.toList.length) same
  have some : value.toList ≠ [] := fun none => by simp [none] at isLast
  have positive := List.length_pos_iff.mpr some
  simp only [String.toList_ofList, List.length_dropLast] at shorter
  omega

/-- A line with its newline is not read as it was saved. -/
theorem unmarshalString_counterexample : ¬∀ key : String,
    (∀ value, unmarshalString key (marshalString value) = .ok value) ∧
      ∀ json value, unmarshalString key json = .ok value →
        unmarshalString key (marshalString value) = .ok value := by
  intro all
  have same := (all "formula").1 "a\n"
  rw [unmarshalString_marshal] at same
  exact absurd (Except.ok.inj same) (by decide)

end JsonUtility

end Karabiner
