import Karabiner.Foundation.Execution

/-! # A function that keeps its last result

A function may keep the argument and the result of its last call, and return the result again for an
equal argument. What is kept stays a result of the function, and so each call returns what the
function returns (`Sound.read`).
-/

namespace Foundation.LastResult

variable {κ ρ : Type*} [DecidableEq κ] (compute : κ → ρ)

/-- One call: the result, and what is kept after it. -/
def read (kept : Option (κ × ρ)) (key : κ) : ρ × Option (κ × ρ) :=
  match kept with
  | some (last, result) =>
      if last = key then (result, kept) else (compute key, some (key, compute key))
  | none => (compute key, some (key, compute key))

/-- What is kept is a result of the function. -/
def Sound (kept : Option (κ × ρ)) : Prop :=
  ∀ key result, kept = some (key, result) → result = compute key

variable {compute}

omit [DecidableEq κ] in
theorem sound_none : Sound compute none := nofun

omit [DecidableEq κ] in
theorem sound_kept (key : κ) : Sound compute (some (key, compute key)) := by
  rintro _ _ ⟨⟩
  rfl

/-- A call returns what the function returns, and keeps a result of it. -/
theorem Sound.read {kept : Option (κ × ρ)} (sound : Sound compute kept) (key : κ) :
    (read compute kept key).1 = compute key ∧ Sound compute (read compute kept key).2 := by
  unfold LastResult.read
  cases kept with
  | none => exact ⟨rfl, sound_kept key⟩
  | some last =>
      dsimp only
      split
      · rename_i same
        exact ⟨(sound last.1 last.2 rfl).trans (congrArg compute same), sound⟩
      · exact ⟨rfl, sound_kept key⟩

end Foundation.LastResult
