import Mathlib.Data.List.Basic
import Mathlib.Order.Basic
import Mathlib.Order.Nat

/-! # An action that ends once

One slot holds the action that was started last. It ends when its timer fires, or before that when
another input arrives, and the input that has started it is numbered so that it does not count as
another. A log of what has happened says how each action has to end (`ending`), and how it has
ended (`endings`). The rules for one step keep both the same.
-/

namespace Foundation.OneShot

inductive Ending where
  | fired
  | canceled
deriving DecidableEq

inductive Event where
  | arrived (number : Nat)
  | fired
  | started (number identity : Nat)
  | ended (identity : Nat) (how : Ending)
deriving DecidableEq

def Event.isEnd : Event → Bool
  | .ended _ _ => true
  | .arrived _ | .fired | .started _ _ => false

/-- The start of an action, with what was logged later. -/
structure Start where
  number : Nat
  identity : Nat
  later : List Event

def Start.extend (start : Start) (more : List Event) : Start :=
  { start with later := start.later ++ more }

@[simp] theorem Start.number_extend (start : Start) (more : List Event) :
    (start.extend more).number = start.number := rfl

@[simp] theorem Start.identity_extend (start : Start) (more : List Event) :
    (start.extend more).identity = start.identity := rfl

/-- The actions that were started. -/
def starts : List Event → List Start
  | [] => []
  | .started number identity :: later => ⟨number, identity, later⟩ :: starts later
  | .arrived _ :: later | .fired :: later | .ended _ _ :: later => starts later

/-- How an action has to end, by what has happened after its start. -/
def ending (number : Nat) : List Event → List Ending
  | [] => []
  | .arrived other :: later => if other = number then ending number later else [.canceled]
  | .fired :: _ => [.fired]
  | .started _ _ :: later | .ended _ _ :: later => ending number later

/-- How an action has ended, each time. -/
def endings (identity : Nat) (log : List Event) : List Ending :=
  log.filterMap fun
    | .ended other how => if other = identity then some how else none
    | .arrived _ | .fired | .started _ _ => none

/-- Every action has ended as it has to, and not more than once. -/
def EndsOnce (log : List Event) : Prop :=
  ∀ start ∈ starts log, endings start.identity log = ending start.number start.later

instance (log : List Event) : Decidable (EndsOnce log) :=
  inferInstanceAs (Decidable (∀ start ∈ starts log, _ = _))

/-- The end of what was pending. -/
def endOf (pending : Option Nat) (how : Ending) : List Event :=
  pending.toList.map (.ended · how)

theorem starts_append (log more : List Event) :
    starts (log ++ more) = (starts log).map (·.extend more) ++ starts more := by
  induction log with
  | nil => rfl
  | cons event rest ih =>
      cases event with
      | started number identity => exact congrArg _ ih
      | arrived number => exact ih
      | fired => exact ih
      | ended identity how => exact ih

/-- The ending of an action in a longer log is the one in the log, or what follows gives it. -/
theorem ending_append (number : Nat) (log more : List Event) :
    ending number (log ++ more) =
      if ending number log = [] then ending number more else ending number log := by
  induction log with
  | nil => rfl
  | cons event rest ih =>
      cases event with
      | started other identity => exact ih
      | arrived other =>
          rw [List.cons_append, ending, ending]
          split
          · exact ih
          · rfl
      | fired => rfl
      | ended identity how => exact ih

theorem endings_append (identity : Nat) (log more : List Event) :
    endings identity (log ++ more) = endings identity log ++ endings identity more :=
  List.filterMap_append

theorem starts_endOf (pending : Option Nat) (how : Ending) : starts (endOf pending how) = [] := by
  cases pending <;> rfl

theorem endings_endOf (identity : Nat) (pending : Option Nat) (how : Ending) :
    endings identity (endOf pending how) = if pending = some identity then [how] else [] := by
  cases pending with
  | none => rfl
  | some other =>
      by_cases same : other = identity
      · simp [endOf, endings, same]
      · simp [endOf, endings, same]

/-- What holds of a log: the numbers and identities so far are below the next ones, and what is
pending has not ended. -/
structure Sound (number made : Nat) (pending : Option Nat) (log : List Event) : Prop where
  endsOnce : EndsOnce log
  started : ∀ start ∈ starts log, start.number < number ∧ start.identity < made
  ended : ∀ identity how, .ended identity how ∈ log → identity < made
  made : ∀ identity, pending = some identity → identity < made
  open_ : ∀ start ∈ starts log,
    (ending start.number start.later = [] ↔ pending = some start.identity)

variable {number made : Nat} {pending : Option Nat} {log : List Event}

theorem sound_nil (number made : Nat) : Sound number made none [] where
  endsOnce _ member := absurd member List.not_mem_nil
  started _ member := absurd member List.not_mem_nil
  ended _ _ member := absurd member List.not_mem_nil
  made _ isPending := by cases isPending
  open_ _ member := absurd member List.not_mem_nil

namespace Sound

theorem mono (sound : Sound number made pending log) {later more : Nat} (le : number ≤ later)
    (madeLe : made ≤ more) : Sound later more pending log where
  endsOnce := sound.endsOnce
  started start member :=
    ⟨(sound.started start member).1.trans_le le, (sound.started start member).2.trans_le madeLe⟩
  ended identity how member := (sound.ended identity how member).trans_le madeLe
  made identity isPending := (sound.made identity isPending).trans_le madeLe
  open_ := sound.open_

/-- Something happens that ends what is pending. -/
theorem end_ (sound : Sound number made pending log) {event : Event} {how : Ending}
    (noStart : starts [event] = []) (noEnding : ∀ identity, endings identity [event] = [])
    (ends : ∀ start ∈ starts log, ending start.number start.later = [] →
      ∀ more, ending start.number (event :: more) = [how]) :
    Sound number made none (log ++ event :: endOf pending how) := by
  have sameStarts : starts (event :: endOf pending how) = [] := by
    have split := starts_append [event] (endOf pending how)
    rw [noStart, starts_endOf] at split
    exact split
  have whole : ∀ start ∈ starts (log ++ event :: endOf pending how), ∃ earlier ∈ starts log,
      start = earlier.extend (event :: endOf pending how) := by
    intro start member
    rw [starts_append, sameStarts, List.append_nil] at member
    obtain ⟨earlier, isEarlier, rfl⟩ := List.mem_map.mp member
    exact ⟨earlier, isEarlier, rfl⟩
  have ownEndings : ∀ identity, endings identity (event :: endOf pending how) =
      if pending = some identity then [how] else [] := by
    intro identity
    have split := endings_append identity [event] (endOf pending how)
    rw [noEnding, List.nil_append, endings_endOf] at split
    exact split
  have newEnding : ∀ earlier ∈ starts log,
      ending earlier.number (earlier.extend (event :: endOf pending how)).later =
        if ending earlier.number earlier.later = [] then [how]
        else ending earlier.number earlier.later := by
    intro earlier isEarlier
    rw [Start.extend, ending_append]
    split
    · rename_i isOpen
      exact ends earlier isEarlier isOpen _
    · rfl
  refine ⟨?_, ?_, ?_, nofun, ?_⟩
  · intro start member
    obtain ⟨earlier, isEarlier, rfl⟩ := whole start member
    have before := sound.endsOnce earlier isEarlier
    rw [endings_append, Start.identity_extend, before, ownEndings, Start.number_extend,
      newEnding earlier isEarlier]
    by_cases isOpen : ending earlier.number earlier.later = []
    · rw [if_pos ((sound.open_ earlier isEarlier).mp isOpen), if_pos isOpen, isOpen,
        List.nil_append]
    · rw [if_neg fun isPending => isOpen ((sound.open_ earlier isEarlier).mpr isPending),
        if_neg isOpen, List.append_nil]
  · intro start member
    obtain ⟨earlier, isEarlier, rfl⟩ := whole start member
    exact sound.started earlier isEarlier
  · intro identity how' member
    rcases List.mem_append.mp member with earlier | later
    · exact sound.ended identity how' earlier
    · rcases List.mem_cons.mp later with rfl | isEnd
      · have none := noEnding identity
        simp [endings] at none
      · obtain ⟨other, isPending, same⟩ := List.mem_map.mp isEnd
        obtain ⟨rfl, -⟩ := Event.ended.inj same
        exact sound.made other (Option.mem_toList.mp isPending)
  · intro start member
    obtain ⟨earlier, isEarlier, rfl⟩ := whole start member
    refine iff_of_false (fun isOpen => ?_) nofun
    rw [Start.number_extend, newEnding earlier isEarlier] at isOpen
    split at isOpen
    · cases isOpen
    · rename_i isClosed
      exact isClosed isOpen

/-- Another input arrives, and cancels what is pending. -/
theorem arrive (sound : Sound number made pending log) :
    Sound number made none (log ++ .arrived number :: endOf pending .canceled) :=
  sound.end_ rfl (fun _ => rfl) fun start member _ more => by
    rw [ending, if_neg (sound.started start member).1.ne']

/-- The timer of what is pending fires. -/
theorem fire (sound : Sound number made pending log) :
    Sound number made none (log ++ .fired :: endOf pending .fired) :=
  sound.end_ rfl (fun _ => rfl) fun _ _ _ _ => rfl

/-- Nothing is pending when an input arrives. -/
theorem arriveIdle (sound : Sound number made none log) (other : Nat) :
    Sound number made none (log ++ [.arrived other]) := by
  have idle : Sound number made none (log ++ .arrived other :: endOf none .canceled) := by
    apply sound.end_ rfl (fun _ => rfl)
    intro start member isOpen
    exact absurd ((sound.open_ start member).mp isOpen) nofun
  exact idle

/-- An action is started. -/
theorem start (sound : Sound number made none log) :
    Sound (number + 1) (made + 1) (some made) (log ++ [.started number made]) := by
  have kept : ∀ earlier ∈ starts log,
      ending earlier.number (earlier.extend [.started number made]).later =
        ending earlier.number earlier.later := by
    intro earlier isEarlier
    rw [Start.extend, ending_append]
    split
    · rename_i isOpen
      exact absurd ((sound.open_ earlier isEarlier).mp isOpen) nofun
    · rfl
  have whole : ∀ start ∈ starts (log ++ [.started number made]),
      (∃ earlier ∈ starts log, start = earlier.extend [.started number made]) ∨
        start = ⟨number, made, []⟩ := by
    intro start member
    rw [starts_append] at member
    rcases List.mem_append.mp member with isExtended | own
    · obtain ⟨earlier, isEarlier, rfl⟩ := List.mem_map.mp isExtended
      exact .inl ⟨earlier, isEarlier, rfl⟩
    · exact .inr (List.mem_singleton.mp own)
  have noEndings : endings made log = [] := by
    rw [endings, List.filterMap_eq_nil_iff]
    intro event member
    cases event with
    | ended identity how => exact if_neg (sound.ended identity how member).ne
    | arrived _ | fired | started _ _ => rfl
  refine ⟨?_, ?_, ?_, ?_, ?_⟩
  · intro start member
    rw [endings_append]
    rcases whole start member with ⟨earlier, isEarlier, rfl⟩ | rfl
    · have before := sound.endsOnce earlier isEarlier
      exact (List.append_nil _).trans (before.trans (kept earlier isEarlier).symm)
    · rw [noEndings]
      rfl
  · intro start member
    rcases whole start member with ⟨earlier, isEarlier, rfl⟩ | rfl
    · obtain ⟨numberLt, identityLt⟩ := sound.started earlier isEarlier
      exact ⟨numberLt.trans (Nat.lt_succ_self _), identityLt.trans (Nat.lt_succ_self _)⟩
    · exact ⟨Nat.lt_succ_self _, Nat.lt_succ_self _⟩
  · intro identity how member
    rcases List.mem_append.mp member with earlier | own
    · exact (sound.ended identity how earlier).trans (Nat.lt_succ_self _)
    · cases List.mem_singleton.mp own
  · rintro identity isPending
    obtain rfl := Option.some.inj isPending
    exact Nat.lt_succ_self _
  · intro start member
    rcases whole start member with ⟨earlier, isEarlier, rfl⟩ | rfl
    · refine iff_of_false (fun isOpen => ?_) fun isPending => ?_
      · rw [Start.number_extend, kept earlier isEarlier] at isOpen
        exact absurd ((sound.open_ earlier isEarlier).mp isOpen) nofun
      · exact (sound.started earlier isEarlier).2.ne (Option.some.inj isPending).symm
    · exact iff_of_true rfl rfl

end Sound

end Foundation.OneShot
