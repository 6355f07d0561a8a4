import Mathlib.Data.Nat.Bitwise
import Mathlib.Tactic.Ring

/-! # Numbers as bytes

A number is written as bytes with the highest one first. Reading them back with shifts is the same
as reading them as digits (`orBytes_eq`), which gives the number (`ofBytes_toBytes`).
-/

namespace Foundation.BigEndian

/-- The lowest bytes of a number. -/
def toBytes : Nat → Nat → List Nat
  | 0, _ => []
  | count + 1, value => value / 256 ^ count % 256 :: toBytes count value

/-- The number that bytes stand for. -/
def ofBytes : List Nat → Nat
  | [] => 0
  | byte :: rest => byte * 256 ^ rest.length + ofBytes rest

/-- The bytes, each shifted to its place. -/
def orBytes : List Nat → Nat
  | [] => 0
  | byte :: rest => byte <<< (8 * rest.length) ||| orBytes rest

@[simp] theorem length_toBytes (count value : Nat) : (toBytes count value).length = count := by
  induction count with
  | zero => rfl
  | succ count ih => rw [toBytes, List.length_cons, ih]

theorem ofBytes_toBytes (count value : Nat) :
    ofBytes (toBytes count value) = value % 256 ^ count := by
  induction count with
  | zero => exact (Nat.mod_one value).symm
  | succ count ih =>
      rw [toBytes, ofBytes, length_toBytes, ih, Nat.pow_succ, Nat.mod_mul, Nat.mul_comm,
        Nat.add_comm]

theorem ofBytes_lt {bytes : List Nat} (small : ∀ byte ∈ bytes, byte < 256) :
    ofBytes bytes < 256 ^ bytes.length := by
  induction bytes with
  | nil => exact Nat.one_pos
  | cons byte rest ih =>
      have isByte := small byte List.mem_cons_self
      have restLt := ih fun other member => small other (.tail _ member)
      rw [ofBytes, List.length_cons, Nat.pow_succ, Nat.mul_comm (256 ^ rest.length)]
      calc byte * 256 ^ rest.length + ofBytes rest
          < byte * 256 ^ rest.length + 256 ^ rest.length := Nat.add_lt_add_left restLt _
        _ = (byte + 1) * 256 ^ rest.length := by ring
        _ ≤ 256 * 256 ^ rest.length := Nat.mul_le_mul_right _ isByte

theorem orBytes_eq {bytes : List Nat} (small : ∀ byte ∈ bytes, byte < 256) :
    orBytes bytes = ofBytes bytes := by
  induction bytes with
  | nil => rfl
  | cons byte rest ih =>
      have restSmall : ∀ other ∈ rest, other < 256 := fun other member =>
        small other (.tail _ member)
      have power : 256 ^ rest.length = 2 ^ (8 * rest.length) := Nat.pow_mul 2 8 rest.length ▸ rfl
      have restLt := power ▸ ofBytes_lt restSmall
      rw [orBytes, ofBytes, ih restSmall, ← Nat.shiftLeft_add_eq_or_of_lt restLt,
        Nat.shiftLeft_eq, power]

end Foundation.BigEndian
