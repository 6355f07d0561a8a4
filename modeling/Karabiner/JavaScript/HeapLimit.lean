import Mathlib.Algebra.Group.Nat.Defs
import Mathlib.Algebra.GroupWithZero.Nat
import Karabiner.Foundation.Execution

/-! # The memory limit of a JavaScript heap

`duktape_utility::impl` counts the bytes that Duktape has allocated, without the header of each
block. The sizes are those of 64 bits, whose sums wrap around. The count is exact and every block
is as large as asked for, as long as no sum has wrapped around for a request that is granted
(`DuktapeHeap.keepsExact_iff_fits`). Neither the limit nor the header is guarded against sizes
close to 2^64 (`DuktapeHeap.wrappedSize_isGranted`).
-/

namespace Karabiner

/-- `eval_heap_state`, without the timeout. -/
structure EvalHeapState where
  memoryLimitBytes : UInt64
  memoryUsedBytes : UInt64
  memoryExceeded : Bool

/-- A block of the system with a header in front, which holds its size. -/
structure HeapBlock where
  pointer : Nat
  /-- What the system was asked for. -/
  total : UInt64
  size : UInt64

/-- The state and the blocks that are alive. -/
structure DuktapeHeap where
  state : EvalHeapState
  blocks : List HeapBlock

namespace DuktapeHeap

/-- `sizeof(size_t)`. -/
def headerBytes : UInt64 := 8

/-- The block whose header is read in front of a pointer. -/
def findBlock (heap : DuktapeHeap) (pointer : Nat) : Option HeapBlock :=
  heap.blocks.find? fun block => block.pointer == pointer

def eraseBlock (heap : DuktapeHeap) (pointer : Nat) : List HeapBlock :=
  heap.blocks.eraseP fun block => block.pointer == pointer

/-- `memory_exceeded` is set. -/
def exceed (heap : DuktapeHeap) : DuktapeHeap :=
  { heap with state := { heap.state with memoryExceeded := true } }

/-- The header is written, and the state is updated. -/
def handOut (heap : DuktapeHeap) (others : List HeapBlock) (used : UInt64) (pointer : Nat)
    (size : UInt64) : DuktapeHeap where
  state := { heap.state with memoryUsedBytes := used }
  blocks := others ++ [⟨pointer, size + headerBytes, size⟩]

/-- The block is given back to the system. -/
def release (heap : DuktapeHeap) (block : HeapBlock) : DuktapeHeap where
  state := { heap.state with memoryUsedBytes := heap.state.memoryUsedBytes - block.size }
  blocks := heap.eraseBlock block.pointer

/-- `alloc`. The system answers `malloc` with a pointer, or fails. -/
def alloc (heap : DuktapeHeap) (size : UInt64) (raw : Option Nat) : Option Nat × DuktapeHeap :=
  if size = 0 then (none, heap)
  else if heap.state.memoryUsedBytes + size > heap.state.memoryLimitBytes then (none, heap.exceed)
  else
    match raw with
    | none => (none, heap)
    | some pointer =>
        (some pointer,
          heap.handOut heap.blocks (heap.state.memoryUsedBytes + size) pointer size)

/-- `realloc`. The pointer is null or that of a block that is alive. -/
def realloc (heap : DuktapeHeap) (ptr : Option Nat) (size : UInt64) (raw : Option Nat) :
    Option Nat × DuktapeHeap :=
  match ptr with
  | none => heap.alloc size raw
  | some pointer =>
      match heap.findBlock pointer with
      | none => (none, heap)
      | some block =>
          if size = 0 then (none, heap.release block)
          else if heap.state.memoryUsedBytes - block.size + size > heap.state.memoryLimitBytes then
            (none, heap.exceed)
          else
            match raw with
            | none => (none, heap)
            | some moved =>
                (some moved,
                  heap.handOut (heap.eraseBlock pointer)
                    (heap.state.memoryUsedBytes - block.size + size) moved size)

/-- `free`. -/
def free (heap : DuktapeHeap) (ptr : Option Nat) : DuktapeHeap :=
  match ptr with
  | none => heap
  | some pointer =>
      match heap.findBlock pointer with
      | none => heap
      | some block => heap.release block

/-! ## Runs -/

/-- The calls of Duktape, with the answers of the system. -/
inductive Action where
  | alloc (size : UInt64) (raw : Option Nat)
  | realloc (ptr : Option Nat) (size : UInt64) (raw : Option Nat)
  | free (ptr : Option Nat)

def initial (memoryLimitBytes : UInt64) : DuktapeHeap := ⟨⟨memoryLimitBytes, 0, false⟩, []⟩

def step (heap : DuktapeHeap) : Action → DuktapeHeap
  | .alloc size raw => (heap.alloc size raw).2
  | .realloc ptr size raw => (heap.realloc ptr size raw).2
  | .free ptr => heap.free ptr

/-- A call fails: it has no pointer for a block that was asked for. -/
def Fails (heap : DuktapeHeap) : Action → Prop
  | .alloc size raw => (heap.alloc size raw).1 = none
  | .realloc ptr size raw => (heap.realloc ptr size raw).1 = none ∧ (ptr = none ∨ size ≠ 0)
  | .free _ => False

/-- The sizes of blocks together. -/
def sizes (blocks : List HeapBlock) : Nat := (blocks.map fun block => block.size.toNat).sum

/-- The count is that of the live blocks and below the limit, and every block has room. -/
structure Exact (heap : DuktapeHeap) : Prop where
  used : heap.state.memoryUsedBytes.toNat = sizes heap.blocks
  limit : heap.state.memoryUsedBytes ≤ heap.state.memoryLimitBytes
  room : ∀ block ∈ heap.blocks, block.size.toNat + headerBytes.toNat ≤ block.total.toNat

/-- A call leaves an exact heap, and nothing is changed if it fails. -/
structure KeepsExact (heap : DuktapeHeap) (action : Action) : Prop where
  exact_ : (heap.step action).Exact
  used : heap.Fails action →
    (heap.step action).state.memoryUsedBytes = heap.state.memoryUsedBytes
  blocks : heap.Fails action → (heap.step action).blocks = heap.blocks

/-- If a size is granted in place of an old one, neither the count nor the size with its header
wraps around. -/
def FitsRequest (heap : DuktapeHeap) (oldSize size : UInt64) (raw : Option Nat) : Prop :=
  raw.isSome = true →
    heap.state.memoryUsedBytes - oldSize + size ≤ heap.state.memoryLimitBytes →
      heap.state.memoryUsedBytes.toNat - oldSize.toNat + size.toNat < 2 ^ 64 ∧
        size.toNat + headerBytes.toNat < 2 ^ 64

def Fits (heap : DuktapeHeap) : Action → Prop
  | .alloc size raw => heap.FitsRequest 0 size raw
  | .realloc none size raw => heap.FitsRequest 0 size raw
  | .realloc (some pointer) size raw =>
      ∀ block ∈ heap.findBlock pointer, heap.FitsRequest block.size size raw
  | .free _ => True

instance (heap : DuktapeHeap) (oldSize size : UInt64) (raw : Option Nat) :
    Decidable (heap.FitsRequest oldSize size raw) :=
  inferInstanceAs (Decidable (_ → _ → _ ∧ _))

instance (heap : DuktapeHeap) : ∀ action, Decidable (heap.Fits action)
  | .alloc _ _ => inferInstanceAs (Decidable (FitsRequest _ _ _ _))
  | .realloc none _ _ => inferInstanceAs (Decidable (FitsRequest _ _ _ _))
  | .realloc (some pointer) size raw => inferInstanceAs (Decidable
      (∀ block ∈ heap.findBlock pointer, heap.FitsRequest block.size size raw))
  | .free _ => isTrue trivial

/-! ## Blocks -/

theorem sizes_append (first second : List HeapBlock) :
    sizes (first ++ second) = sizes first + sizes second := by
  rw [sizes, List.map_append, List.sum_append, sizes, sizes]

/-- The first block that is looked for is taken out of the sum. -/
theorem sizes_eraseP {isBlock : HeapBlock → Bool} {blocks : List HeapBlock} {block : HeapBlock}
    (found : blocks.find? isBlock = some block) :
    sizes (blocks.eraseP isBlock) + block.size.toNat = sizes blocks := by
  induction blocks with
  | nil => cases found
  | cons first rest ih =>
      have whole : sizes (first :: rest) = first.size.toNat + sizes rest := List.sum_cons
      by_cases isFirst : isBlock first = true
      · rw [List.find?_cons_of_pos isFirst] at found
        obtain rfl := Option.some.inj found
        rw [List.eraseP_cons_of_pos isFirst, whole, Nat.add_comm]
      · rw [List.find?_cons_of_neg isFirst] at found
        have kept : sizes (first :: rest.eraseP isBlock) =
            first.size.toNat + sizes (rest.eraseP isBlock) := List.sum_cons
        rw [List.eraseP_cons_of_neg isFirst, kept, whole, Nat.add_assoc, ih found]

variable {heap : DuktapeHeap}

theorem sizes_eraseBlock {pointer : Nat} {block : HeapBlock}
    (found : heap.findBlock pointer = some block) :
    sizes (heap.eraseBlock pointer) + block.size.toNat = sizes heap.blocks :=
  sizes_eraseP found

theorem pointer_of_findBlock {pointer : Nat} {block : HeapBlock}
    (found : heap.findBlock pointer = some block) : block.pointer = pointer := by
  have isFound := List.find?_some found
  exact beq_iff_eq.mp isFound

/-! ## Calls -/

theorem Exact.exceed (exact_ : heap.Exact) : heap.exceed.Exact :=
  ⟨exact_.used, exact_.limit, exact_.room⟩

/-- The count without a block that is alive. -/
theorem Exact.toNat_sub (exact_ : heap.Exact) {others : List HeapBlock} {oldSize : UInt64}
    (isSum : sizes others + oldSize.toNat = sizes heap.blocks) :
    (heap.state.memoryUsedBytes - oldSize).toNat =
      heap.state.memoryUsedBytes.toNat - oldSize.toNat := by
  apply UInt64.toNat_sub_of_le
  rw [UInt64.le_iff_toNat_le, exact_.used, ← isSum]
  exact Nat.le_add_left _ _

/-- A block is given back. -/
theorem Exact.release (exact_ : heap.Exact) {pointer : Nat} {block : HeapBlock}
    (found : heap.findBlock pointer = some block) : (heap.release block).Exact := by
  have isSum := sizes_eraseBlock found
  have used := exact_.toNat_sub isSum
  rw [DuktapeHeap.release, pointer_of_findBlock found]
  refine ⟨?_, ?_, fun other member => exact_.room other (List.mem_of_mem_eraseP member)⟩
  · dsimp only
    rw [used, exact_.used, ← isSum, Nat.add_sub_cancel]
  · dsimp only
    have below := UInt64.le_iff_toNat_le.mp exact_.limit
    rw [UInt64.le_iff_toNat_le, used]
    omega

/-- A request that is granted leaves an exact heap if and only if its sums do not wrap around. -/
theorem Exact.handOut_iff (exact_ : heap.Exact) {others : List HeapBlock}
    (subset : others ⊆ heap.blocks) {oldSize size : UInt64}
    (isSum : sizes others + oldSize.toNat = sizes heap.blocks)
    (granted : heap.state.memoryUsedBytes - oldSize + size ≤ heap.state.memoryLimitBytes)
    (pointer : Nat) :
    (heap.handOut others (heap.state.memoryUsedBytes - oldSize + size) pointer size).Exact ↔
      heap.state.memoryUsedBytes.toNat - oldSize.toNat + size.toNat < 2 ^ 64 ∧
        size.toNat + headerBytes.toNat < 2 ^ 64 := by
  have used : (heap.state.memoryUsedBytes - oldSize + size).toNat =
      (heap.state.memoryUsedBytes.toNat - oldSize.toNat + size.toNat) % 2 ^ 64 := by
    rw [UInt64.toNat_add, exact_.toNat_sub isSum]
  have total : (size + headerBytes).toNat = (size.toNat + headerBytes.toNat) % 2 ^ 64 :=
    UInt64.toNat_add ..
  have rest : heap.state.memoryUsedBytes.toNat - oldSize.toNat = sizes others := by
    rw [exact_.used, ← isSum, Nat.add_sub_cancel]
  have newSizes : sizes (others ++ [⟨pointer, size + headerBytes, size⟩]) =
      sizes others + size.toNat := sizes_append _ _
  have small := (heap.state.memoryUsedBytes - oldSize + size).toNat_lt
  have smallTotal := (size + headerBytes).toNat_lt
  constructor
  · intro after
    have isUsed : (heap.state.memoryUsedBytes - oldSize + size).toNat =
        sizes others + size.toNat := after.used.trans newSizes
    have room := after.room _ (List.mem_append_right _ List.mem_cons_self)
    dsimp only at room
    exact ⟨by omega, by omega⟩
  · rintro ⟨fits, totalFits⟩
    refine ⟨?_, granted, List.forall_mem_append.mpr ⟨fun other member => ?_,
      List.forall_mem_singleton.mpr ?_⟩⟩
    · refine Eq.trans ?_ newSizes.symm
      rw [DuktapeHeap.handOut]
      dsimp only
      rw [used, Nat.mod_eq_of_lt fits, rest]
    · exact exact_.room other (subset member)
    · dsimp only
      exact Nat.le_of_eq (by rw [total, Nat.mod_eq_of_lt totalFits])

/-- What `alloc` and `realloc` do with a size that is not zero: it takes the place of an old one. -/
def request (heap : DuktapeHeap) (others : List HeapBlock) (oldSize size : UInt64)
    (raw : Option Nat) : Option Nat × DuktapeHeap :=
  if heap.state.memoryUsedBytes - oldSize + size > heap.state.memoryLimitBytes then
    (none, heap.exceed)
  else
    match raw with
    | none => (none, heap)
    | some pointer =>
        (some pointer,
          heap.handOut others (heap.state.memoryUsedBytes - oldSize + size) pointer size)

theorem alloc_eq_request {size : UInt64} (notZero : size ≠ 0) (raw : Option Nat) :
    heap.alloc size raw = heap.request heap.blocks 0 size raw := by
  simp only [alloc, if_neg notZero, request, UInt64.sub_zero]

theorem realloc_eq_request {pointer : Nat} {block : HeapBlock}
    (found : heap.findBlock pointer = some block) {size : UInt64} (notZero : size ≠ 0)
    (raw : Option Nat) :
    heap.realloc (some pointer) size raw =
      heap.request (heap.eraseBlock pointer) block.size size raw := by
  rw [realloc, found]
  exact if_neg notZero

/-- A request that fails changes nothing but the flag. -/
theorem request_of_fails {others : List HeapBlock} {oldSize size : UInt64} {raw : Option Nat}
    (fails : (heap.request others oldSize size raw).1 = none) :
    (heap.request others oldSize size raw).2.state.memoryUsedBytes =
        heap.state.memoryUsedBytes ∧
      (heap.request others oldSize size raw).2.blocks = heap.blocks := by
  unfold request at fails ⊢
  split
  · exact ⟨rfl, rfl⟩
  · rename_i granted
    rw [if_neg granted] at fails
    cases raw with
    | none => exact ⟨rfl, rfl⟩
    | some pointer => cases fails

/-- What is accounted stays exact through a request if and only if the new sum fits. -/
theorem Exact.request_iff (exact_ : heap.Exact) {others : List HeapBlock}
    (subset : others ⊆ heap.blocks) {oldSize size : UInt64}
    (isSum : sizes others + oldSize.toNat = sizes heap.blocks) (raw : Option Nat) :
    (heap.request others oldSize size raw).2.Exact ↔ heap.FitsRequest oldSize size raw := by
  unfold request FitsRequest
  by_cases granted : heap.state.memoryUsedBytes - oldSize + size ≤ heap.state.memoryLimitBytes
  · rw [if_neg (UInt64.not_lt.mpr granted)]
    cases raw with
    | none => exact iff_of_true exact_ nofun
    | some pointer =>
        refine (exact_.handOut_iff subset isSum granted pointer).trans ⟨fun fits _ _ => fits, ?_⟩
        exact fun fits => fits rfl granted
  · rw [if_pos (UInt64.not_le.mp granted)]
    exact iff_of_true exact_.exceed fun _ isGranted => absurd isGranted granted

/-- Nothing wraps around for a size of zero. -/
theorem fitsRequest_zero (heap : DuktapeHeap) (oldSize : UInt64) (raw : Option Nat) :
    heap.FitsRequest oldSize 0 raw := by
  intro _ _
  have small := heap.state.memoryUsedBytes.toNat_lt
  rw [UInt64.toNat_zero]
  exact ⟨by omega, by decide⟩

theorem Exact.keepsExact_alloc_iff (exact_ : heap.Exact) (size : UInt64) (raw : Option Nat) :
    (heap.alloc size raw).2.Exact ↔ heap.FitsRequest 0 size raw := by
  by_cases isZero : size = 0
  · rw [isZero]
    exact iff_of_true exact_ (fitsRequest_zero heap 0 raw)
  · rw [alloc_eq_request isZero]
    exact exact_.request_iff (List.Subset.refl _) (Nat.add_zero _) raw

theorem alloc_of_fails {size : UInt64} {raw : Option Nat}
    (fails : (heap.alloc size raw).1 = none) :
    (heap.alloc size raw).2.state.memoryUsedBytes = heap.state.memoryUsedBytes ∧
      (heap.alloc size raw).2.blocks = heap.blocks := by
  by_cases isZero : size = 0
  · rw [isZero]
    exact ⟨rfl, rfl⟩
  · rw [alloc_eq_request isZero] at fails ⊢
    exact request_of_fails fails

/-- A call that fails changes neither the count nor a block. -/
theorem unchanged_of_fails {action : Action} (fails : heap.Fails action) :
    (heap.step action).state.memoryUsedBytes = heap.state.memoryUsedBytes ∧
      (heap.step action).blocks = heap.blocks := by
  cases action with
  | alloc size raw => exact alloc_of_fails fails
  | free ptr => exact fails.elim
  | realloc ptr size raw =>
      obtain ⟨isNone, asked⟩ := fails
      cases ptr with
      | none => exact alloc_of_fails isNone
      | some pointer =>
          have notZero := asked.resolve_left nofun
          cases found : heap.findBlock pointer with
          | none =>
              rw [step, realloc, found]
              exact ⟨rfl, rfl⟩
          | some block =>
              rw [realloc_eq_request found notZero] at isNone
              rw [step, realloc_eq_request found notZero]
              exact request_of_fails isNone

/-- A call leaves an exact heap if and only if no sum wraps around for a size that is granted. -/
theorem Exact.step_iff (exact_ : heap.Exact) (action : Action) :
    (heap.step action).Exact ↔ heap.Fits action := by
  cases action with
  | alloc size raw => exact exact_.keepsExact_alloc_iff size raw
  | realloc ptr size raw =>
      cases ptr with
      | none => exact exact_.keepsExact_alloc_iff size raw
      | some pointer =>
          rw [step, Fits]
          cases found : heap.findBlock pointer with
          | none =>
              rw [realloc, found]
              exact iff_of_true exact_ nofun
          | some block =>
              have own : (∀ other ∈ some block, heap.FitsRequest other.size size raw) ↔
                  heap.FitsRequest block.size size raw := by
                simp
              rw [own]
              by_cases isZero : size = 0
              · rw [isZero, realloc, found]
                exact iff_of_true (exact_.release found) (fitsRequest_zero heap block.size raw)
              · rw [realloc_eq_request found isZero]
                exact exact_.request_iff (List.eraseP_sublist ..).subset
                  (sizes_eraseBlock found) raw
  | free ptr =>
      unfold step Fits free
      cases ptr with
      | none => exact iff_of_true exact_ trivial
      | some pointer =>
          dsimp only
          cases found : heap.findBlock pointer with
          | none => exact iff_of_true exact_ trivial
          | some block => exact iff_of_true (exact_.release found) trivial

theorem exact_initial (memoryLimitBytes : UInt64) : (initial memoryLimitBytes).Exact where
  used := rfl
  limit := UInt64.zero_le
  room _ member := absurd member List.not_mem_nil

/-- In a run the count is exact and every block has room after every call, and calls that fail
change nothing, if and only if no sum has wrapped around for a size that was granted. -/
theorem keepsExact_iff_fits (memoryLimitBytes : UInt64) (actions : List Action) :
    Foundation.Execution.StepsMeet step KeepsExact (initial memoryLimitBytes) actions ↔
      Foundation.Execution.StepsMeet step Fits (initial memoryLimitBytes) actions := by
  apply Foundation.Execution.stepsMeet_iff ?_ ?_ actions (exact_initial memoryLimitBytes)
  · intro heap action exact_
    refine ⟨fun keeps => (exact_.step_iff action).mp keeps.exact_, fun fits => ?_⟩
    exact ⟨(exact_.step_iff action).mpr fits, fun fails => (unchanged_of_fails fails).1,
      fun fails => (unchanged_of_fails fails).2⟩
  · exact fun heap action _ keeps => keeps.exact_

/-- Four bytes less than 2^64 are asked for while 100 bytes are in use. -/
def wrappedSize : List Action := [.alloc 100 (some 1), .alloc (-4) (some 2)]

/-- The request is granted with a block of four bytes in all, and the count goes down to 96. -/
theorem wrappedSize_isGranted :
    let heap := wrappedSize.foldl step (initial (32 * 1024 * 1024))
    heap.state.memoryUsedBytes = 96 ∧
      heap.blocks.map (fun block => (block.size.toNat, block.total.toNat)) =
        [(100, 108), (2 ^ 64 - 4, 4)] ∧
      ¬Foundation.Execution.StepsMeet step KeepsExact (initial (32 * 1024 * 1024)) wrappedSize := by
  refine ⟨by decide, by decide, fun ⟨_, wrapped, _⟩ => ?_⟩
  have room := wrapped.exact_.room _ (List.mem_append_right _ List.mem_cons_self)
  revert room
  decide

end DuktapeHeap

end Karabiner
