import CosmEvm.Core.Params

/-!
# Interpreter memory and its expansion cost

go-ethereum's `Memory` is a byte slice together with `lastGasCost`, the
expansion fee already paid for the current size.  `memoryGasCost` charges the
difference between the fee of the word-rounded new size and `lastGasCost`,
records the new fee, and leaves the slice alone: growing it is the caller's
job, through `Resize`.  Its subtraction is `uint64` subtraction, so the model
keeps it modulo `2 ^ 64`; `lastGasCost` carries its `uint64` bound as a field.

`GetPtr` returns an aliasing sub-slice, and `Set` copies with Go's built-in
`copy`, which has `memmove` semantics.  Reading the slice as a value is
therefore exact even when the two ranges overlap.  Slicing beyond the length
is taken as the runtime's slice-bounds panic (the spare capacity of a Go slice
is not modelled).
-/

namespace CosmEvm

/-- The expansion fee of a memory of `words` 32-byte words:
`words * MemoryGas + words * words / QuadCoeffDiv`. -/
def totalFee (words : Nat) : Nat := words * MemoryGas + words * words / QuadCoeffDiv

/-- `toWordSize`: the number of 32-byte words covering `size` bytes, saturated
near the top of `uint64`. -/
def toWordSize (size : Nat) : Nat :=
  if size > 2 ^ 64 - 1 - 31 then (2 ^ 64 - 1) / 32 + 1 else (size + 31) / 32

/-- The largest size whose fee `memoryGasCost` still computes. -/
def maxMemorySize : Nat := 0x1FFFFFFFE0

theorem toWordSize_of_le {size : Nat} (bound : size ≤ maxMemorySize) :
    toWordSize size = (size + 31) / 32 := by
  unfold toWordSize maxMemorySize at *
  exact if_neg (by omega)

/-- Below the cap the fee fits in a `uint64`. -/
theorem totalFee_toWordSize_lt {size : Nat} (bound : ¬ size > maxMemorySize) :
    totalFee (toWordSize size) < 2 ^ 64 := by
  rw [toWordSize_of_le (Nat.le_of_not_gt bound)]
  unfold maxMemorySize at bound
  have words : (size + 31) / 32 ≤ 0xFFFFFFFF := by omega
  have square := Nat.mul_le_mul words words
  unfold totalFee MemoryGas QuadCoeffDiv
  omega

/-- go-ethereum's `Memory`. -/
structure Memory where
  store : List UInt8
  lastGasCost : Nat
  lastGasCost_lt : lastGasCost < 2 ^ 64
  deriving DecidableEq, Repr

namespace Memory

/-- `NewMemory()`. -/
def newMemory : Memory := ⟨[], 0, by decide⟩

/-- `Len()`. -/
def len (m : Memory) : Nat := m.store.length

/-- `Resize(size)`: extend with zero bytes up to `size`, never shrink. -/
def resize (m : Memory) (size : Nat) : Memory :=
  if m.len < size then { m with store := m.store ++ List.replicate (size - m.len) 0 } else m

/-- `GetPtr(offset, size)`: the aliased slice `store[offset : offset+size]`, or
`nil` when `size` is zero or `offset` is not below the length. -/
def getPtr (m : Memory) (offset size : Int) : Except VmError (Option (List UInt8)) :=
  if size = 0 then .ok none
  else if offset < m.len then
    if 0 ≤ offset ∧ 0 ≤ size ∧ offset + size ≤ m.len then
      .ok (some ((m.store.drop offset.toNat).take size.toNat))
    else .error .sliceBounds
  else .ok none

/-- `Set(offset, size, value)`: `copy(store[offset:offset+size], value)`, after
the check that the store already covers the range.  `offset+size` is `uint64`
addition. -/
def set (m : Memory) (offset size : Nat) (value : List UInt8) : Except VmError Memory :=
  if size = 0 then .ok m
  else
    let stop := (offset + size) % 2 ^ 64
    if stop > m.len then .error .invalidMemory
    else if stop < offset then .error .sliceBounds
    else
      let copied := min size value.length
      .ok { m with store := m.store.take offset ++ value.take copied ++ m.store.drop (offset + copied) }

end Memory

/-- `memoryGasCost(mem, newMemSize)`: the fee for growing to `newMemSize`
bytes (rounded up to words) beyond what `lastGasCost` already paid, with the
new fee recorded in the returned memory. -/
def memoryGasCost (mem : Memory) (newMemSize : Nat) : Except VmError (Nat × Memory) :=
  if newMemSize = 0 then .ok (0, mem)
  else if bound : newMemSize > maxMemorySize then .error .errGasUintOverflow
  else
    let newMemSizeWords := toWordSize newMemSize
    if newMemSizeWords * 32 > mem.len then
      let newTotalFee := totalFee newMemSizeWords
      let fee := (newTotalFee + 2 ^ 64 - mem.lastGasCost) % 2 ^ 64
      .ok (fee, { mem with lastGasCost := newTotalFee,
                           lastGasCost_lt := totalFee_toWordSize_lt bound })
    else .ok (0, mem)


namespace Memory

/-! ## Resizing, reading and writing -/

@[simp]
theorem len_resize (m : Memory) (size : Nat) : (m.resize size).len = max m.len size := by
  unfold resize len
  split <;> simp only [List.length_append, List.length_replicate, Nat.max_def] <;> split <;> omega

@[simp]
theorem lastGasCost_resize (m : Memory) (size : Nat) :
    (m.resize size).lastGasCost = m.lastGasCost := by
  unfold resize
  split <;> rfl

/-- Resizing keeps every byte and reads zero in the new part. -/
theorem getElem?_store_resize (m : Memory) (size i : Nat) :
    (m.resize size).store[i]? =
      if i < m.len then m.store[i]? else if i < size then some 0 else none := by
  unfold resize len
  split
  · by_cases inside : i < m.store.length
    · simp [List.getElem?_append_left inside, inside]
    · simp only [List.getElem?_append_right (Nat.le_of_not_gt inside), inside,
        List.getElem?_replicate, if_false]
      congr 1
      apply propext
      omega
  · by_cases inside : i < m.store.length
    · simp [inside]
    · simp only [inside, if_false, List.getElem?_eq_none (Nat.le_of_not_gt inside)]
      split <;> first | rfl | omega

/-- Below the resized length every byte reads as the old byte, or as zero past
the old end. -/
theorem getElem?_store_resize_of_lt {m : Memory} {size i : Nat}
    (inside : i < max m.len size) : (m.resize size).store[i]? = some (m.store[i]?.getD 0) := by
  rw [getElem?_store_resize]
  unfold len at inside ⊢
  split_ifs with old
  · simp [List.getElem?_eq_getElem old]
  · simp [List.getElem?_eq_none (Nat.le_of_not_gt old)]
  · omega

/-- Resizing to a size already covered changes nothing. -/
theorem resize_of_le {m : Memory} {size : Nat} (covered : size ≤ m.len) : m.resize size = m := by
  unfold resize
  exact if_neg (by omega)

/-- Inside the store `GetPtr` returns the bytes of the range. -/
theorem getPtr_of_le {m : Memory} {offset size : Nat} (positive : 0 < size)
    (inside : offset + size ≤ m.len) :
    m.getPtr offset size = .ok (some ((m.store.drop offset).take size)) := by
  unfold getPtr
  rw [if_neg (by omega), if_pos (by omega), if_pos (by omega)]
  rfl

/-- Inside the store `Set` overwrites exactly the range with the value. -/
theorem set_of_le {m : Memory} {offset size : Nat} {value : List UInt8} (positive : 0 < size)
    (inside : offset + size ≤ m.len) (fits : offset + size < 2 ^ 64) (sized : value.length = size) :
    m.set offset size value =
      .ok { m with store := m.store.take offset ++ value ++ m.store.drop (offset + size) } := by
  unfold set
  have stop : (offset + size) % 2 ^ 64 = offset + size := Nat.mod_eq_of_lt (by omega)
  rw [if_neg (by omega), stop, if_neg (by omega), if_neg (by omega)]
  simp [sized]

end Memory

/-! ## The expansion fee -/

@[simp]
theorem memoryGasCost_zero (mem : Memory) : memoryGasCost mem 0 = .ok (0, mem) := rfl

theorem memoryGasCost_of_gt {mem : Memory} {size : Nat} (large : size > maxMemorySize) :
    memoryGasCost mem size = .error .errGasUintOverflow := by
  unfold memoryGasCost
  rw [if_neg (by unfold maxMemorySize at large; omega), dif_pos large]

/-- Below the cap `memoryGasCost` charges the fee difference when the rounded
size passes the length, and nothing otherwise. -/
theorem memoryGasCost_of_le {mem : Memory} {size : Nat} (positive : 0 < size)
    (bound : size ≤ maxMemorySize) :
    memoryGasCost mem size =
      if (size + 31) / 32 * 32 > mem.len then
        .ok ((totalFee ((size + 31) / 32) + 2 ^ 64 - mem.lastGasCost) % 2 ^ 64,
          { mem with lastGasCost := totalFee ((size + 31) / 32),
                     lastGasCost_lt := toWordSize_of_le bound ▸
                       totalFee_toWordSize_lt (Nat.not_lt_of_le bound) })
      else .ok (0, mem) := by
  unfold memoryGasCost
  rw [if_neg (by omega), dif_neg (Nat.not_lt_of_le bound)]
  simp only [toWordSize_of_le bound]

/-- `memoryGasCost` fails only above the cap. -/
theorem memoryGasCost_eq_error_iff {mem : Memory} {size : Nat} {err : VmError} :
    memoryGasCost mem size = .error err ↔ size > maxMemorySize ∧ err = .errGasUintOverflow := by
  by_cases large : size > maxMemorySize
  · simp [memoryGasCost_of_gt large, large, eq_comm]
  · simp only [large, false_and, iff_false]
    rcases Nat.eq_zero_or_pos size with rfl | positive
    · simp
    · rw [memoryGasCost_of_le positive (Nat.le_of_not_gt large)]
      split <;> simp

/-- `memoryGasCost` never touches the bytes. -/
theorem store_of_memoryGasCost {mem mem' : Memory} {size fee : Nat}
    (charged : memoryGasCost mem size = .ok (fee, mem')) : mem'.store = mem.store := by
  unfold memoryGasCost at charged
  split at charged
  · cases charged; rfl
  · split at charged
    · cases charged
    · dsimp only at charged
      split at charged <;> cases charged <;> rfl

end CosmEvm
