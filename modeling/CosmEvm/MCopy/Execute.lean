import CosmEvm.MCopy.Gas

/-!
# The MCOPY execution function

`opMCopy` pops the length, then the word it calls `dst`, then the word it calls
`src` (the opposite of the names `gasMCopy` gives the same two words), grows
memory to the unrounded larger end and copies through `GetPtr` and `Set`.
`Memory.copyWithin` is the intended effect, a copy through a temporary buffer;
`opMCopy_of_lt` says that on every range the gas function can accept,
`opMCopy` performs exactly that copy.
-/

namespace CosmEvm

/-- `opMCopy`: pop three words and copy `length` bytes from `src` to `dst`. -/
def opMCopy (scope : ScopeContext) : Except VmError (Option (List UInt8) × ScopeContext) := do
  let (val, stack) ← scope.stack.pop
  let length := val.uint64
  let (val2, stack) ← stack.pop
  let dst := val2.uint64
  let (val3, stack) ← stack.pop
  let src := val3.uint64
  let scope := { scope with stack }
  if length = 0 then
    return (none, scope)
  let (endSrc, overflow1) := safeAdd src length
  let (endDst, overflow2) := safeAdd dst length
  if overflow1 || overflow2 then
    throw .errMemoryOverflow
  let maxEnd := if endDst > endSrc then endDst else endSrc
  let memory := scope.memory.resize maxEnd
  match ← memory.getPtr (toInt64 src) (toInt64 length) with
  | none => throw .errMemoryOverflow
  | some srcData =>
    let memory ← memory.set dst length srcData
    return (none, { scope with memory })

namespace Memory

/-- The intended MCOPY effect: zero-extend to the larger end, then write the
`length` source bytes, all read before any is written, at `dst`. -/
def copyWithin (m : Memory) (dst src length : Nat) : Memory :=
  let grown := m.resize (mcopyEnd length src dst)
  { grown with
    store := grown.store.take dst ++ (grown.store.drop src).take length ++
      grown.store.drop (dst + length) }

@[simp]
theorem lastGasCost_copyWithin (m : Memory) (dst src length : Nat) :
    (m.copyWithin dst src length).lastGasCost = m.lastGasCost := by
  simp [copyWithin]

/-- Reading the spliced list: inside the destination range the source bytes,
elsewhere the original ones. -/
theorem getElem?_splice {α : Type} (l : List α) (d s n i : Nat) (srcFits : s + n ≤ l.length)
    (dstFits : d + n ≤ l.length) :
    (l.take d ++ (l.drop s).take n ++ l.drop (d + n))[i]? =
      if d ≤ i ∧ i < d + n then l[s + (i - d)]? else l[i]? := by
  have front : (l.take d).length = d := List.length_take_of_le (by omega)
  have middle : ((l.drop s).take n).length = n := List.length_take_of_le (by simp; omega)
  by_cases below : i < d
  · rw [List.append_assoc, List.getElem?_append_left (by omega), List.getElem?_take,
      if_pos below, if_neg (by omega)]
  · by_cases inside : i < d + n
    · rw [List.getElem?_append_left (by simp only [List.length_append]; omega),
        List.getElem?_append_right (by omega), front, List.getElem?_take, if_pos (by omega),
        List.getElem?_drop, if_pos ⟨by omega, inside⟩]
    · rw [List.getElem?_append_right (by simp only [List.length_append]; omega),
        List.getElem?_drop, if_neg (by omega)]
      simp only [List.length_append, front, middle]
      congr 1
      omega

/-- Both ranges fit in the zero-extended memory. -/
theorem ends_le_len_resize (m : Memory) (dst src length : Nat) :
    src + length ≤ (m.resize (mcopyEnd length src dst)).len ∧
      dst + length ≤ (m.resize (mcopyEnd length src dst)).len := by
  rw [len_resize, mcopyEnd]
  exact ⟨(Nat.le_max_left _ _).trans (Nat.le_max_right _ _),
    (Nat.le_max_right _ _).trans (Nat.le_max_right _ _)⟩

@[simp]
theorem len_copyWithin (m : Memory) (dst src length : Nat) :
    (m.copyWithin dst src length).len = max m.len (mcopyEnd length src dst) := by
  have fits := ends_le_len_resize m dst src length
  have grown := len_resize m (mcopyEnd length src dst)
  unfold len at fits grown ⊢
  simp only [copyWithin, List.length_append, List.length_take, List.length_drop]
  omega

/-- Byte `i` after the copy: inside the destination range it is the matching
source byte of the zero-extended memory, elsewhere the zero-extended byte. -/
theorem getElem?_copyWithin (m : Memory) (dst src length i : Nat) :
    (m.copyWithin dst src length).store[i]? =
      if dst ≤ i ∧ i < dst + length then
        (m.resize (mcopyEnd length src dst)).store[src + (i - dst)]?
      else (m.resize (mcopyEnd length src dst)).store[i]? :=
  getElem?_splice _ dst src length i (ends_le_len_resize m dst src length).1
    (ends_le_len_resize m dst src length).2

end Memory

/-- On a zero length `opMCopy` only pops its operands. -/
theorem opMCopy_of_zero {l d s : Word} (rest : List Word) (mem : Memory) (contract : Contract)
    (zero : l.uint64 = 0) :
    opMCopy ⟨mem, ⟨l :: d :: s :: rest⟩, contract⟩ = .ok (none, ⟨mem, ⟨rest⟩, contract⟩) := by
  simp [opMCopy, bind, Except.bind, pure, Except.pure, zero]

/-- Spec of `opMCopy` on a stack `length :: dst :: src :: rest` whose ranges end
below `2 ^ 63`: it pops the three words and performs `copyWithin`. -/
theorem opMCopy_of_lt {l d s : Word} (rest : List Word) (mem : Memory) (contract : Contract)
    (positive : 0 < l.uint64) (small : mcopyEnd l.uint64 s.uint64 d.uint64 < 2 ^ 63) :
    opMCopy ⟨mem, ⟨l :: d :: s :: rest⟩, contract⟩ =
      .ok (none, ⟨mem.copyWithin d.uint64 s.uint64 l.uint64, ⟨rest⟩, contract⟩) := by
  have fits := Memory.ends_le_len_resize mem d.uint64 s.uint64 l.uint64
  have maxEnd : (if d.uint64 + l.uint64 > s.uint64 + l.uint64 then d.uint64 + l.uint64
      else s.uint64 + l.uint64) = mcopyEnd l.uint64 s.uint64 d.uint64 := by
    unfold mcopyEnd
    rw [Nat.max_def]
    split <;> split <;> omega
  unfold mcopyEnd at small
  have srcEnd : s.uint64 + l.uint64 < 2 ^ 64 := by omega
  have dstEnd : d.uint64 + l.uint64 < 2 ^ 64 := by omega
  simp only [opMCopy, Stack.pop_cons, bind, Except.bind, pure, Except.pure, safeAdd_snd,
    Bool.or_eq_true, decide_eq_true_eq, Nat.ne_of_gt positive, if_false,
    safeAdd_fst_of_lt srcEnd, safeAdd_fst_of_lt dstEnd, maxEnd,
    toInt64_of_lt (show s.uint64 < 2 ^ 63 by omega), toInt64_of_lt (show l.uint64 < 2 ^ 63 by omega)]
  rw [if_neg (by omega), Memory.getPtr_of_le positive fits.1]
  dsimp only
  rw [Memory.set_of_le positive fits.2 dstEnd
    (List.length_take_of_le (by simp only [List.length_drop]; unfold Memory.len at fits; omega))]
  rfl

end CosmEvm
