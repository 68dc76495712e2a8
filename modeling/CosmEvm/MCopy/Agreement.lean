import CosmEvm.MCopy.Execute

/-!
# MCOPY: gas against execution

The interpreter runs `gasMCopy` and then `opMCopy` on the same stack, with the
memory whose `lastGasCost` the gas function updated; MCOPY has no
`memorySize` function, so nothing resizes memory in between.  The first
section shows that the two agree: whatever the gas function accepts, the
execution performs without error and within the growth that was charged,
and it moves the bytes as EIP-5656 says (`mcopy_moves_bytes`).

The second section records where the pair departs from go-ethereum's memory
discipline and from EIP-5656, each at an explicit input: the execution grows
memory to an unrounded size, a zero-length copy is still charged for the
range its offsets name, and the operands are cut to 64 bits before any
overflow check.
-/

namespace CosmEvm

/-! ## What a successful gas computation guarantees -/

/-- A successful `memoryGasCost` was asked for a size within the cap. -/
theorem le_maxMemorySize_of_memoryGasCost {mem mem' : Memory} {size fee : Nat}
    (charged : memoryGasCost mem size = .ok (fee, mem')) : size ≤ maxMemorySize := by
  by_contra large
  rw [memoryGasCost_of_gt (Nat.lt_of_not_le large)] at charged
  cases charged

/-- Inversion of a successful `gasMCopy`: no range end overflowed, the
expansion fee was computed for the larger end, and the total is that fee plus
three gas per byte. -/
theorem gasMCopy_eq_ok {l s d : Word} {rest : List Word} {mem charged : Memory} {gas : Nat}
    (gasOk : gasMCopy ⟨l :: s :: d :: rest⟩ mem = .ok (gas, charged)) :
    ∃ memGas, memoryGasCost mem (mcopyEnd l.uint64 s.uint64 d.uint64) = .ok (memGas, charged) ∧
      gas = memGas + 3 * l.uint64 ∧ gas < 2 ^ 64 := by
  rw [gasMCopy_cons] at gasOk
  split at gasOk
  · cases gasOk
  · cases memCharged : memoryGasCost mem (mcopyEnd l.uint64 s.uint64 d.uint64) with
    | error err => simp [memCharged, Except.bind] at gasOk
    | ok result =>
      simp only [memCharged, Except.bind] at gasOk
      split at gasOk
      · cases gasOk
      · rename_i noOverflow
        cases gasOk
        exact ⟨result.1, rfl, rfl, by omega⟩

/-- MCOPY's gas and execution agree.  Whenever `gasMCopy` accepts a stack and
a memory, `opMCopy` on the same stack (which it reads with `dst` and `src`
swapped) succeeds with no output, pops exactly the three operands, and leaves
memory no longer than the old length or the word-rounded larger end that was
charged for; that rounded end never passes `0x1FFFFFFFE0`. -/
theorem opMCopy_succeeds_of_gasMCopy (l s d : Word) (rest : List Word) (mem charged : Memory)
    (contract : Contract) (gas : Nat)
    (gasOk : gasMCopy ⟨l :: s :: d :: rest⟩ mem = .ok (gas, charged)) :
    ∃ after : Memory,
      opMCopy ⟨charged, ⟨l :: s :: d :: rest⟩, contract⟩ = .ok (none, ⟨after, ⟨rest⟩, contract⟩) ∧
        after.len ≤ max mem.len ((mcopyEnd l.uint64 s.uint64 d.uint64 + 31) / 32 * 32) ∧
        (mcopyEnd l.uint64 s.uint64 d.uint64 + 31) / 32 * 32 ≤ maxMemorySize := by
  obtain ⟨memGas, memCharged, -, -⟩ := gasMCopy_eq_ok gasOk
  have bound := le_maxMemorySize_of_memoryGasCost memCharged
  have sameLen : charged.len = mem.len := by
    unfold Memory.len
    rw [store_of_memoryGasCost memCharged]
  have rounded : (mcopyEnd l.uint64 s.uint64 d.uint64 + 31) / 32 * 32 ≤ maxMemorySize := by
    unfold maxMemorySize at bound ⊢
    omega
  rcases Nat.eq_zero_or_pos l.uint64 with zero | positive
  · exact ⟨charged, opMCopy_of_zero rest charged contract zero, by omega, rounded⟩
  · have small : mcopyEnd l.uint64 d.uint64 s.uint64 < 2 ^ 63 := by
      rw [mcopyEnd_comm]
      unfold maxMemorySize at bound
      omega
    refine ⟨charged.copyWithin s.uint64 d.uint64 l.uint64,
      opMCopy_of_lt rest charged contract positive small, ?_, rounded⟩
    rw [Memory.len_copyWithin, sameLen, mcopyEnd_comm]
    omega

/-- The agreement at a one-byte copy on fresh memory. -/
theorem opMCopy_succeeds_of_gasMCopy_one_byte :
    gasMCopy ⟨[1, 0, 0]⟩ Memory.newMemory = .ok (6, ⟨[], 3, by decide⟩) ∧
      ∃ after : Memory,
        opMCopy ⟨⟨[], 3, by decide⟩, ⟨[1, 0, 0]⟩, ⟨0, 0⟩⟩ = .ok (none, ⟨after, ⟨[]⟩, ⟨0, 0⟩⟩) ∧
          after.len ≤ max Memory.newMemory.len ((mcopyEnd 1 0 0 + 31) / 32 * 32) ∧
          (mcopyEnd 1 0 0 + 31) / 32 * 32 ≤ maxMemorySize :=
  ⟨rfl, opMCopy_succeeds_of_gasMCopy 1 0 0 [] Memory.newMemory ⟨[], 3, by decide⟩ ⟨0, 0⟩ 6 rfl⟩

/-- MCOPY moves bytes as EIP-5656 says, on the operands as the code reads
them: whenever `gasMCopy` accepts, `opMCopy` zero-extends memory to the larger
end of the two ranges (not at all for a zero length) and writes at `dst` the
`length` bytes found at `src` before the copy, keeping every other byte. -/
theorem mcopy_moves_bytes (l dst src : Word) (rest : List Word) (mem charged : Memory)
    (contract : Contract) (gas : Nat)
    (gasOk : gasMCopy ⟨l :: dst :: src :: rest⟩ mem = .ok (gas, charged)) :
    ∃ after : Memory,
      opMCopy ⟨charged, ⟨l :: dst :: src :: rest⟩, contract⟩ =
          .ok (none, ⟨after, ⟨rest⟩, contract⟩) ∧
        after.len = (if l.uint64 = 0 then mem.len
          else max mem.len (mcopyEnd l.uint64 src.uint64 dst.uint64)) ∧
        ∀ i < after.len, after.store[i]? = some
          (if dst.uint64 ≤ i ∧ i < dst.uint64 + l.uint64 then
            mem.store[src.uint64 + (i - dst.uint64)]?.getD 0
          else mem.store[i]?.getD 0) := by
  obtain ⟨memGas, memCharged, -, -⟩ := gasMCopy_eq_ok gasOk
  have bound := le_maxMemorySize_of_memoryGasCost memCharged
  have sameStore := store_of_memoryGasCost memCharged
  have sameLen : charged.len = mem.len := congrArg List.length sameStore
  rcases Nat.eq_zero_or_pos l.uint64 with zero | positive
  · refine ⟨charged, opMCopy_of_zero rest charged contract zero, by rw [if_pos zero, sameLen],
      fun i inside => ?_⟩
    rw [if_neg (by omega), ← sameStore, ← Memory.resize_of_le (Nat.zero_le charged.len)]
    exact Memory.getElem?_store_resize_of_lt (by simpa using inside)
  · have small : mcopyEnd l.uint64 src.uint64 dst.uint64 < 2 ^ 63 := by
      rw [mcopyEnd_comm]
      unfold maxMemorySize at bound
      omega
    refine ⟨charged.copyWithin dst.uint64 src.uint64 l.uint64,
      opMCopy_of_lt rest charged contract positive small,
      by rw [if_neg (Nat.pos_iff_ne_zero.mp positive), Memory.len_copyWithin, sameLen],
      fun i inside => ?_⟩
    rw [Memory.len_copyWithin] at inside
    rw [Memory.getElem?_copyWithin, ← sameStore]
    split_ifs with inDst
    · exact Memory.getElem?_store_resize_of_lt (by unfold mcopyEnd; omega)
    · exact Memory.getElem?_store_resize_of_lt inside

theorem mcopy_moves_bytes_overlapping :
    gasMCopy ⟨[2, 1, 0]⟩ ⟨[1, 2, 3, 4], 0, by decide⟩ = .ok (9, ⟨[1, 2, 3, 4], 3, by decide⟩) ∧
      ∃ after : Memory,
        opMCopy ⟨⟨[1, 2, 3, 4], 3, by decide⟩, ⟨[2, 1, 0]⟩, ⟨0, 0⟩⟩ =
            .ok (none, ⟨after, ⟨[]⟩, ⟨0, 0⟩⟩) ∧
          after.len = (if (2 : Word).uint64 = 0 then 4
            else max 4 (mcopyEnd (2 : Word).uint64 (0 : Word).uint64 (1 : Word).uint64)) ∧
          ∀ i < after.len, after.store[i]? = some
            (if (1 : Word).uint64 ≤ i ∧ i < (1 : Word).uint64 + (2 : Word).uint64 then
              [1, 2, 3, 4][(0 : Word).uint64 + (i - (1 : Word).uint64)]?.getD 0
            else [1, 2, 3, 4][i]?.getD 0) :=
  ⟨rfl, mcopy_moves_bytes 2 1 0 [] ⟨[1, 2, 3, 4], 0, by decide⟩ ⟨[1, 2, 3, 4], 3, by decide⟩ ⟨0, 0⟩ 9
    (by rfl)⟩

/-! ## Where the pair departs from the memory discipline -/

namespace Memory

/-- go-ethereum's memory invariant: the store is a whole number of words and
`lastGasCost` is the fee of exactly that many words. -/
def Consistent (m : Memory) : Prop := m.len % 32 = 0 ∧ m.lastGasCost = totalFee (m.len / 32)

instance : DecidablePred Consistent := fun _ => inferInstanceAs (Decidable (_ ∧ _))

end Memory

/-- A one-byte MCOPY on fresh memory: `gasMCopy` records the fee of one word,
but `opMCopy` resizes to the unrounded end and leaves a one-byte store, so the
memory is no longer consistent. -/
theorem mcopy_leaves_unaligned_memory :
    Memory.newMemory.Consistent ∧
      gasMCopy ⟨[1, 0, 0]⟩ Memory.newMemory = .ok (6, ⟨[], 3, by decide⟩) ∧
      opMCopy ⟨⟨[], 3, by decide⟩, ⟨[1, 0, 0]⟩, ⟨0, 0⟩⟩ =
        .ok (none, ⟨⟨[0], 3, by decide⟩, ⟨[]⟩, ⟨0, 0⟩⟩) ∧
      ¬ (⟨[0], 3, by decide⟩ : Memory).Consistent :=
  ⟨by decide, rfl, rfl, by decide⟩

/-- A zero-length MCOPY is charged for the range its offsets name: with the
source offset at 100 it charges the fee of four words and records it, and
with the source offset at `2 ^ 40` it fails with an overflow. -/
theorem gasMCopy_charges_zero_length :
    gasMCopy ⟨[0, 100, 0]⟩ Memory.newMemory = .ok (12, ⟨[], 12, by decide⟩) ∧
      gasMCopy ⟨[0, 0x10000000000, 0]⟩ Memory.newMemory = .error .errGasUintOverflow :=
  ⟨rfl, rfl⟩

/-- A length of `2 ^ 64 + 1` is read as `1`: `gasMCopy` charges six gas
instead of reporting that the range end overflows. -/
theorem gasMCopy_truncates_length :
    gasMCopy ⟨[0x10000000000000001, 0, 0]⟩ Memory.newMemory = .ok (6, ⟨[], 3, by decide⟩) :=
  rfl

/-- The same truncation in `opMCopy`: with length `2 ^ 64 + 1`, destination `0`
and source `2` over the store `[1, 2, 3, 4]`, the gas function accepts and the
copy moves one byte, so byte 1 stays `2` where a copy of the full length
writes the source byte 3, which is `4`. -/
theorem opMCopy_truncates_length :
    gasMCopy ⟨[0x10000000000000001, 0, 2]⟩ ⟨[1, 2, 3, 4], 0, by decide⟩ =
        .ok (6, ⟨[1, 2, 3, 4], 3, by decide⟩) ∧
      opMCopy ⟨⟨[1, 2, 3, 4], 3, by decide⟩, ⟨[0x10000000000000001, 0, 2]⟩, ⟨0, 0⟩⟩ =
        .ok (none, ⟨⟨[3, 2, 3, 4], 3, by decide⟩, ⟨[]⟩, ⟨0, 0⟩⟩) :=
  ⟨rfl, rfl⟩

end CosmEvm
