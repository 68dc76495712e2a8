import CosmEvm.Core.Frame

/-!
# The EIP-3860 initcode gas functions

`gasCreateEIP3860` and `gasCreate2EIP3860` share one body: read the initcode
size from `Back(0)` and its offset from `Back(1)` with `Uint64()`, reject a
size above `49152`, then charge memory expansion up to `offset + size` and two
gas per 32-byte chunk, each sum overflow-checked.  No activator installs them
(`enable3860` is commented out).  CREATE and CREATE2 keep the value (the
endowment) at `Back(0)` and the initcode offset and size at `Back(1)` and
`Back(2)`, so the size these functions check is the value
(`gasCreateEIP3860_checks_value_as_size`).
-/

namespace CosmEvm

/-- The body of `gasCreateEIP3860` and `gasCreate2EIP3860`, with their
`maxInitCodeSize` constant, and the memory whose `lastGasCost`
`memoryGasCost` updated. -/
def gasInitCodeEIP3860 (maxInitCodeSize : Nat) (stack : Stack) (mem : Memory) :
    Except VmError (Nat × Memory) := do
  let size := (← stack.back 0).uint64
  let offset := (← stack.back 1).uint64
  if size > maxInitCodeSize then throw .errMaxInitCodeSizeExceeded
  let (requiredMemSize, overflow) := safeAdd offset size
  if overflow then throw .errGasUintOverflow
  let (memGas, mem) ← memoryGasCost mem requiredMemSize
  let chunkCount := (size + 31) / 32
  let (overhead, overflow2) := safeMul chunkCount 2
  if overflow2 then throw .errGasUintOverflow
  let (totalGas, overflow3) := safeAdd memGas overhead
  if overflow3 then throw .errGasUintOverflow
  return (totalGas, mem)

/-- `gasCreateEIP3860`. -/
def gasCreateEIP3860 : Stack → Memory → Except VmError (Nat × Memory) :=
  gasInitCodeEIP3860 49152

/-- `gasCreate2EIP3860`. -/
def gasCreate2EIP3860 : Stack → Memory → Except VmError (Nat × Memory) :=
  gasInitCodeEIP3860 49152

/-- Spec of the shared body on a stack with two words on top: only those two
words are read, the top one as the size. -/
theorem gasInitCodeEIP3860_cons (maxInitCodeSize : Nat) (w₀ w₁ : Word) (rest : List Word)
    (mem : Memory) :
    gasInitCodeEIP3860 maxInitCodeSize ⟨w₀ :: w₁ :: rest⟩ mem =
      if w₀.uint64 > maxInitCodeSize then .error .errMaxInitCodeSizeExceeded
      else if 2 ^ 64 ≤ w₁.uint64 + w₀.uint64 then .error .errGasUintOverflow
      else
        (memoryGasCost mem (w₁.uint64 + w₀.uint64)).bind fun charged =>
          if 2 ^ 64 ≤ (w₀.uint64 + 31) / 32 * 2 ∨
              2 ^ 64 ≤ charged.1 + (w₀.uint64 + 31) / 32 * 2 then .error .errGasUintOverflow
          else .ok (charged.1 + (w₀.uint64 + 31) / 32 * 2, charged.2) := by
  simp only [gasInitCodeEIP3860, Stack.back_cons_zero, Stack.back_cons_succ, bind, Except.bind,
    pure, Except.pure, safeAdd_snd, safeMul_snd, decide_eq_true_eq]
  split
  · rfl
  · split
    · rfl
    · rename_i fits
      rw [safeAdd_fst_of_lt (Nat.lt_of_not_le fits)]
      rcases memoryGasCost mem (w₁.uint64 + w₀.uint64) with err | ⟨memGas, charged⟩
      · rfl
      · dsimp only
        by_cases chunks : 2 ^ 64 ≤ (w₀.uint64 + 31) / 32 * 2
        · rw [if_pos chunks, if_pos (.inl chunks)]
        · rw [if_neg chunks, safeMul_fst_of_lt (Nat.lt_of_not_le chunks)]
          split <;> rename_i total
          · rw [if_pos (.inr total)]
          · rw [if_neg (not_or.mpr ⟨chunks, total⟩), safeAdd_fst_of_lt (Nat.lt_of_not_le total)]

/-- The size these functions check is the CREATE value (the CREATE2
endowment), whatever the initcode size: with value `49153` the size limit
fails even for an empty initcode, and with value `0` and offset `0` on fresh
memory nothing fails and nothing is charged even for an initcode above the
limit. -/
theorem gasCreateEIP3860_checks_value_as_size (offset size : Word) (rest : List Word)
    (mem : Memory) :
    gasCreateEIP3860 ⟨49153 :: offset :: size :: rest⟩ mem = .error .errMaxInitCodeSizeExceeded ∧
      gasCreate2EIP3860 ⟨49153 :: offset :: size :: rest⟩ mem =
        .error .errMaxInitCodeSizeExceeded ∧
      gasCreateEIP3860 ⟨0 :: 0 :: size :: rest⟩ Memory.newMemory = .ok (0, Memory.newMemory) ∧
      gasCreate2EIP3860 ⟨0 :: 0 :: size :: rest⟩ Memory.newMemory = .ok (0, Memory.newMemory) := by
  have rejected : gasInitCodeEIP3860 49152 ⟨49153 :: offset :: size :: rest⟩ mem =
      .error .errMaxInitCodeSizeExceeded := by
    rw [gasInitCodeEIP3860_cons, if_pos (by decide)]
  have accepted : gasInitCodeEIP3860 49152 ⟨0 :: 0 :: size :: rest⟩ Memory.newMemory =
      .ok (0, Memory.newMemory) := by
    rw [gasInitCodeEIP3860_cons, if_neg (by decide), if_neg (by decide)]
    rfl
  exact ⟨rejected, rejected, accepted, accepted⟩

end CosmEvm
