import CosmEvm.Core.Frame

/-!
# The MCOPY gas function

`gasMCopy` (EIP-5656, as written in this repository) reads its three operands
with `Uint64()`, checks the two range ends for `uint64` overflow, charges
memory expansion up to the larger end and three gas per byte.  The spec lemma
`gasMCopy_cons` states this once; everything later about the function cites it.
-/

namespace CosmEvm

/-- `gasMCopy`: the dynamic gas of MCOPY, with the memory whose `lastGasCost`
`memoryGasCost` updated. -/
def gasMCopy (stack : Stack) (mem : Memory) : Except VmError (Nat × Memory) := do
  let length := (← stack.back 0).uint64
  let src := (← stack.back 1).uint64
  let dst := (← stack.back 2).uint64
  let (endDst, overflow1) := safeAdd dst length
  let (endSrc, overflow2) := safeAdd src length
  if overflow1 || overflow2 then throw .errGasUintOverflow
  let maxEnd := if endSrc > endDst then endSrc else endDst
  let (memGas, mem) ← memoryGasCost mem maxEnd
  let copyGasPerByte := 3
  let (copyCost, overflow3) := safeMul copyGasPerByte length
  if overflow3 then throw .errGasUintOverflow
  let (totalGas, overflow4) := safeAdd memGas copyCost
  if overflow4 then throw .errGasUintOverflow
  return (totalGas, mem)

/-- The larger end of two ranges of `length` bytes, as `gasMCopy` and
`opMCopy` compute it. -/
def mcopyEnd (length src dst : Nat) : Nat := max (src + length) (dst + length)

theorem mcopyEnd_comm (length src dst : Nat) : mcopyEnd length src dst = mcopyEnd length dst src :=
  Nat.max_comm _ _

/-- Spec of `gasMCopy` on a stack `length :: src :: dst :: rest` (the names are
the gas function's own). -/
theorem gasMCopy_cons (l s d : Word) (rest : List Word) (mem : Memory) :
    gasMCopy ⟨l :: s :: d :: rest⟩ mem =
      if 2 ^ 64 ≤ d.uint64 + l.uint64 ∨ 2 ^ 64 ≤ s.uint64 + l.uint64 then
        .error .errGasUintOverflow
      else
        (memoryGasCost mem (mcopyEnd l.uint64 s.uint64 d.uint64)).bind fun charged =>
          if 2 ^ 64 ≤ 3 * l.uint64 ∨ 2 ^ 64 ≤ charged.1 + 3 * l.uint64 then
            .error .errGasUintOverflow
          else .ok (charged.1 + 3 * l.uint64, charged.2) := by
  simp only [gasMCopy, Stack.back_cons_zero, Stack.back_cons_succ, bind, Except.bind, pure,
    Except.pure, safeAdd_snd, safeMul_snd, Bool.or_eq_true, decide_eq_true_eq]
  split
  · rfl
  · rename_i noOverflow
    push_neg at noOverflow
    rw [safeAdd_fst_of_lt noOverflow.1, safeAdd_fst_of_lt noOverflow.2]
    have maxEnd : (if s.uint64 + l.uint64 > d.uint64 + l.uint64 then s.uint64 + l.uint64
        else d.uint64 + l.uint64) = mcopyEnd l.uint64 s.uint64 d.uint64 := by
      unfold mcopyEnd
      rw [Nat.max_def]
      split <;> split <;> omega
    rw [maxEnd]
    rcases memoryGasCost mem (mcopyEnd l.uint64 s.uint64 d.uint64) with err | ⟨memGas, mem'⟩
    · rfl
    · dsimp only
      by_cases copyOverflow : 2 ^ 64 ≤ 3 * l.uint64
      · rw [if_pos copyOverflow, if_pos (Or.inl copyOverflow)]
      · rw [if_neg copyOverflow, safeMul_fst_of_lt (by omega)]
        by_cases sumOverflow : 2 ^ 64 ≤ memGas + 3 * l.uint64
        · rw [if_pos sumOverflow, if_pos (Or.inr sumOverflow)]
        · rw [if_neg sumOverflow, if_neg (not_or.mpr ⟨copyOverflow, sumOverflow⟩),
            safeAdd_fst_of_lt (Nat.lt_of_not_le sumOverflow)]

end CosmEvm
