import CosmEvm.MCopy.Agreement

/-!
# MCOPY: memory expansion billed over a run

`memoryGasCost` charges the fee of the rounded new size minus `lastGasCost`,
so it bills correctly only while `lastGasCost` is the fee of the memory's
length rounded up to words (`Memory.Paid`).  MCOPY grows memory to an
unrounded size, so the store need not stay word-aligned, but on a positive
length it grows memory to exactly the range it was charged for.  Over any run
of such copies the memory stays paid and the charges add up to the fee of
the final length minus the fee of the first (`mcopyRun_bills_expansion_once`).

A zero-length MCOPY is different: its gas function charges for the range its
offsets name while nothing grows memory, which leaves `lastGasCost` above the
fee of the length.  Every later expansion below that phantom size then
subtracts past zero in `uint64` (`mcopy_zero_length_poisons_expansion`).
-/

namespace CosmEvm

/-- One MCOPY as the interpreter runs it: `gasMCopy`, then `opMCopy` on the
same stack and on the memory whose `lastGasCost` the gas function updated. -/
def mcopyStep (scope : ScopeContext) : Except VmError (Nat × ScopeContext) := do
  let (gas, memory) ← gasMCopy scope.stack scope.memory
  let (_, scope) ← opMCopy { scope with memory }
  return (gas, scope)

/-- MCOPYs one after another, each on the operands `(length, src, dst)` (the
gas function's names) pushed on top of the stack; the gas each charged. -/
def mcopyRun : List (Word × Word × Word) → ScopeContext → Except VmError (List Nat × ScopeContext)
  | [], scope => .ok ([], scope)
  | (l, s, d) :: ops, scope => do
    let (gas, scope) ← mcopyStep { scope with stack := ⟨l :: s :: d :: scope.stack.data⟩ }
    let (gases, scope) ← mcopyRun ops scope
    return (gas :: gases, scope)

namespace Memory

/-- `lastGasCost` is the fee of the length rounded up to words, word-aligned
or not: what `memoryGasCost` takes it to be. -/
def Paid (m : Memory) : Prop := m.lastGasCost = totalFee ((m.len + 31) / 32)

instance : DecidablePred Paid := fun _ => inferInstanceAs (Decidable (_ = _))

theorem Consistent.paid {m : Memory} (consistent : m.Consistent) : m.Paid := by
  unfold Paid
  rw [consistent.2]
  congr 1
  have aligned := consistent.1
  omega

end Memory

theorem totalFee_le_totalFee {a b : Nat} (le : a ≤ b) : totalFee a ≤ totalFee b := by
  unfold totalFee
  have square : a * a / QuadCoeffDiv ≤ b * b / QuadCoeffDiv :=
    Nat.div_le_div_right (Nat.mul_le_mul le le)
  have linear := Nat.mul_le_mul_right MemoryGas le
  omega

theorem totalFee_lt_totalFee {a b : Nat} (lt : a < b) : totalFee a < totalFee b := by
  unfold totalFee
  have square : a * a / QuadCoeffDiv ≤ b * b / QuadCoeffDiv :=
    Nat.div_le_div_right (Nat.mul_le_mul lt.le lt.le)
  unfold MemoryGas
  omega

/-! ## One copy -/

/-- Inversion of a successful step: the gas function accepted, and the
execution ran on the memory it charged. -/
theorem mcopyStep_eq_ok {scope after : ScopeContext} {gas : Nat}
    (step : mcopyStep scope = .ok (gas, after)) :
    ∃ charged out, gasMCopy scope.stack scope.memory = .ok (gas, charged) ∧
      opMCopy { scope with memory := charged } = .ok (out, after) := by
  unfold mcopyStep at step
  rcases gasOk : gasMCopy scope.stack scope.memory with err | ⟨gas', charged⟩
  · rw [gasOk] at step
    cases step
  · rw [gasOk] at step
    rcases execOk : opMCopy { scope with memory := charged } with err | ⟨out, after'⟩
    · simp only [bind, Except.bind, execOk] at step
      cases step
    · simp only [bind, Except.bind, execOk, pure, Except.pure] at step
      cases step
      exact ⟨charged, out, rfl, execOk⟩

/-- A copy of positive length from paid memory pops its operands, grows memory
to the larger range end, keeps it paid, and charges the fee difference of the
rounded lengths plus three gas per byte. -/
theorem mcopyStep_of_paid {l s d : Word} {rest : List Word} {mem : Memory} {contract : Contract}
    {gas : Nat} {after : ScopeContext} (paid : mem.Paid) (positive : 0 < l.uint64)
    (step : mcopyStep ⟨mem, ⟨l :: s :: d :: rest⟩, contract⟩ = .ok (gas, after)) :
    after.stack = ⟨rest⟩ ∧ after.contract = contract ∧
      after.memory.len = max mem.len (mcopyEnd l.uint64 s.uint64 d.uint64) ∧ after.memory.Paid ∧
      gas = totalFee ((after.memory.len + 31) / 32) - totalFee ((mem.len + 31) / 32) +
        3 * l.uint64 := by
  obtain ⟨charged, out, gasOk, execOk⟩ := mcopyStep_eq_ok step
  obtain ⟨memGas, memCharged, rfl, -⟩ := gasMCopy_eq_ok gasOk
  dsimp only at memCharged
  have bound := le_maxMemorySize_of_memoryGasCost memCharged
  have small : mcopyEnd l.uint64 d.uint64 s.uint64 < 2 ^ 63 := by
    rw [mcopyEnd_comm]
    unfold maxMemorySize at bound
    omega
  rw [opMCopy_of_lt rest charged contract positive small] at execOk
  cases execOk
  have reaches : l.uint64 ≤ mcopyEnd l.uint64 s.uint64 d.uint64 := by
    unfold mcopyEnd
    omega
  have sameLen : charged.len = mem.len := congrArg List.length (store_of_memoryGasCost memCharged)
  refine ⟨rfl, rfl, ?_⟩
  dsimp only
  unfold Memory.Paid at paid ⊢
  rw [Memory.lastGasCost_copyWithin, Memory.len_copyWithin, mcopyEnd_comm, sameLen]
  rw [memoryGasCost_of_le (by omega) bound] at memCharged
  split at memCharged
  · next grows =>
    cases memCharged
    have covered := totalFee_le_totalFee (show (mem.len + 31) / 32 ≤
      (mcopyEnd l.uint64 s.uint64 d.uint64 + 31) / 32 by omega)
    have fits := totalFee_toWordSize_lt (Nat.not_lt_of_le bound)
    rw [toWordSize_of_le bound] at fits
    have rounded : (max mem.len (mcopyEnd l.uint64 s.uint64 d.uint64) + 31) / 32 =
        (mcopyEnd l.uint64 s.uint64 d.uint64 + 31) / 32 := by
      rw [Nat.max_def]
      split <;> omega
    refine ⟨rfl, by rw [rounded], ?_⟩
    rw [rounded, paid]
    omega
  · next within =>
    cases memCharged
    have unchanged : max mem.len (mcopyEnd l.uint64 s.uint64 d.uint64) = mem.len := by
      rw [Nat.max_def]
      split <;> omega
    rw [unchanged]
    exact ⟨rfl, paid, by omega⟩

/-! ## A run of copies -/

theorem mcopyRun_cons_eq_ok {l s d : Word} {ops : List (Word × Word × Word)}
    {scope after : ScopeContext} {gases : List Nat}
    (run : mcopyRun ((l, s, d) :: ops) scope = .ok (gases, after)) :
    ∃ gas mid rest, mcopyStep { scope with stack := ⟨l :: s :: d :: scope.stack.data⟩ } =
        .ok (gas, mid) ∧ mcopyRun ops mid = .ok (rest, after) ∧ gases = gas :: rest := by
  rw [mcopyRun] at run
  rcases stepOk : mcopyStep { scope with stack := ⟨l :: s :: d :: scope.stack.data⟩ } with
    err | ⟨gas, mid⟩
  · rw [stepOk] at run
    cases run
  · rw [stepOk] at run
    rcases restOk : mcopyRun ops mid with err | ⟨rest, after'⟩
    · simp only [bind, Except.bind, restOk] at run
      cases run
    · simp only [bind, Except.bind, restOk, pure, Except.pure] at run
      cases run
      exact ⟨gas, mid, rest, rfl, restOk, rfl⟩

/-- Memory expansion is billed exactly once over any run of copies of positive
length from paid memory.  The memory stays paid, the stack and contract come
back as they were, memory ends at the largest range end (or its old length),
and the charges add up to the fee of the final rounded length minus that of
the first, plus three gas per byte copied. -/
theorem mcopyRun_bills_expansion_once (ops : List (Word × Word × Word))
    (scope after : ScopeContext) (gases : List Nat) (paid : scope.memory.Paid)
    (positive : ∀ op ∈ ops, 0 < op.1.uint64) (run : mcopyRun ops scope = .ok (gases, after)) :
    after.memory.Paid ∧ after.stack = scope.stack ∧ after.contract = scope.contract ∧
      after.memory.len = ops.foldl (fun len op => max len (mcopyEnd op.1.uint64 op.2.1.uint64
        op.2.2.uint64)) scope.memory.len ∧
      gases.sum + totalFee ((scope.memory.len + 31) / 32) =
        totalFee ((after.memory.len + 31) / 32) + 3 * (ops.map fun op => op.1.uint64).sum := by
  induction ops generalizing scope gases with
  | nil =>
    cases run
    exact ⟨paid, rfl, rfl, rfl, by simp⟩
  | cons op ops ih =>
    obtain ⟨l, s, d⟩ := op
    obtain ⟨gas, mid, rest, stepOk, restOk, rfl⟩ := mcopyRun_cons_eq_ok run
    obtain ⟨stack, contract, len, midPaid, charge⟩ :=
      mcopyStep_of_paid paid (positive _ (List.mem_cons_self _ _)) stepOk
    obtain ⟨afterPaid, afterStack, afterContract, afterLen, sum⟩ :=
      ih mid rest midPaid (fun op mem => positive op (List.mem_cons_of_mem _ mem)) restOk
    have grows := totalFee_le_totalFee (show (scope.memory.len + 31) / 32 ≤
      (mid.memory.len + 31) / 32 by rw [len]; omega)
    refine ⟨afterPaid, afterStack.trans stack, afterContract.trans contract, ?_, ?_⟩
    · rw [afterLen, len]
      rfl
    · simp only [List.sum_cons, List.map_cons]
      dsimp only at charge ⊢
      omega

theorem mcopyRun_bills_expansion_once_two_copies :
    let scope : ScopeContext := ⟨Memory.newMemory, ⟨[]⟩, ⟨0, 0⟩⟩
    let ops : List (Word × Word × Word) := [(1, 0, 0), (2, 40, 0)]
    let after : ScopeContext := ⟨⟨List.replicate 42 0, 6, by decide⟩, ⟨[]⟩, ⟨0, 0⟩⟩
    scope.memory.Paid ∧ (∀ op ∈ ops, 0 < op.1.uint64) ∧ mcopyRun ops scope = .ok ([6, 9], after) ∧
      after.memory.Paid ∧ after.stack = scope.stack ∧ after.contract = scope.contract ∧
      after.memory.len = ops.foldl (fun len op => max len (mcopyEnd op.1.uint64 op.2.1.uint64
        op.2.2.uint64)) scope.memory.len ∧
      [6, 9].sum + totalFee ((scope.memory.len + 31) / 32) =
        totalFee ((after.memory.len + 31) / 32) + 3 * (ops.map fun op => op.1.uint64).sum :=
  ⟨by decide, by decide, rfl, mcopyRun_bills_expansion_once _ _ _ _ (by decide) (by decide) (by rfl)⟩

/-! ## A zero-length copy -/

/-- A zero-length copy whose offsets reach past the memory's rounded length is
charged for the words they name and records their fee, without growing
memory.  The memory is then no longer paid: every later copy that grows
memory to fewer words than that phantom size subtracts past zero in `uint64`,
and `gasMCopy` either reports an overflow or charges at least `2 ^ 64` minus
the phantom fee. -/
theorem mcopy_zero_length_poisons_expansion {mem : Memory} (paid : mem.Paid) (l s d : Word)
    (rest : List Word) (contract : Contract) (zero : l.uint64 = 0)
    (beyond : (mem.len + 31) / 32 < (mcopyEnd 0 s.uint64 d.uint64 + 31) / 32)
    (capped : mcopyEnd 0 s.uint64 d.uint64 ≤ maxMemorySize) :
    let phantom := (mcopyEnd 0 s.uint64 d.uint64 + 31) / 32
    ∃ after : Memory,
      mcopyStep ⟨mem, ⟨l :: s :: d :: rest⟩, contract⟩ =
        .ok (totalFee phantom - totalFee ((mem.len + 31) / 32), ⟨after, ⟨rest⟩, contract⟩) ∧
      after.store = mem.store ∧ after.lastGasCost = totalFee phantom ∧ ¬ after.Paid ∧
      ∀ l' s' d' : Word, ∀ rest' : List Word, 0 < l'.uint64 →
        mem.len < (mcopyEnd l'.uint64 s'.uint64 d'.uint64 + 31) / 32 * 32 →
        (mcopyEnd l'.uint64 s'.uint64 d'.uint64 + 31) / 32 < phantom →
        gasMCopy ⟨l' :: s' :: d' :: rest'⟩ after = .error .errGasUintOverflow ∨
          ∃ gas charged, gasMCopy ⟨l' :: s' :: d' :: rest'⟩ after = .ok (gas, charged) ∧
            2 ^ 64 - totalFee phantom ≤ gas := by
  dsimp only
  have positive : 0 < mcopyEnd 0 s.uint64 d.uint64 := by omega
  have fits := totalFee_toWordSize_lt (Nat.not_lt_of_le capped)
  rw [toWordSize_of_le capped] at fits
  have covered := totalFee_lt_totalFee beyond
  unfold Memory.Paid at paid
  refine ⟨{ mem with lastGasCost := totalFee ((mcopyEnd 0 s.uint64 d.uint64 + 31) / 32), lastGasCost_lt := fits }, ?_, rfl, rfl,
    fun paidAgain => absurd (paidAgain.symm.trans (by rfl)) (Nat.ne_of_lt covered),
    fun l' s' d' rest' positive' grows smaller => ?_⟩
  · have ranges : ¬ (2 ^ 64 ≤ d.uint64 + l.uint64 ∨ 2 ^ 64 ≤ s.uint64 + l.uint64) := by
      have := s.uint64_lt
      have := d.uint64_lt
      omega
    have gasOk : gasMCopy ⟨l :: s :: d :: rest⟩ mem =
        .ok (totalFee ((mcopyEnd 0 s.uint64 d.uint64 + 31) / 32) - totalFee ((mem.len + 31) / 32),
          { mem with lastGasCost := totalFee ((mcopyEnd 0 s.uint64 d.uint64 + 31) / 32), lastGasCost_lt := fits }) := by
      rw [gasMCopy_cons, if_neg ranges, zero, memoryGasCost_of_le positive capped,
        if_pos (by omega)]
      rw [Except.bind, if_neg (by omega)]
      congr 2
      omega
    unfold mcopyStep
    rw [gasOk]
    dsimp only [bind, Except.bind]
    rw [opMCopy_of_zero rest _ contract zero]
    rfl
  · have reaches : l'.uint64 ≤ mcopyEnd l'.uint64 s'.uint64 d'.uint64 := by
      unfold mcopyEnd
      omega
    have lower := totalFee_lt_totalFee smaller
    rw [gasMCopy_cons]
    split
    · exact .inl rfl
    rw [memoryGasCost_of_le (by omega) (by omega)]
    dsimp only [Memory.len] at grows ⊢
    rw [if_pos grows, Except.bind]
    split
    · exact .inl rfl
    · exact .inr ⟨_, _, rfl, by omega⟩

theorem mcopy_zero_length_poisons_expansion_at_1024 :
    Memory.newMemory.Paid ∧ (0 : Word).uint64 = 0 ∧
      (Memory.newMemory.len + 31) / 32 < (mcopyEnd 0 (0 : Word).uint64 (1024 : Word).uint64 + 31) / 32 ∧
      mcopyEnd 0 (0 : Word).uint64 (1024 : Word).uint64 ≤ maxMemorySize ∧
      let phantom := (mcopyEnd 0 (0 : Word).uint64 (1024 : Word).uint64 + 31) / 32
      ∃ after : Memory,
        mcopyStep ⟨Memory.newMemory, ⟨0 :: 0 :: 1024 :: []⟩, ⟨0, 0⟩⟩ =
          .ok (totalFee phantom - totalFee ((Memory.newMemory.len + 31) / 32),
            ⟨after, ⟨[]⟩, ⟨0, 0⟩⟩) ∧
        after.store = Memory.newMemory.store ∧ after.lastGasCost = totalFee phantom ∧ ¬ after.Paid ∧
        ∀ l' s' d' : Word, ∀ rest' : List Word, 0 < l'.uint64 →
          Memory.newMemory.len < (mcopyEnd l'.uint64 s'.uint64 d'.uint64 + 31) / 32 * 32 →
          (mcopyEnd l'.uint64 s'.uint64 d'.uint64 + 31) / 32 < phantom →
          gasMCopy ⟨l' :: s' :: d' :: rest'⟩ after = .error .errGasUintOverflow ∨
            ∃ gas charged, gasMCopy ⟨l' :: s' :: d' :: rest'⟩ after = .ok (gas, charged) ∧
              2 ^ 64 - totalFee phantom ≤ gas :=
  ⟨by decide, by decide, by decide, by decide,
    mcopy_zero_length_poisons_expansion (by decide) 0 0 1024 [] ⟨0, 0⟩ (by decide) (by decide)
      (by decide)⟩

end CosmEvm
