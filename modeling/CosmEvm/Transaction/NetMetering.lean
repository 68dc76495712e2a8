import CosmEvm.Transaction.Run

/-!
# Net metering of repeated writes to one slot

EIP-2200's promise is that the gas a transaction pays for a slot, net of the
refunds it earns, depends only on the slot's original value and its final
value: `sstoreNetCost original value` plus one warm read for every further
write.  Per write this is a telescoping identity (`sstoreCost_sub_refund`);
over any sequence of writes it is `runTx_sstores`.
-/

namespace CosmEvm

/-- What taking a slot from its original value to `value` costs net of
refunds, when it takes a single write. -/
def sstoreNetCost (clearingRefund : Nat) (original value : Word) : Int :=
  if value = original then WarmStorageReadCostEIP2929
  else if original = 0 then SstoreSetGasEIP2200
  else if value = 0 then
    ((SstoreResetGasEIP2200 - ColdSloadCostEIP2929 : Nat) : Int) - clearingRefund
  else ((SstoreResetGasEIP2200 - ColdSloadCostEIP2929 : Nat) : Int)

@[simp]
theorem sstoreNetCost_self (clearingRefund : Nat) (original : Word) :
    sstoreNetCost clearingRefund original original = WarmStorageReadCostEIP2929 := by
  simp [sstoreNetCost]

/-- One write's charge net of its refunds telescopes in the net cost. -/
theorem sstoreCost_sub_refund (clearingRefund : Nat) (original current value : Word) :
    (sstoreCost original current value : Int) -
        ((sstoreRefundAdd clearingRefund original current value : Int) -
          sstoreRefundSub clearingRefund original current value) =
      sstoreNetCost clearingRefund original value - sstoreNetCost clearingRefund original current +
        WarmStorageReadCostEIP2929 := by
  unfold sstoreCost sstoreRefundAdd sstoreRefundSub sstoreNetCost WarmStorageReadCostEIP2929
    SstoreSetGasEIP2200 SstoreResetGasEIP2200 ColdSloadCostEIP2929
  rcases eq_or_ne current value with rfl | hcv
  · simp
  rcases eq_or_ne original current with rfl | hoc
  · rcases eq_or_ne original 0 with rfl | ho
    · simp_all [eq_comm]
    · rcases eq_or_ne value 0 with rfl | hv <;> simp_all [eq_comm]
  · rcases eq_or_ne original 0 with rfl | ho
    · rcases eq_or_ne value 0 with rfl | hv <;> simp_all [eq_comm]
    · rcases eq_or_ne current 0 with rfl | hc
      · rcases eq_or_ne original value with rfl | hov <;> simp_all [eq_comm] <;> omega
      · rcases eq_or_ne value 0 with rfl | hv
        · simp_all [eq_comm]
          omega
        · rcases eq_or_ne original value with rfl | hov <;> simp_all [eq_comm]

/-- The SSTOREs of one contract to one key, each with its value and the gas
the contract has when it runs. -/
def sstores (a : Addr) (k : Word) (writes : List (Word × Nat)) : List Access :=
  writes.map fun w => .sstore ⟨a, w.2⟩ ⟨[k, w.1]⟩

/-- The value a slot holds after the writes, starting from `current`. -/
def lastValue (current : Word) : List (Word × Nat) → Word
  | [] => current
  | w :: ws => lastValue w.1 ws

theorem lastValue_eq_getLast (current : Word) (writes : List (Word × Nat))
    (nonempty : writes ≠ []) : lastValue current writes = (writes.getLast nonempty).1 := by
  induction writes generalizing current with
  | nil => contradiction
  | cons w ws ih =>
    cases ws with
    | nil => rfl
    | cons v vs =>
      rw [List.getLast_cons (List.cons_ne_nil v vs), ← ih w.1]
      rfl

/-- Any sequence of writes to one slot of a warm address, each past the
sentry, from a state whose refund counter covers the slot's outstanding
clearing refund: the run succeeds, the slot ends warm with the last value and
still covered, and the charges net of the refund change telescope. -/
theorem runTx_sstores (sched : Schedule) (a : Addr) (k : Word) (writes : List (Word × Nat))
    (db : StateDB) (warm : db.accessList.addresses a = true)
    (covered : clearedRefund sched.clearingRefund (db.committedState (a, k)) (db.state (a, k)) ≤
      db.refund)
    (sentry : ∀ w ∈ writes, SstoreSentryGasEIP2200 < w.2) :
    ∃ gases db', runTx sched (sstores a k writes) db = (.ok gases, db') ∧
      db'.accessList.addresses a = true ∧ db'.committedState = db.committedState ∧
      db'.state (a, k) = lastValue (db.state (a, k)) writes ∧
      clearedRefund sched.clearingRefund (db.committedState (a, k)) (db'.state (a, k)) ≤
        db'.refund ∧
      (gases.sum : Int) - ((db'.refund : Int) - db.refund) =
        (if writes = [] ∨ db.accessList.slots (a, k) then 0 else ColdSloadCostEIP2929) +
          sstoreNetCost sched.clearingRefund (db.committedState (a, k))
            (lastValue (db.state (a, k)) writes) -
          sstoreNetCost sched.clearingRefund (db.committedState (a, k)) (db.state (a, k)) +
          writes.length * WarmStorageReadCostEIP2929 := by
  induction writes generalizing db with
  | nil =>
    exact ⟨[], db, rfl, warm, rfl, rfl, covered, by simp [lastValue]⟩
  | cons w ws ih =>
    have sentry₀ : SstoreSentryGasEIP2200 < w.2 := sentry w (List.mem_cons_self _ _)
    have enough := (sstoreRefundSub_le_clearedRefund sched.clearingRefund
      (db.committedState (a, k)) (db.state (a, k)) w.1).trans covered
    have potential := sstoreRefund_potential sched.clearingRefund
      (db.committedState (a, k)) (db.state (a, k)) w.1
    have telescope := sstoreCost_sub_refund sched.clearingRefund
      (db.committedState (a, k)) (db.state (a, k)) w.1
    have step := @Access.run_sstore sched ⟨a, w.2⟩ k w.1 [] db sentry₀ warm enough
    generalize stateAfter : ({ db.warmSlot a k with
      refund := db.refund - sstoreRefundSub sched.clearingRefund (db.committedState (a, k))
          (db.state (a, k)) w.1 +
        sstoreRefundAdd sched.clearingRefund (db.committedState (a, k)) (db.state (a, k)) w.1 } :
        StateDB).setState a k w.1 = db₁ at step
    generalize charged : (if db.accessList.slots (a, k) then 0 else ColdSloadCostEIP2929) +
      sstoreCost (db.committedState (a, k)) (db.state (a, k)) w.1 = gas at step
    have warm₁ : db₁.accessList.addresses a = true := by
      subst stateAfter
      exact (db.le_accessList_warmSlot a k).1 a warm
    have slot₁ : db₁.accessList.slots (a, k) = true := by
      subst stateAfter
      exact db.slots_warmSlot a k
    have committed₁ : db₁.committedState = db.committedState := by
      subst stateAfter
      simp
    have written₁ : db₁.state (a, k) = w.1 := by
      subst stateAfter
      simp
    have refund₁ : db₁.refund = db.refund - sstoreRefundSub sched.clearingRefund
        (db.committedState (a, k)) (db.state (a, k)) w.1 +
        sstoreRefundAdd sched.clearingRefund (db.committedState (a, k)) (db.state (a, k)) w.1 := by
      subst stateAfter
      simp
    obtain ⟨gases, db', run, warm', committed', state', covered', sum⟩ :=
      ih db₁ warm₁ (by rw [committed₁, written₁, refund₁]; omega)
        (fun w' mem => sentry w' (List.mem_cons_of_mem _ mem))
    refine ⟨gas :: gases, db', ?_, warm', committed'.trans committed₁, ?_, ?_, ?_⟩
    · simp only [sstores, List.map_cons, runTx] at run ⊢
      rw [step]
      simp only [run]
    · rw [state', written₁]
      rfl
    · rwa [committed₁] at covered'
    · subst charged
      rw [committed₁, written₁, slot₁, refund₁, Nat.cast_add, Nat.cast_sub enough] at sum
      simp only [reduceCtorEq, false_or, or_true, ↓reduceIte, Nat.cast_zero, zero_add] at sum
      simp only [List.sum_cons, Nat.cast_add, List.length_cons, Nat.cast_succ, lastValue,
        reduceCtorEq, false_or]
      linear_combination sum + telescope

/-- Net metering over a transaction: writes `v₁ … vₙ` to one slot of a warm
address, starting from its original value, cost net of the refunds they move
the cold surcharge if the slot was cold, what a single write of `vₙ` would
cost, and one warm read for each further write. -/
theorem sstore_net_metering (sched : Schedule) (a : Addr) (k : Word)
    (writes : List (Word × Nat)) (db : StateDB) (nonempty : writes ≠ [])
    (warm : db.accessList.addresses a = true)
    (unwritten : db.state (a, k) = db.committedState (a, k))
    (sentry : ∀ w ∈ writes, SstoreSentryGasEIP2200 < w.2) :
    ∃ gases db', runTx sched (sstores a k writes) db = (.ok gases, db') ∧
      (gases.sum : Int) - ((db'.refund : Int) - db.refund) =
        (if db.accessList.slots (a, k) then 0 else ColdSloadCostEIP2929) +
          sstoreNetCost sched.clearingRefund (db.committedState (a, k))
            (writes.getLast nonempty).1 +
          ((writes.length : Int) - 1) * WarmStorageReadCostEIP2929 := by
  have covered : clearedRefund sched.clearingRefund (db.committedState (a, k))
      (db.state (a, k)) ≤ db.refund := by
    simp [clearedRefund, unwritten]
  obtain ⟨gases, db', run, -, -, -, -, sum⟩ := runTx_sstores sched a k writes db warm covered sentry
  refine ⟨gases, db', run, ?_⟩
  rw [sum, unwritten, sstoreNetCost_self, lastValue_eq_getLast _ _ nonempty]
  simp only [nonempty, false_or]
  ring

theorem sstore_net_metering_clear_then_restore :
    [((1 : Word), 3000), (0, 3000), (1, 3000)] ≠ [] ∧
      (StateDB.start (AccessList.empty.addAddress 0) (fun _ => 1) (fun _ => 0)
        (fun _ => false)).accessList.addresses 0 = true ∧
      (∀ w ∈ [((1 : Word), 3000), (0, 3000), (1, 3000)], SstoreSentryGasEIP2200 < w.2) ∧
      ∃ gases db', runTx ⟨SstoreClearsScheduleRefundEIP3529, false, fun _ m _ => some (0, m),
          fun _ _ c _ m _ => (some 0, c, m)⟩
        (sstores 0 0 [(1, 3000), (0, 3000), (1, 3000)])
        (StateDB.start (AccessList.empty.addAddress 0) (fun _ => 1) (fun _ => 0)
          (fun _ => false)) = (.ok gases, db') ∧
        (gases.sum : Int) - ((db'.refund : Int) - 0) =
          ColdSloadCostEIP2929 + WarmStorageReadCostEIP2929 + 2 * WarmStorageReadCostEIP2929 :=
  ⟨by decide, rfl, by decide,
    sstore_net_metering _ 0 0 [(1, 3000), (0, 3000), (1, 3000)] _ (by decide) rfl rfl
      (by decide)⟩

end CosmEvm
