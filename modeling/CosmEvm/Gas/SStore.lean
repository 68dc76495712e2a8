import CosmEvm.State.StateDB

/-!
# Net-metered SSTORE

`makeGasSStoreFunc` is EIP-2200's net gas metering with the costs EIP-2929
redefines: it checks the reentrancy sentry, charges and records the cold
surcharge of the slot, and then classifies the write by the slot's original
(committed) value, its current value and the new value, charging and
refunding accordingly.  The clearing refund is the parameter; EIP-2929 and
EIP-3529 instantiate it with their schedules.

The classification is restated as three small functions of the three values
(`sstoreCost`, `sstoreRefundSub`, `sstoreRefundAdd`), and `makeGasSStoreFunc_cons`
states once what the Go function does in terms of them.
-/

namespace CosmEvm

/-- `makeGasSStoreFunc(clearingRefund)`, for a stack holding the key on top and
the value below it. -/
def makeGasSStoreFunc (clearingRefund : Nat) (contract : Contract) (stack : Stack)
    (db : StateDB) : Except VmError Nat × StateDB :=
  if contract.gas ≤ SstoreSentryGasEIP2200 then (.error .errReentrancySentry, db) else
  match stack.back 1, stack.peek with
  | .error err, _ | _, .error err => (.error err, db)
  | .ok y, .ok x =>
    let slot := x
    let current := db.state (contract.address, slot)
    let (addrPresent, slotPresent) := db.slotInAccessList contract.address slot
    let cost := if slotPresent then 0 else ColdSloadCostEIP2929
    let db := if slotPresent then db else db.addSlotToAccessList contract.address slot
    if !slotPresent && !addrPresent then (.error .addressNotInAccessList, db) else
    let value := y
    if current = value then (.ok (cost + WarmStorageReadCostEIP2929), db) else
    let original := db.committedState (contract.address, x)
    if original = current then
      if original = 0 then (.ok (cost + SstoreSetGasEIP2200), db) else
      let db := if value = 0 then db.addRefund clearingRefund else db
      (.ok (cost + (SstoreResetGasEIP2200 - ColdSloadCostEIP2929)), db)
    else
      let reversed : Except VmError StateDB :=
        if original ≠ 0 then
          if current = 0 then db.subRefund clearingRefund
          else if value = 0 then .ok (db.addRefund clearingRefund) else .ok db
        else .ok db
      match reversed with
      | .error err => (.error err, db)
      | .ok db =>
        let db :=
          if original = value then
            if original = 0 then db.addRefund (SstoreSetGasEIP2200 - WarmStorageReadCostEIP2929)
            else db.addRefund
              (SstoreResetGasEIP2200 - ColdSloadCostEIP2929 - WarmStorageReadCostEIP2929)
          else db
        (.ok (cost + WarmStorageReadCostEIP2929), db)

/-- `gasSStoreEIP2929`. -/
def gasSStoreEIP2929 : Contract → Stack → StateDB → Except VmError Nat × StateDB :=
  makeGasSStoreFunc SstoreClearsScheduleRefundEIP2200

/-- `gasSStoreEIP3529`. -/
def gasSStoreEIP3529 : Contract → Stack → StateDB → Except VmError Nat × StateDB :=
  makeGasSStoreFunc SstoreClearsScheduleRefundEIP3529

/-! ## The classification -/

/-- The charge of a write of `value` over `current` with original value
`original`, without the cold surcharge. -/
def sstoreCost (original current value : Word) : Nat :=
  if current = value then WarmStorageReadCostEIP2929
  else if original = current then
    if original = 0 then SstoreSetGasEIP2200 else SstoreResetGasEIP2200 - ColdSloadCostEIP2929
  else WarmStorageReadCostEIP2929

/-- The clearing refund a write takes back: recreating a slot that an earlier
write of this transaction cleared. -/
def sstoreRefundSub (clearingRefund : Nat) (original current value : Word) : Nat :=
  if current ≠ value ∧ original ≠ current ∧ original ≠ 0 ∧ current = 0 then clearingRefund else 0

/-- The refunds a write grants: clearing a slot, and restoring its original
value. -/
def sstoreRefundAdd (clearingRefund : Nat) (original current value : Word) : Nat :=
  if current = value then 0
  else if original = current then
    if original ≠ 0 ∧ value = 0 then clearingRefund else 0
  else
    (if original ≠ 0 ∧ current ≠ 0 ∧ value = 0 then clearingRefund else 0) +
      if original = value then
        if original = 0 then SstoreSetGasEIP2200 - WarmStorageReadCostEIP2929
        else SstoreResetGasEIP2200 - ColdSloadCostEIP2929 - WarmStorageReadCostEIP2929
      else 0

/-- The clearing refund a slot holds outstanding: granted when it went from
its nonzero original value to zero, and due back if it is written again. -/
def clearedRefund (clearingRefund : Nat) (original current : Word) : Nat :=
  if original ≠ 0 ∧ current = 0 then clearingRefund else 0

@[simp]
theorem clearedRefund_self (clearingRefund : Nat) (original : Word) :
    clearedRefund clearingRefund original original = 0 := by
  simp [clearedRefund]

/-- A write only takes back a refund the slot holds. -/
theorem sstoreRefundSub_le_clearedRefund (clearingRefund : Nat) (original current value : Word) :
    sstoreRefundSub clearingRefund original current value ≤ clearedRefund clearingRefund original current := by
  unfold sstoreRefundSub clearedRefund
  split_ifs <;> simp_all

/-- Per write, the refunds granted cover the change of the outstanding
clearing refund: the potential argument behind every refund bound. -/
theorem sstoreRefund_potential (clearingRefund : Nat) (original current value : Word) :
    sstoreRefundSub clearingRefund original current value + clearedRefund clearingRefund original value ≤
      sstoreRefundAdd clearingRefund original current value +
        clearedRefund clearingRefund original current := by
  unfold sstoreRefundSub sstoreRefundAdd clearedRefund
  by_cases hcv : current = value
  · subst hcv
    simp
  by_cases hoc : original = current
  · subst hoc
    simp only [hcv, ne_eq, not_true_eq_false, false_and, and_false, if_false, if_true,
      not_false_eq_true, zero_add]
    exact Nat.le_add_right _ _
  · have clears : (if original ≠ 0 ∧ value = 0 then clearingRefund else 0) ≤
        if original ≠ 0 ∧ current ≠ 0 ∧ value = 0 then clearingRefund else 0 := by
      split_ifs with cleared covered <;> try exact le_rfl
      · exact absurd ⟨cleared.1, fun zero => hcv (zero.trans cleared.2.symm), cleared.2⟩ covered
      · exact Nat.zero_le _
    simp only [hcv, hoc, ne_eq, not_false_eq_true, true_and, if_false] at clears ⊢
    omega

/-- The state after the access-list part of SSTORE: the slot warm. -/
def StateDB.warmSlot (db : StateDB) (a : Addr) (k : Word) : StateDB :=
  if (db.slotInAccessList a k).2 then db else db.addSlotToAccessList a k

namespace StateDB

@[simp]
theorem refund_warmSlot (db : StateDB) (a : Addr) (k : Word) : (db.warmSlot a k).refund = db.refund := by
  unfold warmSlot
  split <;> rfl

@[simp]
theorem hasSuicided_warmSlot (db : StateDB) (a : Addr) (k : Word) :
    (db.warmSlot a k).hasSuicided = db.hasSuicided := by
  unfold warmSlot
  split <;> rfl

@[simp]
theorem state_warmSlot (db : StateDB) (a : Addr) (k : Word) : (db.warmSlot a k).state = db.state := by
  unfold warmSlot
  split <;> rfl

@[simp]
theorem committedState_warmSlot (db : StateDB) (a : Addr) (k : Word) :
    (db.warmSlot a k).committedState = db.committedState := by
  unfold warmSlot
  split <;> rfl

theorem le_accessList_warmSlot (db : StateDB) (a : Addr) (k : Word) :
    db.accessList ≤ (db.warmSlot a k).accessList := by
  unfold warmSlot
  split
  · exact le_refl _
  · exact AccessList.le_addSlot _ _ _

theorem accessList_warmSlot (db : StateDB) (a : Addr) (k : Word) :
    (db.warmSlot a k).accessList = db.accessList ∨
      (db.warmSlot a k).accessList = db.accessList.add (.slot (a, k)) := by
  unfold warmSlot
  split
  · exact .inl rfl
  · exact .inr rfl

theorem metered_warmSlot (db : StateDB) (a : Addr) (k : Word) : Metered db (db.warmSlot a k) :=
  ⟨db.le_accessList_warmSlot a k, by simp, by simp, by simp⟩

theorem slots_warmSlot (db : StateDB) (a : Addr) (k : Word) :
    (db.warmSlot a k).accessList.slots (a, k) = true := by
  unfold warmSlot slotInAccessList
  split
  · assumption
  · simp [addSlotToAccessList]

end StateDB

/-- Spec of the SSTORE gas function past its sentry, on a slot whose address is
warm or which is warm itself: the cold surcharge if the slot was cold, the
classified cost, and the refund counter moved by the classified amounts, the
subtraction first. -/
theorem makeGasSStoreFunc_cons (clearingRefund : Nat) (contract : Contract) (x y : Word)
    (rest : List Word) (db : StateDB) (sentry : SstoreSentryGasEIP2200 < contract.gas)
    (warm : (db.slotInAccessList contract.address x).1 ∨
      (db.slotInAccessList contract.address x).2) :
    makeGasSStoreFunc clearingRefund contract ⟨x :: y :: rest⟩ db =
      let original := db.committedState (contract.address, x)
      let current := db.state (contract.address, x)
      let warmed := db.warmSlot contract.address x
      let cost := if (db.slotInAccessList contract.address x).2 then 0 else ColdSloadCostEIP2929
      if warmed.refund < sstoreRefundSub clearingRefund original current y then
        (.error .refundBelowZero, warmed)
      else
        (.ok (cost + sstoreCost original current y),
          { warmed with refund := warmed.refund - sstoreRefundSub clearingRefund original current y +
              sstoreRefundAdd clearingRefund original current y }) := by
  have notSentry : ¬ contract.gas ≤ SstoreSentryGasEIP2200 := Nat.not_le.mpr sentry
  have noPanic : ¬ ((!(db.slotInAccessList contract.address x).2 &&
      !(db.slotInAccessList contract.address x).1) = true) := by
    cases h1 : (db.slotInAccessList contract.address x).1 <;>
      cases h2 : (db.slotInAccessList contract.address x).2 <;> simp_all
  simp only [makeGasSStoreFunc, notSentry, if_false, Stack.back_cons_succ, Stack.back_cons_zero,
    Stack.peek_cons, noPanic, StateDB.warmSlot]
  generalize (db.slotInAccessList contract.address x).2 = slotPresent
  generalize hw : (if slotPresent = true then db else db.addSlotToAccessList contract.address x) =
    warmed
  have hc : warmed.committedState = db.committedState := by subst hw; split <;> rfl
  have hs : warmed.state = db.state := by subst hw; split <;> rfl
  rw [← hc, ← hs]
  generalize warmed.committedState (contract.address, x) = o
  generalize warmed.state (contract.address, x) = c
  generalize (if slotPresent = true then 0 else ColdSloadCostEIP2929) = cost
  obtain ⟨al, r, st, cs, bal, em, su⟩ := warmed
  rw [if_neg (by simp)]
  unfold sstoreCost sstoreRefundSub sstoreRefundAdd
  by_cases hcy : c = y
  · simp [hcy]
  · by_cases hoc : o = c
    · subst hoc
      by_cases ho : o = 0 <;> by_cases hy : y = 0 <;> simp_all [StateDB.addRefund]
    · by_cases ho : o = 0
      · by_cases hoy : o = y <;> simp_all [StateDB.addRefund]
      · by_cases hc0 : c = 0
        · by_cases hsub : clearingRefund ≤ r
          · by_cases hoy : o = y <;>
              simp_all [StateDB.addRefund, StateDB.subRefund, Nat.not_lt.mpr hsub]
          · have : r < clearingRefund := Nat.lt_of_not_le hsub
            simp_all [StateDB.subRefund]
        · by_cases hy : y = 0 <;> by_cases hoy : o = y <;> simp_all [StateDB.addRefund]

/-- Everything the SSTORE gas function can do: fail before reading the slot
(the sentry, a short stack) with the state database as it was; fail after
warming the slot, with the refund error only when the counter is below what
the write takes back; or, past the sentry on a warm address, charge and move
the counter as `makeGasSStoreFunc_cons` says. -/
theorem makeGasSStoreFunc_cases (clearingRefund : Nat) (contract : Contract) (stack : Stack)
    (db : StateDB) :
    (∃ err, err ≠ .refundBelowZero ∧
      makeGasSStoreFunc clearingRefund contract stack db = (.error err, db)) ∨
    ∃ x y rest, stack = ⟨x :: y :: rest⟩ ∧
      ((∃ err, makeGasSStoreFunc clearingRefund contract stack db =
            (.error err, db.warmSlot contract.address x) ∧
          (err = .refundBelowZero →
            db.refund < sstoreRefundSub clearingRefund (db.committedState (contract.address, x))
              (db.state (contract.address, x)) y)) ∨
        SstoreSentryGasEIP2200 < contract.gas ∧ db.accessList.addresses contract.address = true ∧
        sstoreRefundSub clearingRefund (db.committedState (contract.address, x))
          (db.state (contract.address, x)) y ≤ db.refund ∧
        makeGasSStoreFunc clearingRefund contract stack db =
          (.ok ((if db.accessList.slots (contract.address, x) then 0 else ColdSloadCostEIP2929) +
              sstoreCost (db.committedState (contract.address, x)) (db.state (contract.address, x)) y),
            { db.warmSlot contract.address x with
              refund := db.refund - sstoreRefundSub clearingRefund
                  (db.committedState (contract.address, x)) (db.state (contract.address, x)) y +
                sstoreRefundAdd clearingRefund (db.committedState (contract.address, x))
                  (db.state (contract.address, x)) y })) := by
  by_cases sentry : contract.gas ≤ SstoreSentryGasEIP2200
  · exact .inl ⟨.errReentrancySentry, nofun, by simp [makeGasSStoreFunc, sentry]⟩
  rcases stack with ⟨_ | ⟨x, _ | ⟨y, rest⟩⟩⟩
  · exact .inl ⟨.stackUnderflow, nofun, by simp [makeGasSStoreFunc, sentry, Stack.back, Stack.peek]⟩
  · exact .inl ⟨.stackUnderflow, nofun, by simp [makeGasSStoreFunc, sentry, Stack.back, Stack.peek]⟩
  refine .inr ⟨x, y, rest, rfl, ?_⟩
  by_cases warm : db.accessList.addresses contract.address = true
  · rw [makeGasSStoreFunc_cons _ _ _ _ _ _ (Nat.lt_of_not_le sentry) (.inl warm)]
    dsimp only
    rw [StateDB.refund_warmSlot]
    split
    · exact .inl ⟨_, rfl, fun _ => ‹_›⟩
    · exact .inr ⟨Nat.lt_of_not_le sentry, warm, Nat.le_of_not_lt ‹_›, rfl⟩
  · have cold : db.accessList.slots (contract.address, x) = false :=
      Bool.eq_false_iff.mpr fun warmSlot => warm (db.accessList.slot_address _ warmSlot)
    refine .inl ⟨.addressNotInAccessList, ?_, nofun⟩
    simp [makeGasSStoreFunc, sentry, StateDB.warmSlot, StateDB.slotInAccessList, cold, warm]

end CosmEvm
