import CosmEvm.Transaction.Refund
import CosmEvm.Transaction.NetMetering

/-!
# A refund schedule changes only the refunds

EIP-2929 and EIP-3529 install the same SSTORE and SELFDESTRUCT gas functions
with different parameters: `makeGasSStoreFunc` with a smaller clearing refund,
`makeSelfdestructGasFn` without its refund.  Both read their parameter only
where they move the refund counter, and nothing else a transaction runs reads
the counter, save the check of `SubRefund`, which never fails from the start
of a transaction.  So the same accesses run under either schedule charge the
same gas, stop at the same access with the same error, and leave the same
storage and access list; the refund counters alone differ, and through each
slot by exactly the difference of the clearing refunds the slot holds at the
end (`runTx_withRefunds`): a slot the transaction leaves cleared from a
nonzero original value, and no other, earns the one schedule's clearing
refund in place of the other's.  Summed over the finitely many slots a run
touches, with SELFDESTRUCT's refund, this gives EIP-3529's promise: its
schedule never ends a transaction with a larger refund counter than
EIP-2929's (`runTx_withRefunds_refund_le`).
-/

namespace CosmEvm

open StateDB

/-- The schedule with another clearing refund for SSTORE and another refund
switch for SELFDESTRUCT, its other gas functions kept. -/
def Schedule.withRefunds (sched : Schedule) (clearingRefund : Nat) (refundsEnabled : Bool) :
    Schedule :=
  { sched with clearingRefund := clearingRefund, refundsEnabled := refundsEnabled }

namespace Schedule

variable (sched : Schedule) (clearingRefund : Nat) (refundsEnabled : Bool)

@[simp]
theorem clearingRefund_withRefunds :
    (sched.withRefunds clearingRefund refundsEnabled).clearingRefund = clearingRefund := rfl

@[simp]
theorem refundsEnabled_withRefunds :
    (sched.withRefunds clearingRefund refundsEnabled).refundsEnabled = refundsEnabled := rfl

@[simp]
theorem gasExtCodeCopy_withRefunds :
    (sched.withRefunds clearingRefund refundsEnabled).gasExtCodeCopy = sched.gasExtCodeCopy := rfl

@[simp]
theorem oldCalculator_withRefunds :
    (sched.withRefunds clearingRefund refundsEnabled).oldCalculator = sched.oldCalculator := rfl

end Schedule

/-- go-ethereum's CALL calculators read the state database, but not its refund
counter. -/
def Schedule.RefundBlind (sched : Schedule) : Prop :=
  ∀ variant db refund, sched.oldCalculator variant { db with refund := refund } =
    sched.oldCalculator variant db

/-- Two outcomes that agree but for the refund counter. -/
structure AgreeButRefund {α : Type} (run run' : Except VmError α × StateDB) : Prop where
  outcome : run'.1 = run.1
  state : run'.2 = { run.2 with refund := run'.2.refund }

/-- How much more clearing refund a slot holds under `clearingRefund'` than
under `clearingRefund`. -/
def clearedRefundGap (clearingRefund clearingRefund' : Nat) (original current : Word) : Int :=
  (clearedRefund clearingRefund' original current : Int) - clearedRefund clearingRefund original current

theorem clearedRefundGap_nonpos {clearingRefund clearingRefund' : Nat}
    (smaller : clearingRefund' ≤ clearingRefund) (original current : Word) :
    clearedRefundGap clearingRefund clearingRefund' original current ≤ 0 := by
  unfold clearedRefundGap clearedRefund
  split_ifs <;> omega

/-- The counter under the second schedule exceeds the first's by at most the
gap between the clearing refunds that finitely many slots hold, and no other
slot holds a gap. -/
def RefundsApart (clearingRefund clearingRefund' : Nat) (committed : Slot → Word) (db : StateDB)
    (refund' : Nat) : Prop :=
  ∃ touched : Finset Slot,
    (∀ s ∉ touched, clearedRefundGap clearingRefund clearingRefund' (committed s) (db.state s) = 0) ∧
    (refund' : Int) - db.refund ≤
      ∑ s ∈ touched, clearedRefundGap clearingRefund clearingRefund' (committed s) (db.state s)

/-! ## One write -/

theorem sstoreNetCost_sub_sstoreNetCost (clearingRefund clearingRefund' : Nat)
    (original value : Word) :
    sstoreNetCost clearingRefund' original value - sstoreNetCost clearingRefund original value =
      -clearedRefundGap clearingRefund clearingRefund' original value := by
  unfold sstoreNetCost clearedRefundGap clearedRefund
  split_ifs <;> simp_all

/-- Per write, the refunds of two clearing refunds differ by the change of
the gap between the clearing refunds the slot holds: the net cost telescopes
under either. -/
theorem sstoreRefund_sub_sstoreRefund (clearingRefund clearingRefund' : Nat)
    (original current value : Word) :
    ((sstoreRefundAdd clearingRefund' original current value : Int) -
        sstoreRefundSub clearingRefund' original current value) -
      ((sstoreRefundAdd clearingRefund original current value : Int) -
        sstoreRefundSub clearingRefund original current value) =
      clearedRefundGap clearingRefund clearingRefund' original value -
        clearedRefundGap clearingRefund clearingRefund' original current := by
  have first := sstoreCost_sub_refund clearingRefund original current value
  have second := sstoreCost_sub_refund clearingRefund' original current value
  have atValue := sstoreNetCost_sub_sstoreNetCost clearingRefund clearingRefund' original value
  have atCurrent := sstoreNetCost_sub_sstoreNetCost clearingRefund clearingRefund' original current
  linear_combination first - second - atValue + atCurrent

/-! ## Gas functions that leave the refund counter alone -/

theorem gasSLoadEIP2929_withRefund (contract : Contract) (stack : Stack) (db : StateDB)
    (refund : Nat) :
    gasSLoadEIP2929 contract stack { db with refund := refund } =
      ((gasSLoadEIP2929 contract stack db).1,
        { (gasSLoadEIP2929 contract stack db).2 with refund := refund }) := by
  rcases stack with ⟨_ | ⟨k, rest⟩⟩
  · rfl
  · rw [gasSLoadEIP2929_cons, gasSLoadEIP2929_cons]
    dsimp only
    split <;> rfl

theorem gasEip2929AccountCheck_withRefund (stack : Stack) (db : StateDB) (refund : Nat) :
    gasEip2929AccountCheck stack { db with refund := refund } =
      ((gasEip2929AccountCheck stack db).1,
        { (gasEip2929AccountCheck stack db).2 with refund := refund }) := by
  rcases stack with ⟨_ | ⟨w, rest⟩⟩
  · rfl
  · rw [gasEip2929AccountCheck_cons, gasEip2929AccountCheck_cons]
    dsimp only
    split <;> rfl

theorem gasExtCodeCopyEIP2929_withRefund (gasExtCodeCopy : ExtCodeCopyGas) (stack : Stack)
    (mem : Memory) (memorySize : Nat) (db : StateDB) (refund : Nat) :
    let result := gasExtCodeCopyEIP2929 gasExtCodeCopy stack mem memorySize db
    gasExtCodeCopyEIP2929 gasExtCodeCopy stack mem memorySize { db with refund := refund } =
      (result.1, { result.2.1 with refund := refund }, result.2.2) := by
  rcases stack with ⟨_ | ⟨w, rest⟩⟩
  · unfold gasExtCodeCopyEIP2929
    split <;> rfl
  · rw [gasExtCodeCopyEIP2929_cons, gasExtCodeCopyEIP2929_cons]
    split
    · rfl
    · dsimp only
      split
      · rfl
      · split <;> rfl

theorem makeCallVariantGasCallEIP2929_withRefund (oldCalculator : OldCalculator)
    (blind : ∀ db refund, oldCalculator { db with refund := refund } = oldCalculator db)
    (contract : Contract) (stack : Stack) (mem : Memory) (memorySize : Nat) (db : StateDB)
    (refund : Nat) :
    let result := makeCallVariantGasCallEIP2929 oldCalculator contract stack mem memorySize db
    makeCallVariantGasCallEIP2929 oldCalculator contract stack mem memorySize
        { db with refund := refund } =
      (result.1, { result.2.1 with refund := refund }, result.2.2) := by
  rcases stack with ⟨_ | ⟨w₀, _ | ⟨w, rest⟩⟩⟩
  · rfl
  · rfl
  · rw [makeCallVariantGasCallEIP2929_cons, makeCallVariantGasCallEIP2929_cons]
    dsimp only
    split
    · rw [blind]
      split <;> rfl
    · split
      · rfl
      · have warmed : ({ db with refund := refund } : StateDB).addAddressToAccessList w.toAddress =
            { db.addAddressToAccessList w.toAddress with refund := refund } := rfl
        rw [warmed, blind]
        split <;> rfl

/-! ## SELFDESTRUCT and SSTORE -/

theorem makeSelfdestructGasFn_withRefund (refundsEnabled refundsEnabled' : Bool)
    (contract : Contract) (stack : Stack) (db : StateDB) (refund : Nat) :
    AgreeButRefund (makeSelfdestructGasFn refundsEnabled contract stack db)
      (makeSelfdestructGasFn refundsEnabled' contract stack { db with refund := refund }) := by
  rcases stack with ⟨_ | ⟨w, rest⟩⟩
  · exact ⟨rfl, rfl⟩
  · rw [makeSelfdestructGasFn_cons, makeSelfdestructGasFn_cons]
    refine ⟨rfl, ?_⟩
    dsimp only
    split <;> split <;> split <;> rfl

/-- `opSuicide`'s writes keep two states that agree but for the counter so. -/
theorem AgreeButRefund.selfDestruct {α : Type} {run run' : Except VmError α × StateDB}
    (agree : AgreeButRefund run run') (a beneficiary : Addr) :
    AgreeButRefund (run.1, run.2.selfDestruct a beneficiary)
      (run'.1, run'.2.selfDestruct a beneficiary) :=
  ⟨agree.outcome, by rw [agree.state]; rfl⟩

/-- SSTORE past its sentry on a slot whose address or itself is warm, with the
counter covering what the write takes back. -/
theorem Access.run_sstore_of_present (sched : Schedule) {contract : Contract} {x y : Word}
    {rest : List Word} {db : StateDB} (sentry : SstoreSentryGasEIP2200 < contract.gas)
    (present : (db.slotInAccessList contract.address x).1 ∨ (db.slotInAccessList contract.address x).2)
    (covered : sstoreRefundSub sched.clearingRefund (db.committedState (contract.address, x))
      (db.state (contract.address, x)) y ≤ db.refund) :
    (Access.sstore contract ⟨x :: y :: rest⟩).run sched db =
      (.ok ((if db.accessList.slots (contract.address, x) then 0 else ColdSloadCostEIP2929) +
          sstoreCost (db.committedState (contract.address, x)) (db.state (contract.address, x)) y),
        ({ db.warmSlot contract.address x with
          refund := db.refund -
            sstoreRefundSub sched.clearingRefund (db.committedState (contract.address, x))
              (db.state (contract.address, x)) y +
            sstoreRefundAdd sched.clearingRefund (db.committedState (contract.address, x))
              (db.state (contract.address, x)) y }).setState contract.address x y) := by
  simp only [Access.run, makeGasSStoreFunc_cons sched.clearingRefund contract x y rest db sentry present,
    refund_warmSlot, Nat.not_lt.mpr covered, if_false, sstoreWrite]
  rfl

/-- SSTORE stops at its sentry or on a short stack with the state as it was,
whatever the clearing refund; otherwise it reads two words past the sentry. -/
theorem makeGasSStoreFunc_stops_or_live (contract : Contract) (stack : Stack) :
    (∃ err : VmError, ∀ c d, makeGasSStoreFunc c contract stack d = (.error err, d)) ∨
      ∃ x y rest, stack = ⟨x :: y :: rest⟩ ∧ SstoreSentryGasEIP2200 < contract.gas := by
  by_cases sentry : contract.gas ≤ SstoreSentryGasEIP2200
  · exact .inl ⟨_, fun _ _ => if_pos sentry⟩
  rcases stack with ⟨_ | ⟨x, _ | ⟨y, rest⟩⟩⟩
  · exact .inl ⟨.stackUnderflow, fun _ _ => by simp [makeGasSStoreFunc, sentry, Stack.back]⟩
  · exact .inl ⟨.stackUnderflow, fun _ _ => by simp [makeGasSStoreFunc, sentry, Stack.back]⟩
  · exact .inr ⟨x, y, rest, rfl, Nat.lt_of_not_le sentry⟩

/-- Whether an access can move the refund counter: SSTORE, SELFDESTRUCT and a
direct refund. -/
def Access.movesRefund : Access → Bool
  | .sstore .. | .selfdestruct .. | .addRefund _ => true
  | _ => false

section

variable (sched : Schedule) (clearingRefund : Nat) (refundsEnabled : Bool)

/-- The accesses that cannot move the refund counter run alike under both
schedules, from states that differ only in it, and keep it. -/
theorem Access.run_withRefunds_of_keeps (blind : sched.RefundBlind) {access : Access}
    (keeps : access.movesRefund = false) (db : StateDB) (refund : Nat) :
    access.run (sched.withRefunds clearingRefund refundsEnabled) { db with refund := refund } =
      ((access.run sched db).1, { (access.run sched db).2 with refund := refund }) := by
  cases access with
  | sload contract stack => exact gasSLoadEIP2929_withRefund contract stack db refund
  | accountCheck stack => exact gasEip2929AccountCheck_withRefund stack db refund
  | extCodeCopy stack mem memorySize =>
    simp only [Access.run, Schedule.gasExtCodeCopy_withRefunds]
    rw [gasExtCodeCopyEIP2929_withRefund _ stack mem memorySize db refund]
  | call variant contract stack mem memorySize =>
    simp only [Access.run, Schedule.oldCalculator_withRefunds]
    rw [makeCallVariantGasCallEIP2929_withRefund _ (blind variant) contract stack mem memorySize db
      refund]
  | sstore | selfdestruct | addRefund => cases keeps

/-- SSTORE under two clearing refunds, from states that differ only in the
refund counter and each cover their clearing refunds: the same outcome, and
counters that move apart through the written slot by the change of the gap
between the clearing refunds it holds. -/
theorem run_sstore_withRefunds (contract : Contract) (stack : Stack) (db : StateDB) (refund : Nat)
    (covered : RefundCovered sched.clearingRefund db)
    (covered' : RefundCovered clearingRefund { db with refund := refund }) :
    let run := (Access.sstore contract stack).run sched db
    let run' := (Access.sstore contract stack).run (sched.withRefunds clearingRefund refundsEnabled)
      { db with refund := refund }
    AgreeButRefund run run' ∧ ∀ s,
      (if (Access.sstore contract stack).item? = some (.slot s) then
          ((run'.2.refund : Int) - refund) - ((run.2.refund : Int) - db.refund) else 0) =
        clearedRefundGap sched.clearingRefund clearingRefund (db.committedState s) (run.2.state s) -
          clearedRefundGap sched.clearingRefund clearingRefund (db.committedState s) (db.state s) := by
  dsimp only
  obtain ⟨err, stop⟩ | ⟨x, y, rest, rfl, live⟩ := makeGasSStoreFunc_stops_or_live contract stack
  · simp only [Access.run, stop]
    exact ⟨⟨rfl, rfl⟩, fun s => by split <;> simp⟩
  by_cases present : (db.slotInAccessList contract.address x).1 ∨
      (db.slotInAccessList contract.address x).2
  · have enough : sstoreRefundSub sched.clearingRefund (db.committedState (contract.address, x))
        (db.state (contract.address, x)) y ≤ db.refund :=
      (sstoreRefundSub_le_clearedRefund _ _ _ _).trans (covered.cleared_le _)
    have enough' : sstoreRefundSub clearingRefund (db.committedState (contract.address, x))
        (db.state (contract.address, x)) y ≤ refund :=
      (sstoreRefundSub_le_clearedRefund _ _ _ _).trans (covered'.cleared_le (contract.address, x))
    rw [Access.run_sstore_of_present sched live present enough,
      @Access.run_sstore_of_present (sched.withRefunds clearingRefund refundsEnabled) contract x y rest
        { db with refund := refund } live present enough']
    refine ⟨⟨rfl, ?_⟩, fun s => ?_⟩
    · simp only [StateDB.setState, StateDB.warmSlot, StateDB.slotInAccessList]
      split <;> rfl
    · simp only [Access.item?, refund_setState, state_setState, state_warmSlot, Option.some.injEq,
        AccessList.Item.slot.injEq, Schedule.clearingRefund_withRefunds]
      by_cases same : (contract.address, x) = s
      · subst same
        rw [if_pos rfl, Function.update_same]
        push_cast [enough, enough']
        linear_combination sstoreRefund_sub_sstoreRefund sched.clearingRefund clearingRefund
          (db.committedState (contract.address, x)) (db.state (contract.address, x)) y
      · rw [if_neg same, Function.update_noteq (Ne.symm same), sub_self]
  · have cold : db.accessList.addresses contract.address = false ∧
        db.accessList.slots (contract.address, x) = false := by
      simpa [StateDB.slotInAccessList, not_or] using present
    have stop (c : Nat) (d : StateDB) (same : d.accessList = db.accessList) :
        makeGasSStoreFunc c contract ⟨x :: y :: rest⟩ d =
          (.error .addressNotInAccessList, d.addSlotToAccessList contract.address x) := by
      simp [makeGasSStoreFunc, Nat.not_le.mpr live, StateDB.slotInAccessList, same, cold]
    simp only [Access.run, stop _ db rfl, stop _ { db with refund := refund } rfl]
    exact ⟨⟨rfl, rfl⟩, fun s => by split <;> simp⟩


/-- Only SLOAD and SSTORE look up a slot. -/
theorem Access.eq_of_item?_eq_slot {access : Access} {s : Slot}
    (touches : access.item? = some (.slot s)) :
    ∃ contract k rest, access = .sload contract ⟨k :: rest⟩ ∨ access = .sstore contract ⟨k :: rest⟩ := by
  cases access with
  | sload contract stack | sstore contract stack =>
    rcases stack with ⟨_ | ⟨k, rest⟩⟩
    · cases touches
    · exact ⟨contract, k, rest, by simp⟩
  | accountCheck stack | extCodeCopy stack | call _ _ stack | selfdestruct _ stack =>
    rcases stack with ⟨_ | ⟨_, _ | ⟨_, _⟩⟩⟩ <;> cases touches
  | addRefund => cases touches

/-- One access under the two schedules, from states that differ only in the
refund counter and each cover their clearing refunds: the same outcome, and
counters that move apart through a slot only as the gap between the clearing
refunds it holds moves. -/
theorem Access.run_withRefunds (blind : sched.RefundBlind) (access : Access) (db : StateDB)
    (refund : Nat) (covered : RefundCovered sched.clearingRefund db)
    (covered' : RefundCovered clearingRefund { db with refund := refund }) :
    let run := access.run sched db
    let run' := access.run (sched.withRefunds clearingRefund refundsEnabled) { db with refund := refund }
    AgreeButRefund run run' ∧ ∀ s,
      (if access.item? = some (.slot s) then
          ((run'.2.refund : Int) - refund) - ((run.2.refund : Int) - db.refund) else 0) =
        clearedRefundGap sched.clearingRefund clearingRefund (db.committedState s) (run.2.state s) -
          clearedRefundGap sched.clearingRefund clearingRefund (db.committedState s) (db.state s) := by
  dsimp only
  by_cases written : ∃ contract stack, access = .sstore contract stack
  · obtain ⟨contract, stack, rfl⟩ := written
    exact run_sstore_withRefunds sched clearingRefund refundsEnabled contract stack db refund covered
      covered'
  have metered : Metered db (access.run sched db).2 := by
    rcases access.run_cases sched db with ⟨metered, -⟩ | ⟨contract, _, _, _, rfl, -⟩ |
      ⟨contract, _, _, _, rfl, -⟩
    · exact metered
    all_goals exact absurd ⟨contract, _, rfl⟩ written
  have agree : AgreeButRefund (access.run sched db)
      (access.run (sched.withRefunds clearingRefund refundsEnabled) { db with refund := refund }) := by
    cases keeps : access.movesRefund
    · rw [access.run_withRefunds_of_keeps sched clearingRefund refundsEnabled blind keeps db refund]
      exact ⟨rfl, rfl⟩
    cases access with
    | sstore contract stack => exact absurd ⟨contract, stack, rfl⟩ written
    | selfdestruct contract stack =>
      rcases stack with ⟨_ | ⟨w, rest⟩⟩
      · exact ⟨rfl, rfl⟩
      · rw [Access.run_selfdestruct, Access.run_selfdestruct]
        exact (makeSelfdestructGasFn_withRefund _ _ contract _ db refund).selfDestruct _ _
    | addRefund gas => exact ⟨rfl, rfl⟩
    | sload | accountCheck | extCodeCopy | call => cases keeps
  refine ⟨agree, fun s => ?_⟩
  rw [metered.state_eq, sub_self]
  split
  · next touches =>
    obtain ⟨contract, k, rest, rfl | rfl⟩ := Access.eq_of_item?_eq_slot touches
    · have kept : (gasSLoadEIP2929 contract ⟨k :: rest⟩ db).2.refund = db.refund := by
        rw [gasSLoadEIP2929_cons]
        split <;> rfl
      simp only [Access.run]
      rw [gasSLoadEIP2929_withRefund contract _ db refund, kept]
      simp
    · exact absurd ⟨contract, _, rfl⟩ written
  · rfl


/-! ## The refund counters over a whole run -/

/-- Outside slot accesses the counters move apart only by SELFDESTRUCT's
refund, which the second schedule grants only where the first does. -/
theorem Access.refund_run_withRefunds_le (blind : sched.RefundBlind)
    (fewer : refundsEnabled = true → sched.refundsEnabled = true) (access : Access) (db : StateDB)
    (refund : Nat) (notSlot : ∀ s, access.item? ≠ some (.slot s)) :
    ((access.run (sched.withRefunds clearingRefund refundsEnabled)
        { db with refund := refund }).2.refund : Int) - refund ≤
      ((access.run sched db).2.refund : Int) - db.refund := by
  have grows : db.refund ≤ (access.run sched db).2.refund := by
    rcases access.run_cases sched db with ⟨metered, -⟩ | ⟨_, _, _, _, -, metered, -⟩ |
      ⟨contract, x, _, _, rfl, -⟩
    · exact metered.refund_le
    · exact metered.refund_le
    · exact absurd rfl (notSlot (contract.address, x))
  cases keeps : access.movesRefund
  · rw [access.run_withRefunds_of_keeps sched clearingRefund refundsEnabled blind keeps db refund]
    dsimp only
    rw [sub_self, sub_nonneg, Nat.cast_le]
    exact grows
  cases access with
  | sload | accountCheck | extCodeCopy | call => cases keeps
  | sstore contract stack =>
    obtain ⟨err, stop⟩ | ⟨x, _, _, rfl, -⟩ := makeGasSStoreFunc_stops_or_live contract stack
    · simp [Access.run, stop]
    · exact absurd rfl (notSlot (contract.address, x))
  | selfdestruct contract stack =>
    rcases stack with ⟨_ | ⟨w, rest⟩⟩
    · show ((refund : Int) - refund) ≤ (db.refund : Int) - db.refund
      simp
    · rw [Access.refund_run_selfdestruct, Access.refund_run_selfdestruct,
        Schedule.refundsEnabled_withRefunds]
      dsimp only
      split_ifs with granted granted'
      · omega
      · simp only [Bool.and_eq_true] at granted granted'
        exact absurd ⟨fewer granted.1, granted.2⟩ granted'
      all_goals omega
  | addRefund gas => simp [Access.run]


/-- Two outcomes agreeing but for the counter are the first with the second's
counter. -/
theorem AgreeButRefund.eq {α : Type} {run run' : Except VmError α × StateDB}
    (agree : AgreeButRefund run run') : run' = (run.1, { run.2 with refund := run'.2.refund }) :=
  Prod.ext agree.outcome agree.state

/-- A transaction's accesses under the two schedules, from states that differ
only in the refund counter and each cover their clearing refunds: the same
outcome, and through each slot counters that move apart by the change of the
gap between the clearing refunds it holds. -/
theorem runTx_withRefunds_of_covered (blind : sched.RefundBlind) (accesses : List Access)
    (db : StateDB) (refund : Nat) (covered : RefundCovered sched.clearingRefund db)
    (covered' : RefundCovered clearingRefund { db with refund := refund }) :
    let sched' := sched.withRefunds clearingRefund refundsEnabled
    AgreeButRefund (runTx sched accesses db) (runTx sched' accesses { db with refund := refund }) ∧
      ∀ s, slotRefund sched' s accesses { db with refund := refund } - slotRefund sched s accesses db =
        clearedRefundGap sched.clearingRefund clearingRefund (db.committedState s)
            ((runTx sched accesses db).2.state s) -
          clearedRefundGap sched.clearingRefund clearingRefund (db.committedState s) (db.state s) := by
  induction accesses generalizing db refund with
  | nil => exact ⟨⟨rfl, rfl⟩, fun s => by simp [slotRefund]⟩
  | cons access rest ih =>
    dsimp only at ih ⊢
    obtain ⟨agree, moved⟩ :=
      access.run_withRefunds sched clearingRefund refundsEnabled blind db refund covered covered'
    obtain ⟨refund₁, shifted⟩ : ∃ refund₁,
        access.run (sched.withRefunds clearingRefund refundsEnabled) { db with refund := refund } =
          ((access.run sched db).1, { (access.run sched db).2 with refund := refund₁ }) :=
      ⟨_, agree.eq⟩
    have covered₁ := (access.run_refundCovered sched covered).2
    have covered₁' :=
      (access.run_refundCovered (sched.withRefunds clearingRefund refundsEnabled) covered').2
    have step (s : Slot) := access.cleared_step sched db s
    rw [shifted] at covered₁' moved
    dsimp only at moved
    simp only [runTx, slotRefund, shifted]
    generalize access.run sched db = run at covered₁ covered₁' moved step ⊢
    rcases run with ⟨_ | gas, db₁⟩ <;> dsimp only at covered₁ covered₁' moved step ⊢
    · refine ⟨⟨rfl, rfl⟩, fun s => ?_⟩
      rw [sub_self, (step s).2.1 ⟨_, rfl⟩, sub_self]
    · obtain ⟨agreeRest, movedRest⟩ := ih db₁ refund₁ covered₁ covered₁'
      have slots (s : Slot) :
          ((if access.item? = some (.slot s) then (refund₁ : Int) - refund else 0) +
              slotRefund (sched.withRefunds clearingRefund refundsEnabled) s rest
                { db₁ with refund := refund₁ }) -
            ((if access.item? = some (.slot s) then (db₁.refund : Int) - db.refund else 0) +
              slotRefund sched s rest db₁) =
          clearedRefundGap sched.clearingRefund clearingRefund (db.committedState s)
              ((runTx sched rest db₁).2.state s) -
            clearedRefundGap sched.clearingRefund clearingRefund (db.committedState s) (db.state s) := by
        have here := moved s
        have there := movedRest s
        rw [congrFun (step s).1 s] at there
        split_ifs at here ⊢ <;> linarith
      rw [agreeRest.eq]
      revert slots
      rcases runTx sched rest db₁ with ⟨_ | gases, db₂⟩ <;> exact fun slots => ⟨⟨rfl, rfl⟩, slots⟩


/-- One access keeps the counters apart by at most the gap the slots hold:
through its slot they move as the gap there does, and otherwise only
SELFDESTRUCT moves them, the second no more than the first. -/
theorem Access.refundsApart_run (blind : sched.RefundBlind)
    (fewer : refundsEnabled = true → sched.refundsEnabled = true) (access : Access) (db : StateDB)
    (refund : Nat) (covered : RefundCovered sched.clearingRefund db)
    (covered' : RefundCovered clearingRefund { db with refund := refund })
    (apart : RefundsApart sched.clearingRefund clearingRefund db.committedState db refund) :
    RefundsApart sched.clearingRefund clearingRefund db.committedState (access.run sched db).2
      (access.run (sched.withRefunds clearingRefund refundsEnabled)
        { db with refund := refund }).2.refund := by
  obtain ⟨touched, outside, bound⟩ := apart
  obtain ⟨-, moved⟩ :=
    access.run_withRefunds sched clearingRefund refundsEnabled blind db refund covered covered'
  by_cases slotAccess : ∃ s₀, access.item? = some (.slot s₀)
  · obtain ⟨s₀, touches⟩ := slotAccess
    have others (s : Slot) (other : s ≠ s₀) :
        clearedRefundGap sched.clearingRefund clearingRefund (db.committedState s)
            ((access.run sched db).2.state s) =
          clearedRefundGap sched.clearingRefund clearingRefund (db.committedState s) (db.state s) := by
      have unmoved := moved s
      rw [if_neg (by rw [touches]; simpa using Ne.symm other)] at unmoved
      linarith
    have here := moved s₀
    rw [if_pos touches] at here
    refine ⟨insert s₀ touched, fun s notIn => ?_, ?_⟩
    · rw [Finset.mem_insert, not_or] at notIn
      rw [others s notIn.1]
      exact outside s notIn.2
    · have before : ∑ s ∈ insert s₀ touched, clearedRefundGap sched.clearingRefund clearingRefund
            (db.committedState s) (db.state s) =
          ∑ s ∈ touched, clearedRefundGap sched.clearingRefund clearingRefund
            (db.committedState s) (db.state s) :=
        Finset.sum_insert_of_eq_zero_if_not_mem (outside s₀)
      have change : ∑ s ∈ insert s₀ touched,
          (clearedRefundGap sched.clearingRefund clearingRefund (db.committedState s)
              ((access.run sched db).2.state s) -
            clearedRefundGap sched.clearingRefund clearingRefund (db.committedState s) (db.state s)) =
          clearedRefundGap sched.clearingRefund clearingRefund (db.committedState s₀)
              ((access.run sched db).2.state s₀) -
            clearedRefundGap sched.clearingRefund clearingRefund (db.committedState s₀) (db.state s₀) :=
        Finset.sum_eq_single_of_mem s₀ (Finset.mem_insert_self s₀ touched) fun s _ other => by
          rw [others s other, sub_self]
      rw [Finset.sum_sub_distrib] at change
      linarith
  · push_neg at slotAccess
    have same (s : Slot) :
        clearedRefundGap sched.clearingRefund clearingRefund (db.committedState s)
            ((access.run sched db).2.state s) =
          clearedRefundGap sched.clearingRefund clearingRefund (db.committedState s) (db.state s) := by
      have unmoved := moved s
      rw [if_neg (slotAccess s)] at unmoved
      linarith
    have le := access.refund_run_withRefunds_le sched clearingRefund refundsEnabled blind fewer db
      refund slotAccess
    refine ⟨touched, fun s notIn => (same s).trans (outside s notIn), ?_⟩
    rw [Finset.sum_congr rfl fun s _ => same s]
    linarith

/-- Over a whole run the counters stay apart by at most the gap the slots
hold. -/
theorem runTx_refundsApart (blind : sched.RefundBlind)
    (fewer : refundsEnabled = true → sched.refundsEnabled = true) (accesses : List Access)
    (db : StateDB) (refund : Nat) (covered : RefundCovered sched.clearingRefund db)
    (covered' : RefundCovered clearingRefund { db with refund := refund })
    (apart : RefundsApart sched.clearingRefund clearingRefund db.committedState db refund) :
    RefundsApart sched.clearingRefund clearingRefund db.committedState (runTx sched accesses db).2
      (runTx (sched.withRefunds clearingRefund refundsEnabled) accesses
        { db with refund := refund }).2.refund := by
  induction accesses generalizing db refund with
  | nil => exact apart
  | cons access rest ih =>
    have step := access.refundsApart_run sched clearingRefund refundsEnabled blind fewer db refund
      covered covered' apart
    obtain ⟨agree, -⟩ :=
      access.run_withRefunds sched clearingRefund refundsEnabled blind db refund covered covered'
    have covered₁ := (access.run_refundCovered sched covered).2
    have covered₁' :=
      (access.run_refundCovered (sched.withRefunds clearingRefund refundsEnabled) covered').2
    have committed := (access.cleared_step sched db (0, 0)).1
    rw [agree.eq] at covered₁'
    simp only [runTx]
    rw [agree.eq]
    revert step covered₁ covered₁' committed
    generalize access.run (sched.withRefunds clearingRefund refundsEnabled)
      { db with refund := refund } = run'
    rcases access.run sched db with ⟨_ | gas, db₁⟩ <;> intro step covered₁ covered₁' committed <;>
      dsimp only at step covered₁ covered₁' committed ⊢
    · exact step
    · rw [← committed] at step ⊢
      have tail := ih db₁ run'.2.refund covered₁ covered₁' step
      revert tail
      generalize runTx (sched.withRefunds clearingRefund refundsEnabled) rest
        { db₁ with refund := run'.2.refund } = restRun'
      rcases runTx sched rest db₁ with ⟨_ | gases, db₂⟩ <;>
        rcases restRun' with ⟨_ | gases', db₂'⟩ <;> exact id

end

/-- The same accesses of a transaction, run from its start under a schedule
and under that schedule with another clearing refund and SELFDESTRUCT refund
switch (EIP-3529's gas functions in place of EIP-2929's), charge the same gas,
stop at the same access with the same error, and leave the same storage and
access list; through each slot the net refunds differ by the difference of
the clearing refunds it holds at the end, the difference of the two clearing
refunds exactly when the transaction leaves zero in a slot whose original
value was not. -/
theorem runTx_withRefunds (sched : Schedule) (clearingRefund : Nat) (refundsEnabled : Bool)
    (blind : sched.RefundBlind) (accesses : List Access) (db : StateDB)
    (unwritten : db.state = db.committedState) :
    let sched' := sched.withRefunds clearingRefund refundsEnabled
    let final := (runTx sched accesses db).2
    (runTx sched' accesses db).1 = (runTx sched accesses db).1 ∧
      (runTx sched' accesses db).2 = { final with refund := (runTx sched' accesses db).2.refund } ∧
      ∀ s, slotRefund sched' s accesses db - slotRefund sched s accesses db =
        (clearedRefund clearingRefund (db.committedState s) (final.state s) : Int) -
          clearedRefund sched.clearingRefund (db.committedState s) (final.state s) := by
  obtain ⟨⟨outcome, state⟩, moved⟩ := runTx_withRefunds_of_covered sched clearingRefund
    refundsEnabled blind accesses db db.refund (.of_unwritten unwritten) (.of_unwritten unwritten)
  refine ⟨outcome, state, fun s => ?_⟩
  rw [moved s, unwritten]
  simp [clearedRefundGap]

theorem runTx_withRefunds_clear_slot :
    let sched : Schedule := ⟨SstoreClearsScheduleRefundEIP2200, true, fun _ m _ => some (0, m),
      fun _ _ c _ m _ => (some 0, c, m)⟩
    let accesses : List Access := [.sstore ⟨0, 3000⟩ ⟨[0, 0]⟩, .selfdestruct ⟨0, 3000⟩ ⟨[1]⟩]
    let db := StateDB.start (AccessList.empty.addAddress 0) (fun _ => 1) (fun _ => 0)
      (fun _ => false)
    let sched' := sched.withRefunds SstoreClearsScheduleRefundEIP3529 false
    let final := (runTx sched accesses db).2
    sched.RefundBlind ∧ db.state = db.committedState ∧
      (runTx sched' accesses db).1 = (runTx sched accesses db).1 ∧
      (runTx sched' accesses db).2 = { final with refund := (runTx sched' accesses db).2.refund } ∧
      ∀ s, slotRefund sched' s accesses db - slotRefund sched s accesses db =
        (clearedRefund SstoreClearsScheduleRefundEIP3529 (db.committedState s) (final.state s) : Int) -
          clearedRefund sched.clearingRefund (db.committedState s) (final.state s) :=
  ⟨fun _ _ _ => rfl, rfl, runTx_withRefunds _ _ _ (fun _ _ _ => rfl) _ _ rfl⟩

/-- Summed over the slots a run from a transaction's start touches, each gap
is at most zero when the clearing refund is no larger, and so is the drift of
the counters. -/
theorem refund_runTx_withRefunds_le {sched : Schedule} {clearingRefund : Nat}
    {refundsEnabled : Bool} (blind : sched.RefundBlind) (smaller : clearingRefund ≤ sched.clearingRefund)
    (fewer : refundsEnabled = true → sched.refundsEnabled = true) (accesses : List Access)
    {db : StateDB} (unwritten : db.state = db.committedState) :
    (runTx (sched.withRefunds clearingRefund refundsEnabled) accesses db).2.refund ≤
      (runTx sched accesses db).2.refund := by
  have start : RefundsApart sched.clearingRefund clearingRefund db.committedState db db.refund :=
    ⟨∅, fun s _ => by simp [clearedRefundGap, unwritten], by simp⟩
  obtain ⟨touched, -, bound⟩ := runTx_refundsApart sched clearingRefund refundsEnabled blind fewer
    accesses db db.refund (.of_unwritten unwritten) (.of_unwritten unwritten) start
  have held := Finset.sum_nonpos fun s (_ : s ∈ touched) => clearedRefundGap_nonpos smaller
    (db.committedState s) ((runTx sched accesses db).2.state s)
  exact Int.ofNat_le.mp (by linarith)

/-- A schedule with a clearing refund no larger, and a SELFDESTRUCT refund
only where the other grants one (EIP-3529's gas functions against
EIP-2929's), never ends the same accesses of a transaction, run from its
start, with a larger refund counter. -/
theorem runTx_withRefunds_refund_le (sched : Schedule) (clearingRefund : Nat)
    (refundsEnabled : Bool) (blind : sched.RefundBlind) (smaller : clearingRefund ≤ sched.clearingRefund)
    (fewer : refundsEnabled = true → sched.refundsEnabled = true) (accesses : List Access)
    (db : StateDB) (unwritten : db.state = db.committedState) :
    (runTx (sched.withRefunds clearingRefund refundsEnabled) accesses db).2.refund ≤
      (runTx sched accesses db).2.refund :=
  refund_runTx_withRefunds_le blind smaller fewer accesses unwritten

theorem runTx_withRefunds_refund_le_eip3529 :
    let sched : Schedule := ⟨SstoreClearsScheduleRefundEIP2200, true, fun _ m _ => some (0, m),
      fun _ _ c _ m _ => (some 0, c, m)⟩
    let accesses : List Access := [.sstore ⟨0, 3000⟩ ⟨[0, 0]⟩, .selfdestruct ⟨0, 3000⟩ ⟨[1]⟩]
    let db := StateDB.start (AccessList.empty.addAddress 0) (fun _ => 1) (fun _ => 0)
      (fun _ => false)
    sched.RefundBlind ∧ SstoreClearsScheduleRefundEIP3529 ≤ sched.clearingRefund ∧
      (false = true → sched.refundsEnabled = true) ∧ db.state = db.committedState ∧
      (runTx (sched.withRefunds SstoreClearsScheduleRefundEIP3529 false) accesses db).2.refund ≤
        (runTx sched accesses db).2.refund :=
  ⟨fun _ _ _ => rfl, by decide, by decide, rfl,
    runTx_withRefunds_refund_le _ _ _ (fun _ _ _ => rfl) (by decide) (by decide) _ _ rfl⟩

end CosmEvm
