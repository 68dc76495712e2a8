import CosmEvm.Transaction.Run

/-!
# The refund counter never goes below zero

EIP-2200's SSTORE takes a clearing refund back when a slot that an earlier
write of the transaction cleared is written again, through `SubRefund`,
which panics rather than let the counter go below zero.  The panic is
unreachable: from the start of a transaction, under any interleaving of
accesses and refund additions, the counter covers the clearing refunds all
slots hold outstanding (`RefundCovered`), and each slot's own refund
movements cover the refund it holds (`cleared_sub_le_slotRefund`).
-/

namespace CosmEvm

open StateDB

/-- The net change the accesses to slot `s` make to the refund counter over a
run, up to its first error. -/
def slotRefund (sched : Schedule) (s : Slot) : List Access → StateDB → Int
  | [], _ => 0
  | access :: rest, db =>
    match access.run sched db with
    | (.error _, _) => 0
    | (.ok _, db') =>
      (if access.item? = some (.slot s) then (db'.refund : Int) - db.refund else 0) +
        slotRefund sched s rest db'

/-- The refund counter covers the clearing refunds the slots hold
outstanding, finitely many of them. -/
def RefundCovered (clearingRefund : Nat) (db : StateDB) : Prop :=
  ∃ touched : Finset Slot,
    (∀ s ∉ touched, clearedRefund clearingRefund (db.committedState s) (db.state s) = 0) ∧
    ∑ s ∈ touched, clearedRefund clearingRefund (db.committedState s) (db.state s) ≤ db.refund

namespace RefundCovered

variable {clearingRefund : Nat} {db : StateDB}

/-- Before any write every slot holds its original value and no refund. -/
theorem of_unwritten (unwritten : db.state = db.committedState) :
    RefundCovered clearingRefund db :=
  ⟨∅, fun s _ => by simp [unwritten], by simp⟩

theorem metered {db' : StateDB} (covered : RefundCovered clearingRefund db)
    (metered : Metered db db') : RefundCovered clearingRefund db' := by
  obtain ⟨touched, outside, sum⟩ := covered
  refine ⟨touched, ?_, ?_⟩ <;> rw [metered.state_eq, metered.committedState_eq]
  · exact outside
  · exact sum.trans metered.refund_le

/-- Each slot's outstanding clearing refund is within the counter. -/
theorem cleared_le (covered : RefundCovered clearingRefund db) (s : Slot) :
    clearedRefund clearingRefund (db.committedState s) (db.state s) ≤ db.refund := by
  obtain ⟨touched, outside, sum⟩ := covered
  by_cases mem : s ∈ touched
  · exact (Finset.single_le_sum (fun _ _ => Nat.zero_le _) mem).trans sum
  · rw [outside s mem]
    exact Nat.zero_le _

/-- An SSTORE's write keeps the counter covering: by `sstoreRefund_potential`
the refunds it grants cover the change of the slot's outstanding refund. -/
theorem write (covered : RefundCovered clearingRefund db) (a : Addr) (k y : Word)
    (enough : sstoreRefundSub clearingRefund (db.committedState (a, k)) (db.state (a, k)) y ≤
      db.refund) :
    RefundCovered clearingRefund (({ db.warmSlot a k with
      refund := db.refund - sstoreRefundSub clearingRefund (db.committedState (a, k))
          (db.state (a, k)) y +
        sstoreRefundAdd clearingRefund (db.committedState (a, k)) (db.state (a, k)) y } :
      StateDB).setState a k y) := by
  obtain ⟨touched, outside, sum⟩ := covered
  have potential := sstoreRefund_potential clearingRefund (db.committedState (a, k))
    (db.state (a, k)) y
  have others : ∀ s ∈ (insert (a, k) touched).erase (a, k),
      clearedRefund clearingRefund (db.committedState s) (Function.update db.state (a, k) y s) =
        clearedRefund clearingRefund (db.committedState s) (db.state s) := fun s mem => by
    rw [Function.update_noteq (Finset.ne_of_mem_erase mem)]
  rw [← Finset.sum_insert_of_eq_zero_if_not_mem (outside (a, k)),
    ← Finset.add_sum_erase _ _ (Finset.mem_insert_self _ _)] at sum
  refine ⟨insert (a, k) touched, fun s outsideNew => ?_, ?_⟩
  · rw [Finset.mem_insert, not_or] at outsideNew
    simp [Function.update_noteq outsideNew.1, outside s outsideNew.2]
  · rw [← Finset.add_sum_erase _ _ (Finset.mem_insert_self _ _)]
    simp only [committedState_setState, committedState_warmSlot, state_setState, state_warmSlot,
      Function.update_same, refund_setState]
    rw [Finset.sum_congr rfl others]
    omega

end RefundCovered

namespace Access

variable (sched : Schedule)

/-- One access from a covered state never fails with the refund error and
leaves the state covered. -/
theorem run_refundCovered (access : Access) {db : StateDB}
    (covered : RefundCovered sched.clearingRefund db) :
    (access.run sched db).1 ≠ .error .refundBelowZero ∧
      RefundCovered sched.clearingRefund (access.run sched db).2 := by
  rcases access.run_cases sched db with ⟨metered, notRefund⟩ | ⟨contract, x, y, rest, -, -, short⟩ |
    ⟨contract, x, y, rest, -, -, -, enough, run⟩
  · exact ⟨notRefund, covered.metered metered⟩
  · exact absurd ((sstoreRefundSub_le_clearedRefund _ _ _ _).trans (covered.cleared_le _))
      (Nat.not_le.mpr short)
  · rw [run]
    exact ⟨nofun, covered.write _ _ _ enough⟩

end Access

theorem runTx_refundCovered (sched : Schedule) (accesses : List Access) {db : StateDB}
    (covered : RefundCovered sched.clearingRefund db) :
    (runTx sched accesses db).1 ≠ .error .refundBelowZero ∧
      RefundCovered sched.clearingRefund (runTx sched accesses db).2 := by
  induction accesses generalizing db with
  | nil => exact ⟨nofun, covered⟩
  | cons access rest ih =>
    have step := access.run_refundCovered sched covered
    rw [runTx]
    rcases first : access.run sched db with ⟨_ | gas, db'⟩ <;> rw [first] at step <;> dsimp only
    · exact ⟨by rintro ⟨⟩; exact step.1 rfl, step.2⟩
    · have tail := ih step.2
      rcases second : runTx sched rest db' with ⟨_ | gases, db''⟩ <;> rw [second] at tail <;>
        dsimp only
      · exact tail
      · exact ⟨nofun, tail.2⟩

/-! ## Each slot pays for its own refund -/

namespace Access

variable (sched : Schedule)

/-- One access moves a slot's outstanding clearing refund by no more than it
moves the counter through that slot; only a successful SSTORE writes, and
nothing changes the committed values. -/
theorem cleared_step (access : Access) (db : StateDB) (s : Slot) :
    (access.run sched db).2.committedState = db.committedState ∧
    ((∃ err, (access.run sched db).1 = .error err) → (access.run sched db).2.state = db.state) ∧
    (clearedRefund sched.clearingRefund (db.committedState s) ((access.run sched db).2.state s) : Int) -
        clearedRefund sched.clearingRefund (db.committedState s) (db.state s) ≤
      if access.item? = some (.slot s) then ((access.run sched db).2.refund : Int) - db.refund
      else 0 := by
  rcases access.run_cases sched db with ⟨metered, -⟩ | ⟨contract, x, y, rest, -, metered, -⟩ |
    ⟨contract, x, y, rest, rfl, -, -, enough, run⟩
  · refine ⟨metered.committedState_eq, fun _ => metered.state_eq, ?_⟩
    rw [metered.state_eq, sub_self]
    split
    · exact sub_nonneg.mpr (Int.ofNat_le.mpr metered.refund_le)
    · exact le_refl 0
  · refine ⟨metered.committedState_eq, fun _ => metered.state_eq, ?_⟩
    rw [metered.state_eq, sub_self]
    split
    · exact sub_nonneg.mpr (Int.ofNat_le.mpr metered.refund_le)
    · exact le_refl 0
  · rw [run]
    refine ⟨by simp, nofun, ?_⟩
    simp only [item?, Option.some.injEq, AccessList.Item.slot.injEq, state_setState,
      state_warmSlot, refund_setState]
    by_cases same : (contract.address, x) = s
    · subst same
      have potential := sstoreRefund_potential sched.clearingRefund
        (db.committedState (contract.address, x)) (db.state (contract.address, x)) y
      simp only [Function.update_same, if_true]
      omega
    · rw [Function.update_noteq (Ne.symm same), if_neg same, sub_self]

end Access

/-- Over any run, the refund movements of the accesses to a slot cover the
growth of the clearing refund it holds outstanding. -/
theorem cleared_sub_le_slotRefund (sched : Schedule) (s : Slot) (accesses : List Access)
    (db : StateDB) :
    (clearedRefund sched.clearingRefund (db.committedState s)
        ((runTx sched accesses db).2.state s) : Int) -
      clearedRefund sched.clearingRefund (db.committedState s) (db.state s) ≤
      slotRefund sched s accesses db := by
  induction accesses generalizing db with
  | nil => simp [slotRefund]
  | cons access rest ih =>
    obtain ⟨committed, errorState, step⟩ := access.cleared_step sched db s
    rw [runTx, slotRefund]
    revert committed errorState step
    rcases access.run sched db with ⟨_ | gas, db'⟩ <;> dsimp only <;> intro committed errorState step
    · rw [errorState ⟨_, rfl⟩, sub_self]
    · have tail := ih db'
      rw [committed] at tail
      revert tail
      rcases runTx sched rest db' with ⟨_ | gases, db''⟩ <;> intro tail <;>
        dsimp only at tail ⊢ <;> linarith

/-- The SSTORE refund reversal never drives the refund counter below zero:
from the start of a transaction, under any interleaving of accesses (SSTOREs
to any slots with any values, SELFDESTRUCTs and other refund additions, the
other gas functions), the run never stops at `SubRefund`'s panic, and the net
refund each slot has contributed is nonnegative and covers the clearing refund
it holds outstanding, which is all a later write to it can take back. -/
theorem sstore_refund_never_below_zero (sched : Schedule) (accesses : List Access)
    (db : StateDB) (unwritten : db.state = db.committedState) :
    (runTx sched accesses db).1 ≠ .error .refundBelowZero ∧
      ∀ s, 0 ≤ slotRefund sched s accesses db ∧
        (clearedRefund sched.clearingRefund (db.committedState s)
          ((runTx sched accesses db).2.state s) : Int) ≤ slotRefund sched s accesses db := by
  refine ⟨(runTx_refundCovered sched accesses (.of_unwritten unwritten)).1, fun s => ?_⟩
  have covers := cleared_sub_le_slotRefund sched s accesses db
  rw [unwritten, clearedRefund_self, Nat.cast_zero, sub_zero] at covers
  exact ⟨(Int.natCast_nonneg _).trans covers, covers⟩

theorem sstore_refund_never_below_zero_clear_recreate :
    (StateDB.start (AccessList.empty.addAddress 0) (fun _ => 1) (fun _ => 0)
        (fun _ => false)).state =
      (StateDB.start (AccessList.empty.addAddress 0) (fun _ => 1) (fun _ => 0)
        (fun _ => false)).committedState ∧
    (runTx ⟨SstoreClearsScheduleRefundEIP3529, true, fun _ m _ => some (0, m),
          fun _ _ c _ m _ => (some 0, c, m)⟩
        [.sstore ⟨0, 3000⟩ ⟨[0, 0]⟩, .sstore ⟨0, 3000⟩ ⟨[0, 2]⟩, .addRefund 5,
          .sstore ⟨0, 3000⟩ ⟨[0, 0]⟩]
        (StateDB.start (AccessList.empty.addAddress 0) (fun _ => 1) (fun _ => 0)
          (fun _ => false))).1 ≠ .error .refundBelowZero ∧
      ∀ s, 0 ≤ slotRefund ⟨SstoreClearsScheduleRefundEIP3529, true, fun _ m _ => some (0, m),
            fun _ _ c _ m _ => (some 0, c, m)⟩ s
          [.sstore ⟨0, 3000⟩ ⟨[0, 0]⟩, .sstore ⟨0, 3000⟩ ⟨[0, 2]⟩, .addRefund 5,
            .sstore ⟨0, 3000⟩ ⟨[0, 0]⟩]
          (StateDB.start (AccessList.empty.addAddress 0) (fun _ => 1) (fun _ => 0)
            (fun _ => false)) ∧
        (clearedRefund SstoreClearsScheduleRefundEIP3529 1
          ((runTx ⟨SstoreClearsScheduleRefundEIP3529, true, fun _ m _ => some (0, m),
              fun _ _ c _ m _ => (some 0, c, m)⟩
            [.sstore ⟨0, 3000⟩ ⟨[0, 0]⟩, .sstore ⟨0, 3000⟩ ⟨[0, 2]⟩, .addRefund 5,
              .sstore ⟨0, 3000⟩ ⟨[0, 0]⟩]
            (StateDB.start (AccessList.empty.addAddress 0) (fun _ => 1) (fun _ => 0)
              (fun _ => false))).2.state s) : Int) ≤
          slotRefund ⟨SstoreClearsScheduleRefundEIP3529, true, fun _ m _ => some (0, m),
              fun _ _ c _ m _ => (some 0, c, m)⟩ s
            [.sstore ⟨0, 3000⟩ ⟨[0, 0]⟩, .sstore ⟨0, 3000⟩ ⟨[0, 2]⟩, .addRefund 5,
              .sstore ⟨0, 3000⟩ ⟨[0, 0]⟩]
            (StateDB.start (AccessList.empty.addAddress 0) (fun _ => 1) (fun _ => 0)
              (fun _ => false)) :=
  ⟨rfl, sstore_refund_never_below_zero _ _ _ rfl⟩

end CosmEvm
