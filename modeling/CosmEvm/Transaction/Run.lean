import CosmEvm.Gas.Eip2929

/-!
# Metered accesses within one transaction

A transaction's access-list ledger, refund counter and storage are shared by
every call frame it opens; the stacks, memories and contracts are per frame.
`Access` is one invocation of a state-touching gas function together with the
frame it runs in, and `Access.run` is that invocation followed, for SSTORE and
SELFDESTRUCT, by the writes the execution function performs.  Any interleaving of frames is a
list of accesses, and `runTx` runs such a list, stopping at the first error.

`Schedule` fixes what the jump table of the chain installs: the clearing
refund of its SSTORE function, whether SELFDESTRUCT refunds, and go-ethereum's
pre-EIP-2929 calculators that the wrappers call.
-/

namespace CosmEvm

/-- The four CALL variants. -/
inductive CallVariant where
  | call
  | callCode
  | delegateCall
  | staticCall
  deriving DecidableEq, Repr

/-- The gas functions a protocol version installs for the state-touching opcodes. -/
structure Schedule where
  clearingRefund : Nat
  refundsEnabled : Bool
  gasExtCodeCopy : ExtCodeCopyGas
  oldCalculator : CallVariant → OldCalculator

/-- One invocation of a state-touching gas function, with its frame. -/
inductive Access where
  | sload (contract : Contract) (stack : Stack)
  | sstore (contract : Contract) (stack : Stack)
  | accountCheck (stack : Stack)
  | extCodeCopy (stack : Stack) (mem : Memory) (memorySize : Nat)
  | call (variant : CallVariant) (contract : Contract) (stack : Stack) (mem : Memory)
      (memorySize : Nat)
  | selfdestruct (contract : Contract) (stack : Stack)
  | addRefund (gas : Nat)

/-- `opSstore`'s write, after its gas was charged: the value below the key. -/
def sstoreWrite (contract : Contract) (stack : Stack) (db : StateDB) : Except VmError StateDB :=
  match stack.data with
  | loc :: val :: _ => .ok (db.setState contract.address loc val)
  | _ => .error .stackUnderflow

/-- `opSuicide`'s execution, after its gas was charged: the beneficiary is
the word on top of the stack. -/
def selfdestructWrite (contract : Contract) (stack : Stack) (db : StateDB) :
    Except VmError StateDB :=
  match stack.data with
  | w :: _ => .ok (db.selfDestruct contract.address w.toAddress)
  | [] => .error .stackUnderflow

namespace Access

variable (sched : Schedule)

/-- Run one access against the transaction's state database; the charge is the
dynamic gas the function returned. -/
def run : Access → StateDB → Except VmError Nat × StateDB
  | .sload contract stack, db => gasSLoadEIP2929 contract stack db
  | .sstore contract stack, db =>
    match makeGasSStoreFunc sched.clearingRefund contract stack db with
    | (.ok gas, db) =>
      match sstoreWrite contract stack db with
      | .ok db => (.ok gas, db)
      | .error err => (.error err, db)
    | (.error err, db) => (.error err, db)
  | .accountCheck stack, db => gasEip2929AccountCheck stack db
  | .extCodeCopy stack mem memorySize, db =>
    let result := gasExtCodeCopyEIP2929 sched.gasExtCodeCopy stack mem memorySize db
    (result.1, result.2.1)
  | .call variant contract stack mem memorySize, db =>
    let result :=
      makeCallVariantGasCallEIP2929 (sched.oldCalculator variant) contract stack mem memorySize db
    (result.1, result.2.1)
  | .selfdestruct contract stack, db =>
    match makeSelfdestructGasFn sched.refundsEnabled contract stack db with
    | (.ok gas, db) =>
      match selfdestructWrite contract stack db with
      | .ok db => (.ok gas, db)
      | .error err => (.error err, db)
    | (.error err, db) => (.error err, db)
  | .addRefund gas, db => (.ok 0, db.addRefund gas)

/-- The item an access looks up in the access list: the slot of an SLOAD or
SSTORE (its contract's address and the key on top of the stack), the address
operand of the others. -/
def item? : Access → Option AccessList.Item
  | .sload contract ⟨k :: _⟩ | .sstore contract ⟨k :: _⟩ => some (.slot (contract.address, k))
  | .accountCheck ⟨w :: _⟩ | .extCodeCopy ⟨w :: _⟩ _ _ | .selfdestruct _ ⟨w :: _⟩ =>
    some (.address w.toAddress)
  | .call _ _ ⟨_ :: w :: _⟩ _ _ => some (.address w.toAddress)
  | _ => none

/-- SSTORE past its sentry on a warm address, with the refund counter
covering what the write takes back: the cold surcharge if the slot was cold,
the classified cost, the slot warm, the refund counter moved by the
classification, and the value written. -/
theorem run_sstore {contract : Contract} {x y : Word} {rest : List Word} {db : StateDB}
    (sentry : SstoreSentryGasEIP2200 < contract.gas)
    (warm : db.accessList.addresses contract.address = true)
    (covered : sstoreRefundSub sched.clearingRefund (db.committedState (contract.address, x))
      (db.state (contract.address, x)) y ≤ db.refund) :
    (Access.sstore contract ⟨x :: y :: rest⟩).run sched db =
      (.ok ((if db.accessList.slots (contract.address, x) then 0 else ColdSloadCostEIP2929) +
          sstoreCost (db.committedState (contract.address, x)) (db.state (contract.address, x)) y),
        ({ db.warmSlot contract.address x with
          refund := db.refund -
            sstoreRefundSub sched.clearingRefund (db.committedState (contract.address, x))
              (db.state (contract.address, x)) y +
            sstoreRefundAdd sched.clearingRefund (db.committedState (contract.address, x))
              (db.state (contract.address, x)) y }).setState contract.address x y) := by
  have warmRefund : (db.warmSlot contract.address x).refund = db.refund := by
    unfold StateDB.warmSlot
    split <;> rfl
  simp only [run, makeGasSStoreFunc_cons sched.clearingRefund contract x y rest db sentry
    (.inl warm), warmRefund, Nat.not_lt.mpr covered, if_false, sstoreWrite]
  rfl

/-- SELFDESTRUCT with a beneficiary on the stack: the gas function's charge,
then `opSuicide`'s writes on the state it left. -/
theorem run_selfdestruct (contract : Contract) (w : Word) (rest : List Word) (db : StateDB) :
    (Access.selfdestruct contract ⟨w :: rest⟩).run sched db =
      ((makeSelfdestructGasFn sched.refundsEnabled contract ⟨w :: rest⟩ db).1,
        (makeSelfdestructGasFn sched.refundsEnabled contract ⟨w :: rest⟩ db).2.selfDestruct
          contract.address w.toAddress) := by
  rw [run, makeSelfdestructGasFn_cons]
  rfl

open StateDB AccessList

/-- The access list after an access: as it was, or with the access's own item
added; on success the item is warm. -/
theorem accessList_run (access : Access) (db : StateDB) :
    ((access.run sched db).2.accessList = db.accessList ∨
      ∃ i, access.item? = some i ∧ (access.run sched db).2.accessList = db.accessList.add i) ∧
    ∀ g i, (access.run sched db).1 = .ok g → access.item? = some i →
      (access.run sched db).2.accessList.warm i = true := by
  cases access with
  | sload contract stack =>
    rcases stack with ⟨_ | ⟨k, rest⟩⟩
    · exact ⟨.inl rfl, nofun⟩
    · rw [run, gasSLoadEIP2929_cons]
      split
      · exact ⟨.inl rfl, by rintro _ _ _ ⟨⟩; assumption⟩
      · exact ⟨.inr ⟨_, rfl, rfl⟩, by
          rintro _ _ _ ⟨⟩; exact warm_add_self db.accessList (.slot (contract.address, k))⟩
  | sstore contract stack =>
    rcases makeGasSStoreFunc_cases sched.clearingRefund contract stack db with
      ⟨err, -, gas⟩ | ⟨x, y, rest, rfl, ⟨err, gas, -⟩ | ⟨-, -, -, gas⟩⟩
    · rw [run, gas]
      exact ⟨.inl rfl, nofun⟩
    · rw [run, gas]
      exact ⟨(db.accessList_warmSlot _ _).imp_right fun h => ⟨_, rfl, h⟩, nofun⟩
    · rw [run, gas]
      exact ⟨(db.accessList_warmSlot _ _).imp_right fun h => ⟨_, rfl, h⟩,
        by rintro _ _ _ ⟨⟩; exact db.slots_warmSlot _ _⟩
  | accountCheck stack =>
    rcases stack with ⟨_ | ⟨w, rest⟩⟩
    · exact ⟨.inl rfl, nofun⟩
    · rw [run, gasEip2929AccountCheck_cons]
      split
      · exact ⟨.inl rfl, by rintro _ _ _ ⟨⟩; assumption⟩
      · exact ⟨.inr ⟨_, rfl, rfl⟩, by
          rintro _ _ _ ⟨⟩; exact warm_add_self db.accessList (.address w.toAddress)⟩
  | extCodeCopy stack mem memorySize =>
    rcases stack with ⟨_ | ⟨w, rest⟩⟩
    · exact ⟨.inl (by rw [run]; unfold gasExtCodeCopyEIP2929; split <;> rfl), nofun⟩
    · rw [run, gasExtCodeCopyEIP2929_cons]
      split
      · exact ⟨.inl rfl, nofun⟩
      · split
        · exact ⟨.inl rfl, by rintro _ _ _ ⟨⟩; assumption⟩
        · split
          · exact ⟨.inr ⟨_, rfl, rfl⟩, nofun⟩
          · exact ⟨.inr ⟨_, rfl, rfl⟩, by
              rintro _ _ _ ⟨⟩; exact warm_add_self db.accessList (.address w.toAddress)⟩
  | call variant contract stack mem memorySize =>
    rcases stack with ⟨_ | ⟨w₀, _ | ⟨w, rest⟩⟩⟩
    · exact ⟨.inl rfl, nofun⟩
    · exact ⟨.inl rfl, nofun⟩
    · rw [run, makeCallVariantGasCallEIP2929_cons]
      dsimp only
      split
      · split
        · exact ⟨.inl rfl, nofun⟩
        · exact ⟨.inl rfl, by rintro _ _ _ ⟨⟩; assumption⟩
      · split
        · exact ⟨.inr ⟨_, rfl, rfl⟩, nofun⟩
        · split
          · exact ⟨.inr ⟨_, rfl, rfl⟩, nofun⟩
          · exact ⟨.inr ⟨_, rfl, rfl⟩, by
              rintro _ _ _ ⟨⟩; exact warm_add_self db.accessList (.address w.toAddress)⟩
  | selfdestruct contract stack =>
    rcases stack with ⟨_ | ⟨w, rest⟩⟩
    · exact ⟨.inl rfl, nofun⟩
    · have refundKeepsList : ∀ (refunds : Bool) (d : StateDB),
          (if refunds then d.addRefund SelfdestructRefundGas else d).accessList = d.accessList := by
        intro refunds d
        split <;> rfl
      rw [run_selfdestruct, makeSelfdestructGasFn_cons]
      dsimp only
      rw [accessList_selfDestruct, refundKeepsList]
      split
      · exact ⟨.inl rfl, by rintro _ _ _ ⟨⟩; assumption⟩
      · exact ⟨.inr ⟨_, rfl, rfl⟩, by
          rintro _ _ _ ⟨⟩; exact warm_add_self db.accessList (.address w.toAddress)⟩
  | addRefund gas => exact ⟨.inl rfl, nofun⟩

/-- The contract whose destruction an access marks: a SELFDESTRUCT's own, when
its stack holds the beneficiary. -/
def marks? : Access → Option Addr
  | .selfdestruct contract ⟨_ :: _⟩ => some contract.address
  | _ => none

/-- An access marks no contract destroyed but the one `marks?` names. -/
theorem hasSuicided_run (access : Access) (db : StateDB) :
    (access.run sched db).2.hasSuicided =
      access.marks?.elim db.hasSuicided fun a => Function.update db.hasSuicided a true := by
  cases access with
  | sload contract stack =>
    rcases stack with ⟨_ | ⟨k, rest⟩⟩
    · rfl
    · rw [run, gasSLoadEIP2929_cons]
      split <;> rfl
  | sstore contract stack =>
    rcases makeGasSStoreFunc_cases sched.clearingRefund contract stack db with
      ⟨err, -, gas⟩ | ⟨x, y, rest, rfl, ⟨err, gas, -⟩ | ⟨-, -, -, gas⟩⟩ <;> rw [run, gas]
    · rfl
    · exact db.hasSuicided_warmSlot _ _
    · exact db.hasSuicided_warmSlot _ _
  | accountCheck stack =>
    rcases stack with ⟨_ | ⟨w, rest⟩⟩
    · rfl
    · rw [run, gasEip2929AccountCheck_cons]
      split <;> rfl
  | extCodeCopy stack mem memorySize =>
    rcases stack with ⟨_ | ⟨w, rest⟩⟩
    · rw [run]
      unfold gasExtCodeCopyEIP2929
      split <;> rfl
    · rw [run, gasExtCodeCopyEIP2929_cons]
      split
      · rfl
      · split
        · rfl
        · split <;> rfl
  | call variant contract stack mem memorySize =>
    rcases stack with ⟨_ | ⟨w₀, _ | ⟨w, rest⟩⟩⟩
    · rfl
    · rfl
    · rw [run, makeCallVariantGasCallEIP2929_cons]
      dsimp only
      split
      · split <;> rfl
      · split
        · rfl
        · split <;> rfl
  | selfdestruct contract stack =>
    rcases stack with ⟨_ | ⟨w, rest⟩⟩
    · rfl
    · rw [run_selfdestruct, makeSelfdestructGasFn_cons]
      dsimp only
      rw [hasSuicided_selfDestruct]
      split <;> split <;> rfl
  | addRefund gas => rfl

/-- SELFDESTRUCT adds its refund to the counter when refunds are enabled and
its contract is not yet marked destroyed. -/
theorem refund_run_selfdestruct (contract : Contract) (w : Word) (rest : List Word)
    (db : StateDB) :
    ((Access.selfdestruct contract ⟨w :: rest⟩).run sched db).2.refund = db.refund +
      if sched.refundsEnabled && !db.hasSuicided contract.address then SelfdestructRefundGas
      else 0 := by
  rw [run_selfdestruct, makeSelfdestructGasFn_cons]
  dsimp only
  rw [refund_selfDestruct]
  split_ifs <;> rfl

/-- Everything one access can do to storage and the refund counter: meter
without writing storage and without the refund error; stop at an SSTORE's
refund error, which needs a counter below what the write takes back; or
perform an SSTORE past its sentry on a warm address. -/
theorem run_cases (access : Access) (db : StateDB) :
    (Metered db (access.run sched db).2 ∧ (access.run sched db).1 ≠ .error .refundBelowZero) ∨
    (∃ contract x y rest, access = .sstore contract ⟨x :: y :: rest⟩ ∧
      Metered db (access.run sched db).2 ∧
      db.refund < sstoreRefundSub sched.clearingRefund (db.committedState (contract.address, x))
        (db.state (contract.address, x)) y) ∨
    ∃ contract x y rest, access = .sstore contract ⟨x :: y :: rest⟩ ∧
      SstoreSentryGasEIP2200 < contract.gas ∧ db.accessList.addresses contract.address = true ∧
      sstoreRefundSub sched.clearingRefund (db.committedState (contract.address, x))
        (db.state (contract.address, x)) y ≤ db.refund ∧
      access.run sched db =
        (.ok ((if db.accessList.slots (contract.address, x) then 0 else ColdSloadCostEIP2929) +
            sstoreCost (db.committedState (contract.address, x)) (db.state (contract.address, x)) y),
          ({ db.warmSlot contract.address x with
            refund := db.refund - sstoreRefundSub sched.clearingRefund
                (db.committedState (contract.address, x)) (db.state (contract.address, x)) y +
              sstoreRefundAdd sched.clearingRefund (db.committedState (contract.address, x))
                (db.state (contract.address, x)) y }).setState contract.address x y) := by
  cases access with
  | sload contract stack =>
    refine .inl ?_
    rcases stack with ⟨_ | ⟨k, rest⟩⟩
    · exact ⟨.refl _, nofun⟩
    · rw [run, gasSLoadEIP2929_cons]
      split <;> simp
  | sstore contract stack =>
    rcases makeGasSStoreFunc_cases sched.clearingRefund contract stack db with
      ⟨err, notRefund, gas⟩ | ⟨x, y, rest, rfl, ⟨err, gas, short⟩ | ⟨sentry, warm, covered, gas⟩⟩
    · rw [run, gas]
      exact .inl ⟨.refl _, fun h => notRefund (Except.error.inj h)⟩
    · rw [run, gas]
      by_cases refundError : err = .refundBelowZero
      · exact .inr (.inl ⟨contract, x, y, rest, rfl, metered_warmSlot .., short refundError⟩)
      · exact .inl ⟨metered_warmSlot .., fun h => refundError (Except.error.inj h)⟩
    · rw [run, gas]
      exact .inr (.inr ⟨contract, x, y, rest, rfl, sentry, warm, covered, rfl⟩)
  | accountCheck stack =>
    refine .inl ?_
    rcases stack with ⟨_ | ⟨w, rest⟩⟩
    · exact ⟨.refl _, nofun⟩
    · rw [run, gasEip2929AccountCheck_cons]
      split <;> simp
  | extCodeCopy stack mem memorySize =>
    refine .inl ?_
    rcases stack with ⟨_ | ⟨w, rest⟩⟩
    · rw [run]
      unfold gasExtCodeCopyEIP2929
      split
      · exact ⟨.refl _, nofun⟩
      · exact ⟨.refl _, nofun⟩
    · rw [run, gasExtCodeCopyEIP2929_cons]
      split
      · exact ⟨.refl _, nofun⟩
      · split
        · simp
        · split <;> simp
  | call variant contract stack mem memorySize =>
    refine .inl ?_
    rcases stack with ⟨_ | ⟨w₀, _ | ⟨w, rest⟩⟩⟩
    · exact ⟨.refl _, nofun⟩
    · exact ⟨.refl _, nofun⟩
    · rw [run, makeCallVariantGasCallEIP2929_cons]
      dsimp only
      split
      · split <;> simp
      · split
        · simp
        · split <;> simp
  | selfdestruct contract stack =>
    refine .inl ?_
    rcases stack with ⟨_ | ⟨w, rest⟩⟩
    · exact ⟨.refl _, nofun⟩
    · rw [run_selfdestruct, makeSelfdestructGasFn_cons]
      dsimp only
      refine ⟨Metered.trans ?_ (metered_selfDestruct _ _ _), nofun⟩
      have warmed : Metered db (if db.accessList.addresses w.toAddress = true then db
          else db.addAddressToAccessList w.toAddress) := by
        split <;> simp
      split
      · exact warmed.trans (metered_addRefund _ _)
      · exact warmed
  | addRefund gas => exact .inl ⟨metered_addRefund _ _, nofun⟩

end Access

/-- Run the accesses of a transaction in order, stopping at the first error. -/
def runTx (sched : Schedule) : List Access → StateDB → Except VmError (List Nat) × StateDB
  | [], db => (.ok [], db)
  | access :: rest, db =>
    match access.run sched db with
    | (.error err, db) => (.error err, db)
    | (.ok gas, db) =>
      match runTx sched rest db with
      | (.error err, db) => (.error err, db)
      | (.ok gases, db) => (.ok (gas :: gases), db)

@[simp]
theorem runTx_nil (sched : Schedule) (db : StateDB) : runTx sched [] db = (.ok [], db) := rfl

/-- A run splits at any point: the second part runs from where the first
ended, unless the first failed. -/
theorem runTx_append (sched : Schedule) (first second : List Access) (db : StateDB) :
    runTx sched (first ++ second) db =
      match runTx sched first db with
      | (.error err, db) => (.error err, db)
      | (.ok gases, db) =>
        match runTx sched second db with
        | (.error err, db) => (.error err, db)
        | (.ok gases', db) => (.ok (gases ++ gases'), db) := by
  induction first generalizing db with
  | nil =>
    rw [List.nil_append, runTx_nil]
    dsimp only
    rcases runTx sched second db with ⟨_ | gases', db'⟩ <;> rfl
  | cons access rest ih =>
    rw [List.cons_append, runTx, runTx]
    rcases access.run sched db with ⟨_ | gas, db₁⟩
    · rfl
    · dsimp only
      rw [ih]
      rcases runTx sched rest db₁ with ⟨_ | gases, db₂⟩
      · rfl
      · dsimp only
        rcases runTx sched second db₂ with ⟨_ | gases', db₃⟩ <;> rfl

end CosmEvm
