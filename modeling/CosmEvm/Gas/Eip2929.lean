import CosmEvm.Gas.SStore

/-!
# The access-list gas functions (EIP-2929)

SLOAD, the account-check family (BALANCE, EXTCODESIZE, EXTCODEHASH),
EXTCODECOPY, the four CALL variants and SELFDESTRUCT.  Each looks its operand
up in the access list, charges a cold surcharge and marks it warm when it was
not there, and charges only its warm part otherwise.  The pre-EIP-2929
calculators these wrap (`gasExtCodeCopy`, `gasCall` and its siblings) are
go-ethereum's and are parameters: they read the state database but never
write it, and the only error they return is `ErrGasUintOverflow`.  The CALL
wrapper refines the calculator it wraps (`makeCallVariantGasCallEIP2929_refines`).
-/

namespace CosmEvm

/-- go-ethereum's `gasExtCodeCopy`: memory expansion and copy cost, or `none`
for its `ErrGasUintOverflow`. -/
abbrev ExtCodeCopyGas := Stack → Memory → Nat → Option (Nat × Memory)

/-- A pre-EIP-2929 CALL-variant calculator (`gasCall`, `gasCallCode`,
`gasDelegateCall`, `gasStaticCall`): it reads the state database and may
change the contract and memory; `none` is its `ErrGasUintOverflow`. -/
abbrev OldCalculator :=
  StateDB → Contract → Stack → Memory → Nat → Option Nat × Contract × Memory

/-- `gasSLoadEIP2929`. -/
def gasSLoadEIP2929 (contract : Contract) (stack : Stack) (db : StateDB) :
    Except VmError Nat × StateDB :=
  match stack.peek with
  | .error err => (.error err, db)
  | .ok loc =>
    let slot := loc
    if !(db.slotInAccessList contract.address slot).2 then
      (.ok ColdSloadCostEIP2929, db.addSlotToAccessList contract.address slot)
    else (.ok WarmStorageReadCostEIP2929, db)

/-- `gasExtCodeCopyEIP2929`: the copy cost first, then the cold surcharge. -/
def gasExtCodeCopyEIP2929 (gasExtCodeCopy : ExtCodeCopyGas) (stack : Stack) (mem : Memory)
    (memorySize : Nat) (db : StateDB) : Except VmError Nat × StateDB × Memory :=
  match gasExtCodeCopy stack mem memorySize with
  | none => (.error .errGasUintOverflow, db, mem)
  | some (gas, mem) =>
    match stack.peek with
    | .error err => (.error err, db, mem)
    | .ok w =>
      let addr := w.toAddress
      if !db.addressInAccessList addr then
        let db := db.addAddressToAccessList addr
        let (gas, overflow) := safeAdd gas (ColdAccountAccessCostEIP2929 - WarmStorageReadCostEIP2929)
        if overflow then (.error .errGasUintOverflow, db, mem) else (.ok gas, db, mem)
      else (.ok gas, db, mem)

/-- `gasEip2929AccountCheck`: BALANCE, EXTCODESIZE and EXTCODEHASH. -/
def gasEip2929AccountCheck (stack : Stack) (db : StateDB) : Except VmError Nat × StateDB :=
  match stack.peek with
  | .error err => (.error err, db)
  | .ok w =>
    let addr := w.toAddress
    if !db.addressInAccessList addr then
      (.ok (ColdAccountAccessCostEIP2929 - WarmStorageReadCostEIP2929),
        db.addAddressToAccessList addr)
    else (.ok 0, db)

/-- `makeCallVariantGasCallEIP2929(oldCalculator)`: on a cold callee the
surcharge is taken from the contract's gas before the old calculator runs,
then given back and added to the charge. -/
def makeCallVariantGasCallEIP2929 (oldCalculator : OldCalculator) (contract : Contract)
    (stack : Stack) (mem : Memory) (memorySize : Nat) (db : StateDB) :
    Except VmError Nat × StateDB × Contract × Memory :=
  match stack.back 1 with
  | .error err => (.error err, db, contract, mem)
  | .ok w =>
    let addr := w.toAddress
    let warmAccess := db.addressInAccessList addr
    let coldCost := ColdAccountAccessCostEIP2929 - WarmStorageReadCostEIP2929
    let db := if !warmAccess then db.addAddressToAccessList addr else db
    match (if !warmAccess then contract.useGas coldCost else some contract) with
    | none => (.error .errOutOfGas, db, contract, mem)
    | some contract =>
      match oldCalculator db contract stack mem memorySize with
      | (none, contract, mem) => (.error .errGasUintOverflow, db, contract, mem)
      | (some gas, contract, mem) =>
        if warmAccess then (.ok gas, db, contract, mem)
        else
          (.ok ((gas + coldCost) % 2 ^ 64), db,
            { contract with gas := (contract.gas + coldCost) % 2 ^ 64 }, mem)

/-- `makeSelfdestructGasFn(refundsEnabled)`. -/
def makeSelfdestructGasFn (refundsEnabled : Bool) (contract : Contract) (stack : Stack)
    (db : StateDB) : Except VmError Nat × StateDB :=
  match stack.peek with
  | .error err => (.error err, db)
  | .ok w =>
    let address := w.toAddress
    let (gas, db) :=
      if !db.addressInAccessList address then
        (ColdAccountAccessCostEIP2929, db.addAddressToAccessList address)
      else (0, db)
    let gas := if db.empty address && db.balance contract.address ≠ 0 then
      gas + CreateBySelfdestructGas else gas
    let db := if refundsEnabled && !db.hasSuicided contract.address then
      db.addRefund SelfdestructRefundGas else db
    (.ok gas, db)

/-- `gasSelfdestructEIP2929`. -/
def gasSelfdestructEIP2929 : Contract → Stack → StateDB → Except VmError Nat × StateDB :=
  makeSelfdestructGasFn true

/-- `gasSelfdestructEIP3529`: no refund. -/
def gasSelfdestructEIP3529 : Contract → Stack → StateDB → Except VmError Nat × StateDB :=
  makeSelfdestructGasFn false

/-! ## Spec lemmas

On a stack holding the operand, each function is its warm branch or its cold
branch, chosen by the access list. -/

theorem gasSLoadEIP2929_cons (contract : Contract) (k : Word) (rest : List Word) (db : StateDB) :
    gasSLoadEIP2929 contract ⟨k :: rest⟩ db =
      if db.accessList.slots (contract.address, k) then (.ok WarmStorageReadCostEIP2929, db)
      else (.ok ColdSloadCostEIP2929, db.addSlotToAccessList contract.address k) := by
  cases h : db.accessList.slots (contract.address, k) <;>
    simp [gasSLoadEIP2929, StateDB.slotInAccessList, h]

theorem gasEip2929AccountCheck_cons (w : Word) (rest : List Word) (db : StateDB) :
    gasEip2929AccountCheck ⟨w :: rest⟩ db =
      if db.accessList.addresses w.toAddress then (.ok 0, db)
      else (.ok (ColdAccountAccessCostEIP2929 - WarmStorageReadCostEIP2929),
        db.addAddressToAccessList w.toAddress) := by
  cases h : db.accessList.addresses w.toAddress <;>
    simp [gasEip2929AccountCheck, StateDB.addressInAccessList, h]

theorem gasExtCodeCopyEIP2929_cons (gasExtCodeCopy : ExtCodeCopyGas) (w : Word) (rest : List Word)
    (mem : Memory) (memorySize : Nat) (db : StateDB) :
    gasExtCodeCopyEIP2929 gasExtCodeCopy ⟨w :: rest⟩ mem memorySize db =
      match gasExtCodeCopy ⟨w :: rest⟩ mem memorySize with
      | none => (.error .errGasUintOverflow, db, mem)
      | some (gas, mem) =>
        if db.accessList.addresses w.toAddress then (.ok gas, db, mem)
        else if 2 ^ 64 ≤ gas + (ColdAccountAccessCostEIP2929 - WarmStorageReadCostEIP2929) then
          (.error .errGasUintOverflow, db.addAddressToAccessList w.toAddress, mem)
        else (.ok (gas + (ColdAccountAccessCostEIP2929 - WarmStorageReadCostEIP2929)),
          db.addAddressToAccessList w.toAddress, mem) := by
  unfold gasExtCodeCopyEIP2929
  split
  · rfl
  · rw [Stack.peek_cons]
    dsimp only [StateDB.addressInAccessList, safeAdd]
    cases db.accessList.addresses w.toAddress
    · simp only [Bool.not_false, ↓reduceIte, decide_eq_true_eq, Bool.false_eq_true]
      split_ifs with overflow
      · rfl
      · rw [Nat.mod_eq_of_lt (Nat.lt_of_not_le overflow)]
    · rfl

theorem makeCallVariantGasCallEIP2929_cons (oldCalculator : OldCalculator) (contract : Contract)
    (w₀ w : Word) (rest : List Word) (mem : Memory) (memorySize : Nat) (db : StateDB) :
    makeCallVariantGasCallEIP2929 oldCalculator contract ⟨w₀ :: w :: rest⟩ mem memorySize db =
      if db.accessList.addresses w.toAddress then
        match oldCalculator db contract ⟨w₀ :: w :: rest⟩ mem memorySize with
        | (none, contract, mem) => (.error .errGasUintOverflow, db, contract, mem)
        | (some gas, contract, mem) => (.ok gas, db, contract, mem)
      else
        let db := db.addAddressToAccessList w.toAddress
        let coldCost := ColdAccountAccessCostEIP2929 - WarmStorageReadCostEIP2929
        match contract.useGas coldCost with
        | none => (.error .errOutOfGas, db, contract, mem)
        | some contract =>
          match oldCalculator db contract ⟨w₀ :: w :: rest⟩ mem memorySize with
          | (none, contract, mem) => (.error .errGasUintOverflow, db, contract, mem)
          | (some gas, contract, mem) =>
            (.ok ((gas + coldCost) % 2 ^ 64), db,
              { contract with gas := (contract.gas + coldCost) % 2 ^ 64 }, mem) := by
  rw [makeCallVariantGasCallEIP2929, Stack.back_cons_succ, Stack.back_cons_zero]
  dsimp only [StateDB.addressInAccessList]
  cases db.accessList.addresses w.toAddress <;> rfl

theorem makeSelfdestructGasFn_cons (refundsEnabled : Bool) (contract : Contract) (w : Word)
    (rest : List Word) (db : StateDB) :
    makeSelfdestructGasFn refundsEnabled contract ⟨w :: rest⟩ db =
      let cold := if db.accessList.addresses w.toAddress then 0 else ColdAccountAccessCostEIP2929
      let warmed := if db.accessList.addresses w.toAddress then db
        else db.addAddressToAccessList w.toAddress
      (.ok (if db.empty w.toAddress && db.balance contract.address ≠ 0 then
          cold + CreateBySelfdestructGas else cold),
        if refundsEnabled && !db.hasSuicided contract.address then
          warmed.addRefund SelfdestructRefundGas else warmed) := by
  rw [makeSelfdestructGasFn, Stack.peek_cons]
  dsimp only [StateDB.addressInAccessList]
  cases db.accessList.addresses w.toAddress <;> rfl

/-! ## The CALL-variant wrapper refines the old calculator -/

/-- `makeCallVariantGasCallEIP2929(old)` against `old`, for a calculator that
leaves `contract.Gas` alone and whose charge has room for the surcharge, on a
contract whose gas is a `uint64`.  On a warm callee the wrapper returns what
`old` returns and leaves the state database alone.  On a cold one it warms
the callee; if the contract cannot pay the surcharge it runs out of gas, and
otherwise it runs `old` on the reduced budget and, when `old` succeeds, adds
the surcharge to the charge and gives it back to the contract. -/
theorem makeCallVariantGasCallEIP2929_refines (oldCalculator : OldCalculator)
    (keepsGas : ∀ db contract stack mem memorySize,
      (oldCalculator db contract stack mem memorySize).2.1.gas = contract.gas)
    (fits : ∀ db contract stack mem memorySize gas,
      (oldCalculator db contract stack mem memorySize).1 = some gas →
        gas + (ColdAccountAccessCostEIP2929 - WarmStorageReadCostEIP2929) < 2 ^ 64)
    (contract : Contract) (gasWord : contract.gas < 2 ^ 64) (w₀ w : Word) (rest : List Word)
    (mem : Memory) (memorySize : Nat) (db : StateDB) :
    let stack : Stack := ⟨w₀ :: w :: rest⟩
    let coldCost := ColdAccountAccessCostEIP2929 - WarmStorageReadCostEIP2929
    let result := makeCallVariantGasCallEIP2929 oldCalculator contract stack mem memorySize db
    (db.accessList.addresses w.toAddress = true →
      let old := oldCalculator db contract stack mem memorySize
      (old.1 = none → result = (.error .errGasUintOverflow, db, old.2)) ∧
      ∀ gas, old.1 = some gas → result = (.ok gas, db, old.2)) ∧
    (db.accessList.addresses w.toAddress = false → contract.gas < coldCost →
      result = (.error .errOutOfGas, db.addAddressToAccessList w.toAddress, contract, mem)) ∧
    (db.accessList.addresses w.toAddress = false → coldCost ≤ contract.gas →
      let warmed := db.addAddressToAccessList w.toAddress
      let old := oldCalculator warmed { contract with gas := contract.gas - coldCost } stack mem
        memorySize
      (old.1 = none → result = (.error .errGasUintOverflow, warmed, old.2)) ∧
      ∀ gas, old.1 = some gas →
        result =
          (.ok (gas + coldCost), warmed, { old.2.1 with gas := contract.gas }, old.2.2)) := by
  dsimp only
  have spec :=
    makeCallVariantGasCallEIP2929_cons oldCalculator contract w₀ w rest mem memorySize db
  refine ⟨fun warm => ?_, fun cold short => ?_, fun cold enough => ?_⟩
  · rw [spec, if_pos warm]
    split <;> rename_i hold <;> simp [hold]
  · rw [if_neg (by simp [cold])] at spec
    dsimp only at spec
    rw [Contract.useGas, if_pos short] at spec
    exact spec
  · rw [if_neg (by simp [cold])] at spec
    dsimp only at spec
    rw [Contract.useGas, if_neg (Nat.not_lt.mpr enough)] at spec
    rw [spec]
    dsimp only
    split
    · next hold => simp [hold]
    · next gas c m hold =>
      have restored : c.gas = _ :=
        (congrArg (fun r => r.2.1.gas) hold).symm.trans (keepsGas _ _ _ _ _)
      have room := fits _ _ _ _ _ gas (congrArg Prod.fst hold)
      simp only [hold, Option.some.injEq, reduceCtorEq, false_implies, true_and]
      rintro _ rfl
      rw [Nat.mod_eq_of_lt room, restored, Nat.sub_add_cancel enough, Nat.mod_eq_of_lt gasWord]

theorem makeCallVariantGasCallEIP2929_refines_cold_call :
    (∀ db contract stack mem memorySize,
      ((fun _ c _ m _ => (some 40, c, m) : OldCalculator) db contract stack mem
        memorySize).2.1.gas = contract.gas) ∧
    (∀ db contract stack mem memorySize gas,
      ((fun _ c _ m _ => (some 40, c, m) : OldCalculator) db contract stack mem memorySize).1 =
          some gas →
        gas + (ColdAccountAccessCostEIP2929 - WarmStorageReadCostEIP2929) < 2 ^ 64) ∧
    (⟨0, 3000⟩ : Contract).gas < 2 ^ 64 ∧
    let stack : Stack := ⟨[0, 5]⟩
    let db := StateDB.start AccessList.empty (fun _ => 0) (fun _ => 0) (fun _ => false)
    let coldCost := ColdAccountAccessCostEIP2929 - WarmStorageReadCostEIP2929
    let result := makeCallVariantGasCallEIP2929 (fun _ c _ m _ => (some 40, c, m)) ⟨0, 3000⟩ stack
      Memory.newMemory 0 db
    (db.accessList.addresses (5 : Word).toAddress = true →
      let old := (fun _ c _ m _ => (some 40, c, m) : OldCalculator) db ⟨0, 3000⟩ stack
        Memory.newMemory 0
      (old.1 = none → result = (.error .errGasUintOverflow, db, old.2)) ∧
      ∀ gas, old.1 = some gas → result = (.ok gas, db, old.2)) ∧
    (db.accessList.addresses (5 : Word).toAddress = false → (⟨0, 3000⟩ : Contract).gas < coldCost →
      result = (.error .errOutOfGas, db.addAddressToAccessList (5 : Word).toAddress, ⟨0, 3000⟩,
        Memory.newMemory)) ∧
    (db.accessList.addresses (5 : Word).toAddress = false → coldCost ≤ (⟨0, 3000⟩ : Contract).gas →
      let warmed := db.addAddressToAccessList (5 : Word).toAddress
      let old := (fun _ c _ m _ => (some 40, c, m) : OldCalculator) warmed
        { (⟨0, 3000⟩ : Contract) with gas := (⟨0, 3000⟩ : Contract).gas - coldCost } stack
        Memory.newMemory 0
      (old.1 = none → result = (.error .errGasUintOverflow, warmed, old.2)) ∧
      ∀ gas, old.1 = some gas →
        result = (.ok (gas + coldCost), warmed,
          { old.2.1 with gas := (⟨0, 3000⟩ : Contract).gas }, old.2.2)) :=
  ⟨fun _ _ _ _ _ => rfl, fun _ _ _ _ _ _ charged => by cases charged; decide, by decide,
    makeCallVariantGasCallEIP2929_refines (fun _ c _ m _ => (some 40, c, m)) (fun _ _ _ _ _ => rfl)
      (fun _ _ _ _ _ _ charged => by cases charged; decide) ⟨0, 3000⟩ (by decide) 0 5 []
      Memory.newMemory 0 _⟩

end CosmEvm
