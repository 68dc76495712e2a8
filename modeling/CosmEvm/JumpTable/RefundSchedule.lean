import CosmEvm.JumpTable.LastWrite
import CosmEvm.Transaction.Schedules

/-!
# The schedule a jump table runs

The interpreter charges an opcode's dynamic gas by calling the function its
jump-table entry holds, and `Access.run` fixes those functions through a
`Schedule`.  A table runs a schedule when it holds EIP-2929's functions at
SLOAD, the account checks, EXTCODECOPY and the CALL variants, and at SSTORE
and SELFDESTRUCT functions that the var block builds with `makeGasSStoreFunc`
and `makeSelfdestructGasFn`: the clearing refund and the refund flag they were
built with are the schedule's (`JumpTable.refunds?`), and go-ethereum's
pre-EIP-2929 calculators supply the rest.

Enabling EIP-2929 makes any table run EIP-2929's refunds.  After that, of the
registered activators only EIP-2200's and EIP-3529's change what a table runs.
So a list of names with no EIP-2200 after its last EIP-2929 runs EIP-3529's
refunds exactly when EIP-3529 comes after that EIP-2929 (`enableEIPs_refunds`).
Enabling EIP-3529 on a table that runs any schedule does three things for every
transaction: it charges the same gas, it leaves the same state, and it never
ends the transaction with a larger refund counter (`enableEIP_eip3529_runTx`).
-/

namespace CosmEvm

namespace GasFunc

/-- The clearing refund the var block builds an SSTORE function with:
`gasSStoreEIP2929` is `makeGasSStoreFunc(SstoreClearsScheduleRefundEIP2200)`,
and `gasSStoreEIP3529` is `makeGasSStoreFunc(SstoreClearsScheduleRefundEIP3529)`. -/
def clearingRefund? : GasFunc → Option Nat
  | .gasSStoreEIP2929 => some SstoreClearsScheduleRefundEIP2200
  | .gasSStoreEIP3529 => some SstoreClearsScheduleRefundEIP3529
  | _ => none

/-- The refund flag the var block builds a SELFDESTRUCT function with:
`makeSelfdestructGasFn(true)` for EIP-2929, `(false)` for EIP-3529. -/
def refundsEnabled? : GasFunc → Option Bool
  | .gasSelfdestructEIP2929 => some true
  | .gasSelfdestructEIP3529 => some false
  | _ => none

theorem le_of_clearingRefund? {fn : GasFunc} {clearingRefund : Nat}
    (built : fn.clearingRefund? = some clearingRefund) :
    SstoreClearsScheduleRefundEIP3529 ≤ clearingRefund := by
  cases fn <;> cases built <;> decide

end GasFunc

namespace JumpTable

/-- The dynamic gas function a table holds at an opcode. -/
def dynamicGas (jt : JumpTable) (op : OpCode) : Option GasFunc :=
  (jt op).bind Operation.dynamicGas

/-- The functions `enable2929` installs besides SSTORE's and SELFDESTRUCT's,
at their opcodes: neither refund parameter changes what they charge. -/
def accessListGas : List (OpCode × GasFunc) :=
  [(SLOAD, .gasSLoadEIP2929), (EXTCODECOPY, .gasExtCodeCopyEIP2929),
   (EXTCODESIZE, .gasEip2929AccountCheck), (EXTCODEHASH, .gasEip2929AccountCheck),
   (BALANCE, .gasEip2929AccountCheck), (CALL, .gasCallEIP2929), (CALLCODE, .gasCallCodeEIP2929),
   (STATICCALL, .gasStaticCallEIP2929), (DELEGATECALL, .gasDelegateCallEIP2929)]

/-- The opcodes whose dynamic gas `Access.run` runs. -/
def stateOpcodes : List OpCode := SSTORE :: SELFDESTRUCT :: accessListGas.map Prod.fst

/-- The clearing refund and refund flag of the schedule a table runs: the
parameters its SSTORE and SELFDESTRUCT functions were built with, when it
holds EIP-2929's functions at the other state-touching opcodes. -/
def refunds? (jt : JumpTable) : Option (Nat × Bool) :=
  if accessListGas.all fun p => jt.dynamicGas p.1 = some p.2 then
    ((jt.dynamicGas SSTORE).bind GasFunc.clearingRefund?).bind fun clearingRefund =>
      ((jt.dynamicGas SELFDESTRUCT).bind GasFunc.refundsEnabled?).map (clearingRefund, ·)
  else none

theorem refunds?_eq_some_iff (jt : JumpTable) (clearingRefund : Nat) (refundsEnabled : Bool) :
    jt.refunds? = some (clearingRefund, refundsEnabled) ↔
      (∀ p ∈ accessListGas, jt.dynamicGas p.1 = some p.2) ∧
        (jt.dynamicGas SSTORE).bind GasFunc.clearingRefund? = some clearingRefund ∧
        (jt.dynamicGas SELFDESTRUCT).bind GasFunc.refundsEnabled? = some refundsEnabled := by
  unfold refunds?
  split <;> rename_i held <;> simp only [List.all_eq_true, decide_eq_true_eq] at held
  · simp only [eq_true held, true_and]
    cases (jt.dynamicGas SSTORE).bind GasFunc.clearingRefund? <;>
      cases (jt.dynamicGas SELFDESTRUCT).bind GasFunc.refundsEnabled? <;> simp
  · exact iff_of_false nofun fun all => held all.1

/-- What a table runs depends only on its dynamic gas at the state-touching
opcodes. -/
theorem refunds?_congr {jt jt' : JumpTable}
    (same : ∀ op ∈ stateOpcodes, jt'.dynamicGas op = jt.dynamicGas op) :
    jt'.refunds? = jt.refunds? := by
  have accessList : (accessListGas.all fun p => jt'.dynamicGas p.1 = some p.2) =
      accessListGas.all fun p => jt.dynamicGas p.1 = some p.2 := by
    rw [Bool.eq_iff_iff, List.all_eq_true, List.all_eq_true]
    exact forall₂_congr fun p mem => by
      rw [same p.1 (.tail _ (.tail _ (List.mem_map_of_mem _ mem)))]
  unfold refunds?
  rw [accessList, same SSTORE (.head _), same SELFDESTRUCT (.tail _ (.head _))]

/-- A table that holds a dynamic gas function at an opcode has an entry there. -/
theorem isSome_of_dynamicGas {jt : JumpTable} {op : OpCode} {α : Type} {f : GasFunc → Option α}
    {a : α} (found : (jt.dynamicGas op).bind f = some a) : (jt op).isSome := by
  rcases present : jt op with _ | o
  · rw [dynamicGas, present] at found
    cases found
  · rfl

/-! ## What the activators do to it -/

/-- The activators install nothing at a state-touching opcode. -/
theorem not_mem_installTargets : ∀ op ∈ stateOpcodes, op ∉ installTargets := by
  intro op mem
  have apart := List.all_eq_true.mp
    (show (stateOpcodes.all fun op => !installTargets.contains op) = true by decide) op mem
  simpa using apart

section applyWrites

variable {writes : List Write} {jt jt' : JumpTable}

/-- Off the install targets, a run of statements kept apart leaves each
entry's dynamic gas the last one written, or what it was. -/
theorem dynamicGas_of_applyWrites (applied : applyWrites writes jt = .ok jt')
    (apart : ∀ w ∈ writes, w.keepsApart) {op : OpCode} (target : op ∉ installTargets) :
    jt'.dynamicGas op =
      (jt op).bind fun o => (writes.filterMap (·.dynamicGasAt op)).getLast?.or o.dynamicGas := by
  have noInstall : writes.filterMap (·.installedAt op) = [] :=
    List.filterMap_eq_nil_iff.mpr fun w mem => (Write.at_of_keepsApart (apart w mem) op).2 target
  rw [eq_foldl_of_applyWrites applied, dynamicGas, foldl_update_of_keepsApart _ _ _ apart, noInstall]
  cases jt op <;> rfl

theorem dynamicGas_of_applyWrites_unwritten (applied : applyWrites writes jt = .ok jt')
    (apart : ∀ w ∈ writes, w.keepsApart) {op : OpCode} (target : op ∉ installTargets)
    (unwritten : writes.filterMap (·.dynamicGasAt op) = []) : jt'.dynamicGas op = jt.dynamicGas op := by
  rw [dynamicGas_of_applyWrites applied apart target, unwritten, dynamicGas]
  cases jt op <;> rfl

/-- A run that succeeds found an entry at every field it wrote. -/
theorem isSome_of_applyWrites (applied : applyWrites writes jt = .ok jt')
    (apart : ∀ w ∈ writes, w.keepsApart) {w : Write} (mem : w ∈ writes)
    (field : w.writesField = true) : (jt w.op).isSome := by
  rw [applyWrites_eq_foldl writes jt apart] at applied
  split at applied
  · next defined => simpa [field] using List.all_eq_true.mp defined w mem
  · cases applied

/-- The last dynamic gas a run that succeeds writes at `op` is the entry's. -/
theorem dynamicGas_of_applyWrites_written (applied : applyWrites writes jt = .ok jt')
    (apart : ∀ w ∈ writes, w.keepsApart) {op : OpCode} (target : op ∉ installTargets)
    {fn : GasFunc} (written : (writes.filterMap (·.dynamicGasAt op)).getLast? = some fn) :
    jt'.dynamicGas op = some fn := by
  obtain ⟨w, mem, found⟩ := List.mem_filterMap.mp (List.mem_of_getLast?_eq_some written)
  obtain ⟨o, present⟩ : ∃ o, jt op = some o := by
    cases w with
    | setDynamicGas op' fn' =>
      obtain rfl : op' = op := by
        by_contra other
        simp [Write.dynamicGasAt, other] at found
      exact Option.isSome_iff_exists.mp (isSome_of_applyWrites applied apart mem rfl)
    | install | setConstantGas => cases found
  rw [dynamicGas_of_applyWrites applied apart target, present, written]
  rfl

/-- A run that writes no dynamic gas at the state-touching opcodes leaves
what the table runs. -/
theorem refunds?_of_applyWrites_untouched (applied : applyWrites writes jt = .ok jt')
    (apart : ∀ w ∈ writes, w.keepsApart)
    (untouched : (stateOpcodes.all fun op => (writes.filterMap (·.dynamicGasAt op)).isEmpty) = true) :
    jt'.refunds? = jt.refunds? :=
  refunds?_congr fun op mem =>
    dynamicGas_of_applyWrites_unwritten applied apart (not_mem_installTargets op mem)
      (List.isEmpty_iff.mp (List.all_eq_true.mp untouched op mem))

end applyWrites

/-- `enable2929` makes any table run EIP-2929's refunds. -/
theorem refunds?_enableEIP_eip2929 {jt jt' : JumpTable}
    (enabled : enableEIP "ethereum_2929" jt = .ok jt') :
    jt'.refunds? = some (SstoreClearsScheduleRefundEIP2200, true) := by
  have applied : applyWrites enable2929 jt = .ok jt' := enabled
  have apart := activators_keepApart (show activators "ethereum_2929" = some enable2929 from rfl)
  have writes : ∀ p ∈ (SSTORE, GasFunc.gasSStoreEIP2929) ::
      (SELFDESTRUCT, GasFunc.gasSelfdestructEIP2929) :: accessListGas,
      p.1 ∉ installTargets ∧ (enable2929.filterMap (·.dynamicGasAt p.1)).getLast? = some p.2 := by
    decide
  have holds (p) (mem) := dynamicGas_of_applyWrites_written applied apart (writes p mem).1 (writes p mem).2
  refine (jt'.refunds?_eq_some_iff _ _).mpr ⟨fun p mem => holds p (.tail _ (.tail _ mem)), ?_, ?_⟩
  · rw [holds _ (.head _)]
    rfl
  · rw [holds _ (.tail _ (.head _))]
    rfl

/-- `enable3529` makes a table that runs a schedule run EIP-3529's refunds. -/
theorem refunds?_enableEIP_eip3529 {jt jt' : JumpTable} {refunds : Nat × Bool}
    (runs : jt.refunds? = some refunds) (enabled : enableEIP "ethereum_3529" jt = .ok jt') :
    jt'.refunds? = some (SstoreClearsScheduleRefundEIP3529, false) := by
  have applied : applyWrites enable3529 jt = .ok jt' := enabled
  have apart := activators_keepApart (show activators "ethereum_3529" = some enable3529 from rfl)
  have kept : ∀ p ∈ accessListGas,
      p.1 ∉ installTargets ∧ enable3529.filterMap (·.dynamicGasAt p.1) = [] := by
    decide
  obtain ⟨accessList, -, -⟩ := (jt.refunds?_eq_some_iff refunds.1 refunds.2).mp runs
  refine (jt'.refunds?_eq_some_iff _ _).mpr ⟨fun p mem => ?_, ?_, ?_⟩
  · rw [dynamicGas_of_applyWrites_unwritten applied apart (kept p mem).1 (kept p mem).2]
    exact accessList p mem
  · rw [dynamicGas_of_applyWrites_written applied apart (by decide)
      (show (enable3529.filterMap (·.dynamicGasAt SSTORE)).getLast? = some .gasSStoreEIP3529 by decide)]
    rfl
  · rw [dynamicGas_of_applyWrites_written applied apart (by decide)
      (show (enable3529.filterMap (·.dynamicGasAt SELFDESTRUCT)).getLast? =
        some .gasSelfdestructEIP3529 by decide)]
    rfl

/-- One step: enabling a name other than EIP-2200's and EIP-2929's on a table
that runs a schedule leaves it running that schedule, with EIP-3529's refunds
if the name is EIP-3529's. -/
theorem refunds?_enableEIP {eipName : String} {jt jt' : JumpTable} {refunds : Nat × Bool}
    (runs : jt.refunds? = some refunds) (enabled : enableEIP eipName jt = .ok jt')
    (not2200 : eipName ≠ "ethereum_2200") (not2929 : eipName ≠ "ethereum_2929") :
    jt'.refunds? = some (if eipName = "ethereum_3529" then (SstoreClearsScheduleRefundEIP3529, false)
      else refunds) := by
  unfold enableEIP at enabled
  cases found : activators eipName with
  | none => rw [found] at enabled; cases enabled
  | some writes =>
    rw [found] at enabled
    have apart := activators_keepApart found
    unfold activators at found
    split at found <;> cases found
    -- EIP-3529 switches the refunds; the other activators write no dynamic gas
    -- at a state-touching opcode.
    all_goals first
      | exact absurd rfl not2200
      | exact absurd rfl not2929
      | exact refunds?_enableEIP_eip3529 runs enabled
      | (rw [if_neg (by decide), ← runs]
         exact refunds?_of_applyWrites_untouched enabled apart (by decide))

/-- A run of names with no EIP-2200 and no EIP-2929 keeps a table running
its schedule, with EIP-3529's refunds if EIP-3529 is among them. -/
theorem refunds?_enableEIPs {eipNames : List String} {jt jt' : JumpTable} {refunds : Nat × Bool}
    (runs : jt.refunds? = some refunds) (enabled : enableEIPs eipNames jt = .ok jt')
    (no2200 : "ethereum_2200" ∉ eipNames) (no2929 : "ethereum_2929" ∉ eipNames) :
    jt'.refunds? = some (if "ethereum_3529" ∈ eipNames then (SstoreClearsScheduleRefundEIP3529, false)
      else refunds) := by
  induction eipNames generalizing jt refunds with
  | nil =>
    cases enabled
    exact runs
  | cons n ns ih =>
    rw [enableEIPs_cons] at enabled
    cases first : enableEIP n jt with
    | error => rw [first] at enabled; cases enabled
    | ok jt₁ =>
      rw [first] at enabled
      rw [List.mem_cons, not_or] at no2200 no2929
      rw [ih (refunds?_enableEIP runs first (Ne.symm no2200.1) (Ne.symm no2929.1)) enabled no2200.2
        no2929.2]
      by_cases here : n = "ethereum_3529"
      · simp [here]
      · simp [here, Ne.symm here]

end JumpTable

/-- The order of the names decides the refunds: once EIP-2929 is enabled, with
no EIP-2200 after it, the table runs EIP-3529's refunds exactly when
EIP-3529 is listed after the last EIP-2929, and EIP-2929's otherwise. -/
theorem enableEIPs_refunds (pre post : List String) (jt jt' : JumpTable)
    (enabled : enableEIPs (pre ++ "ethereum_2929" :: post) jt = .ok jt')
    (last : "ethereum_2929" ∉ post) (no2200 : "ethereum_2200" ∉ post) :
    jt'.refunds? = some (if "ethereum_3529" ∈ post then (SstoreClearsScheduleRefundEIP3529, false)
      else (SstoreClearsScheduleRefundEIP2200, true)) := by
  rw [enableEIPs_append] at enabled
  cases before : enableEIPs pre jt with
  | error => rw [before] at enabled; cases enabled
  | ok jt₁ =>
    rw [before] at enabled
    have tail : (enableEIP "ethereum_2929" jt₁).bind (enableEIPs post) = .ok jt' := enabled
    cases eip2929 : enableEIP "ethereum_2929" jt₁ with
    | error => rw [eip2929] at tail; cases tail
    | ok jt₂ =>
      rw [eip2929] at tail
      exact JumpTable.refunds?_enableEIPs (JumpTable.refunds?_enableEIP_eip2929 eip2929) tail no2200
        last

theorem enableEIPs_refunds_eip3529_after :
    let base : JumpTable := fun _ => some push0Operation
    let eipNames := ["ethereum_3529", "ethereum_2200", "ethereum_2929", "ethereum_1884", "ethereum_3529"]
    let jt' := (eipNames.filterMap activators).flatten.foldl Write.update base
    enableEIPs eipNames base = .ok jt' ∧ "ethereum_2929" ∉ ["ethereum_1884", "ethereum_3529"] ∧
      "ethereum_2200" ∉ ["ethereum_1884", "ethereum_3529"] ∧
      jt'.refunds? = some (if "ethereum_3529" ∈ ["ethereum_1884", "ethereum_3529"] then
        (SstoreClearsScheduleRefundEIP3529, false) else (SstoreClearsScheduleRefundEIP2200, true)) := by
  have enabled : enableEIPs ["ethereum_3529", "ethereum_2200", "ethereum_2929", "ethereum_1884",
      "ethereum_3529"] (fun _ => some push0Operation) =
      .ok ((["ethereum_3529", "ethereum_2200", "ethereum_2929", "ethereum_1884",
        "ethereum_3529"].filterMap activators).flatten.foldl Write.update
        fun _ => some push0Operation) := by
    rw [enableEIPs_eq_applyWrites _ _ (by decide), applyWrites_eq_foldl _ _ keepApart_of_registered,
      if_pos (by decide)]
  exact ⟨enabled, by decide, by decide,
    enableEIPs_refunds ["ethereum_3529", "ethereum_2200"] ["ethereum_1884", "ethereum_3529"] _ _ enabled
      (by decide) (by decide)⟩

/-- Enabling EIP-3529 on a table that runs a schedule whose CALL calculators
do not read the refund counter makes it run that schedule with EIP-3529's
refunds; the same accesses of a transaction, run from its start, then charge
the same gas, stop at the same access with the same error, leave the same
state but for the refund counter, and never end with a larger one. -/
theorem enableEIP_eip3529_runTx (jt : JumpTable) (sched : Schedule)
    (runs : jt.refunds? = some (sched.clearingRefund, sched.refundsEnabled))
    (blind : sched.RefundBlind) :
    let sched' := sched.withRefunds SstoreClearsScheduleRefundEIP3529 false
    ∃ jt', enableEIP "ethereum_3529" jt = .ok jt' ∧
      jt'.refunds? = some (sched'.clearingRefund, sched'.refundsEnabled) ∧
      ∀ accesses db, db.state = db.committedState →
        (runTx sched' accesses db).1 = (runTx sched accesses db).1 ∧
          (runTx sched' accesses db).2 =
            { (runTx sched accesses db).2 with refund := (runTx sched' accesses db).2.refund } ∧
          (runTx sched' accesses db).2.refund ≤ (runTx sched accesses db).2.refund := by
  obtain ⟨-, sstore, selfdestruct⟩ := (jt.refunds?_eq_some_iff _ _).mp runs
  obtain ⟨fn, -, built⟩ := Option.bind_eq_some.mp sstore
  have applies : enableEIP "ethereum_3529" jt = .ok (enable3529.foldl Write.update jt) := by
    show applyWrites enable3529 jt = _
    rw [applyWrites_eq_foldl _ _ (activators_keepApart (show activators "ethereum_3529" = some enable3529
      from rfl)), if_pos]
    simp [fieldsDefined, enable3529, Write.writesField, Write.op, JumpTable.isSome_of_dynamicGas sstore,
      JumpTable.isSome_of_dynamicGas selfdestruct]
  refine ⟨_, applies, JumpTable.refunds?_enableEIP_eip3529 runs applies, fun accesses db unwritten => ?_⟩
  obtain ⟨⟨outcome, state⟩, -⟩ := runTx_withRefunds_of_covered sched SstoreClearsScheduleRefundEIP3529
    false blind accesses db db.refund (.of_unwritten unwritten) (.of_unwritten unwritten)
  exact ⟨outcome, state, @refund_runTx_withRefunds_le sched _ false blind
    (GasFunc.le_of_clearingRefund? built) nofun accesses db unwritten⟩

theorem enableEIP_eip3529_runTx_on_eip2929 :
    let jt := enable2929.foldl Write.update fun _ => some push0Operation
    let sched : Schedule := ⟨SstoreClearsScheduleRefundEIP2200, true, fun _ m _ => some (0, m),
      fun _ _ c _ m _ => (some 0, c, m)⟩
    let sched' := sched.withRefunds SstoreClearsScheduleRefundEIP3529 false
    jt.refunds? = some (sched.clearingRefund, sched.refundsEnabled) ∧ sched.RefundBlind ∧
      ∃ jt', enableEIP "ethereum_3529" jt = .ok jt' ∧
        jt'.refunds? = some (sched'.clearingRefund, sched'.refundsEnabled) ∧
        ∀ accesses db, db.state = db.committedState →
          (runTx sched' accesses db).1 = (runTx sched accesses db).1 ∧
            (runTx sched' accesses db).2 =
              { (runTx sched accesses db).2 with refund := (runTx sched' accesses db).2.refund } ∧
            (runTx sched' accesses db).2.refund ≤ (runTx sched accesses db).2.refund :=
  ⟨by decide, fun _ _ _ => rfl, enableEIP_eip3529_runTx _ _ (by decide) fun _ _ _ => rfl⟩

end CosmEvm
