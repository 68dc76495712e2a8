import CosmEvm.JumpTable.Activators

/-!
# Activators keep the jump table well formed

A jump table is well formed when every opcode has an operation, every
operation with a `memorySize` function has a dynamic gas function (the
interpreter calls the latter with the size the former computes), and every
operation an activator installs keeps the stack discipline `StackSafe` within
its `minStack` and `maxStack` bounds.  Enabling any sequence of EIPs on a
well-formed table never writes through a nil entry: it stops at the first
unregistered name, or yields a well-formed table.
-/

namespace CosmEvm

/-! ## The installed operations keep to their stack bounds -/

/-- `opMCopy` pops its three words and never looks below them. -/
theorem opMCopy_under (scope : ScopeContext) (l d s : Word) (rest : List Word) :
    opMCopy { scope with stack := ⟨l :: d :: s :: rest⟩ } =
      ExecutionResult.under rest (opMCopy { scope with stack := ⟨[l, d, s]⟩ }) := by
  simp only [opMCopy, Stack.pop_cons, bind, Except.bind, pure, Except.pure]
  split_ifs <;> simp only [ExecutionResult.under, Except.map]
  · rfl
  all_goals
    split
    · rfl
    · split
      · rfl
      · split <;> rfl

/-- On its three words alone, `opMCopy` leaves the stack empty. -/
theorem opMCopy_pops (scope : ScopeContext) (l d s : Word)
    {result : Option (List UInt8) × ScopeContext}
    (ok : opMCopy { scope with stack := ⟨[l, d, s]⟩ } = .ok result) : result.2.stack = ⟨[]⟩ := by
  simp only [opMCopy, Stack.pop_cons, bind, Except.bind, pure, Except.pure] at ok
  split_ifs at ok
  · cases ok
    rfl
  all_goals
    split at ok
    · cases ok
    · split at ok
      · cases ok
      · split at ok
        · cases ok
        · cases ok
          rfl

/-- An operation that pushes one word computed without looking at the stack,
with the bounds `minStack(0, 1)` and `maxStack(0, 1)` and no dynamic gas. -/
theorem stackSafe_of_push {o : Operation} {run : EVM → ScopeContext → ExecutionResult}
    (value : EVM → ScopeContext → Word) (runs : o.execute.run? = some run)
    (pushes : ∀ evm scope, run evm scope = .ok (none, { scope with
      stack := scope.stack.push (value evm scope) }))
    (ignoresStack : ∀ evm scope stack, value evm { scope with stack } = value evm scope)
    (min : o.minStack = minStack 0 1) (max : o.maxStack = maxStack 0 1)
    (noGas : o.dynamicGas = none) : o.StackSafe where
  execute := ⟨run, runs, fun evm scope top rest depth bound => by
    rw [min, minStack, List.length_eq_zero] at depth
    subst depth
    rw [max, maxStack, StackLimit] at bound
    refine ⟨?_, fun result ran => ?_⟩
    · simp only [pushes, ExecutionResult.under, Except.map, ignoresStack, Stack.push,
        List.nil_append, List.cons_append]
    · rw [pushes] at ran
      cases ran
      simp only [Stack.len, Stack.push, List.nil_append, List.length_cons, StackLimit]
      simp only [List.length_nil, zero_add] at bound
      omega⟩
  dynamicGas _ mem := by
    rw [noGas] at mem
    cases mem

theorem selfBalanceOperation_stackSafe : selfBalanceOperation.StackSafe :=
  stackSafe_of_push (fun evm scope => BitVec.ofNat 256 (evm.stateDB.balance scope.contract.address))
    rfl (fun _ _ => rfl) (fun _ _ _ => rfl) rfl rfl rfl

theorem chainIDOperation_stackSafe : chainIDOperation.StackSafe :=
  stackSafe_of_push (fun evm _ => BitVec.ofNat 256 evm.chainID) rfl (fun _ _ => rfl)
    (fun _ _ _ => rfl) rfl rfl rfl

theorem baseFeeOperation_stackSafe : baseFeeOperation.StackSafe :=
  stackSafe_of_push (fun evm _ => BitVec.ofNat 256 evm.baseFee) rfl (fun _ _ => rfl)
    (fun _ _ _ => rfl) rfl rfl rfl

theorem push0Operation_stackSafe : push0Operation.StackSafe :=
  stackSafe_of_push (fun _ _ => 0) rfl (fun _ _ => rfl) (fun _ _ _ => rfl) rfl rfl rfl

/-- MCOPY: `minStack(3, 0)` covers both `opMCopy`'s three pops and `gasMCopy`'s
reads of `Back(0)` to `Back(2)`, and `maxStack(3, 0)` leaves at most
`StackLimit` words after the pops. -/
theorem mcopyOperation_stackSafe : mcopyOperation.StackSafe where
  execute := ⟨fun _ => opMCopy, rfl, fun _ scope top rest depth bound => by
    match top, depth with
    | [l, d, s], _ =>
      refine ⟨opMCopy_under scope l d s rest, fun result ran => ?_⟩
      change opMCopy { scope with stack := ⟨l :: d :: s :: rest⟩ } = .ok result at ran
      rw [opMCopy_under] at ran
      revert ran
      rcases popped : opMCopy { scope with stack := ⟨[l, d, s]⟩ } with err | ⟨out, after⟩
      · exact nofun
      · intro ran
        cases ran
        have emptied : after.stack = ⟨[]⟩ := opMCopy_pops scope l d s popped
        simp only [emptied, Stack.len, List.nil_append, StackLimit]
        simp only [mcopyOperation, maxStack, StackLimit, List.length_cons, List.length_nil] at bound
        omega⟩
  dynamicGas := fun g mem => by
    cases mem
    refine ⟨gasMCopy, rfl, fun top rest memory depth => ?_⟩
    match top, depth with
    | [l, s, d], _ =>
      rw [show [l, s, d] ++ rest = l :: s :: d :: rest from rfl, gasMCopy_cons, gasMCopy_cons]

/-- The operations the activators install. -/
def installedOperations : List Operation :=
  [selfBalanceOperation, chainIDOperation, baseFeeOperation, push0Operation, mcopyOperation]

theorem stackSafe_of_mem_installedOperations {o : Operation} (installed : o ∈ installedOperations) :
    o.StackSafe := by
  simp only [installedOperations, List.mem_cons, List.mem_singleton, List.not_mem_nil,
    or_false] at installed
  rcases installed with rfl | rfl | rfl | rfl | rfl
  · exact selfBalanceOperation_stackSafe
  · exact chainIDOperation_stackSafe
  · exact baseFeeOperation_stackSafe
  · exact push0Operation_stackSafe
  · exact mcopyOperation_stackSafe

theorem memorySize_of_mem_installedOperations :
    ∀ o ∈ installedOperations, o.memorySize = none := by
  decide

/-! ## Well-formed tables -/

/-- A well-formed jump table: no nil entry, a dynamic gas function wherever
there is a `memorySize` function, and every entry that holds an operation an
activator installs keeps that operation's stack discipline. -/
structure JumpTable.WellFormed (jt : JumpTable) : Prop where
  defined : ∀ op, (jt op).isSome
  memorySize_dynamicGas : ∀ op o, jt op = some o → o.memorySize.isSome → o.dynamicGas.isSome
  installed_stackSafe : ∀ op o, jt op = some o → o ∈ installedOperations → o.StackSafe

/-- Writing an operation with a dynamic gas function wherever it has a
`memorySize` function keeps a table well formed. -/
theorem JumpTable.WellFormed.update {jt : JumpTable} (wf : jt.WellFormed) (op : OpCode)
    (o : Operation) (sized : o.memorySize.isSome → o.dynamicGas.isSome) :
    JumpTable.WellFormed (Function.update jt op (some o)) where
  defined op' := by
    rw [Function.update_apply]
    split_ifs
    · rfl
    · exact wf.defined op'
  memorySize_dynamicGas op' o' := by
    rw [Function.update_apply]
    split_ifs
    · rintro ⟨⟩
      exact sized
    · exact wf.memorySize_dynamicGas op' o'
  installed_stackSafe _ _ _ := stackSafe_of_mem_installedOperations

/-- The operation a statement installs, if it installs one. -/
def Write.installed? : Write → Option Operation
  | .install _ operation => some operation
  | _ => none

/-- A statement that installs only what the activators install runs without a
nil dereference on a well-formed table, and keeps it well formed. -/
theorem Write.apply_wellFormed {jt : JumpTable} (wf : jt.WellFormed) (w : Write)
    (installs : ∀ o ∈ w.installed?, o ∈ installedOperations) :
    ∃ jt', w.apply jt = .ok jt' ∧ jt'.WellFormed := by
  cases w with
  | install op o =>
    have unsized := memorySize_of_mem_installedOperations o (installs o rfl)
    exact ⟨_, rfl, wf.update op o (by simp [unsized])⟩
  | setConstantGas op gas =>
    obtain ⟨o, entry⟩ := Option.isSome_iff_exists.mp (wf.defined op)
    exact ⟨_, by rw [apply, entry],
      wf.update op { o with constantGas := gas } (wf.memorySize_dynamicGas op o entry)⟩
  | setDynamicGas op fn =>
    obtain ⟨o, entry⟩ := Option.isSome_iff_exists.mp (wf.defined op)
    exact ⟨_, by rw [apply, entry], wf.update op { o with dynamicGas := some fn } (fun _ => rfl)⟩

theorem applyWrites_wellFormed {jt : JumpTable} (wf : jt.WellFormed) (writes : List Write)
    (installs : ∀ w ∈ writes, ∀ o ∈ w.installed?, o ∈ installedOperations) :
    ∃ jt', applyWrites writes jt = .ok jt' ∧ jt'.WellFormed := by
  induction writes generalizing jt with
  | nil => exact ⟨jt, rfl, wf⟩
  | cons w ws ih =>
    obtain ⟨jt₁, applied, wf₁⟩ := w.apply_wellFormed wf (installs w (List.mem_cons_self _ _))
    rw [applyWrites_cons, applied]
    exact ih wf₁ fun w' mem => installs w' (List.mem_cons_of_mem _ mem)

/-- Every activator installs only the five descriptors. -/
theorem activators_installed {eipName : String} {writes : List Write}
    (registered : activators eipName = some writes) :
    ∀ w ∈ writes, ∀ o ∈ w.installed?, o ∈ installedOperations := by
  unfold activators at registered
  split at registered <;> cases registered <;> decide

theorem enableEIP_wellFormed {jt : JumpTable} (wf : jt.WellFormed) {eipName : String}
    {writes : List Write} (registered : activators eipName = some writes) :
    ∃ jt', enableEIP eipName jt = .ok jt' ∧ jt'.WellFormed := by
  rw [enableEIP, registered]
  exact applyWrites_wellFormed wf writes (activators_installed registered)

/-- Enabling any sequence of EIPs on a well-formed table never writes through
a nil entry: it stops with an undefined-EIP error at the first name that has
no activator, and otherwise yields a well-formed table. -/
theorem enableEIPs_wellFormed (eipNames : List String) (jt : JumpTable) (wf : jt.WellFormed) :
    enableEIPs eipNames jt ≠ .error .nilPointerDereference ∧
      (∀ eipName, eipNames.find? (fun n => (activators n).isNone) = some eipName →
        enableEIPs eipNames jt = .error (.undefinedEip eipName)) ∧
      (eipNames.find? (fun n => (activators n).isNone) = none →
        ∃ jt', enableEIPs eipNames jt = .ok jt' ∧ jt'.WellFormed) := by
  induction eipNames generalizing jt with
  | nil => exact ⟨nofun, nofun, fun _ => ⟨jt, rfl, wf⟩⟩
  | cons n ns ih =>
    rw [enableEIPs_cons]
    rcases registered : activators n with _ | writes
    · have first : (n :: ns).find? (fun n => (activators n).isNone) = some n := by
        simp [registered]
      rw [enableEIP, registered, first]
      exact ⟨nofun, fun _ found => by cases found; rfl, nofun⟩
    · have skip : (n :: ns).find? (fun n => (activators n).isNone) =
          ns.find? (fun n => (activators n).isNone) := by
        simp [registered]
      obtain ⟨jt₁, enabled, wf₁⟩ := enableEIP_wellFormed wf registered
      rw [enabled, skip]
      exact ih jt₁ wf₁

/-- On a table of PUSH0 entries, three registered names build a well-formed
table, and a list with an unknown name stops at it. -/
theorem enableEIPs_wellFormed_registered_or_unknown :
    let base : JumpTable := fun _ => some push0Operation
    let registered := ["ethereum_3855", "ethereum_2929", "ethereum_5656"]
    let unknown := ["ethereum_3855", "ethereum_2929", "ethereum_9999", "ethereum_5656"]
    base.WellFormed ∧
      (registered.find? (fun n => (activators n).isNone) = none ∧
        ∃ jt', enableEIPs registered base = .ok jt' ∧ jt'.WellFormed) ∧
      unknown.find? (fun n => (activators n).isNone) = some "ethereum_9999" ∧
        enableEIPs unknown base = .error (.undefinedEip "ethereum_9999") := by
  intro base registered unknown
  have wf : base.WellFormed := ⟨fun _ => rfl, fun _ _ entry => by cases entry; exact nofun,
    fun _ _ _ => stackSafe_of_mem_installedOperations⟩
  exact ⟨wf, ⟨rfl, (enableEIPs_wellFormed registered base wf).2.2 rfl⟩, rfl,
    (enableEIPs_wellFormed unknown base wf).2.1 _ rfl⟩

end CosmEvm
