import CosmEvm.JumpTable.Operation

/-!
# Activators

An activator edits a jump table in place: it installs new operations and
overwrites the gas fields of existing ones.  Each is modelled as the list of
its Go statements (`Write`), run in order; writing a field through a nil entry
is Go's nil-pointer panic.  `EnableEIP` looks the name up in `activators` and
runs the activator found, or reports an undefined EIP; `enableEIPs` folds it
over a list of names, stopping at the first error, as a chain configuration's
extra EIPs are enabled one after another.
-/

namespace CosmEvm

/-- One statement of an activator. -/
inductive Write where
  /-- `jt[op] = &operation{...}` -/
  | install (op : OpCode) (operation : Operation)
  /-- `jt[op].constantGas = gas` -/
  | setConstantGas (op : OpCode) (gas : Nat)
  /-- `jt[op].dynamicGas = fn` -/
  | setDynamicGas (op : OpCode) (fn : GasFunc)
  deriving DecidableEq, Repr

/-- Why enabling EIPs stops. -/
inductive ActivationError where
  /-- `fmt.Errorf("undefined eip %s", eipName)` -/
  | undefinedEip (eipName : String)
  /-- Go's runtime panic on a write through a nil entry. -/
  | nilPointerDereference
  deriving DecidableEq, Repr

/-- The error texts. -/
def ActivationError.message : ActivationError → String
  | .undefinedEip eipName => "undefined eip " ++ eipName
  | .nilPointerDereference => "runtime error: invalid memory address or nil pointer dereference"

namespace Write

/-- The opcode a statement writes. -/
def op : Write → OpCode
  | .install op _ | .setConstantGas op _ | .setDynamicGas op _ => op

/-- Run one statement. -/
def apply (jt : JumpTable) : Write → Except ActivationError JumpTable
  | .install op operation => .ok (Function.update jt op (some operation))
  | .setConstantGas op gas =>
    match jt op with
    | none => .error .nilPointerDereference
    | some o => .ok (Function.update jt op (some { o with constantGas := gas }))
  | .setDynamicGas op fn =>
    match jt op with
    | none => .error .nilPointerDereference
    | some o => .ok (Function.update jt op (some { o with dynamicGas := some fn }))

end Write

/-- Run an activator's statements in order. -/
def applyWrites (writes : List Write) (jt : JumpTable) : Except ActivationError JumpTable :=
  writes.foldlM Write.apply jt

@[simp]
theorem applyWrites_nil (jt : JumpTable) : applyWrites [] jt = .ok jt := rfl

theorem applyWrites_cons (w : Write) (writes : List Write) (jt : JumpTable) :
    applyWrites (w :: writes) jt = (w.apply jt).bind (applyWrites writes) := by
  simp only [applyWrites, List.foldlM_cons]
  rfl

theorem applyWrites_append (first second : List Write) (jt : JumpTable) :
    applyWrites (first ++ second) jt = (applyWrites first jt).bind (applyWrites second) := by
  simp only [applyWrites, List.foldlM_append]
  rfl

/-! ## The activators -/

/-- The operation `enable1884` installs at SELFBALANCE. -/
def selfBalanceOperation : Operation where
  execute := .opSelfBalance
  constantGas := GasFastStep
  dynamicGas := none
  minStack := minStack 0 1
  maxStack := maxStack 0 1
  memorySize := none

/-- The operation `enable1344` installs at CHAINID. -/
def chainIDOperation : Operation where
  execute := .opChainID
  constantGas := GasQuickStep
  dynamicGas := none
  minStack := minStack 0 1
  maxStack := maxStack 0 1
  memorySize := none

/-- The operation `enable3198` installs at BASEFEE. -/
def baseFeeOperation : Operation where
  execute := .opBaseFee
  constantGas := GasQuickStep
  dynamicGas := none
  minStack := minStack 0 1
  maxStack := maxStack 0 1
  memorySize := none

/-- The operation `enable3855` installs at PUSH0. -/
def push0Operation : Operation where
  execute := .opPush0
  constantGas := GasQuickStep
  dynamicGas := none
  minStack := minStack 0 1
  maxStack := maxStack 0 1
  memorySize := none

/-- The operation `enable5656` installs at MCOPY: no `memorySize` function. -/
def mcopyOperation : Operation where
  execute := .opMCopy
  constantGas := 0
  dynamicGas := some .gasMCopy
  minStack := minStack 3 0
  maxStack := maxStack 3 0
  memorySize := none

/-- `enable1884`: EIP-1884's repricing, and SELFBALANCE. -/
def enable1884 : List Write :=
  [.setConstantGas SLOAD SloadGasEIP1884,
   .setConstantGas BALANCE BalanceGasEIP1884,
   .setConstantGas EXTCODEHASH ExtcodeHashGasEIP1884,
   .install SELFBALANCE selfBalanceOperation]

/-- `enable1344`: CHAINID. -/
def enable1344 : List Write :=
  [.install CHAINID chainIDOperation]

/-- `enable2200`: net-metered SSTORE. -/
def enable2200 : List Write :=
  [.setConstantGas SLOAD SloadGasEIP2200,
   .setDynamicGas SSTORE .gasSStoreEIP2200]

/-- `enable2929`: the access-list gas functions. -/
def enable2929 : List Write :=
  [.setDynamicGas SSTORE .gasSStoreEIP2929,
   .setConstantGas SLOAD 0,
   .setDynamicGas SLOAD .gasSLoadEIP2929,
   .setConstantGas EXTCODECOPY WarmStorageReadCostEIP2929,
   .setDynamicGas EXTCODECOPY .gasExtCodeCopyEIP2929,
   .setConstantGas EXTCODESIZE WarmStorageReadCostEIP2929,
   .setDynamicGas EXTCODESIZE .gasEip2929AccountCheck,
   .setConstantGas EXTCODEHASH WarmStorageReadCostEIP2929,
   .setDynamicGas EXTCODEHASH .gasEip2929AccountCheck,
   .setConstantGas BALANCE WarmStorageReadCostEIP2929,
   .setDynamicGas BALANCE .gasEip2929AccountCheck,
   .setConstantGas CALL WarmStorageReadCostEIP2929,
   .setDynamicGas CALL .gasCallEIP2929,
   .setConstantGas CALLCODE WarmStorageReadCostEIP2929,
   .setDynamicGas CALLCODE .gasCallCodeEIP2929,
   .setConstantGas STATICCALL WarmStorageReadCostEIP2929,
   .setDynamicGas STATICCALL .gasStaticCallEIP2929,
   .setConstantGas DELEGATECALL WarmStorageReadCostEIP2929,
   .setDynamicGas DELEGATECALL .gasDelegateCallEIP2929,
   .setConstantGas SELFDESTRUCT SelfdestructGasEIP150,
   .setDynamicGas SELFDESTRUCT .gasSelfdestructEIP2929]

/-- `enable3529`: reduced refunds. -/
def enable3529 : List Write :=
  [.setDynamicGas SSTORE .gasSStoreEIP3529,
   .setDynamicGas SELFDESTRUCT .gasSelfdestructEIP3529]

/-- `enable3198`: BASEFEE. -/
def enable3198 : List Write :=
  [.install BASEFEE baseFeeOperation]

/-- `enable3855`: PUSH0. -/
def enable3855 : List Write :=
  [.install PUSH0 push0Operation]

/-- `enable5656`: MCOPY. -/
def enable5656 : List Write :=
  [.install MCOPY mcopyOperation]

/-- `activators`: the registered names. -/
def activators (eipName : String) : Option (List Write) :=
  match eipName with
  | "ethereum_5656" => some enable5656
  | "ethereum_3855" => some enable3855
  | "ethereum_3529" => some enable3529
  | "ethereum_3198" => some enable3198
  | "ethereum_2929" => some enable2929
  | "ethereum_2200" => some enable2200
  | "ethereum_1884" => some enable1884
  | "ethereum_1344" => some enable1344
  | _ => none

/-- `EnableEIP`. -/
def enableEIP (eipName : String) (jt : JumpTable) : Except ActivationError JumpTable :=
  match activators eipName with
  | none => .error (.undefinedEip eipName)
  | some enablerFn => applyWrites enablerFn jt

/-- Enable the named EIPs one after another, stopping at the first error. -/
def enableEIPs (eipNames : List String) (jt : JumpTable) : Except ActivationError JumpTable :=
  eipNames.foldlM (fun jt eipName => enableEIP eipName jt) jt

@[simp]
theorem enableEIPs_nil (jt : JumpTable) : enableEIPs [] jt = .ok jt := rfl

theorem enableEIPs_cons (eipName : String) (eipNames : List String) (jt : JumpTable) :
    enableEIPs (eipName :: eipNames) jt = (enableEIP eipName jt).bind (enableEIPs eipNames) := by
  simp only [enableEIPs, List.foldlM_cons]
  rfl

end CosmEvm
