import CosmEvm.MCopy.Execute
import CosmEvm.State.StateDB

/-!
# Operations and the jump table

go-ethereum's `operation` is a record of function values and stack bounds,
and a `JumpTable` holds a pointer to one operation per opcode byte, nil where
an opcode has none.  Function values are compared by identity, so the model
names them: the functions the activators install are constructors of their
own, and those of the base instruction sets are named by their go-ethereum
identifiers.  The model knows what the installed execution functions do
(`ExecutionFunc.run?`) and what `gasMCopy` does (`GasFunc.run?`), and states
the stack discipline that the interpreter's `minStack` and `maxStack` checks
are there to guarantee (`Operation.StackSafe`).
-/

namespace CosmEvm

/-- An `executionFunc`, by identity. -/
inductive ExecutionFunc where
  | opSelfBalance
  | opChainID
  | opBaseFee
  | opPush0
  | opMCopy
  /-- An execution function of go-ethereum's base instruction sets. -/
  | base (name : String)
  deriving DecidableEq, Repr

/-- A `gasFunc`, by identity. -/
inductive GasFunc where
  | gasSStoreEIP2200
  | gasSStoreEIP2929
  | gasSStoreEIP3529
  | gasSLoadEIP2929
  | gasExtCodeCopyEIP2929
  | gasEip2929AccountCheck
  | gasCallEIP2929
  | gasCallCodeEIP2929
  | gasStaticCallEIP2929
  | gasDelegateCallEIP2929
  | gasSelfdestructEIP2929
  | gasSelfdestructEIP3529
  | gasMCopy
  /-- A dynamic gas function of go-ethereum's base instruction sets. -/
  | base (name : String)
  deriving DecidableEq, Repr

/-- A `memorySizeFunc`, by identity; no activator installs one. -/
structure MemorySizeFunc where
  name : String
  deriving DecidableEq, Repr

/-- `operation`: an opcode's execution function, gas and stack bounds; the
optional fields are Go's nil function values. -/
structure Operation where
  execute : ExecutionFunc
  constantGas : Nat
  dynamicGas : Option GasFunc
  minStack : Nat
  maxStack : Nat
  memorySize : Option MemorySizeFunc
  deriving DecidableEq, Repr

/-- `JumpTable`: `[256]*operation`, with `none` for a nil pointer.  go-ethereum
allocates one operation per opcode, so a write through one entry changes no
other. -/
abbrev JumpTable := OpCode → Option Operation

/-! ## What the installed execution functions do -/

/-- What the installed execution functions read from `interpreter.evm`: the
state database, `chainConfig.ChainID` and `Context.BaseFee`. -/
structure EVM where
  stateDB : StateDB
  chainID : Nat
  baseFee : Nat

/-- The result of an execution function: its return data, and the frame. -/
abbrev ExecutionResult := Except VmError (Option (List UInt8) × ScopeContext)

/-- `opSelfBalance`: push the executing contract's balance (`uint256.FromBig`
keeps it modulo `2^256`). -/
def opSelfBalance (evm : EVM) (scope : ScopeContext) : ExecutionResult :=
  .ok (none, { scope with
    stack := scope.stack.push (BitVec.ofNat 256 (evm.stateDB.balance scope.contract.address)) })

/-- `opChainID`: push the chain identifier. -/
def opChainID (evm : EVM) (scope : ScopeContext) : ExecutionResult :=
  .ok (none, { scope with stack := scope.stack.push (BitVec.ofNat 256 evm.chainID) })

/-- `opBaseFee`: push the block's base fee. -/
def opBaseFee (evm : EVM) (scope : ScopeContext) : ExecutionResult :=
  .ok (none, { scope with stack := scope.stack.push (BitVec.ofNat 256 evm.baseFee) })

/-- `opPush0`: push zero. -/
def opPush0 (scope : ScopeContext) : ExecutionResult :=
  .ok (none, { scope with stack := scope.stack.push 0 })

/-- The semantics of the execution functions the model knows. -/
def ExecutionFunc.run? : ExecutionFunc → Option (EVM → ScopeContext → ExecutionResult)
  | .opSelfBalance => some CosmEvm.opSelfBalance
  | .opChainID => some CosmEvm.opChainID
  | .opBaseFee => some CosmEvm.opBaseFee
  | .opPush0 => some fun _ => CosmEvm.opPush0
  | .opMCopy => some fun _ => CosmEvm.opMCopy
  | .base _ => none

/-- The semantics of the dynamic gas functions the model knows as functions of
the stack and memory alone. -/
def GasFunc.run? : GasFunc → Option (Stack → Memory → Except VmError (Nat × Memory))
  | .gasMCopy => some CosmEvm.gasMCopy
  | _ => none

/-- An execution result with `rest` put back under the stack. -/
def ExecutionResult.under (rest : List Word) (result : ExecutionResult) : ExecutionResult :=
  result.map fun r => (r.1, { r.2 with stack := ⟨r.2.stack.data ++ rest⟩ })

/-- The stack discipline the interpreter's checks are there to guarantee: on
any depth between `minStack` and `maxStack`, the execution function reads and
replaces only the top `minStack` words and leaves at most `StackLimit`, and the
dynamic gas function reads only the top `minStack` words. -/
structure Operation.StackSafe (o : Operation) : Prop where
  execute : ∃ run, o.execute.run? = some run ∧
    ∀ (evm : EVM) (scope : ScopeContext) (top rest : List Word), top.length = o.minStack →
      top.length + rest.length ≤ o.maxStack →
      run evm { scope with stack := ⟨top ++ rest⟩ } =
          (run evm { scope with stack := ⟨top⟩ }).under rest ∧
        ∀ result : Option (List UInt8) × ScopeContext,
          run evm { scope with stack := ⟨top ++ rest⟩ } = .ok result →
            result.2.stack.len ≤ StackLimit
  dynamicGas : ∀ g ∈ o.dynamicGas, ∃ gas, g.run? = some gas ∧
    ∀ (top rest : List Word) (mem : Memory), top.length = o.minStack →
      gas ⟨top ++ rest⟩ mem = gas ⟨top⟩ mem

end CosmEvm
