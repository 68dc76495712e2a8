import CosmEvm.Core.Stack
import CosmEvm.Core.Memory

/-!
# Call frames

The per-call state an instruction sees: the executing contract with its
remaining gas, and the `ScopeContext` bundling memory, stack and contract.
Frames are never shared; only the jump table is.
-/

namespace CosmEvm

/-- The part of go-ethereum's `Contract` the modelled code reads: its address
and its remaining gas. -/
structure Contract where
  address : Addr
  gas : Nat
  deriving DecidableEq, Repr

/-- `UseGas(gas)`: deduct `gas`, or report that the budget does not cover it
and leave the contract unchanged. -/
def Contract.useGas (c : Contract) (gas : Nat) : Option Contract :=
  if c.gas < gas then none else some { c with gas := c.gas - gas }

theorem Contract.useGas_eq_some_iff {c c' : Contract} {gas : Nat} :
    c.useGas gas = some c' ↔ gas ≤ c.gas ∧ c' = { c with gas := c.gas - gas } := by
  unfold useGas
  split <;> simp [*, eq_comm]; omega

/-- `ScopeContext`: what an execution function may read and change. -/
structure ScopeContext where
  memory : Memory
  stack : Stack
  contract : Contract
  deriving DecidableEq, Repr

end CosmEvm
