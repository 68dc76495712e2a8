import CosmEvm.Core.Word

/-!
# Protocol constants and opcode bytes

The values of go-ethereum's `params` package and `core/vm/opcodes.go` that the
modelled functions read.  They are library constants, not part of this
repository's sources; they are written here with go-ethereum's values so that
the costs in the theorems are the costs the chain charges.
-/

namespace CosmEvm

/-! ## Gas schedule (`params`) -/

def MemoryGas : Nat := 3
def QuadCoeffDiv : Nat := 512
def StackLimit : Nat := 1024

def GasQuickStep : Nat := 2
def GasFastStep : Nat := 5

def SloadGasEIP1884 : Nat := 800
def BalanceGasEIP1884 : Nat := 700
def ExtcodeHashGasEIP1884 : Nat := 700
def SloadGasEIP2200 : Nat := 800

def WarmStorageReadCostEIP2929 : Nat := 100
def ColdSloadCostEIP2929 : Nat := 2100
def ColdAccountAccessCostEIP2929 : Nat := 2600

def SstoreSentryGasEIP2200 : Nat := 2300
def SstoreSetGasEIP2200 : Nat := 20000
def SstoreResetGasEIP2200 : Nat := 5000
def SstoreClearsScheduleRefundEIP2200 : Nat := 15000
def SstoreClearsScheduleRefundEIP3529 : Nat := 4800

def SelfdestructGasEIP150 : Nat := 5000
def CreateBySelfdestructGas : Nat := 25000
def SelfdestructRefundGas : Nat := 24000

/-! ## Opcode bytes -/

/-- An opcode byte. -/
abbrev OpCode := Fin 256

def BALANCE : OpCode := 0x31
def EXTCODESIZE : OpCode := 0x3b
def EXTCODECOPY : OpCode := 0x3c
def EXTCODEHASH : OpCode := 0x3f
def CHAINID : OpCode := 0x46
def SELFBALANCE : OpCode := 0x47
def BASEFEE : OpCode := 0x48
def SLOAD : OpCode := 0x54
def SSTORE : OpCode := 0x55
def MCOPY : OpCode := 0x5e
def PUSH0 : OpCode := 0x5f
def CALL : OpCode := 0xf1
def CALLCODE : OpCode := 0xf2
def DELEGATECALL : OpCode := 0xf4
def STATICCALL : OpCode := 0xfa
def SELFDESTRUCT : OpCode := 0xff

/-! ## Stack bounds (`stack_table.go`) -/

/-- `minStack(pops, push)`: the depth an operation needs before it runs. -/
def minStack (pops _push : Nat) : Nat := pops

/-- `maxStack(pop, push)`: the largest depth at which pushing cannot pass the
stack limit. -/
def maxStack (pop push : Nat) : Nat := StackLimit + pop - push

end CosmEvm
