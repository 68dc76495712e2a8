import Mathlib

/-!
# Words, addresses and checked 64-bit arithmetic

The interpreter's stack holds 256-bit words (`uint256.Int`).  The gas functions
read them either as full words, as 20-byte addresses (`Bytes20`), or as 64-bit
integers through `Uint64()`, which keeps the low 64 bits and drops the rest
without any overflow report.  Gas values themselves are `uint64`; they are
modelled by natural numbers below `2 ^ 64`, and the two checked helpers
`math.SafeAdd` and `math.SafeMul` return the wrapped result together with the
carry flag exactly as in go-ethereum.
-/

namespace CosmEvm

/-- A 256-bit stack word. -/
abbrev Word := BitVec 256

/-- A 20-byte account address. -/
abbrev Addr := BitVec 160

/-- `(*uint256.Int).Uint64()`: the low 64 bits of a word. -/
def Word.uint64 (w : Word) : Nat := w.toNat % 2 ^ 64

/-- `common.Address(w.Bytes20())`: the low 20 bytes of a word. -/
def Word.toAddress (w : Word) : Addr := w.setWidth 160

theorem Word.uint64_lt (w : Word) : w.uint64 < 2 ^ 64 :=
  Nat.mod_lt _ (by decide)

theorem Word.uint64_eq_toNat {w : Word} (small : w.toNat < 2 ^ 64) :
    w.uint64 = w.toNat :=
  Nat.mod_eq_of_lt small

/-- `math.SafeAdd`: the wrapped sum and whether the addition overflowed. -/
def safeAdd (x y : Nat) : Nat × Bool := ((x + y) % 2 ^ 64, decide (2 ^ 64 ≤ x + y))

/-- `math.SafeMul`: the wrapped product and whether the product overflowed. -/
def safeMul (x y : Nat) : Nat × Bool := ((x * y) % 2 ^ 64, decide (2 ^ 64 ≤ x * y))

@[simp]
theorem safeAdd_snd (x y : Nat) : (safeAdd x y).2 = decide (2 ^ 64 ≤ x + y) := rfl

@[simp]
theorem safeMul_snd (x y : Nat) : (safeMul x y).2 = decide (2 ^ 64 ≤ x * y) := rfl

/-- Without a carry the wrapped sum is the sum. -/
theorem safeAdd_fst_of_lt {x y : Nat} (small : x + y < 2 ^ 64) : (safeAdd x y).1 = x + y :=
  Nat.mod_eq_of_lt small

theorem safeMul_fst_of_lt {x y : Nat} (small : x * y < 2 ^ 64) : (safeMul x y).1 = x * y :=
  Nat.mod_eq_of_lt small

/-- Go's conversion `int64(x)` of a `uint64` value: two's complement. -/
def toInt64 (x : Nat) : Int := if x < 2 ^ 63 then x else (x : Int) - 2 ^ 64

theorem toInt64_of_lt {x : Nat} (small : x < 2 ^ 63) : toInt64 x = x := if_pos small

/-- The errors and runtime panics the modelled code can end in.  The first five
are the error values of go-ethereum and of this repository; the rest are the
panics the Go runtime or the state database raise. -/
inductive VmError where
  | errGasUintOverflow
  | errOutOfGas
  | errMemoryOverflow
  | errMaxInitCodeSizeExceeded
  | errReentrancySentry
  | stackUnderflow
  | sliceBounds
  | invalidMemory
  | refundBelowZero
  | addressNotInAccessList
  deriving DecidableEq, Repr

/-- The text each error or panic carries in the source. -/
def VmError.message : VmError → String
  | .errGasUintOverflow => "gas uint64 overflow"
  | .errOutOfGas => "out of gas"
  | .errMemoryOverflow => "memory overflow"
  | .errMaxInitCodeSizeExceeded => "init code size exceeds maximum allowed by EIP-3860"
  | .errReentrancySentry => "not enough gas for reentrancy sentry"
  | .stackUnderflow => "runtime error: index out of range"
  | .sliceBounds => "runtime error: slice bounds out of range"
  | .invalidMemory => "invalid memory: store empty"
  | .refundBelowZero => "Refund counter below zero"
  | .addressNotInAccessList =>
      "impossible case: address was not present in access list during sstore op"

end CosmEvm
