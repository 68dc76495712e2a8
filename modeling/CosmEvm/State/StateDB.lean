import CosmEvm.Core.Frame

/-!
# The state database as the gas functions see it

The access-list ledger of one transaction (EIP-2929), the refund counter, and
the read-only views the gas functions consult: current and committed storage,
balances, emptiness and self-destruct status.  go-ethereum's access list keeps
slots per address, so a warm slot always has a warm address; the model keeps
that as a field.  `SubRefund` panics when the counter would go below zero; the
counter itself is modelled as an unbounded natural number.
-/

namespace CosmEvm

/-- A storage slot: the contract address and the key. -/
abbrev Slot := Addr × Word

/-- The EIP-2929 access list: warm addresses and warm slots. -/
structure AccessList where
  addresses : Addr → Bool
  slots : Slot → Bool
  slot_address : ∀ s, slots s = true → addresses s.1 = true

namespace AccessList

/-- `AddAddress`. -/
def addAddress (al : AccessList) (a : Addr) : AccessList where
  addresses b := b == a || al.addresses b
  slots := al.slots
  slot_address s warm := by simp [al.slot_address s warm]

/-- `AddSlot`: the slot, and its address with it. -/
def addSlot (al : AccessList) (a : Addr) (k : Word) : AccessList where
  addresses b := b == a || al.addresses b
  slots s := s == (a, k) || al.slots s
  slot_address s warm := by
    rcases s with ⟨b, j⟩
    simp only [Bool.or_eq_true, beq_iff_eq, Prod.mk.injEq] at warm ⊢
    rcases warm with ⟨rfl, rfl⟩ | warm
    · exact .inl rfl
    · exact .inr (al.slot_address _ warm)

@[simp]
theorem addresses_addAddress (al : AccessList) (a b : Addr) :
    (al.addAddress a).addresses b = (b == a || al.addresses b) := rfl

@[simp]
theorem slots_addAddress (al : AccessList) (a : Addr) : (al.addAddress a).slots = al.slots := rfl

@[simp]
theorem addresses_addSlot (al : AccessList) (a b : Addr) (k : Word) :
    (al.addSlot a k).addresses b = (b == a || al.addresses b) := rfl

@[simp]
theorem slots_addSlot (al : AccessList) (a : Addr) (k : Word) (s : Slot) :
    (al.addSlot a k).slots s = (s == (a, k) || al.slots s) := rfl

/-- What an access-list lookup is about: an account or a storage slot. -/
inductive Item where
  | address (a : Addr)
  | slot (s : Slot)
  deriving DecidableEq, Repr

/-- Whether the item is warm. -/
def warm (al : AccessList) : Item → Bool
  | .address a => al.addresses a
  | .slot s => al.slots s

/-- Membership only grows: every warm address and slot stays warm. -/
instance : Preorder AccessList where
  le al al' := (∀ a, al.addresses a = true → al'.addresses a = true) ∧
    ∀ s, al.slots s = true → al'.slots s = true
  le_refl _ := ⟨fun _ => id, fun _ => id⟩
  le_trans _ _ _ first second :=
    ⟨fun a warm => second.1 a (first.1 a warm), fun s warm => second.2 s (first.2 s warm)⟩

/-- `newAccessList`: the empty ledger. -/
def empty : AccessList where
  addresses _ := false
  slots _ := false
  slot_address _ cold := nomatch cold

theorem le_addAddress (al : AccessList) (a : Addr) : al ≤ al.addAddress a :=
  ⟨fun _ warm => by simp [warm], fun _ => id⟩

theorem le_addSlot (al : AccessList) (a : Addr) (k : Word) : al ≤ al.addSlot a k :=
  ⟨fun _ warm => by simp [warm], fun _ warm => by simp [warm]⟩

/-- Add an item: `AddAddress` for an account, `AddSlot` for a slot. -/
def add (al : AccessList) : Item → AccessList
  | .address a => al.addAddress a
  | .slot s => al.addSlot s.1 s.2

theorem le_add (al : AccessList) : ∀ i, al ≤ al.add i
  | .address a => al.le_addAddress a
  | .slot s => al.le_addSlot s.1 s.2

@[simp]
theorem warm_add_self (al : AccessList) : ∀ i, (al.add i).warm i = true
  | .address a => by simp [add, warm]
  | .slot s => by simp [add, warm]

/-- Adding an item warms no slot but its own. -/
theorem slots_add {al : AccessList} {i : Item} {s : Slot} (warm : (al.add i).slots s = true) :
    al.slots s = true ∨ i = .slot s := by
  cases i with
  | address a => exact .inl warm
  | slot t =>
    simp only [add, slots_addSlot, Bool.or_eq_true, beq_iff_eq] at warm
    rcases warm with rfl | warm
    · exact .inr rfl
    · exact .inl warm

theorem warm_of_le {al al' : AccessList} (grows : al ≤ al') {i : Item}
    (warm : al.warm i = true) : al'.warm i = true := by
  cases i with
  | address a => exact grows.1 a warm
  | slot s => exact grows.2 s warm

/-- The items adding `j` warms: `j` itself and, for a slot, its account
(`AddSlot` adds the address as well). -/
def Item.warms : Item → Item → Bool
  | .address a, .address b => b == a
  | .slot s, .address b => b == s.1
  | .slot s, .slot t => t == s
  | .address _, .slot _ => false

theorem warm_add (al : AccessList) (j i : Item) : (al.add j).warm i = (al.warm i || j.warms i) := by
  cases j <;> cases i <;> simp [add, warm, Item.warms, Bool.or_comm]

/-- A warm item keeps what it warms warm: a warm slot's account is warm. -/
theorem warm_of_warms {al : AccessList} {j i : Item} (warm : al.warm j = true)
    (covers : j.warms i = true) : al.warm i = true := by
  cases j <;> cases i <;> simp only [Item.warms, beq_iff_eq] at covers
  · exact covers ▸ warm
  · cases covers
  · exact covers ▸ al.slot_address _ warm
  · exact covers ▸ warm

end AccessList

/-- What the modelled gas functions read from and write to `evm.StateDB`. -/
structure StateDB where
  accessList : AccessList
  refund : Nat
  state : Slot → Word
  committedState : Slot → Word
  balance : Addr → Nat
  empty : Addr → Bool
  hasSuicided : Addr → Bool

namespace StateDB

/-- `AddressInAccessList`. -/
def addressInAccessList (db : StateDB) (a : Addr) : Bool := db.accessList.addresses a

/-- `SlotInAccessList`: whether the address and whether the slot are warm. -/
def slotInAccessList (db : StateDB) (a : Addr) (k : Word) : Bool × Bool :=
  (db.accessList.addresses a, db.accessList.slots (a, k))

/-- `AddAddressToAccessList`. -/
def addAddressToAccessList (db : StateDB) (a : Addr) : StateDB :=
  { db with accessList := db.accessList.addAddress a }

/-- `AddSlotToAccessList`. -/
def addSlotToAccessList (db : StateDB) (a : Addr) (k : Word) : StateDB :=
  { db with accessList := db.accessList.addSlot a k }

/-- `AddRefund`. -/
def addRefund (db : StateDB) (gas : Nat) : StateDB := { db with refund := db.refund + gas }

/-- `SubRefund`: panics rather than going below zero. -/
def subRefund (db : StateDB) (gas : Nat) : Except VmError StateDB :=
  if gas > db.refund then .error .refundBelowZero else .ok { db with refund := db.refund - gas }

/-- `SetState`, as SSTORE's execution performs it after the gas function. -/
def setState (db : StateDB) (a : Addr) (k v : Word) : StateDB :=
  { db with state := Function.update db.state (a, k) v }

/-- `opSuicide`'s writes, after its gas was charged: `AddBalance` of the
contract's balance to the beneficiary, then `Suicide`, which marks the
contract and zeroes its balance (a contract naming itself burns it).  A
beneficiary that receives value is no longer empty. -/
def selfDestruct (db : StateDB) (a beneficiary : Addr) : StateDB :=
  { db with
    balance := Function.update
      (Function.update db.balance beneficiary (db.balance beneficiary + db.balance a)) a 0
    empty := Function.update db.empty beneficiary (db.empty beneficiary && db.balance a == 0)
    hasSuicided := Function.update db.hasSuicided a true }

/-- A state database at the start of a transaction: the access list as the
transaction prepared it, no slot written yet and no refund. -/
def start (accessList : AccessList) (storage : Slot → Word) (balance : Addr → Nat)
    (empty : Addr → Bool) : StateDB where
  accessList := accessList
  refund := 0
  state := storage
  committedState := storage
  balance := balance
  empty := empty
  hasSuicided _ := false

@[simp] theorem accessList_addRefund (db : StateDB) (gas : Nat) :
    (db.addRefund gas).accessList = db.accessList := rfl
@[simp] theorem refund_addRefund (db : StateDB) (gas : Nat) :
    (db.addRefund gas).refund = db.refund + gas := rfl
@[simp] theorem state_addRefund (db : StateDB) (gas : Nat) :
    (db.addRefund gas).state = db.state := rfl
@[simp] theorem committedState_addRefund (db : StateDB) (gas : Nat) :
    (db.addRefund gas).committedState = db.committedState := rfl
@[simp] theorem accessList_addSlotToAccessList (db : StateDB) (a : Addr) (k : Word) :
    (db.addSlotToAccessList a k).accessList = db.accessList.addSlot a k := rfl
@[simp] theorem refund_addSlotToAccessList (db : StateDB) (a : Addr) (k : Word) :
    (db.addSlotToAccessList a k).refund = db.refund := rfl
@[simp] theorem state_addSlotToAccessList (db : StateDB) (a : Addr) (k : Word) :
    (db.addSlotToAccessList a k).state = db.state := rfl
@[simp] theorem committedState_addSlotToAccessList (db : StateDB) (a : Addr) (k : Word) :
    (db.addSlotToAccessList a k).committedState = db.committedState := rfl
@[simp] theorem accessList_addAddressToAccessList (db : StateDB) (a : Addr) :
    (db.addAddressToAccessList a).accessList = db.accessList.addAddress a := rfl
@[simp] theorem refund_addAddressToAccessList (db : StateDB) (a : Addr) :
    (db.addAddressToAccessList a).refund = db.refund := rfl
@[simp] theorem state_addAddressToAccessList (db : StateDB) (a : Addr) :
    (db.addAddressToAccessList a).state = db.state := rfl
@[simp] theorem committedState_addAddressToAccessList (db : StateDB) (a : Addr) :
    (db.addAddressToAccessList a).committedState = db.committedState := rfl
@[simp] theorem accessList_setState (db : StateDB) (a : Addr) (k v : Word) :
    (db.setState a k v).accessList = db.accessList := rfl
@[simp] theorem refund_setState (db : StateDB) (a : Addr) (k v : Word) :
    (db.setState a k v).refund = db.refund := rfl
@[simp] theorem committedState_setState (db : StateDB) (a : Addr) (k v : Word) :
    (db.setState a k v).committedState = db.committedState := rfl
@[simp] theorem state_setState (db : StateDB) (a : Addr) (k v : Word) :
    (db.setState a k v).state = Function.update db.state (a, k) v := rfl

@[simp] theorem accessList_selfDestruct (db : StateDB) (a b : Addr) :
    (db.selfDestruct a b).accessList = db.accessList := rfl
@[simp] theorem refund_selfDestruct (db : StateDB) (a b : Addr) :
    (db.selfDestruct a b).refund = db.refund := rfl
@[simp] theorem state_selfDestruct (db : StateDB) (a b : Addr) :
    (db.selfDestruct a b).state = db.state := rfl
@[simp] theorem committedState_selfDestruct (db : StateDB) (a b : Addr) :
    (db.selfDestruct a b).committedState = db.committedState := rfl
@[simp] theorem hasSuicided_selfDestruct (db : StateDB) (a b : Addr) :
    (db.selfDestruct a b).hasSuicided = Function.update db.hasSuicided a true := rfl

/-- What metering does when it writes no storage: the access list and the
refund counter only grow. -/
structure Metered (db db' : StateDB) : Prop where
  accessList_le : db.accessList ≤ db'.accessList
  refund_le : db.refund ≤ db'.refund
  state_eq : db'.state = db.state
  committedState_eq : db'.committedState = db.committedState

@[simp]
theorem Metered.refl (db : StateDB) : Metered db db :=
  ⟨le_refl _, le_refl _, rfl, rfl⟩

theorem Metered.trans {db₁ db₂ db₃ : StateDB} (first : Metered db₁ db₂)
    (second : Metered db₂ db₃) : Metered db₁ db₃ :=
  ⟨first.1.trans second.1, first.2.trans second.2, second.3.trans first.3,
    second.4.trans first.4⟩

@[simp]
theorem metered_addAddressToAccessList (db : StateDB) (a : Addr) :
    Metered db (db.addAddressToAccessList a) :=
  ⟨AccessList.le_addAddress _ _, le_refl _, rfl, rfl⟩

@[simp]
theorem metered_addSlotToAccessList (db : StateDB) (a : Addr) (k : Word) :
    Metered db (db.addSlotToAccessList a k) :=
  ⟨AccessList.le_addSlot _ _ _, le_refl _, rfl, rfl⟩

@[simp]
theorem metered_addRefund (db : StateDB) (gas : Nat) : Metered db (db.addRefund gas) :=
  ⟨le_refl _, Nat.le_add_right _ _, rfl, rfl⟩

@[simp]
theorem metered_selfDestruct (db : StateDB) (a b : Addr) : Metered db (db.selfDestruct a b) :=
  ⟨le_refl _, le_refl _, rfl, rfl⟩

theorem subRefund_eq_ok_iff {db db' : StateDB} {gas : Nat} :
    db.subRefund gas = .ok db' ↔ gas ≤ db.refund ∧ db' = { db with refund := db.refund - gas } := by
  unfold subRefund
  split <;> simp [*, eq_comm]
  omega

end StateDB

end CosmEvm
