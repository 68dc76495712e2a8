import CosmEvm.JumpTable.Absorption

/-!
# The v9 upgrade

The v9 upgrade turns MCOPY on by adding `"ethereum_5656"` to the module's
`ExtraEIPs`, the names the chain enables on its jump table.  Two store
migrations do it.  The upgrade handler's `MigrateStore` reads the stored
params, fails when there are none, appends the name unless an entry already
equals it, validates, and writes the params back.  The module's v8-to-v9
`MigrateStore` copies the fields of the stored `V7Params` into the new
`Params` and appends the name the same way.  Both share that loop
(`appendEIP`).

The store holds the params encoded; the model keeps the decoded value, taking
`MustUnmarshal` to invert `MustMarshal`, and `Params.Validate` (not part of
this repository) is a parameter.

`migrateStore_idempotent` shows that running the handler's migration again
changes nothing, and `v9_migrations_enable_mcopy` that after either migration
the chain builds the jump table it built before, with EIP-5656 applied on top.
-/

namespace CosmEvm

/-! ## Jump-table entries an activator leaves alone -/

/-- A run of statements none of which writes `op` leaves the entry at `op`. -/
theorem applyWrites_untouched {writes : List Write} {jt jt' : JumpTable} {op : OpCode}
    (run : applyWrites writes jt = .ok jt') (apart : ∀ w ∈ writes, w.op ≠ op) : jt' op = jt op := by
  induction writes generalizing jt with
  | nil => cases run; rfl
  | cons w ws ih =>
    rw [applyWrites_cons] at run
    have other := apart w (List.mem_cons_self _ _)
    have rest := fun w' mem => apart w' (List.mem_cons_of_mem _ mem)
    cases w with
    | install target o =>
      rw [ih run rest]
      exact Function.update_noteq other.symm _ _
    | setConstantGas target gas | setDynamicGas target fn =>
      cases found : jt target with
      | none => rw [Write.apply, found] at run; cases run
      | some o =>
        rw [Write.apply, found] at run
        rw [ih run rest]
        exact Function.update_noteq other.symm _ _

/-- Only `enable5656` writes MCOPY, and it installs `mcopyOperation`. -/
theorem enableEIP_mcopy {eipName : String} {jt jt' : JumpTable}
    (enabled : enableEIP eipName jt = .ok jt') :
    jt' MCOPY = if eipName = "ethereum_5656" then some mcopyOperation else jt MCOPY := by
  unfold enableEIP at enabled
  cases found : activators eipName with
  | none => rw [found] at enabled; cases enabled
  | some writes =>
    rw [found] at enabled
    unfold activators at found
    split at found <;> cases found
    · have installed : applyWrites enable5656 jt =
          .ok (Function.update jt MCOPY (some mcopyOperation)) := rfl
      rw [if_pos rfl, ← Except.ok.inj (installed.symm.trans enabled)]
      exact Function.update_same _ _ _
    all_goals rw [if_neg (by decide)]; exact applyWrites_untouched enabled (by decide)

/-- After a run of EIP names, MCOPY holds `mcopyOperation` if EIP-5656 was
among them, and what it held before otherwise. -/
theorem enableEIPs_mcopy {eipNames : List String} {jt jt' : JumpTable}
    (enabled : enableEIPs eipNames jt = .ok jt') :
    jt' MCOPY = if "ethereum_5656" ∈ eipNames then some mcopyOperation else jt MCOPY := by
  induction eipNames generalizing jt with
  | nil => cases enabled; rfl
  | cons n ns ih =>
    rw [enableEIPs_cons] at enabled
    cases first : enableEIP n jt with
    | error err => rw [first] at enabled; cases enabled
    | ok jt₁ =>
      rw [first] at enabled
      rw [ih enabled, enableEIP_mcopy first]
      by_cases later : "ethereum_5656" ∈ ns
      · rw [if_pos later, if_pos (List.mem_cons_of_mem _ later)]
      · by_cases here : n = "ethereum_5656"
        · rw [if_neg later, if_pos here, if_pos (here ▸ List.mem_cons_self _ _)]
        · rw [if_neg later, if_neg here, if_neg (by simp [later, Ne.symm here])]

namespace V9

/-! ## Parameters and the two migrations -/

/-- `types.AccessControlType`: an access type and the addresses it lists. -/
structure AccessControlType where
  accessType : Int
  accessControlList : List String
  deriving DecidableEq, Repr

/-- `types.AccessControl`: who may create contracts and who may call them. -/
structure AccessControl where
  create : AccessControlType
  call : AccessControlType
  deriving DecidableEq, Repr

/-- The fields of `types.Params` the migrations write. -/
structure Params where
  allowUnprotectedTxs : Bool
  activeStaticPrecompiles : List String
  evmChannels : List String
  accessControl : AccessControl
  extraEIPs : List String
  deriving DecidableEq, Repr

/-- The fields of `v8types.V7Params` the v8-to-v9 migration reads. -/
structure V7Params where
  allowUnprotectedTxs : Bool
  activeStaticPrecompiles : List String
  evmChannels : List String
  accessControl : AccessControl
  extraEIPs : List String
  deriving DecidableEq, Repr

/-- The zero `V7Params`, which `MustUnmarshal` decodes from an absent entry. -/
def V7Params.zero : V7Params := ⟨false, [], [], ⟨⟨0, []⟩, ⟨0, []⟩⟩, []⟩

/-- The loop both migrations run: append `newEIP` unless an entry of
`ExtraEIPs` already equals it. -/
def appendEIP (newEIP : String) (extraEIPs : List String) : List String :=
  if extraEIPs.contains newEIP then extraEIPs else extraEIPs ++ [newEIP]

/-- The upgrade handler's `MigrateStore`, on the params entry of the store
(`none` when absent): the error it returns, and the entry afterwards. -/
def migrateStore (validate : Params → Except String Unit) (store : Option Params) :
    Except String Unit × Option Params :=
  match store with
  | none => (.error "evm parameters not found", store)
  | some params =>
    let params := { params with extraEIPs := appendEIP "ethereum_5656" params.extraEIPs }
    match validate params with
    | .error err => (.error err, store)
    | .ok () => (.ok (), some params)

/-- The module's v8-to-v9 `MigrateStore`: the `Params` it writes from the
stored `V7Params`, or the validation error. -/
def migrateStoreFromV8 (validate : Params → Except String Unit) (stored : Option V7Params) :
    Except String Params :=
  let paramsV8 := stored.getD V7Params.zero
  let params : Params :=
    { allowUnprotectedTxs := paramsV8.allowUnprotectedTxs
      activeStaticPrecompiles := paramsV8.activeStaticPrecompiles
      evmChannels := paramsV8.evmChannels
      accessControl :=
        { call := { accessType := paramsV8.accessControl.call.accessType
                    accessControlList := paramsV8.accessControl.call.accessControlList }
          create := { accessType := paramsV8.accessControl.create.accessType
                      accessControlList := paramsV8.accessControl.create.accessControlList } }
      extraEIPs := appendEIP "ethereum_5656" paramsV8.extraEIPs }
  match validate params with
  | .error err => .error err
  | .ok () => .ok params

/-- The module version map the handler passes through. -/
abbrev VersionMap := String → Nat

/-- The handler `CreateUpgradeHandler` returns: the store migration, then the
module migrations (`RunMigrations`, a parameter). -/
def createUpgradeHandler (validate : Params → Except String Unit)
    (runMigrations : VersionMap → Option Params → Except String VersionMap × Option Params)
    (vm : VersionMap) (store : Option Params) : Except String VersionMap × Option Params :=
  match migrateStore validate store with
  | (.error err, store) => (.error ("failed to migrate evm store: " ++ err), store)
  | (.ok (), store) => runMigrations vm store

/-! ## What the migrations do -/

section

variable (validate : Params → Except String Unit)

/-- Spec of the handler's migration: it stores the params with the name
appended exactly when they are there and pass validation, and otherwise
leaves the store as it was. -/
theorem migrateStore_eq_ok_iff (store store' : Option Params) :
    migrateStore validate store = (.ok (), store') ↔
      ∃ params, store = some params ∧
        validate { params with extraEIPs := appendEIP "ethereum_5656" params.extraEIPs } = .ok () ∧
        store' = some { params with extraEIPs := appendEIP "ethereum_5656" params.extraEIPs } := by
  cases store with
  | none => exact iff_of_false (fun migrated => nomatch congrArg Prod.fst migrated) nofun
  | some params =>
    simp only [migrateStore, Option.some.injEq, exists_eq_left']
    split
    · next failed => simp [failed]
    · next passed => simp [passed, eq_comm]

theorem migrateStore_error_snd (store : Option Params) (err : String)
    (failed : (migrateStore validate store).1 = .error err) :
    (migrateStore validate store).2 = store := by
  cases store with
  | none => rfl
  | some params =>
    simp only [migrateStore] at failed ⊢
    split at failed
    · rfl
    · cases failed

/-- Appending a name already present changes nothing. -/
theorem appendEIP_of_mem {newEIP : String} {extraEIPs : List String} (present : newEIP ∈ extraEIPs) :
    appendEIP newEIP extraEIPs = extraEIPs :=
  if_pos (List.elem_iff.mpr present)

theorem mem_appendEIP (newEIP : String) (extraEIPs : List String) :
    newEIP ∈ appendEIP newEIP extraEIPs := by
  unfold appendEIP
  split
  · next present => exact List.elem_iff.mp present
  · exact List.mem_append_right _ (List.mem_singleton_self _)

/-- Running the handler's migration on the store it wrote changes nothing:
the name is there, the params are those that passed validation, and the same
params are written back. -/
theorem migrateStore_idempotent (store store' : Option Params)
    (migrated : migrateStore validate store = (.ok (), store')) :
    migrateStore validate store' = (.ok (), store') := by
  obtain ⟨params, -, passed, rfl⟩ := (migrateStore_eq_ok_iff validate store store').mp migrated
  refine (migrateStore_eq_ok_iff validate _ _).mpr ⟨_, rfl, ?_, ?_⟩ <;>
    rw [appendEIP_of_mem (mem_appendEIP _ _)]
  · exact passed

theorem migrateStore_idempotent_fresh_name :
    migrateStore (fun _ => .ok ()) (some ⟨false, [], [], ⟨⟨0, []⟩, ⟨0, []⟩⟩, ["ethereum_2929"]⟩) =
        (.ok (), some ⟨false, [], [], ⟨⟨0, []⟩, ⟨0, []⟩⟩, ["ethereum_2929", "ethereum_5656"]⟩) ∧
      migrateStore (fun _ => .ok ())
          (some ⟨false, [], [], ⟨⟨0, []⟩, ⟨0, []⟩⟩, ["ethereum_2929", "ethereum_5656"]⟩) =
        (.ok (), some ⟨false, [], [], ⟨⟨0, []⟩, ⟨0, []⟩⟩, ["ethereum_2929", "ethereum_5656"]⟩) :=
  ⟨rfl, migrateStore_idempotent (fun _ => .ok ())
    (some ⟨false, [], [], ⟨⟨0, []⟩, ⟨0, []⟩⟩, ["ethereum_2929"]⟩) _ (by rfl)⟩

/-- A failed store migration stops the handler before the module migrations,
with the error wrapped and the store as it was. -/
theorem createUpgradeHandler_of_error
    (runMigrations : VersionMap → Option Params → Except String VersionMap × Option Params)
    (vm : VersionMap) (store : Option Params) (err : String)
    (failed : (migrateStore validate store).1 = .error err) :
    createUpgradeHandler validate runMigrations vm store =
      (.error ("failed to migrate evm store: " ++ err), store) := by
  have unchanged := migrateStore_error_snd validate store err failed
  unfold createUpgradeHandler
  rcases migrated : migrateStore validate store with ⟨_ | _, store'⟩
  · rw [migrated] at failed unchanged
    cases failed
    cases unchanged
    rfl
  · rw [migrated] at failed
    cases failed

/-- The module migration writes the v8 names with `"ethereum_5656"` appended. -/
theorem extraEIPs_of_migrateStoreFromV8 {stored : Option V7Params} {migrated : Params}
    (written : migrateStoreFromV8 validate stored = .ok migrated) :
    migrated.extraEIPs = appendEIP "ethereum_5656" (stored.getD V7Params.zero).extraEIPs := by
  unfold migrateStoreFromV8 at written
  dsimp only at written
  split at written
  · cases written
  · cases written
    rfl

/-- Enabling the names with `"ethereum_5656"` appended as the migrations append
it gives the table the names gave, with `enable5656` run on it, or the same
error. -/
theorem enableEIPs_appendEIP (eipNames : List String) (jt : JumpTable) :
    enableEIPs (appendEIP "ethereum_5656" eipNames) jt =
      (enableEIPs eipNames jt).bind (applyWrites enable5656) := by
  unfold appendEIP
  split
  · next present =>
    cases enabled : enableEIPs eipNames jt with
    | error err => rfl
    | ok jt' =>
      have installed := enableEIPs_mcopy enabled
      rw [if_pos (List.elem_iff.mp present)] at installed
      show Except.ok jt' = .ok (Function.update jt' MCOPY (some mcopyOperation))
      rw [← installed, Function.update_eq_self]
  · rw [enableEIPs_append]
    cases enableEIPs eipNames jt with
    | error err => rfl
    | ok jt' => rfl

/-- After either v9 migration the chain builds, from any base table, the table
it built from the old `ExtraEIPs` with EIP-5656 run on top (or fails as it
failed before), and whenever that succeeds MCOPY holds `mcopyOperation`. -/
theorem v9_migrations_enable_mcopy (jt : JumpTable) :
    (∀ params store', migrateStore validate (some params) = (.ok (), store') →
      ∃ migrated, store' = some migrated ∧
        enableEIPs migrated.extraEIPs jt =
          (enableEIPs params.extraEIPs jt).bind (applyWrites enable5656)) ∧
    (∀ stored migrated, migrateStoreFromV8 validate stored = .ok migrated →
      enableEIPs migrated.extraEIPs jt =
        (enableEIPs (stored.getD V7Params.zero).extraEIPs jt).bind (applyWrites enable5656)) ∧
    (∀ eipNames jt', enableEIPs (appendEIP "ethereum_5656" eipNames) jt = .ok jt' →
      jt' MCOPY = some mcopyOperation) := by
  refine ⟨fun params store' migrated => ?_, fun stored migrated written => ?_,
    fun eipNames jt' enabled => ?_⟩
  · obtain ⟨_, found, -, rfl⟩ := (migrateStore_eq_ok_iff validate _ _).mp migrated
    cases found
    exact ⟨_, rfl, enableEIPs_appendEIP _ jt⟩
  · rw [extraEIPs_of_migrateStoreFromV8 validate written, enableEIPs_appendEIP]
  · rw [enableEIPs_mcopy enabled, if_pos (mem_appendEIP _ _)]

end

end V9

end CosmEvm
