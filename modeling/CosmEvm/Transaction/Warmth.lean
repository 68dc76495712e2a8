import CosmEvm.Transaction.Run

/-!
# Charged once per transaction: the cold surcharge and SELFDESTRUCT's refund

EIP-2929 charges the first access to an account or a storage slot in a
transaction a cold surcharge and marks it warm; later accesses find it warm
and pay only the warm part.  `Access.charge` says what each gas function's
warm and cold branches charge, and `Access.run_charge` that a successful
access charges the branch its item's warmth selects.  Every gas function adds
at most its own item to the access list (`Access.accessList_run`), so over any
run the list only grows, an item stays warm once an access has touched it,
and an item that was cold at the start stays cold until an access warms it
(`cold_surcharge_once`).  An item warm at the start, such as a slot on the
transaction's EIP-2930 access list, is never charged the surcharge.  After a
run that succeeds the list holds exactly what it held at the start and what
the run's accesses warmed (`runTx_warm_iff`).

SELFDESTRUCT's refund follows the same pattern with the `HasSuicided` marks in
place of the access list: the first SELFDESTRUCT of a contract marks it, the
mark is never cleared, and later ones are not refunded
(`selfdestruct_refund_once`).
-/

namespace CosmEvm

open StateDB AccessList

namespace Access

variable (sched : Schedule)

/-- What an access charges, read off its gas function's two branches, on an
item that is `warm` or not.  The cold branch adds the cold component to what
the warm branch charges (EXTCODECOPY's copy cost, the CALL calculator's
charge, SSTORE's classified cost, SELFDESTRUCT's new-account charge), except
that SLOAD charges the cold slot cost in place of the warm read cost, and that
a CALL variant's calculator runs, on a cold callee, against the warmed list
and with the surcharge taken from the contract's gas. -/
def charge (db : StateDB) (warm : Bool) : Access → Option Nat
  | .sload _ _ => some (if warm then WarmStorageReadCostEIP2929 else ColdSloadCostEIP2929)
  | .sstore contract ⟨x :: y :: _⟩ =>
    some ((if warm then 0 else ColdSloadCostEIP2929) +
      sstoreCost (db.committedState (contract.address, x)) (db.state (contract.address, x)) y)
  | .accountCheck _ =>
    some (if warm then 0 else ColdAccountAccessCostEIP2929 - WarmStorageReadCostEIP2929)
  | .extCodeCopy stack mem memorySize =>
    (sched.gasExtCodeCopy stack mem memorySize).map fun copy =>
      copy.1 + if warm then 0 else ColdAccountAccessCostEIP2929 - WarmStorageReadCostEIP2929
  | .call variant contract ⟨w₀ :: w :: rest⟩ mem memorySize =>
    if warm then (sched.oldCalculator variant db contract ⟨w₀ :: w :: rest⟩ mem memorySize).1
    else
      let coldCost := ColdAccountAccessCostEIP2929 - WarmStorageReadCostEIP2929
      (sched.oldCalculator variant (db.addAddressToAccessList w.toAddress)
          { contract with gas := contract.gas - coldCost } ⟨w₀ :: w :: rest⟩ mem memorySize).1.map
        fun gas => (gas + coldCost) % 2 ^ 64
  | .selfdestruct contract ⟨w :: _⟩ =>
    some ((if warm then 0 else ColdAccountAccessCostEIP2929) +
      if db.empty w.toAddress && db.balance contract.address ≠ 0 then CreateBySelfdestructGas else 0)
  | _ => none

theorem le_accessList_run (access : Access) (db : StateDB) :
    db.accessList ≤ (access.run sched db).2.accessList := by
  rcases (access.accessList_run sched db).1 with same | ⟨i, -, added⟩
  · rw [same]
  · rw [added]
    exact le_add _ _

/-- An access warms nothing but what its own item warms. -/
theorem warm_of_run {access : Access} {db : StateDB} {i : Item}
    (warm : (access.run sched db).2.accessList.warm i = true) :
    db.accessList.warm i = true ∨ ∃ j, access.item? = some j ∧ j.warms i = true := by
  rcases (access.accessList_run sched db).1 with same | ⟨j, touches, added⟩
  · rw [same] at warm
    exact .inl warm
  · rw [added, warm_add, Bool.or_eq_true] at warm
    exact warm.imp_right fun covers => ⟨j, touches, covers⟩

end Access

theorem runTx_cons_snd (sched : Schedule) (access : Access) (rest : List Access)
    (db : StateDB) :
    (runTx sched (access :: rest) db).2 =
      match (access.run sched db).1 with
      | .error _ => (access.run sched db).2
      | .ok _ => (runTx sched rest (access.run sched db).2).2 := by
  rw [runTx]
  rcases access.run sched db with ⟨_ | gas, db'⟩
  · rfl
  · dsimp only
    rcases runTx sched rest db' with ⟨_ | gases, db''⟩ <;> rfl

/-- Over any run the access list only grows. -/
theorem le_accessList_runTx (sched : Schedule) (accesses : List Access) (db : StateDB) :
    db.accessList ≤ (runTx sched accesses db).2.accessList := by
  induction accesses generalizing db with
  | nil => exact le_refl _
  | cons access rest ih =>
    rw [runTx_cons_snd]
    split
    · exact access.le_accessList_run sched db
    · exact (access.le_accessList_run sched db).trans (ih _)

/-- Over any run an item becomes warm only through an access that warms it. -/
theorem warm_runTx (sched : Schedule) (accesses : List Access) (db : StateDB) {i : Item}
    (warm : (runTx sched accesses db).2.accessList.warm i = true) :
    db.accessList.warm i = true ∨ ∃ z ∈ accesses, ∃ j, z.item? = some j ∧ j.warms i = true := by
  induction accesses generalizing db with
  | nil => exact .inl warm
  | cons access rest ih =>
    rw [runTx_cons_snd] at warm
    split at warm
    · exact (Access.warm_of_run sched warm).imp_right fun touches => ⟨access, .head _, touches⟩
    · rcases ih _ warm with earlier | ⟨z, mem, touches⟩
      · exact (Access.warm_of_run sched earlier).imp_right fun touches =>
          ⟨access, .head _, touches⟩
      · exact .inr ⟨z, .tail _ mem, touches⟩

/-- A successful run succeeds on every prefix, and the rest runs from where the
prefix ended. -/
theorem runTx_append_eq_ok {sched : Schedule} {first second : List Access} {db db' : StateDB}
    {gases : List Nat} (run : runTx sched (first ++ second) db = (.ok gases, db')) :
    (∃ gases₁, runTx sched first db = (.ok gases₁, (runTx sched first db).2)) ∧
      ∃ gases₂, runTx sched second (runTx sched first db).2 = (.ok gases₂, db') := by
  rw [runTx_append] at run
  revert run
  rcases runTx sched first db with ⟨_ | gases₁, db₁⟩ <;> dsimp only
  · exact nofun
  · rcases runTx sched second db₁ with ⟨_ | gases₂, db₂⟩ <;> dsimp only
    · exact nofun
    · intro run
      cases run
      exact ⟨⟨gases₁, rfl⟩, gases₂, rfl⟩

/-- The last access of a successful run succeeded, from the state the rest
left. -/
theorem runTx_append_singleton_eq_ok {sched : Schedule} {first : List Access} {last : Access}
    {db db' : StateDB} {gases : List Nat}
    (run : runTx sched (first ++ [last]) db = (.ok gases, db')) :
    ∃ gas, last.run sched (runTx sched first db).2 = (.ok gas, db') := by
  obtain ⟨-, gases₂, lastRun⟩ := runTx_append_eq_ok run
  revert lastRun
  rw [runTx]
  rcases last.run sched (runTx sched first db).2 with ⟨_ | gas, db₁⟩ <;> dsimp only
  · exact nofun
  · intro lastRun
    cases lastRun
    exact ⟨gas, rfl⟩

/-- After a successful prefix, a run goes on from where the prefix ended. -/
theorem runTx_append_snd_of_ok {sched : Schedule} {first : List Access} {db db₁ : StateDB}
    {gases : List Nat} (run : runTx sched first db = (.ok gases, db₁)) (second : List Access) :
    (runTx sched (first ++ second) db).2 = (runTx sched second db₁).2 := by
  rw [runTx_append, run]
  dsimp only
  rcases runTx sched second db₁ with ⟨_ | gases', db₂⟩ <;> rfl

/-- The first access of a successful run succeeded, and the rest ran from the
state it left. -/
theorem runTx_cons_eq_ok {sched : Schedule} {access : Access} {rest : List Access}
    {db db' : StateDB} {gases : List Nat} (run : runTx sched (access :: rest) db = (.ok gases, db')) :
    ∃ gas, access.run sched db = (.ok gas, (access.run sched db).2) ∧
      ∃ gases', runTx sched rest (access.run sched db).2 = (.ok gases', db') := by
  revert run
  rw [runTx]
  rcases access.run sched db with ⟨_ | gas, db₁⟩ <;> dsimp only
  · exact nofun
  · rcases runTx sched rest db₁ with ⟨_ | gases', db₂⟩ <;> dsimp only
    · exact nofun
    · intro run
      cases run
      exact ⟨gas, rfl, gases', rfl⟩

/-- A successful run's state holds every item its start held warm. -/
theorem accessList_le_of_runTx {sched : Schedule} {accesses : List Access} {db db' : StateDB}
    {gases : List Nat} (run : runTx sched accesses db = (.ok gases, db')) :
    db.accessList ≤ db'.accessList := by
  have grows := le_accessList_runTx sched accesses db
  rwa [run] at grows

/-- Every access that succeeds charges what the branch of its gas function
for its item's warmth charges. -/
theorem Access.run_charge (sched : Schedule) {access : Access} {db : StateDB} {gas : Nat}
    {i : Item} (ok : (access.run sched db).1 = .ok gas) (touches : access.item? = some i) :
    access.charge sched db (db.accessList.warm i) = some gas := by
  cases access with
  | sload contract stack =>
    rcases stack with ⟨_ | ⟨k, rest⟩⟩ <;> cases touches
    rw [Access.run, gasSLoadEIP2929_cons] at ok
    split at ok <;> cases ok <;> simp_all [charge, warm]
  | sstore contract stack =>
    rcases makeGasSStoreFunc_cases sched.clearingRefund contract stack db with
      ⟨err, -, result⟩ | ⟨x, y, rest, rfl, ⟨err, result, -⟩ | ⟨-, -, -, result⟩⟩ <;>
      rw [Access.run, result] at ok <;> cases ok
    cases touches
    rfl
  | accountCheck stack =>
    rcases stack with ⟨_ | ⟨w, rest⟩⟩ <;> cases touches
    rw [Access.run, gasEip2929AccountCheck_cons] at ok
    cases h : db.accessList.addresses w.toAddress <;> simp_all [charge, warm]
  | extCodeCopy stack mem memorySize =>
    rcases stack with ⟨_ | ⟨w, rest⟩⟩ <;> cases touches
    rw [Access.run, gasExtCodeCopyEIP2929_cons] at ok
    simp only [charge, warm]
    split at ok
    · cases ok
    · rename_i copy _ copied
      rw [copied, Option.map_some']
      by_cases h : db.accessList.addresses w.toAddress = true <;>
        simp only [h, Bool.false_eq_true, ↓reduceIte] at ok ⊢
      · cases ok
        rfl
      · split_ifs at ok
        cases ok
        rfl
  | call variant contract stack mem memorySize =>
    rcases stack with ⟨_ | ⟨w₀, _ | ⟨w, rest⟩⟩⟩ <;> cases touches
    rw [Access.run, makeCallVariantGasCallEIP2929_cons] at ok
    simp only [charge, warm]
    by_cases h : db.accessList.addresses w.toAddress = true <;>
      simp only [h, Bool.false_eq_true, ↓reduceIte] at ok ⊢
    · split at ok <;> rename_i calculated <;> rw [calculated] <;> cases ok
      rfl
    · split at ok
      · cases ok
      · rename_i paid
        obtain ⟨-, rfl⟩ := Contract.useGas_eq_some_iff.mp paid
        split at ok
        · cases ok
        · rename_i calculated
          rw [calculated, ← Except.ok.inj ok]
          rfl
  | selfdestruct contract stack =>
    rcases stack with ⟨_ | ⟨w, rest⟩⟩ <;> cases touches
    rw [run_selfdestruct, makeSelfdestructGasFn_cons] at ok
    cases ok
    simp only [charge, warm]
    split_ifs <;> simp
  | addRefund => cases touches

/-! ## Each item's surcharge over a run

Consider a successful run in which an access `x` touches an item `i` and a
later access `y` touches an item that `i` warms (`i` itself, or for a slot its
account).  The list only grows along the run; `x` charges the branch of its gas
function that `i`'s warmth selects, the cold one when nothing warmed `i` before
it; `i` stays warm to the end; and `y` charges its warm branch.  An item warm
when the run starts (a transaction's EIP-2930 access list) is charged no cold
component by any access (`cold_surcharge_once_prewarmed_slot`). -/

theorem cold_surcharge_once (sched : Schedule) (db : StateDB) (pre mid post : List Access)
    (x y : Access) {gases : List Nat} {db' : StateDB}
    (run : runTx sched (pre ++ x :: mid ++ y :: post) db = (.ok gases, db'))
    {i j : Item} (touchesX : x.item? = some i) (touchesY : y.item? = some j)
    (covers : i.warms j = true) :
    let atX := (runTx sched pre db).2
    let atY := (runTx sched (pre ++ x :: mid) db).2
    (∀ first second third, pre ++ x :: mid ++ y :: post = first ++ second ++ third →
      (runTx sched first db).2.accessList ≤ (runTx sched (first ++ second) db).2.accessList) ∧
    (∃ gas, (x.run sched atX).1 = .ok gas ∧
      x.charge sched atX (atX.accessList.warm i) = some gas) ∧
    (db.accessList.warm i = false → (∀ z ∈ pre, ∀ k, z.item? = some k → k.warms i = false) →
      atX.accessList.warm i = false) ∧
    db'.accessList.warm i = true ∧
    ∃ gas, (y.run sched atY).1 = .ok gas ∧ y.charge sched atY true = some gas := by
  intro atX atY
  obtain ⟨⟨_, toY⟩, _, fromY⟩ := runTx_append_eq_ok run
  obtain ⟨_, _, fromX⟩ := runTx_append_eq_ok toY
  obtain ⟨gasX, xOk, _, midRun⟩ := runTx_cons_eq_ok fromX
  obtain ⟨gasY, yOk, _, postRun⟩ := runTx_cons_eq_ok fromY
  have warmAfterX := (x.accessList_run sched atX).2 gasX i (by rw [xOk]) touchesX
  have warmAtY := warm_of_le (accessList_le_of_runTx midRun) warmAfterX
  refine ⟨fun first second third split => ?_, ⟨gasX, by rw [xOk],
    Access.run_charge sched (by rw [xOk]) touchesX⟩, fun cold untouched => ?_,
    warm_of_le ((y.le_accessList_run sched atY).trans (accessList_le_of_runTx postRun)) warmAtY,
    gasY, by rw [yOk], warm_of_warms warmAtY covers ▸ Access.run_charge sched (by rw [yOk]) touchesY⟩
  · rw [split] at run
    obtain ⟨⟨_, toSecond⟩, -⟩ := runTx_append_eq_ok run
    obtain ⟨⟨_, toFirst⟩, -⟩ := runTx_append_eq_ok toSecond
    rw [runTx_append_snd_of_ok toFirst]
    exact le_accessList_runTx sched second _
  · rcases warmAtX : atX.accessList.warm i
    · rfl
    · rcases warm_runTx sched pre db warmAtX with warm | ⟨z, mem, k, touches, warms⟩
      · rw [cold] at warm
        cases warm
      · rw [untouched z mem k touches] at warms
        cases warms

/-- Two SLOADs of one slot, with an account check between them: the first
pays the cold slot cost, the second the warm read cost. -/
theorem cold_surcharge_once_sload_twice :
    let sched : Schedule := ⟨SstoreClearsScheduleRefundEIP3529, false, fun _ m _ => some (0, m),
      fun _ _ c _ m _ => (some 0, c, m)⟩
    let db := StateDB.start AccessList.empty (fun _ => 0) (fun _ => 0) (fun _ => false)
    let x := Access.sload ⟨0, 3000⟩ ⟨[7]⟩
    let atX := (runTx sched [] db).2
    let atY := (runTx sched ([] ++ x :: [.accountCheck ⟨[5]⟩]) db).2
    let db' := (runTx sched ([] ++ x :: [.accountCheck ⟨[5]⟩] ++ x :: []) db).2
    runTx sched ([] ++ x :: [.accountCheck ⟨[5]⟩] ++ x :: []) db =
        (.ok [ColdSloadCostEIP2929, ColdAccountAccessCostEIP2929 - WarmStorageReadCostEIP2929,
          WarmStorageReadCostEIP2929], db') ∧
      (∀ first second third, [] ++ x :: [.accountCheck ⟨[5]⟩] ++ x :: [] = first ++ second ++ third →
        (runTx sched first db).2.accessList ≤ (runTx sched (first ++ second) db).2.accessList) ∧
      (∃ gas, (x.run sched atX).1 = .ok gas ∧
        x.charge sched atX (atX.accessList.warm (.slot (0, 7))) = some gas) ∧
      (db.accessList.warm (.slot (0, 7)) = false →
        (∀ z ∈ ([] : List Access), ∀ k, z.item? = some k → k.warms (.slot (0, 7)) = false) →
        atX.accessList.warm (.slot (0, 7)) = false) ∧
      db'.accessList.warm (.slot (0, 7)) = true ∧
      ∃ gas, (x.run sched atY).1 = .ok gas ∧ x.charge sched atY true = some gas := by
  intro sched db x _ _ _
  exact ⟨rfl, @cold_surcharge_once sched db [] [.accountCheck ⟨[5]⟩] [] x x
    [ColdSloadCostEIP2929, ColdAccountAccessCostEIP2929 - WarmStorageReadCostEIP2929,
      WarmStorageReadCostEIP2929] _ rfl (.slot (0, 7)) (.slot (0, 7)) rfl rfl (by decide)⟩

/-- A slot on the transaction's access list is warm from the start: the first
SLOAD of it pays the warm read cost, not the cold slot cost. -/
theorem cold_surcharge_once_prewarmed_slot :
    let sched : Schedule := ⟨SstoreClearsScheduleRefundEIP3529, false, fun _ m _ => some (0, m),
      fun _ _ c _ m _ => (some 0, c, m)⟩
    let db := StateDB.start (AccessList.empty.addSlot 0 7) (fun _ => 0) (fun _ => 0) (fun _ => false)
    runTx sched [.sload ⟨0, 3000⟩ ⟨[7]⟩] db = (.ok [WarmStorageReadCostEIP2929], db) ∧
      WarmStorageReadCostEIP2929 ≠ ColdSloadCostEIP2929 :=
  ⟨rfl, by decide⟩

/-! ## SELFDESTRUCT's refund is granted once

`makeSelfdestructGasFn` adds `SelfdestructRefundGas` only for a contract not
yet marked `HasSuicided`, the SELFDESTRUCT that follows it marks the contract,
and no access clears a mark.  Over a run, every SELFDESTRUCT of a contract
after a first one adds nothing to the refund counter. -/

theorem Access.hasSuicided_run_eq_true (sched : Schedule) {access : Access} {db : StateDB}
    {a : Addr} :
    (access.run sched db).2.hasSuicided a = true ↔
      db.hasSuicided a = true ∨ access.marks? = some a := by
  rw [Access.hasSuicided_run]
  cases access.marks? with
  | none => simp
  | some b =>
    by_cases same : a = b
    · subst same
      simp
    · simp [Function.update_apply, same, Ne.symm same]

/-- A contract marked destroyed stays marked over any run. -/
theorem hasSuicided_runTx_of_marked (sched : Schedule) (accesses : List Access) (db : StateDB)
    {a : Addr} (marked : db.hasSuicided a = true) :
    (runTx sched accesses db).2.hasSuicided a = true := by
  induction accesses generalizing db with
  | nil => exact marked
  | cons access rest ih =>
    have step := (@Access.hasSuicided_run_eq_true sched access db a).mpr (.inl marked)
    rw [runTx_cons_snd]
    split
    · exact step
    · exact ih _ step

/-- Over any run a contract becomes marked only through a SELFDESTRUCT of it. -/
theorem marked_of_hasSuicided_runTx (sched : Schedule) (accesses : List Access) (db : StateDB)
    {a : Addr} (marked : (runTx sched accesses db).2.hasSuicided a = true) :
    db.hasSuicided a = true ∨ ∃ z ∈ accesses, z.marks? = some a := by
  induction accesses generalizing db with
  | nil => exact .inl marked
  | cons access rest ih =>
    rw [runTx_cons_snd] at marked
    split at marked
    · exact ((Access.hasSuicided_run_eq_true sched).mp marked).imp_right fun marks =>
        ⟨access, .head _, marks⟩
    · rcases ih _ marked with earlier | ⟨z, mem, marks⟩
      · exact ((Access.hasSuicided_run_eq_true sched).mp earlier).imp_right fun marks =>
          ⟨access, .head _, marks⟩
      · exact .inr ⟨z, .tail _ mem, marks⟩

/-- Two SELFDESTRUCTs of one contract in a successful run: the first adds
`SelfdestructRefundGas` when refunds are enabled and the contract is not yet
marked, which it is not if neither the start nor an earlier access marked it;
the contract stays marked to the end; the second adds nothing. -/
theorem selfdestruct_refund_once (sched : Schedule) (db : StateDB) (pre mid post : List Access)
    (contract contract' : Contract) (stack stack' : Stack) {gases : List Nat} {db' : StateDB}
    (run : runTx sched (pre ++ .selfdestruct contract stack :: mid ++
      .selfdestruct contract' stack' :: post) db = (.ok gases, db'))
    (same : contract'.address = contract.address) :
    let atX := (runTx sched pre db).2
    let atY := (runTx sched (pre ++ .selfdestruct contract stack :: mid) db).2
    ((Access.selfdestruct contract stack).run sched atX).2.refund = atX.refund +
        (if sched.refundsEnabled && !atX.hasSuicided contract.address then SelfdestructRefundGas
        else 0) ∧
      (db.hasSuicided contract.address = false →
        (∀ z ∈ pre, z.marks? ≠ some contract.address) →
        atX.hasSuicided contract.address = false) ∧
      db'.hasSuicided contract.address = true ∧
      ((Access.selfdestruct contract' stack').run sched atY).2.refund = atY.refund := by
  intro atX atY
  obtain ⟨⟨_, toY⟩, _, fromY⟩ := runTx_append_eq_ok run
  obtain ⟨_, _, fromX⟩ := runTx_append_eq_ok toY
  obtain ⟨_, xOk, _, midRun⟩ := runTx_cons_eq_ok fromX
  obtain ⟨_, yOk, -⟩ := runTx_cons_eq_ok fromY
  rcases stack with ⟨_ | ⟨w, rest⟩⟩
  · cases xOk
  rcases stack' with ⟨_ | ⟨w', rest'⟩⟩
  · cases yOk
  have markedAtY : atY.hasSuicided contract.address = true := by
    have marked := hasSuicided_runTx_of_marked sched mid _
      ((@Access.hasSuicided_run_eq_true sched (.selfdestruct contract ⟨w :: rest⟩) atX
        contract.address).mpr (.inr rfl))
    rwa [midRun] at marked
  refine ⟨Access.refund_run_selfdestruct sched contract w rest atX, fun unmarked untouched => ?_,
    ?_, ?_⟩
  · rcases markedAtX : atX.hasSuicided contract.address
    · rfl
    · rcases marked_of_hasSuicided_runTx sched pre db markedAtX with marked | ⟨z, mem, marks⟩
      · rw [unmarked] at marked
        cases marked
      · exact absurd marks (untouched z mem)
  · have marked := hasSuicided_runTx_of_marked sched (.selfdestruct contract' ⟨w' :: rest'⟩ :: post)
      atY markedAtY
    rwa [fromY] at marked
  · rw [Access.refund_run_selfdestruct, same, markedAtY]
    simp

/-- A contract that destroys itself twice, with an SLOAD between: only the
first SELFDESTRUCT is refunded. -/
theorem selfdestruct_refund_once_twice :
    let sched : Schedule := ⟨SstoreClearsScheduleRefundEIP3529, true, fun _ m _ => some (0, m),
      fun _ _ c _ m _ => (some 0, c, m)⟩
    let db := StateDB.start AccessList.empty (fun _ => 0) (fun _ => 5) (fun _ => false)
    let contract : Contract := ⟨1, 100000⟩
    let accesses := [] ++ .selfdestruct contract ⟨[2]⟩ :: [.sload contract ⟨[7]⟩] ++
      .selfdestruct contract ⟨[2]⟩ :: []
    let atX := (runTx sched [] db).2
    let atY := (runTx sched ([] ++ .selfdestruct contract ⟨[2]⟩ :: [.sload contract ⟨[7]⟩]) db).2
    runTx sched accesses db =
        (.ok [ColdAccountAccessCostEIP2929, ColdSloadCostEIP2929, 0], (runTx sched accesses db).2) ∧
      contract.address = contract.address ∧
      ((Access.selfdestruct contract ⟨[2]⟩).run sched atX).2.refund = atX.refund +
          (if sched.refundsEnabled && !atX.hasSuicided contract.address then SelfdestructRefundGas
          else 0) ∧
        (db.hasSuicided contract.address = false →
          (∀ z ∈ ([] : List Access), z.marks? ≠ some contract.address) →
          atX.hasSuicided contract.address = false) ∧
        (runTx sched accesses db).2.hasSuicided contract.address = true ∧
        ((Access.selfdestruct contract ⟨[2]⟩).run sched atY).2.refund = atY.refund := by
  intro sched db contract _ _ _
  exact ⟨rfl, rfl, selfdestruct_refund_once sched db [] [.sload contract ⟨[7]⟩] [] contract
    contract ⟨[2]⟩ ⟨[2]⟩ rfl rfl⟩

/-! ## The access list over a run -/

/-- After an access that succeeds, an item is warm exactly when it was, or the
access's own item warms it. -/
theorem Access.warm_run {sched : Schedule} {access : Access} {db db₁ : StateDB} {gas : Nat}
    (ok : access.run sched db = (.ok gas, db₁)) (i : Item) :
    db₁.accessList.warm i = true ↔
      db.accessList.warm i = true ∨ ∃ j, access.item? = some j ∧ j.warms i = true := by
  have list := access.accessList_run sched db
  rw [ok] at list
  dsimp only at list
  obtain ⟨same | ⟨j, touches, added⟩, warmed⟩ := list
  · rw [same]
    refine ⟨.inl, ?_⟩
    rintro (warm | ⟨j, touches, covers⟩)
    · exact warm
    · exact warm_of_warms (same ▸ warmed gas j rfl touches) covers
  · simp only [added, warm_add, Bool.or_eq_true, touches, Option.some.injEq, exists_eq_left']

/-- EIP-2929's access list over a transaction: after a run that succeeds, an
item is warm exactly when it was warm at the start or an access of the run
warmed it (its own item, or for a slot also the slot's account). -/
theorem runTx_warm_iff (sched : Schedule) (accesses : List Access) (db : StateDB)
    {gases : List Nat} {db' : StateDB} (run : runTx sched accesses db = (.ok gases, db'))
    (i : Item) :
    db'.accessList.warm i = true ↔ db.accessList.warm i = true ∨
      ∃ x ∈ accesses, ∃ j, x.item? = some j ∧ j.warms i = true := by
  induction accesses generalizing db gases with
  | nil =>
    cases run
    simp
  | cons access rest ih =>
    rcases step : access.run sched db with ⟨_ | gas, db₁⟩
    · rw [runTx, step] at run
      cases run
    · rw [runTx, step] at run
      dsimp only at run
      rcases tail : runTx sched rest db₁ with ⟨_ | gs, db₂⟩
      · rw [tail] at run
        cases run
      · rw [tail] at run
        cases run
        rw [ih db₁ tail, Access.warm_run step]
        simp only [List.mem_cons, or_and_right, exists_or, exists_eq_left, or_assoc]

theorem runTx_warm_iff_slot_account :
    runTx ⟨SstoreClearsScheduleRefundEIP3529, false, fun _ m _ => some (0, m),
        fun _ _ c _ m _ => (some 0, c, m)⟩ [.sload ⟨0, 3000⟩ ⟨[7]⟩]
        (StateDB.start AccessList.empty (fun _ => 0) (fun _ => 0) (fun _ => false)) =
      (.ok [ColdSloadCostEIP2929], (runTx ⟨SstoreClearsScheduleRefundEIP3529, false,
        fun _ m _ => some (0, m), fun _ _ c _ m _ => (some 0, c, m)⟩ [.sload ⟨0, 3000⟩ ⟨[7]⟩]
        (StateDB.start AccessList.empty (fun _ => 0) (fun _ => 0) (fun _ => false))).2) ∧
    ((runTx ⟨SstoreClearsScheduleRefundEIP3529, false, fun _ m _ => some (0, m),
        fun _ _ c _ m _ => (some 0, c, m)⟩ [.sload ⟨0, 3000⟩ ⟨[7]⟩]
        (StateDB.start AccessList.empty (fun _ => 0) (fun _ => 0)
          (fun _ => false))).2.accessList.warm
        (.address 0) = true ↔
      (StateDB.start AccessList.empty (fun _ => 0) (fun _ => 0)
        (fun _ => false)).accessList.warm (.address 0) = true ∨
      ∃ x ∈ [Access.sload ⟨0, 3000⟩ ⟨[7]⟩], ∃ j, x.item? = some j ∧ j.warms (.address 0) = true) :=
  ⟨rfl, @runTx_warm_iff ⟨SstoreClearsScheduleRefundEIP3529, false, fun _ m _ => some (0, m),
    fun _ _ c _ m _ => (some 0, c, m)⟩ _ _ [ColdSloadCostEIP2929] _ (by rfl) _⟩

end CosmEvm
