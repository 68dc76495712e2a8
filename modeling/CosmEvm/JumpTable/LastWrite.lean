import CosmEvm.JumpTable.Absorption

/-!
# The table a list of EIP names builds

Every activator statement overwrites one cell of the table with a constant,
so the table `enableEIPs` builds can be read off the statements of the listed
activators: an entry some activator installs at holds the last operation
installed there, and every other entry keeps its operation with the constant
and the dynamic gas of the last statement that writes each
(`enableEIPs_last_write`).  The order of the names therefore decides every
field two activators write: SSTORE's gas function is that of whichever of
EIP-2200, EIP-2929 and EIP-3529 comes last, so EIP-3529 listed before
EIP-2929 leaves EIP-2929's refunds in place.  Names whose activators write
different opcodes, on the other hand, can be listed in any order
(`enableEIPs_perm`).
-/

namespace CosmEvm

namespace Write

/-- The operation a statement installs at `op`, if it installs one there. -/
def installedAt (op : OpCode) : Write → Option Operation
  | .install op' operation => if op' = op then some operation else none
  | _ => none

/-- The constant gas a statement writes at `op`, if it writes one there. -/
def constantGasAt (op : OpCode) : Write → Option Nat
  | .setConstantGas op' gas => if op' = op then some gas else none
  | _ => none

/-- The dynamic gas function a statement writes at `op`, if it writes one there. -/
def dynamicGasAt (op : OpCode) : Write → Option GasFunc
  | .setDynamicGas op' fn => if op' = op then some fn else none
  | _ => none

/-- What a statement does to one entry, read off what it writes there. -/
theorem effect_eq (op : OpCode) (w : Write) :
    w.effect op = match w.installedAt op with
      | some o => .replace o
      | none => .modify (w.constantGasAt op) (w.dynamicGasAt op) := by
  cases w <;> simp only [effect, installedAt, constantGasAt, dynamicGasAt] <;> split_ifs <;> rfl

/-- A statement kept apart writes no field at an install target and installs
nowhere else. -/
theorem at_of_keepsApart {w : Write} (apart : w.keepsApart) (op : OpCode) :
    (op ∈ installTargets → w.constantGasAt op = none ∧ w.dynamicGasAt op = none) ∧
      (op ∉ installTargets → w.installedAt op = none) := by
  cases w with
  | install op' o =>
    refine ⟨fun _ => ⟨rfl, rfl⟩, fun target => if_neg ?_⟩
    rintro rfl
    exact target (by simpa [keepsApart] using apart)
  | setConstantGas op' _ | setDynamicGas op' _ =>
    refine ⟨fun target => ⟨?_, ?_⟩, fun _ => rfl⟩ <;>
      first
      | rfl
      | (refine if_neg ?_
         rintro rfl
         simp [keepsApart, target] at apart)

/-- A statement that runs leaves the table its pure update gives. -/
theorem eq_update_of_apply {jt jt₁ : JumpTable} {w : Write} (applied : w.apply jt = .ok jt₁) :
    jt₁ = w.update jt := by
  refine Except.ok.inj (applied.symm.trans (apply_eq_update fun field => ?_))
  cases w with
  | install => cases field
  | setConstantGas op _ | setDynamicGas op _ =>
    cases found : jt op with
    | none => rw [apply, found] at applied; cases applied
    | some => rw [Write.op, found]; rfl

end Write

theorem eq_foldl_of_applyWrites {writes : List Write} {jt jt' : JumpTable}
    (applied : applyWrites writes jt = .ok jt') : jt' = writes.foldl Write.update jt := by
  induction writes generalizing jt with
  | nil => cases applied; rfl
  | cons w ws ih =>
    rw [applyWrites_cons] at applied
    cases first : w.apply jt with
    | error => rw [first] at applied; cases applied
    | ok jt₁ =>
      rw [first] at applied
      rw [List.foldl_cons, ← Write.eq_update_of_apply first]
      exact ih applied

/-- A run of EIP names that succeeds leaves the pure update of the listed
activators' statements. -/
theorem eq_foldl_of_enableEIPs {eipNames : List String} {jt jt' : JumpTable}
    (enabled : enableEIPs eipNames jt = .ok jt') :
    jt' = (eipNames.filterMap activators).flatten.foldl Write.update jt := by
  induction eipNames generalizing jt with
  | nil => cases enabled; rfl
  | cons n ns ih =>
    rw [enableEIPs_cons, enableEIP] at enabled
    cases found : activators n with
    | none => rw [found] at enabled; cases enabled
    | some writes =>
      rw [found] at enabled
      dsimp only at enabled
      cases applied : applyWrites writes jt with
      | error => rw [applied] at enabled; cases enabled
      | ok jt₁ =>
        rw [applied] at enabled
        rw [List.filterMap_cons_some found, List.flatten_cons, List.foldl_append,
          ← eq_foldl_of_applyWrites applied]
        exact ih enabled

/-! ## The last write to each cell -/

theorem getLast?_filterMap_cons {α β : Type} (f : α → Option β) (a : α) (l : List α) :
    ((a :: l).filterMap f).getLast? = (l.filterMap f).getLast?.or (f a) := by
  cases found : f a with
  | none => rw [List.filterMap_cons_none found, Option.or_none]
  | some b =>
    rw [List.filterMap_cons_some found, List.getLast?_cons]
    cases (l.filterMap f).getLast? <;> rfl

/-- Where nothing is installed, statements overwrite the entry's gas fields
with the last values written. -/
theorem effectOf_of_no_install (op : OpCode) {writes : List Write}
    (noneInstalled : ∀ w ∈ writes, w.installedAt op = none) :
    effectOf op writes = .modify (writes.filterMap (·.constantGasAt op)).getLast?
      (writes.filterMap (·.dynamicGasAt op)).getLast? := by
  induction writes with
  | nil => rfl
  | cons w ws ih =>
    rw [effectOf, ih fun w' mem => noneInstalled w' (List.mem_cons_of_mem _ mem), Write.effect_eq,
      noneInstalled w (List.mem_cons_self _ _), getLast?_filterMap_cons, getLast?_filterMap_cons]
    rfl

/-- Where no field is written, the entry becomes the last operation installed,
if there is one. -/
theorem effectOf_of_no_field (op : OpCode) {writes : List Write}
    (untouched : ∀ w ∈ writes, w.constantGasAt op = none ∧ w.dynamicGasAt op = none) :
    effectOf op writes = match (writes.filterMap (·.installedAt op)).getLast? with
      | some o => .replace o
      | none => .modify none none := by
  induction writes with
  | nil => rfl
  | cons w ws ih =>
    obtain ⟨noConstant, noDynamic⟩ := untouched w (List.mem_cons_self _ _)
    rw [effectOf, ih fun w' mem => untouched w' (List.mem_cons_of_mem _ mem), Write.effect_eq,
      getLast?_filterMap_cons, noConstant, noDynamic]
    cases (ws.filterMap (·.installedAt op)).getLast? <;> cases w.installedAt op <;> rfl

/-- With installs kept apart from field writes, each entry after the pure
update is the last operation installed at it, or its old operation with the
last constant and dynamic gas written. -/
theorem foldl_update_of_keepsApart (writes : List Write) (jt : JumpTable) (op : OpCode)
    (apart : ∀ w ∈ writes, w.keepsApart) :
    writes.foldl Write.update jt op = (writes.filterMap (·.installedAt op)).getLast?.or
      ((jt op).map (·.patch (writes.filterMap (·.constantGasAt op)).getLast?
        (writes.filterMap (·.dynamicGasAt op)).getLast?)) := by
  rw [foldl_update]
  by_cases target : op ∈ installTargets
  · have untouched w mem := (Write.at_of_keepsApart (apart w mem) op).1 target
    have noConstant : writes.filterMap (·.constantGasAt op) = [] :=
      List.filterMap_eq_nil_iff.mpr fun w mem => (untouched w mem).1
    have noDynamic : writes.filterMap (·.dynamicGasAt op) = [] :=
      List.filterMap_eq_nil_iff.mpr fun w mem => (untouched w mem).2
    rw [effectOf_of_no_field op untouched, noConstant, noDynamic]
    cases (writes.filterMap (·.installedAt op)).getLast? <;> cases jt op <;> rfl
  · have noInstall : writes.filterMap (·.installedAt op) = [] :=
      List.filterMap_eq_nil_iff.mpr fun w mem => (Write.at_of_keepsApart (apart w mem) op).2 target
    rw [effectOf_of_no_install op fun w mem => (Write.at_of_keepsApart (apart w mem) op).2 target,
      noInstall]
    rfl

/-- Whenever enabling a list of EIP names succeeds, every entry of the table
is the operation the last listed activator to install there installed, or, if
none did, the entry as it was with its constant and dynamic gas overwritten by
the last statement of the listed activators that writes each. -/
theorem enableEIPs_last_write (eipNames : List String) (jt jt' : JumpTable) (op : OpCode)
    (enabled : enableEIPs eipNames jt = .ok jt') :
    let writes := (eipNames.filterMap activators).flatten
    jt' op = (writes.filterMap (·.installedAt op)).getLast?.or
      ((jt op).map (·.patch (writes.filterMap (·.constantGasAt op)).getLast?
        (writes.filterMap (·.dynamicGasAt op)).getLast?)) := by
  rw [eq_foldl_of_enableEIPs enabled]
  exact foldl_update_of_keepsApart _ jt op keepApart_of_registered

theorem enableEIPs_last_write_eip3529_first :
    let base : JumpTable := fun _ => some push0Operation
    let writes := (["ethereum_3529", "ethereum_2929"].filterMap activators).flatten
    enableEIPs ["ethereum_3529", "ethereum_2929"] base = .ok (writes.foldl Write.update base) ∧
      writes.foldl Write.update base SSTORE = (writes.filterMap (·.installedAt SSTORE)).getLast?.or
        ((base SSTORE).map (·.patch (writes.filterMap (·.constantGasAt SSTORE)).getLast?
          (writes.filterMap (·.dynamicGasAt SSTORE)).getLast?)) ∧
      (writes.filterMap (·.dynamicGasAt SSTORE)).getLast? = some .gasSStoreEIP2929 := by
  have enabled : enableEIPs ["ethereum_3529", "ethereum_2929"] (fun _ => some push0Operation) =
      .ok ((["ethereum_3529", "ethereum_2929"].filterMap activators).flatten.foldl Write.update
        fun _ => some push0Operation) := by
    rw [enableEIPs_eq_applyWrites _ _ (by decide), applyWrites_eq_foldl _ _ keepApart_of_registered,
      if_pos (by decide)]
  exact ⟨enabled, enableEIPs_last_write _ _ _ SSTORE enabled, rfl⟩

/-! ## Reordering names -/

/-- Statements that write none of `op`'s cells leave its entry alone. -/
theorem effectOf_of_apart (op : OpCode) {writes : List Write} (apart : ∀ w ∈ writes, w.op ≠ op) :
    effectOf op writes = .modify none none := by
  induction writes with
  | nil => rfl
  | cons w ws ih =>
    rw [effectOf, ih fun w' mem => apart w' (List.mem_cons_of_mem _ mem),
      EntryEffect.andThen_modify_none]
    cases w <;> exact if_neg (apart _ (List.mem_cons_self _ _))

/-- Two blocks of statements writing different opcodes give the same pure
update in either order. -/
theorem foldl_update_comm {first second : List Write} (jt : JumpTable)
    (disjoint : ∀ w ∈ first, ∀ w' ∈ second, w.op ≠ w'.op) :
    (first ++ second).foldl Write.update jt = (second ++ first).foldl Write.update jt := by
  funext op
  rw [foldl_update, foldl_update, effectOf_append, effectOf_append]
  by_cases written : ∃ w ∈ first, w.op = op
  · obtain ⟨w, mem, rfl⟩ := written
    rw [effectOf_of_apart w.op fun w' mem' same => disjoint w mem w' mem' same.symm,
      EntryEffect.modify_none_andThen, EntryEffect.andThen_modify_none]
  · push_neg at written
    rw [effectOf_of_apart op written, EntryEffect.modify_none_andThen,
      EntryEffect.andThen_modify_none]

/-- Whether two names' activators write different opcodes. -/
def WritesApart (a b : String) : Prop :=
  ∀ w ∈ (activators a).getD [], ∀ w' ∈ (activators b).getD [], w.op ≠ w'.op

instance : DecidableRel WritesApart := fun _ _ => inferInstanceAs (Decidable (∀ _ ∈ _, _))

theorem WritesApart.symm {a b : String} (apart : WritesApart a b) : WritesApart b a :=
  fun w mem w' mem' same => apart w' mem' w mem same.symm

/-- Two registered names whose activators write different opcodes can be
enabled in either order. -/
theorem enableEIPs_pair_comm {a b : String} (jt : JumpTable) (registeredA : (activators a).isSome)
    (registeredB : (activators b).isSome) (apart : WritesApart a b) :
    enableEIPs [a, b] jt = enableEIPs [b, a] jt := by
  obtain ⟨first, foundA⟩ := Option.isSome_iff_exists.mp registeredA
  obtain ⟨second, foundB⟩ := Option.isSome_iff_exists.mp registeredB
  have registered : ∀ n ∈ [a, b], (activators n).isSome := by simp [registeredA, registeredB]
  have registered' : ∀ n ∈ [b, a], (activators n).isSome := by simp [registeredA, registeredB]
  have keptApart {x y : String} {writes writes' : List Write} (here : activators x = some writes)
      (there : activators y = some writes') : ∀ w ∈ writes ++ writes', w.keepsApart :=
    fun w mem => (List.mem_append.mp mem).elim (activators_keepApart here w)
      (activators_keepApart there w)
  rw [enableEIPs_eq_applyWrites _ _ registered, enableEIPs_eq_applyWrites _ _ registered']
  simp only [List.filterMap_cons_some foundA, List.filterMap_cons_some foundB,
    List.filterMap_nil, List.flatten_cons, List.flatten_nil, List.append_nil]
  rw [applyWrites_eq_foldl _ _ (keptApart foundA foundB),
    applyWrites_eq_foldl _ _ (keptApart foundB foundA),
    fieldsDefined, fieldsDefined, List.all_append, List.all_append, Bool.and_comm,
    foldl_update_comm jt fun w mem w' mem' => apart w (by rw [foundA]; exact mem) w'
      (by rw [foundB]; exact mem')]

/-- Reordering a list of registered names whose activators pairwise write
different opcodes changes neither the table enabling them builds nor the
error it stops with. -/
theorem enableEIPs_perm {order eipNames : List String} (perm : order.Perm eipNames)
    (jt : JumpTable) (registered : ∀ n ∈ eipNames, (activators n).isSome)
    (apart : eipNames.Pairwise WritesApart) :
    enableEIPs order jt = enableEIPs eipNames jt := by
  induction perm generalizing jt with
  | nil => rfl
  | cons n _ ih =>
    rw [enableEIPs_cons, enableEIPs_cons]
    exact congrArg _ (funext fun jt₁ => ih jt₁ (fun n' mem => registered n' (.tail _ mem))
      (List.pairwise_cons.mp apart).2)
  | swap m n rest =>
    have pair : enableEIPs [n, m] jt = enableEIPs [m, n] jt :=
      enableEIPs_pair_comm jt (registered n (.tail _ (.head _))) (registered m (.head _))
        ((List.pairwise_cons.mp apart).1 n (.head _)).symm
    show enableEIPs ([n, m] ++ rest) jt = enableEIPs ([m, n] ++ rest) jt
    rw [enableEIPs_append, enableEIPs_append, pair]
  | trans first second ih₁ ih₂ =>
    rw [ih₁ jt (fun n mem => registered n (second.mem_iff.mp mem))
      ((second.pairwise_iff WritesApart.symm).mpr apart), ih₂ jt registered apart]

theorem enableEIPs_perm_apart :
    let order := ["ethereum_3529", "ethereum_5656", "ethereum_1884", "ethereum_1344"]
    let eipNames := ["ethereum_1344", "ethereum_1884", "ethereum_3529", "ethereum_5656"]
    order.Perm eipNames ∧ (∀ n ∈ eipNames, (activators n).isSome) ∧
      eipNames.Pairwise WritesApart ∧
      enableEIPs order (fun _ => some push0Operation) =
        enableEIPs eipNames (fun _ => some push0Operation) :=
  ⟨by decide, by decide, by decide, enableEIPs_perm (by decide) _ (by decide) (by decide)⟩

end CosmEvm
