import CosmEvm.JumpTable.Activators

/-!
# Earlier activations are absorbed

Every activator overwrites a fixed set of cells, an entry or a gas field of
one, with constants, and never reads the table.  What a sequence of statements
does to one entry is therefore an `EntryEffect`: install an operation, or
overwrite some of the entry's gas fields.  These effects compose, and an
effect repeated after any other absorbs its first occurrence
(`EntryEffect.andThen_absorb`).  The activators install only at their own
opcodes and write fields only at others (`activators_keepApart`), so whether a
run hits a nil entry depends only on the table it starts from
(`applyWrites_eq_foldl`), and enabling names that are enabled again later
changes nothing.
-/

namespace CosmEvm

/-! ## What statements do to one entry -/

/-- An operation with the given gas fields overwritten, `none` where they are
kept. -/
def Operation.patch (o : Operation) (constantGas : Option Nat) (dynamicGas : Option GasFunc) :
    Operation :=
  { o with constantGas := constantGas.getD o.constantGas, dynamicGas := dynamicGas.or o.dynamicGas }

@[simp]
theorem Operation.patch_none (o : Operation) : o.patch none none = o := rfl

@[simp]
theorem Operation.patch_patch (o : Operation) (c c' : Option Nat) (d d' : Option GasFunc) :
    (o.patch c d).patch c' d' = o.patch (c'.or c) (d'.or d) := by
  cases c <;> cases c' <;> cases d <;> cases d' <;> rfl

/-- What a sequence of statements does to one entry. -/
inductive EntryEffect where
  /-- Install this operation. -/
  | replace (o : Operation)
  /-- Overwrite the given gas fields of the entry, if there is one. -/
  | modify (constantGas : Option Nat) (dynamicGas : Option GasFunc)

namespace EntryEffect

/-- The entry after the effect. -/
def apply : EntryEffect → Option Operation → Option Operation
  | .replace o, _ => some o
  | .modify c d, entry => entry.map (·.patch c d)

/-- `e` followed by `f`. -/
def andThen : EntryEffect → EntryEffect → EntryEffect
  | _, .replace o => .replace o
  | .replace o, .modify c d => .replace (o.patch c d)
  | .modify c d, .modify c' d' => .modify (c'.or c) (d'.or d)

@[simp]
theorem apply_andThen (e f : EntryEffect) (entry : Option Operation) :
    (e.andThen f).apply entry = f.apply (e.apply entry) := by
  cases e <;> cases f <;> cases entry <;> simp [andThen, apply]

@[simp]
theorem modify_none_andThen (e : EntryEffect) : (modify none none).andThen e = e := by
  cases e <;> simp [andThen]

@[simp]
theorem andThen_modify_none (e : EntryEffect) : e.andThen (modify none none) = e := by
  cases e <;> simp [andThen]

theorem andThen_assoc (e f g : EntryEffect) :
    (e.andThen f).andThen g = e.andThen (f.andThen g) := by
  cases e <;> cases f <;> cases g <;> simp [andThen, Option.or_assoc]

/-- Overwriting again after any other effect undoes the first overwrite's
share: only the last write to each field counts. -/
theorem andThen_absorb (x y : EntryEffect) : (x.andThen y).andThen x = y.andThen x := by
  cases x with
  | replace o => cases y <;> rfl
  | modify c d =>
    cases y with
    | replace o => simp [andThen]
    | modify c' d' => cases c <;> cases d <;> simp [andThen]

end EntryEffect

namespace Write

/-- What a statement does to the entry at `op`. -/
def effect (op : OpCode) : Write → EntryEffect
  | .install op' operation => if op' = op then .replace operation else .modify none none
  | .setConstantGas op' gas => if op' = op then .modify (some gas) none else .modify none none
  | .setDynamicGas op' fn => if op' = op then .modify none (some fn) else .modify none none

/-- A statement on the whole table, leaving a nil entry nil where `apply`
panics. -/
def update (jt : JumpTable) (w : Write) : JumpTable := fun op => (w.effect op).apply (jt op)

/-- Whether a statement writes a field of an existing entry. -/
def writesField : Write → Bool
  | .install .. => false
  | .setConstantGas .. | .setDynamicGas .. => true

theorem apply_eq_update {jt : JumpTable} {w : Write}
    (defined : w.writesField = true → (jt w.op).isSome = true) : w.apply jt = .ok (w.update jt) := by
  cases w with
  | install op o =>
    refine congrArg Except.ok (funext fun op' => ?_)
    rcases eq_or_ne op op' with rfl | other
    · simp [update, effect, EntryEffect.apply]
    · simp [update, effect, EntryEffect.apply, other, other.symm]
  | setConstantGas op _ | setDynamicGas op _ =>
    obtain ⟨o, found⟩ : ∃ o, jt op = some o := Option.isSome_iff_exists.mp (defined rfl)
    rw [apply, found]
    refine congrArg Except.ok (funext fun op' => ?_)
    rcases eq_or_ne op op' with rfl | other
    · simp [update, effect, EntryEffect.apply, Operation.patch, found]
    · simp [update, effect, EntryEffect.apply, other, other.symm]

end Write

/-- What a sequence of statements does to the entry at `op`. -/
def effectOf (op : OpCode) : List Write → EntryEffect
  | [] => .modify none none
  | w :: ws => (w.effect op).andThen (effectOf op ws)

theorem effectOf_append (op : OpCode) (first second : List Write) :
    effectOf op (first ++ second) = (effectOf op first).andThen (effectOf op second) := by
  induction first with
  | nil => simp [effectOf]
  | cons w ws ih => rw [List.cons_append, effectOf, effectOf, ih, EntryEffect.andThen_assoc]

theorem foldl_update (writes : List Write) (jt : JumpTable) (op : OpCode) :
    writes.foldl Write.update jt op = (effectOf op writes).apply (jt op) := by
  induction writes generalizing jt with
  | nil => cases h : jt op <;> simp [effectOf, EntryEffect.apply, h]
  | cons w ws ih => rw [List.foldl_cons, ih, effectOf, EntryEffect.apply_andThen]; rfl

/-- A block of statements run again after others absorbs its first run. -/
theorem effectOf_absorb (op : OpCode) {block : List Write} {blocks : List (List Write)}
    (mem : block ∈ blocks) :
    effectOf op (block ++ blocks.flatten) = effectOf op blocks.flatten := by
  obtain ⟨before, after, rfl⟩ := List.append_of_mem mem
  simp only [List.flatten_append, List.flatten_cons, effectOf_append]
  rw [← EntryEffect.andThen_assoc, ← EntryEffect.andThen_assoc, EntryEffect.andThen_absorb,
    EntryEffect.andThen_assoc]

theorem effectOf_absorb_all (op : OpCode) (earlier blocks : List (List Write))
    (included : ∀ block ∈ earlier, block ∈ blocks) :
    effectOf op (earlier ++ blocks).flatten = effectOf op blocks.flatten := by
  induction earlier with
  | nil => rfl
  | cons block rest ih =>
    rw [List.cons_append, List.flatten_cons,
      effectOf_absorb op (List.mem_append_right rest (included block (List.mem_cons_self _ _))),
      ih fun b mem => included b (List.mem_cons_of_mem _ mem)]

/-! ## Nil entries -/

/-- The opcodes the activators install an operation at. -/
def installTargets : List OpCode := [SELFBALANCE, CHAINID, BASEFEE, PUSH0, MCOPY]

/-- A statement installs only at `installTargets` and writes fields only
elsewhere. -/
def Write.keepsApart : Write → Bool
  | .install op _ => installTargets.contains op
  | .setConstantGas op _ | .setDynamicGas op _ => !installTargets.contains op

/-- Every activator keeps its installs apart from its field writes. -/
theorem activators_keepApart {eipName : String} {writes : List Write}
    (registered : activators eipName = some writes) : ∀ w ∈ writes, w.keepsApart := by
  unfold activators at registered
  split at registered <;> cases registered <;> decide

/-- Whether every entry the statements write a field of is there. -/
def fieldsDefined (jt : JumpTable) (writes : List Write) : Bool :=
  writes.all fun w => !w.writesField || (jt w.op).isSome

theorem fieldsDefined_congr {jt jt' : JumpTable} {writes : List Write}
    (same : ∀ w ∈ writes, w.writesField = true → (jt' w.op).isSome = (jt w.op).isSome) :
    fieldsDefined jt' writes = fieldsDefined jt writes := by
  rw [Bool.eq_iff_iff, fieldsDefined, fieldsDefined, List.all_eq_true, List.all_eq_true]
  exact forall₂_congr fun w mem => by cases field : w.writesField <;> simp [same w mem, field]

theorem fieldsDefined_of_subset {jt : JumpTable} {first second : List Write}
    (sub : ∀ w ∈ first, w ∈ second) (defined : fieldsDefined jt second = true) :
    fieldsDefined jt first = true :=
  List.all_eq_true.mpr fun w mem => List.all_eq_true.mp defined w (sub w mem)

/-- A field write keeps every entry defined or nil, and an install keeps every
other entry. -/
theorem Write.isSome_update (jt : JumpTable) (w : Write) (op : OpCode)
    (untouched : w.writesField = true ∨ w.op ≠ op) : ((w.update jt) op).isSome = (jt op).isSome := by
  cases w with
  | install op' o =>
    have other : op' ≠ op := by simpa [writesField, Write.op] using untouched
    simp [update, effect, other, EntryEffect.apply]
  | setConstantGas op' _ | setDynamicGas op' _ =>
    simp only [update, effect]
    split_ifs <;> simp [EntryEffect.apply]

/-- Statements kept apart never install where another writes a field. -/
theorem Write.op_ne_of_keepsApart {w w' : Write} (here : w.keepsApart) (there : w'.keepsApart)
    (install : w.writesField = false) (field : w'.writesField = true) : w.op ≠ w'.op := by
  intro same
  cases w <;> cases w' <;> cases install <;> cases field <;>
    (dsimp only [op] at same; subst same; simp only [keepsApart] at here there;
     rw [here] at there; cases there)

/-- A statement kept apart from the later ones leaves every entry they write
a field of defined or nil as it was. -/
theorem fieldsDefined_update {jt : JumpTable} {w : Write} {writes : List Write}
    (apart : ∀ w' ∈ w :: writes, w'.keepsApart) :
    fieldsDefined (w.update jt) writes = fieldsDefined jt writes := by
  refine fieldsDefined_congr fun w' mem field => w.isSome_update jt w'.op ?_
  cases install : w.writesField
  · exact .inr (Write.op_ne_of_keepsApart (apart w (List.mem_cons_self _ _))
      (apart w' (List.mem_cons_of_mem _ mem)) install field)
  · exact .inl rfl

/-- With installs kept apart from field writes, a run panics exactly when a
field it writes is nil in the table it starts from, and otherwise is the pure
run of its statements. -/
theorem applyWrites_eq_foldl (writes : List Write) (jt : JumpTable)
    (apart : ∀ w ∈ writes, w.keepsApart) :
    applyWrites writes jt = if fieldsDefined jt writes then .ok (writes.foldl Write.update jt)
      else .error .nilPointerDereference := by
  induction writes generalizing jt with
  | nil => rfl
  | cons w ws ih =>
    rw [applyWrites_cons, fieldsDefined, List.all_cons, ← fieldsDefined]
    cases defined : !w.writesField || (jt w.op).isSome
    · have undefined : jt w.op = none := by
        cases w <;> simp_all [Write.writesField, Write.op]
      cases w <;> simp_all [Write.writesField, Write.op, Write.apply] <;> rfl
    · rw [Write.apply_eq_update fun field => by simpa [field] using defined, Except.bind, ih _ fun w' mem =>
        apart w' (List.mem_cons_of_mem _ mem), fieldsDefined_update apart]
      rfl

/-! ## Enabling names again -/

theorem enableEIPs_append (first second : List String) (jt : JumpTable) :
    enableEIPs (first ++ second) jt = (enableEIPs first jt).bind (enableEIPs second) := by
  simp only [enableEIPs, List.foldlM_append]
  rfl

/-- Registered names run their activators' statements one block after another. -/
theorem enableEIPs_eq_applyWrites (eipNames : List String) (jt : JumpTable)
    (registered : ∀ n ∈ eipNames, (activators n).isSome) :
    enableEIPs eipNames jt = applyWrites (eipNames.filterMap activators).flatten jt := by
  induction eipNames generalizing jt with
  | nil => rfl
  | cons n ns ih =>
    obtain ⟨writes, found⟩ := Option.isSome_iff_exists.mp (registered n (List.mem_cons_self _ _))
    rw [enableEIPs_cons, enableEIP, found, List.filterMap_cons_some found, List.flatten_cons,
      applyWrites_append]
    exact congrArg _ (funext fun jt' => ih jt' fun n' mem => registered n' (List.mem_cons_of_mem _ mem))

theorem keepApart_of_registered {eipNames : List String} :
    ∀ w ∈ (eipNames.filterMap activators).flatten, w.keepsApart := by
  intro w mem
  obtain ⟨writes, listed, inWrites⟩ := List.mem_flatten.mp mem
  obtain ⟨n, -, found⟩ := List.mem_filterMap.mp listed
  exact activators_keepApart found w inWrites

/-- Enabling the names of `earlier` before names that include them all gives
the same table, or the same panic, as enabling the latter alone; in
particular enabling a list twice is enabling it once. -/
theorem enableEIPs_absorbs (earlier eipNames : List String) (jt : JumpTable)
    (registered : ∀ n ∈ eipNames, (activators n).isSome)
    (included : ∀ n ∈ earlier, n ∈ eipNames) :
    enableEIPs (earlier ++ eipNames) jt = enableEIPs eipNames jt ∧
      (enableEIPs eipNames jt).bind (enableEIPs eipNames) = enableEIPs eipNames jt := by
  have absorbs : ∀ earlier, (∀ n ∈ earlier, n ∈ eipNames) →
      enableEIPs (earlier ++ eipNames) jt = enableEIPs eipNames jt := by
    intro earlier included
    have blocks : ∀ block ∈ earlier.filterMap activators, block ∈ eipNames.filterMap activators := by
      intro block mem
      obtain ⟨n, listed, found⟩ := List.mem_filterMap.mp mem
      exact List.mem_filterMap.mpr ⟨n, included n listed, found⟩
    have fields : fieldsDefined jt ((earlier ++ eipNames).filterMap activators).flatten =
        fieldsDefined jt (eipNames.filterMap activators).flatten := by
      rw [List.filterMap_append, List.flatten_append, fieldsDefined, List.all_append,
        ← fieldsDefined, ← fieldsDefined]
      cases defined : fieldsDefined jt (eipNames.filterMap activators).flatten
      · exact Bool.and_false _
      · refine (Bool.and_true _).trans (fieldsDefined_of_subset (fun w mem => ?_) defined)
        obtain ⟨block, listed, inBlock⟩ := List.mem_flatten.mp mem
        exact List.mem_flatten.mpr ⟨block, blocks block listed, inBlock⟩
    have effects : ((earlier ++ eipNames).filterMap activators).flatten.foldl Write.update jt =
        (eipNames.filterMap activators).flatten.foldl Write.update jt := by
      funext op
      rw [foldl_update, foldl_update, List.filterMap_append, effectOf_absorb_all op _ _ blocks]
    rw [enableEIPs_eq_applyWrites _ _ fun n mem => (List.mem_append.mp mem).elim
        (fun mem => registered n (included n mem)) (registered n),
      enableEIPs_eq_applyWrites _ _ registered, applyWrites_eq_foldl _ _ keepApart_of_registered,
      applyWrites_eq_foldl _ _ keepApart_of_registered, fields, effects]
  exact ⟨absorbs earlier included, by rw [← enableEIPs_append]; exact absorbs eipNames fun _ => id⟩

theorem enableEIPs_absorbs_refund_reduction :
    (∀ n ∈ ["ethereum_2929", "ethereum_3529", "ethereum_5656"], (activators n).isSome) ∧
      (∀ n ∈ ["ethereum_3529"], n ∈ ["ethereum_2929", "ethereum_3529", "ethereum_5656"]) ∧
      enableEIPs (["ethereum_3529"] ++ ["ethereum_2929", "ethereum_3529", "ethereum_5656"])
          (fun _ => some push0Operation) =
        enableEIPs ["ethereum_2929", "ethereum_3529", "ethereum_5656"] (fun _ => some push0Operation) ∧
      (enableEIPs ["ethereum_2929", "ethereum_3529", "ethereum_5656"]
          (fun _ => some push0Operation)).bind
          (enableEIPs ["ethereum_2929", "ethereum_3529", "ethereum_5656"]) =
        enableEIPs ["ethereum_2929", "ethereum_3529", "ethereum_5656"] (fun _ => some push0Operation) :=
  ⟨by decide, by decide, enableEIPs_absorbs _ _ _ (by decide) (by decide)⟩

end CosmEvm
