import CosmEvm.Core.Strconv
import CosmEvm.JumpTable.Activators

/-!
# EIP names

`ValidateEIPName` splits a name on `_` with `strings.Split`, asks for exactly
two pieces, and asks `strconv.Atoi` to accept the second.  Go strings are byte
sequences, so names are byte lists here, and `strings.Split(s, "_")` is
`List.splitOn`: like Go it returns one piece more than there are separators,
and `[""]` for the empty string (`length_splitOn`).

`validateEIPName_eq_ok_iff` gives the names it accepts: an underscore-free
chain name, one `_`, and a numeral in the `int64` range.  Every name the
`activators` registry holds is one of them.

`ActivateableEips` collects the registry's keys in whatever order Go's
`range` visits the map, which the language leaves unspecified, and sorts them;
every visiting order gives the same list (`activateableEips_perm`).
-/

namespace CosmEvm

/-! ## strings.Split -/

section Split

variable {α : Type} [DecidableEq α] (sep : α)

/-- `strings.Split` returns one piece more than there are separators. -/
theorem length_splitOn (s : List α) : (s.splitOn sep).length = s.count sep + 1 := by
  induction s with
  | nil => rfl
  | cons x xs ih =>
    simp only [List.splitOn, List.splitOnP_cons, List.count_cons, beq_iff_eq] at ih ⊢
    split
    · rw [List.length_cons, ih]
    · rw [List.length_modifyHead, ih]

/-- A string splits into exactly two pieces when one separator stands between
two separator-free parts. -/
theorem splitOn_eq_pair_iff (s first second : List α) :
    s.splitOn sep = [first, second] ↔
      s = first ++ sep :: second ∧ sep ∉ first ∧ sep ∉ second := by
  constructor
  · intro pair
    have joined : s = first ++ sep :: second := by
      rw [← List.intercalate_splitOn s sep, pair]
      simp [List.intercalate]
    have once := length_splitOn sep s
    rw [pair, joined, List.count_append, List.count_cons_self] at once
    rw [List.length_cons, List.length_singleton] at once
    exact ⟨joined, List.count_eq_zero.mp (by omega), List.count_eq_zero.mp (by omega)⟩
  · rintro ⟨rfl, notFirst, notSecond⟩
    have apart : ∀ piece : List α, sep ∉ piece → ∀ x ∈ piece, ¬ (x == sep) :=
      fun piece absent x mem same => absent (eq_of_beq same ▸ mem)
    rw [List.splitOn, List.splitOnP_first _ _ (apart _ notFirst) sep (beq_self_eq_true sep),
      List.splitOnP_eq_single _ _ (apart _ notSecond)]

end Split

/-! ## ValidateEIPName -/

/-- A numeral holds no underscore: with base 10, `Atoi` takes no digit
separators. -/
theorem IsInt64Numeral.underscore_not_mem {number : List UInt8}
    (numeral : IsInt64Numeral number) : '_'.toUInt8 ∉ number := by
  obtain ⟨sign, digits, rfl, sign_cases, -, allDigits, -⟩ := numeral
  rw [List.mem_append, not_or]
  refine ⟨?_, fun mem => absurd (allDigits _ mem) (by decide)⟩
  rcases sign_cases with rfl | rfl | rfl <;> decide

/-- `ValidateEIPName`: an EIP name must be `chainName_Number`. -/
def validateEIPName (eipName : List UInt8) : Except String Unit :=
  let eipSplit := eipName.splitOn '_'.toUInt8
  if eipSplit.length ≠ 2 then
    .error "eip name does not conform to structure \x27chainName_Number\x27"
  else if (Strconv.atoi (eipSplit.getD 1 [])).2.isSome then
    .error "eip number should be convertible to int"
  else .ok ()

/-- The names `ValidateEIPName` accepts: an underscore-free chain name, one
`_`, and a numeral `Atoi` reads into an `int`.  Every other name is an error. -/
theorem validateEIPName_eq_ok_iff (eipName : List UInt8) :
    validateEIPName eipName = .ok () ↔
      ∃ chainName number, eipName = chainName ++ '_'.toUInt8 :: number ∧
        '_'.toUInt8 ∉ chainName ∧ IsInt64Numeral number := by
  unfold validateEIPName
  dsimp only
  constructor
  · intro accepted
    split at accepted
    · cases accepted
    · next twoPieces =>
      obtain ⟨chainName, number, pieces⟩ := List.length_eq_two.mp (not_not.mp twoPieces)
      obtain ⟨split, notChain, -⟩ := (splitOn_eq_pair_iff _ _ _ _).mp pieces
      rw [pieces] at accepted
      split at accepted
      · cases accepted
      · next parsed =>
        exact ⟨chainName, number, split, notChain,
          (Strconv.atoi_eq_none_iff number).mp (Option.not_isSome_iff_eq_none.mp parsed)⟩
  · rintro ⟨chainName, number, rfl, notChain, numeral⟩
    rw [(splitOn_eq_pair_iff _ _ _ _).mpr ⟨rfl, notChain, numeral.underscore_not_mem⟩,
      if_neg (show ¬ [chainName, number].length ≠ 2 from not_not.mpr rfl), if_neg]
    exact Option.not_isSome_iff_eq_none.mpr ((Strconv.atoi_eq_none_iff number).mpr numeral)

example : validateEIPName "ethereum5656".toUTF8.data.toList =
    .error "eip name does not conform to structure \x27chainName_Number\x27" := rfl

example : validateEIPName "ethereum_-9223372036854775808".toUTF8.data.toList = .ok () := rfl

example : validateEIPName "ethereum_9223372036854775808".toUTF8.data.toList =
    .error "eip number should be convertible to int" := rfl

/-! ## The registry -/

/-- The keys of the `activators` map literal, in the order they are written. -/
def activatorNames : List String :=
  ["ethereum_5656", "ethereum_3855", "ethereum_3529", "ethereum_3198", "ethereum_2929",
    "ethereum_2200", "ethereum_1884", "ethereum_1344"]

theorem activators_isSome_iff (eipName : String) :
    (activators eipName).isSome ↔ eipName ∈ activatorNames := by
  unfold activators
  split <;> simp_all [activatorNames]

/- Every registered name, as the UTF-8 bytes of its Go string literal, passes
`ValidateEIPName`. -/
example : activatorNames.all (fun eipName => (validateEIPName eipName.toUTF8.data.toList).toBool) :=
  by decide

/-- `ExistsEipActivator`. -/
def existsEipActivator (eipName : String) : Bool :=
  (activators eipName).isSome

/-- `ActivateableEips`, with the keys in the order `order` that Go's `range`
visits the map in.  `sort.Strings` compares strings bytewise, which on UTF-8
is the order of their characters, and sorts fewer than thirteen strings by
insertion. -/
def activateableEips (order : List String) : List String :=
  if 0 < activatorNames.length then
    (order.foldl (fun names k => names ++ [k]) []).insertionSort (· ≤ ·)
  else []

theorem activateableEips_eq (order : List String) :
    activateableEips order = order.insertionSort (· ≤ ·) := by
  have appended : ∀ names : List String,
      order.foldl (fun names k => names ++ [k]) names = names ++ order := by
    induction order with
    | nil => exact fun names => (List.append_nil names).symm
    | cons k ks ih => exact fun names => (ih _).trans (List.append_cons names k ks).symm
  rw [activateableEips, if_pos (by decide), appended, List.nil_append]

/-- Whatever order Go's `range` visits the registry in, `ActivateableEips`
returns the same list. -/
theorem activateableEips_perm {order order' : List String} (visits : order.Perm order') :
    activateableEips order = activateableEips order' := by
  rw [activateableEips_eq, activateableEips_eq]
  exact List.eq_of_perm_of_sorted
    (((List.perm_insertionSort _ order).trans visits).trans (List.perm_insertionSort _ order').symm)
    (List.sorted_insertionSort _ order) (List.sorted_insertionSort _ order')

end CosmEvm
