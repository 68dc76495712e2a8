import CosmEvm.Core.Word

/-!
# Integer parsing of Go strings

A Go string is a sequence of bytes, and `strconv.Atoi` works on the bytes.
`Strconv.atoi` is `strconv.Atoi` on a 64-bit platform: a fast path
for strings shorter than 19 bytes, and otherwise `ParseInt(s, 10, 0)`, which
takes an optional sign and hands the rest to `ParseUint(s, 10, 64)`.  With an
explicit base there are no base prefixes and no digit separators.

The fast path returns what `ParseInt` returns on every string
(`atoi_eq_parseInt`), and `atoi_eq_none_iff` says what Atoi accepts: an
optional `+` or `-`, then one or more ASCII digits whose signed value is an
`int64` (`IsInt64Numeral`).
-/

namespace CosmEvm

/-! ## Decimal numerals -/

/-- `'0' <= c && c <= '9'`. -/
def IsDigit (c : UInt8) : Prop := '0'.toUInt8 ≤ c ∧ c ≤ '9'.toUInt8

instance : DecidablePred IsDigit := fun _ => inferInstanceAs (Decidable (_ ∧ _))

/-- A value with one more decimal digit appended. -/
def pushDigit (n : Nat) (c : UInt8) : Nat := 10 * n + (c.toNat - '0'.toNat)

/-- The value of a run of decimal digits. -/
def decimalValue (digits : List UInt8) : Nat := digits.foldl pushDigit 0

/-- An optional sign, then one or more ASCII decimal digits whose signed value
lies in the `int64` range. -/
def IsInt64Numeral (s : List UInt8) : Prop :=
  ∃ sign digits, s = sign ++ digits ∧
    (sign = [] ∨ sign = ['+'.toUInt8] ∨ sign = ['-'.toUInt8]) ∧
    digits ≠ [] ∧ (∀ c ∈ digits, IsDigit c) ∧
    -2 ^ 63 ≤ (if sign = ['-'.toUInt8] then -(decimalValue digits : Int) else decimalValue digits) ∧
    (if sign = ['-'.toUInt8] then -(decimalValue digits : Int) else decimalValue digits) < 2 ^ 63

/-- The digits after the sign, with the bound their value must keep: at most
`2 ^ 63` after a minus sign, below it otherwise. -/
def NumeralBody (neg : Bool) (digits : List UInt8) : Prop :=
  digits ≠ [] ∧ (∀ c ∈ digits, IsDigit c) ∧
    if neg then decimalValue digits ≤ 2 ^ 63 else decimalValue digits < 2 ^ 63

theorem not_isDigit_plus : ¬ IsDigit '+'.toUInt8 := by decide

theorem not_isDigit_minus : ¬ IsDigit '-'.toUInt8 := by decide

theorem not_isInt64Numeral_nil : ¬ IsInt64Numeral [] := by
  rintro ⟨sign, digits, split, -, nonempty, -⟩
  exact nonempty (List.append_eq_nil.mp split.symm).2

/-- A numeral is its first byte's sign, if it is one, and the digits after it. -/
theorem isInt64Numeral_cons_iff (c : UInt8) (cs : List UInt8) :
    IsInt64Numeral (c :: cs) ↔
      NumeralBody (c = '-'.toUInt8)
        (if c = '+'.toUInt8 ∨ c = '-'.toUInt8 then cs else c :: cs) := by
  have plusNe : '+'.toUInt8 ≠ '-'.toUInt8 := by decide
  have minusNe : '-'.toUInt8 ≠ '+'.toUInt8 := plusNe.symm
  have plusNotMinus : ['+'.toUInt8] ≠ ['-'.toUInt8] :=
    fun same => plusNe (List.singleton_inj.mp same)
  have unsigned : ([] : List UInt8) ≠ ['-'.toUInt8] := (List.cons_ne_nil _ _).symm
  constructor
  · rintro ⟨sign, digits, split, sign_cases, nonempty, allDigits, lower, upper⟩
    rcases sign_cases with rfl | rfl | rfl
    · obtain rfl : c :: cs = digits := split
      have first := allDigits c (List.mem_cons_self _ _)
      have plus : c ≠ '+'.toUInt8 := fun plus => not_isDigit_plus (plus ▸ first)
      have minus : c ≠ '-'.toUInt8 := fun minus => not_isDigit_minus (minus ▸ first)
      rw [if_neg unsigned] at upper
      simp only [NumeralBody, plus, minus, or_false, decide_False, Bool.false_eq_true, ↓reduceIte]
      exact ⟨nonempty, allDigits, by omega⟩
    · obtain ⟨rfl, rfl⟩ : c = '+'.toUInt8 ∧ cs = digits := by simpa using split
      rw [if_neg plusNotMinus] at upper
      simp only [NumeralBody, plusNe, true_or, decide_False, Bool.false_eq_true, ↓reduceIte]
      exact ⟨nonempty, allDigits, by omega⟩
    · obtain ⟨rfl, rfl⟩ : c = '-'.toUInt8 ∧ cs = digits := by simpa using split
      rw [if_pos rfl] at lower
      simp only [NumeralBody, minusNe, or_true, decide_True, ↓reduceIte]
      exact ⟨nonempty, allDigits, by omega⟩
  · rintro ⟨nonempty, allDigits, bound⟩
    by_cases minus : c = '-'.toUInt8
    · subst minus
      simp only [minusNe, or_true, decide_True, ↓reduceIte] at nonempty allDigits bound
      refine ⟨['-'.toUInt8], cs, rfl, .inr (.inr rfl), nonempty, allDigits, ?_⟩
      rw [if_pos rfl]
      omega
    by_cases plus : c = '+'.toUInt8
    · subst plus
      simp only [plusNe, true_or, decide_False, Bool.false_eq_true, ↓reduceIte]
        at nonempty allDigits bound
      refine ⟨['+'.toUInt8], cs, rfl, .inr (.inl rfl), nonempty, allDigits, ?_⟩
      rw [if_neg plusNotMinus]
      omega
    · simp only [plus, minus, or_false, decide_False, Bool.false_eq_true, ↓reduceIte]
        at nonempty allDigits bound
      refine ⟨[], c :: cs, rfl, .inl rfl, nonempty, allDigits, ?_⟩
      rw [if_neg unsigned]
      omega

/-- A decimal value only grows as digits are appended. -/
theorem le_foldl_pushDigit (digits : List UInt8) (n : Nat) : n ≤ digits.foldl pushDigit n := by
  induction digits generalizing n with
  | nil => exact le_rfl
  | cons c cs ih => exact (show n ≤ pushDigit n c by unfold pushDigit; omega).trans (ih _)

/-- `k` digits take a value `n` below `(n + 1) * 10 ^ k`. -/
theorem foldl_pushDigit_lt {digits : List UInt8} (allDigits : ∀ c ∈ digits, IsDigit c)
    (n : Nat) : digits.foldl pushDigit n < (n + 1) * 10 ^ digits.length := by
  induction digits generalizing n with
  | nil => simp
  | cons c cs ih =>
    have digit : c.toNat ≤ 57 := (allDigits c (List.mem_cons_self _ _)).2
    calc (c :: cs).foldl pushDigit n
        = cs.foldl pushDigit (pushDigit n c) := rfl
      _ < (pushDigit n c + 1) * 10 ^ cs.length :=
          ih (fun d mem => allDigits d (List.mem_cons_of_mem _ mem)) _
      _ ≤ (n + 1) * 10 * 10 ^ cs.length := by
          apply Nat.mul_le_mul_right
          unfold pushDigit
          have zero : '0'.toNat = 48 := rfl
          omega
      _ = (n + 1) * 10 ^ (c :: cs).length := by
          rw [List.length_cons, pow_succ]
          ring

/-- The digits of a numeral fit in 64 bits. -/
theorem NumeralBody.fits {neg : Bool} {digits : List UInt8} (body : NumeralBody neg digits) :
    digits ≠ [] ∧ (∀ c ∈ digits, IsDigit c) ∧ decimalValue digits < 2 ^ 64 := by
  obtain ⟨nonempty, allDigits, bound⟩ := body
  refine ⟨nonempty, allDigits, ?_⟩
  cases neg
  · exact bound.trans (by norm_num)
  · exact Nat.lt_of_le_of_lt bound (by norm_num)

/-! ## strconv -/

namespace Strconv

/-- The `Err` of a `*NumError`. -/
inductive NumError where
  /-- `ErrSyntax`: "invalid syntax". -/
  | errSyntax
  /-- `ErrRange`: "value out of range". -/
  | errRange
  deriving DecidableEq, Repr

/-- The digit loop of `ParseUint(s, 10, 64)` from the value `n` read so far,
returning Go's `(n, err)`.  In base 10 a letter's digit value is at least the
base, so every byte but a decimal digit is a syntax error. -/
def parseUintDigits : List UInt8 → Nat → Nat × Option NumError
  | [], n => (n, none)
  | c :: cs, n =>
    if IsDigit c then
      let d := (c - '0'.toUInt8).toNat
      if n ≥ (2 ^ 64 - 1) / 10 + 1 then (2 ^ 64 - 1, some .errRange)
      else
        let n := n * 10
        let n1 := (n + d) % 2 ^ 64
        if n1 < n ∨ n1 > 2 ^ 64 - 1 then (2 ^ 64 - 1, some .errRange)
        else parseUintDigits cs n1
    else (0, some .errSyntax)

/-- `ParseUint(s, 10, 64)`. -/
def parseUint (s : List UInt8) : Nat × Option NumError :=
  if s = [] then (0, some .errSyntax) else parseUintDigits s 0

/-- `ParseInt(s, 10, 0)` on a 64-bit platform: the sign, then `ParseUint` of
the rest, then the `int64` range check. -/
def parseInt : List UInt8 → Int × Option NumError
  | [] => (0, some .errSyntax)
  | c :: cs =>
    let neg := c = '-'.toUInt8
    let result := parseUint (if c = '+'.toUInt8 ∨ c = '-'.toUInt8 then cs else c :: cs)
    let un := result.1
    let err := result.2
    if err = some .errSyntax then (0, err)
    else if ¬neg ∧ un ≥ 2 ^ 63 then (2 ^ 63 - 1, some .errRange)
    else if neg ∧ un > 2 ^ 63 then (-2 ^ 63, some .errRange)
    else (if neg then -(un : Int) else un, none)

/-- The digit loop of `Atoi`'s fast path: `ch -= '0'` wraps around below
`'0'`, so one unsigned comparison rejects every other byte. -/
def atoiDigits : List UInt8 → Nat → Option Nat
  | [], n => some n
  | ch :: chs, n =>
    let ch := ch - '0'.toUInt8
    if ch > 9 then none else atoiDigits chs (n * 10 + ch.toNat)

/-- `strconv.Atoi` on a 64-bit platform: strings of 1 to 18 bytes take the
fast path, all others `ParseInt(s, 10, 0)`. -/
def atoi : List UInt8 → Int × Option NumError
  | [] => parseInt []
  | c :: cs =>
    if (c :: cs).length < 19 then
      let signed := c = '-'.toUInt8 ∨ c = '+'.toUInt8
      if signed ∧ cs = [] then (0, some .errSyntax)
      else
        match atoiDigits (if signed then cs else c :: cs) 0 with
        | none => (0, some .errSyntax)
        | some n => (if c = '-'.toUInt8 then -(n : Int) else n, none)
    else parseInt (c :: cs)

/-! ## The digit loops -/

/-- Go's digit test: after the wrapping byte subtraction `ch - '0'`, only a
decimal digit is at most 9. -/
theorem sub_zero_gt_nine_iff (c : UInt8) : 9 < c - '0'.toUInt8 ↔ ¬ IsDigit c := by
  have zero : '0'.toUInt8 = 48 := rfl
  have nine : '9'.toUInt8 = 57 := rfl
  simp only [IsDigit, zero, nine, UInt8.lt_def, UInt8.le_def, UInt8.sub_def, UInt8.toBitVec_ofNat]
  bv_omega

theorem toNat_sub_zero {c : UInt8} (digit : IsDigit c) :
    (c - '0'.toUInt8).toNat = c.toNat - '0'.toNat :=
  UInt8.toNat_sub_of_le _ _ digit.1

theorem digit_value_le {c : UInt8} (digit : IsDigit c) : c.toNat - '0'.toNat ≤ 9 := by
  have upper : c.toNat ≤ 57 := digit.2
  have zero : '0'.toNat = 48 := rfl
  omega

/-- Both digit loops step by `n * 10 + (ch - '0')`, which is `pushDigit` on a
digit. -/
theorem mul_ten_add_digit (n : Nat) {c : UInt8} (digit : IsDigit c) :
    n * 10 + (c - '0'.toUInt8).toNat = pushDigit n c := by
  rw [toNat_sub_zero digit, pushDigit, Nat.mul_comm]

/-- The fast path's loop reads the decimal value of an all-digit string and
fails on any other byte. -/
theorem atoiDigits_eq (digits : List UInt8) (n : Nat) :
    atoiDigits digits n =
      if ∀ c ∈ digits, IsDigit c then some (digits.foldl pushDigit n) else none := by
  induction digits generalizing n with
  | nil => simp [atoiDigits]
  | cons c cs ih =>
    rw [atoiDigits]
    by_cases digit : IsDigit c
    · rw [if_neg (not_not.mpr digit ∘ (sub_zero_gt_nine_iff c).mp), mul_ten_add_digit n digit, ih]
      simp only [List.forall_mem_cons, digit, true_and, List.foldl_cons]
    · rw [if_pos ((sub_zero_gt_nine_iff c).mpr digit),
        if_neg (fun all => digit (all c (List.mem_cons_self _ _)))]

/-- `ParseUint`'s loop from a value `n` that fits: it succeeds exactly on
digits whose value fits in 64 bits, returns that value, and on a range error
returns the largest `uint64`. -/
theorem parseUintDigits_spec (digits : List UInt8) (n : Nat) (small : n < 2 ^ 64) :
    ((parseUintDigits digits n).2 = none ↔
      (∀ c ∈ digits, IsDigit c) ∧ digits.foldl pushDigit n < 2 ^ 64) ∧
    ((parseUintDigits digits n).2 = none →
      (parseUintDigits digits n).1 = digits.foldl pushDigit n) ∧
    ((parseUintDigits digits n).2 = some .errRange →
      (parseUintDigits digits n).1 = 2 ^ 64 - 1) := by
  induction digits generalizing n with
  | nil => exact ⟨⟨fun _ => ⟨nofun, small⟩, fun _ => rfl⟩, fun _ => rfl, nofun⟩
  | cons c cs ih =>
    by_cases digit : IsDigit c
    · have le_nine := digit_value_le digit
      have grows := le_foldl_pushDigit cs (pushDigit n c)
      rw [parseUintDigits, if_pos digit, List.foldl_cons]
      dsimp only
      rw [mul_ten_add_digit n digit]
      unfold pushDigit at grows ⊢
      split
      · exact ⟨⟨nofun, fun ⟨_, fits⟩ => by omega⟩, nofun, fun _ => rfl⟩
      split
      · exact ⟨⟨nofun, fun ⟨_, fits⟩ => by omega⟩, nofun, fun _ => rfl⟩
      · rw [Nat.mod_eq_of_lt (by omega)]
        simpa only [List.forall_mem_cons, digit, true_and] using ih _ (by omega)
    · rw [parseUintDigits, if_neg digit]
      exact ⟨⟨nofun, fun ⟨all, _⟩ => absurd (all c (List.mem_cons_self _ _)) digit⟩, nofun, nofun⟩

/-- `ParseUint(s, 10, 64)` succeeds exactly on a nonempty digit string whose
value fits in 64 bits. -/
theorem parseUint_spec (digits : List UInt8) :
    ((parseUint digits).2 = none ↔
      digits ≠ [] ∧ (∀ c ∈ digits, IsDigit c) ∧ decimalValue digits < 2 ^ 64) ∧
    ((parseUint digits).2 = none → (parseUint digits).1 = decimalValue digits) ∧
    ((parseUint digits).2 = some .errRange → (parseUint digits).1 = 2 ^ 64 - 1) := by
  unfold parseUint
  split
  · next empty => exact ⟨⟨nofun, fun ⟨nonempty, _⟩ => absurd empty nonempty⟩, nofun, nofun⟩
  · next nonempty =>
    simpa only [nonempty, ne_eq, not_false_eq_true, true_and, decimalValue] using
      parseUintDigits_spec digits 0 (Nat.two_pow_pos 64)

/-- `ParseInt(s, 10, 0)` succeeds exactly on a numeral in the `int64` range. -/
theorem parseInt_eq_none_iff (s : List UInt8) : (parseInt s).2 = none ↔ IsInt64Numeral s := by
  cases s with
  | nil => exact ⟨nofun, fun numeral => absurd numeral not_isInt64Numeral_nil⟩
  | cons c cs =>
    rw [isInt64Numeral_cons_iff, parseInt]
    generalize (if c = '+'.toUInt8 ∨ c = '-'.toUInt8 then cs else c :: cs) = digits
    obtain ⟨accepted, value, range⟩ := parseUint_spec digits
    rcases parsed : parseUint digits with ⟨un, _ | _ | _⟩ <;>
      rw [parsed] at accepted value range <;> dsimp only
    · obtain ⟨nonempty, allDigits, -⟩ := accepted.mp rfl
      obtain rfl : un = decimalValue digits := value rfl
      rw [NumeralBody, and_iff_right nonempty, and_iff_right allDigits, if_neg nofun]
      by_cases minus : c = '-'.toUInt8
      · simp only [minus, not_true_eq_false, false_and, true_and, decide_True, ↓reduceIte]
        split
        · exact iff_of_false nofun (by omega)
        · exact iff_of_true rfl (by omega)
      · simp only [minus, not_false_eq_true, false_and, true_and, decide_False, ↓reduceIte,
          Bool.false_eq_true]
        split
        · exact iff_of_false nofun (by omega)
        · exact iff_of_true rfl (by omega)
    · rw [if_pos rfl]
      exact iff_of_false nofun fun body => nomatch accepted.mpr body.fits
    · obtain rfl : un = 2 ^ 64 - 1 := range rfl
      refine iff_of_false ?_ fun body => nomatch accepted.mpr body.fits
      rw [if_neg nofun]
      by_cases minus : c = '-'.toUInt8
      · rw [if_neg (fun h => h.1 minus), if_pos ⟨minus, by norm_num⟩]
        nofun
      · rw [if_pos ⟨minus, by norm_num⟩]
        nofun

/-- Where the value cannot overflow, `ParseUint`'s loop reads an all-digit
string and stops with a syntax error at any other byte. -/
theorem parseUintDigits_of_fits (digits : List UInt8) (n : Nat)
    (fits : (n + 1) * 10 ^ digits.length ≤ 2 ^ 64) :
    parseUintDigits digits n =
      if ∀ c ∈ digits, IsDigit c then (digits.foldl pushDigit n, none)
      else (0, some .errSyntax) := by
  induction digits generalizing n with
  | nil => rw [if_pos nofun]; rfl
  | cons c cs ih =>
    rw [parseUintDigits]
    by_cases digit : IsDigit c
    · have le_nine := digit_value_le digit
      rw [List.length_cons, pow_succ, Nat.mul_comm (10 ^ cs.length), ← Nat.mul_assoc] at fits
      have room : (n + 1) * 10 ≤ 2 ^ 64 :=
        (Nat.le_mul_of_pos_right _ (Nat.pos_pow_of_pos _ (by norm_num))).trans fits
      have pushed : pushDigit n c + 1 ≤ (n + 1) * 10 := by unfold pushDigit; omega
      rw [if_pos digit]
      dsimp only
      rw [if_neg (by omega), mul_ten_add_digit n digit, Nat.mod_eq_of_lt (by omega),
        if_neg (by unfold pushDigit; omega), ih _ ((Nat.mul_le_mul_right _ pushed).trans fits)]
      simp only [List.forall_mem_cons, digit, true_and, List.foldl_cons]
    · rw [if_neg digit, if_neg (fun all => digit (all c (List.mem_cons_self _ _)))]

/-- `Atoi`'s fast path is an optimisation: on every string it returns what
`ParseInt(s, 10, 0)` returns, since at most 18 digits cannot overflow. -/
theorem atoi_eq_parseInt (s : List UInt8) : atoi s = parseInt s := by
  cases s with
  | nil => rfl
  | cons c cs =>
    rw [atoi]
    split
    · next short =>
      rw [parseInt]
      dsimp only
      simp only [@or_comm (c = '-'.toUInt8)]
      have shorter : (if c = '+'.toUInt8 ∨ c = '-'.toUInt8 then cs else c :: cs).length ≤ 18 := by
        split <;> simp only [List.length_cons] at short ⊢ <;> omega
      generalize digitsDef : (if c = '+'.toUInt8 ∨ c = '-'.toUInt8 then cs else c :: cs) = digits
        at shorter ⊢
      split
      · next empty =>
        rw [if_pos empty.1, empty.2] at digitsDef
        rw [← digitsDef]
        rfl
      · next notEmpty =>
        have nonempty : digits ≠ [] := by
          rw [← digitsDef]
          split
          · next signed => exact fun empty => notEmpty ⟨signed, empty⟩
          · exact List.cons_ne_nil _ _
        have tenPow : 10 ^ digits.length ≤ 10 ^ 18 := Nat.pow_le_pow_right (by norm_num) shorter
        rw [atoiDigits_eq, parseUint, if_neg nonempty, parseUintDigits_of_fits digits 0 (by omega)]
        by_cases allDigits : ∀ c ∈ digits, IsDigit c
        · have small := foldl_pushDigit_lt allDigits 0
          have notBig : ¬ digits.foldl pushDigit 0 ≥ 2 ^ 63 := by omega
          have notOver : ¬ digits.foldl pushDigit 0 > 2 ^ 63 := by omega
          rw [if_pos allDigits, if_pos allDigits]
          simp only [notBig, notOver, and_false, reduceCtorEq, ↓reduceIte]
        · rw [if_neg allDigits, if_neg allDigits]
          rfl
    · rfl

/-- `Atoi` succeeds exactly on a numeral in the `int64` range. -/
theorem atoi_eq_none_iff (s : List UInt8) : (atoi s).2 = none ↔ IsInt64Numeral s := by
  rw [atoi_eq_parseInt]
  exact parseInt_eq_none_iff s

end Strconv

end CosmEvm
