import ShaderLift.Proofs.Text.Digits

namespace ShaderLift.Text

/-- Digits behind minus signs that are no integer: there are several signs, one of the digits has no
place value, or there are too many of them. -/
def IsOddInteger (text : Text) : Prop :=
  ∃ signs digits, text = signs ++ digits ∧ (∀ c ∈ signs, c = '-') ∧ allDigits digits = true ∧
    (1 < signs.length ∨ (∃ c ∈ digits, isDecimal c = false) ∨ maxIntegerDigits < digits.length)

theorem ne_nil_of_allDigits {digits : Text} (all : allDigits digits = true) : digits ≠ [] := by
  rintro rfl
  cases all

theorem toInt_minus_decimals (digits : Text) (filled : digits ≠ [])
    (each : ∀ c ∈ digits, isDecimal c = true) (short : digits.length ≤ maxIntegerDigits) :
    toInt ('-' :: digits) = .ok (-(decimalsValue digits : Nat)) :=
  toInt_of_spanSign ('-' :: digits) digits true rfl filled each short

/-- Digits behind minus signs are an integer unless there is something odd about them. -/
theorem isOddInteger_of_signs {signs digits : Text} {issue : IntegerIssue}
    (minus : ∀ c ∈ signs, c = '-') (all : allDigits digits = true)
    (bad : toInt (signs ++ digits) = .error issue) : IsOddInteger (signs ++ digits) := by
  refine ⟨signs, digits, rfl, minus, all, ?_⟩
  have filled := ne_nil_of_allDigits all
  by_contra even
  simp only [not_or, not_exists, not_and, Nat.not_lt, Bool.not_eq_false] at even
  obtain ⟨single, each, short⟩ := even
  cases signs with
  | nil =>
    rw [List.nil_append, toInt_decimals digits filled each short] at bad
    cases bad
  | cons sign more =>
    have alone : more = [] := List.eq_nil_of_length_eq_zero (by simpa using single)
    rw [alone, minus sign List.mem_cons_self, List.singleton_append,
      toInt_minus_decimals digits filled each short] at bad
    cases bad

theorem isOddInteger_of_allDigits {digits : Text} {issue : IntegerIssue}
    (all : allDigits digits = true) (bad : toInt digits = .error issue) : IsOddInteger digits := by
  have unsigned : ∀ c ∈ ([] : Text), c = '-' := by simp
  exact isOddInteger_of_signs unsigned all bad

theorem decimalValue?_lt {c : Char} {value : Nat} (found : decimalValue? c = some value) :
    value < 10 := by
  unfold decimalValue? at found
  dsimp only at found
  split at found
  · split at found
    · rename_i inside
      have := Option.some.inj found
      simp only [Bool.and_eq_true, decide_eq_true_eq] at inside
      omega
    · cases found
  · obtain ⟨base, listed, rfl⟩ := Option.map_eq_some_iff.mp found
    have inside := List.find?_some listed
    simp only [Bool.and_eq_true, decide_eq_true_eq] at inside
    omega

/-- A run of digits has a value with no more digits. -/
theorem decimalsValue_lt (digits : Text) : decimalsValue digits < Nat.pow 10 digits.length := by
  have grows (digits : Text) (value : Nat) :
      digits.foldl (fun value c => 10 * value + (decimalValue? c).getD 0) value <
        (value + 1) * Nat.pow 10 digits.length := by
    induction digits generalizing value with
    | nil => exact Nat.lt_of_lt_of_eq (Nat.lt_succ_self value) (Nat.mul_one _).symm
    | cons c rest ih =>
      have digit : (decimalValue? c).getD 0 < 10 := by
        cases found : decimalValue? c with
        | none => decide
        | some value => exact decimalValue?_lt found
      calc rest.foldl _ (10 * value + (decimalValue? c).getD 0)
          < (10 * value + (decimalValue? c).getD 0 + 1) * Nat.pow 10 rest.length := ih _
        _ ≤ ((value + 1) * 10) * Nat.pow 10 rest.length := Nat.mul_le_mul_right _ (by omega)
        _ = (value + 1) * (Nat.pow 10 rest.length * 10) := by rw [Nat.mul_assoc, Nat.mul_comm 10]
  have bound := grows digits 0
  rwa [Nat.zero_add, Nat.one_mul] at bound

/-- An integer that was read can be written. -/
theorem isWritable_of_toInt {text : Text} {n : Int} (read : toInt text = .ok n) :
    isWritable n = true := by
  unfold toInt at read
  dsimp only at read
  split at read
  · cases read
  split at read
  · cases read
  rename_i short
  split at read
  · cases read
  generalize without '_' _ = digits at read short
  have below (limit : Nat) (few : digits.length ≤ limit) :
      decimalsValue digits < Nat.pow 10 limit :=
    Nat.lt_of_lt_of_le (decimalsValue_lt digits) (Nat.pow_le_pow_right (by decide) few)
  have size : decimalsValue digits < writableBound := by
    unfold writableBound
    exact below maxIntegerDigits (Nat.not_lt.mp short)
  rw [isWritable, decide_eq_true_eq, ← Except.ok.inj read]
  generalize writableBound = limit at size
  split
  · rwa [Int.natAbs_neg, Int.natAbs_natCast]
  · rwa [Int.natAbs_natCast]

/-- Decimal digits, and few enough of them to be read as a number. -/
structure IsDigits (digits : Text) : Prop where
  nonempty : digits ≠ []
  each : ∀ c ∈ digits, c.isDigit = true
  short : digits.length ≤ maxIntegerDigits

theorem isDigits_of_all {digits : Text} (some : digits ≠ [])
    (each : digits.all Char.isDigit = true) (short : digits.length ≤ maxIntegerDigits) :
    IsDigits digits := ⟨some, List.all_eq_true.mp each, short⟩

theorem IsDigits.decimal {digits : Text} (number : IsDigits digits) (c : Char)
    (inside : c ∈ digits) : isDecimal c = true := isDecimal_digit c (number.each c inside)

/-- The decimal notations of an integer: digits, and possibly a sign in front of them. -/
inductive IsNumeral : Text → Int → Prop
  | plain {digits : Text} (number : IsDigits digits) : IsNumeral digits (decimalsValue digits)
  | plus {digits : Text} (number : IsDigits digits) : IsNumeral ('+' :: digits) (decimalsValue digits)
  | minus {digits : Text} (number : IsDigits digits) :
      IsNumeral ('-' :: digits) (-(decimalsValue digits : Nat))

namespace IsNumeral

theorem toInt_eq {text : Text} {value : Int} (numeral : IsNumeral text value) :
    toInt text = .ok value := by
  cases numeral with
  | plain number => exact toInt_decimals _ number.nonempty number.decimal number.short
  | plus number =>
    exact toInt_of_spanSign _ _ false rfl number.nonempty number.decimal number.short
  | minus number => exact toInt_minus_decimals _ number.nonempty number.decimal number.short

/-- A numeral has a digit. -/
theorem exists_digit {text : Text} {value : Int} (numeral : IsNumeral text value) :
    ∃ c ∈ text, c.isDigit = true := by
  have some {digits : Text} (number : IsDigits digits) : ∃ c ∈ digits, c.isDigit = true := by
    obtain ⟨c, rest, rfl⟩ := List.exists_cons_of_ne_nil number.nonempty
    exact ⟨c, List.mem_cons_self, number.each c List.mem_cons_self⟩
  cases numeral with
  | plain number => exact some number
  | plus number =>
    obtain ⟨c, inside, digit⟩ := some number
    exact ⟨c, List.mem_cons_of_mem _ inside, digit⟩
  | minus number =>
    obtain ⟨c, inside, digit⟩ := some number
    exact ⟨c, List.mem_cons_of_mem _ inside, digit⟩

end IsNumeral
end ShaderLift.Text
