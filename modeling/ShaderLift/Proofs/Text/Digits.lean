import Mathlib.Data.List.TakeWhile
import ShaderLift.Fault

namespace ShaderLift

namespace Text

theorem digit_code (c : Char) (digit : c.isDigit = true) : 48 ≤ c.toNat ∧ c.toNat ≤ 57 :=
  Char.isDigit_iff_toNat.mp digit

theorem isAlpha_digit (c : Char) (digit : c.isDigit = true) : c.isAlpha = false := by
  obtain ⟨_, high⟩ := digit_code c digit
  have below (bound : UInt32) (above : 57 < bound.toNat) : ¬ bound ≤ c.val := by
    intro reaches
    have within : bound.toNat ≤ c.val.toNat := reaches
    have same : c.toNat = c.val.toNat := rfl
    omega
  show (decide (c.val ≥ 'A'.val ∧ c.val ≤ 'Z'.val) ||
    (decide (c.val ≥ 'a'.val) && decide (c.val ≤ 'z'.val))) = false
  rw [decide_eq_false fun upper => below 'A'.val (by decide) upper.1,
    decide_eq_false (below 'a'.val (by decide))]
  rfl

theorem decimalValue?_digit (c : Char) (digit : c.isDigit = true) :
    decimalValue? c = some (c.toNat - 48) := by
  obtain ⟨low, high⟩ := digit_code c digit
  have small : c.toNat < 0x80 := by omega
  have inside : (0x30 ≤ c.toNat && c.toNat ≤ 0x39) = true := by
    simpa using ⟨low, high⟩
  rw [decimalValue?, if_pos small, if_pos inside]

theorem isDecimal_digit (c : Char) (digit : c.isDigit = true) : isDecimal c = true := by
  rw [isDecimal, decimalValue?_digit c digit]
  rfl

/-- A decimal digit of any script is no blank. -/
theorem isBlank_decimal (c : Char) (decimal : isDecimal c = true) : isBlank c = false := by
  have apart : ∀ base ∈ 0x30 :: decimalZeros, ∀ range ∈ blankRanges,
      base + 9 < range.1 ∨ range.2 < base := by decide
  have found : ∃ base ∈ 0x30 :: decimalZeros, base ≤ c.toNat ∧ c.toNat ≤ base + 9 := by
    unfold isDecimal decimalValue? at decimal
    dsimp only at decimal
    split at decimal
    · split at decimal
      · rename_i inside
        exact ⟨0x30, List.mem_cons_self .., by simpa using inside⟩
      · cases decimal
    · rw [Option.isSome_map] at decimal
      obtain ⟨base, found⟩ := Option.isSome_iff_exists.mp decimal
      refine ⟨base, List.mem_cons_of_mem _ (List.mem_of_find?_eq_some found), ?_⟩
      simpa using List.find?_some found
  obtain ⟨base, listed, low, high⟩ := found
  cases blank : isBlank c with
  | false => rfl
  | true =>
    obtain ⟨range, inside, within⟩ := List.any_eq_true.mp blank
    rw [Bool.and_eq_true, decide_eq_true_eq, decide_eq_true_eq] at within
    have := apart base listed range inside
    omega

theorem isBlank_digit (c : Char) (digit : c.isDigit = true) : isBlank c = false :=
  isBlank_decimal c (isDecimal_digit c digit)

theorem allDigits_decimals {digits : Text} (filled : digits ≠ [])
    (each : ∀ c ∈ digits, isDecimal c = true) : allDigits digits = true := by
  simp only [allDigits, Bool.and_eq_true, Bool.not_eq_true', List.isEmpty_eq_false_iff,
    List.all_eq_true]
  refine ⟨filled, ?_⟩
  intro c inside
  rw [isDigit, each c inside, Bool.true_or]

theorem allDigits_digits (digits : Text) (filled : digits ≠ [])
    (each : ∀ c ∈ digits, c.isDigit = true) : allDigits digits = true :=
  allDigits_decimals filled fun c inside => isDecimal_digit c (each c inside)

theorem trim_digits (digits : Text) (each : ∀ c ∈ digits, c.isDigit = true) :
    trim digits = digits := by
  have start : trimStart digits = digits := by
    cases digits with
    | nil => rfl
    | cons c rest =>
      rw [trimStart, List.dropWhile_cons_of_neg]
      simp [isBlank_digit c (each c (List.mem_cons_self ..))]
  have ending : trimEnd digits = digits := by
    rw [trimEnd]
    cases reversed : digits.reverse with
    | nil => simpa using reversed.symm
    | cons c rest =>
      have inside : c ∈ digits := by
        rw [← List.mem_reverse, reversed]
        exact List.mem_cons_self ..
      rw [List.dropWhile_cons_of_neg (by simp [isBlank_digit c (each c inside)]), ← reversed,
        List.reverse_reverse]
  rw [trim, start, ending]

theorem groupedDigits_digits (digits : Text) (filled : digits ≠ [])
    (each : ∀ c ∈ digits, c ≠ '_') : groupedDigits digits = true := by
  induction digits with
  | nil => exact absurd rfl filled
  | cons c rest ih =>
    have here : c ≠ '_' := each c (List.mem_cons_self ..)
    cases rest with
    | nil => simpa [groupedDigits] using here
    | cons next rest =>
      have later := ih (List.cons_ne_nil _ _) fun d inside => each d (List.mem_cons_of_mem c inside)
      simp [groupedDigits, here, later]

theorem isSign_decimal (c : Char) (decimal : isDecimal c = true) :
    c ≠ '-' ∧ c ≠ '+' ∧ c ≠ '_' := by
  refine ⟨?_, ?_, ?_⟩ <;>
  · rintro rfl
    cases decimal

section Signed

variable (text digits : Text) (negative : Bool)
  (signed : spanSign (text.dropWhile isPadding) = (negative, digits)) (filled : digits ≠ [])
  (each : ∀ c ∈ digits, isDecimal c = true)

include signed filled each

/-- A sign and a run of decimal digits are read as a value unless the digits are too many. -/
theorem toInt_of_spanSign_eq :
    toInt text =
      if maxIntegerDigits < digits.length then .error (.tooLong digits.length)
      else .ok (if negative then -(decimalsValue digits : Nat) else (decimalsValue digits : Nat)) := by
  have plain (c : Char) (inside : c ∈ digits) : c ≠ '_' := (isSign_decimal c (each c inside)).2.2
  have counted (c : Char) (inside : c ∈ digits) : (isDecimal c || c == '_') = true := by
    rw [each c inside, Bool.true_or]
  have whole : digits.takeWhile (fun c => isDecimal c || c == '_') = digits :=
    List.takeWhile_eq_self_iff.mpr counted
  have rest : digits.dropWhile (fun c => isDecimal c || c == '_') = [] :=
    List.dropWhile_eq_nil_iff.mpr counted
  have kept : without '_' digits = digits :=
    List.filter_eq_self.mpr fun c inside => by simpa using plain c inside
  have first : ¬ (digits.head? = some '_' || !groupedDigits digits) = true := by
    rw [groupedDigits_digits digits filled plain]
    simp only [Bool.not_true, Bool.or_false, decide_eq_true_eq]
    intro head
    exact plain '_' (List.mem_of_head? head) rfl
  simp only [toInt, signed, whole, rest, kept]
  rw [if_neg first]
  rfl

theorem toInt_of_spanSign (short : digits.length ≤ maxIntegerDigits) :
    toInt text =
      .ok (if negative then -(decimalsValue digits : Nat) else (decimalsValue digits : Nat)) := by
  rw [toInt_of_spanSign_eq text digits negative signed filled each, if_neg (Nat.not_lt.mpr short)]

end Signed

theorem spanSign_decimals (digits : Text) (filled : digits ≠ [])
    (each : ∀ c ∈ digits, isDecimal c = true) :
    spanSign (digits.dropWhile isPadding) = (false, digits) := by
  obtain ⟨c, rest, rfl⟩ := List.exists_cons_of_ne_nil filled
  have decimal := each c (List.mem_cons_self ..)
  obtain ⟨noMinus, noPlus, _⟩ := isSign_decimal c decimal
  rw [List.dropWhile_cons_of_neg (by simp [isPadding, isBlank_decimal c decimal])]
  unfold spanSign
  split
  · rename_i same
    exact absurd (List.cons.inj same).1 noMinus
  · rename_i same
    exact absurd (List.cons.inj same).1 noPlus
  · rfl

theorem toInt_tooLong (digits : Text) (each : ∀ c ∈ digits, isDecimal c = true)
    (long : maxIntegerDigits < digits.length) : toInt digits = .error (.tooLong digits.length) := by
  have filled : digits ≠ [] := List.ne_nil_of_length_pos (Nat.zero_lt_of_lt long)
  rw [toInt_of_spanSign_eq digits digits false (spanSign_decimals digits filled each) filled each,
    if_pos long]

/-- One digit more than a number may have. -/
theorem toInt_ones {text : Text} (ones : text = List.replicate (maxIntegerDigits + 1) '1') :
    (∀ c ∈ text, c.isDigit = true) ∧ text ≠ [] ∧ toInt text = .error (.tooLong text.length) := by
  have length : text.length = maxIntegerDigits + 1 := by rw [ones, List.length_replicate]
  have each : ∀ c ∈ text, c.isDigit = true := by
    intro c inside
    rw [ones] at inside
    rw [List.eq_of_mem_replicate inside]
    rfl
  exact ⟨each, List.ne_nil_of_length_pos (by omega),
    toInt_tooLong text (fun c inside => isDecimal_digit c (each c inside)) (by omega)⟩

theorem toInt_decimals (digits : Text) (filled : digits ≠ [])
    (each : ∀ c ∈ digits, isDecimal c = true) (short : digits.length ≤ maxIntegerDigits) :
    toInt digits = .ok (decimalsValue digits : Nat) :=
  toInt_of_spanSign digits digits false (spanSign_decimals digits filled each) filled each short

theorem decimalsValue_eq (digits : Text) (each : ∀ c ∈ digits, c.isDigit = true) :
    decimalsValue digits = Nat.ofDigitChars 10 digits 0 := by
  have same (value : Nat) (digits : Text) (each : ∀ c ∈ digits, c.isDigit = true) :
      digits.foldl (fun value c => 10 * value + (decimalValue? c).getD 0) value =
        Nat.ofDigitChars 10 digits value := by
    induction digits generalizing value with
    | nil => rfl
    | cons c rest ih =>
      rw [List.foldl_cons, ih _ fun d inside => each d (List.mem_cons_of_mem c inside),
        decimalValue?_digit c (each c (List.mem_cons_self ..))]
      rfl
  exact same 0 digits each

theorem isDigit_ofNat (n : Nat) (c : Char) (inside : c ∈ ofNat n) : c.isDigit = true :=
  Nat.isDigit_of_mem_toDigits (by decide) (by decide) inside

theorem ofNat_ne_nil (n : Nat) : ofNat n ≠ [] := Nat.toDigits_ne_nil

theorem decimalsValue_ofNat (n : Nat) : decimalsValue (ofNat n) = n := by
  rw [decimalsValue_eq _ (isDigit_ofNat n)]
  exact Nat.ofDigitChars_toDigits (by decide) (by decide)

theorem ofNat_inj (m n : Nat) (same : ofNat m = ofNat n) : m = n := by
  rw [← decimalsValue_ofNat m, same, decimalsValue_ofNat]

theorem length_ofNat_le (n : Nat) (writable : n < writableBound) :
    (ofNat n).length ≤ maxIntegerDigits := by
  have within (limit : Nat) (positive : 0 < limit) (less : n < Nat.pow 10 limit) :
      (ofNat n).length ≤ limit := (Nat.length_toDigits_le_iff (by decide) positive).mpr less
  unfold writableBound at writable
  exact within maxIntegerDigits (by decide) writable

theorem isWritable_of_lt (n : Int) (low : 0 ≤ n) (high : n < 10) : isWritable n = true := by
  have ten (limit : Nat) (positive : 0 < limit) : 10 ≤ Nat.pow 10 limit :=
    Nat.le_pow positive
  have bound : 10 ≤ writableBound := by
    unfold writableBound
    exact ten maxIntegerDigits (by decide)
  rw [isWritable, decide_eq_true_eq]
  generalize writableBound = limit at bound
  omega

end Text

namespace Fault

theorem readInteger_decimals (digits : Text) (filled : digits ≠ [])
    (each : ∀ c ∈ digits, Text.isDecimal c = true)
    (short : digits.length ≤ Text.maxIntegerDigits) :
    readInteger digits = .ok (Text.decimalsValue digits : Nat) := by
  rw [readInteger, Text.toInt_decimals digits filled each short]

theorem readInteger_digits (digits : Text) (filled : digits ≠ [])
    (each : ∀ c ∈ digits, c.isDigit = true) (short : digits.length ≤ Text.maxIntegerDigits) :
    readInteger digits = .ok (Text.decimalsValue digits : Nat) :=
  readInteger_decimals digits filled (fun c inside => Text.isDecimal_digit c (each c inside)) short

theorem readInteger_ofNat (n : Nat) (writable : n < Text.writableBound) :
    readInteger (Text.ofNat n) = .ok n := by
  rw [readInteger_digits _ (Text.ofNat_ne_nil n) (Text.isDigit_ofNat n)
    (Text.length_ofNat_le n writable), Text.decimalsValue_ofNat]

end Fault
end ShaderLift
