import ShaderLift.Proofs.Operand.Modifier

namespace ShaderLift

theorem Text.toNat_of_isNameStart {c : Char} (letter : Text.isNameStart c = true) :
    65 ≤ c.toNat ∧ c.toNat ≤ 122 := by
  rcases Bool.or_eq_true_iff.mp letter with alpha | underscore
  · rcases Bool.or_eq_true_iff.mp alpha with upper | lower
    · have bounds := of_decide_eq_true upper
      have low : 65 ≤ c.toNat := UInt32.le_iff_toNat_le.mp bounds.1
      have high : c.toNat ≤ 90 := UInt32.le_iff_toNat_le.mp bounds.2
      omega
    · have bounds := Bool.and_eq_true_iff.mp lower
      have low : 97 ≤ c.toNat := UInt32.le_iff_toNat_le.mp (of_decide_eq_true bounds.1)
      have high : c.toNat ≤ 122 := UInt32.le_iff_toNat_le.mp (of_decide_eq_true bounds.2)
      omega
  · rw [eq_of_beq underscore]
    decide

theorem Text.isBlank_nameStart {c : Char} (letter : Text.isNameStart c = true) :
    Text.isBlank c = false := by
  have bounds := Text.toNat_of_isNameStart letter
  simp only [isBlank, inRanges, blankRanges, List.any_cons, List.any_nil, Bool.or_false,
    Bool.or_eq_false_iff, Bool.and_eq_false_iff, decide_eq_false_iff_not]
  omega

theorem Text.isDecimal_nameStart {c : Char} (letter : Text.isNameStart c = true) :
    Text.isDecimal c = false := by
  have bounds := Text.toNat_of_isNameStart letter
  unfold isDecimal decimalValue?
  dsimp only
  rw [if_pos (by omega), if_neg (by simp; omega)]
  rfl

namespace Operand

theorem isExponent_point {text : Text} (pointed : '.' ∈ text) : isExponent text = false := by
  cases exponent : isExponent text with
  | false => rfl
  | true =>
    rcases isExponent_mem exponent pointed with digit | marked
    · cases digit
    · exact absurd marked (by decide)

theorem spanDecimals_append {digits rest : Text} (decimals : ∀ c ∈ digits, Text.isDecimal c = true)
    (other : ∀ c, rest.head? = some c → Text.isDecimal c = false) :
    Text.spanDecimals (digits ++ rest) = (digits, rest) := by
  have stop : rest.takeWhile Text.isDecimal = [] ∧ rest.dropWhile Text.isDecimal = rest := by
    cases rest with
    | nil => exact ⟨rfl, rfl⟩
    | cons c more =>
      have undecimal := other c rfl
      exact ⟨List.takeWhile_cons_of_neg (by simp [undecimal]),
        List.dropWhile_cons_of_neg (by simp [undecimal])⟩
  unfold Text.spanDecimals
  rw [List.takeWhile_append_of_pos decimals, List.dropWhile_append_of_pos decimals, stop.1, stop.2,
    List.append_nil]

/-- The digits of a text and the first character behind them. -/
theorem digits_or_stop (text : Text) :
    (∀ c ∈ text, Text.isDecimal c = true) ∨
      ∃ digits c rest, text = digits ++ c :: rest ∧ (∀ d ∈ digits, Text.isDecimal d = true) ∧
        Text.isDecimal c = false := by
  induction text with
  | nil => exact .inl (by simp)
  | cons c rest ih =>
    cases decimal : Text.isDecimal c with
    | false => exact .inr ⟨[], c, rest, rfl, by simp, decimal⟩
    | true =>
      rcases ih with all | ⟨digits, d, more, rfl, digit, stop⟩
      · exact .inl (List.forall_mem_cons.mpr ⟨decimal, all⟩)
      · exact .inr ⟨c :: digits, d, more, rfl, List.forall_mem_cons.mpr ⟨decimal, digit⟩, stop⟩

/-- In front of the point of a decimal number stand digits. -/
theorem decimals_of_point {front rest : Text}
    (number : isDecimalNumber (front ++ '.' :: rest) = true) :
    ∀ c ∈ front, Text.isDecimal c = true := by
  rcases digits_or_stop front with all | ⟨digits, c, more, rfl, decimals, stop⟩
  · exact all
  · -- a point behind the first other character stands where an exponent has to
    have span : Text.spanDecimals (digits ++ c :: more ++ '.' :: rest) =
        (digits, c :: (more ++ '.' :: rest)) := by
      rw [List.append_assoc]
      exact spanDecimals_append decimals fun d same => by cases same; exact stop
    have late {text : Text} (pointed : '.' ∈ text) : '.' ∈ (Text.spanDecimals text).2 := by
      rw [← List.takeWhile_append_dropWhile (p := Text.isDecimal) (l := text)] at pointed
      rcases List.mem_append.mp pointed with early | late
      · cases List.mem_takeWhile_imp early
      · exact late
    have behind : isExponent (Text.spanDecimals (more ++ '.' :: rest)).2 = false :=
      isExponent_point (late (by simp))
    have here : isExponent (c :: (more ++ '.' :: rest)) = false := isExponent_point (by simp)
    unfold isDecimalNumber at number
    rw [span] at number
    split at number
    · rename_i same
      cases (Prod.mk.inj same).2
      dsimp only at number
      rw [behind, Bool.and_false] at number
      cases number
    · cases number
    · rename_i same
      cases (Prod.mk.inj same).2
      rw [behind] at number
      cases number
    · rename_i same
      rw [← (Prod.mk.inj same).2, here] at number
      cases number

theorem isUnsigned_digits {digits : Text} (some : digits ≠ [])
    (decimals : ∀ c ∈ digits, Text.isDecimal c = true) : isUnsigned digits = true := by
  have span : Text.spanDecimals digits = (digits, []) := by
    have whole : Text.spanDecimals (digits ++ []) = (digits, []) :=
      spanDecimals_append decimals (by simp)
    rwa [List.append_nil] at whole
  have number : isDecimalNumber digits = true := by
    unfold isDecimalNumber
    rw [span]
    cases digits with
    | nil => exact absurd rfl some
    | cons c rest => rfl
  unfold isUnsigned
  split
  · rename_i mark rest
    rw [if_neg]
    · exact number
    · intro hex
      have decimal := decimals mark (by simp)
      simp only [Bool.or_eq_true, decide_eq_true_eq] at hex
      rcases hex with rfl | rfl <;> cases decimal
  · exact number

/-- Behind a point without digits in front of it stands a number. -/
theorem isUnsigned_of_point {rest : Text} (number : isUnsigned ('.' :: rest) = true) :
    isUnsigned rest = true ∧ ∃ c more, rest = c :: more ∧ Text.isDecimal c = true := by
  have span : Text.spanDecimals ('.' :: rest) = ([], '.' :: rest) :=
    @spanDecimals_append [] _ (by simp) (fun c same => by cases same; decide)
  have decimal : isDecimalNumber ('.' :: rest) = true := by
    unfold isUnsigned at number
    split at number
    · rename_i same
      cases same
    · exact number
  unfold isDecimalNumber at decimal
  rw [span] at decimal
  simp only [Bool.and_eq_true, Bool.not_eq_true', List.isEmpty_eq_false_iff] at decimal
  obtain ⟨some, exponent⟩ := decimal
  obtain ⟨c, more, starts⟩ := List.exists_cons_of_ne_nil some
  have first : rest = c :: (more ++ rest.dropWhile Text.isDecimal) := by
    conv_lhs => rw [← List.takeWhile_append_dropWhile (p := Text.isDecimal) (l := rest)]
    have starts : rest.takeWhile Text.isDecimal = c :: more := starts
    rw [starts, List.cons_append]
  have digit : Text.isDecimal c = true :=
    List.mem_takeWhile_imp (l := rest) (by
      have starts : rest.takeWhile Text.isDecimal = c :: more := starts
      rw [starts]
      exact List.mem_cons_self)
  refine ⟨?_, c, _, first, digit⟩
  have plain : isDecimalNumber rest = true := by
    unfold isDecimalNumber
    have parts : Text.spanDecimals rest = (c :: more, (Text.spanDecimals rest).2) :=
      Prod.ext starts rfl
    rw [parts]
    split
    · rename_i same
      cases (Prod.mk.inj same).1
    · rename_i same
      cases (Prod.mk.inj same).1
    · rename_i same
      rw [(Prod.mk.inj same).2, isExponent_point (by simp)] at exponent
      cases exponent
    · rename_i same
      rw [← (Prod.mk.inj same).2]
      exact exponent
  unfold isUnsigned
  split
  · rename_i mark tail
    rw [if_neg]
    · exact plain
    · intro hex
      simp only [Bool.or_eq_true, decide_eq_true_eq] at hex
      have span : Text.spanDecimals ('0' :: mark :: tail) = (['0'], mark :: tail) :=
        @spanDecimals_append ['0'] _ (List.all_eq_true.mp rfl) (fun c same => by
          cases same
          rcases hex with rfl | rfl <;> decide)
      rw [span] at exponent
      rcases hex with rfl | rfl <;> cases exponent
  · exact plain

theorem isNumber_digits_signed {digits : Text} (some : digits ≠ [])
    (decimals : ∀ c ∈ digits, Text.isDecimal c = true) :
    isNumber digits = true ∧ isNumber ('+' :: digits) = true ∧ isNumber ('-' :: digits) = true := by
  have unsigned := isUnsigned_digits some decimals
  have single : '\n' ∉ digits := by
    intro inside
    cases decimals _ inside
  have line (sign : Char) (other : sign ≠ '\n') :
      Text.dropFinalNewline (sign :: digits) = sign :: digits := by
    apply Text.dropFinalNewline_of_notMem
    rw [List.mem_cons, not_or]
    exact ⟨other.symm, single⟩
  unfold isNumber
  rw [Text.dropFinalNewline_of_notMem _ single, line '+' (by decide), line '-' (by decide)]
  refine ⟨?_, unsigned, unsigned⟩
  split
  · cases decimals '+' List.mem_cons_self
  · cases decimals '-' List.mem_cons_self
  · exact unsigned

/-- What is a number without sign up to a point and from it on. -/
theorem isUnsigned_dotted {front rest : Text}
    (number : isUnsigned (front ++ '.' :: Text.dropFinalNewline rest) = true) :
    (front ≠ [] ∧ ∀ c ∈ front, Text.isDecimal c = true) ∨ isNumber rest = true := by
  by_cases empty : front = []
  · subst empty
    obtain ⟨behind, c, more, starts, decimal⟩ := isUnsigned_of_point number
    right
    unfold isNumber
    rw [starts] at behind ⊢
    split
    · rename_i same
      cases (List.cons.inj same).1
      cases decimal
    · rename_i same
      cases (List.cons.inj same).1
      cases decimal
    · exact behind
  · refine .inl ⟨empty, ?_⟩
    rcases isUnsigned_cases number with ⟨mark, hex, whole, marked, digit⟩ | decimal
    · have pointed : '.' ∈ '0' :: mark :: hex := by
        rw [← whole]
        simp
      simp only [List.mem_cons] at pointed
      rcases pointed with zero | same | inside
      · cases zero
      · rcases marked with rfl | rfl <;> cases same
      · cases digit _ inside
    · exact decimals_of_point decimal

/-- A number with a point in it has a number on one side of the point. -/
theorem isNumber_dotted {front rest : Text} (number : isNumber (front ++ '.' :: rest) = true) :
    isNumber front = true ∨ isNumber rest = true := by
  unfold isNumber at number
  rw [Text.dropFinalNewline_append_cons front rest (by decide)] at number
  have signless (unsigned : isUnsigned (front ++ '.' :: Text.dropFinalNewline rest) = true) :
      isNumber front = true ∨ isNumber rest = true :=
    (isUnsigned_dotted unsigned).imp_left fun digits =>
      (isNumber_digits_signed digits.1 digits.2).1
  split at number
  · rename_i text same
    cases front with
    | nil => cases (List.cons.inj same).1
    | cons sign digits =>
      obtain ⟨rfl, rfl⟩ := List.cons.inj same
      exact (isUnsigned_dotted number).imp_left fun run =>
        (isNumber_digits_signed run.1 run.2).2.1
  · rename_i text same
    cases front with
    | nil => cases (List.cons.inj same).1
    | cons sign digits =>
      obtain ⟨rfl, rfl⟩ := List.cons.inj same
      exact (isUnsigned_dotted number).imp_left fun run =>
        (isNumber_digits_signed run.1 run.2).2.2
  · exact signless number

end Operand
end ShaderLift
