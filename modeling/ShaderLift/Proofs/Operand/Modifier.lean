import ShaderLift.Proofs.Structured.Cast

namespace ShaderLift.Operand

variable {c : Char}

namespace IsNested

theorem of_unmarked {text : Text} (unmarked : ∀ c ∈ text, c ≠ '(' ∧ c ≠ ')' ∧ c ≠ '|') :
    IsNested text :=
  of_plain (fun inside => (unmarked _ inside).1 rfl) fun inside => (unmarked _ inside).2.1 rfl

theorem append {front tail : Text} (first : IsNested front) (second : IsNested tail) :
    IsNested (front ++ tail) := by
  intro place depth rest inside
  rw [List.append_assoc, first place depth _ inside, second _ depth rest inside,
    List.length_append]
  congr 1
  omega

theorem call {inner : Text} (nested : IsNested inner) : IsNested ('(' :: (inner ++ [')'])) := by
  intro place depth rest inside
  have opens : (['('] : Text) = "(" := rfl
  have closes : ([')'] : Text) = ")" := rfl
  have apart : ([')'] : Text) ≠ "(" := by decide
  have deeper : depth + 1 ≠ 1 := by omega
  rw [List.cons_append, closingFrom, if_pos opens, List.append_assoc,
    nested _ (depth + 1) _ (by omega), List.singleton_append, closingFrom, if_neg apart,
    if_pos closes, if_neg deeper, Int.add_sub_cancel]
  congr 1
  simp only [List.length_cons, List.length_append, List.length_nil]
  omega

end IsNested

/-- An expression in which nothing can be taken for a sign or an absolute value around it. -/
structure IsUnmarked (text : Text) : Prop where
  unsigned : text.head? ≠ some '-'
  unbarred : text.head? ≠ some '|'
  uncalled : Text.startsWith "abs(" text = false
  nested : IsNested text

/-- A name without parentheses, bars and a sign in front. -/
structure IsPlainName (text : Text) : Prop where
  unsigned : text.head? ≠ some '-'
  unmarked : ∀ c ∈ text, c ≠ '(' ∧ c ≠ ')' ∧ c ≠ '|'

namespace IsPlainName

variable {text : Text}

theorem isBare (plain : IsPlainName text) : IsBare text where
  unsigned := plain.unsigned
  unbarred starts := (plain.unmarked _ (List.mem_of_head? starts)).2.2 rfl
  uncalled inside := (plain.unmarked _ inside).1 rfl

theorem nested (plain : IsPlainName text) : IsNested text := .of_unmarked plain.unmarked

theorem nil : IsPlainName [] where
  unsigned := by decide
  unmarked := by simp

theorem of_fixed (unsigned : text.head? ≠ some '-')
    (each : text.all (fun c => c != '(' && c != ')' && c != '|') = true) : IsPlainName text := by
  refine ⟨unsigned, fun c inside => ?_⟩
  have unmarked := List.all_eq_true.mp each c inside
  simp only [Bool.and_eq_true, bne_iff_ne] at unmarked
  exact ⟨unmarked.1.1, unmarked.1.2, unmarked.2⟩

theorem append {tail : Text} (first : IsPlainName text) (second : IsPlainName tail) :
    IsPlainName (text ++ tail) where
  unsigned := by
    cases text with
    | nil => exact second.unsigned
    | cons c rest => exact first.unsigned
  unmarked c inside := by
    rcases List.mem_append.mp inside with early | late
    · exact first.unmarked c early
    · exact second.unmarked c late

/-- The beginning of a plain name is one. -/
theorem of_prefix {front : Text} (plain : IsPlainName text) (early : front <+: text) :
    IsPlainName front where
  unsigned := by
    cases front with
    | nil => decide
    | cons c rest =>
      obtain ⟨tail, rfl⟩ := early
      exact plain.unsigned
  unmarked c inside := plain.unmarked c (early.subset inside)

/-- A text of one class of characters, which holds no mark. -/
theorem of_class (accepts : Char → Bool) (each : ∀ c ∈ text, accepts c = true)
    (marks : ['-', '(', ')', '|'].any accepts = false) : IsPlainName text := by
  have other (mark c : Char) (listed : mark ∈ ['-', '(', ')', '|']) (inside : c ∈ text) :
      c ≠ mark := by
    rintro rfl
    exact List.any_eq_false.mp marks c listed (each c inside)
  refine ⟨fun starts => other '-' '-' (by decide) (List.mem_of_head? starts) rfl, ?_⟩
  intro c inside
  exact ⟨other '(' c (by decide) inside, other ')' c (by decide) inside,
    other '|' c (by decide) inside⟩

theorem ofNat (n : Nat) : IsPlainName (Text.ofNat n) :=
  of_class Char.isDigit (Text.isDigit_ofNat n) (by decide)

theorem suffix (selected : List Component) : IsPlainName (Component.suffix selected) := by
  apply of_class fun c => c == '.' || c.isAlphanum
  · intro c inside
    rcases mem_suffix c selected inside with dot | letter
    · simp [dot]
    · simp [letter]
  · decide

/-- Brackets may hold a sign. -/
theorem bracketed (unmarked : ∀ c ∈ text, c ≠ '(' ∧ c ≠ ')' ∧ c ≠ '|') :
    IsPlainName ('[' :: (text ++ [']'])) where
  unsigned := by simp
  unmarked c inside := by
    simp only [List.mem_cons, List.mem_append, List.not_mem_nil, or_false] at inside
    rcases inside with rfl | among | rfl
    · decide
    · exact unmarked c among
    · decide

theorem indexed {index : Text} (plain : IsPlainName text)
    (unmarked : ∀ c ∈ index, c ≠ '(' ∧ c ≠ ')' ∧ c ≠ '|') :
    IsPlainName (text ++ "[" ++ index ++ "]") := by
  rw [List.append_assoc, List.append_assoc]
  exact plain.append (bracketed unmarked)

theorem ofInt_unmarked (n : Int) : ∀ c ∈ Text.ofInt n, c ≠ '(' ∧ c ≠ ')' ∧ c ≠ '|' := by
  intro c inside
  cases n with
  | ofNat n => exact (ofNat n).unmarked c inside
  | negSucc n =>
    rcases List.mem_cons.mp inside with rfl | among
    · decide
    · exact (ofNat (n + 1)).unmarked c among

theorem indexText (indices : List Nat) : IsPlainName (ShaderLift.indexText indices) := by
  induction indices with
  | nil => exact nil
  | cons i rest ih =>
    exact (bracketed (ofNat i).unmarked).append ih

end IsPlainName

theorem IsBare.of_append {front tail : Text} (bare : IsBare (front ++ tail)) : IsBare front where
  unsigned := by
    cases front with
    | nil => decide
    | cons c rest => exact bare.unsigned
  unbarred := by
    cases front with
    | nil => decide
    | cons c rest => exact bare.unbarred
  uncalled inside := bare.uncalled (List.mem_append_left _ inside)

namespace IsUnmarked

variable {text : Text}

theorem of_bare (bare : IsBare text) (nested : IsNested text) : IsUnmarked text where
  unsigned := bare.unsigned
  unbarred := bare.unbarred
  uncalled := by
    cases found : Text.after? "abs(" text with
    | none => rw [Text.startsWith, found]; rfl
    | some rest =>
      refine absurd ?_ bare.uncalled
      rw [Text.eq_of_after? _ _ _ found]
      exact List.mem_append_left _ (by decide)
  nested := nested

theorem of_plain (plain : IsPlainName text) : IsUnmarked text :=
  .of_bare plain.isBare plain.nested

theorem indexed {name tail : Text} (bare : IsBare name) (nested : IsNested (name ++ '[' :: tail)) :
    IsUnmarked (name ++ '[' :: tail) := by
  obtain ⟨unsigned, unbarred, uncalled⟩ := bare.indexed tail
  exact ⟨unsigned, unbarred, uncalled, nested⟩

theorem splitModifiers (unmarked : IsUnmarked text) :
    Operand.splitModifiers text = ⟨false, text, false⟩ :=
  splitModifiers_of_head unmarked.unsigned unmarked.unbarred unmarked.uncalled

theorem absoluteInner?_eq_none (unmarked : IsUnmarked text) :
    absoluteInner? text = none := by
  unfold absoluteInner?
  split
  · exact absurd rfl unmarked.unbarred
  · rw [unmarked.uncalled]
    rfl

end IsUnmarked

theorem isExponent_mem {text : Text} (exponent : isExponent text = true) (inside : c ∈ text) :
    Text.isDecimal c = true ∨ c ∈ ['e', 'E', '+', '-'] := by
  cases text with
  | nil => cases inside
  | cons mark rest =>
    unfold isExponent at exponent
    simp only [Bool.and_eq_true, Bool.or_eq_true, beq_iff_eq] at exponent
    obtain ⟨⟨marked, _⟩, digits⟩ := exponent
    rw [List.all_eq_true] at digits
    rcases List.mem_cons.mp inside with rfl | behind
    · right
      rcases marked with rfl | rfl <;> decide
    · split at digits
      · rcases List.mem_cons.mp behind with rfl | behind
        · right; decide
        · exact .inl (digits c behind)
      · rcases List.mem_cons.mp behind with rfl | behind
        · right; decide
        · exact .inl (digits c behind)
      · exact .inl (digits c behind)

/-- The characters of a decimal number: no letter but that of the exponent. -/
theorem isDecimalNumber_mem {text : Text} (number : isDecimalNumber text = true)
    (inside : c ∈ text) : Text.isDecimal c = true ∨ c ∈ ['.', 'e', 'E', '+', '-'] := by
  have decimals (text : Text) : ∀ c ∈ text.takeWhile Text.isDecimal, Text.isDecimal c = true :=
    fun c inside => List.mem_takeWhile_imp inside
  have exponent {text : Text} (written : isExponent text = true) (c : Char) (inside : c ∈ text) :
      Text.isDecimal c = true ∨ c ∈ ['.', 'e', 'E', '+', '-'] :=
    (isExponent_mem written inside).imp_right (List.mem_cons_of_mem _)
  have fraction {text : Text} (written : isExponent (Text.spanDecimals text).2 = true) (c : Char)
      (inside : c ∈ '.' :: text) : Text.isDecimal c = true ∨ c ∈ ['.', 'e', 'E', '+', '-'] := by
    rcases List.mem_cons.mp inside with rfl | behind
    · right; decide
    · rw [← List.takeWhile_append_dropWhile (p := Text.isDecimal) (l := text)] at behind
      rcases List.mem_append.mp behind with early | late
      · exact .inl (decimals text c early)
      · exact exponent written c late
  rw [← List.takeWhile_append_dropWhile (p := Text.isDecimal) (l := text)] at inside
  rcases List.mem_append.mp inside with early | late
  · exact .inl (decimals text c early)
  · unfold isDecimalNumber at number
    split at number
    · rename_i rest split
      rw [(Prod.mk.inj split).2] at late
      exact fraction (Bool.and_eq_true_iff.mp number).2 c late
    · cases number
    · rename_i rest split
      rw [(Prod.mk.inj split).2] at late
      exact fraction number c late
    · rename_i rest _ _ split
      rw [(Prod.mk.inj split).2] at late
      exact exponent number c late

/-- A number without sign is hexadecimal behind its mark, or it is decimal. -/
theorem isUnsigned_cases {text : Text} (number : isUnsigned text = true) :
    (∃ mark digits, text = '0' :: mark :: digits ∧ (mark = 'x' ∨ mark = 'X') ∧
      ∀ c ∈ digits, isHexDigit c = true) ∨ isDecimalNumber text = true := by
  unfold isUnsigned at number
  split at number
  · rename_i mark digits
    split at number
    · rename_i marked
      rw [Bool.and_eq_true, List.all_eq_true] at number
      left
      exact ⟨mark, digits, rfl, by simpa using marked, number.2⟩
    · exact .inr number
  · exact .inr number

theorem mem_dropFinalNewline {text : Text} (inside : c ∈ text) :
    c = '\n' ∨ c ∈ Text.dropFinalNewline text := by
  rcases Text.dropFinalNewline_cases text with ⟨_, same⟩ | ended
  · exact .inr (by rwa [same])
  · rw [ended, List.mem_append, List.mem_singleton] at inside
    exact inside.symm

/-- What a character of a number is: a point rules out all letters but that of the exponent. -/
def FitsNumber (text : Text) (c : Char) : Prop :=
  (Text.isDecimal c = true ∨ c ∈ ['.', 'e', 'E', '+', '-', '\n']) ∨
    '.' ∉ text ∧ (isHexDigit c = true ∨ c ∈ ['x', 'X'])

theorem isNumber_mem {text : Text} (number : isNumber text = true) (inside : c ∈ text) :
    FitsNumber text c := by
  have unsigned {rest : Text} (written : isUnsigned rest = true) (among : c ∈ rest)
      (all : '.' ∈ text → '.' ∈ rest) : FitsNumber text c := by
    rcases isUnsigned_cases written with ⟨mark, digits, rfl, marked, hex⟩ | decimal
    · have unpointed : '.' ∉ text := by
        intro pointed
        rcases List.mem_cons.mp (all pointed) with zero | behind
        · cases zero
        · rcases List.mem_cons.mp behind with same | behind
          · rcases marked with rfl | rfl <;> cases same
          · cases hex _ behind
      rcases List.mem_cons.mp among with rfl | behind
      · left; left; decide
      · refine .inr ⟨unpointed, ?_⟩
        rcases List.mem_cons.mp behind with rfl | behind
        · right
          simpa using marked
        · exact .inl (hex c behind)
    · left
      rcases isDecimalNumber_mem decimal among with digit | marked
      · exact .inl digit
      · right
        revert marked
        simp only [List.mem_cons, List.not_mem_nil, or_false]
        grind
  have signed {sign : Char} {rest : Text} (mark : sign = '+' ∨ sign = '-')
      (split : Text.dropFinalNewline text = sign :: rest) (written : isUnsigned rest = true) :
      FitsNumber text c := by
    have all : '.' ∈ text → '.' ∈ rest := by
      intro pointed
      rcases mem_dropFinalNewline pointed with same | among
      · cases same
      · rw [split, List.mem_cons] at among
        rcases among with rfl | behind
        · rcases mark with same | same <;> cases same
        · exact behind
    rcases mem_dropFinalNewline inside with rfl | among
    · left; right; decide
    · rw [split, List.mem_cons] at among
      rcases among with rfl | behind
      · left; right
        rcases mark with rfl | rfl <;> decide
      · exact unsigned written behind all
  unfold isNumber at number
  split at number
  · rename_i split
    exact signed (.inl rfl) split number
  · rename_i split
    exact signed (.inr rfl) split number
  · rcases mem_dropFinalNewline inside with rfl | among
    · left; right; decide
    · refine unsigned number among fun pointed => ?_
      rcases mem_dropFinalNewline pointed with same | among
      · cases same
      · exact among

/-- What ends in a selector is no number. -/
theorem isNumber_suffix (front : Text) {selected : List Component} (filled : selected ≠ []) :
    isNumber (front ++ Component.suffix selected) = false := by
  obtain ⟨c, others, rfl⟩ := List.exists_cons_of_ne_nil filled
  rw [Component.suffix_of_ne_nil filled]
  cases number : isNumber (front ++ '.' :: Component.letters (c :: others)) with
  | false => rfl
  | true =>
    have letter : c.letter ∈ front ++ '.' :: Component.letters (c :: others) := by
      simp [Component.letters]
    rcases isNumber_mem number letter with (digit | marked) | ⟨unpointed, _⟩
    · cases c <;> revert digit <;> decide
    · cases c <;> revert marked <;> decide
    · exact absurd (by simp) unpointed

theorem notMem_of_isNumber {text : Text} (number : isNumber text = true)
    (other : Text.isDecimal c = false ∧ isHexDigit c = false ∧
      c ∉ ['.', 'e', 'E', '+', '-', '\n', 'x', 'X']) : c ∉ text := by
  intro inside
  obtain ⟨undecimal, unhex, unmarked⟩ := other
  simp only [List.mem_cons, List.not_mem_nil, or_false, not_or] at unmarked
  rcases isNumber_mem number inside with (digit | marked) | ⟨_, digit | marked⟩
  · rw [undecimal] at digit
    cases digit
  · simp [unmarked] at marked
  · rw [unhex] at digit
    cases digit
  · simp [unmarked] at marked

theorem isNumber_call (front inner tail : Text) : isNumber (front ++ '(' :: inner ++ tail) = false := by
  cases number : isNumber (front ++ '(' :: inner ++ tail) with
  | false => rfl
  | true => exact absurd (by simp) (notMem_of_isNumber number (c := '(') (by decide))

/-- Modifiers around an expression are taken off again, unless the sign makes it a number. -/
theorem splitModifiers_applyModifiers {inner : Text} (unmarked : IsUnmarked inner)
    (negate absolute : Bool)
    (worded : negate = true → absolute = false → isNumber ('-' :: inner) = false) :
    splitModifiers (applyModifiers inner negate absolute) = ⟨negate, inner, absolute⟩ := by
  cases absolute with
  | true =>
    have called : isNumber ('-' :: ("abs(" ++ inner ++ ")")) = false :=
      isNumber_call "-abs" inner ")"
    have split := splitModifiers_signed negate (by simp) called
    rw [absoluteInner?_nested unmarked.nested] at split
    exact split
  | false =>
    cases negate with
    | false => exact unmarked.splitModifiers
    | true =>
      have split := splitModifiers_signed true unmarked.unsigned (worded rfl rfl)
      rw [unmarked.absoluteInner?_eq_none] at split
      exact split

end ShaderLift.Operand
