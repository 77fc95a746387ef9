import ShaderLift.Proofs.Operand.Arguments
import ShaderLift.Proofs.Operand.Listed
import ShaderLift.Proofs.Operand.Numeral
import ShaderLift.Proofs.Register.Width

namespace ShaderLift

namespace Operand

/-- A number as it stands in a listing. -/
structure IsNumeral (value : Text) : Prop where
  number : isNumber value = true
  single : '\n' ∉ value

/-- A literal operand whose values are numbers. -/
structure IsLiteral (values : List Text) (text : Text) : Prop where
  written : (Form.literal values).IsWritten text
  numeric : ∀ value ∈ values, IsNumeral value

theorem isBlank_hexDigit {c : Char} (digit : isHexDigit c = true) : Text.isBlank c = false := by
  have code : 48 ≤ c.toNat ∧ c.toNat ≤ 102 := by
    unfold isHexDigit at digit
    simp only [Bool.or_eq_true, Bool.and_eq_true, decide_eq_true_eq] at digit
    rcases digit with (decimal | ⟨low, high⟩) | ⟨low, high⟩
    · have bounds := Text.digit_code c decimal
      omega
    · have first : 97 ≤ c.toNat := UInt32.le_iff_toNat_le.mp low
      have last : c.toNat ≤ 102 := UInt32.le_iff_toNat_le.mp high
      omega
    · have first : 65 ≤ c.toNat := UInt32.le_iff_toNat_le.mp low
      have last : c.toNat ≤ 70 := UInt32.le_iff_toNat_le.mp high
      omega
  simp only [Text.isBlank, Text.inRanges, Text.blankRanges, List.any_cons, List.any_nil,
    Bool.or_false, Bool.or_eq_false_iff, Bool.and_eq_false_iff, decide_eq_false_iff_not]
  omega

namespace IsNumeral

variable {value : Text}

variable (numeral : IsNumeral value)

include numeral

theorem ne_nil : value ≠ [] := by
  rintro rfl
  cases numeral.number

theorem notMem {c : Char}
    (other : Text.isDecimal c = false ∧ isHexDigit c = false ∧
      c ∉ ['.', 'e', 'E', '+', '-', '\n', 'x', 'X']) : c ∉ value :=
  notMem_of_isNumber numeral.number other

theorem visible : ∀ c ∈ value, Text.isBlank c = false := by
  have fixed : ∀ c ∈ ['.', 'e', 'E', '+', '-', 'x', 'X'], Text.isBlank c = false :=
    fun c marked => Bool.eq_false_of_not_eq_true (List.any_eq_false.mp rfl c marked)
  intro c inside
  rcases isNumber_mem numeral.number inside with (decimal | marked) | ⟨_, digit | marked⟩
  · exact Text.isBlank_decimal c decimal
  · have other : c ≠ '\n' := fun newline => numeral.single (newline ▸ inside)
    apply fixed
    simp only [List.mem_cons, List.not_mem_nil, or_false] at marked ⊢
    grind
  · exact isBlank_hexDigit digit
  · apply fixed
    simp only [List.mem_cons, List.not_mem_nil, or_false] at marked ⊢
    grind

theorem inner : ∀ c ∈ value, IsInner c := by
  intro c inside
  refine ⟨numeral.visible c inside, ?_⟩
  simp only [List.mem_cons, List.not_mem_nil, or_false]
  rintro (rfl | rfl | rfl | rfl | rfl) <;> exact numeral.notMem (by decide) inside

theorem plain :
    ∀ c ∈ value, Token.isSeparator c = false ∧ Token.isCutoff c = false := by
  intro c inside
  constructor
  · cases separator : Token.isSeparator c with
    | false => rfl
    | true =>
      simp only [Token.isSeparator, Bool.or_eq_true, beq_iff_eq] at separator
      have visible := numeral.visible c inside
      rcases separator with blank | rfl
      · rcases blank with ((rfl | rfl) | rfl) | rfl <;> cases visible
      · exact absurd inside (numeral.notMem (by decide))
  · cases cutoff : Token.isCutoff c with
    | false => rfl
    | true =>
      simp only [Token.isCutoff, Bool.or_eq_true, beq_iff_eq] at cutoff
      rcases cutoff with (((rfl | rfl) | rfl) | rfl) | rfl <;>
        exact absurd inside (numeral.notMem (by decide))

/-- A number starts with a digit, a point or a sign, and no register with a name does. -/
theorem head?_ne {c : Char} (undecimal : Text.isDecimal c = false)
    (unmarked : c ∉ ['.', '+', '-']) : value.head? ≠ some c := by
  intro starts
  obtain ⟨rest, rfl⟩ := List.head?_eq_some_iff.mp starts
  have word := isNumber_of_head (Text.dropFinalNewline_of_notMem _ numeral.single) undecimal
    unmarked
  rw [numeral.number] at word
  cases word

theorem splitModifiers :
    Operand.splitModifiers value = ⟨false, value, false⟩ := by
  have uncalled : absoluteInner? value = none := by
    unfold absoluteInner?
    split
    · exact absurd rfl (numeral.head?_ne (c := '|') (by decide) (by decide))
    · rw [if_neg]
      intro both
      obtain ⟨rest, found⟩ := Option.isSome_iff_exists.mp (Bool.and_eq_true_iff.mp both).1
      apply numeral.notMem (c := '(') (by decide)
      rw [Text.eq_of_after? _ _ _ found]
      exact List.mem_append_left _ (by decide)
  simp [Operand.splitModifiers, numeral.number, uncalled]

theorem splitSelector :
    Operand.splitSelector value = (value, []) := by
  have unselected : (Operand.splitSelector value).2 = [] := by
    by_contra filled
    have word := isNumber_suffix (Operand.splitSelector value).1 filled
    rw [← (eq_of_splitSelector filled).1, numeral.number] at word
    cases word
  exact splitSelector_unselected unselected

end IsNumeral

/-- Numbers with any separators around them are a literal operand. -/
theorem isLiteral_of_divides {mark gap inside : Text} {values : List Text}
    (marked : mark = "l" ∨ mark = "d") (between : Token.Separates gap) (filled : values ≠ [])
    (numeric : ∀ value ∈ values, IsNumeral value) (divides : Token.Divides values inside) :
    IsLiteral values (mark ++ gap ++ '(' :: (inside ++ [')'])) := by
  refine ⟨.literal marked between filled ?_ ?_ divides, numeric⟩
  · exact fun value among => ⟨(numeric value among).ne_nil, (numeric value among).plain⟩
  · intro value among
    apply Token.Uncommented.of_all
    rw [List.all_eq_true]
    intro c inside
    rw [bne_iff_ne]
    rintro rfl
    exact (numeric value among).notMem (by decide) inside

end Operand

open Operand

theorem Text.notMem_commaList {values : List Text} {c : Char} (other : c ∉ [',', ' '])
    (each : ∀ value ∈ values, c ∉ value) : c ∉ commaList values := by
  induction values with
  | nil => simp [commaList, join]
  | cons value rest ih =>
    rw [List.forall_mem_cons] at each
    cases rest with
    | nil => exact each.1
    | cons next others =>
      have whole : commaList (value :: next :: others) =
          value ++ [',', ' '] ++ commaList (next :: others) := rfl
      rw [whole, List.mem_append, List.mem_append, not_or, not_or]
      exact ⟨⟨each.1, other⟩, ih each.2⟩

namespace Decoding

variable {values : List Text}

theorem literalText_of_ne (several : ∀ value, values ≠ [value]) :
    literalText values =
      'f' :: ("loat" ++ Text.ofNat values.length ++ "(" ++ Text.commaList values) ++ [')'] := by
  unfold literalText
  split
  · exact absurd rfl (several _)
  · simp

theorem head?_literalText_ne (numeric : ∀ value ∈ values, IsNumeral value) {c : Char}
    (undecimal : Text.isDecimal c = false) (unmarked : c ∉ ['f', '.', '+', '-']) :
    (literalText values).head? ≠ some c := by
  rw [List.mem_cons, not_or] at unmarked
  by_cases single : ∃ value, values = [value]
  · obtain ⟨value, rfl⟩ := single
    exact (numeric value List.mem_cons_self).head?_ne undecimal unmarked.2
  · rw [literalText_of_ne (not_exists.mp single)]
    intro same
    exact unmarked.1 (Option.some.inj same).symm

theorem splitModifiers_literalText (numeric : ∀ value ∈ values, IsNumeral value) :
    splitModifiers (literalText values) = ⟨false, literalText values, false⟩ := by
  by_cases single : ∃ value, values = [value]
  · obtain ⟨value, rfl⟩ := single
    exact (numeric value List.mem_cons_self).splitModifiers
  · rw [literalText_of_ne (not_exists.mp single)]
    exact splitModifiers_of_head (by simp) (by simp) rfl

theorem splitSelector_literalText (numeric : ∀ value ∈ values, IsNumeral value) :
    splitSelector (literalText values) = (literalText values, []) := by
  by_cases single : ∃ value, values = [value]
  · obtain ⟨value, rfl⟩ := single
    exact (numeric value List.mem_cons_self).splitSelector
  · rw [literalText_of_ne (not_exists.mp single)]
    exact splitSelector_marked _ fun c => by cases c <;> decide

theorem notMem_literalText (numeric : ∀ value ∈ values, IsNumeral value) :
    '[' ∉ literalText values := by
  have each : ∀ value ∈ values, '[' ∉ value :=
    fun value inside => (numeric value inside).notMem (by decide)
  by_cases single : ∃ value, values = [value]
  · obtain ⟨value, rfl⟩ := single
    exact each value List.mem_cons_self
  · have list := Text.notMem_commaList (by decide) each
    have digits := notMem_ofNat '[' (by decide) values.length
    rw [literalText_of_ne (not_exists.mp single)]
    simp [list, digits]

theorem constructor?_float {width : Char} (sized : ('1' ≤ width && width ≤ '4') = true) {body : Text}
    (single : '\n' ∉ body) :
    constructor? ("float" ++ width :: '(' :: (body ++ [')'])) = some ⟨"float", body⟩ := by
  have whole : Text.dropFinalNewline ("float" ++ width :: '(' :: (body ++ [')'])) =
      "float" ++ width :: '(' :: (body ++ [')']) := by
    have ends : ("float" ++ width :: '(' :: (body ++ [')']) : Text) =
        ("float" ++ width :: '(' :: body) ++ [')'] := by simp
    rw [ends, Text.dropFinalNewline_concat _ (by decide)]
  have worded : (constructorWords.findSome? fun word =>
      (Text.after? word ("float" ++ width :: '(' :: (body ++ [')']))).map (word, ·)) =
        some (("float" : Text), width :: '(' :: (body ++ [')'])) := rfl
  have inside : Text.before? [')'] (body ++ [')']) = some body := Text.before?_append _ _
  have opened : Text.after? ['('] ('(' :: (body ++ [')'])) = some (body ++ [')']) := rfl
  unfold constructor?
  dsimp only
  rw [whole, worded]
  simp only [Option.bind_eq_bind, Option.bind_some, sized, if_true, opened, inside]
  rw [if_neg (by simpa using single)]

/-- A literal of two to four values is a vector of them. -/
theorem constructor?_literalText (numeric : ∀ value ∈ values, IsNumeral value)
    (several : 1 < values.length) (few : values.length ≤ 4) :
    constructor? (literalText values) = some ⟨"float", Text.commaList values⟩ := by
  have single : '\n' ∉ Text.commaList values :=
    Text.notMem_commaList (by decide) fun value inside => (numeric value inside).single
  obtain ⟨width, digits, sized⟩ : ∃ width, Text.ofNat values.length = [width] ∧
      ('1' ≤ width && width ≤ '4') = true := by
    have count : values.length = 2 ∨ values.length = 3 ∨ values.length = 4 := by omega
    rcases count with two | three | four
    · exact ⟨'2', by rw [two]; rfl, by decide⟩
    · exact ⟨'3', by rw [three]; rfl, by decide⟩
    · exact ⟨'4', by rw [four]; rfl, by decide⟩
  have whole : literalText values = "float" ++ width :: '(' :: (Text.commaList values ++ [')']) := by
    rw [literalText_of_ne (by rintro value rfl; simp at several), digits]
    simp
  rw [whole, constructor?_float sized single]

theorem splitArguments_values (numeric : ∀ value ∈ values, IsNumeral value) :
    splitArguments (Text.commaList values) = values :=
  splitArguments_commaList fun value inside =>
    ⟨(numeric value inside).ne_nil, (numeric value inside).inner⟩

theorem isLiteralVector_literalText (numeric : ∀ value ∈ values, IsNumeral value)
    (several : 1 < values.length) (few : values.length ≤ 4) :
    IsLiteralVector (literalText values) values := by
  have filled : values ≠ [] := List.ne_nil_of_length_pos (by omega)
  exact ⟨⟨_, constructor?_literalText numeric several few, splitArguments_values numeric⟩,
    filled, fun value inside => (numeric value inside).number⟩

end Decoding

/-- No declared name is a number, brackets of arrays aside, and no register goes by a literal. -/
structure Declarations.HasNoLiteral (d : Declarations) : Prop where
  buffers : ∀ buffer ∈ d.buffers, ∀ v ∈ buffer.members,
    isNumber (v.name.takeWhile (· != '[')) = false
  members : ∀ s ∈ d.structures, ∀ m ∈ s.members, isNumber (m.name.takeWhile (· != '[')) = false
  inputs : ∀ row ∈ d.inputs, row.register = none → ∀ values, (∀ value ∈ values, IsNumeral value) →
    row.registerName ≠ Decoding.literalText values
  outputs : ∀ row ∈ d.outputs, row.register = none →
    ∀ values, (∀ value ∈ values, IsNumeral value) →
      row.registerName ≠ Decoding.literalText values

/-- What a buffer brings up is not accessed by a number. -/
def ConstantFinding.IsWord : ConstantFinding → Prop
  | array _ => True
  | placement found => isNumber found.entry.expression = false

/-- A path to members ends in a point, and what stands in front of it is no number. -/
def LeadsOn (path : Text) : Prop := path = [] ∨ ∃ front, path = front ++ ['.'] ∧ isNumber front = false

theorem LeadsOn.isNumber_append {path base : Text} (leads : LeadsOn path)
    (word : isNumber base = false) (indices : List Nat) :
    isNumber (path ++ base ++ indexText indices) = false := by
  cases number : isNumber (path ++ base ++ indexText indices) with
  | false => rfl
  | true =>
    exfalso
    cases indices with
    | cons index rest =>
      exact notMem_of_isNumber number (c := '[') (by decide) (by simp [indexText])
    | nil =>
      rw [indexText, List.flatMap_nil, List.append_nil] at number
      rcases leads with rfl | ⟨front, rfl, wordy⟩
      · rw [List.nil_append, word] at number
        cases number
      · rw [List.append_assoc, List.singleton_append] at number
        rcases isNumber_dotted number with early | late
        · rw [wordy] at early
          cases early
        · rw [word] at late
          cases late

theorem Variable.word_findings {structures : List Structure}
    (members : ∀ s ∈ structures, ∀ m ∈ s.members, isNumber (m.name.takeWhile (· != '[')) = false)
    (bind : Int) (depth : Nat) (place : Int) {v : Variable}
    (named : isNumber (v.name.takeWhile (· != '[')) = false) :
    ∀ finding ∈ (v.findings structures bind depth place []).items, finding.IsWord := by
  refine forall_findings (fun v => isNumber (v.name.takeWhile (· != '[')) = false) LeadsOn members
    ?_ ?_ depth place named (.inl rfl)
  · intro v place path base dimensions named leads split finding inside
    rw [← eq_of_splitArrayName split] at named
    simp only [LeafField.findings, List.mem_append, List.mem_map, Option.mem_toList] at inside
    rcases inside with ⟨found, _, rfl⟩ | ⟨position, _, rfl⟩
    · trivial
    · exact leads.isNumber_append named _
  · intro v path base dimensions position named leads split
    rw [← eq_of_splitArrayName split] at named
    exact .inr ⟨_, rfl, leads.isNumber_append named _⟩

namespace Declarations.HasNoLiteral

variable {d : Declarations} {values : List Text}

theorem isNumber_field (plain : d.HasNoLiteral) {name : Text} {entry : ConstantEntry}
    (known : d.resolve.registers.constants.fields.get? name = some entry) :
    isNumber name = false := by
  obtain ⟨p, rfl, rfl, word⟩ := exists_of_field
    (fun buffer listed bind v member => Variable.word_findings plain.members bind _ _
      (plain.buffers buffer listed v member)) known
  exact word

theorem get?_entries {rows : List Signature} (side : Side)
    (unnamed : ∀ row ∈ rows, row.register = none → ∀ values, (∀ value ∈ values, IsNumeral value) →
      row.registerName ≠ Decoding.literalText values)
    (numeric : ∀ value ∈ values, IsNumeral value) :
    (SideTables.ofRows side (Signature.rank rows)).entries.get? (Decoding.literalText values) =
      none := by
  cases found : (SideTables.ofRows side (Signature.rank rows)).entries.get?
      (Decoding.literalText values) with
  | none => rfl
  | some entries =>
    exfalso
    have some : entries ≠ [] :=
      (((SideTables.entries_gathers side _).get? _ entries).mp found).2
    obtain ⟨entry, rest, rfl⟩ := List.exists_cons_of_ne_nil some
    obtain ⟨_, _, _, row, key⟩ :=
      SideTables.exists_row_of_lists side ⟨_, found, List.mem_cons_self⟩
    have kept : entry.signature.register = none →
        entry.signature.registerName ≠ Decoding.literalText values :=
      @Signature.forall_rank (fun row => row.register = none → row.registerName ≠ _)
        (fun _ _ _ named => named) rows
        (fun row inside none => unnamed row inside none values numeric) _ row
    unfold Signature.keys at key
    split at key
    · rename_i none
      exact kept none (List.mem_singleton.mp key).symm
    · have marked : (Decoding.literalText values).head? = Option.some side.mark := by
        simp only [List.mem_cons, List.not_mem_nil, or_false] at key
        rcases key with same | same <;> rw [same] <;> rfl
      refine Decoding.head?_literalText_ne numeric ?_ ?_ marked <;> cases side <;> decide

theorem isUnlisted (plain : d.HasNoLiteral) (numeric : ∀ value ∈ values, IsNumeral value) :
    d.resolve.registers.IsUnlisted (Decoding.literalText values) :=
  ⟨get?_entries .input plain.inputs numeric, get?_entries .output plain.outputs numeric⟩

/-- A literal stands for itself. -/
theorem resolved_literalText (plain : d.HasNoLiteral) (returns : d.resolve.fault = none)
    (numeric : ∀ value ∈ values, IsNumeral value) :
    Decoding.resolved d.resolve.registers (Decoding.literalText values) =
      .ok (Decoding.literalText values) := by
  have split := Decoding.splitSelector_literalText numeric
  have other {c : Char} (undecimal : Text.isDecimal c = false)
      (unmarked : c ∉ ['f', '.', '+', '-']) := Decoding.head?_literalText_ne numeric undecimal unmarked
  have some : Decoding.literalText values ≠ [] := by
    by_cases single : ∃ value, values = [value]
    · obtain ⟨value, rfl⟩ := single
      exact (numeric value List.mem_cons_self).ne_nil
    · rw [Decoding.literalText_of_ne (not_exists.mp single)]
      simp
  obtain ⟨mark, rest, whole⟩ := List.exists_cons_of_ne_nil some
  have start : (Decoding.literalText values).head? = Option.some mark := by rw [whole]; rfl
  have unmarked : mark ∉ Registers.namedMarks := by
    intro marked
    simp only [Registers.namedMarks, List.mem_cons, List.not_mem_nil, or_false] at marked
    rcases marked with rfl | rfl | rfl | rfl <;> exact other (by decide) (by decide) start
  refine Registers.resolved_of_unnamed (Decoding.splitModifiers_literalText numeric) ?_
    (Registers.normalizeIndexed_unindexed (Decoding.notMem_literalText numeric))
  rw [Registers.findName?_unlisted returns (plain.isUnlisted numeric) start unmarked split]
  exact Registers.findConstant?_eq_none returns (other (by decide) (by decide))
    (other (by decide) (by decide)) split

end Declarations.HasNoLiteral
namespace Declarations.HasNoLiteral

variable {d : Declarations} {values : List Text} {mask : List Component}

theorem cast_single (plain : d.HasNoLiteral) {value : Text} (numeral : IsNumeral value)
    (asked : mask ≠ []) :
    d.resolve.registers.cast value (.ofComponents mask) = .ok value := by
  have unlisted : d.resolve.registers.constants.fields.get? value = none := by
    cases found : d.resolve.registers.constants.fields.get? value with
    | none => rfl
    | some entry =>
      have word := plain.isNumber_field found
      rw [numeral.number] at word
      cases word
  have unselected : (splitSelector value).2 = [] := by rw [numeral.splitSelector]
  rw [Registers.cast_of_split (Swizzle.count_ne_zero asked) numeral.splitModifiers,
    Registers.castInner_unselected (numeral.notMem (by decide)) unselected unlisted]
  rfl

end Declarations.HasNoLiteral

namespace Registers

variable {registers : Registers} {values : List Text} {mask : List Component}

theorem cast_literalText (numeric : ∀ value ∈ values, IsNumeral value) (several : 1 < values.length)
    (few : values.length ≤ 4) (asked : mask ≠ []) :
    registers.cast (Decoding.literalText values) (.ofComponents mask) =
      selectLiteral (Decoding.literalText values) (.ofComponents mask) := by
  have vector := Decoding.isLiteralVector_literalText numeric several few
  rw [cast_of_split (Swizzle.count_ne_zero asked) (Decoding.splitModifiers_literalText numeric),
    castInner_literal vector]
  cases selectLiteral (Decoding.literalText values) (.ofComponents mask) <;> rfl

/-- A target selects among the values of a literal, which are spelled as they are listed. -/
theorem cast_literalText_covered (numeric : ∀ value ∈ values, IsNumeral value)
    (several : 1 < values.length) (few : values.length ≤ 4) (asked : mask ≠ [])
    (covered : ∀ c ∈ mask, c.index < values.length) :
    registers.cast (Decoding.literalText values) (.ofComponents mask) =
      .ok (vectorText "float" (mask.map fun c => values.getD c.index [])) := by
  have made := Decoding.constructor?_literalText numeric several few
  have split := Decoding.splitArguments_values numeric
  rw [cast_literalText numeric several few asked,
    selectLiteral_covered made asked (by rwa [split]), split]
  rfl

end Registers

namespace Decoding

/-- A literal of one value is that value. Of several values a target takes those at its components,
and only a component behind the last value makes it fail. -/
theorem readSource_literal (declared : Declarations) (env : Environment) (d : Decoder)
    (values : List Text) (written back : Text) (line : Int) (later : List Token)
    (mask : List Component) (returns : declared.resolve.fault = none)
    (plain : declared.HasNoLiteral) (same : env.symbols.registers = declared.resolve.registers)
    (literal : IsLiteral values written) (few : values.length ≤ 4) (here : d.line = some line)
    (ahead : d.cursor.rest = (Token.ofLine (written ++ back)).map (⟨·, line⟩) ++ later)
    (asked : mask ≠ []) :
    ∃ outcome,
      runOn (readSource (.ofComponents mask)) env d =
        (outcome, d.past ((Token.ofLine written).map (⟨·, line⟩))
          ((Token.ofLine back).map (⟨·, line⟩) ++ later) d.log) ∧
      (∀ value, values = [value] → outcome = .ok value) ∧
      (1 < values.length →
        ((∃ cause place, outcome = .error (.decode cause place)) ↔
          ∃ c ∈ mask, values.length ≤ c.index) ∧
        ((∀ c ∈ mask, c.index < values.length) →
          (∀ c, mask = [c] → outcome = .ok (values.getD c.index [])) ∧
          (1 < mask.length → outcome = .ok ("float" ++ Text.ofNat mask.length ++ "(" ++
            Text.commaList (mask.map fun c => values.getD c.index []) ++ ")")))) := by
  have numeric := literal.numeric
  have split : d.cursor.rest = (Token.ofLine written).map (⟨·, line⟩) ++
      ((Token.ofLine back).map (⟨·, line⟩) ++ later) := by
    rw [ahead, literal.written.ofLine_append back, List.map_append, List.append_assoc]
  have read := runOn_readSource_of_isOperand env d split
    (by rw [here]; exact literal.written.isOperand_ofLine line) (.ofComponents mask)
  rw [Form.reading_literal, same, plain.resolved_literalText returns numeric] at read
  refine ⟨_, read, ?_, ?_⟩
  · rintro value rfl
    exact plain.cast_single (numeric value List.mem_cons_self) asked
  · intro several
    have covered (each : ∀ c ∈ mask, c.index < values.length) :=
      @Registers.cast_literalText_covered declared.resolve.registers _ _ numeric several few asked
        each
    refine ⟨⟨?_, ?_⟩, ?_⟩
    · rintro ⟨cause, _, failed⟩
      by_contra none
      have each : ∀ c ∈ mask, c.index < values.length :=
        fun c inside => Nat.lt_of_not_le fun behind => none ⟨c, inside, behind⟩
      cases (covered each).symm.trans failed
    · intro lacking
      obtain ⟨c, _, _, failed⟩ := Registers.selectLiteral_missing
        (isLiteralVector_literalText numeric several few) lacking
      exact ⟨_, _, (Registers.cast_literalText numeric several few asked).trans failed⟩
    · intro each
      constructor
      · rintro c rfl
        exact covered each
      · intro wide
        refine (covered each).trans ?_
        rw [vectorText_of_ne, List.length_map]
        intro value single
        have length := congrArg List.length single
        rw [List.length_map, List.length_singleton] at length
        omega

/-- Three numbers with blanks and a tab between them. -/
def spacedLiteral : Text := "l ( -1.5e3,\t0x1F ,.5 )"

theorem isLiteral_spacedLiteral : IsLiteral ["-1.5e3", "0x1F", ".5"] spacedLiteral := by
  have numeric : ∀ value ∈ (["-1.5e3", "0x1F", ".5"] : List Text), IsNumeral value := by
    intro value inside
    simp only [List.mem_cons, List.not_mem_nil, or_false] at inside
    rcases inside with rfl | rfl | rfl <;> exact ⟨by decide, by decide⟩
  exact @isLiteral_of_divides "l" " " " -1.5e3,\t0x1F ,.5 " _ (.inl rfl) (.of_all rfl) (by simp)
    numeric ((Token.divides_iff _ _).mpr rfl)

theorem hasNoLiteral_fog : (scalarBuffer "fog").HasNoLiteral := by
  refine ⟨?_, by simp [scalarBuffer], by simp [scalarBuffer], by simp [scalarBuffer]⟩
  intro buffer listed v member
  simp only [scalarBuffer, List.mem_cons, List.not_mem_nil, or_false] at listed
  subst listed
  simp only [List.mem_cons, List.not_mem_nil, or_false] at member
  rcases member with rfl | rfl <;> decide

/-- Two of three numbers are taken in the order of the target, and there is no fourth. -/
theorem readSource_literal_spaced :
    (scalarBuffer "fog").HasNoLiteral ∧
      IsLiteral ["-1.5e3", "0x1F", ".5"] spacedLiteral ∧
      (runOn (readSource (.ofComponents [.z, .x])) (scalarEnvironment "fog")
        (beforeTokens (Token.ofLine (spacedLiteral ++ ", r1.x // l(2)")))).1 =
          .ok "float2(.5, -1.5e3)" ∧
      ∃ cause place, (runOn (readSource (.ofComponents [.x, .w])) (scalarEnvironment "fog")
        (beforeTokens (Token.ofLine (spacedLiteral ++ ", r1.x // l(2)")))).1 =
          .error (.decode cause place) := by
  have returns : (scalarBuffer "fog").resolve.fault = none := by decide +kernel
  have each (mask : List Component) (asked : mask ≠ []) :=
    readSource_literal (scalarBuffer "fog") (scalarEnvironment "fog")
      (beforeTokens (Token.ofLine (spacedLiteral ++ ", r1.x // l(2)"))) _ spacedLiteral
      ", r1.x // l(2)" 7 [] mask returns hasNoLiteral_fog rfl isLiteral_spacedLiteral (by decide) rfl
      (List.append_nil _).symm asked
  refine ⟨hasNoLiteral_fog, isLiteral_spacedLiteral, ?_, ?_⟩
  · obtain ⟨outcome, run, _, several⟩ := each [.z, .x] (by decide)
    rw [run]
    exact ((several (by decide)).2 (by decide)).2 (by decide)
  · obtain ⟨outcome, run, _, several⟩ := each [.x, .w] (by decide)
    rw [run]
    exact (several (by decide)).1.mpr ⟨.w, by decide, by decide⟩

/-- A row without a register number that goes by a literal. -/
def literalRow : Declarations :=
  { inputs := [⟨"TEXCOORD", 0, "xy", none, "float2(1, 2)", "NONE", "float", "Texcoord", 1, 0⟩] }

/-- An array whose name is a number up to its brackets takes the place of that number, and a row takes
that of the literal it goes by. -/
theorem readSource_literal_taken :
    ((∀ buffer ∈ (scalarBuffer "5[]").buffers, ∀ v ∈ buffer.members, isNumber v.name = false) ∧
      (scalarBuffer "5[]").structures = [] ∧ (scalarBuffer "5[]").inputs = [] ∧
      (scalarBuffer "5[]").outputs = [] ∧ (scalarBuffer "5[]").resolve.fault = none ∧
      (runOn (readSource ⟨"xy"⟩) (scalarEnvironment "5[]") (beforeTokens (Token.ofLine "l(5)"))).1 =
        .ok "float2(5)") ∧
    ((∀ row ∈ literalRow.inputs, isNumber row.registerName = false ∧ isNumber row.fieldName = false) ∧
      literalRow.resolve.fault = none ∧
      (runOn (readSource ⟨"xy"⟩) { symbols := ⟨literalRow, literalRow.resolve.registers⟩ }
        (beforeTokens (Token.ofLine "l(1, 2)"))).1 = .ok "input.Texcoord") := by
  refine ⟨⟨by decide, rfl, rfl, rfl, by decide +kernel, ?_⟩, by decide, by decide +kernel, ?_⟩
  · apply eq_ok_of_toOption
    decide +kernel
  · apply eq_ok_of_toOption
    decide +kernel

end Decoding
end ShaderLift
