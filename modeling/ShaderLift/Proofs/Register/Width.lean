import ShaderLift.Proofs.Constant.Address
import ShaderLift.Proofs.Operand.Source

namespace ShaderLift

variable {Found : ConstantFinding → Prop} {d : Declarations} {name : Text}

namespace Operand

variable {text : Text} {values : List Text} {lanes : List Component}

/-- A vector of numbers, written as a constructor. -/
structure IsLiteralVector (text : Text) (values : List Text) : Prop where
  constructed : ∃ vector, constructor? text = some vector ∧ splitArguments vector.body = values
  filled : values ≠ []
  numbers : ∀ value ∈ values, isNumber value = true

/-- A number starts with a digit, a point or a sign. -/
theorem isNumber_of_head {rest : Text} {c : Char} (starts : Text.dropFinalNewline text = c :: rest)
    (undecimal : Text.isDecimal c = false) (unmarked : c ∉ ['.', '+', '-']) :
    isNumber text = false := by
  simp only [List.mem_cons, List.not_mem_nil, or_false, not_or] at unmarked
  unfold isNumber
  rw [starts]
  split
  · rename_i same
    exact absurd (List.cons.inj same).1 unmarked.2.1
  · rename_i same
    exact absurd (List.cons.inj same).1 unmarked.2.2
  · exact isUnsigned_of_head _ undecimal unmarked.1

/-- No constructor is a number. -/
theorem isNumber_of_constructor? {vector : Constructor} (found : constructor? text = some vector) :
    isNumber text = false := by
  obtain ⟨listed, width, _, whole⟩ := eq_of_constructor? found
  have starts : ∀ word ∈ constructorWords, ∃ c tail, word = c :: tail ∧
      Text.isDecimal c = false ∧ c ∉ ['.', '+', '-'] := by
    simp only [constructorWords, List.forall_mem_cons, List.not_mem_nil, false_implies, implies_true,
      and_true]
    refine ⟨?_, ?_, ?_, ?_, ?_, ?_, ?_⟩ <;> exact ⟨_, _, rfl, by decide, by decide⟩
  obtain ⟨c, tail, word, undecimal, unmarked⟩ := starts _ listed
  rw [word, List.append_assoc, List.cons_append] at whole
  exact isNumber_of_head whole undecimal unmarked

/-- Values as an expression: one value stands for itself. -/
def vectorText (word : Text) : List Text → Text
  | [value] => value
  | values => word ++ Text.ofNat values.length ++ "(" ++ Text.commaList values ++ ")"

theorem vectorText_of_ne (several : ∀ value, values ≠ [value]) (word : Text) :
    vectorText word values =
      word ++ Text.ofNat values.length ++ "(" ++ Text.commaList values ++ ")" := by
  unfold vectorText
  split
  · exact absurd rfl (several _)
  · rfl

theorem isLiteralVector_iff :
    ((constructor? text).isSome && (literal? text).isSome) = true ↔
      ∃ values, IsLiteralVector text values := by
  cases found : constructor? text with
  | none =>
    simp only [Option.isSome_none, Bool.false_and, Bool.false_eq_true, false_iff, not_exists]
    rintro values ⟨⟨vector, same, _⟩, _, _⟩
    rw [found] at same
    cases same
  | some vector =>
    have word := isNumber_of_constructor? found
    rw [Option.isSome_some, Bool.true_and, literal?, if_neg (by simp [word]), found]
    dsimp only
    by_cases numeric : (splitArguments vector.body).isEmpty = false ∧
        (splitArguments vector.body).all isNumber = true
    · rw [if_neg (by simp [numeric])]
      simp only [Option.isSome_some, true_iff]
      refine ⟨_, ⟨vector, found, rfl⟩, ?_, List.all_eq_true.mp numeric.2⟩
      intro empty
      rw [empty] at numeric
      cases numeric.1
    · rw [if_pos (by simpa [or_iff_not_imp_left] using numeric)]
      simp only [Option.isSome_none, Bool.false_eq_true, false_iff, not_exists]
      rintro values ⟨⟨vector', same, rfl⟩, filled, numbers⟩
      rw [found] at same
      cases same
      exact numeric ⟨by simpa using filled, List.all_eq_true.mpr numbers⟩

theorem selectValues_of_lt (expression : Text)
    (covered : ∀ lane ∈ lanes, lane.index < values.length) :
    selectValues expression values lanes = .ok (lanes.map fun lane => values.getD lane.index []) := by
  induction lanes with
  | nil => rfl
  | cons lane rest ih =>
    rw [List.forall_mem_cons] at covered
    simp only [selectValues, List.getElem?_eq_getElem covered.1, ih covered.2, List.map_cons,
      List.getD_eq_getElem?_getD, Option.getD_some]
    rfl

/-- The first component behind the last value is the one that is missing. -/
theorem selectValues_of_le (expression : Text)
    (lacking : ∃ lane ∈ lanes, values.length ≤ lane.index) :
    ∃ lane ∈ lanes, values.length ≤ lane.index ∧
      selectValues expression values lanes =
        .error (.decode (.missingComponent expression lane) none) := by
  induction lanes with
  | nil =>
    obtain ⟨lane, inside, _⟩ := lacking
    cases inside
  | cons lane rest ih =>
    by_cases here : values.length ≤ lane.index
    · refine ⟨lane, List.mem_cons_self, here, ?_⟩
      rw [selectValues, List.getElem?_eq_none here]
    · obtain ⟨other, inside, behind⟩ := lacking
      have later : other ∈ rest := by
        rcases List.mem_cons.mp inside with rfl | later
        · exact absurd behind here
        · exact later
      obtain ⟨missing, among, behind, failed⟩ := ih ⟨other, later, behind⟩
      refine ⟨missing, List.mem_cons_of_mem lane among, behind, ?_⟩
      rw [selectValues, List.getElem?_eq_getElem (Nat.lt_of_not_le here), failed]
      rfl

end Operand

open Operand

/-- The width of an expression. A number is one component, a vector has the number of its
constructor, a constant field has its own, and a selector has one component a letter. -/
inductive Registers.Supplies (registers : Registers) : Text → Nat → Prop
  | number {value : Text} (numeric : isNumber value = true) : registers.Supplies value 1
  | vector {word : Text} {values : List Text} (listed : word ∈ constructorWords) (typed : word ≠ "l")
      (numeric : ∀ value ∈ values, isNumber value = true) :
      registers.Supplies
        (word ++ Text.ofNat values.length ++ "(" ++ Text.commaList values ++ ")") values.length
  | spread {name : Text} {entry : ConstantEntry} (n : Nat)
      (known : registers.constants.fields.get? name = some entry) (scalar : entry.elementCount = 1) :
      registers.Supplies (scalarType entry.type ++ Text.ofNat n ++ "(" ++ name ++ ")") n
  | field {name : Text} {entry : ConstantEntry}
      (known : registers.constants.fields.get? name = some entry) :
      registers.Supplies name entry.elementCount
  | selector {base : Text} {selected : List Component} (named : base ≠ []) (filled : selected ≠ [])
      (short : selected.length ≤ 4) :
      registers.Supplies (base ++ Component.suffix selected) selected.length

theorem Registers.Supplies.vectorText {registers : Registers} {word : Text} {values : List Text}
    (listed : word ∈ constructorWords) (typed : word ≠ "l")
    (numeric : ∀ value ∈ values, isNumber value = true) :
    registers.Supplies (vectorText word values) values.length := by
  by_cases single : ∃ value, values = [value]
  · obtain ⟨value, rfl⟩ := single
    exact .number (numeric value List.mem_cons_self)
  · rw [vectorText_of_ne (not_exists.mp single)]
    exact .vector listed typed numeric

/-- The expressions whose width is known before they are cast. -/
inductive Registers.IsSized (registers : Registers) : Text → Prop
  | literal {text : Text} {values : List Text} (vector : IsLiteralVector text values) :
      registers.IsSized text
  | field {name : Text} {entry : ConstantEntry}
      (known : registers.constants.fields.get? name = some entry) : registers.IsSized name
  | selector {base : Text} {selected : List Component} (named : base ≠ []) (filled : selected ≠ [])
      (short : selected.length ≤ 4) : registers.IsSized (base ++ Component.suffix selected)

/-- What a buffer brings up has at least one component. -/
def ConstantFinding.IsFilled : ConstantFinding → Prop
  | array _ => True
  | placement found => 1 ≤ found.entry.elementCount

theorem LeafField.filled_findings (bind : Int) {leaf : LeafField} (filled : 1 ≤ leaf.columns) :
    ∀ finding ∈ (leaf.findings bind).items, finding.IsFilled := by
  intro finding inside
  simp only [findings, List.mem_append, List.mem_map, Option.mem_toList] at inside
  rcases inside with ⟨found, _, rfl⟩ | ⟨position, _, rfl⟩
  · trivial
  · exact filled

theorem Variable.filled_findings (structures : List Structure) (bind : Int) (depth : Nat)
    (place : Int) (path : Text) (v : Variable) :
    ∀ finding ∈ (v.findings structures bind depth place path).items, finding.IsFilled := by
  refine forall_findings (fun _ => True) (fun _ => True) (fun _ _ _ _ => trivial) ?_
    (fun _ _ _ _ _ _ _ _ => trivial) depth place trivial trivial
  intro v place path base dimensions _ _ _
  exact LeafField.filled_findings bind v.columns_pos

theorem BufferResolution.forall_ofBuffers (d : Declarations) (place : Nat)
    {buffers : List ConstantBuffer} (each : ∀ buffer ∈ buffers, ∀ bind, ∀ v ∈ buffer.members,
      ∀ finding ∈ (v.findings d.structures bind callRoom v.offset []).items, Found finding) :
    ∀ finding ∈ (ofBuffers d place buffers).found, Found finding := by
  induction buffers generalizing place with
  | nil =>
    intro finding inside
    cases inside
  | cons buffer rest ih =>
    rw [List.forall_mem_cons] at each
    have here : ∀ finding ∈ ((buffer.bound d.resources place).findings d.structures).items,
        Found finding := by
      intro finding inside
      obtain ⟨v, member, inside⟩ := CutList.mem_collect inside
      exact each.1 _ v member finding inside
    intro finding inside
    rw [ofBuffers] at inside
    dsimp only at inside
    split at inside
    · exact here finding inside
    · rcases List.mem_append.mp inside with early | late
      · exact here finding early
      · exact ih (place + 1) each.2 finding late

/-- What holds of all that the variables bring up holds of every known constant, also of those that
were found before a fault. -/
theorem Declarations.exists_of_field (each : ∀ buffer ∈ d.buffers, ∀ bind, ∀ v ∈ buffer.members,
      ∀ finding ∈ (v.findings d.structures bind callRoom v.offset []).items, Found finding)
    {entry : ConstantEntry} (known : d.resolve.registers.constants.fields.get? name = some entry) :
    ∃ p : Placement, p.entry = entry ∧ entry.expression = name ∧ Found (.placement p) := by
  obtain ⟨found, holds, same⟩ : ∃ found : List ConstantFinding,
      (∀ finding ∈ found, Found finding) ∧
        d.resolve.registers.constants = .ofFindings found := by
    rcases d.resolve_cases callRoom with ⟨_, _, none, _⟩ | ⟨_, _, found, _⟩
    · exact ⟨[], by simp, none⟩
    · exact ⟨_, BufferResolution.forall_ofBuffers d 0 each, found⟩
  rw [same] at known
  have listed : (Table.ofFirsts ((found.filterMap ConstantFinding.placement?).map fun p =>
      (p.entry.expression, p.entry))).get? name = some entry := known
  rw [Table.get?_ofFirsts] at listed
  obtain ⟨p, among, pair⟩ := List.mem_map.mp (Table.mem_of_get? listed)
  obtain ⟨finding, inside, placed⟩ := List.mem_filterMap.mp among
  cases pair
  cases finding with
  | array _ => cases placed
  | placement _ =>
    cases placed
    exact ⟨_, rfl, rfl, holds _ inside⟩

/-- Every known constant has a component. -/
theorem Declarations.elementCount_pos {entry : ConstantEntry}
    (known : d.resolve.registers.constants.fields.get? name = some entry) :
    1 ≤ entry.elementCount := by
  obtain ⟨p, rfl, _, filled⟩ := exists_of_field
    (fun _ _ bind v _ => v.filled_findings d.structures bind _ _ _) known
  exact filled

namespace Registers

variable {values : List Text}

variable {registers : Registers} {inner : Text} {mask : List Component}

theorem Supplies.fitted {base : Text} (named : base ≠ []) (selected : List Component)
    (asked : mask ≠ []) (short : mask.length ≤ 4) :
    registers.Supplies (base ++ Component.suffix (fitted selected mask)) mask.length := by
  have length : (ShaderLift.fitted selected mask).length = mask.length := length_fitted asked
  rw [← length] at short ⊢
  refine .selector named ?_ short
  rw [← List.length_pos_iff, length]
  exact List.length_pos_iff.mpr asked

theorem castInner_literal (vector : IsLiteralVector inner values) (target : Swizzle) :
    registers.castInner inner target = selectLiteral inner target := by
  unfold castInner
  rw [if_pos (isLiteralVector_iff.mpr ⟨values, vector⟩)]

theorem selectLiteral_covered {made : Constructor} (found : constructor? inner = some made)
    (asked : mask ≠ []) (covered : ∀ lane ∈ mask, lane.index < (splitArguments made.body).length) :
    selectLiteral inner (.ofComponents mask) =
      .ok (vectorText (if made.word = "l" then "float" else made.word)
        (mask.map fun lane => (splitArguments made.body).getD lane.index [])) := by
  unfold selectLiteral
  rw [found]
  dsimp only
  rw [if_neg (Swizzle.count_ne_zero asked), Swizzle.components_ofComponents]
  simp only [bind, Except.bind, selectValues_of_lt inner covered]
  split
  · rename_i value single
    rw [single]
    rfl
  · rename_i several
    rw [vectorText_of_ne several]
    rfl

theorem selectLiteral_supplies (vector : IsLiteralVector inner values) (asked : mask ≠ [])
    (covered : ∀ lane ∈ mask, lane.index < values.length) :
    ∃ text, selectLiteral inner (.ofComponents mask) = .ok text ∧
      registers.Supplies text mask.length := by
  obtain ⟨⟨made, found, rfl⟩, _, numbers⟩ := vector
  have numeric : ∀ value ∈ mask.map fun lane => (splitArguments made.body).getD lane.index [],
      isNumber value = true := by
    intro value inside
    obtain ⟨lane, among, rfl⟩ := List.mem_map.mp inside
    rw [List.getD_eq_getElem?_getD, List.getElem?_eq_getElem (covered lane among), Option.getD_some]
    exact numbers _ (List.getElem_mem _)
  have length : (mask.map fun lane => (splitArguments made.body).getD lane.index []).length =
      mask.length := List.length_map _
  refine ⟨_, selectLiteral_covered found asked covered, ?_⟩
  rw [← length]
  have listed := (eq_of_constructor? found).1
  split
  · exact .vectorText (by decide) (by decide) numeric
  · rename_i typed
    exact .vectorText listed typed numeric

theorem selectLiteral_missing (vector : IsLiteralVector inner values)
    (lacking : ∃ lane ∈ mask, values.length ≤ lane.index) :
    ∃ lane ∈ mask, values.length ≤ lane.index ∧
      selectLiteral inner (.ofComponents mask) =
        .error (.decode (.missingComponent inner lane) none) := by
  obtain ⟨⟨made, found, rfl⟩, _, _⟩ := vector
  have count : (Swizzle.ofComponents mask).count ≠ 0 := by
    obtain ⟨lane, inside, _⟩ := lacking
    exact Swizzle.count_ne_zero (List.ne_nil_of_mem inside)
  obtain ⟨lane, inside, behind, failed⟩ := selectValues_of_le inner lacking
  refine ⟨lane, inside, behind, ?_⟩
  unfold selectLiteral
  rw [found]
  dsimp only
  rw [if_neg count, Swizzle.components_ofComponents]
  simp only [bind, Except.bind, failed]

/-- A constant is completed to all its components before it is cast, unless it has as many as the
target or is spread over it. -/
theorem castInner_field (plain : ∀ values, ¬IsLiteralVector inner values) {entry : ConstantEntry}
    (known : registers.constants.fields.get? inner = some entry) (filled : 1 ≤ entry.elementCount)
    (asked : mask ≠ []) (short : mask.length ≤ 4)
    (named : inner = [] → entry.elementCount = 1 ∨ entry.elementCount = mask.length) :
    ∃ text, registers.castInner inner (.ofComponents mask) = .ok text ∧
      registers.Supplies text mask.length := by
  have count := Swizzle.count_ofComponents mask
  unfold castInner
  rw [if_neg (mt isLiteralVector_iff.mp (not_exists.mpr plain)), known]
  dsimp only
  rw [count]
  by_cases whole : entry.elementCount = mask.length
  · rw [if_pos whole, ← whole]
    exact ⟨inner, rfl, .field known⟩
  · rw [if_neg whole]
    by_cases scalar : entry.elementCount = 1
    · rw [if_pos scalar, spread, count]
      exact ⟨_, rfl, .spread mask.length known scalar⟩
    · have base : inner ≠ [] := fun empty => (named empty).elim scalar whole
      have some : Component.first entry.elementCount ≠ [] := by
        intro empty
        have length := congrArg List.length empty
        simp only [Component.first, List.length_take, Component.all, List.length_cons,
          List.length_nil] at length
        omega
      have four : (Component.first entry.elementCount).length ≤ 4 := by
        simp [Component.first, Component.all]
      rw [if_neg scalar, ← Component.suffix_of_ne_nil some,
        reselect_suffix base some four mask asked]
      exact ⟨_, rfl, .fitted base _ asked short⟩

/-- The expression in front of a selector is a scalar constant and the target asks for more. -/
def Spreads (registers : Registers) (base : Text) (mask : List Component) : Prop :=
  ∃ entry, registers.constants.fields.get? base = some entry ∧ entry.elementCount = 1 ∧
    1 < mask.length

section Selector

variable {base : Text} {selected : List Component}

variable (named : base ≠ []) (filled : selected ≠ []) (few : selected.length ≤ 4)
  (plain : ∀ values, ¬IsLiteralVector (base ++ Component.suffix selected) values)
  (unknown : registers.constants.fields.get? (base ++ Component.suffix selected) = none)

include named filled few plain unknown

/-- A scalar in front of a selector is spread, whatever the selector. -/
theorem castInner_spread
    {entry : ConstantEntry} (known : registers.constants.fields.get? base = some entry)
    (scalar : entry.elementCount = 1) (wide : 1 < mask.length) :
    registers.castInner (base ++ Component.suffix selected) (.ofComponents mask) =
      .ok (spread entry (.ofComponents mask) base) := by
  have selects : selected.isEmpty = false := by simpa using filled
  unfold castInner
  rw [if_neg (mt isLiteralVector_iff.mp (not_exists.mpr plain)), unknown,
    splitSelector_suffix base selected named filled few]
  simp [selects, known, scalar, Swizzle.count_ofComponents, wide]

/-- Any other selector is fitted to the target. -/
theorem castInner_fitted (asked : mask ≠ []) (whole : ¬registers.Spreads base mask) :
    registers.castInner (base ++ Component.suffix selected) (.ofComponents mask) =
      .ok (base ++ Component.suffix (fitted selected mask)) := by
  have selects : selected.isEmpty = false := by simpa using filled
  unfold castInner
  rw [if_neg (mt isLiteralVector_iff.mp (not_exists.mpr plain)), unknown,
    splitSelector_suffix base selected named filled few]
  simp only [selects, Bool.false_eq_true, if_false, Swizzle.count_ofComponents,
    reselect_suffix named filled few mask asked]
  split
  · rename_i entry known
    rw [if_neg]
    intro scalar
    rw [Bool.and_eq_true, decide_eq_true_eq, decide_eq_true_eq] at scalar
    exact whole ⟨entry, known, scalar⟩
  · rfl

theorem castInner_selector (asked : mask ≠ []) (short : mask.length ≤ 4) :
    ∃ text, registers.castInner (base ++ Component.suffix selected) (.ofComponents mask) = .ok text ∧
      registers.Supplies text mask.length := by
  by_cases whole : registers.Spreads base mask
  · obtain ⟨entry, known, scalar, wide⟩ := whole
    refine ⟨_, castInner_spread named filled few plain unknown known scalar wide, ?_⟩
    rw [spread, Swizzle.count_ofComponents]
    exact .spread mask.length known scalar
  · exact ⟨_, castInner_fitted named filled few plain unknown asked whole,
      .fitted named selected asked short⟩

end Selector

/-- What no width is known of stays as it is. -/
theorem castInner_unsized (unsized : ¬registers.IsSized inner) (target : Swizzle) :
    registers.castInner inner target = .ok inner := by
  have plain : ¬∃ values, IsLiteralVector inner values := fun ⟨_, vector⟩ => unsized (.literal vector)
  have unknown : registers.constants.fields.get? inner = none := by
    cases found : registers.constants.fields.get? inner with
    | none => rfl
    | some entry => exact absurd (.field found) unsized
  have unselected : (splitSelector inner).2 = [] := by
    by_contra filled
    obtain ⟨whole, named⟩ := eq_of_splitSelector filled
    apply unsized
    rw [whole]
    exact .selector named filled (length_splitSelector inner)
  rcases parts : splitSelector inner with ⟨base, selected⟩
  rw [parts] at unselected
  subst unselected
  have kept : reselect inner target = .ok inner := by
    unfold reselect
    rw [parts]
    rfl
  unfold castInner
  rw [if_neg (mt isLiteralVector_iff.mp plain), unknown, parts]
  exact kept

theorem castInner_sized {d : Declarations} (sized : d.resolve.registers.IsSized inner)
    (asked : mask ≠ []) (short : mask.length ≤ 4)
    (covered : ∀ values, IsLiteralVector inner values → ∀ lane ∈ mask, lane.index < values.length)
    (named : inner = [] → ∀ entry, d.resolve.registers.constants.fields.get? inner = some entry →
      entry.elementCount = 1 ∨ entry.elementCount = mask.length) :
    ∃ text, d.resolve.registers.castInner inner (.ofComponents mask) = .ok text ∧
      d.resolve.registers.Supplies text mask.length := by
  by_cases literal : ∃ values, IsLiteralVector inner values
  · obtain ⟨values, vector⟩ := literal
    rw [castInner_literal vector]
    exact selectLiteral_supplies vector asked (covered values vector)
  · have plain := not_exists.mp literal
    cases known : d.resolve.registers.constants.fields.get? inner with
    | some entry =>
      exact castInner_field plain known (Declarations.elementCount_pos known) asked short
        fun empty => named empty entry known
    | none =>
      cases sized with
      | literal vector => exact absurd ⟨_, vector⟩ literal
      | field found =>
        rw [known] at found
        cases found
      | selector front filled few =>
        exact castInner_selector front filled few plain known asked short

end Registers

/-- Casting supplies the components of its target. Only a literal vector can lack one of them, and
what no width is known of is left as it is. A constant without a name has nothing to put a selector
behind, and has to fit already. -/
theorem cast_supplies_target (d : Declarations) (expression : Text) (mask : List Component)
    (asked : mask ≠ []) (short : mask.length ≤ 4) :
    let registers := d.resolve.registers
    let modified := splitModifiers expression
    let outcome := registers.cast expression (.ofComponents mask)
    (∀ values, IsLiteralVector modified.inner values →
      (∃ lane ∈ mask, values.length ≤ lane.index) →
      ∃ lane ∈ mask, values.length ≤ lane.index ∧
        outcome = .error (.decode (.missingComponent modified.inner lane) none)) ∧
    (registers.IsSized modified.inner →
      (∀ values, IsLiteralVector modified.inner values → ∀ lane ∈ mask, lane.index < values.length) →
      (modified.inner = [] → ∀ entry, registers.constants.fields.get? [] = some entry →
        entry.elementCount = 1 ∨ entry.elementCount = mask.length) →
      ∃ text, outcome = .ok (modified.around text) ∧ registers.Supplies text mask.length) ∧
    (¬registers.IsSized modified.inner → outcome = .ok (modified.around modified.inner)) := by
  intro registers modified outcome
  have count := Swizzle.count_ne_zero asked
  have cast_eq : outcome =
      (registers.castInner modified.inner (.ofComponents mask)).map modified.around := by
    simp only [outcome, Registers.cast, if_neg count]
    cases registers.castInner modified.inner (.ofComponents mask) <;> rfl
  refine ⟨?_, ?_, ?_⟩
  · intro values vector lacking
    obtain ⟨lane, inside, behind, failed⟩ := Registers.selectLiteral_missing vector lacking
    refine ⟨lane, inside, behind, ?_⟩
    rw [cast_eq, Registers.castInner_literal vector, failed]
    rfl
  · intro sized covered named
    obtain ⟨text, done, width⟩ := Registers.castInner_sized sized asked short covered
      fun empty entry known => named empty entry (by rw [← empty]; exact known)
    refine ⟨text, ?_, width⟩
    rw [cast_eq, done]
    rfl
  · intro unsized
    rw [cast_eq, Registers.castInner_unsized unsized]
    rfl

/-- A buffer with a vector that has no name, and a vector and a scalar that have one. -/
def namelessListing : Text := Text.join ['\n']
  ["// Buffer Definitions:", "// cbuffer Scene", "// \x7b",
    "//   float3 ;             // Offset:    0 Size:    12",
    "//   float3 Direction;    // Offset:   16 Size:    12",
    "//   float Scale;         // Offset:   28 Size:     4", "// \x7d", ""]

def namelessDeclarations : Declarations :=
  { buffers := [{ name := "Scene"
                  members := [⟨"float3", "", 0, 12, .default⟩, ⟨"float3", "Direction", 16, 12, .default⟩,
                    ⟨"float", "Scale", 28, 4, .default⟩] }] }

def namelessSymbols : Symbols :=
  ⟨namelessDeclarations.resolve.declared, namelessDeclarations.resolve.registers⟩

theorem readSymbols_namelessListing :
    (readSymbols namelessListing).result = .ok namelessSymbols := by
  apply readSymbols_of_scanHeader (d := namelessDeclarations)
  · apply eq_ok_of_toOption
    decide +kernel
  · decide +kernel

/-- The vector without a name is completed to all its components, and stays so when two are asked
for. -/
theorem cast_nameless_keeps :
    (readSymbols namelessListing).result = .ok namelessSymbols ∧
      (namelessSymbols.registers.constants.fields.get? []).map ConstantEntry.elementCount = some 3 ∧
      namelessSymbols.registers.cast [] (.ofComponents [.x, .y]) = .ok ".xyz" ∧
      ¬namelessSymbols.registers.Supplies ".xyz" 2 := by
  refine ⟨readSymbols_namelessListing, by decide +kernel, ?_, ?_⟩
  · apply eq_ok_of_toOption
    decide +kernel
  · have unsplit : (splitSelector ".xyz").2 = [] := by decide
    have unknown : namelessSymbols.registers.constants.fields.get? ".xyz" = none := by decide +kernel
    have last : (".xyz" : Text).getLast? = some 'z' := by decide
    generalize (".xyz" : Text) = text at unknown unsplit last
    generalize asked : 2 = n
    -- A number is one component, a call ends in a parenthesis, and the dot stands behind nothing.
    rintro (_ | _ | _ | known | ⟨named, filled, short⟩)
    · cases asked
    · rw [List.getLast?_append] at last
      cases last
    · rw [List.getLast?_append] at last
      cases last
    · rw [unknown] at known
      cases known
    · rw [splitSelector_suffix _ _ named filled short] at unsplit
      exact filled unsplit

/-- The named vector and the scalar are cast to two components, and a literal of two values lacks the
third. -/
theorem cast_supplies_direction :
    (∃ text, namelessSymbols.registers.cast "-|Direction|" (.ofComponents [.x, .y]) =
        .ok ("-abs(" ++ text ++ ")") ∧ namelessSymbols.registers.Supplies text 2) ∧
      (∃ text, namelessSymbols.registers.cast "Scale.x" (.ofComponents [.x, .y]) = .ok text ∧
        namelessSymbols.registers.Supplies text 2) ∧
      namelessSymbols.registers.cast "l(1.0, 2.0)" (.ofComponents [.x, .z]) =
        .error (.decode (.missingComponent "l(1.0, 2.0)" .z) none) := by
  have unwritten {text : Text} (other : constructor? text = none) (values : List Text) :
      ¬IsLiteralVector text values := by
    rintro ⟨⟨vector, found, _⟩, _, _⟩
    rw [other] at found
    cases found
  have named : splitModifiers "-|Direction|" = ⟨true, "Direction", true⟩ := by decide
  have scaled : splitModifiers "Scale.x" = ⟨false, "Scale.x", false⟩ := by decide
  have listed : splitModifiers "l(1.0, 2.0)" = ⟨false, "l(1.0, 2.0)", false⟩ := by decide
  refine ⟨?_, ?_, ?_⟩
  · obtain ⟨_, supplied, _⟩ := cast_supplies_target namelessDeclarations "-|Direction|" [.x, .y]
      (by decide) (by decide)
    rw [named] at supplied
    obtain ⟨entry, known⟩ : ∃ entry,
        namelessSymbols.registers.constants.fields.get? "Direction" = some entry :=
      Option.isSome_iff_exists.mp (by decide +kernel)
    exact supplied (.field known) (fun values vector => absurd vector (unwritten (by decide) values))
      (fun empty => by cases empty)
  · obtain ⟨_, supplied, _⟩ := cast_supplies_target namelessDeclarations "Scale.x" [.x, .y]
      (by decide) (by decide)
    rw [scaled] at supplied
    have selector : namelessSymbols.registers.IsSized ("Scale" ++ Component.suffix [.x]) :=
      .selector (by decide) (by decide) (by decide)
    exact supplied selector (fun values vector => absurd vector (unwritten (by decide) values))
      (fun empty => by cases empty)
  · obtain ⟨missing, _, _⟩ := cast_supplies_target namelessDeclarations "l(1.0, 2.0)" [.x, .z]
      (by decide) (by decide)
    rw [listed] at missing
    have vector : IsLiteralVector "l(1.0, 2.0)" ["1.0", "2.0"] :=
      ⟨⟨⟨"l", "1.0, 2.0"⟩, by decide, by decide⟩, by decide, by decide⟩
    obtain ⟨lane, inside, behind, failed⟩ := missing _ vector ⟨.z, by decide, by decide⟩
    have third : lane = .z := by
      revert inside behind
      cases lane <;> decide
    rw [third] at failed
    exact failed

end ShaderLift
