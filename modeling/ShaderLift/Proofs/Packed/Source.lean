import ShaderLift.Proofs.Packed.Field
import ShaderLift.Proofs.Register.Resolved

namespace ShaderLift

namespace Operand

/-- A constructor in full: its word, a digit or none, and its body between parentheses. -/
theorem eq_of_constructor? {text : Text} {vector : Constructor}
    (found : constructor? text = some vector) :
    vector.word ∈ constructorWords ∧
      ∃ width : Text, (∀ c ∈ width, ('1' ≤ c && c ≤ '4') = true) ∧
        Text.dropFinalNewline text = vector.word ++ width ++ '(' :: (vector.body ++ [')']) := by
  unfold constructor? at found
  obtain ⟨⟨word, rest⟩, worded, found⟩ := Option.bind_eq_some_iff.mp found
  obtain ⟨behind, opened, found⟩ := Option.bind_eq_some_iff.mp found
  obtain ⟨body, closed, found⟩ := Option.bind_eq_some_iff.mp found
  obtain ⟨known, listed, starts⟩ := List.exists_of_findSome?_eq_some worded
  obtain ⟨after, starts, same⟩ := Option.map_eq_some_iff.mp starts
  cases same
  split at found
  · cases found
  · cases found
    refine ⟨listed, ?_⟩
    rw [Text.eq_of_after? _ _ _ starts]
    cases rest with
    | nil => cases opened
    | cons width more =>
      dsimp only at opened
      split at opened
      · rename_i digit
        rw [Text.eq_of_after? _ _ _ opened, Text.eq_of_before? _ _ _ closed]
        exact ⟨[width], by simpa using digit, by simp⟩
      · rw [Text.eq_of_after? _ _ _ opened, Text.eq_of_before? _ _ _ closed]
        exact ⟨[], by simp, by simp⟩

/-- A constructor is a word, with a width or without one, in front of a parenthesis. -/
theorem constructor?_some {text : Text} {parts : Constructor}
    (found : constructor? text = some parts) :
    ∃ word ∈ constructorWords, ∃ width tail : Text, text = word ++ width ++ '(' :: tail ∧
      '[' ∉ width := by
  obtain ⟨listed, width, digit, whole⟩ := eq_of_constructor? found
  obtain ⟨tail, line⟩ := Text.dropFinalNewline_isPrefix text
  refine ⟨parts.word, listed, width, parts.body ++ ')' :: tail, ?_, ?_⟩
  · rw [← line, whole]
    simp
  · exact fun inside => absurd (digit _ inside) (by decide)

theorem constructor?_uncalled {text : Text} (uncalled : '(' ∉ text) : constructor? text = none := by
  cases found : constructor? text with
  | none => rfl
  | some parts =>
    obtain ⟨word, _, width, tail, whole, _⟩ := constructor?_some found
    apply absurd _ uncalled
    rw [whole]
    simp

theorem splitSelector_four (base : Text) (named : base ≠ []) (pick : Component → Component) :
    splitSelector (base ++ Component.suffix (Component.all.map pick)) =
      (base, Component.all.map pick) :=
  splitSelector_suffix base _ named (List.cons_ne_nil _ _) (Nat.le_refl 4)

/-- A selector of four components is fitted lane by lane. -/
theorem reselect_all (base : Text) (named : base ≠ []) (pick : Component → Component)
    (mask : List Component) (filled : mask ≠ []) (ordered : mask.Sublist Component.all) :
    reselect (base ++ Component.suffix (Component.all.map pick)) (.ofComponents mask) =
      .ok (base ++ Component.suffix (mask.map pick)) := by
  have count : (Swizzle.ofComponents mask).count = mask.length := List.length_map _
  unfold reselect
  rw [splitSelector_four base named pick]
  dsimp only
  split
  · rename_i unchanged
    simp only [Bool.or_eq_true, List.isEmpty_iff, decide_eq_true_eq, count] at unchanged
    rcases unchanged with (empty | empty) | same
    · simp [Component.all] at empty
    · exact absurd (List.length_eq_zero_iff.mp empty) filled
    · have equal : Component.all.map pick = mask := Component.letters_inj same
      have whole : mask = Component.all := by
        apply ordered.eq_of_length
        rw [← equal, List.length_map]
      rw [whole]
  · have fitted : (mask.filterMap fun lane =>
        (Component.all.map pick)[lane.index % (Component.all.map pick).length]?) =
          mask.map pick := by
      have each : (fun lane : Component =>
          (Component.all.map pick)[lane.index % (Component.all.map pick).length]?) =
            some ∘ pick := by
        funext lane
        cases lane <;> rfl
      rw [each, List.filterMap_eq_map]
    rw [Swizzle.components_ofComponents]
    exact congrArg (fun lanes => Except.ok (base ++ Component.suffix lanes)) fitted

end Operand

namespace Registers

open Operand

variable {registers : Registers}

/-- An expression that can be told apart from all others when a selector stands behind it. -/
structure IsPath (registers : Registers) (expression : Text) : Prop where
  filled : expression ≠ []
  bare : IsBare expression
  alone : ∀ selected, selected ≠ [] →
    registers.constants.fields.get? (expression ++ Component.suffix selected) = none

theorem cast_bare {expression : Text} (bare : IsBare expression) {target : Swizzle}
    (filled : target.count ≠ 0) :
    registers.cast expression target = registers.castInner expression target := by
  unfold cast
  rw [if_neg filled, bare.splitModifiers]
  dsimp only
  cases registers.castInner expression target <;> rfl

/-- What a selection of four components on a path is cast to: one component for each lane, or a
scalar constant spread over the lanes. -/
def castPath (registers : Registers) (expression : Text) (pick : Component → Component)
    (mask : List Component) : Text :=
  match registers.constants.fields.get? expression with
  | some entry =>
    if entry.elementCount = 1 ∧ 1 < mask.length then
      spread entry (.ofComponents mask) expression
    else expression ++ Component.suffix (mask.map pick)
  | none => expression ++ Component.suffix (mask.map pick)

theorem cast_path {expression : Text} (path : registers.IsPath expression)
    (pick : Component → Component) (mask : List Component) (filled : mask ≠ [])
    (ordered : mask.Sublist Component.all) :
    registers.cast (expression ++ Component.suffix (Component.all.map pick)) (.ofComponents mask) =
      .ok (registers.castPath expression pick mask) := by
  have four : Component.all.map pick ≠ [] := List.cons_ne_nil _ _
  have selects : (Component.all.map pick).isEmpty = false := rfl
  have bare := path.bare.suffix path.filled (Component.all.map pick)
  have count : (Swizzle.ofComponents mask).count = mask.length := List.length_map _
  have several : (Swizzle.ofComponents mask).count ≠ 0 := by
    rw [count]
    exact fun empty => filled (List.length_eq_zero_iff.mp empty)
  have split := splitSelector_four expression path.filled pick
  have fitted := reselect_all expression path.filled pick mask filled ordered
  rw [cast_bare bare several]
  unfold castInner castPath
  rw [constructor?_uncalled bare.uncalled, path.alone _ four, split, fitted]
  simp only [selects, Option.isSome_none, Bool.false_and, Bool.false_eq_true, if_false, count]
  cases registers.constants.fields.get? expression with
  | none => rfl
  | some entry =>
    dsimp only
    by_cases scalar : entry.elementCount = 1 ∧ 1 < mask.length
    · rw [if_pos scalar, if_pos]
      simpa using scalar
    · rw [if_neg scalar, if_neg]
      simpa using scalar

end Registers

/-- A row as it is read on a primitive's vertex. -/
def SignatureEntry.onVertex (vertex : Text) (entry : SignatureEntry) : SignatureEntry :=
  match Text.after? "input." entry.expression with
  | some field => { entry with expression := "input[" ++ vertex ++ "]." ++ field }
  | none => entry

theorem SignatureEntry.signature_onVertex (vertex : Text) (entry : SignatureEntry) :
    (entry.onVertex vertex).signature = entry.signature := by
  unfold onVertex
  split <;> rfl

namespace Registers

open Operand

variable {registers : Registers}

/-- The rows behind an input register, or behind that of a primitive's vertex. -/
def inputRows? (registers : Registers) (base : Text) : Option (List SignatureEntry) :=
  (registers.inputs.entries.get? base).or do
    let (vertex, register) ← vertexInput? base
    return (← registers.inputs.entries.get? ('v' :: register)).map (·.onVertex vertex)

theorem packedOver?_map_onVertex (vertex : Text) (rows : List SignatureEntry)
    (selected : List Component) :
    packedOver? (rows.map (·.onVertex vertex)) selected =
      (packedOver? rows selected).map (·.onVertex vertex) := by
  cases selected with
  | nil => simp [packedOver?]
  | cons c rest =>
    simp only [packedOver?, List.find?_map, List.head?_map, Function.comp_def,
      SignatureEntry.signature_onVertex]
    cases rows.find? fun entry => entry.signature.mask.contains c.letter <;> rfl

theorem findName?_rows {base : Text} {rows : List SignatureEntry}
    (listed : registers.inputRows? base = some rows) {selected : List Component}
    {entry : SignatureEntry} (chosen : packedOver? rows selected = some entry) {inner : Text}
    (split : splitSelector inner = (base, selected)) :
    registers.findName? inner =
      .ok (some (entry.expression ++ fieldSelector entry.signature selected)) := by
  have found : (findRow? registers.inputs base selected).or
      (registers.findVertexInput? base selected) =
        some (entry.expression ++ fieldSelector entry.signature selected) := by
    cases direct : registers.inputs.entries.get? base with
    | some entries =>
      rw [inputRows?, direct] at listed
      cases listed
      simp only [findRow?, direct, Option.bind_eq_bind, Option.bind_some, chosen]
      rfl
    | none =>
      rw [inputRows?, direct, Option.none_or] at listed
      obtain ⟨⟨vertex, register⟩, indexed, listed⟩ := Option.bind_eq_some_iff.mp listed
      obtain ⟨entries, shared, listed⟩ := Option.bind_eq_some_iff.mp listed
      cases listed
      rw [packedOver?_map_onVertex] at chosen
      obtain ⟨shown, first, rfl⟩ := Option.map_eq_some_iff.mp chosen
      simp only [findRow?, direct, Option.bind_eq_bind, Option.bind_none, Option.none_or,
        findVertexInput?, indexed, shared, first, Option.bind_some, SignatureEntry.onVertex]
      cases Text.after? "input." shown.expression <;> rfl
  unfold findName?
  rw [split]
  dsimp only
  rw [← Option.or_assoc, found]
  rfl

/-- A selection of four components on a register is looked up and cast to a value that reads one of
the fields there: the one over the first selected component. A lane whose component lies in that
field is read at its place in the field. -/
def ReadsField (registers : Registers) (fields : List PackedField) (base : Text)
    (swizzle : Component → Component) (mask : List Component) : Prop :=
  ∃ field expression value, PackedField.over? fields (swizzle .x) = some field ∧
    Decoding.resolved registers (base ++ Component.suffix (Component.all.map swizzle)) =
      .ok expression ∧
    registers.cast expression (.ofComponents mask) = .ok value ∧
    ∀ lane ∈ mask, ∃ c, field.ReadsLane mask lane c value ∧
      (field.Occupies (swizzle lane) → c.index = (swizzle lane).index - field.first)

theorem resolved_of_findName? {operand name : Text} (bare : IsBare operand)
    (found : registers.findName? operand = .ok (some name)) :
    Decoding.resolved registers operand = .ok name := by
  have queried : registers.query operand = .ok (some name) := by
    unfold query
    rw [bare.splitModifiers]
    dsimp only
    rw [found]
    rfl
  unfold Decoding.resolved
  rw [queried]
  rfl

/-- What has no name and no relative index stands for itself. -/
theorem resolved_of_unnamed {operand : Text} (split : splitModifiers operand = ⟨false, operand, false⟩)
    (unnamed : registers.findName? operand = .ok none)
    (normal : normalizeIndexed operand = .ok operand) :
    Decoding.resolved registers operand = .ok operand := by
  have queried : registers.query operand = .ok none := by
    unfold query
    rw [split]
    dsimp only
    rw [unnamed]
    rfl
  unfold Decoding.resolved
  rw [queried, split]
  change (do return Modified.around ⟨false, _, false⟩ (← normalizeIndexed _)) = _
  rw [normal]
  rfl

/-- The expressions of the rows on an input register, none of which a constant goes by. -/
structure IsField (registers : Registers) (expression : Text) : Prop extends
    registers.IsPath expression where
  unselected : (splitSelector expression).2 = []
  other : registers.constants.fields.get? expression = none

theorem cast_field {expression : Text} (field : registers.IsField expression) {target : Swizzle}
    (filled : target.count ≠ 0) : registers.cast expression target = .ok expression := by
  have empty : (splitSelector expression).2.isEmpty = true := List.isEmpty_iff.mpr field.unselected
  rw [cast_bare field.bare filled]
  unfold castInner reselect
  rw [constructor?_uncalled field.bare.uncalled, field.other]
  dsimp only
  rw [empty]
  rfl

end Registers

/-- A selection of four components that is the whole mask of a row selects them in order. -/
theorem Signature.IsContiguous.selects_all {s : Signature} (contiguous : s.IsContiguous)
    {swizzle : Component → Component}
    (full : Component.letters (Component.all.map swizzle) = s.mask) :
    s.mask.length = 4 ∧ s.firstComponent = .x ∧ ∀ lane, swizzle lane = lane := by
  have four : s.mask.length = 4 := by
    rw [← full]
    rfl
  have first : s.firstComponent = .x := by
    have count := congrArg List.length contiguous.2
    rw [four, Component.letters, List.length_map, List.length_take, List.length_drop] at count
    have all : Component.all.length = 4 := rfl
    have start : s.firstComponent.index = 0 := by omega
    exact Component.index_inj start
  have same : Component.all.map swizzle = Component.all := by
    apply Component.letters_inj
    rw [full, contiguous.2, first, four]
    rfl
  refine ⟨four, first, fun lane => ?_⟩
  simp only [Component.all, List.map_cons, List.map_nil, List.cons.injEq] at same
  cases lane <;> simp [same]

namespace Registers

open Operand

variable {registers : Registers}

theorem readsField_input {base : Text} {rows : List SignatureEntry} (named : base ≠ [])
    (swizzle : Component → Component) (mask : List Component)
    (bare : IsBare (base ++ Component.suffix (Component.all.map swizzle)))
    (listed : registers.inputRows? base = some rows) (shared : rows ≠ [])
    (contiguous : ∀ entry ∈ rows, entry.signature.IsContiguous)
    (fields : ∀ entry ∈ rows, registers.IsField entry.expression)
    (filled : mask ≠ []) (ordered : mask.Sublist Component.all)
    (whole : ∀ entry ∈ rows,
      entry.signature.mask = Component.letters (Component.all.map swizzle) →
        mask <+: Component.all) :
    registers.ReadsField (rows.map SignatureEntry.field) base swizzle mask := by
  obtain ⟨entry, inside, found, chosen⟩ := exists_packedOver? shared contiguous swizzle
  have path := fields entry inside
  have name := resolved_of_findName? bare
    (findName?_rows listed found (splitSelector_four base named swizzle))
  by_cases full : Component.letters (Component.all.map swizzle) = entry.signature.mask
  · -- The selection is the whole mask, and no selector is written.
    obtain ⟨four, low, fixed⟩ := (contiguous entry inside).selects_all full
    have start := whole entry inside full.symm
    have fits : mask.length ≤ entry.field.count := start.length_le.trans_eq four.symm
    have several : (Swizzle.ofComponents mask).count ≠ 0 := by
      rw [Swizzle.count, Swizzle.ofComponents, Component.letters, List.length_map]
      exact fun empty => filled (List.length_eq_zero_iff.mp empty)
    have zero : entry.field.first = 0 := by
      rw [SignatureEntry.field, low]
      rfl
    rw [fieldSelector, if_pos full, List.append_nil] at name
    refine ⟨entry.field, _, _, chosen, name, cast_field path several, ?_⟩
    intro lane written
    refine ⟨lane, .whole fits (Component.getElem?_index start written), fun _ => ?_⟩
    rw [fixed, zero, Nat.sub_zero]
  · have selector : fieldSelector entry.signature (Component.all.map swizzle) =
        Component.suffix (Component.all.map fun lane =>
          Component.cyclic ((swizzle lane).index - entry.field.first)) := by
      rw [fieldSelector, if_neg full, List.map_map]
      rfl
    rw [selector] at name
    refine ⟨entry.field, _, _, chosen, name, cast_path path.toIsPath _ mask filled ordered, ?_⟩
    intro lane _
    refine ⟨Component.cyclic ((swizzle lane).index - entry.field.first), ?_, fun _ => ?_⟩
    · unfold castPath
      rw [path.other]
      exact .selected _ rfl
    · apply Component.index_cyclic
      have small := (swizzle lane).index_lt
      omega

variable {d : Declarations}

theorem findName?_entriesAt (returns : d.resolve.fault = none) {bind slot : Nat}
    (unlisted : d.resolve.registers.IsUnlisted (constantText bind slot))
    (swizzle : Component → Component) {entry : ConstantEntry}
    (inside : entry ∈ d.resolve.registers.constants.entriesAt bind slot)
    (chosen : constantOver? (d.resolve.registers.constants.entriesAt bind slot)
      (Component.all.map swizzle) = some entry) :
    d.resolve.registers.findName?
        (constantText bind slot ++ Component.suffix (Component.all.map swizzle)) =
      .ok (some (entry.expression ++ constantSelector entry (Component.all.map swizzle))) := by
  obtain ⟨bindWritable, slotWritable⟩ := Declarations.isWritable_entriesAt returns inside
  have start : (constantText bind slot).head? = some 'c' := rfl
  have constant := findConstant?_constantText bind slot bindWritable slotWritable
    (Component.all.map swizzle) (List.cons_ne_nil _ _) (Nat.le_refl 4)
    (get?_four returns (constantText bind slot) _ rfl)
  rw [chosen, Option.map_some] at constant
  rw [findName?_unlisted returns unlisted start (by decide)
    (splitSelector_four _ (constantText_ne_nil bind slot) swizzle)]
  exact constant

theorem readsField_constant (returns : d.resolve.fault = none) {bind slot : Nat}
    (swizzle : Component → Component) (mask : List Component)
    (bare : IsBare (constantText bind slot ++ Component.suffix (Component.all.map swizzle)))
    (unlisted : d.resolve.registers.IsUnlisted (constantText bind slot))
    (shared : d.resolve.registers.constants.entriesAt bind slot ≠ [])
    (paths : ∀ entry ∈ d.resolve.registers.constants.entriesAt bind slot,
      d.resolve.registers.IsPath entry.expression ∧
        d.resolve.registers.constants.fields.get? entry.expression = some entry)
    (filled : mask ≠ []) (ordered : mask.Sublist Component.all) :
    d.resolve.registers.ReadsField
      ((d.resolve.registers.constants.entriesAt bind slot).map ConstantEntry.field)
      (constantText bind slot) swizzle mask := by
  obtain ⟨entry, inside, found, chosen⟩ := exists_constantOver? shared swizzle
  obtain ⟨path, known⟩ := paths entry inside
  have name := resolved_of_findName? bare
    (findName?_entriesAt returns unlisted swizzle inside found)
  have selector : constantSelector entry (Component.all.map swizzle) =
      Component.suffix (Component.all.map fun lane => Component.cyclic
        (((swizzle lane).index - entry.componentOffset : Int).fmod
          (max entry.elementCount 1 : Nat)).toNat) := by
    rw [constantSelector, List.map_map]
    rfl
  rw [selector] at name
  refine ⟨entry.field, _, _, chosen, name, cast_path path _ mask filled ordered, ?_⟩
  intro lane _
  unfold castPath
  rw [known]
  dsimp only
  split
  · -- A scalar is spread over the lanes, and each of them reads its only component.
    rename_i scalar
    refine ⟨.x, ?_, ?_⟩
    · have count : (Swizzle.ofComponents mask).count = mask.length := List.length_map _
      rw [spread, count]
      exact .spread (scalarType entry.type) scalar.1 rfl
    · rintro ⟨low, high⟩
      simp only [ConstantEntry.field, scalar.1] at low high ⊢
      change 0 = _
      omega
  · refine ⟨_, .selected _ rfl, ?_⟩
    rintro ⟨low, high⟩
    simp only [ConstantEntry.field] at low high ⊢
    have small := (swizzle lane).index_lt
    rw [place_in_field low high]
    apply Component.index_cyclic
    omega

end Registers
end ShaderLift
