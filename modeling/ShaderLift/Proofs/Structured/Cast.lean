import ShaderLift.Proofs.Structured.Accuracy

namespace ShaderLift

namespace Operand

/-- The first bracket of a text is either round or square. -/
theorem append_call_ne_indexed {front name tail tail' : Text} (square : '[' ∉ front)
    (round : '(' ∉ name) : front ++ '(' :: tail ≠ name ++ '[' :: tail' := by
  induction front generalizing name with
  | nil =>
    cases name with
    | nil =>
      intro same
      cases (List.cons.inj same).1
    | cons c rest =>
      intro same
      exact round (by rw [← (List.cons.inj same).1]; simp)
  | cons c front ih =>
    rw [List.mem_cons, not_or] at square
    cases name with
    | nil =>
      intro same
      exact square.1 (List.cons.inj same).1.symm
    | cons c' rest =>
      rw [List.mem_cons, not_or] at round
      intro same
      exact ih square.2 round.2 (List.cons.inj same).2

theorem constructor?_indexed {name : Text} (uncalled : '(' ∉ name) (tail : Text) :
    constructor? (name ++ '[' :: tail) = none := by
  cases found : constructor? (name ++ '[' :: tail) with
  | none => rfl
  | some parts =>
    obtain ⟨word, listed, width, rest, whole, unindexed⟩ := constructor?_some found
    have words : ∀ word ∈ constructorWords, '[' ∉ word := by decide
    refine absurd whole.symm (append_call_ne_indexed ?_ uncalled)
    rw [List.mem_append, not_or]
    exact ⟨words word listed, unindexed⟩

theorem splitModifiers_of_head {text : Text} (unsigned : text.head? ≠ some '-')
    (unbarred : text.head? ≠ some '|') (called : Text.startsWith "abs(" text = false) :
    splitModifiers text = ⟨false, text, false⟩ := by
  have inner : absoluteInner? text = none := by
    unfold absoluteInner?
    split
    · exact absurd rfl unbarred
    · rw [called]
      rfl
  simp [splitModifiers, unsigned, inner]

/-- What stands between brackets behind a name is no absolute value. -/
theorem IsBare.indexed {name : Text} (bare : IsBare name) (tail : Text) :
    (name ++ '[' :: tail).head? ≠ some '-' ∧ (name ++ '[' :: tail).head? ≠ some '|' ∧
      Text.startsWith "abs(" (name ++ '[' :: tail) = false := by
  have start {c : Char} (other : name.head? ≠ some c) (square : c ≠ '[') :
      (name ++ '[' :: tail).head? ≠ some c := by
    cases name with
    | nil =>
      intro same
      exact square (Option.some.inj same).symm
    | cons c' rest => exact other
  refine ⟨start bare.unsigned (by decide), start bare.unbarred (by decide), ?_⟩
  cases found : Text.after? "abs(" (name ++ '[' :: tail) with
  | none => rw [Text.startsWith, found]; rfl
  | some rest =>
    have whole := Text.eq_of_after? _ _ _ found
    have front : ("abs(" ++ rest : Text) = ['a', 'b', 's'] ++ '(' :: rest := rfl
    rw [front] at whole
    exact absurd whole.symm (append_call_ne_indexed (by decide) bare.uncalled)

theorem splitModifiers_asFloat (expression : Text) :
    splitModifiers (Decoding.asFloat expression) = ⟨false, Decoding.asFloat expression, false⟩ := by
  have start : (Decoding.asFloat expression).head? = some 'a' := rfl
  apply splitModifiers_of_head
  · rw [start]
    decide
  · rw [start]
    decide
  · rfl

theorem constructor?_asFloat (expression : Text) :
    constructor? (Decoding.asFloat expression) = none := by
  cases found : constructor? (Decoding.asFloat expression) with
  | none => rfl
  | some parts =>
    obtain ⟨word, listed, width, rest, whole, _⟩ := constructor?_some found
    have words : ∀ word ∈ constructorWords, word.head? ≠ some 'a' ∧ word ≠ [] := by decide
    obtain ⟨other, filled⟩ := words word listed
    obtain ⟨c, letters, rfl⟩ := List.exists_cons_of_ne_nil filled
    have start : some 'a' = some c := congrArg List.head? whole
    exact absurd start.symm other

end Operand

namespace Registers

open Operand Decoding

variable {registers : Registers}

/-- What no constant goes by is cast by its selector. -/
theorem cast_unnamed {expression : Text} {mask : List Component} (filled : mask ≠ [])
    (plain : splitModifiers expression = ⟨false, expression, false⟩)
    (unconstructed : constructor? expression = none)
    (whole : registers.constants.fields.get? expression = none)
    (base : registers.constants.fields.get? (splitSelector expression).1 = none) :
    registers.cast expression (.ofComponents mask) = reselect expression (.ofComponents mask) := by
  have several : (Swizzle.ofComponents mask).count ≠ 0 := by
    rw [Swizzle.count, Swizzle.ofComponents, Component.letters, List.length_map]
    exact fun empty => filled (List.length_eq_zero_iff.mp empty)
  unfold cast
  rw [if_neg several, plain]
  dsimp only
  unfold castInner
  simp only [unconstructed, whole, base, Option.isSome_none, Bool.false_and, Bool.false_eq_true,
    if_false, ite_self]
  cases reselect expression (.ofComponents mask) <;> rfl

/-- A name that can stand in front of an index: no constant goes by it with an index behind it, nor
by what is reinterpreted. -/
structure IsBufferName (registers : Registers) (name : Text) : Prop where
  bare : IsBare name
  unnamed : ∀ tail, registers.constants.fields.get? (name ++ '[' :: tail) = none
  uncalled : ∀ tail, registers.constants.fields.get? ("asfloat(" ++ tail) = none

theorem cast_asFloat {name : Text} (buffer : registers.IsBufferName name) (expression : Text)
    {mask : List Component} (filled : mask ≠ []) :
    registers.cast (Decoding.asFloat expression) (.ofComponents mask) =
      .ok (Decoding.asFloat expression) := by
  have closed : Decoding.asFloat expression = "asfloat(" ++ expression ++ [')'] := rfl
  have split : splitSelector (Decoding.asFloat expression) = (Decoding.asFloat expression, []) := by
    rw [closed]
    exact splitSelector_marked _ fun c => by cases c <;> decide
  have unnamed : registers.constants.fields.get? (Decoding.asFloat expression) = none := by
    rw [closed, List.append_assoc]
    exact buffer.uncalled _
  rw [cast_unnamed filled (splitModifiers_asFloat expression) (constructor?_asFloat expression)
    unnamed (by rw [split]; exact unnamed)]
  unfold reselect
  rw [split]
  rfl

section Element

variable {resource : ResourceOperand} (buffer : registers.IsBufferName resource.name) (index : Text)
include buffer

/-- What stands behind an element is cast by its selector. -/
theorem cast_element (tail : Text) {mask : List Component} (filled : mask ≠ [])
    (base : Text) (split : (splitSelector (elementAccess resource index ++ tail)).1 =
      elementAccess resource index ++ base) :
    registers.cast (elementAccess resource index ++ tail) (.ofComponents mask) =
      reselect (elementAccess resource index ++ tail) (.ofComponents mask) := by
  have indexed (tail : Text) :
      elementAccess resource index ++ tail =
        resource.name ++ '[' :: (index ++ ']' :: tail) := by
    simp [elementAccess]
  apply cast_unnamed filled
  · rw [indexed]
    obtain ⟨unsigned, unbarred, called⟩ := buffer.bare.indexed (index ++ ']' :: tail)
    exact splitModifiers_of_head unsigned unbarred called
  · rw [indexed]
    exact constructor?_indexed buffer.bare.uncalled _
  · rw [indexed]
    exact buffer.unnamed _
  · rw [split, indexed]
    exact buffer.unnamed _

/-- Four components of a member are fitted lane by lane. -/
theorem cast_vector (member : Text) (pick : Component → Component) {mask : List Component}
    (filled : mask ≠ []) (ordered : mask.Sublist Component.all) :
    registers.cast (elementAccess resource index ++
        '.' :: (member ++ Component.suffix (Component.all.map pick))) (.ofComponents mask) =
      .ok (elementAccess resource index ++
        '.' :: (member ++ Component.suffix (mask.map pick))) := by
  have behind (selected : List Component) :
      elementAccess resource index ++ '.' :: (member ++ Component.suffix selected) =
        elementAccess resource index ++ '.' :: member ++ Component.suffix selected := by simp
  have named : elementAccess resource index ++ '.' :: member ≠ [] := by simp [elementAccess]
  have split := splitSelector_four _ named pick
  rw [cast_element buffer index _ filled ('.' :: member) (by rw [behind, split]), behind, behind]
  exact reselect_all _ named pick mask filled ordered

end Element

end Registers

/-- A name that is no selector, or one that a mask leaves as it is. -/
def KeepsName (name : Text) (mask : List Component) : Prop :=
  ∀ selected, name = Component.letters selected → selected ≠ [] → selected.length ≤ 4 →
    fitted selected mask = selected

open Operand Decoding in
/-- A scalar member has no selector, unless its name is one. -/
theorem Registers.cast_scalar {registers : Registers} {resource : ResourceOperand}
    (buffer : registers.IsBufferName resource.name) (index : Text) {member : Text}
    {mask : List Component} (filled : mask ≠ []) (undotted : '.' ∉ member)
    (keeps : KeepsName member mask) :
    registers.cast (elementAccess resource index ++ '.' :: member) (.ofComponents mask) =
      .ok (elementAccess resource index ++ '.' :: member) := by
  rcases splitSelector_dotted (elementAccess resource index) undotted with
    ⟨selected, same, some, short, named⟩ | split
  · have suffix : '.' :: member = Component.suffix selected := by
      rw [same, Component.suffix_of_ne_nil some]
    have split := splitSelector_suffix _ selected named some short
    rw [suffix, cast_element buffer index _ filled [] (by rw [split, List.append_nil]),
      reselect_suffix named some short mask filled, keeps selected same some short]
  · rw [cast_element buffer index _ filled ('.' :: member) (by rw [split])]
    unfold reselect
    rw [split]
    rfl

end ShaderLift
