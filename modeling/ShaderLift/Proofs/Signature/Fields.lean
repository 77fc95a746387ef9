import ShaderLift.Proofs.Signature.Grouping

namespace ShaderLift

/-- An element of a field is declared as a row needs it: with its components at least, in its format,
and under its semantic index, if elements are numbered on from the first. -/
structure FieldDeclaration.Serves (f : FieldDeclaration) (element : Nat) (s : Signature) : Prop where
  components : s.componentCount ≤ f.components
  format : f.format = s.format
  index : f.index + element = s.index

namespace Signature

/-- Rows agree with the first of them: none has more components or another format, and their
semantic indices follow one another. -/
structure AreUniform (first : Signature) (others : List Signature) : Prop where
  components : ∀ row ∈ others, row.componentCount ≤ first.componentCount
  format : ∀ row ∈ others, row.format = first.format
  index : (first :: others).map index =
    (List.range (others.length + 1)).map fun (element : Nat) => first.index + element

/-- A field serves all its rows exactly if they agree with the first. -/
theorem forall_serves_iff (first : Signature) (others : List Signature) (size : Nat) :
    (∀ element row, (first :: others)[element]? = some row →
      (first.fieldOver size).Serves element row) ↔ AreUniform first others := by
  constructor
  · intro serves
    have later (row : Signature) (inside : row ∈ others) :
        ∃ element, (first.fieldOver size).Serves element row := by
      obtain ⟨element, found⟩ := List.getElem?_of_mem (List.mem_cons_of_mem first inside)
      exact ⟨element, serves element row found⟩
    refine ⟨fun row inside => ?_, fun row inside => ?_, ?_⟩
    · obtain ⟨_, served⟩ := later row inside
      exact served.components
    · obtain ⟨_, served⟩ := later row inside
      exact served.format.symm
    · apply List.ext_getElem?
      intro element
      rw [List.getElem?_map, List.getElem?_map]
      by_cases inside : element < others.length + 1
      · have found : (first :: others)[element]? = some ((first :: others).get ⟨element, inside⟩) :=
          List.getElem?_eq_getElem inside
        rw [found, List.getElem?_range inside]
        exact congrArg some (serves element _ found).index.symm
      · rw [List.getElem?_eq_none (Nat.le_of_not_lt inside),
          List.getElem?_eq_none (by rw [List.length_range]; exact Nat.le_of_not_lt inside)]
        rfl
  · intro uniform element row found
    have index : first.index + element = row.index := by
      have same := congrArg (·[element]?) uniform.index
      have inside : element < others.length + 1 := (List.getElem?_eq_some_iff.mp found).1
      rw [List.getElem?_map, found, List.getElem?_map, List.getElem?_range inside] at same
      exact (Option.some.inj same).symm
    rcases List.mem_cons.mp (List.mem_of_getElem? found) with rfl | inside
    · exact ⟨Nat.le_refl _, rfl, index⟩
    · exact ⟨uniform.components row inside, (uniform.format row inside).symm, index⟩

end Signature

namespace SideTables

open Signature

variable {side : Side} {rows others : List Signature} {first : Signature}

/-- The rows of a semantic that becomes a field: the field's declaration, and each row as one of its
elements. -/
theorem ofRows_field (group : sharing rows first.semantic = first :: others)
    (routed : (side = .input && !first.isStructField) = false) :
    let made := SemanticGroup.ofRows side (sharing (rank rows) first.semantic)
    made.field = some (first.fieldOver (others.length + 1)).text ∧
      ∀ element row, (first :: others)[element]? = some row →
        ⟨row.placed (others.length + 1) element,
          elementExpression (side.structureName ++ "." ++ first.fieldName) (others.length + 1)
            element⟩ ∈ made.entries := by
  have ranked : sharing (rank rows) first.semantic = first.placed (others.length + 1) 0 ::
      (others.zipIdx 1).map fun entry => entry.1.placed (others.length + 1) entry.2 := by
    rw [sharing_rank, group]
    rfl
  have struct : (side = .input && !(first.placed (others.length + 1) 0).isStructField) = false :=
    routed
  have size : (first.placed (others.length + 1) 0 :: (others.zipIdx 1).map fun entry =>
      entry.1.placed (others.length + 1) entry.2).length = others.length + 1 := by
    simp
  intro made
  have made_eq : made = SemanticGroup.ofRows side (sharing (rank rows) first.semantic) := rfl
  rw [ranked, SemanticGroup.ofRows, struct] at made_eq
  simp only [Bool.false_eq_true, if_false, size] at made_eq
  rw [made_eq]
  refine ⟨rfl, ?_⟩
  intro element row found
  have place : (sharing (rank rows) first.semantic)[element]? =
      some (row.placed (others.length + 1) element) := by
    rw [sharing_rank, group, List.getElem?_map, List.getElem?_zipIdx, found]
    simp
  rw [ranked] at place
  exact List.mem_map.mpr ⟨(_, element), List.mem_zipIdx_iff_getElem?.mpr place, rfl⟩

end SideTables

open Signature in
/-- The field of a semantic is declared from its first row, and each of its rows is read as the
element at its place. The field declares for every row what the row needs exactly if the rows agree
with the first one. -/
theorem field_serves_rows_iff (d : Declarations) (side : Side) (first : Signature)
    (others : List Signature) (group : sharing (d.rows side) first.semantic = first :: others)
    (routed : (side = .input && !first.isStructField) = false) :
    let field := first.fieldOver (others.length + 1)
    let tables := d.resolve.registers.tables side
    field.text ∈ tables.fields ∧
    (∀ element row, (first :: others)[element]? = some row → ∀ key ∈ row.keys side,
      ⟨row.placed field.size element,
        elementExpression (side.structureName ++ "." ++ field.name) field.size element⟩ ∈
          tables.listed key) ∧
    ((∀ element row, (first :: others)[element]? = some row → field.Serves element row) ↔
      AreUniform first others) := by
  intro field tables
  obtain ⟨declared, entries⟩ := SideTables.ofRows_field group routed
  have among : (first.semantic, sharing (rank (d.rows side)) first.semantic) ∈
      Table.groupBy semantic (rank (d.rows side)) := by
    apply SideTables.mem_groupBy_iff.mpr
    refine ⟨rfl, ?_⟩
    rw [sharing_rank, group]
    exact List.cons_ne_nil _ _
  have tables_eq : tables = .ofRows side (rank (d.rows side)) := d.tables_resolve side
  refine ⟨?_, ?_, forall_serves_iff first others _⟩
  · rw [tables_eq, SideTables.ofRows]
    exact List.mem_filterMap.mpr ⟨_, List.mem_map.mpr ⟨_, among, rfl⟩, declared⟩
  · intro element row found key known
    rw [tables_eq, SideTables.listed_ofRows, List.mem_filter, SideTables.entered, List.mem_flatMap]
    exact ⟨⟨_, among, entries element row found⟩, decide_eq_true known⟩

/-- Texture coordinates of different widths and formats with a gap between their indices, and colors
that agree with the first of them. -/
def mixedListing : Text := Text.join ['\n']
  ["// Input signature:",
    "// TEXCOORD         0   xy     1     NONE   float   xy",
    "// TEXCOORD         2   xyz    2     NONE    uint   xyz",
    "// COLOR            1   xyzw   3     NONE   float   xyzw",
    "// COLOR            2   xy     4     NONE   float   xy", ""]

def firstTexcoord : Signature :=
  ⟨"TEXCOORD", 0, "xy", some 1, "1", "NONE", "float", "Texcoord", 1, 0⟩

def secondTexcoord : Signature :=
  ⟨"TEXCOORD", 2, "xyz", some 2, "2", "NONE", "uint", "Texcoord", 1, 0⟩

def firstColor : Signature :=
  ⟨"COLOR", 1, "xyzw", some 3, "3", "NONE", "float", "Color", 1, 0⟩

def secondColor : Signature :=
  ⟨"COLOR", 2, "xy", some 4, "4", "NONE", "float", "Color", 1, 0⟩

def mixedDeclarations : Declarations :=
  { inputs := [firstTexcoord, secondTexcoord, firstColor, secondColor] }

def mixedSymbols : Symbols :=
  ⟨mixedDeclarations.resolve.declared, mixedDeclarations.resolve.registers⟩

theorem readSymbols_mixedListing : (readSymbols mixedListing).result = .ok mixedSymbols := by
  apply readSymbols_of_scanHeader (d := mixedDeclarations)
  · apply eq_ok_of_toOption
    decide +kernel
  · decide +kernel

/-- The second texture coordinate is an element of a field that has too few components, another
format, and another semantic index at this place. -/
theorem field_fails_row :
    (readSymbols mixedListing).result = .ok mixedSymbols ∧
      (mixedSymbols.declared.inputs.map fun row => (row.semantic, row.index)).Nodup ∧
      (firstTexcoord.fieldOver 2).text = "float2 Texcoord[2] : TEXCOORD;" ∧
      (firstTexcoord.fieldOver 2).text ∈ mixedSymbols.registers.inputs.fields ∧
      mixedSymbols.registers.inputs.listed "v2" =
        [⟨secondTexcoord.placed 2 1, "input.Texcoord[1]"⟩] ∧
      ¬secondTexcoord.componentCount ≤ (firstTexcoord.fieldOver 2).components ∧
      (firstTexcoord.fieldOver 2).format ≠ secondTexcoord.format ∧
      (firstTexcoord.fieldOver 2).index + 1 ≠ secondTexcoord.index :=
  ⟨readSymbols_mixedListing, by decide +kernel, by decide +kernel, by decide +kernel,
    by decide +kernel, by decide, by decide, by decide⟩

/-- The colors agree with the first of them, and their field serves both. -/
theorem field_serves_colors :
    ("float4 Color[2] : COLOR1;" : Text) ∈ mixedSymbols.registers.inputs.fields ∧
      Signature.AreUniform firstColor [secondColor] ∧
      (firstColor.fieldOver 2).Serves 0 firstColor ∧ (firstColor.fieldOver 2).Serves 1 secondColor := by
  obtain ⟨declared, _, serves⟩ := field_serves_rows_iff mixedDeclarations .input firstColor
    [secondColor] (by decide +kernel) (by decide)
  have uniform : Signature.AreUniform firstColor [secondColor] :=
    ⟨by decide, by decide, by decide⟩
  have each := serves.mpr uniform
  refine ⟨?_, uniform, each 0 _ rfl, each 1 _ rfl⟩
  have text : (firstColor.fieldOver 2).text = "float4 Color[2] : COLOR1;" := by decide +kernel
  rw [← text]
  exact declared

end ShaderLift
