import ShaderLift.Proofs.Operand.Relative
import ShaderLift.Proofs.Signature.Group

namespace ShaderLift

open Operand

theorem exists_of_bind_ok {α β : Type} {first : Except Fault α} {next : α → Except Fault β}
    {result : β} (run : first >>= next = .ok result) :
    ∃ value, first = .ok value ∧ next value = .ok result := by
  cases first with
  | error fault => cases run
  | ok value => exact ⟨value, rfl, run⟩

/-- The names that a header declares are plain. -/
structure Declarations.HasPlainNames (d : Declarations) : Prop where
  inputs : ∀ row ∈ d.inputs, IsPlainName row.fieldName
  outputs : ∀ row ∈ d.outputs, IsPlainName row.fieldName
  resources : ∀ r ∈ d.resources, IsPlainName r.name
  buffers : ∀ buffer ∈ d.buffers, ∀ v ∈ buffer.members, IsPlainName v.name
  members : ∀ s ∈ d.structures, ∀ m ∈ s.members, IsPlainName m.name

/-- The names in register tables are plain. -/
structure Registers.HavePlainNames (registers : Registers) : Prop where
  inputs : ∀ key entry, registers.inputs.Lists key entry → IsPlainName entry.expression
  outputs : ∀ key entry, registers.outputs.Lists key entry → IsPlainName entry.expression
  textures : ∀ key entry, registers.textures.registers.get? key = some entry →
    IsPlainName entry.expandedName
  samplers : ∀ key entry, registers.samplers.registers.get? key = some entry →
    IsPlainName entry.expandedName
  uavs : ∀ key entry, registers.uavs.registers.get? key = some entry →
    IsPlainName entry.expandedName
  placements : ∀ p ∈ registers.constants.placements, IsPlainName p.entry.expression
  arrays : ∀ array ∈ registers.constants.arrays, IsPlainName array.name
  keys : ∀ key entry, registers.constants.registers.get? key = some entry →
    IsPlainName entry.expression
  fields : ∀ expression entry, registers.constants.fields.get? expression = some entry →
    IsPlainName expression

namespace SemanticGroup

theorem plain_entries (side : Side) {rows : List Signature}
    (plain : ∀ row ∈ rows, IsPlainName row.fieldName) :
    ∀ entry ∈ (ofRows side rows).entries, IsPlainName entry.expression := by
  cases rows with
  | nil => simp [ofRows]
  | cons first others =>
    have named := plain first (List.mem_cons_self ..)
    have parameter : IsPlainName first.parameter.name := by
      have vertex : IsPlainName "vertexId" := .of_fixed (by decide) rfl
      have instanceName : IsPlainName "instanceId" := .of_fixed (by decide) rfl
      unfold Signature.parameter Parameter.ofSystemValue?
      split
      · exact vertex
      · split
        · exact instanceName
        · exact named
    have field : IsPlainName (side.structureName ++ "." ++ first.fieldName) := by
      have word : IsPlainName side.structureName := by
        cases side
        · exact .of_fixed (by decide) rfl
        · exact .of_fixed (by decide) rfl
      exact (word.append (.of_fixed (by decide) rfl)).append named
    intro entry inside
    unfold ofRows at inside
    dsimp only at inside
    split at inside
    · obtain ⟨row, _, rfl⟩ := List.mem_map.mp inside
      exact parameter
    · obtain ⟨⟨row, index⟩, _, rfl⟩ := List.mem_map.mp inside
      dsimp only
      unfold elementExpression
      split
      · exact field.indexed (IsPlainName.ofNat index).unmarked
      · exact field

end SemanticGroup

theorem SemanticGroup.signature_mem (side : Side) (rows : List Signature) :
    ∀ entry ∈ (ofRows side rows).entries, entry.signature ∈ rows := by
  cases rows with
  | nil =>
    intro entry inside
    cases inside
  | cons first others =>
    intro entry inside
    unfold ofRows at inside
    dsimp only at inside
    split at inside
    · obtain ⟨row, among, rfl⟩ := List.mem_map.mp inside
      exact among
    · obtain ⟨⟨row, index⟩, among, rfl⟩ := List.mem_map.mp inside
      exact List.fst_mem_of_mem_zipIdx among

namespace SideTables

/-- A name is entered for the rows whose register goes by it. -/
theorem exists_row_of_lists (side : Side) {rows : List Signature} {key : Text}
    {entry : SignatureEntry} (listed : (ofRows side rows).Lists key entry) :
    ∃ group ∈ Table.groupBy Signature.semantic rows,
      entry ∈ (SemanticGroup.ofRows side group.2).entries ∧ entry.signature ∈ rows ∧
        key ∈ entry.signature.keys side := by
  obtain ⟨entries, found, inside⟩ := listed
  rw [(((entries_gathers side rows).get? key entries).mp found).1, Table.mem_valuesOf] at inside
  simp only [List.mem_flatMap, List.mem_map] at inside
  obtain ⟨other, ⟨group, among, inside⟩, name, known, equal⟩ := inside
  obtain ⟨rfl, rfl⟩ := Prod.mk.inj equal
  obtain ⟨shared, _⟩ := mem_groupBy_iff.mp among
  have row := SemanticGroup.signature_mem side group.2 other inside
  rw [shared] at row
  exact ⟨group, among, inside, (Signature.mem_sharing.mp row).1, known⟩

theorem plain_ofRows (side : Side) {rows : List Signature}
    (plain : ∀ row ∈ rows, IsPlainName row.fieldName) (key : Text) (entry : SignatureEntry)
    (listed : (ofRows side rows).Lists key entry) : IsPlainName entry.expression := by
  obtain ⟨group, among, inside, _⟩ := exists_row_of_lists side listed
  obtain ⟨shared, _⟩ := mem_groupBy_iff.mp among
  apply SemanticGroup.plain_entries side ?_ entry inside
  intro row within
  rw [shared] at within
  exact plain row (Signature.mem_sharing.mp within).1

end SideTables

/-- Numbering rows changes nothing else about them. -/
theorem Signature.forall_rank {kind : Signature → Prop}
    (kept : ∀ (row : Signature) (size index : Nat), kind row →
      kind { row with arraySize := size, arrayIndex := index })
    {rows : List Signature} (each : ∀ row ∈ rows, kind row) : ∀ row ∈ rank rows, kind row := by
  have onward (all earlier rows : List Signature) (each : ∀ row ∈ rows, kind row) :
      ∀ row ∈ rankFrom all earlier rows, kind row := by
    induction rows generalizing earlier with
    | nil => simp [rankFrom]
    | cons first rest ih =>
      rw [List.forall_mem_cons] at each
      rw [rankFrom, List.forall_mem_cons]
      exact ⟨kept first _ _ each.1, ih _ each.2⟩
  exact onward rows [] rows each

theorem Signature.plain_rank {rows : List Signature}
    (plain : ∀ row ∈ rows, IsPlainName row.fieldName) :
    ∀ row ∈ rank rows, IsPlainName row.fieldName :=
  forall_rank (fun _ _ _ named => named) plain

namespace ResourceTables

theorem mem_of_mem_reached {shaped : List (Resource × ResourceShape)}
    {entry : Resource × ResourceShape} (inside : entry ∈ reached shaped) : entry ∈ shaped := by
  induction shaped with
  | nil => cases inside
  | cons first rest ih =>
    rcases List.mem_cons.mp inside with rfl | later
    · exact List.mem_cons_self ..
    · apply List.mem_cons_of_mem
      split at later
      · exact ih later
      · cases later

theorem plain_ofShapes {mark : Char} {shaped : List (Resource × ResourceShape)}
    (plain : ∀ entry ∈ shaped, IsPlainName entry.1.name) (key : Text) (entry : ResourceEntry)
    (found : (ofShapes mark shaped).registers.get? key = some entry) :
    IsPlainName entry.expandedName := by
  unfold ofShapes at found
  dsimp only at found
  rw [Table.get?_ofFirsts] at found
  obtain ⟨other, among, same⟩ := List.mem_map.mp (Table.mem_of_get? found)
  obtain ⟨_, rfl⟩ := Prod.mk.inj same
  obtain ⟨part, expanded, inside⟩ := List.mem_flatten.mp among
  obtain ⟨first, reached, rfl⟩ := List.mem_map.mp expanded
  obtain ⟨index, _, rfl⟩ := List.mem_map.mp inside
  have named := plain first (mem_of_mem_reached reached)
  unfold ResourceEntry.expandedName
  dsimp only
  split
  · exact named.indexed (IsPlainName.ofInt_unmarked _)
  · exact named

end ResourceTables

/-- What a buffer brings up has a plain name. -/
def ConstantFinding.HasPlainName : ConstantFinding → Prop
  | array found => IsPlainName found.name
  | placement found => IsPlainName found.entry.expression

theorem LeafField.plain_findings (bind : Int) {leaf : LeafField} (named : IsPlainName leaf.name) :
    ∀ finding ∈ (leaf.findings bind).items, finding.HasPlainName := by
  intro finding inside
  simp only [findings, List.mem_append, List.mem_map, Option.mem_toList] at inside
  rcases inside with ⟨found, array, rfl⟩ | ⟨position, _, rfl⟩
  · unfold array? at array
    split at array
    · cases array
      exact named
    · cases array
  · exact named.append (.indexText _)

/-- The name of an array is what stands in front of its first bracket. -/
theorem eq_of_splitArrayName {name base : Text} {dimensions : List Nat}
    (split : splitArrayName name = .ok (base, dimensions)) : base = name.takeWhile (· != '[') := by
  unfold splitArrayName at split
  cases read : (dimensionsFrom none (name.dropWhile (· != '['))).mapM Fault.readDecimals with
  | error fault =>
    rw [read] at split
    cases split
  | ok numbers =>
    rw [read] at split
    cases split
    rfl

theorem splitArrayName_base {name base : Text} {dimensions : List Nat}
    (split : splitArrayName name = .ok (base, dimensions)) : base <+: name := by
  rw [eq_of_splitArrayName split]
  exact List.takeWhile_prefix _

theorem Variable.plain_findings {structures : List Structure}
    (members : ∀ s ∈ structures, ∀ m ∈ s.members, IsPlainName m.name) (bind : Int) (depth : Nat)
    (place : Int) {path : Text} {v : Variable} (named : IsPlainName v.name)
    (below : IsPlainName path) :
    ∀ finding ∈ (v.findings structures bind depth place path).items, finding.HasPlainName := by
  have name {v : Variable} {path base : Text} {dimensions : List Nat} (named : IsPlainName v.name)
      (below : IsPlainName path) (split : splitArrayName v.name = .ok (base, dimensions)) :
      IsPlainName (path ++ base) := below.append (named.of_prefix (splitArrayName_base split))
  refine forall_findings (IsPlainName ·.name) IsPlainName members ?_ ?_ depth place named below
  · intro v place path base dimensions named below split
    exact LeafField.plain_findings bind (name named below split)
  · intro v path base dimensions position named below split
    exact ((name named below split).append (.indexText _)).append (.of_fixed (by decide) rfl)

namespace Declarations

variable {d : Declarations}

theorem HasPlainNames.findings (plain : d.HasPlainNames) {buffer : ConstantBuffer}
    (among : buffer ∈ d.boundBuffers) :
    ∀ finding ∈ (buffer.findings d.structures).items, finding.HasPlainName := by
  intro finding inside
  obtain ⟨v, member, inside⟩ := CutList.mem_collect inside
  obtain ⟨⟨declared, place⟩, listed, rfl⟩ := List.mem_map.mp among
  have named := plain.buffers declared (List.fst_mem_of_mem_zipIdx listed) v member
  exact v.plain_findings plain.members _ _ _ named .nil finding inside

/-- The tables of plain names hold plain names. -/
theorem HasPlainNames.resolve (plain : d.HasPlainNames) (returns : d.resolve.fault = none) :
    d.resolve.registers.HavePlainNames := by
  obtain ⟨_, sampled, viewed⟩ := resources_resolve returns
  have placements : ∀ p ∈ d.resolve.registers.constants.placements,
      IsPlainName p.entry.expression := by
    intro p inside
    obtain ⟨buffer, inside, among⟩ := (mem_placements_resolve returns p).mp inside
    exact plain.findings inside _ among
  have listed {key : Text} {entry : ConstantEntry} (name : Placement → Text)
      (found : (Table.ofFirsts (d.resolve.registers.constants.placements.map fun p =>
        (name p, p.entry))).get? key = some entry) :
      ∃ p ∈ d.resolve.registers.constants.placements, name p = key ∧ p.entry = entry := by
    rw [Table.get?_ofFirsts] at found
    obtain ⟨p, among, same⟩ := List.mem_map.mp (Table.mem_of_get? found)
    exact ⟨p, among, Prod.mk.inj same⟩
  obtain ⟨plainTextures, plainSamplers, plainUavs⟩ :=
    ResourceTables.forall_classes (fun tables => ∀ key entry,
      tables.registers.get? key = some entry → IsPlainName entry.expandedName)
      fun mark shaped (listed : ∀ entry ∈ shaped, entry.1 ∈ d.resources) =>
        ResourceTables.plain_ofShapes fun entry inside =>
          plain.resources entry.1 (listed entry inside)
  refine ⟨SideTables.plain_ofRows .input (Signature.plain_rank plain.inputs),
    SideTables.plain_ofRows .output (Signature.plain_rank plain.outputs), plainTextures, ?_, ?_,
    placements, ?_, ?_, ?_⟩
  · rw [sampled]
    exact plainSamplers
  · rw [viewed]
    exact plainUavs
  · intro array inside
    obtain ⟨buffer, inside, among⟩ := (mem_arrays_resolve returns array).mp inside
    exact plain.findings inside _ among
  · intro key entry found
    rw [registers_resolve returns] at found
    obtain ⟨p, among, _, rfl⟩ := listed Placement.key found
    exact placements p among
  · intro expression entry found
    have fields : d.resolve.registers.constants.fields =
        .ofFirsts (d.resolve.registers.constants.placements.map fun p =>
          (p.entry.expression, p.entry)) := by
      rw [constants_resolve returns]
      rfl
    rw [fields] at found
    obtain ⟨p, among, rfl, _⟩ := listed (fun p => p.entry.expression) found
    exact placements p among

end Declarations

namespace Registers

theorem mem_packedOver? {entries : List SignatureEntry} {selected : List Component}
    {entry : SignatureEntry} (found : packedOver? entries selected = some entry) :
    entry ∈ entries := by
  unfold packedOver? at found
  split at found
  · exact List.mem_of_head? found
  · rcases Option.or_eq_some_iff.mp found with early | ⟨_, late⟩
    · exact List.mem_of_find?_eq_some early
    · exact List.mem_of_head? late

theorem mem_constantOver? {entries : List ConstantEntry} {selected : List Component}
    {entry : ConstantEntry} (found : constantOver? entries selected = some entry) :
    entry ∈ entries := by
  unfold constantOver? at found
  split at found
  · exact List.mem_of_head? found
  · rcases Option.or_eq_some_iff.mp found with early | ⟨_, late⟩
    · exact List.mem_of_find?_eq_some early
    · exact List.mem_of_head? late

/-- What an operand is answered with among constants: an entry listed under it, an entry of the
register that it names, or an element of an array in the buffer that it names. -/
inductive ConstantAnswer (tables : ConstantTables) (operand : Text) : Text → Prop
  | listed {entry : ConstantEntry} (found : tables.registers.get? operand = some entry) :
      ConstantAnswer tables operand entry.expression
  | placed {digits index : Text} {bind slot : Int} {entry : ConstantEntry}
      (register : constantRegister? (splitSelector operand).1 = some (digits, index))
      (bound : Fault.readInteger digits = .ok bind) (inside : entry ∈ tables.entriesAt bind slot)
      (selected : List Component) :
      ConstantAnswer tables operand (entry.expression ++ Component.suffix selected)
  | reached {digits index : Text} {bind : Int} {relative : RelativeIndex} {array : ConstantArray}
      {selected : List Component} {name : Text}
      (register : constantRegister? (splitSelector operand).1 = some (digits, index))
      (bound : Fault.readInteger digits = .ok bind)
      (read : relativeIndex? (Text.trim index) = .ok (some relative))
      (inside : array ∈ tables.arrays) (same : array.bind = bind)
      (written : arrayExpression array relative selected = .ok name) :
      ConstantAnswer tables operand name

theorem constantAnswer_of_findConstant? {tables : ConstantTables} {operand name : Text}
    (found : findConstant? tables operand = .ok (some name)) :
    ConstantAnswer tables operand name := by
  unfold findConstant? at found
  split at found
  · rename_i entry listed
    cases found
    exact .listed listed
  · dsimp only at found
    split at found
    · cases found
    · rename_i digits index register
      obtain ⟨bind, bound, found⟩ := exists_of_bind_ok found
      split at found
      · obtain ⟨relative?, read, found⟩ := exists_of_bind_ok found
        cases relative? with
        | none => cases found
        | some relative =>
          dsimp only at found
          split at found
          · cases found
          · rename_i array reached
            obtain ⟨expression, written, found⟩ := exists_of_bind_ok found
            cases found
            have lies := List.find?_some reached
            simp only [reaches, Bool.and_eq_true, decide_eq_true_eq] at lies
            exact .reached register bound read (List.mem_of_find?_eq_some reached) lies.1.1 written
      · obtain ⟨slot, _, found⟩ := exists_of_bind_ok found
        obtain ⟨entry, reached, same⟩ := Option.map_eq_some_iff.mp (Except.ok.inj found)
        rw [← same]
        exact .placed register bound (mem_constantOver? reached) _

theorem decimals_of_vertexInput? {base vertex register : Text}
    (split : vertexInput? base = some (vertex, register)) :
    ∀ c ∈ vertex, Text.isDecimal c = true := by
  simp only [vertexInput?, Text.spanDecimals, Option.bind_eq_bind, Option.bind_eq_some_iff] at split
  obtain ⟨behind, _, rest, _, same⟩ := split
  obtain ⟨_, same⟩ := Option.ite_none_left_eq_some.mp same
  cases same
  exact fun c inside => List.mem_takeWhile_imp inside

theorem plain_fieldSelector (s : Signature) (selected : List Component) :
    IsPlainName (fieldSelector s selected) := by
  unfold fieldSelector
  split
  · exact .nil
  · exact .suffix _

theorem plain_findRow? {tables : SideTables}
    (plain : ∀ key entry, tables.Lists key entry → IsPlainName entry.expression) {base name : Text}
    {selected : List Component} (found : findRow? tables base selected = some name) :
    IsPlainName name := by
  simp only [findRow?, Option.bind_eq_bind, Option.bind_eq_some_iff] at found
  obtain ⟨entries, listed, entry, packed, same⟩ := found
  cases same
  exact (plain base entry ⟨entries, listed, mem_packedOver? packed⟩).append
    (plain_fieldSelector _ _)

variable {registers : Registers}

namespace HavePlainNames

theorem findVertexInput? (plain : registers.HavePlainNames) {base name : Text}
    {selected : List Component} (found : registers.findVertexInput? base selected = some name) :
    IsPlainName name := by
  simp only [Registers.findVertexInput?, Option.bind_eq_bind, Option.bind_eq_some_iff] at found
  obtain ⟨⟨vertex, register⟩, split, entries, listed, entry, packed, same⟩ := found
  cases same
  have digits := decimals_of_vertexInput? split
  have number : IsPlainName vertex := .of_class Text.isDecimal digits rfl
  have named := plain.inputs _ entry ⟨entries, listed, mem_packedOver? packed⟩
  refine IsPlainName.append ?_ (plain_fieldSelector _ _)
  split
  · rename_i field behind
    have shown := Text.eq_of_after? _ _ _ behind
    have start : IsPlainName "input[" := .of_fixed (by decide) rfl
    refine ⟨by simp, fun c inside => ?_⟩
    rcases List.mem_append.mp inside with early | late
    · exact ((start.append number).append (.of_fixed (by decide) rfl)).unmarked c early
    · exact named.unmarked c (by rw [shown]; exact List.mem_append_right _ late)
  · exact named

theorem findBuiltIn? {base name : Text} {selected : List Component}
    (found : Registers.findBuiltIn? base selected = some name) : IsPlainName name := by
  have names : ∀ entry ∈ Parameter.builtIn, entry.2.name.head? ≠ some '-' ∧
      entry.2.name.all (fun c => c != '(' && c != ')' && c != '|') = true := by decide
  obtain ⟨parameter, listed, rfl⟩ := Option.map_eq_some_iff.mp found
  obtain ⟨unsigned, unmarked⟩ := names _ (Table.mem_of_get? listed)
  exact (IsPlainName.of_fixed unsigned unmarked).append (.suffix selected)

theorem findResource? {tables : ResourceTables}
    (plain : ∀ key entry, tables.registers.get? key = some entry → IsPlainName entry.expandedName)
    {base name : Text} {selected : List Component}
    (found : Registers.findResource? tables base selected = some name) : IsPlainName name := by
  obtain ⟨entry, listed, rfl⟩ := Option.map_eq_some_iff.mp found
  exact (plain base entry listed).append (.suffix selected)

/-- An element of an array can take a sign and an absolute value. -/
theorem isUnmarked_element {array : ConstantArray} (named : IsPlainName array.name)
    {position place : Text} (inside : IsNested position) (grouped : IsNested place)
    (selected : List Component) :
    IsUnmarked (array.name ++
      (if 1 < array.rows then
        "[" ++ place ++ " / " ++ Text.ofNat array.rows ++ "][" ++ place ++ " % " ++
          Text.ofNat array.rows ++ "]"
      else "[" ++ position ++ "]") ++ Component.suffix selected) := by
  have rows := (IsPlainName.ofNat array.rows).nested
  have opened : IsNested "[" := .of_plain (by decide) (by decide)
  have closed : IsNested "]" := .of_plain (by decide) (by decide)
  have between : IsNested "][" := .of_plain (by decide) (by decide)
  have divided : IsNested " / " := .of_plain (by decide) (by decide)
  have rest : IsNested " % " := .of_plain (by decide) (by decide)
  have suffix := (IsPlainName.suffix selected).nested
  have element : ∃ tail, (if 1 < array.rows then
        "[" ++ place ++ " / " ++ Text.ofNat array.rows ++ "][" ++ place ++ " % " ++
          Text.ofNat array.rows ++ "]"
      else "[" ++ position ++ "]" : Text) = '[' :: tail ∧ IsNested ('[' :: tail) := by
    split
    · exact ⟨_, rfl, ((((((((opened.append grouped).append divided).append rows).append
        between).append grouped).append rest).append rows).append closed)⟩
    · exact ⟨_, rfl, (opened.append inside).append closed⟩
  obtain ⟨tail, same, nested⟩ := element
  rw [same, List.append_assoc, List.cons_append]
  exact .indexed named.isBare (named.nested.append (nested.append suffix))

theorem arrayExpression {array : ConstantArray} (named : IsPlainName array.name)
    {index : RelativeIndex} (nested : IsNested index.register) {selected : List Component}
    {name : Text} (written : Registers.arrayExpression array index selected = .ok name) :
    IsUnmarked name := by
  unfold Registers.arrayExpression at written
  dsimp only at written
  split at written
  · rw [← Except.ok.inj written]
    exact isUnmarked_element named nested nested _
  · obtain ⟨position, found, written⟩ := exists_of_bind_ok written
    have inside : IsNested position := by
      unfold Fault.writeInteger at found
      split at found
      · cases found
        exact (nested.append (.of_plain (by decide) (by decide))).append
          (.of_unmarked (IsPlainName.ofInt_unmarked _))
      · cases found
    rw [← Except.ok.inj written]
    exact isUnmarked_element named inside inside.call _

theorem findConstant? (plain : registers.HavePlainNames) {operand name : Text}
    (unopened : '(' ∉ operand) (unclosed : ')' ∉ operand)
    (found : Registers.findConstant? registers.constants operand = .ok (some name)) :
    IsUnmarked name := by
  cases constantAnswer_of_findConstant? found with
  | listed listed => exact .of_plain (plain.keys operand _ listed)
  | placed _ _ inside selected =>
    obtain ⟨p, among, rfl⟩ := List.mem_map.mp inside
    exact .of_plain ((plain.placements p (List.mem_filter.mp among).1).append (.suffix _))
  | @reached _ index _ relative array _ _ register _ read inside _ written =>
    have within : ∀ c ∈ Text.trim index, c ∈ operand := by
      obtain ⟨whole, _⟩ := constantRegister?_some _ _ _ register
      obtain ⟨front, back, _, around⟩ := Text.exists_trim index
      obtain ⟨tail, split⟩ := splitSelector_front operand
      intro c inside
      have among : c ∈ index := by
        rw [around]
        exact List.mem_append_right _ (List.mem_append_left _ inside)
      rw [split]
      apply List.mem_append_left _ ((Text.dropFinalNewline_isPrefix _).subset _)
      rw [whole]
      simp [among]
    have nested : IsNested relative.register := isNested_register read
      (fun among => unopened (within _ among)) fun among => unclosed (within _ among)
    exact arrayExpression (plain.arrays array inside) nested written

/-- What is found for an operand can take a sign and an absolute value. -/
theorem findName? (plain : registers.HavePlainNames) {operand name : Text}
    (unopened : '(' ∉ operand) (unclosed : ')' ∉ operand)
    (found : registers.findName? operand = .ok (some name)) : IsUnmarked name := by
  unfold Registers.findName? at found
  dsimp only at found
  split at found
  · rename_i known
    cases found
    apply IsUnmarked.of_plain
    simp only [Option.or_eq_some_iff] at known
    rcases known with known | ⟨_, known | ⟨_, known | ⟨_, known | ⟨_, known | ⟨_, known | ⟨_, known⟩⟩⟩⟩⟩⟩
    · exact plain_findRow? plain.inputs known
    · exact plain.findVertexInput? known
    · exact findBuiltIn? known
    · exact plain_findRow? plain.outputs known
    · exact findResource? plain.textures known
    · exact findResource? plain.samplers known
    · exact findResource? plain.uavs known
  · exact plain.findConstant? unopened unclosed found

end HavePlainNames
end Registers
end ShaderLift
