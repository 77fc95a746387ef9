import ShaderLift.Proofs.Constant.Resolve
import ShaderLift.Proofs.Header.Scanned
import ShaderLift.Proofs.Register.Plain
import ShaderLift.Proofs.Shader.Lines

namespace ShaderLift

variable {m : ElementType.Matrix} {shape indices : List Nat}

/-- Where a field is declared. -/
inductive Home where
  | ofBuffer (buffer : ConstantBuffer)
  | ofStructure (s : Structure)

namespace Home

def isBuffer : Home → Bool
  | ofBuffer _ => true
  | ofStructure _ => false

/-- The fields that are declared in one place. -/
def members : Home → List Variable
  | ofBuffer buffer => buffer.members
  | ofStructure s => s.members

/-- The line in front of their declarations. -/
def opening : Home → Text
  | ofBuffer buffer =>
    "cbuffer " ++ buffer.name ++ " : register(b" ++ Text.ofInt buffer.bind ++ ")"
  | ofStructure s => "struct " ++ s.name

end Home

/-- A field that is reached from a buffer, through structures nested to any depth: where it is
declared, where it lies in the buffer and the path in front of its name. -/
inductive ConstantBuffer.Reaches (structures : List Structure) (buffer : ConstantBuffer) :
    Home → Variable → Int → Text → Prop
  | own {v : Variable} (inside : v ∈ buffer.members) :
      Reaches structures buffer (.ofBuffer buffer) v v.offset []
  | member {home : Home} {v m : Variable} {place stride : Int} {path base : Text} {s : Structure}
      {dimensions indices : List Nat} (outer : Reaches structures buffer home v place path)
      (named : splitArrayName v.name = .ok (base, dimensions))
      (found : Declarations.findStructure? structures v.type = some s)
      (spaced : s.HasStride structures stride) (within : IndexesInto dimensions indices)
      (inside : m ∈ s.members) :
      Reaches structures buffer (.ofStructure s) m
        (place + flatten dimensions indices * stride + m.offset)
        (path ++ base ++ indexText indices ++ ".")

theorem isInfix_flatMap {α β : Type} {items : List α} {item : α} (make : α → List β)
    (inside : item ∈ items) : make item <:+: items.flatMap make := by
  obtain ⟨front, back, rfl⟩ := List.append_of_mem inside
  refine ⟨front.flatMap make, back.flatMap make, ?_⟩
  simp only [List.flatMap_append, List.flatMap_cons, List.append_assoc]

namespace CutList

variable {α β : Type}

theorem isInfix_collect {make : β → CutList α} {elements : List β} {element : β}
    (complete : (collect make elements).fault = none) (inside : element ∈ elements) :
    (make element).items <:+: (collect make elements).items := by
  rw [items_collect_of_complete _ _ ((fault_collect_eq_none_iff _ _).mp complete)]
  exact isInfix_flatMap (fun x => (make x).items) inside

end CutList

namespace Variable

variable {structures : List Structure} {place : Int} {path base : Text} {v : Variable}
  {dimensions : List Nat}

/-- What a member brings up stands together in what its variable brings up. -/
theorem isInfix_findings_member (bind : Int) {below : Nat} {s : Structure} {stride : Int}
    (named : splitArrayName v.name = .ok (base, dimensions))
    (found : Declarations.findStructure? structures v.type = some s)
    (measured : s.stride structures (below + 1) = .ok stride)
    (complete : (v.findings structures bind (below + 1) place path).fault = none)
    (position : Nat) (inside : position < shapeCount dimensions) (m : Variable)
    (member : m ∈ s.members) :
    (m.findings structures bind below (place + position * stride + m.offset)
      (path ++ base ++ indexText (unflatten position dimensions) ++ ".")).items <:+:
      (v.findings structures bind (below + 1) place path).items := by
  rw [findings_structure bind below named found measured] at complete ⊢
  have among : position ∈ List.range' 0 (shapeCount dimensions) := by simpa using inside
  have element := (CutList.fault_collect_eq_none_iff _ _).mp complete position among
  exact (CutList.isInfix_collect element member).trans (CutList.isInfix_collect complete among)

end Variable

namespace ConstantBuffer.Reaches

variable {structures : List Structure} {buffer : ConstantBuffer} {home : Home} {v : Variable}
  {place : Int} {path : Text}

theorem mem_members (reached : buffer.Reaches structures home v place path) : v ∈ home.members := by
  cases reached with
  | own inside => exact inside
  | member _ _ _ _ _ inside => exact inside

/-- A field that is reached from a buffer is taken apart with it. -/
theorem findings_isInfix (reached : buffer.Reaches structures home v place path)
    (complete : (buffer.findings structures).fault = none) :
    ∃ depth, (v.findings structures buffer.bind depth place path).fault = none ∧
      (v.findings structures buffer.bind depth place path).items <:+:
        (buffer.findings structures).items := by
  induction reached with
  | own inside =>
    exact ⟨callRoom, (CutList.fault_collect_eq_none_iff _ _).mp complete _ inside,
      CutList.isInfix_collect complete inside⟩
  | member outer named found spaced within inside ih =>
    obtain ⟨depth, outerComplete, outerInfix⟩ := ih
    obtain ⟨base', dimensions', named', plain | ⟨s', below, stride', found', rfl, measured⟩⟩ :=
      Variable.cases_of_complete buffer.bind depth outerComplete
    · cases plain.symm.trans found
    cases named.symm.trans named'
    cases found.symm.trans found'
    cases spaced.unique (Structure.stride_hasStride _ _ _ measured)
    have less := flatten_lt within
    have part := Variable.complete_member buffer.bind named found measured outerComplete _ less _ inside
    have among :=
      Variable.isInfix_findings_member buffer.bind named found measured outerComplete _ less _ inside
    rw [unflatten_flatten within] at part among
    exact ⟨below, part, among.trans outerInfix⟩

end ConstantBuffer.Reaches

namespace ElementType

/-- The type that a matrix is written with. -/
def Matrix.text (m : Matrix) : Text := m.base ++ Text.ofNat m.rows ++ "x" ++ Text.ofNat m.columns

theorem ofNat_of_extent? {c : Char} {n : Nat} (given : extent? c = some n) : Text.ofNat n = [c] := by
  unfold extent? at given
  split at given
  all_goals cases given
  all_goals rfl

/-- A matrix type is its parts again. -/
theorem text_of_matrix? {type : Text} {m : Matrix} (solid : type.IsSolid)
    (found : matrix? type = some m) : m.text = type := by
  have whole : Text.dropFinalNewline type = type := by
    apply Text.dropFinalNewline_of_notMem
    intro broken
    cases solid '\n' broken
  unfold matrix? at found
  rw [whole] at found
  split at found
  · rename_i columns rows base shape
    obtain ⟨height, high, found⟩ := Option.bind_eq_some_iff.mp found
    obtain ⟨width, wide, found⟩ := Option.bind_eq_some_iff.mp found
    split at found
    · cases found
    · cases found
      have turned := congrArg List.reverse shape
      rw [List.reverse_reverse] at turned
      rw [Matrix.text, ofNat_of_extent? high, ofNat_of_extent? wide, turned]
      simp
  · cases found

end ElementType

/-- The matrix whose rows are the registers of a matrix field. -/
def Variable.packed (v : Variable) (m : ElementType.Matrix) : ElementType.Matrix :=
  if v.layout = .rowMajor then m else ⟨m.base, m.columns, m.rows⟩

theorem Variable.one_lt_rows_packed (v : Variable) (rows : 1 < m.rows) (columns : 1 < m.columns) :
    1 < (v.packed m).rows := by
  unfold packed
  split
  · exact rows
  · exact columns

theorem Variable.registerLayout_matrix {v : Variable} (solid : v.type.IsSolid)
    (found : ElementType.matrix? v.type = some m) (rows : 1 < m.rows) (columns : 1 < m.columns) :
    v.registerLayout = ⟨(v.packed m).text, (v.packed m).rows, (v.packed m).columns⟩ := by
  have wide : (decide (1 < m.rows) && decide (1 < m.columns)) = true := by
    simp only [rows, columns, decide_true, Bool.and_self]
  have whole := ElementType.text_of_matrix? solid found
  unfold registerLayout packed
  simp only [found, wide, if_true]
  split
  · rw [whole]
  · rfl

theorem IndexesInto.concat {size index : Nat} (within : IndexesInto shape indices)
    (inside : index < size) :
    IndexesInto (shape ++ [size]) (indices ++ [index]) := by
  induction within with
  | nil => exact .cons inside .nil
  | cons first others ih => exact .cons first ih

theorem shapeCount_concat (shape : List Nat) (size : Nat) :
    shapeCount (shape ++ [size]) = shapeCount shape * size := by
  induction shape with
  | nil => simp [shapeCount]
  | cons first shape ih => rw [List.cons_append, shapeCount, ih, shapeCount, Nat.mul_assoc]

theorem flatten_concat (within : IndexesInto shape indices) (size index : Nat) :
    flatten (shape ++ [size]) (indices ++ [index]) = flatten shape indices * size + index := by
  induction within with
  | nil => simp [flatten, shapeCount]
  | cons first others ih =>
    rw [List.cons_append, List.cons_append, flatten, ih, shapeCount_concat, flatten, Nat.add_mul,
      Nat.mul_assoc, Nat.add_assoc]

/-- The registers of an array of matrices, one behind the other: each of them is a row, and the last
index behind the name is that of the row. -/
def AddressesRows (placements : List Placement) (bind firstSlot : Int) (name : Text)
    (dimensions : List Nat) (rows columns : Nat) : Prop :=
  ∃ run, run <:+: placements ∧ run.length = shapeCount dimensions * rows ∧
    ∀ indices row, IndexesInto dimensions indices → row < rows →
      ∃ entry,
        run[flatten dimensions indices * rows + row]? =
          some ⟨bind, firstSlot + (flatten dimensions indices * rows + row : Nat), entry⟩ ∧
        entry.expression = name ++ indexText (indices ++ [row]) ∧ entry.elementCount = columns

namespace LeafField

/-- The registers of a leaf with rows. -/
theorem addressesRows (bind : Int) (leaf : LeafField) (several : 1 < leaf.rows)
    (complete : (leaf.findings bind).fault = none) {placements : List Placement}
    (among : (leaf.findings bind).items.filterMap ConstantFinding.placement? <:+: placements) :
    AddressesRows placements bind leaf.firstSlot leaf.name leaf.dimensions leaf.rows
      leaf.columns := by
  have shape : leaf.shape = leaf.dimensions ++ [leaf.rows] := if_pos several
  have count : leaf.writableCount bind = shapeCount leaf.dimensions * leaf.rows := by
    rw [fault_findings_eq_none_iff, ← writableCount_eq_iff, shape, shapeCount_concat] at complete
    exact complete
  have run : (leaf.findings bind).items.filterMap ConstantFinding.placement? =
      (List.range (shapeCount leaf.dimensions * leaf.rows)).map (leaf.placementAt bind) := by
    have none : ((leaf.array? bind).toList.map ConstantFinding.array).filterMap
        ConstantFinding.placement? = [] := by
      cases leaf.array? bind <;> rfl
    rw [findings]
    dsimp only
    rw [List.filterMap_append, none, List.nil_append, List.filterMap_map, count,
      ← List.filterMap_eq_map]
    rfl
  rw [run] at among
  refine ⟨_, among, by simp, ?_⟩
  intro indices row within inside
  have nested := within.concat inside
  have less := flatten_lt nested
  have back := unflatten_flatten nested
  rw [flatten_concat within, shapeCount_concat] at less
  rw [flatten_concat within] at back
  refine ⟨leaf.entryAt (flatten leaf.dimensions indices * leaf.rows + row), ?_, ?_, rfl⟩
  · rw [List.getElem?_map, List.getElem?_range less]
    rfl
  · rw [ConstantEntry.expression, entryAt]
    dsimp only
    rw [shape, back]

end LeafField

/-- A line declares a name with a type, and blanks stand between them. -/
def Declares (indent line type name : Text) : Prop :=
  ∃ gap, 0 < gap ∧ line = indent ++ type ++ List.replicate gap ' ' ++ name ++ ";"

/-- A member that is declared with a matrix type of the header is not declared by its rows. -/
theorem not_declares_rowMajor {indent : Text} {v : Variable} (solid : v.type.IsSolid)
    (found : ElementType.matrix? v.type = some m) (type : Text) :
    ¬Declares indent (indent ++ (v.type ++ " " ++ v.name ++ ";")) ("row_major " ++ type) v.name := by
  rintro ⟨gap, _, same⟩
  have cut : v.type ++ ' ' :: (v.name ++ ";") =
      "row_major" ++ ' ' :: (type ++ List.replicate gap ' ' ++ v.name ++ ";") := by
    simpa using same
  have bare : ' ' ∉ v.type := by
    intro inside
    cases solid ' ' inside
  obtain ⟨first, _⟩ := Operand.cut_unique ' ' _ _ _ _ bare (by decide) cut
  rw [first] at found
  cases found

theorem declares_bufferField (indent : Text) (v : Variable) (solid : v.type.IsSolid)
    (found : ElementType.matrix? v.type = some m) (rows : 1 < m.rows) (columns : 1 < m.columns) :
    Declares indent (ShaderSource.bufferField indent v) ("row_major " ++ (v.packed m).text) v.name := by
  have several := v.one_lt_rows_packed rows columns
  have type : v.fieldType = "row_major " ++ (v.packed m).text := by
    rw [Variable.fieldType, Variable.registerLayout_matrix solid found rows columns]
    exact if_pos several
  refine ⟨max (ShaderSource.nameColumn - indent.length - v.fieldType.length) 1, by omega, ?_⟩
  rw [← type]
  rfl

namespace ConstantBuffer.Reaches

variable {structures : List Structure} {buffer : ConstantBuffer} {home : Home} {v : Variable}
  {place : Int} {path : Text}

theorem home_cases (reached : buffer.Reaches structures home v place path) :
    home = .ofBuffer buffer ∨ ∃ s ∈ structures, home = .ofStructure s := by
  cases reached with
  | own => exact .inl rfl
  | member _ _ found _ _ _ => exact .inr ⟨_, List.mem_of_find?_eq_some found, rfl⟩

theorem isScanned (reached : buffer.Reaches structures home v place path)
    (ofBuffer : buffer.IsScanned) (ofStructures : ∀ s ∈ structures, s.IsScanned) : v.IsScanned := by
  have inside := reached.mem_members
  rcases reached.home_cases with rfl | ⟨s, declared, rfl⟩
  · exact ofBuffer.members v inside
  · exact (ofStructures s declared).members v inside

/-- A matrix that is reached from a buffer is addressed by its rows. -/
theorem addressesRows (reached : buffer.Reaches structures home v place path)
    (solid : v.type.IsSolid) (complete : (buffer.findings structures).fault = none)
    {m : ElementType.Matrix} (found : ElementType.matrix? v.type = some m) (rows : 1 < m.rows)
    (columns : 1 < m.columns) (plain : Declarations.findStructure? structures v.type = none)
    {placements : List Placement}
    (among : (buffer.findings structures).items.filterMap ConstantFinding.placement? <:+:
      placements) :
    ∃ base dimensions, splitArrayName v.name = .ok (base, dimensions) ∧
      AddressesRows placements buffer.bind (place / slotSize) (path ++ base) dimensions
        (v.packed m).rows (v.packed m).columns := by
  obtain ⟨depth, part, inside⟩ := reached.findings_isInfix complete
  obtain ⟨base, dimensions, named, _⟩ := Variable.cases_of_complete buffer.bind depth part
  have layout := Variable.registerLayout_matrix solid found rows columns
  have several := v.one_lt_rows_packed rows columns
  rw [Variable.findings_leaf buffer.bind depth named plain, Variable.leafAt, layout] at part inside
  refine ⟨base, dimensions, named, ?_⟩
  have run := LeafField.addressesRows buffer.bind _ several part
    ((inside.filterMap ConstantFinding.placement?).trans among)
  rwa [LeafField.firstSlot, Int.fdiv_eq_ediv_of_nonneg _ (by decide)] at run

end ConstantBuffer.Reaches

theorem Declarations.IsScanned.bound {d : Declarations} (scanned : d.IsScanned)
    {buffer : ConstantBuffer} (inside : buffer ∈ d.boundBuffers) : buffer.measured.IsScanned := by
  obtain ⟨entry, among, rfl⟩ := List.mem_map.mp inside
  have written := scanned.buffers entry.1 (List.fst_mem_of_mem_zipIdx among)
  exact ⟨written.name, written.members⟩

namespace ShaderSource

/-- The registers of a matrix field are reached by its rows, wherever the field is declared. It is
declared by its rows, with as many of them as it has registers and as many columns as it uses of
each, exactly where it is a variable of a buffer. -/
theorem matrix_declared_by_rows_iff {listing : Text} {symbols : Symbols}
    (read : (readSymbols listing).result = .ok symbols) (context : Context) (config : Config)
    {buffer : ConstantBuffer} (declared : buffer ∈ symbols.declared.buffers) {home : Home}
    {v : Variable} {place : Int} {path : Text}
    (reached : buffer.Reaches symbols.declared.structures home v place path)
    {m : ElementType.Matrix} (found : ElementType.matrix? v.type = some m) (rows : 1 < m.rows)
    (columns : 1 < m.columns)
    (plain : Declarations.findStructure? symbols.declared.structures v.type = none) :
    ∃ base dimensions lines, splitArrayName v.name = .ok (base, dimensions) ∧
      AddressesRows symbols.registers.constants.placements buffer.bind (place / slotSize)
        (path ++ base) dimensions (v.packed m).rows (v.packed m).columns ∧
      HasBlock (render ⟨symbols, context, config⟩) home.opening lines ∧
      lines.length = home.members.length ∧
      ∀ k : Nat, home.members[k]? = some v → ∃ line, lines[k]? = some line ∧
        (Declares config.indent line ("row_major " ++ (v.packed m).text) v.name ↔
          home.isBuffer = true) := by
  obtain ⟨d, scanned, returns, rfl⟩ := exists_scanned_of_readSymbols read
  have words := isScanned_of_scanHeader scanned
  have ofBuffers := declared
  rw [Declarations.declaredBuffers_resolve returns] at ofBuffers
  obtain ⟨bound, inside, rfl⟩ := List.mem_map.mp ofBuffers
  have complete := Declarations.complete_findings returns bound inside
  have solid := (reached.isScanned (words.bound inside) words.structures).type
  have among : (bound.findings d.structures).items.filterMap ConstantFinding.placement? <:+:
      d.resolve.registers.constants.placements := by
    rw [Declarations.constants_resolve returns]
    exact (isInfix_flatMap (fun buffer => (buffer.findings d.structures).items) inside).filterMap _
  obtain ⟨base, dimensions, named, addressed⟩ :=
    reached.addressesRows solid complete found rows columns plain among
  refine ⟨base, dimensions, ?_⟩
  rcases reached.home_cases with rfl | ⟨s, defined, rfl⟩
  · refine ⟨_, named, addressed, hasBlock_buffer _ declared, List.length_map .., ?_⟩
    intro k placed
    refine ⟨bufferField config.indent v, ?_, fun _ => rfl, fun _ => ?_⟩
    · rw [List.getElem?_map]
      exact congrArg (Option.map _) placed
    · exact declares_bufferField config.indent v solid found rows columns
  · refine ⟨_, named, addressed, hasBlock_structure _ defined, List.length_map .., ?_⟩
    intro k placed
    refine ⟨config.indent ++ (v.type ++ " " ++ v.name ++ ";"), ?_, fun declares => ?_, nofun⟩
    · rw [List.getElem?_map]
      exact congrArg (Option.map _) placed
    · exact absurd declares (not_declares_rowMajor solid found _)

/-- A buffer with a matrix of its own and one inside a structure. -/
def sceneListing : Text := Text.join ['\n']
  ["// Buffer Definitions:", "// cbuffer Scene", "// \x7b", "//   struct Light", "//   \x7b",
    "//     float4x4 view;    // Offset: 0", "//   \x7d light;         // Offset: 0 Size: 64",
    "//   float3x4 world;   // Offset: 64 Size: 64", "// \x7d", "// Resource Bindings:",
    "// Scene cbuffer NA NA 0 1", "ps_5_0", "mov r0.xyzw, cb0[1].xyzw",
    "mov r1.xyz, cb0[5].xyzx", "ret", ""]

def lightStructure : Structure := ⟨"Light", [⟨"float4x4", "view", 0, 0, .default⟩]⟩

def sceneBuffer : ConstantBuffer :=
  { name := "Scene"
    members := [⟨"Light", "light", 0, 64, .default⟩, ⟨"float3x4", "world", 64, 64, .default⟩] }

def sceneDeclarations : Declarations :=
  { resources := [⟨"Scene", .constantBuffer, "NA", "NA", 0, "0", 1⟩]
    buffers := [sceneBuffer]
    structures := [lightStructure] }

theorem scanHeader_sceneListing :
    (scanHeader sceneListing).result = .ok sceneDeclarations := by
  apply eq_ok_of_toOption
  decide +kernel

def sceneSymbols : Symbols :=
  ⟨sceneDeclarations.resolve.declared, sceneDeclarations.resolve.registers⟩

theorem readSymbols_sceneListing : (readSymbols sceneListing).result = .ok sceneSymbols :=
  readSymbols_of_scanHeader scanHeader_sceneListing (by decide +kernel)

/-- The buffer as it is resolved. -/
def boundScene : ConstantBuffer := { sceneBuffer with bind := 0, size := 128 }

theorem buffers_sceneSymbols : sceneSymbols.declared.buffers = [boundScene] := by decide +kernel

theorem reaches_world : boundScene.Reaches sceneSymbols.declared.structures (.ofBuffer boundScene)
    ⟨"float3x4", "world", 64, 64, .default⟩ 64 [] :=
  .own (by decide)

theorem reaches_view : boundScene.Reaches sceneSymbols.declared.structures
    (.ofStructure lightStructure) ⟨"float4x4", "view", 0, 0, .default⟩ 0 "light." := by
  have outer : boundScene.Reaches sceneSymbols.declared.structures (.ofBuffer boundScene)
      ⟨"Light", "light", 0, 64, .default⟩ 0 [] := .own (by decide)
  have measured : lightStructure.stride sceneSymbols.declared.structures 6 = .ok 64 := rfl
  exact .member outer rfl rfl (Structure.stride_hasStride _ _ _ measured) .nil (by decide)

/-- A matrix inside a structure is read by its rows, and its structure declares it with the type of
the header. -/
theorem matrix_in_structure_unpacked :
    ∃ symbols, (readSymbols sceneListing).result = .ok symbols ∧
      (∃ p ∈ symbols.registers.constants.placements,
        p.slot = 1 ∧ p.entry.expression = "light.view[1]") ∧
      ∀ context config, HasBlock (render ⟨symbols, context, config⟩) "struct Light"
        [config.indent ++ "float4x4 view;"] := by
  refine ⟨sceneSymbols, readSymbols_sceneListing, by decide +kernel, ?_⟩
  intro context config
  have defined : lightStructure ∈ sceneSymbols.declared.structures := by decide
  exact hasBlock_structure ⟨sceneSymbols, context, config⟩ defined

/-- Both matrices are read by their rows. The one in the buffer is declared by them, four rows of
three columns, and the one in the structure is not. -/
theorem matrix_declared_by_rows_scene :
    (∃ lines, AddressesRows sceneSymbols.registers.constants.placements 0 4 "world" [] 4 3 ∧
      HasBlock (render ⟨sceneSymbols, {}, {}⟩) "cbuffer Scene : register(b0)" lines ∧
      ∃ line, lines[1]? = some line ∧ Declares "    " line "row_major float4x3" "world") ∧
    ∃ lines, AddressesRows sceneSymbols.registers.constants.placements 0 0 "light.view" [] 4 4 ∧
      HasBlock (render ⟨sceneSymbols, {}, {}⟩) "struct Light" lines ∧
      ∃ line, lines[0]? = some line ∧ ¬Declares "    " line "row_major float4x4" "view" := by
  have declared : boundScene ∈ sceneSymbols.declared.buffers := by
    rw [buffers_sceneSymbols]
    exact List.mem_singleton.mpr rfl
  constructor
  · obtain ⟨base, dimensions, lines, named, addressed, block, _, each⟩ :=
      matrix_declared_by_rows_iff readSymbols_sceneListing {} {} declared reaches_world
        (m := ⟨"float", 3, 4⟩) (by decide) (by decide) (by decide) (by decide)
    have plain : splitArrayName "world" = .ok ("world", []) := rfl
    cases plain.symm.trans named
    obtain ⟨line, placed, declares⟩ := each 1 rfl
    exact ⟨lines, addressed, block, line, placed, declares.mpr rfl⟩
  · obtain ⟨base, dimensions, lines, named, addressed, block, _, each⟩ :=
      matrix_declared_by_rows_iff readSymbols_sceneListing {} {} declared reaches_view
        (m := ⟨"float", 4, 4⟩) (by decide) (by decide) (by decide) (by decide)
    have plain : splitArrayName "view" = .ok ("view", []) := rfl
    cases plain.symm.trans named
    obtain ⟨line, placed, declares⟩ := each 0 rfl
    refine ⟨lines, addressed, block, line, placed, ?_⟩
    intro packed
    cases declares.mp packed

end ShaderSource
end ShaderLift
