import ShaderLift.Proofs.Constant.Layout

namespace ShaderLift

/-- A register of a leaf: the path to the leaf and the indices behind it, the type of the leaf, the
byte address in the buffer, and the number of components in use. -/
structure Element where
  name : Text
  indices : List Nat
  type : Text
  address : Int
  columns : Nat
  deriving DecidableEq

namespace Element

/-- How an element is accessed. -/
def path (e : Element) : Text := e.name ++ indexText e.indices

/-- The register of the buffer that an element lies in. -/
def slot (e : Element) : Int := e.address / slotSize

/-- The first component of the register that an element uses. -/
def component (e : Element) : Nat := (e.address % slotSize).toNat / 4

/-- The components of the register that an element uses. -/
def occupied (e : Element) : List Component := (Component.all.drop e.component).take e.columns

/-- An array or matrix starts with the first component of a register. -/
def IsAligned (e : Element) : Prop := e.indices ≠ [] → e.component = 0

/-- The entry for an element. -/
def entry (e : Element) : ConstantEntry :=
  { name := e.name, element := indexText e.indices,
    swizzle := if e.component = 0 then [] else '.' :: Component.letters e.occupied,
    type := e.type, elementCount := e.columns, componentOffset := e.component }

def placement (bind : Int) (e : Element) : Placement := ⟨bind, e.slot, e.entry⟩

/-- The numbers in the register of an element have few enough digits to be written. -/
def IsWritable (bind : Int) (e : Element) : Prop :=
  Text.isWritable bind = true ∧ Text.isWritable e.slot = true

theorem expression_entry (e : Element) : e.entry.expression = e.path := rfl

end Element

/-- The shape of a variable in registers: its dimensions, and the rows of a matrix. -/
def Variable.registerShape (v : Variable) (dimensions : List Nat) : List Nat :=
  if 1 < v.registerLayout.rows then dimensions ++ [v.registerLayout.rows] else dimensions

/-- The elements of a variable at a place in a buffer, below a path. The registers of a leaf follow
one another, and so do the elements of a structure by its stride. -/
inductive Variable.HasElement (structures : List Structure) :
    Int → Text → Variable → Element → Prop
  | leaf {place : Int} {path base : Text} {v : Variable} {dimensions indices : List Nat}
      (named : splitArrayName v.name = .ok (base, dimensions))
      (plain : Declarations.findStructure? structures v.type = none)
      (within : IndexesInto (v.registerShape dimensions) indices) :
      HasElement structures place path v
        { name := path ++ base, indices, type := v.type,
          address := place + slotSize * flatten (v.registerShape dimensions) indices,
          columns := v.registerLayout.columns }
  | member {place stride : Int} {path base : Text} {v m : Variable} {s : Structure}
      {dimensions indices : List Nat} {e : Element}
      (named : splitArrayName v.name = .ok (base, dimensions))
      (found : Declarations.findStructure? structures v.type = some s)
      (spaced : s.HasStride structures stride) (within : IndexesInto dimensions indices)
      (inside : m ∈ s.members)
      (below : HasElement structures (place + flatten dimensions indices * stride + m.offset)
        (path ++ base ++ indexText indices ++ ".") m e) :
      HasElement structures place path v e

theorem unflatten_ne_nil (position : Nat) (shape : List Nat) (inside : position < shapeCount shape)
    (later : position ≠ 0) : unflatten position shape ≠ [] := by
  cases shape with
  | nil => exact absurd (Nat.lt_one_iff.mp inside) later
  | cons size shape => exact List.cons_ne_nil _ _

namespace LeafField

/-- The element at a position of a leaf. -/
def elementAt (leaf : LeafField) (position : Nat) : Element :=
  { name := leaf.name, indices := unflatten position leaf.shape, type := leaf.type,
    address := leaf.offset + slotSize * position, columns := leaf.columns }

theorem slot_elementAt (leaf : LeafField) (position : Nat) :
    (leaf.elementAt position).slot = leaf.firstSlot + position := by
  rw [firstSlot, Int.fdiv_eq_ediv_of_nonneg _ (by decide)]
  simp only [Element.slot, elementAt, slotSize]
  omega

theorem component_elementAt (leaf : LeafField) (position : Nat) :
    (leaf.elementAt position).component = leaf.component := by
  rw [component, Int.fmod_eq_emod_of_nonneg _ (by decide)]
  simp only [Element.component, elementAt, slotSize]
  omega

/-- A register is entered at its first component unless it is the first of its leaf. -/
theorem placement_elementAt (bind : Int) (leaf : LeafField) (position : Nat)
    (aligned : position ≠ 0 → leaf.component = 0) :
    (leaf.elementAt position).placement bind = leaf.placementAt bind position := by
  have start : (if position = 0 then leaf.component else 0) = leaf.component := by
    split
    · rfl
    · rename_i later
      exact (aligned later).symm
  rw [Element.placement, placementAt, slot_elementAt, entryAt, Element.entry, Element.occupied,
    component_elementAt, start]
  rfl

theorem writableCount_eq_iff (bind : Int) (leaf : LeafField) :
    leaf.writableCount bind = shapeCount leaf.shape ↔
      ∀ position < shapeCount leaf.shape, (leaf.elementAt position).IsWritable bind := by
  simp only [writableCount, Text.writableRun, Element.IsWritable, slot_elementAt]
  generalize shapeCount leaf.shape = count
  generalize leaf.firstSlot = first
  simp only [Text.isWritable, decide_eq_true_eq]
  generalize Text.writableBound = bound
  constructor
  · intro complete position inside
    split at complete
    · split at complete <;> omega
    · omega
  · intro each
    rcases Nat.eq_zero_or_pos count with rfl | positive
    · split <;> simp
    · have start := each 0 positive
      have last := each (count - 1) (by omega)
      rw [if_pos start.1, if_pos (by omega)]
      omega

theorem fault_findings_eq_none_iff (bind : Int) (leaf : LeafField) :
    (leaf.findings bind).fault = none ↔
      ∀ position < shapeCount leaf.shape, (leaf.elementAt position).IsWritable bind := by
  have most : leaf.writableCount bind ≤ shapeCount leaf.shape := by
    unfold writableCount Text.writableRun
    split
    · split <;> omega
    · omega
  rw [← writableCount_eq_iff, findings]
  dsimp only
  split
  · simp
    omega
  · simp
    omega

theorem placement_mem_findings (bind : Int) (leaf : LeafField)
    (complete : (leaf.findings bind).fault = none) (p : Placement) :
    .placement p ∈ (leaf.findings bind).items ↔
      ∃ position < shapeCount leaf.shape, leaf.placementAt bind position = p := by
  rw [fault_findings_eq_none_iff, ← writableCount_eq_iff] at complete
  simp [findings, complete]

end LeafField

namespace Variable

variable {s : Structure} {stride : Int} {below : Nat}

variable {structures : List Structure} {place : Int} {path base : Text} {v : Variable}
  {dimensions : List Nat}

/-- The leaf that a variable of no structure is. -/
def leafAt (v : Variable) (place : Int) (path base : Text) (dimensions : List Nat) : LeafField :=
  ⟨path ++ base, v.type, place, dimensions, v.registerLayout.rows, v.registerLayout.columns⟩

theorem shape_leafAt (v : Variable) (place : Int) (path base : Text) (dimensions : List Nat) :
    (v.leafAt place path base dimensions).shape = v.registerShape dimensions := rfl

theorem hasElement_leaf_iff (place : Int) (path : Text)
    (named : splitArrayName v.name = .ok (base, dimensions))
    (plain : Declarations.findStructure? structures v.type = none) (e : Element) :
    v.HasElement structures place path e ↔
      ∃ position < shapeCount (v.registerShape dimensions),
        (v.leafAt place path base dimensions).elementAt position = e := by
  constructor
  · intro has
    cases has with
    | leaf named' plain' within =>
      cases named.symm.trans named'
      refine ⟨flatten _ _, flatten_lt within, ?_⟩
      rw [LeafField.elementAt, shape_leafAt, unflatten_flatten within]
      rfl
    | member _ found => cases plain.symm.trans found
  · rintro ⟨position, inside, rfl⟩
    have within := unflatten_indexesInto position _ (Nat.zero_lt_of_lt inside)
    have same : (v.leafAt place path base dimensions).elementAt position =
        { name := path ++ base, indices := unflatten position (v.registerShape dimensions),
          type := v.type, columns := v.registerLayout.columns,
          address := place + slotSize * flatten (v.registerShape dimensions)
            (unflatten position (v.registerShape dimensions)) } := by
      rw [flatten_unflatten position _ inside]
      rfl
    rw [same]
    exact .leaf named plain within

theorem hasElement_structure_iff (place : Int) (path : Text)
    (named : splitArrayName v.name = .ok (base, dimensions))
    (found : Declarations.findStructure? structures v.type = some s)
    (spaced : s.HasStride structures stride) (e : Element) :
    v.HasElement structures place path e ↔
      ∃ position < shapeCount dimensions, ∃ m ∈ s.members,
        m.HasElement structures (place + position * stride + m.offset)
          (path ++ base ++ indexText (unflatten position dimensions) ++ ".") e := by
  constructor
  · intro has
    cases has with
    | leaf _ plain => cases plain.symm.trans found
    | member named' found' spaced' within inside below =>
      cases named.symm.trans named'
      cases found.symm.trans found'
      cases spaced.unique spaced'
      refine ⟨_, flatten_lt within, _, inside, ?_⟩
      rw [unflatten_flatten within]
      exact below
  · rintro ⟨position, inside, m, member, below⟩
    have within := unflatten_indexesInto position _ (Nat.zero_lt_of_lt inside)
    refine .member named found spaced within member ?_
    rw [flatten_unflatten position _ inside]
    exact below

theorem findings_leaf (bind : Int) (depth : Nat)
    (named : splitArrayName v.name = .ok (base, dimensions))
    (plain : Declarations.findStructure? structures v.type = none) :
    v.findings structures bind depth place path =
      (v.leafAt place path base dimensions).findings bind := by
  unfold findings
  simp only [named, plain]
  rfl

/-- What the elements of a structure bring up, member by member. -/
theorem findings_structure (bind : Int) (below : Nat)
    (named : splitArrayName v.name = .ok (base, dimensions))
    (found : Declarations.findStructure? structures v.type = some s)
    (measured : s.stride structures (below + 1) = .ok stride) :
    v.findings structures bind (below + 1) place path =
      CutList.collect (fun (position : Nat) =>
        CutList.collect (fun m =>
          m.findings structures bind below (place + position * stride + m.offset)
            (path ++ base ++ indexText (unflatten position dimensions) ++ ".")) s.members)
        (List.range' 0 (shapeCount dimensions)) := by
  rw [← CutList.collectFrom_eq_collect, findings]
  simp only [named, found, measured]

/-- A variable that is taken apart without a fault is a leaf, or its structure can be measured. -/
theorem cases_of_complete (bind : Int) (depth : Nat)
    (complete : (v.findings structures bind depth place path).fault = none) :
    ∃ base dimensions, splitArrayName v.name = .ok (base, dimensions) ∧
      (Declarations.findStructure? structures v.type = none ∨
        ∃ s below stride, Declarations.findStructure? structures v.type = some s ∧
          depth = below + 1 ∧ s.stride structures (below + 1) = .ok stride) := by
  unfold findings at complete
  split at complete
  · cases complete
  · rename_i base dimensions named
    refine ⟨base, dimensions, named, ?_⟩
    dsimp only at complete
    split at complete
    · rename_i plain
      exact .inl plain
    · rename_i s found
      split at complete
      · cases complete
      · rename_i below
        split at complete
        · cases complete
        · rename_i stride measured
          exact .inr ⟨s, below, stride, found, rfl, measured⟩

variable (bind : Int) (named : splitArrayName v.name = .ok (base, dimensions))
  (found : Declarations.findStructure? structures v.type = some s)
  (measured : s.stride structures (below + 1) = .ok stride)
  (complete : (v.findings structures bind (below + 1) place path).fault = none)

include named found measured complete

/-- Without a fault in a variable there is none in the members of its elements. -/
theorem complete_member (position : Nat)
    (inside : position < shapeCount dimensions) (m : Variable) (member : m ∈ s.members) :
    (m.findings structures bind below (place + position * stride + m.offset)
      (path ++ base ++ indexText (unflatten position dimensions) ++ ".")).fault = none := by
  rw [findings_structure bind below named found measured] at complete
  have element := (CutList.fault_collect_eq_none_iff _ _).mp complete position
    (by simpa using inside)
  exact (CutList.fault_collect_eq_none_iff _ _).mp element m member

theorem mem_findings_structure (finding : ConstantFinding) :
    finding ∈ (v.findings structures bind (below + 1) place path).items ↔
      ∃ position < shapeCount dimensions, ∃ m ∈ s.members,
        finding ∈ (m.findings structures bind below (place + position * stride + m.offset)
          (path ++ base ++ indexText (unflatten position dimensions) ++ ".")).items := by
  have parts := complete_member bind named found measured complete
  rw [findings_structure bind below named found measured, CutList.items_collect_of_complete]
  · simp only [List.mem_flatMap, List.mem_range'_1, Nat.zero_le, Nat.zero_add, true_and]
    constructor
    · rintro ⟨position, inside, among⟩
      rw [CutList.items_collect_of_complete _ _ (parts position inside), List.mem_flatMap] at among
      exact ⟨position, inside, among⟩
    · rintro ⟨position, inside, among⟩
      refine ⟨position, inside, ?_⟩
      rw [CutList.items_collect_of_complete _ _ (parts position inside), List.mem_flatMap]
      exact among
  · intro position inside
    rw [CutList.fault_collect_eq_none_iff]
    exact parts position (by simpa using inside)

end Variable
end ShaderLift
