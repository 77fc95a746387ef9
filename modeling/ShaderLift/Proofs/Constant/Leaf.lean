import ShaderLift.Proofs.Constant.Resolve

namespace ShaderLift

/-- The leaves of a variable at a place in a buffer, below a path: the variable itself, or the leaves
of the members of its structure, for each of its elements. -/
inductive Variable.HasLeaf (structures : List Structure) : Int → Text → Variable → LeafField → Prop
  | own {place : Int} {path base : Text} {v : Variable} {dimensions : List Nat}
      (named : splitArrayName v.name = .ok (base, dimensions))
      (plain : Declarations.findStructure? structures v.type = none) :
      HasLeaf structures place path v (v.leafAt place path base dimensions)
  | member {place stride : Int} {path base : Text} {v m : Variable} {s : Structure}
      {dimensions : List Nat} {position : Nat} {leaf : LeafField}
      (named : splitArrayName v.name = .ok (base, dimensions))
      (found : Declarations.findStructure? structures v.type = some s)
      (spaced : s.HasStride structures stride) (within : position < shapeCount dimensions)
      (inside : m ∈ s.members)
      (below : HasLeaf structures (place + position * stride + m.offset)
        (path ++ base ++ indexText (unflatten position dimensions) ++ ".") m leaf) :
      HasLeaf structures place path v leaf

/-- The leaves of a buffer. -/
def ConstantBuffer.HasLeaf (structures : List Structure) (buffer : ConstantBuffer)
    (leaf : LeafField) : Prop :=
  ∃ v ∈ buffer.members, v.HasLeaf structures v.offset [] leaf

/-- The leaves of the buffers at a register. -/
def Declarations.HasLeaf (d : Declarations) (bind : Int) (leaf : LeafField) : Prop :=
  ∃ buffer ∈ d.boundBuffers, buffer.bind = bind ∧ buffer.HasLeaf d.structures leaf

namespace Variable

variable {place : Int} {path : Text} {v : Variable} {leaf : LeafField}

variable {structures : List Structure}

/-- What a variable brings up is what its leaves bring up. -/
theorem mem_findings_iff (bind : Int) (depth : Nat) (place : Int) (path : Text) (v : Variable)
    (complete : (v.findings structures bind depth place path).fault = none)
    (finding : ConstantFinding) :
    finding ∈ (v.findings structures bind depth place path).items ↔
      ∃ leaf, v.HasLeaf structures place path leaf ∧ finding ∈ (leaf.findings bind).items := by
  induction depth using Nat.strongRecOn generalizing place path v with
  | ind depth ih =>
    obtain ⟨base, dimensions, named, plain | ⟨s, below, stride, found, rfl, measured⟩⟩ :=
      cases_of_complete bind depth complete
    · rw [findings_leaf bind depth named plain]
      constructor
      · intro among
        exact ⟨_, .own named plain, among⟩
      · rintro ⟨leaf, has, among⟩
        cases has with
        | own named' _ =>
          cases named.symm.trans named'
          exact among
        | member _ found => cases plain.symm.trans found
    · have parts := complete_member bind named found measured complete
      rw [mem_findings_structure bind named found measured complete]
      constructor
      · rintro ⟨position, inside, m, member, among⟩
        have later := ih below (Nat.lt_succ_self below) _ _ m (parts position inside m member)
        obtain ⟨leaf, has, among⟩ := later.mp among
        exact ⟨leaf, .member named found (s.stride_hasStride _ _ measured) inside member has, among⟩
      · rintro ⟨leaf, has, among⟩
        cases has with
        | own _ plain => cases plain.symm.trans found
        | @member _ _ _ _ _ m _ _ position _ named' found' spaced inside member has =>
          cases named.symm.trans named'
          cases found.symm.trans found'
          cases spaced.unique (s.stride_hasStride _ _ measured)
          have later := ih below (Nat.lt_succ_self below) _ _ m (parts position inside m member)
          exact ⟨position, inside, m, member, later.mpr ⟨leaf, has, among⟩⟩

/-- A variable that is taken apart without a fault has no leaf with one. -/
theorem HasLeaf.complete (has : v.HasLeaf structures place path leaf) (bind : Int) (depth : Nat)
    (complete : (v.findings structures bind depth place path).fault = none) :
    (leaf.findings bind).fault = none := by
  induction has generalizing depth with
  | own named plain => rwa [findings_leaf bind depth named plain] at complete
  | member named found spaced within inside _ ih =>
    obtain ⟨base, dimensions, named', plain | ⟨s, below, stride, found', rfl, measured⟩⟩ :=
      cases_of_complete bind depth complete
    · cases plain.symm.trans found
    · cases named.symm.trans named'
      cases found.symm.trans found'
      cases spaced.unique (Structure.stride_hasStride _ _ _ measured)
      exact ih below (complete_member bind named found measured complete _ within _ inside)

/-- The elements of a variable are the registers of its leaves. -/
theorem hasElement_iff_leaf (e : Element) :
    v.HasElement structures place path e ↔ ∃ leaf, v.HasLeaf structures place path leaf ∧
      ∃ position < shapeCount leaf.shape, leaf.elementAt position = e := by
  constructor
  · intro has
    induction has with
    | leaf named plain within =>
      exact ⟨_, .own named plain,
        (hasElement_leaf_iff _ _ named plain _).mp (.leaf named plain within)⟩
    | member named found spaced within inside _ ih =>
      obtain ⟨leaf, has, entered⟩ := ih
      refine ⟨leaf, .member named found spaced (flatten_lt within) inside ?_, entered⟩
      rwa [unflatten_flatten within]
  · rintro ⟨leaf, has, position, within, rfl⟩
    induction has with
    | own named plain =>
      exact (hasElement_leaf_iff _ _ named plain _).mpr ⟨position, within, rfl⟩
    | member named found spaced before inside _ ih =>
      exact (hasElement_structure_iff _ _ named found spaced _).mpr ⟨_, before, _, inside, ih within⟩

theorem isWritable_of_complete (bind : Int) (depth : Nat) (place : Int) (path : Text) (v : Variable)
    (complete : (v.findings structures bind depth place path).fault = none) (e : Element)
    (has : v.HasElement structures place path e) : e.IsWritable bind := by
  obtain ⟨leaf, own, position, inside, rfl⟩ := (hasElement_iff_leaf e).mp has
  exact (leaf.fault_findings_eq_none_iff bind).mp (own.complete bind depth complete) position inside

/-- A leaf lies in registers as the variable does that it is. -/
theorem HasLeaf.exists_layout (has : v.HasLeaf structures place path leaf) :
    ∃ w : Variable, leaf.rows = w.registerLayout.rows ∧ leaf.columns = w.registerLayout.columns := by
  induction has with
  | @own _ _ _ v => exact ⟨v, rfl, rfl⟩
  | member _ _ _ _ _ _ ih => exact ih

end Variable

theorem LeafField.array_mem_findings (bind : Int) (leaf : LeafField) (array : ConstantArray) :
    .array array ∈ (leaf.findings bind).items ↔ leaf.array? bind = some array := by
  simp [findings]

namespace Declarations

variable {d : Declarations}

/-- What the buffers of a listing bring up is what their leaves bring up. -/
theorem mem_found_iff (returns : d.resolve.fault = none) (finding : ConstantFinding) :
    (∃ buffer ∈ d.boundBuffers, finding ∈ (buffer.findings d.structures).items) ↔
      ∃ bind leaf, d.HasLeaf bind leaf ∧ finding ∈ (leaf.findings bind).items := by
  have complete := complete_of_resolve returns
  have found (buffer : ConstantBuffer) (inside : buffer ∈ d.boundBuffers) (v : Variable)
      (member : v ∈ buffer.members) :=
    v.mem_findings_iff buffer.bind callRoom v.offset [] (complete buffer inside v member) finding
  constructor
  · rintro ⟨buffer, inside, among⟩
    obtain ⟨v, member, among⟩ := (mem_findings_resolve returns inside _).mp among
    obtain ⟨leaf, has, among⟩ := (found buffer inside v member).mp among
    exact ⟨buffer.bind, leaf, ⟨buffer, inside, rfl, v, member, has⟩, among⟩
  · rintro ⟨_, leaf, ⟨buffer, inside, rfl, v, member, has⟩, among⟩
    refine ⟨buffer, inside, (mem_findings_resolve returns inside _).mpr ⟨v, member, ?_⟩⟩
    exact (found buffer inside v member).mpr ⟨leaf, has, among⟩

theorem HasLeaf.complete {bind : Int} {leaf : LeafField} (has : d.HasLeaf bind leaf)
    (returns : d.resolve.fault = none) : (leaf.findings bind).fault = none := by
  obtain ⟨buffer, inside, rfl, v, member, has⟩ := has
  exact has.complete buffer.bind callRoom (complete_of_resolve returns buffer inside v member)

/-- The constants of a listing are the registers of its leaves. -/
theorem mem_placements_iff_leaf (returns : d.resolve.fault = none) (p : Placement) :
    p ∈ d.resolve.registers.constants.placements ↔
      ∃ bind leaf, d.HasLeaf bind leaf ∧
        ∃ position < shapeCount leaf.shape, leaf.placementAt bind position = p := by
  rw [mem_placements_resolve returns, mem_found_iff returns]
  constructor
  · rintro ⟨bind, leaf, has, among⟩
    exact ⟨bind, leaf, has, (leaf.placement_mem_findings bind (has.complete returns) p).mp among⟩
  · rintro ⟨bind, leaf, has, among⟩
    exact ⟨bind, leaf, has, (leaf.placement_mem_findings bind (has.complete returns) p).mpr among⟩

theorem hasElement_iff_leaf (bind : Int) (e : Element) :
    d.HasElement bind e ↔ ∃ leaf, d.HasLeaf bind leaf ∧
      ∃ position < shapeCount leaf.shape, leaf.elementAt position = e := by
  constructor
  · rintro ⟨buffer, inside, same, v, member, has⟩
    obtain ⟨leaf, has, entered⟩ := (Variable.hasElement_iff_leaf e).mp has
    exact ⟨leaf, ⟨buffer, inside, same, v, member, has⟩, entered⟩
  · rintro ⟨leaf, ⟨buffer, inside, same, v, member, has⟩, entered⟩
    exact ⟨buffer, inside, same, v, member, (Variable.hasElement_iff_leaf e).mpr ⟨leaf, has, entered⟩⟩

/-- The constants of a listing are the elements of its buffers. -/
theorem mem_placements_iff (returns : d.resolve.fault = none)
    (aligned : ∀ bind e, d.HasElement bind e → e.IsAligned) (p : Placement) :
    p ∈ d.resolve.registers.constants.placements ↔
      ∃ bind e, d.HasElement bind e ∧ e.placement bind = p := by
  have placed {bind : Int} {leaf : LeafField} (has : d.HasLeaf bind leaf) {position : Nat}
      (inside : position < shapeCount leaf.shape) :
      (leaf.elementAt position).placement bind = leaf.placementAt bind position := by
    apply LeafField.placement_elementAt
    intro later
    rw [← leaf.component_elementAt position]
    apply aligned bind _ ((hasElement_iff_leaf bind _).mpr ⟨leaf, has, position, inside, rfl⟩)
    exact unflatten_ne_nil position _ inside later
  rw [mem_placements_iff_leaf returns]
  constructor
  · rintro ⟨bind, leaf, has, position, inside, rfl⟩
    exact ⟨bind, _, (hasElement_iff_leaf bind _).mpr ⟨leaf, has, position, inside, rfl⟩,
      placed has inside⟩
  · rintro ⟨bind, e, has, rfl⟩
    obtain ⟨leaf, own, position, inside, rfl⟩ := (hasElement_iff_leaf bind e).mp has
    exact ⟨bind, leaf, own, position, inside, (placed own inside).symm⟩

theorem isWritable_of_resolve (returns : d.resolve.fault = none) (bind : Int) (e : Element)
    (has : d.HasElement bind e) : e.IsWritable bind := by
  obtain ⟨leaf, own, position, inside, rfl⟩ := (hasElement_iff_leaf bind e).mp has
  exact (leaf.fault_findings_eq_none_iff bind).mp (own.complete returns) position inside

/-- The arrays of a listing are those of its leaves that have one dimension. -/
theorem mem_arrays_iff_leaf (returns : d.resolve.fault = none) (array : ConstantArray) :
    array ∈ d.resolve.registers.constants.arrays ↔
      ∃ bind leaf, d.HasLeaf bind leaf ∧ leaf.array? bind = some array := by
  rw [mem_arrays_resolve returns, mem_found_iff returns]
  simp only [LeafField.array_mem_findings]

end Declarations
end ShaderLift
