import ShaderLift.Proofs.Constant.Element

namespace ShaderLift

variable {structures : List Structure}

namespace Variable

/-- Whether structures nest through at most so many levels below a variable, and the dimensions in
all the names can be read. -/
def nestsWithin (structures : List Structure) : Nat → Variable → Bool
  | levels, v =>
    (splitArrayName v.name).isOk &&
      match Declarations.findStructure? structures v.type with
      | none => true
      | some s =>
        match levels with
        | 0 => false
        | below + 1 => s.members.all (nestsWithin structures below)

theorem nestsWithin_named {levels : Nat} {v : Variable}
    (nests : v.nestsWithin structures levels = true) :
    ∃ base dimensions, splitArrayName v.name = .ok (base, dimensions) := by
  unfold nestsWithin at nests
  cases named : splitArrayName v.name with
  | error fault =>
    rw [named] at nests
    cases nests
  | ok parts => exact ⟨parts.1, parts.2, rfl⟩

theorem nestsWithin_members {levels : Nat} {v : Variable} {s : Structure}
    (nests : v.nestsWithin structures levels = true)
    (found : Declarations.findStructure? structures v.type = some s) :
    ∃ below, levels = below + 1 ∧ ∀ m ∈ s.members, m.nestsWithin structures below = true := by
  unfold nestsWithin at nests
  rw [found] at nests
  cases levels with
  | zero => simp at nests
  | succ below =>
    simp only [Bool.and_eq_true, List.all_eq_true] at nests
    exact ⟨below, rfl, nests.2⟩

/-- A variable without a size is measured by its dimensions and the stride of its structure. -/
theorem byteSize_isOk_iff (room : Nat) (strideOf : Structure → Except Fault Int) (v : Variable) :
    (∃ n, v.byteSize structures room strideOf = .ok n) ↔
      (v.size = 0 → 2 ≤ room ∧
        (∃ base dimensions, splitArrayName v.name = .ok (base, dimensions)) ∧
          ∀ s, Declarations.findStructure? structures v.type = some s →
            ∃ stride, strideOf s = .ok stride) := by
  unfold byteSize
  by_cases given : v.size = 0
  · rw [if_neg (Decidable.not_not.mpr given)]
    by_cases few : room < 2
    · simp [few, given, Nat.not_le.mpr few]
    rw [if_neg few]
    replace few := Nat.not_lt.mp few
    cases named : splitArrayName v.name with
    | error fault => simp [few, given, bind, Except.bind]
    | ok parts =>
      cases found : Declarations.findStructure? structures v.type with
      | none => simp [few, given, bind, Except.bind, pure, Except.pure, Prod.ext_iff]
      | some s =>
        cases measured : strideOf s with
        | error fault => simp [few, given, bind, Except.bind, measured]
        | ok stride =>
          simp [few, given, bind, Except.bind, pure, Except.pure, measured, Prod.ext_iff]
  · rw [if_pos given]
    simp [given]

end Variable

theorem Structure.stride_isOk_iff_members (room : Nat) (s : Structure) :
    (∃ stride, s.stride structures (room + 4) = .ok stride) ↔ ∀ m ∈ s.members,
      ∃ n, m.byteSize structures room (Structure.stride structures room) = .ok n := by
  have measured (m : Variable) :
      (∃ last, (do return m.offset +
        (← m.byteSize structures room (Structure.stride structures room)) : Except Fault Int) =
          .ok last) ↔
        ∃ n, m.byteSize structures room (Structure.stride structures room) = .ok n := by
    cases m.byteSize structures room (Structure.stride structures room) with
    | error fault => simp [bind, Except.bind]
    | ok n => simp [bind, Except.bind, pure, Except.pure]
  simp only [← measured]
  rw [← mapM_isOk_iff, Structure.stride]
  generalize (s.members.mapM fun m => do
    return m.offset + (← m.byteSize structures room (Structure.stride structures room))) = ends
  cases ends with
  | error fault => simp [bind, Except.bind]
  | ok ends => simp [bind, Except.bind, pure, Except.pure]

/-- A structure can be measured if there are four calls for each level below it, and six more. -/
theorem Structure.stride_isOk (levels room : Nat) (s : Structure) (enough : 4 * levels + 6 ≤ room)
    (nests : ∀ m ∈ s.members, m.nestsWithin structures levels = true) :
    ∃ stride, s.stride structures room = .ok stride := by
  induction room using room_induction generalizing levels s with
  | few room few => omega
  | more room ih =>
    rw [stride_isOk_iff_members]
    intro m inside
    rw [Variable.byteSize_isOk_iff]
    intro _
    refine ⟨by omega, Variable.nestsWithin_named (nests m inside), ?_⟩
    intro inner found
    obtain ⟨below, deeper, others⟩ := Variable.nestsWithin_members (nests m inside) found
    exact ih below inner (by omega) others

/-- The number of levels through which structures can be taken apart with the room for some calls:
each takes four, and the innermost name two. -/
def callLevels (room : Nat) : Nat := (room - 2) / 4

/-- A variable is taken apart without a fault if the depth suffices and its numbers can be
written. -/
theorem Variable.findings_fault_eq_none (bind : Int) (levels depth : Nat) (place : Int)
    (path : Text) (v : Variable) (enough : 4 * levels + 2 ≤ depth)
    (nests : v.nestsWithin structures levels = true)
    (writable : ∀ e, v.HasElement structures place path e → e.IsWritable bind) :
    (v.findings structures bind depth place path).fault = none := by
  induction levels using Nat.strongRecOn generalizing depth place path v with
  | ind levels ih =>
    obtain ⟨base, dimensions, named⟩ := nestsWithin_named nests
    cases found : Declarations.findStructure? structures v.type with
    | none =>
      rw [findings_leaf bind depth named found, LeafField.fault_findings_eq_none_iff]
      intro position inside
      exact writable _ ((hasElement_leaf_iff place path named found _).mpr ⟨position, inside, rfl⟩)
    | some s =>
      obtain ⟨below, rfl, members⟩ := nestsWithin_members nests found
      obtain ⟨deep, rfl⟩ : ∃ deep, depth = deep + 1 := ⟨depth - 1, by omega⟩
      obtain ⟨stride, measured⟩ := s.stride_isOk below (deep + 1) (by omega) members
      have elements := hasElement_structure_iff place path named found
        (s.stride_hasStride _ _ measured)
      rw [findings_structure bind deep named found measured, CutList.fault_collect_eq_none_iff]
      intro position inside
      rw [CutList.fault_collect_eq_none_iff]
      intro m member
      apply ih below (Nat.lt_succ_self below) deep _ _ m (by omega) (members m member)
      intro e has
      exact writable e ((elements e).mpr ⟨position, by simpa using inside, m, member, has⟩)

namespace Declarations

/-- The buffers with their registers settled. -/
def boundBuffers (d : Declarations) : List ConstantBuffer :=
  d.buffers.zipIdx.map fun (buffer, place) => buffer.bound d.resources place

/-- The elements of the buffers at a register. -/
def HasElement (d : Declarations) (bind : Int) (e : Element) : Prop :=
  ∃ buffer ∈ d.boundBuffers, buffer.bind = bind ∧
    ∃ v ∈ buffer.members, v.HasElement d.structures v.offset [] e

end Declarations

/-- What holds of the tables of any bindings of a listing holds of its textures, its samplers and its
unordered-access views. -/
theorem ResourceTables.forall_classes {d : Declarations} (property : ResourceTables → Prop)
    (each : ∀ mark shaped, (∀ entry ∈ shaped, entry.1 ∈ d.resources) →
      property (.ofShapes mark shaped)) :
    property (textures d) ∧ property (samplers d) ∧ property (uavs d) := by
  refine ⟨each _ _ ?_, each _ _ ?_, each _ _ ?_⟩
  · intro entry inside
    obtain ⟨resource, among, rfl⟩ := List.mem_map.mp inside
    exact (List.mem_filter.mp among).1
  · intro entry inside
    obtain ⟨numbered, among, rfl⟩ := List.mem_map.mp inside
    exact (List.mem_filter.mp (List.fst_mem_of_mem_zipIdx among)).1
  · intro entry inside
    obtain ⟨resource, among, rfl⟩ := List.mem_map.mp inside
    exact (List.mem_filter.mp among).1

namespace BufferResolution

variable {room : Nat}

theorem fault_ofBuffers_eq_none_iff (d : Declarations) (place : Nat)
    (buffers : List ConstantBuffer) :
    (ofBuffers d place buffers room).fault = none ↔
      ∀ entry ∈ buffers.zipIdx place,
        ((entry.1.bound d.resources entry.2).findings d.structures room).fault = none := by
  induction buffers generalizing place with
  | nil => simp [ofBuffers]
  | cons buffer rest ih =>
    rw [ofBuffers, List.zipIdx_cons, List.forall_mem_cons, ← ih]
    dsimp only
    split
    · rename_i fault failed
      simp [failed]
    · rename_i complete
      simp [complete]

/-- A buffer that cannot be taken apart ends the resolution. -/
theorem fault_ofBuffers_cons {d : Declarations} {place : Nat} {buffer : ConstantBuffer}
    {rest : List ConstantBuffer} {fault : Fault}
    (failed : ((buffer.bound d.resources place).findings d.structures room).fault = some fault) :
    (ofBuffers d place (buffer :: rest) room).fault = some fault := by
  rw [ofBuffers]
  dsimp only
  rw [failed]

theorem ofBuffers_of_complete (d : Declarations) (place : Nat) (buffers : List ConstantBuffer)
    (complete : (ofBuffers d place buffers room).fault = none) :
    (ofBuffers d place buffers room).found = ((buffers.zipIdx place).flatMap fun entry =>
        ((entry.1.bound d.resources entry.2).findings d.structures room).items) ∧
      (ofBuffers d place buffers room).buffers =
        (buffers.zipIdx place).map fun entry => (entry.1.bound d.resources entry.2).measured := by
  induction buffers generalizing place with
  | nil => exact ⟨rfl, rfl⟩
  | cons buffer rest ih =>
    have each := (fault_ofBuffers_eq_none_iff d place _).mp complete
    rw [List.zipIdx_cons, List.forall_mem_cons] at each
    have later := ih (place + 1) ((fault_ofBuffers_eq_none_iff d _ _).mpr each.2)
    rw [ofBuffers, List.zipIdx_cons, List.flatMap_cons, List.map_cons, ← later.1, ← later.2]
    simp only [each.1, and_self]

end BufferResolution

namespace ConstantFinding

theorem placement?_eq_some_iff (finding : ConstantFinding) (p : Placement) :
    finding.placement? = some p ↔ finding = .placement p := by
  cases finding <;> simp [placement?]

theorem array?_eq_some_iff (finding : ConstantFinding) (found : ConstantArray) :
    finding.array? = some found ↔ finding = .array found := by
  cases finding <;> simp [array?]

end ConstantFinding

namespace Declarations

variable {d : Declarations} {room : Nat}

/-- Resources are resolved without a fault. -/
structure HasResources (d : Declarations) : Prop where
  textures : (ResourceTables.textures d).fault = none
  samplers : (ResourceTables.samplers d).fault = none
  uavs : (ResourceTables.uavs d).fault = none

/-- The buffers are resolved exactly if the resources are. -/
theorem resolve_cases (d : Declarations) (room : Nat) :
    (¬ d.HasResources ∧ (d.resolve room).fault ≠ none ∧
      (d.resolve room).registers.constants = .ofFindings [] ∧
      (d.resolve room).declared.buffers = d.buffers) ∨
    d.HasResources ∧
      (d.resolve room).fault = (BufferResolution.ofBuffers d 0 d.buffers room).fault ∧
      (d.resolve room).registers.constants =
        .ofFindings (BufferResolution.ofBuffers d 0 d.buffers room).found ∧
      (d.resolve room).declared.buffers =
        (BufferResolution.ofBuffers d 0 d.buffers room).buffers := by
  cases textures : (ResourceTables.textures d).fault with
  | some fault =>
    exact .inl ⟨fun has => by simp [has.textures] at textures, by simp [resolve, textures]⟩
  | none =>
    cases samplers : (ResourceTables.samplers d).fault with
    | some fault =>
      exact .inl ⟨fun has => by simp [has.samplers] at samplers,
        by simp [resolve, textures, samplers]⟩
    | none =>
      cases uavs : (ResourceTables.uavs d).fault with
      | some fault =>
        exact .inl ⟨fun has => by simp [has.uavs] at uavs,
          by simp [resolve, textures, samplers, uavs]⟩
      | none =>
        exact .inr ⟨⟨textures, samplers, uavs⟩, by simp [resolve, textures, samplers, uavs]⟩

theorem fault_resolve_eq_none_iff (d : Declarations) :
    (d.resolve room).fault = none ↔
      d.HasResources ∧ (BufferResolution.ofBuffers d 0 d.buffers room).fault = none := by
  rcases d.resolve_cases room with ⟨broken, failed, _⟩ | ⟨whole, same, _⟩
  · simp only [failed, broken, false_and]
  · simp only [same, whole, true_and]

section Returned

variable (returns : (d.resolve room).fault = none)

include returns

theorem resources_resolve :
    d.HasResources ∧ (d.resolve room).registers.samplers = ResourceTables.samplers d ∧
      (d.resolve room).registers.uavs = ResourceTables.uavs d := by
  have whole := ((fault_resolve_eq_none_iff d).mp returns).1
  exact ⟨whole, by simp [resolve, whole.textures], by simp [resolve, whole.textures, whole.samplers]⟩

theorem constants_resolve :
    (d.resolve room).registers.constants =
      .ofFindings (d.boundBuffers.flatMap fun buffer =>
        (buffer.findings d.structures room).items) := by
  rcases d.resolve_cases room with ⟨_, failed, _⟩ | ⟨_, same, constants, _⟩
  · exact absurd returns failed
  · rw [constants, (BufferResolution.ofBuffers_of_complete d 0 _ (same.symm.trans returns)).1]
    simp [boundBuffers, List.flatMap_map]

theorem declaredBuffers_resolve :
    (d.resolve room).declared.buffers = d.boundBuffers.map ConstantBuffer.measured := by
  rcases d.resolve_cases room with ⟨_, failed, _⟩ | ⟨_, same, _, buffers⟩
  · exact absurd returns failed
  · rw [buffers, (BufferResolution.ofBuffers_of_complete d 0 _ (same.symm.trans returns)).2]
    simp [boundBuffers]

theorem registers_resolve :
    (d.resolve room).registers.constants.registers =
      .ofFirsts ((d.resolve room).registers.constants.placements.map fun p => (p.key, p.entry)) := by
  rw [constants_resolve returns]
  rfl

/-- Every buffer is taken apart without a fault when a listing is resolved without one. -/
theorem complete_findings (buffer : ConstantBuffer)
    (inside : buffer ∈ d.boundBuffers) : (buffer.findings d.structures room).fault = none := by
  have buffers := ((fault_resolve_eq_none_iff d).mp returns).2
  obtain ⟨entry, among, rfl⟩ := List.mem_map.mp inside
  exact (BufferResolution.fault_ofBuffers_eq_none_iff d 0 _).mp buffers entry among

theorem complete_of_resolve (buffer : ConstantBuffer)
    (inside : buffer ∈ d.boundBuffers) (v : Variable) (member : v ∈ buffer.members) :
    (v.findings d.structures buffer.bind room v.offset []).fault = none :=
  (CutList.fault_collect_eq_none_iff _ _).mp (complete_findings returns buffer inside) v member

theorem mem_placements_resolve (p : Placement) :
    p ∈ (d.resolve room).registers.constants.placements ↔
      ∃ buffer ∈ d.boundBuffers, .placement p ∈ (buffer.findings d.structures room).items := by
  rw [constants_resolve returns]
  simp [ConstantTables.ofFindings, ConstantTables.ofPlacements,
    ConstantFinding.placement?_eq_some_iff]

theorem mem_arrays_resolve (array : ConstantArray) :
    array ∈ (d.resolve room).registers.constants.arrays ↔
      ∃ buffer ∈ d.boundBuffers, .array array ∈ (buffer.findings d.structures room).items := by
  rw [constants_resolve returns]
  simp [ConstantTables.ofFindings, ConstantTables.ofPlacements,
    ConstantFinding.array?_eq_some_iff]

/-- What a buffer brings up is what its variables bring up. -/
theorem mem_findings_resolve {buffer : ConstantBuffer}
    (inside : buffer ∈ d.boundBuffers) (finding : ConstantFinding) :
    finding ∈ (buffer.findings d.structures room).items ↔ ∃ v ∈ buffer.members,
      finding ∈ (v.findings d.structures buffer.bind room v.offset []).items := by
  rw [ConstantBuffer.findings,
    CutList.items_collect_of_complete _ _ (complete_of_resolve returns buffer inside),
    List.mem_flatMap]

end Returned

/-- What resolution needs to reach its end: structures do not nest too deeply, and no number in the
names, the bindings and the constants has too many digits. -/
structure IsResolvable (d : Declarations) : Prop where
  nests : ∀ buffer ∈ d.buffers, ∀ v ∈ buffer.members,
    v.nestsWithin d.structures (callLevels callRoom) = true
  bound : ∀ resource ∈ d.resources, resource.writableSpan = resource.span
  written : ∀ bind e, d.HasElement bind e → e.IsWritable bind

theorem IsResolvable.fault_eq_none (resolvable : d.IsResolvable) : d.resolve.fault = none := by
  obtain ⟨nests, bound, written⟩ := resolvable
  obtain ⟨textures, samplers, uavs⟩ : (ResourceTables.textures d).fault = none ∧
      (ResourceTables.samplers d).fault = none ∧ (ResourceTables.uavs d).fault = none := by
    apply ResourceTables.forall_classes fun tables => tables.fault = none
    intro mark shaped listed
    rw [ResourceTables.ofShapes]
    dsimp only
    rw [if_pos]
    rw [List.all_eq_true]
    intro entry inside
    exact decide_eq_true (bound entry.1 (listed entry inside))
  rw [fault_resolve_eq_none_iff]
  refine ⟨⟨textures, samplers, uavs⟩, ?_⟩
  rw [BufferResolution.fault_ofBuffers_eq_none_iff]
  intro entry inside
  rw [ConstantBuffer.findings, CutList.fault_collect_eq_none_iff]
  intro v member
  have among : entry.1 ∈ d.buffers := List.fst_mem_of_mem_zipIdx inside
  apply v.findings_fault_eq_none _ (callLevels callRoom) _ _ _ (by decide) (nests _ among v member)
  intro e has
  exact written _ e ⟨_, List.mem_map.mpr ⟨entry, inside, rfl⟩, rfl, v, member, has⟩

end Declarations
end ShaderLift
