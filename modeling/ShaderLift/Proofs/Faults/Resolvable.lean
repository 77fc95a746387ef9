import ShaderLift.Proofs.Constant.Leaf
import ShaderLift.Proofs.Faults.Resolution
import ShaderLift.Proofs.Header.Scanned

namespace ShaderLift

/-- The dimensions in the name of a variable have few enough digits to be read. -/
def Variable.IsReadable (v : Variable) : Prop :=
  ∀ digits ∈ dimensionsFrom none (v.name.dropWhile (· != '[')),
    digits.length ≤ Text.maxIntegerDigits

theorem Variable.isReadable_iff (v : Variable) :
    v.IsReadable ↔ ∃ base dimensions, splitArrayName v.name = .ok (base, dimensions) := by
  have read (digits : Text) :
      (∃ n, Fault.readDecimals digits = .ok n) ↔ digits.length ≤ Text.maxIntegerDigits := by
    unfold Fault.readDecimals
    split
    · rename_i long
      simp
      omega
    · rename_i short
      simp
      omega
  unfold IsReadable splitArrayName
  simp only [← read]
  rw [← mapM_isOk_iff]
  generalize (dimensionsFrom none (v.name.dropWhile (· != '['))).mapM Fault.readDecimals = dimensions
  cases dimensions with
  | error fault => simp [bind, Except.bind]
  | ok dimensions => simp [bind, Except.bind, pure, Except.pure]

namespace Structure

/-- The variables by whose dimensions a structure is measured: members without a size, also those of
the structures of such members. -/
inductive Measures (structures : List Structure) : Structure → Variable → Prop
  | own {s : Structure} {m : Variable} (inside : m ∈ s.members) (unsized : m.size = 0) :
      Measures structures s m
  | inner {s t : Structure} {m v : Variable} (inside : m ∈ s.members) (unsized : m.size = 0)
      (found : Declarations.findStructure? structures m.type = some t)
      (below : Measures structures t v) : Measures structures s v

/-- So many calls stand on top of each other at some point while a structure is measured: three of
its own, one for a member, two for the name of a member without a size, and those that measure the
structure of such a member. -/
inductive Calls (structures : List Structure) : Structure → Nat → Prop
  | own {s : Structure} : Calls structures s 3
  | member {s : Structure} {m : Variable} (inside : m ∈ s.members) : Calls structures s 4
  | name {s : Structure} {m : Variable} (inside : m ∈ s.members) (unsized : m.size = 0) :
      Calls structures s 6
  | inner {s t : Structure} {m : Variable} {calls : Nat} (inside : m ∈ s.members)
      (unsized : m.size = 0) (found : Declarations.findStructure? structures m.type = some t)
      (below : Calls structures t calls) : Calls structures s (calls + 4)

variable {structures : List Structure}

/-- A structure can be measured exactly if there is room for the calls and all dimensions on the way
can be read. -/
theorem stride_isOk_iff (room : Nat) (s : Structure) :
    (∃ stride, s.stride structures room = .ok stride) ↔
      (∀ calls, s.Calls structures calls → calls ≤ room) ∧
        ∀ v, s.Measures structures v → v.IsReadable := by
  induction room using room_induction generalizing s with
  | few room few =>
    rw [stride_of_few few]
    constructor
    · split
      · rename_i empty
        rintro -
        constructor
        · rintro calls made
          cases made with
          | own => exact Nat.le_of_eq empty.1.symm
          | member inside | name inside | inner inside =>
            rw [empty.2] at inside
            cases inside
        · rintro v measures
          cases measures with
          | own inside | inner inside =>
            rw [empty.2] at inside
            cases inside
      · rintro ⟨stride, measured⟩
        cases measured
    · rintro ⟨fits, _⟩
      have three := fits 3 .own
      have empty : s.members = [] := by
        rw [List.eq_nil_iff_forall_not_mem]
        intro m inside
        have four := fits 4 (.member inside)
        omega
      exact ⟨0, if_pos ⟨by omega, empty⟩⟩
  | more room ih =>
    rw [stride_isOk_iff_members]
    simp only [Variable.byteSize_isOk_iff, ← Variable.isReadable_iff, ih]
    constructor
    · intro each
      constructor
      · intro calls made
        cases made with
        | own => omega
        | member => omega
        | name inside unsized =>
          have two := (each _ inside unsized).1
          omega
        | inner inside unsized found below =>
          have less := ((each _ inside unsized).2.2 _ found).1 _ below
          omega
      · intro v measures
        cases measures with
        | own inside unsized => exact (each v inside unsized).2.1
        | inner inside unsized found below => exact ((each _ inside unsized).2.2 _ found).2 v below
    · rintro ⟨fits, readable⟩ m inside unsized
      have six := fits 6 (.name inside unsized)
      refine ⟨by omega, readable m (.own inside unsized), ?_⟩
      intro t found
      constructor
      · intro calls made
        have more := fits _ (.inner inside unsized found made)
        omega
      · intro v measures
        exact readable v (.inner inside unsized found measures)

end Structure

namespace Variable

/-- The variables that are taken apart with a variable, and the number of levels of members through
which they are reached. An empty array has no members to take apart. -/
inductive Reaches (structures : List Structure) : Nat → Variable → Variable → Prop
  | self {v : Variable} : Reaches structures 0 v v
  | member {levels : Nat} {v m w : Variable} {s : Structure} {base : Text} {dimensions : List Nat}
      (named : splitArrayName v.name = .ok (base, dimensions))
      (found : Declarations.findStructure? structures v.type = some s)
      (filled : 0 < shapeCount dimensions) (inside : m ∈ s.members)
      (below : Reaches structures levels m w) : Reaches structures (levels + 1) v w

/-- What a variable is taken apart into can be read, and can be measured with the calls that are left
there. -/
structure IsBounded (structures : List Structure) (room : Nat) (v : Variable) : Prop where
  readable : ∀ levels w, v.Reaches structures levels w → w.IsReadable
  measurable : ∀ levels w s, v.Reaches structures levels w →
    Declarations.findStructure? structures w.type = some s →
      (∀ calls, s.Calls structures calls → calls ≤ room - levels) ∧
        ∀ m, s.Measures structures m → m.IsReadable

variable {structures : List Structure}

theorem isBounded_leaf {depth : Nat} {v : Variable} (readable : v.IsReadable)
    (plain : Declarations.findStructure? structures v.type = none) :
    v.IsBounded structures depth := by
  constructor
  · intro levels w reaches
    cases reaches with
    | self => exact readable
    | member _ found => cases plain.symm.trans found
  · intro levels w s reaches found
    cases reaches with
    | self => cases plain.symm.trans found
    | member _ found' => cases plain.symm.trans found'

/-- A variable of a structure is bounded if the structure can be measured and the members of its
elements are bounded one level deeper. -/
theorem isBounded_structure_iff {below : Nat} {v : Variable} {s : Structure} {base : Text}
    {dimensions : List Nat} (named : splitArrayName v.name = .ok (base, dimensions))
    (found : Declarations.findStructure? structures v.type = some s) :
    v.IsBounded structures (below + 1) ↔
      (∃ stride, s.stride structures (below + 1) = .ok stride) ∧
        (0 < shapeCount dimensions → ∀ m ∈ s.members, m.IsBounded structures below) := by
  rw [Structure.stride_isOk_iff]
  constructor
  · intro bounded
    refine ⟨bounded.measurable 0 v s .self found, ?_⟩
    intro filled m inside
    constructor
    · intro levels w reaches
      exact bounded.readable _ w (.member named found filled inside reaches)
    · intro levels w t reaches
      have measurable := bounded.measurable _ w t (.member named found filled inside reaches)
      rwa [Nat.add_sub_add_right] at measurable
  · rintro ⟨measured, members⟩
    constructor
    · intro levels w reaches
      cases reaches with
      | self => exact (isReadable_iff v).mpr ⟨base, dimensions, named⟩
      | member named' found' filled inside reaches =>
        cases named.symm.trans named'
        cases found.symm.trans found'
        exact (members filled _ inside).readable _ w reaches
    · intro levels w t reaches declared
      cases reaches with
      | self =>
        cases found.symm.trans declared
        exact measured
      | member named' found' filled inside reaches =>
        cases named.symm.trans named'
        cases found.symm.trans found'
        rw [Nat.add_sub_add_right]
        exact (members filled _ inside).measurable _ w t reaches declared

theorem isBounded_of_complete (bind : Int) (depth : Nat) (place : Int) (path : Text) (v : Variable)
    (complete : (v.findings structures bind depth place path).fault = none) :
    v.IsBounded structures depth := by
  induction depth using Nat.strongRecOn generalizing place path v with
  | ind depth ih =>
    obtain ⟨base, dimensions, named, plain | ⟨s, below, stride, found, rfl, measured⟩⟩ :=
      cases_of_complete bind depth complete
    · exact isBounded_leaf ((isReadable_iff v).mpr ⟨base, dimensions, named⟩) plain
    · rw [isBounded_structure_iff named found]
      refine ⟨⟨stride, measured⟩, ?_⟩
      intro filled m inside
      have first := complete_member bind named found measured complete 0 filled m inside
      exact ih below (Nat.lt_succ_self below) _ _ m first

theorem complete_leaf (bind : Int) (depth : Nat) {place : Int} {path base : Text} {v : Variable}
    {dimensions : List Nat} (named : splitArrayName v.name = .ok (base, dimensions))
    (plain : Declarations.findStructure? structures v.type = none)
    (writable : ∀ e, v.HasElement structures place path e → e.IsWritable bind) :
    (v.findings structures bind depth place path).fault = none := by
  rw [findings_leaf bind depth named plain, LeafField.fault_findings_eq_none_iff]
  intro position inside
  exact writable _ ((hasElement_leaf_iff place path named plain _).mpr ⟨position, inside, rfl⟩)

theorem complete_of_isBounded (bind : Int) (depth : Nat) (place : Int) (path : Text) (v : Variable)
    (bounded : v.IsBounded structures depth)
    (writable : ∀ e, v.HasElement structures place path e → e.IsWritable bind) :
    (v.findings structures bind depth place path).fault = none := by
  induction depth generalizing place path v with
  | zero =>
    obtain ⟨base, dimensions, named⟩ := (isReadable_iff v).mp (bounded.readable 0 v .self)
    cases found : Declarations.findStructure? structures v.type with
    | none => exact complete_leaf bind 0 named found writable
    | some s => exact absurd ((bounded.measurable 0 v s .self found).1 3 .own) (by decide)
  | succ below ih =>
    obtain ⟨base, dimensions, named⟩ := (isReadable_iff v).mp (bounded.readable 0 v .self)
    cases found : Declarations.findStructure? structures v.type with
    | none => exact complete_leaf bind (below + 1) named found writable
    | some s =>
      obtain ⟨⟨stride, measured⟩, members⟩ := (isBounded_structure_iff named found).mp bounded
      have elements := hasElement_structure_iff place path named found
        (s.stride_hasStride _ _ measured)
      rw [findings_structure bind below named found measured, CutList.fault_collect_eq_none_iff]
      intro position among
      have inside : position < shapeCount dimensions := by simpa using among
      rw [CutList.fault_collect_eq_none_iff]
      intro m member
      apply ih _ _ m (members (Nat.zero_lt_of_lt inside) m member)
      intro e has
      exact writable e ((elements e).mpr ⟨position, inside, m, member, has⟩)

/-- A variable is taken apart without a fault exactly if it is bounded and the numbers of its
elements can be written. -/
theorem findings_fault_eq_none_iff (bind : Int) (depth : Nat) (place : Int) (path : Text)
    (v : Variable) :
    (v.findings structures bind depth place path).fault = none ↔
      v.IsBounded structures depth ∧
        ∀ e, v.HasElement structures place path e → e.IsWritable bind := by
  constructor
  · intro complete
    exact ⟨v.isBounded_of_complete bind depth place path complete,
      v.isWritable_of_complete bind depth place path complete⟩
  · rintro ⟨bounded, writable⟩
    exact v.complete_of_isBounded bind depth place path bounded writable

end Variable

/-- A run of numbers can be written in full exactly if each of them can. -/
theorem Text.writableRun_eq_iff (first : Int) (count : Nat) :
    writableRun first count = count ↔ ∀ index < count, isWritable (first + index) = true := by
  unfold writableRun
  simp only [isWritable, decide_eq_true_eq]
  generalize writableBound = bound
  constructor
  · intro complete index inside
    split at complete <;> omega
  · intro each
    rcases Nat.eq_zero_or_pos count with rfl | positive
    · split <;> simp
    · have start := each 0 positive
      have last := each (count - 1) (by omega)
      rw [if_pos (by omega)]
      omega

/-- A binding of a class with register tables. -/
def Resource.IsTabled (r : Resource) : Prop :=
  r.kind ∈ [.texture, .sampler, .comparisonSampler, .uav]

namespace ResourceTables

theorem fault_ofShapes_eq_none_iff (mark : Char) (shaped : List (Resource × ResourceShape)) :
    (ofShapes mark shaped).fault = none ↔
      ∀ entry ∈ shaped, entry.1.writableSpan = entry.1.span := by
  unfold ofShapes
  dsimp only
  split
  · rename_i all
    simpa using all
  · rename_i cut
    simpa using cut

theorem fault_classes_eq_none_iff (d : Declarations) :
    ((textures d).fault = none ∧ (samplers d).fault = none ∧ (uavs d).fault = none) ↔
      ∀ r ∈ d.resources, r.IsTabled → r.writableSpan = r.span := by
  simp only [textures, samplers, uavs, fault_ofShapes_eq_none_iff]
  constructor
  · rintro ⟨textures, samplers, uavs⟩ r inside tabled
    have sampled (kind : r.kind = .sampler ∨ r.kind = .comparisonSampler) :
        r.writableSpan = r.span := by
      have among : r ∈ d.resources.filter fun r =>
          r.kind = .sampler || r.kind = .comparisonSampler :=
        List.mem_filter.mpr ⟨inside, by simpa using kind⟩
      obtain ⟨place, stands⟩ := List.mem_iff_getElem?.mp among
      have numbered := List.mk_mem_zipIdx_iff_getElem?.mpr stands
      exact samplers (r, r.samplerShape (d.resources.filter (·.kind = .texture)) place)
        (List.mem_map.mpr ⟨(r, place), numbered, rfl⟩)
    simp only [Resource.IsTabled, List.mem_cons, List.not_mem_nil, or_false] at tabled
    rcases tabled with kind | kind | kind | kind
    · have among : r ∈ d.resources.filter (·.kind = .texture) :=
        List.mem_filter.mpr ⟨inside, decide_eq_true kind⟩
      exact textures (r, r.textureShape d.elementStructures) (List.mem_map.mpr ⟨r, among, rfl⟩)
    · exact sampled (.inl kind)
    · exact sampled (.inr kind)
    · have among : r ∈ d.resources.filter (·.kind = .uav) :=
        List.mem_filter.mpr ⟨inside, decide_eq_true kind⟩
      exact uavs (r, r.uavShape d.elementStructures) (List.mem_map.mpr ⟨r, among, rfl⟩)
  · intro each
    refine ⟨?_, ?_, ?_⟩
    · intro entry among
      obtain ⟨r, listed, rfl⟩ := List.mem_map.mp among
      obtain ⟨inside, kind⟩ := List.mem_filter.mp listed
      exact each r inside (by simp [Resource.IsTabled, of_decide_eq_true kind])
    · intro entry among
      obtain ⟨numbered, listed, rfl⟩ := List.mem_map.mp among
      obtain ⟨inside, kind⟩ := List.mem_filter.mp (List.fst_mem_of_mem_zipIdx listed)
      rw [Bool.or_eq_true, decide_eq_true_eq, decide_eq_true_eq] at kind
      apply each _ inside
      rcases kind with kind | kind <;> simp [Resource.IsTabled, kind]
    · intro entry among
      obtain ⟨r, listed, rfl⟩ := List.mem_map.mp among
      obtain ⟨inside, kind⟩ := List.mem_filter.mp listed
      exact each r inside (by simp [Resource.IsTabled, of_decide_eq_true kind])

end ResourceTables

namespace Declarations

/-- Declarations without structures that take too many calls and without numbers that are too
long. -/
structure IsBounded (d : Declarations) (room : Nat) : Prop where
  registers : ∀ r ∈ d.resources, r.IsTabled →
    ∀ index < r.span, Text.isWritable (r.bind + index) = true
  fields : ∀ buffer ∈ d.buffers, ∀ v ∈ buffer.members, v.IsBounded d.structures room
  constants : ∀ bind e, d.HasElement bind e → e.IsWritable bind

theorem fault_resolve_eq_none_iff_isBounded (d : Declarations) (room : Nat) :
    (d.resolve room).fault = none ↔ d.IsBounded room := by
  constructor
  · intro returns
    obtain ⟨whole, _⟩ := resources_resolve returns
    have spans := (ResourceTables.fault_classes_eq_none_iff d).mp
      ⟨whole.textures, whole.samplers, whole.uavs⟩
    constructor
    · intro r inside tabled
      exact (Text.writableRun_eq_iff r.bind r.span).mp (spans r inside tabled)
    · intro buffer inside v member
      obtain ⟨place, stands⟩ := List.mem_iff_getElem?.mp inside
      have among : buffer.bound d.resources place ∈ d.boundBuffers :=
        List.mem_map.mpr ⟨(buffer, place), List.mk_mem_zipIdx_iff_getElem?.mpr stands, rfl⟩
      have complete := complete_of_resolve returns _ among v member
      rw [Variable.findings_fault_eq_none_iff] at complete
      exact complete.1
    · rintro bind e ⟨buffer, inside, rfl, v, member, has⟩
      have complete := complete_of_resolve returns _ inside v member
      rw [Variable.findings_fault_eq_none_iff] at complete
      exact complete.2 e has
  · intro bounded
    have spans := (ResourceTables.fault_classes_eq_none_iff d).mpr fun r inside tabled =>
      (Text.writableRun_eq_iff r.bind r.span).mpr (bounded.registers r inside tabled)
    rw [fault_resolve_eq_none_iff, BufferResolution.fault_ofBuffers_eq_none_iff]
    refine ⟨⟨spans.1, spans.2.1, spans.2.2⟩, ?_⟩
    intro entry inside
    rw [ConstantBuffer.findings, CutList.fault_collect_eq_none_iff]
    intro v member
    rw [Variable.findings_fault_eq_none_iff]
    constructor
    · exact bounded.fields _ (List.fst_mem_of_mem_zipIdx inside) v member
    · intro e has
      exact bounded.constants _ e ⟨_, List.mem_map.mpr ⟨entry, inside, rfl⟩, rfl, v, member, has⟩

end Declarations

/-- No index vector of a nonempty array is divided by zero. -/
theorem unflattenAround_of_pos (position : Nat) (shape : List Nat) (filled : 0 < shapeCount shape) :
    unflattenAround position (shape.map Int.ofNat) =
      .ok ((unflatten position shape).map Int.ofNat, (position / shapeCount shape : Nat)) := by
  induction shape with
  | nil => simp [unflattenAround, unflatten, shapeCount]
  | cons size rest ih =>
    have sized : size ≠ 0 := by
      rintro rfl
      rw [shapeCount, Nat.zero_mul] at filled
      omega
    have others : 0 < shapeCount rest := Nat.pos_of_mul_pos_left filled
    have quotient : Int.fdiv (position / shapeCount rest : Nat) (Int.ofNat size) =
        (position / (size * shapeCount rest) : Nat) := by
      rw [Nat.mul_comm, ← Nat.div_div_eq_div_mul]
      exact Int.fdiv_eq_ediv_of_nonneg _ (Int.natCast_nonneg size)
    have remainder : Int.fmod (position / shapeCount rest : Nat) (Int.ofNat size) =
        Int.ofNat (position / shapeCount rest % size) :=
      Int.fmod_eq_emod_of_nonneg _ (Int.natCast_nonneg size)
    have stays : Int.ofNat size ≠ 0 := fun zero => sized (Int.ofNat.inj zero)
    rw [List.map_cons, unflattenAround, ih others]
    simp only [bind, Except.bind, stays, if_false, pure, Except.pure, quotient, remainder, unflatten,
      shapeCount, List.map_cons]

theorem readSymbols_of_fault {listing : Text} {room : Nat} {d : Declarations} {fault : Fault}
    (scanned : (scanHeader listing).result = .ok d) (broken : (d.resolve room).fault = some fault) :
    (readSymbols listing room).result = .error fault := by
  simp only [readSymbols, scanned, broken]

/-- However many calls the host has room for, a header that is scanned is resolved exactly if its
declarations are bounded. Otherwise the calls or a number are too many; no other fault comes up, and
in particular the index vectors of arrays are never divided by an empty dimension. -/
theorem resolution_returns_iff (room : Nat) (listing : Text) (d : Declarations)
    (scanned : (scanHeader listing).result = .ok d) :
    ((∃ symbols, (readSymbols listing room).result = .ok symbols) ↔ d.IsBounded room) ∧
    (∀ fault, (readSymbols listing room).result = .error fault →
      (∃ native, fault = @Fault.endlessStructure native) ∨ fault = .unwritableInteger ∨
        ∃ digits : Text, Text.maxIntegerDigits < digits.length ∧
          fault = .badInteger digits (.tooLong digits.length)) ∧
    ∀ (shape : List Nat) (position : Nat), position < shapeCount shape →
      unflattenAround position (shape.map Int.ofNat) =
        .ok ((unflatten position shape).map Int.ofNat, 0) := by
  refine ⟨?_, ?_, ?_⟩
  · rw [← Declarations.fault_resolve_eq_none_iff_isBounded]
    constructor
    · rintro ⟨symbols, read⟩
      obtain ⟨d', scanned', returns, _⟩ := exists_scanned_of_readSymbols read
      cases scanned.symm.trans scanned'
      exact returns
    · intro returns
      exact ⟨_, readSymbols_of_scanHeader scanned returns⟩
  · intro fault failed
    cases broken : (d.resolve room).fault with
    | none =>
      rw [readSymbols_of_scanHeader scanned broken] at failed
      cases failed
    | some earlier =>
      rw [readSymbols_of_fault scanned broken] at failed
      cases failed
      cases Declarations.defect_of_resolve broken with
      | dimension _ _ long | memberDimension _ _ long =>
        cases long with
        | intro _ long => exact .inr (.inr ⟨_, long, rfl⟩)
      | binding | constant => exact .inr (.inl rfl)
      | nesting => exact .inl ⟨_, rfl⟩
  · intro shape position inside
    rw [unflattenAround_of_pos position shape (Nat.zero_lt_of_lt inside),
      Nat.div_eq_of_lt inside]
    rfl

/-- A structure with a member of its own type. -/
def endlessListing : Text :=
  "// Buffer Definitions:\n// cbuffer Scene\n// \x7b\n//   struct Node\n//   \x7b\n" ++
  "//     float4 value; // Offset: 0\n//     Node next; // Offset: 16\n" ++
  "//   \x7d root; // Offset: 0 Size: 32\n// \x7d\n"

def endlessNode : Structure :=
  ⟨"Node", [⟨"float4", "value", 0, 0, .default⟩, ⟨"Node", "next", 16, 0, .default⟩]⟩

def endlessDeclarations : Declarations :=
  { buffers := [⟨"Scene", -1, 0, [⟨"Node", "root", 0, 32, .default⟩]⟩]
    structures := [endlessNode] }

/-- Whatever the room, the structure takes more calls: each level takes four, so that the place where
they run out depends on the remainder. -/
theorem stride_endlessNode {room : Nat} (enough : 2 ≤ room) :
    endlessNode.stride endlessDeclarations.structures room =
      .error (@Fault.endlessStructure (room % 4 = 1)) := by
  induction room using room_induction with
  | few room few =>
    obtain rfl | rfl : room = 2 ∨ room = 3 := by omega
    · rfl
    · rfl
  | more room ih =>
    rcases room with _ | _ | room
    · rfl
    · rfl
    · have inner := ih (by omega)
      have fits : ¬room + 2 < 2 := by omega
      have first : Variable.byteSize endlessDeclarations.structures (room + 2)
          (Structure.stride endlessDeclarations.structures (room + 2))
          ⟨"float4", "value", 0, 0, .default⟩ = .ok 16 := by
        rw [Variable.byteSize, if_neg (by decide), if_neg fits]
        rfl
      have second : Variable.byteSize endlessDeclarations.structures (room + 2)
          (Structure.stride endlessDeclarations.structures (room + 2))
          ⟨"Node", "next", 16, 0, .default⟩ =
            .error (@Fault.endlessStructure ((room + 2) % 4 = 1)) := by
        rw [Variable.byteSize, if_neg (by decide), if_neg fits]
        change (do return (← endlessNode.stride endlessDeclarations.structures (room + 2)) * _) = _
        rw [inner]
        rfl
      rw [Structure.stride, show endlessNode.members = [_, _] from rfl, List.mapM_cons, first,
        List.mapM_cons, second, Nat.add_mod_right]
      rfl

theorem fault_findings_endlessNode {room : Nat} (enough : 2 ≤ room) (bind : Int) :
    (Variable.findings endlessDeclarations.structures bind room 0 []
      ⟨"Node", "root", 0, 32, .default⟩).fault = some (@Fault.endlessStructure (room % 4 = 1)) := by
  have measured := stride_endlessNode enough
  obtain ⟨below, rfl⟩ := Nat.exists_eq_succ_of_ne_zero (Nat.ne_of_gt (Nat.zero_lt_of_lt enough))
  have named : splitArrayName "root" = .ok ("root", []) := rfl
  have found : Declarations.findStructure? endlessDeclarations.structures "Node" =
    some endlessNode := rfl
  unfold Variable.findings
  simp only [named, found, measured]
  rfl

/-- A scanned header is not resolved, whatever the room for calls. -/
theorem endless_structure_unresolved :
    (scanHeader endlessListing).result = .ok endlessDeclarations ∧
      (∀ room ≥ 2, (readSymbols endlessListing room).result =
        .error (@Fault.endlessStructure (room % 4 = 1))) ∧
      ∀ room, ¬ ∃ stride, endlessNode.stride endlessDeclarations.structures room = .ok stride := by
  have scanned : (scanHeader endlessListing).result = .ok endlessDeclarations := by
    apply eq_ok_of_toOption
    decide +kernel
  refine ⟨scanned, ?_, ?_⟩
  · intro room enough
    apply readSymbols_of_fault scanned
    have resources : endlessDeclarations.HasResources := ⟨rfl, rfl, rfl⟩
    rcases endlessDeclarations.resolve_cases room with ⟨broken, _⟩ | ⟨_, same, _⟩
    · exact absurd resources broken
    · rw [same]
      apply BufferResolution.fault_ofBuffers_cons
      apply CutList.fault_collect_cons
      exact fault_findings_endlessNode enough _
  · rintro room ⟨stride, measured⟩
    by_cases enough : 2 ≤ room
    · rw [stride_endlessNode enough] at measured
      cases measured
    · rw [Structure.stride_of_few (by omega), if_neg (by omega)] at measured
      cases measured

/-- A buffer with an array of structures. -/
def boundedListing : Text :=
  "// Buffer Definitions:\n// cbuffer Scene\n// \x7b\n//   struct Light\n//   \x7b\n" ++
  "//     float3 color[2]; // Offset: 0\n//   \x7d lights[3]; // Offset: 0 Size: 92\n// \x7d\n"

def boundedDeclarations : Declarations :=
  { buffers := [⟨"Scene", -1, 0, [⟨"Light", "lights[3]", 0, 92, .default⟩]⟩]
    structures := [⟨"Light", [⟨"float3", "color[2]", 0, 0, .default⟩]⟩] }

theorem resolution_returns_bounded :
    (scanHeader boundedListing).result = .ok boundedDeclarations ∧
      boundedDeclarations.IsBounded callRoom ∧ ∃ symbols, (readSymbols boundedListing).result = .ok symbols := by
  have scanned : (scanHeader boundedListing).result = .ok boundedDeclarations := by
    apply eq_ok_of_toOption
    decide +kernel
  have returns : boundedDeclarations.resolve.fault = none := by decide +kernel
  have read := readSymbols_of_scanHeader scanned returns
  have bounded := (resolution_returns_iff callRoom boundedListing _ scanned).1.mp ⟨_, read⟩
  exact ⟨scanned, bounded, _, read⟩

end ShaderLift
