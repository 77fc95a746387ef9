import ShaderLift.Proofs.Faults.Cause

namespace ShaderLift

/-- Structures nest through more than some levels below a variable. -/
inductive Variable.NestsBeyond (structures : List Structure) : Nat → Variable → Prop
  | single {v : Variable} {s : Structure}
      (found : Declarations.findStructure? structures v.type = some s) :
      NestsBeyond structures 0 v
  | deeper {levels : Nat} {v m : Variable} {s : Structure}
      (found : Declarations.findStructure? structures v.type = some s) (inside : m ∈ s.members)
      (below : NestsBeyond structures levels m) : NestsBeyond structures (levels + 1) v

/-- An array dimension in the name of a variable has too many digits. -/
inductive Variable.LongDimension (v : Variable) : Fault → Prop
  | intro {digits : Text} (written : digits ∈ dimensionsFrom none (v.name.dropWhile (· != '[')))
      (long : Text.maxIntegerDigits < digits.length) :
      LongDimension v (.badInteger digits (.tooLong digits.length))

/-- The faults that keep declarations from being resolved with the room for some calls. -/
inductive Declarations.Defect (d : Declarations) (room : Nat) : Fault → Prop
  | dimension {buffer : ConstantBuffer} {v : Variable} {fault : Fault}
      (among : buffer ∈ d.buffers) (member : v ∈ buffer.members) (long : v.LongDimension fault) :
      Defect d room fault
  | memberDimension {s : Structure} {m : Variable} {fault : Fault} (declared : s ∈ d.structures)
      (member : m ∈ s.members) (long : m.LongDimension fault) : Defect d room fault
  /-- A binding has registers that cannot be written. -/
  | binding {resource : Resource} (among : resource ∈ d.resources)
      (long : resource.writableSpan ≠ resource.span) : Defect d room .unwritableInteger
  /-- A constant lies in a register that cannot be written. -/
  | constant {bind : Int} {e : Element} (has : d.HasElement bind e) (long : ¬e.IsWritable bind) :
      Defect d room .unwritableInteger
  /-- Structures nest too deeply below a variable of a buffer. -/
  | nesting {buffer : ConstantBuffer} {v : Variable} {native : Bool} (among : buffer ∈ d.buffers)
      (member : v ∈ buffer.members) (deep : v.NestsBeyond d.structures (callLevels room)) :
      Defect d room (@Fault.endlessStructure native)

/-- A list breaks off at one of the elements it is made from. -/
theorem CutList.exists_of_fault_collect {α β : Type} {make : β → CutList α} {elements : List β}
    {fault : Fault} (failed : (collect make elements).fault = some fault) :
    ∃ x ∈ elements, (make x).fault = some fault := by
  induction elements with
  | nil => cases failed
  | cons x rest ih =>
    rw [collect] at failed
    cases first : (make x).fault with
    | some earlier =>
      rw [andThen_of_fault _ _ earlier first, first] at failed
      exact ⟨x, List.mem_cons_self, by rw [first, failed]⟩
    | none =>
      rw [fault_andThen_of_complete _ _ first] at failed
      obtain ⟨y, inside, later⟩ := ih failed
      exact ⟨y, List.mem_cons_of_mem x inside, later⟩

theorem Variable.splitArrayName_failsFor (v : Variable) :
    FailsFor v.LongDimension (splitArrayName v.name) := by
  refine .bind (.mapM fun digits written => ?_) fun _ _ => .ok _
  unfold Fault.readDecimals
  split
  · rename_i long
    exact .error ⟨written, long⟩
  · exact .ok _

namespace Variable

variable {levels : Nat}

variable {structures : List Structure} {v : Variable}

theorem NestsBeyond.pred (deep : v.NestsBeyond structures (levels + 1)) :
    v.NestsBeyond structures levels := by
  induction levels generalizing v with
  | zero =>
    cases deep with
    | deeper found _ _ => exact .single found
  | succ levels ih =>
    cases deep with
    | deeper found inside below => exact .deeper found inside (ih below)

theorem NestsBeyond.mono {fewer : Nat} (deep : v.NestsBeyond structures levels)
    (less : fewer ≤ levels) : v.NestsBeyond structures fewer := by
  induction less with
  | refl => exact deep
  | step _ ih => exact ih deep.pred

theorem NestsBeyond.of_few {room : Nat} {s : Structure}
    (found : Declarations.findStructure? structures v.type = some s) (few : room < 6) :
    v.NestsBeyond structures (callLevels room) := by
  have none : callLevels room = 0 := Nat.div_eq_of_lt (by omega)
  rw [none]
  exact .single found

end Variable

/-- A structure that cannot be measured has a long dimension below it, or nests too deeply. -/
theorem Structure.stride_failsFor {structures : List Structure} (room : Nat) {s : Structure}
    {v : Variable} (found : Declarations.findStructure? structures v.type = some s) :
    FailsFor (fun fault => (∃ t ∈ structures, ∃ m ∈ t.members, m.LongDimension fault) ∨
      ∃ native, fault = @Fault.endlessStructure native ∧
        v.NestsBeyond structures (callLevels room)) (s.stride structures room) := by
  induction room using room_induction generalizing s v with
  | few room few =>
    rw [stride_of_few few]
    split
    · exact .ok _
    · exact .error (.inr ⟨_, rfl, .of_few found (by omega)⟩)
  | more room ih =>
    refine .bind (.mapM fun m inside => .bind ?_ fun _ _ => .ok _) fun _ _ => .ok _
    unfold Variable.byteSize
    split
    · exact .ok _
    split
    · exact .error (.inr ⟨_, rfl, .of_few found (by omega)⟩)
    rename_i enough
    refine .bind (fun fault failed => ?_) fun parts _ => ?_
    · have long := m.splitArrayName_failsFor fault failed
      exact .inl ⟨s, List.mem_of_find?_eq_some found, m, inside, long⟩
    · split
      · rename_i inner nested
        refine .bind (fun fault failed => ?_) fun _ _ => .ok _
        rcases ih nested fault failed with long | ⟨native, endless, deep⟩
        · exact .inl long
        · refine .inr ⟨native, endless, ?_⟩
          exact (Variable.NestsBeyond.deeper found inside deep).mono (by unfold callLevels; omega)
      · exact .ok _

namespace Variable

variable {fault : Fault} {place : Int} {path base : Text} {v : Variable} {dimensions : List Nat}

variable {structures : List Structure}

/-- The faults that keep a variable at a place from being taken apart, through some levels of
structures. -/
inductive Defect (structures : List Structure) (bind : Int) (levels : Nat) (place : Int)
    (path : Text) (v : Variable) : Fault → Prop
  | dimension {fault : Fault} (long : v.LongDimension fault) :
      Defect structures bind levels place path v fault
  | memberDimension {s : Structure} {m : Variable} {fault : Fault} (declared : s ∈ structures)
      (member : m ∈ s.members) (long : m.LongDimension fault) :
      Defect structures bind levels place path v fault
  | constant {e : Element} (has : v.HasElement structures place path e)
      (long : ¬e.IsWritable bind) : Defect structures bind levels place path v .unwritableInteger
  | nesting {native : Bool} (deep : v.NestsBeyond structures levels) :
      Defect structures bind levels place path v (@Fault.endlessStructure native)

/-- A leaf breaks off at a register that cannot be written. -/
theorem defect_of_leaf (bind : Int) (levels depth : Nat)
    (named : splitArrayName v.name = .ok (base, dimensions))
    (plain : Declarations.findStructure? structures v.type = none)
    (failed : (v.findings structures bind depth place path).fault = some fault) :
    Defect structures bind levels place path v fault := by
  rw [findings_leaf bind depth named plain] at failed
  have unwritable : fault = .unwritableInteger := by
    unfold LeafField.findings at failed
    dsimp only at failed
    split at failed
    · exact (Option.some.inj failed).symm
    · cases failed
  have long : ∃ e, v.HasElement structures place path e ∧ ¬e.IsWritable bind := by
    by_contra each
    have complete : ((v.leafAt place path base dimensions).findings bind).fault = none := by
      rw [LeafField.fault_findings_eq_none_iff]
      intro position inside
      by_contra long
      have has := (hasElement_leaf_iff place path named plain _).mpr ⟨position, inside, rfl⟩
      exact each ⟨_, has, long⟩
    rw [complete] at failed
    cases failed
  obtain ⟨e, has, long⟩ := long
  rw [unwritable]
  exact .constant has long

/-- What keeps a member from being taken apart keeps the variable around it from it. -/
theorem Defect.around {bind stride : Int} {m : Variable} {s : Structure} {position below : Nat}
    (named : splitArrayName v.name = .ok (base, dimensions))
    (found : Declarations.findStructure? structures v.type = some s)
    (spaced : s.HasStride structures stride) (inside : position < shapeCount dimensions)
    (member : m ∈ s.members)
    (defect : m.Defect structures bind (callLevels below) (place + position * stride + m.offset)
      (path ++ base ++ indexText (unflatten position dimensions) ++ ".") fault) :
    v.Defect structures bind (callLevels (below + 1)) place path fault := by
  cases defect with
  | dimension long => exact .memberDimension (List.mem_of_find?_eq_some found) member long
  | memberDimension declared inner long => exact .memberDimension declared inner long
  | constant has long =>
    have around := (hasElement_structure_iff place path named found spaced _).mpr
      ⟨position, inside, m, member, has⟩
    exact .constant around long
  | nesting deep =>
    exact .nesting ((NestsBeyond.deeper found member deep).mono (by unfold callLevels; omega))

/-- A variable that cannot be taken apart has a defect. -/
theorem defect_of_findings (bind : Int) (depth : Nat) (place : Int) (path : Text) (v : Variable)
    (failed : (v.findings structures bind depth place path).fault = some fault) :
    v.Defect structures bind (callLevels depth) place path fault := by
  induction depth using Nat.strongRecOn generalizing place path v with
  | ind depth ih =>
    cases named : splitArrayName v.name with
    | error earlier =>
      unfold findings at failed
      simp only [named] at failed
      cases failed
      exact .dimension (v.splitArrayName_failsFor _ named)
    | ok parts =>
      obtain ⟨base, dimensions⟩ := parts
      cases found : Declarations.findStructure? structures v.type with
      | none => exact defect_of_leaf bind _ depth named found failed
      | some s =>
        cases depth with
        | zero =>
          unfold findings at failed
          simp only [named, found] at failed
          cases failed
          exact .nesting (.single found)
        | succ below =>
          cases measured : s.stride structures (below + 1) with
          | error earlier =>
            unfold findings at failed
            simp only [named, found, measured] at failed
            cases failed
            rcases s.stride_failsFor _ found _ measured with
              ⟨t, declared, m, inner, long⟩ | ⟨native, rfl, deep⟩
            · exact .memberDimension declared inner long
            · exact .nesting deep
          | ok stride =>
            rw [findings_structure bind below named found measured] at failed
            obtain ⟨position, among, failed⟩ := CutList.exists_of_fault_collect failed
            obtain ⟨m, member, failed⟩ := CutList.exists_of_fault_collect failed
            have spaced := s.stride_hasStride _ _ measured
            exact (ih below (Nat.lt_succ_self below) _ _ m failed).around named found spaced
              (by simpa using among) member

end Variable

namespace Declarations

variable {d : Declarations} {room : Nat} {fault : Fault}

theorem defect_of_ofShapes {mark : Char} {shaped : List (Resource × ResourceShape)}
    (listed : ∀ entry ∈ shaped, entry.1 ∈ d.resources)
    (failed : (ResourceTables.ofShapes mark shaped).fault = some fault) : d.Defect room fault := by
  unfold ResourceTables.ofShapes at failed
  dsimp only at failed
  split at failed
  · cases failed
  · rename_i cut
    cases failed
    have long : ∃ entry ∈ shaped, entry.1.writableSpan ≠ entry.1.span := by
      by_contra each
      apply cut
      rw [List.all_eq_true]
      intro entry inside
      apply decide_eq_true
      by_contra long
      exact each ⟨entry, inside, long⟩
    obtain ⟨entry, inside, long⟩ := long
    exact .binding (listed entry inside) long

theorem defect_of_ofBuffers {place : Nat} {buffers : List ConstantBuffer}
    (failed : (BufferResolution.ofBuffers d place buffers room).fault = some fault) :
    ∃ entry ∈ buffers.zipIdx place,
      ((entry.1.bound d.resources entry.2).findings d.structures room).fault = some fault := by
  induction buffers generalizing place with
  | nil => cases failed
  | cons buffer rest ih =>
    rw [BufferResolution.ofBuffers] at failed
    dsimp only at failed
    rw [List.zipIdx_cons]
    split at failed
    · rename_i earlier cut
      cases failed
      exact ⟨_, List.mem_cons_self, cut⟩
    · obtain ⟨entry, inside, cut⟩ := ih failed
      exact ⟨entry, List.mem_cons_of_mem _ inside, cut⟩

theorem defect_of_buffers (failed : (BufferResolution.ofBuffers d 0 d.buffers room).fault = some fault) :
    d.Defect room fault := by
  obtain ⟨entry, inside, cut⟩ := defect_of_ofBuffers failed
  obtain ⟨v, member, cut⟩ := CutList.exists_of_fault_collect cut
  have listed : entry.1 ∈ d.buffers := List.fst_mem_of_mem_zipIdx inside
  cases Variable.defect_of_findings _ _ _ _ v cut with
  | dimension long => exact .dimension listed member long
  | memberDimension declared inner long => exact .memberDimension declared inner long
  | constant has long =>
    exact .constant ⟨_, List.mem_map.mpr ⟨entry, inside, rfl⟩, rfl, v, member, has⟩ long
  | nesting deep => exact .nesting listed member deep

/-- Declarations that cannot be resolved have a defect. -/
theorem defect_of_resolve (failed : (d.resolve room).fault = some fault) : d.Defect room fault := by
  obtain ⟨textures, samplers, uavs⟩ :
      ((ResourceTables.textures d).fault = some fault → d.Defect room fault) ∧
        ((ResourceTables.samplers d).fault = some fault → d.Defect room fault) ∧
        ((ResourceTables.uavs d).fault = some fault → d.Defect room fault) := by
    apply ResourceTables.forall_classes fun tables => tables.fault = some fault → d.Defect room fault
    intro mark shaped listed
    exact defect_of_ofShapes listed
  unfold resolve at failed
  dsimp only at failed
  cases first : (ResourceTables.textures d).fault with
  | some earlier =>
    rw [first] at failed
    simp only [Option.some_or] at failed
    exact textures (first.trans failed)
  | none =>
    cases second : (ResourceTables.samplers d).fault with
    | some earlier =>
      simp only [first, second, Option.isSome_none, Bool.false_eq_true, if_false, Option.none_or,
        Option.some_or] at failed
      exact samplers (second.trans failed)
    | none =>
      cases third : (ResourceTables.uavs d).fault with
      | some earlier =>
        simp only [first, second, third, Option.isSome_none, Bool.false_eq_true, if_false,
          Option.none_or, Option.some_or] at failed
        exact uavs (third.trans failed)
      | none =>
        simp only [first, second, third, Option.isSome_none, Bool.false_eq_true, if_false,
          Option.none_or] at failed
        exact defect_of_buffers failed

end Declarations
end ShaderLift
