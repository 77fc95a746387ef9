import ShaderLift.Register.Symbols

namespace ShaderLift

theorem ElementType.extent?_bounds {c : Char} {n : Nat} (found : extent? c = some n) :
    1 ≤ n ∧ n ≤ 4 := by
  unfold extent? at found
  split at found <;> cases found <;> decide

/-- A type has a scalar, and no more than a matrix of four rows and columns. -/
theorem ElementType.count_bounds (type : Text) : 1 ≤ count type ∧ count type ≤ 16 := by
  unfold count
  cases found : count? type with
  | none => decide
  | some n =>
    obtain ⟨scalar, _, measured⟩ := List.exists_of_findSome?_eq_some found
    obtain ⟨rest, _, measured⟩ := Option.bind_eq_some_iff.mp measured
    rw [Option.getD_some]
    split at measured
    · have extent := extent?_bounds measured
      omega
    · obtain ⟨rows, someRows, measured⟩ := Option.bind_eq_some_iff.mp measured
      obtain ⟨columns, someColumns, measured⟩ := Option.bind_eq_some_iff.mp measured
      cases measured
      have tall := extent?_bounds someRows
      have wide := extent?_bounds someColumns
      exact ⟨Nat.mul_pos tall.1 wide.1, Nat.mul_le_mul tall.2 wide.2⟩
    · cases measured

/-- An index vector of an array of the given shape: one index for each dimension, inside it. -/
inductive IndexesInto : List Nat → List Nat → Prop
  | nil : IndexesInto [] []
  | cons {size index : Nat} {shape indices : List Nat} (inside : index < size)
      (others : IndexesInto shape indices) : IndexesInto (size :: shape) (index :: indices)

/-- The position of an index vector in an array of the given shape, last index fastest. -/
def flatten : List Nat → List Nat → Nat
  | _ :: shape, index :: indices => index * shapeCount shape + flatten shape indices
  | _, _ => 0

theorem flatten_lt {shape indices : List Nat} (within : IndexesInto shape indices) :
    flatten shape indices < shapeCount shape := by
  induction within with
  | nil => exact Nat.one_pos
  | @cons size index shape indices inside others ih =>
    calc index * shapeCount shape + flatten shape indices
      _ < index * shapeCount shape + shapeCount shape := Nat.add_lt_add_left ih _
      _ = (index + 1) * shapeCount shape := (Nat.succ_mul _ _).symm
      _ ≤ size * shapeCount shape := Nat.mul_le_mul_right _ inside

/-- Whole arrays in front of a position do not show in its index vector. -/
theorem unflatten_add_mul (position count : Nat) (shape : List Nat) :
    unflatten (position + count * shapeCount shape) shape = unflatten position shape := by
  induction shape generalizing count with
  | nil => rfl
  | cons size shape ih =>
    have regrouped : position + count * shapeCount (size :: shape) =
        position + count * size * shapeCount shape := by
      rw [shapeCount, Nat.mul_assoc]
    rw [regrouped, unflatten, unflatten, ih]
    rcases Nat.eq_zero_or_pos (shapeCount shape) with empty | positive
    · rw [empty, Nat.mul_zero, Nat.add_zero]
    · rw [Nat.add_mul_div_right _ _ positive, Nat.add_mul_mod_self_right]

theorem unflatten_flatten {shape indices : List Nat} (within : IndexesInto shape indices) :
    unflatten (flatten shape indices) shape = indices := by
  induction within with
  | nil => rfl
  | @cons size index shape indices inside others ih =>
    have less := flatten_lt others
    have head : (index * shapeCount shape + flatten shape indices) / shapeCount shape % size =
        index := by
      rw [Nat.add_comm, Nat.add_mul_div_right _ _ (by omega), Nat.div_eq_of_lt less, Nat.zero_add,
        Nat.mod_eq_of_lt inside]
    rw [flatten, unflatten, head, Nat.add_comm, unflatten_add_mul, ih]

theorem unflatten_indexesInto (position : Nat) (shape : List Nat) (filled : 0 < shapeCount shape) :
    IndexesInto shape (unflatten position shape) := by
  induction shape with
  | nil => exact .nil
  | cons size shape ih =>
    have positive : 0 < size := Nat.pos_of_mul_pos_right filled
    exact .cons (Nat.mod_lt _ positive) (ih (Nat.pos_of_mul_pos_left filled))

theorem flatten_unflatten_mod (position : Nat) (shape : List Nat) (filled : 0 < shapeCount shape) :
    flatten shape (unflatten position shape) = position % shapeCount shape := by
  induction shape with
  | nil => exact (Nat.mod_one position).symm
  | cons size shape ih =>
    rw [unflatten, flatten, ih (Nat.pos_of_mul_pos_left filled), shapeCount, Nat.mul_comm size,
      Nat.mod_mul, Nat.mul_comm, Nat.add_comm]

theorem flatten_unflatten (position : Nat) (shape : List Nat)
    (inside : position < shapeCount shape) :
    flatten shape (unflatten position shape) = position := by
  rw [flatten_unflatten_mod position shape (by omega), Nat.mod_eq_of_lt inside]

/-- The largest of the ends, zero if there is none. -/
def IsExtent (ends : List Int) (extent : Int) : Prop :=
  (∀ place ∈ ends, place ≤ extent) ∧ (extent ∈ ends ∨ ends = [] ∧ extent = 0)

theorem IsExtent.unique {ends : List Int} {first second : Int} (one : IsExtent ends first)
    (other : IsExtent ends second) : first = second := by
  obtain ⟨bound, reached⟩ := one
  obtain ⟨bound', reached'⟩ := other
  rcases reached with inside | ⟨rfl, rfl⟩
  · rcases reached' with inside' | ⟨rfl, _⟩
    · exact Int.le_antisymm (bound' first inside) (bound second inside')
    · cases inside
  · rcases reached' with inside' | ⟨_, rfl⟩
    · cases inside'
    · rfl

theorem foldl_max (values : List Int) (first : Int) :
    first ≤ values.foldl max first ∧ (∀ value ∈ values, value ≤ values.foldl max first) ∧
      (values.foldl max first = first ∨ values.foldl max first ∈ values) := by
  induction values generalizing first with
  | nil => simp
  | cons value rest ih =>
    obtain ⟨above, bound, reached⟩ := ih (max first value)
    have left := Int.le_max_left first value
    have right := Int.le_max_right first value
    simp only [List.foldl_cons, List.mem_cons]
    refine ⟨Int.le_trans left above, ?_, ?_⟩
    · rintro other (rfl | inside)
      · exact Int.le_trans right above
      · exact bound other inside
    · rcases reached with same | inside
      · rw [same]
        rcases Int.le_total first value with less | less
        · exact .inr (.inl (Int.max_eq_right less))
        · exact .inl (Int.max_eq_left less)
      · exact .inr (.inr inside)

theorem isExtent_largest (ends : List Int) : IsExtent ends (largest ends) := by
  cases ends with
  | nil => exact ⟨by simp, .inr ⟨rfl, rfl⟩⟩
  | cons first rest =>
    obtain ⟨above, bound, reached⟩ := foldl_max rest first
    refine ⟨?_, .inl ?_⟩
    · intro place inside
      rcases List.mem_cons.mp inside with rfl | inside
      · exact above
      · exact bound place inside
    · exact List.mem_cons.mpr reached

/-- The least multiple of a register's size that is not below a number. -/
def IsRoundedUp (n rounded : Int) : Prop :=
  slotSize ∣ rounded ∧ n ≤ rounded ∧ rounded < n + slotSize

theorem IsRoundedUp.unique {n first second : Int} (one : IsRoundedUp n first)
    (other : IsRoundedUp n second) : first = second := by
  unfold IsRoundedUp slotSize at one other
  omega

theorem isRoundedUp_fdiv (n : Int) : IsRoundedUp n (-(-n).fdiv slotSize * slotSize) := by
  rw [Int.fdiv_eq_ediv_of_nonneg _ (by decide)]
  unfold IsRoundedUp slotSize
  omega

namespace Variable

/-- The size of a variable: the listed one, or else that of its registers up to the last component,
or that of the elements of its structure. These lie the extent of the structure apart, rounded up to
whole registers. -/
inductive HasSize (structures : List Structure) : Variable → Int → Prop
  | listed {v : Variable} (given : v.size ≠ 0) : HasSize structures v v.size
  | registers {v : Variable} {base : Text} {dimensions : List Nat} (unlisted : v.size = 0)
      (named : splitArrayName v.name = .ok (base, dimensions))
      (plain : Declarations.findStructure? structures v.type = none) :
      HasSize structures v ((v.registerLayout.rows * shapeCount dimensions - 1) * slotSize +
        v.registerLayout.columns * 4)
  | elements {v : Variable} {base : Text} {dimensions : List Nat} {s : Structure}
      {extent stride : Int} (sizes : Variable → Int) (unlisted : v.size = 0)
      (named : splitArrayName v.name = .ok (base, dimensions))
      (found : Declarations.findStructure? structures v.type = some s)
      (sized : ∀ m ∈ s.members, HasSize structures m (sizes m))
      (reaches : IsExtent (s.members.map fun m => m.offset + sizes m) extent)
      (rounded : IsRoundedUp extent stride) :
      HasSize structures v (stride * shapeCount dimensions)

end Variable

/-- The distance between neighbouring elements of a structure. -/
def Structure.HasStride (structures : List Structure) (s : Structure) (stride : Int) : Prop :=
  ∃ (sizes : Variable → Int) (extent : Int), (∀ m ∈ s.members, m.HasSize structures (sizes m)) ∧
    IsExtent (s.members.map fun m => m.offset + sizes m) extent ∧ IsRoundedUp extent stride

variable {structures : List Structure}

/-- Members of equal sizes give a structure one stride. -/
theorem stride_unique {members : List Variable} {sizes sizes' : Variable → Int}
    {extent extent' stride stride' : Int} (same : ∀ m ∈ members, sizes m = sizes' m)
    (reaches : IsExtent (members.map fun m => m.offset + sizes m) extent)
    (reaches' : IsExtent (members.map fun m => m.offset + sizes' m) extent')
    (rounded : IsRoundedUp extent stride) (rounded' : IsRoundedUp extent' stride') :
    stride = stride' := by
  have ends : (members.map fun m => m.offset + sizes m) =
      members.map fun m => m.offset + sizes' m := by
    apply List.map_congr_left
    intro m inside
    rw [same m inside]
  rw [← ends] at reaches'
  rw [reaches.unique reaches'] at rounded
  exact rounded.unique rounded'

theorem Variable.HasSize.unique {v : Variable} {first second : Int}
    (one : v.HasSize structures first) (other : v.HasSize structures second) : first = second := by
  induction one generalizing second with
  | listed given =>
    cases other with
    | listed => rfl
    | registers unlisted => exact absurd unlisted given
    | elements _ unlisted => exact absurd unlisted given
  | registers unlisted named plain =>
    cases other with
    | listed given => exact absurd unlisted given
    | registers _ named' =>
      cases named.symm.trans named'
      rfl
    | elements _ _ _ found => cases plain.symm.trans found
  | elements sizes unlisted named found sized reaches rounded ih =>
    cases other with
    | listed given => exact absurd unlisted given
    | registers _ _ plain => cases plain.symm.trans found
    | elements sizes' _ named' found' sized' reaches' rounded' =>
      cases named.symm.trans named'
      cases found.symm.trans found'
      have same := fun m inside => ih m inside (sized' m inside)
      rw [stride_unique same reaches reaches' rounded rounded']

theorem Structure.HasStride.unique {s : Structure} {first second : Int}
    (one : s.HasStride structures first) (other : s.HasStride structures second) :
    first = second := by
  obtain ⟨sizes, extent, sized, reaches, rounded⟩ := one
  obtain ⟨sizes', extent', sized', reaches', rounded'⟩ := other
  have same := fun m inside => (sized m inside).unique (sized' m inside)
  exact stride_unique same reaches reaches' rounded rounded'

/-- The ends of members that are measured, each by its own size. -/
theorem mapM_ends (members : List Variable) (size : Variable → Except Fault Int) (ends : List Int)
    (measured : (members.mapM fun m => do return m.offset + (← size m)) = .ok ends) :
    ∃ sizes : Variable → Int, (∀ m ∈ members, size m = .ok (sizes m)) ∧
      ends = members.map fun m => m.offset + sizes m := by
  refine ⟨fun m => (size m).toOption.getD 0, ?_⟩
  induction members generalizing ends with
  | nil =>
    cases measured
    exact ⟨by simp, rfl⟩
  | cons m rest ih =>
    rw [List.mapM_cons] at measured
    cases here : size m with
    | error fault =>
      rw [here] at measured
      cases measured
    | ok n =>
      rw [here] at measured
      cases later : rest.mapM fun m => do return m.offset + (← size m) with
      | error fault =>
        rw [later] at measured
        cases measured
      | ok others =>
        rw [later] at measured
        cases measured
        obtain ⟨each, rfl⟩ := ih others later
        refine ⟨?_, ?_⟩
        · intro other inside
          rcases List.mem_cons.mp inside with rfl | inside
          · simp only [here, Except.toOption, Option.getD_some]
          · exact each other inside
        · simp only [List.map_cons, here, Except.toOption, Option.getD_some]

/-- Steps over a list give results exactly if each of them does. -/
theorem mapM_isOk_iff {α β : Type} (values : List α) (step : α → Except Fault β) :
    (∃ results, values.mapM step = .ok results) ↔
      ∀ value ∈ values, ∃ result, step value = .ok result := by
  induction values with
  | nil => simp [pure, Except.pure]
  | cons value rest ih =>
    rw [List.forall_mem_cons, ← ih, List.mapM_cons]
    constructor
    · rintro ⟨results, run⟩
      cases first : step value with
      | error fault =>
        rw [first] at run
        cases run
      | ok result =>
        cases later : rest.mapM step with
        | error fault =>
          rw [first, later] at run
          cases run
        | ok others => exact ⟨⟨result, rfl⟩, others, rfl⟩
    · rintro ⟨⟨result, first⟩, others, later⟩
      exact ⟨result :: others, by rw [first, later]; rfl⟩

/-- The size that a variable is measured to have is its size, if this holds for the strides of
structures. -/
theorem Variable.byteSize_hasSize (room : Nat) (strideOf : Structure → Except Fault Int)
    (sound : ∀ s stride, strideOf s = .ok stride → s.HasStride structures stride)
    (v : Variable) (n : Int) (measured : v.byteSize structures room strideOf = .ok n) :
    v.HasSize structures n := by
  unfold byteSize at measured
  by_cases given : v.size ≠ 0
  · rw [if_pos given] at measured
    cases measured
    exact .listed given
  · have unlisted : v.size = 0 := Decidable.not_not.mp given
    have fits : ¬room < 2 := by
      intro few
      rw [if_neg given, if_pos few] at measured
      cases measured
    rw [if_neg given, if_neg fits] at measured
    cases named : splitArrayName v.name with
    | error fault =>
      rw [named] at measured
      cases measured
    | ok parts =>
      obtain ⟨base, dimensions⟩ := parts
      rw [named] at measured
      cases found : Declarations.findStructure? structures v.type with
      | none =>
        simp only [found] at measured
        cases measured
        simpa using HasSize.registers unlisted named found
      | some s =>
        simp only [found] at measured
        cases spaced : strideOf s with
        | error fault =>
          rw [spaced] at measured
          cases measured
        | ok stride =>
          rw [spaced] at measured
          cases measured
          obtain ⟨sizes, extent, sized, reaches, rounded⟩ := sound s stride spaced
          exact .elements sizes unlisted named found sized reaches rounded

/-- Each level through which a structure is measured takes four calls. -/
theorem room_induction {motive : Nat → Prop} (few : ∀ room < 4, motive room)
    (more : ∀ room, motive room → motive (room + 4)) (room : Nat) : motive room := by
  induction room using Nat.strongRecOn with
  | ind room ih =>
    by_cases small : room < 4
    · exact few room small
    · obtain ⟨less, rfl⟩ := Nat.exists_eq_add_of_le' (Nat.not_lt.mp small)
      exact more less (ih less (by omega))

theorem Structure.stride_of_few {room : Nat} (few : room < 4) (s : Structure) :
    s.stride structures room =
      if room = 3 ∧ s.members = [] then .ok 0 else .error (@Fault.endlessStructure false) := by
  unfold Structure.stride
  split
  · omega
  · rfl

/-- The stride that a structure is measured to have is its stride. -/
theorem Structure.stride_hasStride (room : Nat) (s : Structure) (stride : Int)
    (measured : s.stride structures room = .ok stride) : s.HasStride structures stride := by
  induction room using room_induction generalizing s stride with
  | few room few =>
    rw [stride_of_few few] at measured
    split at measured
    · rename_i empty
      cases measured
      rw [Structure.HasStride, empty.2]
      exact ⟨fun _ => 0, _, List.forall_mem_nil _, isExtent_largest [], isRoundedUp_fdiv _⟩
    · cases measured
  | more room ih =>
    unfold Structure.stride at measured
    cases found : s.members.mapM fun m => do
        return m.offset + (← m.byteSize structures room (Structure.stride structures room)) with
    | error fault =>
      rw [found] at measured
      cases measured
    | ok ends =>
      rw [found] at measured
      cases measured
      obtain ⟨sizes, each, rfl⟩ := mapM_ends _ _ _ found
      refine ⟨sizes, _, ?_, isExtent_largest _, isRoundedUp_fdiv _⟩
      intro m inside
      exact m.byteSize_hasSize room _ ih _ (each m inside)

end ShaderLift
