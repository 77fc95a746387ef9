import Mathlib.Data.List.Forall2
import ShaderLift.Proofs.Faults.Resolvable
import ShaderLift.Proofs.Shader.Lines

namespace ShaderLift

namespace Resource

/-- A binding covers as many registers as its count says, and at least one. -/
def Covers (r : Resource) (register : Int) : Prop :=
  r.bind ≤ register ∧ register < r.bind + max r.count 1

instance (r : Resource) (register : Int) : Decidable (r.Covers register) :=
  inferInstanceAs (Decidable (_ ∧ _))

/-- The register at a place of a binding. -/
def entryAt (r : Resource) (shape : ResourceShape) (index : Nat) : ResourceEntry :=
  { name := r.name, type := shape.type, kind := r.kind, register := r.bind + index,
    dimension := shape.dimension, arraySize := r.span, arrayIndex := index,
    structureName := shape.structureName }

variable {r : Resource}

theorem span_eq (r : Resource) : (r.span : Int) = max r.count 1 := by
  unfold span
  omega

theorem entries_eq (complete : r.writableSpan = r.span) (shape : ResourceShape) :
    r.entries shape = (List.range r.span).map (r.entryAt shape) := by
  rw [entries, complete]
  rfl

theorem covers_iff {register : Int} :
    r.Covers register ↔ ∃ index < r.span, register = r.bind + index := by
  have length := r.span_eq
  unfold Covers
  constructor
  · intro covers
    exact ⟨(register - r.bind).toNat, by omega, by omega⟩
  · rintro ⟨index, inside, rfl⟩
    omega

/-- The registers of a binding, looked up by their number. -/
theorem lookup_entries (complete : r.writableSpan = r.span) (shape : ResourceShape) (mark : Char)
    (register : Int) :
    ((r.entries shape).map fun entry => (mark :: Text.ofInt entry.register, entry)).lookup
        (mark :: Text.ofInt register) =
      if r.Covers register then some (r.entryAt shape (register - r.bind).toNat) else none := by
  rw [← Table.get?_ofFirsts, entries_eq complete]
  have place {index : Nat}
      (same : mark :: Text.ofInt (r.entryAt shape index).register = mark :: Text.ofInt register) :
      r.bind + index = register := Text.ofInt_inj (List.cons.inj same).2
  by_cases covers : r.Covers register
  · rw [if_pos covers]
    obtain ⟨index, inside, rfl⟩ := covers_iff.mp covers
    have index_eq : (r.bind + index - r.bind).toNat = index := by omega
    rw [index_eq]
    apply Table.get?_ofFirsts_of_unique
    · exact List.mem_map.mpr
        ⟨_, List.mem_map.mpr ⟨index, List.mem_range.mpr inside, rfl⟩, rfl⟩
    · intro other among
      obtain ⟨entry, within, same⟩ := List.mem_map.mp among
      obtain ⟨position, _, rfl⟩ := List.mem_map.mp within
      have equal : position = index := by
        have := place (Prod.mk.inj same).1
        omega
      rw [← (Prod.mk.inj same).2, equal]
  · rw [if_neg covers]
    apply Table.get?_ofFirsts_eq_none
    intro other among
    obtain ⟨entry, within, same⟩ := List.mem_map.mp among
    obtain ⟨position, inside, rfl⟩ := List.mem_map.mp within
    exact covers (covers_iff.mpr
      ⟨position, List.mem_range.mp inside, (place (Prod.mk.inj same).1).symm⟩)

theorem expandedName_entryAt (shape : ResourceShape) (index : Nat) :
    (r.entryAt shape index).expandedName =
      if r.count ≤ 1 then r.name else r.name ++ "[" ++ Text.ofInt index ++ "]" := by
  have length := r.span_eq
  unfold ResourceEntry.expandedName entryAt
  by_cases single : r.count ≤ 1
  · rw [if_pos single, if_neg]
    dsimp only
    omega
  · rw [if_neg single, if_pos]
    dsimp only
    omega

end Resource

namespace ResourceTables

variable {mark : Char} {shaped : List (Resource × ResourceShape)}

theorem reached_eq (complete : ∀ entry ∈ shaped, entry.1.writableSpan = entry.1.span) :
    reached shaped = shaped := by
  induction shaped with
  | nil => rfl
  | cons first rest ih =>
    rw [List.forall_mem_cons] at complete
    rw [reached, if_pos complete.1, ih complete.2]

/-- The binding that is listed first among those that cover a register has it. -/
theorem get?_register (complete : ∀ entry ∈ shaped, entry.1.writableSpan = entry.1.span)
    (register : Int) :
    (ofShapes mark shaped).registers.get? (mark :: Text.ofInt register) =
      (shaped.find? fun entry => entry.1.Covers register).map fun entry =>
        entry.1.entryAt entry.2 (register - entry.1.bind).toNat := by
  unfold ofShapes
  dsimp only
  rw [reached_eq complete, Table.get?_ofFirsts]
  induction shaped with
  | nil => rfl
  | cons first rest ih =>
    rw [List.forall_mem_cons] at complete
    rw [List.map_cons, List.flatten_cons, List.map_append, List.lookup_append, ih complete.2,
      Resource.lookup_entries complete.1, List.find?_cons]
    by_cases covers : first.1.Covers register
    · simp [covers]
    · simp [covers]

theorem name_of_get? {name : Text} {entry : ResourceEntry}
    (found : (ofShapes mark shaped).registers.get? name = some entry) :
    name = mark :: Text.ofInt entry.register := by
  unfold ofShapes at found
  dsimp only at found
  rw [Table.get?_ofFirsts] at found
  obtain ⟨_, _, same⟩ := List.mem_map.mp (Table.mem_of_get? found)
  rw [← (Prod.mk.inj same).1, (Prod.mk.inj same).2]

/-- The first register of each binding stands for its declaration. -/
theorem declared_ofShapes (complete : ∀ entry ∈ shaped, entry.1.writableSpan = entry.1.span) :
    (ofShapes mark shaped).declared = shaped.map fun entry => entry.1.entryAt entry.2 0 := by
  unfold ofShapes
  dsimp only
  rw [reached_eq complete, List.filterMap_map]
  induction shaped with
  | nil => rfl
  | cons first rest ih =>
    rw [List.forall_mem_cons] at complete
    have some : 0 < first.1.span := by
      have length := first.1.span_eq
      omega
    have head : (first.1.entries first.2).head? = Option.some (first.1.entryAt first.2 0) := by
      obtain ⟨more, length⟩ := Nat.exists_eq_add_of_lt some
      rw [Resource.entries_eq complete.1, length, Nat.zero_add, List.range_succ_eq_map]
      rfl
    rw [List.filterMap_cons, Function.comp_apply, head, ih complete.2]
    rfl

end ResourceTables

/-- The classes of bindings that have registers of their own. -/
inductive ResourceClass where
  | texture | sampler | uav
  deriving DecidableEq

namespace ResourceClass

/-- The letter of the registers. -/
def mark : ResourceClass → Char
  | texture => 't'
  | sampler => 's'
  | uav => 'u'

def kinds : ResourceClass → List ResourceKind
  | texture => [.texture]
  | sampler => [.sampler, .comparisonSampler]
  | uav => [.uav]

/-- The bindings of a class, in the order of the listing. -/
def bindings (c : ResourceClass) (d : Declarations) : List Resource :=
  d.resources.filter fun r => r.kind ∈ c.kinds

def tables (c : ResourceClass) (registers : Registers) : ResourceTables :=
  match c with
  | texture => registers.textures
  | sampler => registers.samplers
  | uav => registers.uavs

/-- The tables of a class are those of its bindings, each with some shape. -/
theorem exists_shaped {d : Declarations} (returns : d.resolve.fault = none) (c : ResourceClass) :
    ∃ shaped, c.tables d.resolve.registers = .ofShapes c.mark shaped ∧
      shaped.map Prod.fst = c.bindings d ∧
      ∀ entry ∈ shaped, entry.1.writableSpan = entry.1.span := by
  obtain ⟨whole, sampled, viewed⟩ := Declarations.resources_resolve returns
  cases c with
  | texture =>
    refine ⟨_, rfl, ?_, (ResourceTables.fault_ofShapes_eq_none_iff _ _).mp whole.textures⟩
    rw [List.map_map]
    simp [bindings, kinds, Function.comp_def]
  | sampler =>
    refine ⟨_, sampled, ?_, (ResourceTables.fault_ofShapes_eq_none_iff _ _).mp whole.samplers⟩
    rw [List.map_map]
    have first : (Prod.fst ∘ fun (entry : Resource × Nat) =>
        (entry.1, entry.1.samplerShape (d.resources.filter (·.kind = .texture)) entry.2)) =
        Prod.fst := rfl
    rw [first, List.zipIdx_map_fst]
    simp [bindings, kinds]
  | uav =>
    refine ⟨_, viewed, ?_, (ResourceTables.fault_ofShapes_eq_none_iff _ _).mp whole.uavs⟩
    rw [List.map_map]
    simp [bindings, kinds, Function.comp_def]

end ResourceClass

/-- The line that declares a binding: its type and name, the size of the array unless it is one, and
its first register. -/
def Resource.IsDeclaredBy (r : Resource) (mark : Char) (line : Text) : Prop :=
  ∃ type : Text,
    let array : Text := if r.count ≤ 1 then "" else "[" ++ Text.ofInt r.count ++ "]"
    line = type ++ " " ++ r.name ++ array ++ " : register(" ++ mark :: Text.ofInt r.bind ++ ");"

theorem Resource.isDeclaredBy_entryAt (r : Resource) (shape : ResourceShape) (mark : Char) :
    r.IsDeclaredBy mark (ShaderSource.resourceDeclaration mark (r.entryAt shape 0)) := by
  have length := r.span_eq
  refine ⟨shape.type, ?_⟩
  unfold ShaderSource.resourceDeclaration
  have bind : (r.entryAt shape 0).register = r.bind := by simp [entryAt]
  rw [bind]
  by_cases single : r.count ≤ 1
  · have size : ¬1 < (r.entryAt shape 0).arraySize := by
      simp only [entryAt]
      omega
    simp only [if_pos single, if_neg size]
    rfl
  · have size : (r.entryAt shape 0).arraySize = r.count := by
      simp only [entryAt]
      omega
    simp only [if_neg single, size, if_pos (Int.not_le.mp single)]
    rfl

namespace ResourceClass

variable {d : Declarations}

theorem isSome_get?_iff (returns : d.resolve.fault = none) (c : ResourceClass) (register : Int) :
    ((c.tables d.resolve.registers).registers.get? (c.mark :: Text.ofInt register)).isSome = true ↔
      ∃ r ∈ c.bindings d, r.Covers register := by
  obtain ⟨shaped, tables, listed, complete⟩ := exists_shaped returns c
  rw [tables, ResourceTables.get?_register complete, Option.isSome_map, ← listed,
    List.find?_isSome]
  simp

/-- An entry is an element of the first listed binding that covers its register. -/
theorem exists_binding (returns : d.resolve.fault = none) (c : ResourceClass) {register : Int}
    {entry : ResourceEntry}
    (found : (c.tables d.resolve.registers).registers.get? (c.mark :: Text.ofInt register) =
      some entry) :
    ∃ (r : Resource) (shape : ResourceShape) (index : Nat), register = r.bind + index ∧
      (c.bindings d).find? (fun r => r.Covers register) = some r ∧ entry = r.entryAt shape index := by
  obtain ⟨shaped, tables, listed, complete⟩ := exists_shaped returns c
  rw [tables, ResourceTables.get?_register complete] at found
  obtain ⟨⟨r, shape⟩, first, rfl⟩ := Option.map_eq_some_iff.mp found
  have covers : r.Covers register := by simpa using List.find?_some first
  refine ⟨r, shape, (register - r.bind).toNat, ?_, ?_, rfl⟩
  · unfold Resource.Covers at covers
    omega
  · rw [← listed, List.find?_map]
    exact congrArg (Option.map Prod.fst) first

theorem forall₂_declared (returns : d.resolve.fault = none) (c : ResourceClass) :
    List.Forall₂ (fun r line => r.IsDeclaredBy c.mark line) (c.bindings d)
      ((c.tables d.resolve.registers).declared.map (ShaderSource.resourceDeclaration c.mark)) := by
  obtain ⟨shaped, tables, listed, complete⟩ := exists_shaped returns c
  rw [tables, ← listed, ResourceTables.declared_ofShapes complete, List.map_map,
    List.forall₂_map_left_iff, List.forall₂_map_right_iff, List.forall₂_same]
  exact fun entry _ => entry.1.isDeclaredBy_entryAt entry.2 c.mark

end ResourceClass

/-- Registers and declarations of bindings agree. A register has an entry exactly if a binding
covers it; the entry is the element of the first such binding that its distance from the slot says.
The source declares every binding once, in the order of the listing, with its size and at its slot,
so that slot and index of an entry add up to the register of each operand that it stands for. -/
theorem resource_arrays_agree (d : Declarations) (returns : d.resolve.fault = none) :
    (∀ (c : ResourceClass) (register : Int),
      let found := (c.tables d.resolve.registers).registers.get? (c.mark :: Text.ofInt register)
      (found.isSome = true ↔ ∃ r ∈ c.bindings d, r.Covers register) ∧
      ∀ entry, found = some entry →
        ∃ r, (c.bindings d).find? (fun r => r.Covers register) = some r ∧
          entry.name = r.name ∧ entry.register = register ∧
          entry.arrayIndex = register - r.bind ∧ entry.arraySize = max r.count 1 ∧
          entry.expandedName =
            if r.count ≤ 1 then r.name
            else r.name ++ "[" ++ Text.ofInt (register - r.bind) ++ "]") ∧
    (∀ u : ShaderSource, u.symbols.registers = d.resolve.registers →
      ∃ lines : ResourceClass → List Text,
        (∀ c : ResourceClass,
          List.Forall₂ (fun r line => r.IsDeclaredBy c.mark line) (c.bindings d) (lines c)) ∧
        u.resources = lines .texture ++ lines .uav ++ lines .sampler ∧
        (u.resources ≠ [] → ∃ front back, u.render =
          front ++ '\n' :: Text.join ['\n'] u.resources ++ '\n' :: back)) ∧
    (∀ (c : ResourceClass) (operand : Text) (entry : ResourceEntry),
      Registers.behind? (c.tables d.resolve.registers) operand = some entry →
      ∃ r, (c.bindings d).find? (fun other => other.Covers (r.bind + entry.arrayIndex)) = some r ∧
        entry.name = r.name ∧
        (Operand.splitSelector (Operand.splitModifiers operand).inner).1 =
          c.mark :: Text.ofInt (r.bind + entry.arrayIndex)) := by
  refine ⟨?_, ?_, ?_⟩
  · intro c register found
    refine ⟨c.isSome_get?_iff returns register, fun entry listed => ?_⟩
    obtain ⟨r, shape, index, rfl, first, rfl⟩ := c.exists_binding returns listed
    have distance : r.bind + (index : Int) - r.bind = index := by omega
    refine ⟨r, first, rfl, rfl, distance.symm, r.span_eq, ?_⟩
    rw [distance]
    exact Resource.expandedName_entryAt shape index
  · intro u resolved
    refine ⟨fun c => (c.tables d.resolve.registers).declared.map
      (ShaderSource.resourceDeclaration c.mark), fun c => c.forall₂_declared returns, ?_, ?_⟩
    · rw [ShaderSource.resources, resolved]
      rfl
    · exact u.isInfix_render (by simp [ShaderSource.middle]) (List.infix_refl _)
  · intro c operand entry found
    obtain ⟨shaped, tables, _, _⟩ := ResourceClass.exists_shaped returns c
    have name := found
    rw [Registers.behind?, tables] at name
    have written := ResourceTables.name_of_get? name
    rw [Registers.behind?, written] at found
    obtain ⟨r, shape, index, register, first, rfl⟩ := c.exists_binding returns found
    exact ⟨r, first, rfl, written⟩

/-- Two texture arrays, the second of which starts inside the first. -/
def overlappingTextures : Declarations where
  resources :=
    [{ name := "shadows", kind := .texture, format := "float4", dimension := "2d", bind := 2,
        bindName := "t2", count := 3 },
      { name := "masks", kind := .texture, format := "float4", dimension := "2d", bind := 4,
        bindName := "t4", count := 2 }]

theorem resource_arrays_agree_overlapping :
    let registers := overlappingTextures.resolve.registers
    let source : ShaderSource := ⟨⟨overlappingTextures, registers⟩, {}, {}⟩
    overlappingTextures.resolve.fault = none ∧
    (∃ entry, registers.textures.registers.get? "t4" = some entry ∧ entry.name = "shadows" ∧
      entry.arrayIndex = 2 ∧ entry.expandedName = "shadows[2]") ∧
    (∃ entry, registers.textures.registers.get? "t5" = some entry ∧ entry.name = "masks" ∧
      entry.arrayIndex = 1 ∧ entry.expandedName = "masks[1]") ∧
    ¬(registers.textures.registers.get? "t6").isSome = true ∧
    ∃ front back, source.render =
      front ++ '\n' :: Text.join ['\n'] source.resources ++ '\n' :: back := by
  intro registers source
  have returns : overlappingTextures.resolve.fault = none := by decide +kernel
  obtain ⟨covered, declared, _⟩ := resource_arrays_agree overlappingTextures returns
  have element (name : Text) (r : Resource) (register : Int)
      (first : (ResourceClass.texture.bindings overlappingTextures).find?
        (fun r => r.Covers register) = some r)
      (written : ResourceClass.texture.mark :: Text.ofInt register = name)
      (several : ¬r.count ≤ 1) :
      ∃ entry, registers.textures.registers.get? name = some entry ∧ entry.name = r.name ∧
        entry.arrayIndex = register - r.bind ∧
        entry.expandedName = r.name ++ "[" ++ Text.ofInt (register - r.bind) ++ "]" := by
    obtain ⟨exists_iff, describes⟩ := covered .texture register
    have covers : r.Covers register := by simpa using List.find?_some first
    obtain ⟨entry, found⟩ := Option.isSome_iff_exists.mp
      (exists_iff.mpr ⟨r, List.mem_of_find?_eq_some first, covers⟩)
    obtain ⟨r', first', named, _, index, _, expanded⟩ := describes entry found
    rw [first] at first'
    cases first'
    rw [if_neg several] at expanded
    rw [written] at found
    exact ⟨entry, found, named, index, expanded⟩
  refine ⟨returns, element "t4" _ 4 rfl rfl (by decide), element "t5" _ 5 rfl rfl (by decide), ?_, ?_⟩
  · intro found
    obtain ⟨r, inside, covers⟩ := (covered .texture 6).1.mp found
    revert covers
    revert r
    decide
  · obtain ⟨_, _, _, shown⟩ := declared source rfl
    exact shown (by decide +kernel)

end ShaderLift
