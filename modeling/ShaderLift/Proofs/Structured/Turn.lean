import ShaderLift.Proofs.Lanes.Split
import ShaderLift.Proofs.Structured.Operands

namespace ShaderLift

open Operand

namespace StructuredInstruction

/-- The operands as they are listed. -/
def listed : StructuredInstruction → List Text
  | load target _ address selected =>
    [target.listed, address.index.listed, address.offset,
      address.base ++ Component.suffix selected]
  | store address mask source =>
    [address.base ++ Component.suffix mask, address.index.listed, address.offset, source.listed]

/-- The index of an element, as an integer. -/
def index (i : StructuredInstruction) : Text := asInteger i.address.index.text .unsigned

/-- The statement that is added, when the buffer behind an entry has the members. -/
def statement (members : List Variable) (entry : ResourceEntry) (depth : Nat) (saturate : Bool)
    (i : StructuredInstruction) : Statement :=
  let element := Decoding.elementAccess (operandOf entry []) i.index
  match i with
  | load target _ _ _ =>
    .assign depth (Decoding.dropFullSelector target.text)
      ((i.access members).loaded members element) saturate
  | store _ _ source =>
    .code depth ((i.access members).text element ++ " = " ++
      (i.access members).stored members source.text ++ ";")

/-- The operands can be read. A name of a member is not taken for a selector: where a load fits a
selector, the name of a scalar is none or stays as it is. -/
inductive IsProper (registers : Registers) (members : List Variable) :
    StructuredInstruction → Prop
  | load {target : ReadOperand} {mask selected : List Component} {address : ElementAddress}
      (filled : mask ≠ []) (ordered : mask.Sublist Component.all)
      (names : target.IsTarget registers mask)
      (index : address.index.IsRead registers (.first 1))
      (offset : registers.IsOffset address.offset) (selects : selected ≠ [])
      (short : selected.length ≤ 4)
      (keeps : ∀ m ∈ members, m.Spans address.first → ElementType.count m.type = 1 →
        Decoding.isIntegerType m.type = false → KeepsName m.name mask) :
      IsProper registers members (load target mask address selected)
  | store {address : ElementAddress} {mask : List Component} {source : ReadOperand}
      (filled : mask ≠ []) (ordered : mask.Sublist Component.all)
      (index : address.index.IsRead registers (.first 1))
      (offset : registers.IsOffset address.offset)
      (value : source.IsRead registers (.first mask.length)) :
      IsProper registers members (store address mask source)

variable {registers : Registers} {members : List Variable} {i : StructuredInstruction}

theorem IsProper.filled (proper : i.IsProper registers members) : i.mask ≠ [] := by
  cases proper with
  | load filled => exact filled
  | store filled => exact filled

theorem IsProper.ordered (proper : i.IsProper registers members) :
    i.mask.Sublist Component.all := by
  cases proper with
  | load _ ordered => exact ordered
  | store _ ordered => exact ordered

end StructuredInstruction

namespace Decoding

/-- The letters on a buffer are repeated up to four. -/
theorem laneComponents_eq {selected : List Component} (selects : selected ≠ []) :
    laneComponents selected = Component.all.map (letterAt selected) := by
  have positive := List.length_pos_iff.mpr selects
  have lettered : selected.isEmpty = false := List.isEmpty_eq_false_iff.mpr selects
  have each : (fun place => selected[place % selected.length]?) =
      some ∘ fun place => selected.getD (place % selected.length) .x := by
    funext place
    have small := Nat.mod_lt place positive
    simp [small]
  simp only [laneComponents, cycled, lettered, Bool.false_eq_true, if_false, each,
    List.filterMap_eq_map]
  rfl

section Load

variable {env : Environment} {registers : Registers} {members : List Variable}
  {resource : ResourceOperand} {target : ReadOperand} {mask selected : List Component}
  {address : ElementAddress} {m : Variable}

/-- Integers are not fitted to the lanes: the letters are those on the buffer. -/
theorem access_integer (element : IsElement members) (known : m ∈ members)
    (spans : m.Spans address.first) (integer : isIntegerType m.type = true) :
    (StructuredInstruction.load target mask address selected).access members =
      accessAt members address.first (Component.all.map (letterAt selected)) := by
  simp only [StructuredInstruction.access, StructuredInstruction.letters,
    StructuredInstruction.address, memberAt?_of_spans element known spans, Option.any_some, integer,
    if_true]

theorem access_float (element : IsElement members) (known : m ∈ members)
    (spans : m.Spans address.first) (float : isIntegerType m.type = false) :
    (StructuredInstruction.load target mask address selected).access members =
      accessAt members address.first (mask.map (letterAt selected)) := by
  simp only [StructuredInstruction.access, StructuredInstruction.letters,
    StructuredInstruction.address, memberAt?_of_spans element known spans, Option.any_some, float,
    Bool.false_eq_true, if_false]

theorem member?_accessAt (element : IsElement members) (known : m ∈ members) {first : Int}
    (spans : m.Spans first) (letters : List Component) :
    (accessAt members first letters).member? members = some m := by
  simp only [accessAt, memberAt?_of_spans element known spans]
  exact Access.member?_eq element known _

/-- What a load accesses, cast to the components that are written. -/
theorem cast_loaded (resource : ResourceOperand) (target : ReadOperand) (selected : List Component)
    (element : IsElement members)
    (named : registers.IsBufferName resource.name) (index : Text)
    (filled : mask ≠ []) (ordered : mask.Sublist Component.all)
    (keeps : ElementType.count m.type = 1 → isIntegerType m.type = false → KeepsName m.name mask)
    (known : m ∈ members) (spans : m.Spans address.first) :
    let whole := (accessAt members address.first (Component.all.map (letterAt selected))).text
      (elementAccess resource index)
    registers.cast (if isIntegerType m.type then asFloat whole else whole) (.ofComponents mask) =
      .ok (((StructuredInstruction.load target mask address selected).access members).loaded
        members (elementAccess resource index)) := by
  intro whole
  cases integer : isIntegerType m.type with
  | true =>
    rw [access_integer element known spans integer, Access.loaded,
      member?_accessAt element known spans, Option.any_some, integer]
    exact Registers.cast_asFloat named whole filled
  | false =>
    rw [access_float element known spans integer, Access.loaded,
      member?_accessAt element known spans, Option.any_some, integer]
    simp only [whole, Bool.false_eq_true, Bool.not_false, if_false, if_true]
    rcases element.scalar_or_vector known with scalar | vector
    · rw [accessAt_scalar element known spans scalar, accessAt_scalar element known spans scalar]
      simp only [Access.text, Component.suffix, List.append_nil]
      exact Registers.cast_scalar named index filled (element.undotted m known)
        (keeps scalar integer)
    · rw [accessAt_vector element known spans vector, accessAt_vector element known spans vector,
        List.map_map, List.map_map]
      exact Registers.cast_vector named index m.name _ filled ordered

end Load

section Run

variable {env : Environment} {declared : Declarations} {d : Decoder} {start rest : List Token}
  {operands : List (List Token)} {log : Log} {entry : ResourceEntry} {members : List Variable}

theorem runOn_offset_bind {α : Type} (returns : declared.resolve.fault = none)
    (tables : env.symbols.registers = declared.resolve.registers) {digits : Text}
    (offset : env.symbols.registers.IsOffset digits) (next : Text → Decoding α) (d : Decoder) :
    runOn (scalar digits >>= next) env d = runOn (next digits) env d := by
  have single : [Component.x] ≠ [] := List.cons_ne_nil _ _
  have read : (⟨digits, digits⟩ : ReadOperand).IsRead env.symbols.registers (.first 1) := by
    rw [tables] at offset ⊢
    exact ⟨digits, offset.resolved returns, offset.cast single⟩
  exact runOn_scalar_bind read next d

theorem flatten_four (first second third fourth : List Token) :
    [first, second, third, fourth].flatten = [] ++ first ++ second ++ third ++ fourth := by
  simp

theorem runOn_loadStructured (returns : declared.resolve.fault = none)
    (tables : env.symbols.registers = declared.resolve.registers) (element : IsElement members)
    {target : ReadOperand} {mask selected : List Component} {address : ElementAddress}
    (buffer : IsBuffer env d.context address.base entry members)
    (proper : (StructuredInstruction.load target mask address selected).IsProper
      env.symbols.registers members)
    (read : OperandRun d.line start operands
      (StructuredInstruction.load target mask address selected).listed rest) :
    let i := StructuredInstruction.load target mask address selected
    ∃ log', runOn loadStructured env (d.past [] start log) =
      (.ok (), (d.past operands.flatten rest log').adding
        [i.statement members entry d.context.depth.toNat d.clamps]) := by
  intro i
  cases proper with
  | load filled ordered names index offset selects short keeps =>
  obtain _ | ⟨written, _ | ⟨indexed, _ | ⟨shifted, _ | ⟨resource, _ | _⟩⟩⟩⟩ := read
  rw [loadStructured, runOn_target_bind names written,
    runOn_raw_bind indexed, runOn_scalar_bind index, runOn_raw_bind shifted,
    runOn_offset_bind returns tables offset, runOn_resource_bind buffer selects short resource]
  have unshared : (operandOf entry selected).isShared = false := rfl
  have structured : elementMembers env.symbols.declared.structures (operandOf entry selected) =
      members := buffer.structured
  have four : Component.all.map (letterAt selected) ≠ [] := List.cons_ne_nil _ _
  have shape : (destinationOf target.listed target.text).shape = .ofComponents mask := names.selects
  have lettered : laneComponents (operandOf entry selected).selected =
      Component.all.map (letterAt selected) := laneComponents_eq selects
  simp only [unshared, lettered, shape, Bool.false_eq_true, if_false, flatten_four]
  rw [runOn_member_bind element structured offset four]
  rcases memberAt?_cases members address.first with ⟨none, _⟩ | ⟨m, known, spans, found⟩
  · have whole : i.access members = .element := accessAt_outside none
    refine ⟨log ++ [.noMember entry.expandedName address.offset d.line], ?_⟩
    simp only [none, Option.map_none, runOn_bind, runOn_get, runOn_note]
    rw [runOn_assign_named names.named, StructuredInstruction.statement, whole]
    rfl
  · have casts := cast_loaded (operandOf entry selected) target selected element buffer.named
      i.index filled ordered (keeps m known spans) known spans
    refine ⟨log, ?_⟩
    rw [found]
    refine (runOn_bind_of_ok _ _ _ _ _ _ ?_).trans (runOn_assign_named names.named _ _)
    exact congrArg (·, d.past _ rest log) casts

theorem runOn_emit_line (front : Text) (d : Decoder) :
    runOn (emit (front ++ ";")) env d =
      (.ok (), d.adding [.code d.context.depth.toNat (front ++ ";")]) := by
  have code : Statement.ofText d.context.depth.toNat (front ++ ";") =
      .code d.context.depth.toNat (front ++ ";") := if_neg (by simp)
  rw [emit, runOn_modifyContext, code]
  rfl

theorem runOn_storeStructured (returns : declared.resolve.fault = none)
    (tables : env.symbols.registers = declared.resolve.registers) (element : IsElement members)
    {mask : List Component} {address : ElementAddress} {source : ReadOperand}
    (buffer : IsBuffer env d.context address.base entry members)
    (proper : (StructuredInstruction.store address mask source).IsProper env.symbols.registers
      members)
    (read : OperandRun d.line start operands
      (StructuredInstruction.store address mask source).listed rest) :
    let i := StructuredInstruction.store address mask source
    ∃ log', runOn storeStructured env (d.past [] start log) =
      (.ok (), (d.past operands.flatten rest log').adding
        [i.statement members entry d.context.depth.toNat d.clamps]) := by
  intro i
  cases proper with
  | store filled ordered index offset value =>
  obtain _ | ⟨resource, _ | ⟨indexed, _ | ⟨shifted, _ | ⟨stored, _ | _⟩⟩⟩⟩ := read
  have masked : storedComponents (operandOf entry mask) = mask := by
    simp [storedComponents, operandOf, filled]
  have unshared : (operandOf entry mask).isShared = false := rfl
  have structured : elementMembers env.symbols.declared.structures (operandOf entry mask) =
      members := buffer.structured
  rw [storeStructured, runOn_resource_bind buffer filled ordered.length_le resource,
    runOn_raw_bind indexed, runOn_scalar_bind index, runOn_raw_bind shifted,
    runOn_offset_bind returns tables offset]
  dsimp only
  rw [masked, runOn_read_bind value stored]
  simp only [unshared, Bool.false_eq_true, if_false, flatten_four]
  rw [runOn_member_bind element structured offset filled]
  rcases memberAt?_cases members address.first with ⟨none, _⟩ | ⟨m, known, spans, found⟩
  · have whole : i.access members = .element := accessAt_outside none
    refine ⟨log ++ [.noMember entry.expandedName address.offset d.line], ?_⟩
    simp only [none, Option.map_none, runOn_bind, runOn_get, runOn_note]
    rw [runOn_emit_line, StructuredInstruction.statement, whole]
    rfl
  · have member : (i.access members).member? members = some m :=
      member?_accessAt element known spans _
    refine ⟨log, ?_⟩
    simp only [found, Option.map_some, StructuredInstruction.statement, Access.stored, member]
    exact runOn_emit_line _ _

theorem runOn_dispatch_structured (returns : declared.resolve.fault = none)
    (tables : env.symbols.registers = declared.resolve.registers) (element : IsElement members)
    {i : StructuredInstruction} (buffer : IsBuffer env d.context i.address.base entry members)
    (proper : i.IsProper env.symbols.registers members) {instruction : Instruction}
    (family : instruction.opcode.family = i.family) (log : Log)
    (read : OperandRun d.line start operands i.listed rest) :
    ∃ log', runOn (dispatch instruction) env (d.past [] start log) =
      (.ok (), (d.past operands.flatten rest log').adding
        [i.statement members entry d.context.depth.toNat d.clamps]) := by
  unfold dispatch
  dsimp only
  rw [family]
  cases i with
  | load target mask address selected =>
    exact runOn_loadStructured returns tables element buffer proper read
  | store address mask source =>
    exact runOn_storeStructured returns tables element buffer proper read

end Run

/-- A load or store of a structured buffer at a literal offset completes and adds one statement.
Each of its lanes is loaded from the word that holds the lane's byte, or stored there and nowhere
else, exactly if one member lies over the first byte and over those of all lanes, and no lane of an
integer is taken from another place. -/
theorem turn_structured_accurate_iff (declared : Declarations)
    (returns : declared.resolve.fault = none) (env : Environment)
    (tables : env.symbols.registers = declared.resolve.registers)
    (d : Decoder) (mnemonic : Token) (modifiers start rest : List Token)
    (ahead : d.cursor.rest = mnemonic :: (modifiers ++ start)) (named instruction : Instruction)
    (classified : Instruction.classify? mnemonic.text = some named)
    (modified : Modifiers (some mnemonic.line) named modifiers start instruction)
    (i : StructuredInstruction) (family : instruction.opcode.family = i.family)
    (entry : ResourceEntry) (members : List Variable) (element : IsElement members)
    (buffer : IsBuffer env d.context i.address.base entry members)
    (proper : i.IsProper env.symbols.registers members) (operands : List (List Token))
    (read : OperandRun (some mnemonic.line) start operands i.listed rest) :
    ∃ after, runOn turn env d = (.ok (), after) ∧
      after.context = { d.context with
        statements := d.context.statements ++
          [i.statement members entry d.context.depth.toNat
            instruction.saturate] } ∧
      (i.IsAccurate members (i.access members) ↔ i.FitsMember members) := by
  have started := runOn_turn env d mnemonic modifiers start named instruction ahead classified
    modified
  obtain ⟨log, dispatched⟩ := runOn_dispatch_structured
    (d := atOperands d mnemonic modifiers start instruction) returns tables element buffer proper
    family d.log read
  have accurate := StructuredInstruction.isAccurate_access_iff element proper.filled proper.ordered
  exact ⟨_, started.trans dispatched, rfl, accurate⟩

/-- The members of an element: a vector, a scalar and a vector of integers. -/
def particle : List Variable :=
  [⟨"float3", "position", 0, 0, .default⟩, ⟨"float", "life", 12, 0, .default⟩,
    ⟨"uint4", "ids", 16, 0, .default⟩]

/-- Two buffers of such elements, one to load from and one to store to. -/
def particleListing : Declarations :=
  { resources := [⟨"past", .texture, "struct", "r/o", 0, "0", 1⟩,
      ⟨"next", .uav, "struct", "r/w", 1, "1", 1⟩]
    structures := [⟨"Particle", particle⟩]
    elementStructures := [("past", "Particle"), ("next", "Particle")] }

def particleEnvironment : Environment :=
  { symbols := ⟨particleListing.resolve.declared, particleListing.resolve.registers⟩ }

def pastEntry : ResourceEntry :=
  ⟨"past", "StructuredBuffer<Particle>", .texture, 0, 1, 1, 0, some "Particle"⟩

def nextEntry : ResourceEntry :=
  ⟨"next", "RWStructuredBuffer<Particle>", .uav, 1, 1, 1, 0, some "Particle"⟩

theorem isElement_particle : IsElement particle :=
  ⟨by decide, by decide, by decide, by decide⟩

/-- A load of the second integer. -/
def loadSecondId : StructuredInstruction :=
  .load ⟨"r0.y", "r0.y"⟩ [.y] ⟨"t0", ⟨"r1.x", "r1.x"⟩, "16"⟩ Component.all

/-- A load of a vector and the scalar behind it. -/
def loadWithLife : StructuredInstruction :=
  .load ⟨"r0.xyzw", "r0.xyzw"⟩ Component.all ⟨"t0", ⟨"r1.x", "r1.x"⟩, "0"⟩ Component.all

/-- An integer is loaded from the first component in place of the second, and the scalar behind a
vector from the vector's last component. -/
theorem turn_structured_misplaced :
    IsElement particle ∧
    ((∃ after, runOn turn particleEnvironment (beforeInstruction
          ["ld_structured", "r0.y", "r1.x", "l", "(", "16", ")", "t0.xyzw"]) = (.ok (), after) ∧
        after.context.statements =
          [loadSecondId.statement particle pastEntry 0 false]) ∧
      (loadSecondId.statement particle pastEntry 0 false).body =
        "r0.y = asfloat(past[asuint(r1.x)].ids.xyzw);" ∧
      ¬ loadSecondId.IsAccurate particle (loadSecondId.access particle)) ∧
    (∃ after, runOn turn particleEnvironment (beforeInstruction
          ["ld_structured", "r0.xyzw", "r1.x", "l", "(", "0", ")", "t0.xyzw"]) = (.ok (), after) ∧
        after.context.statements =
          [loadWithLife.statement particle pastEntry 0 false]) ∧
      (loadWithLife.statement particle pastEntry 0 false).body =
        "r0 = past[asuint(r1.x)].position.xyzz;" ∧
      ¬ loadWithLife.IsAccurate particle (loadWithLife.access particle) := by
  refine ⟨isElement_particle,
    ⟨⟨_, runOn_of_isOk _ _ _ (by decide +kernel), by decide +kernel⟩, by decide, ?_⟩,
    ⟨_, runOn_of_isOk _ _ _ (by decide +kernel), by decide +kernel⟩, by decide, ?_⟩
  · intro accurate
    obtain ⟨w, read, holds⟩ := accurate 0 .y rfl
    have first : (loadSecondId.access particle).read? particle 0 =
        some ⟨⟨"uint4", "ids", 16, 0, .default⟩, 0⟩ := by decide
    cases first.symm.trans read
    exact absurd holds.high (by decide)
  · intro accurate
    obtain ⟨w, read, holds⟩ := accurate 3 .w rfl
    have last : (loadWithLife.access particle).read? particle 3 =
        some ⟨⟨"float3", "position", 0, 0, .default⟩, 2⟩ := by decide
    cases last.symm.trans read
    exact absurd holds.high (by decide)

/-- The registers of the two buffers. -/
def particleBuffers : List (Text × ResourceEntry) := [("t0", pastEntry), ("u1", nextEntry)]

theorem tables_particleListing :
    particleListing.resolve.fault = none ∧
    particleListing.resolve.registers.inputs.entries = [] ∧
    particleListing.resolve.registers.outputs.entries = [] ∧
    particleListing.resolve.registers.constants.fields = [] ∧
    ∀ buffer ∈ particleBuffers,
      (particleListing.resolve.registers.uavs.registers.get? buffer.1).or
        (particleListing.resolve.registers.textures.registers.get? buffer.1) = some buffer.2 ∧
      elementMembers particleListing.resolve.declared.structures (operandOf buffer.2 []) =
        particle := by
  decide +kernel

theorem resolve_particleListing : particleListing.resolve.fault = none := tables_particleListing.1

theorem isUnlisted_particleListing (base : Text) :
    particleListing.resolve.registers.IsUnlisted base := by
  obtain ⟨_, inputs, outputs, _⟩ := tables_particleListing
  exact ⟨by rw [inputs]; rfl, by rw [outputs]; rfl⟩

theorem unnamed_particleListing (name : Text) :
    particleListing.resolve.registers.constants.fields.get? name = none := by
  obtain ⟨_, _, _, fields, _⟩ := tables_particleListing
  rw [fields]
  rfl

theorem isFree_particleListing (number : Nat) : particleListing.resolve.registers.IsFree number :=
  ⟨isUnlisted_particleListing _, fun _ => unnamed_particleListing _⟩

theorem isBuffer_particleListing {base : Text} {entry : ResourceEntry}
    (listed : (base, entry) ∈ particleBuffers) (register : IsRegister base)
    (bare : IsBare entry.expandedName) : IsBuffer particleEnvironment {} base entry particle := by
  obtain ⟨_, _, _, _, buffers⟩ := tables_particleListing
  obtain ⟨bound, structured⟩ := buffers _ listed
  exact ⟨register, rfl, bound, structured, bare, fun _ => unnamed_particleListing _,
    fun _ => unnamed_particleListing _⟩

/-- A load of two components of a vector, counted from its second one. -/
def loadPosition : StructuredInstruction :=
  .load ⟨"r0.xz", "r0.xz"⟩ [.x, .z] ⟨"t0", ⟨"r1.x", "r1.x"⟩, "4"⟩ [.x, .x, .y, .x]

/-- A store to three of the integers. -/
def storeIds : StructuredInstruction :=
  .store ⟨"u1", ⟨"r1.x", "r1.x"⟩, "16"⟩ [.x, .y, .w] ⟨"-r2.wzyx", "-r2.wzy"⟩

theorem index_particleListing :
    (⟨"r1.x", "r1.x"⟩ : ReadOperand).IsRead particleListing.resolve.registers (.first 1) :=
  ReadOperand.isRead_selection (s := ⟨false, false, 1, [.x]⟩) resolve_particleListing
    ⟨by decide, by decide, isFree_particleListing 1⟩ [.x]

theorem isProper_loadPosition :
    loadPosition.IsProper particleListing.resolve.registers particle := by
  refine .load (by decide) (by decide)
    (ReadOperand.isTarget_temporary resolve_particleListing
      (isUnlisted_particleListing (temporary 0)) (by decide) (by decide) (by decide))
    index_particleListing
    ⟨by decide, List.all_eq_true.mp rfl, by decide, isUnlisted_particleListing _,
      unnamed_particleListing _⟩
    (by decide) (by decide) ?_
  intro m known spans scalar
  have vector : ∀ m ∈ particle, m.Spans loadPosition.address.first →
      ElementType.count m.type ≠ 1 := by decide
  exact absurd scalar (vector m known spans)

theorem isProper_storeIds : storeIds.IsProper particleListing.resolve.registers particle := by
  refine .store (by decide) (by decide) index_particleListing
    ⟨by decide, List.all_eq_true.mp rfl, by decide, isUnlisted_particleListing _,
      unnamed_particleListing _⟩ ?_
  exact ReadOperand.isRead_selection (s := ⟨true, false, 2, [.w, .z, .y, .x]⟩)
    resolve_particleListing ⟨by decide, by decide, isFree_particleListing 2⟩ [.x, .y, .z]

theorem isOperand_single (line : Int) {text : Text} (closed : bracketsClosed text = true)
    (unmarked : text ≠ "l" ∧ text ≠ "d") (following : List Token) :
    IsOperand (some line) [⟨text, line⟩] following text := by
  refine .joined ?_ rfl (.done closed)
  rintro (marked | marked)
  · exact absurd marked unmarked.1
  · exact absurd marked unmarked.2

theorem isOperand_literal (line : Int) {digits : Text} (inner : digits ≠ ")")
    (following : List Token) :
    IsOperand (some line) (⟨"l", line⟩ :: ⟨"(", line⟩ :: ([⟨digits, line⟩] ++ [⟨")", line⟩]))
      following (literalText ([⟨digits, line⟩].map Token.text)) := by
  refine .literal (.inl rfl) rfl ?_ rfl (List.cons_ne_nil _ _) rfl ?_
  · intro token inside
    rw [List.mem_singleton.mp inside]
    exact inner
  · exact .cons rfl (.cons rfl (.nil _))

/-- Four operands, a literal in third place. -/
theorem exists_operandRun {first index digits last : Text}
    (plain : ∀ text ∈ [first, index, last],
      bracketsClosed text = true ∧ text ≠ "l" ∧ text ≠ "d") (inner : digits ≠ ")") :
    ∃ operands, OperandRun (some 1)
      (([first, index, "l", "(", digits, ")", last] : List Text).map (⟨·, 1⟩)) operands
      [first, index, digits, last] [] := by
  have single (text : Text) (inside : text ∈ [first, index, last]) (following : List Token) :=
    isOperand_single 1 (plain text inside).1 (plain text inside).2 following
  exact ⟨_, .cons (single first (by simp) _) (.cons (single index (by simp) _)
    (.cons (isOperand_literal 1 inner _) (.cons (single last (by simp) _) (.nil []))))⟩

theorem isBuffer_past : IsBuffer particleEnvironment {} "t0" pastEntry particle :=
  isBuffer_particleListing (by simp [particleBuffers])
    ⟨by decide, ⟨by decide, by decide, by decide⟩, by decide⟩ ⟨by decide, by decide, by decide⟩

theorem isBuffer_next : IsBuffer particleEnvironment {} "u1" nextEntry particle :=
  isBuffer_particleListing (by simp [particleBuffers])
    ⟨by decide, ⟨by decide, by decide, by decide⟩, by decide⟩ ⟨by decide, by decide, by decide⟩

/-- Components of one vector are loaded, and integers stored, where their bytes are. -/
theorem turn_structured_particle :
    (loadPosition.FitsMember particle ∧
      ∃ after, runOn turn particleEnvironment (beforeInstruction
          ["ld_structured", "r0.xz", "r1.x", "l", "(", "4", ")", "t0.xxyx"]) = (.ok (), after) ∧
        after.context.statements.map Statement.body =
          (["r0.xz = past[asuint(r1.x)].position.yz;"] : List Text) ∧
        loadPosition.IsAccurate particle (loadPosition.access particle)) ∧
    storeIds.FitsMember particle ∧
      ∃ after, runOn turn particleEnvironment (beforeInstruction
          ["store_structured", "u1.xyw", "r1.x", "l", "(", "16", ")", "-r2.wzyx"]) =
            (.ok (), after) ∧
        after.context.statements.map Statement.body =
          (["next[asuint(r1.x)].ids.xyw = asuint(-r2.wzy);"] : List Text) ∧
        storeIds.IsAccurate particle (storeIds.access particle) := by
  constructor
  · have fits : loadPosition.FitsMember particle := by
      refine ⟨⟨"float3", "position", 0, 0, .default⟩, by decide, by decide, by decide, ?_⟩
      intro integer
      exact absurd integer (by decide)
    have known : (Instruction.classify? "ld_structured").map
        (fun i => (i.opcode.family, i.saturate)) = some (.loadStructured, false) := by
      decide +kernel
    obtain ⟨instruction, classified, same⟩ := Option.map_eq_some_iff.mp known
    obtain ⟨operands, read⟩ : ∃ operands, OperandRun (some 1) _ operands loadPosition.listed [] :=
      exists_operandRun (by decide) (by decide)
    obtain ⟨after, run, context, accurate⟩ := turn_structured_accurate_iff particleListing
      resolve_particleListing particleEnvironment rfl (beforeInstruction
        ["ld_structured", "r0.xz", "r1.x", "l", "(", "4", ")", "t0.xxyx"]) ⟨"ld_structured", 1⟩ []
      _ [] rfl instruction instruction classified (.done (by decide)) loadPosition
      (Prod.mk.inj same).1 pastEntry particle isElement_particle isBuffer_past
      isProper_loadPosition operands read
    refine ⟨fits, after, run, ?_, accurate.mpr fits⟩
    rw [context, (Prod.mk.inj same).2]
    decide
  · have fits : storeIds.FitsMember particle :=
      ⟨⟨"uint4", "ids", 16, 0, .default⟩, by decide, by decide, by decide, trivial⟩
    have known : (Instruction.classify? "store_structured").map
        (fun i => (i.opcode.family, i.saturate)) = some (.storeStructured, false) := by
      decide +kernel
    obtain ⟨instruction, classified, same⟩ := Option.map_eq_some_iff.mp known
    obtain ⟨operands, read⟩ : ∃ operands, OperandRun (some 1) _ operands storeIds.listed [] :=
      exists_operandRun (by decide) (by decide)
    obtain ⟨after, run, context, accurate⟩ := turn_structured_accurate_iff particleListing
      resolve_particleListing particleEnvironment rfl (beforeInstruction
        ["store_structured", "u1.xyw", "r1.x", "l", "(", "16", ")", "-r2.wzyx"])
      ⟨"store_structured", 1⟩ [] _ [] rfl instruction instruction classified (.done (by decide))
      storeIds (Prod.mk.inj same).1 nextEntry particle isElement_particle isBuffer_next
      isProper_storeIds operands read
    refine ⟨fits, after, run, ?_, accurate.mpr fits⟩
    rw [context, (Prod.mk.inj same).2]
    decide

end Decoding
end ShaderLift
