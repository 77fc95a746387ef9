import ShaderLift.Proofs.Shared.Word

namespace ShaderLift

open Operand

namespace Decoding

/-- A lane of an expression is read as a text, and nothing else changes. -/
def IsLane (env : Environment) (expression : Text) (position count : Int) (text : Text) : Prop :=
  ∀ d, runOn (lane expression position count) env d = (.ok text, d)

/-- A part of a value that is stored: the value itself, or one of its lanes. -/
def IsPart (env : Environment) (value : Text) (count position : Nat) (part : Text) : Prop :=
  if 1 < count then IsLane env value position count part else part = value

/-- An array of group-shared memory as an operand. -/
def sharedOperand (base : Text) (selected : List Component) (words : Int) : ResourceOperand :=
  ⟨base, selected, none, some words⟩

@[simp] theorem isShared_sharedOperand (base : Text) (selected : List Component) (words : Int) :
    (sharedOperand base selected words).isShared = true := rfl

theorem storedComponents_sharedOperand {mask : List Component} (filled : mask ≠ []) (base : Text)
    (words : Int) : storedComponents (sharedOperand base mask words) = mask := by
  simp [storedComponents, sharedOperand, filled]

end Decoding

namespace SharedAddress

/-- The index and the offset as they are listed one after the other. -/
def listed (a : SharedAddress) : List Text :=
  (a.index.map ReadOperand.listed).toList ++ [a.offset.listed]

/-- The index and the offset can be read. -/
structure IsRead (registers : Registers) (a : SharedAddress) : Prop where
  index : ∀ o ∈ a.index, o.IsRead registers (.first 1)
  offset : a.offset.IsRead registers (.first 1)

/-- An operand that has the offset in its first lane, or the index there and the offset in its second
lane. -/
def IsPlace (env : Environment) (a : SharedAddress) (place : Text) : Prop :=
  ∃ expression, Decoding.resolved env.symbols.registers place = .ok expression ∧
    match a.index with
    | none => env.symbols.registers.cast expression (.first 1) = .ok a.offset.text
    | some index => Decoding.IsLane env expression 0 2 index.text ∧
        Decoding.IsLane env expression 1 2 a.offset.text

/-- The family of the instruction that declares the array. -/
def declaredBy (a : SharedAddress) : Family :=
  match a.index with
  | none => .declareSharedRaw
  | some _ => .declareSharedStructured

/-- The sizes that an array is declared with: its bytes, or the bytes of an element and the number of
elements. An element has a word at least. -/
inductive IsSized : SharedAddress → List Text → Prop
  | raw {base size : Text} {offset : ReadOperand} {bytes : Int}
      (number : Text.IsNumeral size bytes) : IsSized ⟨base, none, offset⟩ [size]
  | structured {base stride count : Text} {index offset : ReadOperand} {bytes elements : Int}
      (number : Text.IsNumeral stride bytes) (whole : 4 ≤ bytes)
      (counted : Text.IsNumeral count elements) :
      IsSized ⟨base, some index, offset⟩ [stride, count]

end SharedAddress

namespace Selection

/-- A selection as an operand that is read as it is listed. -/
def operand (s : Selection) : ReadOperand := ⟨s.listed, s.text⟩

variable {s : Selection} {declared : Declarations} {env : Environment}

theorem isRead_only (returns : declared.resolve.fault = none)
    (proper : s.IsProper declared.resolve.registers) (place : Nat) :
    (s.only place).operand.IsRead declared.resolve.registers (.first 1) := by
  have single : (s.only place).fit [.x] = s.only place := by
    have one : fitted [s.component place] [.x] = [s.component place] := by
      simp [fitted, Component.index]
    rw [fit, only, one]
  have read := ReadOperand.isRead_selection (s := s.only place) returns
    ⟨List.cons_ne_nil _ _, by simp [only], proper.free⟩ [.x]
  rwa [single] at read

section Place

variable (returns : declared.resolve.fault = none)
  (tables : env.symbols.registers = declared.resolve.registers)
  (proper : s.IsProper env.symbols.registers) (base : Text)

include returns tables proper

/-- The first lane of a selection is an offset, whether it is listed alone or with the others. -/
theorem isPlace_raw :
    (⟨base, none, (s.only 0).operand⟩ : SharedAddress).IsRead env.symbols.registers ∧
      (⟨base, none, (s.only 0).operand⟩ : SharedAddress).IsPlace env s.listed := by
  have casts := cast_text proper [.x]
  have single : s.fit [.x] = s.only 0 := by
    rw [fit, only, show [Component.x] = [Component.cyclic 0] from rfl,
      fitted_single 0 (by decide)]
  rw [single] at casts
  refine ⟨⟨?_, ?_⟩, s.text, ?_, casts⟩
  · rintro o ⟨⟩
  · rw [tables] at proper ⊢
    exact isRead_only returns proper 0
  · rw [tables] at proper ⊢
    exact resolved_listed returns proper

/-- The first two lanes of a selection are an index and an offset, whether they are listed one after
the other or together. -/
theorem isPlace_structured :
    (⟨base, some (s.only 0).operand, (s.only 1).operand⟩ : SharedAddress).IsRead
        env.symbols.registers ∧
      (⟨base, some (s.only 0).operand, (s.only 1).operand⟩ : SharedAddress).IsPlace env s.listed := by
  have lanes {place : Nat} (small : place < 4) :
      Decoding.IsLane env s.text place 2 (s.only place).text := runOn_lane proper small 2
  refine ⟨⟨?_, ?_⟩, s.text, ?_, lanes (by decide), lanes (by decide)⟩
  · rintro o ⟨⟩
    rw [tables] at proper ⊢
    exact isRead_only returns proper 0
  · rw [tables] at proper ⊢
    exact isRead_only returns proper 1
  · rw [tables] at proper ⊢
    exact resolved_listed returns proper

end Place

end Selection

namespace SharedInstruction

/-- The operands as they are listed. -/
def listed : SharedInstruction → List Text
  | load address array target _ _ => target.listed :: (address.listed ++ [array])
  | store address array _ source _ => array :: (address.listed ++ [source.listed])
  | atomic _ array place values => array :: place :: values.map ReadOperand.listed
  | atomicReturning _ array place target values =>
    target.listed :: array :: place :: values.map ReadOperand.listed

/-- The array at the word for a component. -/
def accessFor (i : SharedInstruction) (c : Component) : Text := i.address.access (i.wordFor c)

/-- The call of an atomic operation with its values. -/
def call (opcode : Opcode) (i : SharedInstruction) (values : List ReadOperand)
    (further : List Text) : Text :=
  Decoding.atomicCall opcode [] (i.accessFor .x ::
    (values.map fun v => asInteger v.text (Decoding.viewOf opcode)) ++ further)

/-- The statements that are added. -/
def statements (opcode : Opcode) (depth : Int) (saturate : Bool) (i : SharedInstruction) :
    List Statement :=
  match i with
  | load _ _ target _ _ =>
    [.assign depth.toNat (Decoding.dropFullSelector target.text)
      (Decoding.asFloat (Decoding.gatherWords (i.lanes.map i.accessFor))) saturate]
  | store _ _ mask _ parts =>
    List.zipWith (fun c part =>
      .code depth.toNat (i.accessFor c ++ " = " ++ asInteger part .unsigned ++ ";")) mask parts
  | atomic _ _ _ values => [.code depth.toNat (i.call opcode values [])]
  | atomicReturning _ _ _ target values =>
    [.code depth.toNat "\x7b",
      .code (depth + 1).toNat ("uint " ++ Decoding.foundName ++ ";"),
      .code (depth + 1).toNat (i.call opcode values [Decoding.foundName]),
      .assign (depth + 1).toNat (Decoding.dropFullSelector target.text)
        (Decoding.asFloat Decoding.foundName) saturate,
      .code depth.toNat "\x7d"]

/-- The operands can be read, and there are as many of them as the opcode has. -/
inductive IsProper (env : Environment) (opcode : Opcode) : SharedInstruction → Prop
  | load {address : SharedAddress} {array : Text} {target : ReadOperand}
      {mask selected : List Component} (filled : mask ≠ [])
      (names : target.IsTarget env.symbols.registers mask)
      (read : address.IsRead env.symbols.registers) (selects : selected ≠ [])
      (split : splitSelector (splitModifiers array).inner = (address.base, selected)) :
      IsProper env opcode (load address array target mask selected)
  | store {address : SharedAddress} {array : Text} {mask : List Component} {source : ReadOperand}
      {parts : List Text} (filled : mask ≠ [])
      (split : splitSelector (splitModifiers array).inner = (address.base, mask))
      (read : address.IsRead env.symbols.registers)
      (value : source.IsRead env.symbols.registers (.first mask.length))
      (all : parts.length = mask.length)
      (each : ∀ place part, parts[place]? = some part →
        Decoding.IsPart env source.text mask.length place part) :
      IsProper env opcode (store address array mask source parts)
  | atomic {address : SharedAddress} {array place : Text} {values : List ReadOperand}
      {selected : List Component}
      (split : splitSelector (splitModifiers array).inner = (address.base, selected))
      (addresses : address.IsPlace env place) (arity : opcode.arity - 2 = values.length)
      (read : ∀ v ∈ values, v.IsRead env.symbols.registers (.first 1)) :
      IsProper env opcode (atomic address array place values)
  | atomicReturning {address : SharedAddress} {array place : Text} {target : ReadOperand}
      {values : List ReadOperand} {mask selected : List Component}
      (names : target.IsTarget env.symbols.registers mask)
      (split : splitSelector (splitModifiers array).inner = (address.base, selected))
      (addresses : address.IsPlace env place) (arity : opcode.arity - 3 = values.length)
      (read : ∀ v ∈ values, v.IsRead env.symbols.registers (.first 1)) :
      IsProper env opcode (atomicReturning address array place target values)

theorem IsProper.lanes_ne_nil {env : Environment} {opcode : Opcode} {i : SharedInstruction}
    (proper : i.IsProper env opcode) : i.lanes ≠ [] := by
  cases proper with
  | load filled => simpa [lanes] using filled
  | store filled => exact filled
  | atomic => exact List.cons_ne_nil _ _
  | atomicReturning => exact List.cons_ne_nil _ _

variable {i : SharedInstruction}

theorem accessFor_raw (raw : i.address.index = none) (c : Component) :
    i.accessFor c = i.address.base ++ "[" ++ (i.address.wordAt c).text ++ "]" := by
  have keeps := i.dropsOffset_eq_false_iff.mpr (.inr (.inl raw))
  rw [accessFor, wordFor_of_keeps keeps, SharedAddress.access, raw]

theorem accessFor_atomic (isAtomic : i.isAtomic = true) (c : Component) :
    i.accessFor c = i.address.access (i.address.wordAt c) := by
  rw [accessFor, wordFor_of_keeps (i.dropsOffset_eq_false_iff.mpr (.inl isAtomic))]

/-- A word of an element as it is loaded or stored: the literal offset is counted in words, and any
other is left out. -/
theorem sharedWord_eq {index : ReadOperand} (element : i.address.index = some index)
    (plain : i.isAtomic = false) (selected : List Component) (words : Int) (c : Component) :
    Decoding.sharedWord (Decoding.sharedOperand i.address.base selected words)
        (asInteger index.text .unsigned)
        (if i.address.isLiteral then (Text.decimalsValue i.address.offset.text / 4 : Nat) else 0)
        c.index = i.accessFor c := by
  cases literal : i.address.isLiteral with
  | true =>
    have keeps := i.dropsOffset_eq_false_iff.mpr (.inr (.inr literal))
    rw [accessFor, wordFor_of_keeps keeps, SharedAddress.access, element, SharedAddress.wordAt,
      literal]
    rfl
  | false =>
    have drops : i.dropsOffset = true := by simp [dropsOffset, literal, element, plain]
    simp only [accessFor, wordFor, drops, SharedAddress.access, element, Bool.false_eq_true,
      if_false, if_true, Decoding.sharedWord, Int.zero_add]
    rfl

end SharedInstruction
end ShaderLift
