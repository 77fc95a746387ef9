import ShaderLift.Proofs.Constant.Leaf
import ShaderLift.Proofs.Header.Scanned
import ShaderLift.Proofs.Register.Names
import ShaderLift.Proofs.Shader.Lines

namespace ShaderLift

open Operand

/-- The register of a buffer as a source declares it. -/
def ConstantBuffer.registerText (buffer : ConstantBuffer) : Text := 'b' :: Text.ofInt buffer.bind

/-- An expression reads a leaf: its name, with indices and a selection behind it. -/
def LeafField.IsReadBy (leaf : LeafField) (expression : Text) : Prop :=
  ∃ (indices : List Text) (selected : List Component),
    expression = leaf.name ++ bracketed indices ++ Component.suffix selected

namespace Declarations

/-- The rows of the bindings that list constant buffers. -/
def bufferRows (d : Declarations) : List Resource :=
  d.resources.filter fun r => r.kind = .constantBuffer

/-- Buffers and their rows can be told apart, and no buffer comes with a register. -/
structure HasPlainBindings (d : Declarations) : Prop where
  buffers : (d.buffers.map ConstantBuffer.name).Nodup
  rows : (d.bufferRows.map Resource.name).Nodup
  slots : (d.bufferRows.map Resource.bind).Nodup
  unbound : ∀ buffer ∈ d.buffers, buffer.bind < 0

/-- A buffer without a row stands at a place whose number is listed for another buffer. -/
def HasClash (d : Declarations) : Prop :=
  ∃ (place : Nat) (buffer : ConstantBuffer), d.buffers[place]? = some buffer ∧
    (∀ row ∈ d.bufferRows, row.name ≠ buffer.name) ∧
    ∃ other ∈ d.buffers, ∃ row ∈ d.bufferRows, row.name = other.name ∧ row.bind = place

variable {d : Declarations}

theorem mem_bufferRows (row : Resource) :
    row ∈ d.bufferRows ↔ row ∈ d.resources ∧ row.kind = .constantBuffer := by
  simp [bufferRows]

theorem listedBind?_eq_none_iff (buffer : ConstantBuffer) :
    buffer.listedBind? d.resources = none ↔ ∀ row ∈ d.bufferRows, row.name ≠ buffer.name := by
  simp [ConstantBuffer.listedBind?, mem_bufferRows]

theorem exists_row {buffer : ConstantBuffer} {bind : Int}
    (listed : buffer.listedBind? d.resources = some bind) :
    ∃ row ∈ d.bufferRows, row.name = buffer.name ∧ row.bind = bind := by
  obtain ⟨row, found, bound⟩ := Option.map_eq_some_iff.mp listed
  have named := List.find?_some found
  rw [Bool.and_eq_true, decide_eq_true_eq, decide_eq_true_eq] at named
  have inside := List.mem_of_find?_eq_some found
  exact ⟨row, (mem_bufferRows row).mpr ⟨inside, named.1⟩, named.2, bound⟩

namespace HasPlainBindings

variable {buffer : ConstantBuffer} {row : Resource}

theorem listedBind?_of_row (plain : d.HasPlainBindings) (inside : row ∈ d.bufferRows)
    (named : row.name = buffer.name) :
    buffer.listedBind? d.resources = some row.bind := by
  cases listed : buffer.listedBind? d.resources with
  | none => exact absurd named ((listedBind?_eq_none_iff buffer).mp listed row inside)
  | some bind =>
    obtain ⟨row', inside', named', bound⟩ := exists_row listed
    rw [← bound, List.inj_on_of_nodup_map plain.rows inside' inside (named'.trans named.symm)]

theorem settledBind_unlisted (plain : d.HasPlainBindings) (inside : buffer ∈ d.buffers)
    (unlisted : ∀ row ∈ d.bufferRows, row.name ≠ buffer.name) (place : Nat) :
    buffer.settledBind d.resources place = place := by
  rw [ConstantBuffer.settledBind, (listedBind?_eq_none_iff buffer).mpr unlisted, Option.getD_none,
    if_pos (plain.unbound buffer inside)]

theorem settledBind_listed (plain : d.HasPlainBindings) (inside : row ∈ d.bufferRows)
    (named : row.name = buffer.name) (place : Nat) :
    buffer.settledBind d.resources place = row.bind := by
  rw [ConstantBuffer.settledBind, plain.listedBind?_of_row inside named, Option.getD_some]

/-- A buffer takes its place or the register of its row. -/
theorem settledBind_cases (plain : d.HasPlainBindings) (inside : buffer ∈ d.buffers) (place : Nat) :
    ((∀ row ∈ d.bufferRows, row.name ≠ buffer.name) ∧
        buffer.settledBind d.resources place = place) ∨
      ∃ row ∈ d.bufferRows, row.name = buffer.name ∧
        buffer.settledBind d.resources place = row.bind := by
  by_cases listed : ∃ row ∈ d.bufferRows, row.name = buffer.name
  · obtain ⟨row, among, named⟩ := listed
    exact .inr ⟨row, among, named, plain.settledBind_listed among named place⟩
  · have unlisted : ∀ row ∈ d.bufferRows, row.name ≠ buffer.name := fun row among named =>
      listed ⟨row, among, named⟩
    exact .inl ⟨unlisted, plain.settledBind_unlisted inside unlisted place⟩

/-- Two buffers share a register only if they are one buffer or their places clash. -/
theorem eq_of_settledBind (plain : d.HasPlainBindings) (apart : ¬ d.HasClash) {place place' : Nat}
    {buffer' : ConstantBuffer} (stands : d.buffers[place]? = some buffer)
    (stands' : d.buffers[place']? = some buffer')
    (same : buffer.settledBind d.resources place = buffer'.settledBind d.resources place') :
    place = place' := by
  have inside := List.mem_of_getElem? stands
  have inside' := List.mem_of_getElem? stands'
  rcases plain.settledBind_cases inside place with ⟨unlisted, own⟩ | ⟨row, among, named, own⟩ <;>
    rcases plain.settledBind_cases inside' place' with
      ⟨unlisted', own'⟩ | ⟨row', among', named', own'⟩
  · rw [own, own'] at same
    exact Int.ofNat.inj same
  · rw [own, own'] at same
    exact absurd ⟨place, buffer, stands, unlisted, buffer', inside', row', among', named', same.symm⟩
      apart
  · rw [own, own'] at same
    exact absurd ⟨place', buffer', stands', unlisted', buffer, inside, row, among, named, same⟩ apart
  · rw [own, own'] at same
    have rows := List.inj_on_of_nodup_map plain.slots among among' same
    have names : (d.buffers.map ConstantBuffer.name)[place]? =
        (d.buffers.map ConstantBuffer.name)[place']? := by
      rw [List.getElem?_map, List.getElem?_map, stands, stands', Option.map_some, Option.map_some,
        ← named, ← named', rows]
    have early : place < (d.buffers.map ConstantBuffer.name).length := by
      rw [List.length_map]
      exact (List.getElem?_eq_some_iff.mp stands).1
    exact (List.getElem?_inj early plain.buffers).mp names

theorem getElem?_binds (place : Nat) :
    (d.boundBuffers.map ConstantBuffer.bind)[place]? =
      d.buffers[place]?.map fun buffer => buffer.settledBind d.resources place := by
  simp [boundBuffers, ConstantBuffer.bound, List.getElem?_zipIdx, Function.comp_def]

/-- The registers of buffers are distinct unless places clash with listed registers. -/
theorem nodup_binds_iff (plain : d.HasPlainBindings) :
    (d.boundBuffers.map ConstantBuffer.bind).Nodup ↔ ¬ d.HasClash := by
  constructor
  · rintro distinct ⟨place, buffer, stands, unlisted, other, inside, row, among, named, bound⟩
    obtain ⟨place', stands'⟩ := List.mem_iff_getElem?.mp inside
    have same : (d.boundBuffers.map ConstantBuffer.bind)[place]? =
        (d.boundBuffers.map ConstantBuffer.bind)[place']? := by
      rw [getElem?_binds, getElem?_binds, stands, stands', Option.map_some, Option.map_some,
        plain.settledBind_unlisted (List.mem_of_getElem? stands) unlisted,
        plain.settledBind_listed among named, bound]
    have early : place < (d.boundBuffers.map ConstantBuffer.bind).length := by
      have within := (List.getElem?_eq_some_iff.mp stands).1
      simpa [boundBuffers] using within
    have places := (List.getElem?_inj early distinct).mp same
    rw [← places, stands] at stands'
    exact unlisted row among (by rw [named, Option.some.inj stands'])
  · intro apart
    rw [List.nodup_iff_getElem?_ne_getElem?]
    intro place place' before within same
    rw [getElem?_binds, getElem?_binds] at same
    have within' : place' < d.buffers.length := by simpa [boundBuffers] using within
    obtain ⟨buffer', stands'⟩ : ∃ buffer, d.buffers[place']? = some buffer :=
      ⟨_, List.getElem?_eq_getElem within'⟩
    obtain ⟨buffer, stands⟩ : ∃ buffer, d.buffers[place]? = some buffer :=
      ⟨_, List.getElem?_eq_getElem (Nat.lt_trans before within')⟩
    rw [stands, stands', Option.map_some, Option.map_some] at same
    have places := plain.eq_of_settledBind apart stands stands' (Option.some.inj same)
    omega

end HasPlainBindings
end Declarations

namespace Registers

variable {slot : Nat}

/-- The digits of a buffer stand in front of the first bracket of an operand. -/
theorem digits_of_constantRegister? {tail digits index : Text} (register : constantRegister?
      (splitSelector (("cb" ++ Text.ofNat slot) ++ '[' :: tail)).1 = some (digits, index)) :
    digits = Text.ofNat slot := by
  obtain ⟨shape, _, decimal, _, _⟩ := constantRegister?_some _ _ _ register
  obtain ⟨behind, split⟩ := splitSelector_front (("cb" ++ Text.ofNat slot) ++ '[' :: tail)
  obtain ⟨line, kept⟩ :=
    Text.dropFinalNewline_isPrefix (splitSelector (("cb" ++ Text.ofNat slot) ++ '[' :: tail)).1
  have unopened (digits : Text) (decimal : ∀ c ∈ digits, Text.isDecimal c = true) :
      '[' ∉ ("cb" : Text) ++ digits := by
    intro inside
    rcases List.mem_append.mp inside with early | late
    · revert early
      decide
    · cases decimal _ late
  have whole : ("cb" ++ Text.ofNat slot) ++ '[' :: tail =
      ("cb" ++ digits) ++ '[' :: (index ++ [']'] ++ line ++ behind) := by
    rw [split, ← kept, shape]
    simp
  obtain ⟨front, _⟩ := cut_unique '[' _ _ _ _ (unopened _ fun c inside =>
    Text.isDecimal_digit c (Text.isDigit_ofNat slot c inside)) (unopened _ decimal) whole
  exact (List.append_cancel_left front).symm

theorem eq_of_readInteger_ofNat {bind : Int}
    (read : Fault.readInteger (Text.ofNat slot) = .ok bind) : bind = slot := by
  have decimal : ∀ c ∈ Text.ofNat slot, Text.isDecimal c = true := fun c inside =>
    Text.isDecimal_digit c (Text.isDigit_ofNat slot c inside)
  by_cases short : (Text.ofNat slot).length ≤ Text.maxIntegerDigits
  · rw [Fault.readInteger_decimals _ (Text.ofNat_ne_nil slot) decimal short,
      Text.decimalsValue_ofNat] at read
    exact (Except.ok.inj read).symm
  · rw [Fault.readInteger, Text.toInt_tooLong _ decimal (Nat.not_le.mp short)] at read
    cases read

/-- The expression for an element of an array starts with the name of the array. -/
theorem exists_bracketed_arrayExpression {array : ConstantArray} {index : RelativeIndex}
    {selected : List Component} {name : Text}
    (written : arrayExpression array index selected = .ok name) :
    ∃ (indices : List Text) (selected : List Component),
      name = array.name ++ bracketed indices ++ Component.suffix selected := by
  have element (position grouped : Text) : ∃ indices : List Text,
      (if 1 < array.rows then
        "[" ++ grouped ++ " / " ++ Text.ofNat array.rows ++ "][" ++ grouped ++ " % " ++
          Text.ofNat array.rows ++ "]"
      else "[" ++ position ++ "]" : Text) = bracketed indices := by
    split
    · exact ⟨[grouped ++ " / " ++ Text.ofNat array.rows, grouped ++ " % " ++ Text.ofNat array.rows],
        by simp [bracketed]⟩
    · exact ⟨[position], by simp [bracketed]⟩
  unfold arrayExpression at written
  dsimp only at written
  split at written
  · obtain ⟨indices, same⟩ := element index.register index.register
    rw [← Except.ok.inj written, same]
    exact ⟨indices, _, rfl⟩
  · obtain ⟨position, _, written⟩ := exists_of_bind_ok written
    obtain ⟨indices, same⟩ := element position ("(" ++ position ++ ")")
    rw [← Except.ok.inj written, same]
    exact ⟨indices, _, rfl⟩

end Registers

theorem LeafField.isReadBy_entryAt (leaf : LeafField) (position : Nat)
    (selected : List Component) :
    leaf.IsReadBy ((leaf.entryAt position).expression ++ Component.suffix selected) := by
  refine ⟨(unflatten position leaf.shape).map Text.ofNat, selected, ?_⟩
  have indices : bracketed ((unflatten position leaf.shape).map Text.ofNat) =
      indexText (unflatten position leaf.shape) := by
    simp only [bracketed, indexText, List.flatMap_map]
    rfl
  rw [indices]
  rfl

namespace Declarations

variable {d : Declarations}

/-- What is found behind a register of a buffer is a leaf of a buffer with this register. -/
theorem exists_leaf_of_findConstant? (returns : d.resolve.fault = none) {slot : Nat}
    {tail expression : Text}
    (found : Registers.findConstant? d.resolve.registers.constants
      (("cb" ++ Text.ofNat slot) ++ '[' :: tail) = .ok (some expression)) :
    ∃ leaf, d.HasLeaf slot leaf ∧ leaf.IsReadBy expression := by
  cases Registers.constantAnswer_of_findConstant? found with
  | listed listed =>
    rw [registers_resolve returns, Table.get?_ofFirsts] at listed
    obtain ⟨p, among, same⟩ := List.mem_map.mp (Table.mem_of_get? listed)
    obtain ⟨bind, leaf, has, position, _, rfl⟩ := (mem_placements_iff_leaf returns p).mp among
    obtain ⟨key, rfl⟩ := Prod.mk.inj same
    have parts : constantText bind (leaf.firstSlot + position) ++ (leaf.entryAt position).swizzle =
        ("cb" ++ Text.ofInt slot) ++ '[' :: tail := key
    rw [constantText_append] at parts
    rw [(buffer_cancel parts).1] at has
    refine ⟨leaf, has, ?_⟩
    have plain := leaf.isReadBy_entryAt position []
    rwa [show Component.suffix [] = [] from rfl, List.append_nil] at plain
  | @placed digits index bind slot' entry register bound inside selected =>
    obtain rfl := Registers.digits_of_constantRegister? register
    obtain rfl := Registers.eq_of_readInteger_ofNat bound
    obtain ⟨p, listed, rfl⟩ := List.mem_map.mp inside
    obtain ⟨among, place⟩ := List.mem_filter.mp listed
    obtain ⟨bind, leaf, has, position, _, rfl⟩ := (mem_placements_iff_leaf returns p).mp among
    rw [Bool.and_eq_true] at place
    have own : bind = slot := of_decide_eq_true place.1
    rw [own] at has
    exact ⟨leaf, has, leaf.isReadBy_entryAt position selected⟩
  | @reached digits index bind relative array selected _ register bound read inside same written =>
    obtain rfl := Registers.digits_of_constantRegister? register
    obtain rfl := Registers.eq_of_readInteger_ofNat bound
    obtain ⟨bind, leaf, has, own⟩ := (mem_arrays_iff_leaf returns array).mp inside
    unfold LeafField.array? at own
    split at own
    · cases own
      change bind = slot at same
      rw [same] at has
      exact ⟨leaf, has, Registers.exists_bracketed_arrayExpression written⟩
    · cases own

theorem binds_resolve (returns : d.resolve.fault = none) :
    d.resolve.declared.buffers.map ConstantBuffer.bind =
      d.boundBuffers.map ConstantBuffer.bind := by
  rw [declaredBuffers_resolve returns, List.map_map]
  rfl

/-- Distinct registers are declared by distinct texts. -/
theorem nodup_registerText_iff (buffers : List ConstantBuffer) :
    (buffers.map ConstantBuffer.registerText).Nodup ↔
      (buffers.map ConstantBuffer.bind).Nodup := by
  have texts : buffers.map ConstantBuffer.registerText =
      (buffers.map ConstantBuffer.bind).map fun bind => 'b' :: Text.ofInt bind := by
    rw [List.map_map]
    rfl
  have injective : Function.Injective fun bind : Int => 'b' :: Text.ofInt bind := by
    intro bind bind' same
    exact Text.ofInt_inj (List.cons.inj same).2
  rw [texts, List.nodup_map_iff injective]

/-- When buffers, their rows and the listed registers are distinct, the buffers have distinct
registers exactly if no buffer without a row stands at a listed place. In any case what is found
behind a register of a buffer is a field of a buffer with this register, which is the only one
unless there is such a clash; and a source declares every buffer at its register. -/
theorem buffers_apart_iff (d : Declarations) (plain : d.HasPlainBindings)
    (returns : d.resolve.fault = none) :
    ((d.resolve.declared.buffers.map ConstantBuffer.bind).Nodup ↔ ¬ d.HasClash) ∧
    (∀ (slot : Nat) (tail expression : Text),
      Registers.findConstant? d.resolve.registers.constants
        (("cb" ++ Text.ofNat slot) ++ '[' :: tail) = .ok (some expression) →
      ∃ buffer ∈ d.resolve.declared.buffers, buffer.bind = slot ∧
        (∃ leaf, buffer.HasLeaf d.structures leaf ∧ leaf.IsReadBy expression) ∧
        (¬ d.HasClash → ∀ other ∈ d.resolve.declared.buffers, other.bind = slot →
          other = buffer)) ∧
    ∀ u : ShaderSource, u.symbols.declared = d.resolve.declared →
      (∀ buffer ∈ d.resolve.declared.buffers,
        ShaderSource.HasBlock u.render
          ("cbuffer " ++ buffer.name ++ " : register(" ++ buffer.registerText ++ ")")
          (buffer.members.map (ShaderSource.bufferField u.config.indent))) ∧
      ((u.symbols.declared.buffers.map ConstantBuffer.registerText).Nodup ↔ ¬ d.HasClash) := by
  have distinct : (d.resolve.declared.buffers.map ConstantBuffer.bind).Nodup ↔ ¬ d.HasClash := by
    rw [binds_resolve returns]
    exact plain.nodup_binds_iff
  refine ⟨distinct, ?_, ?_⟩
  · intro slot tail expression found
    obtain ⟨leaf, ⟨buffer, inside, bound, has⟩, reads⟩ := exists_leaf_of_findConstant? returns found
    have declared : buffer.measured ∈ d.resolve.declared.buffers := by
      rw [declaredBuffers_resolve returns]
      exact List.mem_map_of_mem inside
    refine ⟨buffer.measured, declared, bound, ⟨leaf, has, reads⟩, ?_⟩
    intro apart other among bound'
    exact List.inj_on_of_nodup_map (distinct.mpr apart) among declared (bound'.trans bound.symm)
  · intro u same
    rw [same, nodup_registerText_iff]
    refine ⟨?_, distinct⟩
    intro buffer inside
    have block := u.hasBlock_buffer (same ▸ inside)
    have opening : ("cbuffer " ++ buffer.name ++ " : register(" ++ buffer.registerText ++ ")" : Text) =
        "cbuffer " ++ buffer.name ++ " : register(b" ++ Text.ofInt buffer.bind ++ ")" := by
      simp [ConstantBuffer.registerText]
    rwa [opening]

/-- A texture buffer, and behind it a constant buffer whose listed register is the place of the
first. -/
def paletteListing : Text :=
  "// Buffer Definitions:\n// tbuffer Palette\n// \x7b\n" ++
  "//   float4 colors[4]; // Offset: 0 Size: 64\n// \x7d\n" ++
  "// cbuffer Scene\n// \x7b\n//   float4 tint; // Offset: 0 Size: 16\n// \x7d\n" ++
  "// Resource Bindings:\n// Palette tbuffer NA NA t0 1\n// Scene cbuffer NA NA cb0 1\n"

def paletteDeclarations : Declarations :=
  { buffers :=
      [⟨"Palette", -1, 0, [⟨"float4", "colors[4]", 0, 64, .default⟩]⟩,
        ⟨"Scene", -1, 0, [⟨"float4", "tint", 0, 16, .default⟩]⟩]
    resources :=
      [⟨"Palette", .textureBuffer, "NA", "NA", 0, "t0", 1⟩,
        ⟨"Scene", .constantBuffer, "NA", "NA", 0, "cb0", 1⟩] }

theorem hasPlainBindings_palette : paletteDeclarations.HasPlainBindings :=
  ⟨by decide, by decide, by decide, by decide⟩

/-- The place of a buffer that is listed among the textures is the register of another buffer, whose
field is then out of reach. -/
theorem buffers_share_register :
    (scanHeader paletteListing).result = .ok paletteDeclarations ∧
      paletteDeclarations.HasPlainBindings ∧ paletteDeclarations.resolve.fault = none ∧
      paletteDeclarations.resolve.declared.buffers.map ConstantBuffer.bind = [0, 0] ∧
      Registers.findConstant? paletteDeclarations.resolve.registers.constants "cb0[0].xyzw" =
        .ok (some "colors[0].xyzw") := by
  refine ⟨?_, hasPlainBindings_palette, ?_, ?_, ?_⟩
  · apply eq_ok_of_toOption
    decide +kernel
  · decide +kernel
  · decide +kernel
  · apply eq_ok_of_toOption
    decide +kernel

/-- Buffers with and without rows whose registers are distinct. -/
def shadowDeclarations : Declarations :=
  { buffers :=
      [⟨"Scene", -1, 0, [⟨"float4", "tint", 0, 16, .default⟩]⟩,
        ⟨"Shadow", -1, 0, [⟨"float4x4", "view", 0, 64, .default⟩]⟩,
        ⟨"Fog", -1, 0, [⟨"float3", "color", 0, 12, .default⟩]⟩]
    resources :=
      [⟨"Fog", .constantBuffer, "NA", "NA", 0, "cb0", 1⟩,
        ⟨"Scene", .constantBuffer, "NA", "NA", 3, "cb3", 1⟩] }

theorem buffers_apart_shadow :
    shadowDeclarations.HasPlainBindings ∧ shadowDeclarations.resolve.fault = none ∧
      ¬ shadowDeclarations.HasClash ∧
      (shadowDeclarations.resolve.declared.buffers.map ConstantBuffer.bind).Nodup ∧
      ∃ buffer ∈ shadowDeclarations.resolve.declared.buffers, buffer.bind = (1 : Nat) ∧
        (∃ leaf, buffer.HasLeaf shadowDeclarations.structures leaf ∧ leaf.IsReadBy "view[2].xw") ∧
        ∀ other ∈ shadowDeclarations.resolve.declared.buffers, other.bind = (1 : Nat) →
          other = buffer := by
  have plain : shadowDeclarations.HasPlainBindings :=
    ⟨by decide, by decide, by decide, by decide⟩
  have returns : shadowDeclarations.resolve.fault = none := by decide +kernel
  have binds : (shadowDeclarations.resolve.declared.buffers.map ConstantBuffer.bind).Nodup := by
    decide +kernel
  have found : Registers.findConstant? shadowDeclarations.resolve.registers.constants
      (("cb" ++ Text.ofNat 1) ++ '[' :: "2].xw") = .ok (some "view[2].xw") := by
    apply eq_ok_of_toOption
    decide +kernel
  obtain ⟨distinct, reads, _⟩ := buffers_apart_iff shadowDeclarations plain returns
  have apart := distinct.mp binds
  obtain ⟨buffer, inside, bound, leaf, only⟩ := reads 1 _ _ found
  exact ⟨plain, returns, apart, binds, buffer, inside, bound, leaf, only apart⟩

end Declarations
end ShaderLift
