import ShaderLift.Proofs.Decoding.Turn
import ShaderLift.Proofs.Packed.Source

namespace ShaderLift

open Operand

/-- A temporary register. -/
def temporary (number : Nat) : Text := 'r' :: Text.ofNat number

theorem mem_temporary {number : Nat} {c : Char} (inside : c ∈ temporary number) :
    c = 'r' ∨ c.isDigit = true := by
  rcases List.mem_cons.mp inside with same | digit
  · exact .inl same
  · exact .inr (Text.isDigit_ofNat number c digit)

/-- A register as it is written without a sign or a call, its brackets closed. -/
structure IsRegister (base : Text) : Prop where
  filled : base ≠ []
  bare : IsBare base
  closed : Decoding.bracketsClosed base = true

namespace IsRegister

variable {base : Text}

theorem closed_suffix (register : IsRegister base) (selected : List Component) :
    Decoding.bracketsClosed (base ++ Component.suffix selected) = true := by
  have closed : base.count '[' ≤ base.count ']' := of_decide_eq_true register.closed
  have none : (Component.suffix selected).count '[' = 0 := by
    rw [List.count_eq_zero]
    intro inside
    rcases mem_suffix _ _ inside with same | named
    · cases same
    · exact (isAlphanum_ne _ named).1 rfl
  rw [Decoding.bracketsClosed, decide_eq_true_eq, List.count_append, List.count_append]
  omega

theorem temporary (number : Nat) : IsRegister (temporary number) := by
  refine ⟨List.cons_ne_nil _ _, ⟨?_, ?_, ?_⟩, ?_⟩
  · intro signed
    cases Option.some.inj signed
  · intro barred
    cases Option.some.inj barred
  · intro inside
    rcases mem_temporary inside with same | digit
    · cases same
    · cases digit
  · have none : (ShaderLift.temporary number).count '[' = 0 := by
      rw [List.count_eq_zero]
      intro inside
      rcases mem_temporary inside with same | digit
      · cases same
      · cases digit
    rw [Decoding.bracketsClosed, decide_eq_true_eq, none]
    exact Nat.zero_le _

theorem constantText (bind slot : Nat) : IsRegister (constantText bind slot) := by
  have start : (ShaderLift.constantText bind slot).head? = some 'c' := rfl
  have unopened (n : Nat) : (Text.ofNat n).count '[' = 0 :=
    List.count_eq_zero.mpr (notMem_ofNat '[' (by decide) n)
  refine ⟨constantText_ne_nil bind slot, ⟨?_, ?_, ?_⟩, ?_⟩
  · rw [start]
    decide
  · rw [start]
    decide
  · intro inside
    rcases mem_constantText inside with mark | digit
    · revert mark
      decide
    · cases digit
  · rw [Decoding.bracketsClosed, decide_eq_true_eq, constantText_ofNat]
    simp [unopened]
    omega

end IsRegister

namespace Decoding

variable {text expression value : Text}

/-- A token with closed brackets is an operand of its own. -/
theorem runOn_readRawOperand_token (env : Environment) (d : Decoder) (token : Token)
    (rest : List Token) (ahead : d.cursor.rest = token :: rest) (here : d.line = some token.line)
    (closed : bracketsClosed token.text = true)
    (unmarked : token.text ≠ "l" ∧ token.text ≠ "d") :
    runOn readRawOperand env d = (.ok token.text, d.past [token] rest d.log) := by
  have taken := runOn_nextOperandToken_first env d token rest ahead here
  rw [readRawOperand, runOn_bind_of_ok _ _ _ _ _ _ taken, runOn_bind, runOn_get]
  simp only [unmarked.1, unmarked.2, decide_false, Bool.or_self, Bool.false_and,
    Bool.false_eq_true, if_false]
  rw [closeBrackets, runOn_bind, runOn_get]
  dsimp only
  rw [joinFrom_of_closed _ _ _ _ closed]
  rfl

theorem isNumber_temporary (number : Nat) (mask : List Component) :
    isNumber (temporary number ++ Component.suffix mask) = false := by
  have single : '\n' ∉ temporary number ++ Component.suffix mask := by
    intro inside
    rcases List.mem_append.mp inside with early | late
    · rcases mem_temporary early with same | digit
      · cases same
      · cases digit
    · rcases mem_suffix _ _ late with same | named
      · cases same
      · exact (isAlphanum_ne _ named).2.2.2.2 rfl
  unfold isNumber
  rw [Text.dropFinalNewline_of_notMem _ single]
  change isDecimalNumber ('r' :: (Text.ofNat number ++ Component.suffix mask)) = false
  unfold isDecimalNumber Text.spanDecimals
  rw [List.takeWhile_cons_of_neg (by decide), List.dropWhile_cons_of_neg (by decide)]
  rfl

theorem normalizeIndexed_temporary (number : Nat) (mask : List Component) (filled : mask ≠ []) :
    normalizeIndexed (temporary number ++ Component.suffix mask) =
      .ok (temporary number ++ Component.suffix mask) := by
  have word : ∀ c ∈ temporary number, Text.isWord c = true := by
    intro c inside
    rcases mem_temporary inside with rfl | digit
    · decide
    · obtain ⟨_, high⟩ := Text.digit_code c digit
      have small : c.toNat < 0x80 := by omega
      rw [Text.isWord, if_pos small, Char.isAlphanum, digit, Bool.or_true, Bool.true_or]
  obtain ⟨run, rest⟩ := span_cons word '.' (Component.letters mask) (by decide)
  rw [← Component.suffix_of_ne_nil filled] at run rest
  have plain : indexed? (temporary number ++ Component.suffix mask) = none := by
    unfold indexed?
    rw [run, rest, Component.suffix_of_ne_nil filled]
    rfl
  unfold normalizeIndexed
  rw [plain]

variable {declared : Declarations}

section Resolved

variable (returns : declared.resolve.fault = none) (number : Nat)
  (unlisted : declared.resolve.registers.IsUnlisted (temporary number)) (mask : List Component)
  (filled : mask ≠ []) (short : mask.length ≤ 4)

include returns unlisted filled short

/-- A temporary that no row goes by has no name. -/
theorem findName?_temporary :
    declared.resolve.registers.findName? (temporary number ++ Component.suffix mask) =
      .ok none := by
  have split := splitSelector_suffix _ mask (IsRegister.temporary number).filled filled short
  have start : (temporary number).head? = some 'r' := rfl
  rw [Registers.findName?_unlisted returns unlisted start (by decide) split]
  apply Registers.findConstant?_eq_none returns _ _ split
  · change some 'r' ≠ some 'c'
    decide
  · rw [start]
    decide

/-- A temporary stands for itself. -/
theorem resolved_temporary :
    resolved declared.resolve.registers (temporary number ++ Component.suffix mask) =
      .ok (temporary number ++ Component.suffix mask) := by
  have register := IsRegister.temporary number
  exact Registers.resolved_of_unnamed (register.bare.suffix register.filled mask).splitModifiers
    (findName?_temporary returns number unlisted mask filled short)
    (normalizeIndexed_temporary number mask filled)

end Resolved

theorem swizzleOf_temporary (number : Nat) (mask : List Component) (filled : mask ≠ [])
    (short : mask.length ≤ 4) :
    swizzleOf (temporary number ++ Component.suffix mask) = .ofComponents mask := by
  have register := IsRegister.temporary number
  have bare := register.bare.suffix register.filled mask
  unfold swizzleOf
  rw [bare.splitModifiers]
  dsimp only
  rw [constructor?_uncalled bare.uncalled, isNumber_temporary,
    splitSelector_suffix _ mask register.filled filled short]
  rfl

theorem dropFullSelector_ne_nil (number : Nat) (tail : Text) :
    dropFullSelector (temporary number ++ tail) ≠ [] := by
  unfold dropFullSelector
  cases found : Text.before? ".xyzw" (temporary number ++ tail) with
  | none => exact List.cons_ne_nil _ _
  | some front =>
    intro empty
    have whole := Text.eq_of_before? _ _ _ found
    rw [Option.getD_some] at empty
    rw [empty] at whole
    have start := congrArg List.head? whole
    cases Option.some.inj start

variable {env : Environment}

/-- The destination that an operand with a name is read as. -/
def destinationOf (raw name : Text) : Destination :=
  ⟨dropFullSelector name, swizzleOf raw,
    if (swizzleOf raw).count ≠ 0 && (splitSelector name).2.isEmpty then
      name ++ '.' :: (Swizzle.first (swizzleOf raw).count).pattern
    else name⟩

theorem runOn_readDestination_raw {d reached : Decoder} {raw name : Text}
    (read : runOn readRawOperand env d = (.ok raw, reached)) (written : raw ≠ "null")
    (named : resolved env.symbols.registers raw = .ok name) :
    runOn readDestination env d = (.ok (destinationOf raw name), reached) := by
  rw [readDestination, runOn_bind_of_ok _ _ _ _ _ _ read, if_neg written, runOn_bind,
    runOn_resolve, named]
  rfl

theorem destinationOf_temporary (number : Nat) (mask : List Component) (filled : mask ≠ [])
    (short : mask.length ≤ 4) (written : text = temporary number ++ Component.suffix mask) :
    destinationOf text text = ⟨dropFullSelector text, .ofComponents mask, text⟩ := by
  have selects : (splitSelector text).2.isEmpty = false := by
    rw [written, splitSelector_suffix _ mask (IsRegister.temporary number).filled filled short]
    exact List.isEmpty_eq_false_iff.mpr filled
  have shape : swizzleOf text = .ofComponents mask := by
    rw [written, swizzleOf_temporary number mask filled short]
  simp only [destinationOf, selects, shape, Bool.and_false, Bool.false_eq_true, if_false]

theorem runOn_readDestination_temporary (returns : declared.resolve.fault = none)
    (tables : env.symbols.registers = declared.resolve.registers) (number : Nat)
    (unlisted : declared.resolve.registers.IsUnlisted (temporary number))
    (mask : List Component) (filled : mask ≠ []) (short : mask.length ≤ 4)
    (d : Decoder) (token : Token) (rest : List Token) (ahead : d.cursor.rest = token :: rest)
    (here : d.line = some token.line)
    (written : token.text = temporary number ++ Component.suffix mask) :
    runOn readDestination env d =
      (.ok ⟨dropFullSelector token.text, .ofComponents mask, token.text⟩,
        d.past [token] rest d.log) := by
  have other (text : Text) (start : text.head? ≠ some 'r') : token.text ≠ text := by
    intro same
    rw [← same, written] at start
    exact start rfl
  have raw := runOn_readRawOperand_token env d token rest ahead here
    (by rw [written]; exact (IsRegister.temporary number).closed_suffix mask)
    ⟨other "l" (by decide), other "d" (by decide)⟩
  have name := resolved_temporary returns number unlisted mask filled short
  rw [← tables, ← written] at name
  rw [runOn_readDestination_raw raw (other "null" (by decide)) name,
    destinationOf_temporary number mask filled short written]

theorem runOn_readSource_token (d : Decoder) (token : Token) (rest : List Token)
    (ahead : d.cursor.rest = token :: rest) (here : d.line = some token.line)
    (closed : bracketsClosed token.text = true) (unmarked : token.text ≠ "l" ∧ token.text ≠ "d")
    {target : Swizzle} (named : resolved env.symbols.registers token.text = .ok expression)
    (fitted : env.symbols.registers.cast expression target = .ok value) :
    runOn (readSource target) env d = (.ok value, d.past [token] rest d.log) := by
  have raw := runOn_readRawOperand_token env d token rest ahead here closed unmarked
  rw [readSource, runOn_bind_of_ok _ _ _ _ _ _ raw, runOn_bind, runOn_resolve, named]
  dsimp only
  rw [runOn_cast, fitted]

theorem unmarked_of_long (long : 1 < text.length) : text ≠ "l" ∧ text ≠ "d" := by
  constructor
  · intro same
    rw [same] at long
    exact absurd long (by decide)
  · intro same
    rw [same] at long
    exact absurd long (by decide)

theorem classify?_move : ∃ instruction, Instruction.classify? "mov" = some instruction ∧
    instruction.opcode.family = .move ∧ instruction.saturate = false := by
  have known : (Instruction.classify? "mov").map (fun i => (i.opcode.family, i.saturate)) =
      some (.move, false) := by decide +kernel
  obtain ⟨instruction, classified, same⟩ := Option.map_eq_some_iff.mp known
  exact ⟨instruction, classified, (Prod.mk.inj same).1, (Prod.mk.inj same).2⟩

/-- A move between two registers adds one assignment. -/
theorem runOn_move (returns : declared.resolve.fault = none)
    (tables : env.symbols.registers = declared.resolve.registers) (number : Nat)
    (unlisted : declared.resolve.registers.IsUnlisted (temporary number)) (mask : List Component)
    (filled : mask ≠ []) (short : mask.length ≤ 4) (d : Decoder) (target source : Token)
    (rest : List Token) (ahead : d.cursor.rest = target :: source :: rest)
    (onTarget : d.line = some target.line) (onSource : d.line = some source.line)
    (written : target.text = temporary number ++ Component.suffix mask)
    (closed : bracketsClosed source.text = true) (unmarked : source.text ≠ "l" ∧ source.text ≠ "d")
    (named : resolved env.symbols.registers source.text = .ok expression)
    (fitted : env.symbols.registers.cast expression (.ofComponents mask) = .ok value) :
    runOn move env d = (.ok (), { d.past [target, source] rest d.log with
      context := { d.context with
        statements := d.context.statements ++
          [.assign d.context.depth.toNat (dropFullSelector target.text) value
            ((d.instruction.map Instruction.saturate).getD false)] } }) := by
  have destination := runOn_readDestination_temporary returns tables number unlisted mask filled
    short d target (source :: rest) ahead onTarget written
  have read := runOn_readSource_token (d.past [target] (source :: rest) d.log) source rest rfl
    onSource closed unmarked named fitted
  have kept : (Destination.mk (dropFullSelector target.text) (.ofComponents mask)
      target.text).isNull = false := by
    rw [Destination.isNull, List.isEmpty_eq_false_iff, written]
    exact dropFullSelector_ne_nil number _
  rw [move, runOn_bind_of_ok _ _ _ _ _ _ destination, runOn_bind_of_ok _ _ _ _ _ _ read, assign,
    kept, Decoder.past_past]
  rfl

end Decoding

namespace Registers

/-- The fields on a register. The rows of an input register have contiguous masks and go by names
that no constant has; the constants of a buffer's register can be told apart by their names. -/
inductive Packs (registers : Registers) : Text → List PackedField → Prop
  | input {base : Text} {rows : List SignatureEntry} (register : IsRegister base)
      (listed : registers.inputRows? base = some rows) (shared : rows ≠ [])
      (contiguous : ∀ entry ∈ rows, entry.signature.IsContiguous)
      (fields : ∀ entry ∈ rows, registers.IsField entry.expression) :
      Packs registers base (rows.map SignatureEntry.field)
  | constant {bind slot : Nat} (unlisted : registers.IsUnlisted (constantText bind slot))
      (shared : registers.constants.entriesAt bind slot ≠ [])
      (paths : ∀ entry ∈ registers.constants.entriesAt bind slot,
        registers.IsPath entry.expression ∧
          registers.constants.fields.get? entry.expression = some entry) :
      Packs registers (constantText bind slot)
        ((registers.constants.entriesAt bind slot).map ConstantEntry.field)

namespace Packs

variable {base : Text} {fields : List PackedField}

theorem isRegister {registers : Registers} (packs : registers.Packs base fields) :
    IsRegister base := by
  cases packs with
  | input register => exact register
  | constant => exact .constantText _ _

theorem readsField {declared : Declarations} (returns : declared.resolve.fault = none)
    (packs : declared.resolve.registers.Packs base fields) (swizzle : Component → Component)
    (mask : List Component) (filled : mask ≠ []) (ordered : mask.Sublist Component.all)
    (whole : ∀ rows, declared.resolve.registers.inputRows? base = some rows → ∀ entry ∈ rows,
      entry.signature.mask = Component.letters (Component.all.map swizzle) →
        mask <+: Component.all) :
    declared.resolve.registers.ReadsField fields base swizzle mask := by
  have register := packs.isRegister
  have bare := register.bare.suffix register.filled (Component.all.map swizzle)
  cases packs with
  | input _ listed shared contiguous fields =>
    exact readsField_input register.filled swizzle mask bare listed shared contiguous fields filled
      ordered (whole _ listed)
  | constant unlisted shared paths =>
    exact readsField_constant returns swizzle mask bare unlisted shared paths filled ordered

end Packs
end Registers

namespace Decoding

/-- A move from a packed register reads one field in all lanes, the one over the first selected
component. A lane whose component lies in that field reads it at its place there. The selector of a
row over all four components is left out when it selects them in order, and then the lanes that are
written start with the first. -/
theorem turn_move_packed (declared : Declarations) (returns : declared.resolve.fault = none)
    (env : Environment) (tables : env.symbols.registers = declared.resolve.registers)
    (d : Decoder) (mnemonic target source : Token) (rest : List Token)
    (ahead : d.cursor.rest = mnemonic :: target :: source :: rest)
    (moves : mnemonic.text = "mov")
    (aligned : target.line = mnemonic.line ∧ source.line = mnemonic.line)
    (number : Nat) (unlisted : declared.resolve.registers.IsUnlisted (temporary number))
    (mask : List Component) (filled : mask ≠ []) (ordered : mask.Sublist Component.all)
    (written : target.text = temporary number ++ Component.suffix mask)
    (base : Text) (fields : List PackedField)
    (packs : declared.resolve.registers.Packs base fields) (swizzle : Component → Component)
    (selected : source.text = base ++ Component.suffix (Component.all.map swizzle))
    (whole : ∀ rows, declared.resolve.registers.inputRows? base = some rows → ∀ entry ∈ rows,
      entry.signature.mask = Component.letters (Component.all.map swizzle) →
        mask <+: Component.all) :
    ∃ field value after, PackedField.over? fields (swizzle .x) = some field ∧
      runOn turn env d = (.ok (), after) ∧
      after.context = { d.context with
        statements := d.context.statements ++
          [.assign d.context.depth.toNat (dropFullSelector target.text) value false] } ∧
      ∀ lane ∈ mask, ∃ c, field.ReadsLane mask lane c value ∧
        (field.Occupies (swizzle lane) → c.index = (swizzle lane).index - field.first) := by
  obtain ⟨field, expression, value, chosen, named, fitted, reads⟩ :=
    packs.readsField returns swizzle mask filled ordered whole
  obtain ⟨instruction, classified, family, unclamped⟩ := classify?_move
  rw [← moves] at classified
  have stops : ∀ token ∈ (target :: source :: rest).head?, some mnemonic.line = some token.line →
      token.text ≠ "(" ∧ token.text.head? ≠ some '_' := by
    intro token inside _
    cases inside
    rw [written]
    constructor
    · intro opens
      cases (List.cons.inj opens).1
    · intro marked
      cases Option.some.inj marked
  have started := runOn_turn env d mnemonic [] (target :: source :: rest) instruction instruction
    ahead classified (.done stops)
  have long : 1 < source.text.length := by
    rw [selected, List.length_append]
    change 1 < base.length + 5
    omega
  rw [← tables, ← selected] at named
  rw [← tables] at fitted
  have moved := runOn_move returns tables number unlisted mask filled
    (ordered.length_le.trans_eq rfl)
    (atOperands d mnemonic [] (target :: source :: rest) instruction) target source rest rfl
    (congrArg some aligned.1.symm) (congrArg some aligned.2.symm) written
    (by rw [selected]; exact packs.isRegister.closed_suffix _) (unmarked_of_long long) named fitted
  have dispatched : dispatch instruction = move := by rw [dispatch, family]
  rw [← dispatched] at moved
  refine ⟨field, value, _, chosen, started.trans moved, ?_, reads⟩
  have clamped : ((some instruction).map Instruction.saturate).getD false = false := unclamped
  dsimp only [atOperands]
  rw [clamped]
  rfl

def packedRows : List SignatureEntry :=
  [⟨⟨"TEXCOORD", 0, "xy", some 1, "1", "NONE", "float", "Texcoord", 1, 0⟩, "input.Texcoord"⟩,
    ⟨⟨"COLOR", 0, "zw", some 1, "1", "NONE", "float", "Color", 1, 0⟩, "input.Color"⟩]

def packedConstants : List ConstantEntry :=
  [⟨"offset", [], [], "float2", 2, 0⟩, ⟨"scale", [], ".z", "float", 1, 2⟩]

/-- Two rows on one input register, and two constants on one register of a buffer. -/
def packedListing : Declarations :=
  { inputs := packedRows.map SignatureEntry.signature
    buffers := [⟨"Scene", 0, 12,
      [⟨"float2", "offset", 0, 8, .default⟩, ⟨"float", "scale", 8, 4, .default⟩]⟩] }

def packedEnvironment : Environment :=
  { symbols := ⟨packedListing.resolve.declared, packedListing.resolve.registers⟩ }

/-- The decoder in front of a move. -/
def beforeMove (target source : Text) : Decoder :=
  { cursor := ⟨[], [⟨"mov", 1⟩, ⟨target, 1⟩, ⟨source, 1⟩]⟩ }

theorem tables_packedListing :
    packedListing.resolve.fault = none ∧
    packedListing.resolve.registers.inputRows? "v1" = some packedRows ∧
    packedListing.resolve.registers.outputs.entries = [] ∧
    (∀ base ∈ [temporary 0, constantText 0 0],
      packedListing.resolve.registers.inputs.entries.get? base = none) ∧
    packedListing.resolve.registers.constants.entriesAt (0 : Nat) (0 : Nat) = packedConstants ∧
    packedListing.resolve.registers.constants.fields =
      packedConstants.map fun entry => (entry.expression, entry) := by
  decide +kernel

theorem resolve_packedListing : packedListing.resolve.fault = none := tables_packedListing.1

theorem inputRows?_packedListing :
    packedListing.resolve.registers.inputRows? "v1" = some packedRows :=
  tables_packedListing.2.1

theorem isContiguous_packedRows : ∀ entry ∈ packedRows, entry.signature.IsContiguous := by
  unfold Signature.IsContiguous
  decide

/-- The component z of the register lies in the second row, but the first one is read for it. -/
theorem turn_move_past_owner :
    packedListing.resolve.fault = none ∧
    packedListing.resolve.registers.inputRows? "v1" = some packedRows ∧
    (∀ entry ∈ packedRows, entry.signature.IsContiguous) ∧
    packedRows.map SignatureEntry.field =
      [⟨"input.Texcoord", 0, 2⟩, ⟨"input.Color", 2, 2⟩] ∧
    (PackedField.mk "input.Color" 2 2).Occupies .z ∧
    ∃ value after, runOn turn packedEnvironment (beforeMove "r0.z" "v1.xyzw") = (.ok (), after) ∧
      after.context.statements = [.assign 0 "r0.z" value false] ∧
      ∀ c, ¬ (PackedField.mk "input.Color" 2 2).ReadsLane [.z] .z c value := by
  refine ⟨resolve_packedListing, inputRows?_packedListing, isContiguous_packedRows, rfl, by decide,
    "input.Texcoord.z", _, runOn_of_isOk _ _ _ (by decide +kernel), by decide +kernel, ?_⟩
  intro c reads
  generalize read : ("input.Texcoord.z" : Text) = value at reads
  cases reads with
  | selected pick =>
    have apart : some 'T' = some 'C' := congrArg (fun text : Text => text[6]?) read
    exact absurd apart (by decide)
  | whole => exact absurd read (by decide)
  | spread type =>
    have called : '(' ∈ ("input.Texcoord.z" : Text) := by
      rw [read]
      simp
    exact absurd called (by decide)

theorem isPath_packedListing {expression : Text} (filled : expression ≠ [])
    (bare : IsBare expression) : packedListing.resolve.registers.IsPath expression := by
  refine ⟨filled, bare, ?_⟩
  intro selected several
  cases found : packedListing.resolve.registers.constants.fields.get?
      (expression ++ Component.suffix selected) with
  | none => rfl
  | some entry =>
    have names : ∀ field ∈ packedListing.resolve.registers.constants.fields, '.' ∉ field.1 := by
      obtain ⟨_, _, _, _, _, fields⟩ := tables_packedListing
      rw [fields]
      decide
    refine absurd ?_ (names _ (Table.mem_of_get? found))
    rw [Component.suffix_of_ne_nil several]
    simp

theorem packs_packedRows :
    packedListing.resolve.registers.Packs "v1" (packedRows.map SignatureEntry.field) := by
  refine .input ⟨by decide, ⟨by decide, by decide, by decide⟩, by decide⟩ inputRows?_packedListing
    (by decide) isContiguous_packedRows ?_
  have each : ∀ entry ∈ packedRows, (Operand.splitSelector entry.expression).2 = [] ∧
      packedListing.resolve.registers.constants.fields.get? entry.expression = none ∧
      entry.expression ≠ [] ∧ entry.expression.head? ≠ some '-' ∧
      entry.expression.head? ≠ some '|' ∧ '(' ∉ entry.expression := by
    obtain ⟨_, _, _, _, _, fields⟩ := tables_packedListing
    rw [fields]
    decide
  intro entry inside
  obtain ⟨unselected, other, filled, unsigned, unbarred, uncalled⟩ := each entry inside
  exact ⟨isPath_packedListing filled ⟨unsigned, unbarred, uncalled⟩, unselected, other⟩

theorem packs_packedConstants : packedListing.resolve.registers.Packs (constantText 0 0)
    (packedConstants.map ConstantEntry.field) := by
  obtain ⟨_, _, outputs, inputs, entries, fields⟩ := tables_packedListing
  rw [← entries]
  refine .constant ⟨inputs _ (by simp), by rw [outputs]; rfl⟩ (by rw [entries]; decide) ?_
  have each : ∀ entry ∈ packedConstants,
      packedListing.resolve.registers.constants.fields.get? entry.expression = some entry ∧
      entry.expression ≠ [] ∧ entry.expression.head? ≠ some '-' ∧
      entry.expression.head? ≠ some '|' ∧ '(' ∉ entry.expression := by
    rw [fields]
    decide
  rw [entries]
  intro entry inside
  obtain ⟨known, filled, unsigned, unbarred, uncalled⟩ := each entry inside
  exact ⟨isPath_packedListing filled ⟨unsigned, unbarred, uncalled⟩, known⟩

theorem isUnlisted_packedListing :
    packedListing.resolve.registers.IsUnlisted (temporary 0) := by
  obtain ⟨_, _, outputs, inputs, _⟩ := tables_packedListing
  exact ⟨inputs _ (by simp), by rw [outputs]; rfl⟩

theorem turn_move_packed_listing :
    packedListing.resolve.fault = none ∧
    packedListing.resolve.registers.IsUnlisted (temporary 0) ∧
    packedListing.resolve.registers.Packs "v1" (packedRows.map SignatureEntry.field) ∧
    packedListing.resolve.registers.Packs (constantText 0 0)
      (packedConstants.map ConstantEntry.field) ∧
    (∃ value after, runOn turn packedEnvironment (beforeMove "r0.xy" "v1.yxzw") = (.ok (), after) ∧
      after.context.statements = [.assign 0 "r0.xy" value false] ∧
      (PackedField.mk "input.Texcoord" 0 2).ReadsLane [.x, .y] .x .y value ∧
      (PackedField.mk "input.Texcoord" 0 2).ReadsLane [.x, .y] .y .x value) ∧
    ∃ value after,
      runOn turn packedEnvironment (beforeMove "r0.yzw" "cb0[0].zzxz") = (.ok (), after) ∧
      after.context.statements = [.assign 0 "r0.yzw" value false] ∧
      (PackedField.mk "scale" 2 1).ReadsLane [.y, .z, .w] .y .x value ∧
      (PackedField.mk "scale" 2 1).ReadsLane [.y, .z, .w] .w .x value := by
  refine ⟨resolve_packedListing, isUnlisted_packedListing, packs_packedRows, packs_packedConstants,
    ?_, ?_⟩
  · obtain ⟨field, value, after, chosen, run, context, reads⟩ :=
      turn_move_packed packedListing resolve_packedListing packedEnvironment rfl
        (beforeMove "r0.xy" "v1.yxzw") ⟨"mov", 1⟩ ⟨"r0.xy", 1⟩ ⟨"v1.yxzw", 1⟩ [] rfl rfl ⟨rfl, rfl⟩
        0 isUnlisted_packedListing [.x, .y] (by decide) (by decide) (by decide) "v1" _
        packs_packedRows (fun c => match c with | .x => .y | .y => .x | c => c) (by decide)
        (fun _ _ _ _ _ => ⟨[.z, .w], rfl⟩)
    cases chosen
    obtain ⟨first, fromFirst, atFirst⟩ := reads .x (by decide)
    obtain ⟨second, fromSecond, atSecond⟩ := reads .y (by decide)
    obtain rfl : first = .y := Component.index_inj (atFirst (by decide))
    obtain rfl : second = .x := Component.index_inj (atSecond (by decide))
    exact ⟨value, after, run, congrArg Context.statements context, fromFirst, fromSecond⟩
  · obtain ⟨field, value, after, chosen, run, context, reads⟩ :=
      turn_move_packed packedListing resolve_packedListing packedEnvironment rfl
        (beforeMove "r0.yzw" "cb0[0].zzxz") ⟨"mov", 1⟩ ⟨"r0.yzw", 1⟩ ⟨"cb0[0].zzxz", 1⟩ [] rfl rfl
        ⟨rfl, rfl⟩ 0 isUnlisted_packedListing [.y, .z, .w] (by decide) (by decide) (by decide)
        (constantText 0 0) _ packs_packedConstants
        (fun c => match c with | .z => .x | _ => .z) (by decide) (by decide +kernel)
    cases chosen
    obtain ⟨first, fromFirst, atFirst⟩ := reads .y (by decide)
    obtain ⟨last, fromLast, atLast⟩ := reads .w (by decide)
    obtain rfl : first = .x := Component.index_inj (atFirst (by decide))
    obtain rfl : last = .x := Component.index_inj (atLast (by decide))
    exact ⟨value, after, run, congrArg Context.statements context, fromFirst, fromLast⟩

end Decoding
end ShaderLift
