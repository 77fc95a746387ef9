import ShaderLift.Instruction.Basic
import ShaderLift.Table

namespace ShaderLift.Instruction

def entry (name : String) (family : Family) (arity : Nat := 0) (kind : NumericKind := .float)
    (symbol : String := "") (width : Nat := 0) : Text × Opcode :=
  (name, ⟨family, arity, kind, symbol, width⟩)

def coreOpcodes : Table Opcode :=
  [entry "add" .binary 3 .float "+",
    entry "iadd" .binary 3 .int "+",
    entry "mul" .binary 3 .float "*",
    entry "div" .binary 3 .float "/",
    entry "mad" .multiplyAdd 4 .float "mad",
    entry "imad" .integerMultiplyAdd 4 .int,
    entry "umad" .integerMultiplyAdd 4 .uint,
    entry "min" .call2 3 .float "min",
    entry "max" .call2 3 .float "max",
    entry "imin" .call2 3 .int "min",
    entry "imax" .call2 3 .int "max",
    entry "umin" .call2 3 .uint "min",
    entry "umax" .call2 3 .uint "max",
    entry "imul" .wideMultiply 4 .int "*",
    entry "umul" .wideMultiply 4 .uint "*",
    entry "udiv" .divide 4 .uint,
    entry "dp2" .dot 3 .float "dot" 2,
    entry "dp3" .dot 3 .float "dot" 3,
    entry "dp4" .dot 3 .float "dot" 4,
    entry "exp" .call1 2 .float "exp2",
    entry "log" .call1 2 .float "log2",
    entry "frc" .call1 2 .float "frac",
    entry "sqrt" .call1 2 .float "sqrt",
    entry "rsq" .call1 2 .float "rsqrt",
    entry "round_ne" .call1 2 .float "round",
    entry "round_ni" .call1 2 .float "floor",
    entry "round_pi" .call1 2 .float "ceil",
    entry "round_z" .call1 2 .float "trunc",
    entry "deriv_rtx" .call1 2 .float "ddx",
    entry "deriv_rty" .call1 2 .float "ddy",
    entry "ineg" .negate 2 .int,
    entry "sincos" .sineCosine 3,
    entry "mov" .move 2,
    entry "movc" .moveConditional 4,
    entry "eq" .compare 3 .float "==",
    entry "ne" .compare 3 .float "!=",
    entry "lt" .compare 3 .float "<",
    entry "ge" .compare 3 .float ">=",
    entry "ieq" .compare 3 .int "==",
    entry "ine" .compare 3 .int "!=",
    entry "ilt" .compare 3 .int "<",
    entry "ige" .compare 3 .int ">=",
    entry "ult" .compare 3 .uint "<",
    entry "uge" .compare 3 .uint ">=",
    entry "not" .complement 2 .uint "~",
    entry "and" .logic 3 .uint "&",
    entry "or" .logic 3 .uint "|",
    entry "xor" .logic 3 .uint "^",
    entry "ishl" .shift 3 .int "<<",
    entry "ishr" .shift 3 .int ">>",
    entry "ushr" .shift 3 .uint ">>",
    entry "ftoi" .fromFloat 2 .int "asint",
    entry "ftou" .fromFloat 2 .uint "asuint",
    entry "itof" .toFloat 2 .int "asfloat",
    entry "utof" .toFloat 2 .uint "asfloat",
    entry "if_nz" .ifMarker 1 .float "!=",
    entry "if_z" .ifMarker 1 .float "==",
    entry "else" .elseMarker,
    entry "endif" .endIf,
    entry "loop" .loop,
    entry "endloop" .endLoop,
    entry "switch" .switch 1 .int,
    entry "case" .caseLabel 1 .int,
    entry "default" .defaultLabel,
    entry "endswitch" .endSwitch,
    entry "break" .breakOut,
    entry "breakc_nz" .breakConditional 1 .float "!=",
    entry "breakc_z" .breakConditional 1 .float "==",
    entry "continue" .continueOn,
    entry "continuec_nz" .continueConditional 1 .float "!=",
    entry "continuec_z" .continueConditional 1 .float "==",
    entry "ret" .leave,
    entry "retc_nz" .leaveConditional 1 .float "!=",
    entry "retc_z" .leaveConditional 1 .float "==",
    entry "discard_nz" .discard 1 .float "!=",
    entry "discard_z" .discard 1 .float "==",
    entry "emit" .emitVertex,
    entry "cut" .cutStrip,
    entry "nop" .idle,
    entry "label" .idle 1,
    entry "dcl_temps" .declareTemps 1,
    entry "dcl_indexableTemp" .declareIndexable 2,
    entry "dcl_immediateConstantBuffer" .declareConstants,
    entry "dcl_input" .declareInput 1,
    entry "dcl_maxOutputVertexCount" .declareVertexCount 1,
    entry "dcl_inputPrimitive" .declarePrimitive 1,
    entry "dcl_outputTopology" .declareTopology 1,
    entry "dcl_maxout" .declareVertexCount 1,
    entry "dcl_inputprimitive" .declarePrimitive 1,
    entry "dcl_outputtopology" .declareTopology 1,
    entry "sample" .sample 4 .float "Sample",
    entry "sample_b" .sample 5 .float "SampleBias",
    entry "sample_c" .sample 5 .float "SampleCmp",
    entry "sample_c_lz" .sample 5 .float "SampleCmpLevelZero",
    entry "sample_l" .sample 5 .float "SampleLevel",
    entry "sample_d" .sample 6 .float "SampleGrad",
    entry "ld" .load 3 .int "Load",
    entry "ld_ms" .loadMultisampled 4 .int "Load",
    entry "resinfo" .resourceInfo 3,
    entry "resinfo_uint" .resourceInfo 3 .uint,
    entry "resinfo_rcpFloat" .resourceInfo 3 .float "rcp"]

def extendedOpcodes : Table Opcode :=
  [entry "rcp" .call1 2 .float "rcp",
    entry "deriv_rtx_coarse" .call1 2 .float "ddx_coarse",
    entry "deriv_rtx_fine" .call1 2 .float "ddx_fine",
    entry "deriv_rty_coarse" .call1 2 .float "ddy_coarse",
    entry "deriv_rty_fine" .call1 2 .float "ddy_fine",
    entry "countbits" .bitCall 2 .uint "countbits",
    entry "firstbit_hi" .bitCall 2 .uint "firstbithigh",
    entry "firstbit_shi" .bitCall 2 .int "firstbithigh",
    entry "firstbit_lo" .bitCall 2 .uint "firstbitlow",
    entry "bfrev" .bitCall 2 .uint "reversebits",
    entry "ubfe" .bitExtract 4 .uint,
    entry "ibfe" .bitExtract 4 .int,
    entry "bfi" .bitInsert 5 .uint,
    entry "f32tof16" .toHalf 2 .float "f32tof16",
    entry "f16tof32" .fromHalf 2 .uint "f16tof32",
    entry "swapc" .swapConditional 5,
    entry "emit_stream" .emitVertex 1,
    entry "cut_stream" .cutStrip 1,
    entry "dcl_thread_group" .declareThreadGroup 3,
    entry "dcl_tgsm_raw" .declareSharedRaw 2,
    entry "dcl_tgsm_structured" .declareSharedStructured 3,
    entry "lod" .levelOfDetail 4 .float "CalculateLevelOfDetail",
    entry "gather4" .gather 4 .float "Gather",
    entry "gather4_c" .gather 5 .float "GatherCmp",
    entry "gather4_po" .gather 5 .float "Gather" 1,
    entry "gather4_po_c" .gather 6 .float "GatherCmp" 1,
    entry "ld_raw" .loadRaw 3 .uint,
    entry "ld_structured" .loadStructured 4 .uint,
    entry "ld_uav_typed" .loadTyped 3 .int,
    entry "store_raw" .storeRaw 3 .uint,
    entry "store_structured" .storeStructured 4 .uint,
    entry "store_uav_typed" .storeTyped 3 .int,
    entry "atomic_and" .atomic 3 .uint "InterlockedAnd",
    entry "atomic_or" .atomic 3 .uint "InterlockedOr",
    entry "atomic_xor" .atomic 3 .uint "InterlockedXor",
    entry "atomic_iadd" .atomic 3 .int "InterlockedAdd",
    entry "atomic_imax" .atomic 3 .int "InterlockedMax",
    entry "atomic_imin" .atomic 3 .int "InterlockedMin",
    entry "atomic_umax" .atomic 3 .uint "InterlockedMax",
    entry "atomic_umin" .atomic 3 .uint "InterlockedMin",
    entry "atomic_cmp_store" .atomic 4 .uint "InterlockedCompareStore",
    entry "imm_atomic_and" .atomicReturning 4 .uint "InterlockedAnd",
    entry "imm_atomic_or" .atomicReturning 4 .uint "InterlockedOr",
    entry "imm_atomic_xor" .atomicReturning 4 .uint "InterlockedXor",
    entry "imm_atomic_exch" .atomicReturning 4 .uint "InterlockedExchange",
    entry "imm_atomic_iadd" .atomicReturning 4 .int "InterlockedAdd",
    entry "imm_atomic_imax" .atomicReturning 4 .int "InterlockedMax",
    entry "imm_atomic_imin" .atomicReturning 4 .int "InterlockedMin",
    entry "imm_atomic_umax" .atomicReturning 4 .uint "InterlockedMax",
    entry "imm_atomic_umin" .atomicReturning 4 .uint "InterlockedMin",
    entry "imm_atomic_cmp_exch" .atomicReturning 5 .uint "InterlockedCompareExchange",
    entry "imm_atomic_alloc" .atomicCounter 2 .uint "IncrementCounter",
    entry "imm_atomic_consume" .atomicCounter 2 .uint "DecrementCounter"]

/-- Families whose mnemonics differ only in what follows a common beginning. -/
def openOpcodes : Table Opcode :=
  [entry "sync" .barrier, entry "dcl_" .declareOther]

def modifierSegments : List Text := ["indexable", "aoffimmi"]

/-- The mnemonic without its modifier parts, and whether it asks for saturation. -/
def normalizeMnemonic (mnemonic : Text) : Text × Bool :=
  let plain := Text.before? "_sat" mnemonic
  let kept := (Text.pieces '_' (plain.getD mnemonic)).filter fun part =>
    !modifierSegments.contains part
  (Text.join "_" kept, plain.isSome)

def lookup? (name : Text) : Option Opcode :=
  (extendedOpcodes.get? name).or <| (coreOpcodes.get? name).or <|
    (openOpcodes.find? fun (start, _) => Text.startsWith start name).map Prod.snd

def classify? (mnemonic : Text) : Option Instruction :=
  let (name, saturate) := normalizeMnemonic mnemonic
  (lookup? name).map fun opcode => { mnemonic, opcode, saturate }

end ShaderLift.Instruction
