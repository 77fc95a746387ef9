import ShaderLift.Proofs.Shared.Operands

namespace ShaderLift

open Operand

namespace Decoding

variable {selected : List Component} {instruction : Instruction} {sizes : List Text}

variable {α : Type} {env : Environment} {d : Decoder} {passed tokens start rest : List Token}
  {operands : List (List Token)} {log : Log} {address : SharedAddress}

/-- A step reads the operands of an instruction and adds its statements. -/
def DoneBy (env : Environment) (opcode : Opcode) (d : Decoder) (i : SharedInstruction)
    (step : Decoding Unit) : Prop :=
  ∀ {start rest : List Token} {operands : List (List Token)} (log : Log),
    OperandRun d.line start operands i.listed rest →
      runOn step env (d.past [] start log) = (.ok (), (d.past operands.flatten rest log).adding
        (i.statements opcode d.context.depth d.clamps))

theorem runOn_shared_bind {array base : Text} {words : Int}
    (known : d.context.sharedMemory.get? base = some words)
    (split : splitSelector (splitModifiers array).inner = (base, selected))
    (operand : IsOperand d.line tokens rest array) (next : ResourceOperand → Decoding α) :
    runOn (readResource >>= next) env (d.past passed (tokens ++ rest) log) =
      runOn (next (sharedOperand base selected words)) env (d.past (passed ++ tokens) rest log) := by
  rw [readResource, bind_assoc, runOn_raw_bind operand]
  simp only [split, bind_assoc]
  rw [runOn_bind, runOn_get]
  simp only [Decoder.past_context, known, pure_bind]
  rfl

theorem runOn_writtenLanes_bind {destination : Destination} {mask : List Component}
    (filled : mask ≠ []) (shape : destination.shape = .ofComponents mask)
    (next : List Component → Decoding α) (d : Decoder) :
    runOn (liftM (writtenLanes destination) >>= next) env d = runOn (next mask) env d := by
  have lanes : writtenLanes destination = .ok mask := by
    rw [writtenLanes, shape, Swizzle.components_ofComponents]
    simp [bind, Except.bind, filled]
    rfl
  rw [lanes]
  rfl

theorem selectedWords_eq (selects : selected ≠ []) (mask : List Component) :
    selectedWords selected mask = mask.map (letterAt selected) := by
  have each (c : Component) : (Component.all.map (letterAt selected))[c.index]? =
      some (letterAt selected c) := by
    rw [List.getElem?_map, (Component.all_getElem?_eq_some_iff c.index c).mpr rfl]
    rfl
  rw [selectedWords, laneComponents_eq selects]
  simp [each]

theorem runOn_wordIndex_bind (readable : address.IsReadable) (c : Component)
    (next : Text → Decoding α) (d : Decoder) :
    runOn (liftM (wordIndex (asInteger address.offset.text .unsigned) c.index) >>= next) env d =
      runOn (next (address.wordAt c).text) env d := by
  rw [SharedAddress.wordIndex_eq readable]
  rfl

/-- The words of a raw array, one after the other. -/
theorem runOn_accesses_bind (readable : address.IsReadable) (base : Text) (words : List Component)
    (next : List Text → Decoding α) (d : Decoder) :
    runOn ((words.mapM fun word => do
        return base ++ "[" ++ (← wordIndex (asInteger address.offset.text .unsigned) word.index) ++
          "]") >>= next) env d =
      runOn (next (words.map fun c => base ++ "[" ++ (address.wordAt c).text ++ "]")) env d := by
  induction words generalizing next with
  | nil => rfl
  | cons c rest ih =>
    simp only [List.mapM_cons, bind_assoc, pure_bind, List.map_cons]
    rw [runOn_wordIndex_bind readable, ih]

theorem runOn_firstWord_bind (readable : address.IsReadable) (next : Int → Decoding α)
    (d : Decoder) :
    runOn (liftM (firstWord address.offset.text) >>= next) env d =
      runOn (next (if address.isLiteral then (Text.decimalsValue address.offset.text / 4 : Nat)
        else 0)) env d := by
  rw [SharedAddress.firstWord_eq readable]
  rfl

theorem flatten_three (first second third : List Token) :
    [first, second, third].flatten = [] ++ first ++ second ++ third := by
  simp

section Load

variable {target : ReadOperand} {array : Text} {mask selected : List Component} {words : Int}
  {opcode : Opcode}

/-- The words that have been accessed are put together and assigned. -/
theorem runOn_loaded (named : dropFullSelector target.text ≠ []) {texts : List Text}
    (accesses : texts = (SharedInstruction.load address array target mask selected).lanes.map
      (SharedInstruction.load address array target mask selected).accessFor) (d : Decoder) :
    runOn (assign (destinationOf target.listed target.text) (asFloat (gatherWords texts))) env d =
      (.ok (), d.adding ((SharedInstruction.load address array target mask selected).statements
        opcode d.context.depth d.clamps)) := by
  rw [accesses, runOn_assign_named named]
  rfl

variable (known : d.context.sharedMemory.get? address.base = some words)
  (readable : address.IsReadable)

include known readable

theorem runOn_loadRaw_shared (raw : address.index = none)
    (proper : (SharedInstruction.load address array target mask selected).IsProper env opcode) :
    DoneBy env opcode d (.load address array target mask selected) loadRaw := by
  intro start rest operands log read
  let i := SharedInstruction.load address array target mask selected
  have listed : i.listed = [target.listed, address.offset.listed, array] := by
    simp [i, SharedInstruction.listed, SharedAddress.listed, raw]
  rw [listed] at read
  cases proper with
  | load filled names located selects split =>
  obtain _ | ⟨written, _ | ⟨shifted, _ | ⟨resource, _ | _⟩⟩⟩ := read
  rw [loadRaw, runOn_target_bind names written, runOn_raw_bind shifted,
    runOn_scalar_bind located.offset, runOn_shared_bind known split resource,
    runOn_writtenLanes_bind filled names.selects]
  simp only [isShared_sharedOperand, if_true]
  rw [runOn_accesses_bind readable]
  have accesses : (selectedWords selected mask).map
        (fun c => address.base ++ "[" ++ (address.wordAt c).text ++ "]") =
      i.lanes.map i.accessFor := by
    rw [selectedWords_eq selects]
    exact List.map_congr_left fun c _ => (SharedInstruction.accessFor_raw (i := i) raw c).symm
  rw [flatten_three]
  exact runOn_loaded names.named accesses _

theorem runOn_loadStructured_shared {index : ReadOperand} (element : address.index = some index)
    (proper : (SharedInstruction.load address array target mask selected).IsProper env opcode) :
    DoneBy env opcode d (.load address array target mask selected) loadStructured := by
  intro start rest operands log read
  let i := SharedInstruction.load address array target mask selected
  have listed : i.listed = [target.listed, index.listed, address.offset.listed, array] := by
    simp [i, SharedInstruction.listed, SharedAddress.listed, element]
  rw [listed] at read
  cases proper with
  | load filled names located selects split =>
  obtain _ | ⟨written, _ | ⟨indexed, _ | ⟨shifted, _ | ⟨resource, _ | _⟩⟩⟩⟩ := read
  rw [loadStructured, runOn_target_bind names written, runOn_raw_bind indexed,
    runOn_scalar_bind (located.index index element), runOn_raw_bind shifted,
    runOn_scalar_bind located.offset, runOn_shared_bind known split resource]
  simp only [isShared_sharedOperand, if_true]
  rw [runOn_firstWord_bind readable, runOn_writtenLanes_bind filled names.selects]
  have accesses : (selectedWords selected mask).map (fun c =>
        sharedWord (sharedOperand address.base selected words) (asInteger index.text .unsigned)
          (if address.isLiteral then (Text.decimalsValue address.offset.text / 4 : Nat) else 0)
          c.index) =
      i.lanes.map i.accessFor := by
    rw [selectedWords_eq selects]
    exact List.map_congr_left fun c _ =>
      SharedInstruction.sharedWord_eq (i := i) element rfl selected words c
  rw [flatten_four]
  exact runOn_loaded names.named accesses _

end Load

section Store

variable {source : ReadOperand} {array : Text} {mask : List Component} {parts : List Text}
  {words : Int} {opcode : Opcode}

/-- A value is stored part by part. -/
theorem runOn_storeWords {value : Text} {count : Nat} {target : Nat → Except Fault Text}
    {place : Component → Text} (reaches : ∀ c : Component, target c.index = .ok (place c))
    (position : Nat) (all : parts.length = mask.length)
    (each : ∀ further part, parts[further]? = some part →
      IsPart env value count (position + further) part) (d : Decoder) :
    runOn (storeWords value count target position mask) env d =
      (.ok (), d.adding (List.zipWith (fun c part => .code d.context.depth.toNat
        (place c ++ " = " ++ asInteger part .unsigned ++ ";")) mask parts)) := by
  induction mask generalizing position parts d with
  | nil => rw [storeWords, List.zipWith_nil_left, Decoder.adding_nil, runOn_pure]
  | cons c rest ih =>
    obtain _ | ⟨part, others⟩ := parts
    · cases all
    have first (next : Text → Decoding Unit) : runOn (if 1 < count then
          lane value position count >>= next else pure value >>= next) env d =
        runOn (next part) env d := by
      have here := each 0 part rfl
      unfold IsPart at here
      split
      · rename_i several
        rw [if_pos several] at here
        exact runOn_bind_of_ok _ _ _ _ _ _ (here d)
      · rename_i single
        rw [if_neg single] at here
        rw [here, pure_bind]
    have later : ∀ further text, others[further]? = some text →
        IsPart env value count (position + 1 + further) text := by
      intro further text found
      have there := each (further + 1) text found
      rwa [show position + (further + 1) = position + 1 + further by omega] at there
    rw [storeWords, first, reaches]
    refine (runOn_bind_of_ok _ _ _ _ _ _ rfl).trans ?_
    rw [runOn_bind_of_ok _ _ _ _ _ _ (runOn_emit_line _ d), ih (position + 1)
      (Nat.succ.inj all) later, Decoder.adding_adding]
    rfl

variable (known : d.context.sharedMemory.get? address.base = some words)
  (readable : address.IsReadable)

include known readable

theorem runOn_storeRaw_shared (raw : address.index = none)
    (proper : (SharedInstruction.store address array mask source parts).IsProper env opcode) :
    DoneBy env opcode d (.store address array mask source parts) storeRaw := by
  intro start rest operands log read
  let i := SharedInstruction.store address array mask source parts
  have listed : i.listed = [array, address.offset.listed, source.listed] := by
    simp [i, SharedInstruction.listed, SharedAddress.listed, raw]
  rw [listed] at read
  cases proper with
  | store filled split located value all each =>
  obtain _ | ⟨resource, _ | ⟨shifted, _ | ⟨stored, _ | _⟩⟩⟩ := read
  have reaches (c : Component) : (do
      return address.base ++ "[" ++ (← wordIndex (asInteger address.offset.text .unsigned) c.index) ++
        "]" : Except Fault Text) = .ok (i.accessFor c) := by
    rw [SharedAddress.wordIndex_eq readable, SharedInstruction.accessFor_raw (i := i) raw]
    rfl
  rw [storeRaw, runOn_shared_bind known split resource, runOn_raw_bind shifted,
    runOn_scalar_bind located.offset]
  dsimp only
  rw [storedComponents_sharedOperand filled, runOn_read_bind value stored]
  simp only [isShared_sharedOperand, if_true]
  rw [flatten_three]
  refine runOn_storeWords reaches 0 all ?_ _
  simpa using each

theorem runOn_storeStructured_shared {index : ReadOperand} (element : address.index = some index)
    (proper : (SharedInstruction.store address array mask source parts).IsProper env opcode) :
    DoneBy env opcode d (.store address array mask source parts) storeStructured := by
  intro start rest operands log read
  let i := SharedInstruction.store address array mask source parts
  have listed : i.listed = [array, index.listed, address.offset.listed, source.listed] := by
    simp [i, SharedInstruction.listed, SharedAddress.listed, element]
  rw [listed] at read
  cases proper with
  | store filled split located value all each =>
  obtain _ | ⟨resource, _ | ⟨indexed, _ | ⟨shifted, _ | ⟨stored, _ | _⟩⟩⟩⟩ := read
  have reaches (c : Component) := congrArg (Except.ok (ε := Fault))
    (SharedInstruction.sharedWord_eq (i := i) element rfl mask words c)
  rw [storeStructured, runOn_shared_bind known split resource, runOn_raw_bind indexed,
    runOn_scalar_bind (located.index index element), runOn_raw_bind shifted,
    runOn_scalar_bind located.offset]
  dsimp only
  rw [storedComponents_sharedOperand filled, runOn_read_bind value stored]
  simp only [isShared_sharedOperand, if_true]
  rw [runOn_firstWord_bind readable, flatten_four]
  refine runOn_storeWords reaches 0 all ?_ _
  simpa using each

end Store

section Atomic

variable {array place : Text} {values : List ReadOperand} {selected : List Component} {words : Int}
  {opcode : Opcode}

theorem runOn_emit_call (opcode : Opcode) (front : Text) (arguments : List Text) (d : Decoder) :
    runOn (emit (atomicCall opcode front arguments)) env d =
      (.ok (), d.adding [.code d.context.depth.toNat (atomicCall opcode front arguments)]) := by
  have line : atomicCall opcode front arguments =
      (front ++ opcode.symbol ++ "(" ++ Text.commaList arguments ++ ")") ++ ";" := by
    simp [atomicCall]
  rw [line, runOn_emit_line]

theorem runOn_atomicValues_bind (each : ∀ v ∈ values, v.IsRead env.symbols.registers (.first 1))
    (read : OperandRun d.line start operands (values.map ReadOperand.listed) rest)
    (next : List Text → Decoding α) :
    runOn (atomicValues opcode values.length >>= next) env (d.past passed start log) =
      runOn (next (values.map fun v => asInteger v.text (viewOf opcode))) env
        (d.past (passed ++ operands.flatten) rest log) := by
  induction values generalizing start operands passed next with
  | nil =>
    cases read
    rw [List.flatten_nil, List.append_nil]
    rfl
  | cons v others ih =>
    obtain _ | ⟨first, later⟩ := read
    rw [List.forall_mem_cons] at each
    rw [List.length_cons, atomicValues, bind_assoc, runOn_raw_bind first, bind_assoc,
      runOn_scalar_bind each.1, bind_assoc, ih each.2 later, List.flatten_cons, List.append_assoc]
    simp only [pure_bind, List.map_cons]

/-- An atomic operation works on the word at the offset. -/
theorem runOn_atomicTarget_bind (readable : address.IsReadable)
    (kind : words = 0 ↔ address.index = none) {expression : Text}
    (addresses : match address.index with
      | none => env.symbols.registers.cast expression (.first 1) = .ok address.offset.text
      | some index => IsLane env expression 0 2 index.text ∧
          IsLane env expression 1 2 address.offset.text)
    (next : Text × Text → Decoding α) (d : Decoder) :
    runOn (atomicTarget (sharedOperand address.base selected words) expression >>= next) env d =
      runOn (next ([], address.access (address.wordAt .x))) env d := by
  apply runOn_bind_of_ok
  have shared : (sharedOperand address.base selected words).sharedWords = some words := rfl
  unfold atomicTarget
  rw [shared]
  dsimp only
  cases found : address.index with
  | none =>
    rw [found] at addresses
    rw [if_pos (kind.mpr found), runOn_bind, runOn_cast, addresses, SharedAddress.access, found]
    exact runOn_wordIndex_bind readable .x _ d
  | some index =>
    rw [found] at addresses
    have several : words ≠ 0 := fun zero => by
      rw [kind.mp zero] at found
      cases found
    have joined (word : Text) : elementAccess (sharedOperand address.base selected words)
          (asInteger index.text .unsigned) ++ "[" ++ word ++ "]" =
        address.base ++ "[" ++ asInteger index.text .unsigned ++ "][" ++ word ++ "]" := by
      simp [elementAccess, sharedOperand]
    rw [if_neg several, runOn_bind_of_ok _ _ _ _ _ _ (addresses.1 d),
      runOn_bind_of_ok _ _ _ _ _ _ (addresses.2 d), SharedAddress.access, found,
      SharedAddress.wordAt]
    cases literal : address.isLiteral with
    | true =>
      have digits : Text.allDigits address.offset.text = true := literal
      rw [if_pos digits, ← bind_pure_comp, bind_assoc, runOn_firstWord_bind readable, literal,
        pure_bind, joined]
      rfl
    | false =>
      have other : ¬Text.allDigits address.offset.text = true := by
        simpa [SharedAddress.isLiteral] using literal
      rw [if_neg other, pure_bind, joined]
      rfl

theorem runOn_atomic_shared (known : d.context.sharedMemory.get? address.base = some words)
    (kind : words = 0 ↔ address.index = none) (readable : address.IsReadable)
    (proper : (SharedInstruction.atomic address array place values).IsProper env opcode) :
    DoneBy env opcode d (.atomic address array place values) (atomic opcode) := by
  intro start rest operands log read
  let i := SharedInstruction.atomic address array place values
  cases proper with
  | atomic split addresses arity each =>
  obtain ⟨expression, resolves, addresses⟩ := addresses
  obtain _ | ⟨resource, _ | ⟨addressed, valued⟩⟩ := read
  have access : i.accessFor .x = address.access (address.wordAt .x) :=
    SharedInstruction.accessFor_atomic rfl .x
  rw [atomic, runOn_shared_bind known split resource, runOn_raw_bind addressed, runOn_bind,
    runOn_resolve, resolves]
  dsimp only
  rw [arity, runOn_atomicValues_bind each valued, runOn_atomicTarget_bind readable kind addresses]
  dsimp only
  rw [runOn_emit_call, List.flatten_cons, List.flatten_cons, ← List.append_assoc, List.nil_append,
    ← access]
  simp only [SharedInstruction.statements, SharedInstruction.call, List.append_nil, i]
  rfl

/-- Statements between braces are added one level deeper. -/
theorem runOn_inBraces {step : Decoding Unit} (added : Int → Bool → List Statement)
    (adds : ∀ d, runOn step env d = (.ok (), d.adding (added d.context.depth d.clamps)))
    (d : Decoder) :
    runOn (inBraces step) env d = (.ok (), d.adding
      (.code d.context.depth.toNat "\x7b" ::
        (added (d.context.depth + 1) d.clamps ++ [.code d.context.depth.toNat "\x7d"]))) := by
  simp only [inBraces, runOn_bind, emit, runOn_modifyContext, adds]
  simp only [Decoder.adding, Decoder.clamps, Int.add_sub_cancel, List.append_assoc]
  rfl

theorem runOn_atomicReturning_shared {target : ReadOperand}
    (known : d.context.sharedMemory.get? address.base = some words)
    (kind : words = 0 ↔ address.index = none) (readable : address.IsReadable)
    (proper : (SharedInstruction.atomicReturning address array place target values).IsProper env
      opcode) :
    DoneBy env opcode d (.atomicReturning address array place target values)
      (atomicReturning opcode) := by
  intro start rest operands log read
  let i := SharedInstruction.atomicReturning address array place target values
  cases proper with
  | atomicReturning names split addresses arity each =>
  obtain ⟨expression, resolves, addresses⟩ := addresses
  obtain _ | ⟨written, _ | ⟨resource, _ | ⟨addressed, valued⟩⟩⟩ := read
  have access : i.accessFor .x = address.access (address.wordAt .x) :=
    SharedInstruction.accessFor_atomic rfl .x
  rw [atomicReturning, runOn_target_bind names written, runOn_shared_bind known split resource,
    runOn_raw_bind addressed, runOn_bind, runOn_resolve, resolves]
  dsimp only
  rw [arity, runOn_atomicValues_bind each valued, runOn_atomicTarget_bind readable kind addresses]
  simp only [List.flatten_cons, ← List.append_assoc, List.nil_append]
  refine runOn_inBraces (fun depth saturate =>
    [.code depth.toNat ("uint " ++ foundName ++ ";"),
      .code depth.toNat (i.call opcode values [foundName]),
      .assign depth.toNat (dropFullSelector target.text) (asFloat foundName) saturate]) ?_ _
  intro e
  rw [runOn_bind_of_ok _ _ _ _ _ _ (runOn_emit_line _ e),
    runOn_bind_of_ok _ _ _ _ _ _ (runOn_emit_call _ _ _ _), runOn_assign_named names.named,
    Decoder.adding_adding, Decoder.adding_adding, SharedInstruction.call, access]
  rfl

end Atomic

theorem runOn_dispatch_shared {i : SharedInstruction} (declared : i.address.IsDeclared d.context)
    (readable : i.address.IsReadable) (family : instruction.opcode.family = i.family)
    (proper : i.IsProper env instruction.opcode) :
    DoneBy env instruction.opcode d i (dispatch instruction) := by
  obtain ⟨words, known, kind⟩ := declared
  unfold dispatch
  dsimp only
  rw [family]
  cases i with
  | load address array target mask selected =>
    cases found : address.index with
    | none =>
      simp only [SharedInstruction.family, found, Option.isNone_none, if_true]
      exact runOn_loadRaw_shared known readable found proper
    | some index =>
      simp only [SharedInstruction.family, found, Option.isNone_some, Bool.false_eq_true, if_false]
      exact runOn_loadStructured_shared known readable found proper
  | store address array mask source parts =>
    cases found : address.index with
    | none =>
      simp only [SharedInstruction.family, found, Option.isNone_none, if_true]
      exact runOn_storeRaw_shared known readable found proper
    | some index =>
      simp only [SharedInstruction.family, found, Option.isNone_some, Bool.false_eq_true, if_false]
      exact runOn_storeStructured_shared known readable found proper
  | atomic address array place values =>
    exact runOn_atomic_shared known kind readable proper
  | atomicReturning address array place target values =>
    exact runOn_atomicReturning_shared known kind readable proper

theorem runOn_int_bind {text : Text} {n : Int} (numeral : Text.IsNumeral text n)
    (operand : IsOperand d.line tokens rest text) (next : Int → Decoding α) :
    runOn (readInt >>= next) env (d.past passed (tokens ++ rest) log) =
      runOn (next n) env (d.past (passed ++ tokens) rest log) := by
  rw [readInt, bind_assoc, runOn_raw_bind operand, numeral.toInt_eq]
  rfl

theorem runOn_dispatch_declaration (sized : address.IsSized sizes)
    (family : instruction.opcode.family = address.declaredBy) (log : Log)
    (read : OperandRun d.line start operands (address.base :: sizes) rest) :
    ∃ after, runOn (dispatch instruction) env (d.past [] start log) = (.ok (), after) ∧
      after.cursor.rest = rest ∧ after.context.statements = d.context.statements ∧
      address.IsDeclared after.context := by
  unfold dispatch
  dsimp only
  rw [family]
  cases sized with
  | raw number =>
    obtain _ | ⟨named, _ | ⟨measured, _ | _⟩⟩ := read
    rw [SharedAddress.declaredBy, declareSharedRaw, runOn_raw_bind named,
      runOn_int_bind number measured]
    exact ⟨_, rfl, rfl, rfl, 0, Table.get?_put_self _ _ _, by simp⟩
  | structured number whole counted =>
    obtain _ | ⟨named, _ | ⟨measured, _ | ⟨many, _ | _⟩⟩⟩ := read
    rw [SharedAddress.declaredBy, declareSharedStructured, runOn_raw_bind named,
      runOn_int_bind number measured, runOn_int_bind counted many]
    refine ⟨_, rfl, rfl, rfl, _, Table.get?_put_self _ _ _, ?_⟩
    rw [Int.fdiv_eq_ediv_of_nonneg _ (by decide)]
    simp only [reduceCtorEq, iff_false]
    omega

/-- The instruction that declares an array completes, and the array is declared for what follows. -/
theorem turn_declares_array (env : Environment) (d : Decoder) (mnemonic : Token)
    (modifiers start rest : List Token) (ahead : d.cursor.rest = mnemonic :: (modifiers ++ start))
    (named instruction : Instruction)
    (classified : Instruction.classify? mnemonic.text = some named)
    (modified : Modifiers (some mnemonic.line) named modifiers start instruction)
    (sized : address.IsSized sizes) (family : instruction.opcode.family = address.declaredBy)
    (read : OperandRun (some mnemonic.line) start operands (address.base :: sizes) rest) :
    ∃ after, runOn turn env d = (.ok (), after) ∧ after.cursor.rest = rest ∧
      after.context.statements = d.context.statements ∧ address.IsDeclared after.context := by
  have started := runOn_turn env d mnemonic modifiers start named instruction ahead classified
    modified
  obtain ⟨after, dispatched, later⟩ := runOn_dispatch_declaration
    (d := atOperands d mnemonic modifiers start instruction) sized family d.log read
  exact ⟨after, started.trans dispatched, later⟩

/-- A load from group-shared memory, a store to it or an atomic operation completes, and adds its
statements. They access the word at the byte offset for each component, unless it is a load or store
of an element at an offset that is no literal: the offset is then left out, and the word is right
only as long as the offset stays in the first one. -/
theorem turn_shared_words_iff (env : Environment) (d : Decoder) (mnemonic : Token)
    (modifiers start rest : List Token)
    (ahead : d.cursor.rest = mnemonic :: (modifiers ++ start)) (named instruction : Instruction)
    (classified : Instruction.classify? mnemonic.text = some named)
    (modified : Modifiers (some mnemonic.line) named modifiers start instruction)
    (i : SharedInstruction) (family : instruction.opcode.family = i.family)
    (declared : i.address.IsDeclared d.context) (readable : i.address.IsReadable)
    (proper : i.IsProper env instruction.opcode) (operands : List (List Token))
    (read : OperandRun (some mnemonic.line) start operands i.listed rest) :
    ∃ after, runOn turn env d = (.ok (), after) ∧
      after.context = { d.context with
        statements := d.context.statements ++
          i.statements instruction.opcode d.context.depth instruction.saturate } ∧
      ∀ values : Text → Nat,
        ((∀ c ∈ i.lanes, (i.wordFor c).reached values = i.address.byte values / 4 + c.index) ↔
          i.isAtomic = true ∨ i.address.index = none ∨ i.address.isLiteral = true ∨
            i.address.byte values < 4) := by
  have started := runOn_turn env d mnemonic modifiers start named instruction ahead classified
    modified
  have dispatched := runOn_dispatch_shared
    (d := atOperands d mnemonic modifiers start instruction) declared readable family proper d.log
    read
  refine ⟨_, started.trans dispatched, rfl, ?_⟩
  intro values
  rw [i.forall_reached_iff proper.lanes_ne_nil, i.dropsOffset_eq_false_iff, or_assoc, or_assoc]

/-- An element and an offset of it in two components of a register. -/
def registerAddress : SharedAddress := ⟨"g0", some ⟨"r1.x", "r1.x"⟩, ⟨"r1.y", "r1.y"⟩⟩

def storeAtRegister : SharedInstruction :=
  .store registerAddress "g0.x" [.x] ⟨"r2.x", "r2.x"⟩ ["r2.x"]

def loadAtRegister : SharedInstruction :=
  .load registerAddress "g0.xxxx" ⟨"r0.x", "r0.x"⟩ [.x] [.x, .x, .x, .x]

def addAtRegister : SharedInstruction := .atomic registerAddress "g0" "r1.xyxx" [⟨"1", "1"⟩]

/-- The decoder in front of an instruction, with an array of elements and a raw one. -/
def beforeShared (texts : List Text) : Decoder :=
  { beforeInstruction texts with context := { sharedMemory := [("g0", 4), ("g1", 0)] } }

/-- At one index and offset, a store and a load take the first word of the element, and an atomic
operation the word at the offset. -/
theorem turn_shared_words_differ :
    (∃ after, runOn turn {} (beforeInstruction ["dcl_tgsm_structured", "g0", "16", "64"]) =
        (.ok (), after) ∧
      after.context.sharedMemory.get? "g0" = (beforeShared []).context.sharedMemory.get? "g0") ∧
    (∃ after, runOn turn {} (beforeShared ["store_structured", "g0.x", "r1.x", "r1.y", "r2.x"]) =
        (.ok (), after) ∧
      after.context.statements.map Statement.body =
        (["g0[asuint(r1.x)][0] = asuint(r2.x);"] : List Text)) ∧
    (∃ after, runOn turn {} (beforeShared ["ld_structured", "r0.x", "r1.x", "r1.y", "g0.xxxx"]) =
        (.ok (), after) ∧
      after.context.statements.map Statement.body =
        (["r0.x = asfloat(g0[asuint(r1.x)][0]);"] : List Text)) ∧
    (∃ after, runOn turn {} (beforeShared ["atomic_iadd", "g0", "r1.xyxx", "l", "(", "1", ")"]) =
        (.ok (), after) ∧
      after.context.statements.map Statement.body =
        (["InterlockedAdd(g0[asuint(r1.x)][asuint(r1.y) >> 2], 1);"] : List Text)) ∧
    ∃ values : Text → Nat, registerAddress.byte values = 8 ∧
      (storeAtRegister.wordFor .x).reached values = 0 ∧
      (loadAtRegister.wordFor .x).reached values = 0 ∧
      (addAtRegister.wordFor .x).reached values = 2 :=
  ⟨⟨_, runOn_of_isOk _ _ _ (by decide +kernel), by decide +kernel⟩,
    ⟨_, runOn_of_isOk _ _ _ (by decide +kernel), by decide +kernel⟩,
    ⟨_, runOn_of_isOk _ _ _ (by decide +kernel), by decide +kernel⟩,
    ⟨_, runOn_of_isOk _ _ _ (by decide +kernel), by decide +kernel⟩,
    fun _ => 8, by decide, by decide, by decide, by decide⟩

/-- A load of an element's third word. -/
def loadAtLiteral : SharedInstruction :=
  .load ⟨"g0", some ⟨"r1.x", "r1.x"⟩, ⟨"8", "8"⟩⟩ "g0.xxxx" ⟨"r0.x", "r0.x"⟩ [.x] [.x, .x, .x, .x]

/-- A store to two words of the raw array. -/
def storeRawPair : SharedInstruction :=
  .store ⟨"g1", none, ⟨"r1.x", "r1.x"⟩⟩ "g1.xy" [.x, .y] ⟨"r2.xyxx", "r2.xy"⟩ ["r2.x", "r2.y"]

theorem resolve_empty : ({} : Declarations).resolve.fault = none := by decide +kernel

/-- A literal stands for itself where nothing is named. -/
theorem isRead_literal {digits : Text} (number : Text.IsDigits digits) :
    (⟨digits, digits⟩ : ReadOperand).IsRead ({} : Declarations).resolve.registers (.first 1) := by
  have offset : ({} : Declarations).resolve.registers.IsOffset digits :=
    ⟨number.nonempty, number.each, number.short, ⟨rfl, rfl⟩, rfl⟩
  exact ⟨digits, offset.resolved resolve_empty, offset.cast (by decide)⟩

theorem isProper_empty (register : Nat) (filled : selected ≠ []) (short : selected.length ≤ 4) :
    (⟨false, false, register, selected⟩ : Selection).IsProper
      ({} : Environment).symbols.registers := ⟨filled, short, isFree_empty register⟩

theorem isProper_addAtRegister {opcode : Opcode} (arity : opcode.arity = 3) :
    addAtRegister.IsProper {} opcode := by
  have place := (Selection.isPlace_structured resolve_empty rfl
    (isProper_empty 1 (show [.x, .y, .x, .x] ≠ [] by decide) (by decide)) "g0").2
  have alone : splitSelector (splitModifiers "g0").inner = (registerAddress.base, []) := by decide
  refine .atomic alone place (by rw [arity]; rfl) ?_
  rw [List.forall_mem_singleton]
  exact isRead_literal (Text.isDigits_of_all (by decide) (by decide) (by decide))

theorem isProper_loadAtLiteral (opcode : Opcode) : loadAtLiteral.IsProper {} opcode := by
  refine .load (by decide) (ReadOperand.isTarget_temporary resolve_empty (isFree_empty 0).unlisted
    (by decide) (by decide) (by decide)) ⟨?_, ?_⟩ (by decide) (by decide)
  · rintro o ⟨⟩
    exact Selection.isRead_only resolve_empty
      (isProper_empty 1 (show [.x] ≠ [] by decide) (by decide)) 0
  · exact isRead_literal (Text.isDigits_of_all (by decide) (by decide) (by decide))

theorem isProper_storeRawPair (opcode : Opcode) : storeRawPair.IsProper {} opcode := by
  refine .store (by decide) (by decide) (Selection.isPlace_raw resolve_empty rfl
      (isProper_empty 1 (show [.x] ≠ [] by decide) (by decide)) "g1").1
    (ReadOperand.isRead_selection resolve_empty
      (isProper_empty 2 (show [.x, .y, .x, .x] ≠ [] by decide) (by decide)) [.x, .y]) rfl ?_
  have lanes {place : Nat} (small : place < 4) : IsLane {} _ place 2 _ := Selection.runOn_lane
    (isProper_empty 2 (show [.x, .y] ≠ [] by decide) (by decide)) small 2
  intro place part found
  rcases place with _ | _ | place
  · cases found
    exact lanes (by decide)
  · cases found
    exact lanes (by decide)
  · cases found

/-- The tokens of an atomic addition. -/
def addTokens : List Token :=
  (["atomic_iadd", "g0", "r1.xyxx", "l", "(", "1", ")"] : List Text).map (⟨·, 2⟩)

/-- The decoder in front of a declaration and the addition. -/
def beforeDeclaration : Decoder :=
  { cursor := ⟨[], (["dcl_tgsm_structured", "g0", "16", "64"] : List Text).map (⟨·, 1⟩) ++
      addTokens⟩ }

theorem declares_registerAddress :
    ∃ declared, runOn turn {} beforeDeclaration = (.ok (), declared) ∧
      declared.cursor.rest = addTokens ∧ declared.context.statements = [] ∧
      registerAddress.IsDeclared declared.context := by
  have known : (Instruction.classify? "dcl_tgsm_structured").map (fun i => i.opcode.family) =
      some .declareSharedStructured := by decide +kernel
  obtain ⟨instruction, classified, family⟩ := Option.map_eq_some_iff.mp known
  have sized : registerAddress.IsSized ["16", "64"] :=
    .structured (.plain (Text.isDigits_of_all (by decide) (by decide) (by decide))) (by decide)
      (.plain (Text.isDigits_of_all (by decide) (by decide) (by decide)))
  exact turn_declares_array {} beforeDeclaration ⟨"dcl_tgsm_structured", 1⟩ [] _ addTokens rfl
    instruction instruction classified (.done (by decide)) sized family
    (.cons (isOperand_single 1 (by decide) (by decide) _)
      (.cons (isOperand_single 1 (by decide) (by decide) _)
        (.cons (isOperand_single 1 (by decide) (by decide) _) (.nil _))))

/-- An element is changed at the offset in a register and loaded at a literal one, and two words of a
raw array are stored at the address in a register. -/
theorem turn_shared_words_reached :
    (∃ declared after, runOn turn {} beforeDeclaration = (.ok (), declared) ∧
      runOn turn {} declared = (.ok (), after) ∧
      after.context.statements.map Statement.body =
        (["InterlockedAdd(g0[asuint(r1.x)][asuint(r1.y) >> 2], 1);"] : List Text) ∧
      ∀ values : Text → Nat,
        (addAtRegister.wordFor .x).reached values = values "asuint(r1.y)" / 4) ∧
    (∃ after, runOn turn {} (beforeShared
        ["ld_structured", "r0.x", "r1.x", "l", "(", "8", ")", "g0.xxxx"]) = (.ok (), after) ∧
      after.context.statements.map Statement.body =
        (["r0.x = asfloat(g0[asuint(r1.x)][2]);"] : List Text) ∧
      ∀ values : Text → Nat, (loadAtLiteral.wordFor .x).reached values = 8 / 4) ∧
    ∃ after, runOn turn {} (beforeShared ["store_raw", "g1.xy", "r1.x", "r2.xyxx"]) =
        (.ok (), after) ∧
      after.context.statements.map Statement.body =
        (["g1[asuint(r1.x) >> 2] = asuint(r2.x);",
          "g1[(asuint(r1.x) >> 2) + 1] = asuint(r2.y);"] : List Text) ∧
      ∀ values : Text → Nat,
        (storeRawPair.wordFor .y).reached values = values "asuint(r1.x)" / 4 + 1 := by
  refine ⟨?_, ?_, ?_⟩
  · have known : (Instruction.classify? "atomic_iadd").map
        (fun i => (i.opcode.family, i.opcode.arity, i.opcode.symbol, viewOf i.opcode)) =
          some (.atomic, 3, ("InterlockedAdd" : Text), .signed) := by decide +kernel
    obtain ⟨instruction, classified, same⟩ := Option.map_eq_some_iff.mp known
    simp only [Prod.mk.injEq] at same
    obtain ⟨family, arity, symbol, view⟩ := same
    obtain ⟨declared, run, ahead, statements, shared⟩ := declares_registerAddress
    obtain ⟨after, run', context, reaches⟩ := turn_shared_words_iff {} declared
      ⟨"atomic_iadd", 2⟩ [] _ [] ahead instruction instruction classified (.done (by decide))
      addAtRegister family shared (fun literal => absurd literal (by decide))
      (isProper_addAtRegister arity) _
      (.cons (isOperand_single 2 (by decide) (by decide) _)
        (.cons (isOperand_single 2 (by decide) (by decide) _)
          (.cons (isOperand_literal 2 (by decide) _) (.nil _))))
    refine ⟨declared, after, run, run', ?_, ?_⟩
    · rw [context, statements]
      simp only [addAtRegister, SharedInstruction.statements, SharedInstruction.call, atomicCall,
        symbol, view, List.map_append, List.map_cons, List.map_nil, Statement.body]
      decide
    · intro values
      exact (reaches values).mpr (.inl rfl) .x (by decide)
  · have known : (Instruction.classify? "ld_structured").map
        (fun i => (i.opcode.family, i.saturate)) = some (.loadStructured, false) := by
      decide +kernel
    obtain ⟨instruction, classified, same⟩ := Option.map_eq_some_iff.mp known
    obtain ⟨operands, read⟩ : ∃ operands, OperandRun (some 1) _ operands loadAtLiteral.listed [] :=
      exists_operandRun (by decide) (by decide)
    obtain ⟨after, run, context, reaches⟩ := turn_shared_words_iff {} (beforeShared
        ["ld_structured", "r0.x", "r1.x", "l", "(", "8", ")", "g0.xxxx"]) ⟨"ld_structured", 1⟩ [] _
      [] rfl instruction instruction classified (.done (by decide)) loadAtLiteral
      (Prod.mk.inj same).1 ⟨4, by decide, by decide⟩
      (fun _ => Text.isDigits_of_all (by decide) (by decide) (by decide))
      (isProper_loadAtLiteral _) operands read
    refine ⟨after, run, ?_, ?_⟩
    · rw [context, (Prod.mk.inj same).2]
      rfl
    · intro values
      exact (reaches values).mpr (.inr (.inr (.inl (by decide)))) .x (by decide)
  · have known : (Instruction.classify? "store_raw").map (fun i => i.opcode.family) =
        some .storeRaw := by decide +kernel
    obtain ⟨instruction, classified, family⟩ := Option.map_eq_some_iff.mp known
    obtain ⟨after, run, context, reaches⟩ := turn_shared_words_iff {} (beforeShared
        ["store_raw", "g1.xy", "r1.x", "r2.xyxx"]) ⟨"store_raw", 1⟩ [] _ [] rfl instruction
      instruction classified (.done (by decide)) storeRawPair family ⟨0, by decide, by decide⟩
      (fun literal => absurd literal (by decide)) (isProper_storeRawPair _) _
      (.cons (isOperand_single 1 (by decide) (by decide) _)
        (.cons (isOperand_single 1 (by decide) (by decide) _)
          (.cons (isOperand_single 1 (by decide) (by decide) _) (.nil _))))
    refine ⟨after, run, ?_, ?_⟩
    · rw [context]
      rfl
    · intro values
      exact (reaches values).mpr (.inr (.inl rfl)) .y (by decide)

end Decoding
end ShaderLift
