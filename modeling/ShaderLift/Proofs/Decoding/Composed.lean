import ShaderLift.Proofs.Faults.Cause
import ShaderLift.Proofs.Nesting.Outline

namespace ShaderLift

/-- Whether a statement is an assignment. -/
def Statement.isAssignment : Statement → Bool
  | assign .. => true
  | _ => false

theorem Statement.isAssignment_ofText (depth : Nat) (text : Text) :
    (ofText depth text).isAssignment = false := by
  unfold ofText
  split
  · rfl
  · rfl

/-- The environment with strict nesting switched on or off. -/
def Environment.nesting (env : Environment) (strict : Bool) : Environment :=
  { env with config := { env.config with strict } }

/-- What a notice says about blocks that do not pair up, if it is about such blocks. -/
def Notice.imbalance? : Notice → Option (Imbalance × Option Int)
  | imbalance cause line => some (cause, line)
  | _ => none

namespace Context

/-- What decides whether vertices go to a stream: the stage and the output topology. -/
def target (c : Context) : Option Stage × Option Text := (c.stage, c.outputTopology)

/-- A change that adds statements, whatever stands there already, and no assignments. -/
def Adds (change : Context → Context) : Prop :=
  ∀ c, ∃ added : List Statement, (∀ s ∈ added, s.isAssignment = false) ∧
    ∀ statements, change { c with statements } = { change c with statements := statements ++ added }

theorem Adds.nothing {change : Context → Context}
    (apart : ∀ c statements, change { c with statements } = { change c with statements }) :
    Adds change := by
  refine fun c => ⟨[], by simp, fun statements => ?_⟩
  rw [List.append_nil]
  exact apart c statements

end Context

/-- Another decoder with the context of this one, statements aside. -/
def Decoder.resembling (d other : Decoder) : Decoder :=
  { other with context := { d.context with statements := other.context.statements } }

theorem Decoder.resembling_of_context {d other : Decoder} (same : other.context = d.context) :
    d.resembling other = other := by
  rw [resembling, ← same]

/-- A destination writes no more components than a register has. -/
structure Destination.IsNarrow (destination : Destination) : Prop where
  selection : destination.shape.IsSelection
  count : destination.shape.count ≤ 4

namespace Operand

theorem count_swizzleOf (operand : Text) : (swizzleOf operand).count ≤ 4 := by
  simp only [swizzleOf]
  split
  · exact Nat.zero_le 4
  · rw [Swizzle.count, Swizzle.ofComponents, Component.letters, List.length_map]
    exact length_splitSelector _

end Operand

namespace Decoding

/-- What steps are asked to keep to, apart from the symbols that they look things up in. -/
structure Terms where
  symbols : Symbols
  /-- Whether the stage and the output topology stay as they are. -/
  steady : Prop
  /-- Whether no temporaries are declared. -/
  still : Prop
  /-- Whether statements open and close nothing. -/
  plainly : Prop
  /-- The operands that may be looked up while others are still to be read. -/
  seen : Text → Prop

/-- The terms under which any operand may be looked up and blocks may be opened and closed. -/
abbrev Terms.of (symbols : Symbols) (steady still : Prop) : Terms :=
  ⟨symbols, steady, still, False, fun _ => True⟩

/-- A fault for which reading breaks off: that of an instruction that cannot be read, or of an
operand that cannot be resolved. -/
def Terms.Unreadable (terms : Terms) (fault : Fault) : Prop :=
  fault.isDecode = true ∨
    ∃ raw, terms.seen raw ∧ resolved terms.symbols.registers raw = .error fault

/-- How far a step goes: it reads operands, looks something up behind them, or writes. -/
inductive Phase where
  | reads
  | looks
  | writes
  deriving DecidableEq

/-- A phase behind that of reading. -/
class Phase.IsLate (phase : Phase) : Prop where
  ne_reads : phase ≠ .reads

instance : Phase.IsLate .looks := ⟨by decide⟩

instance : Phase.IsLate .writes := ⟨by decide⟩

variable {α β : Type} {terms : Terms} {phase : Phase} {count further : Nat} {env : Environment}

/-- Steps put together from those that most instructions are made of, with the number of operands
that they read and the kind of what they return. They read before they write. Neither the place in
the listing nor strict nesting decides what they do next. Nor do the statements made so far and the
instruction itself, except that it clamps what is assigned and is named where a block is closed. -/
inductive Composed (terms : Terms) :
    Phase → Nat → {α : Type} → Decoding α → (kind : α → Prop := fun _ => True) → Prop
  | pure {phase : Phase} {α : Type} {value : α} {kind : α → Prop} (good : kind value) :
      Composed terms phase 0 (Pure.pure value) kind
  | seq {early phase : Phase} {count further : Nat} {α β : Type} {step : Decoding α}
      {next : α → Decoding β} {kind : α → Prop} {last : β → Prop}
      (first : Composed terms early count step kind)
      (later : ∀ value, kind value → Composed terms phase further (next value) last)
      (order : early = .reads ∨ further = 0 ∧ (early = phase ∨ phase = .writes)) :
      Composed terms phase (further + count) (step >>= next) last
  | lookup {phase : Phase} {α : Type} {step : Decoding α} {outcome : Except Fault α}
      (looked : ∀ env d, env.symbols = terms.symbols → runOn step env d = (outcome, d))
      (fails : ∀ tokens, FailsFor (Cause terms.symbols tokens) outcome)
      (early : phase = .reads → FailsFor terms.Unreadable outcome) :
      Composed terms phase 0 step fun value => outcome = .ok value
  | fail {phase : Phase} {count : Nat} {α : Type} {kind : α → Prop} (cause : DecodeFault) :
      Composed terms phase count (Decoding.fail cause) kind
  | look {phase : Phase} {count : Nat} {α : Type} {next : Decoder → Decoding α} {kind : α → Prop}
      (steady : ∀ d other, next (d.resembling other) = next d)
      (later : ∀ d, Composed terms phase count (next d) kind) :
      Composed terms phase count (MonadState.get >>= next) kind
  | read {phase : Phase} {count : Nat} {α : Type} {next : Environment → Decoding α}
      {kind : α → Prop} (steady : ∀ env strict, next (env.nesting strict) = next env)
      (later : ∀ env, env.symbols = terms.symbols → Composed terms phase count (next env) kind) :
      Composed terms phase count (MonadReader.read >>= next) kind
  | note {phase : Phase} {count : Nat} {α : Type} {notice : Decoder → Notice} {next : Decoding α}
      {kind : α → Prop} (other : ∀ d, (notice d).imbalance? = none)
      (onLine : ∀ d other : Decoder, notice { other with line := d.line } = notice d)
      (later : Composed terms phase count next kind) :
      Composed terms phase count
        (MonadState.get >>= fun d => Decoding.note (notice d) >>= fun _ => next) kind
  | unbalanced (free : ¬ terms.plainly) (cause : Imbalance) :
      Composed terms .writes 0 (Decoding.unbalanced cause)
  | closeBlock (free : ¬ terms.plainly) (expected : Block) :
      Composed terms .writes 0 (Decoding.closeBlock expected)
  | modifyContext {change : Context → Context}
      (steady : terms.steady → ∀ c, (change c).target = c.target)
      (kept : terms.still → ∀ c, (change c).declaredTemps = c.declaredTemps)
      (plain : terms.plainly → ∀ c : Context, c.outline.Appends (change c).outline)
      (adds : Context.Adds change) : Composed terms .writes 0 (Decoding.modifyContext change)
  | emitAssignment (target value : Text) :
      Composed terms .writes 0 (Decoding.emitAssignment target value)
  | readRawOperand : Composed terms .reads 1 Decoding.readRawOperand terms.seen

theorem runOn_unbalanced (cause : Imbalance) (env : Environment) (d : Decoder) :
    runOn (unbalanced cause) env d =
      if env.config.strict then (.error (.imbalance cause d.line), d)
      else (.ok (), { d with log := d.log ++ [.imbalance cause d.line] }) := by
  simp only [unbalanced, runOn_bind, runOn_get, runOn_read]
  cases env.config.strict <;> rfl

theorem equation_plain (target value : Text) : PlainText (target ++ " = " ++ value ++ ";") := by
  apply plainText_of_semicolon
  · exact List.getLast?_concat ..
  · left
    apply List.mem_append_left
    apply List.mem_append_left
    apply List.mem_append_right
    decide

/-- A call as a statement. -/
theorem call_plain (front inner ending : Text) (ends : ending.getLast? = some ';') :
    PlainText (front ++ "(" ++ inner ++ ending) := by
  apply plainText_of_semicolon
  · rw [List.getLast?_append, ends, Option.some_or]
  · right
    apply List.mem_append_left
    apply List.mem_append_left
    apply List.mem_append_right
    decide

theorem float_plain (rest : Text) : PlainText ("float" ++ rest) :=
  LineKind.ofText_plain_of_head _ 'f' rfl (by decide)

theorem atomicCall_plain (opcode : Opcode) (front : Text) (arguments : List Text) :
    PlainText (atomicCall opcode front arguments) :=
  call_plain _ _ _ rfl

namespace Composed

open Operand

variable {target : Swizzle} {build : Nat → Decoding Text} {resource : ResourceOperand}

variable {kind : α → Prop} {last : β → Prop} {step : Decoding α} {next : α → Decoding β}

/-- Anything may follow what only reads. -/
theorem chain (first : Composed terms .reads count step kind)
    (later : ∀ value, kind value → Composed terms phase further (next value) last) :
    Composed terms phase (further + count) (step >>= next) last :=
  .seq first later (.inl rfl)

/-- One operand is read first. -/
theorem operand (first : Composed terms .reads 1 step kind)
    (later : ∀ value, kind value → Composed terms phase further (next value) last) :
    Composed terms phase (further + 1) (step >>= next) last := first.chain later

/-- No operand is read first. -/
theorem query (first : Composed terms .reads 0 step kind)
    (later : ∀ value, kind value → Composed terms phase further (next value) last) :
    Composed terms phase further (step >>= next) last := first.chain later

/-- Nothing is read behind a step. -/
theorem andThen (first : Composed terms phase count step kind)
    (later : ∀ value, kind value → Composed terms phase 0 (next value) last) :
    Composed terms phase count (step >>= next) last := by
  have both := Composed.seq first later (.inr ⟨rfl, .inl rfl⟩)
  rwa [Nat.zero_add] at both

/-- What a step that writes returns may not matter to the next one. -/
theorem behind (first : Composed terms phase count step kind)
    (later : ∀ value, Composed terms phase 0 (next value) last) :
    Composed terms phase count (step >>= next) last :=
  first.andThen fun value _ => later value

theorem done (value : α) : Composed terms phase 0 (Pure.pure value) := .pure trivial

theorem weaken {other : α → Prop} (composed : Composed terms phase count step kind)
    (weaker : ∀ value, kind value → other value) : Composed terms phase count step other := by
  rw [← bind_pure step]
  exact composed.andThen fun value good => .pure (weaker value good)

/-- What only reads may stand where something could be written. -/
theorem quiet (composed : Composed terms .reads count step kind) :
    Composed terms .writes count step kind := by
  have both : Composed terms .writes (0 + count) (step >>= Pure.pure) kind :=
    composed.chain fun _ good => .pure good
  rwa [Nat.zero_add, bind_pure] at both

theorem ite {condition : Prop} [Decidable condition] {other : Decoding α}
    (holds : Composed terms phase count step kind) (fails : Composed terms phase count other kind) :
    Composed terms phase count (if condition then step else other) kind := by
  split
  · exact holds
  · exact fails

theorem map {result : α → β} (first : Composed terms phase count step kind) :
    Composed terms phase count (result <$> step) := by
  rw [← bind_pure_comp]
  exact first.behind fun _ => .done _

theorem discard (first : Composed terms phase count step kind) :
    Composed terms phase count (Functor.discard step) := by
  rw [discard_eq_bind]
  exact first.behind fun _ => .done ()

theorem mapM (values : List α) {step : α → Decoding β}
    (each : ∀ value, Composed terms phase 0 (step value)) :
    Composed terms phase 0 (values.mapM step) := by
  induction values with
  | nil => exact .done _
  | cons value rest ih =>
    rw [List.mapM_cons]
    exact .behind (each value) fun _ => .behind ih fun _ => .done _

theorem lift [late : phase.IsLate] {outcome : Except Fault α}
    (fails : ∀ tokens, FailsFor (Cause terms.symbols tokens) outcome) :
    Composed terms phase 0 (liftM outcome : Decoding α) fun value => outcome = .ok value :=
  .lookup (fun _ _ _ => rfl) fails fun early => absurd early late.ne_reads

theorem registers : Composed terms phase 0 Decoding.registers (· = terms.symbols.registers) :=
  .read (fun _ _ => rfl) fun env same => .pure (by rw [same])

theorem resolve (raw : Text) (seen : phase = .reads → terms.seen raw) :
    Composed terms phase 0 (Decoding.resolve raw) := by
  refine weaken (.lookup (fun env d same => by rw [runOn_resolve, same])
    (fun _ => .resolved raw) fun early fault failed => .inr ⟨raw, seen early, failed⟩)
    fun _ _ => trivial

theorem cast (expression : Text) (selection : target.IsSelection) :
    Composed terms phase 0 (Decoding.cast expression target) := by
  refine weaken (.lookup (fun env d same => by rw [runOn_cast, same])
    (fun _ => .cast expression selection) fun _ fault failed => .inl ?_) fun _ _ => trivial
  obtain ⟨lanes, rfl⟩ := selection
  exact Registers.cast_fault _ expression lanes fault failed

theorem readDestination : Composed terms .reads 1 Decoding.readDestination Destination.IsNarrow := by
  refine .operand .readRawOperand fun raw seen => ?_
  dsimp only
  split
  · exact .pure ⟨⟨[], rfl⟩, Nat.zero_le 4⟩
  · exact .query (.resolve raw fun _ => seen) fun _ _ =>
      .pure ⟨swizzleOf_isSelection raw, count_swizzleOf raw⟩

/-- An operand that is resolved as soon as it is read. -/
theorem expression {next : Text → Decoding β}
    (later : ∀ value, Composed terms phase further (next value) last) :
    Composed terms phase (further + 1)
      (Decoding.readRawOperand >>= fun raw => Decoding.resolve raw >>= next) last :=
  .operand .readRawOperand fun raw seen => .query (.resolve raw fun _ => seen) fun value _ =>
    later value

theorem readSource (selection : target.IsSelection) :
    Composed terms .reads 1 (Decoding.readSource target) :=
  .expression fun _ => .cast _ selection

theorem readSources (selection : target.IsSelection) (count : Nat) :
    Composed terms .reads count (Decoding.readSources target count) := by
  induction count with
  | zero => exact .done _
  | succ count ih => exact .operand (.readSource selection) fun _ _ => .behind ih fun _ => .done _

theorem readRawOperands (count : Nat) :
    Composed terms .reads count (Decoding.readRawOperands count) := by
  induction count with
  | zero => exact .done _
  | succ count ih => exact .operand .readRawOperand fun _ _ => .behind ih fun _ => .done _

theorem readInt : Composed terms .reads 1 Decoding.readInt := by
  refine .operand .readRawOperand fun raw _ => ?_
  split
  · exact .done _
  · exact .fail _

/-- One of the first four lanes has a letter. -/
theorem lane [phase.IsLate] (expression : Text) {position : Nat} (count : Int)
    (near : position < 4) :
    Composed terms phase 0 (Decoding.lane expression position count) := by
  unfold Decoding.lane
  rw [Swizzle.componentAt_of_lt near]
  exact .behind (.lift fun _ => .ok _) fun _ => .behind (.cast _ ⟨_, rfl⟩) fun _ => .done _

/-- An operand that is cast to one component as soon as it is read. -/
theorem readScalar {next : Text → Decoding β}
    (later : ∀ value, Composed terms phase further (next value) last) :
    Composed terms phase (further + 1)
      (Decoding.readRawOperand >>= fun raw => Decoding.scalar raw >>= next) last := by
  refine .operand .readRawOperand fun raw seen => ?_
  have scalar : Composed terms .reads 0 (Decoding.scalar raw) :=
    .behind (.resolve raw fun _ => seen) fun _ => .cast _ (Swizzle.first_isSelection 1)
  exact .query scalar fun value _ => later value

theorem readResource :
    Composed terms .reads 1 Decoding.readResource (·.selected.length ≤ 4) := by
  refine .operand .readRawOperand fun raw _ => .look (fun _ _ => rfl) fun d => ?_
  have narrow := length_splitSelector (splitModifiers raw).inner
  split
  · exact .pure narrow
  · refine .query .registers fun registers _ => ?_
    split
    · exact .pure narrow
    · exact .note (fun _ => rfl) (fun _ _ => rfl) (.pure narrow)

theorem samplerName (raw : Text) : Composed terms phase 0 (Decoding.samplerName raw) := by
  refine .andThen .registers fun registers _ => ?_
  split
  · exact .done _
  · exact .done _

theorem readSampler {next : Text → Decoding β}
    (later : ∀ name, Composed terms phase further (next name) last) :
    Composed terms phase (further + 1)
      (Decoding.readRawOperand >>= fun raw => Decoding.samplerName raw >>= next) last :=
  .operand .readRawOperand fun raw _ => .query (.samplerName raw) fun name _ => later name

/-- A change of the context apart from its outline. -/
theorem silent {change : Context → Context}
    (apart : ∀ c statements, change { c with statements } = { change c with statements })
    (kept : ∀ c, ((change c).target, (change c).declaredTemps, (change c).outline) =
      (c.target, c.declaredTemps, c.outline)) :
    Composed terms .writes 0 (Decoding.modifyContext change) := by
  refine .modifyContext (fun _ c => (Prod.mk.inj (kept c)).1)
    (fun _ c => (Prod.mk.inj (Prod.mk.inj (kept c)).2).1) (fun _ c => ?_) (.nothing apart)
  rw [(Prod.mk.inj (Prod.mk.inj (kept c)).2).2]
  exact .refl _

/-- A change of the depth or of the open blocks. -/
theorem shift (free : ¬ terms.plainly) {change : Context → Context}
    (apart : ∀ c statements, change { c with statements } = { change c with statements })
    (kept : ∀ c, ((change c).target, (change c).declaredTemps) = (c.target, c.declaredTemps)) :
    Composed terms .writes 0 (Decoding.modifyContext change) :=
  .modifyContext (fun _ c => (Prod.mk.inj (kept c)).1) (fun _ c => (Prod.mk.inj (kept c)).2)
    (fun bound => absurd bound free) (.nothing apart)

theorem emit {text : Text} (plain : terms.plainly → PlainText text) :
    Composed terms .writes 0 (Decoding.emit text) := by
  refine .modifyContext (fun _ _ => rfl) (fun _ _ => rfl)
    (fun bound c => c.outline.appends_add text (plain bound)) fun c =>
    ⟨[.ofText c.depth.toNat text], ?_, fun _ => rfl⟩
  simp [Statement.isAssignment_ofText]

theorem emitAny (free : ¬ terms.plainly) (text : Text) :
    Composed terms .writes 0 (Decoding.emit text) :=
  .emit fun bound => absurd bound free

theorem assign (destination : Destination) (value : Text) :
    Composed terms .writes 0 (Decoding.assign destination value) := by
  rw [Decoding.assign]
  split
  · exact .emitAssignment _ _
  · exact .done _

/-- Lanes are assigned as long as they have letters. -/
theorem assignFrom (destination : Destination)
    (built : ∀ position < 4, Composed terms .writes 0 (build position)) (position remaining : Nat)
    (within : position + remaining ≤ 4) :
    Composed terms .writes 0 (Decoding.assignFrom destination build position remaining) := by
  induction remaining generalizing position with
  | zero => exact .done _
  | succ remaining ih =>
    have near : position < 4 := by omega
    refine .behind (.lane _ _ near) fun target => .behind (built position near) fun value => ?_
    exact .behind (.assign _ _) fun _ => ih (position + 1) (by omega)

theorem assignLanes {destination : Destination} (narrow : destination.IsNarrow)
    {whole : Decoding Text} (single : Composed terms .writes 0 whole)
    (built : ∀ position < 4, Composed terms .writes 0 (build position)) :
    Composed terms .writes 0 (Decoding.assignLanes destination whole build) := by
  rw [Decoding.assignLanes]
  split
  · exact .behind single fun _ => .assign _ _
  · exact .assignFrom _ built _ _ (by have := narrow.count; omega)

theorem assignAccess {destination : Destination} {access : Text} {selected : List Component}
    {result : Text → Text} (selection : target.IsSelection) :
    Composed terms .writes 0 (Decoding.accessResult access selected target >>= fun value =>
      Decoding.assign destination (result value)) :=
  .behind (.behind (.cast _ selection) fun _ => .done _) fun _ => .assign _ _

theorem returnStatement :
    Composed terms .writes 0 Decoding.returnStatement (·.getLast? = some ';') := by
  refine .look (fun _ _ => rfl) fun d => .behind .registers fun registers => ?_
  dsimp only
  split
  · exact .pure rfl
  · exact .pure rfl

end Composed
end Decoding
end ShaderLift
