import Mathlib.Data.List.Forall2
import ShaderLift.Proofs.Lanes.Temporary

namespace ShaderLift

open Operand

/-- Statements are added to what a decoder has built. -/
def Decoder.adding (d : Decoder) (added : List Statement) : Decoder :=
  { d with context := { d.context with statements := d.context.statements ++ added } }

/-- Whether the instruction being decoded asks for clamping. -/
def Decoder.clamps (d : Decoder) : Bool := (d.instruction.map Instruction.saturate).getD false

namespace Decoder

theorem adding_nil (d : Decoder) : d.adding [] = d := by
  simp [adding]

theorem adding_adding (d : Decoder) (first second : List Statement) :
    (d.adding first).adding second = d.adding (first ++ second) := by
  simp [adding]

end Decoder

/-- A destination on a temporary register, or none. -/
inductive Target where
  | null
  | lanes (register : Nat) (mask : List Component)
  deriving DecidableEq

namespace Target

def mask : Target → List Component
  | null => []
  | lanes _ mask => mask

/-- A target as it is listed. -/
def listed : Target → Text
  | null => "null"
  | lanes register mask => temporary register ++ Component.suffix mask

/-- What a target is read as. -/
def destination : Target → Destination
  | null => {}
  | lanes register mask =>
    ⟨Decoding.dropFullSelector (temporary register ++ Component.suffix mask), .ofComponents mask,
      temporary register ++ Component.suffix mask⟩

/-- A target has components in order, and its register is free. -/
inductive IsProper (registers : Registers) : Target → Prop
  | null : IsProper registers null
  | lanes {register : Nat} {mask : List Component} (filled : mask ≠ [])
      (ordered : mask.Sublist Component.all) (free : registers.IsFree register) :
      IsProper registers (lanes register mask)

/-- One assignment to all components of a target. -/
def assigned (e : Expression Selection) (saturate : Bool) : Target → List LaneAssignment
  | null => []
  | lanes register mask => [⟨register, mask, e, saturate⟩]

/-- An assignment to each component of a target. -/
def assignedEach (e : Expression Selection) (saturate : Bool) : Target → List LaneAssignment
  | null => []
  | lanes register mask => (List.range mask.length).map fun place =>
      ⟨register, [mask.getD place .x], e.only place, saturate⟩

theorem shape_destination (target : Target) :
    target.destination.shape = .ofComponents target.mask := by
  cases target with
  | null => rfl
  | lanes register mask => rfl

/-- A target is no modifier of the mnemonic in front of it. -/
theorem listed_stops (target : Target) :
    target.listed ≠ "(" ∧ target.listed.head? ≠ some '_' := by
  cases target with
  | null => decide
  | lanes register mask =>
    constructor
    · intro opens
      cases (List.cons.inj opens).1
    · intro marked
      cases Option.some.inj marked

end Target

namespace Decoding

theorem dropFullSelector_temporary (register : Nat) {mask : List Component} (filled : mask ≠ []) :
    dropFullSelector (temporary register ++ Component.suffix mask) =
      if mask = Component.all then temporary register
      else temporary register ++ Component.suffix mask := by
  unfold dropFullSelector
  by_cases whole : mask = Component.all
  · have front : Text.before? ".xyzw" (temporary register ++ Component.suffix mask) =
        some (temporary register) := by
      rw [whole]
      exact Text.before?_append _ _
    rw [front, if_pos whole]
    rfl
  · have none : Text.before? ".xyzw" (temporary register ++ Component.suffix mask) = none := by
      cases found : Text.before? ".xyzw" (temporary register ++ Component.suffix mask) with
      | none => rfl
      | some front =>
        have same := Text.eq_of_before? _ _ _ found
        have cut := splitLast?_append '.' (temporary register) _ (Component.dot_notMem_letters mask)
        have cut' := splitLast?_append '.' front _ (Component.dot_notMem_letters Component.all)
        rw [← Component.suffix_of_ne_nil filled, same] at cut
        exact absurd (Component.letters_inj (Prod.mk.inj (Option.some.inj (cut.symm.trans cut'))).2)
          whole
    rw [none, if_neg whole]
    rfl

section Reading

variable {s : Selection}

variable {env : Environment} {declared : Declarations} {α : Type}

/-- A token is an operand on the line of the instruction. -/
structure IsOperandToken (d : Decoder) (token : Token) (text : Text) : Prop where
  here : d.line = some token.line
  written : token.text = text

variable {d : Decoder} {passed rest : List Token} {token : Token} {log : Log}

theorem runOn_cast_bind (proper : s.IsProper env.symbols.registers) (mask : List Component)
    (next : Text → Decoding α) (d : Decoder) :
    runOn (cast s.text (.ofComponents mask) >>= next) env d =
      runOn (next (s.fit mask).text) env d := by
  rw [runOn_bind, runOn_cast, Selection.cast_text proper]

theorem runOn_lane_bind (proper : s.IsProper env.symbols.registers) {place : Nat}
    (small : place < 4) (count : Int) (next : Text → Decoding α) (d : Decoder) :
    runOn (lane s.text place count >>= next) env d = runOn (next (s.only place).text) env d :=
  runOn_bind_of_ok _ _ _ _ _ _ (Selection.runOn_lane proper small count d)

variable (returns : declared.resolve.fault = none)
  (tables : env.symbols.registers = declared.resolve.registers)

include returns tables

theorem runOn_destination_bind {target : Target}
    (proper : target.IsProper env.symbols.registers)
    (operand : IsOperandToken d token target.listed) (next : Destination → Decoding α) :
    runOn (readDestination >>= next) env (d.past passed (token :: rest) log) =
      runOn (next target.destination) env (d.past (passed ++ [token]) rest log) := by
  rw [← Decoder.past_past d passed [token] (token :: rest) rest log log]
  apply runOn_bind_of_ok
  cases proper with
  | null =>
    have null : token.text = "null" := operand.written
    have raw := runOn_readRawOperand_token env (d.past passed (token :: rest) log) token rest rfl
      operand.here (by rw [null]; decide) (by rw [null]; decide)
    rw [readDestination, runOn_bind_of_ok _ _ _ _ _ _ raw, if_pos null]
    rfl
  | @lanes register mask filled ordered free =>
    rw [tables] at free
    have read := runOn_readDestination_temporary returns tables register free.unlisted mask filled
      ordered.length_le (d.past passed (token :: rest) log) token rest rfl operand.here
      operand.written
    rw [read, operand.written]
    rfl

/-- An operand that is resolved as soon as it is read. -/
theorem runOn_selection_bind (proper : s.IsProper env.symbols.registers)
    (operand : IsOperandToken d token s.listed) (next : Text → Decoding α) :
    runOn (readRawOperand >>= fun raw => resolve raw >>= next) env
        (d.past passed (token :: rest) log) =
      runOn (next s.text) env (d.past (passed ++ [token]) rest log) := by
  have raw := runOn_readRawOperand_token env (d.past passed (token :: rest) log) token rest rfl
    operand.here (by rw [operand.written]; exact Selection.bracketsClosed_listed)
    (by rw [operand.written]; exact Selection.unmarked_listed proper.filled)
  rw [tables] at proper
  have resolves := Selection.resolved_listed returns proper
  rw [← tables, ← operand.written] at resolves
  rw [runOn_bind_of_ok _ _ _ _ _ _ raw, runOn_bind, runOn_resolve, resolves, Decoder.past_past]
  rfl

theorem runOn_source_bind (proper : s.IsProper env.symbols.registers) (mask : List Component)
    (operand : IsOperandToken d token s.listed) (next : Text → Decoding α) :
    runOn (readSource (.ofComponents mask) >>= next) env (d.past passed (token :: rest) log) =
      runOn (next (s.fit mask).text) env (d.past (passed ++ [token]) rest log) := by
  simp only [readSource, bind_assoc]
  rw [runOn_selection_bind returns tables proper operand, runOn_cast_bind proper]

end Reading

section Writing

variable {target : Target} {build : Nat → Decoding Text}

variable {env : Environment}

theorem runOn_assign_named {destination : Destination} (named : destination.name ≠ [])
    (value : Text) (d : Decoder) :
    runOn (assign destination value) env d =
      (.ok (), d.adding [.assign d.context.depth.toNat destination.name value d.clamps]) := by
  have kept : destination.isNull = false := List.isEmpty_eq_false_iff.mpr named
  rw [assign, kept]
  rfl

theorem runOn_assign_target (proper : target.IsProper env.symbols.registers)
    (e : Expression Selection) (d : Decoder) :
    runOn (assign target.destination (e.map Selection.text).text) env d =
      (.ok (), d.adding ((target.assigned e d.clamps).map
        (LaneAssignment.statement d.context.depth.toNat))) := by
  cases proper with
  | null =>
    rw [Target.assigned, List.map_nil, Decoder.adding_nil]
    rfl
  | @lanes register mask filled ordered free =>
    have named : (Target.lanes register mask).destination.name ≠ [] :=
      dropFullSelector_ne_nil register _
    rw [runOn_assign_named named]
    simp only [Target.destination, dropFullSelector_temporary register filled, Target.assigned,
      List.map_cons, List.map_nil, LaneAssignment.statement]

theorem statement_single (register : Nat) (c : Component) (e : Expression Selection)
    (saturate : Bool) (depth : Nat) :
    LaneAssignment.statement depth ⟨register, [c], e, saturate⟩ =
      .assign depth (temporary register ++ Component.suffix [c]) (e.map Selection.text).text
        saturate := by
  have part : [c] ≠ Component.all := by
    intro whole
    cases (List.cons.inj whole).2
  simp only [LaneAssignment.statement, part, if_false]

/-- The remaining components of a target are assigned one by one. -/
theorem runOn_assignFrom {register : Nat} {mask : List Component} (filled : mask ≠ [])
    (short : mask.length ≤ 4) (free : env.symbols.registers.IsFree register)
    {e : Expression Selection} (built : ∀ place < mask.length, ∀ d, runOn (build place) env d =
      (.ok ((e.only place).map Selection.text).text, d)) (place remaining : Nat)
    (inside : place + remaining = mask.length) (d : Decoder) :
    runOn (assignFrom (Target.lanes register mask).destination build place remaining) env d =
      (.ok (), d.adding (((List.range' place remaining).map fun place =>
        (⟨register, [mask.getD place .x], e.only place, d.clamps⟩ : LaneAssignment)).map
          (LaneAssignment.statement d.context.depth.toNat))) := by
  induction remaining generalizing place d with
  | zero =>
    rw [List.range'_zero, List.map_nil, List.map_nil, Decoder.adding_nil]
    rfl
  | succ remaining ih =>
    have small : place < mask.length := by omega
    have within : place < 4 := by omega
    -- the target is taken apart like a source on the same register
    have target (count : Int) :
        runOn (lane (Target.lanes register mask).destination.full place count) env d =
          (.ok (temporary register ++ Component.suffix [mask.getD place .x]), d) := by
      have lane := Selection.runOn_lane (s := ⟨false, false, register, mask⟩) ⟨filled, short, free⟩
        within count d
      rw [Selection.only, Selection.component, Nat.mod_eq_of_lt small] at lane
      exact lane
    rw [assignFrom, runOn_bind_of_ok _ _ _ _ _ _ (target _),
      runOn_bind_of_ok _ _ _ _ _ _ (built place small d),
      runOn_bind_of_ok _ _ _ _ _ _ (runOn_assign_named (List.cons_ne_nil _ _) _ d),
      ih (place + 1) (by omega), Decoder.adding_adding, List.range'_succ, List.map_cons,
      List.map_cons, statement_single]
    rfl

theorem runOn_assignLanes (proper : target.IsProper env.symbols.registers) {whole : Decoding Text}
    (e : Expression Selection)
    (single : ∀ d, runOn whole env d = (.ok ((e.fit target.mask).map Selection.text).text, d))
    (built : ∀ place < target.mask.length, ∀ d, runOn (build place) env d =
      (.ok (((e.fit target.mask).only place).map Selection.text).text, d)) (d : Decoder) :
    runOn (assignLanes target.destination whole build) env d =
      (.ok (), d.adding ((target.assignedEach (e.fit target.mask) d.clamps).map
        (LaneAssignment.statement d.context.depth.toNat))) := by
  unfold assignLanes
  cases proper with
  | null =>
    have few : Target.null.destination.shape.count ≤ 1 := Nat.zero_le 1
    rw [if_pos few, runOn_bind_of_ok _ _ _ _ _ _ (single d), Target.assignedEach, List.map_nil,
      Decoder.adding_nil]
    rfl
  | @lanes register mask filled ordered free =>
    have short : mask.length ≤ 4 := ordered.length_le
    have count : (Target.lanes register mask).destination.shape.count = mask.length :=
      List.length_map _
    rw [count]
    split
    · -- a single component: what is written whole is its only lane
      rename_i few
      have one : mask.length = 1 := by
        have positive := List.length_pos_iff.mpr filled
        omega
      obtain ⟨c, rfl⟩ := List.length_eq_one_iff.mp one
      have assigned := runOn_assign_target (Target.IsProper.lanes filled ordered free) (e.fit [c]) d
      rw [runOn_bind_of_ok _ _ _ _ _ _ (single d)]
      refine assigned.trans ?_
      simp [Target.assigned, Target.assignedEach, Target.mask, Selection.only_fit_single]
    · rw [runOn_assignFrom filled short free built 0 mask.length (Nat.zero_add _),
        ← List.range_eq_range']
      rfl

end Writing
end Decoding

/-- An instruction that is split, with its operands on temporary registers. -/
inductive SplitInstruction where
  | moveConditional (target : Target) (condition a b : Selection)
  | compare (target : Target) (a b : Selection)
  | swapConditional (first second : Target) (condition a b : Selection)
  | sineCosine (sine cosine : Target) (source : Selection)
  | divide (quotient remainder : Target) (a b : Selection)

namespace SplitInstruction

def family : SplitInstruction → Family
  | moveConditional .. => .moveConditional
  | compare .. => .compare
  | swapConditional .. => .swapConditional
  | sineCosine .. => .sineCosine
  | divide .. => .divide

def targets : SplitInstruction → List Target
  | moveConditional target _ _ _ => [target]
  | compare target _ _ => [target]
  | swapConditional first second _ _ _ => [first, second]
  | sineCosine sine cosine _ => [sine, cosine]
  | divide quotient remainder _ _ => [quotient, remainder]

def sources : SplitInstruction → List Selection
  | moveConditional _ condition a b => [condition, a, b]
  | compare _ a b => [a, b]
  | swapConditional _ _ condition a b => [condition, a, b]
  | sineCosine _ _ source => [source]
  | divide _ _ a b => [a, b]

/-- The operands as they are listed, targets first. -/
def listed (i : SplitInstruction) : List Text :=
  i.targets.map Target.listed ++ i.sources.map Selection.listed

/-- What a comparison gives when it holds and when it does not. -/
def outcomes (opcode : Opcode) : Text := if opcode.kind = .float then "1.0 : 0.0" else "1 : 0"

/-- The assignments that an instruction is split into. Both results of a division have the
components of the first one that is written. -/
def assignments (opcode : Opcode) (saturate : Bool) : SplitInstruction → List LaneAssignment
  | moveConditional target condition a b =>
    target.assignedEach ((Expression.choice condition a b).fit target.mask) saturate
  | compare target a b =>
    target.assignedEach
      ((Expression.comparison opcode.symbol (outcomes opcode) a b).fit target.mask) saturate
  | swapConditional first second condition a b =>
    first.assigned ((Expression.choice condition b a).fit first.mask) saturate ++
      second.assigned ((Expression.choice condition a b).fit second.mask) saturate
  | sineCosine sine cosine source =>
    sine.assigned ((Expression.sine source).fit sine.mask) saturate ++
      cosine.assigned ((Expression.cosine source).fit cosine.mask) saturate
  | divide quotient remainder a b =>
    let mask := if quotient = .null then remainder.mask else quotient.mask
    quotient.assigned ((Expression.quotient a b).fit mask) saturate ++
      remainder.assigned ((Expression.remainder a b).fit mask) saturate

/-- The targets and sources are such as can be told apart from all names. -/
structure IsProper (registers : Registers) (i : SplitInstruction) : Prop where
  targets : ∀ target ∈ i.targets, target.IsProper registers
  sources : ∀ source ∈ i.sources, source.IsProper registers

end SplitInstruction

theorem Target.IsProper.length_mask_le {target : Target} {registers : Registers}
    (proper : target.IsProper registers) : target.mask.length ≤ 4 := by
  cases proper with
  | null => exact Nat.zero_le 4
  | lanes filled ordered free => exact ordered.length_le

namespace Decoding

variable {env : Environment} {declared : Declarations}

theorem runOn_assign_bind {target : Target} (proper : target.IsProper env.symbols.registers)
    (e : Expression Selection) (d : Decoder) (next : Unit → Decoding Unit) :
    runOn (assign target.destination (e.map Selection.text).text >>= next) env d =
      runOn (next ()) env (d.adding ((target.assigned e d.clamps).map
        (LaneAssignment.statement d.context.depth.toNat))) :=
  runOn_bind_of_ok _ _ _ _ _ _ (runOn_assign_target proper e d)

/-- Two assignments behind one another. -/
theorem runOn_assign_both {first second : Target}
    (proper : first.IsProper env.symbols.registers)
    (proper' : second.IsProper env.symbols.registers)
    (e e' : Expression Selection) (d : Decoder) :
    runOn (assign first.destination (e.map Selection.text).text >>= fun _ =>
        assign second.destination (e'.map Selection.text).text) env d =
      (.ok (), d.adding ((first.assigned e d.clamps ++ second.assigned e' d.clamps).map
        (LaneAssignment.statement d.context.depth.toNat))) := by
  rw [runOn_assign_bind proper, runOn_assign_target proper', Decoder.adding_adding, List.map_append]
  rfl

/-- A step decodes the operands of an instruction and adds its assignments. -/
def SplitsInto (env : Environment) (opcode : Opcode) (i : SplitInstruction)
    (step : Decoding Unit) : Prop :=
  ∀ {d : Decoder} {operands : List Token} (rest : List Token) (log : Log),
    List.Forall₂ (IsOperandToken d) operands i.listed →
      runOn step env (d.past [] (operands ++ rest) log) =
        (.ok (), (d.past operands rest log).adding
          ((i.assignments opcode d.clamps).map (LaneAssignment.statement d.context.depth.toNat)))

section

variable {a b condition : Selection} {target : Target}

variable (returns : declared.resolve.fault = none)
  (tables : env.symbols.registers = declared.resolve.registers) (opcode : Opcode)

include returns tables

theorem moveConditional_splits
    (proper : (SplitInstruction.moveConditional target condition a b).IsProper
      env.symbols.registers) :
    SplitsInto env opcode (.moveConditional target condition a b) moveConditional := by
  rintro d _ rest log (_ | ⟨first, _ | ⟨second, _ | ⟨third, _ | ⟨fourth, _ | _⟩⟩⟩⟩)
  have written := proper.targets target (by simp [SplitInstruction.targets])
  have short := written.length_mask_le
  have source (s : Selection) (inside : s ∈ [condition, a, b]) := proper.sources s inside
  have fits (s : Selection) (inside : s ∈ [condition, a, b]) := (source s inside).fit short
  simp only [List.cons_append, List.nil_append, moveConditional]
  rw [runOn_destination_bind returns tables written first, Target.shape_destination,
    runOn_source_bind returns tables (source condition (by simp)) _ second,
    runOn_source_bind returns tables (source a (by simp)) _ third,
    runOn_source_bind returns tables (source b (by simp)) _ fourth]
  refine runOn_assignLanes written (.choice condition a b) (fun _ => rfl) ?_ _
  intro place inside d
  have small : place < 4 := by omega
  rw [runOn_lane_bind (fits condition (by simp)) small,
    runOn_lane_bind (fits a (by simp)) small, runOn_lane_bind (fits b (by simp)) small]
  rfl

theorem compare_splits
    (proper : (SplitInstruction.compare target a b).IsProper env.symbols.registers) :
    SplitsInto env opcode (.compare target a b) (compare opcode) := by
  rintro d _ rest log (_ | ⟨first, _ | ⟨second, _ | ⟨third, _ | _⟩⟩⟩)
  have written := proper.targets target (by simp [SplitInstruction.targets])
  have short := written.length_mask_le
  have source (s : Selection) (inside : s ∈ [a, b]) := proper.sources s inside
  have fits (s : Selection) (inside : s ∈ [a, b]) := (source s inside).fit short
  simp only [List.cons_append, List.nil_append, compare]
  rw [runOn_destination_bind returns tables written first, Target.shape_destination,
    runOn_source_bind returns tables (source a (by simp)) _ second,
    runOn_source_bind returns tables (source b (by simp)) _ third]
  refine runOn_assignLanes written
    (.comparison opcode.symbol (SplitInstruction.outcomes opcode) a b) (fun _ => rfl) ?_ _
  intro place inside d
  have small : place < 4 := by omega
  rw [runOn_lane_bind (fits a (by simp)) small, runOn_lane_bind (fits b (by simp)) small]
  rfl

theorem swapConditional_splits {first second : Target}
    (proper : (SplitInstruction.swapConditional first second condition a b).IsProper
      env.symbols.registers) :
    SplitsInto env opcode (.swapConditional first second condition a b) swapConditional := by
  rintro d _ rest log (_ | ⟨o₀, _ | ⟨o₁, _ | ⟨o₂, _ | ⟨o₃, _ | ⟨o₄, _ | _⟩⟩⟩⟩⟩)
  have written := proper.targets first (by simp [SplitInstruction.targets])
  have written' := proper.targets second (by simp [SplitInstruction.targets])
  have source (s : Selection) (inside : s ∈ [condition, a, b]) := proper.sources s inside
  have hcondition := source condition (by simp)
  have ha := source a (by simp)
  have hb := source b (by simp)
  simp only [List.cons_append, List.nil_append, swapConditional]
  rw [runOn_destination_bind returns tables written o₀,
    runOn_destination_bind returns tables written' o₁,
    runOn_selection_bind returns tables hcondition o₂, runOn_selection_bind returns tables ha o₃,
    runOn_selection_bind returns tables hb o₄, Target.shape_destination, Target.shape_destination,
    runOn_cast_bind hcondition, runOn_cast_bind ha, runOn_cast_bind hb, runOn_cast_bind hcondition,
    runOn_cast_bind ha, runOn_cast_bind hb]
  exact runOn_assign_both written written' ((Expression.choice condition b a).fit first.mask)
    ((Expression.choice condition a b).fit second.mask) _

theorem sineCosine_splits {sine cosine : Target} {source : Selection}
    (proper : (SplitInstruction.sineCosine sine cosine source).IsProper env.symbols.registers) :
    SplitsInto env opcode (.sineCosine sine cosine source) sineCosine := by
  rintro d _ rest log (_ | ⟨o₀, _ | ⟨o₁, _ | ⟨o₂, _ | _⟩⟩⟩)
  have written := proper.targets sine (by simp [SplitInstruction.targets])
  have written' := proper.targets cosine (by simp [SplitInstruction.targets])
  have selection := proper.sources source (by simp [SplitInstruction.sources])
  simp only [List.cons_append, List.nil_append, sineCosine]
  rw [runOn_destination_bind returns tables written o₀,
    runOn_destination_bind returns tables written' o₁,
    runOn_selection_bind returns tables selection o₂, Target.shape_destination,
    Target.shape_destination, runOn_cast_bind selection]
  -- the source is cast for the cosine when the sine is assigned already
  refine (runOn_assign_bind written ((Expression.sine source).fit sine.mask) _ _).trans ?_
  rw [runOn_cast_bind selection]
  refine (runOn_assign_target written' ((Expression.cosine source).fit cosine.mask) _).trans ?_
  rw [Decoder.adding_adding, SplitInstruction.assignments, List.map_append]
  rfl

theorem divide_splits {quotient remainder : Target}
    (proper : (SplitInstruction.divide quotient remainder a b).IsProper env.symbols.registers) :
    SplitsInto env opcode (.divide quotient remainder a b) divide := by
  rintro d _ rest log (_ | ⟨o₀, _ | ⟨o₁, _ | ⟨o₂, _ | ⟨o₃, _ | _⟩⟩⟩⟩)
  have written := proper.targets quotient (by simp [SplitInstruction.targets])
  have written' := proper.targets remainder (by simp [SplitInstruction.targets])
  have source (s : Selection) (inside : s ∈ [a, b]) := proper.sources s inside
  simp only [List.cons_append, List.nil_append, divide]
  rw [runOn_destination_bind returns tables written o₀,
    runOn_destination_bind returns tables written' o₁]
  have shape : (if quotient.destination.isNull then remainder.destination.shape
      else quotient.destination.shape) =
        .ofComponents (if quotient = .null then remainder.mask else quotient.mask) := by
    cases quotient with
    | null => exact remainder.shape_destination
    | lanes register mask =>
      have kept : (Target.lanes register mask).destination.isNull = false :=
        List.isEmpty_eq_false_iff.mpr (dropFullSelector_ne_nil register _)
      rw [kept]
      rfl
  rw [shape, runOn_source_bind returns tables (source a (by simp)) _ o₂,
    runOn_source_bind returns tables (source b (by simp)) _ o₃]
  exact runOn_assign_both written written' ((Expression.quotient a b).fit _)
    ((Expression.remainder a b).fit _) _

end

theorem runOn_dispatch_split (returns : declared.resolve.fault = none)
    (tables : env.symbols.registers = declared.resolve.registers) {i : SplitInstruction}
    (proper : i.IsProper env.symbols.registers) {instruction : Instruction}
    (family : instruction.opcode.family = i.family) :
    SplitsInto env instruction.opcode i (dispatch instruction) := by
  unfold dispatch
  dsimp only
  rw [family]
  cases i with
  | moveConditional target condition a b => exact moveConditional_splits returns tables _ proper
  | compare target a b => exact compare_splits returns tables _ proper
  | swapConditional first second condition a b =>
    exact swapConditional_splits returns tables _ proper
  | sineCosine sine cosine source => exact sineCosine_splits returns tables _ proper
  | divide quotient remainder a b => exact divide_splits returns tables _ proper

end Decoding

namespace SplitInstruction

variable {target : Target} {saturate : Bool} {a : LaneAssignment} {e : Expression Selection}
  {i : SplitInstruction}

variable {registers : Registers}

theorem nodup_of_mem_assigned (proper : target.IsProper registers)
    (inside : a ∈ target.assigned e saturate) : a.mask.Nodup := by
  cases proper with
  | null => cases inside
  | lanes filled ordered free =>
    rw [List.mem_singleton.mp inside]
    exact ordered.nodup (by decide)

theorem nodup_of_mem_assignedEach (inside : a ∈ target.assignedEach e saturate) : a.mask.Nodup := by
  cases target with
  | null => cases inside
  | lanes register mask =>
    obtain ⟨place, _, rfl⟩ := List.mem_map.mp inside
    simp

theorem length_assigned_le (target : Target) (e : Expression Selection) (saturate : Bool) :
    (target.assigned e saturate).length ≤ 1 := by
  cases target with
  | null => exact Nat.zero_le 1
  | lanes register mask => exact Nat.le_refl 1

/-- Lane by lane, different lanes are written. -/
theorem pairwise_assignedEach (proper : target.IsProper registers) (e : Expression Selection)
    (saturate : Bool) :
    (target.assignedEach e saturate).Pairwise fun a b => ∀ lane ∈ a.writes, lane ∉ b.writes := by
  cases proper with
  | null => exact .nil
  | @lanes register mask filled ordered free =>
    have distinct : mask.Nodup := ordered.nodup (by decide)
    rw [Target.assignedEach, List.pairwise_map]
    refine List.Pairwise.imp_of_mem ?_ List.pairwise_lt_range
    intro i j small small' less lane written again
    rw [List.mem_range] at small small'
    simp only [LaneAssignment.writes, List.map_cons, List.map_nil, List.mem_singleton] at written
    simp only [LaneAssignment.writes, List.map_cons, List.map_nil, List.mem_singleton] at again
    rw [written] at again
    have same : mask[i] = mask[j] := by simpa [small, small'] using (Lane.mk.inj again).2
    have place := distinct.idxOf_getElem i small
    rw [same, distinct.idxOf_getElem j small'] at place
    omega

/-- An instruction is split by the components of its target, or by its two targets. -/
theorem assignments_cases (i : SplitInstruction) (opcode : Opcode) (saturate : Bool) :
    (∃ target ∈ i.targets, ∃ e, i.assignments opcode saturate = target.assignedEach e saturate) ∨
    ∃ first ∈ i.targets, ∃ second ∈ i.targets, ∃ e e',
      i.assignments opcode saturate = first.assigned e saturate ++ second.assigned e' saturate := by
  cases i with
  | moveConditional target condition a b => exact .inl ⟨target, by simp [targets], _, rfl⟩
  | compare target a b => exact .inl ⟨target, by simp [targets], _, rfl⟩
  | swapConditional first second condition a b =>
    exact .inr ⟨first, by simp [targets], second, by simp [targets], _, _, rfl⟩
  | sineCosine sine cosine source =>
    exact .inr ⟨sine, by simp [targets], cosine, by simp [targets], _, _, rfl⟩
  | divide quotient remainder a b =>
    exact .inr ⟨quotient, by simp [targets], remainder, by simp [targets], _, _, rfl⟩

theorem nodup_of_mem_assignments (proper : i.IsProper registers) {opcode : Opcode}
    (inside : a ∈ i.assignments opcode saturate) : a.mask.Nodup := by
  rcases i.assignments_cases opcode saturate with
    ⟨target, _, e, split⟩ | ⟨first, known, second, known', e, e', split⟩
  · rw [split] at inside
    exact nodup_of_mem_assignedEach inside
  · rw [split] at inside
    rcases List.mem_append.mp inside with inside | inside
    · exact nodup_of_mem_assigned (proper.targets first known) inside
    · exact nodup_of_mem_assigned (proper.targets second known') inside

theorem settled_assignments (proper : i.IsProper registers) (opcode : Opcode) (saturate : Bool) :
    (i.assignments opcode saturate).length ≤ 2 ∨
      (i.assignments opcode saturate).Pairwise fun a b => ∀ lane ∈ a.writes, lane ∉ b.writes := by
  rcases i.assignments_cases opcode saturate with
    ⟨target, known, e, split⟩ | ⟨first, _, second, _, e, e', split⟩
  · right
    rw [split]
    exact pairwise_assignedEach (proper.targets target known) e saturate
  · left
    have one := length_assigned_le first e saturate
    have other := length_assigned_le second e' saturate
    rw [split, List.length_append]
    omega

theorem exists_listed (i : SplitInstruction) :
    ∃ target others, i.listed = Target.listed target :: others := by
  cases i with
  | moveConditional target condition a b => exact ⟨target, _, rfl⟩
  | compare target a b => exact ⟨target, _, rfl⟩
  | swapConditional first second condition a b => exact ⟨first, _, rfl⟩
  | sineCosine sine cosine source => exact ⟨sine, _, rfl⟩
  | divide quotient remainder a b => exact ⟨quotient, _, rfl⟩

end SplitInstruction

namespace Decoding

/-- An instruction over temporary registers that is split completes and adds its assignments in
order. Run in order, they leave in each lane what the instruction does when it takes all its
operands first, under every meaning of the operations and from all values of the lanes, exactly if
no assignment reads a lane that an earlier one has written. -/
theorem turn_split_at_once_iff (declared : Declarations) (returns : declared.resolve.fault = none)
    (env : Environment) (tables : env.symbols.registers = declared.resolve.registers)
    (d : Decoder) (mnemonic : Token) (operands rest : List Token)
    (ahead : d.cursor.rest = mnemonic :: (operands ++ rest)) (instruction : Instruction)
    (classified : Instruction.classify? mnemonic.text = some instruction) (i : SplitInstruction)
    (family : instruction.opcode.family = i.family) (proper : i.IsProper env.symbols.registers)
    (written : List.Forall₂ (fun token text => token.line = mnemonic.line ∧ token.text = text)
      operands i.listed) :
    let assignments := i.assignments instruction.opcode instruction.saturate
    ∃ after, runOn turn env d = (.ok (), after) ∧
      after.context = { d.context with
        statements := d.context.statements ++
          assignments.map (LaneAssignment.statement d.context.depth.toNat) } ∧
      ((∀ (α : Type) (m : Meaning α) (v : Valuation α),
          LaneAssignment.runAll m assignments v = LaneAssignment.runAtOnce m assignments v) ↔
        assignments.Pairwise fun earlier later => later.ReadsNothingOf earlier) := by
  intro assignments
  have stops : ∀ token ∈ (operands ++ rest).head?, some mnemonic.line = some token.line →
      token.text ≠ "(" ∧ token.text.head? ≠ some '_' := by
    intro token inside _
    obtain ⟨target, others, listed⟩ := i.exists_listed
    rw [listed] at written
    obtain _ | ⟨first, _⟩ := written
    cases inside
    rw [first.2]
    exact target.listed_stops
  have started := runOn_turn env d mnemonic [] (operands ++ rest) instruction instruction ahead
    classified (.done stops)
  have read : List.Forall₂
      (IsOperandToken (atOperands d mnemonic [] (operands ++ rest) instruction)) operands
      i.listed := by
    refine written.imp fun token text operand => ⟨?_, operand.2⟩
    exact congrArg some operand.1.symm
  have dispatched := runOn_dispatch_split returns tables proper family rest d.log read
  refine ⟨_, started.trans dispatched, rfl, ?_⟩
  exact LaneAssignment.forall_runAll_eq_iff
    (fun a inside => SplitInstruction.nodup_of_mem_assignments proper inside)
    (SplitInstruction.settled_assignments proper _ _)

/-- The decoder in front of an instruction. -/
def beforeInstruction (texts : List Text) : Decoder := { cursor := ⟨[], texts.map (⟨·, 1⟩)⟩ }

theorem isFree_empty (number : Nat) : ({} : Environment).symbols.registers.IsFree number :=
  ⟨⟨rfl, rfl⟩, fun _ => rfl⟩

/-- The sine is written to a lane that the cosine is taken of afterwards. -/
theorem turn_split_overwritten :
    let assignments : List LaneAssignment :=
      [⟨0, [.x], .sine ⟨false, false, 0, [.x]⟩, false⟩,
        ⟨1, [.x], .cosine ⟨false, false, 0, [.x]⟩, false⟩]
    (∃ after, runOn turn {} (beforeInstruction ["sincos", "r0.x", "r1.x", "r0.x"]) =
        (.ok (), after) ∧
      after.context.statements = assignments.map (LaneAssignment.statement 0)) ∧
    ∃ (m : Meaning Nat) (v : Valuation Nat),
      LaneAssignment.runAll m assignments v ⟨1, .x⟩ ≠
        LaneAssignment.runAtOnce m assignments v ⟨1, .x⟩ := by
  refine ⟨⟨_, runOn_of_isOk _ _ _ (by decide +kernel), by decide +kernel⟩, ?_⟩
  exact ⟨LaneAssignment.tracing, fun _ => 0, by decide⟩

/-- A conditional move whose second lane reads nothing that the first has written. -/
theorem turn_split_aligned :
    let i : SplitInstruction := .moveConditional (.lanes 0 [.x, .z])
      ⟨false, false, 0, [.x, .y, .y, .y]⟩ ⟨true, true, 1, [.y, .y, .x, .y]⟩
      ⟨false, false, 0, [.z, .z, .z, .z]⟩
    ∃ instruction after, Instruction.classify? "movc_sat" = some instruction ∧
      runOn turn {} (beforeInstruction
        ["movc_sat", "r0.xz", "r0.xyyy", "-|r1.yyxy|", "r0.zzzz"]) = (.ok (), after) ∧
      after.context.statements.map Statement.body =
        (["r0.x = saturate((r0.x != 0) ? -abs(r1.y) : r0.z);",
          "r0.z = saturate((r0.y != 0) ? -abs(r1.x) : r0.z);"] : List Text) ∧
      ∀ (α : Type) (m : Meaning α) (v : Valuation α),
        LaneAssignment.runAll m (i.assignments instruction.opcode instruction.saturate) v =
          LaneAssignment.runAtOnce m (i.assignments instruction.opcode instruction.saturate) v := by
  intro i
  have known : (Instruction.classify? "movc_sat").map (fun i => (i.opcode.family, i.saturate)) =
      some (.moveConditional, true) := by decide +kernel
  obtain ⟨instruction, classified, same⟩ := Option.map_eq_some_iff.mp known
  have proper : i.IsProper ({} : Environment).symbols.registers := by
    refine ⟨?_, ?_⟩
    · simp only [i, SplitInstruction.targets, List.forall_mem_singleton]
      exact .lanes (by decide) (by decide) (isFree_empty 0)
    · simp only [i, SplitInstruction.sources, List.forall_mem_cons]
      exact ⟨⟨by decide, by decide, isFree_empty 0⟩, ⟨by decide, by decide, isFree_empty 1⟩,
        ⟨by decide, by decide, isFree_empty 0⟩, nofun⟩
  obtain ⟨after, run, context, meaning⟩ := turn_split_at_once_iff {} (by decide +kernel) {} rfl
    (beforeInstruction ["movc_sat", "r0.xz", "r0.xyyy", "-|r1.yyxy|", "r0.zzzz"]) ⟨"movc_sat", 1⟩
    [⟨"r0.xz", 1⟩, ⟨"r0.xyyy", 1⟩, ⟨"-|r1.yyxy|", 1⟩, ⟨"r0.zzzz", 1⟩] [] rfl instruction
    classified i (Prod.mk.inj same).1 proper
    (.cons ⟨rfl, by decide⟩ (.cons ⟨rfl, by decide⟩ (.cons ⟨rfl, by decide⟩
      (.cons ⟨rfl, by decide⟩ .nil))))
  refine ⟨instruction, after, classified, run, ?_, meaning.mpr (of_decide_eq_true rfl)⟩
  rw [context, (Prod.mk.inj same).2]
  rfl

end Decoding
end ShaderLift
