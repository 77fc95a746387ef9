import ShaderLift.Proofs.Decoding.Composed

namespace ShaderLift

/-- The number of operands that the instructions of an opcode's family read. -/
def Opcode.operands (opcode : Opcode) : Nat :=
  match opcode.family with
  | .binary => 3
  | .call1 => 2
  | .call2 => 3
  | .multiplyAdd => 4
  | .integerMultiplyAdd => 4
  | .dot => 3
  | .wideMultiply => 4
  | .divide => 4
  | .sineCosine => 3
  | .negate => 2
  | .move => 2
  | .moveConditional => 4
  | .swapConditional => 5
  | .compare => 3
  | .complement => 2
  | .logic => 3
  | .shift => 3
  | .bitCall => 2
  | .bitExtract => 4
  | .bitInsert => 5
  | .toHalf => 2
  | .fromHalf => 2
  | .fromFloat => 2
  | .toFloat => 2
  | .ifMarker => 1
  | .switch => 1
  | .caseLabel => 1
  | .breakConditional => 1
  | .continueConditional => 1
  | .leaveConditional => 1
  | .discard => 1
  | .emitVertex => opcode.arity
  | .cutStrip => opcode.arity
  | .idle => opcode.arity
  | .declareTemps => 1
  | .declareIndexable => 2
  | .declareThreadGroup => 3
  | .declareSharedRaw => 2
  | .declareSharedStructured => 3
  | .declareInput => 1
  | .declareVertexCount => 1
  | .declarePrimitive => 1
  | .declareTopology => 1
  | .sample => opcode.arity - 4 + 4
  | .load => 3
  | .loadMultisampled => 4
  | .resourceInfo => 3
  | .levelOfDetail => 4
  | .gather =>
    (if opcode.symbol = "GatherCmp" then 1 else 0) + 2 + (if opcode.width = 0 then 0 else 1) + 2
  | .loadRaw => 3
  | .loadStructured => 4
  | .loadTyped => 3
  | .storeRaw => 3
  | .storeStructured => 4
  | .storeTyped => 3
  | .atomic => opcode.arity - 2 + 2
  | .atomicReturning => opcode.arity - 3 + 3
  | .atomicCounter => 2
  | _ => 0

/-- The families whose instructions do not read operands one by one: an immediate constant buffer is
read up to its closing brace, and other declarations are skipped to the end of the line. -/
def Family.isIrregular : Family → Bool
  | declareConstants => true
  | declareOther => true
  | _ => false

namespace Decoding.Composed

open Operand

variable {α : Type} {terms : Terms} {phase : Phase} {target : Swizzle} {resource : ResourceOperand}

theorem binary (opcode : Opcode) : Composed terms .writes 3 (Decoding.binary opcode) := by
  refine .operand .readDestination fun destination narrow => ?_
  refine .operand (.readSource narrow.selection) fun a _ => ?_
  refine .operand (.readSource narrow.selection) fun b _ => ?_
  split
  · exact .assign _ _
  · exact .assign _ _

theorem call (opcode : Opcode) (sources : Nat) :
    Composed terms .writes (sources + 1) (Decoding.call opcode sources) :=
  .operand .readDestination fun _ narrow => .behind (.quiet (.readSources narrow.selection _))
    fun _ => .assign _ _

theorem unary {result : Destination → Text → Text} :
    Composed terms .writes 2 (Decoding.readDestination >>= fun destination =>
      Decoding.readSource destination.shape >>= fun a =>
        Decoding.assign destination (result destination a)) :=
  .operand .readDestination fun _ narrow => .operand (.readSource narrow.selection) fun _ _ =>
    .assign _ _

/-- An instruction with two sources. -/
theorem dyadic {shape : Destination → Swizzle} {result : Text → Text → Text}
    (selection : ∀ destination, destination.IsNarrow → (shape destination).IsSelection) :
    Composed terms .writes 3 (Decoding.readDestination >>= fun destination =>
      Decoding.readSource (shape destination) >>= fun a =>
      Decoding.readSource (shape destination) >>= fun b =>
        Decoding.assign destination (result a b)) := by
  refine .operand .readDestination fun destination narrow => ?_
  refine .operand (.readSource (selection _ narrow)) fun a _ => ?_
  exact .operand (.readSource (selection _ narrow)) fun b _ => .assign _ _

/-- An instruction with three sources. -/
theorem ternary {result : Text → Text → Text → Text} :
    Composed terms .writes 4 (Decoding.readDestination >>= fun destination =>
      Decoding.readSource destination.shape >>= fun a =>
      Decoding.readSource destination.shape >>= fun b =>
      Decoding.readSource destination.shape >>= fun c =>
        Decoding.assign destination (result a b c)) := by
  refine .operand .readDestination fun destination narrow => ?_
  refine .operand (.readSource narrow.selection) fun a _ => ?_
  refine .operand (.readSource narrow.selection) fun b _ => ?_
  exact .operand (.readSource narrow.selection) fun c _ => .assign _ _

theorem selection_ite {first second : Destination} (condition : Bool) (narrow : first.IsNarrow)
    (other : second.IsNarrow) :
    (if condition then first.shape else second.shape).IsSelection := by
  split
  · exact narrow.selection
  · exact other.selection

theorem wideMultiply : Composed terms .writes 4 Decoding.wideMultiply := by
  refine .operand .readDestination fun high narrow => ?_
  refine .operand .readDestination fun low narrow' => ?_
  have shape := selection_ite low.isNull narrow narrow'
  refine .operand (.readSource shape) fun a _ => .operand (.readSource shape) fun b _ => ?_
  dsimp only
  split
  · exact .note (fun _ => rfl) (fun _ _ => rfl) (.assign _ _)
  · exact .assign _ _

theorem divide : Composed terms .writes 4 Decoding.divide := by
  refine .operand .readDestination fun quotient narrow => ?_
  refine .operand .readDestination fun remainder narrow' => ?_
  have shape := selection_ite quotient.isNull narrow' narrow
  refine .operand (.readSource shape) fun a _ => .operand (.readSource shape) fun b _ => ?_
  exact .behind (.assign _ _) fun _ => .assign _ _

theorem sineCosine : Composed terms .writes 3 Decoding.sineCosine := by
  refine .operand .readDestination fun sine narrow => ?_
  refine .operand .readDestination fun cosine narrow' => ?_
  refine .expression fun source => .behind (.cast _ narrow.selection) fun _ => ?_
  exact .behind (.assign _ _) fun _ => .behind (.cast _ narrow'.selection) fun _ => .assign _ _

theorem moveConditional : Composed terms .writes 4 Decoding.moveConditional := by
  refine .operand .readDestination fun destination narrow => ?_
  have source : Composed terms .reads 1 (Decoding.readSource destination.shape) :=
    .readSource narrow.selection
  refine .operand source fun condition _ => .operand source fun a _ => .operand source fun b _ => ?_
  refine .assignLanes narrow (.done _) fun position near => ?_
  exact .behind (.lane _ _ near) fun _ => .behind (.lane _ _ near) fun _ =>
    .behind (.lane _ _ near) fun _ => .done _

theorem swapConditional : Composed terms .writes 5 Decoding.swapConditional := by
  refine .operand .readDestination fun first narrow => ?_
  refine .operand .readDestination fun second narrow' => ?_
  refine .expression fun condition => .expression fun a => .expression fun b => ?_
  have cast (source : Text) : Composed terms .writes 0 (Decoding.cast source first.shape) :=
    .cast source narrow.selection
  have cast' (source : Text) : Composed terms .writes 0 (Decoding.cast source second.shape) :=
    .cast source narrow'.selection
  refine .behind (cast _) fun _ => .behind (cast _) fun _ => .behind (cast _) fun _ => ?_
  refine .behind (cast' _) fun _ => .behind (cast' _) fun _ => .behind (cast' _) fun _ => ?_
  exact .behind (.assign _ _) fun _ => .assign _ _

theorem compare (opcode : Opcode) : Composed terms .writes 3 (Decoding.compare opcode) := by
  refine .operand .readDestination fun destination narrow => ?_
  refine .operand (.readSource narrow.selection) fun a _ => ?_
  refine .operand (.readSource narrow.selection) fun b _ => ?_
  refine .assignLanes narrow (.done _) fun position near => ?_
  exact .behind (.lane _ _ near) fun _ => .behind (.lane _ _ near) fun _ => .done _

theorem bitInsert : Composed terms .writes 5 Decoding.bitInsert := by
  refine .operand .readDestination fun destination narrow => ?_
  refine .operand (.readSource narrow.selection) fun width _ => ?_
  refine .operand (.readSource narrow.selection) fun offset _ => ?_
  refine .operand (.readSource narrow.selection) fun inserted _ => ?_
  exact .operand (.readSource narrow.selection) fun base _ => .assign _ _

theorem condition (opcode : Opcode) : Composed terms .reads 1 (Decoding.condition opcode) :=
  .expression fun _ => .done _

theorem topBlock : Composed terms .writes 0 Decoding.topBlock :=
  .look (fun _ _ => rfl) fun _ => .done _

theorem conditional (opcode : Opcode) {statement : Decoding Text}
    (body : Composed terms .writes 0 statement (·.getLast? = some ';')) :
    Composed terms .writes 1 (Decoding.conditional opcode statement) := by
  refine .operand (.condition _) fun test _ => .andThen body fun text ends => .emit fun _ => ?_
  refine plainText_of_semicolon _ (by rw [List.getLast?_append, ends, Option.some_or]) (.inr ?_)
  apply List.mem_append_left
  apply List.mem_append_left
  apply List.mem_append_left
  decide

section Markers

variable (free : ¬ terms.plainly)

include free

theorem openBlock (block : Block) : Composed terms .writes 0 (Decoding.openBlock block) :=
  .shift free (fun _ _ => rfl) fun _ => rfl

theorem beginBlock (head : Text) (block : Block) :
    Composed terms .writes 0 (Decoding.beginBlock head block) :=
  .behind (.emitAny free _) fun _ => .behind (.emitAny free _) fun _ => .openBlock free _

theorem endBlock (block : Block) : Composed terms .writes 0 (Decoding.endBlock block) :=
  .behind (.closeBlock free _) fun _ => .emitAny free _

theorem elseMarker : Composed terms .writes 0 Decoding.elseMarker := by
  refine .behind .topBlock fun block? => ?_
  split
  · exact .unbalanced free _
  · refine .behind (.shift free (fun _ _ => rfl) fun _ => rfl) fun _ => ?_
    refine .behind (.emitAny free _) fun _ => .behind (.emitAny free _) fun _ => ?_
    exact .behind (.emitAny free _) fun _ => .shift free (fun _ _ => rfl) fun _ => rfl

theorem leaveLabel : Composed terms .writes 0 Decoding.leaveLabel := by
  refine .behind .topBlock fun block? => ?_
  split
  · exact .closeBlock free _
  · exact .done _

theorem label (text : Text) : Composed terms .writes 0 (Decoding.label text) :=
  .behind (.leaveLabel free) fun _ => .behind (.emitAny free _) fun _ => .openBlock free _

theorem leave : Composed terms .writes 0 Decoding.leave := by
  refine .look (fun _ _ => rfl) fun d => ?_
  split
  · exact .behind .returnStatement fun _ => .behind (.emitAny free _) fun _ => .leaveLabel free
  · exact .done _

end Markers

theorem declareAll (loose : ¬ terms.still) (added : List Nat) :
    Composed terms .writes 0 (Decoding.declareAll added) := by
  refine .modifyContext (fun _ _ => rfl) (fun bound => absurd bound loose)
    (fun _ c => ⟨rfl, rfl, _, rfl, fun s inside => ?_⟩) fun c =>
    ⟨added.map fun register => .ofText c.depth.toNat ("float4 r" ++ Text.ofNat register ++ ";"),
      fun s inside => ?_, fun _ => rfl⟩
  · obtain ⟨register, _, rfl⟩ := List.mem_map.mp inside
    rw [Statement.body_ofText]
    exact ⟨float_plain _, Statement.level_ofText _ _⟩
  · obtain ⟨register, _, rfl⟩ := List.mem_map.mp inside
    exact Statement.isAssignment_ofText _ _

theorem declareTemps (loose : ¬ terms.still) : Composed terms .writes 1 Decoding.declareTemps := by
  refine .operand .readInt fun count _ => .look (fun _ _ => rfl) fun d => ?_
  refine .behind (.declareAll loose _) fun _ => ?_
  split
  · exact .emit fun _ => by decide
  · exact .done _

theorem declareIndexable : Composed terms .writes 2 Decoding.declareIndexable := by
  refine .operand .readRawOperand fun _ _ => .operand .readInt fun _ _ => .emit fun _ => ?_
  split
  · exact float_plain _
  · exact float_plain _

theorem declareInput : Composed terms .writes 1 Decoding.declareInput := by
  refine .operand .readRawOperand fun raw _ => ?_
  dsimp only
  split
  · exact .done _
  · refine .look (fun _ _ => rfl) fun d => ?_
    split
    · exact .silent (fun _ _ => rfl) fun _ => rfl
    · exact .done _

theorem castEach (selection : target.IsSelection) (raws : List Text) :
    Composed terms .writes 0 (Decoding.castEach target raws) := by
  induction raws with
  | nil => exact .done _
  | cons raw rest ih =>
    exact .behind (.resolve _ nofun) fun _ => .behind (.cast _ selection) fun _ =>
      .behind ih fun _ => .done _

theorem sample (instruction : Instruction) :
    Composed terms .writes (instruction.opcode.arity - 4 + 4) (Decoding.sample instruction) := by
  refine .operand .readDestination fun destination narrow => .expression fun coordinate => ?_
  refine .operand .readResource fun texture _ => .readSampler fun sampler => ?_
  refine .behind (.quiet (.readRawOperands _)) fun extra => ?_
  refine .behind (.cast _ (Swizzle.first_isSelection _)) fun coordinate => ?_
  refine .behind (.castEach ?_ _) fun extra => .assignAccess narrow.selection
  split
  · exact Swizzle.first_isSelection _
  · exact Swizzle.first_isSelection _

theorem load (instruction : Instruction) :
    Composed terms .writes ((if instruction.opcode.family = .loadMultisampled then 1 else 0) + 3)
      (Decoding.load instruction) := by
  refine .operand .readDestination fun destination narrow => .expression fun address => ?_
  refine .operand .readResource fun texture _ => ?_
  refine .query (.cast _ (Swizzle.first_isSelection _)) fun address _ => ?_
  dsimp only
  split
  · refine .readScalar fun index => .behind (.done _) fun sampleIndex => ?_
    exact .assignAccess narrow.selection
  · exact .behind (.done _) fun sampleIndex => .assignAccess narrow.selection

theorem resourceInfo (opcode : Opcode) :
    Composed terms .writes 3 (Decoding.resourceInfo opcode) := by
  refine .operand .readDestination fun destination narrow => .readScalar fun mip => ?_
  refine .operand .readResource fun texture _ => ?_
  dsimp only
  split
  · exact .assignAccess narrow.selection
  · refine .behind (.silent (fun c statements => ?_) fun c => ?_) fun _ =>
      .assignAccess narrow.selection
    · split
      · rfl
      · rfl
    · split
      · rfl
      · rfl

theorem levelOfDetail (opcode : Opcode) :
    Composed terms .writes 4 (Decoding.levelOfDetail opcode) := by
  refine .operand .readDestination fun destination narrow => .expression fun coordinate => ?_
  refine .operand .readResource fun texture _ => .readSampler fun sampler => ?_
  refine .behind (.cast _ (Swizzle.first_isSelection _)) fun _ => ?_
  exact .behind (.cast _ narrow.selection) fun _ => .assign _ _

theorem gather (instruction : Instruction) :
    Composed terms .writes ((if instruction.opcode.symbol = "GatherCmp" then 1 else 0) + 2 +
      (if instruction.opcode.width = 0 then 0 else 1) + 2) (Decoding.gather instruction) := by
  refine .operand .readDestination fun destination narrow => .expression fun coordinate => ?_
  refine .chain (.readRawOperands _) fun offsetRaw _ => .operand .readResource fun texture _ => ?_
  refine .operand .readRawOperand fun samplerRaw _ => .query (.samplerName _) fun sampler _ => ?_
  refine .query (.cast _ (Swizzle.first_isSelection _)) fun coordinate _ => ?_
  dsimp only
  -- the offset is a modifier or an operand, with a reference value in front of it or not
  cases offsetRaw with
  | nil =>
    split
    · refine .readScalar fun value => .behind (.done _) fun reference => ?_
      exact .behind (.done _) fun _ => .assignAccess narrow.selection
    · refine .behind (.done _) fun reference => ?_
      exact .behind (.done _) fun _ => .assignAccess narrow.selection
  | cons raw _ =>
    have offset (value : Text) : Composed terms .writes 0 (Decoding.cast value (.first 2)) :=
      .cast value (Swizzle.first_isSelection 2)
    split
    · refine .readScalar fun value => .behind (.done _) fun reference => ?_
      refine .behind (.resolve _ nofun) fun _ => .behind (offset _) fun _ => ?_
      exact .behind (.done _) fun _ => .assignAccess narrow.selection
    · refine .behind (.done _) fun reference => ?_
      refine .behind (.resolve _ nofun) fun _ => .behind (offset _) fun _ => ?_
      exact .behind (.done _) fun _ => .assignAccess narrow.selection

theorem loadRaw : Composed terms .writes 3 Decoding.loadRaw := by
  refine .operand .readDestination fun destination narrow => .readScalar fun address => ?_
  refine .operand .readResource fun resource _ => ?_
  refine .behind (.lift fun _ => .writtenLanes narrow.selection) fun lanes => ?_
  dsimp only
  split
  · refine .behind (.mapM _ fun word => ?_) fun accesses => .assign _ _
    exact .behind (.lift fun _ => .wordIndex _ word.index_lt) fun _ => .done _
  · exact .assign _ _

theorem length_storedComponents (few : resource.selected.length ≤ 4) :
    (storedComponents resource).length ≤ 4 := by
  unfold storedComponents
  split
  · decide
  · exact few

/-- No more words are stored than there are letters for the lanes. -/
theorem storeWords (value : Text) (count : Nat) {target : Nat → Except Fault Text}
    (aims : ∀ word < 4, ∀ tokens, FailsFor (Cause terms.symbols tokens) (target word))
    (position : Nat) (words : List Component) (within : position + words.length ≤ 4) :
    Composed terms .writes 0 (Decoding.storeWords value count target position words) := by
  induction words generalizing position with
  | nil => exact .done _
  | cons word rest ih =>
    rw [List.length_cons] at within
    have stored (part : Text) : Composed terms .writes 0 (do
        let place ← liftM (target word.index)
        Decoding.emit (place ++ " = " ++ asInteger part .unsigned ++ ";")
        Decoding.storeWords value count target (position + 1) rest) :=
      .behind (.lift (aims _ word.index_lt)) fun _ =>
        .behind (.emit fun _ => equation_plain _ _) fun _ => ih (position + 1) (by omega)
    rw [Decoding.storeWords]
    split
    · exact .behind (.lane _ _ (by omega)) stored
    · exact .behind (.done _) stored

theorem storeRaw : Composed terms .writes 3 Decoding.storeRaw := by
  refine .operand .readResource fun resource few => .readScalar fun address => ?_
  refine .operand (.readSource (Swizzle.first_isSelection _)) fun value _ => .ite ?_ ?_
  · refine .storeWords _ _ (fun word near _ => ?_) 0 _ ?_
    · exact .bind (.wordIndex _ near) fun _ _ => .ok _
    · rw [Nat.zero_add]
      exact length_storedComponents few
  · refine .emit fun _ => ?_
    rw [methodCall, List.append_assoc (_ ++ _ ++ _)]
    exact call_plain _ _ _ rfl

theorem mem_of_memberAt? {members : List Variable} {offset : Int} {m : Variable} {start : Nat}
    (found : memberAt? members offset = some (m, start)) : m ∈ members := by
  obtain ⟨member, listed, same⟩ := Option.map_eq_some_iff.mp found
  cases same
  exact List.mem_of_find?_eq_some listed

theorem exists_structure_of_mem {structures : List Structure} {m : Variable}
    (inside : m ∈ elementMembers structures resource) :
    ∃ s ∈ structures, m ∈ s.members := by
  unfold elementMembers at inside
  split at inside
  · rename_i s found
    obtain ⟨name, _, found⟩ := Option.bind_eq_some_iff.mp found
    exact ⟨s, List.mem_of_find?_eq_some found, inside⟩
  · cases inside

theorem memberAccess [phase.IsLate] (resource : ResourceOperand) (index offset : Text)
    (lanes : List Component) :
    Composed terms phase 0 (Decoding.memberAccess resource index offset lanes) := by
  rw [Decoding.memberAccess]
  split
  · exact .done _
  · rename_i numbered
    refine .read (fun _ _ => rfl) fun env same => ?_
    refine .behind (.lift fun _ => .readInteger_allDigits (by simpa using numbered))
      fun place => ?_
    split
    · exact .done _
    · rename_i m start reached
      obtain ⟨s, declared, inside⟩ := exists_structure_of_mem (mem_of_memberAt? reached)
      rw [same] at declared
      dsimp only
      split
      · exact .done _
      · exact .behind (.lift fun _ => .memberComponents declared inside start lanes)
          fun _ => .done _

theorem loadStructured : Composed terms .writes 4 Decoding.loadStructured := by
  refine .operand .readDestination fun destination narrow => .readScalar fun index => ?_
  refine .readScalar fun offset => .operand .readResource fun resource _ => .ite ?_ ?_
  · refine .behind (.lift fun _ => .firstWord _) fun _ => ?_
    exact .behind (.lift fun _ => .writtenLanes narrow.selection) fun _ => .assign _ _
  · refine .behind (.memberAccess _ _ _ _) fun found => ?_
    rcases found with _ | ⟨access, type⟩
    · exact .note (fun _ => rfl) (fun _ _ => rfl) (.assign _ _)
    · exact .behind (.cast _ narrow.selection) fun _ => .assign _ _

theorem storeStructured : Composed terms .writes 4 Decoding.storeStructured := by
  refine .operand .readResource fun resource few => .readScalar fun index => ?_
  refine .readScalar fun offset => ?_
  refine .operand (.readSource (Swizzle.first_isSelection _)) fun value _ => .ite ?_ ?_
  · refine .behind (.lift fun _ => .firstWord _) fun _ => ?_
    refine .storeWords _ _ (fun word near _ => .ok _) 0 _ ?_
    rw [Nat.zero_add]
    exact length_storedComponents few
  · refine .behind (.memberAccess _ _ _ _) fun found => ?_
    rcases found with _ | ⟨access, type⟩
    · exact .note (fun _ => rfl) (fun _ _ => rfl) (.emit fun _ => equation_plain _ _)
    · exact .emit fun _ => equation_plain _ _

theorem loadTyped : Composed terms .writes 3 Decoding.loadTyped := by
  refine .operand .readDestination fun destination narrow => .expression fun address => ?_
  refine .operand .readResource fun resource _ => ?_
  refine .behind (.cast _ (Swizzle.first_isSelection _)) fun coordinate => ?_
  exact .assignAccess narrow.selection

theorem storeTyped : Composed terms .writes 3 Decoding.storeTyped := by
  refine .operand .readResource fun resource _ => .expression fun address => ?_
  refine .query (.cast _ (Swizzle.first_isSelection _)) fun _ _ => ?_
  refine .operand (.readSource (Swizzle.first_isSelection _)) fun _ _ => ?_
  exact .emit fun _ => equation_plain _ _

theorem atomicTarget [phase.IsLate] (resource : ResourceOperand) (address : Text) :
    Composed terms phase 0 (Decoding.atomicTarget resource address) := by
  have single := Swizzle.first_isSelection 1
  have first : Composed terms phase 0 (Decoding.lane address 0 2) :=
    .lane address 2 (show 0 < 4 by decide)
  have second : Composed terms phase 0 (Decoding.lane address 1 2) :=
    .lane address 2 (show 1 < 4 by decide)
  rw [Decoding.atomicTarget]
  split
  · split
    · refine .behind (.cast _ single) fun _ => ?_
      exact .behind (.lift fun _ => .wordIndex _ (show 0 < 4 by decide)) fun _ => .done _
    · refine .behind first fun index => .behind second fun offset => ?_
      split
      · exact .behind (.map (.lift fun _ => .firstWord _)) fun _ => .done _
      · exact .behind (.done _) fun _ => .done _
  · split
    · exact .behind (.cast _ single) fun _ => .done _
    · split
      · refine .behind first fun index => .behind second fun offset => ?_
        refine .behind (.memberAccess _ _ _ _) fun found => ?_
        rcases found with _ | ⟨access, type⟩
        · exact .done _
        · exact .done _
      · exact .behind (.cast _ (Swizzle.first_isSelection _)) fun _ => .done _

theorem atomicValues (opcode : Opcode) (count : Nat) :
    Composed terms .reads count (Decoding.atomicValues opcode count) := by
  induction count with
  | zero => exact .done _
  | succ count ih => exact .readScalar fun _ => .behind ih fun _ => .done _

theorem atomic (opcode : Opcode) :
    Composed terms .writes (opcode.arity - 2 + 2) (Decoding.atomic opcode) := by
  refine .operand .readResource fun resource _ => .expression fun address => ?_
  refine .behind (.quiet (.atomicValues _ _)) fun values => ?_
  exact .behind (.atomicTarget _ _) fun target => .emit fun _ => atomicCall_plain _ _ _

/-- The statements of an atomic operation whose result is used. -/
theorem atomicStatements {opcode : Opcode} {destination : Destination} {front value : Text}
    {arguments : List Text} :
    Composed terms .writes 0 (do
      Decoding.emit ("uint " ++ foundName ++ ";")
      Decoding.emit (atomicCall opcode front arguments)
      Decoding.assign destination value) :=
  .behind (.emit fun _ => by decide) fun _ => .behind (.emit fun _ => atomicCall_plain _ _ _)
    fun _ => .assign _ _

theorem inBraces (free : ¬ terms.plainly) {statements : Decoding Unit}
    (inside : Composed terms .writes 0 statements) :
    Composed terms .writes 0 (Decoding.inBraces statements) :=
  .behind (.emitAny free _) fun _ => .behind (.shift free (fun _ _ => rfl) fun _ => rfl) fun _ =>
    .behind inside fun _ => .behind (.shift free (fun _ _ => rfl) fun _ => rfl) fun _ =>
      .emitAny free _

theorem atomicReturning (free : ¬ terms.plainly) (opcode : Opcode) :
    Composed terms .writes (opcode.arity - 3 + 3) (Decoding.atomicReturning opcode) := by
  refine .operand .readDestination fun destination _ => .operand .readResource fun resource _ => ?_
  refine .expression fun address => .behind (.quiet (.atomicValues _ _)) fun values => ?_
  exact .behind (.atomicTarget _ _) fun target => .inBraces free .atomicStatements

/-- All instructions are composed except the irregular ones. -/
theorem dispatch (instruction : Instruction)
    (regular : instruction.opcode.family.isIrregular = false)
    (steady : terms.steady → instruction.opcode.family ≠ .declareTopology)
    (other : terms.still → instruction.opcode.family ≠ .declareTemps)
    (plain : terms.plainly → instruction.opcode.family.marker = .none) :
    Composed terms .writes instruction.opcode.operands (Decoding.dispatch instruction) := by
  obtain ⟨mnemonic, ⟨family, arity, kind, symbol, width⟩, saturate, offsets, type, stride⟩ :=
    instruction
  have free (marks : family.marker ≠ .none) : ¬ terms.plainly := fun bound => marks (plain bound)
  cases family with
  | binary => exact .binary _
  | call1 => exact .call _ 1
  | call2 => exact .call _ 2
  | multiplyAdd => exact .call _ 3
  | integerMultiplyAdd => exact .ternary
  | dot => exact .dyadic fun _ _ => Swizzle.first_isSelection _
  | wideMultiply => exact .wideMultiply
  | divide => exact .divide
  | sineCosine => exact .sineCosine
  | negate => exact .unary
  | move => exact .unary
  | moveConditional => exact .moveConditional
  | swapConditional => exact .swapConditional
  | compare => exact .compare _
  | complement => exact .unary
  | logic => exact .dyadic fun _ narrow => narrow.selection
  | shift => exact .dyadic fun _ narrow => narrow.selection
  | bitCall => exact .unary
  | bitExtract => exact .ternary
  | bitInsert => exact .bitInsert
  | toHalf => exact .unary
  | fromHalf => exact .unary
  | fromFloat => exact .unary
  | toFloat => exact .unary
  | ifMarker => exact .operand (.condition _) fun _ _ => .beginBlock (free nofun) _ _
  | elseMarker => exact .elseMarker (free nofun)
  | endIf => exact .endBlock (free nofun) _
  | loop => exact .beginBlock (free nofun) _ _
  | endLoop => exact .endBlock (free nofun) _
  | switch => exact .expression fun _ => .beginBlock (free nofun) _ _
  | caseLabel => exact .operand .readRawOperand fun _ _ => .label (free nofun) _
  | defaultLabel => exact .label (free nofun) _
  | endSwitch => exact .behind (.leaveLabel (free nofun)) fun _ => .endBlock (free nofun) _
  | breakOut => exact .behind (.emitAny (free nofun) _) fun _ => .leaveLabel (free nofun)
  | breakConditional => exact .conditional _ (.pure rfl)
  | continueOn => exact .emit fun _ => by decide
  | continueConditional => exact .conditional _ (.pure rfl)
  | leave => exact .leave (free nofun)
  | leaveConditional => exact .conditional _ .returnStatement
  | discard => exact .conditional _ (.pure rfl)
  | emitVertex =>
    refine .behind (.quiet (.discard (.readRawOperands _))) fun _ => ?_
    exact .behind (.silent (fun _ _ => rfl) fun _ => rfl) fun _ => .emit fun _ => by decide
  | cutStrip =>
    exact .behind (.quiet (.discard (.readRawOperands _))) fun _ => .emit fun _ => by decide
  | barrier =>
    refine .emit fun _ => plainText_of_semicolon _ ?_ (.inr ?_)
    · rw [List.getLast?_append]
      rfl
    · exact List.mem_append_right _ (by decide)
  | idle => exact .quiet (.discard (.readRawOperands _))
  | declareTemps => exact .declareTemps fun bound => other bound rfl
  | declareIndexable => exact .declareIndexable
  | declareConstants => cases regular
  | declareThreadGroup =>
    refine .operand .readInt fun _ _ => .operand .readInt fun _ _ => .operand .readInt fun _ _ => ?_
    exact .silent (fun _ _ => rfl) fun _ => rfl
  | declareSharedRaw =>
    exact .operand .readRawOperand fun _ _ => .operand .readInt fun _ _ =>
      .silent (fun _ _ => rfl) fun _ => rfl
  | declareSharedStructured =>
    refine .operand .readRawOperand fun _ _ => .operand .readInt fun _ _ => ?_
    exact .operand .readInt fun _ _ => .silent (fun _ _ => rfl) fun _ => rfl
  | declareInput => exact .declareInput
  | declareVertexCount => exact .operand .readInt fun _ _ => .silent (fun _ _ => rfl) fun _ => rfl
  | declarePrimitive =>
    exact .operand .readRawOperand fun _ _ => .silent (fun _ _ => rfl) fun _ => rfl
  | declareTopology =>
    exact .operand .readRawOperand fun _ _ => .modifyContext (fun bound => absurd rfl (steady bound))
      (fun _ _ => rfl) (fun _ _ => .refl _) (.nothing fun _ _ => rfl)
  | declareOther => cases regular
  | sample => exact .sample _
  | load => exact .load ⟨_, ⟨.load, _, _, _, _⟩, _, _, _, _⟩
  | loadMultisampled => exact .load ⟨_, ⟨.loadMultisampled, _, _, _, _⟩, _, _, _, _⟩
  | resourceInfo => exact .resourceInfo _
  | levelOfDetail => exact .levelOfDetail _
  | gather => exact .gather _
  | loadRaw => exact .loadRaw
  | loadStructured => exact .loadStructured
  | loadTyped => exact .loadTyped
  | storeRaw => exact .storeRaw
  | storeStructured => exact .storeStructured
  | storeTyped => exact .storeTyped
  | atomic => exact .atomic _
  | atomicReturning => exact .atomicReturning (free nofun) _
  | atomicCounter =>
    exact .operand .readDestination fun _ _ => .operand .readResource fun _ _ => .assign _ _

/-- An instruction is composed, unless it is irregular. -/
theorem dispatch_cases (symbols : Symbols) (instruction : Instruction) {steady still : Prop}
    (settled : steady → instruction.opcode.family ≠ .declareTopology)
    (other : still → instruction.opcode.family ≠ .declareTemps) :
    Composed (.of symbols steady still) .writes instruction.opcode.operands
      (Decoding.dispatch instruction) ∨
    (instruction.opcode.family = .declareConstants ∧
      Decoding.dispatch instruction = Decoding.declareConstants) ∨
    Decoding.dispatch instruction = modify fun d => { d with cursor := d.cursor.skipLine } := by
  cases irregular : instruction.opcode.family.isIrregular with
  | false => exact .inl (.dispatch instruction irregular settled other False.elim)
  | true =>
    obtain ⟨mnemonic, ⟨family, arity, kind, symbol, width⟩, saturate, offsets, type, stride⟩ :=
      instruction
    cases family <;> cases irregular
    · exact .inr (.inl ⟨rfl, rfl⟩)
    · exact .inr (.inr rfl)

end Decoding.Composed
end ShaderLift
