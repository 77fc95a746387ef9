import ShaderLift.Proofs.Structured.Operands
import ShaderLift.Proofs.Text.Integers

namespace ShaderLift

variable {α β : Type}

/-- The faults of a group of modifiers. -/
inductive Decoding.MisreadModifier (tokens : List Token) : Fault → Prop
  /-- A texel offset consists of digits behind minus signs, but is no integer. -/
  | offset {token : Token} {issue : Text.IntegerIssue} (among : token ∈ tokens)
      (odd : token.text.IsOddInteger) (bad : Text.toInt token.text = .error issue) :
      MisreadModifier tokens (.badInteger token.text issue)
  /-- A stride is given as something that is no integer. -/
  | stride {token : Token} {text : Text} {issue : Text.IntegerIssue} (among : token ∈ tokens)
      (given : token.text = "stride=" ++ text) (bad : Text.toInt text = .error issue) :
      MisreadModifier tokens (.badInteger text issue)

/-- The faults that decoding breaks off with and that are not reported, given the symbols and tokens
of a listing. -/
inductive Decoding.Defect (symbols : Symbols) (tokens : List Token) : Fault → Prop
  /-- An index or an address consists of digits, but is no integer. -/
  | number {digits : Text} {issue : Text.IntegerIssue} (unsigned : Text.allDigits digits = true)
      (odd : digits.IsOddInteger) (bad : Text.toInt digits = .error issue) :
      Defect symbols tokens (.badInteger digits issue)
  /-- A group of modifiers has an offset or a stride that is no integer. -/
  | modifier {fault : Fault} (misread : MisreadModifier tokens fault) :
      Defect symbols tokens fault
  /-- An array has so many registers that their numbers cannot all be written. -/
  | array {array : ConstantArray} (among : array ∈ symbols.registers.constants.arrays)
      (long : Text.writableBound ≤ array.length * array.rows) :
      Defect symbols tokens .unwritableInteger
  /-- A member of a structure has more than four scalars. -/
  | member {s : Structure} {m : Variable} (declared : s ∈ symbols.declared.structures)
      (inside : m ∈ s.members) (wide : 4 < ElementType.count m.type) :
      Defect symbols tokens .characterRange

theorem Decoding.MisreadModifier.mono {tokens more : List Token} {fault : Fault}
    (misread : MisreadModifier tokens fault) (within : tokens ⊆ more) :
    MisreadModifier more fault := by
  cases misread with
  | offset among odd bad => exact .offset (within among) odd bad
  | stride among given bad => exact .stride (within among) given bad

/-- The faults that decoding breaks off with. -/
def Decoding.Cause (symbols : Symbols) (tokens : List Token) (fault : Fault) : Prop :=
  fault.isReported = true ∨ Defect symbols tokens fault

/-- A computation fails only for a cause. -/
def FailsFor (cause : Fault → Prop) (outcome : Except Fault α) : Prop :=
  ∀ fault, outcome = .error fault → cause fault

namespace FailsFor

section Rules

variable {cause : Fault → Prop} {outcome : Except Fault α}

theorem ok (value : α) : FailsFor cause (.ok value) := nofun

theorem error {fault : Fault} (good : cause fault) :
    FailsFor cause (.error fault : Except Fault α) := by
  rintro other ⟨⟩
  exact good

theorem mono {wider : Fault → Prop} (fails : FailsFor cause outcome)
    (weaker : ∀ fault, cause fault → wider fault) : FailsFor wider outcome :=
  fun fault failed => weaker fault (fails fault failed)

theorem bind {next : α → Except Fault β} (first : FailsFor cause outcome)
    (later : ∀ value, outcome = .ok value → FailsFor cause (next value)) :
    FailsFor cause (outcome >>= next) := by
  intro fault failed
  cases outcome with
  | error earlier =>
    cases failed
    exact first _ rfl
  | ok value => exact later value rfl fault failed

theorem map {result : α → β} (first : FailsFor cause outcome) :
    FailsFor cause (outcome.map result) := by
  intro fault failed
  cases outcome with
  | error earlier =>
    cases failed
    exact first _ rfl
  | ok value => cases failed

theorem mapM {values : List α} {step : α → Except Fault β}
    (each : ∀ value ∈ values, FailsFor cause (step value)) : FailsFor cause (values.mapM step) := by
  induction values with
  | nil => exact .ok []
  | cons value rest ih =>
    rw [List.forall_mem_cons] at each
    rw [List.mapM_cons]
    exact .bind each.1 fun first _ => .bind (ih each.2) fun others _ => .ok _

end Rules

open Decoding Operand

variable {symbols : Symbols} {tokens : List Token}

theorem readInteger {cause : Fault → Prop} {text : Text}
    (bad : ∀ issue, Text.toInt text = .error issue → cause (.badInteger text issue)) :
    FailsFor cause (Fault.readInteger text) := by
  unfold Fault.readInteger
  split
  · exact .ok _
  · rename_i issue read
    exact .error (bad issue read)

theorem readInteger_allDigits {text : Text} (all : Text.allDigits text = true) :
    FailsFor (Cause symbols tokens) (Fault.readInteger text) :=
  .readInteger fun _ bad => .inr (.number all (Text.isOddInteger_of_allDigits all bad) bad)

theorem readInteger_decimals {digits : Text} (filled : digits ≠ [])
    (each : ∀ c ∈ digits, Text.isDecimal c = true) :
    FailsFor (Cause symbols tokens) (Fault.readInteger digits) :=
  .readInteger_allDigits (Text.allDigits_decimals filled each)

theorem relativeIndex? (index : Text) :
    FailsFor (Cause symbols tokens) (Operand.relativeIndex? index) := by
  unfold Operand.relativeIndex?
  dsimp only
  split
  · exact .ok _
  split
  · exact .ok _
  split
  · exact .ok _
  rename_i digits added
  have decimal : digits ≠ [] ∧ ∀ c ∈ digits, Text.isDecimal c = true := by
    unfold addedDigits? at added
    split at added
    · obtain ⟨plain, same⟩ := Option.ite_none_right_eq_some.mp added
      rw [← Option.some.inj same]
      simpa using plain
    · cases added
  exact .map (.readInteger_decimals decimal.1 decimal.2)

theorem normalizeIndexed (operand : Text) :
    FailsFor (Cause symbols tokens) (Operand.normalizeIndexed operand) := by
  unfold Operand.normalizeIndexed
  split
  · exact .ok _
  · refine .bind (.relativeIndex? _) fun relative? _ => ?_
    split
    · exact .ok _
    · exact .ok _

/-- A register in an array is written by its distance from the first one. -/
theorem arrayExpression {array : ConstantArray} (index : RelativeIndex)
    (selected : List Component) {bind : Int}
    (among : array ∈ symbols.registers.constants.arrays)
    (reached : Registers.reaches array bind index.offset = true) :
    FailsFor (Cause symbols tokens) (Registers.arrayExpression array index selected) := by
  have written : FailsFor (Cause symbols tokens)
      (Fault.writeInteger (index.offset - array.firstSlot)) := by
    unfold Fault.writeInteger
    split
    · exact .ok _
    · rename_i long
      refine .error (.inr (.array among ?_))
      simp only [Registers.reaches, Bool.and_eq_true, decide_eq_true_eq] at reached
      simp only [Text.isWritable, decide_eq_true_eq] at long
      generalize Text.writableBound = bound at long ⊢
      omega
  unfold Registers.arrayExpression
  dsimp only
  split
  · exact .bind (.ok _) fun _ _ => .ok _
  · exact .bind (.map written) fun _ _ => .ok _

theorem findArray? (bind : Int) (index : Text) (selected : List Component) :
    FailsFor (Cause symbols tokens)
      (Registers.findArray? symbols.registers.constants bind index selected) := by
  refine .bind (.relativeIndex? _) fun relative? _ => ?_
  split
  · exact .ok _
  · split
    · exact .ok _
    · rename_i array found
      have reached := List.find?_some found
      refine .bind ?_ fun _ _ => .ok _
      exact .arrayExpression _ _ (List.mem_of_find?_eq_some found) reached

theorem decimals_of_constantRegister? {base bind index : Text}
    (split : Registers.constantRegister? base = some (bind, index)) :
    bind ≠ [] ∧ ∀ c ∈ bind, Text.isDecimal c = true := by
  simp only [Registers.constantRegister?, Text.spanDecimals, Option.bind_eq_bind,
    Option.bind_eq_some_iff] at split
  obtain ⟨behind, _, inside, _, same⟩ := split
  obtain ⟨whole, same⟩ := Option.ite_none_left_eq_some.mp same
  cases same
  refine ⟨?_, fun c inside => List.mem_takeWhile_imp inside⟩
  intro empty
  simp [empty] at whole

theorem findConstant? (operand : Text) :
    FailsFor (Cause symbols tokens)
      (Registers.findConstant? symbols.registers.constants operand) := by
  unfold Registers.findConstant?
  split
  · exact .ok _
  dsimp only
  split
  · exact .ok _
  rename_i bind index split
  obtain ⟨filled, each⟩ := decimals_of_constantRegister? split
  refine .bind (.readInteger_decimals filled each) fun bind _ => ?_
  split
  · exact .findArray? bind _ _
  · rename_i numbered
    refine .bind (.readInteger_allDigits (by simpa using numbered)) fun slot _ => .ok _

theorem query (operand : Text) :
    FailsFor (Cause symbols tokens) (symbols.registers.query operand) := by
  refine .bind ?_ fun _ _ => .ok _
  unfold Registers.findName?
  dsimp only
  split
  · exact .ok _
  · exact .findConstant? _

theorem resolved (raw : Text) :
    FailsFor (Cause symbols tokens) (Decoding.resolved symbols.registers raw) := by
  refine .bind (.query raw) fun name? _ => ?_
  split
  · exact .ok _
  · exact .bind (.normalizeIndexed _) fun _ _ => .ok _

/-- A cast to components can fail at a literal, and says so. -/
theorem cast (expression : Text) {target : Swizzle} (selection : target.IsSelection) :
    FailsFor (Cause symbols tokens) (symbols.registers.cast expression target) := by
  obtain ⟨lanes, rfl⟩ := selection
  intro fault failed
  have decode := Registers.cast_fault symbols.registers expression lanes fault failed
  cases fault with
  | decode cause line => exact .inl rfl
  | _ => cases decode

theorem writtenLanes {destination : Destination} (selection : destination.shape.IsSelection) :
    FailsFor (Cause symbols tokens) (Decoding.writtenLanes destination) := by
  obtain ⟨lanes, same⟩ := selection
  rw [Decoding.writtenLanes, same, Swizzle.components_ofComponents]
  exact .ok _

theorem writeInteger {n : Int} (short : Text.isWritable n = true) :
    FailsFor (Cause symbols tokens) (Fault.writeInteger n) := by
  rw [Fault.writeInteger, if_pos short]
  exact .ok _

/-- A byte address that can be read leads to a word that can be written. -/
theorem wordIndex (address : Text) {word : Nat} (small : word < 4) :
    FailsFor (Cause symbols tokens) (Decoding.wordIndex address word) := by
  unfold Decoding.wordIndex
  split
  · rename_i all
    refine .bind (.readInteger_allDigits all) fun byte read => .writeInteger ?_
    have least := Text.isWritable_of_lt 9 (by decide) (by decide)
    have short : Text.isWritable byte = true := by
      unfold Fault.readInteger at read
      split at read
      · rename_i value number
        cases read
        exact Text.isWritable_of_toInt number
      · cases read
    rw [Int.fdiv_eq_ediv_of_nonneg _ (by decide)]
    simp only [Text.isWritable, decide_eq_true_eq] at short least ⊢
    generalize Text.writableBound = bound at short least ⊢
    omega
  · split
    · exact .ok _
    · refine .bind (.writeInteger ?_) fun _ _ => .ok _
      exact Text.isWritable_of_lt word (by omega) (by omega)

theorem firstWord (offset : Text) :
    FailsFor (Cause symbols tokens) (Decoding.firstWord offset) := by
  unfold Decoding.firstWord
  split
  · rename_i all
    exact .map (.readInteger_allDigits all)
  · exact .ok _

end FailsFor

namespace FailsFor

open Decoding

variable {symbols : Symbols} {tokens : List Token}

/-- Only a component behind the fourth cannot be named. -/
theorem memberComponents {s : Structure} {m : Variable}
    (declared : s ∈ symbols.declared.structures) (inside : m ∈ s.members) (start : Nat)
    (lanes : List Component) :
    FailsFor (Cause symbols tokens)
      (Decoding.memberComponents start (ElementType.count m.type) lanes) := by
  have most := (ElementType.count_bounds m.type).2
  by_cases narrow : ElementType.count m.type ≤ 4
  · rw [memberComponents_eq start narrow]
    exact .ok _
  have component (place : Nat) (near : place < 16) :
      FailsFor (Cause symbols tokens) (Swizzle.componentAt place) := by
    refine .map ?_
    have within : ¬((place : Int) < -Fault.indexBound ∨ (Fault.indexBound : Int) ≤ place) := by
      have bound : 16 ≤ Fault.indexBound := by decide
      omega
    have counted : ¬(place : Int) < 0 := by omega
    simp only [Fault.placeAt, if_neg within, if_neg counted]
    split
    · exact .error (.inr (.member declared inside (Nat.not_le.mp narrow)))
    · exact .ok _
  induction lanes with
  | nil => exact .ok _
  | cons lane rest ih =>
    refine .bind (component _ (by omega)) fun _ _ => .bind ih fun _ _ => .ok _

theorem applyStrides (instruction : Instruction) {values : List Text}
    (given : ∀ value ∈ values, ∃ token ∈ tokens, token.text = value) :
    FailsFor (MisreadModifier tokens) (Decoding.applyStrides instruction values) := by
  induction values generalizing instruction with
  | nil => exact .ok _
  | cons value rest ih =>
    rw [List.forall_mem_cons] at given
    obtain ⟨⟨token, among, text⟩, others⟩ := given
    unfold Decoding.applyStrides
    split
    · exact ih instruction others
    · rename_i digits found
      refine .bind (.readInteger fun issue bad => ?_) fun stride _ => ih _ others
      exact .stride among (text.trans (Text.eq_of_after? _ _ _ found)) bad

theorem readOffset {token : Token} (among : token ∈ tokens)
    (looks : looksInteger token.text = true) :
    FailsFor (MisreadModifier tokens) (Fault.readInteger token.text) := by
  have minus : ∀ c ∈ token.text.takeWhile (· == '-'), c = '-' := by
    intro c inside
    simpa using List.mem_takeWhile_imp inside
  have parts := List.takeWhile_append_dropWhile (p := (· == '-')) (l := token.text)
  refine .readInteger fun issue bad => .offset among ?_ bad
  rw [← parts] at bad ⊢
  exact Text.isOddInteger_of_signs minus looks bad

theorem applyGroup (instruction : Instruction) {values : List Text}
    (given : ∀ value ∈ values, ∃ token ∈ tokens, token.text = value) :
    FailsFor (MisreadModifier tokens) (Decoding.applyGroup instruction values) := by
  unfold Decoding.applyGroup
  split
  · exact .ok _
  · split
    · rename_i all
      rw [List.all_eq_true] at all
      refine .bind (.mapM fun value inside => ?_) fun _ _ => .ok _
      obtain ⟨token, among, rfl⟩ := given value inside
      exact .readOffset among (all _ inside)
    · exact .applyStrides _ given

end FailsFor
end ShaderLift
