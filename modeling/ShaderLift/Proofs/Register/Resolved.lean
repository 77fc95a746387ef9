import ShaderLift.Proofs.Constant.Resolve
import ShaderLift.Proofs.Register.Constant

namespace ShaderLift

variable {structures : List Structure} {bind : Int}

namespace Text

variable {text : Text}

theorem after?_eq_none {mark : Char} {start : Text} (other : text.head? ≠ some mark) :
    after? (mark :: start) text = none := by
  cases text with
  | nil => rfl
  | cons c rest =>
    have apart : mark ≠ c := fun same => other (by rw [same]; rfl)
    rw [after?, if_neg apart]

end Text

theorem ResourceTables.get?_ofShapes {mark : Char} {name : Text} (other : name.head? ≠ some mark)
    (shaped : List (Resource × ResourceShape)) :
    (ofShapes mark shaped).registers.get? name = none := by
  apply Table.get?_ofFirsts_eq_none
  intro entry inside
  obtain ⟨found, _, same⟩ := List.mem_map.mp inside
  apply other
  rw [← (Prod.mk.inj same).1]
  rfl

namespace Registers

open Operand

variable {base : Text}

/-- A register that no row of a signature goes by. -/
structure IsUnlisted (registers : Registers) (base : Text) : Prop where
  input : registers.inputs.entries.get? base = none
  output : registers.outputs.entries.get? base = none

/-- The letters that the registers of inputs, textures, samplers and unordered-access views start
with. -/
def namedMarks : List Char := ['v', 't', 's', 'u']

theorem vertexInput?_eq_none (other : base.head? ≠ some 'v') :
    vertexInput? base = none := by
  have start : Text.after? "v[" (Text.dropFinalNewline base) = none :=
    Text.after?_eq_none fun starts => other (Text.head?_dropFinalNewline starts)
  unfold vertexInput?
  rw [start]
  rfl

theorem builtIn_eq_none (other : base.head? ≠ some 'v') :
    Parameter.builtIn.get? base = none := by
  have marked : ∀ entry ∈ Parameter.builtIn, entry.1.head? = some 'v' := by decide
  cases found : Parameter.builtIn.get? base with
  | none => rfl
  | some parameter => exact absurd (marked _ (Table.mem_of_get? found)) other

variable {d : Declarations}

/-- An unlisted register is looked up among the constants. -/
theorem findName?_unlisted (returns : d.resolve.fault = none) {inner : Text}
    {selected : List Component} (unlisted : d.resolve.registers.IsUnlisted base) {mark : Char}
    (start : base.head? = some mark) (unmarked : mark ∉ namedMarks)
    (split : splitSelector inner = (base, selected)) :
    d.resolve.registers.findName? inner =
      findConstant? d.resolve.registers.constants inner := by
  have other (c : Char) (named : c ∈ namedMarks) : base.head? ≠ some c := by
    intro same
    rw [start] at same
    rw [Option.some.inj same] at unmarked
    exact unmarked named
  obtain ⟨_, sampled, viewed⟩ := Declarations.resources_resolve returns
  have noTexture : d.resolve.registers.textures.registers.get? base = none :=
    ResourceTables.get?_ofShapes (other 't' (by decide)) _
  have noSampler : d.resolve.registers.samplers.registers.get? base = none := by
    rw [sampled]
    exact ResourceTables.get?_ofShapes (other 's' (by decide)) _
  have noUav : d.resolve.registers.uavs.registers.get? base = none := by
    rw [viewed]
    exact ResourceTables.get?_ofShapes (other 'u' (by decide)) _
  unfold findName?
  rw [split]
  simp only [findRow?, findVertexInput?, findBuiltIn?, findResource?, unlisted.input,
    unlisted.output, vertexInput?_eq_none (other 'v' (by decide)),
    builtIn_eq_none (other 'v' (by decide)), noTexture, noSampler, noUav, Option.bind_eq_bind,
    Option.bind_none, Option.map_none, Option.none_or]

end Registers

/-- What holds of every leaf, wherever the path to it may lead, holds of all that a variable brings
up. -/
theorem Variable.forall_findings (Named : Variable → Prop) (Leads : Text → Prop)
    {Found : ConstantFinding → Prop} (members : ∀ s ∈ structures, ∀ m ∈ s.members, Named m)
    (leaf : ∀ (v : Variable) (place : Int) (path base : Text) (dimensions : List Nat),
      Named v → Leads path → splitArrayName v.name = .ok (base, dimensions) →
      ∀ finding ∈ (LeafField.findings bind ⟨path ++ base, v.type, place, dimensions,
        v.registerLayout.rows, v.registerLayout.columns⟩).items, Found finding)
    (deeper : ∀ (v : Variable) (path base : Text) (dimensions : List Nat) (position : Nat),
      Named v → Leads path → splitArrayName v.name = .ok (base, dimensions) →
      Leads (path ++ base ++ indexText (unflatten position dimensions) ++ ".")) (depth : Nat)
    (place : Int) {path : Text} {v : Variable} (named : Named v) (leads : Leads path) :
    ∀ finding ∈ (v.findings structures bind depth place path).items, Found finding := by
  induction depth using Nat.strongRecOn generalizing place path v with
  | ind depth ih =>
    intro finding inside
    unfold findings at inside
    split at inside
    · cases inside
    · rename_i base dimensions split
      dsimp only at inside
      split at inside
      · exact leaf v place path base dimensions named leads split finding inside
      · rename_i s found
        split at inside
        · cases inside
        · rename_i below
          split at inside
          · cases inside
          · rw [CutList.collectFrom_eq_collect] at inside
            obtain ⟨position, _, inside⟩ := CutList.mem_collect inside
            obtain ⟨m, member, inside⟩ := CutList.mem_collect inside
            exact ih below (Nat.lt_succ_self below) _
              (members s (List.mem_of_find?_eq_some found) m member)
              (deeper v path base dimensions position named leads split) finding inside

/-- The constants that a variable brings up are registers of leaves. -/
theorem Variable.exists_placementAt (depth : Nat) (place : Int) (path : Text) (v : Variable)
    {p : Placement} (inside : .placement p ∈ (v.findings structures bind depth place path).items) :
    ∃ (leaf : LeafField) (position : Nat), position < leaf.writableCount bind ∧
      leaf.placementAt bind position = p := by
  have each : ∀ finding ∈ (v.findings structures bind depth place path).items, ∀ p,
      finding = .placement p → ∃ (leaf : LeafField) (position : Nat),
        position < leaf.writableCount bind ∧ leaf.placementAt bind position = p := by
    refine forall_findings (fun _ => True) (fun _ => True) (fun _ _ _ _ => trivial) ?_
      (fun _ _ _ _ _ _ _ _ => trivial) depth place trivial trivial
    rintro v place path base dimensions _ _ _ finding among p rfl
    simp only [LeafField.findings, List.mem_append, List.mem_map] at among
    rcases among with ⟨_, _, same⟩ | ⟨position, among, same⟩
    · cases same
    · cases same
      exact ⟨_, position, List.mem_range.mp among, rfl⟩
  exact each _ inside p rfl

namespace LeafField

/-- No selector of four components stands behind a register of a leaf. -/
theorem swizzle_entryAt (leaf : LeafField) (position : Nat) :
    (leaf.entryAt position).swizzle = [] ∨ ∃ selected : List Component,
      (leaf.entryAt position).swizzle = '.' :: Component.letters selected ∧
        selected.length < 4 := by
  unfold entryAt
  dsimp only
  generalize (if position = 0 then leaf.component else 0) = start
  by_cases first : start = 0
  · left
    rw [if_pos first]
  · right
    refine ⟨_, if_neg first, ?_⟩
    have all : Component.all.length = 4 := rfl
    rw [List.length_take, List.length_drop]
    omega

end LeafField

namespace Declarations

variable {p : Placement} {entry : ConstantEntry}

variable {d : Declarations}

theorem exists_placementAt (returns : d.resolve.fault = none)
    (inside : p ∈ d.resolve.registers.constants.placements) :
    ∃ (bind : Int) (leaf : LeafField) (position : Nat), position < leaf.writableCount bind ∧
      leaf.placementAt bind position = p := by
  obtain ⟨buffer, _, among⟩ := (mem_placements_resolve returns p).mp inside
  obtain ⟨v, _, among⟩ := CutList.mem_collect among
  exact ⟨buffer.bind, v.exists_placementAt _ _ _ among⟩

/-- The numbers in the register of a constant can be written. -/
theorem isWritable_placement (returns : d.resolve.fault = none)
    (inside : p ∈ d.resolve.registers.constants.placements) :
    Text.isWritable p.bind = true ∧ Text.isWritable p.slot = true := by
  obtain ⟨bind, leaf, position, early, rfl⟩ := exists_placementAt returns inside
  change Text.isWritable bind = true ∧ Text.isWritable (leaf.firstSlot + position) = true
  unfold LeafField.writableCount Text.writableRun at early
  simp only [Text.isWritable, decide_eq_true_eq] at early ⊢
  generalize Text.writableBound = bound at early ⊢
  split at early
  · split at early
    · have room := Int.lt_toNat.mp (Nat.lt_of_lt_of_le early (Nat.min_le_right _ _))
      omega
    · omega
  · omega

theorem isWritable_entriesAt (returns : d.resolve.fault = none) {bind slot : Nat}
    (inside : entry ∈ d.resolve.registers.constants.entriesAt bind slot) :
    bind < Text.writableBound ∧ slot < Text.writableBound := by
  obtain ⟨p, among, _⟩ := List.mem_map.mp inside
  obtain ⟨among, place⟩ := List.mem_filter.mp among
  rw [Bool.and_eq_true] at place
  have bound : p.bind = bind := of_decide_eq_true place.1
  have register : p.slot = slot := of_decide_eq_true place.2
  have writable := isWritable_placement returns among
  rw [bound, register] at writable
  simpa [Text.isWritable] using writable

/-- A text is listed for a constant only if it is a register with at most three components. -/
theorem exists_constantText (returns : d.resolve.fault = none) {name : Text}
    (listed : d.resolve.registers.constants.registers.get? name = some entry) :
    ∃ bind slot, name = constantText bind slot ∨ ∃ selected : List Component,
      name = constantText bind slot ++ '.' :: Component.letters selected ∧ selected.length < 4 := by
  rw [registers_resolve returns, Table.get?_ofFirsts] at listed
  obtain ⟨p, inside, same⟩ := List.mem_map.mp (Table.mem_of_get? listed)
  obtain ⟨bind, leaf, position, _, rfl⟩ := exists_placementAt returns inside
  have key : name = constantText bind (leaf.firstSlot + position) ++
      (leaf.entryAt position).swizzle := (Prod.mk.inj same).1.symm
  refine ⟨bind, leaf.firstSlot + position, ?_⟩
  rcases leaf.swizzle_entryAt position with none | ⟨selected, some, short⟩
  · left
    rw [key, none, List.append_nil]
  · right
    exact ⟨selected, by rw [key, some], short⟩

end Declarations

namespace Registers

open Operand

variable {d : Declarations}

theorem dot_notMem_constantText (bind slot : Int) : '.' ∉ constantText bind slot := by
  have number (n : Int) : '.' ∉ Text.ofInt n := Text.notMem_ofInt '.' (by decide) (by decide) n
  unfold constantText
  simp only [List.mem_append, not_or]
  exact ⟨⟨⟨⟨by decide, number bind⟩, by decide⟩, number slot⟩, by decide⟩

/-- No constant is listed under a register with four components. -/
theorem get?_four (returns : d.resolve.fault = none) (base : Text) (selected : List Component)
    (four : selected.length = 4) :
    d.resolve.registers.constants.registers.get? (base ++ Component.suffix selected) = none := by
  have filled : selected ≠ [] := by
    intro empty
    rw [empty] at four
    cases four
  cases found :
      d.resolve.registers.constants.registers.get? (base ++ Component.suffix selected) with
  | none => rfl
  | some entry =>
    exfalso
    have cut := splitLast?_append '.' base _ (Component.dot_notMem_letters selected)
    rw [← Component.suffix_of_ne_nil filled] at cut
    obtain ⟨bind, slot, same | ⟨others, same, short⟩⟩ :=
      Declarations.exists_constantText returns found
    · rw [same, splitLast?_eq_none '.' _ (dot_notMem_constantText bind slot)] at cut
      cases cut
    · rw [same, splitLast?_append '.' _ _ (Component.dot_notMem_letters others)] at cut
      have letters := (Prod.mk.inj (Option.some.inj cut)).2
      rw [Component.letters_inj letters] at short
      omega

/-- Temporary registers are not constants. -/
theorem findConstant?_eq_none (returns : d.resolve.fault = none) {base operand : Text}
    {selected : List Component} (other : operand.head? ≠ some 'c') (start : base.head? ≠ some 'c')
    (split : splitSelector operand = (base, selected)) :
    findConstant? d.resolve.registers.constants operand = .ok none := by
  have unlisted : d.resolve.registers.constants.registers.get? operand = none := by
    cases found : d.resolve.registers.constants.registers.get? operand with
    | none => rfl
    | some entry =>
      exfalso
      apply other
      obtain ⟨bind, slot, same | ⟨_, same, _⟩⟩ := Declarations.exists_constantText returns found
      · rw [same]
        rfl
      · rw [same]
        rfl
  have register : constantRegister? base = none := by
    have starts : Text.after? "cb" (Text.dropFinalNewline base) = none :=
      Text.after?_eq_none fun head => start (Text.head?_dropFinalNewline head)
    unfold constantRegister?
    rw [starts]
    rfl
  unfold findConstant?
  rw [unlisted, split]
  dsimp only
  rw [register]
  rfl

end Registers
end ShaderLift
