import ShaderLift.Proofs.Decoding.Dispatch
import ShaderLift.Proofs.Decoding.States
import ShaderLift.Proofs.Nesting.Balance

namespace ShaderLift

namespace Decoding

variable {env : Environment}

/-- Whether an instruction that was read closes a block where none is open; the end of a switch
leaves an open label before it looks. -/
def closesNothing (instruction? : Option Instruction) (o : Outline) : Bool :=
  instruction?.any fun instruction => instruction.opcode.family.marker.isStray o

/-- The states between the completed turns on a listing, with the number of instructions so far that
closed a block where none was open. -/
inductive Reached (env : Environment) (listing : Text) : Nat → Decoder → Prop
  | start {d : Decoder}
      (found : runOn findStage env { cursor := .ofText listing } = (.ok (), d)) :
      Reached env listing 0 d
  | turn {strays : Nat} {d middle reached : Decoder} {instruction? : Option Instruction}
      (earlier : Reached env listing strays d)
      (read : runOn readInstruction env d = (.ok instruction?, middle))
      (completed : runOn turn env d = (.ok (), reached)) :
      Reached env listing (strays + if closesNothing instruction? d.outline then 1 else 0) reached

/-- A completed turn has acted as the marker of the instruction that it read. -/
theorem turn_effect {d middle reached : Decoder} {instruction? : Option Instruction}
    (read : runOn readInstruction env d = (.ok instruction?, middle))
    (completed : runOn turn env d = (.ok (), reached)) :
    ∃ marker : Marker, marker.IsBraced ∧
      marker.isStray d.outline = closesNothing instruction? d.outline ∧
      marker.Effect env.config.strict d.outline reached.outline := by
  have same : middle.outline = d.outline := congrArg Context.outline (readInstruction_context read)
  have whole : runOn turn env d = _ := runOn_bind_of_ok _ _ _ _ _ _ read
  rw [completed] at whole
  cases instruction? with
  | none =>
    cases whole
    refine ⟨.none, trivial, rfl, ?_⟩
    rw [same]
    exact .refl _
  | some instruction =>
    refine ⟨instruction.opcode.family.marker, Family.marker_isBraced _, rfl, ?_⟩
    rw [← same]
    exact dispatch_effect instruction middle reached whole.symm

namespace Reached

variable {listing : Text} {strays : Nat} {d : Decoder}

theorem start_outline (found : runOn findStage env { cursor := .ofText listing } = (.ok (), d)) :
    d.outline = ⟨0, [], []⟩ := by
  rw [runOn_findStage] at found
  split at found
  · cases found
  · cases found
    rfl

theorem excess (reached : Reached env listing strays d) : d.outline.excess = -strays := by
  induction reached with
  | start found =>
    rw [start_outline found]
    rfl
  | turn earlier read completed ih =>
    obtain ⟨marker, _, stray, effect⟩ := turn_effect read completed
    rw [effect.excess, ih, stray]
    split
    · omega
    · omega

theorem strict_invariant (reached : Reached env listing strays d)
    (strict : env.config.strict = true) :
    strays = 0 ∧ d.outline.IsNested := by
  induction reached with
  | start found =>
    rw [start_outline found]
    exact ⟨rfl, rfl, .nil []⟩
  | turn earlier read completed ih =>
    obtain ⟨marker, braced, stray, effect⟩ := turn_effect read completed
    rw [strict] at effect
    refine ⟨?_, effect.isNested braced ih.2⟩
    rw [ih.1, ← stray, effect.not_stray]
    rfl

/-- A completed turn has read an instruction or passed over a token. -/
theorem next {reached : Decoder} (earlier : Reached env listing strays d)
    (completed : runOn Decoding.turn env d = (.ok (), reached)) :
    ∃ strays', Reached env listing strays' reached := by
  obtain ⟨middle, read⟩ := turn_read completed
  exact ⟨_, .turn earlier read completed⟩

theorem turnsWithin (bound : Nat) (earlier : Reached env listing strays d)
    (finished : (Decoding.turnsWithin env bound d).outcome = .ok ()) :
    ∃ strays', Reached env listing strays' (Decoding.turnsWithin env bound d).final := by
  induction bound generalizing strays d with
  | zero => exact ⟨strays, earlier⟩
  | succ bound ih =>
    unfold Decoding.turnsWithin at finished ⊢
    split at finished
    · rw [if_pos ‹_›]
      exact ⟨strays, earlier⟩
    · rw [if_neg ‹_›]
      rcases completed : runOn Decoding.turn env d with ⟨fault | _, reached⟩
      · rw [completed] at finished
        cases finished
      · rw [completed] at finished
        obtain ⟨strays', later⟩ := earlier.next completed
        exact ih later finished

end Reached

theorem finish_strict {d : Decoder} (strict : env.config.strict = true)
    (finished : (runOn finish env d).1 = .ok ()) :
    d.context.depth = 0 ∧ d.context.blocks = [] ∧
      (runOn finish env d).2.context = d.context := by
  rw [finish, runOn_bind, runOn_get] at finished ⊢
  dsimp only at finished ⊢
  split at finished
  · rw [runOn_bind, runOn_unbalanced, strict] at finished
    cases finished
  · rename_i closed
    rw [if_neg closed]
    simp only [ne_eq, Bool.or_eq_true, decide_eq_true_eq, Bool.not_eq_eq_eq_not, Bool.not_true,
      List.isEmpty_eq_false_iff, not_or, Decidable.not_not] at closed
    exact ⟨closed.1, closed.2, rfl⟩

/-- A body that is decoded to its end was decoded by turns from its stage tag on. -/
theorem decodeBody_reached {listing : Text} (strict : env.config.strict = true)
    (decoded : (decodeBody env listing).outcome = .ok ()) :
    ∃ strays d, Reached env listing strays d ∧ d.context.depth = 0 ∧ d.context.blocks = [] ∧
      (decodeBody env listing).final.context = d.context := by
  unfold decodeBody at decoded ⊢
  dsimp only at decoded ⊢
  rcases found : runOn findStage env { cursor := .ofText listing } with ⟨fault | _, d⟩
  · rw [found] at decoded
    cases decoded
  · rw [found] at decoded
    dsimp only at decoded ⊢
    rcases run : (turns env d).outcome with fault | _
    · rw [run] at decoded
      dsimp only at decoded
      rw [run] at decoded
      cases decoded
    · rw [run] at decoded
      dsimp only at decoded ⊢
      obtain ⟨strays, later⟩ := (Reached.start found).turnsWithin d.cursor.rest.length run
      obtain ⟨depth, blocks, same⟩ := finish_strict strict decoded
      exact ⟨strays, _, later, depth, blocks, same⟩

/-- The depth is the number of open blocks less the number of closing markers that found none; with
strict nesting there are no such markers, and a body decoded to its end is closed and well
bracketed. -/
theorem block_discipline (env : Environment) (listing : Text) :
    (∀ strays d, Reached env listing strays d →
      d.context.depth = d.context.blocks.length - strays ∧
        (env.config.strict = true → strays = 0)) ∧
    (env.config.strict = true → (decodeBody env listing).outcome = .ok () →
      (decodeBody env listing).final.context.depth = 0 ∧
      (decodeBody env listing).final.context.blocks = [] ∧
      ((∀ c ∈ env.config.indent, Text.isBlank c = true) →
        WellBracketed env.config.indent
          ((decodeBody env listing).final.context.statements.map
            (Statement.render env.config.indent))
          ((decodeBody env listing).final.context.statements.map Statement.body))) := by
  refine ⟨fun strays d reached => ⟨?_, fun strict => (reached.strict_invariant strict).1⟩, ?_⟩
  · have excess : d.context.depth - d.context.blocks.length = -strays := reached.excess
    omega
  · intro strict decoded
    obtain ⟨strays, d, reached, depth, blocks, same⟩ := decodeBody_reached strict decoded
    rw [same]
    refine ⟨depth, blocks, fun blank => ?_⟩
    have nested : Nested [] d.context.statements (d.context.blocks.map Block.mark) :=
      (reached.strict_invariant strict).2.2
    rw [blocks] at nested
    exact nested.wellBracketed blank

/-- A switch with an anonymous block under its first label; its second label is open at the end. -/
theorem block_discipline_switch :
    let env : Environment := { config := { strict := true } }
    let listing : Text :=
      "cs_5_0\nswitch r0.x\ncase l(0)\nimm_atomic_or r0, u0, r1, r2\nbreak\ndefault\nendswitch"
    (decodeBody env listing).outcome = .ok () ∧
      WellBracketed "    "
        ((decodeBody env listing).final.context.statements.map (Statement.render "    "))
        ((decodeBody env listing).final.context.statements.map Statement.body) := by
  intro env listing
  have decoded : (decodeBody env listing).outcome = .ok () :=
    eq_ok_of_isOk _ (by decide +kernel)
  exact ⟨decoded, ((block_discipline env listing).2 rfl decoded).2.2 (List.all_eq_true.mp rfl)⟩

end Decoding
end ShaderLift
