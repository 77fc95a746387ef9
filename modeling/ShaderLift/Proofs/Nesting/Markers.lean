import ShaderLift.Proofs.Decoding.States
import ShaderLift.Proofs.Nesting.Grammar
import ShaderLift.Proofs.Nesting.Run

namespace ShaderLift

/-- The open blocks of a decoder other than labels. -/
def Outline.enclosing (o : Outline) : List Block := o.blocks.filter (· ≠ .label)

namespace Outline

theorem enclosing_leaveLabel (o : Outline) : o.leaveLabel.enclosing = o.enclosing := by
  unfold leaveLabel
  split
  · rename_i inner
    obtain ⟨rest, whole⟩ := List.head?_eq_some_iff.mp inner
    simp [enclosing, leave, whole]
  · rfl

theorem enclosing_beforeClosing (block : Block) (o : Outline) :
    (Marker.beforeClosing block o).enclosing = o.enclosing := by
  unfold Marker.beforeClosing
  split
  · exact enclosing_leaveLabel o
  · rfl

/-- A block that is innermost and no label is the innermost one that encloses. -/
theorem enclosing_eq_cons {o : Outline} {block : Block} (braced : block.mark = .brace)
    (inner : o.blocks.head? = some block) :
    o.enclosing = block :: (o.blocks.tail.filter (· ≠ .label)) := by
  obtain ⟨rest, whole⟩ := List.head?_eq_some_iff.mp inner
  have other : block ≠ .label := by
    rintro rfl
    cases braced
  simp [enclosing, whole, other]

end Outline

namespace Marker

variable {o reached : Outline} {marker : Marker} {opened : List OpenBlock}

theorem head?_of_map_kind {outer : List Block} {kind : Block}
    (same : opened.map OpenBlock.kind = kind :: outer) :
    ∃ divided, opened.head? = some ⟨kind, divided⟩ ∧ opened.tail.map OpenBlock.kind = outer := by
  obtain ⟨inner, rest, rfl, rfl, rfl⟩ := List.map_eq_cons_iff.mp same
  exact ⟨inner.divided, rfl, rfl⟩

theorem map_kind_alternative (opened : List OpenBlock) :
    (track opened alternative).map OpenBlock.kind = opened.map OpenBlock.kind := by
  cases opened with
  | nil => rfl
  | cons inner outer => rfl

/-- With strict nesting a marker pairs with the open blocks, and these are tracked. -/
theorem Effect.pairs (braced : marker.IsBraced) (effect : marker.Effect true o reached)
    (tracked : o.enclosing = opened.map OpenBlock.kind) :
    Pairs opened marker ∧ reached.enclosing = (marker.track opened).map OpenBlock.kind := by
  cases marker with
  | none =>
    have same : reached.enclosing = o.enclosing := by rw [Outline.enclosing, effect.2.1]; rfl
    exact ⟨trivial, same.trans tracked⟩
  | opening block =>
    obtain ⟨head, _, rfl⟩ := effect
    refine ⟨trivial, ?_⟩
    rw [Outline.enclosing_eq_cons braced rfl]
    exact congrArg (block :: ·) tracked
  | alternative =>
    by_cases branch : o.blocks.head? = some .branch
    · rw [Outline.enclosing_eq_cons rfl branch] at tracked
      obtain ⟨divided, inner, _⟩ := head?_of_map_kind tracked.symm
      refine ⟨⟨divided, inner⟩, ?_⟩
      rw [effect.1 branch, map_kind_alternative, ← tracked]
      exact Outline.enclosing_eq_cons rfl branch
    · cases (effect.2 branch).1
  | closing block =>
    obtain ⟨matching, rfl⟩ := effect
    rw [← Outline.enclosing_beforeClosing block o,
      Outline.enclosing_eq_cons braced (matching rfl)] at tracked
    obtain ⟨divided, inner, outer⟩ := head?_of_map_kind tracked.symm
    exact ⟨⟨divided, inner⟩, outer.symm⟩
  | label =>
    obtain ⟨text, _, rfl⟩ := effect
    have entered : ((o.leaveLabel.add text).enter .label).enclosing = o.leaveLabel.enclosing := by
      simp [Outline.enclosing, Outline.enter, Outline.add]
    exact ⟨trivial, entered.trans ((Outline.enclosing_leaveLabel o).trans tracked)⟩
  | exit =>
    obtain ⟨text, _, rfl⟩ := effect
    exact ⟨trivial, (Outline.enclosing_leaveLabel _).trans tracked⟩
  | innerExit =>
    refine ⟨trivial, ?_⟩
    by_cases inside : 0 < o.depth
    · obtain ⟨text, _, rfl⟩ := effect.1 inside
      exact (Outline.enclosing_leaveLabel _).trans tracked
    · rw [effect.2 inside]
      exact tracked
  | scope =>
    obtain ⟨inner, appended, rfl⟩ := effect
    have same : ((inner.shift (-1)).add "\x7d").enclosing = o.enclosing := by
      rw [Outline.enclosing, show ((inner.shift (-1)).add "\x7d").blocks = _ from appended.2.1]
      rfl
    exact ⟨trivial, same.trans tracked⟩

/-- A marker that is none of the grammar's leaves the open blocks as they are. -/
theorem track_of_not_isFlow (family : Family) (other : family.marker.isFlow = false) :
    track opened family.marker = opened := by
  cases family <;> first | rfl | cases other

end Marker

namespace Decoding

open Marker (Derives DividesOnce Everywhere LabelsSwitch Pairs derives_iff everywhere_cons
  everywhere_fits_iff everywhere_nil openBehind track_of_not_isFlow)

variable {env : Environment} {d reached : Decoder}

/-- The control-flow markers among the instructions that turns from some decoders read. -/
def flowMarkers (env : Environment) (decoders : List Decoder) : List Marker :=
  ((decoders.filterMap (instructionAt? env)).map (·.opcode.family.marker)).filter Marker.isFlow

theorem isFlow_of_mem_flowMarkers {decoders : List Decoder} :
    ∀ marker ∈ flowMarkers env decoders, marker.isFlow = true :=
  fun _ inside => (List.mem_filter.mp inside).2

/-- One turn with strict nesting: the marker that it reads, if any, pairs with the open blocks, and
what follows goes on from the blocks behind it. -/
theorem flowMarkers_cons (rest : List Decoder) {opened : List OpenBlock}
    (strict : env.config.strict = true) (completed : runOn turn env d = (.ok (), reached))
    (tracked : d.outline.enclosing = opened.map OpenBlock.kind) :
    ∃ opened', reached.outline.enclosing = opened'.map OpenBlock.kind ∧
      openBehind opened (flowMarkers env (d :: rest)) = openBehind opened' (flowMarkers env rest) ∧
      (Everywhere Pairs opened' (flowMarkers env rest) →
        Everywhere Pairs opened (flowMarkers env (d :: rest))) := by
  obtain ⟨middle, read⟩ := turn_read completed
  have same : middle.outline = d.outline := congrArg Context.outline (readInstruction_context read)
  have whole : runOn turn env d = _ := runOn_bind_of_ok _ _ _ _ _ _ read
  rw [completed] at whole
  cases found : instructionAt? env d with
  | none =>
    rw [found] at whole
    cases whole
    refine ⟨opened, ?_, ?_, ?_⟩
    · rw [same, tracked]
    · simp only [flowMarkers, List.filterMap_cons_none found]
    · simp only [flowMarkers, List.filterMap_cons_none found, imp_self]
  | some instruction =>
    rw [found] at whole
    have effect := dispatch_effect instruction middle reached whole.symm
    rw [strict, same] at effect
    obtain ⟨pairs, onward⟩ := effect.pairs (Family.marker_isBraced _) tracked
    have markers : flowMarkers env (d :: rest) =
        ([instruction.opcode.family.marker].filter Marker.isFlow) ++ flowMarkers env rest := by
      simp only [flowMarkers, List.filterMap_cons_some found, List.map_cons,
        List.filter_cons, List.filter_nil]
      split <;> rfl
    refine ⟨_, onward, ?_⟩
    rw [markers]
    cases flow : instruction.opcode.family.marker.isFlow with
    | true =>
      rw [List.filter_cons_of_pos flow, List.filter_nil, List.singleton_append]
      exact ⟨rfl, fun later => everywhere_cons.mpr ⟨pairs, later⟩⟩
    | false =>
      rw [List.filter_cons_of_neg (by simp [flow]), List.filter_nil, List.nil_append,
        track_of_not_isFlow _ flow]
      exact ⟨rfl, id⟩

/-- A run of completed turns with strict nesting: all markers pair, and the blocks behind them are
those that are open in the end. -/
theorem flowMarkers_statesFrom (strict : env.config.strict = true) (d : Decoder) :
    ∀ opened : List OpenBlock, d.outline.enclosing = opened.map OpenBlock.kind →
      (turns env d).outcome = .ok () →
      Everywhere Pairs opened (flowMarkers env (statesFrom env d)) ∧
        (turns env d).final.outline.enclosing =
          (openBehind opened (flowMarkers env (statesFrom env d))).map OpenBlock.kind := by
  induction d using turns_induction env with
  | step d ih =>
    intro opened tracked finished
    cases ended : d.cursor.atEnd with
    | true =>
      have run := turns_of_end env ended
      have none : flowMarkers env (statesFrom env d) = [] := by
        simp [run.2, flowMarkers, instructionAt?_of_end ended]
      rw [none, run.1]
      exact ⟨everywhere_nil Pairs opened, tracked⟩
    | false =>
      rcases turned : runOn turn env d with ⟨fault | _, reached⟩
      · rw [(turns_of_error ended turned).1] at finished
        cases finished
      · have run := turns_of_ok turned
        rw [run.1] at finished ⊢
        obtain ⟨opened', onward, behind, joined⟩ :=
          flowMarkers_cons (statesFrom env reached) strict turned tracked
        obtain ⟨each, closed⟩ := ih reached turned opened' onward finished
        rw [run.2, behind]
        exact ⟨joined each, closed⟩

/-- The markers of a body that strict nesting accepts pair up and leave no block open. -/
theorem pairs_of_strict {listing : Text} (strict : env.config.strict = true)
    (decoded : (decodeBody env listing).outcome = .ok ()) :
    openBehind [] (flowMarkers env (states env listing)) = [] ∧
      Everywhere Pairs [] (flowMarkers env (states env listing)) := by
  obtain ⟨d, found, finished, through, final⟩ := decodeBody_completed decoded
  obtain ⟨_, last, _, _, blocks, same⟩ := decodeBody_reached strict decoded
  have start : d.outline.enclosing = ([] : List OpenBlock).map OpenBlock.kind := by
    rw [Reached.start_outline found]
    rfl
  obtain ⟨each, closed⟩ := flowMarkers_statesFrom strict d [] start finished
  have none : (turns env d).final.outline.enclosing = [] := by
    have empty : (turns env d).final.context.blocks = [] := by rw [← final, same, blocks]
    simp [Outline.enclosing, Decoder.outline, Context.outline, empty]
  rw [through]
  rw [none] at closed
  exact ⟨List.map_eq_nil_iff.mp closed.symm, each⟩

/-- In a listing that strict nesting accepts, every block is closed by a marker of its kind and every
alternative stands in the innermost open branch. The block grammar derives its markers if and only
if, moreover, every alternative is the first one of its branch and every label stands directly in an
open switch. -/
theorem strict_markers_derived_iff (env : Environment) (listing : Text)
    (strict : env.config.strict = true) (decoded : (decodeBody env listing).outcome = .ok ()) :
    let markers := flowMarkers env (states env listing)
    (openBehind [] markers = [] ∧ Everywhere Pairs [] markers) ∧
      (Derives false markers ↔
        Everywhere DividesOnce [] markers ∧ Everywhere LabelsSwitch [] markers) := by
  intro markers
  obtain ⟨closed, pairs⟩ := pairs_of_strict strict decoded
  refine ⟨⟨closed, pairs⟩, ?_⟩
  rw [derives_iff isFlow_of_mem_flowMarkers, everywhere_fits_iff]
  exact ⟨fun fits => fits.2.2, fun fits => ⟨closed, pairs, fits⟩⟩

/-- Strict nesting, and all else as it is by default. -/
def strictly : Environment := { config := { strict := true } }

/-- A switch in a loop, with a branch and its alternative under the second label. -/
def nestedListing : Text :=
  "ps_5_0\nloop\nswitch r0.y\ncase l(0)\nbreak\ndefault\nif_z r0.z\nelse\nbreak\nendif\nendswitch\nendloop"

theorem strict_markers_derived_nested :
    (decodeBody strictly nestedListing).outcome = .ok () ∧
      Derives false (flowMarkers strictly (states strictly nestedListing)) := by
  have decoded : (decodeBody strictly nestedListing).outcome = .ok () :=
    eq_ok_of_isOk _ (by decide +kernel)
  have markers : flowMarkers strictly (states strictly nestedListing) =
      [.opening .loop, .opening .select, .label, .label, .opening .branch, .alternative,
        .closing .branch, .closing .select, .closing .loop] := by decide +kernel
  refine ⟨decoded, (strict_markers_derived_iff strictly nestedListing rfl decoded).2.mpr ?_⟩
  rw [markers]
  simp [everywhere_cons, everywhere_nil, DividesOnce, LabelsSwitch, Marker.track]

/-- A branch with two alternatives. -/
def dividedTwice : Text := "ps_5_0\nif_nz r0.x\nelse\nelse\nendif"

/-- A label without a switch, left again by the break behind it. -/
def labelAlone : Text := "ps_5_0\ncase l(0)\nbreak"

/-- Strict nesting accepts both, and the block grammar derives neither. -/
theorem strict_markers_underived :
    ((decodeBody strictly dividedTwice).outcome = .ok () ∧
      ¬Derives false (flowMarkers strictly (states strictly dividedTwice))) ∧
    ((decodeBody strictly labelAlone).outcome = .ok () ∧
      ¬Derives false (flowMarkers strictly (states strictly labelAlone))) := by
  have divided : flowMarkers strictly (states strictly dividedTwice) =
      [.opening .branch, .alternative, .alternative, .closing .branch] := by decide +kernel
  have labelled : flowMarkers strictly (states strictly labelAlone) = [.label] := by decide +kernel
  refine ⟨⟨eq_ok_of_isOk _ (by decide +kernel), ?_⟩, eq_ok_of_isOk _ (by decide +kernel), ?_⟩
  · rw [derives_iff isFlow_of_mem_flowMarkers, everywhere_fits_iff, divided]
    simp [everywhere_cons, DividesOnce, Marker.track]
  · rw [derives_iff isFlow_of_mem_flowMarkers, everywhere_fits_iff, labelled]
    simp [everywhere_cons, LabelsSwitch]

end Decoding
end ShaderLift
