import ShaderLift.Proofs.Constant.Resolve

namespace ShaderLift

/-- What is done to the symbols of a listing before they are looked up. -/
inductive SymbolStep where
  | addResource (resource : Resource)
  | addInput (row : Signature)
  | addOutput (row : Signature)
  | addBuffer (buffer : ConstantBuffer)
  | addStructure (added : Structure)
  | addElementStructure (resource structureName : Text)
  | resolve
  deriving DecidableEq

def SymbolStep.isAddition : SymbolStep → Bool
  | resolve => false
  | _ => true

namespace Symbols

/-- The symbols behind a resolution, which may have ended early. -/
def resolve (s : Symbols) : Symbols :=
  ⟨s.declared.resolve.declared, s.declared.resolve.registers⟩

def apply (s : Symbols) : SymbolStep → Symbols
  | .addResource resource => { s with declared := s.declared.addResource resource }
  | .addInput row => { s with declared := s.declared.addInput row }
  | .addOutput row => { s with declared := s.declared.addOutput row }
  | .addBuffer buffer => { s with declared := s.declared.addBuffer buffer }
  | .addStructure added => { s with declared := s.declared.addStructure added }
  | .addElementStructure resource structureName =>
    { s with declared := s.declared.addElementStructure resource structureName }
  | .resolve => s.resolve

/-- The symbols behind some steps, when there were none in front of them. -/
def run (steps : List SymbolStep) : Symbols := steps.foldl apply {}

theorem run_append (steps : List SymbolStep) (step : SymbolStep) :
    run (steps ++ [step]) = (run steps).apply step := by
  simp only [run, List.foldl_append, List.foldl_cons, List.foldl_nil]

end Symbols

namespace Signature

/-- The row without what a resolution says about it. -/
def unranked (s : Signature) : Signature := { s with arraySize := 1, arrayIndex := 0 }

theorem countP_unranked (rows : List Signature) (semantic : Text) :
    (rows.map unranked).countP (·.semantic = semantic) = rows.countP (·.semantic = semantic) := by
  rw [List.countP_map]
  rfl

theorem rankFrom_unranked (all earlier rows : List Signature) :
    rankFrom (all.map unranked) (earlier.map unranked) (rows.map unranked) =
      rankFrom all earlier rows := by
  induction rows generalizing earlier with
  | nil => rfl
  | cons s rest ih =>
    have later := ih (earlier ++ [s])
    rw [List.map_append, List.map_singleton] at later
    have size := countP_unranked all s.unranked.semantic
    have index := countP_unranked earlier s.unranked.semantic
    rw [List.map_cons, rankFrom, rankFrom, later, size, index]
    rfl

/-- Rows are numbered by their semantics alone. -/
theorem rank_unranked (rows : List Signature) : rank (rows.map unranked) = rank rows :=
  rankFrom_unranked rows [] rows

theorem unranked_rankFrom (all earlier rows : List Signature) :
    (rankFrom all earlier rows).map unranked = rows.map unranked := by
  induction rows generalizing earlier with
  | nil => rfl
  | cons s rest ih =>
    rw [rankFrom, List.map_cons, List.map_cons, ih]
    rfl

theorem unranked_rank (rows : List Signature) : (rank rows).map unranked = rows.map unranked :=
  unranked_rankFrom rows [] rows

end Signature

namespace ConstantBuffer

/-- A buffer that has gone through resolutions at its place. Whatever bindings are listed later, it
gets the register of the buffer as it was declared. -/
structure Settled (resources : List Resource) (place : Nat) (declared settled : ConstantBuffer) :
    Prop where
  name : settled.name = declared.name
  members : settled.members = declared.members
  bind : ∀ more, settled.settledBind (resources ++ more) place =
    declared.settledBind (resources ++ more) place

variable {resources : List Resource} {place : Nat} {declared settled : ConstantBuffer}

theorem Settled.refl (resources : List Resource) (place : Nat) (buffer : ConstantBuffer) :
    buffer.Settled resources place buffer := ⟨rfl, rfl, fun _ => rfl⟩

theorem Settled.list (history : declared.Settled resources place settled) (listed : Resource) :
    declared.Settled (resources ++ [listed]) place settled := by
  refine ⟨history.name, history.members, fun more => ?_⟩
  rw [List.append_assoc]
  exact history.bind ([listed] ++ more)

theorem listedBind?_append (buffer : ConstantBuffer) (resources more : List Resource) :
    buffer.listedBind? (resources ++ more) =
      (buffer.listedBind? resources).or (buffer.listedBind? more) := by
  simp only [listedBind?, List.find?_append]
  cases resources.find? fun r => r.kind = .constantBuffer && r.name = buffer.name <;> rfl

theorem settledBind_nonneg (buffer : ConstantBuffer) (resources : List Resource) (place : Nat)
    (unlisted : buffer.listedBind? resources = none) : 0 ≤ buffer.settledBind resources place := by
  rw [settledBind, unlisted, Option.getD_none]
  split <;> omega

/-- A register that was settled early gives way to one that is listed later, and it stays when none
is listed: it is then no longer negative, and no place is guessed for it a second time. -/
theorem settledBind_bound (buffer : ConstantBuffer) (resources more : List Resource)
    (place : Nat) :
    (buffer.bound resources place).settledBind (resources ++ more) place =
      buffer.settledBind (resources ++ more) place := by
  have sameList : (buffer.bound resources place).listedBind? (resources ++ more) =
      buffer.listedBind? (resources ++ more) := rfl
  cases listed : buffer.listedBind? (resources ++ more) with
  | some bind => rw [settledBind, settledBind, sameList, listed, Option.getD_some, Option.getD_some]
  | none =>
    have unlisted : buffer.listedBind? resources = none := by
      rw [listedBind?_append] at listed
      exact (Option.or_eq_none_iff.mp listed).1
    have positive : ¬ (buffer.bound resources place).bind < 0 :=
      Int.not_lt.mpr (buffer.settledBind_nonneg resources place unlisted)
    have guessed : (buffer.bound resources place).bind =
        if buffer.bind < 0 then (place : Int) else buffer.bind := by
      rw [ConstantBuffer.bound, settledBind, unlisted, Option.getD_none]
    rw [settledBind, settledBind, sameList, listed, Option.getD_none, Option.getD_none,
      if_neg positive, guessed]

theorem Settled.bound (history : declared.Settled resources place settled) :
    declared.Settled resources place (settled.bound resources place) := by
  refine ⟨history.name, history.members, fun more => ?_⟩
  rw [settledBind_bound, history.bind]

theorem Settled.measured (history : declared.Settled resources place settled) :
    declared.Settled resources place settled.measured :=
  ⟨history.name, history.members, history.bind⟩

/-- Only the size can still tell the two buffers apart once both are bound. -/
theorem Settled.bound_eq (history : declared.Settled resources place settled) :
    settled.bound resources place =
      { declared.bound resources place with size := settled.size } := by
  have bind := history.bind []
  rw [List.append_nil] at bind
  rw [ConstantBuffer.bound, ConstantBuffer.bound, bind]
  obtain ⟨name, bind, size, members⟩ := settled
  rw [← history.name, ← history.members]

end ConstantBuffer

/-- Buffers that have gone through resolutions, the first of them at the given place. -/
inductive SettledFrom (resources : List Resource) :
    Nat → List ConstantBuffer → List ConstantBuffer → Prop
  | nil (place : Nat) : SettledFrom resources place [] []
  | cons {place : Nat} {declared settled : ConstantBuffer} {rest others : List ConstantBuffer}
      (first : declared.Settled resources place settled)
      (later : SettledFrom resources (place + 1) rest others) :
      SettledFrom resources place (declared :: rest) (settled :: others)

namespace SettledFrom

variable {resources : List Resource} {place : Nat} {declared settled : List ConstantBuffer}

theorem refl (resources : List Resource) (place : Nat) (buffers : List ConstantBuffer) :
    SettledFrom resources place buffers buffers := by
  induction buffers generalizing place with
  | nil => exact .nil place
  | cons buffer rest ih => exact .cons (.refl resources place buffer) (ih (place + 1))

variable (history : SettledFrom resources place declared settled)

include history

theorem add (added : ConstantBuffer) :
    SettledFrom resources place (declared ++ [added]) (settled ++ [added]) := by
  induction history with
  | nil place => exact refl resources place [added]
  | cons first later ih => exact .cons first ih

theorem list (listed : Resource) :
    SettledFrom (resources ++ [listed]) place declared settled := by
  induction history with
  | nil place => exact .nil place
  | cons first later ih => exact .cons (first.list listed) ih

/-- A further resolution, also one that ends early, keeps the buffers settled. -/
theorem resolve (d : Declarations)
    (same : d.resources = resources) :
    SettledFrom resources place declared (BufferResolution.ofBuffers d place settled).buffers := by
  induction history with
  | nil place => exact .nil place
  | @cons place buffer reached rest others first later ih =>
    rw [BufferResolution.ofBuffers, same]
    dsimp only
    split
    · exact .cons first.bound later
    · exact .cons first.bound.measured ih

/-- Settled buffers are resolved to what the declared ones are resolved to. -/
theorem ofBuffers (d h : Declarations)
    (sameResources : d.resources = resources ∧ h.resources = resources)
    (sameStructures : h.structures = d.structures) :
    let direct := BufferResolution.ofBuffers d place declared
    let later := BufferResolution.ofBuffers h place settled
    later.found = direct.found ∧ later.fault = direct.fault ∧
      (direct.fault = none → later.buffers = direct.buffers) := by
  induction history with
  | nil place => exact ⟨rfl, rfl, fun _ => rfl⟩
  | @cons place buffer reached rest others first _ ih =>
    obtain ⟨found, fault, buffers⟩ := ih
    have taken : (reached.bound resources place).findings h.structures =
        (buffer.bound resources place).findings d.structures := by
      rw [first.bound_eq, sameStructures]
      rfl
    have size : (reached.bound resources place).measured =
        (buffer.bound resources place).measured := by
      rw [first.bound_eq]
      rfl
    dsimp only
    rw [BufferResolution.ofBuffers, BufferResolution.ofBuffers, sameResources.1, sameResources.2,
      taken, size]
    cases failed : ((buffer.bound resources place).findings d.structures).fault with
    | some fault => simp
    | none =>
      simp only [found, fault, true_and]
      intro returns
      rw [buffers returns]

end SettledFrom

namespace Declarations

/-- The second declarations are the first ones with resolutions among the additions. -/
structure Retains (declared reached : Declarations) : Prop where
  resources : reached.resources = declared.resources
  structures : reached.structures = declared.structures
  elementStructures : reached.elementStructures = declared.elementStructures
  inputs : reached.inputs.map Signature.unranked = declared.inputs.map Signature.unranked
  outputs : reached.outputs.map Signature.unranked = declared.outputs.map Signature.unranked
  buffers : SettledFrom declared.resources 0 declared.buffers reached.buffers

namespace Retains

variable {declared reached : Declarations}

theorem refl (d : Declarations) : d.Retains d :=
  ⟨rfl, rfl, rfl, rfl, rfl, .refl d.resources 0 d.buffers⟩

variable (history : declared.Retains reached)

include history

/-- A resolution changes nothing that a later one does not settle again. -/
theorem resolve :
    declared.Retains reached.resolve.declared := by
  refine ⟨history.resources, history.structures, history.elementStructures, ?_, ?_, ?_⟩
  · exact (Signature.unranked_rank reached.inputs).trans history.inputs
  · exact (Signature.unranked_rank reached.outputs).trans history.outputs
  · rcases reached.resolve_cases callRoom with ⟨_, _, _, kept⟩ | ⟨_, _, _, resolved⟩
    · rw [kept]
      exact history.buffers
    · rw [resolved]
      exact history.buffers.resolve reached history.resources

theorem ranked :
    Signature.rank reached.inputs = Signature.rank declared.inputs ∧
      Signature.rank reached.outputs = Signature.rank declared.outputs := by
  constructor
  · rw [← Signature.rank_unranked, history.inputs, Signature.rank_unranked]
  · rw [← Signature.rank_unranked, history.outputs, Signature.rank_unranked]

/-- Both declarations are resolved to the same registers, and with the same fault if with any. The
buffers behind a fault are the only ones that can still differ. -/
theorem resolve_eq :
    reached.resolve.fault = declared.resolve.fault ∧
      reached.resolve.registers = declared.resolve.registers ∧
      (declared.resolve.fault = none → reached.resolve.declared = declared.resolve.declared) := by
  obtain ⟨inputs, outputs⟩ := history.ranked
  have textures : ResourceTables.textures reached = ResourceTables.textures declared := by
    rw [ResourceTables.textures, ResourceTables.textures, history.resources,
      history.elementStructures]
  have samplers : ResourceTables.samplers reached = ResourceTables.samplers declared := by
    rw [ResourceTables.samplers, ResourceTables.samplers, history.resources]
  have uavs : ResourceTables.uavs reached = ResourceTables.uavs declared := by
    rw [ResourceTables.uavs, ResourceTables.uavs, history.resources, history.elementStructures]
  obtain ⟨found, fault, buffers⟩ :=
    history.buffers.ofBuffers declared reached ⟨rfl, history.resources⟩ history.structures
  cases texture : (ResourceTables.textures declared).fault with
  | some fault =>
    simp [Declarations.resolve, Declarations.ranked, inputs, outputs, textures, texture]
  | none =>
    cases sampler : (ResourceTables.samplers declared).fault with
    | some fault =>
      simp [Declarations.resolve, Declarations.ranked, inputs, outputs, textures, texture, samplers,
        sampler]
    | none =>
      cases uav : (ResourceTables.uavs declared).fault with
      | some fault =>
        simp [Declarations.resolve, Declarations.ranked, inputs, outputs, textures, texture,
          samplers, sampler, uavs, uav]
      | none =>
        simpa [Declarations.resolve, Declarations.ranked, inputs, outputs, textures, texture,
          samplers, sampler, uavs, uav, found, fault, history.resources, history.structures,
          history.elementStructures] using buffers

theorem addResource (resource : Resource) :
    (declared.addResource resource).Retains (reached.addResource resource) := by
  refine ⟨?_, history.structures, history.elementStructures, history.inputs, history.outputs,
    history.buffers.list resource⟩
  rw [Declarations.addResource, Declarations.addResource, history.resources]

theorem addInput (row : Signature) :
    (declared.addInput row).Retains (reached.addInput row) := by
  refine ⟨history.resources, history.structures, history.elementStructures, ?_, history.outputs,
    history.buffers⟩
  simp only [Declarations.addInput, List.map_append, history.inputs]

theorem addOutput (row : Signature) :
    (declared.addOutput row).Retains (reached.addOutput row) := by
  refine ⟨history.resources, history.structures, history.elementStructures, history.inputs, ?_,
    history.buffers⟩
  simp only [Declarations.addOutput, List.map_append, history.outputs]

theorem addBuffer (buffer : ConstantBuffer) :
    (declared.addBuffer buffer).Retains (reached.addBuffer buffer) :=
  ⟨history.resources, history.structures, history.elementStructures, history.inputs,
    history.outputs, history.buffers.add buffer⟩

theorem addStructure (added : Structure) :
    (declared.addStructure added).Retains (reached.addStructure added) := by
  rw [Declarations.addStructure, Declarations.addStructure, history.structures]
  split
  · exact history
  · exact ⟨history.resources, rfl, history.elementStructures, history.inputs, history.outputs,
      history.buffers⟩

theorem addElementStructure (resource structureName : Text) :
    (declared.addElementStructure resource structureName).Retains
      (reached.addElementStructure resource structureName) := by
  refine ⟨history.resources, history.structures, ?_, history.inputs, history.outputs,
    history.buffers⟩
  rw [Declarations.addElementStructure, Declarations.addElementStructure,
    history.elementStructures]

end Retains
end Declarations

namespace Symbols

/-- Additions keep both sides in step, and a resolution on one side alone does no harm. -/
theorem retains_apply {direct reached : Symbols}
    (history : direct.declared.Retains reached.declared) (step : SymbolStep) :
    (if step.isAddition then direct.apply step else direct).declared.Retains
      (reached.apply step).declared := by
  cases step with
  | addResource resource => exact history.addResource resource
  | addInput row => exact history.addInput row
  | addOutput row => exact history.addOutput row
  | addBuffer buffer => exact history.addBuffer buffer
  | addStructure added => exact history.addStructure added
  | addElementStructure resource structureName =>
    exact history.addElementStructure resource structureName
  | resolve => exact history.resolve

theorem retains_foldl (steps : List SymbolStep) {direct reached : Symbols}
    (history : direct.declared.Retains reached.declared) :
    ((steps.filter SymbolStep.isAddition).foldl apply direct).declared.Retains
      (steps.foldl apply reached).declared := by
  induction steps generalizing direct reached with
  | nil => exact history
  | cons step rest ih =>
    have next := retains_apply history step
    rw [List.filter_cons, List.foldl_cons]
    split
    · rename_i adds
      rw [if_pos adds] at next
      exact ih next
    · rename_i resolves
      rw [if_neg resolves] at next
      exact ih next

theorem retains_run (steps : List SymbolStep) :
    (run (steps.filter SymbolStep.isAddition)).declared.Retains (run steps).declared :=
  retains_foldl steps (.refl _)

/-- Steps that end with a resolution lead to what their additions lead to when they are resolved
once. The resolutions in between need not have reached their ends. Where the last one does not, it
still brings up the same fault and the same registers. -/
theorem resolution_forgets_history (steps : List SymbolStep) :
    let additions := steps.filter SymbolStep.isAddition
    (run steps).declared.resolve.fault = (run additions).declared.resolve.fault ∧
      (run (steps ++ [.resolve])).registers = (run (additions ++ [.resolve])).registers ∧
      ((run additions).declared.resolve.fault = none →
        run (steps ++ [.resolve]) = run (additions ++ [.resolve]) ∧
        run (steps ++ [.resolve, .resolve]) = run (steps ++ [.resolve])) := by
  intro additions
  have once := (retains_run steps).resolve_eq
  have twice := (retains_run steps).resolve.resolve_eq
  have last (steps : List SymbolStep) : run (steps ++ [.resolve]) = (run steps).resolve :=
    run_append steps .resolve
  have again : run (steps ++ [.resolve, .resolve]) = (run steps).resolve.resolve := by
    rw [List.append_cons, last, last]
  rw [again, last, last]
  refine ⟨once.1, once.2.1, fun returns => ?_⟩
  have first : (run steps).resolve = (run additions).resolve := by
    simp only [resolve, once.2.1, once.2.2 returns]
    rfl
  have second : (run steps).resolve.resolve = (run additions).resolve := by
    simp only [resolve, twice.2.1, twice.2.2 returns]
    rfl
  exact ⟨first, second.trans first.symm⟩

def texcoord (index : Int) : Signature :=
  ⟨"TEXCOORD", index, "xy", some index, Text.ofInt index, "NONE", "float", "Texcoord", 1, 0⟩

/-- The register of a buffer is guessed by a first resolution, and then it is listed. -/
def lateListing : List SymbolStep :=
  [.addBuffer { name := "Scene", members := [⟨"float4", "color", 0, 16, .default⟩] },
    .addInput (texcoord 0), .resolve,
    .addResource ⟨"Scene", .constantBuffer, "NA", "NA", 3, "cb3", 1⟩, .addInput (texcoord 1),
    .addBuffer { name := "Unlisted" }]

theorem resolution_forgets_lateListing :
    (run (lateListing.filter SymbolStep.isAddition)).declared.resolve.fault = none ∧
      (run lateListing).declared.buffers.map ConstantBuffer.bind = [0, -1] ∧
      run (lateListing ++ [.resolve]) =
        run (lateListing.filter SymbolStep.isAddition ++ [.resolve]) ∧
      (run (lateListing ++ [.resolve])).declared.buffers.map ConstantBuffer.bind = [3, 1] ∧
      (run (lateListing ++ [.resolve])).declared.inputs.map Signature.arrayIndex = [0, 1] := by
  have returns :
      (run (lateListing.filter SymbolStep.isAddition)).declared.resolve.fault = none := by
    decide +kernel
  obtain ⟨_, _, forgets⟩ := resolution_forgets_history lateListing
  refine ⟨returns, by decide +kernel, (forgets returns).1, ?_, ?_⟩
  · decide +kernel
  · decide +kernel

end Symbols
end ShaderLift
