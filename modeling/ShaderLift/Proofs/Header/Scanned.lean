import ShaderLift.Proofs.Header.Lines
import ShaderLift.Proofs.Nesting.Line

namespace ShaderLift

variable {listing : Text} {α : Type} {d : Declarations}

/-- A variable whose type and name are words. -/
structure Variable.IsScanned (v : Variable) : Prop where
  type : v.type.IsSolid
  name : v.name.IsSolid

/-- A structure whose name is a word, and those of its members. -/
structure Structure.IsScanned (s : Structure) : Prop where
  name : s.name.IsSolid
  members : ∀ v ∈ s.members, v.IsScanned

structure ConstantBuffer.IsScanned (buffer : ConstantBuffer) : Prop where
  name : buffer.name.IsSolid
  members : ∀ v ∈ buffer.members, v.IsScanned

structure Declarations.IsScanned (d : Declarations) : Prop where
  buffers : ∀ buffer ∈ d.buffers, buffer.IsScanned
  structures : ∀ s ∈ d.structures, s.IsScanned
  inputs : ∀ row ∈ d.inputs, row.IsScanned
  outputs : ∀ row ∈ d.outputs, row.IsScanned

namespace Scope

/-- What has been met so far is made of words, and so is what is still open. -/
structure IsScanned (scope : Scope) : Prop where
  buffers : ∀ buffer ∈ scope.buffers, buffer.IsScanned
  structures : ∀ s ∈ scope.structures, s.IsScanned
  openBuffer : ∀ buffer ∈ scope.openBuffer, buffer.IsScanned
  openStructures : ∀ s ∈ scope.openStructures, s.IsScanned

end Scope

/-- What a line of the definitions declares is made of words. -/
def Definition.IsScanned : Definition → Prop
  | .idle => True
  | .buffer name => name.IsSolid
  | .opening structureName => structureName.IsSolid
  | .closing fields => Text.AllSolid fields
  | .plain type fields => type.IsSolid ∧ Text.AllSolid fields

theorem Definition.isScanned_ofColumns {columns : List Text} (solid : Text.AllSolid columns) :
    (Definition.ofColumns columns).IsScanned := by
  unfold Definition.ofColumns
  split
  · trivial
  · rename_i first rest
    obtain ⟨here, others⟩ := List.forall_mem_cons.mp solid
    split
    · cases rest with
      | nil => trivial
      | cons name _ => exact (others name List.mem_cons_self).without '$'
    split
    · trivial
    split
    · cases rest with
      | nil => trivial
      | cons name _ => exact others name List.mem_cons_self
    split
    · exact others
    · exact ⟨here, others⟩

theorem DefinitionLine.isScanned_ofBody (body : Text) :
    (DefinitionLine.ofBody body).declares.IsScanned := by
  have solid := Text.allSolid_words (Scan.blankMarks body)
  unfold DefinitionLine.ofBody
  split
  · trivial
  split
  · trivial
  · rename_i first rest columns
    rw [columns] at solid
    split
    · exact Definition.isScanned_ofColumns solid
    · exact Definition.isScanned_ofColumns (List.forall_mem_cons.mp solid).2

namespace Scope.IsScanned

variable {scope : Scope}

theorem closeBuffer (scanned : scope.IsScanned) : scope.closeBuffer.IsScanned := by
  have met (buffer : ConstantBuffer) (inside : buffer ∈ scope.openBuffer.toList) :
      buffer.IsScanned := scanned.openBuffer buffer (Option.mem_toList.mp inside)
  refine { scanned with
    buffers := List.forall_mem_append.mpr ⟨scanned.buffers, met⟩
    openBuffer := ?_ }
  rintro _ ⟨⟩

theorem declare (scanned : scope.IsScanned) {type : Text} {fields : List Text}
    (typed : type.IsSolid) (solid : Text.AllSolid fields) :
    (scope.declare type fields).IsScanned := by
  have added : (Variable.ofFields type fields scope.layout).IsScanned :=
    ⟨typed, (solid.getD 0).trimEndOf ';'⟩
  unfold Scope.declare Scope.put
  split
  · rename_i inner outer opened
    have structures := scanned.openStructures
    rw [opened] at structures
    obtain ⟨first, others⟩ := List.forall_mem_cons.mp structures
    refine { scanned with openStructures := List.forall_mem_cons.mpr ⟨?_, others⟩ }
    exact ⟨first.name, forall_mem_concat first.members added⟩
  · rename_i buffer _ opened
    have current := scanned.openBuffer buffer opened
    refine { scanned with openBuffer := ?_ }
    rintro other ⟨⟩
    exact ⟨current.name, forall_mem_concat current.members added⟩
  · exact { scanned with }

theorem define (scanned : scope.IsScanned) {definition : Definition}
    (words : definition.IsScanned) : (scope.define definition).IsScanned := by
  cases definition with
  | idle => exact scanned
  | buffer name =>
    refine { scanned.closeBuffer with openBuffer := ?_ }
    rintro buffer ⟨⟩
    exact ⟨words, List.forall_mem_nil _⟩
  | opening structureName =>
    exact { scanned with
      openStructures := List.forall_mem_cons.mpr
        ⟨⟨words, List.forall_mem_nil _⟩, scanned.openStructures⟩ }
  | closing fields =>
    unfold Scope.define
    dsimp only
    split
    · exact scanned.closeBuffer
    · rename_i inner outer opened
      have structures := scanned.openStructures
      rw [opened] at structures
      obtain ⟨first, others⟩ := List.forall_mem_cons.mp structures
      have registered : ∀ s ∈ register scope.structures inner, s.IsScanned := by
        unfold register
        split
        · exact scanned.structures
        · exact forall_mem_concat scanned.structures first
      have left : ({ scope with
          openStructures := outer, structures := register scope.structures inner } : Scope).IsScanned :=
        { scanned with openStructures := others, structures := registered }
      split
      · exact left.declare first.name words
      · exact left
  | plain type fields =>
    unfold Scope.define
    dsimp only
    split
    · exact scanned
    · exact scanned.declare words.1 words.2

theorem feed (scanned : scope.IsScanned) (line : HeaderLine) : (scope.feed line).IsScanned := by
  cases line with
  | idle => exact scanned
  | code =>
    unfold Scope.feed
    dsimp only
    split
    · exact { scanned.closeBuffer with }
    · exact scanned
  | title opened => exact { scanned.closeBuffer with }
  | comment body =>
    unfold Scope.feed
    dsimp only
    split
    · apply define _ (DefinitionLine.isScanned_ofBody body)
      exact { scanned with }
    · exact scanned

theorem feedAll (scanned : scope.IsScanned) (lines : List HeaderLine) :
    (scope.feedAll lines).IsScanned := by
  induction lines generalizing scope with
  | nil => exact scanned
  | cons line lines ih => exact ih (scanned.feed line)

end Scope.IsScanned

/-- A header is made of words. -/
theorem isScanned_of_scanHeader (scanned : (scanHeader listing).result = .ok d) : d.IsScanned := by
  obtain ⟨⟨buffers, structures⟩, inputs, outputs⟩ := (Scan.scanHeader_ends listing).1 d scanned
  have start : Scope.IsScanned {} := by
    refine ⟨List.forall_mem_nil _, List.forall_mem_nil _, ?_, List.forall_mem_nil _⟩
    rintro _ ⟨⟩
  have met := start.feedAll (headerLines listing)
  refine ⟨?_, ?_, inputs, outputs⟩
  · rw [buffers]
    exact met.closeBuffer.buffers
  · rw [structures]
    exact met.structures

theorem eq_ok_of_toOption {outcome : Except Fault α} {value : α}
    (returned : outcome.toOption = some value) : outcome = .ok value := by
  cases outcome with
  | error fault => cases returned
  | ok other =>
    cases returned
    rfl

theorem readSymbols_of_scanHeader {room : Nat} (scanned : (scanHeader listing).result = .ok d)
    (returns : (d.resolve room).fault = none) :
    (readSymbols listing room).result =
      .ok ⟨(d.resolve room).declared, (d.resolve room).registers⟩ := by
  simp only [readSymbols, scanned, returns]

/-- The symbols of a listing come from its header, resolved to the end. -/
theorem exists_scanned_of_readSymbols {room : Nat} {symbols : Symbols}
    (read : (readSymbols listing room).result = .ok symbols) :
    ∃ d, (scanHeader listing).result = .ok d ∧ (d.resolve room).fault = none ∧
      symbols = ⟨(d.resolve room).declared, (d.resolve room).registers⟩ := by
  unfold readSymbols at read
  dsimp only at read
  split at read
  · cases read
  · rename_i d scanned
    refine ⟨d, scanned, ?_⟩
    dsimp only at read
    split at read
    · cases read
    · rename_i complete
      cases read
      exact ⟨complete, rfl⟩

end ShaderLift
