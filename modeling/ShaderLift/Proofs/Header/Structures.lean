import Mathlib.Data.List.Nodup
import ShaderLift.Proofs.Header.Buffers
import ShaderLift.Proofs.Shader.Lines

namespace ShaderLift

/-- The type of a plain variable. -/
def Definition.plainType? : Definition → Option Text
  | .plain type _ => some type
  | _ => none

/-- The types that plain variables are declared with. -/
def HeaderPlace.plainTypes (place : HeaderPlace) : List HeaderLine → List Text
  | [] => []
  | line :: rest =>
    (place.meets line).declares.plainType?.toList ++ (place.next line).plainTypes rest

namespace Scope

/-- Where the types of a structure's members are names of some kind, structures of these names are
there. -/
def Knows (named : Text → Prop) (structures : List Structure) (s : Structure) : Prop :=
  ∀ v ∈ s.members, named v.type → ∃ t ∈ structures, t.name = v.type

/-- Every registered structure knows its members' types from the structures in front of it, every
open one from those that are registered, and no name is registered twice. -/
structure IsOrdered (named : Text → Prop) (scope : Scope) : Prop where
  registered : ∀ front s back, scope.structures = front ++ s :: back → Knows named front s
  opened : ∀ inner ∈ scope.openStructures, Knows named scope.structures inner
  distinct : (scope.structures.map Structure.name).Nodup

variable {named : Text → Prop} {scope : Scope}

theorem Knows.mono {structures more : List Structure} {s : Structure}
    (knows : Knows named structures s) (among : structures ⊆ more) : Knows named more s := by
  intro v inside isNamed
  obtain ⟨t, listed, same⟩ := knows v inside isNamed
  exact ⟨t, among listed, same⟩

theorem Knows.concat {structures : List Structure} {s : Structure} {added : Variable}
    (knows : Knows named structures s)
    (known : named added.type → ∃ t ∈ structures, t.name = added.type) :
    Knows named structures { s with members := s.members ++ [added] } := by
  intro v inside isNamed
  rcases List.mem_append.mp inside with early | late
  · exact knows v early isNamed
  · rw [List.mem_singleton.mp late] at isNamed ⊢
    exact known isNamed

theorem findStructure?_isSome_iff (structures : List Structure) (name : Text) :
    (Declarations.findStructure? structures name).isSome = true ↔
      ∃ t ∈ structures, t.name = name := by
  simp [Declarations.findStructure?]

theorem subset_register (structures : List Structure) (added : Structure) :
    structures ⊆ register structures added := by
  unfold register
  split
  · exact List.Subset.refl structures
  · exact List.subset_append_left structures [added]

/-- Behind its registration a structure of the name is there. -/
theorem exists_mem_register (structures : List Structure) (added : Structure) :
    ∃ t ∈ register structures added, t.name = added.name := by
  unfold register
  split
  · rename_i found
    exact (findStructure?_isSome_iff structures added.name).mp found
  · exact ⟨added, List.mem_append_right structures (List.mem_singleton_self added), rfl⟩

namespace IsOrdered

variable (ordered : scope.IsOrdered named)

include ordered

theorem put {added : Variable}
    (known : named added.type → ∃ t ∈ scope.structures, t.name = added.type) :
    (scope.put added).IsOrdered named := by
  obtain ⟨section', buffers, structures, buffer, open', layout⟩ := scope
  cases open' with
  | nil => cases buffer <;> exact { ordered with }
  | cons inner outer =>
    refine { ordered with opened := ?_ }
    obtain ⟨first, others⟩ := List.forall_mem_cons.mp ordered.opened
    exact List.forall_mem_cons.mpr ⟨first.concat known, others⟩

/-- A structure that is closed knows its members' types from those closed before it. -/
theorem closeInner {inner : Structure} {outer : List Structure}
    (opened : scope.openStructures = inner :: outer) :
    IsOrdered named { scope with
      openStructures := outer, structures := register scope.structures inner } := by
  have all := ordered.opened
  rw [opened] at all
  obtain ⟨first, others⟩ := List.forall_mem_cons.mp all
  have known : ∀ s ∈ outer, Knows named (register scope.structures inner) s :=
    fun s inside => (others s inside).mono (subset_register _ _)
  by_cases found : (Declarations.findStructure? scope.structures inner.name).isSome = true
  · have same : register scope.structures inner = scope.structures := if_pos found
    rw [same] at known ⊢
    exact { ordered with opened := known }
  · have grown : register scope.structures inner = scope.structures ++ [inner] := if_neg found
    rw [grown] at known ⊢
    refine ⟨?_, known, ?_⟩
    · intro front s back split
      rcases List.eq_nil_or_concat back with rfl | ⟨init, last, rfl⟩
      · obtain ⟨same, single⟩ := List.append_inj' split rfl
        rw [← same, ← List.singleton_inj.mp single]
        exact first
      · rw [List.concat_eq_append, ← List.cons_append, ← List.append_assoc] at split
        exact ordered.registered front s init (List.append_inj' split rfl).1
    · rw [List.map_append, List.map_singleton, List.nodup_append]
      refine ⟨ordered.distinct, List.pairwise_singleton _ _, ?_⟩
      intro name listed other new same
      obtain ⟨t, inside, rfl⟩ := List.mem_map.mp listed
      rw [List.mem_singleton.mp new] at same
      exact found ((findStructure?_isSome_iff _ _).mpr ⟨t, inside, same⟩)

theorem declare {type : Text} {fields : List Text}
    (known : named type → ∃ t ∈ scope.structures, t.name = type) :
    (scope.declare type fields).IsOrdered named := ordered.put known

theorem define {declared : Definition}
    (plain : ∀ type ∈ declared.plainType?, ¬ named type) :
    (scope.define declared).IsOrdered named := by
  cases declared with
  | idle => exact ordered
  | buffer name => exact { ordered with }
  | opening structureName =>
    exact { ordered with opened := List.forall_mem_cons.mpr ⟨nofun, ordered.opened⟩ }
  | closing fields =>
    rw [Scope.define]
    cases opened : scope.openStructures with
    | nil => exact { ordered with }
    | cons inner outer =>
      have left := ordered.closeInner opened
      dsimp only
      split
      · exact left.declare fun _ => exists_mem_register scope.structures inner
      · exact left
  | plain type fields =>
    rw [Scope.define]
    split
    · exact ordered
    · exact ordered.declare fun isNamed => absurd isNamed (plain type rfl)

theorem feed {line : HeaderLine}
    (plain : ∀ type ∈ (scope.place.meets line).declares.plainType?, ¬ named type) :
    (scope.feed line).IsOrdered named := by
  cases line with
  | idle => exact ordered
  | title opened => exact { ordered with }
  | comment body =>
    have announced : IsOrdered named
        { scope with layout := (scope.place.announced (.comment body)).layout } := { ordered with }
    rw [feed_comment]
    exact announced.define plain
  | code =>
    rw [Scope.feed]
    split
    · exact { ordered with }
    · exact ordered

theorem feedAll (kept : scope.place.IsKept)
    {lines : List HeaderLine} (plain : ∀ type ∈ scope.place.plainTypes lines, ¬ named type) :
    (scope.feedAll lines).IsOrdered named := by
  induction lines generalizing scope with
  | nil => exact ordered
  | cons line rest ih =>
    have later := place_feed kept line
    rw [HeaderPlace.plainTypes, List.forall_mem_append] at plain
    apply ih (ordered.feed fun type here => plain.1 type (Option.mem_toList.mpr here))
    · rw [later]
      exact kept.next line
    · rw [later]
      exact plain.2

end IsOrdered
end Scope

namespace ShaderSource

/-- The lines that define a structure. -/
def definition (u : ShaderSource) (s : Structure) : List Text :=
  block u.config.indent ("struct " ++ s.name)
    (s.members.map fun v => v.type ++ " " ++ v.name ++ ";")

theorem spaced_append {front back : List (List Text)} (some : front ≠ []) (more : back ≠ []) :
    spaced (front ++ back) = spaced front ++ [[]] ++ spaced back := by
  induction front with
  | nil => exact absurd rfl some
  | cons group rest ih =>
    cases rest with
    | nil =>
      obtain ⟨next, others, rfl⟩ := List.exists_cons_of_ne_nil more
      rfl
    | cons next others =>
      have later := ih (List.cons_ne_nil next others)
      simp only [List.cons_append] at later ⊢
      simp only [spaced, later, List.append_assoc]

/-- The definition of a structure stands in the source above those of the structures behind it. -/
theorem render_definitions (u : ShaderSource) {front back : List Structure} {s t : Structure}
    (order : u.symbols.declared.structures = front ++ s :: back) (before : t ∈ front) :
    ∃ top between bottom, u.render =
      top ++ '\n' :: Text.join ['\n'] (u.definition t ++ between ++ u.definition s) ++
        '\n' :: bottom := by
  have among : u.structures ∈ u.middle := by simp [middle]
  have lines : u.structures = spaced (u.symbols.declared.structures.map u.definition) := rfl
  have split : u.structures = spaced (front.map u.definition) ++ [[]] ++
      spaced ((s :: back).map u.definition) := by
    rw [lines, order, List.map_append]
    exact spaced_append (List.ne_nil_of_mem (List.mem_map_of_mem before)) (by simp)
  obtain ⟨above, below, upper⟩ := mem_spaced (List.mem_map_of_mem before (f := u.definition))
  obtain ⟨rest, lower⟩ : ∃ rest, spaced ((s :: back).map u.definition) = u.definition s ++ rest := by
    cases back with
    | nil => exact ⟨[], (List.append_nil _).symm⟩
    | cons next others => exact ⟨_, List.append_assoc _ _ _⟩
  have within : u.definition t ++ (below ++ [[]]) ++ u.definition s <:+: u.structures := by
    refine ⟨above, rest, ?_⟩
    rw [split, ← upper, lower]
    simp only [List.append_assoc]
  obtain ⟨top, bottom, code⟩ := u.isInfix_render among within (by simp [definition, block])
  exact ⟨top, below ++ [[]], bottom, code⟩

end ShaderSource

/-- If no plain variable of a header has one of its structures as type, every structure comes behind
those that are types of its members, both in the order of the declarations and in the source. -/
theorem structures_defined_before_use {listing : Text} {d : Declarations}
    (scanned : (scanHeader listing).result = .ok d)
    (inline : ∀ type ∈ HeaderPlace.plainTypes {} (headerLines listing), ∀ t ∈ d.structures,
      t.name ≠ type)
    {front back : List Structure} {s t : Structure} {v : Variable}
    (order : d.structures = front ++ s :: back) (member : v ∈ s.members)
    (among : t ∈ d.structures) (typed : t.name = v.type) :
    t ∈ front ∧ ∀ u : ShaderSource, (readSymbols listing).result = .ok u.symbols →
      ∃ top between bottom, u.render =
        top ++ '\n' :: Text.join ['\n'] (u.definition t ++ between ++ u.definition s) ++
          '\n' :: bottom := by
  have known := (Scan.scanHeader_scope scanned).2
  have start : Scope.IsOrdered (fun type => ∃ t ∈ d.structures, t.name = type) {} :=
    ⟨fun front s back split => by simp at split, nofun, .nil⟩
  have plain : ∀ type ∈ HeaderPlace.plainTypes {} (headerLines listing),
      ¬ ∃ t ∈ d.structures, t.name = type := by
    rintro type listed ⟨t, found, same⟩
    exact inline type listed t found same
  have ordered := start.feedAll nofun plain
  have first : t ∈ front := by
    obtain ⟨other, inFront, same⟩ :=
      ordered.registered front s back (known.symm.trans order) v member ⟨t, among, typed⟩
    have distinct := ordered.distinct
    rw [← known] at distinct
    have listed : other ∈ d.structures := order ▸ List.mem_append_left _ inFront
    rw [List.inj_on_of_nodup_map distinct among listed (typed.trans same.symm)]
    exact inFront
  refine ⟨first, fun u read => ?_⟩
  obtain ⟨declared, scanned', _, symbols⟩ := exists_scanned_of_readSymbols read
  rw [scanned] at scanned'
  cases scanned'
  have rendered : u.symbols.declared.structures = front ++ s :: back := by
    rw [symbols]
    exact order
  exact u.render_definitions rendered first

/-- A structure with two fields of a structure that is defined twice inside. -/
def nestedHeader : Text :=
  Text.join ['\n']
    ["// Buffer Definitions:", "// cbuffer Scene", "// struct Light", "//   struct Color",
      "//     float4 tint; // Offset: 0", "//   \x7d color; // Offset: 0", "//   struct Color",
      "//     float glow; // Offset: 0", "//   \x7d other; // Offset: 16",
      "// \x7d light; // Offset: 0 Size: 32", "// \x7d"]

def colorStructure : Structure := ⟨"Color", [⟨"float4", "tint", 0, 0, .default⟩]⟩

def lightStructure : Structure :=
  ⟨"Light", [⟨"Color", "color", 0, 0, .default⟩, ⟨"Color", "other", 16, 0, .default⟩]⟩

/-- A source with the declarations of this header. -/
def nestedSource : ShaderSource := ⟨(readSymbols nestedHeader).result.toOption.getD {}, {}, {}⟩

theorem structures_defined_before_use_nested :
    (scanHeader nestedHeader).result = .ok
        { buffers := [{ name := "Scene", members := [⟨"Light", "light", 0, 32, .default⟩] }]
          structures := [colorStructure, lightStructure] } ∧
      (readSymbols nestedHeader).result = .ok nestedSource.symbols ∧
      ∃ top between bottom, nestedSource.render =
        top ++ '\n' :: Text.join ['\n'] (nestedSource.definition colorStructure ++ between ++
          nestedSource.definition lightStructure) ++ '\n' :: bottom := by
  have scanned : (scanHeader nestedHeader).result = .ok
      { buffers := [{ name := "Scene", members := [⟨"Light", "light", 0, 32, .default⟩] }]
        structures := [colorStructure, lightStructure] } := by
    apply eq_ok_of_toOption
    decide +kernel
  have read : (readSymbols nestedHeader).result = .ok nestedSource.symbols := by
    have complete : (readSymbols nestedHeader).result.toOption.isSome = true := by decide +kernel
    obtain ⟨symbols, found⟩ := Option.isSome_iff_exists.mp complete
    apply eq_ok_of_toOption
    rw [nestedSource, found, Option.getD_some]
  have order : [colorStructure, lightStructure] = [colorStructure] ++ lightStructure :: [] := rfl
  have defined := structures_defined_before_use scanned (by decide +kernel) order
    List.mem_cons_self List.mem_cons_self rfl
  exact ⟨scanned, read, defined.2 nestedSource read⟩

end ShaderLift
