import ShaderLift.Register.Signature
import Mathlib.Data.List.Nodup

namespace ShaderLift

namespace Table

variable {name : Text}

variable {α : Type}

/-- The values that pairs give to a name, in order. -/
def valuesOf (pairs : List (Text × α)) (name : Text) : List α :=
  (pairs.filter (·.1 = name)).map (·.2)

/-- A table holds the values of pairs, gathered under their names. -/
structure Gathers (pairs : List (Text × α)) (table : Table (List α)) : Prop where
  names : (table.map Prod.fst).Nodup
  groups : ∀ name group, (name, group) ∈ table ↔ group = valuesOf pairs name ∧ group ≠ []

theorem valuesOf_concat_same (pairs : List (Text × α)) (name : Text) (value : α) :
    valuesOf (pairs ++ [(name, value)]) name = valuesOf pairs name ++ [value] := by
  simp [valuesOf]

theorem valuesOf_concat_other (pairs : List (Text × α)) {other : Text} (value : α)
    (apart : other ≠ name) : valuesOf (pairs ++ [(name, value)]) other = valuesOf pairs other := by
  simp [valuesOf, apart.symm]

theorem mem_valuesOf {pairs : List (Text × α)} {value : α} :
    value ∈ valuesOf pairs name ↔ (name, value) ∈ pairs := by
  simp [valuesOf]

theorem get?_eq_none_iff {table : Table α} :
    get? table name = none ↔ name ∉ table.map Prod.fst := by
  rw [get?, List.lookup_eq_none_iff]
  constructor
  · intro absent inside
    obtain ⟨entry, among, rfl⟩ := List.mem_map.mp inside
    have apart := absent entry among
    simp at apart
  · intro absent entry among
    have apart : name ≠ entry.1 := by
      rintro rfl
      exact absent (List.mem_map.mpr ⟨entry, among, rfl⟩)
    simpa using apart

namespace Gathers

variable {pairs : List (Text × α)} {table : Table (List α)}

theorem empty : Gathers ([] : List (Text × α)) [] :=
  ⟨List.nodup_nil, by simp [valuesOf]⟩

/-- One more value keeps the groups. -/
theorem addTo (gathers : Gathers pairs table) (name : Text) (value : α) :
    Gathers (pairs ++ [(name, value)]) (table.addTo name value) := by
  cases found : get? table name with
  | some old =>
    have known : (name, old) ∈ table := mem_of_get? found
    obtain ⟨old_eq, _⟩ := (gathers.groups name old).mp known
    have added : table.addTo name value =
        table.map fun entry => (entry.1, if entry.1 = name then entry.2 ++ [value] else entry.2) := by
      rw [Table.addTo, found]
      rfl
    rw [added]
    constructor
    · rw [List.map_map]
      exact gathers.names
    intro other group
    rw [List.mem_map]
    by_cases same : other = name
    · subst same
      rw [valuesOf_concat_same]
      constructor
      · rintro ⟨⟨key, values⟩, among, equal⟩
        obtain ⟨rfl, rfl⟩ := Prod.mk.inj equal
        obtain ⟨values_eq, _⟩ := (gathers.groups key values).mp among
        rw [if_pos rfl, values_eq]
        exact ⟨rfl, by simp⟩
      · rintro ⟨rfl, _⟩
        exact ⟨(other, old), known, by rw [if_pos rfl, old_eq]⟩
    · rw [valuesOf_concat_other pairs value same, ← gathers.groups]
      constructor
      · rintro ⟨⟨key, values⟩, among, equal⟩
        obtain ⟨rfl, rfl⟩ := Prod.mk.inj equal
        rw [if_neg same]
        exact among
      · intro among
        exact ⟨(other, group), among, by rw [if_neg same]⟩
  | none =>
    have fresh := get?_eq_none_iff.mp found
    have unheld : valuesOf pairs name = [] := by
      by_contra held
      have entered := (gathers.groups name _).mpr ⟨rfl, held⟩
      exact fresh (List.mem_map.mpr ⟨_, entered, rfl⟩)
    have added : table.addTo name value = table ++ [(name, [value])] := by
      rw [Table.addTo, found]
      rfl
    rw [added]
    constructor
    · rw [List.map_append, List.nodup_append]
      refine ⟨gathers.names, List.nodup_singleton name, ?_⟩
      intro key among other last equal
      rw [List.map_singleton, List.mem_singleton] at last
      rw [equal, last] at among
      exact fresh among
    intro other group
    rw [List.mem_append, List.mem_singleton, gathers.groups]
    by_cases same : other = name
    · subst same
      rw [valuesOf_concat_same, unheld, List.nil_append]
      constructor
      · rintro (⟨rfl, held⟩ | equal)
        · exact absurd rfl held
        · obtain ⟨_, rfl⟩ := Prod.mk.inj equal
          exact ⟨rfl, by simp⟩
      · rintro ⟨rfl, _⟩
        exact .inr rfl
    · rw [valuesOf_concat_other pairs value same]
      constructor
      · rintro (held | equal)
        · exact held
        · exact absurd (Prod.mk.inj equal).1 same
      · exact .inl

theorem foldl (gathers : Gathers pairs table) (more : List (Text × α)) :
    Gathers (pairs ++ more) (more.foldl (fun table pair => table.addTo pair.1 pair.2) table) := by
  induction more generalizing pairs table with
  | nil =>
    rw [List.append_nil]
    exact gathers
  | cons pair rest ih =>
    have later := ih (gathers.addTo pair.1 pair.2)
    rwa [List.append_assoc] at later

theorem get? (gathers : Gathers pairs table) (name : Text) (group : List α) :
    table.get? name = some group ↔ group = valuesOf pairs name ∧ group ≠ [] := by
  rw [← gathers.groups]
  constructor
  · exact mem_of_get?
  · intro among
    cases found : table.get? name with
    | none => exact absurd (List.mem_map.mpr ⟨_, among, rfl⟩) (get?_eq_none_iff.mp found)
    | some other =>
      have held := (gathers.groups name other).mp (mem_of_get? found)
      rw [held.1, ((gathers.groups name group).mp among).1]

end Gathers

theorem groupBy_gathers (name : α → Text) (values : List α) :
    Gathers (values.map fun value => (name value, value)) (groupBy name values) := by
  have gathered := Gathers.empty.foldl (values.map fun value => (name value, value))
  rwa [List.foldl_map] at gathered

theorem valuesOf_map (name : α → Text) (values : List α) (key : Text) :
    valuesOf (values.map fun value => (name value, value)) key =
      values.filter (name · = key) := by
  rw [valuesOf, List.filter_map, List.map_map]
  exact List.map_id _

end Table
namespace Signature

variable {rows : List Signature} {s : Signature} {semantic : Text}

/-- The first row of a row's semantic. It decides what all of them become. -/
def leader (rows : List Signature) (s : Signature) : Signature :=
  (rows.find? (·.semantic = s.semantic)).getD s

/-- Whether a row becomes a parameter of the entry point. -/
def isParameter (side : Side) (rows : List Signature) (s : Signature) : Bool :=
  side = .input && !(s.leader rows).isStructField

/-- The index behind the name of a field that several rows share. -/
def subscript (s : Signature) : Text :=
  if 1 < s.arraySize then "[" ++ Text.ofNat s.arrayIndex ++ "]" else []

/-- The field of a row and its place in it. -/
def fieldPath (s : Signature) : Text := s.fieldName ++ s.subscript

/-- The expression that a row is read by. -/
def expressionIn (side : Side) (rows : List Signature) (s : Signature) : Text :=
  if s.isParameter side rows then (s.leader rows).parameter.name
  else side.structureName ++ "." ++ s.fieldPath

/-- The rows of one semantic. -/
def sharing (rows : List Signature) (semantic : Text) : List Signature :=
  rows.filter (·.semantic = semantic)

theorem mem_sharing :
    s ∈ sharing rows semantic ↔ s ∈ rows ∧ s.semantic = semantic := by
  simp [sharing]

theorem sharing_cons_of_pos (same : s.semantic = semantic) :
    sharing (s :: rows) semantic = s :: sharing rows semantic :=
  List.filter_cons_of_pos (decide_eq_true same)

theorem sharing_cons_of_neg (other : ¬s.semantic = semantic) :
    sharing (s :: rows) semantic = sharing rows semantic :=
  List.filter_cons_of_neg (by simpa using other)

theorem leader_of_sharing {others : List Signature} {first : Signature}
    (group : sharing rows s.semantic = first :: others) : s.leader rows = first := by
  have found : rows.find? (·.semantic = s.semantic) = some first := by
    rw [← List.head?_filter]
    exact congrArg List.head? group
  rw [leader, found]
  rfl

/-- Rows that are numbered among those of their semantic. -/
def AreRanked (rows : List Signature) : Prop :=
  ∀ semantic, ∀ entry ∈ (sharing rows semantic).zipIdx,
    entry.1.arrayIndex = entry.2 ∧ entry.1.arraySize = (sharing rows semantic).length

/-- A row with its number among earlier rows of its semantic. -/
def numbered (all earlier : List Signature) (s : Signature) : Signature :=
  { s with
    arraySize := all.countP (·.semantic = s.semantic)
    arrayIndex := earlier.countP (·.semantic = s.semantic) }

/-- A row with its place among the rows of its semantic. -/
def placed (size element : Nat) (s : Signature) : Signature :=
  { s with arraySize := size, arrayIndex := element }

theorem sharing_rankFrom (all earlier rows : List Signature) (semantic : Text) :
    sharing (rankFrom all earlier rows) semantic =
      ((sharing rows semantic).zipIdx (sharing earlier semantic).length).map fun entry =>
        entry.1.placed (sharing all semantic).length entry.2 := by
  induction rows generalizing earlier with
  | nil => rfl
  | cons s rest ih =>
    have first : rankFrom all earlier (s :: rest) =
        s.numbered all earlier :: rankFrom all (earlier ++ [s]) rest := rfl
    by_cases same : s.semantic = semantic
    · have grown : (sharing (earlier ++ [s]) semantic).length =
          (sharing earlier semantic).length + 1 := by
        simp [sharing, same]
      have counted (rows : List Signature) :
          rows.countP (·.semantic = s.semantic) = (sharing rows semantic).length := by
        rw [← same]
        exact List.countP_eq_length_filter
      have here : s.numbered all earlier =
          s.placed (sharing all semantic).length (sharing earlier semantic).length := by
        rw [numbered, counted, counted, placed]
      have shared : (s.numbered all earlier).semantic = semantic := same
      rw [first, sharing_cons_of_pos shared, sharing_cons_of_pos same, ih, grown, here]
      rfl
    · have kept : sharing (earlier ++ [s]) semantic = sharing earlier semantic := by
        simp [sharing, same]
      have other : ¬(s.numbered all earlier).semantic = semantic := same
      rw [first, sharing_cons_of_neg other, sharing_cons_of_neg same, ih, kept]

/-- The rows of a semantic, numbered in the order in which they are listed. -/
theorem sharing_rank (rows : List Signature) (semantic : Text) :
    sharing (rank rows) semantic = (sharing rows semantic).zipIdx.map fun entry =>
      entry.1.placed (sharing rows semantic).length entry.2 :=
  sharing_rankFrom rows [] rows semantic

theorem areRanked_rank (rows : List Signature) : AreRanked (rank rows) := by
  rintro semantic ⟨s, index⟩ inside
  rw [List.mk_mem_zipIdx_iff_getElem?, sharing_rank, List.getElem?_map, Option.map_eq_some_iff]
    at inside
  obtain ⟨entry, at_index, rfl⟩ := inside
  rw [List.getElem?_zipIdx, Option.map_eq_some_iff] at at_index
  obtain ⟨row, _, rfl⟩ := at_index
  exact ⟨Nat.zero_add index, by simp [sharing_rank, placed]⟩

/-- The rows of a semantic go by one field name. -/
def AreNamed (rows : List Signature) : Prop :=
  ∀ s ∈ rows, s.fieldName = semanticName s.semantic

end Signature

namespace SemanticGroup

open Signature

/-- What the rows of a semantic become. -/
theorem entries_ofRows (side : Side) {rows : List Signature} (ranked : AreRanked rows)
    (named : AreNamed rows) {semantic : Text} :
    (ofRows side (sharing rows semantic)).entries =
      (sharing rows semantic).map fun row => ⟨row, row.expressionIn side rows⟩ := by
  cases group : sharing rows semantic with
  | nil => rfl
  | cons first others =>
    have inside (row : Signature) (among : row ∈ first :: others) :
        row ∈ rows ∧ row.semantic = semantic := mem_sharing.mp (group ▸ among)
    have led (row : Signature) (among : row ∈ first :: others) : row.leader rows = first := by
      apply leader_of_sharing
      rw [(inside row among).2, group]
    have size := ranked semantic
    rw [group] at size
    have field (entry : Signature × Nat) (among : entry ∈ (first :: others).zipIdx) :
        elementExpression (side.structureName ++ "." ++ first.fieldName) (first :: others).length
          entry.2 = side.structureName ++ "." ++ entry.1.fieldPath := by
      obtain ⟨index, size⟩ := size entry among
      have among := List.fst_mem_of_mem_zipIdx among
      have same : first.fieldName = entry.1.fieldName := by
        rw [named first (inside first List.mem_cons_self).1, named entry.1 (inside _ among).1,
          (inside first List.mem_cons_self).2, (inside _ among).2]
      rw [elementExpression, fieldPath, subscript, ← index, ← size, same]
      split
      · simp only [List.append_assoc]
      · simp only [List.append_assoc, List.append_nil]
    have routed (row : Signature) (among : row ∈ first :: others) :
        row.isParameter side rows = (side = .input && !first.isStructField) := by
      rw [isParameter, led row among]
    rw [ofRows]
    cases route : (side = .input && !first.isStructField : Bool) with
    | true =>
      apply List.map_congr_left
      intro row among
      rw [expressionIn, routed row among, route, led row among]
      rfl
    | false =>
      have each : (first :: others).zipIdx.map (fun entry => SignatureEntry.mk entry.1
            (elementExpression (side.structureName ++ "." ++ first.fieldName)
              (first :: others).length entry.2)) =
          (first :: others).zipIdx.map fun entry => ⟨entry.1, entry.1.expressionIn side rows⟩ := by
        apply List.map_congr_left
        intro entry among
        rw [field entry among, expressionIn, routed _ (List.fst_mem_of_mem_zipIdx among), route]
        rfl
      have whole := List.map_map (f := Prod.fst) (l := (first :: others).zipIdx)
        (g := fun row => SignatureEntry.mk row (row.expressionIn side rows))
      rw [List.zipIdx_map_fst] at whole
      exact each.trans whole.symm

end SemanticGroup
namespace SideTables

open Signature

variable {rows : List Signature}

/-- An entry stands under the name of a register. -/
def Lists (tables : SideTables) (key : Text) (entry : SignatureEntry) : Prop :=
  ∃ entries, tables.entries.get? key = some entries ∧ entry ∈ entries

theorem mem_groupBy_iff {group : List Signature} {semantic : Text} :
    (semantic, group) ∈ Table.groupBy Signature.semantic rows ↔
      group = sharing rows semantic ∧ group ≠ [] := by
  rw [(Table.groupBy_gathers Signature.semantic rows).groups, Table.valuesOf_map]
  rfl

/-- Every row is entered once for each name of its register. -/
theorem entries_gathers (side : Side) (rows : List Signature) :
    Table.Gathers
      (((Table.groupBy Signature.semantic rows).flatMap fun group =>
        (SemanticGroup.ofRows side group.2).entries).flatMap fun entry =>
          (entry.signature.keys side).map fun key => (key, entry))
      (ofRows side rows).entries := by
  have gathered := Table.Gathers.empty.foldl
    (((Table.groupBy Signature.semantic rows).flatMap fun group =>
      (SemanticGroup.ofRows side group.2).entries).flatMap fun entry =>
        (entry.signature.keys side).map fun key => (key, entry))
  rw [List.nil_append, List.foldl_flatMap] at gathered
  simp only [List.foldl_map] at gathered
  rw [ofRows]
  simp only [List.flatMap_map]
  exact gathered

/-- What stands under the names of registers: the rows, each read by its expression. -/
theorem lists_ofRows_iff (side : Side) (ranked : AreRanked rows) (named : AreNamed rows)
    (key : Text) (entry : SignatureEntry) :
    (ofRows side rows).Lists key entry ↔
      entry.signature ∈ rows ∧ key ∈ entry.signature.keys side ∧
        entry.expression = entry.signature.expressionIn side rows := by
  have gathers := entries_gathers side rows
  have grouped : (∃ group ∈ Table.groupBy Signature.semantic rows,
      entry ∈ (SemanticGroup.ofRows side group.2).entries) ↔
        entry.signature ∈ rows ∧ entry.expression = entry.signature.expressionIn side rows := by
    constructor
    · rintro ⟨⟨semantic, group⟩, among, inside⟩
      obtain ⟨rfl, _⟩ := mem_groupBy_iff.mp among
      rw [SemanticGroup.entries_ofRows side ranked named] at inside
      obtain ⟨row, shared, rfl⟩ := List.mem_map.mp inside
      exact ⟨(mem_sharing.mp shared).1, rfl⟩
    · rintro ⟨inside, expression⟩
      have shared : entry.signature ∈ sharing rows entry.signature.semantic :=
        mem_sharing.mpr ⟨inside, rfl⟩
      refine ⟨(entry.signature.semantic, _), mem_groupBy_iff.mpr ⟨rfl, List.ne_nil_of_mem shared⟩, ?_⟩
      rw [SemanticGroup.entries_ofRows side ranked named]
      exact List.mem_map.mpr ⟨_, shared, by rw [← expression]⟩
  have listed : (ofRows side rows).Lists key entry ↔
      (key, entry) ∈ ((Table.groupBy Signature.semantic rows).flatMap fun group =>
        (SemanticGroup.ofRows side group.2).entries).flatMap fun entry =>
          (entry.signature.keys side).map fun key => (key, entry) := by
    rw [← Table.mem_valuesOf]
    constructor
    · rintro ⟨entries, found, inside⟩
      rwa [((gathers.get? key entries).mp found).1] at inside
    · intro inside
      exact ⟨_, (gathers.get? key _).mpr ⟨rfl, List.ne_nil_of_mem inside⟩, inside⟩
  rw [listed]
  simp only [List.mem_flatMap, List.mem_map]
  constructor
  · rintro ⟨other, ⟨group, among, inside⟩, name, known, equal⟩
    obtain ⟨rfl, rfl⟩ := Prod.mk.inj equal
    obtain ⟨row, expression⟩ := grouped.mp ⟨group, among, inside⟩
    exact ⟨row, known, expression⟩
  · rintro ⟨row, known, expression⟩
    obtain ⟨group, among, inside⟩ := grouped.mpr ⟨row, expression⟩
    exact ⟨entry, ⟨group, among, inside⟩, key, known, rfl⟩

end SideTables
end ShaderLift
