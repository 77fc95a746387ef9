import Mathlib.Data.List.Perm.Basic
import ShaderLift.Proofs.Register.Constant
import ShaderLift.Proofs.Signature.Distinct

namespace ShaderLift

namespace Table

variable {α : Type}

theorem names_addTo_of_mem {table : Table (List α)} {name : Text}
    (known : name ∈ table.map Prod.fst) (value : α) :
    (table.addTo name value).map Prod.fst = table.map Prod.fst := by
  have found : (get? table name).isSome = true := by
    rw [Option.isSome_iff_ne_none]
    exact fun absent => get?_eq_none_iff.mp absent known
  rw [addTo, if_pos found, List.map_map]
  rfl

theorem names_addTo_of_notMem {table : Table (List α)} {name : Text}
    (fresh : name ∉ table.map Prod.fst) (value : α) :
    (table.addTo name value).map Prod.fst = table.map Prod.fst ++ [name] := by
  rw [addTo, get?_eq_none_iff.mpr fresh]
  simp

end Table

/-- The declaration of a field: its elements of a format with a number of components, its name, how
many elements it has, and the semantic of the first of them. -/
structure FieldDeclaration where
  format : Text
  components : Nat
  name : Text
  size : Nat
  semantic : Text
  index : Int
  deriving DecidableEq

namespace FieldDeclaration

/-- The array behind the name. A field of one element is no array. -/
def array (f : FieldDeclaration) : Text := if 1 < f.size then "[" ++ Text.ofNat f.size ++ "]" else ""

/-- A declaration as it is written. -/
def text (f : FieldDeclaration) : Text :=
  (if f.components = 1 then f.format else f.format ++ Text.ofNat f.components) ++ " " ++ f.name ++
    f.array ++ " : " ++ (if f.index = 0 then f.semantic else f.semantic ++ Text.ofInt f.index) ++ ";"

end FieldDeclaration

/-- A register of a side by its number. -/
def Side.register (side : Side) (n : Int) : Text := side.mark :: Text.ofInt n

/-- A register of a side by its number between brackets. -/
def Side.indexedRegister (side : Side) (n : Int) : Text := side.mark :: "[" ++ Text.ofInt n ++ "]"

namespace Signature

/-- The rows that are the first ones of their semantics. -/
def leaders (ranked : List Signature) : List Signature := ranked.filter (·.arrayIndex = 0)

/-- The field that a row becomes as the first of some rows. -/
def fieldOver (s : Signature) (size : Nat) : FieldDeclaration :=
  ⟨s.format, s.componentCount, s.fieldName, size, s.semantic, s.index⟩

/-- The field that a row becomes when it is the first of its semantic. -/
def declaration (s : Signature) : FieldDeclaration := s.fieldOver s.arraySize

/-- Rows are numbered by those of their semantic in front of them. -/
theorem getElem?_rankFrom (all earlier rows : List Signature) (place : Nat) :
    (rankFrom all earlier rows)[place]? =
      rows[place]?.map (numbered all (earlier ++ rows.take place)) := by
  induction rows generalizing earlier place with
  | nil => rfl
  | cons s rest ih =>
    cases place with
    | zero =>
      rw [List.take_zero, List.append_nil]
      rfl
    | succ place =>
      have later := ih (earlier ++ [s]) place
      rw [List.append_assoc] at later
      exact later

theorem arrayIndex_numbered_eq_zero_iff (all earlier : List Signature) (s : Signature) :
    (s.numbered all earlier).arrayIndex = 0 ↔ s.semantic ∉ earlier.map semantic := by
  simp only [numbered, List.countP_eq_zero, decide_eq_true_eq, List.mem_map, not_exists, not_and]

/-- Groups are opened by the first rows of their semantics. -/
theorem names_foldl_rankFrom (all earlier rows : List Signature) (table : Table (List Signature))
    (known : ∀ name, name ∈ table.map Prod.fst ↔ name ∈ earlier.map semantic) :
    ((rankFrom all earlier rows).foldl (fun table row => table.addTo row.semantic row) table).map
        Prod.fst =
      table.map Prod.fst ++ (leaders (rankFrom all earlier rows)).map semantic := by
  induction rows generalizing earlier table with
  | nil => exact (List.append_nil _).symm
  | cons s rest ih =>
    have first : rankFrom all earlier (s :: rest) =
        s.numbered all earlier :: rankFrom all (earlier ++ [s]) rest := rfl
    have opens := arrayIndex_numbered_eq_zero_iff all earlier s
    have semantic_eq : (s.numbered all earlier).semantic = s.semantic := rfl
    rw [first, List.foldl_cons, leaders, semantic_eq]
    by_cases old : s.semantic ∈ earlier.map semantic
    · have later : ¬(s.numbered all earlier).arrayIndex = 0 := fun zero => opens.mp zero old
      have names := Table.names_addTo_of_mem ((known s.semantic).mpr old) (s.numbered all earlier)
      rw [List.filter_cons_of_neg (by simpa using later), ih, names]
      · rfl
      intro name
      rw [names, known, List.map_append, List.mem_append]
      constructor
      · exact .inl
      · rintro (early | late)
        · exact early
        · rw [List.mem_singleton.mp late]
          exact old
    · have zero := opens.mpr old
      have names := Table.names_addTo_of_notMem (fun among => old ((known s.semantic).mp among))
        (s.numbered all earlier)
      rw [List.filter_cons_of_pos (by simpa using zero), ih, names, List.append_assoc]
      · rfl
      intro name
      rw [names, List.map_append, List.mem_append, List.mem_append, known]
      rfl

section Ranked

variable {rows : List Signature}

theorem names_groupBy (rows : List Signature) :
    (Table.groupBy semantic (rank rows)).map Prod.fst = (leaders (rank rows)).map semantic :=
  names_foldl_rankFrom rows [] rows [] fun _ => Iff.rfl

theorem nodup_leaders (rows : List Signature) : ((leaders (rank rows)).map semantic).Nodup := by
  rw [← names_groupBy]
  exact (Table.groupBy_gathers semantic (rank rows)).names

/-- Every semantic has a first row. -/
theorem semantic_mem_leaders {s : Signature} (inside : s ∈ rank rows) :
    s.semantic ∈ (leaders (rank rows)).map semantic := by
  have shared := mem_sharing.mpr ⟨inside, rfl⟩
  have group := SideTables.mem_groupBy_iff.mpr ⟨rfl, List.ne_nil_of_mem shared⟩
  rw [← names_groupBy]
  exact List.mem_map.mpr ⟨_, group, rfl⟩

/-- The groups in order, each with the rows of its semantic. -/
theorem groupBy_rank (rows : List Signature) :
    Table.groupBy semantic (rank rows) =
      (leaders (rank rows)).map fun s => (s.semantic, sharing (rank rows) s.semantic) := by
  have named : (Table.groupBy semantic (rank rows)).map
      (fun group => (group.1, sharing (rank rows) group.1)) =
        (leaders (rank rows)).map fun s => (s.semantic, sharing (rank rows) s.semantic) := by
    have names := congrArg (List.map fun name => (name, sharing (rank rows) name))
      (names_groupBy rows)
    rwa [List.map_map, List.map_map] at names
  rw [← named]
  refine ((List.map_congr_left ?_).trans (List.map_id _)).symm
  rintro ⟨name, group⟩ among
  obtain ⟨rfl, _⟩ := SideTables.mem_groupBy_iff.mp among
  rfl

theorem exists_sharing_of_leader {s : Signature} (leads : s ∈ leaders (rank rows)) :
    ∃ others, sharing (rank rows) s.semantic = s :: others := by
  obtain ⟨inside, zero⟩ := List.mem_filter.mp leads
  obtain ⟨found, _⟩ := (areRanked_rank rows).getElem? inside
  rw [of_decide_eq_true zero] at found
  exact List.head?_eq_some_iff.mp (List.head?_eq_getElem? ▸ found)

theorem leader_of_mem_leaders {s : Signature} (leads : s ∈ leaders (rank rows)) :
    s.leader (rank rows) = s := by
  obtain ⟨others, group⟩ := exists_sharing_of_leader leads
  exact leader_of_sharing group

/-- What the first row of a semantic becomes. -/
theorem ofRows_of_leader (side : Side) {s : Signature} (leads : s ∈ leaders (rank rows)) :
    (SemanticGroup.ofRows side (sharing (rank rows) s.semantic)).field =
        (if s.isParameter side (rank rows) then none else some s.declaration.text) ∧
      (SemanticGroup.ofRows side (sharing (rank rows) s.semantic)).parameter =
        if s.isParameter side (rank rows) then some s.parameter else none := by
  obtain ⟨others, group⟩ := exists_sharing_of_leader leads
  have size := ((areRanked_rank rows).getElem? (List.mem_filter.mp leads).1).2
  rw [isParameter, leader_of_mem_leaders leads, group, SemanticGroup.ofRows]
  rw [group] at size
  cases route : (side = .input && !s.isStructField : Bool) with
  | true => exact ⟨rfl, rfl⟩
  | false =>
    refine ⟨congrArg some ?_, rfl⟩
    rw [declaration, size]
    rfl

end Ranked

theorem nodup_keys (side : Side) (s : Signature) : (s.keys side).Nodup := by
  unfold keys
  cases s.register with
  | none => exact List.nodup_singleton _
  | some n =>
    rw [List.nodup_cons, List.mem_singleton]
    refine ⟨?_, List.nodup_singleton _⟩
    intro same
    apply Text.notMem_ofInt '[' (by decide) (by decide) n
    rw [(List.cons.inj same).2]
    exact List.mem_cons_self

/-- A row with a number stands under both names of its register and no others. -/
theorem mem_keys_of_register (side : Side) {s : Signature} {m : Int}
    (numbered : s.register = some m) (n : Int) :
    (side.register n ∈ s.keys side ↔ m = n) ∧ (side.indexedRegister n ∈ s.keys side ↔ m = n) := by
  have apart (k l : Int) : side.register k ≠ side.indexedRegister l := by
    intro same
    apply Text.notMem_ofInt '[' (by decide) (by decide) k
    rw [show Text.ofInt k = '[' :: (Text.ofInt l ++ "]") from (List.cons.inj same).2]
    exact List.mem_cons_self
  have keys_eq : s.keys side = [side.register m, side.indexedRegister m] := by
    rw [keys, numbered]
    rfl
  rw [keys_eq]
  simp only [List.mem_cons, List.not_mem_nil, or_false]
  constructor
  · constructor
    · rintro (same | same)
      · exact (Text.ofInt_inj (List.cons.inj same).2).symm
      · exact absurd same (apart n m)
    · rintro rfl
      exact .inl rfl
  · constructor
    · rintro (same | same)
      · exact absurd same.symm (apart m n)
      · have digits := List.append_cancel_right (List.cons.inj (List.cons.inj same).2).2
        exact (Text.ofInt_inj digits).symm
    · rintro rfl
      exact .inr rfl

/-- Rows taken semantic by semantic are the rows of these semantics. -/
theorem perm_flatMap_sharing (rows : List Signature) {names : List Text} (distinct : names.Nodup) :
    (names.flatMap (sharing rows)).Perm (rows.filter (·.semantic ∈ names)) := by
  induction names with
  | nil => simp
  | cons name rest ih =>
    obtain ⟨fresh, distinct⟩ := List.nodup_cons.mp distinct
    have parts := List.filter_append_perm (·.semantic = name)
      (rows.filter (·.semantic ∈ name :: rest))
    have here : (rows.filter (·.semantic ∈ name :: rest)).filter (·.semantic = name) =
        sharing rows name := by
      rw [List.filter_filter, sharing]
      apply List.filter_congr
      intro row _
      by_cases same : row.semantic = name <;> simp [same]
    have others : (rows.filter (·.semantic ∈ name :: rest)).filter
        (fun row => !decide (row.semantic = name)) = rows.filter (·.semantic ∈ rest) := by
      rw [List.filter_filter]
      apply List.filter_congr
      intro row _
      by_cases same : row.semantic = name
      · simp [same, fresh]
      · simp [same]
    rw [here, others] at parts
    rw [List.flatMap_cons]
    exact ((ih distinct).append_left _).trans parts

end Signature

namespace SideTables

open Signature

/-- The rows that stand under a name. -/
def listed (tables : SideTables) (key : Text) : List SignatureEntry :=
  (tables.entries.get? key).getD []

/-- The rows in the order in which they are entered. -/
def entered (side : Side) (rows : List Signature) : List SignatureEntry :=
  (Table.groupBy Signature.semantic rows).flatMap fun group =>
    (SemanticGroup.ofRows side group.2).entries

theorem valuesOf_append {α : Type} (first second : List (Text × α)) (key : Text) :
    Table.valuesOf (first ++ second) key = Table.valuesOf first key ++ Table.valuesOf second key := by
  simp [Table.valuesOf]

/-- A row is entered once under a name of its register. -/
theorem valuesOf_keys (side : Side) (entry : SignatureEntry) (key : Text) :
    Table.valuesOf ((entry.signature.keys side).map fun key => (key, entry)) key =
      if key ∈ entry.signature.keys side then [entry] else [] := by
  have once : (entry.signature.keys side).filter (· = key) =
      if key ∈ entry.signature.keys side then [key] else [] := by
    rw [List.filter_eq]
    split
    · rename_i known
      rw [List.count_eq_one_of_mem (nodup_keys side entry.signature) known]
      rfl
    · rename_i unknown
      rw [List.count_eq_zero_of_not_mem unknown]
      rfl
  have filtered : Table.valuesOf ((entry.signature.keys side).map fun key => (key, entry)) key =
      ((entry.signature.keys side).filter (· = key)).map fun _ => entry := by
    rw [Table.valuesOf, List.filter_map, List.map_map]
    rfl
  rw [filtered, once]
  split <;> rfl

theorem valuesOf_entered (side : Side) (entries : List SignatureEntry) (key : Text) :
    Table.valuesOf (entries.flatMap fun entry =>
        (entry.signature.keys side).map fun key => (key, entry)) key =
      entries.filter fun entry => key ∈ entry.signature.keys side := by
  induction entries with
  | nil => rfl
  | cons entry rest ih =>
    rw [List.flatMap_cons, valuesOf_append, valuesOf_keys, ih, List.filter_cons]
    split
    · rename_i known
      rw [if_pos (decide_eq_true known)]
      rfl
    · rename_i unknown
      rw [if_neg (by simpa using unknown)]
      rfl

/-- What stands under a name: the rows that have a register of this name. -/
theorem listed_ofRows (side : Side) (rows : List Signature) (key : Text) :
    (ofRows side rows).listed key =
      (entered side rows).filter fun entry => key ∈ entry.signature.keys side := by
  have gathers := entries_gathers side rows
  rw [← valuesOf_entered, listed]
  cases found : (ofRows side rows).entries.get? key with
  | some entries => exact ((gathers.get? key entries).mp found).1
  | none =>
    by_contra some
    have held := (gathers.get? key _).mpr ⟨rfl, Ne.symm some⟩
    rw [found] at held
    cases held

theorem signature_entries (side : Side) (group : List Signature) :
    (SemanticGroup.ofRows side group).entries.map SignatureEntry.signature = group := by
  cases group with
  | nil => rfl
  | cons first others =>
    rw [SemanticGroup.ofRows]
    split
    · rw [List.map_map]
      exact List.map_id _
    · have kept := List.zipIdx_map_fst 0 (first :: others)
      rw [List.map_map]
      exact kept

/-- Every row is entered, and none twice. -/
theorem perm_entered (side : Side) (rows : List Signature) :
    ((entered side (rank rows)).map SignatureEntry.signature).Perm (rank rows) := by
  have whole : (rank rows).filter (·.semantic ∈ (leaders (rank rows)).map semantic) = rank rows :=
    List.filter_eq_self.mpr fun row inside => decide_eq_true (semantic_mem_leaders inside)
  have taken := perm_flatMap_sharing (rank rows) (nodup_leaders rows)
  rw [whole] at taken
  have signatures : (entered side (rank rows)).map SignatureEntry.signature =
      ((leaders (rank rows)).map semantic).flatMap (sharing (rank rows)) := by
    rw [entered, groupBy_rank, List.map_flatMap, List.flatMap_map, List.flatMap_map]
    simp only [signature_entries]
  rw [signatures]
  exact taken

/-- What is picked from some of the groups is made from the first rows of their semantics. -/
theorem filterMap_groups {α : Type} (side : Side) (rows : List Signature)
    (pick : SemanticGroup → Option α) (keeps : Signature → Bool) (make : Signature → α)
    (each : ∀ s ∈ leaders (rank rows),
      pick (SemanticGroup.ofRows side (sharing (rank rows) s.semantic)) =
        if keeps s then some (make s) else none) :
    ((Table.groupBy semantic (rank rows)).map fun group =>
        SemanticGroup.ofRows side group.2).filterMap pick =
      ((leaders (rank rows)).filter keeps).map make := by
  rw [groupBy_rank, List.map_map, List.filterMap_map, ← List.filterMap_eq_map,
    List.filterMap_filter]
  exact List.filterMap_congr each

theorem fields_ofRows (side : Side) (rows : List Signature) :
    (ofRows side (rank rows)).fields =
      ((leaders (rank rows)).filter fun s => !s.isParameter side (rank rows)).map
        (·.declaration.text) := by
  apply filterMap_groups
  intro s leads
  rw [(ofRows_of_leader side leads).1]
  cases s.isParameter side (rank rows) <;> rfl

theorem parameters_ofRows (side : Side) (rows : List Signature) :
    (ofRows side (rank rows)).parameters =
      ((leaders (rank rows)).filter fun s => s.isParameter side (rank rows)).map parameter := by
  apply filterMap_groups
  intro s leads
  exact (ofRows_of_leader side leads).2

/-- The rows with numbers stand in one order under both names of a register. -/
theorem listed_register_eq (side : Side) (rows : List Signature) (n : Int) :
    ((ofRows side rows).listed (side.register n)).filter (·.signature.register.isSome) =
      ((ofRows side rows).listed (side.indexedRegister n)).filter (·.signature.register.isSome) := by
  rw [listed_ofRows, listed_ofRows, List.filter_filter, List.filter_filter]
  apply List.filter_congr
  intro entry _
  cases numbered : entry.signature.register with
  | none => rfl
  | some m =>
    obtain ⟨plain, indexed⟩ := mem_keys_of_register side numbered n
    rw [decide_eq_decide.mpr (plain.trans indexed.symm)]

/-- Where no name is taken for a numbered register, only rows with numbers stand under it. -/
theorem filter_listed_of_unnamed (side : Side) (rows : List Signature) {key : Text}
    (unnamed : ∀ row ∈ rank rows, row.register = none → row.registerName ≠ key) :
    ((ofRows side (rank rows)).listed key).filter (·.signature.register.isSome) =
      (ofRows side (rank rows)).listed key := by
  rw [listed_ofRows]
  apply List.filter_eq_self.mpr
  intro entry inside
  obtain ⟨among, known⟩ := List.mem_filter.mp inside
  have row : entry.signature ∈ rank rows :=
    (perm_entered side rows).mem_iff.mp (List.mem_map.mpr ⟨entry, among, rfl⟩)
  have known := of_decide_eq_true known
  cases numbered : entry.signature.register with
  | some m => rfl
  | none =>
    rw [keys, numbered, List.mem_singleton] at known
    exact absurd known.symm (unnamed _ row numbered)

end SideTables

open Signature in
/-- Signatures are grouped exactly. Each row is numbered by the rows of its semantic: how many there
are, and how many are listed in front of it. Each semantic has one first row, and these become the
fields, arrays if they stand for several rows, and the parameters, in the order in which they are
listed. Every row is entered once, under the names of its register. A register's two names list the
same rows with numbers in the same order, so all rows unless a row without a number goes by one of
them. -/
theorem signature_groups_exact (d : Declarations) (side : Side) :
    let rows := d.rows side
    let ranked := d.resolve.declared.rows side
    let tables := d.resolve.registers.tables side
    (∀ place, ranked[place]? = rows[place]?.map (numbered rows (rows.take place))) ∧
    ((leaders ranked).map semantic).Nodup ∧
    (∀ row ∈ ranked, row.semantic ∈ (leaders ranked).map semantic) ∧
    tables.fields = ((leaders ranked).filter fun s => !s.isParameter side ranked).map
      (·.declaration.text) ∧
    tables.parameters = ((leaders ranked).filter fun s => s.isParameter side ranked).map parameter ∧
    (∃ entries : List SignatureEntry, (entries.map SignatureEntry.signature).Perm ranked ∧
      ∀ key, tables.listed key = entries.filter fun entry => key ∈ entry.signature.keys side) ∧
    ∀ n, (tables.listed (side.register n)).filter (·.signature.register.isSome) =
        (tables.listed (side.indexedRegister n)).filter (·.signature.register.isSome) ∧
      ((∀ row ∈ ranked, row.register = none →
          row.registerName ≠ side.register n ∧ row.registerName ≠ side.indexedRegister n) →
        tables.listed (side.register n) = tables.listed (side.indexedRegister n)) := by
  dsimp only
  rw [Declarations.rows_resolve, Declarations.tables_resolve]
  refine ⟨?_, nodup_leaders _, fun row => semantic_mem_leaders, SideTables.fields_ofRows side _,
    SideTables.parameters_ofRows side _,
    ⟨_, SideTables.perm_entered side _, SideTables.listed_ofRows side _⟩, ?_⟩
  · intro place
    exact getElem?_rankFrom (d.rows side) [] (d.rows side) place
  · intro n
    have numbered := SideTables.listed_register_eq side (rank (d.rows side)) n
    refine ⟨numbered, ?_⟩
    intro unnamed
    have plain := SideTables.filter_listed_of_unnamed side (d.rows side)
      fun row inside none => (unnamed row inside none).1
    have indexed := SideTables.filter_listed_of_unnamed side (d.rows side)
      fun row inside none => (unnamed row inside none).2
    rw [← plain, ← indexed, numbered]

/-- Two rows of a semantic that share a register, a parameter between them, and a row whose register
is no number but goes by the name of a numbered one. -/
def namedRegisterListing : Text := Text.join ['\n']
  ["// Input signature:",
    "// TEXCOORD         0   xy     1     NONE   float   xy",
    "// SV_VertexID      0   x      2   VERTID    uint   x",
    "// TEXCOORD         1     zw   1     NONE   float     zw",
    "// COLOR            0   xyzw  v1     NONE   float   xyzw", ""]

def namedRegisterDeclarations : Declarations :=
  { inputs :=
      [⟨"TEXCOORD", 0, "xy", some 1, "1", "NONE", "float", "Texcoord", 1, 0⟩,
        ⟨"SV_VertexID", 0, "x", some 2, "2", "VERTID", "uint", "Vertexid", 1, 0⟩,
        ⟨"TEXCOORD", 1, "zw", some 1, "1", "NONE", "float", "Texcoord", 1, 0⟩,
        ⟨"COLOR", 0, "xyzw", none, "v1", "NONE", "float", "Color", 1, 0⟩] }

def namedRegisterSymbols : Symbols :=
  ⟨namedRegisterDeclarations.resolve.declared, namedRegisterDeclarations.resolve.registers⟩

/-- The two names of a register list different rows, since one of them is a register of its own. -/
theorem register_names_differ :
    ∃ symbols, (readSymbols namedRegisterListing).result = .ok symbols ∧
      (symbols.registers.inputs.listed (Side.input.register 1)).map SignatureEntry.expression =
        (["input.Texcoord[0]", "input.Texcoord[1]", "input.Color"] : List Text) ∧
      (symbols.registers.inputs.listed (Side.input.indexedRegister 1)).map
          SignatureEntry.expression =
        (["input.Texcoord[0]", "input.Texcoord[1]"] : List Text) := by
  refine ⟨namedRegisterSymbols, ?_, by decide +kernel, by decide +kernel⟩
  apply readSymbols_of_scanHeader (d := namedRegisterDeclarations)
  · apply eq_ok_of_toOption
    decide +kernel
  · decide +kernel

/-- The rows of the texture coordinates become one array. Register two lists its row under both names,
and register one does so with its rows that have a number. -/
theorem signature_groups_exact_named :
    namedRegisterSymbols.registers.inputs.fields =
      (["float2 Texcoord[2] : TEXCOORD;", "float4 Color : COLOR;"] : List Text) ∧
    namedRegisterSymbols.registers.inputs.parameters.map Parameter.declaration =
      (["uint vertexId : SV_VertexID"] : List Text) ∧
    namedRegisterSymbols.registers.inputs.listed (Side.input.register 2) =
      namedRegisterSymbols.registers.inputs.listed (Side.input.indexedRegister 2) ∧
    (namedRegisterSymbols.registers.inputs.listed (Side.input.register 1)).filter
        (·.signature.register.isSome) =
      (namedRegisterSymbols.registers.inputs.listed (Side.input.indexedRegister 1)).filter
        (·.signature.register.isSome) := by
  obtain ⟨_, _, _, fields, parameters, _, registers⟩ :=
    signature_groups_exact namedRegisterDeclarations .input
  refine ⟨fields.trans (by decide +kernel), ?_, (registers 2).2 (by decide +kernel),
    (registers 1).1⟩
  exact (congrArg (List.map Parameter.declaration) parameters).trans (by decide +kernel)

end ShaderLift
