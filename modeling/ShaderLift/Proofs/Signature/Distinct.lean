import Mathlib.Data.List.Pairwise
import ShaderLift.Proofs.Header.Scanned
import ShaderLift.Proofs.Register.Selector
import ShaderLift.Proofs.Signature.Group
import ShaderLift.Proofs.Text.LetterCase

namespace ShaderLift

variable {name tail : Text}

/-- The rows of one side. -/
def Declarations.rows (d : Declarations) : Side → List Signature
  | .input => d.inputs
  | .output => d.outputs

/-- The register tables of one side. -/
def Registers.tables (r : Registers) : Side → SideTables
  | .input => r.inputs
  | .output => r.outputs

namespace Signature

variable {s a b : Signature}

/-- Two rows are read by one expression: both become parameters of one name, or they are elements of
fields that different semantics have. -/
def Collide (side : Side) (rows : List Signature) (a b : Signature) : Prop :=
  (a.isParameter side rows = true ∧ b.isParameter side rows = true ∧
    (a.leader rows).parameter.name = (b.leader rows).parameter.name) ∨
  (a.isParameter side rows = false ∧ b.isParameter side rows = false ∧
    a.semantic ≠ b.semantic ∧ a.fieldPath = b.fieldPath)

instance (side : Side) (rows : List Signature) (a b : Signature) :
    Decidable (Collide side rows a b) := inferInstanceAs (Decidable (_ ∨ _))

/-- The name that a row's field is declared with, without the array behind it. -/
def stem (s : Signature) : Text := s.fieldName.takeWhile (· != '[')

variable {rows : List Signature} {side : Side}

theorem leader_mem (inside : s ∈ rows) : s.leader rows ∈ rows := by
  unfold leader
  cases found : rows.find? (·.semantic = s.semantic) with
  | none => exact inside
  | some first => exact List.mem_of_find?_eq_some found

theorem AreRanked.getElem? (ranked : AreRanked rows) (inside : s ∈ rows) :
    (sharing rows s.semantic)[s.arrayIndex]? = some s ∧
      s.arraySize = (sharing rows s.semantic).length := by
  obtain ⟨place, found⟩ := List.mem_iff_getElem?.mp (mem_sharing.mpr ⟨inside, rfl⟩)
  have listed : (s, place) ∈ (sharing rows s.semantic).zipIdx := List.mem_zipIdx_iff_getElem?.mpr found
  obtain ⟨index, size⟩ := ranked s.semantic _ listed
  exact ⟨index ▸ found, size⟩

/-- Rows of one semantic are different elements of their field. -/
theorem AreRanked.eq_of_fieldPath (ranked : AreRanked rows) (left : a ∈ rows) (right : b ∈ rows)
    (semantic : a.semantic = b.semantic) (name : a.fieldName = b.fieldName)
    (path : a.fieldPath = b.fieldPath) : a = b := by
  obtain ⟨first, size⟩ := ranked.getElem? left
  obtain ⟨second, size'⟩ := ranked.getElem? right
  rw [← semantic] at second size'
  have index : a.arrayIndex = b.arrayIndex := by
    by_cases several : 1 < (sharing rows a.semantic).length
    · have subscripts : a.subscript = b.subscript := by
        rw [fieldPath, fieldPath, name] at path
        exact List.append_cancel_left path
      rw [subscript, subscript, size, size', if_pos several, if_pos several] at subscripts
      have digits := List.append_cancel_right subscripts
      exact Text.ofNat_inj _ _ (List.append_cancel_left digits)
    · have low := List.getElem?_eq_some_iff.mp first
      have low' := List.getElem?_eq_some_iff.mp second
      obtain ⟨less, _⟩ := low
      obtain ⟨less', _⟩ := low'
      omega
  rw [index, second] at first
  exact (Option.some.inj first).symm

theorem parameter_name_ne (named : AreNamed rows) (inside : s ∈ rows) (path : Text) :
    s.parameter.name ≠ "input." ++ path := by
  unfold parameter Parameter.ofSystemValue?
  split
  · exact fun same => absurd (List.cons.inj same).1 (by decide)
  · split
    · intro same
      have second := (List.cons.inj (List.cons.inj same).2).2
      exact absurd (List.cons.inj second).1 (by decide)
    · intro same
      have start := Text.head?_semanticName s.semantic
      rw [← named s inside] at start
      exact start (congrArg List.head? same)

theorem expressionIn_parameter (routed : s.isParameter side rows = true) :
    s.expressionIn side rows = (s.leader rows).parameter.name := if_pos routed

theorem expressionIn_field (routed : s.isParameter side rows = false) :
    s.expressionIn side rows = side.structureName ++ "." ++ s.fieldPath := by
  rw [expressionIn, routed]
  rfl

/-- A parameter is read by no expression that reads a field. -/
theorem expressionIn_ne (named : AreNamed rows) (left : a ∈ rows)
    (one : a.isParameter side rows = true) (other : b.isParameter side rows = false) :
    a.expressionIn side rows ≠ b.expressionIn side rows := by
  have input : side = .input := by
    unfold isParameter at one
    simp only [Bool.and_eq_true, decide_eq_true_eq] at one
    exact one.1
  rw [expressionIn_parameter one, expressionIn_field other, input]
  exact parameter_name_ne named (leader_mem left) b.fieldPath

/-- Rows with different semantics or indices are read by one expression exactly if they collide. -/
theorem expressionIn_eq_iff (ranked : AreRanked rows) (named : AreNamed rows) (left : a ∈ rows)
    (right : b ∈ rows) (apart : (a.semantic, a.index) ≠ (b.semantic, b.index)) :
    a.expressionIn side rows = b.expressionIn side rows ↔ Collide side rows a b := by
  unfold Collide
  cases one : a.isParameter side rows with
  | true =>
    cases other : b.isParameter side rows with
    | true =>
      rw [expressionIn_parameter one, expressionIn_parameter other]
      simp
    | false =>
      have never := expressionIn_ne named left one other
      simp [never]
  | false =>
    cases other : b.isParameter side rows with
    | true =>
      have never := (expressionIn_ne named right other one).symm
      simp [never]
    | false =>
      have different (path : a.fieldPath = b.fieldPath) : a.semantic ≠ b.semantic := by
        intro semantic
        have name : a.fieldName = b.fieldName := by
          rw [named a left, named b right, semantic]
        have same := ranked.eq_of_fieldPath left right semantic name path
        rw [same] at apart
        exact apart rfl
      rw [expressionIn_field one, expressionIn_field other]
      constructor
      · intro same
        have path := List.append_cancel_left same
        exact .inr ⟨rfl, rfl, different path, path⟩
      · rintro (⟨impossible, _⟩ | ⟨_, _, _, path⟩)
        · cases impossible
        · rw [path]

end Signature
/-- The name that a field line declares: what stands behind its type, up to a blank or an array. -/
def declaredName (field : Text) : Text :=
  ((field.dropWhile (· != ' ')).drop 1).takeWhile fun c => c != ' ' && c != '['

theorem takeWhile_name (solid : ' ' ∉ name)
    (stops : tail.head? = some ' ' ∨ tail.head? = some '[') :
    (name ++ tail).takeWhile (fun c => c != ' ' && c != '[') = name.takeWhile (· != '[') := by
  induction name with
  | nil =>
    cases tail with
    | nil => rfl
    | cons c rest => rcases stops with blank | bracket <;> simp_all
  | cons c rest ih =>
    have other : c ≠ ' ' := fun same => solid (same ▸ List.mem_cons_self)
    have later := ih fun inside => solid (List.mem_cons_of_mem c inside)
    by_cases bracket : c = '['
    · simp [bracket]
    · simp [other, bracket, later]

theorem declaredName_field {type : Text} (one : ' ' ∉ type) (two : ' ' ∉ name)
    (stops : tail.head? = some ' ' ∨ tail.head? = some '[') :
    declaredName (type ++ " " ++ (name ++ tail)) = name.takeWhile (· != '[') := by
  have behind : (type ++ " " ++ (name ++ tail)).dropWhile (· != ' ') = ' ' :: (name ++ tail) := by
    have passed : ∀ c ∈ type, (c != ' ') = true := by
      intro c inside
      have other : c ≠ ' ' := fun same => one (same ▸ inside)
      simpa using other
    rw [List.append_assoc, List.dropWhile_append_of_pos passed]
    rfl
  rw [declaredName, behind]
  exact takeWhile_name two stops

theorem Signature.IsScanned.blank_notMem_typeName {s : Signature} (scanned : s.IsScanned) :
    ' ' ∉ s.typeName := by
  have format : ' ' ∉ s.format := by
    intro inside
    cases scanned.format ' ' inside
  unfold Signature.typeName
  split
  · exact format
  · rw [List.mem_append, not_or]
    exact ⟨format, fun inside => absurd (Text.isDigit_ofNat _ _ inside) (by decide)⟩

namespace SideTables

open Signature

variable {rows : List Signature}

/-- The field that the rows of a semantic become, by its declared name. -/
theorem declaredName_ofRows (side : Side) (scanned : ∀ row ∈ rows, row.IsScanned) {s : Signature}
    (inside : s ∈ rows) :
    (SemanticGroup.ofRows side (sharing rows s.semantic)).field.map declaredName =
      if s.isParameter side rows then none else some s.stem := by
  cases group : sharing rows s.semantic with
  | nil =>
    have shared := mem_sharing.mpr ⟨inside, rfl⟩
    rw [group] at shared
    cases shared
  | cons first others =>
    have led := leader_of_sharing group
    obtain ⟨among, same⟩ : first ∈ rows ∧ first.semantic = s.semantic :=
      mem_sharing.mp (group ▸ List.mem_cons_self)
    have row := scanned first among
    have name : first.fieldName = s.fieldName := by
      rw [row.fieldName, (scanned s inside).fieldName, same]
    rw [isParameter, led, SemanticGroup.ofRows]
    cases route : (side = .input && !first.isStructField : Bool) with
    | true => rfl
    | false =>
      have type := row.blank_notMem_typeName
      have plain : ' ' ∉ first.fieldName := by
        rw [row.fieldName]
        exact Text.blank_notMem_semanticName row.semantic
      have line (array : Text) (stops : array = [] ∨ array.head? = some '[') :
          declaredName (first.typeName ++ " " ++ first.fieldName ++ array ++ " : " ++
            first.semanticText ++ ";") = s.stem := by
        have parts : first.typeName ++ " " ++ first.fieldName ++ array ++ " : " ++
            first.semanticText ++ ";" = first.typeName ++ " " ++
              (first.fieldName ++ (array ++ (" : " ++ first.semanticText ++ ";"))) := by
          simp only [List.append_assoc]
        rw [parts, stem, ← name]
        apply declaredName_field type plain
        rcases stops with rfl | bracket
        · exact .inl rfl
        · cases array with
          | nil => cases bracket
          | cons c rest => exact .inr bracket
      refine congrArg some (line _ ?_)
      split
      · exact .inr rfl
      · exact .inl rfl

/-- Fields are declared with different names exactly if different semantics have different stems. -/
theorem nodup_declaredName_iff (side : Side) (scanned : ∀ row ∈ rows, row.IsScanned) :
    ((ofRows side rows).fields.map declaredName).Nodup ↔
      ∀ a ∈ rows, ∀ b ∈ rows, a.isParameter side rows = false → b.isParameter side rows = false →
        a.semantic ≠ b.semantic → a.stem ≠ b.stem := by
  have names := (Table.groupBy_gathers Signature.semantic rows).names
  have listed : (ofRows side rows).fields.map declaredName =
      (Table.groupBy Signature.semantic rows).filterMap fun group =>
        (SemanticGroup.ofRows side group.2).field.map declaredName := by
    rw [ofRows]
    simp only [List.map_filterMap, List.filterMap_map]
    rfl
  have group {s : Signature} (inside : s ∈ rows) :
      (s.semantic, sharing rows s.semantic) ∈ Table.groupBy Signature.semantic rows :=
    mem_groupBy_iff.mpr ⟨rfl, List.ne_nil_of_mem (mem_sharing.mpr ⟨inside, rfl⟩)⟩
  have field {s : Signature} (inside : s ∈ rows) (routed : s.isParameter side rows = false) :
      (SemanticGroup.ofRows side (sharing rows s.semantic)).field.map declaredName = some s.stem := by
    rw [declaredName_ofRows side scanned inside, routed]
    rfl
  rw [listed, List.Nodup, List.pairwise_filterMap]
  constructor
  · intro apart a left b right one other different
    have symmetric : Std.Symm fun group group' : Text × List Signature => ∀ name,
        (SemanticGroup.ofRows side group.2).field.map declaredName = some name → ∀ name',
          (SemanticGroup.ofRows side group'.2).field.map declaredName = some name' → name ≠ name' :=
      ⟨fun _ _ apart name found name' found' same => apart name' found' name found same.symm⟩
    exact apart.forall (group left) (group right) (fun same => different (Prod.mk.inj same).1)
      _ (field left one) _ (field right other)
  · intro apart
    apply (names.of_map _).pairwise_of_forall_ne
    rintro ⟨semantic, shared⟩ among ⟨semantic', shared'⟩ among' different name found name' found'
    obtain ⟨rfl, some⟩ := mem_groupBy_iff.mp among
    obtain ⟨rfl, some'⟩ := mem_groupBy_iff.mp among'
    obtain ⟨a, first⟩ := List.exists_mem_of_ne_nil _ some
    obtain ⟨b, second⟩ := List.exists_mem_of_ne_nil _ some'
    obtain ⟨left, rfl⟩ := mem_sharing.mp first
    obtain ⟨right, rfl⟩ := mem_sharing.mp second
    rw [declaredName_ofRows side scanned left, Option.ite_none_left_eq_some] at found
    rw [declaredName_ofRows side scanned right, Option.ite_none_left_eq_some] at found'
    rw [← Option.some.inj found.2, ← Option.some.inj found'.2]
    apply apart a left b right (by simpa using found.1) (by simpa using found'.1)
    intro same
    exact different (by rw [same])

end SideTables
namespace Declarations

open Signature

theorem rows_resolve (d : Declarations) (side : Side) :
    d.resolve.declared.rows side = rank (d.rows side) := by
  cases side <;> rfl

theorem tables_resolve (d : Declarations) (side : Side) :
    d.resolve.registers.tables side = .ofRows side (rank (d.rows side)) := by
  cases side <;> rfl

end Declarations

theorem Signature.isScanned_rankFrom (all earlier : List Signature) {rows : List Signature}
    (scanned : ∀ row ∈ rows, row.IsScanned) : ∀ row ∈ rankFrom all earlier rows, row.IsScanned := by
  induction rows generalizing earlier with
  | nil => exact nofun
  | cons s rest ih =>
    rw [List.forall_mem_cons] at scanned
    rw [rankFrom, List.forall_mem_cons]
    exact ⟨⟨scanned.1.semantic, scanned.1.format, scanned.1.fieldName⟩, ih _ scanned.2⟩

theorem Declarations.IsScanned.rows {d : Declarations} (scanned : d.IsScanned) (side : Side) :
    ∀ row ∈ d.rows side, row.IsScanned := by
  cases side with
  | input => exact scanned.inputs
  | output => exact scanned.outputs

/-- What keeps the rows of a signature apart. Every row is listed under the names of its register,
and nothing else is. Rows with different semantics or indices are read by one expression exactly if
they collide, and two fields are declared with one name exactly if different semantics have one
stem. -/
theorem rows_apart_iff {listing : Text} {symbols : Symbols}
    (read : (readSymbols listing).result = .ok symbols) (side : Side) :
    (∀ key row, (∃ expression, (symbols.registers.tables side).Lists key ⟨row, expression⟩) ↔
      row ∈ symbols.declared.rows side ∧ key ∈ row.keys side) ∧
    (∀ key key' entry entry', (symbols.registers.tables side).Lists key entry →
      (symbols.registers.tables side).Lists key' entry' →
      (entry.signature.semantic, entry.signature.index) ≠
        (entry'.signature.semantic, entry'.signature.index) →
      (entry.expression = entry'.expression ↔
        Signature.Collide side (symbols.declared.rows side) entry.signature entry'.signature)) ∧
    (((symbols.registers.tables side).fields.map declaredName).Nodup ↔
      ∀ a ∈ symbols.declared.rows side, ∀ b ∈ symbols.declared.rows side,
        a.isParameter side (symbols.declared.rows side) = false →
        b.isParameter side (symbols.declared.rows side) = false →
        a.semantic ≠ b.semantic → a.stem ≠ b.stem) := by
  obtain ⟨d, scannedHeader, returns, rfl⟩ := exists_scanned_of_readSymbols read
  have scanned := Signature.isScanned_rankFrom (d.rows side) []
    ((isScanned_of_scanHeader scannedHeader).rows side)
  have ranked := Signature.areRanked_rank (d.rows side)
  have named : Signature.AreNamed (Signature.rank (d.rows side)) :=
    fun row inside => (scanned row inside).fieldName
  have lists := SideTables.lists_ofRows_iff side ranked named
  dsimp only
  rw [Declarations.rows_resolve, Declarations.tables_resolve]
  refine ⟨?_, ?_, SideTables.nodup_declaredName_iff side scanned⟩
  · intro key row
    simp only [lists]
    constructor
    · rintro ⟨_, inside, known, _⟩
      exact ⟨inside, known⟩
    · rintro ⟨inside, known⟩
      exact ⟨_, inside, known, rfl⟩
  · intro key key' entry entry' listed listed' apart
    obtain ⟨inside, _, expression⟩ := (lists key entry).mp listed
    obtain ⟨inside', _, expression'⟩ := (lists key' entry').mp listed'
    rw [expression, expression']
    exact Signature.expressionIn_eq_iff ranked named inside inside' apart

/-- Inputs that go by one name, as fields and as a parameter, and two that do not. -/
def aliasListing : Text := Text.join ['\n']
  ["// Input signature:",
    "// SV_POSITION      0   xyzw   0      POS   float   xyzw",
    "// POSITION         0   xyz    1     NONE   float   xyz",
    "// SV_ClipDistance  0   xyzw   2  CLIPDST   float   xyzw",
    "// SV_ClipDistance  1   xyzw   3  CLIPDST   float   xyzw",
    "// TEXCOORD         0   xy     4     NONE   float   xy",
    "// TEXCOORD         1   xy     5     NONE   float   xy", ""]

def aliasDeclarations : Declarations :=
  { inputs :=
      [⟨"SV_POSITION", 0, "xyzw", some 0, "0", "POS", "float", "Position", 1, 0⟩,
        ⟨"POSITION", 0, "xyz", some 1, "1", "NONE", "float", "Position", 1, 0⟩,
        ⟨"SV_ClipDistance", 0, "xyzw", some 2, "2", "CLIPDST", "float", "Clipdistance", 1, 0⟩,
        ⟨"SV_ClipDistance", 1, "xyzw", some 3, "3", "CLIPDST", "float", "Clipdistance", 1, 0⟩,
        ⟨"TEXCOORD", 0, "xy", some 4, "4", "NONE", "float", "Texcoord", 1, 0⟩,
        ⟨"TEXCOORD", 1, "xy", some 5, "5", "NONE", "float", "Texcoord", 1, 0⟩] }

def aliasSymbols : Symbols :=
  ⟨aliasDeclarations.resolve.declared, aliasDeclarations.resolve.registers⟩

theorem readSymbols_aliasListing : (readSymbols aliasListing).result = .ok aliasSymbols := by
  apply readSymbols_of_scanHeader (d := aliasDeclarations)
  · apply eq_ok_of_toOption
    decide +kernel
  · decide +kernel

theorem SideTables.exists_lists {tables : SideTables} {key expression : Text}
    (found : (tables.entries.get? key).map (·.map SignatureEntry.expression) = some [expression]) :
    ∃ entry, tables.Lists key entry ∧ entry.expression = expression := by
  obtain ⟨entries, listed, read⟩ := Option.map_eq_some_iff.mp found
  obtain ⟨entry, rfl, same⟩ := List.map_eq_singleton_iff.mp read
  exact ⟨entry, ⟨[entry], listed, List.mem_singleton.mpr rfl⟩, same⟩

/-- No two rows share semantic and index, and still two positions are read by one expression, two clip
distances by one parameter, and one field name is declared twice. -/
theorem rows_alias :
    ∃ symbols, (readSymbols aliasListing).result = .ok symbols ∧
      (symbols.declared.inputs.map fun row => (row.semantic, row.index)).Nodup ∧
      (∃ entry, symbols.registers.inputs.Lists "v0" entry ∧ entry.expression = "input.Position") ∧
      (∃ entry, symbols.registers.inputs.Lists "v1" entry ∧ entry.expression = "input.Position") ∧
      (∃ entry, symbols.registers.inputs.Lists "v2" entry ∧ entry.expression = "Clipdistance") ∧
      (∃ entry, symbols.registers.inputs.Lists "v3" entry ∧ entry.expression = "Clipdistance") ∧
      ¬(symbols.registers.inputs.fields.map declaredName).Nodup := by
  refine ⟨aliasSymbols, readSymbols_aliasListing, by decide +kernel, ?_, ?_, ?_, ?_,
    by decide +kernel⟩
  · exact SideTables.exists_lists (by decide +kernel)
  · exact SideTables.exists_lists (by decide +kernel)
  · exact SideTables.exists_lists (by decide +kernel)
  · exact SideTables.exists_lists (by decide +kernel)

/-- The rows of the texture coordinates stay apart from each other; of the positions, one is read as
the other, and their field is declared twice. -/
theorem rows_apart_aliasListing :
    (∀ key row, (∃ expression, aliasSymbols.registers.inputs.Lists key ⟨row, expression⟩) ↔
      row ∈ aliasSymbols.declared.inputs ∧ key ∈ row.keys .input) ∧
    (∀ entry entry', aliasSymbols.registers.inputs.Lists "v4" entry →
      aliasSymbols.registers.inputs.Lists "v5" entry' → entry.expression ≠ entry'.expression) ∧
    (∀ entry entry', aliasSymbols.registers.inputs.Lists "v0" entry →
      aliasSymbols.registers.inputs.Lists "v1" entry' → entry.expression = entry'.expression) ∧
    ¬(aliasSymbols.registers.inputs.fields.map declaredName).Nodup := by
  obtain ⟨lists, apart, fields⟩ := rows_apart_iff readSymbols_aliasListing .input
  refine ⟨lists, ?_, ?_, ?_⟩
  · rintro entry entry' ⟨entries, found, inside⟩ ⟨entries', found', inside'⟩ same
    have differ : ∀ entries ∈ aliasSymbols.registers.inputs.entries.get? "v4",
        ∀ entries' ∈ aliasSymbols.registers.inputs.entries.get? "v5",
          ∀ entry ∈ entries, ∀ entry' ∈ entries',
            (entry.signature.semantic, entry.signature.index) ≠
              (entry'.signature.semantic, entry'.signature.index) ∧
            ¬Signature.Collide .input aliasSymbols.declared.inputs entry.signature
              entry'.signature := by
      decide +kernel
    obtain ⟨other, free⟩ := differ entries found entries' found' entry inside entry' inside'
    exact free ((apart "v4" "v5" entry entry' ⟨entries, found, inside⟩
      ⟨entries', found', inside'⟩ other).mp same)
  · rintro entry entry' ⟨entries, found, inside⟩ ⟨entries', found', inside'⟩
    have collide : ∀ entries ∈ aliasSymbols.registers.inputs.entries.get? "v0",
        ∀ entries' ∈ aliasSymbols.registers.inputs.entries.get? "v1",
          ∀ entry ∈ entries, ∀ entry' ∈ entries',
            (entry.signature.semantic, entry.signature.index) ≠
              (entry'.signature.semantic, entry'.signature.index) ∧
            Signature.Collide .input aliasSymbols.declared.inputs entry.signature
              entry'.signature := by
      decide +kernel
    obtain ⟨other, shared⟩ := collide entries found entries' found' entry inside entry' inside'
    exact (apart "v0" "v1" entry entry' ⟨entries, found, inside⟩
      ⟨entries', found', inside'⟩ other).mpr shared
  · intro distinct
    exact absurd (fields.mp distinct) (by decide +kernel)

end ShaderLift
