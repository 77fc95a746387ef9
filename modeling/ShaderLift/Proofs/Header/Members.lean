import ShaderLift.Proofs.Header.Block

namespace ShaderLift

/-- The members of a block in order. The structure type of a record field is defined in place and
is named by the type of the field. -/
inductive Members where
  | none
  | plain (declared : Variable) (rest : Members)
  | record (inner : Members) (field : Variable) (rest : Members)

namespace Members

/-- The members declared in the block itself. -/
def fields : Members → List Variable
  | none => []
  | plain declared rest => declared :: rest.fields
  | record _ field rest => field :: rest.fields

/-- The structures defined in the block, in the order in which their blocks end. -/
def structures : Members → List Structure
  | none => []
  | plain _ rest => rest.structures
  | record inner field rest => inner.structures ++ ⟨field.type, inner.fields⟩ :: rest.structures

end Members

namespace Declarations

/-- The structures with new names, the first one of each name. -/
def newStructures (known : List Text) : List Structure → List Structure
  | [] => []
  | first :: rest =>
    if first.name ∈ known then newStructures known rest
    else first :: newStructures (known ++ [first.name]) rest

def structureNames (d : Declarations) : List Text := d.structures.map Structure.name

theorem findStructure?_isSome (d : Declarations) (name : Text) :
    (findStructure? d.structures name).isSome = true ↔ name ∈ d.structureNames := by
  simp [findStructure?, structureNames]

theorem foldl_addStructure (added : List Structure) (d : Declarations) :
    added.foldl addStructure d =
      { d with structures := d.structures ++ newStructures d.structureNames added } := by
  induction added generalizing d with
  | nil => simp [newStructures]
  | cons first rest ih =>
    rw [List.foldl_cons, ih, newStructures]
    by_cases known : first.name ∈ d.structureNames
    · have kept : d.addStructure first = d := if_pos ((d.findStructure?_isSome first.name).mpr known)
      rw [kept, if_pos known]
    · have grown : d.addStructure first = { d with structures := d.structures ++ [first] } :=
        if_neg (mt (d.findStructure?_isSome first.name).mp known)
      rw [grown, if_neg known]
      simp [structureNames]

end Declarations

namespace Scan

open Stepping

/-- The lines that define the members of a block. -/
inductive Renders : Bool → Members → List Text → Prop
  | none {inStructure : Bool} : Renders inStructure .none []
  | filler {inStructure : Bool} {members : Members} {line : Text} {lines : List Text}
      (empty : IsFiller line) (rest : Renders inStructure members lines) :
      Renders inStructure members (line :: lines)
  | plain {inStructure : Bool} {declared : Variable} {members : Members} {columns : List Text}
      {line : Text} {lines : List Text} (type : IsType declared.type) (name : IsName declared.name)
      (placed : Places inStructure declared columns)
      (spelled : SpellsMarkedLine
        (layoutWords declared.layout ++ [declared.type, declared.name ++ ";"]) columns line)
      (rest : Renders inStructure members lines) :
      Renders inStructure (.plain declared members) (line :: lines)
  | record {inStructure : Bool} {inner members : Members} {field : Variable} {columns : List Text}
      {opening closing : Text} {body lines : List Text} (type : IsName field.type)
      (name : IsName field.name) (unordered : field.layout = .default)
      (placed : Places inStructure field columns)
      (opens : SpellsLine ["struct", field.type] opening) (within : Renders true inner body)
      (closes : SpellsMarkedLine [['\x7d'], field.name ++ ";"] columns closing)
      (rest : Renders inStructure members lines) :
      Renders inStructure (.record inner field members) (opening :: body ++ closing :: lines)

/-- The lines that define a buffer. -/
inductive RendersBuffer (name : Text) (members : Members) : List Text → Prop
  | lines {keyword opening closing : Text} {before body after : List Text}
      (isName : IsName name) (known : keyword ∈ (["cbuffer", "tbuffer"] : List Text))
      (empty : ∀ line ∈ before ++ after, IsFiller line)
      (opens : SpellsLine [keyword, name] opening) (within : Renders false members body)
      (closes : SpellsLine [['\x7d']] closing) :
      RendersBuffer name members (before ++ opening :: body ++ closing :: after)

/-- Lines that define the members of a block add its fields to the block and its structures to what
is declared. -/
theorem Renders.reads {inStructure : Bool} {members : Members} {lines : List Text}
    (renders : Renders inStructure members lines) {s : Scan} (inside : Inside inStructure s) :
    Reads lines s
      (grown members.fields (members.structures.foldl Declarations.addStructure s.declared) s) := by
  -- the state is left open, so that the lines of an inner block can start from the pushed structure
  induction renders generalizing s with
  | none =>
    rw [Members.fields, Members.structures, List.foldl_nil, grown_nil]
    exact .nil s
  | filler empty _ ih => exact .cons (feed_filler empty inside.reading) (ih inside)
  | @plain _ declared _ _ _ _ type name placed spelled _ ih =>
    have later := ih (inside.grown [declared] s.declared)
    rw [grown_grown, grown_declared] at later
    exact .cons (feed_plain type name placed spelled inside) later
  | @record _ inner members field _ _ _ _ _ type name unordered placed opens _ closes _ within ih =>
    have body := within (s := { s with openStructures := ⟨field.type, []⟩ :: s.openStructures })
      ⟨inside.reading, rfl, nofun, inside.settled⟩
    have ended := feed_record name unordered placed closes inside inner.fields
      (inner.structures.foldl Declarations.addStructure s.declared)
    have later := ih (inside.grown [field]
      ((inner.structures.foldl Declarations.addStructure s.declared).addStructure
        ⟨field.type, inner.fields⟩))
    rw [grown_grown, grown_declared] at later
    rw [Members.structures, List.foldl_append, List.foldl_cons]
    exact .cons (feed_struct opens type inside.reading) (body.append (.cons ended later))

theorem reads_fillers {lines : List Text} (empty : ∀ line ∈ lines, IsFiller line) {s : Scan}
    (reading : s.openSection = some .definitions) : Reads lines s s := by
  induction lines with
  | nil => exact .nil s
  | cons line lines ih =>
    obtain ⟨first, later⟩ := List.forall_mem_cons.mp empty
    exact .cons (feed_filler first reading) (ih later)

/-- The lines that define a buffer add that buffer and the structures defined in it, and leave the
scan otherwise as it was. -/
theorem feedAll_buffer {name : Text} {members : Members} {lines : List Text}
    (renders : RendersBuffer name members lines) (s : Scan)
    (reading : s.openSection = some .definitions) (closed : s.openBuffer = none)
    (flat : s.openStructures = []) (settled : s.layout = .default) (number : Int) :
    runFrom (feedAll number lines) s =
      (.ok (),
        { s with
          declared :=
            { s.declared with
              buffers := s.declared.buffers ++ [{ name, members := members.fields }]
              structures := s.declared.structures ++
                Declarations.newStructures s.declared.structureNames members.structures } }) := by
  obtain ⟨isName, known, empty, opens, within, closes⟩ := renders
  obtain ⟨emptyBefore, emptyAfter⟩ := List.forall_mem_append.mp empty
  have opening := feed_buffer isName known opens reading closed
  have body := within.reads (s := { s with openBuffer := some { name } })
    ⟨reading, by rw [flat]; rfl, fun _ => rfl, settled⟩
  rw [Declarations.foldl_addStructure,
    grown_buffer (s := { s with openBuffer := some { name } }) flat rfl] at body
  have ending := feed_end (s := { s with
    declared :=
      { s.declared with
        structures := s.declared.structures ++
          Declarations.newStructures s.declared.structureNames members.structures }
    openBuffer := some { name, members := members.fields } }) closes reading flat rfl
  have whole := (((reads_fillers emptyBefore reading).append (.cons opening body)).append
    (.cons ending (reads_fillers emptyAfter (by exact reading)))) number
  rw [whole, ← closed]
  rfl

/-- A buffer with a matrix and with an array of structures that have a structure inside. -/
def sceneMembers : Members :=
  .plain ⟨"float4x4", "view", 0, 64, .rowMajor⟩ <|
    .record
      (.record (.plain ⟨"float", "near", 64, 0, .default⟩ .none) ⟨"Range", "r", 64, 0, .default⟩ .none)
      ⟨"Light", "l[2]", 64, 32, .default⟩ .none

def sceneLines : List Text :=
  ["//cbuffer Scene", "// \x7b", "// row_major float4x4 view; // Offset: 0 Size: 64", "//struct Light",
    "//", "//struct Range", "// \x7b", "// float near; // Offset: 64", "//\x7d r; // Offset: 64",
    "//\x7d l[2]; // Offset: 64 Size: 32 [unused]", "//\x7d", "//"]

theorem rendersBuffer_scene : RendersBuffer "Scene" sceneMembers sceneLines := by
  have blank : IsFiller "//" := .inl (spellsLine_of_words [] rfl)
  have brace : IsFiller "// \x7b" := .inr (spellsLine_of_words " \x7b" rfl)
  have numeral (digits : Text) (some : digits ≠ []) (each : digits.all Char.isDigit = true)
      (short : digits.length ≤ Text.maxIntegerDigits) :
      Text.IsNumeral digits (Text.decimalsValue digits) :=
    .plain (Text.isDigits_of_all some each short)
  have near := Renders.filler brace <|
    @Renders.plain true ⟨"float", "near", 64, 0, .default⟩ .none _ _ []
      ⟨isName_of_all (by decide) rfl, by decide, by decide⟩ (isName_of_all (by decide) rfl)
      (.unsized rfl (numeral "64" (by decide) rfl (by decide)) rfl)
      (spellsMarkedLine_of_words " float near; " " Offset: 64" rfl rfl) .none
  have range := Renders.filler blank <|
    @Renders.record true _ .none ⟨"Range", "r", 64, 0, .default⟩ _ _ _ _ _
      (isName_of_all (by decide) rfl) (isName_of_all (by decide) rfl) rfl
      (.unsized rfl (numeral "64" (by decide) rfl (by decide)) rfl)
      (spellsLine_of_words "struct Range" rfl) near
      (spellsMarkedLine_of_words "\x7d r; " " Offset: 64" rfl rfl) .none
  have lights := @Renders.record false _ .none ⟨"Light", "l[2]", 64, 32, .default⟩ _ _ _ _ _
    (isName_of_all (by decide) rfl) (isName_of_all (by decide) rfl) rfl
    (.sized (numeral "64" (by decide) rfl (by decide)) (numeral "32" (by decide) rfl (by decide))
      (List.mem_cons_of_mem _ List.mem_cons_self))
    (spellsLine_of_words "struct Light" rfl) range
    (spellsMarkedLine_of_words "\x7d l[2]; " " Offset: 64 Size: 32 [unused]" rfl rfl) .none
  have view := Renders.filler brace <|
    @Renders.plain false ⟨"float4x4", "view", 0, 64, .rowMajor⟩ _ _ _ _
      ⟨isName_of_all (by decide) rfl, by decide, by decide⟩ (isName_of_all (by decide) rfl)
      (.sized (numeral "0" (by decide) rfl (by decide)) (numeral "64" (by decide) rfl (by decide))
        List.mem_cons_self)
      (spellsMarkedLine_of_words " row_major float4x4 view; " " Offset: 0 Size: 64" rfl rfl) lights
  exact @RendersBuffer.lines _ _ _ _ _ [] _ ["//"] (isName_of_all (by decide) rfl)
    List.mem_cons_self (List.forall_mem_singleton.mpr blank)
    (spellsLine_of_words "cbuffer Scene" rfl) view (spellsLine_of_words "\x7d" rfl)

theorem feedAll_scene :
    RendersBuffer "Scene" sceneMembers sceneLines ∧
      runFrom (feedAll 1 sceneLines) { openSection := some .definitions } =
        (.ok (),
          { openSection := some .definitions
            declared :=
              { buffers :=
                  [{ name := "Scene"
                     members :=
                      [⟨"float4x4", "view", 0, 64, .rowMajor⟩, ⟨"Light", "l[2]", 64, 32, .default⟩] }]
                structures :=
                  [⟨"Range", [⟨"float", "near", 64, 0, .default⟩]⟩,
                    ⟨"Light", [⟨"Range", "r", 64, 0, .default⟩]⟩] } }) :=
  ⟨rendersBuffer_scene, feedAll_buffer rendersBuffer_scene _ rfl rfl rfl rfl 1⟩

/-- An offset with more digits than a number may have. -/
def longOffset : Text := List.replicate (Text.maxIntegerDigits + 1) '1'

/-- A variable is refused when its offset has too many digits. -/
theorem feedAll_longOffset :
    (runFrom (feedAll 1 ["//cbuffer A", "//float a;//Offset: " ++ longOffset ++ " Size: 4", "//\x7d"])
        { openSection := some .definitions }).1 =
      .error (.declaration (.badNumber "offset" longOffset) 2) := by
  obtain ⟨each, filled, tooLong⟩ := Text.toInt_ones (show longOffset = _ from rfl)
  have column : IsColumn longOffset :=
    isColumn_of_digits filled fun c inside => .inl (each c inside)
  generalize longOffset = offset at column tooLong ⊢
  have placed : Text.Spells ["Offset:", offset, "Size:", "4"]
      ("Offset:" ++ (" " ++ offset ++ " Size: 4")) := by
    have offsetTitle : Text.IsWord "Offset:" := (isColumn_of_all (by decide) rfl).isWord
    have gap : Text.IsGap " " := List.forall_mem_singleton.mpr rfl
    have size : Text.Spells ["Size:", "4"] " Size: 4" := by decide
    exact .word .nil offsetTitle (Text.divides_cons rfl)
      (.word gap column.isWord (Text.divides_cons rfl) size)
  have spelled : SpellsMarkedLine ["float", "a;"] ["Offset:", offset, "Size:", "4"]
      ("//float a;//Offset: " ++ offset ++ " Size: 4") :=
    ⟨"float a;", _, ⟨[], .nil, by simp⟩, by decide, placed⟩
  have others : ∀ word ∈ (["Offset:", offset, "Size:", "4"] : List Text), IsColumn word := by
    simp only [List.forall_mem_cons]
    exact ⟨isColumn_of_all (by decide) rfl, column, isColumn_of_all (by decide) rfl,
      isColumn_of_all (by decide) rfl, nofun⟩
  have opened : runFrom (feed "//cbuffer A" 1) { openSection := some .definitions } =
      (.ok (), { openSection := some .definitions, openBuffer := some { name := "A" } }) :=
    feed_buffer (isName_of_all (by decide) rfl) List.mem_cons_self
      (spellsLine_of_words "cbuffer A" rfl) rfl rfl 1
  have isType : IsType "float" := ⟨isName_of_all (by decide) rfl, by decide, by decide⟩
  have isName : IsName "a" := isName_of_all (by decide) rfl
  have refused := feed_badOffset
    (s := { openSection := some .definitions, openBuffer := some { name := "A" } })
    isType isName tooLong others (by decide) spelled rfl (fun _ => rfl) (1 + 1)
  rw [feedAll, runFrom_bind_of_ok opened, feedAll, runFrom_bind_of_error refused]
  rfl

end Scan
end ShaderLift
