import ShaderLift.Proofs.Header.Definition

namespace ShaderLift.Scan

open Stepping

variable {s : Scan} {line type text : Text} {columns : List Text} {inStructure : Bool}
  {buffer : ConstantBuffer}

/-- A name as it may stand in a definition. -/
structure IsName (name : Text) : Prop where
  isWord : name.IsWord
  plain : ∀ c ∈ name, c ≠ ';' ∧ c ≠ ':' ∧ c ≠ '=' ∧ c ≠ '$'
  unmarked : Unmarked name

theorem isName_of_all {name : Text} (some : name ≠ [])
    (each : name.all (fun c => !Text.isBlank c && !([';', ':', '=', '$', '/'].contains c)) = true) :
    IsName name := by
  have plain (c : Char) (inside : c ∈ name) :
      Text.isBlank c = false ∧ c ≠ ';' ∧ c ≠ ':' ∧ c ≠ '=' ∧ c ≠ '$' ∧ c ≠ '/' := by
    simpa using List.all_eq_true.mp each c inside
  refine ⟨⟨some, fun c inside => (plain c inside).1⟩, fun c inside => ?_, ?_⟩
  · obtain ⟨_, semicolon, colon, equal, dollar, _⟩ := plain c inside
    exact ⟨semicolon, colon, equal, dollar⟩
  · exact unmarked_of_not_mem fun inside => (plain '/' inside).2.2.2.2.2 rfl

/-- The words that have a meaning of their own at the start of a line. -/
def keywords : List Text :=
  ["cbuffer", "tbuffer", "struct", ['\x7b'], ['\x7d'], "row_major", "column_major", "Name"]

/-- A type as it may start a line. -/
structure IsType (type : Text) : Prop extends IsName type where
  noKeyword : type ∉ keywords
  noRuler : type.head? ≠ some '-'

/-- The columns that place a variable. Inside a structure the size may be left out. -/
inductive Places (inStructure : Bool) (placed : Variable) : List Text → Prop
  | sized {offset size : Text} {notes : List Text} (offsetIs : Text.IsNumeral offset placed.offset)
      (sizeIs : Text.IsNumeral size placed.size) (known : notes ∈ ([[], ["[unused]"]] : List (List Text))) :
      Places inStructure placed ("Offset:" :: offset :: "Size:" :: size :: notes)
  | unsized {offset : Text} (inside : inStructure = true)
      (offsetIs : Text.IsNumeral offset placed.offset) (unknown : placed.size = 0) :
      Places inStructure placed ["Offset:", offset]

/-- The prefix that announces a packing order. -/
def layoutWords : Layout → List Text
  | .default => []
  | .rowMajor => ["row_major"]
  | .columnMajor => ["column_major"]

/-- A comment line without a declaration: an empty one or an opening brace. -/
def IsFiller (line : Text) : Prop := SpellsLine [] line ∨ SpellsLine [['\x7b']] line

theorem IsName.isColumn {name : Text} (isName : IsName name) : IsColumn name :=
  ⟨isName.isWord, isName.unmarked, fun inside => (isName.plain '=' inside).2.2.1 rfl⟩

theorem IsName.isColumn_semicolon {name : Text} (isName : IsName name) :
    IsColumn (name ++ ";") := by
  refine ⟨⟨by simp, isName.isWord.solid.concat (by decide)⟩, ?_, ?_⟩
  · intro within
    rcases List.infix_concat_iff.mp within with ending | inside
    · obtain ⟨front, whole⟩ := ending
      have last : (front ++ ['/', '/']).getLast? = (name ++ [';']).getLast? :=
        congrArg List.getLast? whole
      simp at last
    · exact isName.unmarked inside
  · have absent := isName.isColumn.noEqual
    simp [absent]

theorem isColumn_of_digits (some : text ≠ [])
    (each : ∀ c ∈ text, c.isDigit = true ∨ c = '+' ∨ c = '-') : IsColumn text := by
  have absent (c : Char) (other : c.isDigit = false ∧ c ≠ '+' ∧ c ≠ '-') : c ∉ text := by
    intro inside
    rcases each c inside with digit | sign
    · rw [other.1] at digit
      cases digit
    · exact sign.elim other.2.1 other.2.2
  refine ⟨⟨some, ?_⟩, unmarked_of_not_mem (absent '/' (by decide)), absent '=' (by decide)⟩
  intro c inside
  rcases each c inside with digit | rfl | rfl
  · exact Text.isBlank_digit c digit
  · decide
  · decide

theorem isColumn_of_isNumeral {value : Int} (numeral : Text.IsNumeral text value) :
    IsColumn text := by
  cases numeral with
  | plain number => exact isColumn_of_digits number.nonempty fun c inside => .inl (number.each c inside)
  | plus number =>
    apply isColumn_of_digits (by simp)
    exact List.forall_mem_cons.mpr ⟨by simp, fun c inside => .inl (number.each c inside)⟩
  | minus number =>
    apply isColumn_of_digits (by simp)
    exact List.forall_mem_cons.mpr ⟨by simp, fun c inside => .inl (number.each c inside)⟩

theorem Places.isColumn {placed : Variable} (places : Places inStructure placed columns) :
    ∀ word ∈ columns, IsColumn word := by
  have offsetTitle : IsColumn "Offset:" := isColumn_of_all (by decide) (by decide)
  cases places with
  | sized offsetIs sizeIs known =>
    have sizeTitle : IsColumn "Size:" := isColumn_of_all (by decide) (by decide)
    have unusedNote : IsColumn "[unused]" := isColumn_of_all (by decide) (by decide)
    have noted : ∀ note ∈ ([[], ["[unused]"]] : List (List Text)), ∀ word ∈ note, IsColumn word := by
      intro note listed word inside
      simp only [List.mem_cons, List.not_mem_nil, or_false] at listed
      rcases listed with rfl | rfl
      · cases inside
      · rwa [List.mem_singleton.mp inside]
    simp only [List.forall_mem_cons]
    exact ⟨offsetTitle, isColumn_of_isNumeral offsetIs, sizeTitle, isColumn_of_isNumeral sizeIs,
      noted _ known⟩
  | unsized inside offsetIs unknown =>
    simp only [List.forall_mem_cons]
    exact ⟨offsetTitle, isColumn_of_isNumeral offsetIs, nofun⟩

theorem trimEndOf_semicolon {name : Text} (isName : IsName name) :
    Text.trimEndOf ';' (name ++ ";") = name := by
  have kept : name.reverse.dropWhile (· == ';') = name.reverse := by
    cases turned : name.reverse with
    | nil => rfl
    | cons c rest =>
      have inside : c ∈ name := by
        rw [← List.mem_reverse, turned]
        exact List.mem_cons_self
      rw [List.dropWhile_cons_of_neg (by simpa using (isName.plain c inside).1)]
  have shape : (name ++ ";" : Text).reverse = ';' :: name.reverse := by simp
  rw [Text.trimEndOf, shape, List.dropWhile_cons_of_pos (by decide), kept, List.reverse_reverse]

theorem runFrom_addVariable_of_numbers {line offset size : Int}
    (enough : (if s.openStructures.isEmpty then variableColumns else memberColumns) ≤ columns.length)
    (offsetIs : runFrom (number "offset" (columns.getD 3 []) line) s = (.ok offset, s))
    (sizeIs : runFrom (if 5 < columns.length then number "size" (columns.getD 5 []) line else pure 0) s =
      (.ok size, s)) :
    runFrom (addVariable columns line) s =
      (.ok (), putVariable
        { type := columns.getD 0 [], name := Text.trimEndOf ';' (columns.getD 1 []), offset, size,
          layout := s.layout } { s with layout := .default }) := by
  unfold addVariable
  rw [runFrom_bind_of_ok (runFrom_get s), if_neg (Nat.not_lt.mpr enough)]
  dsimp only
  rw [runFrom_bind_of_ok offsetIs]
  by_cases sized : 5 < columns.length
  · rw [if_pos sized] at sizeIs ⊢
    rw [runFrom_bind_of_ok sizeIs, runFrom_modify]
  · rw [if_neg sized] at sizeIs ⊢
    rw [runFrom_bind_of_ok sizeIs, runFrom_modify]

theorem runFrom_addVariable {added : Variable} (name : IsName added.name)
    (placed : Places inStructure added columns) (nested : s.openStructures.isEmpty = !inStructure)
    (ordered : s.layout = added.layout) (line : Int) :
    runFrom (addVariable (added.type :: (added.name ++ ";") :: columns) line) s =
      (.ok (), putVariable added { s with layout := .default }) := by
  have trimmed := trimEndOf_semicolon name
  have read : runFrom (addVariable (added.type :: (added.name ++ ";") :: columns) line) s =
      (.ok (), putVariable
        { added with name := Text.trimEndOf ';' (added.name ++ ";"), layout := s.layout }
        { s with layout := .default }) := by
    cases placed with
    | sized offsetIs sizeIs known =>
      apply runFrom_addVariable_of_numbers
      · cases inStructure <;> simp [nested, variableColumns, memberColumns]
      · exact runFrom_number offsetIs line s
      · rw [if_pos (by simp)]
        exact runFrom_number sizeIs line s
    | unsized inside offsetIs unknown =>
      apply runFrom_addVariable_of_numbers
      · simp [nested, inside, memberColumns]
      · exact runFrom_number offsetIs line s
      · rw [if_neg (by simp), unknown, runFrom_pure]
  rw [read, trimmed, ordered]

/-- A block is open among the definitions, and no packing order is pending. -/
structure Inside (inStructure : Bool) (s : Scan) : Prop where
  reading : s.openSection = some .definitions
  nested : s.openStructures.isEmpty = !inStructure
  opened : s.openStructures = [] → s.openBuffer.isSome = true
  settled : s.layout = .default

/-- A scan after fields were added to the innermost open block, with what is declared by then. -/
def grown (fields : List Variable) (declared : Declarations) (s : Scan) : Scan :=
  match s.openStructures, s.openBuffer with
  | inner :: outer, _ =>
    { s with
      declared, openStructures := { inner with members := inner.members ++ fields } :: outer }
  | [], some buffer =>
    { s with declared, openBuffer := some { buffer with members := buffer.members ++ fields } }
  | [], none => { s with declared }

theorem grown_nil (s : Scan) : grown [] s.declared s = s := by
  obtain ⟨_, _, buffer, _, structures, _, _⟩ := s
  cases structures <;> cases buffer <;> simp [grown]

theorem grown_grown (fields more : List Variable) (declared declared' : Declarations) (s : Scan) :
    grown more declared' (grown fields declared s) = grown (fields ++ more) declared' s := by
  obtain ⟨_, _, buffer, _, structures, _, _⟩ := s
  cases structures <;> cases buffer <;> simp [grown]

theorem grown_declared (fields : List Variable) (declared : Declarations) (s : Scan) :
    (grown fields declared s).declared = declared := by
  unfold grown
  split <;> rfl

theorem putVariable_eq_grown (added : Variable) (s : Scan) :
    putVariable added s = grown [added] s.declared s := by
  obtain ⟨_, _, buffer, _, structures, _, _⟩ := s
  cases structures <;> cases buffer <;> rfl

theorem grown_buffer {fields : List Variable} {declared : Declarations}
    (flat : s.openStructures = []) (opened : s.openBuffer = some buffer) :
    grown fields declared s =
      { s with declared, openBuffer := some { buffer with members := buffer.members ++ fields } } := by
  unfold grown
  rw [flat, opened]

theorem Inside.grown (inside : Inside inStructure s) (fields : List Variable)
    (declared : Declarations) :
    Inside inStructure (grown fields declared s) := by
  obtain ⟨reading, nested, opened, settled⟩ := inside
  unfold Scan.grown
  split <;> constructor <;> simp_all

theorem feed_filler (filler : IsFiller line) (reading : s.openSection = some .definitions)
    (number : Int) :
    runFrom (feed line number) s = (.ok (), s) := by
  rcases filler with ⟨inside, comment, spelled⟩ | brace
  · cases spelled with
    | none blank =>
      apply feed_ignored comment
      rw [Text.trim, blank.trimStart_eq]
      rfl
  · have columns : HasColumns [['\x7b']] line :=
      hasColumns_of_spellsLine brace
        (List.forall_mem_singleton.mpr (isColumn_of_all (by decide) (by decide)))
        (by decide) (by decide) (by decide)
    obtain ⟨body, words, read⟩ := columns
    rw [read number s reading, readDefinition_of_columns words (by decide) (by decide)]
    rfl

theorem hasColumns_keyword {keyword name : Text}
    (known : keyword ∈ (["struct", "cbuffer", "tbuffer"] : List Text)) (isName : IsName name)
    (opens : SpellsLine [keyword, name] line) : HasColumns [keyword, name] line := by
  have noColon : ':' ∉ name := fun inside => (isName.plain ':' inside).2.1 rfl
  simp only [List.mem_cons, List.not_mem_nil, or_false] at known
  rcases known with rfl | rfl | rfl
  all_goals
    apply hasColumns_of_spellsLine opens _ _ (by decide) (by decide)
    · simpa only [List.forall_mem_cons] using
        ⟨isColumn_of_all (by decide) (by decide), isName.isColumn, nofun⟩
    · simpa only [List.forall_mem_cons] using ⟨by decide, noColon, nofun⟩

theorem feed_struct {name : Text} (opens : SpellsLine ["struct", name] line) (isName : IsName name)
    (reading : s.openSection = some .definitions) (number : Int) :
    runFrom (feed line number) s =
      (.ok (), { s with openStructures := { name } :: s.openStructures }) := by
  obtain ⟨body, words, read⟩ := hasColumns_keyword (by decide) isName opens
  rw [read number s reading, readDefinition_of_columns words (by simp) (by decide)]
  rfl

theorem IsType.layoutKeyword?_eq (isType : IsType type) :
    layoutKeyword? type = none := by
  have other (word : Text) (known : word ∈ keywords) : type ≠ word := by
    rintro rfl
    exact isType.noKeyword known
  rw [layoutKeyword?, if_neg (other _ (by decide)), if_neg (other _ (by decide))]

/-- A line that starts with a type declares a variable. -/
theorem runFrom_readColumns_of_isType (isType : IsType type) (columns : List Text)
    (opened : s.openStructures = [] → s.openBuffer.isSome = true) (number : Int) :
    runFrom (readColumns type columns number) s = runFrom (addVariable columns number) s := by
  have other (word : Text) (known : word ∈ keywords) : type ≠ word := by
    rintro rfl
    exact isType.noKeyword known
  have noBuffer : ¬ (type = "cbuffer" || type = "tbuffer") = true := by
    rw [Bool.or_eq_true, decide_eq_true_eq, decide_eq_true_eq, not_or]
    exact ⟨other _ (by decide), other _ (by decide)⟩
  have inBlock : ¬ (s.openStructures.isEmpty && s.openBuffer.isNone) = true := by
    intro outside
    rw [Bool.and_eq_true, List.isEmpty_iff, Option.isNone_iff_eq_none] at outside
    have some := opened outside.1
    rw [outside.2] at some
    cases some
  unfold readColumns
  rw [if_neg noBuffer, if_neg (other _ (by decide)), if_neg (other _ (by decide)),
    if_neg (other _ (by decide)), runFrom_bind_of_ok (runFrom_get s), if_neg inBlock]

theorem not_bindInfo (type name : Text) (columns : List Text) :
    ¬ (type = "Resource" ∧ ((name ++ ";") :: columns).head? = some ("bind" : Text)) := by
  rintro ⟨_, same⟩
  have last : (name ++ [';']).getLast? = some 'd' := congrArg List.getLast? (Option.some.inj same)
  rw [List.getLast?_concat] at last
  cases last

theorem exists_layoutWord {layout : Layout} (ordered : layout ≠ .default) :
    ∃ word, layoutWords layout = [word] ∧ layoutKeyword? word = some layout ∧ IsColumn word ∧
      word.head? ≠ some '-' ∧ word ≠ "Name" := by
  cases layout with
  | default => exact absurd rfl ordered
  | rowMajor =>
    exact ⟨_, rfl, rfl, isColumn_of_all (by decide) (by decide), by decide, by decide⟩
  | columnMajor =>
    exact ⟨_, rfl, rfl, isColumn_of_all (by decide) (by decide), by decide, by decide⟩

theorem hasColumns_typed {name : Text} (isType : IsType type) (isName : IsName name)
    (others : ∀ word ∈ columns, IsColumn word)
    (spelled : SpellsMarkedLine [type, name ++ ";"] columns line) :
    HasColumns (type :: (name ++ ";") :: columns) line := by
  apply hasColumns_of_spellsMarkedLine [] spelled _ isType.noRuler
  · exact fun same => isType.noKeyword (same ▸ by decide)
  · simp only [List.forall_mem_append, List.forall_mem_singleton]
    exact ⟨⟨isType.isColumn, isName.isColumn_semicolon⟩, others⟩

theorem feed_plain {declared : Variable} (type : IsType declared.type) (name : IsName declared.name)
    (placed : Places inStructure declared columns) (spelled : SpellsMarkedLine
      (layoutWords declared.layout ++ [declared.type, declared.name ++ ";"]) columns line)
    (inside : Inside inStructure s) (number : Int) :
    runFrom (feed line number) s = (.ok (), grown [declared] s.declared s) := by
  have settled : { s with layout := .default } = s := by rw [← inside.settled]
  by_cases ordered : declared.layout = .default
  · rw [ordered] at spelled
    obtain ⟨body, words, read⟩ := hasColumns_typed type name placed.isColumn spelled
    have noBind := not_bindInfo declared.type declared.name columns
    rw [read number s inside.reading, readDefinition_of_columns words noBind type.layoutKeyword?_eq,
      runFrom_readColumns_of_isType type _ inside.opened,
      runFrom_addVariable name placed inside.nested (inside.settled.trans ordered.symm), settled,
      putVariable_eq_grown]
  · obtain ⟨word, announced, keyword, isColumn, noRuler, noTitle⟩ := exists_layoutWord ordered
    rw [announced] at spelled
    have has : HasColumns (word :: declared.type :: (declared.name ++ ";") :: columns) line := by
      apply hasColumns_of_spellsMarkedLine [declared.type] spelled _ noRuler noTitle
      simp only [List.forall_mem_append, List.forall_mem_cons]
      exact ⟨⟨⟨isColumn, type.isColumn, nofun⟩, name.isColumn_semicolon, nofun⟩, placed.isColumn⟩
    obtain ⟨body, words, read⟩ := has
    have added := runFrom_addVariable (s := { s with layout := declared.layout }) name placed
      inside.nested rfl number
    dsimp only at added
    rw [read number s inside.reading, readDefinition_of_layout words keyword,
      runFrom_readColumns_of_isType type _ (by exact inside.opened), added, settled,
      putVariable_eq_grown]

/-- A line whose offset is no number is refused. -/
theorem feed_badOffset {name offset : Text} {issue : Text.IntegerIssue} (isType : IsType type)
    (isName : IsName name) (bad : Text.toInt offset = .error issue)
    (others : ∀ word ∈ ("Offset:" :: offset :: columns : List Text), IsColumn word)
    (enough : 2 ≤ columns.length)
    (spelled : SpellsMarkedLine [type, name ++ ";"] ("Offset:" :: offset :: columns) line)
    (reading : s.openSection = some .definitions)
    (opened : s.openStructures = [] → s.openBuffer.isSome = true) (number : Int) :
    runFrom (feed line number) s = (.error (.declaration (.badNumber "offset" offset) number), s) := by
  obtain ⟨body, words, read⟩ := hasColumns_typed isType isName others spelled
  have refused : runFrom (Scan.number "offset" offset number) s =
      (.error (.declaration (.badNumber "offset" offset) number), s) := by
    rw [Scan.number, bad]
    rfl
  rw [read number s reading, readDefinition_of_columns words (not_bindInfo type name _)
    isType.layoutKeyword?_eq, runFrom_readColumns_of_isType isType _ opened, addVariable,
    runFrom_bind_of_ok (runFrom_get s), if_neg]
  · exact runFrom_bind_of_error refused _
  · simp only [List.length_cons]
    split <;> simp only [variableColumns, memberColumns] <;> omega

/-- The end of a structure registers it and declares the field that has it as its type. -/
theorem feed_record {field : Variable} (name : IsName field.name)
    (unordered : field.layout = .default) (placed : Places inStructure field columns)
    (closes : SpellsMarkedLine [['\x7d'], field.name ++ ";"] columns line)
    (inside : Inside inStructure s) (members : List Variable) (declared : Declarations)
    (number : Int) :
    runFrom (feed line number)
        { s with declared, openStructures := ⟨field.type, members⟩ :: s.openStructures } =
      (.ok (), grown [field] (declared.addStructure ⟨field.type, members⟩) s) := by
  have has : HasColumns (['\x7d'] :: (field.name ++ ";") :: columns) line := by
    apply hasColumns_of_spellsMarkedLine [] closes _ (by decide) (by decide)
    simp only [List.forall_mem_append, List.forall_mem_singleton]
    exact ⟨⟨isColumn_of_all (by decide) (by decide), name.isColumn_semicolon⟩, placed.isColumn⟩
  obtain ⟨body, words, read⟩ := has
  have named : Text.trimEndOf ';' (((['\x7d'] : Text) :: (field.name ++ ";") :: columns).getD 1 []) =
      field.name := trimEndOf_semicolon name
  have noElement : field.name ≠ "$Element" := by
    intro same
    exact (name.plain '$' (same ▸ by decide)).2.2.2 rfl
  have some : (!field.name.isEmpty) = true := by simpa using name.isWord.nonempty
  have settled : { s with layout := .default } = s := by rw [← inside.settled]
  have reading : ({ s with declared, openStructures := ⟨field.type, members⟩ :: s.openStructures } :
      Scan).openSection = .some .definitions := inside.reading
  rw [read number _ reading, readDefinition_of_columns words (by simp) (by decide)]
  show runFrom (closeBlock _ number) _ = _
  rw [closeBlock, runFrom_bind_of_ok (runFrom_get _)]
  dsimp only
  rw [runFrom_bind_of_ok (runFrom_set _ _), declare, runFrom_bind_of_ok (runFrom_modify _ _), named,
    if_neg noElement, if_pos some]
  have added := runFrom_addVariable
    (s := { s with declared := declared.addStructure ⟨field.type, members⟩ }) name placed
    inside.nested (inside.settled.trans unordered.symm) number
  refine added.trans ?_
  rw [putVariable_eq_grown, ← inside.settled]
  obtain ⟨_, _, buffer, _, structures, _, _⟩ := s
  cases structures <;> cases buffer <;> rfl

theorem feed_buffer {keyword name : Text} (isName : IsName name)
    (known : keyword ∈ (["cbuffer", "tbuffer"] : List Text))
    (opens : SpellsLine [keyword, name] line) (reading : s.openSection = some .definitions)
    (closed : s.openBuffer = none) (number : Int) :
    runFrom (feed line number) s = (.ok (), { s with openBuffer := some { name } }) := by
  have kept : Text.without '$' name = name :=
    List.filter_eq_self.mpr fun c inside => by simpa using (isName.plain c inside).2.2.2
  obtain ⟨body, words, read⟩ := hasColumns_keyword (List.mem_cons_of_mem _ known) isName opens
  simp only [List.mem_cons, List.not_mem_nil, or_false] at known
  have opened : runFrom (readDefinition body number) s =
      runFrom (closeBuffer >>= fun _ =>
        modify fun s => { s with openBuffer := some { name := Text.without '$' name } }) s := by
    rcases known with rfl | rfl
    all_goals
      rw [readDefinition_of_columns words (by simp) (by decide)]
      rfl
  rw [read number s reading, opened, runFrom_bind_of_ok (runFrom_closeBuffer closed),
    runFrom_modify, kept]

theorem feed_end (closes : SpellsLine [['\x7d']] line) (reading : s.openSection = some .definitions)
    (flat : s.openStructures = []) (opened : s.openBuffer = some buffer) (number : Int) :
    runFrom (feed line number) s =
      (.ok (), { s with declared := s.declared.addBuffer buffer, openBuffer := none }) := by
  have columns : HasColumns [['\x7d']] line :=
    hasColumns_of_spellsLine closes
      (List.forall_mem_singleton.mpr (isColumn_of_all (by decide) (by decide)))
      (by decide) (by decide) (by decide)
  obtain ⟨body, words, read⟩ := columns
  rw [read number s reading, readDefinition_of_columns words (by decide) (by decide)]
  obtain ⟨_, _, _, _, _, _, _⟩ := s
  cases flat
  cases opened
  rfl

end ShaderLift.Scan
