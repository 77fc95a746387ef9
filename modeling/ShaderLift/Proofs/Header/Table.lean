import ShaderLift.Conversion
import ShaderLift.Proofs.Header.Definition
import ShaderLift.Proofs.Text.Lines

namespace ShaderLift

variable {listing : Text} {scan : Scan}

namespace Text

/-- Below the first code point outside the basic block, only the ten decimal digits are digits. -/
theorem isDigit_of_ascii {c : Char} (ascii : c.toNat < 128) (other : c.isDigit = false) :
    isDigit c = false := by
  have outside : ¬ (48 ≤ c.toNat ∧ c.toNat ≤ 57) := by
    intro inside
    have digit : c.isDigit = true := Char.isDigit_iff_toNat.mpr inside
    rw [other] at digit
    cases digit
  have noDecimal : decimalValue? c = none := by
    rw [decimalValue?, if_pos ascii, if_neg]
    simpa using outside
  have noSign : inRanges signDigitRanges c = false := by
    have above : ∀ range ∈ signDigitRanges, 128 ≤ range.1 := by decide
    rw [inRanges, List.any_eq_false]
    intro range listed
    have start := above range listed
    simp only [Bool.and_eq_true, decide_eq_true_eq]
    omega
  rw [isDigit, isDecimal, noDecimal, noSign]
  rfl

end Text

namespace Scan

open Stepping

variable {line stem slot body : Text} {columns refused : List Text} {s : Scan}
  {signature : Signature} {resource : Resource}

/-- What may stand in a column of a table. -/
structure IsCell (cell : Text) : Prop where
  isWord : cell.IsWord
  ascii : ∀ c ∈ cell, c.toNat < 128
  noEqual : '=' ∉ cell

theorem isCell_of_all {cells : List Text}
    (each : cells.all (fun cell => !cell.isEmpty &&
      cell.all fun c => !Text.isBlank c && c.toNat < 128 && c != '=') = true) :
    ∀ cell ∈ cells, IsCell cell := by
  intro cell listed
  obtain ⟨some, plain⟩ := Bool.and_eq_true_iff.mp (List.all_eq_true.mp each cell listed)
  have chars (c : Char) (inside : c ∈ cell) :
      Text.isBlank c = false ∧ c.toNat < 128 ∧ c ≠ '=' := by
    simpa [and_assoc] using List.all_eq_true.mp plain c inside
  exact ⟨⟨by simpa using some, fun c inside => (chars c inside).1⟩,
    fun c inside => (chars c inside).2.1, fun inside => (chars '=' inside).2.2 rfl⟩

/-- The columns of a row that binds a resource. The bind column ends with the slot, and further
columns may follow. -/
inductive BindingColumns : Resource → List Text → Prop
  | row {name kind format dimension stem slot count : Text} {number : Int} {extra : List Text}
      (cells : ∀ cell ∈ name :: kind :: format :: dimension :: (stem ++ slot) :: count :: extra,
        IsCell cell)
      (slotIs : slot.IsDigits) (stemEnds : ∀ c ∈ stem.getLast?, c.isDigit = false)
      (countIs : count.IsNumeral number) :
      BindingColumns
        { name := Text.without '$' name, kind := .ofText kind, format, dimension
          bind := Text.decimalsValue slot, bindName := stem ++ slot, count := number }
        (name :: kind :: format :: dimension :: (stem ++ slot) :: count :: extra)

/-- The register column of a signature: a number, or a name that has none. -/
inductive RegisterColumn : Text → Option Int → Prop
  | numbered {register : Text} (number : register.IsDigits) :
      RegisterColumn register (some (Text.decimalsValue register))
  | named {register : Text} {c : Char} (inside : c ∈ register) (other : c.isDigit = false) :
      RegisterColumn register none

/-- The columns of a row of a signature. Further columns may follow. -/
inductive SignatureColumns : Signature → List Text → Prop
  | row {semantic index mask register systemValue format : Text} {indexNumber : Int}
      {registerNumber : Option Int} {extra : List Text}
      (cells : ∀ cell ∈ semantic :: index :: mask :: register :: systemValue :: format :: extra,
        IsCell cell)
      (indexIs : index.IsNumeral indexNumber) (registerIs : RegisterColumn register registerNumber) :
      SignatureColumns
        { semantic, index := indexNumber, mask, register := registerNumber, registerName := register
          systemValue, format, fieldName := semanticName semantic }
        (semantic :: index :: mask :: register :: systemValue :: format :: extra)

/-- A line with the columns of a row, unless it starts like a ruler, like column titles or with one
of the given words. -/
def RowLine (refused : List Text) (columns : List Text) (line : Text) : Prop :=
  ∃ inside, Comments inside line ∧ Text.Spells columns inside ∧
    ∀ start ∈ ("-" :: "Name " :: refused : List Text), ¬ start <+: Text.trim inside

theorem rowLine_of_words (inside : Text) (spelled : inside.words = columns)
    (starts : ("-" :: "Name " :: refused : List Text).all
      (fun start => !Text.startsWith start (Text.trim inside)) = true) :
    RowLine refused columns ("//" ++ inside) := by
  refine ⟨inside, ⟨[], .nil, rfl⟩, Text.spells_iff.mpr spelled, fun start listed => ?_⟩
  rw [← Text.startsWith_iff, Bool.not_eq_true]
  simpa using List.all_eq_true.mp starts start listed

/-- A line that belongs to no row: a blank one, an empty comment, a ruler or column titles. -/
inductive IsNoise : Text → Prop
  | blank {line : Text} (gap : line.IsGap) : IsNoise line
  | empty {inside line : Text} (comment : Comments inside line) (gap : inside.IsGap) : IsNoise line
  | ruler {inside line : Text} (comment : Comments inside line)
      (starts : ("-" : Text) <+: Text.trim inside) : IsNoise line
  | titles {inside line : Text} (comment : Comments inside line)
      (starts : ("Name " : Text) <+: Text.trim inside) : IsNoise line

/-- A line that is neither blank nor a comment. -/
def IsCode (line : Text) : Prop := ¬ line.IsGap ∧ ¬ ("//" : Text) <+: Text.trim line

inductive Table where
  | bindings | inputs | outputs

namespace Table

def toSection : Table → Section
  | bindings => .bindings
  | inputs => .inputSignature
  | outputs => .outputSignature

/-- The two words of the title in front of a table. -/
def subject : Table → Text
  | bindings => "Resource"
  | inputs => "Input"
  | outputs => "Output"

def form : Table → Text
  | bindings => "Bindings:"
  | inputs | outputs => "signature:"

theorem isWord_subject (table : Table) : table.subject.IsWord := by
  cases table <;> exact Text.isWord_of_all (by decide) rfl

end Table

/-- Lines that, read while a table is open, list resources, inputs and outputs. -/
inductive Lists : Option Table → List Text → List Resource → List Signature → List Signature → Prop
  | done {table : Option Table} : Lists table [] [] [] []
  | noise {table : Option Table} {line : Text} {lines : List Text} {resources : List Resource}
      {inputs outputs : List Signature} (skipped : IsNoise line)
      (rest : Lists table lines resources inputs outputs) :
      Lists table (line :: lines) resources inputs outputs
  | code {table : Option Table} {line : Text} {lines : List Text} {resources : List Resource}
      {inputs outputs : List Signature} (isCode : IsCode line)
      (rest : Lists none lines resources inputs outputs) :
      Lists table (line :: lines) resources inputs outputs
  | title {table : Option Table} (opened : Table) {line : Text} {lines : List Text}
      {resources : List Resource} {inputs outputs : List Signature}
      (spelled : SpellsLine [opened.subject, opened.form] line)
      (rest : Lists (some opened) lines resources inputs outputs) :
      Lists table (line :: lines) resources inputs outputs
  | resource {line : Text} {lines columns : List Text} {resource : Resource}
      {resources : List Resource} {inputs outputs : List Signature}
      (row : BindingColumns resource columns) (spelled : RowLine [] columns line)
      (rest : Lists (some .bindings) lines resources inputs outputs) :
      Lists (some .bindings) (line :: lines) (resource :: resources) inputs outputs
  | input {line : Text} {lines columns : List Text} {signature : Signature}
      {resources : List Resource} {inputs outputs : List Signature}
      (row : SignatureColumns signature columns) (spelled : RowLine ["no "] columns line)
      (rest : Lists (some .inputs) lines resources inputs outputs) :
      Lists (some .inputs) (line :: lines) resources (signature :: inputs) outputs
  | output {line : Text} {lines columns : List Text} {signature : Signature}
      {resources : List Resource} {inputs outputs : List Signature}
      (row : SignatureColumns signature columns) (spelled : RowLine ["no "] columns line)
      (rest : Lists (some .outputs) lines resources inputs outputs) :
      Lists (some .outputs) (line :: lines) resources inputs (signature :: outputs)

theorem feed_noise (noise : IsNoise line) (number : Int) (s : Scan) :
    runFrom (feed line number) s = (.ok (), s) := by
  cases noise with
  | blank gap =>
    have empty : Text.trim line = [] := by
      rw [Text.trim, gap.trimStart_eq]
      rfl
    simp only [feed, empty]
    rfl
  | empty comment gap =>
    apply feed_ignored comment
    rw [Text.trim, gap.trimStart_eq]
    rfl
  | ruler comment starts =>
    apply feed_ignored comment
    obtain ⟨rest, whole⟩ := starts
    rw [← whole]
    simp [isIgnored]
  | titles comment starts =>
    apply feed_ignored comment
    rw [isIgnored, (Text.startsWith_iff _ _).mpr starts, Bool.or_true]

/-- A line of code closes the table that is open. -/
theorem feed_code (isCode : IsCode line) (closed : s.openBuffer = none) (number : Int) :
    runFrom (feed line number) s = (.ok (), { s with openSection := none }) := by
  have some : (!(Text.trim line).isEmpty) = true := by
    obtain ⟨c, inside, visible⟩ : ∃ c ∈ line, Text.isBlank c = false := by
      simpa [Text.IsGap] using isCode.1
    have kept := Text.mem_trim c line visible inside
    simpa using List.ne_nil_of_mem kept
  have noComment : Text.after? "//" (Text.trim line) = none := by
    rw [← Option.not_isSome_iff_eq_none]
    exact mt (Text.startsWith_iff _ _).mp isCode.2
  simp only [feed, noComment, some, Bool.true_and]
  rw [runFrom_bind_of_ok (runFrom_get s)]
  cases opened : s.openSection with
  | none => rw [if_neg (by simp), runFrom_pure, ← opened]
  | some table =>
    show runFrom (closeBuffer >>= fun _ => _) s = _
    rw [runFrom_bind_of_ok (runFrom_closeBuffer closed)]
    rfl

theorem trim_of_two {first second text : Text} (spelled : Text.Spells [first, second] text) :
    ∃ gap : Text, gap.IsGap ∧ Text.trim text = first ++ gap ++ second := by
  obtain _ | @⟨lead, _, _, _, blankLead, isFirst, _, spelled⟩ := spelled
  obtain _ | @⟨gap, _, trail, _, blank, isSecond, _, spelled⟩ := spelled
  have blankTrail : trail.IsGap := by
    cases spelled with
    | none blank => exact blank
  have shape : lead ++ first ++ (gap ++ second ++ trail) =
      lead ++ ((first ++ gap ++ second) ++ trail) := by simp
  refine ⟨gap, blank, ?_⟩
  rw [shape]
  apply Text.trim_padded
  · exact List.forall_mem_append.mpr ⟨blankLead, blankTrail⟩
  · simp [isFirst.nonempty]
  · intro c head
    obtain ⟨d, letters, rfl⟩ := List.exists_cons_of_ne_nil isFirst.nonempty
    rw [← Option.some.inj head]
    exact isFirst.solid d List.mem_cons_self
  · intro c last
    rw [List.getLast?_append_of_ne_nil _ isSecond.nonempty] at last
    exact isSecond.solid c (List.mem_of_getLast? last)

theorem titleBefore?_append {word gap : Text} (ending : Text) (isWord : word.IsWord)
    (letters : word.all Char.isAlpha = true) (blank : gap.IsGap) :
    Section.titleBefore? ending (word ++ gap ++ ending) = some word := by
  have trimmed : Text.trimEnd (word ++ gap) = word := by
    rcases List.eq_nil_or_concat' word with rfl | ⟨front, last, rfl⟩
    · exact absurd rfl isWord.nonempty
    · rw [List.append_assoc, List.singleton_append, Text.trimEnd_append_visible front gap last
        (isWord.solid last (by simp)), blank.trimEnd_eq]
  have each : word.all (fun c => c.isAlpha || c == ' ') = true :=
    List.all_eq_true.mpr fun c inside => by rw [List.all_eq_true.mp letters c inside, Bool.true_or]
  rw [Section.titleBefore?, Text.before?_append, Option.bind_some, trimmed, if_pos each]

theorem ofTitle?_title (table : Table) {inside : Text}
    (spelled : Text.Spells [table.subject, table.form] inside) :
    Section.ofTitle? (Text.trim inside) = some table.toSection := by
  obtain ⟨gap, blank, whole⟩ := trim_of_two spelled
  have letters : table.subject.all Char.isAlpha = true := by cases table <;> rfl
  have title := titleBefore?_append table.form table.isWord_subject letters blank
  have other (known : Text)
      (differs : Text.after? known.reverse (table.form.reverse ++ (table.subject ++ gap).reverse) =
        none) :
      Section.titleBefore? known (table.subject ++ gap ++ table.form) = none := by
    rw [Section.titleBefore?, Text.before?, List.reverse_append, differs]
    rfl
  rw [Section.ofTitle?, Text.trim_trim, whole]
  cases table with
  | bindings =>
    have found : Section.titleBefore? "Bindings:" (Table.subject .bindings ++ gap ++ Table.form .bindings) =
      some _ := title
    rw [other "Definitions:" rfl, found]
    rfl
  | inputs =>
    have found : Section.titleBefore? "signature:" (Table.subject .inputs ++ gap ++ Table.form .inputs) =
      some _ := title
    rw [other "Definitions:" rfl, other "Bindings:" rfl, found]
    rfl
  | outputs =>
    have found : Section.titleBefore? "signature:" (Table.subject .outputs ++ gap ++ Table.form .outputs) =
      some _ := title
    rw [other "Definitions:" rfl, other "Bindings:" rfl, found]
    rfl

theorem feed_table (table : Table) (spelled : SpellsLine [table.subject, table.form] line)
    (closed : s.openBuffer = none) (number : Int) :
    runFrom (feed line number) s =
      (.ok (), { s with
        log := s.log ++ [.sectionOpened table.toSection number]
        openSection := some table.toSection }) := by
  obtain ⟨inside, comment, words⟩ := spelled
  have plain : ∀ word ∈ [table.subject, table.form], '=' ∉ word := by cases table <;> decide
  have noEqual : '=' ∉ Text.trim inside := fun equal =>
    words.not_mem (by decide) plain ((Text.trim_isInfix inside).subset equal)
  have noRuler : table.subject.head? ≠ some '-' := by cases table <;> decide
  have noTitle : table.subject ≠ "Name" := by cases table <;> decide
  have read := isIgnored_eq_false_of_leads words.leads_trim table.isWord_subject noEqual noRuler
    noTitle
  exact feed_title comment read (ofTitle?_title table words) closed number

/-- A row with a digit is read in the section that is open. -/
theorem feed_row (spelled : RowLine refused columns line) (cells : ∀ cell ∈ columns, IsCell cell)
    (digit : ∃ cell ∈ columns, ∃ c ∈ cell, c.isDigit = true) :
    ∃ body, body.words = columns ∧ (∀ start ∈ refused, Text.startsWith start body = false) ∧
      ∀ number, feed line number = readDeclaration body number := by
  obtain ⟨inside, comment, words, starts⟩ := spelled
  have noStart (start : Text) (listed : start ∈ ("-" :: "Name " :: refused : List Text)) :
      Text.startsWith start (Text.trim inside) = false := by
    rw [← Bool.not_eq_true, Text.startsWith_iff]
    exact starts start listed
  obtain ⟨cell, listed, c, member, isDigit⟩ := digit
  have found : c ∈ Text.trim inside :=
    Text.mem_trim c inside (Text.isBlank_digit c isDigit) (words.mem listed member)
  refine ⟨Text.trim inside, ?_, ?_, feed_declaration comment ?_ ?_⟩
  · rw [Text.words_trim, words.words_eq]
  · exact fun start among => noStart start (by simp [among])
  · rw [isIgnored_eq_false_iff]
    refine ⟨List.ne_nil_of_mem found, ?_, ?_, ?_⟩
    · intro equal
      exact words.not_mem (by decide) (fun cell listed => (cells cell listed).noEqual)
        ((Text.trim_isInfix inside).subset equal)
    · intro head
      obtain ⟨rest, whole⟩ := List.head?_eq_some_iff.mp head
      exact starts "-" (by simp) ⟨rest, whole.symm⟩
    · exact starts _ (by simp)
  · apply Section.ofTitle?_eq_none_of_mem found (Text.isBlank_digit c isDigit)
      (Text.isAlpha_digit c isDigit)
    rintro rfl
    cases isDigit

theorem finalDigits_append (digits : slot.IsDigits) (ascii : ∀ c ∈ stem ++ slot, c.toNat < 128)
    (ends : ∀ c ∈ stem.getLast?, c.isDigit = false) :
    finalDigits (stem ++ slot) = slot := by
  have stops : stem.reverse.takeWhile Text.isDecimal = [] := by
    cases turned : stem.reverse with
    | nil => rfl
    | cons c rest =>
      have last : stem.getLast? = some c := by rw [← List.head?_reverse, turned, List.head?_cons]
      have member : c ∈ stem ++ slot := List.mem_append_left slot (List.mem_of_getLast? last)
      have other := Text.isDigit_of_ascii (ascii c member) (ends c last)
      rw [Text.isDigit, Bool.or_eq_false_iff] at other
      exact List.takeWhile_cons_of_neg (by simp [other.1])
  have passes (c : Char) (inside : c ∈ slot.reverse) : Text.isDecimal c = true :=
    digits.decimal c (List.mem_reverse.mp inside)
  rw [finalDigits, List.reverse_append, List.takeWhile_append_of_pos passes, stops, List.append_nil,
    List.reverse_reverse]

theorem runFrom_readInteger {digits : Text} (number : digits.IsDigits) (s : Scan) :
    runFrom (liftM (Fault.readInteger digits) : Scanning Int) s =
      (.ok (Text.decimalsValue digits : Nat), s) := by
  rw [Fault.readInteger_digits digits number.nonempty number.each number.short]
  rfl

theorem runFrom_readBinding (row : BindingColumns resource columns) (words : body.words = columns)
    (line : Int) (s : Scan) :
    runFrom (readBinding body line) s =
      (.ok (), { s with declared := s.declared.addResource resource }) := by
  cases row with
  | @row name kind format dimension stem slot count number extra cells slotIs stemEnds countIs =>
    have bound : IsCell (stem ++ slot) := cells _ (by simp)
    have cut := finalDigits_append slotIs bound.ascii stemEnds
    have some : ¬ (finalDigits (stem ++ slot)).isEmpty = true := by
      rw [cut]
      simpa using slotIs.nonempty
    rw [readBinding, words]
    dsimp only
    rw [if_neg some, cut, runFrom_bind_of_ok (runFrom_readInteger slotIs s),
      runFrom_bind_of_ok (runFrom_number countIs line s)]
    rfl

theorem runFrom_readRegister {register : Text} {number : Option Int}
    (registerIs : RegisterColumn register number) (ascii : ∀ c ∈ register, c.toNat < 128) (s : Scan) :
    runFrom (if Text.allDigits register then some <$> liftM (Fault.readInteger register)
      else pure none : Scanning (Option Int)) s = (.ok number, s) := by
  cases registerIs with
  | numbered digits =>
    rw [if_pos (Text.allDigits_digits register digits.nonempty digits.each),
      Fault.readInteger_digits register digits.nonempty digits.each digits.short]
    rfl
  | named inside other =>
    rw [if_neg, runFrom_pure]
    rw [Text.allDigits, Bool.and_eq_true, not_and]
    intro _ each
    have digit := List.all_eq_true.mp each _ inside
    rw [Text.isDigit_of_ascii (ascii _ inside) other] at digit
    cases digit

theorem runFrom_readSignature (row : SignatureColumns signature columns)
    (words : body.words = columns) (declares : Text.startsWith "no " body = false) (line : Int)
    (s : Scan) :
    runFrom (readSignature body line) s = (.ok (some signature), s) := by
  cases row with
  | @row semantic index mask register systemValue format _ _ extra cells indexIs registerIs =>
    have cell : IsCell register := cells _ (by simp)
    have read := runFrom_readRegister registerIs cell.ascii s
    rw [readSignature, if_neg (Bool.eq_false_iff.mp declares), words]
    dsimp only
    rw [runFrom_bind_of_ok (runFrom_number indexIs line s)]
    by_cases numbered : Text.allDigits register = true
    · rw [if_pos numbered] at read ⊢
      rw [runFrom_bind_of_ok read]
      rfl
    · rw [if_neg numbered] at read ⊢
      rw [runFrom_bind_of_ok read]
      rfl

/-- What a scan has declared when resources, inputs and outputs are added to it. -/
def extended (declared : Declarations) (resources : List Resource) (inputs outputs : List Signature) :
    Declarations :=
  { declared with
    resources := declared.resources ++ resources
    inputs := declared.inputs ++ inputs
    outputs := declared.outputs ++ outputs }

theorem feed_binding (row : BindingColumns resource columns) (spelled : RowLine [] columns line)
    (reading : s.openSection = some .bindings) (number : Int) :
    runFrom (feed line number) s =
      (.ok (), { s with declared := s.declared.addResource resource }) := by
  obtain ⟨cells, digit⟩ : (∀ cell ∈ columns, IsCell cell) ∧
      ∃ cell ∈ columns, ∃ c ∈ cell, c.isDigit = true := by
    cases row with
    | row cells slotIs stemEnds countIs => exact ⟨cells, _, by simp, countIs.exists_digit⟩
  obtain ⟨body, words, _, read⟩ := feed_row spelled cells digit
  rw [read, readDeclaration, runFrom_bind_of_ok (runFrom_get s), reading]
  dsimp only
  rw [← reading, runFrom_readBinding row words number s]

/-- A row whose count is no number is refused. -/
theorem feed_badCount {name kind format dimension count : Text} {issue : Text.IntegerIssue}
    (slotIs : slot.IsDigits) (stemEnds : ∀ c ∈ stem.getLast?, c.isDigit = false)
    (bad : Text.toInt count = .error issue)
    (cells : ∀ cell ∈ [name, kind, format, dimension, stem ++ slot, count], IsCell cell)
    (spelled : RowLine [] [name, kind, format, dimension, stem ++ slot, count] line)
    (reading : s.openSection = some .bindings) (number : Int) :
    runFrom (feed line number) s = (.error (.declaration (.badNumber "count" count) number), s) := by
  have bound : IsCell (stem ++ slot) := cells _ (by simp)
  have cut := finalDigits_append slotIs bound.ascii stemEnds
  have some : ¬ (finalDigits (stem ++ slot)).isEmpty = true := by
    rw [cut]
    simpa using slotIs.nonempty
  have refused : runFrom (Scan.number "count" count number) s =
      (.error (.declaration (.badNumber "count" count) number), s) := by
    rw [Scan.number, bad]
    rfl
  obtain ⟨c, letters, whole⟩ := List.exists_cons_of_ne_nil slotIs.nonempty
  have digit : ∃ cell ∈ [name, kind, format, dimension, stem ++ slot, count], ∃ c ∈ cell,
      c.isDigit = true :=
    ⟨stem ++ slot, by simp, c, by simp [whole], slotIs.each c (by simp [whole])⟩
  obtain ⟨body, words, _, read⟩ := feed_row spelled cells digit
  rw [read, readDeclaration, runFrom_bind_of_ok (runFrom_get s), reading]
  dsimp only
  rw [readBinding, words]
  dsimp only
  rw [if_neg some, cut, runFrom_bind_of_ok (runFrom_readInteger slotIs s),
    runFrom_bind_of_error refused]

section Row

variable (row : SignatureColumns signature columns) (spelled : RowLine ["no "] columns line)

include row spelled

theorem feed_signature :
    ∃ body, (∀ number, feed line number = readDeclaration body number) ∧
      ∀ (number : Int) (s : Scan), runFrom (readSignature body number) s = (.ok (some signature), s) := by
  obtain ⟨cells, digit⟩ : (∀ cell ∈ columns, IsCell cell) ∧
      ∃ cell ∈ columns, ∃ c ∈ cell, c.isDigit = true := by
    cases row with
    | row cells indexIs registerIs => exact ⟨cells, _, by simp, indexIs.exists_digit⟩
  obtain ⟨body, words, noStart, read⟩ := feed_row spelled cells digit
  exact ⟨body, read, runFrom_readSignature row words (noStart _ (by simp))⟩

theorem feed_input (reading : s.openSection = some .inputSignature)
    (number : Int) :
    runFrom (feed line number) s = (.ok (), { s with declared := s.declared.addInput signature }) := by
  obtain ⟨body, read, signed⟩ := feed_signature row spelled
  rw [read, readDeclaration, runFrom_bind_of_ok (runFrom_get s), reading]
  dsimp only
  rw [← reading, runFrom_bind_of_ok (signed number s)]
  rfl

theorem feed_output (reading : s.openSection = some .outputSignature)
    (number : Int) :
    runFrom (feed line number) s = (.ok (), { s with declared := s.declared.addOutput signature }) := by
  obtain ⟨body, read, signed⟩ := feed_signature row spelled
  rw [read, readDeclaration, runFrom_bind_of_ok (runFrom_get s), reading]
  dsimp only
  rw [← reading, runFrom_bind_of_ok (signed number s)]
  rfl

end Row

/-- Lines of tables are read without a fault, and what they list is declared in order. -/
theorem Lists.feedAll {table : Option Table} {lines : List Text} {resources : List Resource}
    {inputs outputs : List Signature} (lists : Lists table lines resources inputs outputs)
    (reading : s.openSection = table.map Table.toSection) (closed : s.openBuffer = none)
    (number : Int) :
    ∃ t : Scan, runFrom (Scan.feedAll number lines) s = (.ok (), t) ∧ t.openBuffer = none ∧
      t.declared = extended s.declared resources inputs outputs := by
  -- a title or a line of code changes the section, so both the table and the scan stay open
  induction lists generalizing s number with
  | done => exact ⟨s, rfl, closed, by simp [extended]⟩
  | noise skipped rest ih =>
    rw [Scan.feedAll, runFrom_bind_of_ok (feed_noise skipped number s)]
    exact ih reading closed _
  | code isCode rest ih =>
    rw [Scan.feedAll, runFrom_bind_of_ok (feed_code isCode closed number)]
    exact ih rfl (by exact closed) _
  | title opened spelled rest ih =>
    rw [Scan.feedAll, runFrom_bind_of_ok (feed_table opened spelled closed number)]
    exact ih rfl (by exact closed) _
  | @resource _ _ _ added _ _ _ row spelled rest ih =>
    rw [Scan.feedAll, runFrom_bind_of_ok (feed_binding row spelled reading number)]
    obtain ⟨t, run, still, declared⟩ :=
      ih (s := { s with declared := s.declared.addResource added }) reading closed (number + 1)
    exact ⟨t, run, still, declared.trans (by simp [extended, Declarations.addResource])⟩
  | @input _ _ _ added _ _ _ row spelled rest ih =>
    rw [Scan.feedAll, runFrom_bind_of_ok (feed_input row spelled reading number)]
    obtain ⟨t, run, still, declared⟩ :=
      ih (s := { s with declared := s.declared.addInput added }) reading closed (number + 1)
    exact ⟨t, run, still, declared.trans (by simp [extended, Declarations.addInput])⟩
  | @output _ _ _ added _ _ _ row spelled rest ih =>
    rw [Scan.feedAll, runFrom_bind_of_ok (feed_output row spelled reading number)]
    obtain ⟨t, run, still, declared⟩ :=
      ih (s := { s with declared := s.declared.addOutput added }) reading closed (number + 1)
    exact ⟨t, run, still, declared.trans (by simp [extended, Declarations.addOutput])⟩

end Scan

theorem scanHeader_of_ok (scanned : Stepping.runFrom (Scan.scan listing) {} = (.ok (), scan)) :
    (scanHeader listing).result = .ok scan.declared := by
  have same : Scan.scan listing {} = (.ok (), scan) := scanned
  rw [scanHeader, same]

theorem scanHeader_of_error {fault : Fault}
    (failed : Stepping.runFrom (Scan.scan listing) {} = (.error fault, scan)) :
    (scanHeader listing).result = .error fault := by
  have same : Scan.scan listing {} = (.error fault, scan) := failed
  rw [scanHeader, same]

/-- A header of tables declares what the rows of its tables list, in order and nothing else. -/
theorem scanHeader_tables {listing : Text} {resources : List Resource}
    {inputs outputs : List Signature}
    (lists : Scan.Lists none (Text.lines listing) resources inputs outputs) :
    (scanHeader listing).result = .ok { resources, inputs, outputs } := by
  obtain ⟨scan, run, closed, declared⟩ := lists.feedAll (s := {}) rfl rfl 1
  have scanned : Stepping.runFrom (Scan.scan listing) {} = (.ok (), scan) := by
    rw [Scan.scan, Stepping.runFrom_bind_of_ok run, Scan.runFrom_closeBuffer closed]
  rw [scanHeader_of_ok scanned, declared]
  rfl

/-- A header with one row in each of its tables. -/
def tableLines : List Text :=
  ["//Resource Bindings:", "//Name Type", "//---", "//$a texture float4 2d t3 1",
    "//Input signature:", "//", "//SV_A 0 xy oDepth NONE float xy", "//Output signature:",
    "//B +1 x 2 NONE uint", "ret"]

theorem lists_tableLines :
    Scan.Lists none tableLines [⟨"a", .texture, "float4", "2d", 3, "t3", 1⟩]
      [⟨"SV_A", 0, "xy", none, "oDepth", "NONE", "float", "A", 1, 0⟩]
      [⟨"B", 1, "x", some 2, "2", "NONE", "uint", "B", 1, 0⟩] := by
  have digits (run : Text) (some : run ≠ []) (each : run.all Char.isDigit = true)
      (short : run.length ≤ Text.maxIntegerDigits) : run.IsDigits :=
    Text.isDigits_of_all some each short
  have kind : ResourceKind.ofText "texture" = .texture := by decide
  have named : semanticName "SV_A" = "A" := by decide
  have named' : semanticName "B" = "B" := by decide
  have resource := @Scan.BindingColumns.row "$a" "texture" "float4" "2d" "t" "3" "1" 1 []
    (Scan.isCell_of_all rfl) (digits _ (by decide) rfl (by decide)) (by simp)
    (.plain (digits "1" (by decide) rfl (by decide)))
  have input := @Scan.SignatureColumns.row "SV_A" "0" "xy" "oDepth" "NONE" "float" 0 none ["xy"]
    (Scan.isCell_of_all rfl) (.plain (digits "0" (by decide) rfl (by decide)))
    (.named (c := 'o') (by decide) rfl)
  have output := @Scan.SignatureColumns.row "B" "+1" "x" "2" "NONE" "uint" 1 (some 2) []
    (Scan.isCell_of_all rfl) (.plus (digits "1" (by decide) rfl (by decide)))
    (.numbered (digits "2" (by decide) rfl (by decide)))
  rw [kind] at resource
  rw [named] at input
  rw [named'] at output
  have code : Scan.IsCode "ret" := by
    refine ⟨fun blank => ?_, by decide⟩
    have contrary := blank 'r' (by decide)
    revert contrary
    decide
  exact .title .bindings (Scan.spellsLine_of_words "Resource Bindings:" rfl) <|
    .noise (.titles ⟨[], .nil, rfl⟩ (by decide : _ <+: Text.trim "Name Type")) <|
    .noise (.ruler ⟨[], .nil, rfl⟩ (by decide : _ <+: Text.trim "---")) <|
    .resource resource (Scan.rowLine_of_words "$a texture float4 2d t3 1" rfl rfl) <|
    .title .inputs (Scan.spellsLine_of_words "Input signature:" rfl) <|
    .noise (.empty ⟨[], .nil, rfl⟩ .nil) <|
    .input input (Scan.rowLine_of_words "SV_A 0 xy oDepth NONE float xy" rfl rfl) <|
    .title .outputs (Scan.spellsLine_of_words "Output signature:" rfl) <|
    .output output (Scan.rowLine_of_words "B +1 x 2 NONE uint" rfl rfl) <|
    .code code .done

theorem scanHeader_tableLines :
    Text.lines (Text.join "\n" tableLines) = tableLines ∧
      (scanHeader (Text.join "\n" tableLines)).result =
        .ok
          { resources := [⟨"a", .texture, "float4", "2d", 3, "t3", 1⟩]
            inputs := [⟨"SV_A", 0, "xy", none, "oDepth", "NONE", "float", "A", 1, 0⟩]
            outputs := [⟨"B", 1, "x", some 2, "2", "NONE", "uint", "B", 1, 0⟩] } := by
  have lines : Text.lines (Text.join "\n" tableLines) = tableLines := by decide +kernel
  refine ⟨lines, scanHeader_tables ?_⟩
  rw [lines]
  exact lists_tableLines

/-- A count with more digits than a number may have. -/
def longCount : Text := List.replicate (Text.maxIntegerDigits + 1) '1'

/-- A row is refused when its count has too many digits. -/
theorem scanHeader_longCount :
    (scanHeader ("//Resource Bindings:" ++ '\n' :: ("//a b c d t0 " ++ longCount))).result =
      .error (.declaration (.badNumber "count" longCount) 2) := by
  obtain ⟨each, filled, tooLong⟩ := Text.toInt_ones (show longCount = _ from rfl)
  generalize longCount = count at each filled tooLong ⊢
  have cell : Scan.IsCell count := by
    refine ⟨⟨filled, fun c inside => Text.isBlank_digit c (each c inside)⟩, ?_, ?_⟩
    · intro c inside
      have bounds := Text.digit_code c (each c inside)
      omega
    · exact fun inside => Bool.false_ne_true (each '=' inside)
  have unbroken (c : Char) (inside : c ∈ count) : Text.isLineBreak c = false := by
    have bounds := Text.digit_code c (each c inside)
    simp only [Text.isLineBreak, Bool.or_eq_false_iff, Bool.and_eq_false_iff, decide_eq_false_iff_not,
      beq_eq_false_iff_ne]
    omega
  have lines : Text.lines ("//Resource Bindings:" ++ '\n' :: ("//a b c d t0 " ++ count)) =
      [("//Resource Bindings:" : Text), "//a b c d t0 " ++ count] := by
    rw [Text.lines_append_newline _ _ (Text.unbroken_of_all rfl), Text.lines_of_unbroken (by simp)]
    exact List.forall_mem_append.mpr ⟨Text.unbroken_of_all rfl, unbroken⟩
  have spelled : Scan.RowLine [] ["a", "b", "c", "d", "t" ++ "0", count]
      ("//a b c d t0 " ++ count) := by
    have trimmed : Text.trim ("a b c d t0" ++ ' ' :: count) =
        'a' :: Text.trimEnd (" b c d t0" ++ ' ' :: count) :=
      Text.trim_gap_append [] _ 'a' .nil rfl
    refine ⟨"a b c d t0" ++ ' ' :: count, ⟨[], .nil, by simp⟩, Text.spells_iff.mpr ?_, ?_⟩
    · rw [Text.words_append_blank _ _ ' ' rfl, cell.isWord.words_eq]
      rfl
    · rw [trimmed]
      intro start listed
      simp only [List.mem_cons, List.not_mem_nil, or_false] at listed
      rcases listed with rfl | rfl
      all_goals
        rintro ⟨rest, same⟩
        cases (List.cons.inj same).1
  have cells : ∀ cell ∈ (["a", "b", "c", "d", "t" ++ "0", count] : List Text), Scan.IsCell cell := by
    have known : ∀ cell ∈ (["a", "b", "c", "d", "t" ++ "0"] : List Text), Scan.IsCell cell :=
      Scan.isCell_of_all rfl
    exact List.forall_mem_append.mpr ⟨known, List.forall_mem_singleton.mpr cell⟩
  have opened : Stepping.runFrom (Scan.feed "//Resource Bindings:" 1) {} =
      (.ok (), { openSection := .some .bindings, log := [.sectionOpened .bindings 1] }) :=
    Scan.feed_table .bindings (Scan.spellsLine_of_words "Resource Bindings:" rfl) rfl 1
  have refused := Scan.feed_badCount
    (s := { openSection := .some .bindings, log := [.sectionOpened .bindings 1] })
    (Text.isDigits_of_all (by decide) rfl (by decide)) (by simp) tooLong cells spelled rfl (1 + 1)
  apply scanHeader_of_error
  rw [Scan.scan, lines]
  apply Stepping.runFrom_bind_of_error
  rw [Scan.feedAll, Stepping.runFrom_bind_of_ok opened, Scan.feedAll,
    Stepping.runFrom_bind_of_error refused]
  rfl

end ShaderLift
