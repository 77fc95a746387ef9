import ShaderLift.Proofs.Header.Comment
import ShaderLift.Proofs.Text.Integers

namespace ShaderLift.Scan

open Stepping

variable {first text body line : Text} {words back : List Text}

theorem runFrom_number {what : Text} {value : Int} (numeral : Text.IsNumeral text value)
    (line : Int) (s : Scan) : runFrom (number what text line) s = (.ok value, s) := by
  rw [number, numeral.toInt_eq]
  rfl

/-- A text without a comment mark. -/
def Unmarked (text : Text) : Prop := ¬ (['/', '/'] : Text) <:+: text

theorem blankMarks_cons {c : Char} {rest : Text} (apart : c = '/' → rest.head? ≠ some '/') :
    blankMarks (c :: rest) = c :: blankMarks rest := by
  rw [blankMarks]
  rintro rest' rfl rfl
  exact apart rfl rfl

/-- Marks are found on both sides of a place that is in the middle of none. -/
theorem blankMarks_append (front rest : Text)
    (apart : front.getLast? = some '/' → rest.head? ≠ some '/') :
    blankMarks (front ++ rest) = blankMarks front ++ blankMarks rest := by
  fun_induction blankMarks front with
  | case1 front ih =>
    have later (last : front.getLast? = some '/') : rest.head? ≠ some '/' := by
      apply apart
      simp [List.getLast?_cons, last]
    simp only [List.cons_append, blankMarks, ih later]
  | case2 c front single ih =>
    have later (last : front.getLast? = some '/') : rest.head? ≠ some '/' := by
      apply apart
      simp [List.getLast?_cons, last]
    rw [List.cons_append, List.cons_append, blankMarks_cons, ih later]
    rintro rfl
    cases front with
    | nil => exact apart rfl
    | cons d front =>
      intro head
      cases Option.some.inj head
      exact single front rfl rfl
  | case3 => rfl

theorem blankMarks_of_unmarked (plain : Unmarked text) : blankMarks text = text := by
  fun_induction blankMarks text with
  | case1 rest ih => exact absurd (List.prefix_append ['/', '/'] rest).isInfix plain
  | case2 c rest single ih => rw [ih fun within => plain (within.trans (List.suffix_cons c rest).isInfix)]
  | case3 => rfl

theorem unmarked_of_not_mem (absent : '/' ∉ text) : Unmarked text :=
  fun within => absent (within.subset List.mem_cons_self)

theorem not_mem_gap {gap : Text} (blank : gap.IsGap) : '/' ∉ gap := by
  intro inside
  have contrary := blank '/' inside
  revert contrary
  decide

/-- Trimming a text does not change its columns. -/
theorem words_blankMarks_trim (text : Text) :
    (blankMarks (Text.trim text)).words = (blankMarks text).words := by
  obtain ⟨front, back, blank, whole⟩ := Text.exists_trim text
  have blankFront : front.IsGap := fun c inside => blank c (List.mem_append_left back inside)
  have blankBack : back.IsGap := fun c inside => blank c (List.mem_append_right front inside)
  have noSlash (last : front.getLast? = some '/') :
      (Text.trim text ++ back).head? ≠ some '/' :=
    absurd (List.mem_of_getLast? last) (not_mem_gap blankFront)
  have noSlash' (last : (Text.trim text).getLast? = some '/') : back.head? ≠ some '/' :=
    fun head => not_mem_gap blankBack (List.mem_of_head? head)
  conv =>
    rhs
    rw [whole, blankMarks_append front _ noSlash, blankMarks_append _ back noSlash',
      blankMarks_of_unmarked (unmarked_of_not_mem (not_mem_gap blankFront)),
      blankMarks_of_unmarked (unmarked_of_not_mem (not_mem_gap blankBack)),
      Text.words_gap_append _ _ blankFront, Text.words_append_gap _ _ blankBack]

theorem blankMarks_spelled (spelled : Text.Spells words text)
    (plain : ∀ word ∈ words, Unmarked word) : blankMarks text = text := by
  induction spelled with
  | none blank => exact blankMarks_of_unmarked (unmarked_of_not_mem (not_mem_gap blank))
  | word blank isWord apart spelled ih =>
    rename_i gap word rest others
    have noSlash (last : (gap ++ word).getLast? = some '/') : rest.head? ≠ some '/' := by
      intro head
      have contrary := apart '/' head
      revert contrary
      decide
    have noSlash' (last : gap.getLast? = some '/') : word.head? ≠ some '/' :=
      absurd (List.mem_of_getLast? last) (not_mem_gap blank)
    rw [blankMarks_append _ rest noSlash, blankMarks_append gap word noSlash',
      blankMarks_of_unmarked (unmarked_of_not_mem (not_mem_gap blank)),
      blankMarks_of_unmarked (plain word List.mem_cons_self),
      ih fun other listed => plain other (List.mem_cons_of_mem word listed)]

/-- Only a line that starts with these words announces the structure of a resource. -/
theorem after?_bindInfoTitle {rest : List Text} (columns : (blankMarks body).words = first :: rest)
    (other : ¬ (first = "Resource" ∧ rest.head? = some ("bind" : Text))) :
    Text.after? bindInfoTitle body = none := by
  cases found : Text.after? bindInfoTitle body with
  | none => rfl
  | some name =>
    have front : blankMarks body = "Resource bind" ++ ' ' :: ("info for" ++ blankMarks name) := by
      rw [Text.eq_of_after? _ _ _ found, blankMarks_append _ _ fun last => absurd last (by decide)]
      rfl
    rw [front, Text.words_append_blank _ _ ' ' (by decide)] at columns
    have start : Text.words "Resource bind" = ["Resource", "bind"] := by decide
    rw [start] at columns
    cases columns
    exact absurd ⟨rfl, rfl⟩ other

theorem readDefinition_of_columns {rest : List Text}
    (columns : (blankMarks body).words = first :: rest)
    (other : ¬ (first = "Resource" ∧ rest.head? = some ("bind" : Text)))
    (plain : layoutKeyword? first = none) (number : Int) :
    readDefinition body number = readColumns first (first :: rest) number := by
  simp only [readDefinition, after?_bindInfoTitle columns other, columns, plain]

theorem readDefinition_of_layout {second : Text} {layout : Layout} {rest : List Text}
    (columns : (blankMarks body).words = first :: second :: rest)
    (keyword : layoutKeyword? first = some layout) (number : Int) (s : Scan) :
    runFrom (readDefinition body number) s =
      runFrom (readColumns second (second :: rest) number) { s with layout } := by
  have other : ¬ (first = "Resource" ∧ (second :: rest).head? = some ("bind" : Text)) := by
    rintro ⟨rfl, _⟩
    cases keyword
  simp only [readDefinition, after?_bindInfoTitle columns other, columns, keyword]
  rfl

/-- A line of the definitions that is made up of words. -/
def SpellsLine (words : List Text) (line : Text) : Prop :=
  ∃ inside, Comments inside line ∧ Text.Spells words inside

/-- A line of the definitions with a second comment mark between its words. -/
def SpellsMarkedLine (front back : List Text) (line : Text) : Prop :=
  ∃ declared placed, Comments (declared ++ "//" ++ placed) line ∧ Text.Spells front declared ∧
    Text.Spells back placed

theorem spellsLine_of_words (inside : Text) (spelled : inside.words = words) :
    SpellsLine words ("//" ++ inside) := ⟨inside, ⟨[], .nil, rfl⟩, Text.spells_iff.mpr spelled⟩

theorem spellsMarkedLine_of_words (declared placed : Text) {front : List Text}
    (spelled : declared.words = front) (spelled' : placed.words = back) :
    SpellsMarkedLine front back ("//" ++ (declared ++ "//" ++ placed)) :=
  ⟨declared, placed, ⟨[], .nil, rfl⟩, Text.spells_iff.mpr spelled, Text.spells_iff.mpr spelled'⟩

/-- A line that is read for its columns when it stands among the definitions. -/
def HasColumns (columns : List Text) (line : Text) : Prop :=
  ∃ body, (blankMarks body).words = columns ∧ ∀ (number : Int) (s : Scan),
    s.openSection = some .definitions →
      runFrom (feed line number) s = runFrom (readDefinition body number) s

theorem hasColumns_of_comment {inside : Text} {columns : List Text} (comment : Comments inside line)
    (read : isIgnored (Text.trim inside) = false)
    (noTitle : Section.ofTitle? (Text.trim inside) = none)
    (words : (blankMarks inside).words = columns) : HasColumns columns line := by
  refine ⟨Text.trim inside, ?_, ?_⟩
  · rw [words_blankMarks_trim, words]
  · intro number s reading
    rw [feed_declaration comment read noTitle, readDeclaration, runFrom_bind_of_ok (runFrom_get s),
      reading]

/-- What may stand in a column: a word without comment mark and equals sign. -/
structure IsColumn (word : Text) : Prop where
  isWord : word.IsWord
  unmarked : Unmarked word
  noEqual : '=' ∉ word

theorem isColumn_of_all {word : Text} (some : word ≠ [])
    (each : word.all (fun c => !Text.isBlank c && c != '/' && c != '=') = true) : IsColumn word := by
  have plain (c : Char) (inside : c ∈ word) : Text.isBlank c = false ∧ c ≠ '/' ∧ c ≠ '=' := by
    simpa [and_assoc] using List.all_eq_true.mp each c inside
  refine ⟨⟨some, fun c inside => (plain c inside).1⟩, ?_, ?_⟩
  · exact unmarked_of_not_mem fun inside => (plain '/' inside).2.1 rfl
  · exact fun inside => (plain '=' inside).2.2 rfl

theorem hasColumns_of_spellsLine {rest : List Text} (spelled : SpellsLine (first :: rest) line)
    (columns : ∀ word ∈ first :: rest, IsColumn word) (noColon : ∀ word ∈ first :: rest, ':' ∉ word)
    (noRuler : first.head? ≠ some '-') (noTitle : first ≠ "Name") :
    HasColumns (first :: rest) line := by
  obtain ⟨inside, comment, words⟩ := spelled
  have subset := (Text.trim_isInfix inside).subset
  have noEqual : '=' ∉ inside :=
    words.not_mem (by decide) fun word listed => (columns word listed).noEqual
  have absent : ':' ∉ inside := words.not_mem (by decide) noColon
  apply hasColumns_of_comment comment
  · exact isIgnored_eq_false_of_leads words.leads_trim (columns first List.mem_cons_self).isWord
      (fun member => noEqual (subset member)) noRuler noTitle
  · exact Section.ofTitle?_eq_none_of_not_mem fun member => absent (subset member)
  · rw [blankMarks_spelled words fun word listed => (columns word listed).unmarked, words.words_eq]

theorem hasColumns_of_spellsMarkedLine {name : Text} (others : List Text)
    (spelled : SpellsMarkedLine (first :: others ++ [name ++ ";"]) back line)
    (columns : ∀ word ∈ first :: others ++ [name ++ ";"] ++ back, IsColumn word)
    (noRuler : first.head? ≠ some '-') (noTitle : first ≠ "Name") :
    HasColumns (first :: others ++ [name ++ ";"] ++ back) line := by
  obtain ⟨declared, placed, comment, words, words'⟩ := spelled
  have front (word : Text) (listed : word ∈ first :: others ++ [name ++ ";"]) : IsColumn word :=
    columns word (List.mem_append_left back listed)
  have behind (word : Text) (listed : word ∈ back) : IsColumn word :=
    columns word (List.mem_append_right _ listed)
  have noEqual : '=' ∉ declared ++ "//" ++ placed := by
    have early := words.not_mem (by decide) fun word listed => (front word listed).noEqual
    have late := words'.not_mem (by decide) fun word listed => (behind word listed).noEqual
    simp [early, late]
  have semicolon : ';' ∈ Text.trim (declared ++ "//" ++ placed) := by
    apply Text.mem_trim _ _ (by decide)
    have listed : (name ++ ";" : Text) ∈ first :: others ++ [name ++ ";"] := by simp
    have ended : ';' ∈ declared := words.mem listed (by simp)
    simp [ended]
  have ending : declared.getLast? ≠ some '/' := by
    intro last
    rcases words.getLast?_eq last with blank | ⟨word, final, ends⟩
    · revert blank
      decide
    · simp only [List.getLast?_append, List.getLast?_singleton, Option.some_or,
        Option.mem_some_iff] at final
      subst final
      simp at ends
  have marked : blankMarks (declared ++ "//" ++ placed) = declared ++ ' ' :: placed := by
    rw [List.append_assoc, blankMarks_append declared _ fun last => absurd last ending,
      blankMarks_spelled words fun word listed => (front word listed).unmarked]
    have rest := blankMarks_spelled words' fun word listed => (behind word listed).unmarked
    exact congrArg (fun text => declared ++ ' ' :: text) rest
  apply hasColumns_of_comment comment
  · rw [List.append_assoc]
    apply isIgnored_eq_false_of_leads (words.leads_trim_append (by simp))
      (front first (by simp)).isWord _ noRuler noTitle
    intro member
    rw [← List.append_assoc] at member
    exact noEqual ((Text.trim_isInfix _).subset member)
  · exact Section.ofTitle?_eq_none_of_mem semicolon (by decide) (by decide) (by decide)
  · rw [marked, Text.words_append_blank _ _ ' ' (by decide), words.words_eq, words'.words_eq]

end ShaderLift.Scan
