import ShaderLift.Proofs.Text.Ends
import ShaderLift.Proofs.Text.Lines
import ShaderLift.Proofs.Token.Spelling
import Mathlib.Data.List.Pairwise

namespace ShaderLift

/-- Tokens whose lines do not go back. -/
def InLineOrder (tokens : List Token) : Prop := tokens.Pairwise fun a b => a.line ≤ b.line

namespace Token

variable {number : Int} {lines texts : List Text} {token : Token}

theorem ofLines_inLineOrder (number : Int) (lines : List Text) :
    InLineOrder (ofLines number lines) ∧ ∀ token ∈ ofLines number lines, number ≤ token.line := by
  induction lines generalizing number with
  | nil => exact ⟨.nil, by simp [ofLines]⟩
  | cons line rest ih =>
    obtain ⟨ordered, behind⟩ := ih (number + 1)
    have here (token : Token) (inside : token ∈ (ofLine line).map (⟨·, number⟩)) :
        token.line = number := by
      obtain ⟨text, _, rfl⟩ := List.mem_map.mp inside
      rfl
    refine ⟨List.pairwise_append.mpr ⟨?_, ordered, ?_⟩, ?_⟩
    · refine List.pairwise_of_forall_mem_list fun a first b second => ?_
      exact Int.le_of_eq ((here a first).trans (here b second).symm)
    · intro a first b second
      have later := behind b second
      rw [here a first]
      omega
    · intro token inside
      rcases List.mem_append.mp inside with first | second
      · exact Int.le_of_eq (here token first).symm
      · have later := behind token second
        omega

theorem ofLines_append (number : Int) (front back : List Text) :
    ofLines number (front ++ back) =
      ofLines number front ++ ofLines (number + front.length) back := by
  induction front generalizing number with
  | nil => simp [ofLines]
  | cons line front ih =>
    rw [List.cons_append, ofLines, ofLines, ih, List.append_assoc, List.length_cons]
    congr 3
    omega

theorem line_ofLines (inside : token ∈ ofLines number lines) :
    number ≤ token.line ∧ token.line < number + lines.length := by
  induction lines generalizing number with
  | nil => cases inside
  | cons line lines ih =>
    rw [List.length_cons]
    rcases List.mem_append.mp inside with here | later
    · obtain ⟨text, _, rfl⟩ := List.mem_map.mp here
      show number ≤ number ∧ number < _
      omega
    · have bounds := ih later
      omega

theorem mem_ofLines (inside : token ∈ ofLines number lines) :
    ∃ line ∈ lines, token.text ∈ ofLine line := by
  induction lines generalizing number with
  | nil => cases inside
  | cons line lines ih =>
    rcases List.mem_append.mp inside with here | later
    · obtain ⟨text, among, rfl⟩ := List.mem_map.mp here
      exact ⟨line, List.mem_cons_self, among⟩
    · obtain ⟨other, among, found⟩ := ih later
      exact ⟨other, List.mem_cons_of_mem _ among, found⟩

theorem texts_ofLines (number : Int) (lines : List Text) :
    (ofLines number lines).map text = lines.flatMap ofLine := by
  induction lines generalizing number with
  | nil => rfl
  | cons line lines ih =>
    rw [ofLines, List.map_append, ih, List.flatMap_cons, List.map_map]
    exact congrArg (· ++ _) (List.map_id _)

/-- Line breaks that are separators divide tokens as other separators do. -/
theorem flatMap_ofLine_linesFrom {current rest : Text} (uncommented : Uncommented (current ++ rest))
    (breaks : ∀ c ∈ rest, Text.isLineBreak c = true → isSeparator c = true) :
    (Text.linesFrom current rest).flatMap ofLine = splitFrom [] (current ++ rest) := by
  have whole {line behind : Text} (uncommented : Uncommented (line ++ behind)) :
      ofLine line = splitFrom [] line := by
    have front := uncommented.of_isInfix (List.prefix_append line behind).isInfix
    rw [ofLine, stripComment_of_uncommented front]
  fun_induction Text.linesFrom current rest with
  | case1 current empty =>
    rw [List.isEmpty_iff.mp empty]
    rfl
  | case2 current filled =>
    rw [List.flatMap_singleton, whole uncommented, List.append_nil]
  | case3 current rest ih =>
    have behind : Uncommented rest := uncommented.of_isInfix ⟨current ++ ['\r', '\n'], [], by simp⟩
    have onward := ih behind fun c inside => breaks c (by simp [inside])
    rw [List.flatMap_cons, onward, whole uncommented, splitFrom_append_separator _ _ _ rfl]
    rfl
  | case4 current c rest _ broken ih =>
    have separates := breaks c List.mem_cons_self broken
    have behind : Uncommented rest := uncommented.of_isInfix ⟨current ++ [c], [], by simp⟩
    have onward := ih behind fun d inside => breaks d (List.mem_cons_of_mem _ inside)
    rw [List.flatMap_cons, onward, whole uncommented, splitFrom_append_separator _ _ _ separates]
    rfl
  | case5 current c rest _ unbroken ih =>
    rw [ih (by simpa using uncommented) fun d inside => breaks d (List.mem_cons_of_mem _ inside)]
    simp

/-- Tokens spread over any lines, with any separators between them, are read in order. -/
theorem texts_tokenize {written : Text} (divides : Divides texts written)
    (uncommented : ∀ text ∈ texts, Uncommented text)
    (unbroken : ∀ text ∈ texts, ∀ c ∈ text, Text.isLineBreak c = false) :
    (tokenize written).map text = texts := by
  have breaks : ∀ c ∈ written, Text.isLineBreak c = true → isSeparator c = true := by
    intro c inside broken
    rcases divides.mem inside with separates | ⟨text, among, found⟩
    · exact separates
    · rw [unbroken text among c found] at broken
      cases broken
  have whole : Uncommented ([] ++ written) := divides.uncommented uncommented
  rw [tokenize, texts_ofLines, Text.lines, flatMap_ofLine_linesFrom whole breaks]
  exact divides.splitFrom

/-- The texts of the tokens on a line. -/
def textsOn (number : Int) (tokens : List Token) : List Text :=
  (tokens.filter fun token => token.line = number).map text

theorem textsOn_append (number : Int) (front back : List Token) :
    textsOn number (front ++ back) = textsOn number front ++ textsOn number back := by
  simp [textsOn]

theorem textsOn_of_other {tokens : List Token} (other : ∀ token ∈ tokens, token.line ≠ number) :
    textsOn number tokens = [] := by
  rw [textsOn, List.filter_eq_nil_iff.mpr (by simpa using other), List.map_nil]

theorem textsOn_same (number : Int) (texts : List Text) :
    textsOn number (texts.map (⟨·, number⟩)) = texts := by
  rw [textsOn, List.filter_eq_self.mpr (by simp), List.map_map]
  exact List.map_id texts

/-- The tokens of a line are those that carry its number. -/
theorem textsOn_ofLines {index : Nat} {line : Text} (found : lines[index]? = some line) :
    textsOn (number + index) (ofLines number lines) = ofLine line := by
  induction lines generalizing number index with
  | nil => cases found
  | cons first lines ih =>
    rw [ofLines, textsOn_append]
    cases index with
    | zero =>
      cases found
      have later : ∀ token ∈ ofLines (number + 1) lines, token.line ≠ number := by
        intro token inside
        have bounds := line_ofLines inside
        omega
      simp only [Int.natCast_zero, Int.add_zero, textsOn_same, textsOn_of_other later,
        List.append_nil]
    | succ index =>
      have here : ∀ token ∈ (ofLine first).map (Token.mk · number),
          token.line ≠ number + (index + 1 : Nat) := by
        intro token inside
        obtain ⟨text, _, rfl⟩ := List.mem_map.mp inside
        show number ≠ _
        omega
      have shifted : number + ((index + 1 : Nat) : Int) = number + 1 + index := by omega
      rw [textsOn_of_other here, List.nil_append, shifted]
      exact ih found

/-- Tokens in order of their lines begin with those of a line that no token is in front of. -/
theorem filter_line_append {tokens : List Token} (ordered : InLineOrder tokens)
    (from_here : ∀ token ∈ tokens, number ≤ token.line) :
    tokens.filter (fun token => token.line = number) ++
      tokens.filter (fun token => token.line ≠ number) = tokens := by
  induction tokens with
  | nil => rfl
  | cons token rest ih =>
    obtain ⟨behind, later⟩ := List.pairwise_cons.mp ordered
    obtain ⟨start, others⟩ := List.forall_mem_cons.mp from_here
    have onward := ih later others
    by_cases here : token.line = number
    · simpa [here] using onward
    · have none : rest.filter (fun token => token.line = number) = [] := by
        rw [List.filter_eq_nil_iff]
        intro next inside
        have order := behind next inside
        simp only [decide_eq_true_eq]
        omega
      rw [none, List.nil_append] at onward
      rw [List.filter_cons_of_neg (by simpa using here), none, List.nil_append,
        List.filter_cons_of_pos (by simpa using here), onward]

/-- Tokens in order are determined by the texts on each line. -/
theorem ofLines_eq {tokens : List Token} (ordered : InLineOrder tokens)
    (within : ∀ token ∈ tokens, number ≤ token.line ∧ token.line < number + lines.length)
    (each : ∀ (index : Nat) (line : Text), lines[index]? = some line →
      ofLine line = textsOn (number + index) tokens) : ofLines number lines = tokens := by
  induction lines generalizing number tokens with
  | nil =>
    cases tokens with
    | nil => rfl
    | cons token rest =>
      have bounds := within token List.mem_cons_self
      simp only [List.length_nil, Int.natCast_zero] at bounds
      omega
  | cons line lines ih =>
    have split := filter_line_append ordered fun token inside => (within token inside).1
    have first : (ofLine line).map (Token.mk · number) =
        tokens.filter fun token => token.line = number := by
      have here := each 0 line rfl
      rw [Int.natCast_zero, Int.add_zero] at here
      rw [here, textsOn, List.map_map]
      refine (List.map_congr_left fun token inside => ?_).trans (List.map_id _)
      have same := (List.mem_filter.mp inside).2
      rw [decide_eq_true_eq] at same
      rw [Function.comp_apply, ← same, id_eq]
    have later : ofLines (number + 1) lines =
        tokens.filter fun token => token.line ≠ number := by
      apply ih
      · exact ordered.filter _
      · intro token inside
        obtain ⟨among, other⟩ := List.mem_filter.mp inside
        have bounds := within token among
        simp only [decide_eq_true_eq, List.length_cons] at other bounds
        omega
      · intro index line found
        have here := each (index + 1) line found
        have shifted : number + ((index + 1 : Nat) : Int) = number + 1 + index := by omega
        have beyond : textsOn (number + 1 + index)
            (tokens.filter fun token => token.line = number) = [] := by
          refine textsOn_of_other fun token inside => ?_
          have same := (List.mem_filter.mp inside).2
          rw [decide_eq_true_eq] at same
          omega
        have rest := congrArg (textsOn (number + 1 + index)) split
        rw [textsOn_append, beyond, List.nil_append] at rest
        rw [here, shifted, rest]
    rw [ofLines, first, later, split]

/-- The number of the last line that has a token. -/
def lastLine : List Token → Nat
  | [] => 0
  | token :: rest => max token.line.toNat (lastLine rest)

theorem le_lastLine {tokens : List Token} (inside : token ∈ tokens) :
    token.line ≤ lastLine tokens := by
  induction tokens with
  | nil => cases inside
  | cons first rest ih =>
    rw [lastLine]
    rcases List.mem_cons.mp inside with rfl | later
    · omega
    · have bound := ih later
      omega

theorem exists_lastLine {tokens : List Token} (some : lastLine tokens ≠ 0) :
    ∃ token ∈ tokens, token.line = lastLine tokens := by
  induction tokens with
  | nil => exact absurd rfl some
  | cons first rest ih =>
    rw [lastLine] at some ⊢
    by_cases latest : lastLine rest ≤ first.line.toNat
    · exact ⟨first, List.mem_cons_self, by omega⟩
    · obtain ⟨token, inside, same⟩ := ih (by omega)
      exact ⟨token, List.mem_cons_of_mem _ inside, by omega⟩

/-- The lines of tokens that are written with one blank between neighbours. -/
def writtenLines (tokens : List Token) : List Text :=
  (List.range (lastLine tokens)).map fun (index : Nat) => Text.join " " (textsOn (1 + index) tokens)

/-- The tokens written back, each on the line that has its number. -/
def write (tokens : List Token) : Text := Text.join "\n" (writtenLines tokens)

/-- Tokens as a listing can have them. -/
structure Canonical (tokens : List Token) : Prop where
  lexemes : ∀ token ∈ tokens, IsLexeme token.text
  uncommented : ∀ token ∈ tokens, Uncommented token.text
  unbroken : ∀ token ∈ tokens, ∀ c ∈ token.text, Text.isLineBreak c = false
  ordered : InLineOrder tokens
  numbered : ∀ token ∈ tokens, 1 ≤ token.line

theorem mem_textsOn {tokens : List Token} {text : Text} (inside : text ∈ textsOn number tokens) :
    ∃ token ∈ tokens, token.text = text := by
  obtain ⟨token, among, same⟩ := List.mem_map.mp inside
  exact ⟨token, (List.mem_filter.mp among).1, same⟩

namespace Canonical

variable {tokens : List Token}

theorem ofLine_join (canonical : Canonical tokens) (number : Int) :
    ofLine (Text.join " " (textsOn number tokens)) = textsOn number tokens := by
  apply Token.ofLine_join
  · intro text inside
    obtain ⟨token, among, rfl⟩ := mem_textsOn inside
    exact canonical.lexemes token among
  · intro text inside
    obtain ⟨token, among, rfl⟩ := mem_textsOn inside
    exact canonical.uncommented token among

theorem lines_write (canonical : Canonical tokens) :
    Text.lines (write tokens) = writtenLines tokens := by
  apply Text.lines_join_newline
  · intro line inside c within
    obtain ⟨index, _, rfl⟩ := List.mem_map.mp inside
    rcases Text.mem_or_mem_of_mem_join within with blank | ⟨text, among, found⟩
    · rw [List.mem_singleton.mp blank]
      rfl
    · obtain ⟨token, aboard, rfl⟩ := mem_textsOn among
      exact canonical.unbroken token aboard c found
  · intro line last
    cases count : lastLine tokens with
    | zero =>
      rw [writtenLines, count] at last
      cases last
    | succ before =>
      obtain ⟨token, inside, same⟩ := exists_lastLine (show lastLine tokens ≠ 0 by omega)
      rw [writtenLines, count, List.range_succ, List.map_append, List.map_singleton,
        List.getLast?_concat] at last
      cases last
      -- The last line is the one of a token, so it is not blank.
      have aboard : token.text ∈ textsOn (1 + (before : Int)) tokens := by
        refine List.mem_map_of_mem (List.mem_filter.mpr ⟨inside, ?_⟩)
        simp only [decide_eq_true_eq]
        omega
      intro blank
      have none := canonical.ofLine_join (1 + before)
      rw [blank] at none
      rw [← none] at aboard
      cases aboard

/-- Tokens written back are read as the same tokens. -/
theorem tokenize_write (canonical : Canonical tokens) : tokenize (write tokens) = tokens := by
  rw [tokenize, canonical.lines_write]
  apply ofLines_eq canonical.ordered
  · intro token inside
    have low := canonical.numbered token inside
    have high := le_lastLine inside
    rw [writtenLines, List.length_map, List.length_range]
    omega
  · intro index line found
    rw [writtenLines, List.getElem?_map] at found
    obtain ⟨place, ranged, rfl⟩ := Option.map_eq_some_iff.mp found
    have same : index = place := by
      rw [List.getElem?_eq_some_iff] at ranged
      obtain ⟨_, same⟩ := ranged
      rwa [List.getElem_range] at same
    rw [same, canonical.ofLine_join]

end Canonical
end Token

theorem tokenize_inLineOrder (listing : Text) : InLineOrder (tokenize listing) :=
  (Token.ofLines_inLineOrder 1 _).1

open Token

/-- The tokens of a line between those of the lines before and after it. -/
theorem tokenize_at_line {text line : Text} {index : Nat}
    (found : (Text.lines text)[index]? = some line) :
    tokenize text = ofLines 1 ((Text.lines text).take index) ++
      ((ofLine line).map (⟨·, 1 + index⟩) ++
        ofLines (1 + index + 1) ((Text.lines text).drop (index + 1))) := by
  obtain ⟨short, same⟩ := List.getElem?_eq_some_iff.mp found
  have split : (Text.lines text).take index ++ line :: (Text.lines text).drop (index + 1) =
      Text.lines text := by
    rw [← same, List.getElem_cons_drop, List.take_append_drop]
  have before : ((Text.lines text).take index).length = index := by
    rw [List.length_take]
    omega
  have tokens := ofLines_append 1 ((Text.lines text).take index)
    (line :: (Text.lines text).drop (index + 1))
  rwa [split, before, ofLines] at tokens

theorem tokenize_canonical (text : Text) : Canonical (tokenize text) where
  lexemes token inside := by
    obtain ⟨line, _, found⟩ := mem_ofLines inside
    exact (ofLine_divides line).lexemes token.text found
  uncommented token inside := by
    obtain ⟨line, _, found⟩ := mem_ofLines inside
    exact uncommented_of_mem_ofLine found
  unbroken token inside c within := by
    obtain ⟨line, among, found⟩ := mem_ofLines inside
    exact Text.unbroken_of_mem_lines among c ((isInfix_of_mem_ofLine found).subset within)
  ordered := tokenize_inLineOrder text
  numbered token inside := (line_ofLines inside).1

/-- What the tokens of a text have to be. On every line they make up what stands in front of the
comment, so that their texts in a row are that code without its separators. -/
structure Tokenizes (text : Text) (tokens : List Token) : Prop where
  lexemes : ∀ token ∈ tokens, IsLexeme token.text
  ordered : InLineOrder tokens
  within : ∀ token ∈ tokens, 1 ≤ token.line ∧ token.line ≤ (Text.lines text).length
  spelled : ∀ (index : Nat) (line : Text), (Text.lines text)[index]? = some line →
    ∃ code, IsCode line code ∧ Divides (textsOn (1 + index) tokens) code ∧
      (textsOn (1 + index) tokens).flatten = code.filter fun c => !isSeparator c

theorem tokenize_tokenizes (text : Text) : Tokenizes text (tokenize text) where
  lexemes := (tokenize_canonical text).lexemes
  ordered := tokenize_inLineOrder text
  within token inside := by
    have bounds := line_ofLines inside
    omega
  spelled index line found := by
    have same : textsOn (1 + index) (tokenize text) = ofLine line := textsOn_ofLines found
    rw [same]
    exact ⟨stripComment line, stripComment_isCode line, ofLine_divides line,
      (ofLine_divides line).flatten⟩

/-- A text has one list of tokens: they are nothing but the code of its lines, divided at separators
and cutoffs, and written back they are read as they are. -/
theorem tokenize_exact (text : Text) :
    (∀ tokens, Tokenizes text tokens ↔ tokens = tokenize text) ∧
      tokenize (write (tokenize text)) = tokenize text := by
  refine ⟨fun tokens => ⟨fun tokenizes => ?_, ?_⟩, (tokenize_canonical text).tokenize_write⟩
  · refine (ofLines_eq tokenizes.ordered (fun token inside => ?_) fun index line found => ?_).symm
    · have bounds := tokenizes.within token inside
      omega
    · obtain ⟨code, isCode, divides, _⟩ := tokenizes.spelled index line found
      rw [isCode.eq_stripComment] at divides
      exact divides.splitFrom
  · rintro rfl
    exact tokenize_tokenizes text

example : write (tokenize "mov r0,l(1) // one\n\n  ret") = "mov r0 l ( 1 )\n\nret" := rfl

end ShaderLift
