import ShaderLift.Proofs.Decoding.Reads
import ShaderLift.Proofs.Token.Listing

namespace ShaderLift

open Token

namespace Operand

variable {text code : Text} {texts : List Text}

/-- A register with its indices. It has as many closing brackets as opening ones, and separators
stand only where a bracket is open. -/
structure IsRegister (text : Text) : Prop where
  some : text ≠ []
  uncut : ∀ c ∈ text, isCutoff c = false
  uncommented : Uncommented text
  closed : text.count '[' = text.count ']'
  inside : ∀ front c rest, text = front ++ c :: rest → isSeparator c = true →
    front.count ']' < front.count '['
  unmarked : text ≠ "l" ∧ text ≠ "d"

/-- Whether a text is a register can be seen place by place. -/
theorem IsRegister.of_places (some : text ≠ []) (uncut : text.all (fun c => !isCutoff c) = true)
    (uncommented : Uncommented text) (closed : text.count '[' = text.count ']')
    (inside : ∀ place : Fin text.length, isSeparator text[place] = true →
      (text.take place).count ']' < (text.take place).count '[')
    (unmarked : text ≠ "l" ∧ text ≠ "d") : IsRegister text := by
  refine ⟨some, fun c among => by simpa using List.all_eq_true.mp uncut c among, uncommented,
    closed, ?_, unmarked⟩
  rintro front c rest rfl separates
  have here := inside ⟨front.length, by simp⟩ (by simpa using separates)
  simpa using here

/-- A text with each run of separators replaced by one blank. -/
def squeeze : Text → Text
  | [] => []
  | c :: rest =>
    if isSeparator c then
      if rest.head?.any isSeparator then squeeze rest else ' ' :: squeeze rest
    else c :: squeeze rest

/-- An operand as it can be listed. -/
inductive Form where
  | register (text : Text)
  | literal (values : List Text)

namespace Form

/-- What an operand is read as. -/
def reading : Form → Text
  | register text => squeeze text
  | literal [value] => value
  | literal values =>
    "float" ++ Text.ofNat values.length ++ "(" ++ Text.join ", " values ++ ")"

/-- How an operand is written: a register as it is, and the values of a literal between parentheses
with any separators around them. -/
inductive IsWritten : Form → Text → Prop
  | register {text : Text} (register : IsRegister text) : IsWritten (.register text) text
  | literal {mark gap inside : Text} {values : List Text} (marked : mark = "l" ∨ mark = "d")
      (between : Separates gap) (filled : values ≠ []) (words : ∀ value ∈ values, IsWord value)
      (uncommented : ∀ value ∈ values, Uncommented value) (divides : Divides values inside) :
      IsWritten (.literal values) (mark ++ gap ++ '(' :: (inside ++ [')']))

end Form

/-- Operands one after the other, with separators in front of each of them and possibly at the
end. -/
inductive Listed : List Form → Text → Prop
  | nil {gap : Text} (between : Separates gap) : Listed [] gap
  | cons {form : Form} {forms : List Form} {gap text rest : Text} (between : Separates gap)
      (some : gap ≠ []) (written : form.IsWritten text) (others : Listed forms rest) :
      Listed (form :: forms) (gap ++ (text ++ rest))

theorem squeeze_word (plain : ∀ c ∈ text, isSeparator c = false) (rest : Text) :
    squeeze (text ++ rest) = text ++ squeeze rest := by
  induction text with
  | nil => rfl
  | cons c text ih =>
    obtain ⟨here, later⟩ := List.forall_mem_cons.mp plain
    rw [List.cons_append, squeeze, here, if_neg (by decide), ih later, List.cons_append]

/-- A run of separators in front of anything else is squeezed to one blank. -/
theorem squeeze_gap {gap rest : Text} (between : Separates gap) (some : gap ≠ [])
    (ended : ∀ c ∈ rest.head?, isSeparator c = false) :
    squeeze (gap ++ rest) = ' ' :: squeeze rest := by
  induction gap with
  | nil => exact absurd rfl some
  | cons c gap ih =>
    obtain ⟨separates, others⟩ := between.of_cons
    rw [List.cons_append, squeeze, separates, if_pos rfl]
    cases gap with
    | nil =>
      have last : rest.head?.any isSeparator = false := by
        cases rest with
        | nil => rfl
        | cons d rest => exact ended d rfl
      rw [List.nil_append, last, if_neg (by decide)]
    | cons d gap =>
      have more : ((d :: gap) ++ rest).head?.any isSeparator = true := others.of_cons.1
      rw [more, if_pos rfl, ih others (List.cons_ne_nil _ _)]

theorem head_spells (spells : Spells texts code) :
    ∀ c ∈ code.head?, isSeparator c = false := by
  cases spells with
  | nil => simp
  | @cons text gap rest texts lexeme _ _ _ =>
    obtain ⟨d, more, rfl⟩ := List.exists_cons_of_ne_nil lexeme.ne_nil
    rintro c ⟨⟩
    cases separates : isSeparator d with
    | false => rfl
    | true => exact absurd List.mem_cons_self (lexeme.notMem separates)

/-- Words with blanks between them, from the text that they spell. -/
theorem join_eq_squeeze (spells : Spells texts code) (words : ∀ text ∈ texts, IsWord text)
    (ended : ∀ c ∈ code.getLast?, isSeparator c = false) : Text.join " " texts = squeeze code := by
  induction spells with
  | nil => rfl
  | @cons text gap rest texts lexeme between apart others ih =>
    obtain ⟨word, later⟩ := List.forall_mem_cons.mp words
    rw [squeeze_word fun c inside => (word.plain c inside).1]
    cases others with
    | nil =>
      -- What ends in a word has no separators at its end.
      have none : gap = [] := by
        by_contra some
        have visible := ended (gap.getLast some) (by
          rw [List.append_nil, List.getLast?_append, List.getLast?_eq_some_getLast some]
          rfl)
        rw [between _ (List.getLast_mem some)] at visible
        cases visible
      rw [none]
      exact (List.append_nil text).symm
    | @cons next gap' rest' texts' lexeme' between' apart' others' =>
      have spelled : Spells (next :: texts') (next ++ (gap' ++ rest')) :=
        .cons lexeme' between' apart' others'
      have filled := apart word next rfl (later next List.mem_cons_self)
      rw [squeeze_gap between filled (head_spells spelled), ← ih later]
      · exact List.append_assoc ..
      · intro c last
        refine ended c ?_
        rw [List.getLast?_append, List.getLast?_append, show _ = some c from last]
        rfl

end Operand

namespace Decoding

open Operand

variable {text other rest : Text}

/-- Two texts with the same square brackets, counted. -/
def SameBrackets (text other : Text) : Prop :=
  text.count '[' = other.count '[' ∧ text.count ']' = other.count ']'

theorem SameBrackets.bracketsClosed (same : SameBrackets text other) :
    Decoding.bracketsClosed text = Decoding.bracketsClosed other := by
  rw [Decoding.bracketsClosed, Decoding.bracketsClosed, same.1, same.2]

theorem SameBrackets.append {rest' : Text} (same : SameBrackets text other)
    (behind : SameBrackets rest rest') : SameBrackets (text ++ rest) (other ++ rest') := by
  simp only [SameBrackets, List.count_append, same.1, same.2, behind.1, behind.2, and_self]

/-- Separators are no brackets. -/
theorem SameBrackets.gap {gap : Text} (between : Separates gap) : SameBrackets gap [] := by
  have none (c : Char) (bracket : isSeparator c = false) : gap.count c = 0 := by
    rw [List.count_eq_zero]
    intro inside
    rw [between c inside] at bracket
    cases bracket
  exact ⟨none '[' rfl, none ']' rfl⟩

theorem SameBrackets.append_gap {gap : Text} (between : Separates gap) :
    SameBrackets (text ++ gap) text := by
  have same : SameBrackets (text ++ gap) (text ++ []) := .append ⟨rfl, rfl⟩ (.gap between)
  rwa [List.append_nil] at same

theorem SameBrackets.past {gap : Text} (same : SameBrackets text other) (between : Separates gap) :
    SameBrackets text (other ++ gap) :=
  have gone : SameBrackets (other ++ gap) other := .append_gap between
  ⟨same.1.trans gone.1.symm, same.2.trans gone.2.symm⟩

theorem SameBrackets.glued (same : SameBrackets text other) (token : Token) :
    SameBrackets (ShaderLift.glued text token) (other ++ token.text) :=
  have blank : SameBrackets (text ++ " ") text := .append_gap (.cons isSeparator_blank .nil)
  .append ⟨blank.1.trans same.1, blank.2.trans same.2⟩ ⟨rfl, rfl⟩

theorem join_glued (text : Text) (token : Token) (texts : List Text) :
    Text.join " " (text :: token.text :: texts) = Text.join " " (glued text token :: texts) := by
  cases texts with
  | nil => rfl
  | cons next texts => simp [Text.join, glued]

/-- The induction is on the words that are left, with the separators in front of them. What stands
in front of those has the brackets of the words joined so far, and some of these are open wherever
there is a separator. -/
theorem joins_of_spells {line : Option Int} {gap : Text} {texts : List Text} {tokens : List Token}
    (between : Separates gap) (apart : texts ≠ [] → gap ≠ []) (spells : Spells texts rest)
    (words : ∀ text ∈ texts, IsWord text) (same : tokens.map Token.text = texts)
    (aligned : OnLine line tokens) (front joined : Text) (alike : SameBrackets joined front)
    (closed : bracketsClosed (front ++ (gap ++ rest)) = true)
    (inside : ∀ before c behind, gap ++ rest = before ++ c :: behind → isSeparator c = true →
      bracketsClosed (front ++ before) = false) :
    Joins line joined tokens (Text.join " " (joined :: texts)) := by
  have past := alike.past between
  induction spells generalizing gap tokens front joined with
  | nil =>
    rw [List.append_nil, ← past.bracketsClosed] at closed
    rw [List.map_eq_nil_iff.mp same]
    exact .done closed
  | @cons text gap' rest texts lexeme between' apart' others ih =>
    obtain ⟨word, later⟩ := List.forall_mem_cons.mp words
    obtain ⟨token, more, rfl, rfl, behind⟩ := List.map_eq_cons_iff.mp same
    obtain ⟨here, onLine⟩ := List.forall_mem_cons.mp aligned
    obtain ⟨c, gap, rfl⟩ := List.exists_cons_of_ne_nil (apart (List.cons_ne_nil _ _))
    have opened := inside [] c _ rfl between.of_cons.1
    rw [List.append_nil, ← alike.bracketsClosed] at opened
    have grown := past.glued token
    rw [join_glued]
    refine .more opened here (ih between' ?_ later behind onLine _ _ grown ?_ ?_
      (grown.past between'))
    · intro some
      obtain ⟨next, texts, rfl⟩ := List.exists_cons_of_ne_nil some
      exact apart' word next rfl (later next List.mem_cons_self)
    · simpa using closed
    · intro before d behind split separates
      have opened := inside (c :: gap ++ token.text ++ before) d behind (by simp [split]) separates
      simpa using opened

end Decoding

namespace Operand.IsRegister

variable {text : Text}

variable (register : IsRegister text)

include register

theorem words : ∀ part ∈ splitFrom [] text, IsWord part := by
  intro part inside
  have divides : Divides (splitFrom [] text) text := (divides_iff _ _).mpr rfl
  rcases divides.lexemes part inside with @⟨c, cuts⟩ | word
  · have among := (divides.isInfix _ inside).subset (List.mem_singleton_self c)
    rw [register.uncut c among] at cuts
    cases cuts
  · exact word

theorem head : ∀ c ∈ text.head?, isSeparator c = false := by
  intro c first
  obtain ⟨rest, rfl⟩ := List.head?_eq_some_iff.mp first
  cases separates : isSeparator c with
  | false => rfl
  | true => exact absurd (register.inside [] c rest rfl separates) (by simp)

theorem opened {front rest : Text} {c : Char}
    (split : text = front ++ c :: rest) (separates : isSeparator c = true) :
    Decoding.bracketsClosed front = false := by
  have more := register.inside front c rest split separates
  simpa [Decoding.bracketsClosed] using more

theorem bracketsClosed : Decoding.bracketsClosed text = true := by
  simp [Decoding.bracketsClosed, register.closed]

theorem last : ∀ c ∈ text.getLast?, isSeparator c = false := by
  intro c final
  obtain ⟨front, rfl⟩ := List.getLast?_eq_some_iff.mp final
  cases separates : isSeparator c with
  | false => rfl
  | true =>
    have closed := register.bracketsClosed
    have same : Decoding.SameBrackets (front ++ [c]) front := .append_gap (.cons separates .nil)
    rw [same.bracketsClosed, register.opened rfl separates] at closed
    cases closed

theorem spells : Spells (splitFrom [] text) text := by
  obtain ⟨gap, rest, between, spells, whole⟩ := (divides_iff _ _).mpr (rfl : splitFrom [] text = _)
  cases gap with
  | nil =>
    rw [List.nil_append] at whole
    rwa [← whole] at spells
  | cons c gap =>
    have visible := register.head c (by rw [whole]; rfl)
    rw [between.of_cons.1] at visible
    cases visible

/-- The tokens of a register are one operand. -/
theorem isOperand {line : Option Int} {tokens following : List Token}
    (same : tokens.map Token.text = splitFrom [] text) (aligned : OnLine line tokens) :
    Decoding.IsOperand line tokens following (squeeze text) := by
  have spells := register.spells
  have words := register.words
  rw [← join_eq_squeeze spells words register.last]
  generalize parts : splitFrom [] text = texts at spells words same
  cases spells with
  | nil => exact absurd rfl register.some
  | @cons first gap rest others lexeme between apart later =>
    obtain ⟨start, more, rfl, rfl, behind⟩ := List.map_eq_cons_iff.mp same
    obtain ⟨word, rear⟩ := List.forall_mem_cons.mp words
    have filled : others ≠ [] → gap ≠ [] := by
      intro some
      obtain ⟨next, others, rfl⟩ := List.exists_cons_of_ne_nil some
      exact apart word next rfl (rear next List.mem_cons_self)
    have joins : Decoding.Joins line start.text more (Text.join " " (start.text :: others)) := by
      refine Decoding.joins_of_spells between filled later rear behind
        (fun token inside => aligned token (List.mem_cons_of_mem _ inside)) _ _ ⟨rfl, rfl⟩
        register.bracketsClosed fun before c behind split separates => ?_
      exact register.opened (by rw [split, List.append_assoc]) separates
    refine .joined (fun marked => ?_) (aligned start List.mem_cons_self) joins
    -- A mark has no brackets, so nothing of the register stands behind it.
    have closed : Decoding.bracketsClosed start.text = true := by
      rcases marked with same | same <;> (rw [same]; rfl)
    have alone : gap = [] := by
      cases gap with
      | nil => rfl
      | cons c gap =>
        have whole : start.text ++ ((c :: gap) ++ rest) = start.text ++ c :: (gap ++ rest) := rfl
        rw [register.opened whole between.of_cons.1] at closed
        cases closed
    have single : others = [] := by
      by_contra some
      exact filled some alone
    subst alone single
    cases later
    have unmarked := register.unmarked
    rw [List.append_nil, List.append_nil] at unmarked
    rcases marked with same | same
    · exact absurd same unmarked.1
    · exact absurd same unmarked.2

end Operand.IsRegister

namespace Operand

variable {mark : Text}

theorem mark_isWord (marked : mark = "l" ∨ mark = "d") : IsWord mark := by
  rcases marked with rfl | rfl
  · exact ⟨List.cons_ne_nil _ _, by simp [isSeparator, isCutoff]⟩
  · exact ⟨List.cons_ne_nil _ _, by simp [isSeparator, isCutoff]⟩

theorem Form.reading_literal (values : List Text) :
    (Form.literal values).reading = Decoding.literalText values := by
  match values with
  | [] => rfl
  | [value] => rfl
  | first :: second :: rest => rfl

/-- The tokens of a literal group. -/
theorem splitFrom_group {gap inside : Text} {values : List Text} (marked : mark = "l" ∨ mark = "d")
    (between : Separates gap) (divides : Divides values inside) :
    splitFrom [] (mark ++ gap ++ '(' :: (inside ++ [')'])) =
      mark :: ['('] :: (values ++ [[')']]) := by
  have first : Spells [mark] (mark ++ (gap ++ [])) :=
    .cons (.inr (mark_isWord marked)) between (by simp) .nil
  rw [List.append_nil] at first
  rw [splitFrom_append_cutoff _ _ _ rfl, splitFrom_append_cutoff _ _ _ rfl, first.splitFrom,
    divides.splitFrom]
  rfl

namespace Form.IsWritten

variable {form : Form} {text : Text}

theorem uncommented (written : form.IsWritten text) : Uncommented text := by
  cases written with
  | register register => exact register.uncommented
  | @literal mark gap inside values marked between filled words uncommented divides =>
    have blank : Uncommented gap := by simpa using Uncommented.gap between .nil
    have start : Uncommented (mark ++ gap) := by
      rcases marked with rfl | rfl <;> exact .cons (by decide) blank
    have group := divides.uncommented uncommented
    exact start.append (by decide) (group.append (by decide) .nil)

/-- The tokens of an operand are read as one. -/
theorem isOperand (written : form.IsWritten text) {line : Option Int}
    {tokens following : List Token} (same : tokens.map Token.text = splitFrom [] text)
    (aligned : OnLine line tokens) : Decoding.IsOperand line tokens following form.reading := by
  cases written with
  | register register => exact register.isOperand same aligned
  | @literal mark gap inside values marked between filled words uncommented divides =>
    rw [splitFrom_group marked between divides] at same
    obtain ⟨start, others, rfl, rfl, group⟩ := List.map_eq_cons_iff.mp same
    obtain ⟨opening, others, rfl, opens, listing⟩ := List.map_eq_cons_iff.mp group
    obtain ⟨listed, final, rfl, rfl, ending⟩ := List.map_eq_append_iff.mp listing
    obtain ⟨closing, none, rfl, closes, ended⟩ := List.map_eq_cons_iff.mp ending
    rw [List.map_eq_nil_iff.mp ended, Form.reading_literal]
    rw [List.map_eq_nil_iff.mp ended] at aligned
    refine .literal marked opens (fun token inside => ?_) closes (by simpa using filled)
      (aligned start List.mem_cons_self) fun token inside => aligned token ?_
    · have word := words token.text (List.mem_map_of_mem inside)
      intro closes
      rw [closes] at word
      exact (IsMark.cutoff (c := ')') rfl).not_isWord word
    · exact List.mem_cons_of_mem _ (List.mem_cons_of_mem _ inside)

theorem isOperand_ofLine (written : form.IsWritten text) (line : Int) {following : List Token} :
    Decoding.IsOperand (some line) ((Token.ofLine text).map (⟨·, line⟩)) following
      form.reading := by
  apply written.isOperand
  · rw [Token.ofLine, stripComment_of_uncommented written.uncommented, List.map_map]
    exact List.map_id _
  · intro token inside
    obtain ⟨part, _, rfl⟩ := List.mem_map.mp inside
    rfl

/-- A literal ends with a parenthesis, behind which a token starts anew. -/
theorem ofLine_append {values : List Text} (written : (Form.literal values).IsWritten text)
    (rest : Text) : Token.ofLine (text ++ rest) = Token.ofLine text ++ Token.ofLine rest := by
  have uncommented := written.uncommented
  cases written with
  | @literal mark gap inside values marked between filled words _ divides =>
    have closed : mark ++ gap ++ '(' :: (inside ++ [')']) =
        (mark ++ gap ++ '(' :: inside) ++ [')'] := by simp
    rw [closed] at uncommented ⊢
    have before := uncommented.of_isInfix (List.prefix_append _ [')']).isInfix
    rw [List.append_assoc, List.singleton_append, ofLine_append_cutoff before rfl,
      ofLine_append_cutoff before rfl, show Token.ofLine [] = [] from rfl]
    simp

end Form.IsWritten

namespace Listed

variable {forms : List Form} {text : Text}

theorem head (listed : Listed forms text) : ∀ c ∈ text.head?, isSeparator c = true := by
  cases listed with
  | nil between => exact fun c first => between c (List.mem_of_head? first)
  | cons between some written others =>
    obtain ⟨c, gap, rfl⟩ := List.exists_cons_of_ne_nil some
    rintro d ⟨⟩
    exact between.of_cons.1

theorem uncommented (listed : Listed forms text) : Uncommented text := by
  induction listed with
  | @nil gap between => simpa using Uncommented.gap between .nil
  | cons between some written others ih =>
    refine .gap between (written.uncommented.append_of_head ih fun c first => ?_)
    exact ne_slash_of_isSeparator (others.head c first)

theorem ofLine {mnemonic : Text} (listed : Listed forms text) (word : IsWord mnemonic)
    (uncommented : Uncommented mnemonic) :
    Token.ofLine (mnemonic ++ text) = mnemonic :: splitFrom [] text := by
  have slashless : ∀ c ∈ text.head?, c ≠ '/' := fun c first =>
    ne_slash_of_isSeparator (listed.head c first)
  have whole := uncommented.append_of_head listed.uncommented slashless
  have alone : splitFrom [] mnemonic = [mnemonic] := by
    have first := splitFrom_plain word.plain [] []
    rwa [List.append_nil, List.nil_append, splitFrom_pending word.some] at first
  rw [Token.ofLine, stripComment_of_uncommented whole, splitFrom_append _ listed.head, alone]
  rfl

/-- The operands that are listed are the operands that are there. -/
theorem operandRun (listed : Listed forms text) {line : Option Int} {tokens : List Token}
    (same : tokens.map Token.text = splitFrom [] text) (aligned : OnLine line tokens)
    (after : List Token) :
    ∃ operands, operands.flatten = tokens ∧
      Decoding.OperandRun line (tokens ++ after) operands (forms.map Form.reading) after := by
  induction listed generalizing tokens with
  | @nil gap between =>
    have none := splitFrom_gap between []
    rw [List.append_nil] at none
    rw [none] at same
    rw [List.map_eq_nil_iff.mp same]
    exact ⟨[], rfl, .nil after⟩
  | @cons form forms gap text rest between some written others ih =>
    rw [splitFrom_gap between, splitFrom_append _ others.head] at same
    obtain ⟨operand, more, rfl, first, behind⟩ := List.map_eq_append_iff.mp same
    obtain ⟨operands, whole, run⟩ :=
      ih behind fun token inside => aligned token (List.mem_append_right _ inside)
    refine ⟨operand :: operands, by rw [List.flatten_cons, whole], ?_⟩
    rw [List.append_assoc, List.map_cons]
    refine .cons (written.isOperand first fun token inside => ?_) run
    exact aligned token (List.mem_append_left _ inside)

end Listed
end Operand

namespace Decoding

variable {after : List Token}

/-- Operands that are there are read one after the other. -/
theorem runOn_readRawOperands_of_run (env : Environment) {line : Option Int} {start : List Token}
    {operands : List (List Token)} {texts : List Text}
    (run : OperandRun line start operands texts after) (d : Decoder) (here : d.line = line)
    (ahead : d.cursor.rest = start) :
    runOn (readRawOperands texts.length) env d =
      (.ok texts, d.past operands.flatten after d.log) := by
  induction run generalizing d with
  | nil rest =>
    rw [← ahead]
    rfl
  | @cons operand rest after operands text texts first others ih =>
    have read := runOn_readRawOperand_of_isOperand env d ahead (here ▸ first)
    have onward := ih (d.past operand rest d.log) here rfl
    rw [List.length_cons, readRawOperands, runOn_bind_of_ok _ _ _ _ _ _ read,
      runOn_bind_of_ok _ _ _ _ _ _ onward, runOn_pure, Decoder.past_past]
    rfl

/-- Listed operands are read from their tokens, and there is none behind them on the line. -/
theorem runOn_readRawOperands_of_listed (env : Environment) {forms : List Operand.Form}
    {text : Text} (listed : Operand.Listed forms text) (d : Decoder) {tokens : List Token}
    (same : tokens.map Token.text = splitFrom [] text) (aligned : OnLine d.line tokens)
    (ended : ∀ token ∈ after.head?, d.line ≠ some token.line)
    (ahead : d.cursor.rest = tokens ++ after) :
    runOn (readRawOperands forms.length) env d =
        (.ok (forms.map Operand.Form.reading), d.past tokens after d.log) ∧
      ∃ cause, runOn readRawOperand env (d.past tokens after d.log) =
        (.error (.decode cause d.line), d.past tokens after d.log) := by
  obtain ⟨operands, whole, run⟩ := listed.operandRun same aligned after
  have read := runOn_readRawOperands_of_run env run d rfl ahead
  rw [List.length_map, whole] at read
  refine ⟨read, _, runOn_readRawOperand_missing env _ fun token first => ?_⟩
  rw [← Bool.not_eq_true, isOnLine_iff]
  exact ended token first

/-- Behind the mnemonic of a line, one operand after the other is read as it was listed, up to the
end of the line and no further. -/
theorem readRawOperands_listed (listing mnemonic rest : Text) (forms : List Operand.Form)
    (index : Nat) (found : (Text.lines listing)[index]? = some (mnemonic ++ rest))
    (word : IsWord mnemonic) (uncommented : Uncommented mnemonic)
    (listed : Operand.Listed forms rest) :
    ∃ before tokens after,
      tokenize listing = before ++ ⟨mnemonic, 1 + index⟩ :: (tokens ++ after) ∧
      (∀ token ∈ before, token.line < (1 + index : Int)) ∧
      (∀ token ∈ tokens, token.line = (1 + index : Int)) ∧
      (∀ token ∈ after, (1 + index : Int) < token.line) ∧
      ∀ (env : Environment) (d : Decoder), d.line = some (1 + index : Int) →
        d.cursor.rest = tokens ++ after →
        runOn (readRawOperands forms.length) env d =
          (.ok (forms.map Operand.Form.reading), d.past tokens after d.log) ∧
        ∃ cause, runOn readRawOperand env (d.past tokens after d.log) =
          (.error (.decode cause d.line), d.past tokens after d.log) := by
  have divided := tokenize_at_line found
  rw [listed.ofLine word uncommented, List.map_cons, List.cons_append] at divided
  have aligned (token : Token)
      (inside : token ∈ (splitFrom [] rest).map (Token.mk · (1 + index : Int))) :
      token.line = (1 + index : Int) := by
    obtain ⟨text, _, rfl⟩ := List.mem_map.mp inside
    rfl
  have behind (token : Token)
      (inside : token ∈ ofLines (1 + index + 1) ((Text.lines listing).drop (index + 1))) :
      (1 + index : Int) < token.line := by
    have bounds := line_ofLines inside
    omega
  refine ⟨_, _, _, divided, fun token inside => ?_, aligned, behind, fun env d here ahead => ?_⟩
  · have bounds := line_ofLines inside
    rw [List.length_take] at bounds
    omega
  · refine runOn_readRawOperands_of_listed env listed d ?_ ?_ ?_ ahead
    · rw [List.map_map]
      exact List.map_id _
    · exact fun token inside => by rw [here, aligned token inside]
    · intro token first same
      have later := behind token (List.mem_of_head? first)
      rw [here, Option.some.injEq] at same
      omega

/-- A listing whose second line has an index with separators in it, and literals. -/
def scaledListing : Text := "ps_5_0\nmul r0.xy,cb0[r1.x +\t4].zw , l( 1.5,2 )\td(3) \nret"

def scaledForms : List Operand.Form :=
  [.register "r0.xy", .register "cb0[r1.x +\t4].zw", .literal ["1.5", "2"], .literal ["3"]]

theorem readRawOperands_listed_scaled :
    scaledForms.map Operand.Form.reading =
      [("r0.xy" : Text), ("cb0[r1.x + 4].zw" : Text), ("float2(1.5, 2)" : Text), ("3" : Text)] ∧
    ∃ before tokens after,
      tokenize scaledListing = before ++ ⟨"mul", 1 + (1 : Nat)⟩ :: (tokens ++ after) ∧
      (∀ token ∈ before, token.line < (1 + (1 : Nat) : Int)) ∧
      (∀ token ∈ tokens, token.line = (1 + (1 : Nat) : Int)) ∧
      (∀ token ∈ after, (1 + (1 : Nat) : Int) < token.line) ∧
      ∀ (env : Environment) (d : Decoder), d.line = some (1 + (1 : Nat) : Int) →
        d.cursor.rest = tokens ++ after →
        runOn (readRawOperands 4) env d =
          (.ok (scaledForms.map Operand.Form.reading), d.past tokens after d.log) ∧
        ∃ cause, runOn readRawOperand env (d.past tokens after d.log) =
          (.error (.decode cause d.line), d.past tokens after d.log) := by
  have target : Operand.IsRegister "r0.xy" :=
    .of_places (by decide) rfl (.of_all rfl) rfl (by decide) (by decide)
  have source : Operand.IsRegister "cb0[r1.x +\t4].zw" :=
    .of_places (by decide) rfl (.of_all rfl) rfl (by decide) (by decide)
  have pair : Operand.Form.IsWritten (.literal ["1.5", "2"])
      (("l" : Text) ++ [] ++ '(' :: (" 1.5,2 " ++ [')'])) := by
    refine .literal (.inl rfl) .nil (by simp) ?_ ?_ ((divides_iff _ _).mpr rfl)
    · exact List.forall_mem_cons.mpr ⟨.of_all (by decide) rfl,
        List.forall_mem_singleton.mpr (.of_all (by decide) rfl)⟩
    · exact List.forall_mem_cons.mpr ⟨.of_all rfl,
        List.forall_mem_singleton.mpr (.of_all rfl)⟩
  have single : Operand.Form.IsWritten (.literal ["3"])
      (("d" : Text) ++ [] ++ '(' :: ("3" ++ [')'])) := by
    refine .literal (.inr rfl) .nil (by simp) ?_ ?_ ((divides_iff _ _).mpr rfl)
    · exact List.forall_mem_singleton.mpr (.of_all (by decide) rfl)
    · exact List.forall_mem_singleton.mpr (.of_all rfl)
  have blank : Separates (" " : Text) := .of_all rfl
  have comma : Separates ("," : Text) := .of_all rfl
  have wide : Separates (" , " : Text) := .of_all rfl
  have tab : Separates ("\t" : Text) := .of_all rfl
  have listed : Operand.Listed scaledForms _ :=
    .cons blank (by decide) (.register target) <| .cons comma (by decide) (.register source) <|
      .cons wide (by decide) pair <| .cons tab (by decide) single <| .nil blank
  exact ⟨rfl, readRawOperands_listed scaledListing "mul" _ scaledForms 1 rfl
    (.of_all (by decide) rfl) (.of_all rfl) listed⟩

end Decoding
end ShaderLift
