import ShaderLift.Token

namespace ShaderLift.Token

variable {texts : List Text} {c : Char} {code text rest line part current front : Text}

/-- Nothing but separators. -/
def Separates (gap : Text) : Prop := ∀ c ∈ gap, isSeparator c = true

/-- A cutoff, which is a token of its own. -/
inductive IsMark : Text → Prop
  | cutoff {c : Char} (cuts : isCutoff c = true) : IsMark [c]

/-- The text of any other token. -/
structure IsWord (text : Text) : Prop where
  some : text ≠ []
  plain : ∀ c ∈ text, isSeparator c = false ∧ isCutoff c = false

/-- The text of a token. -/
def IsLexeme (text : Text) : Prop := IsMark text ∨ IsWord text

/-- Texts of tokens, each with the separators behind it. Cutoffs need none, but neighbours of which
neither is a cutoff have at least one between them. -/
inductive Spells : List Text → Text → Prop
  | nil : Spells [] []
  | cons {text gap rest : Text} {texts : List Text} (lexeme : IsLexeme text)
      (between : Separates gap)
      (apart : IsWord text → ∀ next ∈ texts.head?, IsWord next → gap ≠ [])
      (others : Spells texts rest) : Spells (text :: texts) (text ++ (gap ++ rest))

/-- Texts of tokens that make up some code, with separators around them. -/
def Divides (texts : List Text) (code : Text) : Prop :=
  ∃ gap rest, Separates gap ∧ Spells texts rest ∧ code = gap ++ rest

theorem isCutoff_of_isSeparator (separates : isSeparator c = true) :
    isCutoff c = false := by
  simp only [isSeparator, Bool.or_eq_true, beq_iff_eq] at separates
  rcases separates with (((rfl | rfl) | rfl) | rfl) | rfl <;> rfl

theorem Separates.nil : Separates [] := by simp [Separates]

theorem Separates.cons {gap : Text} (separates : isSeparator c = true) (others : Separates gap) :
    Separates (c :: gap) :=
  List.forall_mem_cons.mpr ⟨separates, others⟩

theorem Separates.of_cons {gap : Text} (between : Separates (c :: gap)) :
    isSeparator c = true ∧ Separates gap := List.forall_mem_cons.mp between

theorem Separates.of_all {gap : Text} (each : gap.all isSeparator = true) : Separates gap :=
  List.all_eq_true.mp each

theorem IsMark.not_isWord (mark : IsMark text) : ¬ IsWord text := by
  obtain ⟨cuts⟩ := mark
  intro word
  have uncut := (word.plain _ List.mem_cons_self).2
  rw [cuts] at uncut
  cases uncut

theorem IsWord.of_all (some : text ≠ [])
    (each : text.all (fun c => !isSeparator c && !isCutoff c) = true) : IsWord text :=
  ⟨some, fun c inside => by simpa using List.all_eq_true.mp each c inside⟩

theorem IsLexeme.ne_nil (lexeme : IsLexeme text) : text ≠ [] := by
  rcases lexeme with @⟨c, _⟩ | word
  · exact List.cons_ne_nil _ _
  · exact word.some

theorem IsLexeme.notMem (lexeme : IsLexeme text) (separates : isSeparator c = true) : c ∉ text := by
  intro inside
  rcases lexeme with @⟨d, cuts⟩ | word
  · rw [List.mem_singleton.mp inside] at separates
    rw [isCutoff_of_isSeparator separates] at cuts
    cases cuts
  · rw [(word.plain c inside).1] at separates
    cases separates

theorem splitFrom_cons (current rest : Text) (c : Char) :
    splitFrom current (c :: rest) = if isSeparator c || isCutoff c then
        splitFrom current [] ++ (if isCutoff c then [[c]] else []) ++ splitFrom [] rest
      else splitFrom (current ++ [c]) rest := rfl

theorem splitFrom_plain (plain : ∀ c ∈ part, isSeparator c = false ∧ isCutoff c = false)
    (current rest : Text) :
    splitFrom current (part ++ rest) = splitFrom (current ++ part) rest := by
  induction part generalizing current with
  | nil => rw [List.nil_append, List.append_nil]
  | cons c more ih =>
    rw [List.forall_mem_cons] at plain
    rw [List.cons_append, splitFrom_cons, plain.1.1, plain.1.2, if_neg (by decide), ih plain.2,
      List.append_assoc, List.singleton_append]

theorem splitFrom_separator (current rest : Text) (separates : isSeparator c = true) :
    splitFrom current (c :: rest) = splitFrom current [] ++ splitFrom [] rest := by
  have uncut := isCutoff_of_isSeparator separates
  rw [splitFrom_cons]
  simp [separates, uncut]

theorem splitFrom_cutoff (current rest : Text) (cuts : isCutoff c = true) :
    splitFrom current (c :: rest) = splitFrom current [] ++ [c] :: splitFrom [] rest := by
  rw [splitFrom_cons]
  simp [cuts]

theorem splitFrom_pending (some : current ≠ []) :
    splitFrom current [] = [current] := by
  exact if_neg (by simpa using some)

/-- A separator ends a token, whatever stands on its two sides. -/
theorem splitFrom_append_separator (current front rest : Text) (separates : isSeparator c = true) :
    splitFrom current (front ++ c :: rest) = splitFrom current front ++ splitFrom [] rest := by
  induction front generalizing current with
  | nil => exact splitFrom_separator current rest separates
  | cons d front ih =>
    rw [List.cons_append, splitFrom_cons, splitFrom_cons]
    split
    · simp only [ih, List.append_assoc]
    · exact ih _

/-- A cutoff ends a token as well, and is one itself. -/
theorem splitFrom_append_cutoff (current front rest : Text) (cuts : isCutoff c = true) :
    splitFrom current (front ++ c :: rest) =
      splitFrom current front ++ [c] :: splitFrom [] rest := by
  induction front generalizing current with
  | nil => exact splitFrom_cutoff current rest cuts
  | cons d front ih =>
    rw [List.cons_append, splitFrom_cons, splitFrom_cons]
    split
    · simp only [ih, List.append_assoc]
    · exact ih _

theorem splitFrom_append (front : Text) (separated : ∀ c ∈ rest.head?, isSeparator c = true) :
    splitFrom [] (front ++ rest) = splitFrom [] front ++ splitFrom [] rest := by
  cases rest with
  | nil =>
    rw [List.append_nil]
    exact (List.append_nil _).symm
  | cons c rest =>
    have separates := separated c rfl
    rw [splitFrom_append_separator _ _ _ separates, splitFrom_separator _ _ separates]
    rfl

theorem splitFrom_gap {gap : Text} (between : Separates gap) (rest : Text) :
    splitFrom [] (gap ++ rest) = splitFrom [] rest := by
  induction gap with
  | nil => rfl
  | cons c gap ih =>
    obtain ⟨separates, others⟩ := between.of_cons
    rw [List.cons_append, splitFrom_separator _ _ separates, ih others]
    rfl

/-- What follows a word without a separator begins with a cutoff. -/
theorem Spells.head_cutoff (spells : Spells texts code)
    (wordless : ∀ next ∈ texts.head?, ¬ IsWord next) : ∀ c ∈ code.head?, isCutoff c = true := by
  cases spells with
  | nil => simp
  | cons lexeme between apart others =>
    rcases lexeme with @⟨d, cuts⟩ | word
    · simpa using cuts
    · exact absurd word (wordless _ rfl)

theorem splitFrom_ended (some : current ≠ []) (ends : ∀ c ∈ code.head?, isCutoff c = true) :
    splitFrom current code = current :: splitFrom [] code := by
  cases code with
  | nil => exact splitFrom_pending some
  | cons c rest =>
    have cuts : isCutoff c = true := ends c rfl
    rw [splitFrom_cutoff _ _ cuts, splitFrom_cutoff _ _ cuts, splitFrom_pending some]
    rfl

theorem Spells.splitFrom (spells : Spells texts code) :
    Token.splitFrom [] code = texts := by
  induction spells with
  | nil => rfl
  | @cons text gap rest texts lexeme between apart others ih =>
    rcases lexeme with @⟨d, cuts⟩ | word
    · rw [List.singleton_append, splitFrom_cutoff _ _ cuts, splitFrom_gap between, ih]
      rfl
    · rw [splitFrom_plain word.plain, List.nil_append]
      cases gap with
      | nil =>
        have wordless : ∀ next ∈ texts.head?, ¬ IsWord next :=
          fun next first follows => apart word next first follows rfl
        rw [List.nil_append, splitFrom_ended word.some (others.head_cutoff wordless), ih]
      | cons c gap =>
        obtain ⟨separates, more⟩ := between.of_cons
        rw [List.cons_append, splitFrom_separator _ _ separates, splitFrom_pending word.some,
          splitFrom_gap more, ih]
        rfl

theorem Divides.splitFrom (divides : Divides texts code) :
    Token.splitFrom [] code = texts := by
  obtain ⟨gap, rest, between, spells, rfl⟩ := divides
  rw [splitFrom_gap between, spells.splitFrom]

theorem Spells.divides (spells : Spells texts code) :
    Divides texts code := ⟨[], code, .nil, spells, rfl⟩

theorem Divides.separated (separates : isSeparator c = true) (divides : Divides texts code) :
    Divides texts (c :: code) := by
  obtain ⟨gap, rest, between, spells, rfl⟩ := divides
  exact ⟨c :: gap, rest, .cons separates between, spells, rfl⟩

theorem Divides.afterMark (cuts : isCutoff c = true) (divides : Divides texts code) :
    Spells ([c] :: texts) (c :: code) := by
  obtain ⟨gap, rest, between, spells, rfl⟩ := divides
  have mark : IsMark [c] := .cutoff cuts
  exact .cons (.inl mark) between (fun word => absurd word mark.not_isWord) spells

theorem Divides.afterWord (word : IsWord text) (separates : isSeparator c = true)
    (divides : Divides texts code) :
    Spells (text :: texts) (text ++ c :: code) := by
  obtain ⟨gap, rest, between, spells, rfl⟩ := divides
  exact .cons (.inr word) (.cons separates between) (fun _ _ _ _ => List.cons_ne_nil _ _) spells

/-- The induction goes over the code with the word in progress, which stays in front of what is
left. Without such a word there may still be separators in front. -/
theorem splitFrom_spells (code : Text) :
    Divides (splitFrom [] code) code ∧
      ∀ current, IsWord current → Spells (splitFrom current code) (current ++ code) := by
  induction code with
  | nil =>
    refine ⟨Spells.nil.divides, fun current word => ?_⟩
    rw [splitFrom_pending word.some]
    exact .cons (.inr word) .nil (by simp) .nil
  | cons c code ih =>
    obtain ⟨divides, onward⟩ := ih
    cases separates : isSeparator c with
    | true =>
      constructor
      · rw [splitFrom_separator _ _ separates]
        exact divides.separated separates
      · intro current word
        rw [splitFrom_separator _ _ separates, splitFrom_pending word.some]
        exact divides.afterWord word separates
    | false =>
      cases cuts : isCutoff c with
      | true =>
        have mark : Spells ([c] :: splitFrom [] code) (c :: code) := divides.afterMark cuts
        constructor
        · rw [splitFrom_cutoff _ _ cuts]
          exact mark.divides
        · intro current word
          rw [splitFrom_cutoff _ _ cuts, splitFrom_pending word.some]
          refine .cons (.inr word) .nil ?_ mark
          rintro - next ⟨⟩ follows
          exact absurd follows (IsMark.cutoff cuts).not_isWord
      | false =>
        have grown (current : Text) (plain : ∀ d ∈ current,
            isSeparator d = false ∧ isCutoff d = false) :
            Spells (splitFrom current (c :: code)) (current ++ c :: code) := by
          have word : IsWord (current ++ [c]) := by
            refine ⟨by simp, fun d inside => ?_⟩
            rcases List.mem_append.mp inside with before | last
            · exact plain d before
            · rw [List.mem_singleton.mp last]
              exact ⟨separates, cuts⟩
          have moved : splitFrom current (c :: code) = splitFrom (current ++ [c]) code := by
            rw [splitFrom_cons, separates, cuts, if_neg (by decide)]
          have later := onward _ word
          rwa [List.append_assoc, List.singleton_append, ← moved] at later
        exact ⟨(grown [] (by simp)).divides, fun current word => grown current word.plain⟩

/-- The tokens of some code are the only texts that make it up. -/
theorem divides_iff (texts : List Text) (code : Text) :
    Divides texts code ↔ splitFrom [] code = texts := by
  constructor
  · exact Divides.splitFrom
  · rintro rfl
    exact (splitFrom_spells code).1

theorem Spells.lexemes (spells : Spells texts code) :
    ∀ text ∈ texts, IsLexeme text := by
  induction spells with
  | nil => simp
  | cons lexeme _ _ _ ih => exact List.forall_mem_cons.mpr ⟨lexeme, ih⟩

theorem Divides.lexemes (divides : Divides texts code) :
    ∀ text ∈ texts, IsLexeme text := by
  obtain ⟨gap, rest, _, spells, _⟩ := divides
  exact spells.lexemes

theorem Spells.isInfix (spells : Spells texts code) :
    ∀ text ∈ texts, text <:+: code := by
  induction spells with
  | nil => simp
  | @cons text gap rest texts _ _ _ _ ih =>
    refine List.forall_mem_cons.mpr ⟨(List.prefix_append text _).isInfix, fun other inside => ?_⟩
    exact (ih other inside).trans ⟨text ++ gap, [], by simp⟩

theorem Divides.isInfix (divides : Divides texts code) :
    ∀ text ∈ texts, text <:+: code := by
  obtain ⟨gap, rest, _, spells, rfl⟩ := divides
  exact fun text inside => (spells.isInfix text inside).trans (List.suffix_append gap rest).isInfix

theorem Spells.mem (spells : Spells texts code) (inside : c ∈ code) :
    isSeparator c = true ∨ ∃ text ∈ texts, c ∈ text := by
  induction spells with
  | nil => cases inside
  | @cons text gap rest texts _ between _ _ ih =>
    rcases List.mem_append.mp inside with here | behind
    · exact .inr ⟨text, List.mem_cons_self, here⟩
    · rcases List.mem_append.mp behind with blank | later
      · exact .inl (between c blank)
      · rcases ih later with blank | ⟨other, among, found⟩
        · exact .inl blank
        · exact .inr ⟨other, List.mem_cons_of_mem _ among, found⟩

theorem Divides.mem (divides : Divides texts code) (inside : c ∈ code) :
    isSeparator c = true ∨ ∃ text ∈ texts, c ∈ text := by
  obtain ⟨gap, rest, between, spells, rfl⟩ := divides
  rcases List.mem_append.mp inside with blank | later
  · exact .inl (between c blank)
  · exact spells.mem later

theorem filter_gap {gap : Text} (between : Separates gap) :
    gap.filter (fun c => !isSeparator c) = [] := by
  rw [List.filter_eq_nil_iff]
  intro c inside
  simp [between c inside]

theorem filter_lexeme (lexeme : IsLexeme text) :
    text.filter (fun c => !isSeparator c) = text := by
  rw [List.filter_eq_self]
  intro c inside
  cases separates : isSeparator c with
  | false => rfl
  | true => exact absurd inside (lexeme.notMem separates)

theorem Spells.flatten (spells : Spells texts code) :
    texts.flatten = code.filter fun c => !isSeparator c := by
  induction spells with
  | nil => rfl
  | cons lexeme between _ _ ih =>
    rw [List.flatten_cons, ih, List.filter_append, List.filter_append, filter_lexeme lexeme,
      filter_gap between, List.nil_append]

/-- Nothing but separators is lost. -/
theorem Divides.flatten (divides : Divides texts code) :
    texts.flatten = code.filter fun c => !isSeparator c := by
  obtain ⟨gap, rest, between, spells, rfl⟩ := divides
  rw [List.filter_append, filter_gap between, List.nil_append, spells.flatten]

theorem isSeparator_blank : isSeparator ' ' = true := rfl

/-- Texts of tokens with one blank between neighbours. -/
theorem spells_join (lexemes : ∀ text ∈ texts, IsLexeme text) :
    Spells texts (Text.join " " texts) := by
  induction texts with
  | nil => exact .nil
  | cons text rest ih =>
    obtain ⟨lexeme, others⟩ := List.forall_mem_cons.mp lexemes
    cases rest with
    | nil =>
      have last : Spells [text] (text ++ ([] ++ [])) := .cons lexeme .nil (by simp) .nil
      rwa [List.append_nil, List.append_nil] at last
    | cons next rest =>
      have blank : Separates [' '] := .cons isSeparator_blank .nil
      have whole : Text.join " " (text :: next :: rest) =
          text ++ ([' '] ++ Text.join " " (next :: rest)) := List.append_assoc ..
      rw [whole]
      exact .cons lexeme blank (fun _ _ _ _ => List.cons_ne_nil _ _) (ih others)

/-- The code of a line: what stands in front of its first comment mark. -/
structure IsCode (line code : Text) : Prop where
  ends : ∃ comment, line = code ++ comment ∧ (comment = [] ∨ ("//" : Text) <+: comment)
  first : ∀ front comment, line = front ++ comment → ("//" : Text) <+: comment →
    code.length ≤ front.length

/-- A text without a comment mark. -/
def Uncommented (text : Text) : Prop := ¬ ("//" : Text) <:+: text

theorem comment_prefix_iff (c : Char) (rest : Text) :
    ("//" : Text) <+: c :: rest ↔ c = '/' ∧ rest.head? = some '/' := by
  constructor
  · rintro ⟨more, whole⟩
    cases whole
    exact ⟨rfl, rfl⟩
  · rintro ⟨rfl, slash⟩
    obtain ⟨more, rfl⟩ := List.head?_eq_some_iff.mp slash
    exact ⟨more, rfl⟩

theorem stripComment_of_mark (mark : ("//" : Text) <+: c :: rest) :
    stripComment (c :: rest) = [] := by
  obtain ⟨slash, again⟩ := (comment_prefix_iff c rest).mp mark
  rw [stripComment, if_pos (by simp [slash, again])]

theorem stripComment_of_unmarked (unmarked : ¬ ("//" : Text) <+: c :: rest) :
    stripComment (c :: rest) = c :: stripComment rest := by
  rw [comment_prefix_iff] at unmarked
  rw [stripComment, if_neg (by simpa using unmarked)]

theorem Uncommented.of_isInfix (uncommented : Uncommented text) (inside : part <:+: text) :
    Uncommented part :=
  fun mark => uncommented (mark.trans inside)

theorem Uncommented.nil : Uncommented [] :=
  fun mark => absurd (List.eq_nil_of_infix_nil mark) (by decide)

theorem stripComment_of_uncommented (uncommented : Uncommented text) :
    stripComment text = text := by
  induction text with
  | nil => rfl
  | cons c rest ih =>
    have unmarked : ¬ ("//" : Text) <+: c :: rest := fun mark => uncommented mark.isInfix
    have later := uncommented.of_isInfix (List.infix_cons (List.infix_refl rest))
    rw [stripComment_of_unmarked unmarked, ih later]

theorem stripComment_append (before : Uncommented front) (other : c ≠ '/') (rest : Text) :
    stripComment (front ++ c :: rest) = front ++ c :: stripComment rest := by
  induction front with
  | nil =>
    apply stripComment_of_unmarked
    rw [comment_prefix_iff]
    exact fun mark => other mark.1
  | cons d front ih =>
    have unmarked : ¬ ("//" : Text) <+: d :: (front ++ c :: rest) := by
      rw [comment_prefix_iff]
      rintro ⟨rfl, slash⟩
      cases front with
      | nil => exact other (Option.some.inj slash)
      | cons e front =>
        cases Option.some.inj slash
        exact before ⟨[], front, rfl⟩
    rw [List.cons_append, stripComment_of_unmarked unmarked,
      ih (before.of_isInfix (List.suffix_cons d front).isInfix), List.cons_append]

theorem stripComment_isCode (line : Text) : IsCode line (stripComment line) := by
  induction line with
  | nil => exact ⟨⟨[], rfl, .inl rfl⟩, fun _ _ _ _ => Nat.zero_le _⟩
  | cons c rest ih =>
    by_cases mark : ("//" : Text) <+: c :: rest
    · rw [stripComment_of_mark mark]
      exact ⟨⟨c :: rest, rfl, .inr mark⟩, fun _ _ _ _ => Nat.zero_le _⟩
    · rw [stripComment_of_unmarked mark]
      obtain ⟨comment, whole, ends⟩ := ih.ends
      refine ⟨⟨comment, by rw [List.cons_append, ← whole], ends⟩, ?_⟩
      intro front comment' split starts
      cases front with
      | nil =>
        rw [List.nil_append] at split
        rw [← split] at starts
        exact absurd starts mark
      | cons d front =>
        rw [List.cons_append, List.cons.injEq] at split
        have shorter := ih.first front comment' split.2 starts
        rw [List.length_cons, List.length_cons]
        omega

/-- A line has one code: no part that is longer or shorter ends at the first comment mark. -/
theorem IsCode.length_le {other : Text} (isCode : IsCode line code) (isOther : IsCode line other) :
    code.length ≤ other.length := by
  obtain ⟨comment, whole, ends⟩ := isOther.ends
  rcases ends with rfl | starts
  · obtain ⟨rest, front, _⟩ := isCode.ends
    rw [List.append_nil] at whole
    rw [← whole, front, List.length_append]
    exact Nat.le_add_right ..
  · exact isCode.first other comment whole starts

theorem IsCode.eq_stripComment (isCode : IsCode line code) :
    code = stripComment line := by
  have stripped := stripComment_isCode line
  have same := Nat.le_antisymm (isCode.length_le stripped) (stripped.length_le isCode)
  obtain ⟨comment, whole, _⟩ := isCode.ends
  obtain ⟨comment', whole', _⟩ := stripped.ends
  exact (List.append_inj (whole.symm.trans whole') same).1

theorem head_stripComment (first : (stripComment text).head? = some c) :
    text.head? = some c := by
  obtain ⟨comment, whole, _⟩ := (stripComment_isCode text).ends
  rw [whole, List.head?_append, first]
  rfl

theorem stripComment_uncommented (text : Text) : Uncommented (stripComment text) := by
  induction text with
  | nil => exact .nil
  | cons c rest ih =>
    by_cases mark : ("//" : Text) <+: c :: rest
    · rw [stripComment_of_mark mark]
      exact .nil
    · rw [stripComment_of_unmarked mark]
      intro found
      rcases List.infix_cons_iff.mp found with here | later
      · obtain ⟨slash, again⟩ := (comment_prefix_iff _ _).mp here
        exact mark ((comment_prefix_iff c rest).mpr ⟨slash, head_stripComment again⟩)
      · exact ih later

/-- A comment ends at no character but a slash. -/
theorem Uncommented.append (before : Uncommented front) (other : c ≠ '/')
    (behind : Uncommented rest) : Uncommented (front ++ c :: rest) := by
  have whole := stripComment_append before other rest
  rw [stripComment_of_uncommented behind] at whole
  rw [← whole]
  exact stripComment_uncommented _

theorem Uncommented.cons (other : c ≠ '/') (behind : Uncommented rest) :
    Uncommented (c :: rest) := Uncommented.nil.append other behind

theorem Uncommented.of_all (each : text.all (fun c => c != '/') = true) :
    Uncommented text := by
  intro marked
  have slash : '/' ∈ text := marked.subset List.mem_cons_self
  simpa using List.all_eq_true.mp each '/' slash

theorem Uncommented.append_of_head (before : Uncommented front) (behind : Uncommented rest)
    (other : ∀ c ∈ rest.head?, c ≠ '/') :
    Uncommented (front ++ rest) := by
  cases rest with
  | nil => rwa [List.append_nil]
  | cons c rest =>
    have later := behind.of_isInfix (List.infix_cons (List.infix_refl rest))
    exact before.append (other c rfl) later

theorem ne_slash_of_isSeparator (separates : isSeparator c = true) : c ≠ '/' := by
  rintro rfl
  cases separates

theorem ne_slash_of_isCutoff (cuts : isCutoff c = true) : c ≠ '/' := by
  rintro rfl
  cases cuts

theorem Uncommented.gap {gap : Text} (between : Separates gap) (behind : Uncommented rest) :
    Uncommented (gap ++ rest) := by
  induction gap with
  | nil => exact behind
  | cons c gap ih =>
    obtain ⟨separates, others⟩ := between.of_cons
    exact .cons (ne_slash_of_isSeparator separates) (ih others)

/-- Tokens without comment marks make none together. -/
theorem Spells.uncommented (spells : Spells texts code) (each : ∀ text ∈ texts, Uncommented text) :
    Uncommented code := by
  induction spells with
  | nil => exact .nil
  | @cons text gap rest texts lexeme between apart others ih =>
    obtain ⟨first, behind⟩ := List.forall_mem_cons.mp each
    have later : Uncommented (gap ++ rest) := .gap between (ih behind)
    rcases lexeme with @⟨c, cuts⟩ | word
    · exact .cons (ne_slash_of_isCutoff cuts) later
    · refine first.append_of_head later ?_
      cases gap with
      | nil =>
        have wordless : ∀ next ∈ texts.head?, ¬ IsWord next :=
          fun next first follows => apart word next first follows rfl
        exact fun c first => ne_slash_of_isCutoff (others.head_cutoff wordless c first)
      | cons c gap =>
        rintro d ⟨⟩
        exact ne_slash_of_isSeparator between.of_cons.1

theorem Divides.uncommented (divides : Divides texts code)
    (each : ∀ text ∈ texts, Uncommented text) : Uncommented code := by
  obtain ⟨gap, rest, between, spells, rfl⟩ := divides
  exact .gap between (spells.uncommented each)

theorem uncommented_join (each : ∀ text ∈ texts, Uncommented text) :
    Uncommented (Text.join " " texts) := by
  induction texts with
  | nil => exact .nil
  | cons text rest ih =>
    obtain ⟨first, others⟩ := List.forall_mem_cons.mp each
    cases rest with
    | nil => exact first
    | cons next rest =>
      have whole : Text.join " " (text :: next :: rest) =
          text ++ ' ' :: Text.join " " (next :: rest) := List.append_assoc ..
      rw [whole]
      exact first.append (by decide) (ih others)

theorem ofLine_divides (line : Text) : Divides (ofLine line) (stripComment line) :=
  (divides_iff _ _).mpr rfl

theorem ofLine_of_divides (uncommented : Uncommented line) (divides : Divides texts line) :
    ofLine line = texts := by
  rw [ofLine, stripComment_of_uncommented uncommented, divides.splitFrom]

theorem ofLine_append_cutoff (before : Uncommented front) (cuts : isCutoff c = true)
    (rest : Text) : ofLine (front ++ c :: rest) = ofLine front ++ [c] :: ofLine rest := by
  rw [ofLine, stripComment_append before (ne_slash_of_isCutoff cuts),
    splitFrom_append_cutoff [] _ _ cuts, ofLine, stripComment_of_uncommented before, ofLine]

/-- Tokens written with one blank between them are read as they are. -/
theorem ofLine_join (lexemes : ∀ text ∈ texts, IsLexeme text)
    (uncommented : ∀ text ∈ texts, Uncommented text) : ofLine (Text.join " " texts) = texts :=
  ofLine_of_divides (uncommented_join uncommented) (spells_join lexemes).divides

theorem uncommented_of_mem_ofLine (inside : text ∈ ofLine line) :
    Uncommented text :=
  (stripComment_uncommented line).of_isInfix ((ofLine_divides line).isInfix text inside)

theorem isInfix_of_mem_ofLine (inside : text ∈ ofLine line) :
    text <:+: line := by
  obtain ⟨comment, whole, _⟩ := (stripComment_isCode line).ends
  have front : stripComment line <+: line := ⟨comment, whole.symm⟩
  exact ((ofLine_divides line).isInfix text inside).trans front.isInfix

end ShaderLift.Token
