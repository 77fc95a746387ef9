import ShaderLift.Proofs.Text.Ends
import ShaderLift.Proofs.Text.Words

namespace ShaderLift.Text

variable {word text : Text} {c : Char}

/-- The words on both sides of a blank are read apart. -/
theorem wordsFrom_append_blank (current front rest : Text) (c : Char) (blank : isBlank c = true) :
    wordsFrom current (front ++ c :: rest) = wordsFrom current front ++ words rest := by
  induction front generalizing current with
  | nil =>
    simp only [List.nil_append, wordsFrom, blank, if_true]
    cases current <;> rfl
  | cons d front ih =>
    rw [List.cons_append, wordsFrom, wordsFrom, ih, ih]
    cases isBlank d <;> cases current <;> simp

theorem words_append_blank (front rest : Text) (c : Char) (blank : isBlank c = true) :
    words (front ++ c :: rest) = words front ++ words rest :=
  wordsFrom_append_blank [] front rest c blank

theorem words_gap_append (gap text : Text) (blank : gap.IsGap) :
    words (gap ++ text) = words text := by
  induction gap with
  | nil => rfl
  | cons c gap ih =>
    have here := words_append_blank [] (gap ++ text) c (blank c List.mem_cons_self)
    rw [List.nil_append] at here
    rw [List.cons_append, here, ih fun d inside => blank d (List.mem_cons_of_mem c inside)]
    rfl

theorem words_append_gap (text gap : Text) (blank : gap.IsGap) :
    words (text ++ gap) = words text := by
  cases gap with
  | nil => rw [List.append_nil]
  | cons c gap =>
    have none := words_gap_append gap [] fun d inside => blank d (List.mem_cons_of_mem c inside)
    rw [List.append_nil] at none
    rw [words_append_blank text gap c (blank c List.mem_cons_self), none]
    exact List.append_nil _

theorem words_trim (text : Text) : words (trim text) = words text := by
  obtain ⟨front, back, blank, whole⟩ := exists_trim text
  have blankFront : front.IsGap := fun c inside => blank c (List.mem_append_left back inside)
  have blankBack : back.IsGap := fun c inside => blank c (List.mem_append_right front inside)
  conv => rhs; rw [whole, words_gap_append _ _ blankFront, words_append_gap _ _ blankBack]

/-- A word: some characters, none of them blank. -/
structure IsWord (word : Text) : Prop where
  nonempty : word ≠ []
  solid : word.IsSolid

theorem isWord_of_all (some : word ≠ []) (each : word.all (fun c => !isBlank c) = true) :
    word.IsWord :=
  ⟨some, fun c inside => by simpa using List.all_eq_true.mp each c inside⟩

theorem IsWord.words_eq (isWord : word.IsWord) : words word = [word] := by
  have whole (current text : Text) (solid : text.IsSolid) (some : current ++ text ≠ []) :
      wordsFrom current text = [current ++ text] := by
    induction text generalizing current with
    | nil =>
      rw [List.append_nil] at some
      simp [wordsFrom, some]
    | cons c rest ih =>
      have visible := solid c List.mem_cons_self
      have later := ih (current ++ [c]) (fun d inside => solid d (List.mem_cons_of_mem c inside))
        (by simp)
      rw [List.append_assoc, List.singleton_append] at later
      rwa [wordsFrom, visible, if_neg Bool.false_ne_true]
  exact whole [] word isWord.solid isWord.nonempty

/-- Whether a text could go on behind a word: it is empty or starts with a blank. -/
def Divides (rest : Text) : Prop := ∀ c ∈ rest.head?, isBlank c = true

theorem divides_cons {rest : Text} (blank : isBlank c = true) :
    Divides (c :: rest) := by
  intro d head
  rwa [← Option.some.inj head]

/-- The texts in which the words stand in this order, apart from each other by blanks. -/
inductive Spells : List Text → Text → Prop
  | none {gap : Text} (blank : gap.IsGap) : Spells [] gap
  | word {gap word rest : Text} {others : List Text} (blank : gap.IsGap) (isWord : word.IsWord)
      (apart : rest.Divides) (spelled : Spells others rest) :
      Spells (word :: others) (gap ++ word ++ rest)

namespace Spells

variable {words : List Text} {text : Text} {c : Char}

theorem words_eq (spelled : Spells words text) :
    text.words = words := by
  induction spelled with
  | none blank =>
    rename_i gap
    have empty := words_gap_append gap [] blank
    rwa [List.append_nil] at empty
  | word blank isWord apart spelled ih =>
    rename_i gap word rest others
    have front : Text.words (gap ++ word) = [word] := by
      rw [words_gap_append gap word blank, isWord.words_eq]
    cases rest with
    | nil => rw [List.append_nil, front, ← ih]; rfl
    | cons c rest =>
      have blankHere : isBlank c = true := apart c rfl
      have behind := words_append_blank [] rest c blankHere
      rw [words_append_blank _ rest c blankHere, front, ← ih]
      exact congrArg (word :: ·) behind.symm

/-- A character of the text is blank or belongs to one of the words. -/
theorem of_mem (spelled : Spells words text) (inside : c ∈ text) :
    isBlank c = true ∨ ∃ word ∈ words, c ∈ word := by
  induction spelled with
  | none blank => exact .inl (blank c inside)
  | word blank isWord apart spelled ih =>
    rcases List.mem_append.mp inside with early | late
    · rcases List.mem_append.mp early with gap | here
      · exact .inl (blank c gap)
      · exact .inr ⟨_, List.mem_cons_self, here⟩
    · rcases ih late with gap | ⟨other, listed, there⟩
      · exact .inl gap
      · exact .inr ⟨other, List.mem_cons_of_mem _ listed, there⟩

theorem mem {word : Text} (spelled : Spells words text) (listed : word ∈ words)
    (inside : c ∈ word) : c ∈ text := by
  induction spelled with
  | none blank => cases listed
  | word blank isWord apart spelled ih =>
    rcases List.mem_cons.mp listed with rfl | later
    · simp [inside]
    · simp [ih later]

theorem not_mem (spelled : Spells words text) (visible : isBlank c = false)
    (absent : ∀ word ∈ words, c ∉ word) : c ∉ text := by
  intro inside
  rcases spelled.of_mem inside with blank | ⟨word, listed, member⟩
  · rw [visible] at blank
    cases blank
  · exact absent word listed member

end Spells

theorem exists_word (c : Char) (rest : Text) (visible : isBlank c = false) :
    ∃ word tail : Text, c :: rest = word ++ tail ∧ word.IsWord ∧ tail.Divides := by
  have single : IsWord [c] := ⟨by simp, by simpa [IsSolid] using visible⟩
  induction rest generalizing c with
  | nil => exact ⟨[c], [], rfl, single, nofun⟩
  | cons d rest ih =>
    cases blank : isBlank d with
    | true => exact ⟨[c], d :: rest, rfl, single, divides_cons blank⟩
    | false =>
      obtain ⟨word, tail, whole, isWord, apart⟩ :=
        ih d blank ⟨by simp, by simpa [IsSolid] using blank⟩
      exact ⟨c :: word, tail, by rw [whole, List.cons_append],
        ⟨by simp, List.forall_mem_cons.mpr ⟨visible, isWord.solid⟩⟩, apart⟩

/-- Every text spells its words. -/
theorem spells_words (text : Text) : Spells text.words text := by
  -- the blanks in front and the first word are cut off, and the rest is shorter
  induction size : text.length using Nat.strong_induction_on generalizing text with
  | _ size ih =>
    subst size
    rcases isGap_or_visible text with blank | ⟨gap, c, rest, blank, visible, rfl⟩
    · have none := words_gap_append text [] blank
      rw [List.append_nil] at none
      rw [none]
      exact .none blank
    · obtain ⟨word, tail, whole, isWord, apart⟩ := exists_word c rest visible
      rw [whole, ← List.append_assoc] at ih ⊢
      have shorter : tail.length < (gap ++ word ++ tail).length := by
        have longer := List.length_pos_of_ne_nil isWord.nonempty
        simp only [List.length_append]
        omega
      have built := Spells.word blank isWord apart (ih _ shorter tail rfl)
      rw [built.words_eq]
      exact built

theorem spells_iff {words : List Text} : Spells words text ↔ text.words = words := by
  constructor
  · exact Spells.words_eq
  · rintro rfl
    exact spells_words text

instance (words : List Text) (text : Text) : Decidable (Spells words text) :=
  decidable_of_iff _ spells_iff.symm

/-- The text starts with the word. -/
def Leads (word text : Text) : Prop := ∃ rest, text = word ++ rest ∧ rest.Divides

theorem IsSolid.takeWhile_append {rest : Text} (solid : word.IsSolid) (apart : rest.Divides) :
    (word ++ rest).takeWhile (fun c => !isBlank c) = word := by
  have stops : rest.takeWhile (fun c => !isBlank c) = [] := by
    cases rest with
    | nil => rfl
    | cons c rest => rw [List.takeWhile_cons_of_neg (by simp [apart c rfl])]
  have passes (c : Char) (inside : c ∈ word) : (!isBlank c) = true := by simp [solid c inside]
  rw [List.takeWhile_append_of_pos passes, stops, List.append_nil]

/-- The first word of a text is unique. -/
theorem Leads.eq {other : Text} (leads : Leads word text) (leads' : Leads other text)
    (solid : word.IsSolid) (solid' : other.IsSolid) : word = other := by
  obtain ⟨rest, rfl, apart⟩ := leads
  obtain ⟨rest', same, apart'⟩ := leads'
  rw [← solid.takeWhile_append apart, same, solid'.takeWhile_append apart']

theorem divides_trimEnd {rest : Text} (apart : rest.Divides) : (trimEnd rest).Divides := by
  obtain ⟨tail, whole⟩ := dropEnd_isPrefix isBlank rest
  intro c head
  apply apart c
  rw [← whole]
  exact List.mem_head?_append_of_mem_head? head

theorem leads_trim {gap rest : Text} (blank : gap.IsGap) (isWord : word.IsWord)
    (apart : rest.Divides) : Leads word (trim (gap ++ word ++ rest)) := by
  obtain ⟨c, letters, rfl⟩ := List.exists_cons_of_ne_nil isWord.nonempty
  have visible := isWord.solid c List.mem_cons_self
  rw [List.append_assoc, List.cons_append, trim_gap_append gap _ c blank visible]
  rcases List.eq_nil_or_concat' letters with rfl | ⟨front, last, rfl⟩
  · exact ⟨trimEnd rest, rfl, divides_trimEnd apart⟩
  · have visibleLast : isBlank last = false := isWord.solid last (by simp)
    refine ⟨trimEnd rest, ?_, divides_trimEnd apart⟩
    rw [List.append_assoc, List.singleton_append, trimEnd_append_visible front rest last visibleLast]
    simp

theorem Spells.leads_trim {others : List Text} (spelled : Spells (word :: others) text) :
    Leads word (trim text) := by
  cases spelled with
  | word blank isWord apart spelled => exact Text.leads_trim blank isWord apart

/-- A text with several words starts with the first of them, whatever is written behind it. -/
theorem Spells.leads_trim_append {tail : Text} {others : List Text}
    (spelled : Spells (word :: others) text) (several : others ≠ []) :
    Leads word (trim (text ++ tail)) := by
  cases spelled with
  | word blank isWord apart spelled =>
    rename_i gap rest
    cases rest with
    | nil =>
      have none := spelled.words_eq
      exact absurd none.symm several
    | cons c rest =>
      rw [List.append_assoc]
      exact Text.leads_trim blank isWord apart

/-- The last character is blank or ends the last word. -/
theorem Spells.getLast?_eq {words : List Text} (spelled : Spells words text)
    (last : text.getLast? = some c) :
    isBlank c = true ∨ ∃ word ∈ words.getLast?, word.getLast? = some c := by
  induction spelled with
  | none blank => exact .inl (blank c (List.mem_of_getLast? last))
  | word blank isWord apart spelled ih =>
    rename_i gap word rest others
    cases rest with
    | nil =>
      have none : others = [] := spelled.words_eq.symm
      rw [List.append_nil, List.getLast?_append_of_ne_nil _ isWord.nonempty] at last
      exact .inr ⟨word, by simp [none], last⟩
    | cons d rest =>
      rw [List.getLast?_append_of_ne_nil _ (List.cons_ne_nil d rest)] at last
      rcases ih last with blankLast | ⟨final, ends, lastOf⟩
      · exact .inl blankLast
      · exact .inr ⟨final, by simp [List.getLast?_cons, Option.mem_def.mp ends], lastOf⟩

end ShaderLift.Text
