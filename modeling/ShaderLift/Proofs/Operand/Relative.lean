import ShaderLift.Proofs.Operand.Modifier

namespace ShaderLift

namespace Operand

/-- A register that an index is relative to. -/
structure IsIndexRegister (register : Text) : Prop where
  filled : register ≠ []
  solid : ∀ c ∈ register, Text.isBlank c = false ∧ c ≠ '+'

/-- An index that is relative to a register, and the digits that are added to it, if any. Blanks may
stand around each part; digits alone are no register. -/
inductive IsRelative : Text → Text → Text → Prop
  | alone {front register back : Text} (blank : ∀ c ∈ front ++ back, Text.isBlank c = true)
      (named : IsIndexRegister register) (worded : Text.allDigits register = false) :
      IsRelative (front ++ (register ++ back)) register []
  | added {front register gap gap' digits back : Text}
      (blank : ∀ c ∈ front ++ back, Text.isBlank c = true)
      (blank' : ∀ c ∈ gap ++ gap', Text.isBlank c = true) (named : IsIndexRegister register)
      (filled : digits ≠ []) (decimal : ∀ c ∈ digits, Text.isDecimal c = true) :
      IsRelative (front ++ ((register ++ (gap ++ '+' :: (gap' ++ digits))) ++ back)) register digits

/-- A relative index as an integer expression. -/
def relativeText (register digits : Text) : Text :=
  let view : Text := "asuint(" ++ register ++ ")"
  if Text.decimalsValue digits = 0 then view
  else view ++ " + " ++ Text.ofNat (Text.decimalsValue digits)

/-- No index in a text is relative to a register. -/
def HasNoRelative (text : Text) : Prop :=
  ∀ front index rest, text = front ++ '[' :: (index ++ ']' :: rest) → '[' ∉ index → ']' ∉ index →
    ∀ register digits, ¬ IsRelative index register digits

/-- The text of a register as it is generated: a relative index right behind the register's name
becomes an integer expression. -/
inductive IsRewritten : Text → Text → Prop
  | absolute {base : Text} (plain : HasNoRelative base) : IsRewritten base base
  | relative {name index rest register digits : Text} {start : Char}
      (starts : name.head? = some start) (letter : Text.isNameStart start = true)
      (word : ∀ c ∈ name, Text.isWord c = true) (unopened : '[' ∉ index) (unclosed : ']' ∉ index)
      (relative : IsRelative index register digits) (short : digits.length ≤ Text.maxIntegerDigits)
      (plain : HasNoRelative rest) :
      IsRewritten (name ++ '[' :: (index ++ ']' :: rest))
        (name ++ '[' :: (relativeText register digits ++ ']' :: rest))

theorem IsIndexRegister.takeWhile {register : Text} (named : IsIndexRegister register) (rest : Text)
    (stops : ∀ c, rest.head? = some c → Text.isBlank c = true ∨ c = '+') :
    (register ++ rest).takeWhile (fun c => !Text.isBlank c && c != '+') = register ∧
      (register ++ rest).dropWhile (fun c => !Text.isBlank c && c != '+') = rest := by
  have inside : ∀ c ∈ register, (!Text.isBlank c && c != '+') = true := by
    intro c among
    simp [named.solid c among]
  have outside : rest.takeWhile (fun c => !Text.isBlank c && c != '+') = [] ∧
      rest.dropWhile (fun c => !Text.isBlank c && c != '+') = rest := by
    cases rest with
    | nil => exact ⟨rfl, rfl⟩
    | cons c others =>
      have stop : ¬ (!Text.isBlank c && c != '+') = true := by
        rcases stops c rfl with blank | rfl
        · simp [blank]
        · simp
      exact ⟨List.takeWhile_cons_of_neg stop, List.dropWhile_cons_of_neg stop⟩
  rw [List.takeWhile_append_of_pos inside, List.dropWhile_append_of_pos inside, outside.1,
    outside.2, List.append_nil]
  exact ⟨rfl, rfl⟩

theorem IsIndexRegister.visible {register : Text} (named : IsIndexRegister register) (c : Char)
    (inside : c ∈ register) : Text.isBlank c = false := (named.solid c inside).1

theorem addedDigits?_padded {gap gap' digits : Text}
    (blank : ∀ c ∈ gap ++ gap', Text.isBlank c = true) (filled : digits ≠ [])
    (decimal : ∀ c ∈ digits, Text.isDecimal c = true) :
    addedDigits? (gap ++ '+' :: (gap' ++ digits)) = some digits := by
  have before : Text.trimStart (gap ++ '+' :: (gap' ++ digits)) = '+' :: (gap' ++ digits) := by
    rw [Text.trimStart_append _ _ fun c inside => blank c (List.mem_append_left _ inside)]
    apply Text.trimStart_of_head
    intro c starts
    cases starts
    decide
  have behind : Text.trimStart (gap' ++ digits) = digits := by
    rw [Text.trimStart_append _ _ fun c inside => blank c (List.mem_append_right _ inside)]
    apply Text.trimStart_of_head
    exact fun c starts => Text.isBlank_decimal c (decimal c (List.mem_of_head? starts))
  have all : digits.all Text.isDecimal = true := List.all_eq_true.mpr decimal
  unfold addedDigits?
  rw [before]
  change (if !(Text.trimStart (gap' ++ digits)).isEmpty &&
    (Text.trimStart (gap' ++ digits)).all Text.isDecimal then some (Text.trimStart (gap' ++ digits))
    else none) = some digits
  rw [behind, all, List.isEmpty_eq_false_iff.mpr filled]
  rfl

theorem IsIndexRegister.trim_added {front register gap gap' digits back : Text}
    (named : IsIndexRegister register) (blank : ∀ c ∈ front ++ back, Text.isBlank c = true)
    (filled : digits ≠ []) (decimal : ∀ c ∈ digits, Text.isDecimal c = true) :
    Text.trim (front ++ ((register ++ (gap ++ '+' :: (gap' ++ digits))) ++ back)) =
      register ++ (gap ++ '+' :: (gap' ++ digits)) := by
  apply Text.trim_padded blank (List.append_ne_nil_of_left_ne_nil named.filled _)
  · intro c starts
    obtain ⟨first, others, same⟩ := List.exists_cons_of_ne_nil named.filled
    rw [same] at starts
    cases starts
    exact named.visible c (by rw [same]; exact List.mem_cons_self ..)
  · intro c ends
    have cut : register ++ (gap ++ '+' :: (gap' ++ digits)) =
        (register ++ (gap ++ '+' :: gap')) ++ digits := by simp
    obtain ⟨final, found⟩ := Option.ne_none_iff_exists'.mp (mt List.getLast?_eq_none_iff.mp filled)
    rw [cut, List.getLast?_append, found, Option.some_or] at ends
    rw [← Option.some.inj ends]
    exact Text.isBlank_decimal final (decimal final (List.mem_of_getLast? found))

theorem allDigits_of_plus {text : Text} (added : '+' ∈ text) : Text.allDigits text = false := by
  cases all : Text.allDigits text with
  | false => rfl
  | true =>
    have each := List.all_eq_true.mp (Bool.and_eq_true_iff.mp all).2 '+' added
    cases each

theorem relativeIndex?_of_isRelative {index register digits : Text}
    (relative : IsRelative index register digits) (short : digits.length ≤ Text.maxIntegerDigits) :
    relativeIndex? index =
      .ok (some ⟨"asuint(" ++ register ++ ")", (Text.decimalsValue digits : Nat)⟩) := by
  cases relative with
  | @alone front register back blank named worded =>
    have trimmed : Text.trim (front ++ (register ++ back)) = register :=
      Text.trim_padded blank named.filled
        (fun c starts => named.visible c (List.mem_of_head? starts))
        fun c ends => named.visible c (List.mem_of_getLast? ends)
    obtain ⟨taken, dropped⟩ := named.takeWhile [] (by simp)
    rw [List.append_nil] at taken dropped
    have filled : register.isEmpty = false := List.isEmpty_eq_false_iff.mpr named.filled
    unfold relativeIndex?
    rw [trimmed]
    dsimp only
    rw [taken, dropped, worded, filled]
    rfl
  | @added front register gap gap' digits back blank blank' named filled decimal =>
    have trimmed := @IsIndexRegister.trim_added front register gap gap' digits back named blank filled decimal
    have stops (c : Char) (starts : (gap ++ '+' :: (gap' ++ digits)).head? = some c) :
        Text.isBlank c = true ∨ c = '+' := by
      cases gap with
      | nil =>
        right
        exact (Option.some.inj starts).symm
      | cons first others =>
        left
        exact blank' c (List.mem_append_left _ (List.mem_of_head? starts))
    obtain ⟨taken, dropped⟩ := named.takeWhile (gap ++ '+' :: (gap' ++ digits)) stops
    have worded : Text.allDigits (register ++ (gap ++ '+' :: (gap' ++ digits))) = false :=
      allDigits_of_plus (by simp)
    have several : (gap ++ '+' :: (gap' ++ digits)).isEmpty = false := by simp
    unfold relativeIndex?
    rw [trimmed]
    dsimp only
    rw [taken, dropped, worded, List.isEmpty_eq_false_iff.mpr named.filled, several,
      addedDigits?_padded blank' filled decimal]
    dsimp only
    rw [Fault.readInteger_decimals digits filled decimal short]
    rfl

theorem exists_padded {text digits : Text} (found : addedDigits? text = some digits) :
    ∃ gap gap', (∀ c ∈ gap ++ gap', Text.isBlank c = true) ∧
      text = gap ++ '+' :: (gap' ++ digits) ∧ digits ≠ [] ∧
      ∀ c ∈ digits, Text.isDecimal c = true := by
  unfold addedDigits? at found
  split at found
  · rename_i rest starts
    dsimp only at found
    split at found
    · rename_i known
      cases found
      simp only [Bool.and_eq_true, Bool.not_eq_true', List.isEmpty_eq_false_iff,
        List.all_eq_true] at known
      refine ⟨text.takeWhile Text.isBlank, rest.takeWhile Text.isBlank, ?_, ?_, known⟩
      · intro c inside
        rcases List.mem_append.mp inside with early | late
        · exact List.mem_takeWhile_imp early
        · exact List.mem_takeWhile_imp late
      · have behind : rest.takeWhile Text.isBlank ++ Text.trimStart rest = rest :=
          List.takeWhile_append_dropWhile
        rw [behind, ← starts]
        exact List.takeWhile_append_dropWhile.symm
    · cases found
  · cases found

/-- An index that is not left as it is, or cannot be read, is relative. -/
theorem exists_isRelative {index : Text} (read : relativeIndex? index ≠ .ok none) :
    ∃ register digits, IsRelative index register digits := by
  obtain ⟨front, back, blank, whole⟩ := Text.exists_trim index
  unfold relativeIndex? at read
  dsimp only at read
  have named (filled : (Text.trim index).takeWhile (fun c => !Text.isBlank c && c != '+') ≠ []) :
      IsIndexRegister ((Text.trim index).takeWhile fun c => !Text.isBlank c && c != '+') := by
    refine ⟨filled, fun c inside => ?_⟩
    simpa using List.mem_takeWhile_imp inside
  have cut := List.takeWhile_append_dropWhile (p := fun c => !Text.isBlank c && c != '+')
    (l := Text.trim index)
  split at read
  · exact absurd rfl read
  · rename_i known
    simp only [Bool.or_eq_true, List.isEmpty_iff, not_or, Bool.not_eq_true] at known
    obtain ⟨worded, filled⟩ := known
    split at read
    · rename_i ended
      rw [List.isEmpty_iff] at ended
      rw [ended, List.append_nil] at cut
      rw [cut] at named filled
      have relative := IsRelative.alone blank (named filled) worded
      rw [← whole] at relative
      exact ⟨_, _, relative⟩
    · split at read
      · exact absurd rfl read
      · rename_i digits found
        obtain ⟨gap, gap', blank', tail, some, decimal⟩ := exists_padded found
        have relative := IsRelative.added blank blank' (named filled) some decimal
        rw [← tail, cut, ← whole] at relative
        exact ⟨_, _, relative⟩

theorem indexed?_eq {name index rest : Text} {start : Char} (starts : name.head? = some start)
    (letter : Text.isNameStart start = true) (word : ∀ c ∈ name, Text.isWord c = true)
    (filled : index ≠ []) (unopened : '[' ∉ index) (unclosed : ']' ∉ index) (single : '\n' ∉ rest) :
    indexed? (name ++ '[' :: (index ++ ']' :: rest)) = some ⟨name, index, rest⟩ := by
  have bracket : ¬ Text.isWord '[' = true := by decide
  have named : (name ++ '[' :: (index ++ ']' :: rest)).takeWhile Text.isWord = name ∧
      (name ++ '[' :: (index ++ ']' :: rest)).dropWhile Text.isWord =
        '[' :: (index ++ ']' :: rest) := by
    rw [List.takeWhile_append_of_pos word, List.dropWhile_append_of_pos word,
      List.takeWhile_cons_of_neg bracket, List.dropWhile_cons_of_neg bracket, List.append_nil]
    exact ⟨rfl, rfl⟩
  have inside : ∀ c ∈ index, (c != '[' && c != ']') = true := by
    intro c among
    rw [Bool.and_eq_true, bne_iff_ne, bne_iff_ne]
    exact ⟨fun same => unopened (same ▸ among), fun same => unclosed (same ▸ among)⟩
  have bracketed : (index ++ ']' :: rest).takeWhile (fun c => c != '[' && c != ']') = index ∧
      (index ++ ']' :: rest).dropWhile (fun c => c != '[' && c != ']') = ']' :: rest := by
    rw [List.takeWhile_append_of_pos inside, List.dropWhile_append_of_pos inside,
      List.takeWhile_cons_of_neg (by decide), List.dropWhile_cons_of_neg (by decide),
      List.append_nil]
    exact ⟨rfl, rfl⟩
  have line : rest.contains '\n' = false := by simpa using single
  simp only [indexed?, named.1, named.2, starts, bracketed.1, bracketed.2,
    Text.dropFinalNewline_of_notMem rest single, letter, line,
    List.isEmpty_eq_false_iff.mpr filled, Bool.not_true, Bool.or_self, Bool.false_eq_true, if_false]

theorem indexed?_parts {operand : Text} {parts : Indexed} (found : indexed? operand = some parts) :
    '[' ∉ parts.index ∧ parts.rest ⊆ operand := by
  unfold indexed? at found
  dsimp only at found
  split at found
  · rename_i start behind head opens
    split at found
    · rename_i tail closes
      split at found
      · cases found
      · cases found
        constructor
        · intro inside
          cases List.mem_takeWhile_imp inside
        · intro c inside
          have within : c ∈ ']' :: tail :=
            List.mem_cons_of_mem _ ((Text.dropFinalNewline_isPrefix tail).subset inside)
          rw [← closes] at within
          have late : c ∈ '[' :: behind :=
            List.mem_cons_of_mem _ ((List.dropWhile_suffix _).subset within)
          rw [← opens] at late
          exact (List.dropWhile_suffix _).subset late
    · cases found
  · cases found

/-- Brackets that a text has together with one without brackets stand in the text itself. -/
theorem exists_bracketed {base tail register index behind : Text} (unclosed : ']' ∉ tail)
    (whole : base ++ tail = register ++ '[' :: (index ++ ']' :: behind)) :
    ∃ rest, base = register ++ '[' :: (index ++ ']' :: rest) := by
  have cut : register ++ '[' :: (index ++ ']' :: behind) =
      (register ++ '[' :: (index ++ [']'])) ++ behind := by simp
  rw [cut] at whole
  rcases List.append_eq_append_iff.mp whole with ⟨more, same, rest⟩ | ⟨more, same, _⟩
  · rcases List.eq_nil_or_concat more with rfl | ⟨front, last, rfl⟩
    · refine ⟨[], ?_⟩
      rw [List.append_nil] at same
      rw [← same]
    · refine absurd ?_ unclosed
      have closes : last = ']' := by
        have ends := congrArg List.getLast? same
        rw [← List.cons_append, ← List.append_assoc, List.concat_eq_append, ← List.append_assoc,
          List.getLast?_concat, List.getLast?_concat] at ends
        exact (Option.some.inj ends).symm
      rw [rest, closes]
      simp
  · exact ⟨more, by rw [same]; simp⟩

theorem IsRelative.ne_nil {index register digits : Text} (relative : IsRelative index register digits) :
    index ≠ [] := by
  cases relative with
  | alone _ named _ => simp [named.filled]
  | added _ _ named _ _ => simp [named.filled]

/-- A relative index is rewritten, and all else stays as it is. -/
theorem normalizeIndexed_of_isRewritten {base base' tail : Text} (rewritten : IsRewritten base base')
    (single : '\n' ∉ base ++ tail) (unclosed : ']' ∉ tail) :
    normalizeIndexed (base ++ tail) = .ok (base' ++ tail) := by
  cases rewritten with
  | @relative name index rest register digits start starts letter word noOpening noClosing relative
      short plain =>
    have whole : name ++ '[' :: (index ++ ']' :: rest) ++ tail =
        name ++ '[' :: (index ++ ']' :: (rest ++ tail)) := by simp
    have line : '\n' ∉ rest ++ tail := by
      intro inside
      apply single
      rw [whole]
      exact List.mem_append_right _ (List.mem_cons_of_mem _
        (List.mem_append_right _ (List.mem_cons_of_mem _ inside)))
    have parts := indexed?_eq starts letter word relative.ne_nil noOpening noClosing line
    rw [whole, normalizeIndexed, parts]
    dsimp only
    rw [relativeIndex?_of_isRelative relative short]
    unfold relativeText
    by_cases zero : Text.decimalsValue digits = 0
    · simp [zero, bind, Except.bind, pure, Except.pure]
    · simp [zero, bind, Except.bind, pure, Except.pure, Text.ofInt]
  | absolute plain =>
    unfold normalizeIndexed
    cases found : indexed? (base ++ tail) with
    | none => rfl
    | some parts =>
      obtain ⟨behind, whole, _, closed⟩ := Registers.indexed?_some _ parts found
      obtain ⟨rest, split⟩ := exists_bracketed unclosed whole
      have still : relativeIndex? parts.index = .ok none := by
        by_contra read
        obtain ⟨register, digits, relative⟩ := exists_isRelative read
        exact plain _ _ _ split (indexed?_parts found).1 closed register digits relative
      dsimp only
      rw [still]
      rfl

/-- The integer view of an index register closes what it opens. -/
theorem isNested_register {index : Text} {relative : RelativeIndex}
    (read : relativeIndex? index = .ok (some relative)) (unopened : '(' ∉ index)
    (unclosed : ')' ∉ index) : IsNested relative.register := by
  have within : ((Text.trim index).takeWhile fun c => !Text.isBlank c && c != '+') ⊆ index := by
    obtain ⟨front, back, _, whole⟩ := Text.exists_trim index
    intro c inside
    rw [whole]
    exact List.mem_append_right _
      (List.mem_append_left _ ((List.takeWhile_prefix _).subset inside))
  have view : IsNested ("asuint(" ++
      ((Text.trim index).takeWhile fun c => !Text.isBlank c && c != '+') ++ ")" : Text) := by
    have inner := IsNested.of_plain (fun inside => unopened (within inside))
      fun inside => unclosed (within inside)
    have word : IsNested "asuint" := .of_plain (by decide) (by decide)
    have whole := word.append inner.call
    rw [List.append_assoc]
    exact whole
  unfold relativeIndex? at read
  dsimp only at read
  split at read
  · cases read
  · split at read
    · cases read
      exact view
    · split at read
      · cases read
      · rename_i digits found
        cases number : Fault.readInteger digits with
        | error fault =>
          rw [number] at read
          cases read
        | ok offset =>
          rw [number] at read
          cases read
          exact view

/-- A register without parentheses can take a sign and an absolute value once its index is
rewritten. -/
theorem isUnmarked_normalizeIndexed {operand name : Text} (bare : IsBare operand)
    (unclosed : ')' ∉ operand) (normal : normalizeIndexed operand = .ok name) :
    IsUnmarked name := by
  have unchanged : IsUnmarked operand := .of_bare bare (.of_plain bare.uncalled unclosed)
  unfold normalizeIndexed at normal
  cases found : indexed? operand with
  | none =>
    rw [found] at normal
    cases normal
    exact unchanged
  | some parts =>
    rw [found] at normal
    obtain ⟨tail, whole, _, _⟩ := Registers.indexed?_some operand parts found
    have inside (c : Char) (among : c ∈ parts.index ∨ c ∈ parts.register) : c ∈ operand := by
      rw [whole, List.mem_append, List.mem_cons, List.mem_append]
      rcases among with index | name
      · exact .inr (.inr (.inl index))
      · exact .inl name
    cases read : relativeIndex? parts.index with
    | error fault =>
      dsimp only at normal
      rw [read] at normal
      cases normal
    | ok relative? =>
      dsimp only at normal
      rw [read] at normal
      cases relative? with
      | none =>
        cases normal
        exact unchanged
      | some relative =>
        have register := isNested_register read
          (fun among => bare.uncalled (inside _ (.inl among)))
          fun among => unclosed (inside _ (.inl among))
        have rest : IsNested parts.rest :=
          .of_plain (fun among => bare.uncalled ((indexed?_parts found).2 among))
            fun among => unclosed ((indexed?_parts found).2 among)
        have name : IsNested parts.register :=
          .of_plain (fun among => bare.uncalled (inside _ (.inr among)))
            fun among => unclosed (inside _ (.inr among))
        have added : IsNested (" + " ++ Text.ofInt relative.offset : Text) :=
          IsNested.append (.of_plain (by decide) (by decide))
            (.of_unmarked (IsPlainName.ofInt_unmarked relative.offset))
        have index : IsNested (if relative.offset = 0 then relative.register
            else relative.register ++ " + " ++ Text.ofInt relative.offset) := by
          split
          · exact register
          · rw [List.append_assoc]
            exact register.append added
        have opening : IsNested "[" := .of_plain (by decide) (by decide)
        have closing : IsNested "]" := .of_plain (by decide) (by decide)
        have bracketed := opening.append (index.append (closing.append rest))
        cases normal
        rw [whole] at bare
        have shape (name index rest : Text) :
            name ++ "[" ++ index ++ "]" ++ rest = name ++ '[' :: (index ++ ']' :: rest) := by simp
        rw [shape]
        exact .indexed bare.of_append (name.append bracketed)

end Operand

end ShaderLift
