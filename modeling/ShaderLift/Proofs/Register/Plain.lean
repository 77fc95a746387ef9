import ShaderLift.Proofs.Decoding.Operand
import ShaderLift.Proofs.Nesting.Line
import ShaderLift.Proofs.Register.Selector
import ShaderLift.Proofs.Text.Digits

namespace ShaderLift.Operand

/-- Indices in brackets behind a name. -/
def bracketed (indices : List Text) : Text := indices.flatMap fun index => '[' :: (index ++ [']'])

/-- A register written plainly, such as `r0`, `v1.xy`, `cb0[3].xyzw` or `v[0][1].x`. The marks of
literals are no registers. -/
inductive PlainRegister : Text → Prop
  | of (start : Char) (name : Text) (indices : List Text) (selected : List Component)
      (letter : start.isAlpha = true) (named : ∀ c ∈ name, c.isAlphanum = true)
      (numeric : ∀ index ∈ indices, index ≠ [] ∧ ∀ c ∈ index, c.isDigit = true)
      (unmarked : start :: (name ++ bracketed indices ++ Component.suffix selected) ≠ "l" ∧
        start :: (name ++ bracketed indices ++ Component.suffix selected) ≠ "d") :
      PlainRegister (start :: (name ++ bracketed indices ++ Component.suffix selected))

/-- The fault of a number in a text that has too many digits to be read. -/
inductive LongNumber (text : Text) : Fault → Prop
  | of {digits : Text} (within : digits <:+: text) (numeric : ∀ c ∈ digits, c.isDigit = true)
      (long : Text.maxIntegerDigits < digits.length) :
      LongNumber text (.badInteger digits (.tooLong digits.length))

theorem LongNumber.of_readInteger {text digits : Text} {fault : Fault} (within : digits <:+: text)
    (filled : digits ≠ []) (numeric : ∀ c ∈ digits, c.isDigit = true)
    (failed : Fault.readInteger digits = .error fault) : LongNumber text fault := by
  have long : Text.maxIntegerDigits < digits.length := by
    by_contra short
    rw [Fault.readInteger_digits digits filled numeric (Nat.not_lt.mp short)] at failed
    cases failed
  have decimal : ∀ c ∈ digits, Text.isDecimal c = true :=
    fun c inside => Text.isDecimal_digit c (numeric c inside)
  rw [Fault.readInteger, Text.toInt_tooLong digits decimal long] at failed
  cases failed
  exact .of within numeric long

/-- An expression with neither a sign nor a call in it. -/
structure IsBare (text : Text) : Prop where
  unsigned : text.head? ≠ some '-'
  unbarred : text.head? ≠ some '|'
  uncalled : '(' ∉ text

theorem IsBare.splitModifiers {text : Text} (bare : IsBare text) :
    Operand.splitModifiers text = ⟨false, text, false⟩ := by
  have noCall : ¬ Text.startsWith "abs(" text = true := by
    intro starts
    obtain ⟨rest, found⟩ := Option.isSome_iff_exists.mp starts
    apply bare.uncalled
    rw [Text.eq_of_after? _ _ _ found]
    exact List.mem_append_left _ (by decide)
  have inner : absoluteInner? text = none := by
    unfold absoluteInner?
    split
    · exact absurd rfl bare.unbarred
    · rw [if_neg]
      intro both
      exact noCall (Bool.and_eq_true_iff.mp both).1
  simp only [Operand.splitModifiers, bare.unsigned, decide_false, Bool.false_and,
    Bool.false_eq_true, if_false, inner]

theorem isAlphanum_ne (c : Char) (named : c.isAlphanum = true) :
    c ≠ '[' ∧ c ≠ ']' ∧ c ≠ '.' ∧ c ≠ '(' ∧ c ≠ '\n' := by
  refine ⟨?_, ?_, ?_, ?_, ?_⟩ <;>
  · rintro rfl
    cases named

theorem mem_suffix (c : Char) (selected : List Component) (inside : c ∈ Component.suffix selected) :
    c = '.' ∨ c.isAlphanum = true := by
  cases selected with
  | nil => cases inside
  | cons first rest =>
    rcases List.mem_cons.mp inside with rfl | inside
    · exact .inl rfl
    · obtain ⟨component, _, rfl⟩ := List.mem_map.mp inside
      right
      cases component <;> decide

theorem IsBare.suffix {text : Text} (bare : IsBare text) (filled : text ≠ [])
    (selected : List Component) : IsBare (text ++ Component.suffix selected) := by
  obtain ⟨c, rest, rfl⟩ := List.exists_cons_of_ne_nil filled
  refine ⟨bare.unsigned, bare.unbarred, ?_⟩
  intro inside
  rcases List.mem_append.mp inside with early | late
  · exact bare.uncalled early
  · rcases mem_suffix _ _ late with same | named
    · cases same
    · exact (isAlphanum_ne _ named).2.2.2.1 rfl

theorem count_bracketed (indices : List Text)
    (numeric : ∀ index ∈ indices, ∀ c ∈ index, c.isDigit = true) :
    (bracketed indices).count '[' ≤ (bracketed indices).count ']' := by
  induction indices with
  | nil => exact Nat.le_refl _
  | cons first rest ih =>
    have later := ih fun index member => numeric index (List.mem_cons_of_mem first member)
    have unopened : first.count '[' = 0 := by
      rw [List.count_eq_zero]
      intro inside
      cases numeric first (List.mem_cons_self ..) _ inside
    have split : bracketed (first :: rest) = '[' :: (first ++ [']']) ++ bracketed rest := rfl
    rw [split]
    simp [unopened]
    omega

namespace PlainRegister

variable {text : Text}

variable (plain : PlainRegister text)

include plain

/-- The letters, digits and signs of a plain register. -/
theorem mem (c : Char) (inside : c ∈ text) :
    c.isAlphanum = true ∨ c = '[' ∨ c = ']' ∨ c = '.' := by
  obtain ⟨start, name, indices, selected, letter, named, numeric, _⟩ := plain
  rcases List.mem_cons.mp inside with rfl | inside
  · left
    rw [Char.isAlphanum, letter, Bool.true_or]
  · rcases List.mem_append.mp inside with inside | inside
    · rcases List.mem_append.mp inside with inside | inside
      · exact .inl (named c inside)
      · obtain ⟨index, member, within⟩ := List.mem_flatMap.mp inside
        simp only [List.mem_cons, List.mem_append, List.not_mem_nil, or_false] at within
        rcases within with rfl | within | rfl
        · exact .inr (.inl rfl)
        · left
          rw [Char.isAlphanum, (numeric index member).2 c within, Bool.or_true]
        · exact .inr (.inr (.inl rfl))
    · rcases mem_suffix c selected inside with rfl | named
      · exact .inr (.inr (.inr rfl))
      · exact .inl named

/-- The first index of a plain register is a run of digits. -/
theorem firstIndex (front index tail : Text)
    (whole : text = front ++ '[' :: (index ++ ']' :: tail)) (bare : '[' ∉ front)
    (inner : ']' ∉ index) : index ≠ [] ∧ ∀ c ∈ index, c.isDigit = true := by
  obtain ⟨start, name, indices, selected, letter, named, numeric, _⟩ := plain
  have unbracketed : '[' ∉ start :: name := by
    intro inside
    rcases List.mem_cons.mp inside with rfl | inside
    · cases letter
    · exact (isAlphanum_ne _ (named _ inside)).1 rfl
  cases indices with
  | nil =>
    have inside : '[' ∈ start :: (name ++ bracketed [] ++ Component.suffix selected) := by
      rw [whole]
      simp
    rw [bracketed, List.flatMap_nil, List.append_nil, ← List.cons_append] at inside
    rcases List.mem_append.mp inside with inside | inside
    · exact absurd inside unbracketed
    · rcases mem_suffix _ _ inside with same | named
      · cases same
      · exact absurd rfl (isAlphanum_ne _ named).1
  | cons first rest =>
    have split : start :: (name ++ bracketed (first :: rest) ++ Component.suffix selected) =
        (start :: name) ++
          '[' :: (first ++ ']' :: (bracketed rest ++ Component.suffix selected)) := by
      simp [bracketed]
    obtain ⟨_, behind⟩ := cut_unique '[' _ _ _ _ bare unbracketed (whole.symm.trans split)
    obtain ⟨digits, each⟩ := numeric first (List.mem_cons_self ..)
    have unclosed : ']' ∉ first := by
      intro inside
      cases each _ inside
    obtain ⟨rfl, _⟩ := cut_unique ']' _ _ _ _ inner unclosed behind
    exact ⟨digits, each⟩

theorem unmarked : text ≠ "l" ∧ text ≠ "d" := by
  obtain ⟨start, name, indices, selected, _, _, _, unmarked⟩ := plain
  exact unmarked

theorem bracketsClosed : Decoding.bracketsClosed text = true := by
  obtain ⟨start, name, indices, selected, letter, named, numeric, _⟩ := plain
  have unopened : (start :: name).count '[' = 0 := by
    rw [List.count_eq_zero]
    intro inside
    rcases List.mem_cons.mp inside with rfl | inside
    · cases letter
    · exact (isAlphanum_ne _ (named _ inside)).1 rfl
  have selection : (Component.suffix selected).count '[' = 0 := by
    rw [List.count_eq_zero]
    intro inside
    rcases mem_suffix _ _ inside with same | named
    · cases same
    · exact (isAlphanum_ne _ named).1 rfl
  have paired := count_bracketed indices fun index member => (numeric index member).2
  rw [Decoding.bracketsClosed, decide_eq_true_eq, ← List.cons_append, ← List.cons_append]
  simp only [List.count_append]
  omega

theorem isBare : IsBare text := by
  have uncalled : '(' ∉ text := by
    intro inside
    rcases plain.mem '(' inside with named | same | same | same
    · exact (isAlphanum_ne _ named).2.2.2.1 rfl
    · cases same
    · cases same
    · cases same
  obtain ⟨start, name, indices, selected, letter, named, numeric, _⟩ := plain
  refine ⟨?_, ?_, uncalled⟩
  · intro signed
    cases Option.some.inj signed
    cases letter
  · intro barred
    cases Option.some.inj barred
    cases letter

end PlainRegister

theorem isDigit_of_isDecimal (c : Char) (named : c.isAlphanum = true)
    (decimal : Text.isDecimal c = true) : c.isDigit = true := by
  have small : c.toNat < 0x80 := by
    have capital (upper : c.isUpper = true) : c.toNat ≤ 90 :=
      UInt32.le_iff_toNat_le.mp (of_decide_eq_true upper).2
    have little (lower : c.isLower = true) : c.toNat ≤ 122 :=
      UInt32.le_iff_toNat_le.mp (of_decide_eq_true (Bool.and_eq_true_iff.mp lower).2)
    rcases Bool.or_eq_true_iff.mp named with letter | digit
    · rcases Bool.or_eq_true_iff.mp letter with upper | lower
      · have high := capital upper
        omega
      · have high := little lower
        omega
    · have high : c.toNat ≤ 57 := (Char.isDigit_iff_toNat.mp digit).2
      omega
  rw [Text.isDecimal, Text.decimalValue?, if_pos small] at decimal
  split at decimal
  · rename_i inside
    exact Char.isDigit_iff_toNat.mpr (by simpa using inside)
  · cases decimal

namespace PlainRegister

variable {text : Text}

theorem newline_notMem (plain : PlainRegister text) : '\n' ∉ text := by
  intro inside
  rcases plain.mem _ inside with named | same | same | same
  · exact (isAlphanum_ne _ named).2.2.2.2 rfl
  · cases same
  · cases same
  · cases same

theorem isDigit (plain : PlainRegister text) {c : Char} (inside : c ∈ text)
    (decimal : Text.isDecimal c = true) : c.isDigit = true := by
  rcases plain.mem c inside with named | rfl | rfl | rfl
  · exact isDigit_of_isDecimal c named decimal
  · cases decimal
  · cases decimal
  · cases decimal

end PlainRegister
end ShaderLift.Operand

namespace ShaderLift.Registers

open Operand

theorem constantRegister?_some (base bind index : Text)
    (found : constantRegister? base = some (bind, index)) :
    Text.dropFinalNewline base = "cb" ++ (bind ++ '[' :: (index ++ [']'])) ∧ bind ≠ [] ∧
      (∀ c ∈ bind, Text.isDecimal c = true) ∧ '[' ∉ index ∧ ']' ∉ index := by
  unfold constantRegister? at found
  obtain ⟨behind, starts, found⟩ := Option.bind_eq_some_iff.mp found
  obtain ⟨inside, opens, found⟩ := Option.bind_eq_some_iff.mp found
  dsimp only at found
  split at found
  · cases found
  · rename_i closed
    simp only [Bool.or_eq_true, List.isEmpty_iff, decide_eq_true_eq, not_or,
      Decidable.not_not] at closed
    obtain ⟨⟨filled, _⟩, ends⟩ := closed
    cases found
    have numbers := List.takeWhile_append_dropWhile (p := Text.isDecimal) (l := behind)
    have whole := List.takeWhile_append_dropWhile (p := fun c => c != '[' && c != ']') (l := inside)
    refine ⟨?_, filled, fun c member => List.mem_takeWhile_imp member, ?_, ?_⟩
    · have split : behind = behind.takeWhile Text.isDecimal ++
          '[' :: (inside.takeWhile (fun c => c != '[' && c != ']') ++ [']']) := calc
        behind = behind.takeWhile Text.isDecimal ++ behind.dropWhile Text.isDecimal :=
          numbers.symm
        _ = behind.takeWhile Text.isDecimal ++ '[' :: inside := by
          rw [Text.eq_of_after? _ _ _ opens]
          rfl
        _ = _ := by
          rw [ends] at whole
          rw [show ([']'] : Text) = "]" from rfl, whole]
      rw [Text.eq_of_after? _ _ _ starts, ← split]
    · intro member
      have kept := List.mem_takeWhile_imp member
      cases kept
    · intro member
      have kept := List.mem_takeWhile_imp member
      cases kept

variable {text : Text}

/-- A plain register may be no constant, but looking it up fails only at a long number. -/
theorem findConstant?_plain {tables : ConstantTables} {fault : Fault} (plain : PlainRegister text)
    (failed : findConstant? tables text = .error fault) : LongNumber text fault := by
  unfold findConstant? at failed
  split at failed
  · cases failed
  · obtain ⟨tail, whole⟩ := splitSelector_front text
    dsimp only at failed
    split at failed
    · cases failed
    · rename_i bind index found
      obtain ⟨shape, filled, decimals, _, noClosing⟩ := constantRegister?_some _ _ _ found
      have single : '\n' ∉ (splitSelector text).1 := by
        intro inside
        apply plain.newline_notMem
        rw [whole]
        exact List.mem_append_left _ inside
      rw [Text.dropFinalNewline_of_notMem _ single] at shape
      have split : text = "cb" ++ bind ++ '[' :: (index ++ ']' :: tail) := by
        rw [whole, shape]
        simp
      have digits (c : Char) (inside : c ∈ bind) : c.isDigit = true := by
        refine plain.isDigit ?_ (decimals c inside)
        rw [split]
        simp [inside]
      have bare : '[' ∉ "cb" ++ bind := by
        intro inside
        rcases List.mem_append.mp inside with early | late
        · revert early
          decide
        · cases digits _ late
      obtain ⟨filled', digits'⟩ := plain.firstIndex _ _ _ split bare noClosing
      have bindWithin : bind <:+: text := ⟨"cb", '[' :: (index ++ ']' :: tail), split.symm⟩
      have indexWithin : index <:+: text :=
        ⟨"cb" ++ bind ++ ['['], ']' :: tail, by rw [split]; simp⟩
      rw [Text.trim_digits index digits', Text.allDigits_digits index filled' digits'] at failed
      cases read : Fault.readInteger bind with
      | error earlier =>
        rw [read] at failed
        cases failed
        exact .of_readInteger bindWithin filled digits read
      | ok value =>
        cases read' : Fault.readInteger index with
        | error later =>
          rw [read, read'] at failed
          cases failed
          exact .of_readInteger indexWithin filled' digits' read'
        | ok slot =>
          rw [read, read'] at failed
          cases failed

theorem indexed?_some (operand : Text) (parts : Indexed) (found : indexed? operand = some parts) :
    ∃ tail, operand = parts.register ++ '[' :: (parts.index ++ ']' :: tail) ∧
      (∀ c ∈ parts.register, Text.isWord c = true) ∧ ']' ∉ parts.index := by
  unfold indexed? at found
  dsimp only at found
  split at found
  · rename_i start behind head opens
    split at found
    · rename_i tail closes
      split at found
      · cases found
      · cases found
        refine ⟨tail, ?_, fun c inside => List.mem_takeWhile_imp inside, ?_⟩
        · rw [← closes, List.takeWhile_append_dropWhile, ← opens, List.takeWhile_append_dropWhile]
        · intro inside
          cases List.mem_takeWhile_imp inside
    · cases found
  · cases found

theorem normalizeIndexed_unindexed {operand : Text} (unindexed : '[' ∉ operand) :
    normalizeIndexed operand = .ok operand := by
  have none : indexed? operand = none := by
    cases found : indexed? operand with
    | none => rfl
    | some parts =>
      obtain ⟨tail, whole, _⟩ := indexed?_some operand parts found
      exact absurd (by rw [whole]; simp) unindexed
  unfold normalizeIndexed
  rw [none]

theorem normalizeIndexed_plain (plain : PlainRegister text) :
    ∃ name, normalizeIndexed text = .ok name := by
  unfold normalizeIndexed
  cases found : indexed? text with
  | none => exact ⟨_, rfl⟩
  | some parts =>
    obtain ⟨tail, whole, word, closed⟩ := indexed?_some text parts found
    have bare : '[' ∉ parts.register := by
      intro inside
      have letter := word _ inside
      revert letter
      decide
    obtain ⟨filled, digits⟩ := plain.firstIndex _ _ _ whole bare closed
    have plainNumber : relativeIndex? parts.index = .ok none := by
      unfold relativeIndex?
      dsimp only
      rw [Text.trim_digits _ digits, if_pos]
      rw [Text.allDigits_digits _ filled digits, Bool.true_or]
    dsimp only
    rw [plainNumber]
    exact ⟨_, rfl⟩

end ShaderLift.Registers

namespace ShaderLift.Decoding

open Operand

/-- A plain register is resolved, unless it has a long number. -/
theorem resolved_plain {registers : Registers} {text : Text} {fault : Fault}
    (plain : PlainRegister text) (failed : resolved registers text = .error fault) :
    LongNumber text fault := by
  obtain ⟨indexed, normal⟩ := Registers.normalizeIndexed_plain plain
  unfold resolved at failed
  rw [Registers.query, plain.isBare.splitModifiers] at failed
  dsimp only at failed
  cases found : registers.findName? text with
  | error earlier =>
    rw [found] at failed
    cases failed
    unfold Registers.findName? at found
    dsimp only at found
    split at found
    · cases found
    · exact Registers.findConstant?_plain plain found
  | ok name? =>
    rw [found] at failed
    cases name? with
    | some name => cases failed
    | none =>
      change (do return Modified.around ⟨false, text, false⟩ (← normalizeIndexed text)) =
        Except.error fault at failed
      rw [normal] at failed
      cases failed

end ShaderLift.Decoding
