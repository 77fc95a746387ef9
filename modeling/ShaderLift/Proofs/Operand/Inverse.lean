import Mathlib.Data.List.Infix
import ShaderLift.Proofs.Operand.Arguments
import ShaderLift.Proofs.Operand.Numeral

namespace ShaderLift.Operand

theorem IsBalanced.isNested {text : Text} (balanced : IsBalanced ['('] [')'] text) :
    IsNested text := by
  intro place depth rest inside
  have passed := @closingFrom_append '(' ')' text rest place depth fun front starts => by
    have opened := balanced.opened front starts
    omega
  rw [balanced.closed, Int.add_zero] at passed
  exact passed

/-- A sign in front makes a number only of a number. -/
theorem isNumber_of_signed {text : Text} (unsigned : text.head? ≠ some '-')
    (number : isNumber ('-' :: text) = true) : isNumber text = true := by
  have kept : Text.dropFinalNewline ('-' :: text) = '-' :: Text.dropFinalNewline text :=
    Text.dropFinalNewline_append_cons [] text (by decide)
  have plain : isUnsigned (Text.dropFinalNewline text) = true := by
    unfold isNumber at number
    rwa [kept] at number
  unfold isNumber
  split
  · rename_i rest same
    rw [same, isUnsigned_of_head rest (by decide) (by decide)] at plain
    cases plain
  · rename_i rest same
    exact absurd (Text.head?_dropFinalNewline (by rw [same]; rfl)) unsigned
  · exact plain

/-- Modifiers come off a nested expression as they were put on. What they rest on, the search for a
closing bracket, ends where the brackets are balanced for the first time. -/
theorem modifiers_come_off :
    (∀ (inner : Text) (negate absolute : Bool), IsBalanced ['('] [')'] inner →
      isNumber inner = false → inner.head? ≠ some '-' → inner.head? ≠ some '|' →
      Text.startsWith "abs(" inner = false →
      splitModifiers (applyModifiers inner negate absolute) = ⟨negate, inner, absolute⟩) ∧
    ∀ (text : Text) (start : Nat) (opening closing : Char), text[start]? = some opening →
      (∀ place : Nat, findClosing text start [opening] [closing] = some (place : Int) ↔
        IsLeast {place | ClosedAt opening closing text start place} place) ∧
      (findClosing text start [opening] [closing] = none ↔
        ¬∃ place, ClosedAt opening closing text start place) := by
  refine ⟨fun inner negate absolute balanced word unsigned unbarred uncalled => ?_,
    fun text start opening closing opens => ?_⟩
  · refine splitModifiers_applyModifiers ⟨unsigned, unbarred, uncalled, balanced.isNested⟩
      negate absolute fun _ _ => ?_
    rw [← Bool.not_eq_true] at word ⊢
    exact mt (isNumber_of_signed unsigned) word
  · rcases @findClosing_cases opening closing text start opens with
      ⟨failed, none⟩ | ⟨least, found, smallest⟩
    · rw [failed]
      refine ⟨fun place => ⟨fun same => ?_, fun least => absurd least.1 (none place)⟩,
        fun _ => ?_, fun _ => rfl⟩
      · cases same
      · rintro ⟨place, closed⟩
        exact none place closed
    · rw [found]
      refine ⟨fun place => ⟨fun same => ?_, fun other => ?_⟩, fun failed => ?_, fun none => ?_⟩
      · cases same
        exact smallest
      · rw [Nat.le_antisymm (smallest.2 other.1) (other.2 smallest.1)]
      · cases failed
      · exact absurd ⟨least, smallest.1⟩ none

theorem modifiers_come_off_product :
    IsBalanced ['('] [')'] "f(x)*(y)" ∧
      splitModifiers (applyModifiers "f(x)*(y)" true true) = ⟨true, "f(x)*(y)", true⟩ ∧
      IsLeast {place | ClosedAt '(' ')' "abs(f(x)*(y))" 3 place} 12 := by
  have balanced : IsBalanced ['('] [')'] "f(x)*(y)" := by
    have each : ∀ front ∈ ("f(x)*(y)" : Text).inits, 0 ≤ bracketDepth ['('] [')'] front := by decide
    exact ⟨fun front starts => each front ((List.mem_inits front _).mpr starts), by decide⟩
  refine ⟨balanced, ?_, ?_⟩
  · exact modifiers_come_off.1 _ true true balanced (by decide) (by decide) (by decide) (by decide)
  · exact ((modifiers_come_off.2 _ 3 '(' ')' (by decide)).1 12).mp (by decide)

/-- Splitting inverts joining, and it cuts a text exactly at the commas of depth zero. -/
theorem arguments_split_again :
    (∀ (arguments : List Text) (text : Text), (∀ argument ∈ arguments, IsArgument argument) →
      Joined arguments text → splitArguments text = arguments) ∧
    ∀ text : Text, ∃ pieces, CutsInto 0 text pieces ∧
      splitArguments text = dropEmptyEnd (pieces.map Text.trim) := by
  refine ⟨fun arguments text each joined => argumentsFrom_joined each joined .nil, fun text => ?_⟩
  obtain ⟨first, rest, cuts, found⟩ := exists_pieces text
  exact ⟨first :: rest, cuts, found⟩

theorem arguments_split_again_call :
    IsArgument "f(b, c)" ∧ splitArguments "a , f(b, c)" = ["a", "f(b, c)"] := by
  have call : IsArgument "f(b, c)" := by
    have each : ∀ front ∈ ("f(b, c)" : Text).inits, 0 ≤ argumentDepth front ∧
        (front ++ [','] <+: "f(b, c)" → 0 < argumentDepth front) := by decide
    refine ⟨by decide, ?_, ?_, ⟨fun front starts => ?_, by decide⟩, fun front starts => ?_⟩
    · rintro c ⟨⟩
      decide
    · rintro c ⟨⟩
      decide
    · exact (each front ((List.mem_inits front _).mpr starts)).1
    · have early := (List.prefix_append front [',']).trans starts
      exact (each front ((List.mem_inits front _).mpr early)).2 starts
  have name : IsArgument "a" := .of_inner (by decide) (by rintro c (_ | ⟨_, ⟨⟩⟩); exact ⟨rfl, by decide⟩)
  refine ⟨call, arguments_split_again.1 _ _ ?_ ?_⟩
  · exact List.forall_mem_cons.mpr ⟨name, List.forall_mem_singleton.mpr call⟩
  · exact @Joined.more "a" "f(b, c)" " " " " _ [] (List.all_eq_true.mp rfl) (.one _)

end ShaderLift.Operand
