import Mathlib.Order.Bounds.Defs
import ShaderLift.Operand.Basic

namespace ShaderLift.Operand

/-- What a character adds to the number of open brackets. -/
def bracketStep (opening closing : List Char) (c : Char) : Int :=
  if c ∈ opening then 1 else if c ∈ closing then -1 else 0

/-- How many of the brackets that a text opens it leaves open. -/
def bracketDepth (opening closing : List Char) : Text → Int
  | [] => 0
  | c :: rest => bracketStep opening closing c + bracketDepth opening closing rest

/-- No bracket is closed before it is opened, and in the end none is open. -/
structure IsBalanced (opening closing : List Char) (text : Text) : Prop where
  opened : ∀ front, front <+: text → 0 ≤ bracketDepth opening closing front
  closed : bracketDepth opening closing text = 0

theorem bracketDepth_append (opening closing : List Char) (front rest : Text) :
    bracketDepth opening closing (front ++ rest) =
      bracketDepth opening closing front + bracketDepth opening closing rest := by
  induction front with
  | nil => rw [List.nil_append, bracketDepth, Int.zero_add]
  | cons c front ih => rw [List.cons_append, bracketDepth, bracketDepth, ih, Int.add_assoc]

theorem bracketStep_ge (opening closing : List Char) (c : Char) :
    -1 ≤ bracketStep opening closing c := by
  unfold bracketStep
  split
  · omega
  · split <;> omega

variable {opening closing : Char}

theorem closingFrom_cons (place : Int) {depth : Int} (inside : 1 ≤ depth) (c : Char) (rest : Text) :
    closingFrom [opening] [closing] place depth (c :: rest) =
      if depth + bracketStep [opening] [closing] c = 0 then some place
      else closingFrom [opening] [closing] (place + 1)
        (depth + bracketStep [opening] [closing] c) rest := by
  have one (d : Char) : ([c] : Text) = [d] ↔ c = d := by simp
  simp only [closingFrom, bracketStep, List.mem_singleton, one]
  by_cases opens : c = opening
  · rw [if_pos opens, if_pos opens, if_neg (by omega)]
  · by_cases closes : c = closing
    · rw [if_neg opens, if_neg opens, if_pos closes, if_pos closes]
      by_cases last : depth = 1
      · rw [if_pos last, if_pos (by omega)]
      · rw [if_neg last, if_neg (by omega)]
        rfl
    · rw [if_neg opens, if_neg opens, if_neg closes, if_neg closes, Int.add_zero,
        if_neg (by omega)]

/-- The search goes past a text that leaves a bracket open wherever it is cut off. -/
theorem closingFrom_append (text rest : Text) (place depth : Int)
    (inside : ∀ front, front <+: text → 1 ≤ depth + bracketDepth [opening] [closing] front) :
    closingFrom [opening] [closing] place depth (text ++ rest) =
      closingFrom [opening] [closing] (place + text.length)
        (depth + bracketDepth [opening] [closing] text) rest := by
  induction text generalizing place depth with
  | nil => simp [bracketDepth]
  | cons c text ih =>
    have here := inside [] List.nil_prefix
    have next := inside [c] ⟨text, rfl⟩
    rw [bracketDepth, Int.add_zero] at here
    rw [bracketDepth, bracketDepth, Int.add_zero] at next
    rw [List.cons_append, closingFrom_cons place here, if_neg (by omega), ih]
    · rw [bracketDepth, List.length_cons, Int.add_assoc, Int.add_assoc, Int.natCast_add,
        Int.add_comm 1]
      rfl
    · intro front starts
      have longer := inside (c :: front) (List.cons_prefix_cons.mpr ⟨rfl, starts⟩)
      rwa [bracketDepth, ← Int.add_assoc] at longer

/-- The search ends at the first place behind which no bracket is open, if there is one. -/
theorem closingFrom_cases (text : Text) (place depth : Int) (inside : 1 ≤ depth) :
    (closingFrom [opening] [closing] place depth text = none ∧
      ∀ i < text.length, depth + bracketDepth [opening] [closing] (text.take (i + 1)) ≠ 0) ∨
    ∃ i < text.length, closingFrom [opening] [closing] place depth text = some (place + i) ∧
      depth + bracketDepth [opening] [closing] (text.take (i + 1)) = 0 ∧
      ∀ j < i, depth + bracketDepth [opening] [closing] (text.take (j + 1)) ≠ 0 := by
  induction text generalizing place depth with
  | nil => exact .inl ⟨rfl, nofun⟩
  | cons c text ih =>
    have step := bracketStep_ge [opening] [closing] c
    rw [closingFrom_cons place inside]
    by_cases closes : depth + bracketStep [opening] [closing] c = 0
    · rw [if_pos closes]
      refine .inr ⟨0, by simp, by simp, ?_, nofun⟩
      simpa [bracketDepth] using closes
    · rw [if_neg closes]
      have shift (i : Nat) : depth + bracketDepth [opening] [closing] ((c :: text).take (i + 1)) =
          depth + bracketStep [opening] [closing] c +
            bracketDepth [opening] [closing] (text.take i) := by
        rw [List.take_succ_cons, bracketDepth, Int.add_assoc]
      have first : depth + bracketDepth [opening] [closing] ((c :: text).take (0 + 1)) ≠ 0 := by
        rwa [shift, List.take_zero, bracketDepth, Int.add_zero]
      rcases ih (place + 1) (depth + bracketStep [opening] [closing] c) (by omega) with
        ⟨failed, none⟩ | ⟨i, within, found, zero, before⟩
      · refine .inl ⟨failed, fun i within => ?_⟩
        cases i with
        | zero => exact first
        | succ i =>
          rw [shift]
          exact none i (Nat.lt_of_succ_lt_succ within)
      · refine .inr ⟨i + 1, Nat.succ_lt_succ within, ?_, by rwa [shift], fun j early => ?_⟩
        · rw [found]
          congr 1
          omega
        · cases j with
          | zero => exact first
          | succ j =>
            rw [shift]
            exact before j (Nat.lt_of_succ_lt_succ early)

/-- All brackets that a text opens from a place on are closed behind another place. -/
def ClosedAt (opening closing : Char) (text : Text) (start place : Nat) : Prop :=
  start ≤ place ∧ place < text.length ∧
    bracketDepth [opening] [closing] ((text.take (place + 1)).drop start) = 0

theorem findClosing_cases {text : Text} {start : Nat} (opens : text[start]? = some opening) :
    (findClosing text start [opening] [closing] = none ∧
      ∀ place, ¬ClosedAt opening closing text start place) ∨
    ∃ place : Nat, findClosing text start [opening] [closing] = some (place : Int) ∧
      IsLeast {place | ClosedAt opening closing text start place} place := by
  obtain ⟨within, same⟩ := List.getElem?_eq_some_iff.mp opens
  have behind : text.drop start = opening :: text.drop (start + 1) := by
    rw [← same, List.drop_eq_getElem_cons within]
  have begins : findClosing text start [opening] [closing] =
      closingFrom [opening] [closing] (start + 1) 1 (text.drop (start + 1)) := by
    rw [findClosing, behind, closingFrom, if_pos rfl]
    rfl
  have one : bracketStep [opening] [closing] opening = 1 := if_pos (List.mem_singleton_self _)
  have segment (i : Nat) : bracketDepth [opening] [closing] ((text.take (start + i + 1)).drop start) =
      1 + bracketDepth [opening] [closing] ((text.drop (start + 1)).take i) := by
    rw [List.drop_take, behind, Nat.add_assoc, Nat.add_sub_cancel_left, List.take_succ_cons,
      bracketDepth, one]
  have opened : ¬ClosedAt opening closing text start start := by
    rintro ⟨-, -, zero⟩
    have alone := segment 0
    rw [Nat.add_zero, zero, List.take_zero, bracketDepth] at alone
    cases alone
  have closedAt (i : Nat) : ClosedAt opening closing text start (start + (i + 1)) ↔
      i < (text.drop (start + 1)).length ∧
        1 + bracketDepth [opening] [closing] ((text.drop (start + 1)).take (i + 1)) = 0 := by
    rw [ClosedAt, segment, List.length_drop]
    omega
  rw [begins]
  rcases closingFrom_cases (text.drop (start + 1)) (start + 1) 1 (by omega) with
    ⟨failed, none⟩ | ⟨i, inside, found, zero, before⟩
  · refine .inl ⟨failed, fun place closed => ?_⟩
    obtain ⟨i, rfl⟩ := Nat.exists_eq_add_of_le closed.1
    cases i with
    | zero => exact opened closed
    | succ i =>
      obtain ⟨inside, zero⟩ := (closedAt i).mp closed
      exact none i inside zero
  · refine .inr ⟨start + (i + 1), ?_, (closedAt i).mpr ⟨inside, zero⟩, fun place closed => ?_⟩
    · rw [found]
      congr 1
      omega
    · obtain ⟨j, rfl⟩ := Nat.exists_eq_add_of_le closed.1
      cases j with
      | zero => exact absurd closed opened
      | succ j =>
        refine Nat.le_of_not_lt fun less => ?_
        exact before j (by omega) ((closedAt j).mp closed).2

end ShaderLift.Operand
