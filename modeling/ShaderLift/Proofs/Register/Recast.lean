import ShaderLift.Proofs.Operand.Arguments
import ShaderLift.Proofs.Operand.Numeral
import ShaderLift.Proofs.Register.Width

namespace ShaderLift

open Operand

/-- A target whose letters, repeated as often as needed, stand at the places that they name. -/
def Component.AreSettled (mask : List Component) : Prop := lanes mask mask = mask

section Fitting

variable {selected mask : List Component}

theorem fitted_of_ne (asked : mask ≠ []) (other : selected ≠ mask) :
    fitted selected mask = lanes selected mask := by
  rw [fitted, if_neg (not_or.mpr ⟨asked, other⟩)]
  rfl

theorem fitted_self (mask : List Component) : fitted mask mask = mask := if_pos (.inr rfl)

theorem fitted_eq_self_iff (asked : mask ≠ []) :
    fitted selected mask = selected ↔ selected = mask ∨ lanes selected mask = selected := by
  by_cases same : selected = mask
  · simp [same, fitted_self]
  · rw [fitted_of_ne asked same]
    exact (or_iff_right same).symm

theorem lanes_map (change : Component → Component) (filled : selected ≠ []) :
    lanes (selected.map change) mask = (lanes selected mask).map change := by
  have inside (c : Component) : c.index % selected.length < selected.length :=
    Nat.mod_lt _ (List.length_pos_iff.mpr filled)
  simp only [lanes, List.length_map, List.map_map]
  apply List.map_congr_left
  intro c _
  simp [List.getD_eq_getElem?_getD, List.getElem?_eq_getElem (inside c)]

/-- What a selector gives is the target with its letters changed. -/
theorem lanes_lanes (selected : List Component) (asked : mask ≠ []) :
    lanes (lanes selected mask) mask =
      (lanes mask mask).map fun c => selected.getD (c.index % selected.length) .x :=
  lanes_map (fun c => selected.getD (c.index % selected.length) .x) asked

theorem Component.AreSettled.fitted_fitted (settled : Component.AreSettled mask) (asked : mask ≠ [])
    (selected : List Component) :
    fitted (fitted selected mask) mask = fitted selected mask := by
  by_cases same : selected = mask
  · rw [same, fitted_self, fitted_self]
  · rw [fitted_of_ne asked same, fitted_eq_self_iff asked, lanes_lanes selected asked, settled]
    exact .inr rfl

/-- Letters that all change, and to different ones, show where a target does not settle. -/
theorem Component.AreSettled.of_turn {turned : List Component} (asked : mask ≠ [])
    (other : turned ≠ mask)
    (moved : ∀ c : Component, turned.getD (c.index % turned.length) .x ≠ c)
    (apart : Function.Injective fun c : Component => turned.getD (c.index % turned.length) .x)
    (twice : fitted (fitted turned mask) mask = fitted turned mask) : Component.AreSettled mask := by
  rw [fitted_of_ne asked other, fitted_eq_self_iff asked] at twice
  rcases twice with same | again
  · obtain ⟨c, rest, rfl⟩ := List.exists_cons_of_ne_nil asked
    exact absurd (List.cons.inj same).1 (moved c)
  · rw [lanes_lanes turned asked] at again
    exact List.map_injective_iff.mpr apart again

/-- The targets that leave every selector that was fitted to them as it is. -/
theorem Component.areSettled_iff (asked : mask ≠ []) :
    Component.AreSettled mask ↔ ∀ selected : List Component, selected ≠ [] → selected.length ≤ 4 →
      fitted (fitted selected mask) mask = fitted selected mask := by
  refine ⟨fun settled selected _ _ => settled.fitted_fitted asked selected, fun twice => ?_⟩
  -- a selector that equals the target is not fitted, so one of two turns has to show it
  by_cases other : [Component.y, .z, .w, .x] = mask
  · have half : [Component.z, .w, .x, .y] ≠ mask := by
      rw [← other]
      decide
    exact .of_turn asked half (fun c => by cases c <;> decide)
      (fun a b => by cases a <;> cases b <;> decide) (twice _ (by decide) (by decide))
  · exact .of_turn asked other (fun c => by cases c <;> decide)
      (fun a b => by cases a <;> cases b <;> decide) (twice _ (by decide) (by decide))

end Fitting

namespace Operand

variable {inner front text base : Text} {start last : Char}

theorem isNumber_of_nameStart {c : Char} (starts : text.head? = some c)
    (letter : Text.isNameStart c = true) : isNumber text = false := by
  obtain ⟨rest, rfl⟩ := List.head?_eq_some_iff.mp starts
  have line : Text.dropFinalNewline (c :: rest) = c :: Text.dropFinalNewline rest :=
    Text.dropFinalNewline_append_cons [] rest (by rintro rfl; cases letter)
  refine isNumber_of_head line (Text.isDecimal_nameStart letter) ?_
  simp only [List.mem_cons, List.not_mem_nil, or_false, not_or]
  refine ⟨?_, ?_, ?_⟩ <;> rintro rfl <;> cases letter

/-- A register, or what it resolves to, without modifiers and selector. -/
structure IsRegisterExpression (base : Text) : Prop where
  named : ∃ start rest, base = start :: rest ∧ Text.isNameStart start = true
  uncalled : Text.startsWith "abs(" base = false
  nested : IsNested base

theorem not_isLiteralVector_suffix (base : Text) {selected : List Component}
    (filled : selected ≠ []) (values : List Text) :
    ¬IsLiteralVector (base ++ Component.suffix selected) values := by
  rintro ⟨⟨vector, found, _⟩, _, _⟩
  obtain ⟨others, c, rfl⟩ : ∃ others c, selected = others ++ [c] :=
    ⟨_, _, (List.dropLast_append_getLast filled).symm⟩
  have ends : base ++ Component.suffix (others ++ [c]) =
      (base ++ '.' :: Component.letters others) ++ [c.letter] := by
    rw [Component.suffix_of_ne_nil filled]
    simp [Component.letters]
  obtain ⟨_, width, _, whole⟩ := eq_of_constructor? found
  rw [ends, Text.dropFinalNewline_concat _ (by cases c <;> decide)] at whole
  have last := congrArg List.getLast? whole
  simp only [List.getLast?_append, List.getLast?_cons] at last
  cases c <;> simp [Component.letter] at last

theorem IsRegisterExpression.ne_nil (register : IsRegisterExpression base) :
    base ≠ [] := by
  obtain ⟨start, rest, rfl, _⟩ := register.named
  exact List.cons_ne_nil start rest

theorem IsRegisterExpression.isUnmarked (register : IsRegisterExpression base)
    (selected : List Component) : IsUnmarked (base ++ Component.suffix selected) := by
  obtain ⟨start, rest, rfl, letter⟩ := register.named
  refine ⟨?_, ?_, ?_, register.nested.append (IsPlainName.suffix selected).nested⟩
  · rintro ⟨⟩
    cases letter
  · rintro ⟨⟩
    cases letter
  · cases found : Text.after? "abs(" (start :: rest ++ Component.suffix selected) with
    | none => rw [Text.startsWith, found]; rfl
    | some behind =>
      -- the parenthesis stands in front of the selector, which holds none
      have whole := Text.eq_of_after? _ _ _ found
      have unopened : '(' ∉ Component.suffix selected := fun inside =>
        ((IsPlainName.suffix selected).unmarked _ inside).1 rfl
      rcases List.append_eq_append_iff.mp whole with ⟨tail, front, suffix⟩ | ⟨tail, front, _⟩
      · cases tail using List.reverseRecOn with
        | nil =>
          rw [List.append_nil] at front
          have starts := register.uncalled
          rw [← front] at starts
          cases starts
        | append_singleton others c =>
          have front : ['a', 'b', 's'] ++ ['('] = (start :: rest ++ others) ++ [c] := by
            rw [List.append_assoc]
            exact front
          cases (List.append_inj' front rfl).2
          exact absurd (by rw [suffix]; simp) unopened
      · have starts := register.uncalled
        rw [front, Text.startsWith, Text.after?_append] at starts
        cases starts

/-- The parenthesis at the end closes the last one that was opened, never an earlier one. -/
theorem closingFrom_call_ne (nested : IsNested inner) (front : Text) (place depth : Int)
    (inside : 1 ≤ depth) :
    closingFrom "(" ")" place depth (front ++ '(' :: (inner ++ [')'])) ≠
      some (place + (front ++ '(' :: inner).length) := by
  have opens : (['('] : Text) = "(" := rfl
  have closes : ([')'] : Text) = ")" := rfl
  have apart : ([')'] : Text) ≠ "(" := by decide
  induction front generalizing place depth with
  | nil =>
    rw [List.nil_append, closingFrom, if_pos opens, nested _ _ _ (by omega), closingFrom,
      if_neg apart, if_pos closes, if_neg (by omega), closingFrom]
    exact (Option.some_ne_none _).symm
  | cons c rest ih =>
    have length : (((c :: rest) ++ '(' :: inner : Text).length : Int) =
        1 + ((rest ++ '(' :: inner : Text).length : Int) := by
      simp only [List.cons_append, List.length_cons]
      omega
    rw [List.cons_append, closingFrom]
    rw [length, ← Int.add_assoc]
    split
    · exact ih (place + 1) (depth + 1) (by omega)
    · split
      · split
        · intro same
          have place := Option.some.inj same
          have long : (0 : Int) < ((rest ++ '(' :: inner : Text).length : Int) := by simp; omega
          omega
        · exact ih (place + 1) (depth - 1) (by omega)
      · exact ih (place + 1) depth inside

theorem absoluteInner?_call (nested : IsNested inner) (other : front ≠ ['a', 'b', 's']) :
    absoluteInner? (front ++ '(' :: (inner ++ [')'])) = none := by
  have ends : (front ++ '(' :: (inner ++ [')']) : Text) = (front ++ '(' :: inner) ++ [')'] := by simp
  unfold absoluteInner?
  split
  · rename_i rest barred
    rw [if_neg]
    intro closed
    rw [Bool.and_eq_true, decide_eq_true_eq, decide_eq_true_eq] at closed
    have last := congrArg List.getLast? barred
    rw [ends, List.getLast?_concat, List.getLast?_cons, closed.2] at last
    cases last
  · rw [if_neg]
    intro called
    rw [Bool.and_eq_true, decide_eq_true_eq, Text.startsWith, Option.isSome_iff_exists] at called
    obtain ⟨⟨behind, starts⟩, closes⟩ := called
    have whole : (front ++ '(' :: (inner ++ [')']) : Text) = ['a', 'b', 's'] ++ '(' :: behind := by
      rw [Text.eq_of_after? _ _ _ starts]
      rfl
    rcases List.append_eq_append_iff.mp whole with ⟨tail, word, rest⟩ | ⟨tail, word, rest⟩
    · cases tail with
      | nil => exact other (by simpa using word.symm)
      | cons c more =>
        have opened : '(' ∈ ['a', 'b', 's'] := by
          rw [word, (List.cons.inj rest).1]
          simp
        revert opened
        decide
    · cases tail with
      | nil => exact other (by simpa using word)
      | cons c more =>
        cases (List.cons.inj rest).1
        have drop : (front ++ '(' :: (inner ++ [')']) : Text).drop 3 =
            '(' :: (more ++ '(' :: (inner ++ [')'])) := by
          rw [word]
          rfl
        have opens : (['('] : Text) = "(" := rfl
        rw [findClosing, drop, closingFrom, if_pos opens] at closes
        refine closingFrom_call_ne nested more _ _ (by decide) (closes.trans ?_)
        rw [word]
        congr 1
        simp
        omega

/-- An argument list that starts as a name does is not made of numbers. -/
theorem not_isLiteralVector_call (whole : text = front ++ '(' :: (start :: inner ++ [')']))
    (letter : Text.isNameStart start = true) (values : List Text) :
    ¬IsLiteralVector text values := by
  rintro ⟨⟨vector, found, rfl⟩, _, numbers⟩
  have ends : text = (front ++ '(' :: start :: inner) ++ [')'] := by
    rw [whole]
    simp
  obtain ⟨listed, width, digit, same⟩ := eq_of_constructor? found
  have plain : '(' ∉ vector.word ++ width := by
    have words : ∀ word ∈ constructorWords, '(' ∉ word := by decide
    rw [List.mem_append, not_or]
    exact ⟨words _ listed, fun inside => absurd (digit _ inside) (by decide)⟩
  have line : Text.dropFinalNewline text = text := by
    rw [ends, Text.dropFinalNewline_concat _ (by decide)]
  have unopened : '(' ∉ vector.body := by
    intro inside
    obtain ⟨argument, among, within⟩ :=
      exists_argument_of_mem rfl (by decide) inside
    exact notMem_of_isNumber (numbers argument among) (by decide) within
  -- the constructor opens where the call does
  have body : vector.body = start :: inner := by
    rw [line, ends] at same
    rw [← List.cons_append, ← List.append_assoc] at same
    have same := (List.append_cancel_right same).symm
    rcases List.append_eq_append_iff.mp same with ⟨tail, _, rest⟩ | ⟨tail, longer, rest⟩
    · cases tail with
      | nil => exact (List.cons.inj rest).2
      | cons c more =>
        refine absurd ?_ unopened
        rw [(List.cons.inj rest).2]
        simp
    · cases tail with
      | nil => exact (List.cons.inj rest).2.symm
      | cons c more =>
        refine absurd ?_ plain
        rw [longer, ← (List.cons.inj rest).1]
        simp
  obtain ⟨argument, among, starts⟩ :=
    exists_first_argument (Text.isBlank_nameStart letter) (by rintro rfl; cases letter) inner
  rw [← body] at among
  have number := numbers argument among
  rw [isNumber_of_nameStart starts letter] at number
  cases number

theorem applyModifiers_inj {inner' : Text} {negate absolute : Bool}
    (same : applyModifiers inner negate absolute = applyModifiers inner' negate absolute) :
    inner = inner' := by
  cases negate <;> cases absolute <;> simpa [applyModifiers] using same

/-- What is written as a call of something that starts as a name does. -/
def IsCall (text : Text) : Prop :=
  ∃ front start inner, text = front ++ '(' :: (start :: inner ++ [')']) ∧
    Text.isNameStart start = true

/-- The sign in front of a call is taken off; no absolute value is, unless it is the call. -/
theorem splitModifiers_call (nested : IsNested inner) (ends : front.getLast? = some last)
    (other : last ∉ ['-', 's']) :
    ∃ (negate : Bool) (rest : Text),
      splitModifiers (front ++ '(' :: (inner ++ [')'])) =
          ⟨negate, rest ++ '(' :: (inner ++ [')']), false⟩ ∧
        applyModifiers (rest ++ '(' :: (inner ++ [')'])) negate false =
          front ++ '(' :: (inner ++ [')']) := by
  have worded : isNumber (front ++ '(' :: (inner ++ [')'])) = false := by
    simpa using isNumber_call front inner [')']
  have unlike (rest : Text) (ends : rest.getLast? = some last) : rest ≠ ['a', 'b', 's'] := by
    rintro rfl
    cases ends
    exact other (by decide)
  obtain ⟨c, rest, rfl⟩ : ∃ c rest, front = c :: rest := by
    cases front with
    | nil => cases ends
    | cons c rest => exact ⟨c, rest, rfl⟩
  by_cases signed : c = '-'
  · subst signed
    have behind : rest.getLast? = some last := by
      cases rest with
      | nil =>
        cases ends
        exact absurd (by decide) other
      | cons d more => exact ends
    refine ⟨true, rest, ?_, rfl⟩
    rw [List.cons_append] at worded ⊢
    simp [splitModifiers, worded, absoluteInner?_call nested (unlike rest behind)]
  · refine ⟨false, c :: rest, ?_, rfl⟩
    have none := absoluteInner?_call nested (unlike (c :: rest) ends)
    rw [List.cons_append] at none
    simp [splitModifiers, signed, none]

theorem eq_of_absoluteInner? {stripped : Text}
    (found : absoluteInner? ("abs(" ++ inner ++ ")") = some stripped) : stripped = inner := by
  have drop : ("abs(" ++ inner ++ ")" : Text).drop 4 = inner ++ [')'] := rfl
  unfold absoluteInner? at found
  split at found
  · rename_i barred
    cases barred
  · split at found
    · rw [drop, List.dropLast_concat] at found
      exact (Option.some.inj found).symm
    · cases found

/-- Under modifiers a call stays one, and they stay what they are. -/
theorem exists_split_of_call (nested : IsNested (start :: inner))
    (letter : Text.isNameStart start = true) (ends : front.getLast? = some last)
    (other : last ∉ ['-', 's']) (negate absolute : Bool) :
    ∃ modified, splitModifiers (applyModifiers (front ++ '(' :: (start :: inner ++ [')'])) negate
        absolute) = modified ∧ IsCall modified.inner ∧
      modified.around modified.inner =
        applyModifiers (front ++ '(' :: (start :: inner ++ [')'])) negate absolute := by
  cases absolute with
  | true =>
    have called : isNumber ('-' :: ("abs(" ++ (front ++ '(' :: (start :: inner ++ [')'])) ++ ")")) =
        false := isNumber_call "-abs" _ ")"
    have split := splitModifiers_signed negate (by simp) called
    refine ⟨_, split, ?_⟩
    dsimp only
    cases found : absoluteInner? ("abs(" ++ (front ++ '(' :: (start :: inner ++ [')'])) ++ ")") with
    | none =>
      refine ⟨⟨"abs(" ++ front, start, inner ++ [')'], ?_, letter⟩, rfl⟩
      simp
    | some stripped =>
      rw [eq_of_absoluteInner? found]
      exact ⟨⟨front, start, inner, rfl, letter⟩, rfl⟩
  | false =>
    cases negate with
    | false =>
      obtain ⟨sign, rest, split, same⟩ := splitModifiers_call nested ends other
      exact ⟨_, split, ⟨rest, start, inner, rfl, letter⟩, same⟩
    | true =>
      have behind : ('-' :: front : Text).getLast? = some last := by
        rw [List.getLast?_cons, ends]
        rfl
      obtain ⟨sign, rest, split, same⟩ := splitModifiers_call nested behind other
      exact ⟨_, split, ⟨rest, start, inner, rfl, letter⟩, same⟩

end Operand

namespace Registers

variable {registers : Registers}

/-- No constant is accessed by an expression with an opening parenthesis. -/
def AreUncalled (registers : Registers) : Prop :=
  ∀ name entry, registers.constants.fields.get? name = some entry → '(' ∉ name

/-- No constant is accessed by the expression with a selector behind it. -/
def SelectsFrom (registers : Registers) (base : Text) : Prop :=
  ∀ selected : List Component, selected ≠ [] → selected.length ≤ 4 →
    registers.constants.fields.get? (base ++ Component.suffix selected) = none

/-- A call is no literal and no constant, and has no selector. -/
theorem castInner_call (uncalled : registers.AreUncalled) {text : Text} (call : IsCall text)
    (target : Swizzle) : registers.castInner text target = .ok text := by
  obtain ⟨front, start, inner, whole, letter⟩ := call
  apply castInner_unsized
  intro sized
  cases sized with
  | literal vector => exact not_isLiteralVector_call whole letter _ vector
  | field known => exact uncalled _ _ known (by rw [whole]; simp)
  | selector named filled few =>
    have ends : splitSelector ((front ++ '(' :: (start :: inner)) ++ [')']) =
        ((front ++ '(' :: (start :: inner)) ++ [')'], []) :=
      splitSelector_marked _ fun c => by cases c <;> decide
    have selects := splitSelector_suffix _ _ named filled few
    rw [whole, ← List.cons_append, ← List.append_assoc, ends] at selects
    exact filled (Prod.mk.inj selects).2.symm

section Twice

variable {base : Text} {selected mask : List Component}

/-- A scalar that has been spread is not cast again. -/
theorem cast_spread (uncalled : registers.AreUncalled) (register : IsRegisterExpression base)
    (asked : mask ≠ []) (entry : ConstantEntry) (negate absolute : Bool) :
    registers.cast (applyModifiers (spread entry (.ofComponents mask) base) negate absolute)
        (.ofComponents mask) =
      .ok (applyModifiers (spread entry (.ofComponents mask) base) negate absolute) := by
  obtain ⟨start, rest, rfl, letter⟩ := register.named
  have written : spread entry (.ofComponents mask) (start :: rest) =
      (scalarType entry.type ++ Text.ofNat mask.length) ++ '(' :: (start :: rest ++ [')']) := by
    rw [spread, Swizzle.count_ofComponents]
    simp
  obtain ⟨last, digit, ends⟩ : ∃ last, last.isDigit = true ∧
      (scalarType entry.type ++ Text.ofNat mask.length).getLast? = some last := by
    refine ⟨_, Text.isDigit_ofNat _ _ (List.getLast_mem (Text.ofNat_ne_nil mask.length)), ?_⟩
    rw [List.getLast?_append, List.getLast?_eq_some_getLast (Text.ofNat_ne_nil mask.length)]
    rfl
  obtain ⟨modified, split, call, same⟩ := exists_split_of_call register.nested letter ends
    (fun among => by
      simp only [List.mem_cons, List.not_mem_nil, or_false] at among
      rcases among with rfl | rfl <;> cases digit) negate absolute
  rw [written, cast_of_split (Swizzle.count_ne_zero asked) split,
    castInner_call uncalled call]
  exact congrArg Except.ok same

/-- A selector that no scalar stands in front of is fitted under the modifiers. -/
theorem cast_selected (register : IsRegisterExpression base) (selects : registers.SelectsFrom base)
    (asked : mask ≠ []) (whole : ¬registers.Spreads base mask) (filled : selected ≠ [])
    (few : selected.length ≤ 4) (negate absolute : Bool) :
    registers.cast (applyModifiers (base ++ Component.suffix selected) negate absolute)
        (.ofComponents mask) =
      .ok (applyModifiers (base ++ Component.suffix (fitted selected mask)) negate absolute) := by
  have split := splitModifiers_applyModifiers (register.isUnmarked selected) negate absolute
    fun _ _ => isNumber_suffix ('-' :: base) filled
  rw [cast_of_split (Swizzle.count_ne_zero asked) split,
    castInner_fitted register.ne_nil filled few (not_isLiteralVector_suffix base filled)
      (selects selected filled few) asked whole]
  rfl

/-- Where a selector is fitted, it is fitted once more, and what comes of that decides whether the
second cast changes anything. -/
theorem cast_again_iff (register : IsRegisterExpression base) (selects : registers.SelectsFrom base)
    (asked : mask ≠ []) (short : mask.length ≤ 4) (whole : ¬registers.Spreads base mask)
    (selected : List Component) (negate absolute : Bool) :
    registers.cast (applyModifiers (base ++ Component.suffix (fitted selected mask)) negate absolute)
        (.ofComponents mask) =
      .ok (applyModifiers (base ++ Component.suffix (fitted selected mask)) negate absolute) ↔
    fitted (fitted selected mask) mask = fitted selected mask := by
  have length : (fitted selected mask).length = mask.length := length_fitted asked
  have filled {lanes : List Component} (same : lanes.length = mask.length) : lanes ≠ [] := by
    rintro rfl
    exact asked (List.length_eq_zero_iff.mp same.symm)
  rw [cast_selected register selects asked whole (filled length) (by omega) negate absolute]
  constructor
  · intro same
    have same := List.append_cancel_left (applyModifiers_inj (Except.ok.inj same))
    rw [Component.suffix_of_ne_nil (filled (length_fitted asked)),
      Component.suffix_of_ne_nil (filled length)] at same
    exact Component.letters_inj (List.cons.inj same).2
  · intro same
    rw [same]

end Twice

end Registers

/-- Casting twice. The first cast of a register with a selector always gives a text. A second cast
leaves it as it is where a scalar has been spread, where the fitted selector is the target itself,
and where each of its letters is the one that the target takes from it; behind a register that is
not spread, no selector is changed by a second cast exactly if the letters of the target stand at
the places that they name. -/
theorem cast_twice_iff (registers : Registers) (uncalled : registers.AreUncalled) (base : Text)
    (register : IsRegisterExpression base) (selects : registers.SelectsFrom base)
    (mask : List Component) (asked : mask ≠ []) (short : mask.length ≤ 4) :
    (∀ (selected : List Component) (negate absolute : Bool), selected ≠ [] → selected.length ≤ 4 →
      ∃ once, registers.cast (applyModifiers (base ++ Component.suffix selected) negate absolute)
          (.ofComponents mask) = .ok once ∧
        (registers.cast once (.ofComponents mask) = .ok once ↔
          registers.Spreads base mask ∨ fitted selected mask = mask ∨
            lanes (fitted selected mask) mask = fitted selected mask)) ∧
    (¬registers.Spreads base mask →
      ((∀ (selected : List Component) (negate absolute : Bool) (once : Text),
        selected ≠ [] → selected.length ≤ 4 →
        registers.cast (applyModifiers (base ++ Component.suffix selected) negate absolute)
          (.ofComponents mask) = .ok once →
        registers.cast once (.ofComponents mask) = .ok once) ↔ Component.AreSettled mask)) := by
  constructor
  · intro selected negate absolute filled few
    by_cases whole : registers.Spreads base mask
    · obtain ⟨entry, known, scalar, wide⟩ := whole
      have split := splitModifiers_applyModifiers (register.isUnmarked selected) negate absolute
        fun _ _ => isNumber_suffix ('-' :: base) filled
      refine ⟨applyModifiers (Registers.spread entry (.ofComponents mask) base) negate absolute,
        ?_, ?_⟩
      · rw [Registers.cast_of_split (Swizzle.count_ne_zero asked) split,
          Registers.castInner_spread register.ne_nil filled few
            (not_isLiteralVector_suffix base filled) (selects selected filled few) known scalar wide]
        rfl
      · rw [Registers.cast_spread uncalled register asked]
        exact iff_of_true rfl (.inl ⟨entry, known, scalar, wide⟩)
    · refine ⟨_, Registers.cast_selected register selects asked whole filled few negate absolute, ?_⟩
      rw [Registers.cast_again_iff register selects asked short whole, fitted_eq_self_iff asked,
        or_iff_right whole]
  · intro whole
    rw [Component.areSettled_iff asked]
    constructor
    · intro twice selected filled few
      rw [← Registers.cast_again_iff register selects asked short whole selected false false]
      exact twice selected false false _ filled few
        (Registers.cast_selected register selects asked whole filled few false false)
    · intro settled selected negate absolute once filled few cast
      rw [Registers.cast_selected register selects asked whole filled few negate absolute] at cast
      rw [← Except.ok.inj cast, Registers.cast_again_iff register selects asked short whole]
      exact settled selected filled few

theorem names_scalarBuffer {name : Text} {entry : ConstantEntry}
    (known : (Decoding.scalarBuffer "fog").resolve.registers.constants.fields.get? name =
      some entry) : name ∈ (["tint", "fog"] : List Text) := by
  have each : ∀ field ∈ (Decoding.scalarBuffer "fog").resolve.registers.constants.fields,
      field.1 ∈ (["tint", "fog"] : List Text) := by decide +kernel
  exact each _ (Table.mem_of_get? known)

theorem cast_twice_iff_fog :
    let registers := (Decoding.scalarBuffer "fog").resolve.registers
    registers.AreUncalled ∧
    (IsRegisterExpression "fog" ∧ registers.SelectsFrom "fog" ∧ registers.Spreads "fog" [.x, .y] ∧
      ∃ once, registers.cast (applyModifiers "fog.w" true true) (.ofComponents [.x, .y]) = .ok once ∧
        registers.cast once (.ofComponents [.x, .y]) = .ok once) ∧
    (IsRegisterExpression "r0" ∧ registers.SelectsFrom "r0" ∧ ¬registers.Spreads "r0" [.y, .x] ∧
      ∃ once, registers.cast (applyModifiers "r0.zwxy" true true) (.ofComponents [.y, .x]) =
          .ok once ∧
        registers.cast once (.ofComponents [.y, .x]) ≠ .ok once) := by
  intro registers
  have uncalled : registers.AreUncalled := by
    intro name entry known
    have unopened : ∀ name ∈ (["tint", "fog"] : List Text), '(' ∉ name := by decide
    exact unopened name (names_scalarBuffer known)
  have selects (base : Text) : registers.SelectsFrom base := by
    intro selected filled _
    cases found : registers.constants.fields.get? (base ++ Component.suffix selected) with
    | none => rfl
    | some entry =>
      have undotted : ∀ name ∈ (["tint", "fog"] : List Text), '.' ∉ name := by decide
      refine absurd ?_ (undotted _ (names_scalarBuffer found))
      simp [Component.suffix_of_ne_nil filled]
  have spreads : registers.Spreads "fog" [.x, .y] := by
    refine ⟨_, (Option.some_get ?_).symm, ?_, by decide⟩
    · decide +kernel
    · decide +kernel
  have whole : ¬registers.Spreads "r0" [.y, .x] := by
    rintro ⟨entry, known, _⟩
    exact absurd (names_scalarBuffer known) (by decide)
  have scalar : IsRegisterExpression "fog" :=
    ⟨⟨'f', ['o', 'g'], rfl, by decide⟩, by decide, .of_plain (by decide) (by decide)⟩
  have register : IsRegisterExpression "r0" :=
    ⟨⟨'r', ['0'], rfl, by decide⟩, by decide, .of_plain (by decide) (by decide)⟩
  refine ⟨uncalled, ⟨scalar, selects _, spreads, ?_⟩, register, selects _, whole, ?_⟩
  · obtain ⟨once, cast, again⟩ := (cast_twice_iff registers uncalled "fog" scalar (selects _) [.x, .y]
      (by decide) (by decide)).1 [.w] true true (by decide) (by decide)
    exact ⟨once, cast, again.mpr (.inl spreads)⟩
  · obtain ⟨once, cast, again⟩ := (cast_twice_iff registers uncalled "r0" register (selects _)
      [.y, .x] (by decide) (by decide)).1 [.z, .w, .x, .y] true true (by decide) (by decide)
    refine ⟨once, cast, mt again.mp ?_⟩
    rw [or_iff_right whole]
    decide

/-- A structure with a member that is named as a component is. -/
def componentMember : Declarations where
  buffers :=
    [{ name := "Scene", bind := 0, members := [⟨"Light", "r0", 0, 16, .default⟩] }]
  structures := [{ name := "Light", members := [⟨"float4", "x", 0, 0, .default⟩] }]

/-- A vector that is named as a spread scalar is written. -/
def callNamed : Declarations where
  buffers :=
    [{ name := "Scene", bind := 0, members :=
        [⟨"float", "a", 0, 4, .default⟩, ⟨"float3", "float2(a)", 16, 12, .default⟩] }]

/-- A second cast changes a selector that was turned, one that has become the name of a member, and
a spread scalar that a constant is named as. -/
theorem cast_twice_changes :
    (({} : Declarations).resolve.registers.cast "r0.zwxy" (.ofComponents [.y, .x]) = .ok "r0.wz" ∧
      ({} : Declarations).resolve.registers.cast "r0.wz" (.ofComponents [.y, .x]) = .ok "r0.zw") ∧
    (componentMember.resolve.registers.cast "r0.yx" (.ofComponents [.y]) = .ok "r0.x" ∧
      componentMember.resolve.registers.cast "r0.x" (.ofComponents [.y]) = .ok "r0.x.y") ∧
    (callNamed.resolve.registers.cast "a.x" (.ofComponents [.x, .y]) = .ok "float2(a)" ∧
      callNamed.resolve.registers.cast "float2(a)" (.ofComponents [.x, .y]) =
        .ok "float2(a).xy") := by
  refine ⟨⟨?_, ?_⟩, ⟨?_, ?_⟩, ⟨?_, ?_⟩⟩
  all_goals
    apply eq_ok_of_toOption
    decide +kernel

end ShaderLift
