import ShaderLift.Proofs.Lanes.Assignment

namespace ShaderLift

namespace Operand

theorem isUnsigned_of_head {c : Char} (rest : Text) (undecimal : Text.isDecimal c = false)
    (unpointed : c ≠ '.') : isUnsigned (c :: rest) = false := by
  have zero : c ≠ '0' := by
    rintro rfl
    revert undecimal
    decide
  have number : isDecimalNumber (c :: rest) = false := by
    unfold isDecimalNumber Text.spanDecimals
    rw [List.takeWhile_cons_of_neg (by simp [undecimal]),
      List.dropWhile_cons_of_neg (by simp [undecimal])]
    split
    · rename_i same
      exact absurd (List.cons.inj (Prod.mk.inj same).2).1 unpointed
    · rfl
    · rename_i same
      exact absurd (List.cons.inj (Prod.mk.inj same).2).1 unpointed
    · rename_i filled _ same
      exact absurd (Prod.mk.inj same).1.symm filled
  unfold isUnsigned
  split
  · rename_i same
    exact absurd (List.cons.inj same).1 zero
  · exact number

/-- A sign in front of a word or a bar is no part of a number. -/
theorem isNumber_signed {c : Char} (rest : Text) (undecimal : Text.isDecimal c = false)
    (unpointed : c ≠ '.') (single : '\n' ∉ '-' :: c :: rest) :
    isNumber ('-' :: c :: rest) = false := by
  unfold isNumber
  rw [Text.dropFinalNewline_of_notMem _ single]
  exact isUnsigned_of_head rest undecimal unpointed

/-- A sign is taken off first, then an absolute value. -/
theorem splitModifiers_signed {body : Text} (negate : Bool) (unsigned : body.head? ≠ some '-')
    (worded : isNumber ('-' :: body) = false) :
    splitModifiers (if negate then '-' :: body else body) =
      ⟨negate, (absoluteInner? body).getD body, (absoluteInner? body).isSome⟩ := by
  cases negate with
  | true =>
    cases found : absoluteInner? body <;> simp [splitModifiers, worded, found]
  | false =>
    cases found : absoluteInner? body <;> simp [splitModifiers, unsigned, found]

/-- A text that a search for a closing parenthesis passes over: what it opens, it closes. -/
def IsNested (text : Text) : Prop :=
  ∀ (place depth : Int) (rest : Text), 1 ≤ depth →
    closingFrom "(" ")" place depth (text ++ rest) =
      closingFrom "(" ")" (place + text.length) depth rest

theorem IsNested.of_plain {text : Text} (unopened : '(' ∉ text) (unclosed : ')' ∉ text) :
    IsNested text := by
  intro place depth rest inside
  induction text generalizing place with
  | nil => simp
  | cons c text ih =>
    simp only [List.mem_cons, not_or] at unopened unclosed
    have opening : ([c] : Text) ≠ "(" := fun same => unopened.1 (List.cons.inj same).1.symm
    have closing : ([c] : Text) ≠ ")" := fun same => unclosed.1 (List.cons.inj same).1.symm
    rw [List.cons_append, closingFrom, if_neg opening, if_neg closing, ih unopened.2 unclosed.2]
    congr 1
    simp only [List.length_cons]
    omega

/-- The absolute value of an expression, as it is generated. -/
theorem absoluteInner?_nested {inner : Text} (nested : IsNested inner) :
    absoluteInner? ("abs(" ++ inner ++ ")") = some inner := by
  have starts : Text.startsWith "abs(" ("abs(" ++ inner ++ ")") = true := by
    rw [Text.startsWith, List.append_assoc, Text.after?_append]
    rfl
  have closes : findClosing ("abs(" ++ inner ++ ")") 3 "(" ")" =
      some (("abs(" ++ inner ++ ")" : Text).length - 1 : Int) := by
    have behind : (("abs(" ++ inner ++ ")" : Text).drop 3) = '(' :: (inner ++ ")") := by simp
    have opens : (['('] : Text) = "(" := rfl
    rw [findClosing, behind, closingFrom, if_pos opens, nested _ _ _ (by omega)]
    simp [closingFrom]
    omega
  have cut : (("abs(" ++ inner ++ ")" : Text).drop 4).dropLast = inner := by simp
  unfold absoluteInner?
  split
  · rename_i same
    simp at same
  · rw [starts, closes, cut]
    simp

/-- The absolute value of an expression, as it is listed. -/
theorem absoluteInner?_bars {inner : Text} (filled : inner ≠ []) :
    absoluteInner? ('|' :: (inner ++ ['|'])) = some inner := by
  have long := List.length_pos_iff.mpr filled
  have several : 2 < ('|' :: (inner ++ ['|'])).length := by
    simp only [List.length_cons, List.length_append, List.length_nil]
    omega
  simp only [absoluteInner?, several, List.getLast?_concat, List.dropLast_concat, decide_true,
    Bool.and_self, if_true]

end Operand

open Operand

/-- The components that a selection takes for those of a mask: the one at the index of each of them,
in a selection repeated as often as needed. A selection equal to the mask stays, and so does any
selection when nothing is written. -/
def fitted (selected mask : List Component) : List Component :=
  if mask = [] ∨ selected = mask then selected
  else mask.map fun c => selected.getD (c.index % selected.length) .x

theorem reselect_suffix {base : Text} (named : base ≠ []) {selected : List Component}
    (filled : selected ≠ []) (short : selected.length ≤ 4) (mask : List Component)
    (written : mask ≠ []) :
    reselect (base ++ Component.suffix selected) (.ofComponents mask) =
      .ok (base ++ Component.suffix (fitted selected mask)) := by
  have count : (Swizzle.ofComponents mask).count = mask.length := List.length_map _
  have some : (Swizzle.ofComponents mask).count ≠ 0 := by
    rw [count]
    simpa using written
  unfold reselect
  rw [splitSelector_suffix base selected named filled short]
  dsimp only
  by_cases same : selected = mask
  · have unchanged : Component.letters mask = (Swizzle.ofComponents mask).pattern := rfl
    subst same
    simp only [unchanged, decide_true, Bool.or_true, if_true, fitted, or_true]
  · have changed : Component.letters selected ≠ (Swizzle.ofComponents mask).pattern :=
      fun equal => same (Component.letters_inj equal)
    have positive := List.length_pos_iff.mpr filled
    have fit : (mask.filterMap fun lane => selected[lane.index % selected.length]?) =
        fitted selected mask := by
      rw [fitted, if_neg (not_or.mpr ⟨written, same⟩), ← List.filterMap_eq_map]
      congr 1
      funext lane
      have small := Nat.mod_lt lane.index positive
      simp [small]
    rw [if_neg (by simp [filled, some, changed]), Swizzle.components_ofComponents]
    exact congrArg (fun lanes => Except.ok (base ++ Component.suffix lanes)) fit

theorem length_fitted {selected mask : List Component} (written : mask ≠ []) :
    (fitted selected mask).length = mask.length := by
  unfold fitted
  split
  · rename_i same
    rcases same with empty | same
    · exact absurd empty written
    · rw [same]
  · exact List.length_map _

theorem Swizzle.componentAt_of_lt {place : Nat} (small : place < 4) :
    componentAt place = .ok (Component.cyclic place) := by
  rcases place with _ | _ | _ | _ | place
  · rfl
  · rfl
  · rfl
  · rfl
  · omega

namespace Selection

variable (s : Selection)

/-- A selection as it is listed. -/
def listed : Text :=
  let body := if s.absolute then '|' :: (s.inner ++ ['|']) else s.inner
  if s.negate then '-' :: body else body

/-- A selection cast to a mask. -/
def fit (mask : List Component) : Selection := { s with selected := fitted s.selected mask }

/-- One lane of a selection. -/
def only (place : Nat) : Selection := { s with selected := [s.component place] }

end Selection

/-- An expression with all its selections cast to a mask. -/
def Expression.fit (e : Expression Selection) (mask : List Component) : Expression Selection :=
  e.map (Selection.fit · mask)

/-- One lane of an expression. -/
def Expression.only (e : Expression Selection) (place : Nat) : Expression Selection :=
  e.map (Selection.only · place)

namespace Selection

variable {s : Selection}

theorem only_zero (one : s.selected.length = 1) : s.only 0 = s := by
  obtain ⟨negate, absolute, register, selected⟩ := s
  obtain ⟨c, rfl⟩ := List.length_eq_one_iff.mp one
  rfl

theorem only_fit_single (e : Expression Selection) (c : Component) :
    (e.fit [c]).only 0 = e.fit [c] := by
  apply Expression.map_eq_self
  intro s operand
  rw [Expression.fit, Expression.operands_map] at operand
  obtain ⟨original, _, rfl⟩ := List.mem_map.mp operand
  exact only_zero (length_fitted (List.cons_ne_nil c []))

theorem head?_inner : s.inner.head? = some 'r' := rfl

theorem mem_inner {c : Char} (inside : c ∈ s.inner) : c = '.' ∨ c.isAlphanum = true := by
  rcases List.mem_append.mp inside with early | late
  · right
    rcases mem_temporary early with rfl | digit
    · decide
    · rw [Char.isAlphanum, digit, Bool.or_true]
  · exact mem_suffix c _ late

theorem notMem_inner {c : Char} (other : c ≠ '.' ∧ c.isAlphanum = false) : c ∉ s.inner := by
  intro inside
  rcases mem_inner inside with same | named
  · exact other.1 same
  · simp [other.2] at named

theorem bare_inner : IsBare s.inner :=
  ⟨by rw [head?_inner]; decide, by rw [head?_inner]; decide, notMem_inner (by decide)⟩

theorem absoluteInner?_inner : absoluteInner? s.inner = none := by
  have plain := (bare_inner (s := s)).splitModifiers
  unfold splitModifiers at plain
  simp only [head?_inner] at plain
  cases found : absoluteInner? s.inner with
  | none => rfl
  | some inner => simp [found] at plain

theorem isNumber_signed_body {body : Text} {c : Char} (start : body.head? = some c)
    (other : Text.isDecimal c = false ∧ c ≠ '.') (single : '\n' ∉ body) :
    isNumber ('-' :: body) = false := by
  obtain ⟨rest, rfl⟩ := List.head?_eq_some_iff.mp start
  refine isNumber_signed rest other.1 other.2 ?_
  simpa using single

theorem splitModifiers_signed_inner (negate : Bool) :
    splitModifiers (if negate then '-' :: s.inner else s.inner) = ⟨negate, s.inner, false⟩ := by
  have worded : isNumber ('-' :: s.inner) = false :=
    isNumber_signed_body head?_inner (by decide) (notMem_inner (by decide))
  rw [splitModifiers_signed negate (by rw [head?_inner]; decide) worded, absoluteInner?_inner]
  rfl

theorem splitModifiers_text : splitModifiers s.text = ⟨s.negate, s.inner, s.absolute⟩ := by
  have single : '\n' ∉ s.inner := notMem_inner (by decide)
  unfold text applyModifiers
  cases s.absolute with
  | true =>
    have call : absoluteInner? ("abs(" ++ s.inner ++ ")") = some s.inner :=
      absoluteInner?_nested (.of_plain (notMem_inner (by decide)) (notMem_inner (by decide)))
    have worded : isNumber ('-' :: ("abs(" ++ s.inner ++ ")")) = false :=
      isNumber_signed_body (c := 'a') rfl (by decide) (by simp [single])
    simp only [if_true]
    rw [splitModifiers_signed s.negate (by simp) worded, call]
    rfl
  | false => exact splitModifiers_signed_inner s.negate

theorem splitModifiers_listed : splitModifiers s.listed = ⟨s.negate, s.inner, s.absolute⟩ := by
  have single : '\n' ∉ s.inner := notMem_inner (by decide)
  unfold listed
  cases s.absolute with
  | true =>
    have worded : isNumber ('-' :: '|' :: (s.inner ++ ['|'])) = false :=
      isNumber_signed_body (c := '|') rfl (by decide) (by simp [single])
    simp only [if_true]
    rw [splitModifiers_signed s.negate (by simp) worded,
      absoluteInner?_bars (List.ne_nil_of_mem (List.mem_of_head? head?_inner))]
    rfl
  | false => exact splitModifiers_signed_inner s.negate

theorem bracketsClosed_listed : Decoding.bracketsClosed s.listed = true := by
  have unopened : s.inner.count '[' = 0 := List.count_eq_zero.mpr (notMem_inner (by decide))
  have unopened' : s.listed.count '[' = 0 := by
    unfold listed
    cases s.absolute <;> cases s.negate <;> simp [unopened]
  rw [Decoding.bracketsClosed, decide_eq_true_eq, unopened']
  exact Nat.zero_le _

theorem unmarked_listed (filled : s.selected ≠ []) : s.listed ≠ "l" ∧ s.listed ≠ "d" := by
  apply Decoding.unmarked_of_long
  have long : 1 < s.inner.length := by
    rw [inner, Component.suffix_of_ne_nil filled]
    simp only [temporary, List.length_append, List.length_cons]
    omega
  unfold listed
  cases s.absolute <;> cases s.negate <;> simp <;> omega

end Selection

/-- A temporary register that no row of a signature and no constant goes by, with a selector or
without. -/
structure Registers.IsFree (registers : Registers) (number : Nat) : Prop where
  unlisted : registers.IsUnlisted (temporary number)
  unnamed : ∀ selected,
    registers.constants.fields.get? (temporary number ++ Component.suffix selected) = none

namespace Selection

/-- One to four components of a free temporary are selected. -/
structure IsProper (registers : Registers) (s : Selection) : Prop where
  filled : s.selected ≠ []
  short : s.selected.length ≤ 4
  free : registers.IsFree s.register

variable {s : Selection} {registers : Registers} {declared : Declarations}

/-- A selection on a free temporary stands for itself. -/
theorem resolved_listed (returns : declared.resolve.fault = none)
    (proper : s.IsProper declared.resolve.registers) :
    Decoding.resolved declared.resolve.registers s.listed = .ok s.text := by
  have unnamed : declared.resolve.registers.findName? s.inner = .ok none :=
    Decoding.findName?_temporary returns s.register proper.free.unlisted s.selected proper.filled
      proper.short
  have normal : normalizeIndexed s.inner = .ok s.inner :=
    Decoding.normalizeIndexed_temporary s.register s.selected proper.filled
  have queried : declared.resolve.registers.query s.listed = .ok none := by
    unfold Registers.query
    rw [splitModifiers_listed]
    dsimp only
    rw [unnamed]
    rfl
  unfold Decoding.resolved
  rw [queried, splitModifiers_listed]
  change (do return Modified.around _ (← normalizeIndexed s.inner)) = _
  rw [normal]
  rfl

theorem castInner_inner (proper : s.IsProper registers)
    {mask : List Component} (written : mask ≠ []) :
    registers.castInner s.inner (.ofComponents mask) = .ok (s.fit mask).inner := by
  have named : temporary s.register ≠ [] := List.cons_ne_nil _ _
  have split : splitSelector s.inner = (temporary s.register, s.selected) :=
    splitSelector_suffix _ _ named proper.filled proper.short
  have whole : registers.constants.fields.get? s.inner = none :=
    proper.free.unnamed s.selected
  have base : registers.constants.fields.get? (temporary s.register) = none := by
    simpa [Component.suffix] using proper.free.unnamed []
  unfold Registers.castInner
  rw [constructor?_uncalled bare_inner.uncalled, whole, split]
  simp only [Option.isSome_none, Bool.false_and, Bool.false_eq_true, if_false, base, ite_self]
  exact reselect_suffix named proper.filled proper.short mask written

/-- Modifiers stay where they are when a selection is cast. -/
theorem cast_text (proper : s.IsProper registers) (mask : List Component) :
    registers.cast s.text (.ofComponents mask) = .ok (s.fit mask).text := by
  have count : (Swizzle.ofComponents mask).count = mask.length := List.length_map _
  unfold Registers.cast
  by_cases empty : mask = []
  · have same : s.fit mask = s := by simp [fit, fitted, empty]
    rw [same, if_pos (by rw [count, empty]; rfl)]
  · rw [if_neg (by rw [count]; simpa using empty), splitModifiers_text]
    dsimp only
    rw [castInner_inner proper empty]
    rfl

theorem IsProper.fit (proper : s.IsProper registers) {mask : List Component}
    (small : mask.length ≤ 4) : (s.fit mask).IsProper registers := by
  by_cases written : mask = []
  · have same : s.fit mask = s := by simp [Selection.fit, fitted, written]
    rw [same]
    exact proper
  · have length : (s.fit mask).selected.length = mask.length := length_fitted written
    refine ⟨?_, by omega, proper.free⟩
    apply List.length_pos_iff.mp
    have positive := List.length_pos_iff.mpr written
    omega

theorem fitted_single (place : Nat) (small : place < 4) :
    fitted s.selected [Component.cyclic place] = [s.component place] := by
  have index := Component.index_cyclic small
  unfold fitted component
  split
  · rename_i same
    rcases same with empty | same
    · cases empty
    · simp [same, Nat.mod_one]
  · simp [index]

theorem runOn_lane {env : Environment} (proper : s.IsProper env.symbols.registers) {place : Nat}
    (small : place < 4) (count : Int) (d : Decoder) :
    Decoding.runOn (Decoding.lane s.text place count) env d = (.ok (s.only place).text, d) := by
  have split : splitSelector s.inner = (temporary s.register, s.selected) :=
    splitSelector_suffix _ _ (List.cons_ne_nil _ _) proper.filled proper.short
  have selects : s.selected.isEmpty = false := List.isEmpty_eq_false_iff.mpr proper.filled
  have component := Swizzle.componentAt_of_lt small
  -- the modifiers are taken off, so that what is cast is the same selection without them
  have plain := cast_text (s := { s with negate := false, absolute := false })
    ⟨proper.filled, proper.short, proper.free⟩ [Component.cyclic place]
  have fits : fit { s with negate := false, absolute := false } [Component.cyclic place] =
      { s.only place with negate := false, absolute := false } := by
    simp [fit, only, fitted_single place small]
  rw [fits] at plain
  unfold Decoding.lane
  rw [splitModifiers_text]
  simp only [split, selects, Bool.and_false, Bool.false_eq_true, if_false, component,
    Decoding.runOn_bind, Decoding.runOn_lift, Decoding.runOn_cast]
  have cast : env.symbols.registers.cast s.inner (.ofComponents [Component.cyclic place]) =
      .ok (s.only place).inner := plain
  rw [cast]
  rfl

end Selection
end ShaderLift
