import ShaderLift.Operand.Basic

namespace ShaderLift

namespace Component

theorem all_getElem?_eq_some_iff (place : Nat) (c : Component) :
    all[place]? = some c ↔ place = c.index := by
  rcases place with _ | _ | _ | _ | place <;> cases c <;> simp [all, index]

theorem index_inj {c c' : Component} (same : c.index = c'.index) : c = c' := by
  have first := (all_getElem?_eq_some_iff c.index c).mpr rfl
  rw [(all_getElem?_eq_some_iff c.index c').mpr same] at first
  exact (Option.some.inj first).symm

/-- In a mask from the first component on, each component stands at its own place. -/
theorem getElem?_index {mask : List Component} (start : mask <+: all) {c : Component}
    (inside : c ∈ mask) : mask[c.index]? = some c := by
  obtain ⟨place, found⟩ := List.mem_iff_getElem?.mp inside
  have whole : all[place]? = some c := by
    obtain ⟨rest, same⟩ := start
    rw [← same, List.getElem?_append_left (List.getElem?_eq_some_iff.mp found).1]
    exact found
  rw [all_getElem?_eq_some_iff] at whole
  rw [← whole]
  exact found

theorem mem_take_drop_all (start count : Nat) (c : Component) :
    c ∈ (all.drop start).take count ↔ start ≤ c.index ∧ c.index < start + count := by
  rw [List.mem_iff_getElem?]
  constructor
  · rintro ⟨place, found⟩
    rw [List.getElem?_take] at found
    split at found
    · rw [List.getElem?_drop, all_getElem?_eq_some_iff] at found
      omega
    · cases found
  · rintro ⟨low, high⟩
    refine ⟨c.index - start, ?_⟩
    rw [List.getElem?_take, if_pos (by omega), List.getElem?_drop, all_getElem?_eq_some_iff]
    omega

theorem index_cyclic {n : Nat} (small : n < 4) : (cyclic n).index = n := by
  rcases n with _ | _ | _ | _ | n
  · rfl
  · rfl
  · rfl
  · rfl
  · omega

theorem letters_inj {first second : List Component} (same : letters first = letters second) :
    first = second := by
  have injective (c d : Component) (letter : c.letter = d.letter) : c = d := by
    have both := congrArg ofLetter? letter
    rw [ofLetter?_letter, ofLetter?_letter] at both
    exact Option.some.inj both
  induction first generalizing second with
  | nil =>
    cases second with
    | nil => rfl
    | cons d rest => cases same
  | cons c rest ih =>
    cases second with
    | nil => cases same
    | cons d others =>
      obtain ⟨head, tail⟩ := List.cons.inj same
      rw [injective c d head, ih tail]

theorem suffix_of_ne_nil {selected : List Component} (filled : selected ≠ []) :
    suffix selected = '.' :: letters selected := by
  cases selected with
  | nil => exact absurd rfl filled
  | cons c rest => rfl

theorem dot_notMem_letters (selected : List Component) : '.' ∉ letters selected := by
  intro inside
  obtain ⟨c, _, letter⟩ := List.mem_map.mp inside
  cases c <;> cases letter

end Component

namespace Operand

/-- A text is cut in one way only at the first occurrence of a character. -/
theorem cut_unique (mark : Char) (front front' tail tail' : Text) (bare : mark ∉ front)
    (bare' : mark ∉ front') (same : front ++ mark :: tail = front' ++ mark :: tail') :
    front = front' ∧ tail = tail' := by
  induction front generalizing front' with
  | nil =>
    cases front' with
    | nil => exact ⟨rfl, (List.cons.inj same).2⟩
    | cons c rest =>
      have first : mark = c := (List.cons.inj same).1
      exact absurd (first ▸ List.mem_cons_self ..) bare'
  | cons c rest ih =>
    cases front' with
    | nil =>
      have first : c = mark := (List.cons.inj same).1
      exact absurd (first ▸ List.mem_cons_self ..) bare
    | cons c' rest' =>
      obtain ⟨rfl, later⟩ := List.cons.inj same
      obtain ⟨rfl, rfl⟩ := ih rest' (fun inside => bare (List.mem_cons_of_mem c inside))
        (fun inside => bare' (List.mem_cons_of_mem c inside)) later
      exact ⟨rfl, rfl⟩

theorem splitLast?_some (mark : Char) (text front tail : Text)
    (found : Text.splitLast? mark text = some (front, tail)) : text = front ++ mark :: tail := by
  induction text generalizing front with
  | nil => cases found
  | cons c rest ih =>
    unfold Text.splitLast? at found
    split at found
    · rename_i later
      cases found
      rw [ih _ later, List.cons_append]
    · split at found
      · rename_i same
        cases found
        rw [same, List.nil_append]
      · cases found

theorem splitLast?_eq_none (mark : Char) (text : Text) (bare : mark ∉ text) :
    Text.splitLast? mark text = none := by
  cases found : Text.splitLast? mark text with
  | none => rfl
  | some parts =>
    refine absurd ?_ bare
    rw [splitLast?_some mark text parts.1 parts.2 found]
    simp

theorem splitLast?_append (mark : Char) (front tail : Text) (bare : mark ∉ tail) :
    Text.splitLast? mark (front ++ mark :: tail) = some (front, tail) := by
  induction front with
  | nil => simp [Text.splitLast?, splitLast?_eq_none mark tail bare]
  | cons c rest ih => rw [List.cons_append, Text.splitLast?, ih]

theorem componentLetters?_letters (selected : List Component) :
    componentLetters? (Component.letters selected) = some selected := by
  induction selected with
  | nil => rfl
  | cons c rest ih =>
    have step : componentLetters? (Component.letters (c :: rest)) =
        componentLetters? (c.letter :: Component.letters rest) := rfl
    rw [step, componentLetters?, Component.ofLetter?_letter, ih]

theorem componentLetters?_eq_some {text : Text} {selected : List Component}
    (named : componentLetters? text = some selected) : text = Component.letters selected := by
  induction text generalizing selected with
  | nil =>
    cases named
    rfl
  | cons letter rest ih =>
    unfold componentLetters? at named
    split at named
    · rename_i first others start later
      cases named
      have same : letter = first.letter := by
        revert start
        unfold Component.ofLetter?
        split <;> intro start <;> cases start <;> rfl
      rw [same, ih later]
      rfl
    · cases named

/-- A text stays whole, or it ends with the selector that is taken off it. -/
theorem splitSelector_cases (text : Text) :
    splitSelector text = (text, []) ∨
      ∃ base selected, splitSelector text = (base, selected) ∧
        text = base ++ Component.suffix selected ∧ base ≠ [] ∧ selected ≠ [] ∧
        selected.length ≤ 4 := by
  unfold splitSelector
  split
  · exact .inl rfl
  · rename_i base letters found
    split
    · exact .inl rfl
    · rename_i sized
      simp only [Bool.or_eq_true, List.isEmpty_iff, decide_eq_true_eq, not_or, Nat.not_lt] at sized
      obtain ⟨⟨named, lettered⟩, short⟩ := sized
      split
      · rename_i selected read
        have same := componentLetters?_eq_some read
        have filled : selected ≠ [] := by
          rintro rfl
          exact lettered same
        refine .inr ⟨base, selected, rfl, ?_, named, filled, ?_⟩
        · rw [Component.suffix_of_ne_nil filled, ← same]
          exact splitLast?_some _ _ _ _ found
        · rwa [same, Component.letters, List.length_map] at short
      · exact .inl rfl

theorem length_splitSelector (text : Text) : (splitSelector text).2.length ≤ 4 := by
  rcases splitSelector_cases text with whole | ⟨base, selected, split, _, _, _, short⟩
  · rw [whole]
    exact Nat.zero_le 4
  · rw [split]
    exact short

theorem splitSelector_unselected {text : Text} (unselected : (splitSelector text).2 = []) :
    splitSelector text = (text, []) := by
  rcases splitSelector_cases text with whole | ⟨base, selected, split, _, _, filled, _⟩
  · exact whole
  · rw [split] at unselected
    exact absurd unselected filled

theorem eq_of_splitSelector {text : Text} (filled : (splitSelector text).2 ≠ []) :
    text = (splitSelector text).1 ++ Component.suffix (splitSelector text).2 ∧
      (splitSelector text).1 ≠ [] := by
  rcases splitSelector_cases text with whole | ⟨base, selected, split, same, named, _, _⟩
  · rw [whole] at filled
    exact absurd rfl filled
  · rw [split]
    exact ⟨same, named⟩

/-- What a selector stands behind is the beginning of the expression. -/
theorem splitSelector_front (expression : Text) :
    ∃ tail, expression = (splitSelector expression).1 ++ tail := by
  rcases splitSelector_cases expression with whole | ⟨base, selected, split, same, _⟩
  · rw [whole]
    exact ⟨[], (List.append_nil _).symm⟩
  · rw [split]
    exact ⟨_, same⟩

/-- A mark at the end that names no component leaves no selector. -/
theorem splitSelector_marked (text : Text) {mark : Char}
    (letterless : ∀ c : Component, c.letter ≠ mark) :
    splitSelector (text ++ [mark]) = (text ++ [mark], []) := by
  rcases splitSelector_cases (text ++ [mark]) with whole | ⟨base, selected, _, same, _, filled, _⟩
  · exact whole
  · obtain ⟨front, c, rfl⟩ := List.eq_nil_or_concat selected |>.resolve_left filled
    rw [Component.suffix_of_ne_nil filled, Component.letters, List.concat_eq_append,
      List.map_append, ← List.cons_append, ← List.append_assoc] at same
    exact absurd (List.singleton_inj.mp (List.append_inj_right' same rfl)).symm (letterless c)

/-- The name behind a dot is a selector, or it is not taken off. -/
theorem splitSelector_dotted (base : Text) {name : Text} (undotted : '.' ∉ name) :
    (∃ selected, name = Component.letters selected ∧ selected ≠ [] ∧ selected.length ≤ 4 ∧
      base ≠ []) ∨
    splitSelector (base ++ '.' :: name) = (base ++ '.' :: name, []) := by
  rcases splitSelector_cases (base ++ '.' :: name) with
    whole | ⟨base', selected, _, same, named, filled, short⟩
  · exact .inr whole
  · have cut := splitLast?_append '.' base name undotted
    rw [same, Component.suffix_of_ne_nil filled,
      splitLast?_append '.' base' _ (Component.dot_notMem_letters selected)] at cut
    cases cut
    exact .inl ⟨selected, rfl, filled, short, named⟩

/-- A selector is taken off what it is written behind. -/
theorem splitSelector_suffix (base : Text) (selected : List Component) (named : base ≠ [])
    (filled : selected ≠ []) (short : selected.length ≤ 4) :
    splitSelector (base ++ Component.suffix selected) = (base, selected) := by
  have count : (Component.letters selected).length = selected.length := List.length_map _
  have letters : Component.letters selected ≠ [] := by
    rw [Component.letters]
    simpa using filled
  rw [Component.suffix_of_ne_nil filled, splitSelector,
    splitLast?_append '.' base _ (Component.dot_notMem_letters selected)]
  simp only [componentLetters?_letters]
  rw [if_neg]
  simp only [Bool.or_eq_true, List.isEmpty_iff, decide_eq_true_eq, not_or]
  exact ⟨⟨named, letters⟩, by omega⟩

end Operand
end ShaderLift
