import ShaderLift.Proofs.Operand.Bracket
import ShaderLift.Proofs.Text.Ends

namespace ShaderLift.Operand

/-- How many round and square brackets a text leaves open. -/
def argumentDepth (text : Text) : Int := bracketDepth ['(', '['] [')', ']'] text

theorem argumentDepth_append (front rest : Text) :
    argumentDepth (front ++ rest) = argumentDepth front + argumentDepth rest :=
  bracketDepth_append _ _ front rest

theorem argumentDepth_eq_zero {text : Text} (plain : ∀ c ∈ text, c ∉ ['(', '[', ')', ']']) :
    argumentDepth text = 0 := by
  induction text with
  | nil => rfl
  | cons c rest ih =>
    obtain ⟨here, later⟩ := List.forall_mem_cons.mp plain
    have step : bracketStep ['(', '['] [')', ']'] c = 0 := by
      simp only [List.mem_cons, List.not_mem_nil, or_false, not_or] at here
      simp [bracketStep, here]
    have rests : bracketDepth ['(', '['] [')', ']'] rest = 0 := ih later
    rw [argumentDepth, bracketDepth, step, rests]
    rfl

theorem argumentsFrom_step (depth : Int) (current : Text) (c : Char) (rest : Text) :
    argumentsFrom depth current (c :: rest) =
      if c = ',' ∧ depth = 0 then Text.trim current :: argumentsFrom 0 [] rest
      else argumentsFrom (depth + argumentDepth [c]) (current ++ [c]) rest := by
  have inside : (if c = '(' || c = '[' then depth + 1
      else if c = ')' || c = ']' then depth - 1 else depth) = depth + argumentDepth [c] := by
    simp only [argumentDepth, bracketDepth, bracketStep, List.mem_cons, List.not_mem_nil, or_false,
      Bool.or_eq_true, decide_eq_true_eq, Int.add_zero]
    split
    · rfl
    · split
      · rfl
      · exact (Int.add_zero depth).symm
  rw [argumentsFrom, inside]
  by_cases comma : c = ','
  · subst comma
    have level : depth + argumentDepth [','] = depth := Int.add_zero depth
    rw [level]
    by_cases zero : depth = 0 <;> simp [zero]
  · simp [comma]

/-- A text whose commas all stand inside brackets belongs to one argument. -/
theorem argumentsFrom_piece (piece rest : Text) (depth : Int) (current : Text)
    (kept : ∀ front tail, piece = front ++ ',' :: tail → depth + argumentDepth front ≠ 0) :
    argumentsFrom depth current (piece ++ rest) =
      argumentsFrom (depth + argumentDepth piece) (current ++ piece) rest := by
  induction piece generalizing depth current with
  | nil =>
    rw [List.nil_append, List.append_nil]
    exact congrArg (argumentsFrom · current rest) (Int.add_zero depth).symm
  | cons c piece ih =>
    have other : ¬(c = ',' ∧ depth = 0) := by
      rintro ⟨rfl, rfl⟩
      exact kept [] piece rfl rfl
    have whole : argumentDepth (c :: piece) = argumentDepth [c] + argumentDepth piece :=
      argumentDepth_append [c] piece
    rw [List.cons_append, argumentsFrom_step, if_neg other, ih, whole, Int.add_assoc,
      List.append_assoc, List.singleton_append]
    intro front tail split
    have longer := kept (c :: front) tail (by rw [split]; rfl)
    rwa [← List.singleton_append, argumentDepth_append, ← Int.add_assoc] at longer

/-- A text without brackets and commas belongs to one argument. -/
theorem argumentsFrom_plain {part : Text} (plain : ∀ c ∈ part, c ∉ ['(', '[', ')', ']', ','])
    (rest : Text) (depth : Int) (current : Text) :
    argumentsFrom depth current (part ++ rest) = argumentsFrom depth (current ++ part) rest := by
  rw [argumentsFrom_piece, argumentDepth_eq_zero, Int.add_zero]
  · intro c inside bracket
    exact plain c inside (List.mem_append_left [','] bracket)
  · rintro front tail rfl
    exact absurd (by simp) (plain ',' (by simp))

/-- What can be an argument: it has brackets that are nested, commas only inside them, and no blanks
at its ends. -/
structure IsArgument (text : Text) : Prop where
  filled : text ≠ []
  starts : ∀ c, text.head? = some c → Text.isBlank c = false
  ends : ∀ c, text.getLast? = some c → Text.isBlank c = false
  balanced : IsBalanced ['(', '['] [')', ']'] text
  commas : ∀ front, front ++ [','] <+: text → 0 < argumentDepth front

/-- Arguments one after the other, with commas between them and any blanks around these. -/
inductive Joined : List Text → Text → Prop
  | none : Joined [] []
  | one (argument : Text) : Joined [argument] argument
  | more {argument next before after text : Text} {rest : List Text}
      (blank : Text.IsGap (before ++ after)) (others : Joined (next :: rest) text) :
      Joined (argument :: next :: rest) (argument ++ (before ++ ',' :: (after ++ text)))

theorem plain_of_isGap {gap : Text} (blank : gap.IsGap) :
    ∀ c ∈ gap, c ∉ ['(', '[', ')', ']', ','] := by
  intro c inside mark
  have marks : ['(', '[', ')', ']', ','].any Text.isBlank = false := by decide
  exact List.any_eq_false.mp marks c mark (blank c inside)

/-- Blanks that are read already stand around the first argument. -/
theorem argumentsFrom_joined {arguments : List Text} {text gap : Text}
    (each : ∀ argument ∈ arguments, IsArgument argument) (joined : Joined arguments text)
    (blank : gap.IsGap) : argumentsFrom 0 gap text = arguments := by
  have passes {argument : Text} (proper : IsArgument argument) (gap rest : Text) :
      argumentsFrom 0 gap (argument ++ rest) = argumentsFrom 0 (gap ++ argument) rest := by
    have closed : argumentDepth argument = 0 := proper.balanced.closed
    rw [argumentsFrom_piece, closed, Int.add_zero]
    intro front tail split
    have inside := proper.commas front ⟨tail, by rw [split, List.append_assoc]; rfl⟩
    omega
  have trimmed {argument front back : Text} (proper : IsArgument argument)
      (blank : Text.IsGap (front ++ back)) : Text.trim (front ++ (argument ++ back)) = argument :=
    Text.trim_padded blank proper.filled proper.starts proper.ends
  induction joined generalizing gap with
  | none => rw [argumentsFrom, Text.trim, blank.trimStart_eq]; rfl
  | one argument =>
    have proper := each argument List.mem_cons_self
    have whole := passes proper gap []
    have found := @trimmed argument gap [] proper (by rwa [List.append_nil])
    rw [List.append_nil] at whole found
    rw [whole, argumentsFrom, found, if_neg (by simpa using proper.filled)]
  | @more argument next before after text rest around others ih =>
    obtain ⟨proper, later⟩ := List.forall_mem_cons.mp each
    have behind : before.IsGap := fun c inside => around c (List.mem_append_left _ inside)
    have ahead : after.IsGap := fun c inside => around c (List.mem_append_right _ inside)
    rw [passes proper, argumentsFrom_plain (plain_of_isGap behind), argumentsFrom_step,
      if_pos ⟨rfl, rfl⟩, argumentsFrom_plain (plain_of_isGap ahead), List.nil_append, ih later ahead,
      List.append_assoc, trimmed proper (List.forall_mem_append.mpr ⟨blank, behind⟩)]

/-- A character that neither ends an argument nor opens or closes a bracket. -/
def IsInner (c : Char) : Prop := Text.isBlank c = false ∧ c ∉ [',', '(', ')', '[', ']']

theorem IsArgument.of_inner {value : Text} (filled : value ≠ []) (inner : ∀ c ∈ value, IsInner c) :
    IsArgument value := by
  have plain : ∀ c ∈ value, c ∉ ['(', '[', ')', ']', ','] := by
    intro c inside
    simpa [not_or, and_assoc, and_comm, and_left_comm] using (inner c inside).2
  have level {front : Text} (starts : front <+: value) : argumentDepth front = 0 :=
    argumentDepth_eq_zero fun c inside bracket =>
      plain c (starts.subset inside) (List.mem_append_left [','] bracket)
  refine ⟨filled, fun c starts => (inner c (List.mem_of_head? starts)).1,
    fun c ends => (inner c (List.mem_of_getLast? ends)).1,
    ⟨fun front starts => Int.le_of_eq (level starts).symm, level List.prefix_rfl⟩, ?_⟩
  exact fun front starts => absurd (by simp) (plain ',' (starts.subset (by simp)))

theorem joined_commaList (values : List Text) : Joined values (Text.commaList values) := by
  induction values with
  | nil => exact .none
  | cons value rest ih =>
    cases rest with
    | nil => exact .one value
    | cons next others =>
      have whole : Text.commaList (value :: next :: others) =
          value ++ ([] ++ ',' :: ([' '] ++ Text.commaList (next :: others))) := by
        simp [Text.commaList, Text.join]
      rw [whole]
      exact .more (List.all_eq_true.mp rfl) ih

theorem splitArguments_commaList {values : List Text}
    (each : ∀ value ∈ values, value ≠ [] ∧ ∀ c ∈ value, IsInner c) :
    splitArguments (Text.commaList values) = values :=
  argumentsFrom_joined (fun value inside => .of_inner (each value inside).1 (each value inside).2)
    (joined_commaList values) .nil

/-- A text cut into pieces at its commas of depth zero and at no others, where some brackets are
open in front of it. The depth of a comma is that of what stands in front of it. -/
structure CutsInto (depth : Int) (text : Text) (pieces : List Text) : Prop where
  whole : Text.join "," pieces = text
  cut : ∀ early late, pieces = early ++ late → early ≠ [] → late ≠ [] →
    depth + argumentDepth (Text.join "," early) = 0
  kept : ∀ early late front tail, pieces = early ++ (front ++ ',' :: tail) :: late →
    depth + argumentDepth (Text.join "," (early ++ [front])) ≠ 0

theorem join_cons_cons (c : Char) (first : Text) (rest : List Text) :
    Text.join "," ((c :: first) :: rest) = c :: Text.join "," (first :: rest) := by
  cases rest <;> simp [Text.join]

theorem argumentDepth_join_nil (piece : Text) (pieces : List Text) :
    argumentDepth (Text.join "," ([] :: piece :: pieces)) =
      argumentDepth (Text.join "," (piece :: pieces)) := Int.zero_add _

namespace CutsInto

variable {depth : Int} {text first : Text} {rest : List Text}

theorem nil (depth : Int) : CutsInto depth [] [[]] where
  whole := rfl
  cut early late split some others := by
    cases early with
    | nil => exact absurd rfl some
    | cons _ early =>
      have none := (List.cons.inj split).2
      exact absurd (List.append_eq_nil_iff.mp none.symm).2 others
  kept early late front tail split := by
    cases early <;> simp at split

/-- A comma of depth zero starts a piece. -/
theorem comma (cuts : CutsInto 0 text (first :: rest)) :
    CutsInto 0 (',' :: text) ([] :: first :: rest) where
  whole := congrArg (',' :: ·) cuts.whole
  cut early late split some others := by
    cases early with
    | nil => exact absurd rfl some
    | cons _ early =>
      obtain ⟨rfl, same⟩ := List.cons.inj split
      cases early with
      | nil => rfl
      | cons piece early =>
        rw [argumentDepth_join_nil]
        exact cuts.cut (piece :: early) late same (List.cons_ne_nil _ _) others
  kept early late front tail split := by
    cases early with
    | nil => simp at split
    | cons _ early =>
      obtain ⟨rfl, same⟩ := List.cons.inj split
      have deep := cuts.kept early late front tail same
      cases early with
      | nil => rwa [List.singleton_append, argumentDepth_join_nil]
      | cons piece early => rwa [List.cons_append, List.cons_append, argumentDepth_join_nil]

/-- Any other character belongs to the first piece. -/
theorem grow {c : Char} (other : ¬(c = ',' ∧ depth = 0))
    (cuts : CutsInto (depth + argumentDepth [c]) text (first :: rest)) :
    CutsInto depth (c :: text) ((c :: first) :: rest) := by
  have deeper (text : Text) : depth + argumentDepth (c :: text) =
      depth + argumentDepth [c] + argumentDepth text := by
    rw [← List.singleton_append, argumentDepth_append, Int.add_assoc]
  refine ⟨?_, fun early late split some others => ?_, fun early late front tail split => ?_⟩
  · rw [join_cons_cons, cuts.whole]
  · cases early with
    | nil => exact absurd rfl some
    | cons _ early =>
      obtain ⟨rfl, rfl⟩ := List.cons.inj split
      rw [join_cons_cons, deeper]
      exact cuts.cut (first :: early) late rfl (List.cons_ne_nil _ _) others
  · cases early with
    | nil =>
      obtain ⟨same, rfl⟩ := List.cons.inj split
      cases front with
      | nil =>
        intro zero
        exact other ⟨(List.cons.inj same).1, (Int.add_zero depth).symm.trans zero⟩
      | cons _ front =>
        obtain ⟨rfl, rfl⟩ := List.cons.inj same
        have deep := cuts.kept [] rest front tail rfl
        rwa [List.nil_append, join_cons_cons, deeper]
    | cons _ early =>
      obtain ⟨rfl, rfl⟩ := List.cons.inj split
      have deep := cuts.kept (first :: early) late front tail rfl
      rwa [List.cons_append, join_cons_cons, deeper]

end CutsInto

/-- The arguments that are given back: an empty one at the end is dropped. -/
def dropEmptyEnd : List Text → List Text
  | [] => []
  | [text] => if text.isEmpty then [] else [text]
  | text :: next :: rest => text :: dropEmptyEnd (next :: rest)

theorem exists_cutsInto (text : Text) (depth : Int) (current : Text) :
    ∃ first rest, CutsInto depth text (first :: rest) ∧ argumentsFrom depth current text =
      dropEmptyEnd (Text.trim (current ++ first) :: rest.map Text.trim) := by
  induction text generalizing depth current with
  | nil =>
    refine ⟨[], [], .nil depth, ?_⟩
    rw [List.append_nil]
    rfl
  | cons c text ih =>
    by_cases ends : c = ',' ∧ depth = 0
    · obtain ⟨first, rest, cuts, found⟩ := ih 0 []
      obtain ⟨rfl, rfl⟩ := ends
      refine ⟨[], first :: rest, cuts.comma, ?_⟩
      rw [argumentsFrom_step, if_pos ⟨rfl, rfl⟩, found, List.append_nil]
      rfl
    · obtain ⟨first, rest, cuts, found⟩ := ih (depth + argumentDepth [c]) (current ++ [c])
      refine ⟨c :: first, rest, cuts.grow ends, ?_⟩
      rw [argumentsFrom_step, if_neg ends, found, List.append_assoc]
      rfl

theorem exists_pieces (text : Text) :
    ∃ first rest, CutsInto 0 text (first :: rest) ∧
      splitArguments text = dropEmptyEnd ((first :: rest).map Text.trim) :=
  exists_cutsInto text 0 []

theorem mem_dropEmptyEnd {texts : List Text} {text : Text} (filled : text ≠ [])
    (inside : text ∈ texts) : text ∈ dropEmptyEnd texts := by
  induction texts with
  | nil => cases inside
  | cons first rest ih =>
    cases rest with
    | nil =>
      obtain rfl := List.mem_singleton.mp inside
      rw [dropEmptyEnd, if_neg (by simpa using filled)]
      exact inside
    | cons next others =>
      rcases List.mem_cons.mp inside with rfl | later
      · exact List.mem_cons_self
      · exact List.mem_cons_of_mem _ (ih later)

/-- Every piece with a visible character becomes an argument. -/
theorem trim_mem_splitArguments {c : Char} (visible : Text.isBlank c = false) {text piece : Text}
    {pieces : List Text} (found : splitArguments text = dropEmptyEnd (pieces.map Text.trim))
    (among : piece ∈ pieces) (inside : c ∈ piece) :
    Text.trim piece ∈ splitArguments text ∧ c ∈ Text.trim piece := by
  have kept := Text.mem_trim c piece visible inside
  rw [found]
  exact ⟨mem_dropEmptyEnd (List.ne_nil_of_mem kept) (List.mem_map_of_mem among), kept⟩

theorem exists_argument_of_mem {c : Char} (visible : Text.isBlank c = false) (other : c ≠ ',')
    {text : Text} (inside : c ∈ text) : ∃ argument ∈ splitArguments text, c ∈ argument := by
  obtain ⟨first, rest, cuts, found⟩ := exists_pieces text
  rw [← cuts.whole] at inside
  rcases Text.mem_or_mem_of_mem_join inside with mark | ⟨piece, among, within⟩
  · exact absurd (List.mem_singleton.mp mark) other
  · exact ⟨_, trim_mem_splitArguments visible found among within⟩

/-- The first argument starts where the text does. -/
theorem exists_first_argument {c : Char} (visible : Text.isBlank c = false) (other : c ≠ ',')
    (rest : Text) : ∃ argument ∈ splitArguments (c :: rest), argument.head? = some c := by
  obtain ⟨first, others, cuts, found⟩ := exists_pieces (c :: rest)
  have whole := cuts.whole
  cases first with
  | nil =>
    cases others with
    | nil => cases whole
    | cons next others => exact absurd (List.cons.inj whole).1.symm other
  | cons d first =>
    rw [join_cons_cons] at whole
    obtain rfl := (List.cons.inj whole).1
    refine ⟨_, (trim_mem_splitArguments visible found List.mem_cons_self List.mem_cons_self).1, ?_⟩
    rw [← List.nil_append (d :: first), Text.trim_gap_append [] first d .nil visible]
    rfl

end ShaderLift.Operand
