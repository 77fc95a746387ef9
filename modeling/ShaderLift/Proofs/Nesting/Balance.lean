import ShaderLift.Proofs.Nesting.Outline

namespace ShaderLift

/-- What a block contributes to the marks around a line. -/
def Block.mark : Block → Mark
  | label => .label
  | _ => .brace

namespace Outline

/-- The depth is the number of marks, and the statements so far leave just these open. -/
def Follows (o : Outline) (marks : List Mark) : Prop :=
  o.depth = marks.length ∧ Nested [] o.statements marks

/-- In a strictly nested outline, the marks are those of the open blocks. -/
def IsNested (o : Outline) : Prop := o.Follows (o.blocks.map Block.mark)

namespace Follows

variable {o reached : Outline} {marks outer : List Mark} {text : Text}

/-- The statements go on with a line of any kind, at the depth of the marks around it. -/
theorem add (outer : List Mark) (nested : Nested [] o.statements marks)
    (around : Mark.around? (.ofLine text) marks = some outer) (level : o.depth = outer.length) :
    Nested [] (o.add text).statements (Mark.behind (.ofLine text) outer) := by
  have stands := Statement.level_ofText outer.length text
  have single := Nested.single (s := .ofText outer.length text)
    (by rw [Statement.body_ofText]; exact around) stands
  rw [Statement.body_ofText] at single
  have whole := nested.append single
  rwa [show outer.length = o.depth.toNat by rw [level, Int.toNat_natCast]] at whole

theorem plain (follows : o.Follows marks) (appended : o.Appends reached) :
    reached.Follows marks := by
  obtain ⟨sameDepth, _, added, extended, each⟩ := appended
  obtain ⟨level, nested⟩ := follows
  refine ⟨sameDepth.trans level, ?_⟩
  rw [extended]
  refine nested.append (.plain fun s inside => ?_)
  have here := each s inside
  rwa [level, Int.toNat_natCast] at here

theorem opening (follows : o.Follows marks) :
    ((o.add "\x7b").shift 1).Follows (.brace :: marks) := by
  obtain ⟨level, nested⟩ := follows
  refine ⟨?_, add marks nested rfl level⟩
  simp only [shift, Outline.add, level, List.length_cons, Int.natCast_add, Int.cast_ofNat_Int]

theorem closing (nested : Nested [] o.statements marks)
    (inner : Mark.leaveLabel marks = .brace :: outer) (level : o.depth = outer.length) :
    (o.add "\x7d").Follows outer := by
  refine ⟨level, add outer nested ?_ level⟩
  change Mark.around? .closing marks = some outer
  rw [Mark.around?, inner]

end Follows

/-- Marks in front of which a label has been left are those of the outline that has left it. -/
theorem leaveLabel_marks (o : Outline) :
    o.leaveLabel.blocks.map Block.mark = Mark.leaveLabel (o.blocks.map Block.mark) := by
  unfold leaveLabel
  rcases o with ⟨depth, _ | ⟨_ | _ | _ | _ | _, rest⟩, statements⟩ <;> rfl

theorem leaveLabel_statements (o : Outline) : o.leaveLabel.statements = o.statements := by
  unfold leaveLabel
  split <;> rfl

/-- By how much the depth is above the number of open blocks. -/
def excess (o : Outline) : Int := o.depth - o.blocks.length

@[simp] theorem excess_add (o : Outline) (text : Text) : (o.add text).excess = o.excess := rfl

@[simp] theorem excess_shift (o : Outline) (levels : Int) :
    (o.shift levels).excess = o.excess + levels := by
  simp only [excess, shift]
  omega

@[simp] theorem excess_enter (o : Outline) (block : Block) : (o.enter block).excess = o.excess := by
  simp only [excess, enter, List.length_cons]
  omega

theorem excess_leave (o : Outline) :
    o.leave.excess = o.excess - if o.blocks.isEmpty then 1 else 0 := by
  rcases o with ⟨depth, _ | ⟨block, rest⟩, statements⟩
  · simp only [excess, leave, List.tail_nil, List.isEmpty_nil, if_true]
    omega
  · simp only [excess, leave, List.tail_cons, List.length_cons, List.isEmpty_cons,
      Bool.false_eq_true, if_false]
    omega

@[simp] theorem excess_leaveLabel (o : Outline) : o.leaveLabel.excess = o.excess := by
  unfold leaveLabel
  split
  · rename_i inner
    obtain ⟨rest, whole⟩ := List.head?_eq_some_iff.mp inner
    rw [excess_leave, whole, List.isEmpty_cons]
    simp
  · rfl

theorem IsNested.excess {o : Outline} (nested : o.IsNested) : o.excess = 0 := by
  have level := nested.1
  rw [List.length_map] at level
  rw [Outline.excess, level, Int.sub_self]

theorem IsNested.ofExcess {o : Outline} (level : o.excess = 0)
    (nested : Nested [] o.statements (o.blocks.map Block.mark)) : o.IsNested := by
  refine ⟨?_, nested⟩
  rw [List.length_map]
  rw [Outline.excess] at level
  omega

theorem Appends.excess {o reached : Outline} (appended : o.Appends reached) :
    reached.excess = o.excess := by
  rw [Outline.excess, Outline.excess, appended.1, appended.2.1]

end Outline

namespace Marker

open Outline

variable {o reached : Outline} {marker : Marker}

theorem excess_beforeClosing (block : Block) (o : Outline) :
    (beforeClosing block o).excess = o.excess := by
  unfold beforeClosing
  split <;> simp

theorem beforeClosing_statements (block : Block) (o : Outline) :
    (beforeClosing block o).statements = o.statements := by
  unfold beforeClosing
  split
  · exact leaveLabel_statements o
  · rfl

/-- Where the block to close is innermost, no label is left open in front of it. -/
theorem beforeClosing_marks (block : Block) (o : Outline) (braced : block.mark = .brace)
    (inner : ∃ rest, (beforeClosing block o).blocks = block :: rest) :
    (beforeClosing block o).blocks.map Block.mark =
      Mark.leaveLabel (o.blocks.map Block.mark) := by
  unfold beforeClosing at inner ⊢
  split at inner
  · rw [if_pos ‹_›]
    exact leaveLabel_marks o
  · obtain ⟨rest, whole⟩ := inner
    rw [if_neg ‹_›, whole, List.map_cons, braced]
    rfl

/-- The depth and the number of open blocks change together, except where a block is closed and none
is open. -/
theorem Effect.excess {strict : Bool} (effect : marker.Effect strict o reached) :
    reached.excess = o.excess - if marker.isStray o then 1 else 0 := by
  cases marker with
  | none => simpa [isStray] using Appends.excess effect
  | opening block =>
    obtain ⟨head, _, rfl⟩ := effect
    simp [isStray]
  | alternative =>
    by_cases branch : o.blocks.head? = some .branch
    · rw [effect.1 branch]
      simp only [excess_add, excess_shift, isStray, Bool.false_eq_true, if_false]
      omega
    · rw [(effect.2 branch).2]
      simp [isStray]
  | closing block =>
    rw [effect.2, excess_add, excess_leave, excess_beforeClosing]
    rfl
  | label =>
    obtain ⟨text, _, rfl⟩ := effect
    simp [isStray]
  | exit =>
    obtain ⟨text, _, rfl⟩ := effect
    simp [isStray]
  | innerExit =>
    by_cases inside : 0 < o.depth
    · obtain ⟨text, _, rfl⟩ := effect.1 inside
      simp [isStray]
    · rw [effect.2 inside]
      simp [isStray]
  | scope =>
    obtain ⟨inner, appended, rfl⟩ := effect
    have same := appended.excess
    simp only [excess_shift, excess_add] at same
    simp only [excess_add, excess_shift, isStray, same, Bool.false_eq_true, if_false]
    omega

/-- With strict nesting no block is closed where none is open. -/
theorem Effect.not_stray (effect : marker.Effect true o reached) : marker.isStray o = false := by
  cases marker with
  | closing block =>
    have matching := effect.1 rfl
    rw [isStray]
    cases blocks : (beforeClosing block o).blocks with
    | nil =>
      rw [blocks] at matching
      cases matching
    | cons => rfl
  | _ => rfl

/-- The blocks that a marker opens and closes are such as have braces. -/
def IsBraced : Marker → Prop
  | opening block => block.mark = .brace
  | closing block => block.mark = .brace
  | _ => True

theorem exit_isNested {text : Text} (exits : LineKind.ofLine text = .exit) (nested : o.IsNested) :
    (o.add text).leaveLabel.IsNested := by
  have level : o.excess = 0 := nested.excess
  have added := Follows.add (o.blocks.map Block.mark) nested.2 (by rw [exits]; rfl) nested.1
  rw [exits] at added
  refine .ofExcess ?_ ?_
  · simpa using level
  · rw [leaveLabel_marks, leaveLabel_statements]
    exact added

theorem alternative_isNested (branch : o.blocks.head? = some .branch) (nested : o.IsNested) :
    (((((o.shift (-1)).add "\x7d").add "else").add "\x7b").shift 1).IsNested := by
  have level : o.excess = 0 := nested.excess
  obtain ⟨rest, whole⟩ := List.head?_eq_some_iff.mp branch
  have marks : o.blocks.map Block.mark = .brace :: rest.map Block.mark := by
    rw [whole]
    rfl
  have outer : (o.shift (-1)).depth = (rest.map Block.mark).length := by
    simp only [Outline.excess, whole, List.length_cons] at level
    simp only [shift, List.length_map]
    omega
  have closed : ((o.shift (-1)).add "\x7d").Follows (rest.map Block.mark) :=
    Follows.closing nested.2 (by rw [marks]; rfl) outer
  have behind := (closed.plain (Outline.appends_add _ "else" (by decide))).opening
  rw [← marks] at behind
  exact behind

theorem closing_isNested {block : Block} (braced : block.mark = .brace)
    (matching : (beforeClosing block o).blocks.head? = some block) (nested : o.IsNested) :
    ((beforeClosing block o).leave.add "\x7d").IsNested := by
  have level : o.excess = 0 := nested.excess
  obtain ⟨rest, whole⟩ := List.head?_eq_some_iff.mp matching
  have inner : Mark.leaveLabel (o.blocks.map Block.mark) = .brace :: rest.map Block.mark := by
    rw [← beforeClosing_marks block o braced ⟨rest, whole⟩, whole, List.map_cons, braced]
  have outer : (beforeClosing block o).leave.depth = (rest.map Block.mark).length := by
    have same := excess_beforeClosing block o
    simp only [Outline.excess, whole, List.length_cons] at same level
    simp only [leave, List.length_map]
    omega
  have closed : ((beforeClosing block o).leave.add "\x7d").Follows (rest.map Block.mark) := by
    refine Follows.closing ?_ inner outer
    rw [show (beforeClosing block o).leave.statements = _ from beforeClosing_statements block o]
    exact nested.2
  have left : ((beforeClosing block o).leave.add "\x7d").blocks = rest := by
    simp only [leave, add, whole, List.tail_cons]
  rwa [← left] at closed

theorem label_isNested {text : Text} (labels : LineKind.ofLine text = .label)
    (nested : o.IsNested) : ((o.leaveLabel.add text).enter .label).IsNested := by
  have level : o.excess = 0 := nested.excess
  have outer : o.leaveLabel.depth = (o.leaveLabel.blocks.map Block.mark).length := by
    have same := excess_leaveLabel o
    simp only [Outline.excess] at same level
    rw [List.length_map]
    omega
  have added : Nested [] (o.leaveLabel.add text).statements _ :=
    Follows.add (o.leaveLabel.blocks.map Block.mark)
      (by rw [leaveLabel_statements]; exact nested.2)
      (by rw [labels, leaveLabel_marks]; rfl) outer
  rw [labels] at added
  refine .ofExcess ?_ added
  simpa using level

theorem scope_isNested {inner : Outline} (appended : ((o.add "\x7b").shift 1).Appends inner)
    (nested : o.IsNested) : ((inner.shift (-1)).add "\x7d").IsNested := by
  have within := nested.opening.plain appended
  have outer : (inner.shift (-1)).depth = (o.blocks.map Block.mark).length := by
    have depth := within.1
    simp only [shift, List.length_cons] at depth ⊢
    omega
  have closed : ((inner.shift (-1)).add "\x7d").Follows (o.blocks.map Block.mark) :=
    Follows.closing within.2 rfl outer
  rwa [show o.blocks = ((inner.shift (-1)).add "\x7d").blocks from appended.2.1.symm] at closed

/-- With strict nesting every marker keeps the outline nested. -/
theorem Effect.isNested (braced : marker.IsBraced) (effect : marker.Effect true o reached)
    (nested : o.IsNested) : reached.IsNested := by
  cases marker with
  | none =>
    have onward := Follows.plain nested effect
    rwa [← effect.2.1] at onward
  | opening block =>
    obtain ⟨head, plain, rfl⟩ := effect
    have behind := (nested.plain (o.appends_add head plain)).opening
    rwa [← show block.mark = .brace from braced] at behind
  | alternative =>
    by_cases branch : o.blocks.head? = some .branch
    · rw [effect.1 branch]
      exact alternative_isNested branch nested
    · cases (effect.2 branch).1
  | closing block =>
    obtain ⟨matching, rfl⟩ := effect
    exact closing_isNested braced (matching rfl) nested
  | label =>
    obtain ⟨text, labels, rfl⟩ := effect
    exact label_isNested labels nested
  | exit =>
    obtain ⟨text, exits, rfl⟩ := effect
    exact exit_isNested exits nested
  | innerExit =>
    by_cases inside : 0 < o.depth
    · obtain ⟨text, exits, rfl⟩ := effect.1 inside
      exact exit_isNested exits nested
    · rw [effect.2 inside]
      exact nested
  | scope =>
    obtain ⟨inner, appended, rfl⟩ := effect
    exact scope_isNested appended nested

end Marker

theorem Family.marker_isBraced (family : Family) : family.marker.IsBraced := by
  cases family <;> trivial

end ShaderLift
