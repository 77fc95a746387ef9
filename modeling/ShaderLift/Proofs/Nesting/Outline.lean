import ShaderLift.Body.Turn
import ShaderLift.Proofs.Nesting.Line

namespace ShaderLift

/-- The depth, the open blocks and the statements of a context. -/
structure Outline where
  depth : Int
  /-- The open blocks, innermost first. -/
  blocks : List Block
  statements : List Statement

def Context.outline (c : Context) : Outline := ⟨c.depth, c.blocks, c.statements⟩

def Decoder.outline (d : Decoder) : Outline := d.context.outline

namespace Outline

/-- One more statement at the current depth. -/
def add (o : Outline) (text : Text) : Outline :=
  { o with statements := o.statements ++ [.ofText o.depth.toNat text] }

/-- The outline at another depth. -/
def shift (o : Outline) (levels : Int) : Outline := { o with depth := o.depth + levels }

def enter (o : Outline) (block : Block) : Outline :=
  { o with blocks := block :: o.blocks, depth := o.depth + 1 }

def leave (o : Outline) : Outline := { o with blocks := o.blocks.tail, depth := o.depth - 1 }

/-- Leaves a label that is innermost, if one is. -/
def leaveLabel (o : Outline) : Outline :=
  if o.blocks.head? = some .label then o.leave else o

/-- Only statements at the current depth are added, and none of them matters for the nesting. -/
def Appends (o reached : Outline) : Prop :=
  reached.depth = o.depth ∧ reached.blocks = o.blocks ∧
    ∃ added, reached.statements = o.statements ++ added ∧
      ∀ s ∈ added, PlainText s.body ∧ (s = .blank ∨ s.depth = o.depth.toNat)

namespace Appends

variable {o middle reached : Outline}

theorem refl (o : Outline) : Appends o o := ⟨rfl, rfl, [], by simp, by simp⟩

theorem trans (first : Appends o middle) (second : Appends middle reached) :
    Appends o reached := by
  obtain ⟨sameDepth, sameBlocks, added, extended, plain⟩ := first
  obtain ⟨sameDepth', sameBlocks', added', extended', plain'⟩ := second
  refine ⟨sameDepth'.trans sameDepth, sameBlocks'.trans sameBlocks, added ++ added', ?_, ?_⟩
  · rw [extended', extended, List.append_assoc]
  · rw [sameDepth] at plain'
    intro s inside
    rcases List.mem_append.mp inside with early | late
    · exact plain s early
    · exact plain' s late

theorem single (o : Outline) (s : Statement) (plain : PlainText s.body)
    (level : s = .blank ∨ s.depth = o.depth.toNat) :
    Appends o { o with statements := o.statements ++ [s] } := by
  refine ⟨rfl, rfl, [s], rfl, fun t inside => ?_⟩
  rw [List.mem_singleton.mp inside]
  exact ⟨plain, level⟩

end Appends
end Outline

namespace Statement

theorem body_ofText (depth : Nat) (text : Text) : (ofText depth text).body = text := by
  unfold ofText
  split
  · exact (List.isEmpty_iff.mp ‹_›).symm
  · rfl

theorem level_ofText (depth : Nat) (text : Text) :
    ofText depth text = blank ∨ (ofText depth text).depth = depth := by
  unfold ofText
  split
  · exact .inl rfl
  · exact .inr rfl

end Statement

theorem Outline.appends_add (o : Outline) (text : Text) (plain : PlainText text) :
    o.Appends (o.add text) := by
  refine .single o _ ?_ (Statement.level_ofText _ _)
  rw [Statement.body_ofText]
  exact plain

/-- The kinds of marker: those of a block's beginning, alternative and end, a label, what leaves a
label, what leaves one only inside a block, and the braces around the statements of a single
instruction. -/
inductive Marker where
  | none
  | opening (block : Block)
  | alternative
  | closing (block : Block)
  | label
  | exit
  | innerExit
  | scope

/-- The marker that the instructions of a family are. -/
def Family.marker : Family → Marker
  | ifMarker => .opening .branch
  | loop => .opening .loop
  | switch => .opening .select
  | elseMarker => .alternative
  | endIf => .closing .branch
  | endLoop => .closing .loop
  | endSwitch => .closing .select
  | caseLabel => .label
  | defaultLabel => .label
  | breakOut => .exit
  | leave => .innerExit
  | atomicReturning => .scope
  | _ => .none

namespace Marker

/-- The outline in which a marker looks for the block to close: the end of a switch leaves an open
label before. -/
def beforeClosing (block : Block) (o : Outline) : Outline :=
  if block = .select then o.leaveLabel else o

/-- What a completed instruction does, as the marker that it is. -/
def Effect (strict : Bool) : Marker → Outline → Outline → Prop
  | none, o, reached => o.Appends reached
  | opening block, o, reached =>
    ∃ head, PlainText head ∧ reached = ((o.add head).add "\x7b").enter block
  | alternative, o, reached =>
    (o.blocks.head? = some .branch →
      reached = ((((o.shift (-1)).add "\x7d").add "else").add "\x7b").shift 1) ∧
    (o.blocks.head? ≠ some .branch → strict = false ∧ reached = o)
  | closing block, o, reached =>
    (strict = true → (beforeClosing block o).blocks.head? = some block) ∧
      reached = (beforeClosing block o).leave.add "\x7d"
  | label, o, reached =>
    ∃ text, LineKind.ofLine text = .label ∧ reached = (o.leaveLabel.add text).enter .label
  | exit, o, reached => ∃ text, LineKind.ofLine text = .exit ∧ reached = (o.add text).leaveLabel
  | innerExit, o, reached =>
    (0 < o.depth → ∃ text, LineKind.ofLine text = .exit ∧ reached = (o.add text).leaveLabel) ∧
      (¬ 0 < o.depth → reached = o)
  | scope, o, reached =>
    ∃ inner, ((o.add "\x7b").shift 1).Appends inner ∧ reached = (inner.shift (-1)).add "\x7d"

/-- Whether a marker closes a block where none is open. -/
def isStray : Marker → Outline → Bool
  | closing block, o => (beforeClosing block o).blocks.isEmpty
  | _, _ => false

end Marker
end ShaderLift
