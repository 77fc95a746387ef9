import ShaderLift.Proofs.Constant.Address
import ShaderLift.Proofs.Constant.Leaf
import ShaderLift.Proofs.Operand.Relative

namespace ShaderLift

/-- An index as it is written into an access expression: an index register, a number, or what is
computed from them. -/
inductive IndexTerm where
  | register
  | number (n : Nat)
  | sum (left right : IndexTerm)
  | quotient (left right : IndexTerm)
  | remainder (left right : IndexTerm)
  deriving DecidableEq

namespace IndexTerm

/-- The value of an index, given the one that its register holds. -/
def value (held : Nat) : IndexTerm → Nat
  | register => held
  | number n => n
  | sum left right => left.value held + right.value held
  | quotient left right => left.value held / right.value held
  | remainder left right => left.value held % right.value held

def isSingle : IndexTerm → Bool
  | register | number _ => true
  | _ => false

/-- The text of an index, given that of its register. What is divided or divides stands in
parentheses unless it is a single term. -/
def text (view : Text) : IndexTerm → Text
  | register => view
  | number n => Text.ofNat n
  | sum left right => left.text view ++ " + " ++ right.text view
  | quotient left right => grouped left (left.text view) ++ " / " ++ grouped right (right.text view)
  | remainder left right => grouped left (left.text view) ++ " % " ++ grouped right (right.text view)
where
  grouped (term : IndexTerm) (text : Text) : Text :=
    if term.isSingle then text else "(" ++ text ++ ")"

end IndexTerm

/-- An access to an array: a field, the indices behind its name and a selection of components. -/
structure ArrayAccess where
  name : Text
  indices : List IndexTerm
  selected : List Component
  deriving DecidableEq

namespace ArrayAccess

def text (view : Text) (access : ArrayAccess) : Text :=
  access.name ++ Operand.bracketed (access.indices.map (·.text view)) ++
    Component.suffix access.selected

/-- The access with its indices computed. -/
def settled (held : Nat) (access : ArrayAccess) : ArrayAccess :=
  { access with indices := access.indices.map fun index => .number (index.value held) }

/-- Computed indices are written as those of a register of the buffer. -/
theorem text_settled (view : Text) (held : Nat) (access : ArrayAccess) :
    (access.settled held).text view = access.name ++
      indexText (access.indices.map (·.value held)) ++ Component.suffix access.selected := by
  simp only [text, settled, Operand.bracketed, indexText, List.flatMap_map]
  rfl

end ArrayAccess

/-- The components of its register that an entry occupies. -/
def ConstantEntry.occupied (entry : ConstantEntry) : List Component :=
  (Component.all.drop entry.componentOffset).take entry.elementCount

theorem ConstantEntry.mem_occupied_iff (entry : ConstantEntry) (c : Component) :
    c ∈ entry.occupied ↔
      entry.componentOffset ≤ c.index ∧ c.index < entry.componentOffset + entry.elementCount :=
  Component.mem_take_drop_all entry.componentOffset entry.elementCount c

theorem Variable.rows_pos (v : Variable) : 1 ≤ v.registerLayout.rows := by
  unfold registerLayout
  dsimp only
  split
  · exact Nat.le_refl 1
  · split
    · rename_i large
      simp only [Bool.and_eq_true, decide_eq_true_eq] at large
      split <;> dsimp only <;> omega
    · exact Nat.le_refl 1

namespace Declarations

variable {d : Declarations}

theorem HasLeaf.layout_pos {bind : Int} {leaf : LeafField} (has : d.HasLeaf bind leaf) :
    1 ≤ leaf.rows ∧ 1 ≤ leaf.columns := by
  obtain ⟨_, _, _, _, _, has⟩ := has
  obtain ⟨w, rows, columns⟩ := has.exists_layout
  rw [rows, columns]
  exact ⟨w.rows_pos, w.columns_pos⟩

/-- Constants that lie in registers as they should: arrays start with the first component of a
register, and no two registers of leaves share a component of a register of one buffer. -/
structure IsPacked (d : Declarations) : Prop where
  aligned : ∀ bind leaf, d.HasLeaf bind leaf → leaf.dimensions ≠ [] → leaf.component = 0
  disjoint : ∀ bind leaf leaf' position position', d.HasLeaf bind leaf → d.HasLeaf bind leaf' →
    position < shapeCount leaf.shape → position' < shapeCount leaf'.shape →
    leaf.firstSlot + position = leaf'.firstSlot + position' →
    ∀ c, c ∈ (leaf.entryAt position).occupied → c ∈ (leaf'.entryAt position').occupied →
      leaf = leaf' ∧ position = position'

end Declarations

namespace LeafField

variable {leaf : LeafField} {length position : Nat}

/-- The array that a leaf of one dimension is covers the registers of the leaf. -/
theorem shapeCount_shape_array (several : 1 ≤ leaf.rows) (array : leaf.dimensions = [length]) :
    shapeCount leaf.shape = length * leaf.rows := by
  unfold shape
  split
  · simp [array, shapeCount]
  · have single : leaf.rows = 1 := by omega
    simp [array, shapeCount, single]

/-- The access to a leaf of one dimension by an index that counts registers. A matrix takes several
of them, so that the index is divided. -/
def accessBy (leaf : LeafField) (index : IndexTerm) (selected : List Component) : ArrayAccess :=
  { name := leaf.name
    indices :=
      if 1 < leaf.rows then
        [.quotient index (.number leaf.rows), .remainder index (.number leaf.rows)]
      else [index]
    selected := selected.map fun c => Component.cyclic (c.index % leaf.columns) }

/-- The index of a register of a leaf, counted from its first one, when an index register is added. -/
def relativeTerm (relative : Nat) : IndexTerm :=
  if relative = 0 then .register else .sum .register (.number relative)

theorem value_relativeTerm (relative held : Nat) :
    (relativeTerm relative).value held = held + relative := by
  unfold relativeTerm
  split
  · rename_i first
    rw [first]
    rfl
  · rfl

/-- The indices of a register are what its position, divided by the rows, gives. -/
theorem unflatten_shape_array (several : 1 ≤ leaf.rows) (array : leaf.dimensions = [length])
    (inside : position < shapeCount leaf.shape) :
    unflatten position leaf.shape =
      if 1 < leaf.rows then [position / leaf.rows, position % leaf.rows] else [position] := by
  rw [shapeCount_shape_array several array] at inside
  unfold shape
  split
  · have element : position / leaf.rows < length := Nat.div_lt_of_lt_mul (by rwa [Nat.mul_comm])
    simp [array, unflatten, shapeCount, Nat.mod_eq_of_lt element]
  · have single : leaf.rows = 1 := by omega
    rw [single, Nat.mul_one] at inside
    simp [array, unflatten, shapeCount, Nat.mod_eq_of_lt inside]

/-- The access by a computed index is that to the register the index leads to. -/
theorem text_settled_accessBy (several : 1 ≤ leaf.rows) (array : leaf.dimensions = [length])
    (index : IndexTerm) (held : Nat) (inside : index.value held < shapeCount leaf.shape)
    (selected : List Component) (view : Text) :
    ((leaf.accessBy index selected).settled held).text view =
      (leaf.entryAt (index.value held)).expression ++
        Component.suffix (selected.map fun c => Component.cyclic (c.index % leaf.columns)) := by
  have indices : (leaf.accessBy index selected).indices.map (·.value held) =
      unflatten (index.value held) leaf.shape := by
    rw [unflatten_shape_array several array inside]
    unfold accessBy
    dsimp only
    split <;> rfl
  rw [ArrayAccess.text_settled, indices]
  rfl

theorem swizzle_eq (leaf : LeafField) (position : Nat) :
    (leaf.entryAt position).swizzle =
      if (leaf.entryAt position).componentOffset = 0 then []
      else '.' :: Component.letters (leaf.entryAt position).occupied := rfl

theorem x_mem_occupied (used : 1 ≤ leaf.columns)
    (starts : (leaf.entryAt position).componentOffset = 0) :
    .x ∈ (leaf.entryAt position).occupied := by
  rw [ConstantEntry.mem_occupied_iff, starts]
  exact ⟨Nat.le_refl 0, by rw [Nat.zero_add]; exact used⟩

end LeafField

namespace Declarations.IsPacked

variable {d : Declarations} {bind slot : Nat} {leaf : LeafField} {position : Nat}

theorem componentOffset_entryAt (packed : d.IsPacked) (has : d.HasLeaf bind leaf)
    (array : leaf.dimensions ≠ []) (position : Nat) :
    (leaf.entryAt position).componentOffset = 0 := by
  change (if position = 0 then leaf.component else 0) = 0
  rw [packed.aligned _ _ has array, ite_self]

theorem placementAt_mem (returns : d.resolve.fault = none) (has : d.HasLeaf bind leaf)
    (inside : position < shapeCount leaf.shape) :
    leaf.placementAt bind position ∈ d.resolve.registers.constants.placements :=
  (mem_placements_iff_leaf returns _).mpr ⟨bind, leaf, has, position, inside, rfl⟩

/-- A component of an array is counted round the columns of the array. -/
theorem constantSelector_entryAt (packed : d.IsPacked) (has : d.HasLeaf bind leaf)
    (array : leaf.dimensions ≠ []) (position : Nat) (selected : List Component) :
    Registers.constantSelector (leaf.entryAt position) selected =
      Component.suffix (selected.map fun c => Component.cyclic (c.index % leaf.columns)) := by
  have first := packed.componentOffset_entryAt has array position
  have used := has.layout_pos.2
  unfold Registers.constantSelector
  dsimp only
  congr 1
  apply List.map_congr_left
  intro c _
  have count : max (leaf.entryAt position).elementCount 1 = leaf.columns := Nat.max_eq_left used
  rw [first, count, Int.fmod_eq_emod_of_nonneg _ (Int.natCast_nonneg _)]
  congr 1

variable (packed : d.IsPacked) (returns : d.resolve.fault = none) (has : d.HasLeaf bind leaf)
  (array : leaf.dimensions ≠ []) (inside : position < shapeCount leaf.shape)
  (placed : leaf.firstSlot + position = slot)

include packed returns has array inside placed

/-- Only the register of an array itself is listed under the text of its register, and nothing is
listed under this text with a selection that starts in the array. -/
theorem eq_of_key
    {selected : List Component} (starts : ∀ c ∈ selected.head?, c.index < leaf.columns)
    {p : Placement} (among : p ∈ d.resolve.registers.constants.placements)
    (key : p.key = constantText bind slot ++ Component.suffix selected) :
    selected = [] ∧ p = leaf.placementAt bind position := by
  obtain ⟨bind', leaf', has', position', inside', rfl⟩ := (mem_placements_iff_leaf returns p).mp among
  have text : constantText bind' (leaf'.firstSlot + position') ++ (leaf'.entryAt position').swizzle =
      constantText bind slot ++ Component.suffix selected := key
  obtain ⟨rfl, slots, swizzle⟩ := constantText_cancel text
  have first := packed.componentOffset_entryAt has array position
  have apart := packed.disjoint _ leaf leaf' position position' has has' inside inside'
    (placed.trans slots.symm)
  rw [LeafField.swizzle_eq] at swizzle
  by_cases start : (leaf'.entryAt position').componentOffset = 0
  · obtain ⟨rfl, rfl⟩ := apart .x (LeafField.x_mem_occupied has.layout_pos.2 first)
      (LeafField.x_mem_occupied has'.layout_pos.2 start)
    rw [if_pos start] at swizzle
    cases selected with
    | nil => exact ⟨rfl, rfl⟩
    | cons c rest => cases swizzle
  · rw [if_neg start] at swizzle
    cases selected with
    | nil => cases swizzle
    | cons c rest =>
      have own := Component.letters_inj (List.cons.inj swizzle).2
      have here : c ∈ (leaf.entryAt position).occupied := by
        rw [ConstantEntry.mem_occupied_iff, first, Nat.zero_add]
        exact ⟨Nat.zero_le _, starts c rfl⟩
      obtain ⟨rfl, rfl⟩ := apart c here (own ▸ List.mem_cons_self ..)
      exact absurd first start

/-- The entry over a selection that starts in an array is the array's. -/
theorem constantOver?_entriesAt
    {c : Component} (rest : List Component) (starts : c.index < leaf.columns) :
    Registers.constantOver? (d.resolve.registers.constants.entriesAt bind slot) (c :: rest) =
      some (leaf.entryAt position) := by
  have first := packed.componentOffset_entryAt has array position
  have here : (leaf.entryAt position).componentOffset ≤ c.index ∧
      c.index < (leaf.entryAt position).componentOffset + leaf.columns := by
    rw [first, Nat.zero_add]
    exact ⟨Nat.zero_le _, starts⟩
  refine Registers.constantOver?_of_only (placementAt_mem returns has inside) rfl placed rest here ?_
  intro q among bound slots covers
  obtain ⟨bind', leaf', has', position', inside', rfl⟩ := (mem_placements_iff_leaf returns q).mp among
  have bound : bind' = bind := bound
  subst bound
  obtain ⟨rfl, rfl⟩ := packed.disjoint _ leaf leaf' position position' has has' inside inside'
    (placed.trans slots.symm) c ((ConstantEntry.mem_occupied_iff _ c).mpr here)
    ((ConstantEntry.mem_occupied_iff _ c).mpr covers)
  rfl

/-- A register of an array that is reached by its number. -/
theorem findConstant?_number (selected : List Component) (short : selected.length ≤ 4)
    (starts : ∀ c ∈ selected.head?, c.index < leaf.columns) :
    Registers.findConstant? d.resolve.registers.constants
        (constantText bind slot ++ Component.suffix selected) =
      .ok (some ((leaf.entryAt position).expression ++
        Component.suffix (selected.map fun c => Component.cyclic (c.index % leaf.columns)))) := by
  have listed := placementAt_mem returns has inside
  have only {p : Placement} (among : p ∈ d.resolve.registers.constants.placements) :=
    packed.eq_of_key returns has array inside placed starts among
  cases selected with
  | nil =>
    have key : (leaf.placementAt bind position).key = constantText bind slot ++ Component.suffix [] := by
      have none : (leaf.entryAt position).swizzle = [] :=
        if_pos (packed.componentOffset_entryAt has array position)
      rw [← placed]
      exact congrArg (constantText bind (leaf.firstSlot + position) ++ ·) none
    have found : d.resolve.registers.constants.registers.get?
        (constantText bind slot ++ Component.suffix []) = some (leaf.entryAt position) := by
      rw [registers_resolve returns]
      apply Table.get?_ofFirsts_of_unique
      · exact List.mem_map.mpr ⟨_, listed, congrArg (·, leaf.entryAt position) key⟩
      · intro other among
        obtain ⟨p, listed, same⟩ := List.mem_map.mp among
        obtain ⟨key, rfl⟩ := Prod.mk.inj same
        rw [(only listed key).2]
        rfl
    unfold Registers.findConstant?
    rw [found]
    exact congrArg (fun text => Except.ok (some text)) (List.append_nil _).symm
  | cons c rest =>
    have unlisted : d.resolve.registers.constants.registers.get?
        (constantText bind slot ++ Component.suffix (c :: rest)) = none := by
      rw [registers_resolve returns]
      apply Table.get?_ofFirsts_eq_none
      intro entry among
      obtain ⟨p, listed, same⟩ := List.mem_map.mp among
      cases (only listed (Prod.mk.inj same).1).1
    obtain ⟨bindWritable, slotWritable⟩ := isWritable_placement returns listed
    change Text.isWritable bind = true at bindWritable
    change Text.isWritable (leaf.firstSlot + position) = true at slotWritable
    rw [placed] at slotWritable
    simp only [Text.isWritable, decide_eq_true_eq, Int.natAbs_natCast] at bindWritable slotWritable
    rw [Registers.findConstant?_constantText bind slot bindWritable slotWritable _
      (List.cons_ne_nil c rest) short unlisted,
      packed.constantOver?_entriesAt returns has array inside placed rest (starts c rfl)]
    rw [Option.map_some, packed.constantSelector_entryAt has array position]

end Declarations.IsPacked

/-- The text of a register of a buffer whose number is added to what an index register holds. -/
def relativeConstantText (bind : Nat) (register : Text) (offset : Nat) : Text :=
  "cb" ++ Text.ofNat bind ++ "[" ++ register ++ " + " ++ Text.ofNat offset ++ "]"

/-- A register that an index can be relative to, as it stands between brackets. -/
structure Operand.IsBracketedRegister (register : Text) : Prop extends IsIndexRegister register where
  unopened : '[' ∉ register
  unclosed : ']' ∉ register

section Relative

variable {selected : List Component} {offset : Nat} {tables : ConstantTables}

variable {register : Text}

theorem relativeConstantText_eq (bind : Nat) (register : Text) (offset : Nat) :
    relativeConstantText bind register offset = ("cb" ++ Text.ofNat bind) ++
      '[' :: ((register ++ ([' '] ++ '+' :: ([' '] ++ Text.ofNat offset))) ++ [']']) := by
  have parts : relativeConstantText bind register offset = ("cb" ++ Text.ofNat bind) ++ ['['] ++
      register ++ [' ', '+', ' '] ++ Text.ofNat offset ++ [']'] := rfl
  rw [parts]
  simp

/-- The selector behind a relative register is taken off it, and none is found in its index. -/
theorem splitSelector_relativeConstantText (bind : Nat) (register : Text) (offset : Nat)
    (short : selected.length ≤ 4) :
    Operand.splitSelector (relativeConstantText bind register offset ++ Component.suffix selected) =
      (relativeConstantText bind register offset, selected) := by
  cases selected with
  | nil =>
    have none : Component.suffix [] = [] := rfl
    rw [none, List.append_nil]
    exact Operand.splitSelector_marked _ fun c => by cases c <;> decide
  | cons c rest =>
    apply Operand.splitSelector_suffix _ _ _ (List.cons_ne_nil c rest) short
    rw [relativeConstantText_eq]
    simp

theorem Registers.constantRegister?_relative (bind : Nat)
    (named : Operand.IsBracketedRegister register) (offset : Nat) :
    constantRegister? (relativeConstantText bind register offset) = some (Text.ofNat bind,
      register ++ ([' '] ++ '+' :: ([' '] ++ Text.ofNat offset))) := by
  have free (mark : Char) (outside : mark ∉ register) (other : mark ∉ [' ', '+', ' '])
      (worded : mark.isDigit = false) :
      mark ∉ register ++ ([' '] ++ '+' :: ([' '] ++ Text.ofNat offset)) := by
    have digits := notMem_ofNat mark worded offset
    simp only [List.mem_cons, List.not_mem_nil, or_false, not_or] at other
    simp only [List.mem_append, List.mem_cons, List.not_mem_nil, or_false, not_or]
    exact ⟨outside, other.1, other.2.1, other.2.2, digits⟩
  rw [relativeConstantText_eq]
  apply constantRegister?_bracketed
  · simp
  · exact free '[' named.unopened (by decide) (by decide)
  · exact free ']' named.unclosed (by decide) (by decide)

theorem Operand.relativeIndex?_added (named : IsIndexRegister register)
    (writable : offset < Text.writableBound) :
    relativeIndex? (register ++ ([' '] ++ '+' :: ([' '] ++ Text.ofNat offset))) =
      .ok (some ⟨"asuint(" ++ register ++ ")", offset⟩) := by
  have blank : ∀ c ∈ [' '] ++ [' '], Text.isBlank c = true := List.all_eq_true.mp rfl
  have relative : IsRelative ([] ++ ((register ++ ([' '] ++ '+' :: ([' '] ++ Text.ofNat offset))) ++ []))
      register (Text.ofNat offset) :=
    .added (by simp) blank named (Text.ofNat_ne_nil offset) fun c inside =>
      Text.isDecimal_digit c (Text.isDigit_ofNat offset c inside)
  have read := relativeIndex?_of_isRelative relative (Text.length_ofNat_le offset writable)
  rw [List.nil_append, List.append_nil, Text.decimalsValue_ofNat] at read
  exact read

/-- A register whose number is relative is looked up among the arrays. -/
theorem Registers.findConstant?_relative {bind : Nat} (named : Operand.IsBracketedRegister register)
    (bindWritable : bind < Text.writableBound) (short : selected.length ≤ 4)
    (unlisted : tables.registers.get?
      (relativeConstantText bind register offset ++ Component.suffix selected) = none) :
    findConstant? tables (relativeConstantText bind register offset ++ Component.suffix selected) =
      findArray? tables bind (register ++ ([' '] ++ '+' :: ([' '] ++ Text.ofNat offset))) selected := by
  have digits : ∀ c ∈ Text.ofNat offset, Text.isDecimal c = true := fun c inside =>
    Text.isDecimal_digit c (Text.isDigit_ofNat offset c inside)
  have trimmed := @Operand.IsIndexRegister.trim_added [] register [' '] [' '] (Text.ofNat offset) []
    named.toIsIndexRegister (by simp) (Text.ofNat_ne_nil offset) digits
  rw [List.nil_append, List.append_nil] at trimmed
  have worded : Text.allDigits (register ++ ([' '] ++ '+' :: ([' '] ++ Text.ofNat offset))) = false :=
    Operand.allDigits_of_plus (by simp)
  unfold findConstant?
  rw [unlisted, splitSelector_relativeConstantText bind register offset short]
  dsimp only
  rw [constantRegister?_relative bind named]
  dsimp only
  rw [Fault.readInteger_ofNat bind bindWritable, trimmed, worded]
  rfl

theorem Registers.findArray?_of_reached {buffer : Int} {index : Text}
    {relative : Operand.RelativeIndex} {array : ConstantArray} {element : Text}
    (read : Operand.relativeIndex? index = .ok (some relative))
    (reached : (tables.arrays.find? fun array => reaches array buffer relative.offset) = some array)
    (written : arrayExpression array relative selected = .ok element) :
    findArray? tables buffer index selected = .ok (some element) := by
  unfold findArray?
  simp only [read, bind, Except.bind, reached, written]
  rfl

end Relative

namespace LeafField

/-- The expression for a register of a leaf of one dimension, relative to an index register. -/
theorem arrayExpression_eq (buffer : Int) {leaf : LeafField} (length : Nat) {position : Nat}
    {offset : Int} (placed : leaf.firstSlot + position = offset)
    (writable : position < Text.writableBound) (view : Text) (selected : List Component) :
    Registers.arrayExpression
        ⟨buffer, leaf.name, leaf.firstSlot, length, leaf.rows, leaf.columns⟩ ⟨view, offset⟩
        selected =
      .ok ((leaf.accessBy (relativeTerm position) selected).text view) := by
  have distance : offset - leaf.firstSlot = position := by omega
  have written : Fault.writeInteger position = .ok (Text.ofNat position) := by
    unfold Fault.writeInteger
    rw [if_pos]
    · rfl
    · simpa [Text.isWritable] using writable
  unfold Registers.arrayExpression accessBy relativeTerm
  dsimp only
  rw [distance, written]
  by_cases first : position = 0
  · by_cases several : 1 < leaf.rows <;>
    simp [first, several, ArrayAccess.text, IndexTerm.text, IndexTerm.text.grouped,
      IndexTerm.isSingle, Operand.bracketed, bind, Except.bind, pure, Except.pure]
  · by_cases several : 1 < leaf.rows <;>
    simp [first, several, ArrayAccess.text, IndexTerm.text, IndexTerm.text.grouped,
      IndexTerm.isSingle, Operand.bracketed, bind, Except.bind, pure, Except.pure, Except.map]

end LeafField

namespace Declarations

variable {d : Declarations} {bind offset : Nat} {leaf : LeafField} {length position : Nat}

/-- The array that a register index reaches is the one whose register it is. -/
theorem IsPacked.find?_arrays (packed : d.IsPacked) (returns : d.resolve.fault = none)
    (has : d.HasLeaf bind leaf) (array : leaf.dimensions = [length])
    (inside : position < shapeCount leaf.shape) (placed : leaf.firstSlot + position = offset) :
    (d.resolve.registers.constants.arrays.find? fun array =>
        Registers.reaches array bind offset) =
      some ⟨bind, leaf.name, leaf.firstSlot, length, leaf.rows, leaf.columns⟩ := by
  have own : leaf.array? bind =
      some ⟨bind, leaf.name, leaf.firstSlot, length, leaf.rows, leaf.columns⟩ := by
    unfold LeafField.array?
    rw [array]
  have count := LeafField.shapeCount_shape_array has.layout_pos.1 array
  apply find?_of_unique
  · exact (mem_arrays_iff_leaf returns _).mpr ⟨bind, leaf, has, own⟩
  · simp only [Registers.reaches, Bool.and_eq_true, decide_eq_true_eq]
    rw [count] at inside
    exact ⟨⟨trivial, by omega⟩, by omega⟩
  · intro other among reached
    obtain ⟨bind', leaf', has', own'⟩ := (mem_arrays_iff_leaf returns other).mp among
    unfold LeafField.array? at own'
    split at own'
    · rename_i length' array'
      cases own'
      simp only [Registers.reaches, Bool.and_eq_true, decide_eq_true_eq] at reached
      obtain ⟨⟨rfl, low⟩, high⟩ := reached
      have count' := LeafField.shapeCount_shape_array has'.layout_pos.1 array'
      have several : leaf.dimensions ≠ [] := by simp [array]
      have several' : leaf'.dimensions ≠ [] := by simp [array']
      obtain ⟨rfl, -⟩ := packed.disjoint _ leaf leaf' position (offset - leaf'.firstSlot).toNat has
        has' inside (by omega) (by omega) .x
        (LeafField.x_mem_occupied has.layout_pos.2 (packed.componentOffset_entryAt has several _))
        (LeafField.x_mem_occupied has'.layout_pos.2
          (packed.componentOffset_entryAt has' several' _))
      cases array.symm.trans array'
      rfl
    · cases own'

/-- No constant is listed under a register whose number is relative. -/
theorem get?_relative (returns : d.resolve.fault = none) (bind : Nat) (register : Text)
    (offset : Nat) (selected : List Component) :
    d.resolve.registers.constants.registers.get?
      (relativeConstantText bind register offset ++ Component.suffix selected) = none := by
  have added : '+' ∈ relativeConstantText bind register offset ++ Component.suffix selected := by
    rw [relativeConstantText_eq]
    simp
  have number (n : Int) : '+' ∉ Text.ofInt n := Text.notMem_ofInt '+' (by decide) (by decide) n
  have absolute (bind slot : Int) : '+' ∉ constantText bind slot := by
    unfold constantText
    simp only [List.mem_append, not_or]
    exact ⟨⟨⟨⟨by decide, number bind⟩, by decide⟩, number slot⟩, by decide⟩
  cases found : d.resolve.registers.constants.registers.get?
      (relativeConstantText bind register offset ++ Component.suffix selected) with
  | none => rfl
  | some entry =>
    exfalso
    obtain ⟨bind', slot', same | ⟨others, same, _⟩⟩ := exists_constantText returns found
    · rw [same] at added
      exact absolute bind' slot' added
    · rw [same, List.mem_append] at added
      rcases added with early | late
      · exact absolute bind' slot' early
      · rcases List.mem_cons.mp late with dot | letter
        · cases dot
        · obtain ⟨c, _, same⟩ := List.mem_map.mp letter
          cases c <;> cases same

/-- A register of an array that is reached relative to an index register. -/
theorem IsPacked.findConstant?_added (packed : d.IsPacked) (returns : d.resolve.fault = none)
    (has : d.HasLeaf bind leaf) (array : leaf.dimensions = [length])
    (inside : position < shapeCount leaf.shape) (placed : leaf.firstSlot + position = offset)
    (near : leaf.firstSlot < 0 → position < Text.writableBound) {register : Text}
    (named : Operand.IsBracketedRegister register) {selected : List Component}
    (short : selected.length ≤ 4) :
    Registers.findConstant? d.resolve.registers.constants
        (relativeConstantText bind register offset ++ Component.suffix selected) =
      .ok (some ((leaf.accessBy (LeafField.relativeTerm position) selected).text
        ("asuint(" ++ register ++ ")"))) := by
  obtain ⟨bindWritable, offsetWritable⟩ :=
    isWritable_placement returns (IsPacked.placementAt_mem returns has inside)
  change Text.isWritable bind = true at bindWritable
  change Text.isWritable (leaf.firstSlot + position) = true at offsetWritable
  rw [placed] at offsetWritable
  simp only [Text.isWritable, decide_eq_true_eq, Int.natAbs_natCast] at bindWritable offsetWritable
  have near : position < Text.writableBound := by
    by_cases ahead : leaf.firstSlot < 0
    · exact near ahead
    · omega
  rw [Registers.findConstant?_relative named bindWritable short
    (get?_relative returns bind register offset selected)]
  exact Registers.findArray?_of_reached
    (Operand.relativeIndex?_added named.toIsIndexRegister offsetWritable)
    (packed.find?_arrays returns has array inside placed)
    (LeafField.arrayExpression_eq bind length placed near _ _)

/-- Whatever an array holds and wherever it starts, the access that is written for a register
relative to an index register, with its indices computed for the value that is held there, is the
access that is written for the register of the buffer this value leads to. Buffers with registers
of their own are packed as soon as each of them is. Every register of a resolved buffer has a number
that can be written, but the index into an array that starts in front of its buffer need not. -/
theorem relative_constant_settles (d : Declarations) (returns : d.resolve.fault = none)
    (packed : d.IsPacked) {bind : Nat} {leaf : LeafField} (has : d.HasLeaf bind leaf) {length : Nat}
    (array : leaf.dimensions = [length]) {register : Text}
    (named : Operand.IsBracketedRegister register) {offset position held : Nat}
    (placed : leaf.firstSlot + position = offset)
    (near : leaf.firstSlot < 0 → position < Text.writableBound)
    (inside : position + held < shapeCount leaf.shape) {selected : List Component}
    (short : selected.length ≤ 4) (starts : ∀ c ∈ selected.head?, c.index < leaf.columns)
    (view : Text) :
    Registers.findConstant? d.resolve.registers.constants
        (relativeConstantText bind register offset ++ Component.suffix selected) =
      .ok (some ((leaf.accessBy (LeafField.relativeTerm position) selected).text
        ("asuint(" ++ register ++ ")"))) ∧
    Registers.findConstant? d.resolve.registers.constants
        (constantText bind (offset + held : Nat) ++ Component.suffix selected) =
      .ok (some (((leaf.accessBy (LeafField.relativeTerm position) selected).settled held).text
        view)) := by
  have index := LeafField.value_relativeTerm position held
  have reached : (LeafField.relativeTerm position).value held < shapeCount leaf.shape := by omega
  have several : leaf.dimensions ≠ [] := by simp [array]
  constructor
  · exact packed.findConstant?_added returns has array (by omega) placed near named short
  · rw [LeafField.text_settled_accessBy has.layout_pos.1 array _ held reached]
    apply packed.findConstant?_number returns has several reached _ selected short starts
    push_cast [index]
    omega

/-- A buffer with an array of matrices, an array of numbers and a vector behind its last one. -/
def skinning : Declarations :=
  { buffers := [⟨"Skin", 1, 172,
      [⟨"float4x4", "bones[2]", 0, 128, .default⟩, ⟨"float", "weights[3]", 128, 36, .default⟩,
        ⟨"float2", "scale", 164, 8, .default⟩]⟩] }

def skinningLeaves : List LeafField :=
  [⟨"bones", "float4x4", 0, [2], 4, 4⟩, ⟨"weights", "float", 128, [3], 1, 1⟩,
    ⟨"scale", "float2", 164, [], 1, 2⟩]

theorem hasLeaf_skinning (bind : Int) (leaf : LeafField) :
    skinning.HasLeaf bind leaf ↔ bind = 1 ∧ leaf ∈ skinningLeaves := by
  have bones : splitArrayName "bones[2]" = .ok ("bones", [2]) := rfl
  have weights : splitArrayName "weights[3]" = .ok ("weights", [3]) := rfl
  have scale : splitArrayName "scale" = .ok ("scale", []) := rfl
  constructor
  · rintro ⟨buffer, inside, rfl, v, member, has⟩
    obtain rfl := List.mem_singleton.mp inside
    refine ⟨rfl, ?_⟩
    cases has with
    | member _ found => cases found
    | own named =>
      rcases List.mem_cons.mp member with rfl | member
      · cases bones.symm.trans named
        decide
      · rcases List.mem_cons.mp member with rfl | member
        · cases weights.symm.trans named
          decide
        · obtain rfl := List.mem_singleton.mp member
          cases scale.symm.trans named
          decide
  · rintro ⟨rfl, inside⟩
    refine ⟨_, List.mem_singleton_self _, rfl, ?_⟩
    simp only [skinningLeaves, List.mem_cons, List.not_mem_nil, or_false] at inside
    rcases inside with rfl | rfl | rfl
    · exact ⟨⟨"float4x4", "bones[2]", 0, 128, .default⟩, by decide, .own bones rfl⟩
    · exact ⟨⟨"float", "weights[3]", 128, 36, .default⟩, by decide, .own weights rfl⟩
    · exact ⟨⟨"float2", "scale", 164, 8, .default⟩, by decide, .own scale rfl⟩

theorem isPacked_skinning : skinning.IsPacked := by
  have aligned : ∀ leaf ∈ skinningLeaves, leaf.dimensions ≠ [] → leaf.component = 0 := by decide
  have disjoint : ∀ leaf ∈ skinningLeaves, ∀ leaf' ∈ skinningLeaves,
      ∀ position ∈ List.range (shapeCount leaf.shape),
      ∀ position' ∈ List.range (shapeCount leaf'.shape),
      leaf.firstSlot + position = leaf'.firstSlot + position' →
      ∀ c ∈ Component.all, c ∈ (leaf.entryAt position).occupied →
        c ∈ (leaf'.entryAt position').occupied → leaf = leaf' ∧ position = position' := by
    decide +kernel
  constructor
  · intro bind leaf has
    exact aligned leaf ((hasLeaf_skinning bind leaf).mp has).2
  · intro bind leaf leaf' position position' has has' inside inside' slots c
    have every : c ∈ Component.all := by cases c <;> decide
    exact disjoint leaf ((hasLeaf_skinning bind leaf).mp has).2 leaf'
      ((hasLeaf_skinning bind leaf').mp has').2 position (List.mem_range.mpr inside) position'
      (List.mem_range.mpr inside') slots c every

theorem relative_constant_settles_skinning :
    skinning.resolve.fault = none ∧ skinning.IsPacked ∧
    Registers.findConstant? skinning.resolve.registers.constants "cb1[r0.x + 2].zw" =
      .ok (some "bones[(asuint(r0.x) + 2) / 4][(asuint(r0.x) + 2) % 4].zw") ∧
    Registers.findConstant? skinning.resolve.registers.constants "cb1[7].zw" =
      .ok (some "bones[1][3].zw") := by
  have returns : skinning.resolve.fault = none := by decide +kernel
  have has : skinning.HasLeaf (1 : Nat) ⟨"bones", "float4x4", 0, [2], 4, 4⟩ :=
    (hasLeaf_skinning _ _).mpr ⟨rfl, by decide⟩
  have solid : ∀ c ∈ ("r0.x" : Text), Text.isBlank c = false ∧ c ≠ '+' := by
    intro c inside
    have checked : List.all "r0.x" (fun c => !Text.isBlank c && c != '+') = true := rfl
    simpa using List.all_eq_true.mp checked c inside
  have named : Operand.IsBracketedRegister "r0.x" :=
    { filled := by decide, solid, unopened := by decide, unclosed := by decide }
  have both := @relative_constant_settles skinning returns isPacked_skinning 1 _ has 2 rfl _ named
    2 2 5 (by decide) (by decide) (by decide) [.z, .w] (by decide) (by decide) []
  exact ⟨returns, isPacked_skinning, both⟩

end Declarations
end ShaderLift
