import ShaderLift.Proofs.Lanes.Temporary

namespace ShaderLift

/-- A member lies over a byte of its element. -/
def Variable.Spans (m : Variable) (byte : Int) : Prop :=
  m.offset ≤ byte ∧ byte < m.offset + 4 * ElementType.count m.type

instance (m : Variable) (byte : Int) : Decidable (m.Spans byte) :=
  inferInstanceAs (Decidable (_ ∧ _))

/-- The component of a member at a byte from its first one on; bytes behind the member lead to its
last component. -/
def Variable.componentNear (m : Variable) (byte : Int) : Nat :=
  min ((byte - m.offset) / 4).toNat (ElementType.count m.type - 1)

/-- A word of an element: a component of a member. -/
structure Word where
  member : Variable
  component : Nat
  deriving DecidableEq

/-- A word of an element holds a byte. -/
structure Word.Holds (members : List Variable) (byte : Int) (w : Word) : Prop where
  known : w.member ∈ members
  inside : w.component < ElementType.count w.member.type
  low : w.member.offset + 4 * w.component ≤ byte
  high : byte < w.member.offset + 4 * w.component + 4

theorem Word.Holds.spans {members : List Variable} {byte : Int} {w : Word}
    (holds : w.Holds members byte) : w.member.Spans byte := by
  have inside := holds.inside
  have low := holds.low
  have high := holds.high
  constructor <;> omega

theorem Word.Holds.component_eq {members : List Variable} {byte : Int} {w : Word}
    (holds : w.Holds members byte) : w.component = w.member.componentNear byte := by
  have inside := holds.inside
  have low := holds.low
  have high := holds.high
  unfold Variable.componentNear
  omega

namespace Variable

variable {m : Variable} {members : List Variable} {byte : Int}

theorem Spans.holds (known : m ∈ members) (spans : m.Spans byte) :
    (⟨m, m.componentNear byte⟩ : Word).Holds members byte := by
  obtain ⟨low, high⟩ := spans
  refine ⟨known, ?_, ?_, ?_⟩ <;> simp only [componentNear] <;> omega

theorem componentNear_lt (filled : 0 < ElementType.count m.type) (byte : Int) :
    m.componentNear byte < ElementType.count m.type := by
  unfold componentNear
  omega

/-- Words are counted from the one at the first byte. -/
theorem componentNear_add (spans : m.Spans byte) (words : Nat) :
    m.componentNear (byte + 4 * words) =
      min (((byte - m.offset).fdiv 4).toNat + words) (ElementType.count m.type - 1) := by
  obtain ⟨low, _⟩ := spans
  rw [Int.fdiv_eq_ediv_of_nonneg _ (by decide), componentNear]
  omega

/-- A scalar lies over one of the words counted from a byte. -/
theorem words_eq_zero (scalar : ElementType.count m.type = 1) (spans : m.Spans byte) {words : Nat}
    (again : m.Spans (byte + 4 * words)) : words = 0 := by
  unfold Spans at spans again
  rw [scalar] at spans again
  omega

end Variable

/-- The scalars and vectors of numbers that take one word for each component. -/
def numericTypes : List Text :=
  (["float", "int", "uint"] : List Text).flatMap fun scalar =>
    scalar :: (["1", "2", "3", "4"] : List Text).map (scalar ++ ·)

theorem count_numericTypes :
    ∀ type ∈ numericTypes, 0 < ElementType.count type ∧ ElementType.count type ≤ 4 := by
  decide

/-- A member ends in front of another. -/
def Variable.Precedes (m m' : Variable) : Prop :=
  m.offset + 4 * ElementType.count m.type ≤ m'.offset

instance (m m' : Variable) : Decidable (m.Precedes m') := inferInstanceAs (Decidable (_ ≤ _))

/-- The members of an element: scalars and vectors that do not overlap and can be told apart by
their names. -/
structure IsElement (members : List Variable) : Prop where
  numeric : ∀ m ∈ members, m.type ∈ numericTypes
  disjoint : ∀ m ∈ members, ∀ m' ∈ members, m = m' ∨ m.Precedes m' ∨ m'.Precedes m
  distinct : ∀ m ∈ members, ∀ m' ∈ members, m.name = m'.name → m = m'
  undotted : ∀ m ∈ members, '.' ∉ m.name

namespace IsElement

variable {members : List Variable} {m m' : Variable} {byte : Int}

theorem eq_of_spans (element : IsElement members) (known : m ∈ members) (known' : m' ∈ members)
    (spans : m.Spans byte) (spans' : m'.Spans byte) : m = m' := by
  obtain ⟨low, high⟩ := spans
  obtain ⟨low', high'⟩ := spans'
  rcases element.disjoint m known m' known' with same | before | behind
  · exact same
  · unfold Variable.Precedes at before
    omega
  · unfold Variable.Precedes at behind
    omega

/-- A member is found by its name. -/
theorem find?_name (element : IsElement members) (known : m ∈ members) :
    (members.find? fun other => other.name = m.name) = some m := by
  cases found : members.find? fun other => other.name = m.name with
  | none =>
    have other := List.find?_eq_none.mp found m known
    simp at other
  | some other =>
    have same : other.name = m.name := by simpa using List.find?_some found
    rw [element.distinct other (List.mem_of_find?_eq_some found) m known same]

end IsElement

namespace Decoding

variable {members : List Variable} {byte : Int}

theorem memberAt?_cases (members : List Variable) (byte : Int) :
    (memberAt? members byte = none ∧ ∀ m ∈ members, ¬ m.Spans byte) ∨
      ∃ m ∈ members, m.Spans byte ∧
        memberAt? members byte = some (m, ((byte - m.offset).fdiv 4).toNat) := by
  unfold memberAt?
  cases found : members.find? fun m => m.offset ≤ byte &&
      byte < m.offset + 4 * ElementType.count m.type with
  | none =>
    refine .inl ⟨rfl, fun m known spans => ?_⟩
    have outside := List.find?_eq_none.mp found m known
    simp only [Bool.and_eq_true, decide_eq_true_eq] at outside
    exact outside spans
  | some m =>
    have inside := List.find?_some found
    simp only [Bool.and_eq_true, decide_eq_true_eq] at inside
    exact .inr ⟨m, List.mem_of_find?_eq_some found, inside, rfl⟩

theorem memberAt?_of_spans (element : IsElement members) {m : Variable} (known : m ∈ members)
    (spans : m.Spans byte) :
    memberAt? members byte = some (m, ((byte - m.offset).fdiv 4).toNat) := by
  rcases memberAt?_cases members byte with ⟨_, outside⟩ | ⟨other, among, reaches, found⟩
  · exact absurd spans (outside m known)
  · rwa [element.eq_of_spans among known reaches spans] at found

end Decoding

/-- What a statement accesses: an element as a whole, or one of its members by name, with the
components that are selected on it. -/
inductive Access where
  | element
  | member (name : Text) (selected : List Component)
  deriving DecidableEq

namespace Access

open Operand

/-- An access as it is written, when its element is. -/
def text (element : Text) : Access → Text
  | .element => element
  | .member name selected => element ++ '.' :: (name ++ Component.suffix selected)

/-- The member that is accessed. -/
def member? (members : List Variable) : Access → Option Variable
  | .element => none
  | .member name _ => members.find? fun m => m.name = name

/-- The words that are accessed in order; without a selector they are all those of the member. -/
def words (members : List Variable) : Access → List Word
  | .element => []
  | .member name selected =>
    match members.find? fun m => m.name = name with
    | none => []
    | some m =>
      let components :=
        if selected = [] then List.range (ElementType.count m.type)
        else selected.map Component.index
      components.map (⟨m, ·⟩)

/-- The word that a lane takes when an access is assigned to several lanes: a single word is spread
over them, and further words are cut off. -/
def read? (members : List Variable) (access : Access) (place : Nat) : Option Word :=
  if (access.words members).length = 1 then (access.words members).head?
  else (access.words members)[place]?

/-- What is accessed as a floating-point number: integers are reinterpreted. -/
def loaded (members : List Variable) (element : Text) (access : Access) : Text :=
  if (access.member? members).any fun m => !Decoding.isIntegerType m.type then
    access.text element
  else Decoding.asFloat (access.text element)

/-- A value as it is stored, reinterpreted as what the member is. -/
def stored (members : List Variable) (value : Text) (access : Access) : Text :=
  match access.member? members with
  | none => asInteger value .unsigned
  | some m =>
    if Text.startsWith "uint" m.type then asInteger value .unsigned
    else if Text.startsWith "int" m.type then asInteger value .signed
    else value

variable {members : List Variable} {m : Variable}

theorem member?_eq (element : IsElement members) (known : m ∈ members)
    (selected : List Component) : (member m.name selected).member? members = some m :=
  element.find?_name known

theorem words_selected (element : IsElement members) (known : m ∈ members)
    {selected : List Component} (filled : selected ≠ []) :
    (member m.name selected).words members = selected.map fun c => ⟨m, c.index⟩ := by
  simp only [words, element.find?_name known, filled, if_false, List.map_map]
  rfl

theorem words_scalar (element : IsElement members) (known : m ∈ members)
    (scalar : ElementType.count m.type = 1) :
    (member m.name []).words members = [⟨m, 0⟩] := by
  simp [words, element.find?_name known, scalar]

end Access

theorem Variable.holds_iff {m : Variable} {members : List Variable} (known : m ∈ members)
    (component : Nat) (byte : Int) :
    (⟨m, component⟩ : Word).Holds members byte ↔
      m.Spans byte ∧ component = m.componentNear byte := by
  constructor
  · intro holds
    exact ⟨holds.spans, holds.component_eq⟩
  · rintro ⟨spans, rfl⟩
    exact spans.holds known

/-- The access to the member over a byte, for letters that are counted from there. A scalar has no
selector, and where no member lies the whole element is accessed. -/
def accessAt (members : List Variable) (first : Int) (letters : List Component) : Access :=
  match Decoding.memberAt? members first with
  | none => .element
  | some (m, _) =>
    .member m.name <|
      if ElementType.count m.type ≤ 1 then []
      else letters.map fun c => Component.cyclic (m.componentNear (first + 4 * c.index))

section AccessAt

variable {members : List Variable} {m : Variable} {first : Int} {letters : List Component}

theorem accessAt_outside (outside : Decoding.memberAt? members first = none) :
    accessAt members first letters = .element := by
  rw [accessAt, outside]

variable (element : IsElement members) (known : m ∈ members)

include element known

theorem accessAt_scalar (spans : m.Spans first) (scalar : ElementType.count m.type = 1) :
    accessAt members first letters = .member m.name [] := by
  simp only [accessAt, Decoding.memberAt?_of_spans element known spans, scalar, Nat.le_refl,
    if_true]

theorem accessAt_vector (spans : m.Spans first) (vector : 1 < ElementType.count m.type) :
    accessAt members first letters = .member m.name
      (letters.map fun c => Component.cyclic (m.componentNear (first + 4 * c.index))) := by
  simp only [accessAt, Decoding.memberAt?_of_spans element known spans, Nat.not_le.mpr vector,
    if_false]

theorem IsElement.index_near (byte : Int) :
    (Component.cyclic (m.componentNear byte)).index = m.componentNear byte := by
  obtain ⟨filled, small⟩ := count_numericTypes m.type (element.numeric m known)
  have inside := Variable.componentNear_lt filled byte
  exact Component.index_cyclic (by omega)

theorem words_accessAt_vector
    (spans : m.Spans first) (vector : 1 < ElementType.count m.type) (filled : letters ≠ []) :
    (accessAt members first letters).words members =
      letters.map fun c => ⟨m, m.componentNear (first + 4 * c.index)⟩ := by
  rw [accessAt_vector element known spans vector,
    Access.words_selected element known (by simpa using filled), List.map_map]
  apply List.map_congr_left
  intro c _
  simp only [Function.comp_apply, element.index_near known]

theorem IsElement.scalar_or_vector :
    ElementType.count m.type = 1 ∨ 1 < ElementType.count m.type := by
  obtain ⟨filled, _⟩ := count_numericTypes m.type (element.numeric m known)
  omega

/-- A lane takes the word that its letter leads to. -/
theorem read?_accessAt
    (spans : m.Spans first) {place : Nat} {c : Component} (lettered : letters[place]? = some c) :
    (accessAt members first letters).read? members place =
      some ⟨m, m.componentNear (first + 4 * c.index)⟩ := by
  unfold Access.read?
  rcases element.scalar_or_vector known with scalar | vector
  · have zero : m.componentNear (first + 4 * c.index) = 0 := by
      unfold Variable.componentNear
      omega
    rw [accessAt_scalar element known spans scalar, Access.words_scalar element known scalar, zero]
    rfl
  · have filled : letters ≠ [] := List.ne_nil_of_mem (List.mem_of_getElem? lettered)
    have small : place < letters.length := (List.getElem?_eq_some_iff.mp lettered).1
    rw [words_accessAt_vector element known spans vector filled]
    have word : (letters.map fun c => (⟨m, m.componentNear (first + 4 * c.index)⟩ : Word))[place]? =
        some ⟨m, m.componentNear (first + 4 * c.index)⟩ := by
      rw [List.getElem?_map, lettered]
      rfl
    split
    · rename_i one
      have start : place = 0 := by
        rw [List.length_map] at one
        omega
      rw [start] at word
      rw [List.head?_eq_getElem?, word]
    · exact word

end AccessAt
end ShaderLift
