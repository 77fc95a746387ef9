import ShaderLift.Proofs.Structured.Element

namespace ShaderLift

open Operand

/-- An operand as it is listed, and the expression that it is read as. -/
structure ReadOperand where
  listed : Text
  text : Text

/-- What addresses an element: the register of its buffer, an index, and a literal byte offset. -/
structure ElementAddress where
  base : Text
  index : ReadOperand
  offset : Text

/-- The byte at which the lanes start. -/
def ElementAddress.first (a : ElementAddress) : Int := (Text.decimalsValue a.offset : Nat)

/-- The letter of a selection at the index of a component; the selection is repeated as often as
needed. -/
def letterAt (selected : List Component) (c : Component) : Component :=
  selected.getD (c.index % selected.length) .x

/-- A load to the components of a target or a store, each with the letters on the buffer. -/
inductive StructuredInstruction where
  | load (target : ReadOperand) (mask : List Component) (address : ElementAddress)
      (selected : List Component)
  | store (address : ElementAddress) (mask : List Component) (source : ReadOperand)

namespace StructuredInstruction

def family : StructuredInstruction → Family
  | load .. => .loadStructured
  | store .. => .storeStructured

def address : StructuredInstruction → ElementAddress
  | load _ _ address _ => address
  | store address _ _ => address

/-- The lanes: the components that a load writes to its register, or a store to its buffer. -/
def mask : StructuredInstruction → List Component
  | load _ mask _ _ => mask
  | store _ mask _ => mask

/-- The byte that a lane addresses: a load goes by the letter on the buffer. -/
def byte (c : Component) : StructuredInstruction → Int
  | load _ _ address selected => address.first + 4 * (letterAt selected c).index
  | store address _ _ => address.first + 4 * c.index

/-- Each lane is loaded from the word that holds its byte, or stored to it and nowhere else. -/
def IsAccurate (members : List Variable) (access : Access) (i : StructuredInstruction) : Prop :=
  match i with
  | load _ mask _ _ =>
    ∀ (place : Nat) (c : Component), mask[place]? = some c →
      ∃ w : Word, access.read? members place = some w ∧ w.Holds members (i.byte c)
  | store _ mask _ =>
    (access.words members).length = mask.length ∧
      ∀ (place : Nat) (c : Component), mask[place]? = some c →
        ∃ w : Word, (access.words members)[place]? = some w ∧ w.Holds members (i.byte c)

/-- The lanes are loaded from the same components of a member if the first ones are taken instead.
This matters for integers, whose lanes are taken in order. -/
def TakesFirst (m : Variable) (i : StructuredInstruction) : Prop :=
  match i with
  | load _ mask _ _ =>
    Decoding.isIntegerType m.type → ∀ (place : Nat) (c : Component), mask[place]? = some c →
      m.componentNear (i.byte (Component.cyclic place)) = m.componentNear (i.byte c)
  | store .. => True

/-- The member over the first byte lies over the bytes of all lanes, and its lanes are taken as they
are written. -/
def FitsMember (members : List Variable) (i : StructuredInstruction) : Prop :=
  ∃ m ∈ members, m.Spans i.address.first ∧ (∀ c ∈ i.mask, m.Spans (i.byte c)) ∧ i.TakesFirst m

/-- The letters that are counted from the first byte. A selector is not fitted to the lanes when the
member is one of integers. -/
def letters (members : List Variable) : StructuredInstruction → List Component
  | load _ mask address selected =>
    let isInteger := (Decoding.memberAt? members address.first).any fun (m, _) =>
      Decoding.isIntegerType m.type
    (if isInteger then Component.all else mask).map (letterAt selected)
  | store _ mask _ => mask

/-- What a load or store accesses. -/
def access (members : List Variable) (i : StructuredInstruction) : Access :=
  accessAt members i.address.first (i.letters members)

variable {members : List Variable} {i : StructuredInstruction}

theorem exists_spans_of_isAccurate (filled : i.mask ≠ [])
    (accurate : i.IsAccurate members (i.access members)) :
    ∃ m ∈ members, m.Spans i.address.first := by
  rcases Decoding.memberAt?_cases members i.address.first with
    ⟨none, _⟩ | ⟨m, known, spans, _⟩
  swap
  · exact ⟨m, known, spans⟩
  have outside : i.access members = .element := accessAt_outside none
  obtain ⟨c, rest, cons⟩ := List.exists_cons_of_ne_nil filled
  rw [outside] at accurate
  cases i with
  | load target mask address selected =>
    obtain ⟨w, read, _⟩ := accurate 0 c (by rw [show mask = c :: rest from cons]; rfl)
    cases read
  | store address mask source =>
    obtain ⟨w, stored, _⟩ := accurate.2 0 c (by rw [show mask = c :: rest from cons]; rfl)
    cases stored

section Load

variable {m : Variable} {place : Nat} {c : Component}

variable {target : ReadOperand} {mask selected : List Component} {address : ElementAddress}

/-- The word that a lane of a load takes, when the member over the first byte is known. -/
theorem read?_access (element : IsElement members) (known : m ∈ members)
    (spans : m.Spans address.first) (short : mask.length ≤ 4) (written : mask[place]? = some c) :
    ((load target mask address selected).access members).read? members place =
      some ⟨m, m.componentNear ((load target mask address selected).byte
        (if Decoding.isIntegerType m.type then Component.cyclic place else c))⟩ := by
  apply read?_accessAt element known spans
  simp only [letters, Decoding.memberAt?_of_spans element known spans, Option.any_some]
  have small : place < mask.length := (List.getElem?_eq_some_iff.mp written).1
  by_cases integer : Decoding.isIntegerType m.type
  · have all : Component.all[place]? = some (Component.cyclic place) :=
      (Component.all_getElem?_eq_some_iff place _).mpr (Component.index_cyclic (by omega)).symm
    rw [if_pos integer, if_pos integer, List.getElem?_map, all]
    rfl
  · rw [if_neg integer, if_neg integer, List.getElem?_map, written]
    rfl

/-- The member over the first byte decides about each lane of a load. -/
theorem lane_accurate_iff (element : IsElement members) (known : m ∈ members)
    (spans : m.Spans address.first) (short : mask.length ≤ 4) (written : mask[place]? = some c)
    (loads : i = load target mask address selected) :
    (∃ w, (i.access members).read? members place = some w ∧ w.Holds members (i.byte c)) ↔
      m.Spans (i.byte c) ∧ (Decoding.isIntegerType m.type →
        m.componentNear (i.byte (Component.cyclic place)) = m.componentNear (i.byte c)) := by
  subst loads
  simp only [read?_access element known spans short written, Option.some.injEq, exists_eq_left',
    Variable.holds_iff known]
  by_cases integer : Decoding.isIntegerType m.type
  · simp only [integer, if_true, true_implies]
  · simp only [integer, if_false, Bool.false_eq_true, false_implies, and_true]

theorem load_accurate_iff (element : IsElement members) (filled : mask ≠ [])
    (short : mask.length ≤ 4) (loads : i = load target mask address selected) :
    i.IsAccurate members (i.access members) ↔ i.FitsMember members := by
  have lane {m : Variable} (known : m ∈ members) (spans : m.Spans address.first) {place : Nat}
      {c : Component} (written : mask[place]? = some c) :=
    lane_accurate_iff element known spans short written loads
  subst loads
  constructor
  · intro accurate
    obtain ⟨m, known, spans⟩ := exists_spans_of_isAccurate
      (i := load target mask address selected) filled accurate
    refine ⟨m, known, spans, ?_, ?_⟩
    · intro c inside
      obtain ⟨place, written⟩ := List.getElem?_of_mem inside
      exact ((lane known spans written).mp (accurate place c written)).1
    · intro integer place c written
      exact ((lane known spans written).mp (accurate place c written)).2 integer
  · rintro ⟨m, known, spans, covered, first⟩ place c written
    apply (lane known spans written).mpr
    exact ⟨covered c (List.mem_of_getElem? written), fun integer => first integer place c written⟩

end Load

section Store

variable {address : ElementAddress} {mask : List Component} {source : ReadOperand} {m : Variable}

theorem words_store_scalar (address : ElementAddress) (mask : List Component)
    (source : ReadOperand) (element : IsElement members) (known : m ∈ members)
    (spans : m.Spans address.first) (scalar : ElementType.count m.type = 1) :
    ((store address mask source).access members).words members = [⟨m, 0⟩] := by
  have single : (store address mask source).access members = .member m.name [] :=
    accessAt_scalar element known spans scalar
  rw [single, Access.words_scalar element known scalar]

theorem words_store_vector (address : ElementAddress) (source : ReadOperand)
    (element : IsElement members) (known : m ∈ members) (spans : m.Spans address.first)
    (vector : 1 < ElementType.count m.type) (filled : mask ≠ []) :
    ((store address mask source).access members).words members =
      mask.map fun c => ⟨m, m.componentNear ((store address mask source).byte c)⟩ :=
  words_accessAt_vector element known spans vector filled

/-- All words of a store are words of the member over the first byte. -/
theorem member_of_mem_words (element : IsElement members) (known : m ∈ members)
    (spans : m.Spans address.first) (filled : mask ≠ []) {w : Word}
    (among : w ∈ ((store address mask source).access members).words members) : w.member = m := by
  rcases element.scalar_or_vector known with scalar | vector
  · rw [words_store_scalar _ _ _ element known spans scalar, List.mem_singleton] at among
    rw [among]
  · rw [words_store_vector _ _ element known spans vector filled] at among
    obtain ⟨_, _, rfl⟩ := List.mem_map.mp among
    rfl

/-- A scalar has room for one lane, the first. -/
theorem mask_eq_of_scalar (spans : m.Spans address.first) (scalar : ElementType.count m.type = 1)
    (filled : mask ≠ []) (ordered : mask.Sublist Component.all)
    (covered : ∀ c ∈ mask, m.Spans ((store address mask source).byte c)) : mask = [.x] := by
  have zero : ∀ c ∈ mask, c = .x := by
    intro c inside
    apply Component.index_inj
    exact Variable.words_eq_zero scalar spans (covered c inside)
  have distinct : mask.Nodup := ordered.nodup (by decide)
  obtain ⟨c, rest, rfl⟩ := List.exists_cons_of_ne_nil filled
  obtain rfl := zero c (by simp)
  cases rest with
  | nil => rfl
  | cons c' rest =>
    obtain rfl := zero c' (by simp)
    simp at distinct

theorem store_accurate_iff (element : IsElement members) (filled : mask ≠ [])
    (ordered : mask.Sublist Component.all) (stores : i = store address mask source) :
    i.IsAccurate members (i.access members) ↔ i.FitsMember members := by
  subst stores
  constructor
  · intro accurate
    obtain ⟨m, known, spans⟩ := exists_spans_of_isAccurate (i := store address mask source) filled
      accurate
    refine ⟨m, known, spans, ?_, trivial⟩
    intro c inside
    obtain ⟨place, written⟩ := List.getElem?_of_mem inside
    obtain ⟨w, stored, holds⟩ := accurate.2 place c written
    rw [← member_of_mem_words element known spans filled (List.mem_of_getElem? stored)]
    exact holds.spans
  · rintro ⟨m, known, spans, covered, _⟩
    have holds {place : Nat} {c : Component} (written : mask[place]? = some c) :=
      (covered c (List.mem_of_getElem? written)).holds known
    rcases element.scalar_or_vector known with scalar | vector
    · have words := words_store_scalar address mask source element known spans scalar
      obtain rfl := mask_eq_of_scalar spans scalar filled ordered covered
      refine ⟨by rw [words]; rfl, ?_⟩
      intro place c written
      have only : m.componentNear ((store address [.x] source).byte c) = 0 := by
        unfold Variable.componentNear
        omega
      have start : place = 0 := by
        have small := (List.getElem?_eq_some_iff.mp written).1
        simpa using small
      refine ⟨_, ?_, holds written⟩
      rw [words, start, only]
      rfl
    · have words := words_store_vector address source element known spans vector filled
      refine ⟨by rw [words, List.length_map], ?_⟩
      intro place c written
      refine ⟨_, ?_, holds written⟩
      rw [words, List.getElem?_map, written]
      rfl

end Store

/-- The accesses are accurate exactly if the member over the first byte has all the words. -/
theorem isAccurate_access_iff (element : IsElement members) (filled : i.mask ≠ [])
    (ordered : i.mask.Sublist Component.all) :
    i.IsAccurate members (i.access members) ↔ i.FitsMember members := by
  cases i with
  | load target mask address selected =>
    exact load_accurate_iff element filled ordered.length_le rfl
  | store address mask source => exact store_accurate_iff element filled ordered rfl

end StructuredInstruction
end ShaderLift
