import Mathlib.Data.List.Find
import ShaderLift.Proofs.Register.Constant

namespace ShaderLift

/-- A field on a register: the expression that reads it, its first component there and how many
components it has. -/
structure PackedField where
  expression : Text
  first : Nat
  count : Nat
  deriving DecidableEq

namespace PackedField

def Occupies (field : PackedField) (c : Component) : Prop :=
  field.first ≤ c.index ∧ c.index < field.first + field.count

instance (field : PackedField) (c : Component) : Decidable (field.Occupies c) :=
  inferInstanceAs (Decidable (_ ∧ _))

/-- The field that is read for a component: the first one that occupies it, or else the first of
all. -/
def over? (fields : List PackedField) (c : Component) : Option PackedField :=
  (fields.find? fun field => field.Occupies c).or fields.head?

/-- A search for the entry that covers a component, or else the first one, ends at the entry of the
field that is read for the component. -/
theorem exists_over {α : Type} (field : α → PackedField) (covers : α → Bool) {entries : List α}
    (filled : entries ≠ []) (c : Component)
    (same : ∀ entry ∈ entries, covers entry = decide ((field entry).Occupies c)) :
    ∃ entry ∈ entries, (entries.find? covers).or entries.head? = some entry ∧
      over? (entries.map field) c = some (field entry) := by
  have found : (entries.map field).find? (fun packed => packed.Occupies c) =
      (entries.find? covers).map field := by
    rw [List.find?_map, List.find?_congr same]
    rfl
  unfold over?
  rw [found, List.head?_map]
  cases covering : entries.find? covers with
  | some entry => exact ⟨entry, List.mem_of_find?_eq_some covering, rfl, rfl⟩
  | none =>
    obtain ⟨first, rest, rfl⟩ := List.exists_cons_of_ne_nil filled
    exact ⟨first, List.mem_cons_self, rfl, rfl⟩

/-- A value for the lanes of a mask that reads a component of a field for one of them: by a selector
with a component for each lane, as a whole that is cut off behind the last lane, or spread from a
scalar over all lanes. -/
inductive ReadsLane (field : PackedField) (mask : List Component) (lane c : Component) : Text → Prop
  | selected (pick : Component → Component) (picked : pick lane = c) :
      ReadsLane field mask lane c (field.expression ++ Component.suffix (mask.map pick))
  | whole (fits : mask.length ≤ field.count) (place : mask[c.index]? = some lane) :
      ReadsLane field mask lane c field.expression
  | spread (type : Text) (single : field.count = 1) (first : c = .x) :
      ReadsLane field mask lane c
        (type ++ Text.ofNat mask.length ++ "(" ++ field.expression ++ ")")

end PackedField

def SignatureEntry.field (entry : SignatureEntry) : PackedField :=
  ⟨entry.expression, entry.signature.firstComponent.index, entry.signature.mask.length⟩

def ConstantEntry.field (entry : ConstantEntry) : PackedField :=
  ⟨entry.expression, entry.componentOffset, entry.elementCount⟩

/-- The mask of a row names components that follow one another. -/
def Signature.IsContiguous (s : Signature) : Prop :=
  s.mask ≠ [] ∧ s.mask =
    Component.letters ((Component.all.drop s.firstComponent.index).take s.mask.length)

theorem Component.mem_letters_iff (c : Component) (selected : List Component) :
    c.letter ∈ letters selected ↔ c ∈ selected := by
  constructor
  · intro inside
    obtain ⟨d, among, letter⟩ := List.mem_map.mp inside
    have both := congrArg ofLetter? letter
    rw [ofLetter?_letter, ofLetter?_letter] at both
    rw [← Option.some.inj both]
    exact among
  · exact fun inside => List.mem_map.mpr ⟨c, inside, rfl⟩

theorem SignatureEntry.occupies_iff (entry : SignatureEntry)
    (contiguous : entry.signature.IsContiguous) (c : Component) :
    entry.field.Occupies c ↔ entry.signature.mask.contains c.letter = true := by
  rw [List.contains_iff_mem, contiguous.2, Component.mem_letters_iff,
    Component.mem_take_drop_all]
  rfl

namespace Registers

open Operand

/-- The row that a selection reads is the field over its first component. -/
theorem exists_packedOver? {rows : List SignatureEntry} (shared : rows ≠ [])
    (contiguous : ∀ entry ∈ rows, entry.signature.IsContiguous)
    (swizzle : Component → Component) :
    ∃ entry ∈ rows, packedOver? rows (Component.all.map swizzle) = some entry ∧
      PackedField.over? (rows.map SignatureEntry.field) (swizzle .x) = some entry.field := by
  apply PackedField.exists_over SignatureEntry.field
    (fun entry => entry.signature.mask.contains (swizzle .x).letter) shared
  intro entry inside
  rw [Bool.eq_iff_iff, decide_eq_true_eq]
  exact (entry.occupies_iff (contiguous entry inside) (swizzle .x)).symm

theorem exists_constantOver? {entries : List ConstantEntry} (shared : entries ≠ [])
    (swizzle : Component → Component) :
    ∃ entry ∈ entries, constantOver? entries (Component.all.map swizzle) = some entry ∧
      PackedField.over? (entries.map ConstantEntry.field) (swizzle .x) = some entry.field := by
  apply PackedField.exists_over ConstantEntry.field
    (fun entry => entry.componentOffset ≤ (swizzle .x).index &&
      (swizzle .x).index < entry.componentOffset + entry.elementCount) shared
  intro entry _
  rw [Bool.eq_iff_iff, Bool.and_eq_true, decide_eq_true_eq, decide_eq_true_eq, decide_eq_true_eq]
  rfl

end Registers
end ShaderLift
