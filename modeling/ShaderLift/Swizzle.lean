import ShaderLift.Fault

namespace ShaderLift

/-- A pattern of component letters. An empty pattern selects the whole value. -/
structure Swizzle where
  pattern : Text := []
  deriving DecidableEq

namespace Swizzle

def count (swizzle : Swizzle) : Nat := swizzle.pattern.length

def ofComponents (components : List Component) : Swizzle := ⟨Component.letters components⟩

def first (count : Nat) : Swizzle := ofComponents (Component.first count)

def componentsOf : Text → Except Fault (List Component)
  | [] => .ok []
  | letter :: rest =>
    match Component.ofLetter? letter with
    | none => .error .unknownLetter
    | some component => (componentsOf rest).map (component :: ·)

def components (swizzle : Swizzle) : Except Fault (List Component) := componentsOf swizzle.pattern

/-- The component at an index; a negative index counts from the last one. -/
def componentAt (index : Int) : Except Fault Component :=
  (Fault.placeAt 4 index .characterRange).map Component.cyclic

def ofIndices (indices : List Int) : Except Fault Swizzle :=
  (indices.mapM componentAt).map ofComponents

theorem componentsOf_letters (selected : List Component) :
    componentsOf (Component.letters selected) = .ok selected := by
  induction selected with
  | nil => rfl
  | cons c rest ih =>
    have step : componentsOf (Component.letters (c :: rest)) =
        (componentsOf (Component.letters rest)).map (c :: ·) := by
      simp [Component.letters, componentsOf, Component.ofLetter?_letter]
    rw [step, ih]
    rfl

theorem components_ofComponents (selected : List Component) :
    (ofComponents selected).components = .ok selected :=
  componentsOf_letters selected

theorem count_ofComponents (selected : List Component) :
    (ofComponents selected).count = selected.length := List.length_map _

theorem count_ne_zero {selected : List Component} (filled : selected ≠ []) :
    (ofComponents selected).count ≠ 0 := by
  rw [count_ofComponents]
  exact fun empty => filled (List.length_eq_zero_iff.mp empty)

end Swizzle
end ShaderLift
