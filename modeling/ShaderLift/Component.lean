import ShaderLift.Text.Basic

namespace ShaderLift

inductive Component where
  | x | y | z | w
  deriving DecidableEq

namespace Component

def all : List Component := [x, y, z, w]

def letter : Component → Char
  | x => 'x'
  | y => 'y'
  | z => 'z'
  | w => 'w'

def index : Component → Nat
  | x => 0
  | y => 1
  | z => 2
  | w => 3

def ofLetter? : Char → Option Component
  | 'x' => some x
  | 'y' => some y
  | 'z' => some z
  | 'w' => some w
  | _ => none

def ofIndex? : Nat → Option Component
  | 0 => some x
  | 1 => some y
  | 2 => some z
  | 3 => some w
  | _ => none

def cyclic (n : Nat) : Component := (ofIndex? (n % 4)).getD x

def first (count : Nat) : List Component := all.take count

/-- The components in front of a place; a negative place counts from the end. -/
def before (place : Int) : List Component :=
  first (if place < 0 then place + 4 else place).toNat

def letters (components : List Component) : Text := components.map letter

/-- A selection as it stands behind an expression: a dot and its letters, nothing if empty. -/
def suffix : List Component → Text
  | [] => []
  | components => '.' :: letters components

theorem ofLetter?_letter (c : Component) : ofLetter? c.letter = some c := by
  cases c <;> rfl

theorem ofIndex?_index (c : Component) : ofIndex? c.index = some c := by
  cases c <;> rfl

theorem index_lt (c : Component) : c.index < 4 := by
  cases c <;> decide

end Component
end ShaderLift
