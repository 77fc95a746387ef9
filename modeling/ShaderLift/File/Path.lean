import ShaderLift.Text.Basic

namespace ShaderLift

inductive Anchor where
  | here
  | root
  | doubleRoot
  deriving DecidableEq

structure Path where
  anchor : Anchor := .here
  names : List Text := []
  deriving DecidableEq

namespace Anchor

def text : Anchor → Text
  | here => []
  | root => "/"
  | doubleRoot => "//"

/-- The start of a path that is written with a number of slashes in front. -/
def ofSlashes : Nat → Anchor
  | 0 => here
  | 2 => doubleRoot
  | _ => root

end Anchor

namespace Path

/-- Empty names and single dots go nowhere. -/
def isStep (name : Text) : Bool := !name.isEmpty && name != ['.']

def ofText (text : Text) : Path :=
  let inner := text.dropWhile (· == '/')
  ⟨.ofSlashes (text.length - inner.length), (Text.pieces '/' inner).filter isStep⟩

def toText (path : Path) : Text :=
  match path.anchor, path.names with
  | .here, [] => "."
  | anchor, names => anchor.text ++ Text.join "/" names

def name? (path : Path) : Option Text := path.names.getLast?

def parent (path : Path) : Path := { path with names := path.names.dropLast }

def withName (path : Path) (name : Text) : Path :=
  { path with names := path.names.dropLast ++ [name] }

/-- A name without its extension. A dot at either end of the name starts no extension. -/
def stem (name : Text) : Text :=
  match Text.splitLast? '.' name with
  | some (front@(_ :: _), _ :: _) => front
  | _ => name

/-- Goes one name on; two dots lead back, and nothing lies above the root. -/
def follow (names : List Text) (name : Text) : List Text :=
  if name = ['.', '.'] then names.dropLast else names ++ [name]

/-- The path from the root, without names that lead back. -/
def absolute (home path : Path) : Path :=
  match path.anchor with
  | .here => ⟨home.anchor, path.names.foldl follow home.names⟩
  | anchor => ⟨anchor, path.names.foldl follow []⟩

end Path
end ShaderLift
