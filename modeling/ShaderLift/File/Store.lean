import ShaderLift.File.Fault

namespace ShaderLift

inductive StoreEntry where
  | file (bytes : List UInt8)
  | directory
  deriving DecidableEq

abbrev Place := List Text

structure Store where
  home : Place := []
  entries : List (Place × StoreEntry) := []

namespace Store

/-- What lies at a place; the root is always a directory. -/
def get? (store : Store) (place : Place) : Option StoreEntry :=
  if place.isEmpty then some .directory else store.entries.lookup place

def put (store : Store) (place : Place) (entry : StoreEntry) : Store :=
  if (store.entries.lookup place).isSome then
    { store with
      entries := store.entries.map fun (other, found) =>
        (other, if other = place then entry else found) }
  else { store with entries := store.entries ++ [(place, entry)] }

def erase (store : Store) (place : Place) : Store :=
  { store with entries := store.entries.filter fun (other, _) => !place.isPrefixOf other }

def makeParents (store : Store) (place : Place) : Store :=
  (List.range place.length).foldl (fun store (depth : Nat) =>
    let above := place.take depth
    if (store.get? above).isSome then store else store.put above .directory) store

def plant (store : Store) (place : Place) (entry : StoreEntry) : Store :=
  (store.makeParents place).put place entry

def maxNameBytes : Nat := 255

def enter (store : Store) (place : Place) (name : Text) : Except AccessIssue Place :=
  match store.get? place with
  | none => .error .missing
  | some (.file _) => .error .notDirectory
  | some .directory =>
    if maxNameBytes < (Text.encode name).length then .error .nameTooLong
    else .ok (Path.follow place name)

/-- The place of a path. All but its last name must lead through directories. -/
def locate (store : Store) (path : Path) : Except AccessIssue Place :=
  path.names.foldlM store.enter (if path.anchor = .here then store.home else [])

def read (store : Store) (path : Path) : Except AccessIssue (List UInt8) := do
  match store.get? (← store.locate path) with
  | none => throw .missing
  | some .directory => throw .isDirectory
  | some (.file bytes) => return bytes

def write (store : Store) (path : Path) (bytes : List UInt8) : Except AccessIssue Store := do
  let place ← store.locate path
  match store.get? place with
  | some .directory => throw .isDirectory
  | _ => return store.put place (.file bytes)

def filesAtHome (store : Store) : List (Path × List UInt8) :=
  store.entries.filterMap fun (place, entry) =>
    match entry with
    | .file bytes =>
      if store.home.isPrefixOf place then some (⟨.here, place.drop store.home.length⟩, bytes)
      else none
    | .directory => none

end Store
end ShaderLift
