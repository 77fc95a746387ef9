import ShaderLift.Text.Basic
import Std.Data.TreeSet

namespace ShaderLift

/-- Named values, in the order of their first entry. -/
abbrev Table (α : Type) := List (Text × α)

namespace Table

variable {α : Type}

def get? (table : Table α) (name : Text) : Option α := List.lookup name table

def insertNew (table : Table α) (name : Text) (value : α) : Table α :=
  if (get? table name).isSome then table else table ++ [(name, value)]

/-- The entries whose names are neither among those seen nor among earlier ones. -/
def firstsFrom (seen : Std.TreeSet Text) : List (Text × α) → Table α
  | [] => []
  | (name, value) :: rest =>
    if seen.contains name then firstsFrom seen rest
    else (name, value) :: firstsFrom (seen.insert name) rest

/-- Enters values one after the other; the first one of a name stays. -/
def ofFirsts (entries : List (Text × α)) : Table α := firstsFrom {} entries

/-- Enters a value, in the place of an earlier one under the same name. -/
def put (table : Table α) (name : Text) (value : α) : Table α :=
  if (get? table name).isSome then
    table.map fun (key, old) => (key, if key = name then value else old)
  else table ++ [(name, value)]

def addTo (table : Table (List α)) (name : Text) (value : α) : Table (List α) :=
  if (get? table name).isSome then
    table.map fun (key, values) => (key, if key = name then values ++ [value] else values)
  else table ++ [(name, [value])]

def groupBy (name : α → Text) (values : List α) : Table (List α) :=
  values.foldl (fun table value => addTo table (name value) value) []

theorem get?_firstsFrom (seen : Std.TreeSet Text) (entries : List (Text × α)) (name : Text)
    (fresh : name ∉ seen) : get? (firstsFrom seen entries) name = entries.lookup name := by
  induction entries generalizing seen with
  | nil => rfl
  | cons entry rest ih =>
    obtain ⟨key, value⟩ := entry
    unfold firstsFrom
    split
    · rename_i known
      have apart : (name == key) = false := by
        simp only [beq_eq_false_iff_ne, ne_eq]
        rintro rfl
        exact fresh (by simpa using known)
      rw [List.lookup_cons, apart]
      exact ih seen fresh
    · by_cases same : name = key
      · rw [get?, same, List.lookup_cons_self, List.lookup_cons_self]
      · have apart : (name == key) = false := by simpa using same
        rw [get?, List.lookup_cons, List.lookup_cons, apart]
        apply ih
        simp only [Std.TreeSet.mem_insert, Std.compare_eq_iff_eq, not_or]
        exact ⟨fun equal => same equal.symm, fresh⟩

theorem get?_ofFirsts (entries : List (Text × α)) (name : Text) :
    get? (ofFirsts entries) name = entries.lookup name :=
  get?_firstsFrom {} entries name (by simp)

theorem mem_of_get? {table : Table α} {name : Text} {value : α}
    (found : get? table name = some value) : (name, value) ∈ table := by
  obtain ⟨front, back, split, _⟩ := List.lookup_eq_some_iff.mp found
  rw [split]
  simp

/-- A value that is the only one under its name is the one that stays. -/
theorem get?_ofFirsts_of_unique {entries : List (Text × α)} {name : Text} {value : α}
    (inside : (name, value) ∈ entries) (unique : ∀ other, (name, other) ∈ entries → other = value) :
    get? (ofFirsts entries) name = some value := by
  rw [get?_ofFirsts]
  cases found : entries.lookup name with
  | none =>
    have absent := List.lookup_eq_none_iff.mp found (name, value) inside
    simp at absent
  | some other => rw [unique other (mem_of_get? found)]

theorem get?_ofFirsts_eq_none {entries : List (Text × α)} {name : Text}
    (absent : ∀ value, (name, value) ∉ entries) : get? (ofFirsts entries) name = none := by
  rw [get?_ofFirsts]
  cases found : entries.lookup name with
  | none => rfl
  | some other => exact absurd (mem_of_get? found) (absent other)

theorem get?_put_self (table : Table α) (name : Text) (value : α) :
    (table.put name value).get? name = some value := by
  unfold put get?
  split
  · rename_i taken
    induction table with
    | nil => cases taken
    | cons entry rest ih =>
      obtain ⟨key, old⟩ := entry
      by_cases same : key = name
      · simp [same]
      · have other : (name == key) = false := by simpa using Ne.symm same
        simp only [List.lookup_cons, other] at taken
        simp only [List.map_cons, List.lookup_cons, other]
        exact ih taken
  · rename_i free
    have absent : List.lookup name table = none := Option.not_isSome_iff_eq_none.mp free
    rw [List.lookup_append, absent]
    simp

end Table
end ShaderLift
