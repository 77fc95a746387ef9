import ShaderLift.Fault

namespace ShaderLift

/-- The items that were made, and the fault that kept further ones from being made. -/
structure CutList (α : Type) where
  items : List α := []
  fault : Option Fault := none

namespace CutList

variable {α β : Type}

def cut (fault : Fault) : CutList α := ⟨[], some fault⟩

def andThen (first : CutList α) (next : Unit → CutList α) : CutList α :=
  match first.fault with
  | some _ => first
  | none =>
    let rest := next ()
    ⟨first.items ++ rest.items, rest.fault⟩

def collect (make : β → CutList α) : List β → CutList α
  | [] => {}
  | x :: rest => (make x).andThen fun _ => collect make rest

def collectFrom (make : Nat → CutList α) (first : Nat) : Nat → CutList α
  | 0 => {}
  | count + 1 => (make first).andThen fun _ => collectFrom make (first + 1) count

theorem andThen_of_fault (first : CutList α) (next : Unit → CutList α) (fault : Fault)
    (failed : first.fault = some fault) : first.andThen next = first := by
  simp only [andThen, failed]

theorem fault_collect_cons {make : β → CutList α} {first : β} {fault : Fault}
    (failed : (make first).fault = some fault) (rest : List β) :
    (collect make (first :: rest)).fault = some fault := by
  rw [collect, andThen_of_fault _ _ _ failed, failed]

theorem items_andThen_of_complete (first : CutList α) (next : Unit → CutList α)
    (complete : first.fault = none) :
    (first.andThen next).items = first.items ++ (next ()).items := by
  simp only [andThen, complete]

theorem fault_andThen_of_complete (first : CutList α) (next : Unit → CutList α)
    (complete : first.fault = none) : (first.andThen next).fault = (next ()).fault := by
  simp only [andThen, complete]

theorem items_collect_of_complete (make : β → CutList α) (elements : List β)
    (complete : ∀ x ∈ elements, (make x).fault = none) :
    (collect make elements).items = elements.flatMap fun x => (make x).items := by
  induction elements with
  | nil => rfl
  | cons x rest ih =>
    have here := complete x List.mem_cons_self
    have later := ih fun y inside => complete y (List.mem_cons_of_mem x inside)
    rw [collect, items_andThen_of_complete _ _ here, later, List.flatMap_cons]

theorem fault_andThen_eq_none_iff (first : CutList α) (next : Unit → CutList α) :
    (first.andThen next).fault = none ↔ first.fault = none ∧ (next ()).fault = none := by
  cases failed : first.fault with
  | some fault => simp [andThen, failed]
  | none => simp [andThen, failed]

/-- No fault ends the making exactly when none of the elements brings one up. -/
theorem fault_collect_eq_none_iff (make : β → CutList α) (elements : List β) :
    (collect make elements).fault = none ↔ ∀ x ∈ elements, (make x).fault = none := by
  induction elements with
  | nil => simp [collect]
  | cons x rest ih => rw [collect, fault_andThen_eq_none_iff, ih, List.forall_mem_cons]

theorem mem_collect {make : β → CutList α} {elements : List β} {item : α}
    (inside : item ∈ (collect make elements).items) : ∃ x ∈ elements, item ∈ (make x).items := by
  induction elements with
  | nil => cases inside
  | cons x rest ih =>
    rw [collect] at inside
    cases failed : (make x).fault with
    | some fault =>
      rw [andThen_of_fault _ _ fault failed] at inside
      exact ⟨x, List.mem_cons_self, inside⟩
    | none =>
      rw [items_andThen_of_complete _ _ failed] at inside
      rcases List.mem_append.mp inside with early | late
      · exact ⟨x, List.mem_cons_self, early⟩
      · obtain ⟨y, among, found⟩ := ih late
        exact ⟨y, List.mem_cons_of_mem x among, found⟩

theorem collectFrom_eq_collect (make : Nat → CutList α) (first count : Nat) :
    collectFrom make first count = collect make (List.range' first count) := by
  induction count generalizing first with
  | zero => rfl
  | succ count ih => rw [collectFrom, List.range'_succ, collect, ih]

end CutList
end ShaderLift
