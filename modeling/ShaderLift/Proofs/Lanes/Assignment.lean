import ShaderLift.Proofs.Packed.Move

namespace ShaderLift

open Operand

/-- A component of a temporary register. -/
structure Lane where
  register : Nat
  component : Component
  deriving DecidableEq

/-- The values that assignments are made of. -/
inductive Expression (σ : Type) where
  | choice (condition yes no : σ)
  | comparison (symbol outcomes : Text) (a b : σ)
  | sine (a : σ)
  | cosine (a : σ)
  | quotient (a b : σ)
  | remainder (a b : σ)
  deriving DecidableEq

namespace Expression

variable {σ τ : Type}

def map (f : σ → τ) : Expression σ → Expression τ
  | choice condition yes no => choice (f condition) (f yes) (f no)
  | comparison symbol outcomes a b => comparison symbol outcomes (f a) (f b)
  | sine a => sine (f a)
  | cosine a => cosine (f a)
  | quotient a b => quotient (f a) (f b)
  | remainder a b => remainder (f a) (f b)

def operands : Expression σ → List σ
  | choice condition yes no => [condition, yes, no]
  | comparison _ _ a b => [a, b]
  | sine a => [a]
  | cosine a => [a]
  | quotient a b => [a, b]
  | remainder a b => [a, b]

/-- The text of an expression over the texts of its operands. -/
def text : Expression Text → Text
  | choice condition yes no => Decoding.choice condition yes no
  | comparison symbol outcomes a b => "(" ++ a ++ " " ++ symbol ++ " " ++ b ++ ") ? " ++ outcomes
  | sine a => "sin(" ++ a ++ ")"
  | cosine a => "cos(" ++ a ++ ")"
  | quotient a b => "(uint)" ++ a ++ " / (uint)" ++ b
  | remainder a b => "(uint)" ++ a ++ " % (uint)" ++ b

theorem map_congr {f g : σ → τ} (e : Expression σ) (same : ∀ a ∈ e.operands, f a = g a) :
    e.map f = e.map g := by
  cases e <;> simp_all [map, operands]

theorem map_eq_self {f : σ → σ} (e : Expression σ) (same : ∀ a ∈ e.operands, f a = a) :
    e.map f = e := by
  cases e <;> simp_all [map, operands]

theorem operands_map (f : σ → τ) (e : Expression σ) : (e.map f).operands = e.operands.map f := by
  cases e <;> rfl

end Expression

/-- Components selected on a temporary register, with a sign and an absolute value around them. -/
structure Selection where
  negate : Bool
  absolute : Bool
  register : Nat
  selected : List Component
  deriving DecidableEq

namespace Selection

/-- The register with its selector. -/
def inner (s : Selection) : Text := temporary s.register ++ Component.suffix s.selected

/-- A selection in the generated source. -/
def text (s : Selection) : Text := applyModifiers s.inner s.negate s.absolute

/-- The component at a place; a selection that is too short is repeated. -/
def component (s : Selection) (place : Nat) : Component :=
  s.selected.getD (place % s.selected.length) .x

def lane (s : Selection) (place : Nat) : Lane := ⟨s.register, s.component place⟩

end Selection

/-- A meaning of signs, clamping and expressions on some type of values. -/
structure Meaning (α : Type) where
  negate : α → α
  absolute : α → α
  saturate : α → α
  value : Expression α → α

/-- The value of each lane. -/
abbrev Valuation (α : Type) := Lane → α

/-- An assignment of the generated source to some components of a temporary register. -/
structure LaneAssignment where
  register : Nat
  mask : List Component
  expression : Expression Selection
  saturate : Bool
  deriving DecidableEq

/-- The value that a selection has at a place. -/
def Selection.value {α : Type} (m : Meaning α) (v : Valuation α) (place : Nat) (s : Selection) :
    α :=
  let plain := if s.absolute then m.absolute (v (s.lane place)) else v (s.lane place)
  if s.negate then m.negate plain else plain

namespace LaneAssignment

variable {a : LaneAssignment} {lane : Lane} {place : Nat} {assignments : List LaneAssignment}

variable {α : Type}

/-- The assignment as a statement; a selector of all components is left out. -/
def statement (depth : Nat) (a : LaneAssignment) : Statement :=
  let target :=
    if a.mask = Component.all then temporary a.register
    else temporary a.register ++ Component.suffix a.mask
  .assign depth target (a.expression.map Selection.text).text a.saturate

def writes (a : LaneAssignment) : List Lane := a.mask.map (Lane.mk a.register)

def reads (a : LaneAssignment) : List Lane :=
  (List.range a.mask.length).flatMap fun place => a.expression.operands.map (Selection.lane · place)

/-- The value for the lane at a place of the mask. -/
def value (m : Meaning α) (a : LaneAssignment) (v : Valuation α) (place : Nat) : α :=
  let plain := m.value (a.expression.map (Selection.value m v place))
  if a.saturate then m.saturate plain else plain

/-- The lanes behind an assignment. All components are taken before one is written. -/
def run (m : Meaning α) (a : LaneAssignment) (v : Valuation α) : Valuation α := fun lane =>
  if lane ∈ a.writes then a.value m v (a.mask.idxOf lane.component) else v lane

/-- The lanes behind assignments that are run in order. -/
def runAll (m : Meaning α) (assignments : List LaneAssignment) (v : Valuation α) : Valuation α :=
  assignments.foldl (fun v a => a.run m v) v

/-- The lanes behind assignments whose operands are all taken first: a lane has the value of the
last assignment that writes it. -/
def runAtOnce (m : Meaning α) (assignments : List LaneAssignment) (v : Valuation α) :
    Valuation α := fun lane =>
  match assignments.reverse.find? fun a => lane ∈ a.writes with
  | some a => a.value m v (a.mask.idxOf lane.component)
  | none => v lane

/-- An assignment reads no lane that another one writes. -/
def ReadsNothingOf (later earlier : LaneAssignment) : Prop :=
  ∀ lane ∈ later.reads, lane ∉ earlier.writes

instance (later earlier : LaneAssignment) : Decidable (later.ReadsNothingOf earlier) :=
  inferInstanceAs (Decidable (∀ lane ∈ later.reads, lane ∉ earlier.writes))

theorem idxOf_lt_of_mem_writes (written : lane ∈ a.writes) :
    a.mask.idxOf lane.component < a.mask.length := by
  obtain ⟨c, inside, rfl⟩ := List.mem_map.mp written
  exact List.idxOf_lt_length_of_mem inside

theorem lane_mem_reads (small : place < a.mask.length) {s : Selection}
    (operand : s ∈ a.expression.operands) : s.lane place ∈ a.reads := by
  apply List.mem_flatMap.mpr
  exact ⟨place, List.mem_range.mpr small, List.mem_map_of_mem operand⟩

/-- The value of an assignment depends only on the lanes that it reads. -/
theorem value_congr (m : Meaning α) (a : LaneAssignment) {v v' : Valuation α}
    (small : place < a.mask.length) (same : ∀ lane ∈ a.reads, v lane = v' lane) :
    a.value m v place = a.value m v' place := by
  have operands : a.expression.map (Selection.value m v place) =
      a.expression.map (Selection.value m v' place) := by
    apply Expression.map_congr
    intro s operand
    have read := same _ (lane_mem_reads small operand)
    simp only [Selection.value, read]
  simp only [value, operands]

theorem run_of_notMem (m : Meaning α) (v : Valuation α) (kept : lane ∉ a.writes) :
    a.run m v lane = v lane := if_neg kept

theorem value_run (m : Meaning α) {later earlier : LaneAssignment} (v : Valuation α)
    (small : place < later.mask.length) (apart : later.ReadsNothingOf earlier) :
    later.value m (earlier.run m v) place = later.value m v place := by
  apply value_congr m later small
  intro lane read
  exact run_of_notMem m v (apart lane read)

/-- Assignments in order, none of which reads what an earlier one has written, take their operands
from before the first of them. -/
theorem runAll_eq_runAtOnce (m : Meaning α)
    (apart : assignments.Pairwise fun earlier later => later.ReadsNothingOf earlier)
    (v : Valuation α) : runAll m assignments v = runAtOnce m assignments v := by
  induction assignments generalizing v with
  | nil => rfl
  | cons a rest ih =>
    obtain ⟨first, others⟩ := List.pairwise_cons.mp apart
    have step : runAll m (a :: rest) v = runAtOnce m rest (a.run m v) := ih others (a.run m v)
    rw [step]
    funext lane
    simp only [runAtOnce, List.reverse_cons, List.find?_append]
    cases found : rest.reverse.find? fun b => lane ∈ b.writes with
    | some b =>
      have inside : b ∈ rest := List.mem_reverse.mp (List.mem_of_find?_eq_some found)
      have written : lane ∈ b.writes := by simpa using List.find?_some found
      exact value_run m v (idxOf_lt_of_mem_writes written) (first b inside)
    | none =>
      by_cases written : lane ∈ a.writes
      · simp [run, written]
      · simp [run, written]

/-- Lanes start with zero. A value made of such lanes only is one, any other is two. -/
def tracing : Meaning Nat where
  negate := id
  absolute := id
  saturate := id
  value := fun e => if ∀ a ∈ e.operands, a = 0 then 1 else 2

theorem value_tracing (a : LaneAssignment) (v : Valuation Nat) (place : Nat) :
    a.value tracing v place =
      if ∀ s ∈ a.expression.operands, v (s.lane place) = 0 then 1 else 2 := by
  have plain : Selection.value tracing v place = fun s => v (s.lane place) := by
    funext s
    simp [Selection.value, tracing]
  rw [value, plain]
  simp [tracing, Expression.operands_map]

theorem value_tracing_pos (a : LaneAssignment) (v : Valuation Nat) (place : Nat) :
    0 < a.value tracing v place := by
  rw [value_tracing]
  split <;> omega

theorem runAtOnce_tracing_le (assignments : List LaneAssignment) (lane : Lane) :
    runAtOnce tracing assignments (fun _ => 0) lane ≤ 1 := by
  unfold runAtOnce
  split
  · simp [value_tracing]
  · exact Nat.zero_le 1

theorem runAll_of_notMem (m : Meaning α) (assignments : List LaneAssignment) (v : Valuation α)
    (lane : Lane) (kept : ∀ a ∈ assignments, lane ∉ a.writes) :
    runAll m assignments v lane = v lane := by
  induction assignments generalizing v with
  | nil => rfl
  | cons a rest ih =>
    have later : ∀ b ∈ rest, lane ∉ b.writes :=
      fun b inside => kept b (List.mem_cons_of_mem a inside)
    calc runAll m (a :: rest) v lane = runAll m rest (a.run m v) lane := rfl
      _ = a.run m v lane := ih (a.run m v) later
      _ = v lane := run_of_notMem m v (kept a (List.mem_cons_self ..))

theorem runAll_tracing_pos (assignments : List LaneAssignment) (v : Valuation Nat) (lane : Lane)
    (written : 0 < v lane ∨ ∃ a ∈ assignments, lane ∈ a.writes) :
    0 < runAll tracing assignments v lane := by
  induction assignments generalizing v with
  | nil =>
    rcases written with positive | ⟨a, inside, _⟩
    · exact positive
    · cases inside
  | cons a rest ih =>
    apply ih (a.run tracing v)
    by_cases here : lane ∈ a.writes
    · left
      rw [run, if_pos here]
      exact value_tracing_pos a v _
    · rw [run_of_notMem _ _ here]
      rcases written with positive | ⟨b, inside, later⟩
      · exact .inl positive
      · rcases List.mem_cons.mp inside with rfl | inside
        · exact absurd later here
        · exact .inr ⟨b, inside, later⟩

/-- An assignment that reads a lane after it was written, and whose own lanes are not written again,
leaves a trace of the earlier assignment. -/
theorem exists_runAll_tracing_eq_two {before after : List LaneAssignment} {b : LaneAssignment}
    (distinct : b.mask.Nodup) (earlier : a ∈ before) (read : lane ∈ b.reads)
    (written : lane ∈ a.writes) (kept : ∀ c ∈ after, ∀ target ∈ b.writes, target ∉ c.writes) :
    ∃ target, runAll tracing (before ++ b :: after) (fun _ => 0) target = 2 := by
  obtain ⟨place, small, atPlace⟩ := List.mem_flatMap.mp read
  obtain ⟨s, operand, rfl⟩ := List.mem_map.mp atPlace
  have small : place < b.mask.length := List.mem_range.mp small
  have target : Lane.mk b.register b.mask[place] ∈ b.writes :=
    List.mem_map_of_mem (List.getElem_mem small)
  refine ⟨⟨b.register, b.mask[place]⟩, ?_⟩
  have touched : 0 < runAll tracing before (fun _ => 0) (s.lane place) :=
    runAll_tracing_pos _ _ _ (.inr ⟨a, earlier, written⟩)
  generalize middle : runAll tracing before (fun _ => 0) = v at touched
  have split : runAll tracing (before ++ b :: after) (fun _ => 0) =
      runAll tracing after (b.run tracing v) := by
    rw [← middle]
    exact List.foldl_append ..
  have found : b.mask.idxOf b.mask[place] = place := distinct.idxOf_getElem place small
  have stale : ¬ ∀ s ∈ b.expression.operands, v (s.lane place) = 0 := by
    intro fresh
    have zero := fresh s operand
    omega
  rw [split, runAll_of_notMem _ _ _ _ fun c inside => kept c inside _ target, run, if_pos target,
    found, value_tracing, if_neg stale]

/-- Assignments that are not more than two, or write different lanes, have the effect of one
instruction under every meaning exactly if none reads what an earlier one has written. -/
theorem forall_runAll_eq_iff (distinct : ∀ a ∈ assignments, a.mask.Nodup)
    (settled : assignments.length ≤ 2 ∨
      assignments.Pairwise fun a b => ∀ lane ∈ a.writes, lane ∉ b.writes) :
    (∀ (α : Type) (m : Meaning α) (v : Valuation α),
        runAll m assignments v = runAtOnce m assignments v) ↔
      assignments.Pairwise fun earlier later => later.ReadsNothingOf earlier := by
  constructor
  · intro same
    rw [List.pairwise_iff_forall_sublist]
    intro a b both lane read written
    obtain ⟨front, back, whole, earlier, later⟩ := List.cons_sublist_iff.mp both
    obtain ⟨between, after, rfl⟩ := List.append_of_mem (List.singleton_sublist.mp later)
    rw [← List.append_assoc] at whole
    have kept : ∀ c ∈ after, ∀ target ∈ b.writes, target ∉ c.writes := by
      intro c inside
      rcases settled with short | separate
      · -- a stands in front of b already, so nothing stands behind it
        have filled := List.length_pos_of_mem earlier
        have tail := List.length_pos_of_mem inside
        rw [whole] at short
        simp only [List.length_append, List.length_cons] at short
        omega
      · rw [whole, List.pairwise_append, List.pairwise_cons] at separate
        exact separate.2.1.1 c inside
    obtain ⟨target, traced⟩ := exists_runAll_tracing_eq_two
      (distinct b (by rw [whole]; simp)) (List.mem_append_left between earlier) read written kept
    rw [← whole, same] at traced
    have fresh := runAtOnce_tracing_le assignments target
    omega
  · intro apart α m v
    exact runAll_eq_runAtOnce m apart v

end LaneAssignment
end ShaderLift
