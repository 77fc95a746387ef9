import ShaderLift.Fault

namespace ShaderLift

variable {σ α β : Type}

/-- Steps on a state that may fail. What a failing step did to the state stays done. -/
abbrev Stepping (σ : Type) := ExceptT Fault (StateM σ)

/-- What a step returns from a state, and the state it leads to. -/
def Stepping.runFrom (step : Stepping σ α) (s : σ) : Except Fault α × σ := step s

theorem Stepping.runFrom_bind (step : Stepping σ α) (next : α → Stepping σ β) (s : σ) :
    runFrom (step >>= next) s =
      match runFrom step s with
      | (.ok value, reached) => runFrom (next value) reached
      | (.error fault, reached) => (.error fault, reached) := by
  simp only [runFrom, bind, ExceptT.bind, ExceptT.mk, StateT.bind]
  rcases step s with ⟨fault | value, reached⟩ <;> rfl

@[simp] theorem Stepping.runFrom_pure (value : α) (s : σ) :
    runFrom (pure value) s = (.ok value, s) := rfl

@[simp] theorem Stepping.runFrom_get (s : σ) : runFrom get s = (.ok s, s) := rfl

@[simp] theorem Stepping.runFrom_set (s t : σ) : runFrom (set t) s = (.ok ⟨⟩, t) := rfl

@[simp] theorem Stepping.runFrom_modify (change : σ → σ) (s : σ) :
    runFrom (modify change) s = (.ok ⟨⟩, change s) := rfl

theorem Stepping.runFrom_bind_of_ok {step : Stepping σ α} {value : α} {s reached : σ}
    (returns : runFrom step s = (.ok value, reached)) (next : α → Stepping σ β) :
    runFrom (step >>= next) s = runFrom (next value) reached := by
  rw [runFrom_bind, returns]

theorem Stepping.runFrom_bind_of_error {step : Stepping σ α} {fault : Fault} {s reached : σ}
    (fails : runFrom step s = (.error fault, reached)) (next : α → Stepping σ β) :
    runFrom (step >>= next) s = (.error fault, reached) := by
  rw [runFrom_bind, fails]

/-- A run ends with a value in a state that it may reach, or with a fault of a known kind. -/
inductive Ends (cause : Fault → Prop) (reaches : α → σ → Prop) : Except Fault α × σ → Prop
  | returned {value : α} {s : σ} (good : reaches value s) : Ends cause reaches (.ok value, s)
  | failed {fault : Fault} {s : σ} (good : cause fault) : Ends cause reaches (.error fault, s)

/-- From a state, a step leads to values and states of a kind, or fails with faults of a kind. -/
def Leads (cause : Fault → Prop) (s : σ) (step : Stepping σ α) (reaches : α → σ → Prop) : Prop :=
  Ends cause reaches (step.runFrom s)

namespace Leads

variable {cause : Fault → Prop} {s t : σ} {step : Stepping σ α} {next : α → Stepping σ β} {value : α}
  {reaches : α → σ → Prop} {last : β → σ → Prop} {fault : Fault}

theorem done (returns : step.runFrom s = (.ok value, t)) (good : reaches value t) :
    Leads cause s step reaches := by
  rw [Leads, returns]
  exact .returned good

protected theorem throw (good : cause fault) : Leads cause s (throw fault) reaches := .failed good

protected theorem bind (first : Leads cause s step reaches)
    (later : ∀ value t, reaches value t → Leads cause t (next value) last) :
    Leads cause s (step >>= next) last := by
  rw [Leads, Stepping.runFrom_bind]
  rw [Leads] at first
  generalize step.runFrom s = run at first ⊢
  cases first with
  | returned good => exact later _ _ good
  | failed good => exact .failed good

theorem andThen (returns : step.runFrom s = (.ok value, t)) (later : Leads cause t (next value) last) :
    Leads cause s (step >>= next) last := by
  rwa [Leads, Stepping.runFrom_bind_of_ok returns]

theorem throw_bind (good : cause fault) : Leads cause s (throw fault >>= next) last := .failed good

theorem mono {wider : α → σ → Prop} {other : Fault → Prop} (leads : Leads cause s step reaches)
    (states : ∀ value t, reaches value t → wider value t)
    (faults : ∀ fault, cause fault → other fault) : Leads other s step wider := by
  rw [Leads] at leads ⊢
  generalize step.runFrom s = run at leads ⊢
  cases leads with
  | returned good => exact .returned (states _ _ good)
  | failed good => exact .failed (faults _ good)

/-- What a test decides, both of its branches lead to. -/
protected theorem ite {condition : Prop} [Decidable condition] {yes no : Stepping σ α}
    (positive : condition → Leads cause s yes reaches)
    (negative : ¬condition → Leads cause s no reaches) :
    Leads cause s (if condition then yes else no) reaches := by
  by_cases decided : condition
  · rw [if_pos decided]
    exact positive decided
  · rw [if_neg decided]
    exact negative decided

/-- A computation that leaves the state alone. -/
protected theorem lift {outcome : Except Fault α}
    (faults : ∀ fault, outcome = .error fault → cause fault) :
    Leads cause s (liftM outcome) fun value t => outcome = .ok value ∧ t = s := by
  cases outcome with
  | ok value => exact .returned ⟨rfl, rfl⟩
  | error fault => exact .failed (faults fault rfl)

end Leads
end ShaderLift
