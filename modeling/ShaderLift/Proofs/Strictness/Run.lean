import ShaderLift.Proofs.Decoding.States
import ShaderLift.Proofs.Strictness.Instructions

namespace ShaderLift.Decoding

variable {strict lenient : Run} {before all : List Decoder} {d : Decoder} {log : Log}

theorem turns_turnsWithin (env : Environment) (bound : Nat) (d : Decoder) :
    (turnsWithin env bound d).turns =
      List.zipWith recordOf (statesWithin env bound d) (statesWithin env bound d).tail := by
  induction bound generalizing d with
  | zero => rfl
  | succ bound ih =>
    cases ended : d.cursor.atEnd with
    | true =>
      have run := run_of_end env bound ended
      simp [run.1, run.2]
    | false =>
      rcases turned : runOn turn env d with ⟨fault | _, reached⟩
      · have run := run_of_error _ bound ended turned
        simp [run.1, run.2]
      · have run := run_of_ok _ bound ended turned
        obtain ⟨later, first⟩ := List.head?_eq_some_iff.mp (head?_statesWithin env bound reached)
        simp only [run.1, run.2, ih, first, List.tail_cons, List.zipWith_cons_cons]

theorem turns_decodeBody (env : Environment) (listing : Text) :
    (decodeBody env listing).turns =
      List.zipWith recordOf (states env listing) (states env listing).tail := by
  unfold decodeBody states
  dsimp only
  rcases runOn findStage env { cursor := .ofText listing } with ⟨fault | _, d⟩
  · rfl
  · dsimp only
    rw [← turns_turnsWithin]
    split
    · rfl
    · rfl

theorem zipWith_tail_append {α β : Type} (record : α → α → β) (front back : List α) :
    List.zipWith record front front.tail <+:
      List.zipWith record (front ++ back) (front ++ back).tail := by
  induction front with
  | nil => exact List.nil_prefix
  | cons first rest ih =>
    cases rest with
    | nil => exact List.nil_prefix
    | cons second rest =>
      simp only [List.cons_append, List.tail_cons, List.zipWith_cons_cons] at ih ⊢
      exact (List.prefix_cons_inj _).mpr ih

/-- How a strict run compares with a lenient one that starts with the same log: the runs are the
same, or the strict one stops with an imbalance that the lenient one reports at that point. The
lists are the decoders that the runs go through. -/
inductive ParallelRuns (log : Log) (strict lenient : Run) (before all : List Decoder) : Prop
  | same (run : strict = lenient) (through : before = all)
      (calm : Log.Calm log strict.final.log)
      (earlier : ∀ d ∈ before, d.log <+: strict.final.log)
  | stopped (cause : Imbalance) (line : Option Int) (later : List Decoder)
      (outcome : strict.outcome = .error (.imbalance cause line))
      (through : all = before ++ later)
      (calm : Log.Calm log strict.final.log)
      (earlier : ∀ d ∈ before, d.log <+: strict.final.log)
      (reported : strict.final.log ++ [.imbalance cause line] <+: lenient.final.log)
      (behind : ∀ d ∈ later, strict.final.log ++ [.imbalance cause line] <+: d.log)

variable {env : Environment}

/-- A lenient run takes no notice back. -/
theorem turnsWithin_grows (env : Environment) (bound : Nat) (d : Decoder) :
    d.log <+: (turnsWithin (env.nesting false) bound d).final.log ∧
      ∀ s ∈ statesWithin (env.nesting false) bound d, d.log <+: s.log := by
  induction bound generalizing d with
  | zero => simp [turnsWithin, statesWithin]
  | succ bound ih =>
    have both : RunsParallel env turn := .turn
    have step := (both d).grows
    cases ended : d.cursor.atEnd with
    | true =>
      have run := run_of_end (env.nesting false) bound ended
      simp [run.1, run.2]
    | false =>
      rcases turned : runOn turn (env.nesting false) d with ⟨fault | _, reached⟩
      · have run := run_of_error _ bound ended turned
        rw [turned] at step
        simp [run.1, run.2, step]
      · have run := run_of_ok _ bound ended turned
        rw [turned] at step
        obtain ⟨final, through⟩ := ih reached
        rw [run.1, run.2]
        refine ⟨step.trans final, fun s inside => ?_⟩
        rcases List.mem_cons.mp inside with rfl | later
        · exact List.prefix_refl _
        · exact step.trans (through s later)

theorem forall_mem_single {reached : Decoder} (grown : d.log <+: reached.log) :
    ∀ s ∈ [d], s.log <+: reached.log := by
  intro s inside
  rw [List.mem_singleton.mp inside]
  exact grown

/-- A turn on which the runs agree, in front of the rest of them. -/
theorem ParallelRuns.cons {reached : Decoder} (record : TurnRecord)
    (calm : Log.Calm d.log reached.log)
    (rest : ParallelRuns reached.log strict lenient before all) :
    ParallelRuns d.log { strict with turns := record :: strict.turns }
      { lenient with turns := record :: lenient.turns } (d :: before) (d :: all) := by
  have joined (further : Log.Calm reached.log strict.final.log)
      (earlier : ∀ s ∈ before, s.log <+: strict.final.log) :
      ∀ s ∈ d :: before, s.log <+: strict.final.log :=
    List.forall_mem_cons.mpr ⟨(calm.trans further).isPrefix, earlier⟩
  cases rest with
  | same run through further earlier =>
    subst run through
    exact .same rfl rfl (calm.trans further) (joined further earlier)
  | stopped cause line later outcome through further earlier reported behind =>
    refine .stopped cause line later outcome ?_ (calm.trans further) (joined further earlier)
      reported behind
    rw [through, List.cons_append]

theorem turnsWithin_parallel (env : Environment) (bound : Nat) (d : Decoder) :
    ParallelRuns d.log (turnsWithin (env.nesting true) bound d)
      (turnsWithin (env.nesting false) bound d) (statesWithin (env.nesting true) bound d)
      (statesWithin (env.nesting false) bound d) := by
  induction bound generalizing d with
  | zero => exact .same rfl rfl (.refl _) (forall_mem_single (List.prefix_refl _))
  | succ bound ih =>
    cases ended : d.cursor.atEnd with
    | true =>
      have strict := run_of_end (env.nesting true) bound ended
      have lenient := run_of_end (env.nesting false) bound ended
      rw [strict.1, strict.2, lenient.1, lenient.2]
      exact .same rfl rfl (.refl _) (forall_mem_single (List.prefix_refl _))
    | false =>
      have both : RunsParallel env turn := .turn
      have step := both d
      rcases turned : runOn turn (env.nesting true) d with ⟨outcome, reached⟩
      rcases turned' : runOn turn (env.nesting false) d with ⟨outcome', reached'⟩
      rw [turned, turned'] at step
      cases step with
      | same _ _ calm =>
        cases outcome with
        | error fault =>
          have strict := run_of_error _ bound ended turned
          have lenient := run_of_error _ bound ended turned'
          rw [strict.1, strict.2, lenient.1, lenient.2]
          exact .same rfl rfl calm (forall_mem_single calm.isPrefix)
        | ok _ =>
          have strict := run_of_ok _ bound ended turned
          have lenient := run_of_ok _ bound ended turned'
          rw [strict.1, strict.2, lenient.1, lenient.2]
          exact (ih reached).cons _ calm
      | stopped cause line _ _ calm reported =>
        have strict := run_of_error _ bound ended turned
        rw [strict.1, strict.2]
        cases outcome' with
        | error fault =>
          have lenient := run_of_error _ bound ended turned'
          rw [lenient.1, lenient.2]
          exact .stopped cause line [] rfl rfl calm (forall_mem_single calm.isPrefix) reported
            (List.forall_mem_nil _)
        | ok _ =>
          have lenient := run_of_ok _ bound ended turned'
          have further := turnsWithin_grows env bound reached'
          rw [lenient.1, lenient.2]
          refine .stopped cause line (statesWithin (env.nesting false) bound reached') rfl rfl calm
            (forall_mem_single calm.isPrefix) (reported.trans further.1) fun s inside => ?_
          exact reported.trans (further.2 s inside)

/-- Both runs behind a stretch on which they agree. -/
theorem ParallelRuns.behind {log' : Log} (calm : Log.Calm log log')
    (runs : ParallelRuns log' strict lenient before all) :
    ParallelRuns log strict lenient before all := by
  cases runs with
  | same run through further earlier => exact .same run through (calm.trans further) earlier
  | stopped cause line later outcome through further earlier reported behind =>
    exact .stopped cause line later outcome through (calm.trans further) earlier reported behind

theorem findStage_calm (env : Environment) (d : Decoder) :
    Log.Calm d.log (runOn findStage env d).2.log := by
  rw [runOn_findStage]
  split
  · exact .refl _
  · exact .single _ rfl

theorem finish_parallel : RunsParallel env finish := by
  refine .bind .get fun d => ?_
  dsimp only
  split
  · exact .bind (.unbalanced _) fun _ => .bind .get fun _ => .note rfl
  · exact .bind .get fun _ => .note rfl

theorem finished_grows (env : Environment) (run : Run) :
    run.final.log <+: (finished (env.nesting false) run).final.log := by
  have check : RunsParallel env finish := finish_parallel
  unfold finished
  split
  · exact List.prefix_refl _
  · exact (check run.final).grows

theorem ParallelRuns.finished (turns : ParallelRuns log strict lenient before all) :
    ParallelRuns log (Decoding.finished (env.nesting true) strict)
      (Decoding.finished (env.nesting false) lenient) before all := by
  have check : RunsParallel env finish := finish_parallel
  cases turns with
  | same run through calm earlier =>
    subst run through
    obtain ⟨turns, outcome, final⟩ := strict
    cases outcome with
    | error fault => exact .same rfl rfl calm earlier
    | ok _ =>
      have step := check final
      simp only [Decoding.finished]
      generalize runOn finish (env.nesting true) final = strict at step ⊢
      generalize runOn finish (env.nesting false) final = lenient at step ⊢
      have grown (reached : Decoder) (further : Log.Calm final.log reached.log) :
          ∀ d ∈ before, d.log <+: reached.log :=
        fun d inside => (earlier d inside).trans further.isPrefix
      cases step with
      | same outcome reached further =>
        exact .same rfl rfl (calm.trans further) (grown reached further)
      | stopped cause line reached _ further reported =>
        exact .stopped cause line [] rfl (List.append_nil _).symm (calm.trans further)
          (grown reached further) reported (List.forall_mem_nil _)
  | stopped cause line later outcome through calm earlier reported behind =>
    rw [finished_of_error outcome]
    exact .stopped cause line later outcome through calm earlier
      (reported.trans (finished_grows env lenient)) behind

theorem decodeBody_parallel (env : Environment) (listing : Text) :
    ParallelRuns [] (decodeBody (env.nesting true) listing) (decodeBody (env.nesting false) listing)
      (states (env.nesting true) listing) (states (env.nesting false) listing) := by
  have tagged : Log.Calm [] _ := findStage_calm (env.nesting false) { cursor := .ofText listing }
  have alike : runOn findStage (env.nesting true) { cursor := .ofText listing } =
      runOn findStage (env.nesting false) { cursor := .ofText listing } := by
    rw [runOn_findStage, runOn_findStage]
  rcases found : runOn findStage (env.nesting false) { cursor := .ofText listing } with
    ⟨fault | _, d⟩
  · rw [found] at tagged alike
    simp only [decodeBody, states, alike, found]
    exact .same rfl rfl tagged (List.forall_mem_nil _)
  · rw [found] at tagged alike
    rw [decodeBody_of_stage alike, decodeBody_of_stage found]
    simp only [states, alike, found]
    exact (turnsWithin_parallel env d.cursor.rest.length d).finished.behind tagged

/-- Strict nesting only turns the first imbalance into a fault. If a lenient run reports none, the
strict run is the same run. Otherwise the strict run fails with the first one, worded as it was
reported. Up to that point both runs go through the same states and give the same notices: all
states that the strict run goes through are in front of the report, and all others of the lenient
run are behind it. -/
theorem strict_refuses_first_imbalance (env : Environment) (listing : Text) :
    let strict := decodeBody (env.nesting true) listing
    let lenient := decodeBody (env.nesting false) listing
    match lenient.final.log.firstImbalance? with
    | none =>
      strict = lenient ∧ states (env.nesting true) listing = states (env.nesting false) listing
    | some (cause, line) =>
      strict.outcome = .error (.imbalance cause line) ∧
      (Fault.imbalance cause line).message = (Notice.imbalance cause line).message ∧
      (∃ later, lenient.final.log = strict.final.log ++ .imbalance cause line :: later) ∧
      (∃ later, states (env.nesting false) listing = states (env.nesting true) listing ++ later ∧
        ∀ d ∈ later, strict.final.log ++ [.imbalance cause line] <+: d.log) ∧
      (∀ d ∈ states (env.nesting true) listing, d.log <+: strict.final.log) ∧
      strict.turns <+: lenient.turns := by
  intro strict lenient
  have runs : ParallelRuns [] strict lenient _ _ := decodeBody_parallel env listing
  cases runs with
  | same run through calm earlier =>
    have none : lenient.final.log.firstImbalance? = none := by
      rw [← run]
      exact calm.firstImbalance?
    rw [none]
    exact ⟨run, through⟩
  | stopped cause line later outcome through calm earlier reported behind =>
    obtain ⟨further, log⟩ := reported
    rw [List.append_assoc, List.singleton_append] at log
    have first : lenient.final.log.firstImbalance? = some (cause, line) := by
      rw [← log]
      exact calm.firstImbalance?_append cause line further
    have records : strict.turns <+: lenient.turns := by
      rw [turns_decodeBody, turns_decodeBody, through]
      exact zipWith_tail_append recordOf _ later
    rw [first]
    exact ⟨outcome, rfl, ⟨further, log.symm⟩, ⟨later, through, behind⟩, earlier, records⟩

example :
    (decodeBody ({} : Environment) "ps_5_0\nelse\nendif").final.log.firstImbalance? =
      some (.strayElse, some 2) := by
  decide +kernel

end ShaderLift.Decoding
