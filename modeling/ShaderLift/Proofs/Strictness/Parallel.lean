import ShaderLift.Proofs.Decoding.Accounts

namespace ShaderLift

namespace Log

/-- The first imbalance that a log reports, if there is one. -/
def firstImbalance? (log : Log) : Option (Imbalance × Option Int) :=
  log.findSome? Notice.imbalance?

/-- A log has grown, and no notice was added about blocks that do not pair up. -/
def Calm (before after : Log) : Prop :=
  ∃ added, after = before ++ added ∧ ∀ notice ∈ added, Notice.imbalance? notice = none

namespace Calm

theorem refl (log : Log) : Calm log log := ⟨[], (List.append_nil log).symm, nofun⟩

theorem trans {before middle after : Log} (first : Calm before middle)
    (second : Calm middle after) : Calm before after := by
  obtain ⟨front, rfl, calm⟩ := first
  obtain ⟨back, rfl, calm'⟩ := second
  refine ⟨front ++ back, List.append_assoc .., fun notice inside => ?_⟩
  rcases List.mem_append.mp inside with early | late
  · exact calm notice early
  · exact calm' notice late

theorem single (log : Log) {notice : Notice} (other : notice.imbalance? = none) :
    Calm log (log ++ [notice]) := by
  refine ⟨[notice], rfl, fun added inside => ?_⟩
  rw [List.mem_singleton.mp inside]
  exact other

theorem isPrefix {before after : Log} (calm : Calm before after) : before <+: after := by
  obtain ⟨added, rfl, _⟩ := calm
  exact List.prefix_append before added

theorem firstImbalance? {log : Log} (calm : Calm [] log) : log.firstImbalance? = none := by
  obtain ⟨added, rfl, others⟩ := calm
  exact List.findSome?_eq_none_iff.mpr others

theorem firstImbalance?_append {log : Log} (calm : Calm [] log) (cause : Imbalance)
    (line : Option Int) (later : Log) :
    Log.firstImbalance? (log ++ .imbalance cause line :: later) = some (cause, line) := by
  have none := calm.firstImbalance?
  simp only [Log.firstImbalance?] at none ⊢
  rw [List.findSome?_append, none, Option.none_or, List.findSome?_cons]
  rfl

end Calm
end Log

namespace Decoding

variable {α β : Type}

/-- How a strict run from a decoder compares with a lenient one: it ends in the same way and place,
or it stops with an imbalance that the lenient run reports at that point. -/
inductive Parallel (d : Decoder) : Except Fault α × Decoder → Except Fault α × Decoder → Prop
  | same (outcome : Except Fault α) (reached : Decoder) (calm : Log.Calm d.log reached.log) :
      Parallel d (outcome, reached) (outcome, reached)
  | stopped (cause : Imbalance) (line : Option Int) (reached : Decoder)
      (lenient : Except Fault α × Decoder) (calm : Log.Calm d.log reached.log)
      (reported : reached.log ++ [.imbalance cause line] <+: lenient.2.log) :
      Parallel d (.error (.imbalance cause line), reached) lenient

namespace Parallel

variable {d : Decoder} {strict lenient : Except Fault α × Decoder}

theorem grows (parallel : Parallel d strict lenient) : d.log <+: lenient.2.log := by
  cases parallel with
  | same outcome reached calm => exact calm.isPrefix
  | stopped cause line reached lenient calm reported =>
    exact (calm.isPrefix.trans (List.prefix_append ..)).trans reported

/-- Both runs behind a stretch on which they agree. -/
theorem behind {start : Decoder} (calm : Log.Calm start.log d.log)
    (parallel : Parallel d strict lenient) : Parallel start strict lenient := by
  cases parallel with
  | same outcome reached further => exact .same outcome reached (calm.trans further)
  | stopped cause line reached lenient further reported =>
    exact .stopped cause line reached lenient (calm.trans further) reported

end Parallel

/-- A step runs parallel with strict nesting and without, from every decoder. -/
def RunsParallel (env : Environment) (step : Decoding α) : Prop :=
  ∀ d, Parallel d (runOn step (env.nesting true) d) (runOn step (env.nesting false) d)

namespace RunsParallel

variable {env : Environment}

theorem chain {step : Decoding α} {next : α → Decoding β} (first : RunsParallel env step)
    (later : ∀ value, Returns (env.nesting false) step value → RunsParallel env (next value)) :
    RunsParallel env (step >>= next) := by
  intro d
  have start := first d
  rw [runOn_bind, runOn_bind]
  generalize runOn step (env.nesting true) d = strict at start ⊢
  generalize found : runOn step (env.nesting false) d = lenient at start ⊢
  cases start with
  | same outcome reached calm =>
    cases outcome with
    | error fault => exact .same _ _ calm
    | ok value => exact (later value ⟨d, _, found⟩ reached).behind calm
  | stopped cause line reached lenient calm reported =>
    obtain ⟨outcome, continued⟩ := lenient
    cases outcome with
    | error fault => exact .stopped _ _ _ _ calm reported
    | ok value =>
      -- the strict run is over; of the lenient one only the log matters from here on
      have onward := later value ⟨d, _, found⟩ continued
      exact .stopped _ _ _ _ calm (reported.trans onward.grows)

theorem bind {step : Decoding α} {next : α → Decoding β} (first : RunsParallel env step)
    (later : ∀ value, RunsParallel env (next value)) : RunsParallel env (step >>= next) :=
  first.chain fun value _ => later value

theorem pure (value : α) : RunsParallel env (Pure.pure value) :=
  fun d => .same (.ok value) d (.refl _)

theorem lift (outcome : Except Fault α) : RunsParallel env (liftM outcome) :=
  fun d => .same outcome d (.refl _)

theorem get : RunsParallel env MonadState.get := fun d => .same (.ok d) d (.refl _)

theorem throw (fault : Fault) : RunsParallel env (MonadExcept.throw fault : Decoding α) :=
  fun d => .same (.error fault) d (.refl _)

theorem fail (cause : DecodeFault) : RunsParallel env (Decoding.fail cause : Decoding α) :=
  .bind .get fun _ => .throw _

/-- Looking up something that strict nesting has no part in. -/
theorem read {next : Environment → Decoding β}
    (shared : next (env.nesting true) = next (env.nesting false))
    (later : RunsParallel env (next (env.nesting false))) :
    RunsParallel env (MonadReader.read >>= next) := by
  intro d
  simp only [runOn_bind, runOn_read]
  rw [shared]
  exact later d

theorem modify (change : Decoder → Decoder) (silent : ∀ d, (change d).log = d.log) :
    RunsParallel env (modify change) := by
  intro d
  refine .same (.ok ()) (change d) ?_
  rw [silent]
  exact .refl _

theorem modifyContext (change : Context → Context) :
    RunsParallel env (Decoding.modifyContext change) :=
  .modify _ fun _ => rfl

theorem setCursor (cursor : Cursor) : RunsParallel env (Decoding.setCursor cursor) :=
  .modify _ fun _ => rfl

theorem note {notice : Notice} (other : notice.imbalance? = none) :
    RunsParallel env (Decoding.note notice) :=
  fun d => .same (.ok ()) { d with log := d.log ++ [notice] } (.single d.log other)

/-- Here the runs part. -/
theorem unbalanced (cause : Imbalance) : RunsParallel env (Decoding.unbalanced cause) := by
  intro d
  rw [runOn_unbalanced, runOn_unbalanced]
  exact .stopped cause d.line d _ (.refl _) (List.prefix_refl _)

theorem discard {step : Decoding α} (first : RunsParallel env step) :
    RunsParallel env (Functor.discard step) := by
  rw [discard_eq_bind]
  exact first.bind fun _ => .pure ()

theorem nextToken : RunsParallel env Decoding.nextToken :=
  .bind .get fun _ => .bind (.lift _) fun _ => .bind (.setCursor _) fun _ => .pure _

theorem peekOnLine : RunsParallel env Decoding.peekOnLine := .bind .get fun _ => .pure _

theorem readGroup : RunsParallel env Decoding.readGroup := by
  refine .bind (.discard .nextToken) fun _ => .bind .get fun d => ?_
  refine .bind (.setCursor _) fun _ => ?_
  split
  · exact .pure _
  · exact .fail _

theorem nextOperandToken : RunsParallel env Decoding.nextOperandToken := by
  refine .bind .peekOnLine fun token? => ?_
  split
  · exact .nextToken
  · exact .bind .get fun _ => .fail _

theorem readLiteral : RunsParallel env Decoding.readLiteral := by
  refine .bind .readGroup fun values => ?_
  dsimp only
  split
  · exact .bind (.fail _) fun _ => .pure _
  · exact .pure _

theorem closeBrackets (text : Text) : RunsParallel env (Decoding.closeBrackets text) := by
  refine .bind .get fun d => .bind (.setCursor _) fun _ => ?_
  split
  · exact .pure _
  · exact .fail _

theorem readRawOperand : RunsParallel env Decoding.readRawOperand := by
  refine .bind .nextOperandToken fun first => .bind .get fun d => ?_
  split
  · exact .readLiteral
  · exact .closeBrackets _

end RunsParallel
end Decoding
end ShaderLift
