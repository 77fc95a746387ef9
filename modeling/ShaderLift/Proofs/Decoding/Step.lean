import ShaderLift.Body.Run

namespace ShaderLift

/-- Whether a fault says that an instruction cannot be read. -/
def Fault.isDecode : Fault → Bool
  | decode .. => true
  | _ => false

theorem eq_ok_of_isOk (outcome : Except Fault Unit) (succeeds : outcome.isOk = true) :
    outcome = .ok () := by
  cases outcome with
  | error fault => cases succeeds
  | ok value => rfl

namespace Decoding

variable {α β : Type}

theorem runOn_bind (step : Decoding α) (next : α → Decoding β) (env : Environment)
    (d : Decoder) :
    runOn (step >>= next) env d =
      match runOn step env d with
      | (.ok value, reached) => runOn (next value) env reached
      | (.error fault, reached) => (.error fault, reached) := by
  simp only [runOn, bind, ReaderT.bind, ExceptT.bind, ExceptT.mk, StateT.bind]
  rcases step env d with ⟨fault | value, reached⟩ <;> rfl

theorem runOn_bind_of_ok (step : Decoding α) (next : α → Decoding β) (env : Environment)
    (d reached : Decoder) (value : α) (success : runOn step env d = (.ok value, reached)) :
    runOn (step >>= next) env d = runOn (next value) env reached := by
  rw [runOn_bind, success]

theorem runOn_bind_of_error (step : Decoding α) (next : α → Decoding β) (env : Environment)
    (d reached : Decoder) (fault : Fault) (failed : runOn step env d = (.error fault, reached)) :
    runOn (step >>= next) env d = (.error fault, reached) := by
  rw [runOn_bind, failed]

theorem runOn_of_isOk (step : Decoding Unit) (env : Environment) (d : Decoder)
    (succeeds : (runOn step env d).1.isOk = true) :
    runOn step env d = (.ok (), (runOn step env d).2) :=
  Prod.ext (eq_ok_of_isOk _ succeeds) rfl

@[simp] theorem runOn_pure (value : α) (env : Environment) (d : Decoder) :
    runOn (pure value) env d = (.ok value, d) := rfl

@[simp] theorem runOn_get (env : Environment) (d : Decoder) :
    runOn (get : Decoding Decoder) env d = (.ok d, d) := rfl

@[simp] theorem runOn_read (env : Environment) (d : Decoder) :
    runOn (read : Decoding Environment) env d = (.ok env, d) := rfl

@[simp] theorem runOn_modify (change : Decoder → Decoder) (env : Environment) (d : Decoder) :
    runOn (modify change : Decoding Unit) env d = (.ok (), change d) := rfl

@[simp] theorem runOn_throw (fault : Fault) (env : Environment) (d : Decoder) :
    runOn (throw fault : Decoding α) env d = (.error fault, d) := rfl

@[simp] theorem runOn_lift (outcome : Except Fault α) (env : Environment) (d : Decoder) :
    runOn (liftM outcome : Decoding α) env d = (outcome, d) := rfl

@[simp] theorem runOn_registers (env : Environment) (d : Decoder) :
    runOn registers env d = (.ok env.symbols.registers, d) := rfl

@[simp] theorem runOn_note (notice : Notice) (env : Environment) (d : Decoder) :
    runOn (note notice) env d = (.ok (), { d with log := d.log ++ [notice] }) := rfl

@[simp] theorem runOn_modifyContext (change : Context → Context) (env : Environment)
    (d : Decoder) :
    runOn (modifyContext change) env d = (.ok (), { d with context := change d.context }) := rfl

@[simp] theorem runOn_setCursor (cursor : Cursor) (env : Environment) (d : Decoder) :
    runOn (setCursor cursor) env d = (.ok (), { d with cursor }) := rfl

@[simp] theorem runOn_fail (cause : DecodeFault) (env : Environment) (d : Decoder) :
    runOn (fail cause : Decoding α) env d = (.error (.decode cause d.line), d) := rfl

@[simp] theorem runOn_peekOnLine (env : Environment) (d : Decoder) :
    runOn peekOnLine env d = (.ok (d.cursor.head?.filter (isOnLine d.line)), d) := rfl

theorem discard_eq_bind (step : Decoding α) :
    (discard step : Decoding Unit) = step >>= fun _ => pure () :=
  (bind_pure_comp (fun _ => ()) step).symm

theorem runOn_nextToken (env : Environment) (d : Decoder) (token : Token) (rest : List Token)
    (ahead : d.cursor.rest = token :: rest) :
    runOn nextToken env d =
      (.ok token, { d with cursor := ⟨token :: d.cursor.passed, rest⟩ }) := by
  have moved : d.cursor.next = .ok (token, ⟨token :: d.cursor.passed, rest⟩) := by
    simp only [Cursor.next, ahead]
  simp only [nextToken, runOn_bind, runOn_get, moved, runOn_lift, runOn_setCursor, runOn_pure]

/-- The expression that an operand stands for, from the register tables alone. -/
def resolved (registers : Registers) (raw : Text) : Except Fault Text := do
  match ← registers.query raw with
  | some name => return name
  | none =>
    let modified := Operand.splitModifiers raw
    return modified.around (← Operand.normalizeIndexed modified.inner)

theorem runOn_resolve (raw : Text) (env : Environment) (d : Decoder) :
    runOn (resolve raw) env d = (resolved env.symbols.registers raw, d) := by
  rw [resolve, runOn_bind, runOn_registers]
  simp only [runOn_bind, runOn_lift]
  unfold resolved
  rcases env.symbols.registers.query raw with fault | _ | name
  · rfl
  · simp only [runOn_bind, runOn_lift]
    rcases Operand.normalizeIndexed (Operand.splitModifiers raw).inner <;> rfl
  · rfl

theorem runOn_cast (expression : Text) (target : Swizzle) (env : Environment) (d : Decoder) :
    runOn (cast expression target) env d =
      (env.symbols.registers.cast expression target, d) := rfl

end Decoding
end ShaderLift
