import ShaderLift.Watch.Watcher

namespace ShaderLift

/-- Whether two attempts to read a file give the same. -/
def readsAlike : Except AccessIssue (List UInt8) → Except AccessIssue (List UInt8) → Bool
  | .ok bytes, .ok bytes' => bytes = bytes'
  | .error issue, .error issue' => issue = issue'
  | _, _ => false

/-- The surroundings of a watcher. -/
structure World where
  /-- The listing that is watched. -/
  listing : Path
  session : Session := {}
  /-- How often the listing has changed. -/
  version : Nat := 0
  /-- The version of the listing when it was last to be read. -/
  seen : Nat := 0
  /-- How often the listing was to be read, with or without success. -/
  reads : Nat := 0
  /-- The files whose changes were noticed and not yet told. -/
  queue : List Path := []

namespace World

/-- The listing changes. -/
def rewritten (store : Store) (world : World) : World :=
  { world with
    session := { world.session with store }
    version := world.version + 1
    queue := world.queue ++ [world.listing] }

/-- Files change, and the listing stays as it is. -/
def touched (store : Store) (path : Path) (world : World) : World :=
  { world with session := { world.session with store }, queue := world.queue ++ [path] }

/-- The listing is read. -/
def seeing (world : World) : World :=
  { world with seen := world.version, reads := world.reads + 1 }

def read (path : Path) (world : World) : Except AccessIssue (List UInt8) × World :=
  (world.session.store.read path, if path = world.listing then world.seeing else world)

/-- Writes a file. Under another name it may be the listing itself. -/
def write (path : Path) (bytes : List UInt8) (world : World) : Except AccessIssue Unit × World :=
  match world.session.store.write path bytes with
  | .error issue => (.error issue, world)
  | .ok store =>
    if readsAlike (store.read world.listing) (world.session.store.read world.listing) then
      (.ok (), world.touched store path)
    else (.ok (), world.rewritten store)

def inSession (change : Session → Session) (world : World) : World :=
  { world with session := change world.session }

instance : Host (StateM World) where
  read := read
  write := write
  now := return (← get).session.clock
  print text :=
    modify (inSession fun session => { session with printed := session.printed ++ text })
  listen threshold := modify (inSession fun session => { session with threshold })
  report entry := modify (inSession (.note entry))

/-- Does some work that may stop. -/
def perform {α : Type} (world : World) (work : ExceptT Stop (StateM World) α) :
    Except Stop α × World :=
  work.run.run world

/-- Surroundings in which the listing was not read since, and news of every change of the listing is
still to be told. -/
structure Leaves (world world' : World) : Prop where
  listing : world'.listing = world.listing
  seen : world'.seen = world.seen
  reads : world'.reads = world.reads
  queue : world.queue ⊆ world'.queue
  version : world.version ≤ world'.version
  told : world'.version = world.version ∨ world.listing ∈ world'.queue

namespace Leaves

theorem refl (world : World) : world.Leaves world :=
  ⟨rfl, rfl, rfl, List.Subset.refl _, Nat.le_refl _, .inl rfl⟩

theorem trans {first second third : World} (before : first.Leaves second)
    (after : second.Leaves third) : first.Leaves third where
  listing := after.listing.trans before.listing
  seen := after.seen.trans before.seen
  reads := after.reads.trans before.reads
  queue := List.Subset.trans before.queue after.queue
  version := Nat.le_trans before.version after.version
  told := by
    rcases after.told with same | told
    · rcases before.told with same' | told'
      · exact .inl (same.trans same')
      · exact .inr (after.queue told')
    · rw [before.listing] at told
      exact .inr told

theorem inSession (change : Session → Session) (world : World) :
    world.Leaves (world.inSession change) :=
  ⟨rfl, rfl, rfl, List.Subset.refl _, Nat.le_refl _, .inl rfl⟩

theorem touched (store : Store) (path : Path) (world : World) :
    world.Leaves (world.touched store path) :=
  ⟨rfl, rfl, rfl, List.subset_append_left _ _, Nat.le_refl _, .inl rfl⟩

theorem rewritten (store : Store) (world : World) : world.Leaves (world.rewritten store) where
  listing := rfl
  seen := rfl
  reads := rfl
  queue := List.subset_append_left _ _
  version := Nat.le_succ _
  told := .inr (List.mem_append_right _ (List.mem_singleton.mpr rfl))

theorem write (path : Path) (bytes : List UInt8) (world : World) :
    world.Leaves (world.write path bytes).2 := by
  unfold World.write
  split
  · exact refl world
  · rename_i store _
    split
    · exact touched store path world
    · exact rewritten store world

end Leaves

/-- A computation that does not read the listing and leaves news of its changes. -/
def Careful {α : Type} (work : StateM World α) : Prop :=
  ∀ world : World, world.Leaves (work.run world).2

namespace Careful

variable {α β : Type}

theorem pure (value : α) : Careful (pure value : StateM World α) := fun world => .refl world

theorem bind {work : StateM World α} {next : α → StateM World β} (first : Careful work)
    (later : ∀ value, Careful (next value)) : Careful (work >>= next) := by
  intro world
  exact (first world).trans (later _ _)

theorem report (entry : Report) : Careful (Host.report entry : StateM World Unit) :=
  fun world => .inSession _ world

theorem now : Careful (Host.now : StateM World Text) := fun world => .refl world

theorem write (path : Path) (bytes : List UInt8) :
    Careful (FileAccess.write path bytes : StateM World _) := fun world => .write path bytes world

/-- The same for computations that may stop. -/
theorem except_bind {work : ExceptT Stop (StateM World) α}
    {next : α → ExceptT Stop (StateM World) β} (first : Careful work.run)
    (later : ∀ value, Careful (next value).run) : Careful (work >>= next).run := by
  rw [ExceptT.run_bind]
  refine first.bind ?_
  intro result
  cases result with
  | ok value => exact later value
  | error stop => exact pure _

theorem lift {work : StateM World α} (careful : Careful work) :
    Careful (liftM work : ExceptT Stop (StateM World) α).run :=
  careful.bind fun _ => pure _

theorem throw (stop : Stop) : Careful (throw stop : ExceptT Stop (StateM World) α).run := pure _

theorem except_pure (value : α) : Careful (Pure.pure value : ExceptT Stop (StateM World) α).run :=
  pure _

theorem forIn (values : List α) (start : β)
    {step : α → β → ExceptT Stop (StateM World) (ForInStep β)}
    (each : ∀ value state, Careful (step value state).run) :
    Careful (ForIn.forIn values start step).run := by
  induction values generalizing start with
  | nil => exact pure _
  | cons value rest ih =>
    rw [List.forIn_cons]
    refine except_bind (each value start) ?_
    intro reached
    cases reached with
    | done state => exact pure _
    | yield state => exact ih state

end Careful

theorem careful_translate_error (request : Request) (fault : FileFault) :
    Careful (Command.translate request (.error fault) : ExceptT Stop (StateM World) Shader).run := by
  cases fault with
  | access issue path => exact .except_bind (.lift (.report _)) fun _ => .throw _
  | _ => exact .throw _

theorem careful_translate_ok (request : Request) (listing : Text) :
    Careful (Command.translate request (.ok listing) : ExceptT Stop (StateM World) Shader).run := by
  unfold Command.translate
  refine .except_bind (.forIn _ _ ?_) ?_
  · intro notice _
    exact .except_bind (.lift (.report _)) fun _ => .except_pure _
  intro _
  split
  · split
    · exact .except_bind (.lift (.report _)) fun _ => .throw _
    · exact .throw _
  · split
    · exact .except_bind (.lift .now) fun _ => .except_pure _
    · exact .except_pure _

theorem careful_writeSource (path : Path) (code : Text) :
    Careful (writeSource path code : StateM World _) := by
  unfold writeSource
  split
  · exact .pure _
  · refine .bind (.write path _) ?_
    intro answer
    cases answer with
    | error issue => exact .pure _
    | ok _ => exact .pure _

theorem careful_store (request : Request) (shader : Shader) :
    Careful (Command.store request shader : ExceptT Stop (StateM World) Unit).run := by
  unfold Command.store
  split
  · exact .throw _
  · refine .except_bind (.lift (.report _)) fun _ => .except_bind (.lift (careful_writeSource _ _)) ?_
    intro answer
    split
    · exact .except_bind (.lift (.report _)) fun _ => .throw _
    · exact .throw _
    · exact .lift (.report _)

theorem careful_translate (request : Request) (found : Except FileFault Text) :
    Careful (Command.translate request found : ExceptT Stop (StateM World) Shader).run := by
  cases found with
  | error fault => exact careful_translate_error request fault
  | ok listing => exact careful_translate_ok request listing

/-- The listing is read once, unless its path cannot be handed to the file system. -/
theorem run_readListing (world : World) :
    (readListing (m := StateM World) world.listing).run world = (.error .nullCharacter, world) ∨
      ((readListing (m := StateM World) world.listing).run world).2 = world.seeing := by
  have marked : (FileAccess.read (m := StateM World) world.listing).run world =
      (world.session.store.read world.listing, world.seeing) :=
    congrArg (Prod.mk _) (if_pos rfl)
  unfold readListing
  cases world.listing.isClean with
  | false => exact .inl rfl
  | true =>
    right
    simp only [Bool.not_true, Bool.false_eq_true, if_false, StateT.run_bind, marked]
    cases world.session.store.read world.listing with
    | error issue => rfl
    | ok bytes =>
      dsimp only [bind]
      cases Text.decode bytes with
      | error error => rfl
      | ok text => rfl

/-- A conversion that reads the listing reads it once. -/
theorem perform_render (request : Request) (world : World)
    (listed : world.listing = .ofText request.input) :
    (world.perform (Command.render request)).1 = .error (.fault .nullCharacter) ∨
      world.seeing.Leaves (world.perform (Command.render request)).2 := by
  have parts : world.perform (Command.render request) =
      perform ((readListing (m := StateM World) world.listing).run world).2
        (Command.translate request ((readListing (m := StateM World) world.listing).run world).1) := by
    rw [listed]
    rfl
  rw [parts]
  rcases run_readListing world with refused | marked
  · left
    rw [refused]
    rfl
  · right
    rw [marked]
    exact careful_translate _ _ _

theorem perform_bind {α β : Type} {work : ExceptT Stop (StateM World) α}
    {next : α → ExceptT Stop (StateM World) β} {result : β} {world world' : World}
    (ran : world.perform (work >>= next) = (.ok result, world')) :
    ∃ value between, world.perform work = (.ok value, between) ∧
      between.perform (next value) = (.ok result, world') := by
  rcases performed : world.perform work with ⟨outcome, between⟩
  unfold perform at performed ran
  simp only [ExceptT.run_bind, StateT.run_bind, performed] at ran
  cases outcome with
  | ok value => exact ⟨value, between, rfl, ran⟩
  | error stop => cases ran

end World

namespace Watcher

/-- A part of a conversion that does not end the watcher went well or was reported. -/
theorem perform_settle {α : Type} {watcher watcher' : Watcher} {next : α → Phase}
    {work : ExceptT Stop (StateM World) α} {world world' : World}
    (ran : world.perform (watcher.settle next work) = (.ok watcher', world')) :
    (∃ result, world.perform work = (.ok result, world') ∧
        watcher' = { watcher with phase := next result }) ∨
      ((world.perform work).1 = .error .reported ∧ (world.perform work).2.Leaves world' ∧
        watcher' = { watcher with phase := .polling }) := by
  rcases performed : world.perform work with ⟨outcome, between⟩
  unfold World.perform at performed ran
  simp only [settle, ExceptT.run_mk, StateT.run_bind, performed] at ran
  cases outcome with
  | ok result =>
    cases ran
    exact .inl ⟨result, rfl, rfl⟩
  | error stop =>
    cases stop with
    | reported =>
      cases ran
      exact .inr ⟨rfl, World.Careful.report _ between, rfl⟩
    | fault cause => cases ran
    | unknownLevel name => cases ran

/-- What one step of the loop can do. -/
inductive Advances (watcher : Watcher) (world : World) : Watcher → World → Prop where
  | idle (polling : watcher.phase = .polling) (clear : watcher.needsConvert = false) :
    Advances watcher world watcher world
  | found (polling : watcher.phase = .polling) (set : watcher.needsConvert = true) :
    Advances watcher world { watcher with phase := .clearing } world
  | cleared (clearing : watcher.phase = .clearing) :
    Advances watcher world { watcher with needsConvert := false, phase := .reading } world
  /-- A conversion that failed goes back to polling. -/
  | read {phase : Phase} {world' : World} (reading : watcher.phase = .reading)
    (settled : phase = .polling ∨ ∃ shader, phase = .writing shader)
    (left : world.seeing.Leaves world') : Advances watcher world { watcher with phase } world'
  | wrote {shader : Shader} {world' : World} (writing : watcher.phase = .writing shader)
    (left : world.Leaves world') : Advances watcher world { watcher with phase := .polling } world'

theorem advances_of_perform {watcher watcher' : Watcher} {world world' : World}
    (ran : world.perform watcher.advance = (.ok watcher', world'))
    (listed : world.listing = watcher.listing) : watcher.Advances world watcher' world' := by
  unfold advance at ran
  cases phase : watcher.phase with
  | polling =>
    rw [phase] at ran
    dsimp only at ran
    by_cases flag : watcher.needsConvert = true
    · rw [if_pos flag] at ran
      cases ran
      exact .found phase flag
    · rw [if_neg flag] at ran
      cases ran
      exact .idle phase (Bool.eq_false_iff.mpr flag)
  | clearing =>
    rw [phase] at ran
    cases ran
    exact .cleared phase
  | reading =>
    rw [phase] at ran
    rcases World.perform_render watcher.request world listed with refused | marked
    · -- A path with a null character ends the watcher.
      rcases perform_settle ran with ⟨shader, rendered, _⟩ | ⟨reported, _, _⟩
      · rw [rendered] at refused
        cases refused
      · rw [reported] at refused
        cases refused
    · rcases perform_settle ran with ⟨shader, rendered, rfl⟩ | ⟨_, left, rfl⟩
      · rw [rendered] at marked
        exact .read phase (.inr ⟨shader, rfl⟩) marked
      · exact .read phase (.inl rfl) (marked.trans left)
  | writing shader =>
    rw [phase] at ran
    have stored : world.Leaves (world.perform (Command.store watcher.request shader)).2 :=
      World.careful_store watcher.request shader world
    rcases perform_settle ran with ⟨_, performed, rfl⟩ | ⟨_, left, rfl⟩
    · rw [performed] at stored
      exact .wrote phase stored
    · exact .wrote phase (stored.trans left)

end Watcher
end ShaderLift
