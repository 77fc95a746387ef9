import ShaderLift.Proofs.Watch.World

namespace ShaderLift

/-- A watcher in its surroundings while the observer runs. -/
structure Moment where
  watcher : Watcher
  world : World
  /-- How often the watcher was told that the listing has changed. -/
  heard : Nat := 0

namespace Moment

/-- The observer starts: the listing was converted for the first time and is still as it was read
then. A change in between would be noticed by nobody. -/
inductive Starts : Moment → Prop where
  | observed {home : Path} {request : Request} {watcher : Watcher} {world world' : World}
    (listed : world.listing = (Watcher.ofRequest home request).listing)
    (converted : world.perform (Watcher.ofRequest home request).turn = (.ok watcher, world'))
    (current : world'.seen = world'.version) :
    Starts { watcher, world := { world' with queue := [], reads := 0 } }

/-- What can happen next. A step that ends the watcher leads nowhere. -/
inductive Step (moment : Moment) : Moment → Prop where
  | rewrite (store : Store) : Step moment { moment with world := moment.world.rewritten store }
  | touch (store : Store) (path : Path)
    (same : readsAlike (store.read moment.world.listing)
      (moment.world.session.store.read moment.world.listing)) :
    Step moment { moment with world := moment.world.touched store path }
  /-- News arrives, not always in the order in which it was noticed. -/
  | deliver (front : List Path) (path : Path) (back : List Path) {watcher' : Watcher}
    {world' : World}
    (queued : moment.world.queue = front ++ path :: back)
    (told : (moment.watcher.notify (m := StateM World) path).run
      { moment.world with queue := front ++ back } = (watcher', world')) :
    Step moment
      { watcher := watcher', world := world',
        heard := if path = moment.world.listing then moment.heard + 1 else moment.heard }
  | loop {watcher' : Watcher} {world' : World}
    (ran : moment.world.perform moment.watcher.advance = (.ok watcher', world')) :
    Step moment { moment with watcher := watcher', world := world' }

inductive Reached : Moment → Prop where
  | start {moment : Moment} (starts : moment.Starts) : Reached moment
  | step {moment moment' : Moment} (reached : moment.Reached) (taken : moment.Step moment') :
    Reached moment'

/-- The conversions that were begun since the observer runs: those that came to read the listing, and
one that has found the flag set and is on its way there. -/
def begun (moment : Moment) : Nat :=
  moment.world.reads +
    if moment.watcher.phase = .clearing ∨ moment.watcher.phase = .reading then 1 else 0

/-- The conversion that the flag asks for, if the flag is not about to be cleared. -/
def owed (moment : Moment) : Nat :=
  if moment.watcher.needsConvert = true ∧ moment.watcher.phase ≠ .clearing then 1 else 0

/-- The listing will be read again. -/
def IsPending (moment : Moment) : Prop :=
  moment.watcher.needsConvert = true ∨ moment.world.listing ∈ moment.world.queue ∨
    moment.watcher.phase = .reading

/-- What holds of a watcher at every moment. -/
structure Sound (moment : Moment) : Prop where
  listed : moment.world.listing = moment.watcher.listing
  tracked : moment.world.seen = moment.world.version ∨ moment.IsPending
  counted : moment.begun + moment.owed ≤ moment.heard

end Moment

namespace Watcher

variable {watcher watcher' : Watcher} {world world' : World}

theorem run_notify_listing (watcher : Watcher) (world : World) :
    (watcher.notify (m := StateM World) watcher.listing).run world =
      ({ watcher with needsConvert := true },
        world.inSession (.note (.changed watcher.listing))) := by
  unfold notify
  rw [if_pos rfl]
  rfl

theorem run_notify_other {path : Path} (other : path ≠ watcher.listing) :
    (watcher.notify (m := StateM World) path).run world = (watcher, world) := by
  unfold notify
  rw [if_neg other]
  rfl

/-- A turn that begins with the flag set leaves the watcher waiting. -/
theorem perform_turn (polling : watcher.phase = .polling) (set : watcher.needsConvert = true)
    (listed : world.listing = watcher.listing)
    (ran : world.perform watcher.turn = (.ok watcher', world')) :
    watcher' = { watcher with needsConvert := false } ∧ world'.listing = world.listing := by
  obtain ⟨request, flag, phase⟩ := watcher
  dsimp only at polling set
  subst polling set
  -- The first two steps only find the flag set and clear it.
  have opened : world.perform (turn ⟨request, true, .polling⟩) =
      world.perform (advance ⟨request, false, .reading⟩ >>= advance) := rfl
  rw [opened] at ran
  obtain ⟨between, found, read, written⟩ := World.perform_bind ran
  cases advances_of_perform read listed with
  | idle polling _ => cases polling
  | found polling _ => cases polling
  | cleared clearing => cases clearing
  | wrote writing _ => cases writing
  | read _ settled left =>
    have waits := advances_of_perform written (left.listing.trans listed)
    rcases settled with rfl | ⟨shader, rfl⟩
    · cases waits with
      | idle _ _ => exact ⟨rfl, left.listing⟩
      | found _ set => cases set
      | cleared clearing => cases clearing
      | read reading _ _ => cases reading
      | wrote writing _ => cases writing
    · cases waits with
      | idle polling _ => cases polling
      | found polling _ => cases polling
      | cleared clearing => cases clearing
      | read reading _ _ => cases reading
      | wrote _ later => exact ⟨rfl, later.listing.trans left.listing⟩

end Watcher

namespace Moment

theorem Starts.sound {moment : Moment} (starts : moment.Starts) : moment.Sound := by
  cases starts with
  | observed listed converted current =>
    obtain ⟨rfl, kept⟩ := Watcher.perform_turn rfl rfl listed converted
    exact ⟨kept.trans listed, .inl current, Nat.le_refl 0⟩

variable {moment moment' : Moment}

theorem owed_le_one (moment : Moment) : moment.owed ≤ 1 := by
  unfold owed
  split <;> omega

/-- Moving on in the loop keeps what holds of a watcher. -/
theorem Sound.advance {watcher' : Watcher} {world' : World} (sound : moment.Sound)
    (advances : moment.watcher.Advances moment.world watcher' world') :
    Sound { moment with watcher := watcher', world := world' } := by
  obtain ⟨listed, tracked, counted⟩ := sound
  unfold begun owed at counted
  cases advances with
  | idle _ _ => exact ⟨listed, tracked, counted⟩
  | found polling set =>
    refine ⟨listed, .inr (.inl set), ?_⟩
    simpa [begun, owed, polling, set] using counted
  | cleared clearing =>
    refine ⟨listed, .inr (.inr (.inr rfl)), ?_⟩
    simpa [begun, owed, clearing] using counted
  | read reading settled left =>
    refine ⟨left.listing.trans listed, ?_, ?_⟩
    · rcases left.told with same | told
      · exact .inl (left.seen.trans same.symm)
      · exact .inr (.inr (.inl (left.listing ▸ told)))
    · rcases settled with rfl | ⟨shader, rfl⟩
      · simpa [begun, owed, reading, left.reads, World.seeing] using counted
      · simpa [begun, owed, reading, left.reads, World.seeing] using counted
  | wrote writing left =>
    refine ⟨left.listing.trans listed, ?_, ?_⟩
    · rcases left.told with same | told
      · rw [left.seen, same]
        refine tracked.imp_right ?_
        rintro (flag | queued | reading)
        · exact .inl flag
        · exact .inr (.inl (left.listing ▸ left.queue queued))
        · rw [writing] at reading
          cases reading
      · exact .inr (.inr (.inl (left.listing ▸ told)))
    · simpa [begun, owed, writing, left.reads] using counted

theorem Sound.deliver {front back : List Path} {path : Path} {watcher' : Watcher} {world' : World}
    (sound : moment.Sound) (queued : moment.world.queue = front ++ path :: back)
    (told : (moment.watcher.notify (m := StateM World) path).run
      { moment.world with queue := front ++ back } = (watcher', world')) :
    Sound { watcher := watcher', world := world',
            heard := if path = moment.world.listing then moment.heard + 1 else moment.heard } := by
  obtain ⟨listed, tracked, counted⟩ := sound
  by_cases named : path = moment.watcher.listing
  · rw [named, Watcher.run_notify_listing] at told
    cases told
    have again : path = moment.world.listing := named.trans listed.symm
    refine ⟨listed, .inr (.inl rfl), ?_⟩
    rw [if_pos again]
    have before : moment.begun ≤ moment.heard := Nat.le_trans (Nat.le_add_right _ _) counted
    exact Nat.add_le_add before (owed_le_one _)
  · rw [Watcher.run_notify_other named] at told
    cases told
    have another : path ≠ moment.world.listing := fun same => named (same.trans listed)
    rw [if_neg another]
    refine ⟨listed, tracked.imp_right ?_, counted⟩
    rintro (flag | waiting | reading)
    · exact .inl flag
    · rw [queued, List.mem_append, List.mem_cons] at waiting
      rcases waiting with early | same | late
      · exact .inr (.inl (List.mem_append_left _ early))
      · exact absurd same.symm another
      · exact .inr (.inl (List.mem_append_right _ late))
    · exact .inr (.inr reading)

theorem Sound.step (sound : moment.Sound) (taken : moment.Step moment') : moment'.Sound := by
  cases taken with
  | rewrite store =>
    have news : moment.world.listing ∈ moment.world.queue ++ [moment.world.listing] :=
      List.mem_append_right _ (List.mem_singleton.mpr rfl)
    exact ⟨sound.listed, .inr (.inr (.inl news)), sound.counted⟩
  | touch store path _ =>
    refine ⟨sound.listed, sound.tracked.imp_right ?_, sound.counted⟩
    rintro (flag | queued | reading)
    · exact .inl flag
    · exact .inr (.inl (List.mem_append_left _ queued))
    · exact .inr (.inr reading)
  | deliver front path back queued told => exact sound.deliver queued told
  | loop ran => exact sound.advance (Watcher.advances_of_perform ran sound.listed)

theorem Reached.sound (reached : moment.Reached) : moment.Sound := by
  induction reached with
  | start starts => exact starts.sound
  | step _ taken ih => exact ih.step taken

/-- As long as the last conversion has read an older version, the flag is set, or news of the change
is still to arrive, or the listing is about to be read. There are no more conversions than news of
the listing, and news of another file changes nothing. -/
theorem Reached.change_pending (reached : moment.Reached) :
    (moment.world.seen < moment.world.version →
      moment.watcher.needsConvert = true ∨ moment.world.listing ∈ moment.world.queue ∨
        moment.watcher.phase = .reading) ∧
    moment.begun ≤ moment.heard ∧
    ∀ path, path ≠ moment.world.listing →
      (moment.watcher.notify (m := StateM World) path).run moment.world =
        (moment.watcher, moment.world) := by
  have sound := reached.sound
  refine ⟨?_, ?_, ?_⟩
  · intro older
    exact sound.tracked.resolve_left (Nat.ne_of_lt older)
  · have counted := sound.counted
    omega
  · intro path other
    exact Watcher.run_notify_other (sound.listed ▸ other)

/-- A watcher of the listing `/blur.asm` that wants no reports. -/
def ofBlur (needsConvert : Bool) (phase : Phase) (store : Store) (version seen reads : Nat)
    (queue : List Path) (heard : Nat) : Moment where
  watcher := { request := { input := "/blur.asm" }, needsConvert, phase }
  world :=
    { listing := ⟨.root, ["blur.asm"]⟩, session := { store, threshold := 100 },
      version, seen, reads, queue }
  heard

/-- The listing changes right after it was read, while the watcher polls with the flag clear. -/
theorem Reached.change_pending_after_read : ∃ moment : Moment, moment.Reached ∧
    moment.watcher.needsConvert = false ∧ moment.watcher.phase = .polling ∧ moment.begun = 1 ∧
    moment.world.seen < moment.world.version ∧ moment.world.listing ∈ moment.world.queue ∧
    moment.begun ≤ moment.heard ∧
    (moment.watcher.notify (m := StateM World) ⟨.root, ["blur_ps.hlsl"]⟩).run moment.world =
      (moment.watcher, moment.world) := by
  have starts : Starts (ofBlur false .polling {} 0 0 0 [] 0) :=
    @Starts.observed ⟨.root, []⟩ { input := "blur.asm" } _
      { listing := ⟨.root, ["blur.asm"]⟩, session := { threshold := 100 } } _ rfl rfl rfl
  have written : Reached (ofBlur false .polling { entries := [(["blur.asm"], .file [])] } 1 0 0
      [⟨.root, ["blur.asm"]⟩] 0) := (Reached.start starts).step (.rewrite _)
  have touched : Reached (ofBlur false .polling { entries := [(["blur.asm"], .file [])] } 1 0 0
      [⟨.root, ["blur.asm"]⟩, ⟨.root, ["blur_ps.hlsl"]⟩] 0) := written.step (.touch _ _ rfl)
  -- The news of the other file arrives first and leaves the flag clear.
  have toldOther : Reached (ofBlur false .polling { entries := [(["blur.asm"], .file [])] } 1 0 0
      [⟨.root, ["blur.asm"]⟩] 0) :=
    touched.step (.deliver [⟨.root, ["blur.asm"]⟩] ⟨.root, ["blur_ps.hlsl"]⟩ [] rfl rfl)
  have told : Reached (ofBlur true .polling { entries := [(["blur.asm"], .file [])] } 1 0 0 [] 1) :=
    toldOther.step (.deliver [] ⟨.root, ["blur.asm"]⟩ [] rfl rfl)
  have found : Reached (ofBlur true .clearing { entries := [(["blur.asm"], .file [])] } 1 0 0
      [] 1) := told.step (.loop rfl)
  have cleared : Reached (ofBlur false .reading { entries := [(["blur.asm"], .file [])] } 1 0 0
      [] 1) := found.step (.loop rfl)
  have removed : Reached (ofBlur false .reading {} 2 0 0 [⟨.root, ["blur.asm"]⟩] 1) :=
    cleared.step (.rewrite _)
  have failed : Reached (ofBlur false .polling {} 2 2 1 [⟨.root, ["blur.asm"]⟩] 1) :=
    removed.step (.loop rfl)
  have changed : Reached (ofBlur false .polling { entries := [(["blur.asm"], .file [])] } 3 2 1
      [⟨.root, ["blur.asm"]⟩, ⟨.root, ["blur.asm"]⟩] 1) := failed.step (.rewrite _)
  obtain ⟨pending, counted, ignored⟩ := changed.change_pending
  refine ⟨_, changed, rfl, rfl, rfl, by decide, ?_, counted, ignored _ (by decide)⟩
  rcases pending (by decide) with flag | queued | reading
  · cases flag
  · exact queued
  · cases reading

end Moment
end ShaderLift
