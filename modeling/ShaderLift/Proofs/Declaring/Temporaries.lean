import ShaderLift.Proofs.Decoding.States

namespace ShaderLift

/-- The statement that declares a temporary register. -/
def temporaryText (register : Nat) : Text := "float4 r" ++ Text.ofNat register ++ ";"

theorem temporaryText_ne_nil (register : Nat) : temporaryText register ≠ [] := by
  intro none
  obtain ⟨front, _⟩ := List.append_eq_nil_iff.mp none
  obtain ⟨keyword, _⟩ := List.append_eq_nil_iff.mp front
  cases keyword

/-- The registers below a count that are not declared in a context. -/
def Context.undeclared (c : Context) (count : Int) : List Nat :=
  (List.range count.toNat).filter fun register => !c.declaredTemps.contains register

/-- The context once a declaration of temporaries has been decoded. -/
def Context.declaring (c : Context) (count : Int) : Context :=
  let added := c.undeclared count
  { c with
    declaredTemps := c.declaredTemps ++ added
    statements := c.statements ++
      (added.map (fun register => .ofText c.depth.toNat (temporaryText register)) ++
        if added.isEmpty then [] else [.blank]) }

/-- What a declaration adds once the registers below a bound are declared: one statement for each
further register and a blank line behind them, or nothing. -/
def raisingTexts (bound : Nat) (count : Int) : List Text :=
  if bound < count then
    (List.range' bound (count.toNat - bound)).map temporaryText ++ [([] : Text)]
  else []

theorem filter_range_above (bound count : Nat) :
    (List.range count).filter (fun register => !(List.range bound).contains register) =
      List.range' bound (count - bound) := by
  induction count with
  | zero => simp
  | succ count ih =>
    rw [List.range_succ, List.filter_append, ih]
    by_cases below : count < bound
    · rw [Nat.sub_eq_zero_of_le (Nat.le_of_lt below), Nat.sub_eq_zero_of_le below]
      simp [below]
    · have place : bound + (count - bound) = count := by omega
      rw [Nat.succ_sub (Nat.le_of_not_lt below), List.range'_concat]
      simp [below, place]

theorem range_append_above (bound count : Nat) :
    List.range bound ++ List.range' bound (count - bound) = List.range (max bound count) := by
  have joined : List.range' 0 bound ++ List.range' (0 + bound) (count - bound) = _ :=
    List.range'_append_1
  have length : bound + (count - bound) = max bound count := by omega
  rw [Nat.zero_add, length] at joined
  rw [List.range_eq_range', List.range_eq_range', joined]

namespace Context

variable {c : Context} {bound : Nat}

theorem undeclared_eq (initial : c.declaredTemps = List.range bound) (count : Int) :
    c.undeclared count = List.range' bound (count.toNat - bound) := by
  rw [undeclared, initial, filter_range_above]

theorem declaring_temps (initial : c.declaredTemps = List.range bound) (count : Int) :
    (c.declaring count).declaredTemps = List.range (max bound count.toNat) := by
  rw [declaring, undeclared_eq initial, initial]
  exact range_append_above bound count.toNat

theorem declaring_statements (initial : c.declaredTemps = List.range bound) (count : Int) :
    ((c.declaring count).statements.drop c.statements.length).map Statement.body =
      raisingTexts bound count := by
  have bodies : Statement.body ∘ (fun register =>
      Statement.ofText c.depth.toNat (temporaryText register)) = temporaryText := by
    funext register
    exact Statement.body_ofText _ _
  rw [declaring, undeclared_eq initial, List.drop_left, List.map_append, List.map_map, bodies,
    raisingTexts]
  by_cases raised : bound < count
  · rw [if_pos raised, if_neg (by rw [List.isEmpty_iff, List.range'_eq_nil_iff]; omega)]
    rfl
  · have none : count.toNat - bound = 0 := by omega
    rw [if_neg raised, none]
    rfl

end Context

namespace Decoding

variable {env : Environment} {d reached : Decoder}

/-- The count that the declaration of temporaries ahead says, if there is one. -/
def declaredCount? (env : Environment) (d : Decoder) : Option Int :=
  match runOn readInstruction env d with
  | (.ok (some instruction), middle) =>
    if instruction.opcode.family = .declareTemps then (runOn readInt env middle).1.toOption
    else none
  | _ => none

theorem runOn_declareTemps (env : Environment) (d : Decoder) :
    runOn declareTemps env d =
      match runOn readInt env d with
      | (.error fault, middle) => (.error fault, middle)
      | (.ok count, middle) =>
        (.ok (), { middle with context := middle.context.declaring count }) := by
  rw [declareTemps, runOn_bind]
  rcases runOn readInt env d with ⟨fault | count, middle⟩
  · rfl
  · have fresh : (List.range count.toNat).filter
        (fun register => !middle.context.declaredTemps.contains register) =
          middle.context.undeclared count := rfl
    simp only [runOn_bind, runOn_get, declareAll, runOn_modifyContext]
    rw [fresh, Context.declaring, ← List.append_assoc]
    cases middle.context.undeclared count with
    | nil =>
      simp only [List.map_nil, List.append_nil, List.isEmpty_nil, Bool.not_true,
        Bool.false_eq_true, if_false, if_true, runOn_pure]
    | cons register rest =>
      rw [List.isEmpty_cons, if_pos (by decide), if_neg (by decide)]
      rfl

theorem readInt_context (env : Environment) (d : Decoder) :
    (runOn readInt env d).2.context = d.context := by
  have kept : Accounts (fun c => c) env d.cursor.tokens readInt fun _ => True := by
    refine .andThen .readRawOperand fun raw => ?_
    split
    · exact .done _
    · exact .fail _
  exact (kept d rfl).keeps

/-- A turn that is completed declares temporaries up to the count ahead, if there is one. Any other
turn declares none. -/
theorem turn_temps (env : Environment) {token : Token} {rest : List Token}
    (ahead : d.cursor.rest = token :: rest) :
    ((runOn turn env d).2.context.declaredTemps = d.context.declaredTemps ∧
      ((runOn turn env d).1 = .ok () → declaredCount? env d = none)) ∨
    ∃ count, (runOn turn env d).1 = .ok () ∧ declaredCount? env d = some count ∧
      (runOn turn env d).2.context = d.context.declaring count := by
  have kept : Accounted (fun c => c) env _ _ _ _ := readInstruction_accounted ahead rfl
  have kept : (runOn readInstruction env d).2.context = d.context := kept.keeps
  rcases read : runOn readInstruction env d with ⟨fault | _ | instruction, middle⟩
  · have failed : runOn turn env d = _ := runOn_bind_of_error _ _ _ _ _ _ read
    rw [read] at kept
    rw [failed, ← kept]
    refine .inl ⟨rfl, ?_⟩
    rintro ⟨⟩
  · have skipped : runOn turn env d = _ := runOn_bind_of_ok _ _ _ _ _ _ read
    rw [read] at kept
    rw [skipped, ← kept]
    exact .inl ⟨rfl, fun _ => by rw [declaredCount?, read]⟩
  · have whole : runOn turn env d = runOn (dispatch instruction) env middle :=
      runOn_bind_of_ok _ _ _ _ _ _ read
    rw [read] at kept
    rw [whole, declaredCount?, read, ← kept]
    dsimp only
    by_cases family : instruction.opcode.family = .declareTemps
    · have dispatched : dispatch instruction = declareTemps := by rw [dispatch, family]
      have same := readInt_context env middle
      rw [if_pos family, dispatched, runOn_declareTemps]
      rcases found : runOn readInt env middle with ⟨fault | count, after⟩
      · rw [found] at same
        refine .inl ⟨congrArg Context.declaredTemps same, ?_⟩
        rintro ⟨⟩
      · rw [found] at same
        exact .inr ⟨count, rfl, rfl, congrArg (Context.declaring · count) same⟩
    · have temps : Accounts Context.declaredTemps env middle.cursor.tokens _ _ :=
        .dispatch (fun _ _ _ _ _ => rfl) (fun _ _ still => still trivial) False.elim
          fun _ : True => family
      exact .inl ⟨(temps middle rfl).keeps, fun _ => if_neg family⟩

/-- The declaration of temporaries between two decoders, if there is one: its count, and the
statements that it added. -/
def declarationBetween? (env : Environment) (d reached : Decoder) :
    Option (Int × List Statement) :=
  (declaredCount? env d).map fun count => (count, (recordOf d reached).added)

/-- The declarations of temporaries that lead through some decoders. -/
def declarations (env : Environment) (history : List Decoder) : List (Int × List Statement) :=
  (List.zipWith (declarationBetween? env) history history.tail).filterMap id

/-- The largest of zero and some counts. -/
def highest (counts : List Int) : Nat := (counts.foldl max 0).toNat

/-- Each of some declarations adds what is not declared below a bound or by the ones before. -/
def Raising (bound : Nat) : List (Int × List Statement) → Prop
  | [] => True
  | declaration :: later =>
    declaration.2.map Statement.body = raisingTexts bound declaration.1 ∧
      Raising (max bound declaration.1.toNat) later

/-- The bound behind some declarations. -/
def raised (bound : Nat) (declared : List (Int × List Statement)) : Nat :=
  declared.foldl (fun bound declaration => max bound declaration.1.toNat) bound

theorem toNat_foldl_max (bound : Nat) (declared : List (Int × List Statement)) :
    ((declared.map Prod.fst).foldl max (bound : Int)).toNat = raised bound declared := by
  induction declared generalizing bound with
  | nil => rfl
  | cons declaration later ih =>
    have start : max (bound : Int) declaration.1 = (max bound declaration.1.toNat : Nat) := by omega
    rw [List.map_cons, List.foldl_cons, start, ih]
    rfl

theorem raised_zero (declared : List (Int × List Statement)) :
    raised 0 declared = highest (declared.map Prod.fst) :=
  (toNat_foldl_max 0 declared).symm

namespace Raising

variable {bound : Nat}

/-- What a declaration adds depends on the largest count before it. -/
theorem added_eq {front behind : List (Int × List Statement)} {count : Int}
    {added : List Statement} (raising : Raising bound (front ++ (count, added) :: behind)) :
    added.map Statement.body = raisingTexts (raised bound front) count := by
  induction front generalizing bound with
  | nil => exact raising.1
  | cons declaration front ih => exact ih raising.2

theorem filter_raisingTexts (bound : Nat) (count : Int) :
    (raisingTexts bound count).filter (fun text => !text.isEmpty) =
      (List.range' bound (count.toNat - bound)).map temporaryText := by
  have kept : ∀ text ∈ (List.range' bound (count.toNat - bound)).map temporaryText,
      (!text.isEmpty) = true := by
    intro text inside
    obtain ⟨register, _, rfl⟩ := List.mem_map.mp inside
    simpa using temporaryText_ne_nil register
  rw [raisingTexts]
  split
  · rw [List.filter_append, List.filter_eq_self.mpr kept]
    exact List.append_nil _
  · have none : count.toNat - bound = 0 := by omega
    rw [none]
    rfl

/-- Together with the registers that were declared before, each register is declared once. -/
theorem once {declared : List (Int × List Statement)} (raising : Raising bound declared) :
    (List.range bound).map temporaryText ++
        ((declared.flatMap Prod.snd).map Statement.body).filter (fun text => !text.isEmpty) =
      (List.range (raised bound declared)).map temporaryText := by
  induction declared generalizing bound with
  | nil => exact List.append_nil _
  | cons declaration later ih =>
    obtain ⟨here, onward⟩ := raising
    rw [List.flatMap_cons, List.map_append, List.filter_append, here, filter_raisingTexts,
      ← List.append_assoc, ← List.map_append, range_append_above, ih onward]
    rfl

end Raising

theorem declarations_cons (env : Environment) (d reached : Decoder) (later : List Decoder) :
    declarations env (d :: reached :: later) =
      (declarationBetween? env d reached).toList ++ declarations env (reached :: later) := by
  rw [declarations, List.tail_cons, List.zipWith_cons_cons, List.filterMap_cons]
  cases declarationBetween? env d reached with
  | none => rfl
  | some declaration => rfl

/-- One turn: the declared registers stay an initial segment, and a declaration among what follows
is raising if it is so from there on. -/
theorem turn_raises {bound : Nat} (initial : d.context.declaredTemps = List.range bound)
    (completed : runOn turn env d = (.ok (), reached)) :
    ∃ bound', reached.context.declaredTemps = List.range bound' ∧
      ∀ later, (Raising bound' (declarations env (reached :: later)) →
        Raising bound (declarations env (d :: reached :: later))) ∧
        raised bound (declarations env (d :: reached :: later)) =
          raised bound' (declarations env (reached :: later)) := by
  obtain ⟨token, rest, ahead, _⟩ := turn_advances completed
  have turned := turn_temps env ahead
  rw [completed] at turned
  rcases turned with ⟨kept, uncounted⟩ | ⟨count, _, counted, declared⟩
  · refine ⟨bound, kept.trans initial, fun later => ?_⟩
    rw [declarations_cons, declarationBetween?, uncounted rfl]
    exact ⟨id, rfl⟩
  · refine ⟨max bound count.toNat, ?_, fun later => ?_⟩
    · rw [declared, Context.declaring_temps initial]
    · have added := Context.declaring_statements initial count
      rw [← declared] at added
      rw [declarations_cons, declarationBetween?, counted]
      exact ⟨fun onward => ⟨added, onward⟩, rfl⟩

theorem statesFrom_cons (env : Environment) (d : Decoder) :
    ∃ later, statesFrom env d = d :: later :=
  List.head?_eq_some_iff.mp (head?_statesWithin env _ d)

/-- Behind a decoder with another one after it, a turn was completed. -/
theorem statesFrom_two {later : List Decoder} {next : Decoder}
    (through : statesFrom env d = d :: next :: later) :
    runOn turn env d = (.ok (), next) ∧ statesFrom env next = next :: later := by
  cases more : d.cursor.atEnd with
  | true =>
    rw [(turns_of_end env more).2] at through
    cases through
  | false =>
    rcases turned : runOn turn env d with ⟨fault | _, reached⟩
    · rw [(turns_of_error more turned).2] at through
      cases through
    · obtain ⟨behind, onward⟩ := statesFrom_cons env reached
      rw [(turns_of_ok turned).2, onward] at through
      cases through
      exact ⟨rfl, onward⟩

/-- The decoders of a run: up to each of them every declaration is raising, and the declared
registers are those below the bound behind the declarations. -/
theorem statesFrom_raising {bound : Nat} (initial : d.context.declaredTemps = List.range bound)
    {history : List Decoder} {last : Decoder} (starts : history ++ [last] <+: statesFrom env d) :
    Raising bound (declarations env (history ++ [last])) ∧
      last.context.declaredTemps =
        List.range (raised bound (declarations env (history ++ [last]))) := by
  induction history generalizing d bound with
  | nil =>
    obtain ⟨later, through⟩ := statesFrom_cons env d
    rw [through] at starts
    obtain ⟨rfl, _⟩ := List.cons_prefix_cons.mp starts
    exact ⟨trivial, initial⟩
  | cons first history ih =>
    obtain ⟨later, through⟩ := statesFrom_cons env d
    rw [through] at starts
    obtain ⟨rfl, remaining⟩ := List.cons_prefix_cons.mp starts
    -- what is left of the history is not empty, so there was a turn
    obtain ⟨next, behind, ahead⟩ : ∃ next behind, history ++ [last] = next :: behind := by
      cases history with
      | nil => exact ⟨last, [], rfl⟩
      | cons next behind => exact ⟨next, behind ++ [last], rfl⟩
    have remaining : next :: behind <+: later := ahead ▸ remaining
    obtain ⟨more, rfl⟩ := remaining
    obtain ⟨completed, onward⟩ := statesFrom_two through
    obtain ⟨bound', segment, raises⟩ := turn_raises initial completed
    have rest := ih segment (by rw [ahead, onward]; exact ⟨more, rfl⟩)
    obtain ⟨raising, same⟩ := raises behind
    rw [List.cons_append, ahead, same]
    rw [ahead] at rest
    exact ⟨raising rest.1, rest.2⟩

/-- The end of a run: turns that fail declare nothing. -/
theorem turns_temps (env : Environment) (d : Decoder) :
    ∀ bound, d.context.declaredTemps = List.range bound →
      (turns env d).final.context.declaredTemps =
        List.range (raised bound (declarations env (statesFrom env d))) := by
  induction d using turns_induction env with
  | step d ih =>
    intro bound initial
    rcases ahead : d.cursor.rest with _ | ⟨token, rest⟩
    · have ended : d.cursor.atEnd = true := by rw [Cursor.atEnd, ahead]; rfl
      rw [(turns_of_end env ended).1, (turns_of_end env ended).2]
      exact initial
    · have more : d.cursor.atEnd = false := by rw [Cursor.atEnd, ahead]; rfl
      have temps := turn_temps env ahead
      rcases turned : runOn turn env d with ⟨fault | _, reached⟩
      · rw [turned] at temps
        rw [(turns_of_error more turned).1, (turns_of_error more turned).2]
        rcases temps with ⟨kept, _⟩ | ⟨_, completed, _⟩
        · exact kept.trans initial
        · cases completed
      · obtain ⟨bound', segment, raises⟩ := turn_raises initial turned
        obtain ⟨later, onward⟩ := statesFrom_cons env reached
        have rest := ih reached turned bound' segment
        rw [(turns_of_ok turned).1, (turns_of_ok turned).2, onward, (raises later).2, ← onward]
        exact rest

theorem findStage_temps {listing : Text}
    (found : runOn findStage env { cursor := .ofText listing } = (.ok (), d)) :
    d.context.declaredTemps = List.range 0 := by
  rw [runOn_findStage] at found
  split at found
  · cases found
  · cases found
    rfl

/-- Temporaries are declared exactly once. At every decoder of a run the declared registers are
those below the largest count so far. A declaration that says more adds a statement for each further
register and a blank line, and any other adds nothing. So far there is one statement for each
declared register, in order. The end of the run has no other registers, even if a turn failed. -/
theorem temporaries_once (env : Environment) (listing : Text) :
    (∀ history d, history ++ [d] <+: states env listing →
      let declared := declarations env (history ++ [d])
      let bound := highest (declared.map Prod.fst)
      d.context.declaredTemps = List.range bound ∧
      (∀ front (count : Int) (added : List Statement) behind,
        declared = front ++ (count, added) :: behind → added.map Statement.body =
          let before := highest (front.map Prod.fst)
          if before < count then
            (List.range' before (count.toNat - before)).map temporaryText ++ [([] : Text)]
          else []) ∧
      ((declared.flatMap Prod.snd).map Statement.body).filter (fun text => !text.isEmpty) =
        (List.range bound).map temporaryText) ∧
    (decodeBody env listing).final.context.declaredTemps =
      List.range (highest ((declarations env (states env listing)).map Prod.fst)) := by
  rcases found : runOn findStage env { cursor := .ofText listing } with ⟨fault | _, start⟩
  · have none : states env listing = [] := by simp only [states, found]
    have kept : start.context.declaredTemps = [] := by
      rw [runOn_findStage] at found
      split at found
      · cases found
        rfl
      · cases found
    refine ⟨fun history d starts => ?_, ?_⟩
    · rw [none, List.prefix_nil] at starts
      cases (List.append_eq_nil_iff.mp starts).2
    · rw [none]
      simp only [decodeBody, found]
      exact kept
  · have through : states env listing = statesFrom env start := by
      simp only [states, found, statesFrom]
    have initial := findStage_temps found
    refine ⟨fun history d starts => ?_, ?_⟩
    · rw [through] at starts
      obtain ⟨raising, segment⟩ := statesFrom_raising initial starts
      refine ⟨?_, fun front count added behind split => ?_, ?_⟩
      · rw [← raised_zero]
        exact segment
      · rw [split] at raising
        dsimp only
        rw [← raised_zero]
        exact raising.added_eq
      · rw [← raised_zero]
        exact raising.once
    · rw [decodeBody_of_stage found, finished_context, ← raised_zero, through]
      exact turns_temps env start 0 initial

/-- A listing that declares temporaries again, fewer of them, inside a block and below zero. -/
def repeatedListing : Text :=
  "ps_5_0\ndcl_temps 2\nif_nz r0.x\ndcl_temps 1\ndcl_temps 4\nendif\ndcl_temps -3\nother\nret"

theorem temporaries_once_repeated :
    ∃ history d front added behind, history ++ [d] = states {} repeatedListing ∧
      declarations {} (history ++ [d]) = front ++ ((4 : Int), added) :: behind ∧
      front.map Prod.fst = [2, 1] ∧
      added.map Statement.body = [("float4 r2;" : Text), ("float4 r3;" : Text), ([] : Text)] ∧
      d.context.declaredTemps = [0, 1, 2, 3] ∧
      (decodeBody {} repeatedListing).final.context.declaredTemps = [0, 1, 2, 3] := by
  have counts : (declarations {} (states {} repeatedListing)).map Prod.fst =
      [2, 1] ++ [4, -3] := by
    decide +kernel
  have filled : states {} repeatedListing ≠ [] := by
    intro none
    rw [none] at counts
    cases counts
  obtain ⟨along, ended⟩ := temporaries_once {} repeatedListing
  obtain ⟨front, rest, split, before, ends⟩ := List.map_eq_append_iff.mp counts
  obtain ⟨⟨count, added⟩, behind, rfl, here, _⟩ := List.map_eq_cons_iff.mp ends
  have here : count = 4 := here
  subst here
  have whole := List.dropLast_append_getLast filled
  obtain ⟨segment, each, _⟩ := along (states {} repeatedListing).dropLast
    ((states {} repeatedListing).getLast filled) ⟨[], by rw [List.append_nil, whole]⟩
  rw [whole] at segment each
  have texts := each front 4 added behind split
  rw [counts] at segment ended
  rw [before] at texts
  exact ⟨_, _, front, added, behind, whole, (congrArg (declarations {}) whole).trans split, before,
    texts, segment, ended⟩

end Decoding
end ShaderLift
