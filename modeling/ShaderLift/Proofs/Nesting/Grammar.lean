import ShaderLift.Proofs.Nesting.Outline

namespace ShaderLift

deriving instance DecidableEq for Marker

/-- An open block, and whether its alternative has been met. -/
structure OpenBlock where
  kind : Block
  divided : Bool := false
  deriving DecidableEq

namespace Marker

/-- The markers of the grammar: those that begin, divide and end a block, and labels. -/
def isFlow : Marker → Bool
  | opening .branch | opening .loop | opening .select => true
  | closing .branch | closing .loop | closing .select => true
  | alternative | label => true
  | _ => false

/-- The sequences of markers that make up a body, which is that of a switch or not. Labels stand
directly in the body of a switch. -/
inductive Derives : Bool → List Marker → Prop
  | done {inSwitch : Bool} : Derives inSwitch []
  | branch {inSwitch : Bool} {body rest : List Marker} (inner : Derives false body)
      (later : Derives inSwitch rest) :
      Derives inSwitch (opening .branch :: (body ++ closing .branch :: rest))
  | alternatives {inSwitch : Bool} {body other rest : List Marker} (inner : Derives false body)
      (otherwise : Derives false other) (later : Derives inSwitch rest) :
      Derives inSwitch
        (opening .branch :: (body ++ alternative :: (other ++ closing .branch :: rest)))
  | loop {inSwitch : Bool} {body rest : List Marker} (inner : Derives false body)
      (later : Derives inSwitch rest) :
      Derives inSwitch (opening .loop :: (body ++ closing .loop :: rest))
  | switch {inSwitch : Bool} {body rest : List Marker} (inner : Derives true body)
      (later : Derives inSwitch rest) :
      Derives inSwitch (opening .select :: (body ++ closing .select :: rest))
  | label {rest : List Marker} (later : Derives true rest) : Derives true (label :: rest)

/-- The open blocks behind a marker, innermost first. A label is a place in a block and opens
none. -/
def track (opened : List OpenBlock) : Marker → List OpenBlock
  | opening block => ⟨block, false⟩ :: opened
  | alternative =>
    match opened with
    | [] => []
    | inner :: outer => { inner with divided := true } :: outer
  | closing _ => opened.tail
  | _ => opened

/-- The open blocks behind some markers. -/
def openBehind (opened : List OpenBlock) (markers : List Marker) : List OpenBlock :=
  markers.foldl track opened

/-- A rule holds for every marker of a sequence and the blocks that are open in front of it. -/
def Everywhere (rule : List OpenBlock → Marker → Prop) (opened : List OpenBlock)
    (markers : List Marker) : Prop :=
  ∀ front marker back, markers = front ++ marker :: back → rule (openBehind opened front) marker

/-- What ends a block finds one of its kind innermost, and an alternative finds a branch. -/
def Pairs (opened : List OpenBlock) : Marker → Prop
  | closing block => ∃ divided, opened.head? = some ⟨block, divided⟩
  | alternative => ∃ divided, opened.head? = some ⟨.branch, divided⟩
  | _ => True

/-- An alternative is the first one of the innermost open block, a branch. -/
def DividesOnce (opened : List OpenBlock) : Marker → Prop
  | alternative => opened.head? = some ⟨.branch, false⟩
  | _ => True

/-- A label stands directly in an open switch. -/
def LabelsSwitch (opened : List OpenBlock) : Marker → Prop
  | label => ∃ divided, opened.head? = some ⟨.select, divided⟩
  | _ => True

/-- All that the grammar asks of a marker. -/
structure Fits (opened : List OpenBlock) (marker : Marker) : Prop where
  pairs : Pairs opened marker
  dividesOnce : DividesOnce opened marker
  labelsSwitch : LabelsSwitch opened marker

section Everywhere

variable {rule : List OpenBlock → Marker → Prop} {opened : List OpenBlock} {marker : Marker}
  {front rest : List Marker}

theorem openBehind_append (opened : List OpenBlock) (front rest : List Marker) :
    openBehind opened (front ++ rest) = openBehind (openBehind opened front) rest :=
  List.foldl_append ..

theorem everywhere_nil (rule : List OpenBlock → Marker → Prop) (opened : List OpenBlock) :
    Everywhere rule opened [] := by
  intro front marker back split
  simp at split

theorem everywhere_cons :
    Everywhere rule opened (marker :: rest) ↔
      rule opened marker ∧ Everywhere rule (marker.track opened) rest := by
  constructor
  · intro each
    refine ⟨each [] marker rest rfl, fun front other back split => ?_⟩
    exact each (marker :: front) other back (by rw [split, List.cons_append])
  · rintro ⟨here, later⟩ front other back split
    cases front with
    | nil =>
      cases split
      exact here
    | cons first front =>
      cases split
      exact later front other back rfl

theorem everywhere_append :
    Everywhere rule opened (front ++ rest) ↔
      Everywhere rule opened front ∧ Everywhere rule (openBehind opened front) rest := by
  induction front generalizing opened with
  | nil => simp [everywhere_nil, openBehind]
  | cons marker front ih =>
    rw [List.cons_append, everywhere_cons, everywhere_cons, ih, and_assoc]
    rfl

theorem everywhere_fits_iff {markers : List Marker} :
    Everywhere Fits opened markers ↔
      Everywhere Pairs opened markers ∧ Everywhere DividesOnce opened markers ∧
        Everywhere LabelsSwitch opened markers := by
  constructor
  · intro each
    exact ⟨fun front marker back split => (each front marker back split).pairs,
      fun front marker back split => (each front marker back split).dividesOnce,
      fun front marker back split => (each front marker back split).labelsSwitch⟩
  · rintro ⟨pairs, divides, labels⟩ front marker back split
    exact ⟨pairs front marker back split, divides front marker back split,
      labels front marker back split⟩

end Everywhere

section Fits

variable {opened : List OpenBlock} {body rest : List Marker} {kind : Block}

theorem fits_opening (opened : List OpenBlock) (block : Block) : Fits opened (opening block) :=
  ⟨trivial, trivial, trivial⟩

theorem fits_closing (divided : Bool) : Fits (⟨kind, divided⟩ :: opened) (closing kind) :=
  ⟨⟨divided, rfl⟩, trivial, trivial⟩

/-- Markers that leave the open blocks as they are, and fit them. -/
def Passes (opened : List OpenBlock) (markers : List Marker) : Prop :=
  openBehind opened markers = opened ∧ Everywhere Fits opened markers

/-- A body in front of the marker that ends its block. -/
theorem Passes.closing {divided : Bool} (inner : Passes (⟨kind, divided⟩ :: opened) body)
    (later : Passes opened rest) :
    openBehind (⟨kind, divided⟩ :: opened) (body ++ .closing kind :: rest) = opened ∧
      Everywhere Fits (⟨kind, divided⟩ :: opened) (body ++ .closing kind :: rest) := by
  constructor
  · rw [openBehind_append, inner.1]
    exact later.1
  · rw [everywhere_append, inner.1, everywhere_cons]
    exact ⟨inner.2, fits_closing divided, later.2⟩

theorem Passes.enclosed (inner : Passes (⟨kind, false⟩ :: opened) body) (later : Passes opened rest) :
    Passes opened (opening kind :: (body ++ .closing kind :: rest)) := by
  obtain ⟨closed, fits⟩ := inner.closing later
  exact ⟨closed, everywhere_cons.mpr ⟨fits_opening opened kind, fits⟩⟩

theorem Passes.divided {other : List Marker}
    (inner : Passes (⟨.branch, false⟩ :: opened) body)
    (otherwise : Passes (⟨.branch, true⟩ :: opened) other) (later : Passes opened rest) :
    Passes opened
      (opening .branch :: (body ++ alternative :: (other ++ .closing .branch :: rest))) := by
  obtain ⟨closed, fits⟩ := otherwise.closing later
  have divides : Fits (⟨.branch, false⟩ :: opened) alternative := ⟨⟨false, rfl⟩, rfl, trivial⟩
  constructor
  · show openBehind (⟨.branch, false⟩ :: opened) _ = opened
    rw [openBehind_append, inner.1]
    exact closed
  · rw [everywhere_cons, everywhere_append]
    refine ⟨fits_opening opened .branch, inner.2, ?_⟩
    show Everywhere Fits (openBehind (⟨.branch, false⟩ :: opened) body) _
    rw [inner.1, everywhere_cons]
    exact ⟨divides, fits⟩

theorem Derives.passes {inSwitch : Bool} {markers : List Marker}
    (derived : Derives inSwitch markers) (opened : List OpenBlock)
    (inside : inSwitch = true → ∃ divided, opened.head? = some ⟨.select, divided⟩) :
    Passes opened markers := by
  induction derived generalizing opened with
  | done => exact ⟨rfl, everywhere_nil Fits opened⟩
  | branch inner later ih ihLater => exact .enclosed (ih _ nofun) (ihLater opened inside)
  | alternatives inner otherwise later ih ihOther ihLater =>
    exact .divided (ih _ nofun) (ihOther _ nofun) (ihLater opened inside)
  | loop inner later ih ihLater => exact .enclosed (ih _ nofun) (ihLater opened inside)
  | switch inner later ih ihLater =>
    exact .enclosed (ih _ fun _ => ⟨false, rfl⟩) (ihLater opened inside)
  | label later ih =>
    obtain ⟨same, fits⟩ := ih opened inside
    exact ⟨same, everywhere_cons.mpr ⟨⟨trivial, trivial, inside rfl⟩, fits⟩⟩

end Fits

/-- What is still to come of the body of an open block. -/
def IsBody (inner : OpenBlock) (markers : List Marker) : Prop :=
  Derives (inner.kind = .select) markers ∨
    inner = ⟨.branch, false⟩ ∧ ∃ body other,
      markers = body ++ alternative :: other ∧ Derives false body ∧ Derives false other

/-- The markers complete the open blocks, from the innermost one on, and what follows them is a body
of its own. -/
def Completes : List OpenBlock → List Marker → Prop
  | [], markers => Derives false markers
  | inner :: outer, markers =>
    ∃ body rest, markers = body ++ closing inner.kind :: rest ∧ IsBody inner body ∧
      Completes outer rest

/-- Markers that may stand in front of any body. -/
def IsItem (markers : List Marker) : Prop :=
  ∀ inSwitch rest, Derives inSwitch rest → Derives inSwitch (markers ++ rest)

/-- A block is complete as soon as its body is. -/
theorem IsBody.isItem {block : Block} {body : List Marker} (complete : IsBody ⟨block, false⟩ body)
    (known : (opening block).isFlow = true) :
    IsItem (opening block :: (body ++ [closing block])) := by
  intro inSwitch rest later
  rw [List.cons_append, List.append_assoc, List.singleton_append]
  rcases complete with derived | ⟨branch, front, other, rfl, first, second⟩
  · cases block with
    | branch => exact .branch derived later
    | loop => exact .loop derived later
    | select => exact .switch derived later
    | label => cases known
    | other name => cases known
  · cases branch
    rw [List.append_assoc, List.cons_append]
    exact .alternatives first second later

theorem IsItem.completes {item rest : List Marker} {opened : List OpenBlock} (complete : IsItem item)
    (later : Completes opened rest) : Completes opened (item ++ rest) := by
  cases opened with
  | nil => exact complete false rest later
  | cons inner outer =>
    obtain ⟨body, rest, rfl, isBody, onward⟩ := later
    refine ⟨item ++ body, rest, (List.append_assoc ..).symm, ?_, onward⟩
    rcases isBody with derived | ⟨branch, front, other, rfl, first, second⟩
    · exact .inl (complete _ _ derived)
    · exact .inr ⟨branch, item ++ front, other, (List.append_assoc ..).symm,
        complete _ _ first, second⟩

theorem completes_of_fits {markers : List Marker} {opened : List OpenBlock}
    (flow : ∀ marker ∈ markers, marker.isFlow = true) (fits : Everywhere Fits opened markers)
    (closed : openBehind opened markers = []) : Completes opened markers := by
  induction markers generalizing opened with
  | nil =>
    have none : opened = [] := closed
    rw [none]
    exact .done
  | cons marker rest ih =>
    obtain ⟨known, flow⟩ := List.forall_mem_cons.mp flow
    obtain ⟨here, fits⟩ := everywhere_cons.mp fits
    have later := ih flow fits closed
    cases marker with
    | opening block =>
      obtain ⟨body, rest, rfl, isBody, onward⟩ := later
      have whole := (isBody.isItem known).completes onward
      rwa [List.cons_append, List.append_assoc, List.singleton_append] at whole
    | alternative =>
      obtain ⟨outer, rfl⟩ := List.head?_eq_some_iff.mp here.dividesOnce
      obtain ⟨body, rest, rfl, isBody, onward⟩ := later
      refine ⟨alternative :: body, rest, rfl, .inr ⟨rfl, [], body, rfl, .done, ?_⟩, onward⟩
      rcases isBody with derived | ⟨fresh, _⟩
      · exact derived
      · cases fresh
    | closing block =>
      obtain ⟨divided, head⟩ := here.pairs
      obtain ⟨outer, rfl⟩ := List.head?_eq_some_iff.mp head
      exact ⟨[], rest, rfl, .inl .done, later⟩
    | label =>
      obtain ⟨divided, head⟩ := here.labelsSwitch
      obtain ⟨outer, rfl⟩ := List.head?_eq_some_iff.mp head
      obtain ⟨body, rest, rfl, isBody, onward⟩ := later
      refine ⟨label :: body, rest, rfl, .inl ?_, onward⟩
      rcases isBody with derived | ⟨branch, _⟩
      · exact .label derived
      · cases branch
    | none => cases known
    | exit => cases known
    | innerExit => cases known
    | scope => cases known

/-- The grammar derives the sequences in which every marker fits and all blocks are closed. -/
theorem derives_iff {markers : List Marker} (flow : ∀ marker ∈ markers, marker.isFlow = true) :
    Derives false markers ↔ openBehind [] markers = [] ∧ Everywhere Fits [] markers :=
  ⟨fun derived => derived.passes [] nofun, fun fits => completes_of_fits flow fits.2 fits.1⟩

end Marker
end ShaderLift
