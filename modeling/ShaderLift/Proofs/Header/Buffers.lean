import ShaderLift.Proofs.Header.Scanned

namespace ShaderLift

/-- Where a line stands: the section, the names of the open structures, innermost first, whether a
buffer is open, and the packing order that is announced for the next variable. -/
structure HeaderPlace where
  openSection : Option Section := none
  openStructures : List Text := []
  inBuffer : Bool := false
  layout : Layout := .default

/-- The name of the buffer that is declared. -/
def Definition.bufferName? : Definition → Option Text
  | .buffer name => some name
  | _ => none

namespace HeaderPlace

variable {place : HeaderPlace}

/-- What a line declares where it stands. Only lines of the definitions declare something here. -/
def meets (place : HeaderPlace) : HeaderLine → DefinitionLine
  | .comment body => if place.openSection = some .definitions then .ofBody body else {}
  | _ => {}

/-- The place behind a declaration. A variable takes the packing order that is announced, unless it
stands in no block and is passed over. -/
def define (place : HeaderPlace) : Definition → HeaderPlace
  | .idle => place
  | .buffer _ => { place with inBuffer := true }
  | .opening structureName => { place with openStructures := structureName :: place.openStructures }
  | .closing fields =>
    match place.openStructures with
    | [] => { place with inBuffer := false }
    | _ :: outer =>
      { place with
        openStructures := outer
        layout := if namesVariable fields then .default else place.layout }
  | .plain _ _ =>
    if place.openStructures.isEmpty && !place.inBuffer then place
    else { place with layout := .default }

/-- Whether a declaration ends an open buffer: another buffer, or a closing brace where no structure
is open. -/
def ends (place : HeaderPlace) : Definition → Bool
  | .buffer _ => true
  | .closing _ => place.openStructures.isEmpty
  | _ => false

/-- The variable that is declared outside of structures: a plain one where no structure is open, or
one behind the brace that closes the outermost structure, which is its type. -/
def outerVariable? (place : HeaderPlace) : Definition → Option Variable
  | .plain type fields =>
    if place.openStructures.isEmpty then some (.ofFields type fields place.layout) else none
  | .closing fields =>
    match place.openStructures with
    | [outermost] =>
      if namesVariable fields then some (.ofFields outermost fields place.layout) else none
    | _ => none
  | _ => none

/-- The place behind the packing order that a line announces in front of its declaration. -/
def announced (place : HeaderPlace) (line : HeaderLine) : HeaderPlace :=
  { place with layout := (place.meets line).layout?.getD place.layout }

/-- The place behind a line. -/
def next (place : HeaderPlace) (line : HeaderLine) : HeaderPlace :=
  match line with
  | .code => { place with openSection := none, inBuffer := false }
  | .title opened => { place with openSection := some opened, inBuffer := false }
  | _ => (place.announced line).define (place.meets line).declares

/-- Whether a line ends an open buffer: one that is no comment, the title of a section, or a
declaration that does. -/
def endsBuffer (place : HeaderPlace) (line : HeaderLine) : Bool :=
  match line with
  | .code => true
  | .title _ => true
  | _ => place.ends (place.meets line).declares

/-- The variable that a line declares outside of structures. -/
def metVariable? (place : HeaderPlace) (line : HeaderLine) : Option Variable :=
  (place.announced line).outerVariable? (place.meets line).declares

/-- The variables of a buffer that is open in front of lines. -/
def members (place : HeaderPlace) : List HeaderLine → List Variable
  | [] => []
  | line :: rest =>
    if place.endsBuffer line then []
    else (place.metVariable? line).toList ++ (place.next line).members rest

/-- The buffers that lines declare. -/
def buffers (place : HeaderPlace) : List HeaderLine → List ConstantBuffer
  | [] => []
  | line :: rest =>
    let later := (place.next line).buffers rest
    match (place.meets line).declares.bufferName? with
    | some name => { name, members := (place.next line).members rest } :: later
    | none => later

/-- A buffer is open only among the definitions. -/
def IsKept (place : HeaderPlace) : Prop :=
  place.inBuffer = true → place.openSection = some .definitions

theorem openSection_define (place : HeaderPlace) (declared : Definition) :
    (place.define declared).openSection = place.openSection := by
  cases declared with
  | idle => rfl
  | buffer name => rfl
  | opening structureName => rfl
  | closing fields =>
    rw [define]
    split <;> rfl
  | plain type fields =>
    rw [define]
    split <;> rfl

theorem IsKept.next (kept : place.IsKept) (line : HeaderLine) :
    (place.next line).IsKept := by
  cases line with
  | idle => exact kept
  | code => exact nofun
  | title opened => exact nofun
  | comment body =>
    by_cases here : place.openSection = some .definitions
    · intro _
      rw [HeaderPlace.next, openSection_define]
      · exact here
      · nofun
      · nofun
    · simp only [HeaderPlace.next, announced, meets, if_neg here]
      exact kept

theorem bufferName?_of_goesOn {line : HeaderLine} (goesOn : place.endsBuffer line = false) :
    (place.meets line).declares.bufferName? = none := by
  cases line with
  | idle => rfl
  | code => rfl
  | title opened => rfl
  | comment body =>
    rw [endsBuffer] at goesOn
    · generalize (place.meets (.comment body)).declares = declared at goesOn ⊢
      cases declared with
      | buffer name => cases goesOn
      | _ => rfl
    · nofun
    · nofun

end HeaderPlace

/-- A buffer with further variables. -/
def ConstantBuffer.extended (buffer : ConstantBuffer) (more : List Variable) : ConstantBuffer :=
  { buffer with members := buffer.members ++ more }

namespace Scope

variable {scope : Scope} {declared : Definition} {line : HeaderLine}

def place (scope : Scope) : HeaderPlace :=
  { openSection := scope.openSection, openStructures := scope.openStructures.map Structure.name
    inBuffer := scope.openBuffer.isSome, layout := scope.layout }

theorem place_put (added : Variable) (scope : Scope) :
    (scope.put added).place = { scope.place with layout := .default } := by
  obtain ⟨_, _, _, buffer, structures, _⟩ := scope
  cases structures <;> cases buffer <;> rfl

theorem place_define (scope : Scope) (declared : Definition) :
    (scope.define declared).place = scope.place.define declared := by
  cases declared with
  | idle => rfl
  | buffer name => rfl
  | opening structureName => rfl
  | closing fields =>
    simp only [define, HeaderPlace.define]
    cases opened : scope.openStructures with
    | nil => simp only [place, closeBuffer, opened, List.map_nil, Option.isSome_none]
    | cons inner outer =>
      simp only [place, opened, List.map_cons]
      cases namesVariable fields with
      | false => rfl
      | true => exact place_put _ _
  | plain type fields =>
    have outside : (scope.place.openStructures.isEmpty && !scope.place.inBuffer) =
        (scope.openStructures.isEmpty && scope.openBuffer.isNone) := by
      simp [place]
    simp only [define, HeaderPlace.define, outside]
    split
    · rfl
    · exact place_put _ _

/-- A comment is read as a declaration where it stands. -/
theorem feed_comment (scope : Scope) (body : Text) :
    scope.feed (.comment body) =
      { scope with layout := (scope.place.announced (.comment body)).layout }.define
        (scope.place.meets (.comment body)).declares := by
  by_cases here : scope.openSection = some .definitions
  · have met : scope.place.meets (.comment body) = .ofBody body := if_pos here
    simp only [feed, if_pos here, HeaderPlace.announced, met]
    rfl
  · have met : scope.place.meets (.comment body) = {} := if_neg here
    simp only [feed, if_neg here, HeaderPlace.announced, met]
    rfl

theorem openBuffer_eq_none (kept : scope.place.IsKept) (left : scope.openSection = none) :
    scope.openBuffer = none := by
  cases opened : scope.openBuffer with
  | none => rfl
  | some buffer =>
    have reading : scope.openSection = some .definitions :=
      kept (by simp only [place, opened, Option.isSome_some])
    rw [left] at reading
    cases reading

theorem place_feed (kept : scope.place.IsKept) (line : HeaderLine) :
    (scope.feed line).place = scope.place.next line := by
  cases line with
  | idle => rfl
  | code =>
    simp only [feed, HeaderPlace.next]
    cases opened : scope.openSection with
    | some _ => rfl
    | none =>
      -- No buffer is open, so that there is none to end.
      have closed := openBuffer_eq_none kept opened
      simp only [Option.isSome_none, Bool.false_eq_true, if_false, place, opened, closed]
  | title opened => rfl
  | comment body =>
    rw [feed_comment]
    exact place_define _ _

/-- A variable joins the open buffer if no structure is open. -/
theorem openBuffer_put (added : Variable) (scope : Scope) :
    (scope.put added).buffers = scope.buffers ∧
      (scope.put added).openBuffer =
        if scope.openStructures.isEmpty then scope.openBuffer.map (·.extended [added])
        else scope.openBuffer := by
  obtain ⟨_, _, _, buffer, structures, _⟩ := scope
  cases structures <;> cases buffer <;> exact ⟨rfl, rfl⟩

theorem map_extended_nil (buffer? : Option ConstantBuffer) :
    buffer?.map (·.extended []) = buffer? := by
  cases buffer? <;> simp [ConstantBuffer.extended]

theorem define_of_ends (ends : scope.place.ends declared = true) :
    (scope.define declared).buffers = scope.buffers ++ scope.openBuffer.toList ∧
      (scope.define declared).openBuffer = declared.bufferName?.map fun name => { name } := by
  cases declared with
  | idle => cases ends
  | opening structureName => cases ends
  | plain type fields => cases ends
  | buffer name => exact ⟨rfl, rfl⟩
  | closing fields =>
    have flat : scope.openStructures = [] := by simpa [place, HeaderPlace.ends] using ends
    simp only [define, flat]
    exact ⟨rfl, rfl⟩

theorem define_of_goesOn (goesOn : scope.place.ends declared = false) :
    (scope.define declared).buffers = scope.buffers ∧
      (scope.define declared).openBuffer =
        scope.openBuffer.map (·.extended (scope.place.outerVariable? declared).toList) := by
  cases declared with
  | idle => exact ⟨rfl, (map_extended_nil _).symm⟩
  | opening structureName => exact ⟨rfl, (map_extended_nil _).symm⟩
  | buffer name => cases goesOn
  | closing fields =>
    cases opened : scope.openStructures with
    | nil => simp [HeaderPlace.ends, place, opened] at goesOn
    | cons inner outer =>
      simp only [define, HeaderPlace.outerVariable?, place, opened, List.map_cons]
      cases namesVariable fields with
      | false => cases outer <;> exact ⟨rfl, (map_extended_nil _).symm⟩
      | true =>
        obtain ⟨same, joined⟩ := openBuffer_put (.ofFields inner.name fields scope.layout)
          { scope with openStructures := outer, structures := register scope.structures inner }
        refine ⟨same, joined.trans ?_⟩
        cases outer with
        | nil => rfl
        | cons next others => exact (map_extended_nil _).symm
  | plain type fields =>
    obtain ⟨same, joined⟩ := openBuffer_put (.ofFields type fields scope.layout) scope
    cases opened : scope.openStructures with
    | nil =>
      simp only [opened, List.isEmpty_nil, if_true] at joined
      simp only [define, HeaderPlace.outerVariable?, place, opened, List.map_nil,
        List.isEmpty_nil, Bool.true_and, if_true]
      cases inBuffer : scope.openBuffer with
      | none => exact ⟨rfl, inBuffer⟩
      | some buffer =>
        rw [inBuffer] at joined
        exact ⟨same, joined⟩
    | cons inner outer =>
      simp only [opened, List.isEmpty_cons, Bool.false_eq_true, if_false] at joined
      simp only [define, HeaderPlace.outerVariable?, place, opened, List.map_cons,
        List.isEmpty_cons, Bool.false_and, Bool.false_eq_true, if_false]
      exact ⟨same, joined.trans (map_extended_nil _).symm⟩

/-- A line that ends a buffer registers the one that is open, and opens the one it declares. -/
theorem feed_of_ends (kept : scope.place.IsKept) (ends : scope.place.endsBuffer line = true) :
    (scope.feed line).buffers = scope.buffers ++ scope.openBuffer.toList ∧
      (scope.feed line).openBuffer =
        (scope.place.meets line).declares.bufferName?.map fun name => { name } := by
  cases line with
  | idle => cases ends
  | title opened => exact ⟨rfl, rfl⟩
  | comment body =>
    rw [feed_comment]
    exact define_of_ends ends
  | code =>
    cases opened : scope.openSection with
    | some _ =>
      simp only [feed, opened, Option.isSome_some, if_true]
      exact ⟨rfl, rfl⟩
    | none =>
      have closed := openBuffer_eq_none kept opened
      simp only [feed, opened, Option.isSome_none, Bool.false_eq_true, if_false, closed,
        Option.toList_none, List.append_nil, true_and]
      rfl

/-- Any other line adds to the open buffer the variable that it declares outside of structures. -/
theorem feed_of_goesOn (goesOn : scope.place.endsBuffer line = false) :
    (scope.feed line).buffers = scope.buffers ∧
      (scope.feed line).openBuffer =
        scope.openBuffer.map (·.extended (scope.place.metVariable? line).toList) := by
  cases line with
  | idle => exact ⟨rfl, (map_extended_nil _).symm⟩
  | code => cases goesOn
  | title opened => cases goesOn
  | comment body =>
    rw [feed_comment]
    exact define_of_goesOn goesOn

/-- What is registered behind all lines: the buffers registered so far, the open one with the
variables still to come, and those that are still to be declared. -/
theorem feedAll_buffers (kept : scope.place.IsKept) (lines : List HeaderLine) :
    (scope.feedAll lines).closeBuffer.buffers =
      scope.buffers ++ (scope.openBuffer.map (·.extended (scope.place.members lines))).toList ++
        scope.place.buffers lines := by
  induction lines generalizing scope with
  | nil =>
    simp only [HeaderPlace.members, HeaderPlace.buffers, map_extended_nil, List.append_nil]
    rfl
  | cons line rest ih =>
    have later := place_feed kept line
    have run : scope.feedAll (line :: rest) = (scope.feed line).feedAll rest := rfl
    rw [run, ih (by rw [later]; exact kept.next line), later]
    cases ends : scope.place.endsBuffer line with
    | true =>
      obtain ⟨registered, opened⟩ := feed_of_ends kept ends
      rw [registered, opened]
      simp only [HeaderPlace.members, HeaderPlace.buffers, ends, if_true, map_extended_nil]
      cases (scope.place.meets line).declares.bufferName? with
      | none => simp
      | some name => simp [ConstantBuffer.extended]
    | false =>
      obtain ⟨registered, opened⟩ := feed_of_goesOn ends
      have noBuffer := HeaderPlace.bufferName?_of_goesOn ends
      rw [registered, opened]
      simp only [HeaderPlace.members, HeaderPlace.buffers, ends, noBuffer, Bool.false_eq_true,
        if_false, Option.map_map]
      congr 4
      funext buffer
      simp [ConstantBuffer.extended]

end Scope

/-- The buffers of a header that is scanned without a fault are those that its lines declare among
the definitions, each of them once and in the order of these lines, and each has the variables that
are declared outside of structures while it is open. -/
theorem scanHeader_buffers {listing : Text} {d : Declarations}
    (scanned : (scanHeader listing).result = .ok d) :
    d.buffers = HeaderPlace.buffers {} (headerLines listing) := by
  have kept : (Scope.place {}).IsKept := nofun
  rw [(Scan.scanHeader_scope scanned).1, Scope.feedAll_buffers kept]
  rfl

/-- Buffers that end at another one, at a title, at a line of code, at a brace and with the text. -/
def endedBuffers : Text :=
  Text.join ['\n']
    ["// Buffer Definitions:", "// cbuffer Scene", "//   float4 tint; // Offset: 0 Size: 16",
      "//   struct Fog", "//     float near; // Offset: 0", "//   \x7d fog; // Offset: 16 Size: 16",
      "// tbuffer $Globals", "//   row_major float4x4 world; // Offset: 0 Size: 64",
      "// Resource Bindings:", "// Buffer Definitions:", "// cbuffer Late", "ps_5_0",
      "// Buffer Definitions:", "// cbuffer Closed", "// \x7d", "// cbuffer Last"]

def endedDeclared : Declarations :=
  { buffers :=
      [{ name := "Scene"
         members := [⟨"float4", "tint", 0, 16, .default⟩, ⟨"Fog", "fog", 16, 16, .default⟩] },
        { name := "Globals", members := [⟨"float4x4", "world", 0, 64, .rowMajor⟩] },
        { name := "Late" }, { name := "Closed" }, { name := "Last" }]
    structures := [{ name := "Fog", members := [⟨"float", "near", 0, 0, .default⟩] }] }

theorem scanHeader_buffers_ended :
    (scanHeader endedBuffers).result = .ok endedDeclared ∧
      endedDeclared.buffers = HeaderPlace.buffers {} (headerLines endedBuffers) := by
  have scanned : (scanHeader endedBuffers).result = .ok endedDeclared := by
    apply eq_ok_of_toOption
    decide +kernel
  exact ⟨scanned, scanHeader_buffers scanned⟩

end ShaderLift
