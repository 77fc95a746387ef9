import ShaderLift.Body.ResourceOperand

namespace ShaderLift.Decoding

open Operand

/-- The word of a group-shared array that a byte address and a number of words lead to. -/
def wordIndex (address : Text) (word : Int) : Except Fault Text := do
  if Text.allDigits address then
    Fault.writeInteger ((← Fault.readInteger address).fdiv 4 + word)
  else if word = 0 then return address ++ " >> 2"
  else return "(" ++ address ++ " >> 2) + " ++ (← Fault.writeInteger word)

def gatherWords : List Text → Text
  | [word] => word
  | words => "uint" ++ Text.ofNat words.length ++ "(" ++ Text.commaList words ++ ")"

/-- The first elements of a list repeated without end, or of a fallback if it is empty. -/
def cycled {α : Type} (fallback letters : List α) (count : Nat) : List α :=
  let source := if letters.isEmpty then fallback else letters
  (List.range count).filterMap fun i => source[i % source.length]?

def laneComponents (selected : List Component) : List Component := cycled Component.all selected 4

def writtenLanes (destination : Destination) : Except Fault (List Component) := do
  let lanes ← destination.shape.components
  return if lanes.isEmpty then [.x] else lanes

def selectedWords (selected lanes : List Component) : List Component :=
  lanes.filterMap fun lane => (laneComponents selected)[lane.index]?

def loadRaw : Decoding Unit := do
  let destination ← readDestination
  let address := asInteger (← scalar (← readRawOperand)) .unsigned
  let resource ← readResource
  let words := selectedWords resource.selected (← writtenLanes destination)
  if resource.isShared then
    let accesses ← words.mapM fun word => do
      return resource.name ++ "[" ++ (← wordIndex address word.index) ++ "]"
    assign destination (asFloat (gatherWords accesses))
  else
    let width := (words.map Component.index).foldl max 0 + 1
    let method : Text := if width = 1 then "Load" else "Load" ++ Text.ofNat width
    let call := methodCall resource.name method [address]
    let isWhole := words = Component.first width && max destination.shape.count 1 = width
    let picked := if 1 < width && !isWhole then call ++ Component.suffix words else call
    assign destination (asFloat picked)

def storedComponents (resource : ResourceOperand) : List Component :=
  if resource.selected.isEmpty then [.x] else resource.selected

/-- Stores a value word by word; each word is one lane of the value. -/
def storeWords (value : Text) (count : Nat) (target : Nat → Except Fault Text) (position : Nat) :
    List Component → Decoding Unit
  | [] => return
  | word :: rest => do
    let part ← if 1 < count then lane value position count else pure value
    let place ← target word.index
    emit (place ++ " = " ++ asInteger part .unsigned ++ ";")
    storeWords value count target (position + 1) rest

def storeRaw : Decoding Unit := do
  let resource ← readResource
  let address := asInteger (← scalar (← readRawOperand)) .unsigned
  let stored := storedComponents resource
  let value ← readSource (.first stored.length)
  if resource.isShared then
    storeWords value stored.length
      (fun word => do return resource.name ++ "[" ++ (← wordIndex address word) ++ "]") 0 stored
  else
    let method : Text :=
      if stored.length = 1 then "Store" else "Store" ++ Text.ofNat stored.length
    emit (methodCall resource.name method [address, asInteger value .unsigned] ++ ";")

/-- The member of a structure that holds the word at a byte offset, and which of its words it is. -/
def memberAt? (members : List Variable) (offset : Int) : Option (Variable × Nat) :=
  (members.find? fun m =>
    m.offset ≤ offset && offset < m.offset + 4 * ElementType.count m.type).map fun m =>
      (m, ((offset - m.offset).fdiv 4).toNat)

def elementMembers (structures : List Structure) (resource : ResourceOperand) : List Variable :=
  match (resource.entry.bind ResourceEntry.structureName).bind
      (Declarations.findStructure? structures) with
  | some s => s.members
  | none => []

/-- The components of a member for lanes counted from one of its words. -/
def memberComponents (start width : Nat) : List Component → Except Fault (List Component)
  | [] => .ok []
  | lane :: rest => do
    let component ← Swizzle.componentAt (min (start + lane.index) (width - 1) : Nat)
    return component :: (← memberComponents start width rest)

/-- The access to the member of a structured buffer's element at a literal byte offset, and the type
of the member. -/
def memberAccess (resource : ResourceOperand) (index offset : Text) (lanes : List Component) :
    Decoding (Option (Text × Text)) := do
  if !Text.allDigits offset then return none
  let structures := (← read).symbols.declared.structures
  match memberAt? (elementMembers structures resource) (← Fault.readInteger offset) with
  | none => return none
  | some (member, start) =>
    let width := ElementType.count member.type
    let access := resource.name ++ "[" ++ index ++ "]." ++ member.name
    if width ≤ 1 then return some (access, member.type)
    let components ← memberComponents start width lanes
    return some (access ++ '.' :: Component.letters components, member.type)

/-- The first word that a byte offset leads to; an offset that is no literal counts as zero. -/
def firstWord (offset : Text) : Except Fault Int :=
  if Text.allDigits offset then (Fault.readInteger offset).map (·.fdiv 4) else .ok 0

def sharedWord (resource : ResourceOperand) (index : Text) (first : Int) (word : Nat) : Text :=
  resource.name ++ "[" ++ index ++ "][" ++ Text.ofInt (first + word) ++ "]"

def elementAccess (resource : ResourceOperand) (index : Text) : Text :=
  resource.name ++ "[" ++ index ++ "]"

def isIntegerType (type : Text) : Bool := Text.startsWith "uint" type || Text.startsWith "int" type

def loadStructured : Decoding Unit := do
  let destination ← readDestination
  let index := asInteger (← scalar (← readRawOperand)) .unsigned
  let offset ← scalar (← readRawOperand)
  let resource ← readResource
  if resource.isShared then
    let first ← firstWord offset
    let words := selectedWords resource.selected (← writtenLanes destination)
    let accesses := words.map fun word => sharedWord resource index first word.index
    assign destination (asFloat (gatherWords accesses))
  else
    match ← memberAccess resource index offset (laneComponents resource.selected) with
    | none =>
      note (.noMember resource.name offset (← get).line)
      assign destination (asFloat (elementAccess resource index))
    | some (access, type) =>
      let value := if isIntegerType type then asFloat access else access
      assign destination (← cast value destination.shape)

def storeStructured : Decoding Unit := do
  let resource ← readResource
  let index := asInteger (← scalar (← readRawOperand)) .unsigned
  let offset ← scalar (← readRawOperand)
  let stored := storedComponents resource
  let value ← readSource (.first stored.length)
  if resource.isShared then
    let first ← firstWord offset
    storeWords value stored.length (fun word => return sharedWord resource index first word) 0 stored
  else
    match ← memberAccess resource index offset stored with
    | none =>
      note (.noMember resource.name offset (← get).line)
      emit (elementAccess resource index ++ " = " ++ asInteger value .unsigned ++ ";")
    | some (access, type) =>
      let converted :=
        if Text.startsWith "uint" type then asInteger value .unsigned
        else if Text.startsWith "int" type then asInteger value .signed
        else value
      emit (access ++ " = " ++ converted ++ ";")

def loadTyped : Decoding Unit := do
  let destination ← readDestination
  let address ← resolve (← readRawOperand)
  let resource ← readResource
  let coordinate := asInteger (← cast address (.first (resource.dimension 1))) .unsigned
  let selected := if formatCount resource.type? = 1 then [] else resource.selected
  let result ← accessResult (elementAccess resource coordinate) selected destination.shape
  assign destination (if hasIntegerFormat resource.type? then asFloat result else result)

def storeTyped : Decoding Unit := do
  let resource ← readResource
  let address ← resolve (← readRawOperand)
  let coordinate := asInteger (← cast address (.first (resource.dimension 1))) .unsigned
  let value ← readSource (.first (formatCount resource.type?))
  let converted := if hasIntegerFormat resource.type? then asInteger value .unsigned else value
  emit (elementAccess resource coordinate ++ " = " ++ converted ++ ";")

end ShaderLift.Decoding
