import ShaderLift.Declaration.Declarations
import ShaderLift.Notice
import ShaderLift.Text.Basic

namespace ShaderLift

structure Scan where
  declared : Declarations := {}
  openSection : Option Section := none
  openBuffer : Option ConstantBuffer := none
  /-- The structured buffer whose element structure is being defined. -/
  bindInfo : Option Text := none
  openStructures : List Structure := []
  layout : Layout := .default
  log : Log := []

/-- Scanning keeps what it has met when a line is at fault. -/
abbrev Scanning := ExceptT Fault (StateM Scan)

namespace Scan

def note (notice : Notice) : Scanning Unit :=
  modify fun s => { s with log := s.log ++ [notice] }

def declare (change : Declarations → Declarations) : Scanning Unit :=
  modify fun s => { s with declared := change s.declared }

def number (what text : Text) (line : Int) : Scanning Int :=
  match Text.toInt text with
  | .ok value => return value
  | .error _ => throw (.declaration (.badNumber what text) line)

def closeBuffer : Scanning Unit := do
  match (← get).openBuffer with
  | none => return
  | some buffer =>
    declare (·.addBuffer buffer)
    modify fun s => { s with openBuffer := none }

def memberColumns : Nat := 4

def variableColumns : Nat := 6

def putVariable (added : Variable) (s : Scan) : Scan :=
  match s.openStructures, s.openBuffer with
  | inner :: outer, _ =>
    { s with openStructures := { inner with members := inner.members ++ [added] } :: outer }
  | [], some buffer =>
    { s with openBuffer := some { buffer with members := buffer.members ++ [added] } }
  | [], none => s

/-- Reads a variable from its columns: type, name, and behind their titles offset and size. -/
def addVariable (columns : List Text) (line : Int) : Scanning Unit := do
  let s ← get
  let required := if s.openStructures.isEmpty then variableColumns else memberColumns
  if columns.length < required then
    throw (.declaration (.shortVariable required columns.length) line)
  let offset ← number "offset" (columns.getD 3 []) line
  let size ← if 5 < columns.length then number "size" (columns.getD 5 []) line else pure 0
  let added : Variable :=
    { type := columns.getD 0 [], name := Text.trimEndOf ';' (columns.getD 1 []), offset, size,
      layout := s.layout }
  modify fun s => putVariable added { s with layout := .default }

/-- Ends the innermost structure, or else the buffer, or else the resource being described. A name
behind the brace of a structure makes it the type of a variable. -/
def closeBlock (columns : List Text) (line : Int) : Scanning Unit := do
  let s ← get
  match s.openStructures with
  | inner :: outer =>
    set { s with openStructures := outer }
    declare (·.addStructure inner)
    let name := Text.trimEndOf ';' (columns.getD 1 [])
    if name = "$Element" then
      match s.bindInfo with
      | some resource => declare (·.addElementStructure resource inner.name)
      | none => return
    else if !name.isEmpty then addVariable (inner.name :: columns.drop 1) line
  | [] =>
    if s.openBuffer.isSome then closeBuffer else set { s with bindInfo := none }

def blankMarks : Text → Text
  | '/' :: '/' :: rest => ' ' :: blankMarks rest
  | c :: rest => c :: blankMarks rest
  | [] => []

def layoutKeyword? (word : Text) : Option Layout :=
  if word = "row_major" then some .rowMajor
  else if word = "column_major" then some .columnMajor
  else none

def readColumns (first : Text) (columns : List Text) (line : Int) : Scanning Unit := do
  if first = "cbuffer" || first = "tbuffer" then
    match columns with
    | _ :: name :: _ =>
      closeBuffer
      modify fun s => { s with openBuffer := some { name := Text.without '$' name } }
    | _ => throw (.declaration .unnamedBuffer line)
  else if first = ['\x7b'] then return
  else if first = "struct" then
    match columns with
    | _ :: name :: _ => modify fun s => { s with openStructures := { name } :: s.openStructures }
    | _ => throw (.declaration .unnamedStructure line)
  else if first = ['\x7d'] then closeBlock columns line
  else
    let s ← get
    if s.openStructures.isEmpty && s.openBuffer.isNone then note (.definitionIgnored line)
    else addVariable columns line

def bindInfoTitle : Text := "Resource bind info for"

def readDefinition (body : Text) (line : Int) : Scanning Unit := do
  match Text.after? bindInfoTitle body with
  | some name =>
    modify fun s => { s with bindInfo := some (Text.without '$' (Text.trim name)) }
  | none =>
    match Text.words (blankMarks body) with
    | [] => throw .emptyDefinition
    | first :: rest =>
      match layoutKeyword? first with
      | none => readColumns first (first :: rest) line
      | some layout =>
        modify fun s => { s with layout }
        match rest with
        | [] => return
        | second :: _ => readColumns second rest line

def bindingColumns : Nat := 6

def finalDigits (text : Text) : Text := (text.reverse.takeWhile Text.isDecimal).reverse

def readBinding (body : Text) (line : Int) : Scanning Unit := do
  match Text.words body with
  | name :: kind :: format :: dimension :: bindName :: count :: _ =>
    let slot := finalDigits bindName
    if slot.isEmpty then throw (.declaration (.badSlot bindName) line)
    let bind ← Fault.readInteger slot
    let count ← number "count" count line
    declare (·.addResource
      { name := Text.without '$' name, kind := .ofText kind, format, dimension, bind, bindName,
        count })
  | columns => throw (.declaration (.shortBinding bindingColumns columns.length) line)

def signatureColumns : Nat := 6

/-- Reads a line of a signature; a line that only says that there is none gives none. -/
def readSignature (body : Text) (line : Int) : Scanning (Option Signature) := do
  if Text.startsWith "no " body then return none
  match Text.words body with
  | semantic :: index :: mask :: register :: systemValue :: format :: _ =>
    let index ← number "semantic index" index line
    let number ← if Text.allDigits register then some <$> Fault.readInteger register else pure none
    return some
      { semantic, index, mask, register := number, registerName := register, systemValue, format,
        fieldName := semanticName semantic }
  | columns => throw (.declaration (.shortSignature signatureColumns columns.length) line)

/-- Reads a comment line that is no title, according to the open section. -/
def readDeclaration (body : Text) (line : Int) : Scanning Unit := do
  match (← get).openSection with
  | some .definitions => readDefinition body line
  | some .bindings => readBinding body line
  | some .inputSignature =>
    if let some signature ← readSignature body line then declare (·.addInput signature)
  | some .outputSignature =>
    if let some signature ← readSignature body line then declare (·.addOutput signature)
  | _ => return

/-- Whether a comment line carries no declaration: a blank one, a ruler, column titles, or one with
an equals sign. -/
def isIgnored (body : Text) : Bool :=
  body.isEmpty || body.contains '=' || body.head? == some '-' || Text.startsWith "Name " body

def feed (text : Text) (line : Int) : Scanning Unit := do
  let stripped := Text.trim text
  match Text.after? "//" stripped with
  | none =>
    if !stripped.isEmpty && (← get).openSection.isSome then
      closeBuffer
      modify fun s => { s with openSection := none }
  | some comment =>
    let body := Text.trim comment
    if isIgnored body then return
    match Section.ofTitle? body with
    | some opened =>
      closeBuffer
      note (.sectionOpened opened line)
      modify fun s => { s with openSection := some opened }
    | none => readDeclaration body line

def feedAll (line : Int) : List Text → Scanning Unit
  | [] => return
  | text :: rest => do
    feed text line
    feedAll (line + 1) rest

def scan (listing : Text) : Scanning Unit := do
  feedAll 1 (Text.lines listing)
  closeBuffer

end Scan
end ShaderLift
