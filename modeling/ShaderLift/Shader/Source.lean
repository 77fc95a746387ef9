import ShaderLift.Body.Flow
import ShaderLift.Body.ResourceOperand

namespace ShaderLift

structure ShaderSource where
  symbols : Symbols
  context : Context
  config : Config

namespace ShaderSource

def stage (u : ShaderSource) : Stage := u.context.stage.getD .pixel

def inputFields (u : ShaderSource) : List Text := u.symbols.registers.inputs.fields

def outputFields (u : ShaderSource) : List Text := u.symbols.registers.outputs.fields

def hasInput (u : ShaderSource) : Bool := !u.inputFields.isEmpty

def hasOutput (u : ShaderSource) : Bool := !u.outputFields.isEmpty && u.stage ≠ .compute

def inputType (u : ShaderSource) : Text := u.stage.initials ++ "Input"

def outputType (u : ShaderSource) : Text := u.stage.initials ++ "Output"

def banner : List Text :=
  ["// <auto-generated>",
    "//     This code was generated by asm2hlsl.",
    "//     Changes to this file will be lost if the code is regenerated.",
    "// </auto-generated>"]

def spaced : List (List Text) → List Text
  | [] => []
  | [group] => group
  | group :: next :: rest => group ++ [[]] ++ spaced (next :: rest)

def block (indent opening : Text) (body : List Text) : List Text :=
  opening :: ['\x7b'] :: body.map (indent ++ ·) ++ [['\x7d', ';']]

def signatureStructs (u : ShaderSource) : List Text :=
  let input :=
    if u.hasInput then [block u.config.indent ("struct " ++ u.inputType) u.inputFields] else []
  let output :=
    if u.hasOutput then [block u.config.indent ("struct " ++ u.outputType) u.outputFields] else []
  spaced (input ++ output)

def structures (u : ShaderSource) : List Text :=
  spaced <| u.symbols.declared.structures.map fun s =>
    block u.config.indent ("struct " ++ s.name)
      (s.members.map fun v => v.type ++ " " ++ v.name ++ ";")

def nameColumn : Nat := 24

def bufferField (indent : Text) (v : Variable) : Text :=
  let padding := max (nameColumn - indent.length - v.fieldType.length) 1
  indent ++ v.fieldType ++ List.replicate padding ' ' ++ v.name ++ ";"

def constantBuffers (u : ShaderSource) : List Text :=
  spaced <| u.symbols.declared.buffers.map fun b =>
    ("cbuffer " ++ b.name ++ " : register(b" ++ Text.ofInt b.bind ++ ")") :: ['\x7b'] ::
      b.members.map (bufferField u.config.indent) ++ [['\x7d', ';']]

def resourceDeclaration (mark : Char) (r : ResourceEntry) : Text :=
  let array : Text := if 1 < r.arraySize then "[" ++ Text.ofInt r.arraySize ++ "]" else ""
  r.type ++ " " ++ r.name ++ array ++ " : register(" ++ mark :: Text.ofInt r.register ++ ");"

def resources (u : ShaderSource) : List Text :=
  let registers := u.symbols.registers
  registers.textures.declared.map (resourceDeclaration 't') ++
    registers.uavs.declared.map (resourceDeclaration 'u') ++
    registers.samplers.declared.map (resourceDeclaration 's')

/-- How the size of a resource is queried: whether a mip level is passed, and the components that
are filled. -/
def infoLayouts : Table (Bool × Text) :=
  [("Texture1D", true, "xw"), ("Texture1DArray", true, "xyw"), ("Texture2D", true, "xyw"),
    ("Texture2DArray", true, "xyzw"), ("Texture3D", true, "xyzw"), ("TextureCube", true, "xyw"),
    ("TextureCubeArray", true, "xyzw"), ("Texture2DMS", false, "xyw"),
    ("Texture2DMSArray", false, "xyzw"), ("RWTexture1D", false, "x"),
    ("RWTexture1DArray", false, "xy"), ("RWTexture2D", false, "xy"),
    ("RWTexture2DArray", false, "xyz"), ("RWTexture3D", false, "xyz")]

def infoQuery? (type : Text) : Option (List Text) :=
  let base := baseTypeOf type
  if base = "Buffer" || base = "RWBuffer" then
    some ["uint width;", "tex.GetDimensions(width);", "info.x = width;"]
  else
    (infoLayouts.get? base).map fun (takesMip, filled) =>
      let places : List Text := filled.map fun (c : Char) => "info." ++ [c]
      let arguments : List Text := if takesMip then "mip" :: places else places
      ["tex.GetDimensions(" ++ Text.commaList arguments ++ ");"]

def infoHelper? (indent type : Text) : Option (List Text) :=
  (infoQuery? type).map fun query =>
    ["float4 GetResourceInfo(" ++ type ++ " tex, uint mip)", ['\x7b'],
      indent ++ "float4 info = 0;"] ++ query.map (indent ++ ·) ++
      [indent ++ "return info;", ['\x7d']]

def infoHelpers (u : ShaderSource) : List Text :=
  spaced (u.context.resourceInfoTypes.filterMap (infoHelper? u.config.indent))

def inputPrimitives : Table Nat :=
  [("point", 1), ("line", 2), ("triangle", 3), ("lineadj", 4), ("triangleadj", 6)]

def inputParameter (u : ShaderSource) : Parameter :=
  if u.stage = .geometry then
    let primitive := u.context.inputPrimitive.getD []
    let (qualifier, count) : Text × Nat :=
      match inputPrimitives.get? primitive with
      | some count => (primitive, count)
      | none => ("triangle", 3)
    { type := u.inputType, name := "input[" ++ Text.ofNat count ++ "]", qualifier }
  else { type := u.inputType, name := "input" }

def streamType (topology : Text) : Text :=
  if topology = "pointlist" then "PointStream"
  else if topology = "linestrip" then "LineStream"
  else "TriangleStream"

def streamParameter (u : ShaderSource) : Parameter :=
  { type := streamType (u.context.outputTopology.getD []) ++ "<" ++ u.outputType ++ ">"
    name := Decoding.streamName, qualifier := "inout" }

def addParameter (parameters : List Parameter) (added : Parameter) : List Parameter :=
  if parameters.any fun p => p.name = added.name then parameters else parameters ++ [added]

def parameters (u : ShaderSource) : List Parameter :=
  let input := if u.hasInput then [u.inputParameter] else []
  let stream := if u.context.hasOutputStream && u.hasOutput then [u.streamParameter] else []
  (u.symbols.registers.inputs.parameters ++ u.context.parameters).foldl addParameter input ++ stream

def returnsOutput (u : ShaderSource) : Bool := u.hasOutput && !u.context.hasOutputStream

def entryAttribute (u : ShaderSource) : List Text :=
  if u.stage = .compute then
    let (x, y, z) := u.context.threadGroup.getD (1, 1, 1)
    ["[numthreads(" ++ Text.commaList [Text.ofInt x, Text.ofInt y, Text.ofInt z] ++ ")]"]
  else
    match u.context.hasOutputStream, u.context.maxVertexCount with
    | true, some count => ["[maxvertexcount(" ++ Text.ofInt count ++ ")]"]
    | _, _ => []

def bodyLine (indent : Text) (text : Text) : Text := if text.isEmpty then [] else indent ++ text

def entryPoint (u : ShaderSource) : List Text :=
  let indent := u.config.indent
  let returnType : Text := if u.returnsOutput then u.outputType else "void"
  let parameters := Text.commaList (u.parameters.map Parameter.declaration)
  let output :=
    if u.hasOutput then [indent ++ u.outputType ++ " output = (" ++ u.outputType ++ ")0;"] else []
  let body := u.context.statements.map fun s => bodyLine indent (s.render indent)
  let final := if u.returnsOutput then [indent ++ "return output;"] else []
  u.entryAttribute ++ [returnType ++ " " ++ u.config.entryPoint ++ "(" ++ parameters ++ ")", ['\x7b']] ++
    output ++ body ++ final ++ [['\x7d']]

def sections (u : ShaderSource) : List (List Text) :=
  [banner, u.signatureStructs, u.structures, u.constantBuffers, u.resources,
    u.context.globalDeclarations, u.infoHelpers, u.entryPoint]

/-- The source text: the sections that are not empty, each with an empty line behind it, and one
newline at the end. -/
def render (u : ShaderSource) : Text :=
  let lines := (u.sections.filter (!·.isEmpty)).flatMap fun lines => lines ++ [[]]
  Text.trimEnd (Text.join ['\n'] lines) ++ ['\n']

def notices (u : ShaderSource) : Log :=
  let helpers := (u.context.resourceInfoTypes.filter fun type => (infoQuery? type).isNone).map
    Notice.noInfoHelper
  let group :=
    if u.stage = .compute && u.context.threadGroup.isNone then [Notice.noThreadGroup] else []
  helpers ++ group

end ShaderSource
end ShaderLift
