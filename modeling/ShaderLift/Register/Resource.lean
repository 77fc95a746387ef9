import ShaderLift.Declaration.Declarations
import ShaderLift.Notice

namespace ShaderLift

structure ResourceShape where
  type : Text
  dimension : Nat
  structureName : Option Text := none
  notices : Log := []

/-- Declared types and coordinate counts of textures, by dimension tag. -/
def textureShapes : Table (Text × Nat) :=
  [("1d", "Texture1D", 1), ("1darray", "Texture1DArray", 2), ("2d", "Texture2D", 2),
    ("2darray", "Texture2DArray", 3), ("2dms", "Texture2DMS", 2), ("2dmsarray", "Texture2DMSArray", 3),
    ("2darrayms", "Texture2DMSArray", 3), ("3d", "Texture3D", 3), ("cube", "TextureCube", 3),
    ("cubearray", "TextureCubeArray", 4), ("buf", "Buffer", 1)]

/-- Declared types and coordinate counts of unordered-access views, by dimension tag. -/
def uavShapes : Table (Text × Nat) :=
  [("1d", "RWTexture1D", 1), ("1darray", "RWTexture1DArray", 2), ("2d", "RWTexture2D", 2),
    ("2darray", "RWTexture2DArray", 3), ("3d", "RWTexture3D", 3), ("buf", "RWBuffer", 1)]

def plainTexture : Text × Nat := ("Texture2D", 2)

def plainUav : Text × Nat := ("RWTexture2D", 2)

namespace Resource

def tag (r : Resource) : Text := Text.lower r.dimension

def elementStructure (elements : Table Text) (r : Resource) : Text × Log :=
  match elements.get? r.name with
  | some name => (name, [])
  | none => ("uint", [.noElementStructure r.name])

def structuredShape (elements : Table Text) (word : Text) (r : Resource) : ResourceShape :=
  let (element, notices) := r.elementStructure elements
  { type := word ++ "<" ++ element ++ ">", dimension := 1, structureName := some element, notices }

def textureShape (elements : Table Text) (r : Resource) : ResourceShape :=
  if r.format = "struct" then r.structuredShape elements "StructuredBuffer"
  else if r.format = "byte" || r.tag = "r/o" then { type := "ByteAddressBuffer", dimension := 1 }
  else
    let known := textureShapes.get? r.tag
    let (word, dimension) := known.getD plainTexture
    let type :=
      if r.format != "float4" || Text.holds "MS" word then word ++ "<" ++ r.format ++ ">" else word
    let notices :=
      if known.isSome then [] else [.unknownTextureDimension r.dimension r.name]
    { type, dimension, notices }

def uavShape (elements : Table Text) (r : Resource) : ResourceShape :=
  if r.format = "struct" then r.structuredShape elements "RWStructuredBuffer"
  else if r.format = "byte" || r.tag = "r/w" then { type := "RWByteAddressBuffer", dimension := 1 }
  else
    let known := uavShapes.get? r.tag
    let (word, dimension) := known.getD plainUav
    let notices := if known.isSome then [] else [.unknownUavDimension r.dimension r.name]
    { type := word ++ "<" ++ r.format ++ ">", dimension, notices }

/-- A sampler takes its coordinate count from its own dimension tag, or else from the texture at the
same place in the bindings, or else from the first texture. -/
def samplerShape (textures : List Resource) (place : Nat) (r : Resource) : ResourceShape :=
  let type : Text :=
    if r.kind = .comparisonSampler then "SamplerComparisonState" else "SamplerState"
  let dimensionOf (tag : Text) : Nat := ((textureShapes.get? tag).getD plainTexture).2
  if (textureShapes.get? r.tag).isSome then { type, dimension := dimensionOf r.tag }
  else
    match textures[place]?.or textures.head? with
    | some texture => { type, dimension := dimensionOf texture.tag }
    | none => { type, dimension := plainTexture.2, notices := [.samplerWithoutTexture r.name] }

def span (r : Resource) : Nat := (max r.count 1).toNat

def writableSpan (r : Resource) : Nat := Text.writableRun r.bind r.span

/-- The registers of a binding, from its slot on, as far as they can be written. -/
def entries (r : Resource) (shape : ResourceShape) : List ResourceEntry :=
  (List.range r.writableSpan).map fun (index : Nat) =>
    { name := r.name, type := shape.type, kind := r.kind, register := r.bind + index,
      dimension := shape.dimension, arraySize := r.span, arrayIndex := index,
      structureName := shape.structureName }

end Resource

structure ResourceTables where
  /-- The first register of each binding, which stands for its declaration. -/
  declared : List ResourceEntry := []
  registers : Table ResourceEntry := []
  notices : Log := []
  fault : Option Fault := none

namespace ResourceTables

/-- The bindings up to the first one with a register that cannot be written. -/
def reached : List (Resource × ResourceShape) → List (Resource × ResourceShape)
  | [] => []
  | (resource, shape) :: rest =>
    (resource, shape) :: if resource.writableSpan = resource.span then reached rest else []

/-- Resolves bindings whose registers have the given letter; the first binding of a register
wins. -/
def ofShapes (mark : Char) (shaped : List (Resource × ResourceShape)) : ResourceTables :=
  let expanded := (reached shaped).map fun (resource, shape) => resource.entries shape
  { declared := expanded.filterMap List.head?
    registers := .ofFirsts (expanded.flatten.map fun entry =>
      (mark :: Text.ofInt entry.register, entry))
    notices := (reached shaped).flatMap fun (_, shape) => shape.notices
    fault :=
      if shaped.all fun (resource, _) => resource.writableSpan = resource.span then none
      else some .unwritableInteger }

def textures (d : Declarations) : ResourceTables :=
  ofShapes 't' <| (d.resources.filter (·.kind = .texture)).map fun r =>
    (r, r.textureShape d.elementStructures)

def samplers (d : Declarations) : ResourceTables :=
  let textures := d.resources.filter (·.kind = .texture)
  let samplers := d.resources.filter fun r => r.kind = .sampler || r.kind = .comparisonSampler
  ofShapes 's' <| samplers.zipIdx.map fun (r, place) => (r, r.samplerShape textures place)

def uavs (d : Declarations) : ResourceTables :=
  ofShapes 'u' <| (d.resources.filter (·.kind = .uav)).map fun r =>
    (r, r.uavShape d.elementStructures)

end ResourceTables
end ShaderLift
