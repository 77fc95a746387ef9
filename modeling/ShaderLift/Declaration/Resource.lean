import ShaderLift.Text.LetterCase

namespace ShaderLift

inductive ResourceKind where
  | texture | sampler | comparisonSampler | uav | constantBuffer | textureBuffer | unknown
  deriving DecidableEq

def ResourceKind.ofText (text : Text) : ResourceKind :=
  let small := Text.lower text
  if small = "texture" then texture
  else if small = "sampler" then sampler
  else if small = "sampler_c" then comparisonSampler
  else if small = "uav" then uav
  else if small = "cbuffer" then constantBuffer
  else if small = "tbuffer" then textureBuffer
  else unknown

/-- A row of the bindings: consecutive registers, as many as its count, from its slot on. -/
structure Resource where
  name : Text
  kind : ResourceKind
  format : Text
  dimension : Text
  bind : Int
  bindName : Text
  count : Int := 1
  deriving DecidableEq

/-- A resource register: what it is declared as and which element of the declaration it is. -/
structure ResourceEntry where
  name : Text
  type : Text
  kind : ResourceKind
  register : Int
  dimension : Int
  arraySize : Int := 1
  arrayIndex : Int := 0
  structureName : Option Text := none
  deriving DecidableEq

namespace ResourceEntry

def expandedName (r : ResourceEntry) : Text :=
  if 1 < r.arraySize then r.name ++ "[" ++ Text.ofInt r.arrayIndex ++ "]" else r.name

def isStructured (r : ResourceEntry) : Bool := r.structureName.isSome

def isRaw (r : ResourceEntry) : Bool := Text.holds "ByteAddressBuffer" r.type

end ResourceEntry
end ShaderLift
