import ShaderLift.Component
import ShaderLift.Table
import ShaderLift.Text.LetterCase

namespace ShaderLift

/-- A row of a signature. The array columns say how many rows share its semantic and which of them
it is. -/
structure Signature where
  semantic : Text
  index : Int
  mask : Text
  register : Option Int
  registerName : Text
  systemValue : Text
  format : Text
  fieldName : Text
  arraySize : Nat := 1
  arrayIndex : Nat := 0
  deriving DecidableEq

/-- The field name that a semantic gives: capitalized, without the mark of a system value. -/
def semanticName (semantic : Text) : Text :=
  let bare := if Text.startsWith "SV_" (Text.upper semantic) then semantic.drop 3 else semantic
  Text.upper (bare.take 1) ++ Text.lower (bare.drop 1)

namespace Signature

/-- The number of components in the mask; a row without a mask has one. -/
def componentCount (s : Signature) : Nat := if s.mask = "N/A" then 1 else s.mask.length

def typeName (s : Signature) : Text :=
  if s.componentCount = 1 then s.format else s.format ++ Text.ofNat s.componentCount

/-- The first component of the mask; the first of all if the mask starts with no component. -/
def firstComponent (s : Signature) : Component :=
  (s.mask.head?.bind Component.ofLetter?).getD .x

/-- The semantic with its index, which is left out when it is zero. -/
def semanticText (s : Signature) : Text :=
  if s.index = 0 then s.semantic else s.semantic ++ Text.ofInt s.index

end Signature

structure Parameter where
  type : Text
  name : Text
  semantic : Text := []
  /-- The word in front, such as `triangle` or `inout`. -/
  qualifier : Text := []
  deriving DecidableEq

namespace Parameter

def declaration (p : Parameter) : Text :=
  let plain := p.type ++ " " ++ p.name
  let qualified := if p.qualifier.isEmpty then plain else p.qualifier ++ " " ++ plain
  if p.semantic.isEmpty then qualified else qualified ++ " : " ++ p.semantic

def ofSystemValue? (systemValue : Text) : Option Parameter :=
  if systemValue = "VERTID" then some { type := "uint", name := "vertexId", semantic := "SV_VertexID" }
  else if systemValue = "INSTID" then
    some { type := "uint", name := "instanceId", semantic := "SV_InstanceID" }
  else none

def builtIn : Table Parameter :=
  [("vThreadID", { type := "uint3", name := "dispatchId", semantic := "SV_DispatchThreadID" }),
    ("vThreadGroupID", { type := "uint3", name := "groupId", semantic := "SV_GroupID" }),
    ("vThreadIDInGroup", { type := "uint3", name := "groupThreadId", semantic := "SV_GroupThreadID" }),
    ("vThreadIDInGroupFlattened", { type := "uint", name := "groupIndex", semantic := "SV_GroupIndex" }),
    ("vGSInstanceID", { type := "uint", name := "gsInstanceId", semantic := "SV_GSInstanceID" }),
    ("vOutputControlPointID",
      { type := "uint", name := "controlPointId", semantic := "SV_OutputControlPointID" }),
    ("vPrim", { type := "uint", name := "primitiveId", semantic := "SV_PrimitiveID" })]

end Parameter
end ShaderLift
