import ShaderLift.Declaration.Stage
import ShaderLift.Fault
import ShaderLift.Text.Basic

namespace ShaderLift

inductive Section where
  | definitions | bindings | inputSignature | outputSignature | unknown
  deriving DecidableEq

namespace Section

def name : Section → Text
  | definitions => "DEFINITIONS"
  | bindings => "BINDINGS"
  | inputSignature => "INPUT_SIGNATURE"
  | outputSignature => "OUTPUT_SIGNATURE"
  | unknown => "UNKNOWN"

/-- The words in front of the word that ends a title. -/
def titleBefore? (ending text : Text) : Option Text :=
  (Text.before? ending text).bind fun front =>
    let title := Text.trimEnd front
    if title.all (fun c => c.isAlpha || c == ' ') then some title else none

def ofTitle? (text : Text) : Option Section :=
  let line := Text.trim text
  if (titleBefore? "Definitions:" line).isSome then some definitions
  else if (titleBefore? "Bindings:" line).isSome then some bindings
  else
    (titleBefore? "signature:" line).map fun (title : Text) =>
      if title = "Input" then inputSignature
      else if title = "Output" then outputSignature
      else unknown

end Section

inductive Level where
  | debug | info | warning | error
  deriving DecidableEq

inductive Notice where
  | sectionOpened (opened : Section) (line : Int)
  | definitionIgnored (line : Int)
  | resolved (inputs outputs textures samplers uavs constants : Nat)
  | noElementStructure (resource : Text)
  | unknownTextureDimension (dimension resource : Text)
  | samplerWithoutTexture (sampler : Text)
  | unknownUavDimension (dimension resource : Text)
  | unlistedBuffer (buffer : Text) (bind : Int)
  | stageFound (tag : Text) (line : Int)
  | unsupported (mnemonic : Text) (line : Int)
  | tokenSkipped (text : Text) (line : Int)
  | imbalance (cause : Imbalance) (line : Option Int)
  | highHalfDropped (line : Option Int)
  | unknownResource (operand : Text) (line : Option Int)
  | noMember (resource offset : Text) (line : Option Int)
  | decoded (statements : Nat)
  | noInfoHelper (type : Text)
  | noThreadGroup
  | generated (lines : Nat) (stage : Stage)
  deriving DecidableEq

namespace Notice

def level : Notice → Level
  | sectionOpened .. | definitionIgnored .. | resolved .. | stageFound .. | tokenSkipped ..
  | decoded .. | generated .. => .debug
  | _ => .warning

def lineText : Option Int → Text
  | some line => Text.ofInt line
  | none => "None"

def message : Notice → Text
  | sectionOpened opened line => "Header section " ++ opened.name ++ " at line " ++ Text.ofInt line
  | definitionIgnored line =>
    "Ignoring definition outside of a block at line " ++ Text.ofInt line
  | resolved inputs outputs textures samplers uavs constants =>
    "Resolved " ++ Text.ofNat inputs ++ " inputs, " ++ Text.ofNat outputs ++ " outputs, " ++
      Text.ofNat textures ++ " textures, " ++ Text.ofNat samplers ++ " samplers, " ++
      Text.ofNat uavs ++ " UAVs, " ++ Text.ofNat constants ++ " constant registers"
  | noElementStructure resource => "No element structure declared for " ++ resource
  | unknownTextureDimension dimension resource =>
    "Unknown texture dimension '" ++ dimension ++ "' for " ++ resource ++ ", assuming 2d"
  | samplerWithoutTexture sampler => "No texture for sampler " ++ sampler ++ ", assuming 2d"
  | unknownUavDimension dimension resource =>
    "Unknown UAV dimension '" ++ dimension ++ "' for " ++ resource ++ ", assuming 2d"
  | unlistedBuffer buffer bind =>
    "No binding listed for cbuffer " ++ buffer ++ ", using b" ++ Text.ofInt bind
  | stageFound tag line => "Found stage tag '" ++ tag ++ "' at line " ++ Text.ofInt line
  | unsupported mnemonic line =>
    "Skipping unsupported instruction '" ++ mnemonic ++ "' at line " ++ Text.ofInt line
  | tokenSkipped text line => "Skipping token '" ++ text ++ "' at line " ++ Text.ofInt line
  | imbalance cause line => Fault.located cause.message line
  | highHalfDropped line =>
    "High half of a wide multiply is not supported at line " ++ lineText line
  | unknownResource operand line =>
    "Unknown resource '" ++ operand ++ "' at line " ++ lineText line
  | noMember resource offset line =>
    "No member of " ++ resource ++ " at offset " ++ offset ++ ", line " ++ lineText line
  | decoded statements => "Decoded " ++ Text.ofNat statements ++ " statements"
  | noInfoHelper type => "No resource info helper for " ++ type
  | noThreadGroup => "No thread group size declared, using [numthreads(1, 1, 1)]"
  | generated lines stage =>
    "Generated " ++ Text.ofNat lines ++ " lines of " ++ stage.title ++ " shader"

end Notice

abbrev Log := List Notice

end ShaderLift
