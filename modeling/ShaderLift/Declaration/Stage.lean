import ShaderLift.Text.Integer

namespace ShaderLift

inductive Stage where
  | vertex | pixel | geometry | domain | hull | compute
  deriving DecidableEq

namespace Stage

def all : List Stage := [vertex, pixel, geometry, domain, hull, compute]

def code : Stage → Text
  | vertex => "vs"
  | pixel => "ps"
  | geometry => "gs"
  | domain => "ds"
  | hull => "hs"
  | compute => "cs"

def initials (stage : Stage) : Text := stage.code.map Char.toUpper

def fileMark (stage : Stage) : Text := '_' :: stage.code

def name : Stage → Text
  | vertex => "vertex"
  | pixel => "pixel"
  | geometry => "geometry"
  | domain => "domain"
  | hull => "hull"
  | compute => "compute"

def title (stage : Stage) : Text := stage.name.map Char.toUpper

/-- Whether a text starts with an underscore, digits, an underscore and a digit. -/
def startsWithVersion : Text → Bool
  | '_' :: rest =>
    match Text.spanDecimals rest with
    | (_ :: _, '_' :: c :: _) => Text.isDecimal c
    | _ => false
  | _ => false

/-- The stage of a tag such as `ps_5_0`; more may follow the version. -/
def ofTag? (tag : Text) : Option Stage :=
  all.find? fun stage =>
    match Text.after? stage.code tag with
    | some rest => startsWithVersion rest
    | none => false

end Stage
end ShaderLift
