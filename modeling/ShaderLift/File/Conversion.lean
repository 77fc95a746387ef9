import ShaderLift.Conversion
import ShaderLift.File.Store

namespace ShaderLift

class FileAccess (m : Type → Type) where
  read : Path → m (Except AccessIssue (List UInt8))
  write : Path → List UInt8 → m (Except AccessIssue Unit)

def outputExtension : Text := ".hlsl"

/-- Where the source of a listing goes: the base, or else the listing without its extension, with
the mark of the stage added to the last name. An empty base counts as none. -/
def outputPath (input : Text) (base : Option Text) (stage : Stage) : Except FileFault Path :=
  let extend (path : Path) (shorten : Text → Text) : Except FileFault Path :=
    match path.name? with
    | none => .error (.unnamed path)
    | some name => .ok (path.withName (shorten name ++ stage.fileMark ++ outputExtension))
  match base.filter (!·.isEmpty) with
  | some base => extend (.ofText base) id
  | none => extend (.ofText input) Path.stem

def Path.isClean (path : Path) : Bool := path.names.all (!·.contains (Char.ofNat 0))

section
variable {m : Type → Type} [Monad m] [FileAccess m]

def readListing (path : Path) : m (Except FileFault Text) := do
  if !path.isClean then return .error .nullCharacter
  match ← FileAccess.read path with
  | .error issue => return .error (.access issue path)
  | .ok bytes =>
    match Text.decode bytes with
    | .error error => return .error (.undecodable error)
    | .ok text => return .ok (Text.unifyNewlines text)

def writeSource (path : Path) (code : Text) : m (Except FileFault Unit) := do
  if !path.isClean then return .error .nullCharacter
  match ← FileAccess.write path (Text.encode code) with
  | .error issue => return .error (.access issue path)
  | .ok () => return .ok ()

/-- Converts a file and answers the path of the source, with what was noticed on the way. The source
is complete before its file is opened, so a failed conversion writes nothing. -/
def convertFile (input : Text) (base : Option Text) (config : Config) :
    m (Except FileFault Path × Log) := do
  match ← readListing (.ofText input) with
  | .error fault => return (.error fault, [])
  | .ok listing =>
    let converted := decompile listing config
    match converted.result with
    | .error fault => return (.error (.listing fault), converted.log)
    | .ok shader =>
      match outputPath input base shader.stage with
      | .error fault => return (.error fault, converted.log)
      | .ok path =>
        match ← writeSource path shader.code with
        | .error fault => return (.error fault, converted.log)
        | .ok () => return (.ok path, converted.log)

end
end ShaderLift
