import ShaderLift.File.Fault
import ShaderLift.Notice

namespace ShaderLift

inductive Report where
  | conversion (notice : Notice)
  | decompiling (input : Text)
  | readFailed (input : Text) (fault : FileFault)
  | rejected (fault : Fault)
  | writing (stage : Stage) (path : Path)
  | writeFailed (path : Path) (fault : FileFault)
  | written (path : Path)
  | waiting
  | watching (input : Text)
  | changed (listing : Path)
  | interrupted
  deriving DecidableEq

namespace Level

def name : Level → Text
  | debug => "DEBUG"
  | info => "INFO"
  | warning => "WARNING"
  | error => "ERROR"

def severity : Level → Nat
  | debug => 10
  | info => 20
  | warning => 30
  | error => 40

/-- The severity from which on reports are wanted, by its name. There are more names than levels. -/
def threshold? (name : Text) : Option Nat :=
  if name = "TRACE" then some 5
  else if name = "SUCCESS" then some 25
  else if name = "CRITICAL" then some 50
  else ([debug, info, warning, error].find? (·.name = name)).map severity

end Level

namespace Report

def level : Report → Level
  | conversion notice => notice.level
  | readFailed .. | rejected .. | writeFailed .. => .error
  | _ => .info

def message : Report → Text
  | conversion notice => notice.message
  | decompiling input => "Decompiling " ++ input ++ "..."
  | readFailed input fault => "Failed to read " ++ input ++ ": " ++ fault.message
  | rejected fault => "Decompilation error: " ++ fault.message
  | writing stage path => "Writing " ++ stage.name ++ " shader to " ++ path.toText ++ "..."
  | writeFailed path fault => "Failed to write " ++ path.toText ++ ": " ++ fault.message
  | written path => "Shader written to " ++ path.toText
  | waiting => "Waiting for the next change..."
  | watching input => "Watching " ++ input ++ " (press Ctrl+C to stop)..."
  | changed listing => "Detected changes in " ++ listing.toText
  | interrupted => "Keyboard interrupt received, stopping..."

def line (report : Report) : Text := report.level.name ++ ": " ++ report.message

def isWanted (threshold : Nat) (report : Report) : Bool := threshold ≤ report.level.severity

end Report
end ShaderLift
