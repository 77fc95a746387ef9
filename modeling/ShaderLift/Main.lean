import ShaderLift.Watch.Watcher
import Std.Time.DateTime

namespace ShaderLift

/-- Input and output, with the severity from which on reports are wanted. -/
abbrev Console := StateT Nat IO

namespace Console

def errorNumber? : IO.Error → Option UInt32
  | .noFileOrDirectory _ number _ | .inappropriateType _ number _ | .invalidArgument _ number _
  | .illegalOperation number _ | .unsupportedOperation number _ | .otherError number _ => some number
  | _ => none

/-- The issue that an error stands for. Some operations give the number of an error negated. -/
def issue? (error : IO.Error) : Option AccessIssue :=
  (errorNumber? error).bind fun number =>
    (AccessIssue.ofNumber? number.toNat).or (AccessIssue.ofNumber? (0 - number).toNat)

/-- Does something with a file, and answers the issue if there is one the commands know. -/
def attempt {α : Type} (work : IO α) : IO (Except AccessIssue α) := do
  match ← work.toBaseIO with
  | .ok result => return .ok result
  | .error error =>
    match issue? error with
    | some issue => return .error issue
    | none => throw error

def pathString (path : Path) : String := String.ofList path.toText

def read (path : Path) : IO (Except AccessIssue (List UInt8)) := attempt do
  return (← IO.FS.readBinFile (pathString path)).toList

def write (path : Path) (bytes : List UInt8) : IO (Except AccessIssue Unit) := attempt do
  IO.FS.writeBinFile (pathString path) ⟨bytes.toArray⟩

def padded (width : Nat) (n : Int) : Text :=
  let digits := Text.ofInt n
  List.replicate (width - digits.length) '0' ++ digits

def timeText : IO Text := do
  let seconds := (← Std.Time.Timestamp.now).toSecondsSinceUnixEpoch.val
  let date := Std.Time.PlainDate.ofEpochDay ⟨seconds / 86400⟩
  let inDay := seconds % 86400
  return padded 4 date.year ++ "-" ++ padded 2 date.month.val ++ "-" ++ padded 2 date.day.val ++ " " ++
    padded 2 (inDay / 3600) ++ ":" ++ padded 2 (inDay / 60 % 60) ++ ":" ++ padded 2 (inDay % 60) ++
    " UTC"

instance : Host Console where
  read path := read path
  write path bytes := write path bytes
  now := timeText
  print text := do
    let output ← IO.getStdout
    output.putStr (String.ofList text)
    output.flush
  listen threshold := set threshold
  report entry := do
    if entry.isWanted (← get) then IO.eprintln (String.ofList entry.line)

/-- Polls the listing of a watcher without end. News of a change is that the file holds other bytes
than before. -/
partial def poll (watcher : Watcher) (seen : Except AccessIssue (List UInt8)) :
    ExceptT Stop Console Unit := do
  let watcher ← watcher.turn
  IO.sleep 100
  let found ← read watcher.listing
  let changed := match seen, found with
    | .ok before, .ok after => before != after
    | .error _, .error _ => false
    | _, _ => true
  poll (← if changed then watcher.notify (m := Console) watcher.listing else pure watcher) found

def watch (request : Request) (level : Text) : ExceptT Stop Console Unit := do
  Command.listen request level
  let home := Path.ofText (← IO.currentDir).toString.toList
  let watcher := Watcher.ofRequest home request
  let seen ← read watcher.listing
  let watcher ← watcher.turn
  Host.report (m := Console) (.watching request.input)
  poll watcher seen

def perform (invocation : Invocation) (level : Text) : ExceptT Stop Console Unit :=
  match invocation.verb with
  | .watch => watch invocation.request level
  | verb => Command.once verb invocation.request level

end Console
end ShaderLift

open ShaderLift in
def main (arguments : List String) : IO UInt32 := do
  match Arguments.read (arguments.map String.toList) with
  | none =>
    IO.eprintln "Usage: (convert | show | watch) FILE [options]"
    return Outcome.misused.exitCode.toUInt32
  | some invocation =>
    let level := ((← IO.getEnv "ASM2HLSL_LOG_LEVEL").map String.toList).getD Command.defaultLevel
    let (result, _) ← (Console.perform invocation level).run.run 0
    let outcome := Outcome.ofResult result
    if let .stopped stop := outcome then
      if stop ≠ Stop.reported then IO.eprintln (String.ofList stop.message)
    return outcome.exitCode.toUInt32
