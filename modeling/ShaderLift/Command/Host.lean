import ShaderLift.Command.Report
import ShaderLift.File.Conversion

namespace ShaderLift

class Host (m : Type → Type) extends FileAccess m where
  now : m Text
  print : Text → m Unit
  /-- From now on only reports of a severity or above are wanted. -/
  listen : Nat → m Unit
  report : Report → m Unit

structure Session where
  store : Store := {}
  clock : Text := []
  threshold : Nat := 0
  log : List Report := []
  printed : Text := []

namespace Session

def note (report : Report) (session : Session) : Session :=
  if report.isWanted session.threshold then { session with log := session.log ++ [report] }
  else session

def read (path : Path) (session : Session) : Except AccessIssue (List UInt8) × Session :=
  (session.store.read path, session)

def write (path : Path) (bytes : List UInt8) (session : Session) : Except AccessIssue Unit × Session :=
  match session.store.write path bytes with
  | .error issue => (.error issue, session)
  | .ok store => (.ok (), { session with store })

instance : Host (StateM Session) where
  read := read
  write := write
  now := return (← get).clock
  print text := modify fun session => { session with printed := session.printed ++ text }
  listen threshold := modify fun session => { session with threshold }
  report entry := modify (note entry)

end Session
end ShaderLift
