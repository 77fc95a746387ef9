import ShaderLift.Watch.Watcher

namespace ShaderLift

inductive Happening where
  | nothing
  | put (path : Path) (entry : StoreEntry)
  | delete (path : Path)
  | modified (path : Path)

inductive ObserverCall where
  | schedule (directory : Path) (recursive : Bool)
  | start
  | stop
  | join
  deriving DecidableEq

structure Tick where
  needsConvert : Bool
  store : Store

structure WatchRun where
  ticks : List Tick := []
  calls : List ObserverCall := []
  outcome : Outcome

namespace Watcher

def homePath : StateM Session Path := return ⟨.root, (← get).store.home⟩

def undergo (watcher : Watcher) (happening : Happening) : StateM Session Watcher := do
  let home ← homePath
  let change (update : Store → Store) : StateM Session Watcher := do
    modify fun session => { session with store := update session.store }
    return watcher
  match happening with
  | .nothing => return watcher
  | .put path entry => change (·.plant (Path.absolute home path).names entry)
  | .delete path => change (·.erase (Path.absolute home path).names)
  | .modified path => watcher.notify (Path.absolute home path)

def follow (watcher : Watcher) (script : List Happening) :
    StateM Session (List Tick × Except Stop Unit) := do
  match ← (watcher.turn (m := StateM Session)).run with
  | .error stop => return ([], .error stop)
  | .ok watcher =>
    let tick : Tick := ⟨watcher.needsConvert, (← get).store⟩
    match script with
    | [] =>
      Host.report (m := StateM Session) .interrupted
      return ([tick], .ok ())
    | happening :: rest =>
      let (ticks, result) ← (← watcher.undergo happening).follow rest
      return (tick :: ticks, result)

end Watcher

/-- Watches the listing of a request. The listing is converted once before its directory is
observed. -/
def Command.watch (request : Request) (level : Text) (script : List Happening) :
    StateM Session WatchRun := do
  match ← (Command.listen (m := StateM Session) request level).run with
  | .error stop => return { outcome := .stopped stop }
  | .ok () =>
    match ← ((Watcher.ofRequest (← Watcher.homePath) request).turn (m := StateM Session)).run with
    | .error stop => return { outcome := .stopped stop }
    | .ok watcher =>
      Host.report (m := StateM Session) (.watching request.input)
      let (ticks, result) ← watcher.follow script
      return { ticks, outcome := .ofResult result,
               calls := [.schedule watcher.directory false, .start, .stop, .join] }

end ShaderLift
