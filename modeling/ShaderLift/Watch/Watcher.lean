import ShaderLift.Command.Run

namespace ShaderLift

inductive Phase where
  | polling
  /-- The flag was found set and is not yet cleared. -/
  | clearing
  /-- The flag is cleared and the listing not yet read. -/
  | reading
  | writing (shader : Shader)
  deriving DecidableEq

structure Watcher where
  /-- What to convert, with the listing by its absolute path. -/
  request : Request
  needsConvert : Bool := false
  phase : Phase := .polling

namespace Watcher

/-- A watcher that is about to convert its listing for the first time. -/
def ofRequest (home : Path) (request : Request) : Watcher :=
  { request := { request with input := (Path.absolute home (.ofText request.input)).toText },
    needsConvert := true }

def listing (watcher : Watcher) : Path := .ofText watcher.request.input

def directory (watcher : Watcher) : Path := watcher.listing.parent

section
variable {m : Type → Type} [Monad m] [Host m]

def notify (watcher : Watcher) (path : Path) : m Watcher := do
  if path = watcher.listing then
    Host.report (.changed path)
    return { watcher with needsConvert := true }
  else return watcher

/-- Does a part of a conversion and goes on. A failure that was reported leaves the watcher waiting
for the next change; any other ends it. -/
def settle {α : Type} (watcher : Watcher) (next : α → Phase) (work : ExceptT Stop m α) :
    ExceptT Stop m Watcher := ExceptT.mk do
  match ← work.run with
  | .ok result => return .ok { watcher with phase := next result }
  | .error .reported =>
    Host.report .waiting
    return .ok { watcher with phase := .polling }
  | .error stop => return .error stop

/-- One step of the loop. A watcher that finds the flag clear stays where it is. -/
def advance (watcher : Watcher) : ExceptT Stop m Watcher :=
  match watcher.phase with
  | .polling =>
    if watcher.needsConvert then return { watcher with phase := .clearing } else return watcher
  | .clearing => return { watcher with needsConvert := false, phase := .reading }
  | .reading => watcher.settle .writing (Command.render watcher.request)
  | .writing shader => watcher.settle (fun () => .polling) (Command.store watcher.request shader)

/-- One turn of the loop without news on the way: all steps of a conversion, if there is one. -/
def turn (watcher : Watcher) : ExceptT Stop m Watcher := do
  (← (← (← watcher.advance).advance).advance).advance

end
end Watcher
end ShaderLift
