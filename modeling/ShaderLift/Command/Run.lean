import ShaderLift.Command.Arguments
import ShaderLift.Command.Host

namespace ShaderLift

inductive Stop where
  | reported
  | fault (cause : FileFault)
  /-- The wanted level of reports is none. -/
  | unknownLevel (name : Text)
  deriving DecidableEq

inductive Outcome where
  | done
  | misused
  | stopped (stop : Stop)
  deriving DecidableEq

def Outcome.exitCode : Outcome → Nat
  | done => 0
  | misused => 2
  | stopped _ => 1

def Stop.message : Stop → Text
  | reported => []
  | fault cause => cause.message
  | unknownLevel name => "Level '" ++ name ++ "' does not exist"

def stampText (time : Text) (input : Text) : Text :=
  let file := match Text.splitLast? '/' input with
    | some (_, file) => file
    | none => input
  "// Generated by asm2hlsl v0.1.0\n// Generation time: " ++ time ++ "\n// Source file: " ++ file ++
    "\n\n"

namespace Command

section
variable {m : Type → Type} [Monad m] [Host m]

def translate (request : Request) : Except FileFault Text → ExceptT Stop m Shader
  | .error fault@(.access ..) => do
    Host.report (m := m) (.readFailed request.input fault)
    throw .reported
  | .error fault => throw (.fault fault)
  | .ok listing => do
    let converted := decompile listing { entryPoint := request.entryPoint, strict := request.strict }
    for notice in converted.log do
      Host.report (m := m) (.conversion notice)
    match converted.result with
    | .error fault =>
      if fault.isReported then
        Host.report (m := m) (.rejected fault)
        throw .reported
      else throw (.fault (.listing fault))
    | .ok shader =>
      if request.stamp then
        let time ← Host.now (m := m)
        return { shader with code := stampText time request.input ++ shader.code }
      else return shader

def render (request : Request) : ExceptT Stop m Shader := do
  translate request (← readListing (m := m) (.ofText request.input))

def store (request : Request) (shader : Shader) : ExceptT Stop m Unit := do
  match outputPath request.input request.output shader.stage with
  | .error fault => throw (.fault fault)
  | .ok path =>
    Host.report (m := m) (.writing shader.stage path)
    match ← writeSource (m := m) path shader.code with
    | .error fault@(.access ..) =>
      Host.report (m := m) (.writeFailed path fault)
      throw .reported
    | .error fault => throw (.fault fault)
    | .ok () => Host.report (m := m) (.written path)

def defaultLevel : Text := "INFO"

/-- Starts listening to reports: all of them for a verbose request, else those from the named level
on. -/
def listen (request : Request) (level : Text) : ExceptT Stop m Unit :=
  match Level.threshold? (if request.verbose then "DEBUG" else level) with
  | none => throw (.unknownLevel level)
  | some threshold => Host.listen (m := m) threshold

def convert (request : Request) : ExceptT Stop m Unit := do
  Host.report (m := m) (.decompiling request.input)
  store request (← render request)

def print (request : Request) : ExceptT Stop m Unit := do
  let shader ← render request
  Host.print (m := m) shader.code

def once (verb : Verb) (request : Request) (level : Text) : ExceptT Stop m Unit := do
  listen request level
  match verb with
  | .print => print request
  | .convert | .watch => convert request

end
end Command

def Outcome.ofResult : Except Stop Unit → Outcome
  | .ok () => .done
  | .error stop => .stopped stop

end ShaderLift
