import ShaderLift.Body.Run
import ShaderLift.Header.Scan
import ShaderLift.Shader.Source

namespace ShaderLift

structure Shader where
  code : Text
  stage : Stage
  deriving DecidableEq

structure Logged (α : Type) where
  result : Except Fault α
  log : Log

def scanHeader (listing : Text) : Logged Declarations :=
  match Scan.scan listing {} with
  | (.ok (), scan) => ⟨.ok scan.declared, scan.log⟩
  | (.error fault, scan) => ⟨.error fault, scan.log⟩

def readSymbols (listing : Text) (room : Nat := callRoom) : Logged Symbols :=
  let scanned := scanHeader listing
  match scanned.result with
  | .error fault => ⟨.error fault, scanned.log⟩
  | .ok declared =>
    let resolution := declared.resolve room
    let result := match resolution.fault with
      | some fault => .error fault
      | none => .ok ⟨resolution.declared, resolution.registers⟩
    ⟨result, scanned.log ++ resolution.notices⟩

def decompile (listing : Text) (config : Config) : Logged Shader :=
  let read := readSymbols listing
  match read.result with
  | .error fault => ⟨.error fault, read.log⟩
  | .ok symbols =>
    let run := decodeBody ⟨symbols, config⟩ listing
    let log := read.log ++ run.final.log
    match run.outcome with
    | .error fault => ⟨.error fault, log⟩
    | .ok () =>
      let unit : ShaderSource := ⟨symbols, run.final.context, config⟩
      let code := unit.render
      ⟨.ok ⟨code, unit.stage⟩,
        log ++ unit.notices ++ [.generated (Text.lines code).length unit.stage]⟩

end ShaderLift
