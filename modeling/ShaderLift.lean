import ShaderLift.Main
import ShaderLift.Proofs.Constant.Binding
import ShaderLift.Proofs.Constant.Indexing
import ShaderLift.Proofs.Declaring.Constants
import ShaderLift.Proofs.Declaring.Temporaries
import ShaderLift.Proofs.Faults.Conversion
import ShaderLift.Proofs.Header.Members
import ShaderLift.Proofs.Header.Structures
import ShaderLift.Proofs.Header.Table
import ShaderLift.Proofs.Nesting.Markers
import ShaderLift.Proofs.Operand.Inverse
import ShaderLift.Proofs.Operand.Listed
import ShaderLift.Proofs.Operand.Literal
import ShaderLift.Proofs.Progress.Run
import ShaderLift.Proofs.Register.Recast
import ShaderLift.Proofs.Register.Span
import ShaderLift.Proofs.Return.EntryPoint
import ShaderLift.Proofs.Saturation.Turn
import ShaderLift.Proofs.Shader.Matrix
import ShaderLift.Proofs.Shared.Turn
import ShaderLift.Proofs.Signature.Fields
import ShaderLift.Proofs.Symbols.History
import ShaderLift.Proofs.Transparency.Run
import ShaderLift.Proofs.Watch.Interleaving
import ShaderLift.Watch.Script
