import ShaderLift.Proofs.Decoding.States

namespace ShaderLift.Decoding

variable {env : Environment} {tokens : List Token}

end ShaderLift.Decoding
