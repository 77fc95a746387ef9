import ShaderLift.Proofs.Faults.Body
import ShaderLift.Proofs.Faults.Resolution
import ShaderLift.Proofs.Header.Scanned

namespace ShaderLift

namespace ListingDefect

variable {listing : Text} {fault : Fault}

end ListingDefect

end ShaderLift
