import AdaptiveResolution.Proofs.SwapChain.Bindings
import AdaptiveResolution.Proofs.SwapChain.Driving

namespace AdaptiveResolution.SwapChain

open Gpu Presentation Presenter
open Pacing (Config Controller)

end AdaptiveResolution.SwapChain
