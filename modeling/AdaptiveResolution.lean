import AdaptiveResolution.Main
import AdaptiveResolution.Gpu.Platform
import AdaptiveResolution.Presentation.Recorded
import AdaptiveResolution.Proofs.Pacing.Batch
import AdaptiveResolution.Proofs.Presentation.RenderTarget
import AdaptiveResolution.Proofs.Presentation.Reuse
import AdaptiveResolution.Proofs.Binary.Arithmetic
import AdaptiveResolution.Proofs.Pacing.Bounds
import AdaptiveResolution.Proofs.Presentation.FrameCalls
import AdaptiveResolution.Proofs.Presentation.Tallies
import AdaptiveResolution.Proofs.Presentation.Steering
import AdaptiveResolution.Proofs.Presentation.Lag
import AdaptiveResolution.Proofs.Pacing.Skipping
import AdaptiveResolution.Proofs.Presentation.Discarding
import AdaptiveResolution.Proofs.SwapChain.Fences
import AdaptiveResolution.Proofs.Binary.Scaling
import AdaptiveResolution.Proofs.SwapChain.Driving
import AdaptiveResolution.Proofs.SwapChain.Submissions
import AdaptiveResolution.Proofs.Presentation.FrameScript
import AdaptiveResolution.Proofs.Presentation.FrameCourse
import AdaptiveResolution.Proofs.Presentation.FrameProtocol
import AdaptiveResolution.Proofs.Presentation.TargetSize
import AdaptiveResolution.Proofs.Presentation.Independence
import AdaptiveResolution.Proofs.SwapChain.Recordings
import AdaptiveResolution.Proofs.Binary.Signs
import AdaptiveResolution.Proofs.Pacing.ResizeRate
import AdaptiveResolution.Proofs.Pacing.Feedback
import AdaptiveResolution.Proofs.Pacing.OnTarget
import AdaptiveResolution.Proofs.Pacing.IdleResizes
import AdaptiveResolution.Proofs.Presentation.FirstFrame
import AdaptiveResolution.Proofs.Gpu.Readback
import AdaptiveResolution.Proofs.Pacing.Precedence
import AdaptiveResolution.Proofs.Presentation.FrameQueue
import AdaptiveResolution.Proofs.Gpu.CallOrder
import AdaptiveResolution.Proofs.Pacing.CountVariables
import AdaptiveResolution.Proofs.Pacing.Restarts
import AdaptiveResolution.Proofs.SwapChain.Coverage
