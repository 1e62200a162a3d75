import AdaptiveResolution.Luminance
import AdaptiveResolution.Pacing.Overrides
import AdaptiveResolution.Presentation.Presenter
import AdaptiveResolution.SwapChain.Offscreen

namespace AdaptiveResolution.Demo

open Gpu Pacing Presentation SwapChain

def size : Extent := ⟨1920, 1080⟩

def frameCount : Nat := 600

inductive Failure where
  | config (error : ConfigError)
  | presentation (error : PresentError SwapChain.Error)
  | readback (error : BufferError)
  deriving DecidableEq

def Failure.message : Failure → String
  | config e => e.message
  | presentation e => e.message SwapChain.Error.message
  | readback e => e.message

def settings {σ ε : Type} (environment : Environment) : Action σ ε Config :=
  (Config.ofEnvironment environment).recover fun e => do
    Action.note .warn .demo ("Ignoring pacing overrides: " ++ e.message)
    return {}

def start (environment : Environment) (swapChain : Action Device Failure Offscreen) :
    Action Device Failure (Presenter Offscreen) := do
  let config ← settings environment
  let swapChain ← swapChain
  let controller ← Action.ofOutcome ((Controller.new config).mapError .config)
  (Action.on swapChain (Presenter.start controller)).mapError fun e => .presentation (.backend e)

def startLine : String := "Rendering " ++ Nat.repr frameCount ++ " frames at " ++ size.text

def pairText (e : Extent) : String :=
  "(" ++ Nat.repr e.width.toNat ++ ", " ++ Nat.repr e.height.toNat ++ ")"

def frame (now : Duration) : Action (Presenter Offscreen) Failure (Option String) := do
  let report ← (Presenter.runFrame now).mapError .presentation
  let p ← Action.state
  let number := Nat.repr report.frameIndex.toNat
  if report.resized then
    return some
      ("frame " ++ "".pushn ' ' (4 - number.length) ++ number ++ ": scale " ++
        report.scale.fixed 2 ++ ", render target " ++ pairText report.renderSize ++ " -> " ++
        pairText p.renderSize)
  else return none

def frames : List Duration → Action (Presenter Offscreen) Failure (List String)
  | [] => return []
  | now :: rest => do
    let line ← frame now
    let lines ← frames rest
    return line.toList ++ lines

def doneLine (elapsed : Duration) : String := "Done in " ++ elapsed.text 2

def countLine (stats : FrameStats) : String :=
  "presented: " ++ Nat.repr stats.framesPresented.toNat ++ ", resizes: " ++
    Nat.repr stats.resizes.toNat ++ ", fence waits: " ++ Nat.repr stats.fenceWaits.toNat

def averageText (elapsed : Duration) : String :=
  ", average frame: " ++ (Duration.ofNanos (elapsed.nanos / frameCount)).text 2

def luminanceLine : Action (Presenter Offscreen) Failure (Option String) := do
  let p ← Action.state
  match p.backend.frontTexture with
  | none => return none
  | some front =>
    let pixels ← (front.readPixels).within (fun p : Presenter Offscreen => p.backend.device)
      (fun p device => { p with backend := { p.backend with device } }) .readback
    return some ("front buffer mean luminance: " ++ (Luminance.mean pixels).fixed 3)

end AdaptiveResolution.Demo
