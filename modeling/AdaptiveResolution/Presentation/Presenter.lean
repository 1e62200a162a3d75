import AdaptiveResolution.Pacing.Controller
import AdaptiveResolution.Presentation.Backend

/-!
The presentation loop. A frame is paced, drawn, submitted and presented; a change of scale that
its frame time asks for takes effect after it.
-/

namespace AdaptiveResolution.Presentation

open Pacing (Controller Decision)

inductive FrameState where
  | idle
  | rendering
  | submitted
  | presented
  deriving DecidableEq, Repr

inductive PresentError (ε : Type) where
  | pacing (error : Pacing.Error)
  | backend (error : ε)
  deriving DecidableEq

namespace PresentError

variable {ε : Type}

def message (text : ε → String) : PresentError ε → String
  | pacing e => e.message
  | backend e => "presentation backend failed: " ++ text e

def detail (text : ε → String) : PresentError ε → String
  | pacing e => "Pacing(" ++ e.detail ++ ")"
  | backend e => "Backend(" ++ text e ++ ")"

def source : PresentError ε → Option ε
  | pacing _ => none
  | backend e => some e

end PresentError

structure FrameReport where
  frameIndex : UInt64
  backBuffer : BackBuffer
  fence : Nat
  renderSize : Extent
  scale : Double
  resized : Bool
  deriving DecidableEq

structure FrameStats where
  framesPresented : UInt64 := 0
  resizes : UInt64 := 0
  fenceWaits : UInt64 := 0
  deriving DecidableEq, Repr

structure Presenter (β : Type) where
  backend : β
  controller : Controller
  state : FrameState := .idle
  backBuffer : BackBuffer := .first
  inFlight : Vector Nat 2 := #v[0, 0]
  renderSize : Extent
  pendingResize : Option Extent := none
  frameIndex : UInt64 := 0
  time : Duration := .zero
  lastFrame : Option Duration := none
  stats : FrameStats := {}

namespace Presenter

variable {β ε α : Type}

def onBackend (x : Action β ε α) : Action (Presenter β) (PresentError ε) α :=
  x.within Presenter.backend (fun p backend => { p with backend }) .backend

def onController (x : Action Controller Pacing.Error α) :
    Action (Presenter β) (PresentError ε) α :=
  x.within Presenter.controller (fun p controller => { p with controller }) .pacing

def count (counter : Presenter β → UInt64) (set : UInt64 → Presenter β → Presenter β) :
    Action (Presenter β) (PresentError ε) Unit := do
  let p ← Action.state
  let n ← Action.ofChecked (Checked.add64 (counter p) 1)
  Action.update (set n)

variable [Backend β ε]

def start (controller : Controller) : Action β ε (Presenter β) := do
  let backend ← Action.state
  let renderSize := (Backend.outputSize backend).scaled controller.scale
  Backend.resize renderSize
  let backend ← Action.state
  return { backend, controller, renderSize }

def pace (elapsed : Duration) : Action (Presenter β) (PresentError ε) Decision := do
  let decision ← onController (Controller.advanceDuration elapsed)
  Action.update fun p => { p with time := p.time.add elapsed }
  return decision

/-- Applies the pending size, if there is one, and tells whether there was. A size that the
backend fails to apply stays pending. -/
def applyPendingResize : Action (Presenter β) (PresentError ε) Bool := do
  let p ← Action.state
  match p.pendingResize with
  | none => return false
  | some size =>
    Action.note .info .presentation
      ("Resizing render target " ++ p.renderSize.text ++ " -> " ++ size.text)
    onBackend (Backend.resize size)
    Action.update fun p => { p with renderSize := size, pendingResize := none }
    count (·.stats.resizes) fun resizes p => { p with stats := { p.stats with resizes } }
    return true

def scheduleResize (decision : Decision) : Action (Presenter β) (PresentError ε) Unit :=
  Action.update fun p =>
    if decision.resizeNeeded then
      { p with pendingResize := some ((Backend.outputSize p.backend).scaled decision.scale) }
    else p

def await (fence : Nat) (reason : String) : Action (Presenter β) (PresentError ε) Unit := do
  let p ← Action.state
  if Backend.completed p.backend < fence then
    Action.note .trace .presentation reason
    onBackend (Backend.wait fence)
    count (·.stats.fenceWaits) fun fenceWaits p => { p with stats := { p.stats with fenceWaits } }

def scaleInUse (p : Presenter β) : Double :=
  let output := Backend.outputSize p.backend
  if output.width = 0 then p.controller.scale
  else .ofNat p.renderSize.width.toNat / .ofNat output.width.toNat

def context (p : Presenter β) : FrameContext where
  frameIndex := p.frameIndex
  time := p.time
  scale := p.scaleInUse
  renderSize := p.renderSize
  backBuffer := p.backBuffer

def draw : Action (Presenter β) (PresentError ε) FrameContext := do
  Action.update fun p => { p with state := .rendering }
  let frame ← Action.inspect context
  onBackend (Backend.render frame)
  onBackend (Backend.copy frame.backBuffer)
  return frame

def submit : Action (Presenter β) (PresentError ε) Nat := do
  let fence ← onBackend Backend.submit
  Action.update fun p =>
    { p with inFlight := p.inFlight.setIfInBounds p.backBuffer fence, state := .submitted }
  return fence

def presentBuffer (index : BackBuffer) : Action (Presenter β) (PresentError ε) Unit := do
  onBackend (Backend.present index)
  Action.update fun p => { p with state := .presented, backBuffer := index.flip }
  count (·.frameIndex) fun frameIndex p => { p with frameIndex }
  count (·.stats.framesPresented) fun framesPresented p =>
    { p with stats := { p.stats with framesPresented } }

def presentFrame (elapsed : Duration) : Action (Presenter β) (PresentError ε) FrameReport := do
  let decision ← pace elapsed
  let _ ← applyPendingResize
  scheduleResize decision
  let p ← Action.state
  let busy := p.inFlight.get p.backBuffer
  await busy
    ("Waiting on fence " ++ Nat.repr busy ++ " before reusing back buffer " ++ p.backBuffer.text)
  let frame ← draw
  let fence ← submit
  -- At most one frame stays queued behind the one just submitted.
  await (fence - 1) ("GPU fell behind, waiting on fence " ++ Nat.repr (fence - 1))
  presentBuffer frame.backBuffer
  let resized ← applyPendingResize
  Action.update fun p => { p with state := .idle }
  return {
    frameIndex := frame.frameIndex
    backBuffer := frame.backBuffer
    fence
    renderSize := frame.renderSize
    scale := decision.scale
    resized }

/-- A clock may be too coarse to tell two frames apart. -/
def leastElapsed : Duration := .ofNanos 100

def runFrame (now : Duration) : Action (Presenter β) (PresentError ε) FrameReport := do
  let p ← Action.state
  let elapsed := match p.lastFrame with
    | some previous => now.since previous
    | none => p.controller.config.targetDuration
  Action.update fun p => { p with lastFrame := some now }
  presentFrame (max elapsed leastElapsed)

end Presenter

end AdaptiveResolution.Presentation
