import AdaptiveResolution.Gpu.Kernel
import AdaptiveResolution.Gpu.Shader
import AdaptiveResolution.Gpu.Texture
import AdaptiveResolution.Presentation.Backend
import AdaptiveResolution.SwapChain.Fence
import AdaptiveResolution.SwapChain.FrameConstants
import AdaptiveResolution.SwapChain.ShaderText

/-!
A swap chain without a screen. A frame is drawn into the render target by the fill kernel and
stretched over a back buffer by one of the upscale kernels; presenting makes that buffer the
front buffer.
-/

namespace AdaptiveResolution.SwapChain

open Gpu Presentation

def groupEdge : UInt32 := 8

def fractalTilesPalette : List (List Single) :=
  [[.ofDecimal false 35 (-3), .ofDecimal false 1 (-2), .zero false, .ofDecimal false 7 (-1)],
    [.ofDecimal false 7 (-1), .ofDecimal false 8 (-1), .ofDecimal false 5 (-1), .ofNat 1]]

inductive Error where
  | unsignalledFence (value : Nat)
  deriving DecidableEq, Repr

def Error.message : Error → String
  | unsignalledFence value => "fence value " ++ Nat.repr value ++ " was never signalled"

def Error.detail : Error → String
  | unsignalledFence value => "UnsignalledFence(" ++ Nat.repr value ++ ")"

structure Offscreen where
  device : Device
  schedule : Schedule
  moment : Nat := 0
  fillShader : Shader
  fillEntryPoint : String
  upscaleShader : Shader
  palette : Buffer
  constants : Uniform
  backBuffers : Vector Texture 2
  renderTarget : Texture
  fillKernel : Kernel
  upscaleKernels : Vector Kernel 2
  encoder : Option Encoder := none
  fence : Fence := {}
  frontBuffer : Option BackBuffer := none

namespace Offscreen

variable {ε α : Type}

def backBufferUsages : List TextureUsage := [.storageBinding, .copySource]

def renderTargetUsages : List TextureUsage := [.storageBinding, .textureBinding, .copySource]

def createFillKernel (shader : Shader) (entryPoint : String) (target : Texture)
    (constants : Uniform) (palette : Buffer) : Action Device ε Kernel :=
  let bindings := ({} : DescriptorSet)
    |>.bindStorageTexture target
    |>.bindUniform constants
    |>.bindBuffer palette true
  Kernel.create ⟨shader, entryPoint, [bindings]⟩

def createUpscaleKernel (shader : Shader) (source destination : Texture)
    (constants : Uniform) : Action Device ε Kernel :=
  let bindings := ({} : DescriptorSet)
    |>.bindTexture source
    |>.bindStorageTexture destination
    |>.bindUniform constants
  Kernel.create ⟨shader, "upscale", [bindings]⟩

def create (schedule : Schedule) (size : Extent) (fillShader : Shader) (fillEntryPoint : String)
    (palette : List (List Single)) : Action Device ε Offscreen := do
  let upscaleShader ← Shader.ofSource (some "upscale.wgsl") upscaleSource
  let palette ← Buffer.ofElements 16
    (palette.flatten.flatMap fun x => wordBytes x.toBits).toArray
  let constants ← Uniform.ofBytes ({} : FrameConstants).bytes
  let first ← Texture.create size backBufferUsages
  let second ← Texture.create size backBufferUsages
  let renderTarget ← Texture.create size renderTargetUsages
  let fillKernel ← createFillKernel fillShader fillEntryPoint renderTarget constants palette
  let toFirst ← createUpscaleKernel upscaleShader renderTarget first constants
  let toSecond ← createUpscaleKernel upscaleShader renderTarget second constants
  Action.note .info .swapChain ("Created " ++ size.text ++ " off-screen swap chain")
  let device ← Action.state
  return {
    device, schedule, fillShader, fillEntryPoint, upscaleShader, palette, constants, renderTarget
    backBuffers := #v[first, second]
    fillKernel
    upscaleKernels := #v[toFirst, toSecond] }

def withFractalTiles (schedule : Schedule) (size : Extent) : Action Device ε Offscreen := do
  let shader ← Shader.ofSource (some "fractal_tiles.wgsl") fractalTilesSource
  create schedule size shader "main" fractalTilesPalette

def frontTexture (c : Offscreen) : Option Texture :=
  c.frontBuffer.map fun index => c.backBuffers.get index

def outputSize (c : Offscreen) : Extent := (c.backBuffers.get BackBuffer.first).extent

def onDevice (x : Action Device ε α) : Action Offscreen ε α :=
  x.within Offscreen.device (fun c device => { c with device }) id

def settle : Action Offscreen ε Unit :=
  Action.update fun c =>
    { c with
      fence := c.fence.reportAll (c.schedule.between c.moment c.fence)
      moment := c.moment + 1 }

/-- Replaces the render target and the kernels that are bound to it, unless it has the size
already. Work that is under way keeps what it was bound to. -/
def resize (size : Extent) : Action Offscreen Error Unit := do
  let c ← Action.state
  if c.renderTarget.extent ≠ size then
    let renderTarget ← onDevice (Texture.create size renderTargetUsages)
    let fillKernel ← onDevice
      (createFillKernel c.fillShader c.fillEntryPoint renderTarget c.constants c.palette)
    let toFirst ← onDevice
      (createUpscaleKernel c.upscaleShader renderTarget c.backBuffers[0] c.constants)
    let toSecond ← onDevice
      (createUpscaleKernel c.upscaleShader renderTarget c.backBuffers[1] c.constants)
    Action.update fun c =>
      { c with renderTarget, fillKernel, upscaleKernels := #v[toFirst, toSecond] }
  settle

def frameEncoder : Action Offscreen Error Encoder := do
  let c ← Action.state
  match c.encoder with
  | some encoder => return encoder
  | none =>
    let encoder ← onDevice (Device.createEncoder (some "frame encoder"))
    Action.update fun c => { c with encoder := some encoder }
    return encoder

def dispatchOver (kernel : Kernel) (extent : Extent) : Action Offscreen Error Unit := do
  let x ← Action.ofChecked (dispatchSize extent.width groupEdge)
  let y ← Action.ofChecked (dispatchSize extent.height groupEdge)
  let encoder ← frameEncoder
  let encoder ← onDevice (kernel.record encoder x y 1)
  Action.update fun c => { c with encoder := some encoder }

def frameConstants (c : Offscreen) (frame : FrameContext) : FrameConstants where
  time := frame.time.toSeconds
  scale := frame.scale.narrow
  renderSize := c.renderTarget.extent
  outputSize := c.outputSize

def render (frame : FrameContext) : Action Offscreen Error Unit := do
  let c ← Action.state
  onDevice (c.constants.write (c.frameConstants frame).bytes)
  dispatchOver c.fillKernel c.renderTarget.extent
  settle

def copy (index : BackBuffer) : Action Offscreen Error Unit := do
  let c ← Action.state
  dispatchOver (c.upscaleKernels.get index) c.outputSize
  settle

def submit : Action Offscreen Error Nat := do
  let c ← Action.state
  match c.encoder with
  | none => pure ()
  | some encoder =>
    onDevice (Device.submit [encoder])
    Action.update fun c => { c with encoder := none }
  let c ← Action.state
  let fence ← Action.ofChecked c.fence.signal
  onDevice (Device.issue .onDone)
  Action.update fun c => { c with fence := fence.reportAll (c.schedule.atSignal fence) }
  settle
  return fence.last.toNat

def waitRounds (value : Nat) : List (List Nat) → Action Offscreen Error Unit
  | [] => do
    let c ← Action.state
    if c.fence.completed < value then
      onDevice (Device.issue (.poll true))
      Action.update fun c => { c with fence := c.fence.reportAll c.fence.pending }
  | round :: rounds => do
    let c ← Action.state
    if c.fence.completed < value then
      onDevice (Device.issue (.poll true))
      Action.update fun c => { c with fence := c.fence.reportAll round }
      waitRounds value rounds

def wait (value : Nat) : Action Offscreen Error Unit := do
  let c ← Action.state
  if c.fence.last.toNat < value then
    Action.fail (.unsignalledFence value)
  else
    waitRounds value (c.schedule.rounds c.fence)
    settle

def present (index : BackBuffer) : Action Offscreen Error Unit := do
  Action.note .trace .swapChain ("Presenting back buffer " ++ index.text)
  Action.update fun c => { c with frontBuffer := some index }
  settle

instance : Backend Offscreen Error where
  outputSize := outputSize
  completed c := c.fence.completed
  resize := resize
  render := render
  copy := copy
  submit := submit
  wait := wait
  present := present

end Offscreen

end AdaptiveResolution.SwapChain
