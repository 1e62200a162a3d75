import AdaptiveResolution.Action
import AdaptiveResolution.Gpu.Command

/-!
A compute device that keeps the commands it is given. Copies are carried out when they are
submitted; what shaders compute is left out.
-/

namespace AdaptiveResolution.Gpu

inductive Mapping where
  | works
  | fails
  | drops
  deriving DecidableEq, Repr

abbrev Memory := Nat → UInt8

structure Device where
  residue : Memory := fun _ => 0
  buffers : Array Memory := #[]
  textures : Array Memory := #[]
  shaders : Nat := 0
  layouts : Nat := 0
  bindGroups : Nat := 0
  pipelineLayouts : Nat := 0
  pipelines : Nat := 0
  encoders : Nat := 0
  mapping : Mapping := .works
  submissions : List (List Encoder) := []
  /-- The commands, the latest one first. -/
  history : List Command := []

namespace Device

variable {ε : Type}

def commands (d : Device) : List Command := d.history.reverse

def bufferMemory (d : Device) (id : Nat) : Memory := d.buffers.getD id d.residue

def textureMemory (d : Device) (id : Nat) : Memory := d.textures.getD id d.residue

def issue (c : Command) : Action Device ε Unit :=
  Action.update fun d => { d with history := c :: d.history }

def createBuffer (label : String) (usages : List BufferUsage) (size : Nat) :
    Action Device ε Nat := do
  let d ← Action.state
  let id := d.buffers.size
  Action.update fun d => { d with buffers := d.buffers.push d.residue }
  issue (.createBuffer id label usages size none)
  return id

def createBufferWith (label : String) (usages : List BufferUsage) (contents : Array UInt8) :
    Action Device ε Nat := do
  let d ← Action.state
  let id := d.buffers.size
  Action.update fun d =>
    { d with buffers := d.buffers.push fun address => contents.getD address (d.residue address) }
  issue (.createBuffer id label usages ((contents.size + 3) / 4 * 4) (some contents))
  return id

def writeBuffer (id : Nat) (bytes : Array UInt8) : Action Device ε Unit := do
  Action.update fun d =>
    { d with
      buffers := d.buffers.modify id fun memory address => bytes.getD address (memory address) }
  issue (.writeBuffer id 0 bytes)

def createTexture (label : String) (extent : Extent) (usages : List TextureUsage) :
    Action Device ε Texture := do
  let d ← Action.state
  let texture : Texture := ⟨d.textures.size, extent⟩
  Action.update fun d => { d with textures := d.textures.push d.residue }
  issue (.createTexture texture label usages)
  return texture

def createShader (label : Option String) (source : String) : Action Device ε Shader := do
  let d ← Action.state
  let shader : Shader := ⟨d.shaders, label⟩
  Action.update fun d => { d with shaders := d.shaders + 1 }
  issue (.createShader shader source)
  return shader

def createLayout (entries : List LayoutEntry) : Action Device ε Layout := do
  let d ← Action.state
  let layout : Layout := ⟨d.layouts, entries⟩
  Action.update fun d => { d with layouts := d.layouts + 1 }
  issue (.createLayout layout)
  return layout

def createBindGroup (layout : Layout) (entries : List GroupEntry) : Action Device ε BindGroup := do
  let d ← Action.state
  let group : BindGroup := ⟨d.bindGroups, layout, entries⟩
  Action.update fun d => { d with bindGroups := d.bindGroups + 1 }
  issue (.createBindGroup group)
  return group

def createPipelineLayout (label : String) (layouts : List Layout) :
    Action Device ε PipelineLayout := do
  let d ← Action.state
  let layout : PipelineLayout := ⟨d.pipelineLayouts, label, layouts⟩
  Action.update fun d => { d with pipelineLayouts := d.pipelineLayouts + 1 }
  issue (.createPipelineLayout layout)
  return layout

def createPipeline (label : String) (layout : PipelineLayout) (shader : Shader)
    (entryPoint : String) : Action Device ε Pipeline := do
  let d ← Action.state
  let pipeline : Pipeline := ⟨d.pipelines, layout, shader, entryPoint⟩
  Action.update fun d => { d with pipelines := d.pipelines + 1 }
  issue (.createPipeline pipeline label)
  return pipeline

def createEncoder (label : Option String) : Action Device ε Encoder := do
  let d ← Action.state
  let encoder : Encoder := { id := d.encoders }
  Action.update fun d => { d with encoders := d.encoders + 1 }
  issue (.createEncoder encoder.id label)
  return encoder

def recordPass (e : Encoder) (label : String) (commands : List PassCommand) :
    Action Device ε Encoder := do
  issue (.beginPass e.id label)
  commands.forM fun c => issue (.inPass c)
  issue (.endPass e.id)
  return { e with work := e.work ++ [.pass commands] }

def recordCopy (e : Encoder) (copy : TextureCopy) : Action Device ε Encoder := do
  issue (.copyTexture e.id copy)
  return { e with work := e.work ++ [.copy copy] }

def withRows (image memory : Memory) (rows row pitch : Nat) : Memory := fun address =>
  if address / pitch < rows ∧ address % pitch < row then
    image (address / pitch * row + address % pitch)
  else memory address

def perform (d : Device) : Work → Device
  | .pass _ => d
  | .copy c =>
    let image := d.textureMemory c.texture.id
    let rows := c.texture.extent.height.toNat
    let row := 4 * c.texture.extent.width.toNat
    { d with
      buffers := d.buffers.modify c.buffer.id fun memory =>
        withRows image memory rows row c.bytesPerRow.toNat }

def submit (batch : List Encoder) : Action Device ε Unit := do
  Action.update fun d =>
    { batch.foldl (fun d e => e.work.foldl perform d) d with
      submissions := batch :: d.submissions }
  issue (.submit (batch.map Encoder.id))

end Device

end AdaptiveResolution.Gpu
