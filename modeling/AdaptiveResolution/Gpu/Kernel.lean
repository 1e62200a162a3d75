import AdaptiveResolution.Gpu.Device

namespace AdaptiveResolution.Gpu

def dispatchSize (extent group : UInt32) : Checked UInt32 := do
  let raised ← Checked.add32 extent group
  let raised ← Checked.sub32 raised 1
  Checked.div32 raised group

structure DescriptorSet where
  layout : List LayoutEntry := []
  entries : List GroupEntry := []
  deriving DecidableEq, Repr

namespace DescriptorSet

def bind (s : DescriptorSet) (type : BindingType) (resource : Resource) : DescriptorSet where
  layout := s.layout ++ [⟨.ofNat s.layout.length, type⟩]
  entries := s.entries ++ [⟨.ofNat s.layout.length, resource⟩]

def bindBuffer (s : DescriptorSet) (b : Buffer) (readOnly : Bool) : DescriptorSet :=
  s.bind (.storage readOnly) (.buffer b)

def bindUniform (s : DescriptorSet) (u : Uniform) : DescriptorSet :=
  s.bind .uniform (.buffer u.buffer)

def bindStorageTexture (s : DescriptorSet) (t : Texture) : DescriptorSet :=
  s.bind .storageTexture (.texture t)

def bindTexture (s : DescriptorSet) (t : Texture) : DescriptorSet :=
  s.bind .texture (.texture t)

end DescriptorSet

structure Program where
  shader : Shader
  entryPoint : String
  sets : List DescriptorSet
  deriving DecidableEq, Repr

structure Kernel where
  pipeline : Pipeline
  groups : List BindGroup
  entryPoint : String
  deriving DecidableEq, Repr

namespace Kernel

variable {ε : Type}

def bindAll : List DescriptorSet → Action Device ε (List BindGroup)
  | [] => return []
  | set :: sets => do
    let layout ← Device.createLayout set.layout
    let group ← Device.createBindGroup layout set.entries
    let groups ← bindAll sets
    return group :: groups

def create (p : Program) : Action Device ε Kernel := do
  let groups ← bindAll p.sets
  let layout ← Device.createPipelineLayout p.entryPoint (groups.map BindGroup.layout)
  let pipeline ← Device.createPipeline p.entryPoint layout p.shader p.entryPoint
  return ⟨pipeline, groups, p.entryPoint⟩

def passCommands (k : Kernel) (x y z : UInt32) : List PassCommand :=
  .setPipeline k.pipeline ::
    k.groups.mapIdx (fun i g => .setBindGroup (.ofNat i) g) ++ [.debugMarker k.entryPoint, .dispatch x y z]

def record (k : Kernel) (e : Encoder) (x y z : UInt32) : Action Device ε Encoder :=
  Device.recordPass e k.entryPoint (k.passCommands x y z)

def enqueue (k : Kernel) (x y z : UInt32) : Action Device ε Unit := do
  let encoder ← Device.createEncoder (some "compute encoder")
  let encoder ← k.record encoder x y z
  Device.submit [encoder]

end Kernel

end AdaptiveResolution.Gpu
