import AdaptiveResolution.Extent

namespace AdaptiveResolution.Gpu

inductive BufferUsage where
  | mapRead
  | copySource
  | copyDestination
  | uniform
  | storage
  deriving DecidableEq, Repr

inductive TextureUsage where
  | copySource
  | copyDestination
  | textureBinding
  | storageBinding
  | renderAttachment
  deriving DecidableEq, Repr

structure Buffer where
  id : Nat
  elementSize : Nat
  size : Nat
  deriving DecidableEq, Repr

structure Uniform where
  buffer : Buffer
  deriving DecidableEq, Repr

structure Texture where
  id : Nat
  extent : Extent
  deriving DecidableEq, Repr

structure Shader where
  id : Nat
  label : Option String
  deriving DecidableEq, Repr

inductive Resource where
  | buffer (b : Buffer)
  | texture (t : Texture)
  deriving DecidableEq, Repr

inductive BindingType where
  | uniform
  | storage (readOnly : Bool)
  | storageTexture
  | texture
  deriving DecidableEq, Repr

structure LayoutEntry where
  binding : UInt32
  type : BindingType
  deriving DecidableEq, Repr

structure Layout where
  id : Nat
  entries : List LayoutEntry
  deriving DecidableEq, Repr

structure GroupEntry where
  binding : UInt32
  resource : Resource
  deriving DecidableEq, Repr

structure BindGroup where
  id : Nat
  layout : Layout
  entries : List GroupEntry
  deriving DecidableEq, Repr

structure PipelineLayout where
  id : Nat
  label : String
  layouts : List Layout
  deriving DecidableEq, Repr

structure Pipeline where
  id : Nat
  layout : PipelineLayout
  shader : Shader
  entryPoint : String
  deriving DecidableEq, Repr

inductive PassCommand where
  | setPipeline (pipeline : Pipeline)
  | setBindGroup (index : UInt32) (group : BindGroup)
  | debugMarker (text : String)
  | dispatch (x y z : UInt32)
  deriving DecidableEq, Repr

structure TextureCopy where
  texture : Texture
  buffer : Buffer
  bytesPerRow : UInt32
  deriving DecidableEq, Repr

inductive Work where
  | pass (commands : List PassCommand)
  | copy (copy : TextureCopy)
  deriving DecidableEq, Repr

structure Encoder where
  id : Nat
  work : List Work := []
  deriving DecidableEq, Repr

inductive Api where
  | vulkan
  | metal
  | direct12
  | direct11
  | openGl
  | web
  deriving DecidableEq, Repr

inductive Power where
  | low
  | high
  deriving DecidableEq, Repr

inductive Command where
  | openInstance (apis : List Api)
  | requestAdapter (power : Power)
  | requestDevice (label : String)
  | createShader (shader : Shader) (source : String)
  | createBuffer (id : Nat) (label : String) (usages : List BufferUsage) (size : Nat)
      (contents : Option (Array UInt8))
  | writeBuffer (id offset : Nat) (bytes : Array UInt8)
  | createTexture (texture : Texture) (label : String) (usages : List TextureUsage)
  | createLayout (layout : Layout)
  | createBindGroup (group : BindGroup)
  | createPipelineLayout (layout : PipelineLayout)
  | createPipeline (pipeline : Pipeline) (label : String)
  | createEncoder (id : Nat) (label : Option String)
  | beginPass (encoder : Nat) (label : String)
  | inPass (command : PassCommand)
  | endPass (encoder : Nat)
  | copyTexture (encoder : Nat) (copy : TextureCopy)
  | submit (encoders : List Nat)
  | onDone
  | poll (wait : Bool)
  | map (buffer first past : Nat)
  | unmap (buffer : Nat)
  deriving DecidableEq, Repr

end AdaptiveResolution.Gpu
