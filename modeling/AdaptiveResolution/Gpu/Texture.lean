import AdaptiveResolution.Gpu.Buffer

namespace AdaptiveResolution.Gpu

namespace TextureUsage

def all : List TextureUsage :=
  [copySource, copyDestination, textureBinding, storageBinding, renderAttachment]

def name : TextureUsage → String
  | copySource => "COPY_SRC"
  | copyDestination => "COPY_DST"
  | textureBinding => "TEXTURE_BINDING"
  | storageBinding => "STORAGE_BINDING"
  | renderAttachment => "RENDER_ATTACHMENT"

def inOrder (usages : List TextureUsage) : List TextureUsage := all.filter (· ∈ usages)

def text (usages : List TextureUsage) : String :=
  if usages = [] then "(empty)" else " | ".intercalate (usages.map name)

end TextureUsage

def paddedBytesPerRow (width : UInt32) : Checked UInt32 := do
  let unpadded ← Checked.mul32 width 4
  let raised ← Checked.add32 unpadded 256
  let raised ← Checked.sub32 raised 1
  let rows ← Checked.div32 raised 256
  Checked.mul32 rows 256

def stripRows (pitch row : Nat) (bytes : Array UInt8) : Array UInt8 :=
  Array.ofFn fun i : Fin (bytes.size / pitch * row) => bytes.getD (i / row * pitch + i % row) 0

namespace Texture

def create {ε : Type} (extent : Extent) (usages : List TextureUsage) :
    Action Device ε Texture := do
  let usages := TextureUsage.inOrder usages
  let texture ← Device.createTexture "GpuTexture" extent.nonempty usages
  Action.note .debug .texture
    ("Allocated " ++ extent.nonempty.text ++ " texture with " ++ TextureUsage.text usages)
  return texture

def readPixels (t : Texture) : Action Device BufferError (Array UInt8) := do
  let pitch ← Action.ofChecked (paddedBytesPerRow t.extent.width)
  let staging ← Buffer.staging 1 (pitch.toUInt64 * t.extent.height.toUInt64)
  let encoder ← Device.createEncoder (some "texture readback encoder")
  let encoder ← Device.recordCopy encoder ⟨t, staging, pitch⟩
  Device.submit [encoder]
  let padded ← staging.readAll
  let row ← Action.ofChecked (Checked.mul32 t.extent.width 4)
  return stripRows pitch.toNat row.toNat padded

end Texture

end AdaptiveResolution.Gpu
