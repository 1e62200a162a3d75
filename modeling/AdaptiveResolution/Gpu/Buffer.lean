import AdaptiveResolution.Gpu.Device

namespace AdaptiveResolution.Gpu

inductive BufferError where
  | mappingFailed
  | mappingDropped
  deriving DecidableEq, Repr

def BufferError.message : BufferError → String
  | mappingFailed => "Error occurred when trying to async map a buffer"
  | mappingDropped => "buffer mapping callback was dropped"

def BufferError.detail : BufferError → String
  | mappingFailed => "AsyncMapError(BufferAsyncError)"
  | mappingDropped => "ChannelClosed"

namespace Buffer

variable {ε : Type}

def capacity (b : Buffer) : Nat := b.size / b.elementSize

def ofElements (elementSize : Nat) (bytes : Array UInt8) : Action Device ε Buffer := do
  let id ← Device.createBufferWith "GpuBuffer: from slice"
    [.copySource, .copyDestination, .storage] bytes
  return ⟨id, elementSize, bytes.size⟩

def staging (elementSize : Nat) (capacity : UInt64) : Action Device ε Buffer := do
  let size ← Action.ofChecked (Checked.mul64 capacity (.ofNat elementSize))
  let id ← Device.createBuffer "GpuBuffer: staging" [.mapRead, .copyDestination] size.toNat
  return ⟨id, elementSize, size.toNat⟩

def read (b : Buffer) (into : Array UInt8) : Action Device BufferError (Nat × Array UInt8) := do
  let length := min into.size b.size
  if length = 0 then
    Action.ofChecked (.error .emptySlice)
  else
    Device.issue (.map b.id 0 length)
    Device.issue (.poll false)
    let d ← Action.state
    match d.mapping with
    | .fails => Action.fail .mappingFailed
    | .drops => Action.fail .mappingDropped
    | .works =>
      let memory := d.bufferMemory b.id
      Device.issue (.unmap b.id)
      return (length, Array.ofFn fun i : Fin into.size => if i < length then memory i else into[i])

def readAll (b : Buffer) : Action Device BufferError (Array UInt8) := do
  Action.ofChecked (Checked.reserve b.capacity b.elementSize)
  let (_, bytes) ← b.read (Array.replicate (b.capacity * b.elementSize) 0)
  return bytes

end Buffer

namespace Uniform

variable {ε : Type}

def ofBytes (bytes : Array UInt8) : Action Device ε Uniform := do
  let id ← Device.createBufferWith "GpuUniform" [.copyDestination, .uniform] bytes
  return ⟨id, bytes.size, bytes.size⟩

def write (u : Uniform) (bytes : Array UInt8) : Action Device ε Unit :=
  Device.writeBuffer u.buffer.id bytes

end Uniform

end AdaptiveResolution.Gpu
