import AdaptiveResolution.Proofs.Gpu.Devices

namespace AdaptiveResolution.Gpu

variable {ε : Type}

inductive Binding where
  | buffer (b : Buffer) (readOnly : Bool)
  | uniform (u : Uniform)
  | storageTexture (t : Texture)
  | texture (t : Texture)

namespace Binding

def type : Binding → BindingType
  | buffer _ readOnly => .storage readOnly
  | uniform _ => .uniform
  | storageTexture _ => .storageTexture
  | texture _ => .texture

def resource : Binding → Resource
  | buffer b _ => .buffer b
  | uniform u => .buffer u.buffer
  | storageTexture t => .texture t
  | texture t => .texture t

end Binding

namespace DescriptorSet

structure Lists (s : DescriptorSet) (bindings : List Binding) : Prop where
  layout_eq : s.layout = bindings.mapIdx fun j b => ⟨.ofNat j, b.type⟩
  entries_eq : s.entries = bindings.mapIdx fun j b => ⟨.ofNat j, b.resource⟩

section

variable {s : DescriptorSet} {bindings : List Binding}

theorem Lists.bind (h : s.Lists bindings) (b : Binding) :
    (s.bind b.type b.resource).Lists (bindings ++ [b]) := by
  have hlength : s.layout.length = bindings.length := by rw [h.layout_eq, List.length_mapIdx]
  constructor
  · rw [DescriptorSet.bind, hlength, h.layout_eq, List.mapIdx_concat]
  · rw [DescriptorSet.bind, hlength, h.entries_eq, List.mapIdx_concat]

end

end DescriptorSet

namespace Kernel

end Kernel

end AdaptiveResolution.Gpu
