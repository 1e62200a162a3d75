import AdaptiveResolution.Proofs.Binary.Scaling
import AdaptiveResolution.Proofs.SwapChain.Fences

namespace AdaptiveResolution

structure Extent.Dispatchable (e : Extent) : Prop where
  width_lt : e.width.toNat + SwapChain.groupEdge.toNat < UInt32.size
  height_lt : e.height.toNat + SwapChain.groupEdge.toNat < UInt32.size

structure Extent.Drawable (e : Extent) : Prop extends e.Dispatchable where
  width_pos : 1 ≤ e.width.toNat
  height_pos : 1 ≤ e.height.toNat

namespace Extent

theorem dispatchable_of_le {e output : Extent} (h : output.Dispatchable)
    (hle : e ≤ output.nonempty) : e.Dispatchable := by
  have hedge : 1 + SwapChain.groupEdge.toNat < UInt32.size := by decide
  have hwidth := UInt32.le_iff_toNat_le.mp hle.1
  have hheight := UInt32.le_iff_toNat_le.mp hle.2
  rw [nonempty, max_toNat, UInt32.toNat_one] at hwidth hheight
  obtain ⟨hw, hh⟩ := h
  exact ⟨by omega, by omega⟩

theorem Dispatchable.nonempty {e : Extent} (h : e.Dispatchable) : e.nonempty.Drawable where
  toDispatchable := dispatchable_of_le h (le_refl _)
  width_pos := (Nat.le_max_right _ _).trans (max_toNat e.width 1).ge
  height_pos := (Nat.le_max_right _ _).trans (max_toNat e.height 1).ge

theorem Dispatchable.scaled {output : Extent} (h : output.Dispatchable) {scale : Double}
    (hle : scale ≤ .ofNat 1) : (output.scaled scale).Drawable where
  toDispatchable := dispatchable_of_le h (output.scaled_le_nonempty hle)
  width_pos := UInt32.le_iff_toNat_le.mp (output.one_le_scaled scale).1
  height_pos := UInt32.le_iff_toNat_le.mp (output.one_le_scaled scale).2

theorem Drawable.nonempty_eq {e : Extent} (h : e.Drawable) : e.nonempty = e := by
  have hmax (x : UInt32) (hx : 1 ≤ x.toNat) : max x 1 = x := by
    apply UInt32.toNat_inj.mp
    rw [max_toNat]
    exact max_eq_left hx
  rw [nonempty, hmax _ h.width_pos, hmax _ h.height_pos]

end Extent

namespace SwapChain

open Gpu Presentation

structure Equipment where
  fillShader : Shader
  fillEntryPoint : String
  upscaleShader : Shader
  palette : Buffer
  constants : Uniform
  backBuffers : Vector Texture 2
  renderTarget : Texture
  fillKernel : Kernel
  upscaleKernels : Vector Kernel 2

namespace Equipment

def outputSize (e : Equipment) : Extent := (e.backBuffers.get BackBuffer.first).extent

def fillProgram (e : Equipment) : Program :=
  ⟨e.fillShader, e.fillEntryPoint,
    [({} : DescriptorSet)
      |>.bindStorageTexture e.renderTarget
      |>.bindUniform e.constants
      |>.bindBuffer e.palette true]⟩

def upscaleProgram (e : Equipment) (i : BackBuffer) : Program :=
  ⟨e.upscaleShader, "upscale",
    [({} : DescriptorSet)
      |>.bindTexture e.renderTarget
      |>.bindStorageTexture (e.backBuffers.get i)
      |>.bindUniform e.constants]⟩

structure Linked (e : Equipment) : Prop where
  fill : e.fillKernel.Implements e.fillProgram
  upscale : ∀ i, (e.upscaleKernels.get i).Implements (e.upscaleProgram i)
  backBuffer_extent : ∀ i, (e.backBuffers.get i).extent = e.outputSize

structure Wired (e : Equipment) : Prop where
  fill : e.fillKernel.Implements e.fillProgram
  upscale : ∀ i, (e.upscaleKernels.get i).Implements (e.upscaleProgram i)
  target : e.renderTarget.extent.Drawable
  output : e.outputSize.Drawable
  backBuffer_extent : ∀ i, (e.backBuffers.get i).extent = e.outputSize

theorem Linked.wired {e : Equipment} (h : e.Linked) (htarget : e.renderTarget.extent.Drawable)
    (houtput : e.outputSize.Drawable) : e.Wired where
  fill := h.fill
  upscale := h.upscale
  target := htarget
  output := houtput
  backBuffer_extent := h.backBuffer_extent

theorem Wired.linked {e : Equipment} (h : e.Wired) : e.Linked where
  fill := h.fill
  upscale := h.upscale
  backBuffer_extent := h.backBuffer_extent

end Equipment

def Covers (d : Dispatch) (k : Kernel) (extent : Extent) : Prop :=
  ∃ x y, d = k.dispatch x y 1 ∧ x.toNat = extent.width.toNat ⌈/⌉ groupEdge.toNat ∧
    y.toNat = extent.height.toNat ⌈/⌉ groupEdge.toNat

theorem Covers.resource_eq {d : Dispatch} {k : Kernel} {extent : Extent} {shader : Shader}
    {entryPoint : String} {set : DescriptorSet} (h : Covers d k extent)
    (hk : k.Implements ⟨shader, entryPoint, [set]⟩) (binding : UInt32) :
    d.resource 0 binding =
      (set.entries.find? fun e => e.binding = binding).map GroupEntry.resource := by
  obtain ⟨x, y, rfl, -, -⟩ := h
  have hone : 1 ≤ UInt32.size := by decide
  exact hk.resource_eq hone x y 1 0 binding

namespace Offscreen

def equipment (c : Offscreen) : Equipment where
  fillShader := c.fillShader
  fillEntryPoint := c.fillEntryPoint
  upscaleShader := c.upscaleShader
  palette := c.palette
  constants := c.constants
  backBuffers := c.backBuffers
  renderTarget := c.renderTarget
  fillKernel := c.fillKernel
  upscaleKernels := c.upscaleKernels

def dispatches (c : Offscreen) : List Dispatch := (c.encoder.map Encoder.dispatches).getD []

structure Continues (c : Offscreen) (calls : List Command) (c' : Offscreen) : Prop where
  equipment_eq : c'.equipment = c.equipment
  issues : c.device.Issues calls c'.device
  fence_eq : ∃ values, c'.fence = c.fence.reportAll values

section

variable {c c' c'' : Offscreen} {calls more : List Command}

theorem Continues.trans (h : c.Continues calls c') (h' : c'.Continues more c'') :
    c.Continues (calls ++ more) c'' where
  equipment_eq := h'.equipment_eq.trans h.equipment_eq
  issues := h.issues.trans h'.issues
  fence_eq := by
    obtain ⟨values, hvalues⟩ := h.fence_eq
    obtain ⟨values', hvalues'⟩ := h'.fence_eq
    exact ⟨values ++ values', by rw [hvalues', hvalues, Fence.reportAll_append]⟩

theorem Continues.reachable (h : c.Continues calls c') (hc : c.fence.Reachable) :
    c'.fence.Reachable := by
  obtain ⟨values, hvalues⟩ := h.fence_eq
  exact hvalues ▸ hc.reportAll values

theorem Continues.last_eq (h : c.Continues calls c') : c'.fence.last = c.fence.last := by
  obtain ⟨values, hvalues⟩ := h.fence_eq
  rw [hvalues, Fence.reportAll_last]

theorem Continues.completed_le (h : c.Continues calls c') :
    c.fence.completed ≤ c'.fence.completed := by
  obtain ⟨values, hvalues⟩ := h.fence_eq
  exact hvalues ▸ Fence.completed_le_reportAll _ values

structure Stays (c : Offscreen) (calls : List Command) (c' : Offscreen) : Prop
    extends Continues c calls c' where
  encoder_eq : c'.encoder = c.encoder
  frontBuffer_eq : c'.frontBuffer = c.frontBuffer

structure Records (c : Offscreen) (d : Dispatch) (calls : List Command) (c' : Offscreen) : Prop
    extends Continues c calls c' where
  encoder_eq : ∃ e, c'.encoder = some e ∧ e.dispatches = c.dispatches ++ [d]
  frontBuffer_eq : c'.frontBuffer = c.frontBuffer

theorem Records.dispatches_eq {d : Dispatch} (h : c.Records d calls c') :
    c'.dispatches = c.dispatches ++ [d] := by
  obtain ⟨e, he, hdispatches⟩ := h.encoder_eq
  rw [← hdispatches, dispatches, he]
  rfl

theorem Stays.records {d : Dispatch} (h : c.Stays calls c') (h' : c'.Records d more c'') :
    c.Records d (calls ++ more) c'' where
  toContinues := h.toContinues.trans h'.toContinues
  encoder_eq := by
    obtain ⟨e, he, hrecorded⟩ := h'.encoder_eq
    exact ⟨e, he, by rw [hrecorded, dispatches, h.encoder_eq, ← dispatches]⟩
  frontBuffer_eq := h'.frontBuffer_eq.trans h.frontBuffer_eq

theorem Records.stays {d : Dispatch} (h : c.Records d calls c') (h' : c'.Stays more c'') :
    c.Records d (calls ++ more) c'' where
  toContinues := h.toContinues.trans h'.toContinues
  encoder_eq := h'.encoder_eq ▸ h.encoder_eq
  frontBuffer_eq := h'.frontBuffer_eq.trans h.frontBuffer_eq

theorem Records.pair {d d' : Dispatch} (h : c.Records d calls c') (h' : c'.Records d' more c'') :
    ∃ e, c''.encoder = some e ∧ e.dispatches = c.dispatches ++ [d, d'] := by
  obtain ⟨e, he, hrecorded⟩ := h.encoder_eq
  obtain ⟨e', he', hrecorded'⟩ := h'.encoder_eq
  refine ⟨e', he', ?_⟩
  rw [hrecorded', dispatches, he, Option.map_some, Option.getD_some, hrecorded, List.append_assoc]
  rfl

end

theorem settle_stays {ε : Type} (c : Offscreen) {E : Offscreen → Prop} :
    (settle : Action Offscreen ε Unit).Ends c (fun _ c' => c.Stays [] c') E :=
  ⟨⟨rfl, .refl _, _, rfl⟩, rfl, rfl⟩

theorem wait_stays {value : Nat} {c : Offscreen} (hc : c.fence.Reachable)
    (hvalue : value ≤ c.fence.last.toNat) :
    (wait value).Ends c (fun _ c' => ∃ calls, c.Stays calls c' ∧ value ≤ c'.fence.completed)
      fun _ => False := by
  refine (wait_ends hc hvalue).imp ?_
  rintro _ c' ⟨hreached, polls, values, rfl⟩
  refine ⟨.replicate polls (.poll true), ⟨⟨rfl, ⟨?_, rfl, ?_⟩, values, rfl⟩, rfl, rfl⟩, hreached⟩
  · rw [List.reverse_replicate]
    rfl
  · exact fun batch hbatch => by cases List.eq_of_mem_replicate hbatch

theorem present_continues (index : BackBuffer) (c : Offscreen) {E : Offscreen → Prop} :
    (present index).Ends c
      (fun _ c' => c.Continues [] c' ∧ c'.encoder = c.encoder ∧ c'.frontBuffer = some index) E :=
  ⟨⟨rfl, .refl _, _, rfl⟩, rfl, rfl⟩

theorem frameEncoder_continues (c : Offscreen) :
    frameEncoder.Ends c
      (fun e c' => e.dispatches = c.dispatches ∧ c'.encoder = some e ∧
        c'.frontBuffer = c.frontBuffer ∧
        ∃ calls, c.Continues calls c' ∧ ∀ id, lastWrite id calls = none)
      fun _ => False := by
  unfold frameEncoder dispatches
  rw [Action.ends_bind, Action.ends_state]
  cases he : c.encoder with
  | some e => exact ⟨rfl, he, rfl, [], ⟨rfl, .refl _, [], rfl⟩, fun _ => rfl⟩
  | none =>
    rw [Action.ends_bind, ends_onDevice]
    refine (Device.createEncoder_ends _ c.device).imp ?_
    rintro e device ⟨rfl, hissues⟩
    exact ⟨rfl, rfl, rfl, _, ⟨rfl, hissues, [], rfl⟩, fun _ => rfl⟩

theorem dispatchOver_records (kernel : Kernel) {extent : Extent} (h : extent.Dispatchable)
    (c : Offscreen) :
    (dispatchOver kernel extent).Ends c
      (fun _ c' => ∃ d calls, c.Records d calls c' ∧ Covers d kernel extent ∧
        ∀ id, lastWrite id calls = none)
      fun _ => False := by
  obtain ⟨x, hx, hwidth⟩ := dispatchSize_eq (by decide) h.width_lt
  obtain ⟨y, hy, hheight⟩ := dispatchSize_eq (by decide) h.height_lt
  unfold dispatchOver
  rw [hx, hy, Action.ends_bind, Action.ends_ofChecked_ok, Action.ends_bind,
    Action.ends_ofChecked_ok, Action.ends_bind]
  refine (frameEncoder_continues c).imp ?_
  rintro e c₁ ⟨hopen, hencoder, hfront, calls, h₁, hwrites⟩
  rw [Action.ends_bind, ends_onDevice]
  refine (Device.recordPass_ends e _ _ c₁.device).imp ?_
  rintro e' device ⟨rfl, hissues⟩
  refine ⟨kernel.dispatch x y 1, _, ⟨h₁.trans ⟨rfl, hissues, [], rfl⟩, ⟨_, rfl, ?_⟩, hfront⟩,
    ⟨x, y, rfl, hwidth, hheight⟩, fun id => ?_⟩
  · rw [← hopen, Encoder.dispatches, List.flatMap_append, List.flatMap_singleton,
      Kernel.dispatches_passCommands]
    rfl
  · rw [lastWrite_append, lastWrite_passCalls, hwrites]
    rfl

theorem render_records (frame : FrameContext) {c : Offscreen}
    (h : c.renderTarget.extent.Dispatchable) :
    (render frame).Ends c
      (fun _ c' => ∃ d calls, c.Records d calls c' ∧
        Covers d c.fillKernel c.renderTarget.extent ∧
        lastWrite c.constants.buffer.id calls = some (0, (c.frameConstants frame).bytes))
      fun _ => False := by
  unfold render
  rw [Action.ends_bind, Action.ends_state, Action.ends_bind, ends_onDevice]
  refine (Uniform.write_ends c.constants (c.frameConstants frame).bytes c.device).imp ?_
  rintro _ device hissues
  have h₁ : c.Stays _ { c with device } := ⟨⟨rfl, hissues, [], rfl⟩, rfl, rfl⟩
  rw [Action.ends_bind]
  refine (dispatchOver_records _ h _).imp ?_
  rintro _ c₂ ⟨d, calls, h₂, hcovers, hwrites⟩
  refine (settle_stays c₂).imp ?_
  rintro _ c₃ h₃
  refine ⟨d, _, (h₁.records h₂).stays h₃, hcovers, ?_⟩
  rw [List.append_nil, lastWrite_append, hwrites, lastWrite_writeBuffer]
  rfl

theorem copy_records (index : BackBuffer) {c : Offscreen} (h : c.outputSize.Dispatchable) :
    (copy index).Ends c
      (fun _ c' => ∃ d calls, c.Records d calls c' ∧
        Covers d (c.equipment.upscaleKernels.get index) c.equipment.outputSize ∧
        ∀ id, lastWrite id calls = none)
      fun _ => False := by
  unfold copy
  rw [Action.ends_bind, Action.ends_state, Action.ends_bind]
  refine (dispatchOver_records _ h c).imp ?_
  rintro _ c₁ ⟨d, calls, h₁, hcovers, hwrites⟩
  refine (settle_stays c₁).imp ?_
  rintro _ c₂ h₂
  refine ⟨d, _, h₁.stays h₂, hcovers, fun id => ?_⟩
  rw [List.append_nil, hwrites]

structure Resized (c : Offscreen) (size : Extent) (c' : Offscreen) : Prop where
  extent_eq : c'.renderTarget.extent = size
  wired : c'.equipment.Wired
  equipment_eq : ∃ renderTarget fillKernel upscaleKernels, c'.equipment =
    { c.equipment with renderTarget, fillKernel, upscaleKernels }
  fence_eq : ∃ values, c'.fence = c.fence.reportAll values
  encoder_eq : c'.encoder = c.encoder
  frontBuffer_eq : c'.frontBuffer = c.frontBuffer
  idle : c.renderTarget.extent = size → c'.device = c.device ∧ c'.equipment = c.equipment
  rebuilt : c.renderTarget.extent ≠ size → c'.renderTarget = ⟨c.device.textures.size, size⟩ ∧
    c.device.Issues
      (.createTexture c'.renderTarget "GpuTexture" (TextureUsage.inOrder renderTargetUsages) ::
        (c'.fillKernel.buildCalls ++ (c'.upscaleKernels.get 0).buildCalls ++
          (c'.upscaleKernels.get 1).buildCalls)) c'.device

theorem Resized.issues {c c' : Offscreen} {size : Extent} (h : c.Resized size c') :
    ∃ calls, c.device.Issues calls c'.device := by
  by_cases hsame : c.renderTarget.extent = size
  · rw [(h.idle hsame).1]
    exact ⟨[], .refl _⟩
  · exact ⟨_, (h.rebuilt hsame).2⟩

theorem Resized.outputSize_eq {c c' : Offscreen} {size : Extent} (h : c.Resized size c') :
    c'.outputSize = c.outputSize := by
  obtain ⟨renderTarget, fillKernel, upscaleKernels, hequipment⟩ := h.equipment_eq
  exact congrArg Equipment.outputSize hequipment

structure Refits (c : Offscreen) (size : Extent) (c' : Offscreen) : Prop where
  wired : c'.equipment.Wired
  equipment_eq : ∃ renderTarget fillKernel upscaleKernels, c'.equipment =
    { c.equipment with renderTarget, fillKernel, upscaleKernels }
  fence_eq : ∃ values, c'.fence = c.fence.reportAll values
  encoder_eq : c'.encoder = c.encoder
  frontBuffer_eq : c'.frontBuffer = c.frontBuffer
  idle : c.renderTarget.extent = size → c'.device = c.device ∧ c'.equipment = c.equipment
  rebuilt : c.renderTarget.extent ≠ size →
    c'.renderTarget = ⟨c.device.textures.size, size.nonempty⟩ ∧
    c.device.Issues
      (.createTexture c'.renderTarget "GpuTexture" (TextureUsage.inOrder renderTargetUsages) ::
        (c'.fillKernel.buildCalls ++ (c'.upscaleKernels.get 0).buildCalls ++
          (c'.upscaleKernels.get 1).buildCalls)) c'.device

structure Relinks (c : Offscreen) (size : Extent) (c' : Offscreen) : Prop where
  linked : c'.equipment.Linked
  equipment_eq : ∃ renderTarget fillKernel upscaleKernels, c'.equipment =
    { c.equipment with renderTarget, fillKernel, upscaleKernels }
  fence_eq : ∃ values, c'.fence = c.fence.reportAll values
  encoder_eq : c'.encoder = c.encoder
  frontBuffer_eq : c'.frontBuffer = c.frontBuffer
  idle : c.renderTarget.extent = size → c'.device = c.device ∧ c'.equipment = c.equipment
  rebuilt : c.renderTarget.extent ≠ size →
    c'.renderTarget = ⟨c.device.textures.size, size.nonempty⟩ ∧
    c.device.Issues
      (.createTexture c'.renderTarget "GpuTexture" (TextureUsage.inOrder renderTargetUsages) ::
        (c'.fillKernel.buildCalls ++ (c'.upscaleKernels.get 0).buildCalls ++
          (c'.upscaleKernels.get 1).buildCalls)) c'.device

theorem Relinks.backBuffers_eq {c c' : Offscreen} {size : Extent} (h : c.Relinks size c') :
    c'.backBuffers = c.backBuffers := by
  obtain ⟨renderTarget, fillKernel, upscaleKernels, hequipment⟩ := h.equipment_eq
  exact congrArg Equipment.backBuffers hequipment

theorem Relinks.refits {c c' : Offscreen} {size : Extent} (h : c.Relinks size c')
    (hc : c.equipment.Wired) (hsize : size.Dispatchable) : c.Refits size c' where
  wired := by
    by_cases hsame : c.renderTarget.extent = size
    · exact (h.idle hsame).2 ▸ hc
    · have htarget : c'.renderTarget.extent = size.nonempty := by rw [(h.rebuilt hsame).1]
      have houtput : c'.outputSize = c.outputSize := by
        rw [outputSize, h.backBuffers_eq, outputSize]
      exact h.linked.wired (htarget ▸ hsize.nonempty : c'.renderTarget.extent.Drawable)
        (houtput ▸ hc.output : c'.outputSize.Drawable)
  equipment_eq := h.equipment_eq
  fence_eq := h.fence_eq
  encoder_eq := h.encoder_eq
  frontBuffer_eq := h.frontBuffer_eq
  idle := h.idle
  rebuilt := h.rebuilt

theorem Refits.resized {c c' : Offscreen} {size : Extent} (h : c.Refits size c')
    (hsize : size.Drawable) : c.Resized size c' where
  extent_eq := by
    by_cases hsame : c.renderTarget.extent = size
    · have htarget := congrArg Equipment.renderTarget (h.idle hsame).2
      exact (congrArg Texture.extent htarget).trans hsame
    · rw [(h.rebuilt hsame).1]
      exact hsize.nonempty_eq
  wired := h.wired
  equipment_eq := h.equipment_eq
  fence_eq := h.fence_eq
  encoder_eq := h.encoder_eq
  frontBuffer_eq := h.frontBuffer_eq
  idle := h.idle
  rebuilt := by
    intro hother
    obtain ⟨htarget, hissues⟩ := h.rebuilt hother
    rw [hsize.nonempty_eq] at htarget
    exact ⟨htarget, hissues⟩

theorem Refits.submissions_eq {c c' : Offscreen} {size : Extent} (h : c.Refits size c') :
    c'.device.submissions = c.device.submissions := by
  by_cases hsame : c.renderTarget.extent = size
  · rw [(h.idle hsame).1]
  · exact (h.rebuilt hsame).2.submissions_eq

theorem resize_relinks (size : Extent) {c : Offscreen} (h : c.equipment.Linked) :
    (resize size).Ends c (fun _ c' => c.Relinks size c') fun _ => False := by
  unfold resize
  simp only [Action.ends_bind, Action.ends_state, Action.ends_ite, Action.ends_update, ends_settle,
    ends_onDevice]
  refine ⟨fun hother => ?_, fun hsame => ?_⟩
  · refine (Texture.create_ends size renderTargetUsages c.device).imp ?_
    rintro renderTarget device₁ ⟨htarget, h₁⟩
    refine (Kernel.create_ends _ device₁).imp ?_
    rintro fillKernel device₂ ⟨hfill, h₂⟩
    refine (Kernel.create_ends _ device₂).imp ?_
    rintro toFirst device₃ ⟨hfirst, h₃⟩
    refine (Kernel.create_ends _ device₃).imp ?_
    rintro toSecond device₄ ⟨hsecond, h₄⟩
    exact {
      linked := {
        fill := hfill
        upscale := Fin.forall_fin_two.mpr ⟨hfirst, hsecond⟩
        backBuffer_extent := h.backBuffer_extent }
      equipment_eq := ⟨renderTarget, fillKernel, #v[toFirst, toSecond], rfl⟩
      fence_eq := ⟨_, rfl⟩
      encoder_eq := rfl
      frontBuffer_eq := rfl
      idle := fun hsame => absurd hsame hother
      rebuilt := fun _ => ⟨htarget, ((h₁.trans h₂).trans h₃).trans h₄⟩ }
  · exact {
      linked := h
      equipment_eq := ⟨_, _, _, rfl⟩
      fence_eq := ⟨_, rfl⟩
      encoder_eq := rfl
      frontBuffer_eq := rfl
      idle := fun _ => ⟨rfl, rfl⟩
      rebuilt := fun hother => absurd (not_not.mp hsame) hother }

theorem resize_refits {size : Extent} (hsize : size.Dispatchable) {c : Offscreen}
    (h : c.equipment.Wired) :
    (resize size).Ends c (fun _ c' => c.Refits size c') fun _ => False :=
  (resize_relinks size h.linked).imp fun _ _ hrelinks => hrelinks.refits h hsize

theorem resize_resized {size : Extent} (hsize : size.Drawable) {c : Offscreen}
    (h : c.equipment.Wired) :
    (resize size).Ends c (fun _ c' => c.Resized size c') fun _ => False :=
  (resize_refits hsize.toDispatchable h).imp fun _ _ hrefits => hrefits.resized hsize

structure New (size : Extent) (c : Offscreen) : Prop where
  wired : c.equipment.Wired
  target_eq : c.renderTarget.extent = size.nonempty
  output_eq : c.outputSize = size.nonempty
  fence_eq : c.fence = {}
  encoder_eq : c.encoder = none

theorem create_linked (schedule : Schedule) (size : Extent) (fillShader : Shader)
    (fillEntryPoint : String) (palette : List (List Single)) (device : Device) :
    ∃ c, (create schedule size fillShader fillEntryPoint palette device :
      Reply Device Error Offscreen).outcome = .done c ∧ c.equipment.Linked ∧
        c.renderTarget.extent = size.nonempty ∧ c.outputSize = size.nonempty ∧ c.fence = {} ∧
        c.encoder = none := by
  have hshader (d : Device) (source : String) :
      (Shader.ofSource (some "upscale.wgsl") source : Action Device Error Shader).Ends d
        (fun _ _ => True) (fun _ => False) := trivial
  have hbuffer (d : Device) (bytes : Array UInt8) :
      (Buffer.ofElements 16 bytes : Action Device Error Buffer).Ends d (fun _ _ => True)
        (fun _ => False) := trivial
  have huniform (d : Device) (bytes : Array UInt8) :
      (Uniform.ofBytes bytes : Action Device Error Uniform).Ends d (fun _ _ => True)
        (fun _ => False) := trivial
  refine Action.Ends.exists_done (Q := fun (c : Offscreen) _ => c.equipment.Linked ∧
    c.renderTarget.extent = size.nonempty ∧ c.outputSize = size.nonempty ∧ c.fence = {} ∧
      c.encoder = none) ?_
  unfold create
  simp only [Action.ends_bind, Action.ends_note, Action.ends_state, Action.ends_pure]
  refine (hshader _ _).imp fun upscaleShader device _ => ?_
  refine (hbuffer _ _).imp fun palette device _ => ?_
  refine (huniform _ _).imp fun constants device _ => ?_
  refine (Texture.create_ends _ _ device).imp ?_
  rintro first device ⟨hfirst, -⟩
  refine (Texture.create_ends _ _ device).imp ?_
  rintro second device ⟨hsecond, -⟩
  refine (Texture.create_ends _ _ device).imp ?_
  rintro renderTarget device ⟨htarget, -⟩
  refine (Kernel.create_ends _ device).imp ?_
  rintro fillKernel device ⟨hfill, -⟩
  refine (Kernel.create_ends _ device).imp ?_
  rintro toFirst device ⟨htoFirst, -⟩
  refine (Kernel.create_ends _ device).imp ?_
  rintro toSecond device ⟨htoSecond, -⟩
  have htarget : renderTarget.extent = size.nonempty := by rw [htarget]
  have hfirst : first.extent = size.nonempty := by rw [hfirst]
  have hsecond : second.extent = size.nonempty := by rw [hsecond]
  exact ⟨{
    fill := hfill
    upscale := Fin.forall_fin_two.mpr ⟨htoFirst, htoSecond⟩
    backBuffer_extent := Fin.forall_fin_two.mpr ⟨rfl, hsecond.trans hfirst.symm⟩ },
    htarget, hfirst, trivial, trivial⟩

theorem create_new (schedule : Schedule) {size : Extent} (hsize : size.Dispatchable)
    (fillShader : Shader) (fillEntryPoint : String) (palette : List (List Single))
    (device : Device) :
    ∃ c, (create schedule size fillShader fillEntryPoint palette device :
      Reply Device Error Offscreen).outcome = .done c ∧ c.New size := by
  obtain ⟨c, hc, hlinked, htarget, houtput, hfence, hencoder⟩ :=
    create_linked schedule size fillShader fillEntryPoint palette device
  exact ⟨c, hc, {
    wired := hlinked.wired (htarget ▸ hsize.nonempty : c.renderTarget.extent.Drawable)
      (houtput ▸ hsize.nonempty : c.outputSize.Drawable)
    target_eq := htarget
    output_eq := houtput
    fence_eq := hfence
    encoder_eq := hencoder }⟩

end Offscreen

end SwapChain

end AdaptiveResolution
