import AdaptiveResolution.Proofs.Presentation.CallSequences
import AdaptiveResolution.Proofs.SwapChain.Calls

namespace AdaptiveResolution

open Gpu

namespace Presentation.Call

def size : Call → Option Extent
  | resize size => some size
  | _ => none

end Presentation.Call

namespace SwapChain

open Presentation

namespace Equipment

theorem Wired.fill_entries {e : Equipment} (h : e.Wired) :
    e.fillKernel.groups.map BindGroup.entries =
      [[⟨0, .texture e.renderTarget⟩, ⟨1, .buffer e.constants.buffer⟩, ⟨2, .buffer e.palette⟩]] :=
  h.fill.entries_eq

theorem Wired.upscale_entries {e : Equipment} (h : e.Wired) (i : BackBuffer) :
    (e.upscaleKernels.get i).groups.map BindGroup.entries =
      [[⟨0, .texture e.renderTarget⟩, ⟨1, .texture (e.backBuffers.get i)⟩,
        ⟨2, .buffer e.constants.buffer⟩]] :=
  (h.upscale i).entries_eq

end Equipment

namespace Offscreen

def after (c : Offscreen) (calls : List Call) : Offscreen :=
  calls.foldl (fun c call => (call.perform c).state) c

theorem after_append (c : Offscreen) (calls more : List Call) :
    c.after (calls ++ more) = (c.after calls).after more :=
  List.foldl_append

structure Serves (c : Offscreen) (call : Call) (c' : Offscreen) : Prop where
  wired : c'.equipment.Wired
  reachable : c'.fence.Reachable
  last_le : c'.fence.last.toNat ≤ c.fence.last.toNat + [call].count .submit
  extent_eq : c'.renderTarget.extent = call.size.getD c.renderTarget.extent
  fixtures_eq : c'.backBuffers = c.backBuffers ∧ c'.palette = c.palette ∧
    c'.constants = c.constants

section

variable {c c' : Offscreen} {call : Call}

theorem serves_of_equipment (h : c.equipment.Wired) (hcall : call.size = none)
    (hequipment : c'.equipment = c.equipment) (hfence : c'.fence.Reachable)
    (hlast : c'.fence.last.toNat ≤ c.fence.last.toNat + [call].count .submit) :
    Serves c call c' where
  wired := hequipment ▸ h
  reachable := hfence
  last_le := hlast
  extent_eq := by
    rw [hcall]
    exact congrArg (fun e : Equipment => e.renderTarget.extent) hequipment
  fixtures_eq := ⟨congrArg Equipment.backBuffers hequipment,
    congrArg Equipment.palette hequipment, congrArg Equipment.constants hequipment⟩

theorem Continues.serves {calls : List Command} (h : c.Continues calls c')
    (hc : c.equipment.Wired) (hfence : c.fence.Reachable) (hcall : call.size = none) :
    Serves c call c' :=
  serves_of_equipment hc hcall h.equipment_eq (h.reachable hfence)
    (h.last_eq ▸ Nat.le_add_right _ _)

theorem Resized.serves {size : Extent} (h : c.Resized size c') (hfence : c.fence.Reachable) :
    Serves c (.resize size) c' where
  wired := h.wired
  reachable := by
    obtain ⟨values, hvalues⟩ := h.fence_eq
    exact hvalues ▸ hfence.reportAll values
  last_le := by
    obtain ⟨values, hvalues⟩ := h.fence_eq
    rw [hvalues, Fence.reportAll_last]
    exact Nat.le_add_right _ _
  extent_eq := h.extent_eq
  fixtures_eq := by
    obtain ⟨renderTarget, fillKernel, upscaleKernels, hequipment⟩ := h.equipment_eq
    exact ⟨congrArg Equipment.backBuffers hequipment, congrArg Equipment.palette hequipment,
      congrArg Equipment.constants hequipment⟩

theorem submit_serves (h : c.equipment.Wired) (hfence : c.fence.Reachable) :
    (Call.perform .submit).Ends c (fun _ c' => Serves c .submit c')
      fun c' => Full c.fence.last ∧ Serves c .submit c' := by
  unfold Call.perform
  rw [Action.ends_bind]
  refine (submit_ends c).mono ?_ ?_
  · rintro fence c' ⟨hroom, -, device, values, rfl, -⟩
    refine serves_of_equipment h rfl rfl ((hfence.next hroom).reportAll values) ?_
    change (c.fence.next.reportAll values).last.toNat ≤ _
    rw [Fence.reportAll_last, Fence.next_last hroom]
    exact Nat.le_refl _
  · rintro c' ⟨hfull, device, rfl, -⟩
    exact ⟨hfull, serves_of_equipment h rfl rfl hfence (Nat.le_add_right _ _)⟩

theorem perform_serves (h : c.equipment.Wired) (hfence : c.fence.Reachable)
    (hsize : ∀ size, call = .resize size → size.Drawable)
    (hvalue : ∀ value, call = .wait value → value ≤ c.fence.last.toNat)
    (hroom : call = .submit → ¬Full c.fence.last) :
    call.perform.Ends c (fun _ c' => Serves c call c') fun _ => False := by
  cases call with
  | resize size =>
    exact (resize_resized (hsize size rfl) h).imp (fun _ _ hr => hr.serves hfence)
  | render frame =>
    refine (render_records frame h.target.toDispatchable).imp ?_
    rintro _ c' ⟨d, calls, hrecords, -⟩
    exact hrecords.toContinues.serves h hfence rfl
  | copy index =>
    refine (copy_records index h.output.toDispatchable).imp ?_
    rintro _ c' ⟨d, calls, hrecords, -⟩
    exact hrecords.toContinues.serves h hfence rfl
  | submit =>
    exact (submit_serves h hfence).mono (fun _ _ hserves => hserves) fun _ htrap =>
      hroom rfl htrap.1
  | wait value =>
    refine (wait_stays hfence (hvalue value rfl)).imp ?_
    rintro _ c' ⟨calls, hstays, -⟩
    exact hstays.toContinues.serves h hfence rfl
  | present index =>
    refine (present_continues index c).imp ?_
    rintro _ c' ⟨hcontinues, -, -⟩
    exact hcontinues.serves h hfence rfl

theorem perform_state_serves (h : c.equipment.Wired) (hfence : c.fence.Reachable)
    (hsize : ∀ size, call = .resize size → size.Drawable) :
    Serves c call (call.perform c).state := by
  by_cases hsubmit : call = .submit
  · subst hsubmit
    exact ((submit_serves h hfence).mono (fun _ _ hserves => hserves) fun _ htrap => htrap.2).state
  by_cases hrefused : ∃ value, call = .wait value ∧ c.fence.last.toNat < value
  · obtain ⟨value, rfl, hlast⟩ := hrefused
    have hstate : (Call.perform (.wait value) c).state = c := by
      change (wait value c).state = c
      rw [wait_unsignalled hlast]
    rw [hstate]
    exact serves_of_equipment h rfl rfl hfence (Nat.le_add_right _ _)
  · have hvalue (value : Nat) (hcall : call = .wait value) : value ≤ c.fence.last.toNat :=
      Nat.le_of_not_lt fun hlast => hrefused ⟨value, hcall, hlast⟩
    obtain ⟨-, -, hserves⟩ := (perform_serves h hfence hsize hvalue
      fun hcall => absurd hcall hsubmit).exists_done
    exact hserves

end

structure Served (c₀ : Offscreen) (calls : List Call) (c : Offscreen) : Prop where
  wired : c.equipment.Wired
  reachable : c.fence.Reachable
  last_le : c.fence.last.toNat ≤ calls.count .submit
  extent_eq : c.renderTarget.extent =
    (calls.filterMap Call.size).getLast?.getD c₀.renderTarget.extent
  fixtures_eq : c.backBuffers = c₀.backBuffers ∧ c.palette = c₀.palette ∧
    c.constants = c₀.constants

theorem after_served {c₀ : Offscreen} (h : c₀.equipment.Wired) (hfence : c₀.fence = {})
    (calls : List Call) (hsize : ∀ size, .resize size ∈ calls → size.Drawable) :
    Served c₀ calls (c₀.after calls) := by
  induction calls using List.reverseRecOn with
  | nil =>
    have hlast : c₀.fence.last.toNat ≤ 0 := by
      rw [hfence]
      exact Nat.le_refl _
    exact ⟨h, ⟨[], trivial, hfence⟩, hlast, rfl, rfl, rfl, rfl⟩
  | append_singleton calls call ih =>
    have hearlier := ih fun size hcall => hsize size (List.mem_append_left _ hcall)
    have hstep : Serves (c₀.after calls) call (c₀.after (calls ++ [call])) := by
      rw [after_append]
      apply perform_state_serves hearlier.wired hearlier.reachable
      rintro size rfl
      exact hsize size (by simp)
    refine ⟨hstep.wired, hstep.reachable, ?_, ?_, ?_⟩
    · rw [List.count_append]
      exact hstep.last_le.trans (Nat.add_le_add_right hearlier.last_le _)
    · rw [hstep.extent_eq, hearlier.extent_eq, List.filterMap_append, List.getLast?_append]
      cases hsome : call.size <;> simp [hsome]
    · obtain ⟨hbackBuffers, hpalette, hconstants⟩ := hearlier.fixtures_eq
      exact hstep.fixtures_eq.imp (·.trans hbackBuffers)
        (And.imp (·.trans hpalette) (·.trans hconstants))

/-- Whatever is asked of a swap chain, its target has the size that was asked for last and all three
kernels are bound to that target and to the buffers that the chain was created with. While fence
values are left, all but a wait is done. A resize gives no command if the target has the size
already; otherwise it creates one texture and the three kernels. -/
theorem kernels_bound_to_current_target (schedule : Schedule) {size : Extent}
    (hsize : size.Dispatchable) (fillShader : Shader) (fillEntryPoint : String)
    (palette : List (List Single)) (device : Device) :
    ∃ c₀ : Offscreen,
      (create schedule size fillShader fillEntryPoint palette device :
        Reply Device Error Offscreen).outcome = .done c₀ ∧
      (∀ i, (c₀.backBuffers.get i).extent = size.nonempty) ∧
      ∀ calls : List Call, (∀ target, .resize target ∈ calls → target.Drawable) →
        let c := c₀.after calls
        c.renderTarget.extent = (calls.filterMap Call.size).getLast?.getD size.nonempty ∧
          c.fillKernel.groups.map BindGroup.entries =
            [[⟨0, .texture c.renderTarget⟩, ⟨1, .buffer c.constants.buffer⟩,
              ⟨2, .buffer c.palette⟩]] ∧
          (∀ i, (c.upscaleKernels.get i).groups.map BindGroup.entries =
            [[⟨0, .texture c.renderTarget⟩, ⟨1, .texture (c.backBuffers.get i)⟩,
              ⟨2, .buffer c.constants.buffer⟩]]) ∧
          (c.backBuffers = c₀.backBuffers ∧ c.palette = c₀.palette ∧ c.constants = c₀.constants) ∧
          (calls.count .submit + 1 < UInt64.size → ∀ call : Call,
            (∀ target, call = .resize target → target.Drawable) → (∀ value, call ≠ .wait value) →
              (call.perform c).outcome = .done ()) ∧
          ∀ target : Extent, target.Drawable →
            let c' := (resize target c).state
            (c.renderTarget.extent = target → c'.device = c.device) ∧
              (c.renderTarget.extent ≠ target →
                c'.renderTarget = ⟨c.device.textures.size, target⟩ ∧
                c'.device.commands = c.device.commands ++
                  .createTexture c'.renderTarget "GpuTexture"
                      (TextureUsage.inOrder renderTargetUsages) ::
                    (c'.fillKernel.buildCalls ++ (c'.upscaleKernels.get 0).buildCalls ++
                      (c'.upscaleKernels.get 1).buildCalls)) := by
  obtain ⟨c₀, hc₀, hnew⟩ :=
    create_new schedule hsize fillShader fillEntryPoint palette device
  refine ⟨c₀, hc₀, fun i => (hnew.wired.backBuffer_extent i).trans hnew.output_eq,
    fun calls hcalls => ?_⟩
  intro c
  have hc : Served c₀ calls c := after_served hnew.wired hnew.fence_eq calls hcalls
  refine ⟨hnew.target_eq ▸ hc.extent_eq, hc.wired.fill_entries, hc.wired.upscale_entries,
    hc.fixtures_eq, fun hcount call htarget hwait => ?_, fun target htarget => ?_⟩
  · have hroom : ¬Full c.fence.last :=
      not_full_iff.mpr (Nat.lt_of_le_of_lt (Nat.succ_le_succ hc.last_le) hcount)
    obtain ⟨⟨⟩, hdone, -⟩ := (perform_serves hc.wired hc.reachable htarget
      (fun value hcall => absurd hcall (hwait value)) fun _ => hroom).exists_done
    exact hdone
  · obtain ⟨-, -, hresized⟩ := (resize_resized htarget hc.wired).exists_done
    refine ⟨fun hsame => (hresized.idle hsame).1, fun hother => ?_⟩
    obtain ⟨htexture, hissues⟩ := hresized.rebuilt hother
    exact ⟨htexture, hissues.commands_eq⟩

theorem kernels_bound_to_current_target_halved :
    (⟨1000, 500⟩ : Extent).Dispatchable ∧ ∃ c₀ : Offscreen,
      (create .deferred ⟨1000, 500⟩ ⟨0, none⟩ "main" fractalTilesPalette {} :
        Reply Device Error Offscreen).outcome = .done c₀ ∧
      let c := c₀.after [.copy 1, .resize ⟨500, 250⟩, .submit]
      c.renderTarget.extent = ⟨500, 250⟩ ∧
        (c.upscaleKernels.get 1).groups.map BindGroup.entries =
          [[⟨0, .texture c.renderTarget⟩, ⟨1, .texture (c.backBuffers.get 1)⟩,
            ⟨2, .buffer c.constants.buffer⟩]] := by
  have hsize : (⟨1000, 500⟩ : Extent).Dispatchable := ⟨by decide, by decide⟩
  obtain ⟨c₀, hc₀, -, hcalls⟩ := kernels_bound_to_current_target .deferred hsize ⟨0, none⟩ "main"
    fractalTilesPalette {}
  refine ⟨hsize, c₀, hc₀, ?_⟩
  have hdrawable (target : Extent)
      (h : Call.resize target ∈ [.copy 1, .resize ⟨500, 250⟩, .submit]) : target.Drawable := by
    have htarget : target = ⟨500, 250⟩ := by simpa using h
    rw [htarget]
    exact ⟨⟨by decide, by decide⟩, by decide, by decide⟩
  obtain ⟨hextent, -, hupscale, -⟩ := hcalls [.copy 1, .resize ⟨500, 250⟩, .submit] hdrawable
  exact ⟨hextent, hupscale 1⟩

end Offscreen

end SwapChain

end AdaptiveResolution
