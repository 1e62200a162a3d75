import AdaptiveResolution.Proofs.SwapChain.Bindings

namespace AdaptiveResolution

open Gpu

theorem Extent.nonempty_nonempty (e : Extent) : e.nonempty.nonempty = e.nonempty := by
  have hmax (x : UInt32) : max (max x 1) 1 = max x 1 := by
    apply UInt32.toNat_inj.mp
    simp only [max_toNat, max_assoc, max_self]
  simp only [nonempty, hmax]

namespace SwapChain

open Presentation

structure Tiles (d : Dispatch) (e : Extent) : Prop where
  covered : ∀ i < e.width.toNat, ∀ j < e.height.toNat,
    i / groupEdge.toNat < d.x.toNat ∧ j / groupEdge.toNat < d.y.toNat
  inside : ∀ a < d.x.toNat, ∀ b < d.y.toNat,
    a * groupEdge.toNat < e.width.toNat ∧ b * groupEdge.toNat < e.height.toNat
  flat : d.z = 1

theorem Covers.tiles {d : Dispatch} {k : Kernel} {e : Extent} (h : Covers d k e) : Tiles d e := by
  obtain ⟨x, y, rfl, hx, hy⟩ := h
  have hgroup : 0 < groupEdge.toNat := by decide
  have hlt (a n : Nat) : a < n ⌈/⌉ groupEdge.toNat ↔ a * groupEdge.toNat < n := by
    rw [Nat.mul_comm]
    exact (gc_mul_ceilDiv hgroup).lt_iff_lt
  have hcovered (i n : Nat) (hi : i < n) : i / groupEdge.toNat < n ⌈/⌉ groupEdge.toNat :=
    (hlt _ n).mpr ((Nat.div_mul_le_self i _).trans_lt hi)
  refine ⟨fun i hi j hj => ?_, fun a ha b hb => ?_, rfl⟩
  · change _ < x.toNat ∧ _ < y.toNat
    rw [hx, hy]
    exact ⟨hcovered i _ hi, hcovered j _ hj⟩
  · change a < x.toNat at ha
    change b < y.toNat at hb
    rw [hx] at ha
    rw [hy] at hb
    exact ⟨(hlt a _).mp ha, (hlt b _).mp hb⟩

namespace Offscreen

variable {ε α : Type} {c : Offscreen}

/-- The call adds one dispatch that writes to the texture and tiles it. If a side is too long for
that, it traps with nothing recorded. -/
structure Draws (c : Offscreen) (call : Action Offscreen Error Unit) (binding : UInt32)
    (t : Texture) : Prop where
  tiled : t.extent.Dispatchable → (call c).outcome = .done () ∧ ∃ d : Dispatch,
    (call c).state.dispatches = c.dispatches ++ [d] ∧
      d.resource 0 binding = some (.texture t) ∧ Tiles d t.extent
  refused : ¬t.extent.Dispatchable → (call c).outcome = .trapped .additionOverflow ∧
    (call c).state.dispatches = c.dispatches

theorem dispatchOver_overflows (kernel : Kernel) {extent : Extent} (h : ¬extent.Dispatchable)
    (c : Offscreen) : dispatchOver kernel extent c = ⟨.trapped .additionOverflow, c, []⟩ := by
  unfold dispatchOver
  by_cases hwidth : extent.width.toNat + groupEdge.toNat < UInt32.size
  · have hheight : UInt32.size ≤ extent.height.toNat + groupEdge.toNat :=
      Nat.le_of_not_lt fun hheight => h ⟨hwidth, hheight⟩
    obtain ⟨x, hx, -⟩ := dispatchSize_eq (by decide) hwidth
    rw [hx, dispatchSize_overflow hheight]
    rfl
  · rw [dispatchSize_overflow (Nat.le_of_not_lt hwidth)]
    rfl

theorem render_overflows (frame : FrameContext) (h : ¬c.renderTarget.extent.Dispatchable) :
    (render frame c).outcome = .trapped .additionOverflow ∧
      (render frame c).state.dispatches = c.dispatches := by
  have hstate : (Action.state : Action Offscreen Error Offscreen) c = ⟨.done c, c, []⟩ := rfl
  obtain ⟨device, hwrite⟩ : ∃ device,
      onDevice (c.constants.write (c.frameConstants frame).bytes) c =
        (⟨.done (), { c with device }, []⟩ : Reply Offscreen Error Unit) := ⟨_, rfl⟩
  unfold render
  rw [Action.bind_of_done hstate, Action.bind_of_done hwrite, Action.bind_apply,
    dispatchOver_overflows c.fillKernel h]
  exact ⟨rfl, rfl⟩

theorem copy_overflows (index : BackBuffer) (h : ¬c.outputSize.Dispatchable) :
    (copy index c).outcome = .trapped .additionOverflow ∧
      (copy index c).state.dispatches = c.dispatches := by
  have hstate : (Action.state : Action Offscreen Error Offscreen) c = ⟨.done c, c, []⟩ := rfl
  unfold copy
  rw [Action.bind_of_done hstate, Action.bind_apply, dispatchOver_overflows _ h]
  exact ⟨rfl, rfl⟩

theorem render_draws (frame : FrameContext) (h : c.equipment.Linked) :
    c.Draws (render frame) 0 c.renderTarget where
  tiled htarget := by
    obtain ⟨⟨⟩, hdone, d, calls, hrecords, hcovers, -⟩ :=
      (render_records frame htarget).exists_done
    exact ⟨hdone, d, hrecords.dispatches_eq, hcovers.resource_eq h.fill 0, hcovers.tiles⟩
  refused := render_overflows frame

theorem copy_draws (index : BackBuffer) (h : c.equipment.Linked) :
    c.Draws (copy index) 1 (c.backBuffers.get index) := by
  have hextent : (c.backBuffers.get index).extent = c.outputSize := h.backBuffer_extent index
  constructor
  · intro houtput
    rw [hextent] at houtput ⊢
    obtain ⟨⟨⟩, hdone, d, calls, hrecords, hcovers, -⟩ := (copy_records index houtput).exists_done
    exact ⟨hdone, d, hrecords.dispatches_eq, hcovers.resource_eq (h.upscale index) 1,
      hcovers.tiles⟩
  · rw [hextent]
    exact copy_overflows index

section

variable {e : Equipment}

theorem onDevice_keeps (x : Action Device ε α) : (onDevice x).Keeps (equipment · = e) :=
  fun _ h => h

theorem settle_keeps : (settle : Action Offscreen ε Unit).Keeps (equipment · = e) := fun _ h => h

theorem frameEncoder_keeps : frameEncoder.Keeps (equipment · = e) := by
  refine .bind .state_self fun c => ?_
  cases c.encoder with
  | some encoder => exact .pure encoder
  | none =>
    refine .bind (onDevice_keeps _) fun encoder => ?_
    exact .bind (.update fun _ h => h) fun _ => .pure encoder

theorem dispatchOver_keeps (kernel : Kernel) (extent : Extent) :
    (dispatchOver kernel extent).Keeps (equipment · = e) :=
  .bind (.ofChecked _) fun _ => .bind (.ofChecked _) fun _ => .bind frameEncoder_keeps fun _ =>
    .bind (onDevice_keeps _) fun _ => .update fun _ h => h

theorem waitRounds_keeps (value : Nat) (rounds : List (List Nat)) :
    (waitRounds value rounds).Keeps (equipment · = e) := by
  induction rounds with
  | nil =>
    refine .bind .state_self fun c => ?_
    split
    · exact .bind (onDevice_keeps _) fun _ => .update fun _ h => h
    · exact .pure ()
  | cons round rounds ih =>
    refine .bind .state_self fun c => ?_
    split
    · exact .bind (onDevice_keeps _) fun _ => .bind (.update fun _ h => h) fun _ => ih
    · exact .pure ()

theorem perform_equipment {call : Call} (hcall : call.size = none) (c : Offscreen) :
    (call.perform c).state.equipment = c.equipment := by
  suffices hkeeps : call.perform.Keeps (equipment · = c.equipment) from hkeeps c rfl
  cases call with
  | resize size => cases hcall
  | render frame =>
    change (render frame).Keeps _
    unfold render
    exact .bind .state_self fun _ => .bind (onDevice_keeps _) fun _ =>
      .bind (dispatchOver_keeps _ _) fun _ => settle_keeps
  | copy index =>
    change (copy index).Keeps _
    unfold copy
    exact .bind .state_self fun _ => .bind (dispatchOver_keeps _ _) fun _ => settle_keeps
  | submit =>
    refine .of_ends fun c' h => ?_
    unfold Call.perform
    rw [Action.ends_bind]
    refine (submit_ends c').mono ?_ ?_
    · rintro fence c'' ⟨-, -, device, values, rfl, -⟩
      exact h
    · rintro c'' ⟨-, device, rfl, -⟩
      exact h
  | wait value =>
    change (wait value).Keeps _
    unfold wait
    refine .bind .state_self fun c' => ?_
    split
    · exact fun _ h => h
    · exact .bind (waitRounds_keeps _ _) fun _ => settle_keeps
  | present index => exact fun _ h => h

end

structure Sized (size : Extent) (calls : List Call) (c : Offscreen) : Prop where
  linked : c.equipment.Linked
  output_eq : c.outputSize = size.nonempty
  target_eq : c.renderTarget.extent =
    ((calls.filterMap Call.size).getLast?.getD size).nonempty

theorem Sized.perform {size : Extent} {calls : List Call} (h : Sized size calls c) (call : Call) :
    Sized size (calls ++ [call]) (call.perform c).state := by
  cases hcall : call.size with
  | none =>
    have hequipment := perform_equipment hcall c
    refine ⟨hequipment ▸ h.linked,
      (congrArg Equipment.outputSize hequipment).trans h.output_eq, ?_⟩
    have htarget := congrArg (fun e : Equipment => e.renderTarget.extent) hequipment
    refine htarget.trans (h.target_eq.trans ?_)
    simp [hcall]
  | some target =>
    obtain rfl : call = .resize target := by
      cases call <;> simp_all [Call.size]
    obtain ⟨-, -, hrelinks⟩ := (resize_relinks target h.linked).exists_done
    have hlast : ((calls ++ [Call.resize target]).filterMap Call.size).getLast?.getD size =
        target := by
      simp [Call.size]
    change Sized size _ (resize target c).state
    refine ⟨hrelinks.linked, ?_, ?_⟩
    · rw [outputSize, hrelinks.backBuffers_eq]
      exact h.output_eq
    · rw [hlast]
      by_cases hsame : c.renderTarget.extent = target
      · have hextent : (resize target c).state.renderTarget.extent = c.renderTarget.extent :=
          congrArg (fun e : Equipment => e.renderTarget.extent) (hrelinks.idle hsame).2
        rw [hextent, ← hsame, h.target_eq, Extent.nonempty_nonempty]
      · rw [(hrelinks.rebuilt hsame).1]

-- A call that fails or traps leaves a state like any other, so the run asks nothing of its calls.
theorem after_sized {c₀ : Offscreen} {size : Extent} (h : Sized size [] c₀) (calls : List Call) :
    Sized size calls (c₀.after calls) := by
  induction calls using List.reverseRecOn with
  | nil => exact h
  | append_singleton calls call ih =>
    rw [after_append]
    exact ih.perform call

/-- The right number of groups can always be written in 32 bits, and it is found whenever the sum of
the extent and the group can. A swap chain of any size, whatever is asked of it, traps when it is
to draw over a texture with a side for which that sum overflows, with nothing recorded, and over
any other texture it records one dispatch that writes to it and tiles it. -/
theorem groups_tile_texture_iff_dispatchable (schedule : Schedule) (size : Extent)
    (fillShader : Shader) (fillEntryPoint : String) (palette : List (List Single))
    (device : Device) :
    (∀ extent group : UInt32, 0 < group.toNat → ∃ n : UInt32,
      IsLeast {k : Nat | extent.toNat ≤ k * group.toNat} n.toNat ∧
        dispatchSize extent group =
          if extent.toNat + group.toNat < UInt32.size then .ok n else .error .additionOverflow) ∧
    ∃ c₀ : Offscreen,
      (create schedule size fillShader fillEntryPoint palette device :
        Reply Device Error Offscreen).outcome = .done c₀ ∧
      ∀ calls : List Call,
        let c := c₀.after calls
        c.renderTarget.extent = ((calls.filterMap Call.size).getLast?.getD size).nonempty ∧
          (∀ i, (c.backBuffers.get i).extent = size.nonempty) ∧
          (∀ frame, c.Draws (render frame) 0 c.renderTarget) ∧
          ∀ i, c.Draws (copy i) 1 (c.backBuffers.get i) := by
  refine ⟨fun extent group hgroup => dispatchSize_cases extent hgroup, ?_⟩
  obtain ⟨c₀, hc₀, hlinked, htarget, houtput, -⟩ :=
    create_linked schedule size fillShader fillEntryPoint palette device
  refine ⟨c₀, hc₀, fun calls => ?_⟩
  intro c
  have hc : Sized size calls c := after_sized ⟨hlinked, houtput, htarget⟩ calls
  exact ⟨hc.target_eq, fun i => (hc.linked.backBuffer_extent i).trans hc.output_eq,
    fun frame => render_draws frame hc.linked, fun i => copy_draws i hc.linked⟩

-- The output is as long as it can be; the target is to be empty one way and too long the other.
theorem groups_tile_texture_iff_dispatchable_longest :
    dispatchSize 4294967287 8 = .ok 536870911 ∧ 0 < (8 : UInt32).toNat ∧ ∃ c₀ : Offscreen,
      (create .immediate ⟨4294967287, 500⟩ ⟨0, none⟩ "main" fractalTilesPalette {} :
        Reply Device Error Offscreen).outcome = .done c₀ ∧
      let c := c₀.after [.copy BackBuffer.first, .resize ⟨0, 4294967288⟩]
      c.renderTarget.extent = ⟨1, 4294967288⟩ ∧
        (∀ frame, (render frame c).outcome = .trapped .additionOverflow) ∧
        ∃ d : Dispatch, (copy BackBuffer.first c).state.dispatches = c.dispatches ++ [d] ∧
          d.resource 0 1 = some (.texture (c.backBuffers.get BackBuffer.first)) ∧
          Tiles d ⟨4294967287, 500⟩ := by
  obtain ⟨hcount, c₀, hc₀, hcalls⟩ := groups_tile_texture_iff_dispatchable .immediate
    ⟨4294967287, 500⟩ ⟨0, none⟩ "main" fractalTilesPalette {}
  obtain ⟨htarget, houtput, hrender, hcopy⟩ :=
    hcalls [.copy BackBuffer.first, .resize ⟨0, 4294967288⟩]
  obtain ⟨n, hn, hfound⟩ := hcount 4294967287 8 (by decide)
  have hn : n = 536870911 :=
    UInt32.toNat_inj.mp (hn.unique (isLeast_ceilDiv 4294967287 (by decide)))
  have hbuffer : ((c₀.after [.copy BackBuffer.first, .resize ⟨0, 4294967288⟩]).backBuffers.get
      BackBuffer.first).extent = ⟨4294967287, 500⟩ := houtput BackBuffer.first
  have hdispatchable : (⟨4294967287, 500⟩ : Extent).Dispatchable := ⟨by decide, by decide⟩
  have hlong : ¬(⟨1, 4294967288⟩ : Extent).Dispatchable := fun h => absurd h.height_lt (by decide)
  refine ⟨hn ▸ hfound, by decide, c₀, hc₀, htarget,
    fun frame => ((hrender frame).refused (htarget ▸ hlong)).1, ?_⟩
  obtain ⟨-, d, hd, hresource, htiles⟩ := (hcopy BackBuffer.first).tiled (hbuffer ▸ hdispatchable)
  exact ⟨d, hd, hresource, hbuffer ▸ htiles⟩

-- A side of the greatest length takes 536870912 groups, but the sum for them overflows.
theorem longest_side_overflows :
    dispatchSize 4294967295 8 = .error .additionOverflow ∧
      IsLeast {k : Nat | 4294967295 ≤ k * 8} 536870912 ∧ ∃ c₀ : Offscreen,
      (create .immediate ⟨4294967295, 500⟩ ⟨0, none⟩ "main" fractalTilesPalette {} :
        Reply Device Error Offscreen).outcome = .done c₀ ∧
      c₀.outputSize = ⟨4294967295, 500⟩ ∧
      (copy BackBuffer.first c₀).outcome = .trapped .additionOverflow := by
  obtain ⟨c₀, hc₀, -, -, houtput, -⟩ := create_linked .immediate ⟨4294967295, 500⟩ ⟨0, none⟩
    "main" fractalTilesPalette {}
  have hlong : ¬(⟨4294967295, 500⟩ : Extent).nonempty.Dispatchable :=
    fun h => absurd h.width_lt (by decide)
  have hleast : IsLeast {k : Nat | 4294967295 ≤ k * 8} 536870912 :=
    isLeast_ceilDiv 4294967295 (by decide)
  exact ⟨rfl, hleast, c₀, hc₀, houtput, (copy_overflows BackBuffer.first (houtput ▸ hlong)).1⟩

end Offscreen

end SwapChain

end AdaptiveResolution
