import AdaptiveResolution.Proofs.SwapChain.Bindings

namespace AdaptiveResolution

open Gpu

namespace Presentation.Call

def draws : Call → Bool
  | render _ | copy _ => true
  | resize _ | submit | wait _ | present _ => false

end Presentation.Call

namespace SwapChain

open Presentation

def coveringDispatch (k : Kernel) (extent : Extent) : Dispatch :=
  k.dispatch (.ofNat (extent.width.toNat ⌈/⌉ groupEdge.toNat))
    (.ofNat (extent.height.toNat ⌈/⌉ groupEdge.toNat)) 1

theorem Covers.eq {d : Dispatch} {k : Kernel} {extent : Extent} (h : Covers d k extent) :
    d = coveringDispatch k extent := by
  obtain ⟨x, y, rfl, hx, hy⟩ := h
  rw [coveringDispatch, ← hx, ← hy, UInt32.ofNat_toNat, UInt32.ofNat_toNat]

namespace Offscreen

def drawnBy (c : Offscreen) : Call → List Dispatch
  | .render _ => [coveringDispatch c.fillKernel c.renderTarget.extent]
  | .copy index => [coveringDispatch (c.upscaleKernels.get index) c.outputSize]
  | .resize _ | .submit | .wait _ | .present _ => []

def drawn (c : Offscreen) : List Call → List Dispatch
  | [] => []
  | call :: calls => c.drawnBy call ++ (call.perform c).state.drawn calls

theorem drawn_append (c : Offscreen) (calls more : List Call) :
    c.drawn (calls ++ more) = c.drawn calls ++ (c.after calls).drawn more := by
  induction calls generalizing c with
  | nil => rfl
  | cons call calls ih =>
    rw [List.cons_append, drawn, drawn, ih, List.append_assoc]
    rfl

structure Holds (c : Offscreen) (more : List Dispatch) (c' : Offscreen) : Prop where
  wired : c'.equipment.Wired
  reachable : c'.fence.Reachable
  last_eq : c'.fence.last = c.fence.last
  submissions_eq : c'.device.submissions = c.device.submissions
  dispatches_eq : c'.dispatches = c.dispatches ++ more
  isSome_eq : c'.encoder.isSome = (c.encoder.isSome || !more.isEmpty)

section

variable {c c' : Offscreen} {call : Call} {calls : List Command}

theorem Continues.holds (h : c.Continues calls c') (hc : c.equipment.Wired)
    (hfence : c.fence.Reachable) (hencoder : c'.encoder = c.encoder) : c.Holds [] c' where
  wired := h.equipment_eq ▸ hc
  reachable := h.reachable hfence
  last_eq := h.last_eq
  submissions_eq := h.issues.submissions_eq
  dispatches_eq := by rw [dispatches, hencoder, List.append_nil, dispatches]
  isSome_eq := by simp [hencoder]

theorem Records.holds {d : Dispatch} (h : c.Records d calls c') (hc : c.equipment.Wired)
    (hfence : c.fence.Reachable) : c.Holds [d] c' := by
  obtain ⟨e, he, -⟩ := h.encoder_eq
  exact {
    wired := h.equipment_eq ▸ hc
    reachable := h.reachable hfence
    last_eq := h.last_eq
    submissions_eq := h.issues.submissions_eq
    dispatches_eq := h.dispatches_eq
    isSome_eq := by simp [he] }

theorem Refits.holds {size : Extent} (h : c.Refits size c') (hfence : c.fence.Reachable) :
    c.Holds [] c' := by
  obtain ⟨values, hvalues⟩ := h.fence_eq
  exact {
    wired := h.wired
    reachable := hvalues ▸ hfence.reportAll values
    last_eq := by rw [hvalues, Fence.reportAll_last]
    submissions_eq := h.submissions_eq
    dispatches_eq := by rw [dispatches, h.encoder_eq, List.append_nil, dispatches]
    isSome_eq := by simp [h.encoder_eq] }

theorem perform_holds (h : c.equipment.Wired) (hfence : c.fence.Reachable)
    (hsize : ∀ size, call = .resize size → size.Dispatchable) (hcall : call ≠ .submit) :
    c.Holds (c.drawnBy call) (call.perform c).state := by
  cases call with
  | submit => contradiction
  | resize size =>
    obtain ⟨-, -, hrefits⟩ := (resize_refits (hsize size rfl) h).exists_done
    exact hrefits.holds hfence
  | render frame =>
    obtain ⟨-, -, d, calls, hrecords, hcovers, -⟩ :=
      (render_records frame h.target.toDispatchable).exists_done
    have hdrawn : c.drawnBy (.render frame) = [d] := congrArg (fun d => [d]) hcovers.eq.symm
    rw [hdrawn]
    exact hrecords.holds h hfence
  | copy index =>
    obtain ⟨-, -, d, calls, hrecords, hcovers, -⟩ :=
      (copy_records index h.output.toDispatchable).exists_done
    have hdrawn : c.drawnBy (.copy index) = [d] := congrArg (fun d => [d]) hcovers.eq.symm
    rw [hdrawn]
    exact hrecords.holds h hfence
  | wait value =>
    rcases Nat.lt_or_ge c.fence.last.toNat value with hlast | hvalue
    · have hstate : (Call.perform (.wait value) c).state = c := by
        change (wait value c).state = c
        rw [wait_unsignalled hlast]
      rw [hstate]
      exact ⟨h, hfence, rfl, rfl, by rw [drawnBy, List.append_nil], by simp [drawnBy]⟩
    · obtain ⟨-, -, calls, hstays, -⟩ := (wait_stays hfence hvalue).exists_done
      exact hstays.toContinues.holds h hfence hstays.encoder_eq
  | present index =>
    obtain ⟨-, -, hcontinues, hencoder, -⟩ :=
      (present_continues index c (E := fun _ => False)).exists_done
    exact hcontinues.holds h hfence hencoder

end

structure Submits (c c' : Offscreen) : Prop where
  equipment_eq : c'.equipment = c.equipment
  encoder_eq : c'.encoder = none
  submissions_eq : c'.device.submissions = c.encoder.toList.map ([·]) ++ c.device.submissions

structure Signals (c : Offscreen) (fence : Nat) (c' : Offscreen) : Prop extends Submits c c' where
  fence_eq : fence = c.fence.last.toNat + 1 ∧ ∃ values, c'.fence = c.fence.next.reportAll values
  commands_eq : c'.device.commands = c.device.commands ++
    (c.encoder.toList.map (fun e => .submit [e.id]) ++ [.onDone])

theorem submit_signals (c : Offscreen) :
    submit.Ends c (fun fence c' => ¬Full c.fence.last ∧ c.Signals fence c')
      fun c' => Full c.fence.last ∧ c.Submits c' ∧ c'.fence = c.fence := by
  refine (submit_ends c).mono ?_ ?_
  · rintro fence _ ⟨hroom, hfence, device, values, rfl, hdevice⟩
    refine ⟨hroom, ?_⟩
    cases hencoder : c.encoder with
    | none =>
      rw [hencoder] at hdevice
      exact ⟨⟨rfl, rfl, by simpa [hencoder] using hdevice.submissions_eq⟩, ⟨hfence, values, rfl⟩,
        by simpa [hencoder] using hdevice.commands_eq⟩
    | some e =>
      rw [hencoder] at hdevice
      refine ⟨⟨rfl, rfl, by simpa [hencoder] using hdevice.2⟩, ⟨hfence, values, rfl⟩, ?_⟩
      simp [hencoder, Device.commands, hdevice.1]
  · rintro _ ⟨hfull, device, rfl, hsubmissions⟩
    exact ⟨hfull, ⟨rfl, rfl, hsubmissions⟩, rfl⟩

/-- After these calls what they have drawn is in the encoders that were submitted, the latest one
first, and in the open one, which holds what was drawn since the latest submission. -/
structure Logged (c₀ : Offscreen) (calls : List Call) (c : Offscreen) : Prop where
  wired : c.equipment.Wired
  reachable : c.fence.Reachable
  submitted : ∃ encoders : List Encoder,
    c.device.submissions = encoders.map ([·]) ++ c₀.device.submissions ∧
      encoders.reverse.flatMap Encoder.dispatches ++ c.dispatches = c₀.drawn calls
  isSome_eq : c.encoder.isSome = (calls.reverse.takeWhile (· ≠ .submit)).any Call.draws
  last_eq : c.fence.last.toNat = min (calls.count .submit) (UInt64.size - 1)

section

variable {c₀ c c' : Offscreen} {calls : List Call} {call : Call}

theorem drawn_snoc (hc : c = c₀.after calls) :
    c₀.drawn (calls ++ [call]) = c₀.drawn calls ++ c.drawnBy call := by
  rw [drawn_append, ← hc, drawn, drawn, List.append_nil]

theorem Logged.holds (h : Logged c₀ calls c) (hc : c = c₀.after calls) (hcall : call ≠ .submit)
    (h' : c.Holds (c.drawnBy call) c') : Logged c₀ (calls ++ [call]) c' where
  wired := h'.wired
  reachable := h'.reachable
  submitted := by
    obtain ⟨encoders, hsubmissions, hdispatches⟩ := h.submitted
    refine ⟨encoders, h'.submissions_eq.trans hsubmissions, ?_⟩
    rw [h'.dispatches_eq, ← List.append_assoc, hdispatches, drawn_snoc hc]
  isSome_eq := by
    have hdraws : (!(c.drawnBy call).isEmpty) = call.draws := by cases call <;> rfl
    rw [h'.isSome_eq, h.isSome_eq, hdraws, List.reverse_append, List.reverse_singleton,
      List.singleton_append, List.takeWhile_cons_of_pos (by simpa using hcall), List.any_cons,
      Bool.or_comm]
  last_eq := by
    have hnone : [call].count .submit = 0 := List.count_eq_zero.mpr (by simpa using hcall.symm)
    rw [h'.last_eq, h.last_eq, List.count_append, hnone, Nat.add_zero]

theorem Logged.submits (h : Logged c₀ calls c) (hc : c = c₀.after calls) (h' : c.Submits c')
    (hreachable : c'.fence.Reachable)
    (hlast : c'.fence.last.toNat = min (c.fence.last.toNat + 1) (UInt64.size - 1)) :
    Logged c₀ (calls ++ [.submit]) c' where
  wired := h'.equipment_eq ▸ h.wired
  reachable := hreachable
  submitted := by
    obtain ⟨encoders, hsubmissions, hdispatches⟩ := h.submitted
    have hopen : c.encoder.toList.flatMap Encoder.dispatches = c.dispatches := by
      unfold dispatches
      cases c.encoder <;> simp
    have hclosed : c'.dispatches = [] := by
      rw [dispatches, h'.encoder_eq]
      rfl
    refine ⟨c.encoder.toList ++ encoders, ?_, ?_⟩
    · rw [h'.submissions_eq, hsubmissions, List.map_append, List.append_assoc]
    · have horder : c.encoder.toList.reverse = c.encoder.toList := by cases c.encoder <;> rfl
      rw [hclosed, List.append_nil, List.reverse_append, horder, List.flatMap_append, hopen,
        hdispatches, drawn_snoc hc, drawnBy, List.append_nil]
  isSome_eq := by
    rw [h'.encoder_eq, List.reverse_append, List.reverse_singleton, List.singleton_append,
      List.takeWhile_cons_of_neg (by simp)]
    rfl
  last_eq := by
    rw [hlast, h.last_eq, List.count_append, List.count_singleton_self]
    omega

theorem Logged.submit (h : Logged c₀ calls c) (hc : c = c₀.after calls) :
    Logged c₀ (calls ++ [.submit]) (Call.perform .submit c).state := by
  have hlt := c.fence.last.toNat_lt_size
  have hends : (Call.perform .submit).Ends c (fun _ c' => Logged c₀ (calls ++ [.submit]) c')
      fun c' => Logged c₀ (calls ++ [.submit]) c' := by
    unfold Call.perform
    rw [Action.ends_bind]
    refine (submit_signals c).mono ?_ ?_
    · rintro fence c' ⟨hroom, hsignals⟩
      obtain ⟨values, hvalues⟩ := hsignals.fence_eq.2
      refine h.submits hc hsignals.toSubmits (hvalues ▸ (h.reachable.next hroom).reportAll values) ?_
      have hlast := not_full_iff.mp hroom
      change c'.fence.last.toNat = _
      rw [hvalues, Fence.reportAll_last, Fence.next_last hroom]
      omega
    · rintro c' ⟨hfull, hsubmits, hfence⟩
      refine h.submits hc hsubmits (hfence ▸ h.reachable) ?_
      unfold Full at hfull
      rw [hfence]
      omega
  exact hends.state

theorem after_logged (h : c₀.equipment.Wired) (hfence : c₀.fence = {})
    (hencoder : c₀.encoder = none) (calls : List Call)
    (hsize : ∀ size, .resize size ∈ calls → size.Dispatchable) :
    Logged c₀ calls (c₀.after calls) := by
  induction calls using List.reverseRecOn with
  | nil =>
    refine ⟨h, ⟨[], trivial, hfence⟩, ⟨[], rfl, ?_⟩, ?_, ?_⟩
    · change c₀.dispatches = []
      rw [dispatches, hencoder]
      rfl
    · change c₀.encoder.isSome = _
      rw [hencoder]
      rfl
    · change c₀.fence.last.toNat = _
      rw [hfence]
      rfl
  | append_singleton calls call ih =>
    have hearlier := ih fun size hcall => hsize size (List.mem_append_left _ hcall)
    have hstate : c₀.after (calls ++ [call]) = (call.perform (c₀.after calls)).state := by
      rw [after_append]
      rfl
    rw [hstate]
    by_cases hcall : call = .submit
    · subst hcall
      exact hearlier.submit rfl
    · refine hearlier.holds rfl hcall (perform_holds hearlier.wired hearlier.reachable ?_ hcall)
      rintro size rfl
      exact hsize size (by simp)

end

/-- Whatever is asked of a swap chain in which order, the dispatches that are submitted and those
in the open encoder are, in order, those that its calls have drawn, each by the kernel of its
moment. A submission closes the encoder and submits it if something was drawn since the last, and
in any case has the next fence value reported when the work is done, if there is a next one. -/
theorem work_submitted_once_in_order (schedule : Schedule) {size : Extent}
    (hsize : size.Dispatchable) (fillShader : Shader) (fillEntryPoint : String)
    (palette : List (List Single)) (device : Device) :
    ∃ c₀ : Offscreen,
      (create schedule size fillShader fillEntryPoint palette device :
        Reply Device Error Offscreen).outcome = .done c₀ ∧
      ∀ calls : List Call, (∀ target, .resize target ∈ calls → target.Dispatchable) →
        let c := c₀.after calls
        let c' := (submit c).state
        (∃ encoders : List Encoder,
          c.device.submissions = encoders.map ([·]) ++ c₀.device.submissions ∧
            encoders.reverse.flatMap Encoder.dispatches ++ c.dispatches = c₀.drawn calls) ∧
          c.encoder.isSome = (calls.reverse.takeWhile (· ≠ .submit)).any Call.draws ∧
          c.fence.last.toNat = min (calls.count .submit) (UInt64.size - 1) ∧
          c'.encoder = none ∧
          c'.device.submissions = c.encoder.toList.map ([·]) ++ c.device.submissions ∧
          (calls.count .submit + 1 < UInt64.size →
            (submit c).outcome = .done (calls.count .submit + 1) ∧
              (∃ signalled values, c.fence.signal = .ok signalled ∧
                c'.fence = signalled.reportAll values) ∧
              c'.device.commands = c.device.commands ++
                (c.encoder.toList.map (fun e => .submit [e.id]) ++ [.onDone])) := by
  obtain ⟨c₀, hc₀, hnew⟩ :=
    create_new schedule hsize fillShader fillEntryPoint palette device
  refine ⟨c₀, hc₀, fun calls hcalls => ?_⟩
  intro c c'
  have hlogged : Logged c₀ calls c :=
    after_logged hnew.wired hnew.fence_eq hnew.encoder_eq calls hcalls
  have hsubmits : c.Submits c' := ((submit_signals c).mono
    (fun _ _ hdone => hdone.2.toSubmits) fun _ htrap => htrap.2.1).state
  refine ⟨hlogged.submitted, hlogged.isSome_eq, hlogged.last_eq, hsubmits.encoder_eq,
    hsubmits.submissions_eq, fun hcount => ?_⟩
  have hlast : c.fence.last.toNat = calls.count .submit := by
    rw [hlogged.last_eq]
    omega
  have hroom : ¬Full c.fence.last := not_full_iff.mpr (hlast ▸ hcount)
  obtain ⟨fence, hdone, -, hsignals⟩ :=
    ((submit_signals c).mono (fun _ _ hdone => hdone) fun _ htrap => hroom htrap.1).exists_done
  obtain ⟨hfence, values, hvalues⟩ := hsignals.fence_eq
  exact ⟨hlast ▸ hfence ▸ hdone, ⟨_, values, Fence.signal_of_room hroom, hvalues⟩,
    hsignals.commands_eq⟩

-- The target is replaced between two dispatches of one encoder, and the second submission is idle.
def interleaved : List Call :=
  [.copy BackBuffer.first, .resize ⟨250, 0⟩, .copy BackBuffer.first, .submit, .submit, .wait 7,
    .copy (BackBuffer.ofFrame 1)]

theorem work_submitted_once_in_order_interleaved :
    (⟨1000, 500⟩ : Extent).Dispatchable ∧
      (∀ target, .resize target ∈ interleaved → target.Dispatchable) ∧ ∃ c₀ : Offscreen,
      (create .deferred ⟨1000, 500⟩ ⟨0, none⟩ "main" fractalTilesPalette {} :
        Reply Device Error Offscreen).outcome = .done c₀ ∧
      let c := c₀.after interleaved
      (c₀.drawn interleaved).length = 3 ∧
        (∃ encoders : List Encoder,
          c.device.submissions = encoders.map ([·]) ++ c₀.device.submissions ∧
            encoders.reverse.flatMap Encoder.dispatches ++ c.dispatches = c₀.drawn interleaved) ∧
        c.encoder.isSome = true ∧ (submit c).outcome = .done 3 := by
  have hsize : (⟨1000, 500⟩ : Extent).Dispatchable := ⟨by decide, by decide⟩
  have htargets (target : Extent) (h : .resize target ∈ interleaved) : target.Dispatchable := by
    have htarget : target = ⟨250, 0⟩ := by simpa [interleaved] using h
    rw [htarget]
    exact ⟨by decide, by decide⟩
  obtain ⟨c₀, hc₀, hrun⟩ := work_submitted_once_in_order .deferred hsize ⟨0, none⟩ "main"
    fractalTilesPalette {}
  obtain ⟨hsubmitted, hopen, -, -, -, hsubmit⟩ := hrun interleaved htargets
  have hcount : interleaved.count .submit = 2 := by decide
  have hdrawing : (interleaved.reverse.takeWhile (· ≠ .submit)).any Call.draws = true := by decide
  rw [hcount] at hsubmit
  obtain ⟨hdone, -⟩ := hsubmit (by decide)
  refine ⟨hsize, htargets, c₀, hc₀, ?_, hsubmitted, hopen.trans hdrawing, hdone⟩
  simp [interleaved, drawn, drawnBy]

end Offscreen

end SwapChain

end AdaptiveResolution
