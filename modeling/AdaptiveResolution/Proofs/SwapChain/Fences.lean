import AdaptiveResolution.Proofs.Gpu.Devices
import AdaptiveResolution.SwapChain.Offscreen

namespace AdaptiveResolution.SwapChain

namespace Fence

def next (f : Fence) : Fence :=
  { f with last := f.last + 1, pending := f.pending ++ [(f.last + 1).toNat] }

theorem signal_eq (f : Fence) :
    f.signal = if Full f.last then .error .additionOverflow else .ok f.next := by
  rw [signal, Checked.add64_one]
  split <;> rfl

theorem signal_of_room {f : Fence} (h : ¬Full f.last) : f.signal = .ok f.next := by
  rw [signal_eq, if_neg h]

theorem signal_of_full {f : Fence} (h : Full f.last) : f.signal = .error .additionOverflow := by
  rw [signal_eq, if_pos h]

theorem next_last {f : Fence} (h : ¬Full f.last) : f.next.last.toNat = f.last.toNat + 1 :=
  toNat_succ h

inductive Change where
  | signal
  | report (value : Nat)

def change (f : Fence) : Change → Fence
  | .signal => f.signal.toOption.getD f
  | .report value => f.report value

theorem change_signal {f : Fence} (h : ¬Full f.last) : f.change .signal = f.next := by
  rw [change, signal_of_room h]
  rfl

def after : List Change → Fence
  | [] => {}
  | c :: earlier => (after earlier).change c

def signals : List Change → Nat
  | [] => 0
  | .signal :: earlier => signals earlier + 1
  | .report _ :: earlier => signals earlier

def reported : List Change → List Nat
  | [] => []
  | .signal :: earlier => reported earlier
  | .report value :: earlier => value :: reported earlier

def signalled : List Change → List Nat
  | [] => []
  | .signal :: earlier => signalled earlier ++ [((after earlier).change .signal).last.toNat]
  | .report _ :: earlier => signalled earlier

/-- Fewer values are signalled than the counter has, and only those are reported, each at most
once. -/
def Lawful : List Change → Prop
  | [] => True
  | .signal :: earlier => signals earlier + 1 < UInt64.size ∧ Lawful earlier
  | .report value :: earlier =>
    (0 < value ∧ value ≤ signals earlier ∧ value ∉ reported earlier) ∧ Lawful earlier

def InOrder : List Change → Prop
  | [] => True
  | .signal :: earlier => InOrder earlier
  | .report value :: earlier =>
    (∀ v, 0 < v → v < value → v ∈ reported earlier) ∧ InOrder earlier

structure Tracks (f : Fence) (history : List Change) : Prop where
  last_eq : f.last.toNat = signals history
  completed_eq : f.completed = (reported history).max?.getD 0
  pending_iff : ∀ v, v ∈ f.pending ↔ 0 < v ∧ v ≤ signals history ∧ v ∉ reported history
  nodup : f.pending.Nodup

section

variable {f : Fence} {history : List Change} {value : Nat}

theorem reported_le (h : Lawful history) {v : Nat} (hv : v ∈ reported history) :
    v ≤ signals history := by
  induction history with
  | nil => simp [reported] at hv
  | cons c earlier ih =>
    cases c with
    | signal => exact Nat.le_succ_of_le (ih h.2 hv)
    | report w =>
      rcases List.mem_cons.mp hv with rfl | hv
      · exact h.1.2.1
      · exact ih h.2 hv

theorem Tracks.not_full_iff (h : Tracks f history) :
    ¬Full f.last ↔ signals history + 1 < UInt64.size := by
  rw [AdaptiveResolution.not_full_iff, h.last_eq]

theorem Tracks.next (h : Tracks f history) (hlawful : Lawful history) (hroom : ¬Full f.last) :
    Tracks f.next (.signal :: history) where
  last_eq := (next_last hroom).trans (congrArg (· + 1) h.last_eq)
  completed_eq := h.completed_eq
  pending_iff := by
    intro v
    have hnew (hv : v ∈ reported history) : v ≤ signals history := reported_le hlawful hv
    simp only [Fence.next, toNat_succ hroom, List.mem_append, List.mem_singleton, h.pending_iff v,
      h.last_eq, signals, reported]
    constructor
    · rintro (⟨hpos, hle, hv⟩ | rfl)
      · exact ⟨hpos, by omega, hv⟩
      · exact ⟨by omega, Nat.le_refl _, fun hv => absurd (hnew hv) (by omega)⟩
    · rintro ⟨hpos, hle, hv⟩
      by_cases hlast : v = signals history + 1
      · exact .inr hlast
      · exact .inl ⟨hpos, by omega, hv⟩
  nodup := by
    refine List.nodup_append.mpr ⟨h.nodup, by simp, ?_⟩
    intro v hv w hw
    have hle := ((h.pending_iff v).mp hv).2.1
    rw [List.mem_singleton.mp hw, toNat_succ hroom, h.last_eq]
    omega

theorem Tracks.report (h : Tracks f history) (hvalue : value ∈ f.pending) :
    Tracks (f.report value) (.report value :: history) := by
  unfold Fence.report
  rw [if_pos hvalue]
  exact {
    last_eq := h.last_eq
    completed_eq := by
      rw [reported, List.max?_cons, h.completed_eq]
      cases (reported history).max? with
      | none => exact Nat.zero_max value
      | some v => exact Nat.max_comm v value
    pending_iff := by
      intro v
      simp only [h.nodup.mem_erase_iff, h.pending_iff v, signals, reported, List.mem_cons, not_or]
      exact and_left_comm.trans (and_congr_right fun _ => and_left_comm)
    nodup := h.nodup.erase value }

theorem after_tracks (h : Lawful history) : Tracks (after history) history := by
  induction history with
  | nil =>
    refine ⟨rfl, rfl, fun v => iff_of_false (by simp [after]) ?_, List.nodup_nil⟩
    rintro ⟨hpos, hle, -⟩
    exact Nat.not_le.mpr hpos hle
  | cons c earlier ih =>
    cases c with
    | signal =>
      have hearlier := ih h.2
      have hroom := hearlier.not_full_iff.mpr h.1
      rw [after, change_signal hroom]
      exact hearlier.next h.2 hroom
    | report value =>
      have hearlier := ih h.2
      exact hearlier.report ((hearlier.pending_iff value).mpr h.1)

theorem Tracks.completed_reported (h : Tracks f history) (hpos : 0 < f.completed) :
    f.completed ∈ reported history := by
  cases hmax : (reported history).max? with
  | none => simp [h.completed_eq, hmax] at hpos
  | some v =>
    rw [h.completed_eq, hmax]
    exact List.max?_mem hmax

theorem Tracks.completed_le (h : Tracks f history) (hlawful : Lawful history) :
    f.completed ≤ f.last.toNat := by
  rcases Nat.eq_zero_or_pos f.completed with hzero | hpos
  · rw [hzero]
    exact Nat.zero_le _
  · rw [h.last_eq]
    exact reported_le hlawful (h.completed_reported hpos)

theorem Tracks.le_completed_or_pending (h : Tracks f history) {v : Nat} (hv : v ≤ f.last.toNat) :
    v ≤ f.completed ∨ v ∈ f.pending := by
  by_cases hreported : v ∈ reported history
  · rw [h.completed_eq]
    exact .inl (List.le_max?_getD_of_mem hreported)
  · rcases Nat.eq_zero_or_pos v with rfl | hpos
    · exact .inl (Nat.zero_le _)
    · exact .inr ((h.pending_iff v).mpr ⟨hpos, h.last_eq ▸ hv, hreported⟩)

theorem signalled_eq (h : Lawful history) :
    signalled history = List.range' 1 (signals history) := by
  induction history with
  | nil => rfl
  | cons c earlier ih =>
    cases c with
    | signal =>
      have hearlier := after_tracks h.2
      have hroom := hearlier.not_full_iff.mpr h.1
      rw [signalled, ih h.2, signals, List.range'_1_concat, change_signal hroom, next_last hroom,
        hearlier.last_eq, Nat.add_comm]
    | report value => exact ih h.2

theorem completed_le_change (f : Fence) (c : Change) : f.completed ≤ (f.change c).completed := by
  cases c with
  | signal =>
    rw [change, signal_eq]
    split <;> exact Nat.le_refl _
  | report value =>
    simp only [change, Fence.report]
    split
    · exact Nat.le_max_left _ _
    · exact Nat.le_refl _

theorem completed_mono {earlier : List Change} (h : earlier <:+ history) :
    (after earlier).completed ≤ (after history).completed := by
  induction history with
  | nil =>
    rw [List.suffix_nil.mp h]
  | cons c history ih =>
    rcases List.suffix_cons_iff.mp h with rfl | h
    · exact Nat.le_refl _
    · exact Nat.le_trans (ih h) (completed_le_change _ c)

theorem InOrder.reported_of_le (h : InOrder history) {u v : Nat} (hv : v ∈ reported history)
    (hu : 0 < u) (huv : u ≤ v) : u ∈ reported history := by
  induction history with
  | nil => simp [reported] at hv
  | cons c earlier ih =>
    cases c with
    | signal => exact ih h hv
    | report w =>
      apply List.mem_cons.mpr
      rcases List.mem_cons.mp hv with rfl | hv
      · rcases Nat.lt_or_eq_of_le huv with hlt | heq
        · exact .inr (h.1 u hu hlt)
        · exact .inl heq
      · exact .inr (ih h.2 hv)

theorem reportAll_cons (f : Fence) (v : Nat) (values : List Nat) :
    f.reportAll (v :: values) = (f.report v).reportAll values := rfl

theorem reportAll_append (f : Fence) (values more : List Nat) :
    f.reportAll (values ++ more) = (f.reportAll values).reportAll more :=
  List.foldl_append

theorem reportAll_last (f : Fence) (values : List Nat) : (f.reportAll values).last = f.last := by
  induction values generalizing f with
  | nil => rfl
  | cons v values ih =>
    rw [reportAll_cons, ih]
    unfold Fence.report
    split <;> rfl

theorem completed_le_reportAll (f : Fence) (values : List Nat) :
    f.completed ≤ (f.reportAll values).completed := by
  induction values generalizing f with
  | nil => exact Nat.le_refl _
  | cons v values ih => exact Nat.le_trans (completed_le_change f (.report v)) (ih (f.report v))

theorem le_reportAll {values : List Nat} {v : Nat} (hv : v ∈ values) (hpending : v ∈ f.pending) :
    v ≤ (f.reportAll values).completed := by
  induction values generalizing f with
  | nil => simp at hv
  | cons w values ih =>
    rw [reportAll_cons]
    by_cases hw : v = w
    · subst hw
      have hreport : v ≤ (f.report v).completed := by
        rw [Fence.report, if_pos hpending]
        exact Nat.le_max_right _ _
      exact Nat.le_trans hreport (completed_le_reportAll _ _)
    · refine ih ((List.mem_cons.mp hv).resolve_left hw) ?_
      unfold Fence.report
      split
      · exact (List.mem_erase_of_ne hw).mpr hpending
      · exact hpending

theorem reportAll_after (values : List Nat) (h : Lawful history) :
    ∃ done : List Nat, Lawful (done.map .report ++ history) ∧
      (after history).reportAll values = after (done.map .report ++ history) := by
  induction values generalizing history with
  | nil => exact ⟨[], h, rfl⟩
  | cons v values ih =>
    rw [reportAll_cons]
    by_cases hv : v ∈ (after history).pending
    · have hlawful : Lawful (.report v :: history) := ⟨((after_tracks h).pending_iff v).mp hv, h⟩
      obtain ⟨done, hdone, heq⟩ := ih hlawful
      refine ⟨done ++ [v], by simpa using hdone, heq.trans ?_⟩
      rw [List.map_append, List.append_assoc]
      rfl
    · rw [Fence.report, if_neg hv]
      exact ih h

def Reachable (f : Fence) : Prop := ∃ history, Lawful history ∧ f = after history

theorem Reachable.next (h : f.Reachable) (hroom : ¬Full f.last) : f.next.Reachable := by
  obtain ⟨history, hlawful, rfl⟩ := h
  exact ⟨.signal :: history, ⟨(after_tracks hlawful).not_full_iff.mp hroom, hlawful⟩,
    (change_signal hroom).symm⟩

theorem Reachable.reportAll (h : f.Reachable) (values : List Nat) :
    (f.reportAll values).Reachable := by
  obtain ⟨history, hlawful, rfl⟩ := h
  obtain ⟨done, hdone, heq⟩ := reportAll_after values hlawful
  exact ⟨_, hdone, heq⟩

theorem Reachable.le_reportAll_pending (h : f.Reachable) (hvalue : value ≤ f.last.toNat) :
    value ≤ (f.reportAll f.pending).completed := by
  obtain ⟨history, hlawful, rfl⟩ := h
  rcases (after_tracks hlawful).le_completed_or_pending hvalue with hcompleted | hpending
  · exact Nat.le_trans hcompleted (completed_le_reportAll _ _)
  · exact le_reportAll hpending hpending

end

end Fence

namespace Offscreen

variable {ε α : Type}

@[simp] theorem ends_onDevice (x : Action Gpu.Device ε α) (c : Offscreen)
    (Q : α → Offscreen → Prop) (E : Offscreen → Prop) :
    (onDevice x).Ends c Q E ↔
      x.Ends c.device (fun a device => Q a { c with device }) fun device => E { c with device } :=
  Action.ends_within _ _ _ _ _ _ _

@[simp] theorem ends_settle (c : Offscreen) (Q : Unit → Offscreen → Prop)
    (E : Offscreen → Prop) :
    (settle : Action Offscreen ε Unit).Ends c Q E ↔
      Q ()
        { c with
          fence := c.fence.reportAll (c.schedule.between c.moment c.fence)
          moment := c.moment + 1 } :=
  Iff.rfl

def polled (c : Offscreen) (polls : Nat) (fence : Fence) : Offscreen :=
  { c with
    device := { c.device with history := List.replicate polls (.poll true) ++ c.device.history }
    fence }

theorem polled_polled (c : Offscreen) (m n : Nat) (f g : Fence) :
    (c.polled m f).polled n g = c.polled (n + m) g := by
  simp only [polled, ← List.append_assoc, List.replicate_append_replicate]

theorem waitRounds_ends {value : Nat} (rounds : List (List Nat)) {c : Offscreen}
    (hc : c.fence.Reachable) (hvalue : value ≤ c.fence.last.toNat) :
    (waitRounds value rounds).Ends c
      (fun _ c' => value ≤ c'.fence.completed ∧
        ∃ polls values, c' = c.polled polls (c.fence.reportAll values))
      fun _ => False := by
  induction rounds generalizing c with
  | nil =>
    unfold waitRounds
    simp only [Action.ends_bind, Action.ends_state, Action.ends_ite, ends_onDevice,
      Gpu.Device.ends_issue, Action.ends_update, Action.ends_pure]
    refine ⟨fun _ => ⟨hc.le_reportAll_pending hvalue, 1, c.fence.pending, rfl⟩, fun hreached => ?_⟩
    exact ⟨Nat.le_of_not_lt hreached, 0, [], rfl⟩
  | cons round rounds ih =>
    unfold waitRounds
    simp only [Action.ends_bind, Action.ends_state, Action.ends_ite, ends_onDevice,
      Gpu.Device.ends_issue, Action.ends_update, Action.ends_pure]
    refine ⟨fun _ => ?_, fun hreached => ⟨Nat.le_of_not_lt hreached, 0, [], rfl⟩⟩
    have hround : (c.polled 1 (c.fence.reportAll round)).fence.Reachable := hc.reportAll round
    change (waitRounds value rounds).Ends (c.polled 1 (c.fence.reportAll round)) _ _
    refine (ih hround ?_).imp ?_
    · exact (Fence.reportAll_last c.fence round).symm ▸ hvalue
    · rintro _ c' ⟨hreached, polls, values, rfl⟩
      refine ⟨hreached, polls + 1, round ++ values, ?_⟩
      rw [polled_polled, Fence.reportAll_append]
      rfl

theorem wait_ends {value : Nat} {c : Offscreen} (hc : c.fence.Reachable)
    (hvalue : value ≤ c.fence.last.toNat) :
    (wait value).Ends c
      (fun _ c' => value ≤ c'.fence.completed ∧ ∃ polls values,
        c' = { c.polled polls (c.fence.reportAll values) with moment := c.moment + 1 })
      fun _ => False := by
  unfold wait
  simp only [Action.ends_bind, Action.ends_state, Action.ends_ite, ends_settle]
  refine ⟨fun hlast => absurd hvalue (Nat.not_le.mpr hlast), fun _ => ?_⟩
  refine (waitRounds_ends _ hc hvalue).imp ?_
  rintro _ c' ⟨hreached, polls, values, rfl⟩
  let more := c.schedule.between c.moment (c.fence.reportAll values)
  refine ⟨Nat.le_trans hreached (Fence.completed_le_reportAll _ _), polls, values ++ more, ?_⟩
  rw [Fence.reportAll_append]
  rfl

theorem wait_unsignalled {value : Nat} {c : Offscreen} (hvalue : c.fence.last.toNat < value) :
    wait value c = ⟨.failed (.unsignalledFence value), c, []⟩ := by
  simp only [wait, Action.bind_apply, Action.state, if_pos hvalue]
  rfl

def signalDone : Action Offscreen Error Nat := do
  let c ← Action.state
  let fence ← Action.ofChecked c.fence.signal
  onDevice (Gpu.Device.issue .onDone)
  Action.update fun c => { c with fence := fence.reportAll (c.schedule.atSignal fence) }
  settle
  return fence.last.toNat

theorem submit_eq : submit = (do
    let c ← Action.state
    match c.encoder with
    | none => pure ()
    | some encoder =>
      onDevice (Gpu.Device.submit [encoder])
      Action.update fun c => { c with encoder := none }
    signalDone) := rfl

theorem signalDone_ends (c : Offscreen) :
    signalDone.Ends c
      (fun fence c' => ¬Full c.fence.last ∧ fence = c.fence.last.toNat + 1 ∧ ∃ values, c' =
        { c with
          device := { c.device with history := .onDone :: c.device.history }
          fence := c.fence.next.reportAll values
          moment := c.moment + 1 })
      fun c' => Full c.fence.last ∧ c' = c := by
  unfold signalDone
  rw [Action.ends_bind, Action.ends_state, Action.ends_bind]
  by_cases hfull : Full c.fence.last
  · rw [Fence.signal_of_full hfull]
    exact ⟨hfull, rfl⟩
  · rw [Fence.signal_of_room hfull]
    simp only [Action.ends_ofChecked_ok, Action.ends_bind, Action.ends_update, Action.ends_pure,
      ends_onDevice, Gpu.Device.ends_issue, ends_settle, ← Fence.reportAll_append]
    exact ⟨hfull, Fence.next_last hfull, _, rfl⟩

structure AfterSubmit (c : Offscreen) (fence : Nat) (c' : Offscreen) : Prop where
  fence_eq : fence = c.fence.last.toNat + 1
  state_eq : ∃ device values,
    c' =
      { c with
        device
        encoder := none
        fence := c.fence.next.reportAll values
        moment := c.moment + 1 } ∧
    match c.encoder with
    | none => c.device.Issues [.onDone] device
    | some e => device.history = .onDone :: .submit [e.id] :: c.device.history ∧
        device.submissions = [e] :: c.device.submissions

-- The encoder is submitted also where the fence has no value left to give out.
theorem submit_ends (c : Offscreen) :
    submit.Ends c
      (fun fence c' => ¬Full c.fence.last ∧ c.AfterSubmit fence c')
      fun c' => Full c.fence.last ∧ ∃ device, c' = { c with device, encoder := none } ∧
        device.submissions = c.encoder.toList.map ([·]) ++ c.device.submissions := by
  rw [submit_eq, Action.ends_bind, Action.ends_state]
  cases he : c.encoder with
  | none =>
    refine (signalDone_ends c).mono ?_ ?_
    · rintro fence c' ⟨hroom, hfence, values, rfl⟩
      let device := { c.device with history := .onDone :: c.device.history }
      refine ⟨hroom, hfence, device, values, by rw [← he], ?_⟩
      rw [he]
      exact ⟨rfl, rfl, by simp⟩
    · rintro c' ⟨hfull, rfl⟩
      exact ⟨hfull, c'.device, by rw [← he], rfl⟩
  | some e =>
    simp only [Action.ends_bind, ends_onDevice, Action.ends_update]
    refine (Gpu.Device.submit_ends e c.device).mono ?_ fun _ => False.elim
    rintro _ device ⟨hhistory, hsubmissions⟩
    refine (signalDone_ends { c with device, encoder := none }).mono ?_ ?_
    · rintro fence c' ⟨hroom, hfence, values, rfl⟩
      refine ⟨hroom, hfence, _, values, rfl, ?_⟩
      rw [he]
      exact ⟨congrArg _ hhistory, hsubmissions⟩
    · rintro c' ⟨hfull, rfl⟩
      exact ⟨hfull, device, rfl, hsubmissions⟩

theorem submit_ends_done {c : Offscreen} (hroom : ¬Full c.fence.last) :
    submit.Ends c (fun fence c' => c.AfterSubmit fence c') fun _ => False :=
  (submit_ends c).mono (fun _ _ hdone => hdone.2) fun _ htrap => hroom htrap.1

end Offscreen

namespace Fence

/-- Whatever is reported, in whichever order: the values given out count up from one, the completed
value is the greatest one reported and stays below them, and it covers all that was submitted
before it if the reports are in order. A swap chain with such a fence waits for any value that was
given out until it is covered, and refuses any other at once. -/
theorem values_safe {history : List Change} (h : Lawful history) :
    let f := after history
    (signalled history = List.range' 1 (signals history) ∧ f.last.toNat = signals history) ∧
      (f.completed = (reported history).max?.getD 0 ∧ f.completed ≤ f.last.toNat) ∧
      (∀ earlier, earlier <:+ history → (after earlier).completed ≤ f.completed) ∧
      (InOrder history → ∀ v, 0 < v → v ≤ f.completed → v ∈ reported history) ∧
      ∀ c : Offscreen, c.fence = f →
        (signals history + 1 < UInt64.size →
          (Offscreen.submit c).outcome = .done (f.last.toNat + 1) ∧ ∃ done : List Nat,
            Lawful (done.map .report ++ .signal :: history) ∧
              (Offscreen.submit c).state.fence = after (done.map .report ++ .signal :: history)) ∧
        ∀ v, (f.last.toNat < v → Offscreen.wait v c = ⟨.failed (.unsignalledFence v), c, []⟩) ∧
          (v ≤ f.last.toNat → (Offscreen.wait v c).outcome = .done () ∧
            v ≤ (Offscreen.wait v c).state.fence.completed ∧ ∃ done : List Nat,
              Lawful (done.map .report ++ history) ∧
                (Offscreen.wait v c).state.fence = after (done.map .report ++ history)) := by
  have htracks := after_tracks h
  refine ⟨⟨signalled_eq h, htracks.last_eq⟩, ⟨htracks.completed_eq, htracks.completed_le h⟩,
    fun _ => completed_mono, fun horder v hv hle => ?_,
    fun c hc => ⟨fun hsignals => ?_, fun v => ⟨?_, ?_⟩⟩⟩
  · have hpos : 0 < (after history).completed := Nat.lt_of_lt_of_le hv hle
    exact horder.reported_of_le (htracks.completed_reported hpos) hv hle
  · have hroom : ¬Full (after history).last := htracks.not_full_iff.mpr hsignals
    obtain ⟨fence, houtcome, hfence, device, values, hstate, -⟩ :=
      (Offscreen.submit_ends_done (hc.symm ▸ hroom)).exists_done
    have hsignalled : Lawful (.signal :: history) := ⟨hsignals, h⟩
    obtain ⟨done, hlawful, heq⟩ := reportAll_after values hsignalled
    refine ⟨houtcome.trans (by rw [hfence, hc]), done, hlawful, ?_⟩
    rw [hstate, ← heq, hc, after, change_signal hroom]
  · exact fun hlast => Offscreen.wait_unsignalled (hc ▸ hlast)
  · intro hle
    have hreachable : c.fence.Reachable := ⟨history, h, hc⟩
    have hsignalled : v ≤ c.fence.last.toNat := hc ▸ hle
    obtain ⟨⟨⟩, houtcome, hreached, polls, values, hstate⟩ :=
      (Offscreen.wait_ends hreachable hsignalled).exists_done
    obtain ⟨done, hlawful, heq⟩ := reportAll_after values h
    refine ⟨houtcome, hreached, done, hlawful, ?_⟩
    rw [hstate, ← heq, ← hc]
    rfl

def outOfOrder : List Change := [.report 1, .signal, .report 2, .signal, .signal]

def bare (fence : Fence) : Offscreen where
  device := {}
  schedule := .deferred
  fillShader := ⟨0, none⟩
  fillEntryPoint := "main"
  upscaleShader := ⟨1, none⟩
  palette := ⟨0, 16, 32⟩
  constants := ⟨1, 32, 32⟩
  backBuffers := #v[⟨0, ⟨8, 8⟩⟩, ⟨1, ⟨8, 8⟩⟩]
  renderTarget := ⟨2, ⟨8, 8⟩⟩
  fillKernel := ⟨⟨0, ⟨0, "main", []⟩, ⟨0, none⟩, "main"⟩, [], "main"⟩
  upscaleKernels := .replicate 2 ⟨⟨1, ⟨1, "upscale", []⟩, ⟨1, none⟩, "upscale"⟩, [], "upscale"⟩
  fence

theorem values_safe_out_of_order :
    Lawful outOfOrder ∧ (bare (after outOfOrder)).fence = after outOfOrder ∧
      signalled outOfOrder = [1, 2, 3] ∧ (after outOfOrder).completed = 2 ∧
      (Offscreen.wait 3 (bare (after outOfOrder))).outcome = .done () ∧
      Offscreen.wait 4 (bare (after outOfOrder)) =
        ⟨.failed (.unsignalledFence 4), bare (after outOfOrder), []⟩ := by
  have hlawful : Lawful outOfOrder := by
    simp [Lawful, outOfOrder, signals, reported, UInt64.size]
  obtain ⟨⟨hsignalled, -⟩, ⟨hcompleted, -⟩, -, -, hchain⟩ := values_safe hlawful
  have hwait := (hchain (bare (after outOfOrder)) rfl).2
  exact ⟨hlawful, rfl, hsignalled, hcompleted, ((hwait 3).2 (by decide)).1,
    (hwait 4).1 (by decide)⟩

end Fence

end AdaptiveResolution.SwapChain
