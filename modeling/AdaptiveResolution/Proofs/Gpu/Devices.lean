import Mathlib.Algebra.Order.Floor.Div
import AdaptiveResolution.Gpu.Kernel
import AdaptiveResolution.Gpu.Texture
import AdaptiveResolution.Proofs.Endings

namespace AdaptiveResolution.Gpu

variable {ε α : Type}

namespace Device

structure Issues (d : Device) (calls : List Command) (d' : Device) : Prop where
  history_eq : d'.history = calls.reverse ++ d.history
  submissions_eq : d'.submissions = d.submissions
  not_submits : ∀ batch, .submit batch ∉ calls

section

variable {d d' d'' : Device} {calls more : List Command}

theorem Issues.refl (d : Device) : d.Issues [] d := ⟨rfl, rfl, by simp⟩

theorem Issues.trans (h : d.Issues calls d') (h' : d'.Issues more d'') :
    d.Issues (calls ++ more) d'' where
  history_eq := by rw [h'.history_eq, h.history_eq, List.reverse_append, List.append_assoc]
  submissions_eq := h'.submissions_eq.trans h.submissions_eq
  not_submits batch hbatch :=
    (List.mem_append.mp hbatch).elim (h.not_submits batch) (h'.not_submits batch)

theorem Issues.commands_eq (h : d.Issues calls d') : d'.commands = d.commands ++ calls := by
  rw [commands, h.history_eq, List.reverse_append, List.reverse_reverse]
  rfl

end

@[simp] theorem ends_issue (c : Command) (d : Device) (Q : Unit → Device → Prop)
    (E : Device → Prop) :
    (issue c : Action Device ε Unit).Ends d Q E ↔ Q () { d with history := c :: d.history } :=
  Iff.rfl

theorem ends_createLayout (entries : List LayoutEntry) (d : Device) (Q : Layout → Device → Prop)
    (E : Device → Prop) :
    (createLayout entries : Action Device ε Layout).Ends d Q E ↔
      let layout : Layout := ⟨d.layouts, entries⟩
      Q layout { d with layouts := d.layouts + 1, history := .createLayout layout :: d.history } :=
  Iff.rfl

theorem ends_createBindGroup (layout : Layout) (entries : List GroupEntry) (d : Device)
    (Q : BindGroup → Device → Prop) (E : Device → Prop) :
    (createBindGroup layout entries : Action Device ε BindGroup).Ends d Q E ↔
      let group : BindGroup := ⟨d.bindGroups, layout, entries⟩
      Q group
        { d with bindGroups := d.bindGroups + 1, history := .createBindGroup group :: d.history } :=
  Iff.rfl

theorem issueAll_ends {commands : List α} {f : α → Command}
    (hf : ∀ a batch, .submit batch ≠ f a) {d : Device} {E : Device → Prop} :
    (commands.forM fun c => issue (f c) : Action Device ε Unit).Ends d
      (fun _ d' => d.Issues (commands.map f) d') E := by
  induction commands generalizing d with
  | nil => exact .refl d
  | cons c commands ih =>
    have hfirst : d.Issues [f c] { d with history := f c :: d.history } :=
      ⟨rfl, rfl, by simpa using hf c⟩
    rw [List.forM_eq_forM, List.forM_cons, Action.ends_bind, ends_issue]
    exact ih.imp (fun _ _ h => hfirst.trans h)

theorem createEncoder_ends (label : Option String) (d : Device) {E : Device → Prop} :
    (createEncoder label : Action Device ε Encoder).Ends d
      (fun e d' => e = { id := d.encoders } ∧ d.Issues [.createEncoder e.id label] d') E :=
  ⟨rfl, rfl, rfl, by simp⟩

def passCalls (encoder : Nat) (label : String) (commands : List PassCommand) : List Command :=
  .beginPass encoder label :: commands.map .inPass ++ [.endPass encoder]

theorem recordPass_ends (e : Encoder) (label : String) (commands : List PassCommand) (d : Device)
    {E : Device → Prop} :
    (recordPass e label commands : Action Device ε Encoder).Ends d
      (fun e' d' => e' = { e with work := e.work ++ [.pass commands] } ∧
        d.Issues (passCalls e.id label commands) d') E := by
  have hbegin : d.Issues [.beginPass e.id label]
      { d with history := .beginPass e.id label :: d.history } := ⟨rfl, rfl, by simp⟩
  unfold recordPass
  rw [Action.ends_bind, ends_issue, Action.ends_bind]
  refine (issueAll_ends (by simp)).imp (fun _ d' h => ?_)
  rw [Action.ends_bind, ends_issue, Action.ends_pure]
  exact ⟨rfl, (hbegin.trans h).trans ⟨rfl, rfl, by simp⟩⟩

theorem perform_history (d : Device) (work : List Work) :
    (work.foldl perform d).history = d.history := by
  induction work generalizing d with
  | nil => rfl
  | cons w work ih =>
    rw [List.foldl_cons, ih]
    cases w <;> rfl

theorem submit_ends (e : Encoder) (d : Device) {E : Device → Prop} :
    (submit [e] : Action Device ε Unit).Ends d
      (fun _ d' => d'.history = .submit [e.id] :: d.history ∧
        d'.submissions = [e] :: d.submissions) E :=
  ⟨congrArg _ (perform_history d e.work), rfl⟩

end Device

theorem Uniform.write_ends (u : Uniform) (bytes : Array UInt8) (d : Device) {E : Device → Prop} :
    (u.write bytes : Action Device ε Unit).Ends d
      (fun _ d' => d.Issues [.writeBuffer u.buffer.id 0 bytes] d') E :=
  ⟨rfl, rfl, by simp⟩

theorem Texture.create_ends (extent : Extent) (usages : List TextureUsage) (d : Device)
    {E : Device → Prop} :
    (Texture.create extent usages : Action Device ε Texture).Ends d
      (fun t d' => t = ⟨d.textures.size, extent.nonempty⟩ ∧
        d.Issues [.createTexture t "GpuTexture" (TextureUsage.inOrder usages)] d') E :=
  ⟨rfl, rfl, rfl, by simp⟩

namespace Kernel

structure Implements (k : Kernel) (p : Program) : Prop where
  shader_eq : k.pipeline.shader = p.shader
  entryPoint_eq : k.pipeline.entryPoint = p.entryPoint
  layouts_eq : k.pipeline.layout.layouts = k.groups.map BindGroup.layout
  layout_eq : k.groups.map (fun g => g.layout.entries) = p.sets.map DescriptorSet.layout
  entries_eq : k.groups.map BindGroup.entries = p.sets.map DescriptorSet.entries

def groupCalls (groups : List BindGroup) : List Command :=
  groups.flatMap fun g => [.createLayout g.layout, .createBindGroup g]

def buildCalls (k : Kernel) : List Command :=
  groupCalls k.groups ++
    [.createPipelineLayout k.pipeline.layout, .createPipeline k.pipeline k.pipeline.entryPoint]

def numberedGroups (layouts groups : Nat) (sets : List DescriptorSet) : List BindGroup :=
  sets.mapIdx fun i set => ⟨groups + i, ⟨layouts + i, set.layout⟩, set.entries⟩

theorem numberedGroups_cons (layouts groups : Nat) (set : DescriptorSet)
    (sets : List DescriptorSet) :
    numberedGroups layouts groups (set :: sets) =
      ⟨groups, ⟨layouts, set.layout⟩, set.entries⟩ ::
        numberedGroups (layouts + 1) (groups + 1) sets := by
  simp only [numberedGroups, List.mapIdx_cons, Nat.add_zero, Nat.add_assoc, Nat.add_comm 1]

theorem bindAll_ends (sets : List DescriptorSet) (d : Device) {E : Device → Prop} :
    (bindAll sets : Action Device ε (List BindGroup)).Ends d
      (fun groups d' =>
        groups = numberedGroups d.layouts d.bindGroups sets ∧ d.Issues (groupCalls groups) d') E := by
  induction sets generalizing d with
  | nil => exact ⟨rfl, .refl d⟩
  | cons set sets ih =>
    let layout : Layout := ⟨d.layouts, set.layout⟩
    let group : BindGroup := ⟨d.bindGroups, layout, set.entries⟩
    have hgroup : d.Issues (groupCalls [group])
        { d with
          layouts := d.layouts + 1
          bindGroups := d.bindGroups + 1
          history := .createBindGroup group :: .createLayout layout :: d.history } :=
      ⟨rfl, rfl, by simp [groupCalls]⟩
    unfold bindAll
    rw [Action.ends_bind, Device.ends_createLayout, Action.ends_bind, Device.ends_createBindGroup,
      Action.ends_bind]
    refine (ih _).imp ?_
    rintro groups d' ⟨rfl, h⟩
    rw [numberedGroups_cons]
    exact ⟨rfl, hgroup.trans h⟩

theorem create_numbered (p : Program) (d : Device) {E : Device → Prop} :
    (create p : Action Device ε Kernel).Ends d
      (fun k d' => k.groups = numberedGroups d.layouts d.bindGroups p.sets ∧ k.Implements p ∧
        d.Issues k.buildCalls d') E := by
  unfold create
  rw [Action.ends_bind]
  refine (bindAll_ends p.sets d).imp ?_
  rintro groups d' ⟨rfl, h⟩
  refine ⟨rfl, ⟨rfl, rfl, rfl, ?_, ?_⟩, h.trans ⟨rfl, rfl, by simp⟩⟩
  · exact List.ext_getElem (by simp [numberedGroups]) (by simp [numberedGroups])
  · exact List.ext_getElem (by simp [numberedGroups]) (by simp [numberedGroups])

theorem create_ends (p : Program) (d : Device) {E : Device → Prop} :
    (create p : Action Device ε Kernel).Ends d
      (fun k d' => k.Implements p ∧ d.Issues k.buildCalls d') E :=
  (create_numbered p d).imp fun _ _ h => h.2

end Kernel

theorem dispatchSize_eq {extent group : UInt32} (hgroup : 0 < group.toNat)
    (h : extent.toNat + group.toNat < UInt32.size) :
    ∃ n, dispatchSize extent group = .ok n ∧ n.toNat = extent.toNat ⌈/⌉ group.toNat := by
  have hraised : (extent + group).toNat = extent.toNat + group.toNat := by
    rw [UInt32.toNat_add, Nat.mod_eq_of_lt h]
  have hone : (1 : UInt32) ≤ extent + group := by
    rw [UInt32.le_iff_toNat_le, hraised]
    exact Nat.le_trans hgroup (Nat.le_add_left _ _)
  have hzero : group ≠ 0 := fun h0 => by simp [h0] at hgroup
  refine ⟨(extent + group - 1) / group, ?_, ?_⟩
  · simp only [dispatchSize, Checked.add32, Checked.sub32, Checked.div32, if_pos h, if_pos hone,
      if_neg hzero, bind, Except.bind]
  · rw [UInt32.toNat_div, UInt32.toNat_sub_of_le _ _ hone, hraised, Nat.ceilDiv_eq_add_pred_div]
    rfl

theorem dispatchSize_overflow {extent group : UInt32}
    (h : UInt32.size ≤ extent.toNat + group.toNat) :
    dispatchSize extent group = .error .additionOverflow := by
  rw [dispatchSize, Checked.add32, if_neg (Nat.not_lt.mpr h)]
  rfl

theorem isLeast_ceilDiv (n : Nat) {d : Nat} (hd : 0 < d) :
    IsLeast {k : Nat | n ≤ k * d} (n ⌈/⌉ d) := by
  simpa only [Nat.mul_comm] using (gc_mul_ceilDiv hd).isLeast_l (a := n)

theorem dispatchSize_cases (extent : UInt32) {group : UInt32} (hgroup : 0 < group.toNat) :
    ∃ n : UInt32, IsLeast {k : Nat | extent.toNat ≤ k * group.toNat} n.toNat ∧
      dispatchSize extent group =
        if extent.toNat + group.toNat < UInt32.size then .ok n else .error .additionOverflow := by
  have hleast := isLeast_ceilDiv extent.toNat hgroup
  have hcount : extent.toNat ⌈/⌉ group.toNat < UInt32.size :=
    (hleast.2 (Nat.le_mul_of_pos_right _ hgroup)).trans_lt extent.toNat_lt
  by_cases h : extent.toNat + group.toNat < UInt32.size
  · obtain ⟨n, hn, hnat⟩ := dispatchSize_eq hgroup h
    exact ⟨n, hnat ▸ hleast, by rw [hn, if_pos h]⟩
  · refine ⟨.ofNat (extent.toNat ⌈/⌉ group.toNat), ?_, ?_⟩
    · rw [UInt32.toNat_ofNat_of_lt' hcount]
      exact hleast
    · rw [dispatchSize_overflow (Nat.le_of_not_lt h), if_neg h]

structure Dispatch where
  pipeline : Option Pipeline
  bound : UInt32 → Option BindGroup
  x : UInt32
  y : UInt32
  z : UInt32

def Dispatch.resource (d : Dispatch) (group binding : UInt32) : Option Resource :=
  (d.bound group).bind fun g =>
    (g.entries.find? fun e => e.binding = binding).map GroupEntry.resource

def dispatches (pipeline : Option Pipeline) (bound : UInt32 → Option BindGroup) :
    List PassCommand → List Dispatch
  | [] => []
  | .setPipeline p :: rest => dispatches (some p) bound rest
  | .setBindGroup i g :: rest =>
    dispatches pipeline (fun j => if j = i then some g else bound j) rest
  | .debugMarker _ :: rest => dispatches pipeline bound rest
  | .dispatch x y z :: rest => ⟨pipeline, bound, x, y, z⟩ :: dispatches pipeline bound rest

def Work.dispatches : Work → List Dispatch
  | .pass commands => Gpu.dispatches none (fun _ => none) commands
  | .copy _ => []

def Encoder.dispatches (e : Encoder) : List Dispatch := e.work.flatMap Work.dispatches

namespace Kernel

def setGroups : List BindGroup → Nat → (UInt32 → Option BindGroup) → UInt32 → Option BindGroup
  | [], _, bound => bound
  | g :: groups, first, bound =>
    setGroups groups (first + 1) fun j => if j = .ofNat first then some g else bound j

def dispatch (k : Kernel) (x y z : UInt32) : Dispatch :=
  ⟨some k.pipeline, setGroups k.groups 0 fun _ => none, x, y, z⟩

theorem dispatches_setGroups (groups : List BindGroup) (first : Nat) (pipeline : Option Pipeline)
    (bound : UInt32 → Option BindGroup) (rest : List PassCommand) :
    dispatches pipeline bound
        ((groups.mapIdx fun i g => .setBindGroup (.ofNat (i + first)) g) ++ rest) =
      dispatches pipeline (setGroups groups first bound) rest := by
  induction groups generalizing first bound with
  | nil => rfl
  | cons g groups ih =>
    have hshift (i : Nat) : i + 1 + first = i + (first + 1) := by omega
    rw [List.mapIdx_cons, List.cons_append, dispatches, Nat.zero_add]
    simp only [hshift, ih]
    rfl

theorem dispatches_passCommands (k : Kernel) (x y z : UInt32) :
    (Work.pass (k.passCommands x y z)).dispatches = [k.dispatch x y z] :=
  dispatches_setGroups k.groups 0 (some k.pipeline) (fun _ => none)
    [.debugMarker k.entryPoint, .dispatch x y z]

theorem setGroups_eq {groups : List BindGroup} {first : Nat}
    (h : first + groups.length ≤ UInt32.size) (bound : UInt32 → Option BindGroup) (j : UInt32) :
    setGroups groups first bound j =
      if j.toNat < first then bound j else (groups[j.toNat - first]?).or (bound j) := by
  induction groups generalizing first bound with
  | nil => simp [setGroups]
  | cons g groups ih =>
    rw [List.length_cons] at h
    have hfirst : (UInt32.ofNat first).toNat = first := UInt32.toNat_ofNat_of_lt' (by omega)
    have hj : j = .ofNat first ↔ j.toNat = first := by rw [← UInt32.toNat_inj, hfirst]
    rw [setGroups, ih (by omega)]
    simp only [hj]
    rcases Nat.lt_trichotomy j.toNat first with hlt | heq | hgt
    · rw [if_pos (by omega), if_pos hlt, if_neg (by omega)]
    · simp [heq]
    · obtain ⟨i, hi⟩ : ∃ i, j.toNat = first + 1 + i := ⟨j.toNat - (first + 1), by omega⟩
      have hindex : first + 1 + i - first = i + 1 := by omega
      rw [hi, if_neg (by omega), if_neg (by omega), if_neg (by omega), hindex,
        Nat.add_sub_cancel_left, List.getElem?_cons_succ]

end Kernel

theorem Kernel.Implements.resource_eq {k : Kernel} {p : Program} (h : k.Implements p)
    (hsets : p.sets.length ≤ UInt32.size) (x y z group binding : UInt32) :
    (k.dispatch x y z).resource group binding = (p.sets[group.toNat]?).bind fun set =>
      (set.entries.find? fun e => e.binding = binding).map GroupEntry.resource := by
  have hlength : k.groups.length = p.sets.length := by
    simpa only [List.length_map] using congrArg List.length h.entries_eq
  have hbound : (k.dispatch x y z).bound group = k.groups[group.toNat]? := by
    change setGroups k.groups 0 _ group = _
    rw [setGroups_eq (by omega), if_neg (Nat.not_lt_zero _), Nat.sub_zero, Option.or_none]
  have hentries := congrArg (·[group.toNat]?) h.entries_eq
  simp only [List.getElem?_map] at hentries
  rw [Dispatch.resource, hbound]
  cases hgroup : k.groups[group.toNat]? <;> cases hset : p.sets[group.toNat]? <;>
    simp_all

def Command.written (id : Nat) : Command → Option (Nat × Array UInt8)
  | .writeBuffer buffer offset bytes => if buffer = id then some (offset, bytes) else none
  | _ => none

def lastWrite (id : Nat) (calls : List Command) : Option (Nat × Array UInt8) :=
  calls.reverse.findSome? (Command.written id)

theorem lastWrite_append (id : Nat) (calls more : List Command) :
    lastWrite id (calls ++ more) = (lastWrite id more).or (lastWrite id calls) := by
  simp [lastWrite, List.findSome?_append]

theorem lastWrite_eq_none {id : Nat} {calls : List Command}
    (h : ∀ c ∈ calls, c.written id = none) : lastWrite id calls = none := by
  simpa [lastWrite, List.findSome?_eq_none_iff] using h

theorem lastWrite_writeBuffer (id : Nat) (bytes : Array UInt8) :
    lastWrite id [.writeBuffer id 0 bytes] = some (0, bytes) := by
  simp [lastWrite, Command.written]

theorem lastWrite_passCalls (id encoder : Nat) (label : String) (commands : List PassCommand) :
    lastWrite id (Device.passCalls encoder label commands) = none := by
  apply lastWrite_eq_none
  intro c hc
  simp only [Device.passCalls, List.cons_append, List.mem_cons, List.mem_append, List.mem_map,
    List.not_mem_nil, or_false] at hc
  rcases hc with rfl | ⟨command, -, rfl⟩ | rfl <;> rfl

end AdaptiveResolution.Gpu
