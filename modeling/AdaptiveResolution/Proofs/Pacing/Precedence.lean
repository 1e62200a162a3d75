import AdaptiveResolution.Pacing.Overrides
import AdaptiveResolution.Proofs.Pacing.Runs

namespace AdaptiveResolution.Pacing

namespace Variable

def all : List Variable := [targetRate, window, scaleFloor, scaleCeiling, threshold]

def reads : Variable → List Char → Bool
  | targetRate, s => (Text.readNatural (UInt32.size - 1) s).isSome
  | window, s => (Text.readNatural (UInt64.size - 1) s).isSome
  | scaleFloor, s | scaleCeiling, s | threshold, s => (Binary.read s : Option Double).isSome

def misread (lookup : String → Option String) (v : Variable) : Option String :=
  (lookup v.name).filter fun value => !v.reads (Text.trim value.toList)

def setting {α : Type} (lookup : String → Option String) (v : Variable)
    (read : List Char → Option α) : Option α :=
  (lookup v.name).bind fun value => read (Text.trim value.toList)

end Variable

def firstMisread (lookup : String → Option String) : Option (Variable × String) :=
  Variable.all.findSome? fun v => (v.misread lookup).map (v, ·)

def readable (lookup : String → Option String) : Overrides where
  targetRate :=
    (Variable.targetRate.setting lookup (Text.readNatural (UInt32.size - 1))).map UInt32.ofNat
  window := (Variable.window.setting lookup (Text.readNatural (UInt64.size - 1))).map UInt64.ofNat
  scaleFloor := Variable.scaleFloor.setting lookup Binary.read
  scaleCeiling := Variable.scaleCeiling.setting lookup Binary.read
  threshold := Variable.threshold.setting lookup Binary.read

def overridden (lookup : String → Option String) : Config :=
  let rate := Variable.targetRate.setting lookup (Text.readNatural (UInt32.size - 1))
  let window := Variable.window.setting lookup (Text.readNatural (UInt64.size - 1))
  let c : Config := {}
  { targetFrameTime := (rate.map fun hz => UInt64.ofNat (10000000 / hz)).getD c.targetFrameTime
    windowSize := (window.map UInt64.ofNat).getD c.windowSize
    scaleFloor := (Variable.scaleFloor.setting lookup Binary.read).getD c.scaleFloor
    scaleCeiling := (Variable.scaleCeiling.setting lookup Binary.read).getD c.scaleCeiling
    threshold := (Variable.threshold.setting lookup Binary.read).getD c.threshold }

theorem readNatural_le {greatest n : Nat} {s : List Char}
    (h : Text.readNatural greatest s = some n) : n ≤ greatest := by
  unfold Text.readNatural at h
  dsimp only at h
  split_ifs at h with hread
  cases h
  exact hread.2.2

theorem withRefreshRate_ofNat (c : Config) {rate : Nat} (hrate : rate ≤ UInt32.size - 1) :
    c.withRefreshRate (UInt32.ofNat rate) =
      { c with targetFrameTime := .ofNat (10000000 / rate) } := by
  have hnat : (UInt32.ofNat rate).toNat = rate :=
    UInt32.toNat_ofNat_of_lt' (hrate.trans_lt (by decide))
  unfold Config.withRefreshRate
  congr 1
  split_ifs with hzero
  · rw [← hnat, hzero]
    rfl
  · apply UInt64.toNat_inj.mp
    rw [UInt64.toNat_div, UInt32.toNat_toUInt64, hnat, UInt64.toNat_ofNat_of_lt']
    · rfl
    · exact (Nat.div_le_self _ _).trans_lt (by decide)

section

variable {lookup : String → Option String}

theorem readVariable_eq {α : Type} (lookup : String → Option String) (v : Variable)
    {read : List Char → Option α} (hreads : ∀ s, v.reads s = (read s).isSome) :
    readVariable lookup v read =
      match v.misread lookup with
      | some value => .error (.invalidVariable v value)
      | none => .ok (v.setting lookup read) := by
  unfold readVariable Variable.misread Variable.setting
  cases lookup v.name with
  | none => rfl
  | some value =>
    simp only [Option.filter_some, Option.bind_some, hreads]
    cases read (Text.trim value.toList) <;> rfl

theorem Overrides.read_eq (lookup : String → Option String) :
    Overrides.read lookup =
      match firstMisread lookup with
      | some (v, value) => .error (.invalidVariable v value)
      | none => .ok (readable lookup) := by
  have hrate := readVariable_eq lookup .targetRate fun _ => rfl
  have hwindow := readVariable_eq lookup .window fun _ => rfl
  have hfloor := readVariable_eq lookup .scaleFloor fun _ => rfl
  have hceiling := readVariable_eq lookup .scaleCeiling fun _ => rfl
  have hthreshold := readVariable_eq lookup .threshold fun _ => rfl
  unfold Overrides.read
  rw [hrate, hwindow, hfloor, hceiling, hthreshold]
  simp only [firstMisread, Variable.all, List.findSome?_cons, List.findSome?_nil]
  -- Both sides stop at the first variable that is misread.
  cases Variable.targetRate.misread lookup with
  | some value => rfl
  | none =>
  cases Variable.window.misread lookup with
  | some value => rfl
  | none =>
  cases Variable.scaleFloor.misread lookup with
  | some value => rfl
  | none =>
  cases Variable.scaleCeiling.misread lookup with
  | some value => rfl
  | none =>
  cases Variable.threshold.misread lookup with
  | some value => rfl
  | none => rfl

theorem readable_apply (lookup : String → Option String) :
    (readable lookup).apply {} = overridden lookup := by
  unfold readable Overrides.apply overridden
  cases hrate : Variable.targetRate.setting lookup (Text.readNatural (UInt32.size - 1)) with
  | none => rfl
  | some hz =>
    obtain ⟨value, -, hread⟩ := Option.bind_eq_some_iff.mp hrate
    simp only [Option.map_some, withRefreshRate_ofNat _ (readNatural_le hread), Option.getD_some]

theorem ofLookup_eq (lookup : String → Option String) :
    Config.ofLookup lookup =
      match firstMisread lookup with
      | some (v, value) => .error (.invalidVariable v value)
      | none => (overridden lookup).validate.map fun _ => overridden lookup := by
  unfold Config.ofLookup
  rw [Overrides.read_eq]
  cases firstMisread lookup with
  | some first => rfl
  | none =>
    change ((readable lookup).apply {}).validate.bind _ = _
    rw [readable_apply]
    cases (overridden lookup).validate <;> rfl

theorem ofLookup_congr {lookup' : String → Option String}
    (h : ∀ v : Variable, lookup v.name = lookup' v.name) :
    Config.ofLookup lookup = Config.ofLookup lookup' := by
  have hmisread : firstMisread lookup = firstMisread lookup' := by
    simp only [firstMisread, Variable.misread, h]
  have hsettings : overridden lookup = overridden lookup' := by
    simp only [overridden, Variable.setting, h]
  rw [ofLookup_eq, ofLookup_eq, hmisread, hsettings]

theorem ofLookup_validate {config : Config} (h : Config.ofLookup lookup = .ok config) :
    config.validate = .ok () := by
  rw [ofLookup_eq] at h
  split at h
  · contradiction
  · cases hvalidate : (overridden lookup).validate with
    | error e => rw [hvalidate] at h; contradiction
    | ok =>
      rw [hvalidate] at h
      cases h
      exact hvalidate

end

theorem new_eq {config : Config} (hv : config.validate = .ok ()) :
    Controller.new config =
      if config.windowSize.toNat < 2 ^ 60 then
        .done (Controller.fresh config (Controller.startScale config config.scaleCeiling))
      else .trapped .capacityOverflow := by
  rw [Controller.new, Controller.withScale_eq ((config.validate_eq_ok_iff).mp hv)]
  congr 1
  rw [eq_iff_iff, Nat.shiftLeft_eq]
  omega

theorem ofEnvironment_outcome {σ : Type} (environment : Environment) (s : σ) :
    (Config.ofEnvironment environment s).outcome =
      .ofExcept (Config.ofLookup environment.text) := by
  unfold Config.ofEnvironment
  simp only [Action.bind_apply, Action.ofOutcome]
  cases Config.ofLookup environment.text <;> rfl

/-- The first variable that cannot be read decides the result. If there is none the check decides
it, on the default settings with the variables that are set in their places, and nothing else plays
a part. Settings that pass make a controller unless their window is longer than an array can be. -/
theorem overrides_by_precedence (lookup : String → Option String) :
    (Config.ofLookup lookup =
        match firstMisread lookup with
        | some (v, value) => .error (.invalidVariable v value)
        | none => (overridden lookup).validate.map fun _ => overridden lookup) ∧
      (∀ lookup' : String → Option String, (∀ v : Variable, lookup' v.name = lookup v.name) →
        Config.ofLookup lookup' = Config.ofLookup lookup) ∧
      (∀ environment : Environment,
        (∀ name, lookup name = (environment name).bind String.fromUTF8?) → ∀ (σ : Type) (s : σ),
          (Config.ofEnvironment environment s).outcome = .ofExcept (Config.ofLookup lookup)) ∧
      ∀ config, Config.ofLookup lookup = .ok config →
        (config.windowSize.toNat < 2 ^ 60 →
          ∃ c, Controller.new config = .done c ∧ c.config = config) ∧
        (2 ^ 60 ≤ config.windowSize.toNat →
          Controller.new config = .trapped .capacityOverflow) := by
  refine ⟨ofLookup_eq lookup, fun lookup' h => ofLookup_congr h, ?_, fun config hconfig => ?_⟩
  · intro environment htext σ s
    rw [ofEnvironment_outcome, show lookup = environment.text from funext htext]
  · have hnew := new_eq (ofLookup_validate hconfig)
    exact ⟨fun hfits => ⟨_, hnew.trans (if_pos hfits), rfl⟩,
      fun hlong => hnew.trans (if_neg (Nat.not_lt.mpr hlong))⟩

def hundredTwenty : String → Option String := fun name =>
  [("DYNRES_TARGET_FPS", "120"), ("DYNRES_WINDOW", "16"), ("DYNRES_SCALE_FLOOR", "0.25"),
    ("DYNRES_THRESHOLD", " 0.1 ")].lookup name

theorem overrides_by_precedence_hundred_twenty :
    let config : Config :=
      { targetFrameTime := 83333
        windowSize := 16
        scaleFloor := .ofDecimal false 25 (-2)
        threshold := .ofDecimal false 1 (-1) }
    Config.ofLookup hundredTwenty = .ok config ∧
      ∃ c, Controller.new config = .done c ∧ c.config = config := by
  intro config
  have hconfig : Config.ofLookup hundredTwenty = .ok config := by decide +kernel
  exact ⟨hconfig, ((overrides_by_precedence hundredTwenty).2.2.2 config hconfig).1 (by decide)⟩

def overlongWindow : String → Option String := fun name =>
  [("DYNRES_TARGET_FPS", "10000000"), ("DYNRES_WINDOW", "1152921504606846976")].lookup name

theorem overlong_window_passes :
    let config : Config := { targetFrameTime := 1, windowSize := 1152921504606846976 }
    Config.ofLookup overlongWindow = .ok config ∧ ∀ c, Controller.new config ≠ .done c := by
  intro config
  have hconfig : Config.ofLookup overlongWindow = .ok config := by decide +kernel
  refine ⟨hconfig, fun c hc => ?_⟩
  rw [new_eq (ofLookup_validate hconfig), if_neg (by decide)] at hc
  cases hc

end AdaptiveResolution.Pacing
