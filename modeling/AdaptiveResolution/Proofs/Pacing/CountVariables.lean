import AdaptiveResolution.Proofs.Pacing.Precedence
import AdaptiveResolution.Proofs.Text.Numerals

namespace AdaptiveResolution.Pacing

namespace Variable

inductive Counts : Variable → Nat → Prop where
  | targetRate : Counts targetRate (UInt32.size - 1)
  | window : Counts window (UInt64.size - 1)

def earlier (v : Variable) : List Variable := all.takeWhile (· ≠ v)

def Reported (lookup : String → Option String) (v : Variable) : Prop :=
  ∃ value, Config.ofLookup lookup = .error (.invalidVariable v value)

end Variable

def Overrides.count (o : Overrides) : Variable → Option Nat
  | .targetRate => o.targetRate.map UInt32.toNat
  | .window => o.window.map UInt64.toNat
  | .scaleFloor | .scaleCeiling | .threshold => none

def Config.Follows (config : Config) (v : Variable) (n : Nat) : Prop :=
  match v with
  | .targetRate => config.targetFrameTime.toNat = 10000000 / n
  | .window => config.windowSize.toNat = n
  | .scaleFloor | .scaleCeiling | .threshold => False

section

variable {lookup : String → Option String} {v : Variable} {text : String} {greatest n : Nat}

theorem Overrides.apply_follows {o : Overrides} (h : o.count v = some n) (config : Config) :
    (o.apply config).Follows v n := by
  cases v with
  | targetRate =>
    obtain ⟨rate, hrate, rfl⟩ := Option.map_eq_some_iff.mp h
    have hle : rate.toNat ≤ UInt32.size - 1 := Nat.le_sub_one_of_lt rate.toNat_lt_size
    have hset := withRefreshRate_ofNat config hle
    rw [UInt32.ofNat_toNat] at hset
    unfold Overrides.apply
    simp only [hrate, hset, Config.Follows]
    exact UInt64.toNat_ofNat_of_lt' ((Nat.div_le_self _ _).trans_lt (by decide))
  | window =>
    obtain ⟨length, hlength, rfl⟩ := Option.map_eq_some_iff.mp h
    simp only [Overrides.apply, Config.Follows, hlength, Option.getD_some]
  | scaleFloor => contradiction
  | scaleCeiling => contradiction
  | threshold => contradiction

theorem Variable.all_eq (v : Variable) :
    ∃ later, Variable.all = v.earlier ++ v :: later ∧ v ∉ later := by
  cases v <;> exact ⟨_, rfl, by decide⟩

theorem validate_ne_invalidVariable (config : Config) (v : Variable) (value : String) :
    config.validate ≠ .error (.invalidVariable v value) := by
  unfold Config.validate
  split_ifs <;> simp

theorem reported_iff_firstMisread :
    v.Reported lookup ↔ ∃ value, firstMisread lookup = some (v, value) := by
  unfold Variable.Reported
  rw [ofLookup_eq]
  cases hfirst : firstMisread lookup with
  | some first => simp [Prod.ext_iff]
  | none =>
    cases hvalidate : (overridden lookup).validate with
    | ok => simp [Except.map]
    | error e =>
      have hne := validate_ne_invalidVariable (overridden lookup)
      rw [hvalidate] at hne
      simpa [Except.map] using fun value h => hne v value (congrArg _ h)

theorem reported_iff_misread (hearlier : ∀ w ∈ v.earlier, ¬w.Reported lookup) :
    v.Reported lookup ↔ ∃ value, v.misread lookup = some value := by
  obtain ⟨later, hall, hlater⟩ := v.all_eq
  have hsplit : firstMisread lookup =
      (v.earlier.findSome? fun w => (w.misread lookup).map (w, ·)).or
        ((v :: later).findSome? fun w => (w.misread lookup).map (w, ·)) := by
    rw [firstMisread, hall, List.findSome?_append]
  cases hfirst : v.earlier.findSome? fun w => (w.misread lookup).map (w, ·) with
  | some first =>
    -- The first one misread is among the earlier ones, and would be reported.
    obtain ⟨w, hw, hmisread⟩ := List.exists_of_findSome?_eq_some hfirst
    obtain ⟨value, -, rfl⟩ := Option.map_eq_some_iff.mp hmisread
    refine absurd (reported_iff_firstMisread.mpr ⟨value, ?_⟩) (hearlier w hw)
    rw [hsplit, hfirst, Option.some_or]
  | none =>
    rw [reported_iff_firstMisread, hsplit, hfirst, Option.none_or, List.findSome?_cons]
    cases hmisread : v.misread lookup with
    | some value => simp
    | none =>
      simp only [Option.map_none, reduceCtorEq, exists_false, iff_false, not_exists]
      intro value hvalue
      obtain ⟨w, hw, hw'⟩ := List.exists_of_findSome?_eq_some hvalue
      obtain ⟨_, -, heq⟩ := Option.map_eq_some_iff.mp hw'
      cases heq
      exact hlater hw

theorem Variable.Counts.reads_iff (hv : v.Counts greatest) (s : List Char) :
    v.reads (Text.trim s) ↔ ∃ n ≤ greatest, Text.Writes s n := by
  cases hv <;>
    simp only [Variable.reads, Option.isSome_iff_exists, Text.readNatural_trim_iff, and_comm]

theorem Variable.Counts.count_readable (hv : v.Counts greatest) (hset : lookup v.name = some text)
    (hwrites : Text.Writes text.toList n) (hn : n ≤ greatest) :
    (readable lookup).count v = some n := by
  have hread : Text.readNatural greatest (Text.trim text.toList) = some n :=
    Text.readNatural_trim_iff.mpr ⟨hwrites, hn⟩
  cases hv with
  | targetRate =>
    have hnat : (UInt32.ofNat n).toNat = n :=
      UInt32.toNat_ofNat_of_lt' (hn.trans_lt (by decide))
    simp only [Overrides.count, readable, Variable.setting, hset, Option.bind_some, hread,
      Option.map_some, hnat]
  | window =>
    have hnat : (UInt64.ofNat n).toNat = n :=
      UInt64.toNat_ofNat_of_lt' (hn.trans_lt (by decide))
    simp only [Overrides.count, readable, Variable.setting, hset, Option.bind_some, hread,
      Option.map_some, hnat]

/-- A variable that counts something is reported exactly if its text is not, between blanks, a
numeral for a number in range; any number of leading zeros makes no difference. If no variable is
reported, that number is the one read, and the settings that are checked follow it. In particular
each number in range can be given by its decimal digits. -/
theorem count_variable_accepted_iff (hv : v.Counts greatest) (hset : lookup v.name = some text)
    (hearlier : ∀ w ∈ v.earlier, ¬w.Reported lookup) :
    (¬v.Reported lookup ↔ ∃ n ≤ greatest, Text.Writes text.toList n) ∧
      (∀ n ≤ greatest, Text.Writes text.toList n → (∀ w : Variable, ¬w.Reported lookup) →
        ∃ o, Overrides.read lookup = .ok o ∧ o.count v = some n ∧ (o.apply {}).Follows v n ∧
          Config.ofLookup lookup = (o.apply {}).validate.map fun _ => o.apply {}) ∧
      ∀ n ≤ greatest, ∀ before after : String,
        (∀ c ∈ before.toList ++ after.toList, Text.isBlank c) →
          text = before ++ Nat.repr n ++ after →
            ¬v.Reported lookup ∧ Text.Writes text.toList n := by
  have haccepted : ¬v.Reported lookup ↔ ∃ n ≤ greatest, Text.Writes text.toList n := by
    rw [reported_iff_misread hearlier, ← hv.reads_iff]
    simp [Variable.misread, hset]
  refine ⟨haccepted, fun n hn hwrites hnone => ?_, fun n hn before after hblank htext => ?_⟩
  · have hfirst : firstMisread lookup = none := by
      rw [Option.eq_none_iff_forall_ne_some]
      exact fun first hfirst => hnone first.1 (reported_iff_firstMisread.mpr ⟨first.2, hfirst⟩)
    have hcount := hv.count_readable hset hwrites hn
    refine ⟨readable lookup, ?_, hcount, Overrides.apply_follows hcount {}, ?_⟩
    · rw [Overrides.read_eq, hfirst]
    · rw [ofLookup_eq, hfirst, readable_apply]
  · have hwrites : Text.Writes text.toList n := by
      rw [htext, String.toList_append, String.toList_append]
      exact Text.writes_repr n hblank
    exact ⟨haccepted.mpr ⟨n, hn, hwrites⟩, hwrites⟩

end

def padded : String → Option String := fun name =>
  [("DYNRES_TARGET_FPS", "\t+000000000000120\u2003"), ("DYNRES_WINDOW", "\u3000 16\n")].lookup name

theorem count_variable_accepted_iff_padded :
    (∀ w ∈ Variable.window.earlier, ¬w.Reported padded) ∧ ¬Variable.window.Reported padded ∧
      ∃ o, Overrides.read padded = .ok o ∧ o.count .window = some 16 := by
  have hconfig : Config.ofLookup padded = .ok { targetFrameTime := 83333, windowSize := 16 } := by
    decide +kernel
  have hnone : ∀ w : Variable, ¬w.Reported padded := by
    rintro w ⟨value, hreported⟩
    rw [hconfig] at hreported
    cases hreported
  have hset : padded Variable.window.name = some "\u3000 16\n" := rfl
  have h := count_variable_accepted_iff .window hset fun w _ => hnone w
  have hblank : ∀ c ∈ "\u3000 ".toList ++ "\n".toList, Text.isBlank c :=
    List.all_eq_true.mp (by decide)
  obtain ⟨hwindow, hwrites⟩ := h.2.2 16 (by decide) _ _ hblank rfl
  obtain ⟨o, ho, hcount, -⟩ := h.2.1 16 (by decide) hwrites hnone
  exact ⟨fun w _ => hnone w, hwindow, o, ho, hcount⟩

end AdaptiveResolution.Pacing
