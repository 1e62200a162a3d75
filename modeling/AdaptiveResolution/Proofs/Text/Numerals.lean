import AdaptiveResolution.Text.Blank
import AdaptiveResolution.Text.Numeral
import Mathlib.Data.List.DropRight
import Mathlib.Data.Nat.Digits.Defs

namespace AdaptiveResolution.Text

def placeValue (digits : List Char) : Nat :=
  Nat.ofDigits 10 (digits.map fun c => c.toNat - '0'.toNat).reverse

inductive Numeral : List Char → Nat → Prop where
  | mk {sign digits : List Char} (hsign : sign = [] ∨ sign = ['+']) (hne : digits ≠ [])
      (hdigits : ∀ c ∈ digits, c.isDigit) : Numeral (sign ++ digits) (placeValue digits)

def Writes (s : List Char) (n : Nat) : Prop :=
  ∃ before numeral after, s = before ++ numeral ++ after ∧ (∀ c ∈ before ++ after, isBlank c) ∧
    Numeral numeral n

variable {c : Char} {s digits before after : List Char} {greatest n : Nat}

theorem digit?_eq (c : Char) :
    digit? c = if c.isDigit then some (c.toNat - '0'.toNat) else none := by
  have hiff : '0' ≤ c ∧ c ≤ '9' ↔ c.isDigit = true := by
    rw [Char.isDigit, Bool.and_eq_true, decide_eq_true_iff, decide_eq_true_iff]
    rfl
  simp only [digit?, hiff]

theorem isDigit_eq (c : Char) : isDigit c = c.isDigit := by
  rw [isDigit, digit?_eq]
  cases c.isDigit <;> rfl

theorem placeValue_eq (digits : List Char) : placeValue digits = Nat.ofDigitChars 10 digits 0 := by
  rw [placeValue, Nat.ofDigits_eq_foldr, List.foldr_reverse, List.foldl_map,
    Nat.ofDigitChars_eq_foldl]
  simp only [Nat.cast_id, Nat.add_comm]

theorem valueOf_eq (h : ∀ c ∈ digits, c.isDigit) : valueOf digits = placeValue digits := by
  rw [placeValue_eq, Nat.ofDigitChars_eq_foldl, valueOf]
  apply List.foldl_ext
  intro value c hc
  rw [digit?_eq, if_pos (h c hc), Option.getD_some]

theorem not_isBlank_of_isDigit (h : c.isDigit) : ¬isBlank c := by
  simp only [Char.isDigit, Bool.and_eq_true, decide_eq_true_eq, UInt32.le_iff_toNat_le,
    ge_iff_le] at h
  have hlow : 48 ≤ c.toNat := h.1
  have hhigh : c.toNat ≤ 57 := h.2
  simp [isBlank]
  omega

theorem Numeral.not_isBlank (h : Numeral s n) : ∀ c ∈ s, ¬isBlank c := by
  intro c hc
  cases h with
  | mk hsign hne hdigits =>
    rcases List.mem_append.mp hc with hc | hc
    · rcases hsign with rfl | rfl
      · contradiction
      · rw [List.mem_singleton.mp hc]
        decide
    · exact not_isBlank_of_isDigit (hdigits c hc)

theorem Numeral.ne_nil (h : Numeral s n) : s ≠ [] := by
  cases h with
  | mk hsign hne hdigits => exact List.append_ne_nil_of_right_ne_nil _ hne

theorem readDigits_iff :
    (if digits ≠ [] ∧ digits.all isDigit ∧ valueOf digits ≤ greatest then some (valueOf digits)
      else none) = some n ↔
      (digits ≠ [] ∧ (∀ c ∈ digits, c.isDigit) ∧ placeValue digits = n) ∧ n ≤ greatest := by
  have hall : digits.all isDigit ↔ ∀ c ∈ digits, c.isDigit := by
    simp only [List.all_eq_true, isDigit_eq]
  rw [Option.ite_none_right_eq_some, hall]
  constructor
  · rintro ⟨⟨hne, hdigits, hle⟩, hn⟩
    cases hn
    exact ⟨⟨hne, hdigits, (valueOf_eq hdigits).symm⟩, hle⟩
  · rintro ⟨⟨hne, hdigits, rfl⟩, hle⟩
    rw [valueOf_eq hdigits]
    exact ⟨⟨hne, hdigits, hle⟩, rfl⟩

theorem readNatural_eq_some_iff :
    readNatural greatest s = some n ↔ Numeral s n ∧ n ≤ greatest := by
  unfold readNatural
  dsimp only
  rw [readDigits_iff]
  apply and_congr_left'
  constructor
  · split
    · rintro ⟨hne, hdigits, rfl⟩
      exact .mk (.inr rfl) hne hdigits
    · rintro ⟨hne, hdigits, rfl⟩
      exact .mk (.inl rfl) hne hdigits
  · intro h
    cases h with
    | @mk sign digits hsign hne hdigits =>
      rcases hsign with rfl | rfl
      · -- A digit is no sign, so nothing was taken off.
        rw [List.nil_append]
        split
        · exact absurd (hdigits '+' List.mem_cons_self) (by decide)
        · exact ⟨hne, hdigits, rfl⟩
      · exact ⟨hne, hdigits, rfl⟩

theorem dropWhile_append_of_not_isBlank {rest : List Char} (hs : ∀ c ∈ s, ¬isBlank c)
    (hne : s ≠ []) : (s ++ rest).dropWhile isBlank = s ++ rest := by
  obtain ⟨c, s, rfl⟩ := List.exists_cons_of_ne_nil hne
  rw [List.cons_append, List.dropWhile_cons_of_neg (hs c List.mem_cons_self)]

theorem trim_eq (hblank : ∀ c ∈ before ++ after, isBlank c) (hs : ∀ c ∈ s, ¬isBlank c)
    (hne : s ≠ []) : trim (before ++ s ++ after) = s := by
  obtain ⟨hbefore, hafter⟩ := List.forall_mem_append.mp hblank
  have hafter' : ∀ c ∈ after.reverse, isBlank c := fun c hc => hafter c (List.mem_reverse.mp hc)
  have hs' : ∀ c ∈ s.reverse, ¬isBlank c := fun c hc => hs c (List.mem_reverse.mp hc)
  have hback : s.reverse.dropWhile isBlank = s.reverse := by
    rw [← List.append_nil s.reverse]
    exact dropWhile_append_of_not_isBlank hs' (List.reverse_ne_nil_iff.mpr hne)
  rw [trim, List.append_assoc, List.dropWhile_append_of_pos hbefore,
    dropWhile_append_of_not_isBlank hs hne, List.reverse_append,
    List.dropWhile_append_of_pos hafter', hback, List.reverse_reverse]

theorem exists_trim (s : List Char) :
    ∃ before after, s = before ++ trim s ++ after ∧ ∀ c ∈ before ++ after, isBlank c := by
  refine ⟨s.takeWhile isBlank, (s.dropWhile isBlank).rtakeWhile isBlank, ?_, ?_⟩
  · change s = _ ++ (s.dropWhile isBlank).rdropWhile isBlank ++ _
    rw [List.append_assoc, List.rdropWhile_append_rtakeWhile, List.takeWhile_append_dropWhile]
  · exact List.forall_mem_append.mpr
      ⟨fun c hc => List.mem_takeWhile_imp hc, fun c hc => List.mem_rtakeWhile_imp hc⟩

theorem readNatural_trim_iff :
    readNatural greatest (trim s) = some n ↔ Writes s n ∧ n ≤ greatest := by
  rw [readNatural_eq_some_iff]
  apply and_congr_left'
  constructor
  · intro hnumeral
    obtain ⟨before, after, hs, hblank⟩ := exists_trim s
    exact ⟨before, trim s, after, hs, hblank, hnumeral⟩
  · rintro ⟨before, numeral, after, rfl, hblank, hnumeral⟩
    rwa [trim_eq hblank hnumeral.not_isBlank hnumeral.ne_nil]

example : ["+", "-0", "1 2", "\u0661", "18446744073709551616"].map
    (fun s => readNatural (UInt64.size - 1) (trim s.toList)) = List.replicate 5 none := by
  decide

theorem writes_repr (n : Nat) (hblank : ∀ c ∈ before ++ after, isBlank c) :
    Writes (before ++ (Nat.repr n).toList ++ after) n := by
  have hdigits : ∀ c ∈ Nat.toDigits 10 n, c.isDigit := fun c hc =>
    Nat.isDigit_of_mem_toDigits (by decide) (by decide) hc
  have hnumeral := Numeral.mk (.inl rfl) Nat.toDigits_ne_nil hdigits
  rw [placeValue_eq, Nat.ofDigitChars_ten_toDigits] at hnumeral
  rw [Nat.toList_repr]
  exact ⟨before, _, after, rfl, hblank, hnumeral⟩

end AdaptiveResolution.Text
