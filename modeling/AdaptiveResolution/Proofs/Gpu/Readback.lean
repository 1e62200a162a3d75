import Mathlib.Order.Bounds.Defs
import AdaptiveResolution.Proofs.Gpu.Devices

namespace AdaptiveResolution

namespace Gpu

def Command.copied : Command → Option TextureCopy
  | .copyTexture _ copy => some copy
  | _ => none

theorem rowBytes_eq {width : UInt32} (h : 4 * width.toNat + 256 < UInt32.size) :
    Checked.mul32 width 4 = .ok (width * 4) ∧ (width * 4).toNat = 4 * width.toNat := by
  have hfour : width.toNat * (4 : UInt32).toNat = 4 * width.toNat := Nat.mul_comm _ _
  have hfits : 4 * width.toNat < UInt32.size := by omega
  refine ⟨if_pos (hfour ▸ hfits), ?_⟩
  rw [UInt32.toNat_mul, hfour, Nat.mod_eq_of_lt hfits]

theorem paddedBytesPerRow_eq {width : UInt32} (h : 4 * width.toNat + 256 < UInt32.size) :
    ∃ pitch, paddedBytesPerRow width = .ok pitch ∧
      pitch.toNat = (4 * width.toNat + 255) / 256 * 256 := by
  obtain ⟨hrow, hnat⟩ := rowBytes_eq h
  have hraised : (width * 4).toNat + (256 : UInt32).toNat < UInt32.size := hnat ▸ h
  have hsum : (width * 4 + 256).toNat = 4 * width.toNat + 256 := by
    rw [UInt32.toNat_add, Nat.mod_eq_of_lt hraised, hnat]
    rfl
  have hone : (1 : UInt32) ≤ width * 4 + 256 := by
    rw [UInt32.le_iff_toNat_le, hsum]
    exact Nat.le_add_left _ _
  have hrows : ((width * 4 + 256 - 1) / 256).toNat = (4 * width.toNat + 255) / 256 := by
    rw [UInt32.toNat_div, UInt32.toNat_sub_of_le _ _ hone, hsum]
    rfl
  have hpitch : ((width * 4 + 256 - 1) / 256).toNat * (256 : UInt32).toNat < UInt32.size := by
    rw [hrows]
    change (4 * width.toNat + 255) / 256 * 256 < UInt32.size
    omega
  have hadd : Checked.add32 (width * 4) 256 = .ok (width * 4 + 256) := if_pos hraised
  have hsub : Checked.sub32 (width * 4 + 256) 1 = .ok (width * 4 + 256 - 1) := if_pos hone
  have hdiv : Checked.div32 (width * 4 + 256 - 1) 256 = .ok ((width * 4 + 256 - 1) / 256) :=
    if_neg (by decide)
  have hmul : Checked.mul32 ((width * 4 + 256 - 1) / 256) 256 =
      .ok ((width * 4 + 256 - 1) / 256 * 256) := if_pos hpitch
  refine ⟨(width * 4 + 256 - 1) / 256 * 256, ?_, ?_⟩
  · simp only [paddedBytesPerRow, hrow, hadd, hsub, hdiv, hmul, bind, Except.bind]
  · rw [UInt32.toNat_mul, Nat.mod_eq_of_lt hpitch, hrows]
    rfl

theorem isLeast_pitch (row : Nat) :
    IsLeast {n | 256 ∣ n ∧ row ≤ n} ((row + 255) / 256 * 256) := by
  constructor
  · exact ⟨Nat.dvd_mul_left _ _, by omega⟩
  · rintro n ⟨⟨k, rfl⟩, hrow⟩
    omega

theorem stripRows_withRows {image memory : Memory} {rows row pitch : Nat} (hpos : 0 < row)
    (hrow : row ≤ pitch) :
    stripRows pitch row
        (Array.ofFn fun i : Fin (pitch * rows) => Device.withRows image memory rows row pitch i) =
      Array.ofFn fun i : Fin (rows * row) => image i := by
  have hpitch : 0 < pitch := hpos.trans_le hrow
  have hsize : pitch * rows / pitch * row = rows * row := by rw [Nat.mul_div_cancel_left _ hpitch]
  apply Array.ext
  · simp [stripRows, hsize]
  · intro i hi _
    have hline : i / row < rows := by
      simp only [stripRows, Array.size_ofFn, hsize] at hi
      exact Nat.div_lt_of_lt_mul (Nat.mul_comm rows row ▸ hi)
    have hcolumn : i % row < pitch := (Nat.mod_lt i hpos).trans_le hrow
    have hdiv : (i / row * pitch + i % row) / pitch = i / row := by
      rw [Nat.mul_comm, Nat.mul_add_div hpitch, Nat.div_eq_of_lt hcolumn, Nat.add_zero]
    have hmod : (i / row * pitch + i % row) % pitch = i % row := by
      rw [Nat.mul_comm, Nat.mul_add_mod, Nat.mod_eq_of_lt hcolumn]
    have hinside : i / row * pitch + i % row < pitch * rows := by
      rw [Nat.mul_comm _ pitch, Nat.mul_comm pitch rows]
      exact Nat.mul_add_lt_mul_of_lt_of_lt hline hcolumn
    simp only [stripRows, Array.getElem_ofFn]
    rw [Array.getD_eq_getD_getElem?, Array.getElem?_ofFn, dif_pos hinside, Option.getD_some]
    simp only [Device.withRows]
    rw [hdiv, hmod, if_pos ⟨hline, Nat.mod_lt i hpos⟩, Nat.div_add_mod']

def copies (calls : List Command) : List TextureCopy := calls.filterMap Command.copied

section

variable {t : Texture} {d : Device} {pitch : UInt32}

def Texture.stage (t : Texture) (pitch : UInt32) : Action Device BufferError Buffer := do
  let staging ← Buffer.staging 1 (pitch.toUInt64 * t.extent.height.toUInt64)
  let encoder ← Device.createEncoder (some "texture readback encoder")
  let encoder ← Device.recordCopy encoder ⟨t, staging, pitch⟩
  Device.submit [encoder]
  return staging

theorem Texture.readPixels_eq {row : UInt32} (hpitch : paddedBytesPerRow t.extent.width = .ok pitch)
    (hrow : Checked.mul32 t.extent.width 4 = .ok row) :
    t.readPixels = (do
      let staging ← t.stage pitch
      let padded ← staging.readAll
      return stripRows pitch.toNat row.toNat padded) := by
  unfold readPixels stage
  rw [hpitch, hrow]
  change (pure pitch >>= _) = _
  simp only [pure_bind, bind_assoc]
  rfl

structure Staged (t : Texture) (pitch : UInt32) (d : Device) (b : Buffer) (d' : Device) : Prop where
  elementSize_eq : b.elementSize = 1
  size_eq : b.size = pitch.toNat * t.extent.height.toNat
  memory_eq : d'.bufferMemory b.id = Device.withRows (d.textureMemory t.id) d.residue
    t.extent.height.toNat (4 * t.extent.width.toNat) pitch.toNat
  mapping_eq : d'.mapping = d.mapping
  issued : ∃ made, d'.history = made ++ d.history ∧ copies made = [⟨t, b, pitch⟩]

theorem stagingSize_eq (pitch rows : UInt32) :
    (pitch.toUInt64 * rows.toUInt64).toNat = pitch.toNat * rows.toNat := by
  have hfits : pitch.toNat * rows.toNat < UInt64.size :=
    Nat.mul_lt_mul'' pitch.toNat_lt_size rows.toNat_lt_size
  rw [UInt64.toNat_mul, UInt32.toNat_toUInt64, UInt32.toNat_toUInt64, Nat.mod_eq_of_lt hfits]

theorem Texture.stage_staged (t : Texture) (pitch : UInt32) (d : Device) :
    ∃ b d', t.stage pitch d = ⟨.done b, d', []⟩ ∧ Staged t pitch d b d' := by
  have hsize : Checked.mul64 (pitch.toUInt64 * t.extent.height.toUInt64) (.ofNat 1) =
      .ok (pitch.toUInt64 * t.extent.height.toUInt64) := by
    have hone := UInt64.mul_one (pitch.toUInt64 * t.extent.height.toUInt64)
    refine (if_pos ?_).trans (congrArg _ hone)
    exact (Nat.mul_one _).trans_lt (UInt64.toNat_lt_size _)
  unfold stage Buffer.staging
  rw [hsize]
  refine ⟨_, _, rfl, rfl, stagingSize_eq _ _, ?_, rfl, [_, _, _, _], rfl, rfl⟩
  change ((d.buffers.push d.residue).modify d.buffers.size _).getD d.buffers.size d.residue = _
  simp only [Array.getD_eq_getD_getElem?, Array.getElem?_modify, if_true,
    Array.getElem?_push_size, Option.map_some, Option.getD_some]
  rfl

theorem Buffer.readAll_overflow {b : Buffer} (hlong : 1 <<< 63 ≤ b.capacity * b.elementSize)
    (d : Device) : b.readAll d = ⟨.trapped .capacityOverflow, d, []⟩ := by
  unfold readAll
  rw [Checked.reserve, if_neg (Nat.not_lt.mpr hlong)]
  rfl

def Device.mapped (d : Device) (id length : Nat) : Device :=
  { d with history := .unmap id :: .poll false :: .map id 0 length :: d.history }

theorem Buffer.read_eq {b : Buffer} {into : Array UInt8} (hpos : 0 < min into.size b.size)
    (hmap : d.mapping = .works) :
    b.read into d =
      let length := min into.size b.size
      ⟨.done (length, Array.ofFn fun i : Fin into.size =>
          if i < length then d.bufferMemory b.id i else into[i]), d.mapped b.id length, []⟩ := by
  unfold read
  dsimp only
  rw [if_neg hpos.ne']
  simp only [Action.bind_apply, Device.issue, Action.update, Action.state, Device.mapped, hmap]
  rfl

theorem Buffer.readAll_eq {b : Buffer} (hone : b.elementSize = 1) (hpos : 0 < b.size)
    (hfits : b.size < 1 <<< 63) (hmap : d.mapping = .works) :
    b.readAll d = ⟨.done (Array.ofFn fun i : Fin b.size => d.bufferMemory b.id i),
      d.mapped b.id b.size, []⟩ := by
  have hcapacity : b.capacity * b.elementSize = b.size := by
    rw [capacity, hone, Nat.div_one, Nat.mul_one]
  have hlength : min (Array.replicate b.size (0 : UInt8)).size b.size = b.size := by simp
  have hall : (Array.ofFn fun i : Fin (Array.replicate b.size (0 : UInt8)).size =>
      if i < b.size then d.bufferMemory b.id i else (Array.replicate b.size 0)[i]) =
        Array.ofFn fun i : Fin b.size => d.bufferMemory b.id i := by
    apply Array.ext
    · simp
    · intro i _ hi
      rw [Array.size_ofFn] at hi
      simp only [Array.getElem_ofFn, if_pos hi]
  have hread := Buffer.read_eq (hlength ▸ hpos) hmap
  dsimp only at hread
  rw [hlength, hall] at hread
  unfold readAll
  rw [Checked.reserve, hcapacity, if_pos hfits]
  change (b.read (Array.replicate b.size 0) >>= fun r => pure r.2) d = _
  exact Action.bind_of_done hread _

theorem Staged.readAll_eq {b : Buffer} {d' : Device} (h : Staged t pitch d b d')
    (hmap : d.mapping = .works) (hpos : 0 < pitch.toNat * t.extent.height.toNat)
    (hfits : pitch.toNat * t.extent.height.toNat < 1 <<< 63) :
    b.readAll d' = ⟨.done (Array.ofFn fun i : Fin (pitch.toNat * t.extent.height.toNat) =>
        Device.withRows (d.textureMemory t.id) d.residue t.extent.height.toNat
          (4 * t.extent.width.toNat) pitch.toNat i), d'.mapped b.id b.size, []⟩ := by
  have hread := Buffer.readAll_eq h.elementSize_eq (h.size_eq ▸ hpos) (h.size_eq ▸ hfits)
    (h.mapping_eq.trans hmap)
  rw [h.memory_eq] at hread
  rw [hread, h.size_eq]

theorem Staged.readAll_overflow {b : Buffer} {d' : Device} (h : Staged t pitch d b d')
    (hlong : 1 <<< 63 ≤ pitch.toNat * t.extent.height.toNat) :
    b.readAll d' = ⟨.trapped .capacityOverflow, d', []⟩ := by
  apply Buffer.readAll_overflow
  rwa [Buffer.capacity, h.elementSize_eq, Nat.div_one, Nat.mul_one, h.size_eq]

namespace Texture

variable {row : UInt32}

theorem readPixels_staged (d : Device) (hpitch : paddedBytesPerRow t.extent.width = .ok pitch)
    (hrow : Checked.mul32 t.extent.width 4 = .ok row) :
    ∃ b staged, Staged t pitch d b staged ∧ t.readPixels d = (do
      let padded ← b.readAll
      return stripRows pitch.toNat row.toNat padded) staged := by
  obtain ⟨b, staged, hstage, h⟩ := t.stage_staged pitch d
  refine ⟨b, staged, h, ?_⟩
  rw [readPixels_eq hpitch hrow, Action.bind_of_done hstage]

theorem readPixels_overflow (hpitch : paddedBytesPerRow t.extent.width = .ok pitch)
    (hrow : Checked.mul32 t.extent.width 4 = .ok row)
    (hlong : 1 <<< 63 ≤ pitch.toNat * t.extent.height.toNat) :
    (t.readPixels d).outcome = .trapped .capacityOverflow ∧
      ∃ made b, (t.readPixels d).state.history = made ++ d.history ∧
        copies made = [⟨t, b, pitch⟩] := by
  obtain ⟨b, staged, h, hread⟩ := readPixels_staged d hpitch hrow
  obtain ⟨made, hmade, hcopies⟩ := h.issued
  rw [hread, Action.bind_apply, h.readAll_overflow hlong]
  exact ⟨rfl, made, b, hmade, hcopies⟩

theorem readPixels_done (hmap : d.mapping = .works)
    (hpitch : paddedBytesPerRow t.extent.width = .ok pitch)
    (hrow : Checked.mul32 t.extent.width 4 = .ok row)
    (hpos : 0 < pitch.toNat * t.extent.height.toNat)
    (hfits : pitch.toNat * t.extent.height.toNat < 1 <<< 63) :
    (t.readPixels d).outcome = .done (stripRows pitch.toNat row.toNat
        (Array.ofFn fun i : Fin (pitch.toNat * t.extent.height.toNat) =>
          Device.withRows (d.textureMemory t.id) d.residue t.extent.height.toNat
            (4 * t.extent.width.toNat) pitch.toNat i)) ∧
      ∃ made b, (t.readPixels d).state.history = made ++ d.history ∧
        copies made = [⟨t, b, pitch⟩] := by
  obtain ⟨b, staged, h, hread⟩ := readPixels_staged d hpitch hrow
  obtain ⟨made, hmade, hcopies⟩ := h.issued
  rw [hread, Action.bind_of_done (h.readAll_eq hmap hpos hfits)]
  exact ⟨rfl, .unmap b.id :: .poll false :: .map b.id 0 b.size :: made, b,
    congrArg (fun calls => _ :: _ :: _ :: calls) hmade, hcopies⟩

end Texture

/-- Reading back gives the bytes of the texture without the gaps, row by row, from a copy whose
pitch is the least that is allowed, unless the copy is longer than an array can be. -/
theorem readPixels_strips_padding (hmap : d.mapping = .works) (hwidth : 0 < t.extent.width.toNat)
    (hheight : 0 < t.extent.height.toNat) (hfits : 4 * t.extent.width.toNat + 256 < UInt32.size) :
    let width := t.extent.width.toNat
    let height := t.extent.height.toNat
    ∃ pitch : UInt32, IsLeast {n | 256 ∣ n ∧ 4 * width ≤ n} pitch.toNat ∧
      (∃ made b, (t.readPixels d).state.history = made ++ d.history ∧
        copies made = [⟨t, b, pitch⟩]) ∧
      (pitch.toNat * height < 2 ^ 63 → ∃ pixels, (t.readPixels d).outcome = .done pixels ∧
        pixels.size = 4 * width * height ∧ ∀ r < height, ∀ c < 4 * width,
          pixels[4 * width * r + c]? = some (d.textureMemory t.id (4 * width * r + c))) ∧
      (2 ^ 63 ≤ pitch.toNat * height →
        (t.readPixels d).outcome = .trapped .capacityOverflow) := by
  intro width height
  obtain ⟨pitch, hpitch, hnat⟩ := paddedBytesPerRow_eq hfits
  obtain ⟨hrow, hrowNat⟩ := rowBytes_eq hfits
  have hleast : IsLeast {n | 256 ∣ n ∧ 4 * width ≤ n} pitch.toNat := hnat ▸ isLeast_pitch _
  have hbytes : 0 < 4 * width := by omega
  have hpos : 0 < pitch.toNat * height := Nat.mul_pos (hbytes.trans_le hleast.1.2) hheight
  refine ⟨pitch, hleast, ?_⟩
  by_cases hlong : 2 ^ 63 ≤ pitch.toNat * height
  · obtain ⟨houtcome, hissued⟩ := Texture.readPixels_overflow hpitch hrow hlong
    exact ⟨hissued, fun hshort => absurd hlong (Nat.not_le.mpr hshort), fun _ => houtcome⟩
  · obtain ⟨houtcome, hissued⟩ :=
      Texture.readPixels_done hmap hpitch hrow hpos (Nat.lt_of_not_le hlong)
    rw [hrowNat, stripRows_withRows hbytes hleast.1.2] at houtcome
    refine ⟨hissued, fun _ => ⟨_, houtcome, ?_, fun r hr c hc => ?_⟩, fun h => absurd h hlong⟩
    · rw [Array.size_ofFn, Nat.mul_comm]
    · have hinside : 4 * width * r + c < height * (4 * width) :=
        Nat.mul_add_lt_mul_of_lt_of_lt hr hc
      rw [Array.getElem?_ofFn, dif_pos hinside]

def speckled : Device where
  residue := fun _ => 255
  textures := #[fun address => UInt8.ofNat (address + 1)]

-- A row of 65 texels is four bytes too long for a pitch of 256.
theorem readPixels_strips_padding_wide :
    let t : Texture := ⟨0, ⟨65, 2⟩⟩
    speckled.mapping = .works ∧ 0 < t.extent.width.toNat ∧ 0 < t.extent.height.toNat ∧
      4 * t.extent.width.toNat + 256 < UInt32.size ∧
      ∃ pixels, (t.readPixels speckled).outcome = .done pixels ∧ pixels.size = 520 ∧
        pixels[519]? = some (speckled.textureMemory 0 519) := by
  intro t
  have hwidth : 0 < t.extent.width.toNat := by decide
  have hheight : 0 < t.extent.height.toNat := by decide
  have hfits : 4 * t.extent.width.toNat + 256 < UInt32.size := by decide
  obtain ⟨pitch, hleast, -, hread, -⟩ :=
    readPixels_strips_padding (d := speckled) rfl hwidth hheight hfits
  have hpitch : pitch.toNat ≤ 512 := hleast.2 ⟨by decide, by decide⟩
  have hshort : pitch.toNat * 2 < 2 ^ 63 := by omega
  obtain ⟨pixels, houtcome, hsize, hpixels⟩ := hread hshort
  exact ⟨rfl, hwidth, hheight, hfits, pixels, houtcome, hsize,
    hpixels 1 (by decide) 259 (by decide)⟩

theorem readPixels_overflows_tall :
    let t : Texture := ⟨0, ⟨1073741759, 2147483777⟩⟩
    4 * t.extent.width.toNat + 256 < UInt32.size ∧
      4 * t.extent.width.toNat * t.extent.height.toNat < 2 ^ 63 ∧
      (t.readPixels {}).outcome = .trapped .capacityOverflow := by
  refine ⟨by decide, by decide, ?_⟩
  decide +kernel

end

end Gpu

end AdaptiveResolution
