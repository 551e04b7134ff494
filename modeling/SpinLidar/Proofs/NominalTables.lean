import SpinLidar.Proofs.CalibrationLoading
import SpinLidar.Decoder
namespace SpinLidar

/-- An entry that leaves intensities alone: no focal correction, and limits `0` and `255`. -/
structure Entry.PlainIntensity (e : Entry) : Prop where
  focal_zero : e.focalDistance = 0.0
  slope_zero : e.focalSlope = 0.0
  min_zero : e.minIntensity = 0
  max_full : e.maxIntensity = 255

namespace EndsIn

variable {ε α β : Type} {P : ε → Prop} {Q : β → Prop}

theorem mapM_all {xs : List α} {g : α → Except ε β} (hg : ∀ a ∈ xs, EndsIn P Q (g a)) :
    EndsIn P (fun bs => ∀ b ∈ bs, Q b) (xs.mapM g) := by
  induction xs with
  | nil => exact of_ok nofun
  | cons a as ih =>
    rw [List.mapM_cons]
    refine bind (hg a List.mem_cons_self) fun b hb => ?_
    refine bind (ih fun a' ha' => hg a' (List.mem_cons_of_mem _ ha')) fun bs hbs => ?_
    exact of_ok (List.forall_mem_cons.2 ⟨hb, hbs⟩)

end EndsIn

namespace Calibration

theorem make_eq_ok {entries : Array Entry} {res : Float} (file : String) (hpos : 0 < entries.size)
    (hres : ¬res ≤ 0.0) : make entries res file = .ok ⟨entries, res, file, hpos, hres⟩ := by
  have hempty : ¬entries.isEmpty = true := by
    rw [Array.isEmpty_iff_size_eq_zero]
    omega
  rw [make, dif_neg hempty, dif_neg hres]

theorem entry_mem {c : Calibration} {ch : Nat} (h : ch < c.entries.size) : c.entry ch ∈ c.entries := by
  rw [entry, Array.getD, dif_pos h]
  exact Array.getElem_mem h

theorem lt_of_checkChannels {c : Calibration} {chs : List Int} (h : c.checkChannels chs = .ok ())
    {ch : Nat} (hch : (ch : Int) ∈ chs) : ch < c.entries.size := by
  unfold checkChannels at h
  split at h
  · cases h
  · rename_i hnone
    have hcovered := List.find?_eq_none.1 hnone _ hch
    simp only [decide_eq_true_eq, not_or] at hcovered
    omega

namespace Csv

def intensityColumns : List String :=
  ["focal_distance_m", "focal_slope", "min_intensity", "max_intensity"]

section Lines

theorem lines_go_append_acc (cs cur : List Char) (acc acc' : List String) :
    lines.go cs cur (acc ++ acc') = acc'.reverse ++ lines.go cs cur acc := by
  fun_induction lines.go cs cur acc with
  | case1 cur acc => simp [lines.go.eq_1]
  | case2 cur acc rest ih => rw [lines.go.eq_2]; exact ih
  | case3 cur acc rest hrest ih => rw [lines.go.eq_3 _ _ _ hrest]; exact ih
  | case4 cur acc rest ih => rw [lines.go.eq_4]; exact ih
  | case5 cur acc c rest h1 h2 h3 ih => rw [lines.go.eq_5 _ _ _ _ h1 h2 h3]; exact ih

theorem lines_go_line {l : List Char} (hl : '\r' ∉ l ∧ '\n' ∉ l) (rest cur : List Char)
    (acc : List String) :
    lines.go (l ++ '\n' :: rest) cur acc =
      lines.go rest [] (String.ofList (cur.reverse ++ l) :: acc) := by
  induction l generalizing cur with
  | nil => rw [List.nil_append, lines.go.eq_4, List.append_nil]
  | cons c l ih =>
    obtain ⟨hr, hn⟩ := hl
    have hcr : c ≠ '\r' := fun h => hr (h ▸ List.mem_cons_self)
    have hcn : c ≠ '\n' := fun h => hn (h ▸ List.mem_cons_self)
    rw [List.cons_append, lines.go.eq_5 _ _ _ _ (fun _ h _ => hcr h) hcr hcn,
      ih ⟨fun h => hr (List.mem_cons_of_mem _ h), fun h => hn (List.mem_cons_of_mem _ h)⟩,
      List.reverse_cons, List.append_assoc, List.singleton_append]

theorem lines_header {h : String} (hh : '\r' ∉ h.toList ∧ '\n' ∉ h.toList) (t : String) :
    lines (h ++ "\n" ++ t) = h :: lines t := by
  have htext : (h ++ "\n" ++ t).toList = h.toList ++ '\n' :: t.toList := by
    rw [String.toList_append, String.toList_append, List.append_assoc]
    rfl
  rw [lines, htext, lines_go_line hh, List.reverse_nil, List.nil_append, String.ofList_toList,
    ← List.nil_append [h], lines_go_append_acc]
  rfl

end Lines

section Rows

variable {r : Row} {p : String → Prop}

theorem Row.get?_eq_none {k : String} (h : ∀ kv ∈ r, kv.1 ≠ k) : r.get? k = none := by
  rw [Row.get?, Option.map_eq_none_iff, List.find?_eq_none]
  intro kv hkv
  simpa using h kv (List.mem_reverse.1 hkv)

theorem Row.cols_set {k : String} (v : Float) (h : ∀ kv ∈ r, p kv.1) (hk : p k) :
    ∀ kv ∈ r.set k v, p kv.1 := by
  intro kv hkv
  rcases List.mem_append.1 hkv with hkv | hkv
  · exact h kv (List.mem_filter.1 hkv).1
  · rw [List.mem_singleton.1 hkv]
    exact hk

theorem Row.cols_erase (k : String) (h : ∀ kv ∈ r, p kv.1) : ∀ kv ∈ r.erase k, p kv.1 :=
  fun kv hkv => h kv (List.mem_filter.1 hkv).1

theorem cols_renameLegacy (h : ∀ kv ∈ r, p kv.1) (hrot : p "rotational_correction_deg")
    (hvert : p "vertical_angle_deg") : ∀ kv ∈ renameLegacy r, p kv.1 := by
  unfold renameLegacy
  dsimp only
  -- the azimuth offset is renamed first, then the elevation offset of the renamed row
  cases r.get? "azimuth_offset_deg" with
  | none =>
    dsimp only
    split
    · exact Row.cols_set _ (Row.cols_erase _ h) hvert
    · exact h
  | some v =>
    have hfirst := Row.cols_set (-v) (Row.cols_erase "azimuth_offset_deg" h) hrot
    dsimp only
    split
    · exact Row.cols_set _ (Row.cols_erase _ hfirst) hvert
    · exact hfirst

theorem readRow_cols (file : String) (header : List String) (line : String) :
    EndsIn (fun _ => True) (fun r => ∀ kv ∈ r, kv.1 ∈ header) (readRow file header line) := by
  unfold readRow
  refine EndsIn.bind (EndsIn.of_true _) fun cells _ => EndsIn.of_ok fun kv hkv => ?_
  exact (List.of_mem_zip hkv).1

theorem truncInt_limits : Fault.truncInt 0.0 = .ok 0 ∧ Fault.truncInt 255.0 = .ok 255 := by
  refine ⟨?_, rfl⟩
  -- the zero literal is evaluated by the kernel, through the optional result
  have h : (Fault.truncInt 0.0).toOption = some 0 := by decide +kernel
  revert h
  cases Fault.truncInt 0.0 <;> simp [Except.toOption]

theorem entryOfRow_plain (file : String) (h : ∀ kv ∈ r, kv.1 ∉ intensityColumns) :
    EndsIn (fun _ => True) Entry.PlainIntensity (entryOfRow file r) := by
  have hren : ∀ kv ∈ renameLegacy r, kv.1 ∉ intensityColumns :=
    @cols_renameLegacy r (· ∉ intensityColumns) h (by decide) (by decide)
  have hnone : ∀ k ∈ intensityColumns, (renameLegacy r).get? k = none := fun k hk =>
    Row.get?_eq_none fun kv hkv heq => hren kv hkv (heq ▸ hk)
  unfold entryOfRow
  dsimp only
  rw [hnone "min_intensity" (by decide), hnone "max_intensity" (by decide),
    hnone "focal_distance_m" (by decide), hnone "focal_slope" (by decide), Option.getD_none,
    Option.getD_none, truncInt_limits.1, truncInt_limits.2]
  split
  · exact EndsIn.of_ok ⟨rfl, rfl, rfl, rfl⟩
  · exact EndsIn.of_error trivial

end Rows

theorem read_plain (file text : String) {first : String} {body : List String}
    (hls : ((lines text).map Text.trim).filter (· ≠ "") = first :: body)
    (hcols : ∀ k ∈ intensityColumns, k ∉ (cells first).map Text.trim) :
    EndsIn (fun _ => True) (fun c => ∀ e ∈ c.entries, e.PlainIntensity) (read file text) := by
  unfold read
  dsimp only
  rw [hls]
  cases body with
  | nil => exact EndsIn.of_error trivial
  | cons line lines =>
    dsimp only
    refine EndsIn.check trivial ?_
    refine EndsIn.bind (EndsIn.mapM_all fun line _ => readRow_cols file _ line) fun rows hrows => ?_
    refine EndsIn.bind (EndsIn.mapM fun _ _ => EndsIn.of_true _) fun _ _ => ?_
    refine EndsIn.check trivial ?_
    refine EndsIn.bind (EndsIn.mapM_all fun r hr => entryOfRow_plain file fun kv hkv hk =>
      hcols _ hk (hrows r hr kv hkv)) fun entries hentries => ?_
    refine EndsIn.mapError ((make_ends _ _ _).mono (fun _ h => h) fun c hc e he => ?_)
      fun _ _ => trivial
    rw [hc.1] at he
    exact hentries e (List.mem_toArray.1 he)

theorem nominalHeader_plain : ('\r' ∉ nominalHeader.toList ∧ '\n' ∉ nominalHeader.toList) ∧
    Text.trim nominalHeader = nominalHeader ∧ nominalHeader ≠ "" ∧
    ∀ k ∈ intensityColumns, k ∉ (cells nominalHeader).map Text.trim := by
  decide +kernel

theorem lines_bundledText (m : Sensor.Model) :
    ∃ t, lines (bundledText m) = nominalHeader :: lines t := by
  cases m <;> dsimp only [bundledText] <;>
    first | unfold vlp16Text | unfold vlp16HiResText | unfold hdl32eText | unfold hdl64eText
  all_goals
    repeat rw [@String.append_assoc (nominalHeader ++ "\n")]
    exact ⟨_, lines_header nominalHeader_plain.1 _⟩

end Csv

theorem bundled_plain (m : Sensor.Model) :
    EndsIn (fun _ => True) (fun c => ∀ e ∈ c.entries, e.PlainIntensity) (bundled m) := by
  obtain ⟨t, ht⟩ := Csv.lines_bundledText m
  obtain ⟨-, htrim, hne, hcols⟩ := Csv.nominalHeader_plain
  have hls : ((Csv.lines (bundledText m)).map Text.trim).filter (· ≠ "") =
      nominalHeader :: ((Csv.lines t).map Text.trim).filter (· ≠ "") := by
    rw [ht, List.map_cons, htrim, List.filter_cons_of_pos (by simpa using hne)]
  exact Csv.read_plain _ _ hls hcols

end Calibration

namespace Decoder

theorem make_none_ends {Q : Calibration → Prop} (model : Sensor.Model)
    (h : EndsIn (fun _ => True) Q (Calibration.bundled model)) :
    EndsIn (fun _ => True) (fun d => d.model = model ∧ Q d.calibration) (make model none) := by
  unfold make
  refine EndsIn.bind h fun cal hcal => ?_
  dsimp only
  split
  · exact EndsIn.of_error trivial
  · exact EndsIn.of_ok ⟨rfl, hcal⟩

end Decoder

end SpinLidar
