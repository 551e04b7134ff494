import SpinLidar.Status.Accumulator
namespace SpinLidar.Status

/-- The header a sensor sends at the start of every cycle: hour, minute, second, day, month,
year from 2000, GPS state, temperature and firmware, as bytes that make a valid date and time
and a known GPS state. -/
structure Header where
  values : List Nat
  length_eq : values.length = 9
  bytes : ∀ v ∈ values, v < 256
  datetime : Int
  datetime_eq : statusDatetime (values.getD 5 0) (values.getD 4 0) (values.getD 3 0)
    (values.getD 0 0) (values.getD 1 0) (values.getD 2 0) = .ok datetime
  gps : Gps
  gps_eq : Gps.ofCode? (values.getD 6 0) = some gps

theorem Header.eq_nine (h : Header) :
    ∃ v0 v1 v2 v3 v4 v5 v6 v7 v8, h.values = [v0, v1, v2, v3, v4, v5, v6, v7, v8] := by
  have hl := h.length_eq
  match h.values, hl with
  | [v0, v1, v2, v3, v4, v5, v6, v7, v8], _ => exact ⟨v0, v1, v2, v3, v4, v5, v6, v7, v8, rfl⟩

def Report.withHeader (r : Report) (h : Header) : Report :=
  { r with datetime := some h.datetime, gps := h.gps, temperature := h.values.getD 7 0,
           firmware := h.values.getD 8 0 }

def cyclePairs (h : Header) (ids values : List Nat) : List (Nat × Nat) :=
  Ids.header.zip h.values ++ ids.zip values

namespace Accumulator

def run (a : Accumulator) (pairs : List (Nat × Nat)) : Accumulator :=
  pairs.foldl (fun a p => (a.step p.1 p.2).state) a

@[simp] theorem run_nil (a : Accumulator) : a.run [] = a := rfl

@[simp] theorem run_cons (a : Accumulator) (p : Nat × Nat) (ps : List (Nat × Nat)) :
    a.run (p :: ps) = (a.step p.1 p.2).state.run ps := rfl

theorem run_append (a : Accumulator) (ps qs : List (Nat × Nat)) :
    a.run (ps ++ qs) = (a.run ps).run qs := List.foldl_append

def wire (pairs : List (Nat × Nat)) : List (Int × Int) :=
  pairs.map fun p => ((p.1 : Int), (p.2 : Int))

theorem feed_bytes (a : Accumulator) {id value : Nat} (hid : id < 256) (hv : value < 256) :
    a.feed id value = .ok (a.step id value) := by
  -- both range checks come out false, stated in the Boolean form the code tests
  have hid' : (decide ((id : Int) < 0) || decide ((id : Int) > 255)) = false := by
    simp only [Bool.or_eq_false_iff, decide_eq_false_iff_not]
    omega
  have hv' : (decide ((value : Int) < 0) || decide ((value : Int) > 255)) = false := by
    simp only [Bool.or_eq_false_iff, decide_eq_false_iff_not]
    omega
  unfold feed
  rw [hid', hv', Bool.and_false]
  simp only [Bool.false_eq_true, if_false, Int.toNat_natCast]
  rfl

theorem feedAll_go_bytes (acc : Fed) (ps : List (Nat × Nat))
    (hps : ∀ p ∈ ps, p.1 < 256 ∧ p.2 < 256) :
    (feedAll.go acc (wire ps)).2 = none ∧ (feedAll.go acc (wire ps)).1.state = acc.state.run ps := by
  induction ps generalizing acc with
  | nil => exact ⟨rfl, rfl⟩
  | cons p ps ih =>
    obtain ⟨hid, hv⟩ := hps p List.mem_cons_self
    simp only [wire, List.map_cons, feedAll.go, feed_bytes _ hid hv]
    exact ih _ fun q hq => hps q (List.mem_cons_of_mem p hq)

theorem feedAll_bytes (a : Accumulator) (ps : List (Nat × Nat))
    (hps : ∀ p ∈ ps, p.1 < 256 ∧ p.2 < 256) :
    (a.feedAll (wire ps)).2 = none ∧ (a.feedAll (wire ps)).1.state = a.run ps :=
  feedAll_go_bytes ⟨a, []⟩ ps hps

section Step

variable {a : Accumulator} {id : Nat}

theorem step_reject (h : a.accepts id = false) (value : Nat) :
    (a.step id value).state = { a with cyclePos := 0 } := by
  simp [step, h]

theorem step_payload_last (h : a.accepts id = true) (hpos : a.cyclePos = 15) (value : Nat) :
    (a.step id value).state =
      ({ a with cycleIds := a.cycleIds.setIfInBounds 6 id,
                cycleValues := a.cycleValues.setIfInBounds 6 value,
                cyclePos := 0 }).endCycle.state := by
  simp [step, h, hpos, headerLength, cycleLength]

end Step

theorem idxOf?_header :
    Ids.header.idxOf? 0x48 = some 0 ∧ Ids.header.idxOf? 0x4D = some 1 ∧
    Ids.header.idxOf? 0x53 = some 2 ∧ Ids.header.idxOf? 0x44 = some 3 ∧
    Ids.header.idxOf? 0x4E = some 4 ∧ Ids.header.idxOf? 0x59 = some 5 ∧
    Ids.header.idxOf? 0x47 = some 6 ∧ Ids.header.idxOf? 0x54 = some 7 ∧
    Ids.header.idxOf? 0x56 = some 8 := by decide

theorem zip_header (v0 v1 v2 v3 v4 v5 v6 v7 v8 : Nat) :
    Ids.header.zip [v0, v1, v2, v3, v4, v5, v6, v7, v8] =
      [(0x48, v0), (0x4D, v1), (0x53, v2), (0x44, v3), (0x4E, v4), (0x59, v5), (0x47, v6),
        (0x54, v7), (0x56, v8)] := rfl

theorem run_header (a : Accumulator) (hpos : a.cyclePos = 0) (hsize : a.header.size = 9)
    (h : Header) :
    a.run (Ids.header.zip h.values) =
      { a with header := h.values.toArray, report := a.report.withHeader h, cyclePos := 9 } := by
  obtain ⟨v0, v1, v2, v3, v4, v5, v6, v7, v8, hv⟩ := h.eq_nine
  have hdt := h.datetime_eq
  have hgps := h.gps_eq
  rw [hv] at hdt hgps
  simp only [List.getD_cons_succ, List.getD_cons_zero] at hdt hgps
  obtain ⟨i0, i1, i2, i3, i4, i5, i6, i7, i8⟩ := idxOf?_header
  rcases a with ⟨report, init, ⟨header⟩, ids, vals, pos, stage, laser, part, lb, sb, recs⟩
  simp only at hpos hsize
  subst hpos
  simp only [List.size_toArray] at hsize
  -- with the stored header written out, every step computes
  match header, hsize with
  | [x0, x1, x2, x3, x4, x5, x6, x7, x8], _ =>
    rw [hv, zip_header]
    simp [hv, step, accepts, i0, i1, i2, i3, i4, i5, i6, i7, i8, headerLength, readHeader,
      updateHeader, Report.withHeader, hdt, hgps]

theorem run_payload (a : Accumulator) (hpos : a.cyclePos = 9) (hids : a.cycleIds.size = 7)
    (hvals : a.cycleValues.size = 7) {ids values : List Nat} (hidl : ids.length = 7)
    (hvl : values.length = 7) (hnot : ∀ i ∈ ids, Ids.header.idxOf? i = none) :
    a.run (ids.zip values) =
      ({ a with cycleIds := ids.toArray, cycleValues := values.toArray, cyclePos := 0 }).endCycle.state := by
  rcases a with ⟨report, init, header, ⟨cids⟩, ⟨cvals⟩, pos, stage, laser, part, lb, sb, recs⟩
  simp only [List.size_toArray] at hpos hids hvals
  subst hpos
  match ids, values, hidl, hvl, cids, cvals, hids, hvals with
  | [i0, i1, i2, i3, i4, i5, i6], [w0, w1, w2, w3, w4, w5, w6], _, _,
    [_, _, _, _, _, _, _], [_, _, _, _, _, _, _], _, _ =>
    simp only [List.mem_cons, List.not_mem_nil, or_false, forall_eq_or_imp, forall_eq] at hnot
    obtain ⟨n0, n1, n2, n3, n4, n5, n6⟩ := hnot
    simp [step, accepts, n0, n1, n2, n3, n4, n5, n6, headerLength, cycleLength]

theorem run_rejected (a : Accumulator) (hpos : a.cyclePos = 0) (ps : List (Nat × Nat))
    (hps : ∀ p ∈ ps, Ids.header.idxOf? p.1 ≠ some 0) : a.run ps = a := by
  induction ps with
  | nil => rfl
  | cons p ps ih =>
    have hp := hps p List.mem_cons_self
    have hrej : a.accepts p.1 = false := by
      unfold accepts
      split <;> simp_all [headerLength]
    rw [run_cons, step_reject hrej, ← hpos]
    exact ih fun q hq => hps q (List.mem_cons_of_mem p hq)

theorem idxOf?_payload {i : Nat} (h : Ids.header.idxOf? i = none) : Ids.header.idxOf? i ≠ some 0 := by
  simp [h]

theorem run_headless (a : Accumulator) (hpos : a.cyclePos = 0) (h : Header) {ids values : List Nat}
    (hnot : ∀ i ∈ ids, Ids.header.idxOf? i = none) :
    a.run (cyclePairs h ids values).tail = a := by
  obtain ⟨v0, v1, v2, v3, v4, v5, v6, v7, v8, hv⟩ := h.eq_nine
  obtain ⟨i0, i1, i2, i3, i4, i5, i6, i7, i8⟩ := idxOf?_header
  rw [cyclePairs, hv, zip_header, List.cons_append, List.tail_cons]
  apply run_rejected _ hpos
  intro p hp
  rcases List.mem_append.1 hp with hp | hp
  · simp only [List.mem_cons, List.not_mem_nil, or_false] at hp
    rcases hp with rfl | rfl | rfl | rfl | rfl | rfl | rfl | rfl <;> simp [i1, i2, i3, i4, i5, i6, i7, i8]
  · exact idxOf?_payload (hnot _ (List.of_mem_zip hp).1)

theorem run_lost (a : Accumulator) (hpos : a.cyclePos ≠ 0) (h : Header) {ids values : List Nat}
    (hnot : ∀ i ∈ ids, Ids.header.idxOf? i = none) :
    a.run (cyclePairs h ids values) = { a with cyclePos := 0 } := by
  obtain ⟨v0, v1, v2, v3, v4, v5, v6, v7, v8, hv⟩ := h.eq_nine
  have hfirst : a.accepts 0x48 = false := by
    simp [accepts, idxOf?_header.1]
    omega
  have hsplit : cyclePairs h ids values = (0x48, v0) :: (cyclePairs h ids values).tail := by
    rw [cyclePairs, hv, zip_header]
    rfl
  rw [hsplit, run_cons, step_reject hfirst]
  exact run_headless _ rfl h hnot

theorem foldl_set_getElem? (vs : List Nat) (base n : Nat) (r : Array Nat) (j : Nat) :
    ((vs.zipIdx n).foldl (fun r (v, k) => r.setIfInBounds (base + k) v) r)[j]? =
      if base + n ≤ j ∧ j < base + n + vs.length ∧ j < r.size then vs[j - (base + n)]? else r[j]? := by
  induction vs generalizing n r with
  | nil => simp only [List.zipIdx_nil, List.foldl_nil, List.length_nil]; rw [if_neg (by omega)]
  | cons v vs ih =>
    rw [List.zipIdx_cons, List.foldl_cons, ih, Array.size_setIfInBounds, Array.getElem?_setIfInBounds]
    -- the first value lands at base + n; the rest are the induction at n + 1
    by_cases hj : base + n = j
    · subst hj
      have hlo : ¬(base + (n + 1) ≤ base + n) := by omega
      by_cases hr : base + n < r.size <;> simp [hr, hlo]
    · by_cases hlo : base + (n + 1) ≤ j
      · have hidx : j - (base + n) = j - (base + (n + 1)) + 1 := by omega
        simp only [hj, if_false, List.length_cons, hidx, List.getElem?_cons_succ]
        congr 1
        apply propext
        omega
      · have hfalse : ¬(base + n ≤ j ∧ j < base + n + (vs.length + 1) ∧ j < r.size) := by omega
        simp [hlo, hj, hfalse]

theorem writePart_getElem? (r : Array Nat) (part : Nat) (vs : List Nat) (j : Nat) :
    (writePart r part vs)[j]? =
      if 7 * part ≤ j ∧ j < 7 * part + vs.length ∧ j < r.size then vs[j - 7 * part]? else r[j]? := by
  rw [writePart]
  simpa using foldl_set_getElem? vs (7 * part) 0 r j

theorem size_writePart (r : Array Nat) (part : Nat) (vs : List Nat) :
    (writePart r part vs).size = r.size := by
  unfold writePart
  generalize vs.zipIdx = l
  induction l generalizing r with
  | nil => rfl
  | cons p l ih =>
    obtain ⟨v, k⟩ := p
    simp [ih]

def chunk (record : List Nat) (part : Nat) : List Nat := (record.drop (7 * part)).take 7

theorem length_chunk {record : List Nat} (h : record.length = 21) {part : Nat} (hp : part < 3) :
    (chunk record part).length = 7 := by
  simp [chunk, h]
  omega

theorem chunks_append {record : List Nat} (h : record.length = 21) :
    chunk record 0 ++ chunk record 1 ++ chunk record 2 = record := by
  have hlast : chunk record 2 = (record.drop 7).drop 7 := by
    simp only [chunk, List.drop_drop]
    exact List.take_of_length_le (by simp [h])
  calc chunk record 0 ++ chunk record 1 ++ chunk record 2
      = record.take 7 ++ ((record.drop 7).take 7 ++ (record.drop 7).drop 7) := by
        rw [hlast, List.append_assoc]
        rfl
    _ = record := by rw [List.take_append_drop, List.take_append_drop]

theorem writePart_three (r : Array Nat) (hr : r.size = 21) {v0 v1 v2 : List Nat}
    (h0 : v0.length = 7) (h1 : v1.length = 7) (h2 : v2.length = 7) :
    writePart (writePart (writePart r 0 v0) 1 v1) 2 v2 = (v0 ++ v1 ++ v2).toArray := by
  apply Array.ext_getElem?
  intro j
  simp only [writePart_getElem?, size_writePart, hr, h0, h1, h2, List.getElem?_toArray,
    List.getElem?_append, List.length_append]
  -- position j is written by part j / 7, or by none past the buffer
  by_cases hj : j < 21
  · obtain hpart | hpart | hpart : j < 7 ∨ (7 ≤ j ∧ j < 14) ∨ 14 ≤ j := by omega
    all_goals simp (disch := omega) only [if_pos, if_neg, Nat.mul_zero, Nat.sub_zero]
  · simp (disch := omega) only [if_neg]
    rw [Array.getElem?_eq_none (by omega), List.getElem?_eq_none (by omega)]

theorem writePart_chunks (r : Array Nat) (hr : r.size = 21) {record : List Nat}
    (h : record.length = 21) :
    writePart (writePart (writePart r 0 (chunk record 0)) 1 (chunk record 1)) 2 (chunk record 2) =
      record.toArray := by
  rw [writePart_three r hr (length_chunk h (by decide)) (length_chunk h (by decide))
    (length_chunk h (by decide)), chunks_append h]

theorem modify_writePart_three (rows : Array (Array Nat))
    (hrows : ∀ (i : Nat) (r : Array Nat), rows[i]? = some r → r.size = 21) (l : Nat)
    {v0 v1 v2 : List Nat} (h0 : v0.length = 7) (h1 : v1.length = 7) (h2 : v2.length = 7) :
    ((rows.modify l fun r => writePart r 0 v0).modify l fun r => writePart r 1 v1).modify l
        (fun r => writePart r 2 v2) =
      rows.setIfInBounds l (v0 ++ v1 ++ v2).toArray := by
  apply Array.ext_getElem?
  intro i
  simp only [Array.getElem?_modify, Array.getElem?_setIfInBounds]
  by_cases hl : l = i
  · subst hl
    -- the row is there exactly when it is in bounds
    cases hrow : rows[l]? with
    | none =>
      have hge : ¬l < rows.size := fun hlt => by simp [hlt] at hrow
      simp [hge]
    | some r =>
      have hlt : l < rows.size := (Array.getElem?_eq_some_iff.1 hrow).1
      simp [hlt, writePart_three r (hrows l r hrow) h0 h1 h2]
  · simp [hl]

theorem completeSequence_ok {a b : Accumulator} (h : a.completeSequence = .ok b) :
    ∃ r, b = { a with report := r, records := some a.laserBytes, initialized := true } := by
  unfold completeSequence at h
  simp only at h
  cases hk : ReturnKind.ofCode? (a.stateBytes.getD 16 0) with
  | none => rw [hk] at h; cases h
  | some kind =>
    rw [hk] at h
    cases hp : powerLevel (a.stateBytes.getD 18 0) with
    | error e => rw [hp] at h; cases h
    | ok pm =>
      rw [hp] at h
      simp only [bind, Except.bind, pure, Except.pure, Except.ok.injEq] at h
      exact ⟨_, h.symm⟩

/-- The sizes of the buffers: nine header values, seven payload ids and values, 64 laser
records and a sensor state of 21 bytes each. -/
structure Shaped (a : Accumulator) : Prop where
  header : a.header.size = 9
  cycleIds : a.cycleIds.size = 7
  cycleValues : a.cycleValues.size = 7
  lasers : a.laserBytes.size = 64
  rows : ∀ (i : Nat) (r : Array Nat), a.laserBytes[i]? = some r → r.size = 21
  state : a.stateBytes.size = 21

theorem shaped_initial : Shaped initial where
  header := rfl
  cycleIds := rfl
  cycleValues := rfl
  lasers := rfl
  rows := by
    intro i r h
    simp only [initial, Array.getElem?_replicate] at h
    split at h
    · simp only [Option.some.injEq] at h
      subst h
      simp [recordSize]
    · cases h
  state := rfl

theorem updateHeader_fst (a : Accumulator) : ∃ r, a.updateHeader.1 = { a with report := r } := by
  unfold updateHeader
  simp only
  split
  · exact ⟨_, rfl⟩
  · split
    · exact ⟨_, rfl⟩
    · exact ⟨_, rfl⟩

section Shaped

variable {a : Accumulator} (h : Shaped a)
include h

theorem Shaped.withPos (n : Nat) : Shaped { a with cyclePos := n } :=
  ⟨h.header, h.cycleIds, h.cycleValues, h.lasers, h.rows, h.state⟩

theorem Shaped.restart : Shaped a.restart :=
  ⟨h.header, h.cycleIds, h.cycleValues, h.lasers, h.rows, h.state⟩

theorem Shaped.readHeader : Shaped a.readHeader.state := by
  obtain ⟨r, hr⟩ := updateHeader_fst a
  have hu : Shaped a.updateHeader.1 := by
    rw [hr]
    exact ⟨h.header, h.cycleIds, h.cycleValues, h.lasers, h.rows, h.state⟩
  unfold Accumulator.readHeader
  split
  · next b heq =>
    rw [heq] at hu
    exact hu.withPos _
  · next b e heq =>
    rw [heq] at hu
    exact hu.restart.withPos _

theorem Shaped.of_buffers {b : Accumulator}
    (hb : b.header = a.header ∧ b.cycleIds = a.cycleIds ∧ b.cycleValues = a.cycleValues ∧
      b.laserBytes = a.laserBytes ∧ b.stateBytes = a.stateBytes) : Shaped b := by
  obtain ⟨h1, h2, h3, h4, h5⟩ := hb
  exact ⟨h1 ▸ h.header, h2 ▸ h.cycleIds, h3 ▸ h.cycleValues, h4 ▸ h.lasers, h4 ▸ h.rows,
    h5 ▸ h.state⟩

theorem Shaped.consumeCycle (ids values : List Nat) : Shaped (a.consumeCycle ids values).1 := by
  -- a payload writes one laser row or the sensor state, and nothing else of the buffers
  have hrow : Shaped { a with laserBytes := a.laserBytes.modify a.laser fun r => writePart r a.part values } := by
    refine ⟨h.header, h.cycleIds, h.cycleValues, by simp [h.lasers], ?_, h.state⟩
    intro i r hr
    simp only [Array.getElem?_modify] at hr
    split at hr
    · obtain ⟨r', hr', rfl⟩ := Option.map_eq_some_iff.1 hr
      rw [size_writePart]
      exact h.rows i r' hr'
    · exact h.rows i r hr
  have hstate : Shaped { a with stateBytes := writePart a.stateBytes a.part values } :=
    ⟨h.header, h.cycleIds, h.cycleValues, h.lasers, h.rows, by rw [size_writePart, h.state]⟩
  unfold Accumulator.consumeCycle
  simp only
  repeat' split
  all_goals first
    | exact h.of_buffers ⟨rfl, rfl, rfl, rfl, rfl⟩
    | exact hrow.of_buffers ⟨rfl, rfl, rfl, rfl, rfl⟩
    | exact hstate.of_buffers ⟨rfl, rfl, rfl, rfl, rfl⟩
    | skip
  next b heq =>
    obtain ⟨r, rfl⟩ := completeSequence_ok heq
    exact hstate.of_buffers ⟨rfl, rfl, rfl, rfl, rfl⟩

theorem Shaped.endCycle : Shaped a.endCycle.state := by
  have hc := h.consumeCycle a.cycleIds.toList a.cycleValues.toList
  unfold Accumulator.endCycle
  split
  all_goals
    rename_i heq
    rw [heq] at hc
  · exact hc
  · exact hc.restart
  · exact hc.restart

end Shaped

theorem Shaped.step {a : Accumulator} (h : Shaped a) (id value : Nat) : Shaped (a.step id value).state := by
  unfold Accumulator.step
  simp only
  split
  · exact h.withPos 0
  · split
    · have hset : Shaped { a with header := a.header.setIfInBounds a.cyclePos value } :=
        ⟨by simp [h.header], h.cycleIds, h.cycleValues, h.lasers, h.rows, h.state⟩
      split
      · exact hset.readHeader
      · exact hset.withPos _
    · split
      · exact ⟨h.header, by simp [h.cycleIds], by simp [h.cycleValues], h.lasers, h.rows, h.state⟩
      · exact Shaped.endCycle
          ⟨h.header, by simp [h.cycleIds], by simp [h.cycleValues], h.lasers, h.rows, h.state⟩

theorem Shaped.run {a : Accumulator} (h : Shaped a) (ps : List (Nat × Nat)) : Shaped (a.run ps) := by
  induction ps generalizing a with
  | nil => exact h
  | cons p ps ih => exact ih (h.step p.1 p.2)

def loadCycle (a : Accumulator) (h : Header) (ids values : List Nat) : Accumulator :=
  { a with header := h.values.toArray, report := a.report.withHeader h, cycleIds := ids.toArray,
           cycleValues := values.toArray, cyclePos := 0 }

theorem run_cycle (a : Accumulator) (hpos : a.cyclePos = 0) (hs : Shaped a) (h : Header)
    {ids values : List Nat} (hidl : ids.length = 7) (hvl : values.length = 7)
    (hnot : ∀ i ∈ ids, Ids.header.idxOf? i = none) :
    a.run (cyclePairs h ids values) = (a.loadCycle h ids values).endCycle.state := by
  let b := { a with header := h.values.toArray, report := a.report.withHeader h, cyclePos := 9 }
  rw [cyclePairs, run_append, run_header a hpos hs.header h,
    run_payload b rfl hs.cycleIds hs.cycleValues hidl hvl hnot]
  rfl

theorem consumeCycle_cyclePos (a : Accumulator) (ids values : List Nat) :
    (a.consumeCycle ids values).1.cyclePos = a.cyclePos := by
  unfold consumeCycle
  simp only
  repeat' split
  all_goals first
    | rfl
    | skip
  next b heq =>
    obtain ⟨r, rfl⟩ := completeSequence_ok heq
    rfl

theorem endCycle_cyclePos (a : Accumulator) : a.endCycle.state.cyclePos = a.cyclePos := by
  have hc := consumeCycle_cyclePos a a.cycleIds.toList a.cycleValues.toList
  unfold endCycle
  split
  all_goals
    rename_i heq
    rw [heq] at hc
    exact hc

end SpinLidar.Status.Accumulator
