import SpinLidar.Proofs.DecodeFaults
import SpinLidar.Proofs.PipelineWindow
import SpinLidar.Proofs.FloatRemainder
import Mathlib.Data.List.SplitBy
namespace SpinLidar.Decoder

open Rounding

variable (d : Decoder)

def acceptedRows (packets : List ByteArray) : List (List Point) :=
  packets.filterMap fun buf => (d.decode buf).toOption

theorem foldl_streamStep_skip (packets : List ByteArray) (n : Nat) (pts : List Point)
    (ws : List String) :
    ((packets.zipIdx n).foldl (d.streamStep true) ⟨.ok pts, ws⟩).result =
      .ok (pts ++ (d.acceptedRows packets).flatten) := by
  induction packets generalizing n pts ws with
  | nil => simp [acceptedRows]
  | cons buf rest ih =>
    rw [List.zipIdx_cons, List.foldl_cons]
    cases h : d.decode buf with
    | ok more => simp [streamStep, h, ih, acceptedRows, Except.toOption]
    | error e => simp [streamStep, h, ih, acceptedRows, Except.toOption]

theorem stream_skip (packets : List ByteArray) :
    (d.stream packets true).result = .ok (d.acceptedRows packets).flatten := by
  simpa [stream] using d.foldl_streamStep_skip packets 0 [] []

theorem parallel_eq (workers : Int) (hw : 1 ≤ workers) (packets : List ByteArray) :
    d.parallel workers packets = .ok (packets.zipIdx.map fun (buf, i) => (i, d.decode buf)) := by
  let result := fun i => (i, d.decode (packets.getD i ByteArray.empty))
  rw [parallel, if_neg (by omega)]
  congr 1
  calc _ = ((pipeline workers.toNat packets.length).filterMap Step.delivered).map result :=
        List.map_filterMap.symm
    _ = (List.range packets.length).map result := by rw [delivered_pipeline (by omega)]
    _ = _ := by
        apply List.ext_getElem
        · simp
        · intro i h₁ h₂
          have hi : i < packets.length := by simpa using h₁
          simp [result, hi]

def forward (a b : Nat) : Nat := (b + 36000 - a) % 36000

def InArc (a b x : Nat) : Prop := 0 < forward a x ∧ forward a x ≤ forward a b

instance (a b x : Nat) : Decidable (InArc a b x) := inferInstanceAs (Decidable (_ ∧ _))

/-- The decoder's test for a sweep past the split is membership of the split in the arc swept
between the two azimuths: a split equal to the previous azimuth was passed before, one equal to
the current azimuth is passed now, and a step back across zero sweeps through it. -/
theorem crossesSplit_iff {prev cur split : Nat} (hp : prev < 36000) (hc : cur < 36000)
    (hs : split < 36000) : crossesSplit prev cur split = true ↔ InArc prev cur split := by
  unfold crossesSplit InArc forward
  split <;> simp <;> omega

def leadAzimuth (p : Packet) : Nat := (p.blocks.getD 0 default).azimuth % 36000

def accepted (packets : List ByteArray) : List (Nat × List Point) :=
  packets.filterMap fun buf => (d.decodeParsed buf).toOption.map fun x => (leadAzimuth x.1, x.2)

/-- The decoded packets' points, each marked when the packet's leading azimuth crosses the split
from the previous decoded packet's (from `prev` for the first packet). -/
def marks (split : Nat) : Option Nat → List (Nat × List Point) → List (Bool × List Point)
  | _, [] => []
  | prev, (az, pts) :: rest =>
    (prev.any fun a => decide (InArc a az split), pts) :: marks split (some az) rest

def runs (split : Nat) (A : List (Nat × List Point)) : List (List (Bool × List Point)) :=
  (marks split none A).splitBy fun m _ => !m.1

def rowsOf (run : List (Bool × List Point)) : List Point := run.flatMap (·.2)

def endsTurn (run : List (Bool × List Point)) : Bool := run.getLast?.any (·.1)

section Marks

variable {split : Nat}

theorem marks_append (prev : Option Nat) (A B : List (Nat × List Point)) :
    marks split prev (A ++ B) =
      marks split prev A ++ marks split ((A.getLast?.map (·.1)).or prev) B := by
  induction A generalizing prev with
  | nil => simp [marks]
  | cons x A ih =>
    obtain ⟨az, pts⟩ := x
    rw [List.cons_append, marks, marks, ih, List.cons_append, List.getLast?_cons]
    cases A.getLast? <;> rfl

theorem map_marks (prev : Option Nat) (A : List (Nat × List Point)) :
    (marks split prev A).map (·.2) = A.map (·.2) := by
  induction A generalizing prev with
  | nil => rfl
  | cons x A ih => simp [marks, ih]

theorem flatten_rows_runs (A : List (Nat × List Point)) :
    ((runs split A).map rowsOf).flatten = (A.map (·.2)).flatten := by
  calc ((runs split A).map rowsOf).flatten = ((runs split A).flatten.map (·.2)).flatten := by
        unfold rowsOf
        simp [List.flatMap_def, List.map_flatten, List.flatten_flatten, Function.comp_def]
    _ = ((marks split none A).map (·.2)).flatten := by rw [runs, List.flatten_splitBy]
    _ = (A.map (·.2)).flatten := by rw [map_marks]

end Marks

def Closed (g : List (Bool × List Point)) : Prop :=
  ∃ u pts, g = u ++ [(true, pts)] ∧ ∀ m ∈ u, m.1 = false

theorem isChain_unmarked {l : List (Bool × List Point)} (hl : ∀ m ∈ l, m.1 = false) :
    l.IsChain fun x _ => (!x.1) = true := by
  induction l with
  | nil => exact List.isChain_nil
  | cons a l ih =>
    refine List.IsChain.cons (ih fun m hm => hl m (List.mem_cons_of_mem a hm)) ?_
    intro _ _
    simp [hl a List.mem_cons_self]

theorem splitBy_closed (O : List (Bool × List Point)) (hO : ∀ m ∈ O, m.1 = false) :
    ∀ (G : List (List (Bool × List Point))), (∀ g ∈ G, Closed g) →
      (G.flatten ++ O).splitBy (fun m _ => !m.1) = G ++ (if O = [] then [] else [O])
  | [], _ => by
    by_cases hne : O = []
    · simp [hne]
    · simp [hne, List.splitBy_of_isChain hne (isChain_unmarked hO)]
  | g :: G, hG => by
    obtain ⟨u, pts, rfl, hu⟩ := hG g List.mem_cons_self
    have hg : (u ++ [(true, pts)]).IsChain fun x _ => (!x.1) = true := by
      rw [List.isChain_append]
      refine ⟨isChain_unmarked hu, List.isChain_singleton _, fun x hx _ _ => ?_⟩
      simp [hu x (List.mem_of_getLast? hx)]
    rw [List.flatten_cons, List.append_assoc, List.splitBy_append (by simp),
      List.splitBy_of_isChain (by simp) hg,
      splitBy_closed O hO G fun g' hg' => hG g' (List.mem_cons_of_mem _ hg')]
    rfl

theorem filter_endsTurn_closed {O : List (Bool × List Point)} (hO : ∀ m ∈ O, m.1 = false)
    {G : List (List (Bool × List Point))} (hG : ∀ g ∈ G, Closed g) :
    (G ++ (if O = [] then [] else [O])).filter endsTurn = G := by
  have hclosed : G.filter endsTurn = G := by
    refine List.filter_eq_self.2 fun g hg => ?_
    obtain ⟨u, pts, rfl, -⟩ := hG g hg
    simp [endsTurn]
  by_cases hne : O = []
  · simp [hne, hclosed]
  · have hopen : endsTurn O = false := by
      cases hl : O.getLast? with
      | none => simp [endsTurn, hl]
      | some m => simp [endsTurn, hl, hO m (List.mem_of_getLast? hl)]
    simp [hne, hclosed, hopen]

/-- How a cut stands after the decoded packets `A`: their marks are the runs it completed, each
ended by a packet that crosses the split, then the packets of the turn in progress, none of which
crosses it. -/
structure Cuts (split : Nat) (A : List (Nat × List Point)) (c : TurnCut)
    (G : List (List (Bool × List Point))) (O : List (Bool × List Point)) : Prop where
  marks_eq : marks split none A = G.flatten ++ O
  closed : ∀ g ∈ G, Closed g
  pending : ∀ m ∈ O, m.1 = false
  turns_eq : c.turns = G.map rowsOf
  current_eq : c.current = O.map (·.2)
  previous_eq : c.previous = A.getLast?.map (·.1)

theorem TurnCut.add_eq (split : Nat) (c : TurnCut) (az : Nat) (pts : List Point) :
    c.add split az pts =
      if c.previous.any (crossesSplit · az split) then
        ⟨c.turns ++ [(c.current ++ [pts]).flatten], [], some az⟩
      else ⟨c.turns, c.current ++ [pts], some az⟩ := by
  unfold TurnCut.add
  cases c.previous <;> rfl

theorem Cuts.add {split : Nat} {A : List (Nat × List Point)} {c : TurnCut} {G O}
    (h : Cuts split A c G O) (hA : ∀ x ∈ A, x.1 < 36000) {az : Nat} (haz : az < 36000)
    (hs : split < 36000) (pts : List Point) :
    ∃ G' O', Cuts split (A ++ [(az, pts)]) (c.add split az pts) G' O' := by
  obtain ⟨hmarks, hG, hO, hturns, hcur, hprev⟩ := h
  -- the cut's own test and the mark agree, since every azimuth is below a full turn
  have hcross : c.previous.any (crossesSplit · az split) =
      (A.getLast?.map (·.1)).any fun a => decide (InArc a az split) := by
    rw [hprev]
    cases hl : A.getLast? with
    | none => rfl
    | some x =>
      have hx : x.1 < 36000 := hA x (List.mem_of_getLast? hl)
      simpa using Bool.eq_iff_iff.2 ((crossesSplit_iff hx haz hs).trans decide_eq_true_iff.symm)
  have hmarks' : marks split none (A ++ [(az, pts)]) = G.flatten ++ O ++
      [((A.getLast?.map (·.1)).any fun a => decide (InArc a az split), pts)] := by
    rw [marks_append, hmarks, Option.or_none]
    rfl
  have hlast : (A ++ [(az, pts)]).getLast?.map (·.1) = some az := by simp
  rw [TurnCut.add_eq, hcross]
  cases hb : (A.getLast?.map (·.1)).any fun a => decide (InArc a az split) with
  | true =>
    refine ⟨G ++ [O ++ [(true, pts)]], [], ⟨?_, ?_, by simp, ?_, rfl, hlast.symm⟩⟩
    · simp [hmarks', hb]
    · intro g hg
      rcases List.mem_append.1 hg with hg | hg
      · exact hG g hg
      · exact ⟨O, pts, by simpa using hg, hO⟩
    · simp [hturns, hcur, rowsOf, List.flatMap_def]
  | false =>
    refine ⟨G, O ++ [(false, pts)], ⟨?_, hG, ?_, hturns, ?_, hlast.symm⟩⟩
    · simp [hmarks', hb]
    · intro m hm
      rcases List.mem_append.1 hm with hm | hm
      · exact hO m hm
      · simp at hm
        simp [hm]
    · simp [hcur]

def addAll (split : Nat) (c : TurnCut) (A : List (Nat × List Point)) : TurnCut :=
  A.foldl (fun c x => c.add split x.1 x.2) c

theorem cuts_addAll {split : Nat} (hs : split < 36000) (A : List (Nat × List Point))
    (hA : ∀ x ∈ A, x.1 < 36000) : ∃ G O, Cuts split A (addAll split .empty A) G O := by
  induction A using List.reverseRecOn with
  | nil => exact ⟨[], [], ⟨rfl, by simp, by simp, rfl, rfl, rfl⟩⟩
  | append_singleton A x ih =>
    obtain ⟨G, O, h⟩ := ih fun y hy => hA y (List.mem_append_left _ hy)
    rw [addAll, List.foldl_append, List.foldl_cons, List.foldl_nil]
    exact h.add (fun y hy => hA y (List.mem_append_left _ hy))
      (hA x (List.mem_append_right _ List.mem_cons_self)) hs x.2

theorem finish_addAll {split : Nat} (hs : split < 36000) (A : List (Nat × List Point))
    (hA : ∀ x ∈ A, x.1 < 36000) (includePartial : Bool) :
    (addAll split .empty A).finish includePartial =
      ((runs split A).filter fun r => includePartial || endsTurn r).map rowsOf := by
  obtain ⟨G, O, ⟨hmarks, hG, hO, hturns, hcur, -⟩⟩ := cuts_addAll hs A hA
  rw [runs, hmarks, splitBy_closed O hO G hG, TurnCut.finish, hturns, hcur]
  cases includePartial with
  | false => simp [filter_endsTurn_closed hO hG]
  | true =>
    by_cases hne : O = []
    · simp [hne]
    · simp [hne, rowsOf, List.flatMap_def]

/-- The turns a cut completed are its runs that ended at a crossing: what it gives without
partial turns. -/
theorem turns_addAll {split : Nat} (hs : split < 36000) (A : List (Nat × List Point))
    (hA : ∀ x ∈ A, x.1 < 36000) :
    (addAll split .empty A).turns = ((runs split A).filter endsTurn).map rowsOf := by
  have h := finish_addAll hs A hA false
  simpa [TurnCut.finish] using h

section TurnRuns

variable {split : Nat}

theorem leadAzimuth_lt (p : Packet) : leadAzimuth p < 36000 := Nat.mod_lt _ (by decide)

theorem accepted_lt (packets : List ByteArray) : ∀ x ∈ d.accepted packets, x.1 < 36000 := by
  intro x hx
  obtain ⟨buf, -, hbuf⟩ := List.mem_filterMap.1 hx
  obtain ⟨y, -, rfl⟩ := Option.map_eq_some_iff.1 hbuf
  exact leadAzimuth_lt y.1

theorem accepted_cons_ok {buf : ByteArray} {p : Packet} {pts : List Point}
    (h : d.decodeParsed buf = .ok (p, pts)) (rest : List ByteArray) :
    d.accepted (buf :: rest) = (leadAzimuth p, pts) :: d.accepted rest := by
  simp [accepted, h, Except.toOption]

theorem accepted_cons_error {buf : ByteArray} {e : DecodeError}
    (h : d.decodeParsed buf = .error e) (rest : List ByteArray) :
    d.accepted (buf :: rest) = d.accepted rest := by
  simp [accepted, h, Except.toOption]

theorem map_accepted (packets : List ByteArray) :
    (d.accepted packets).map (·.2) = d.acceptedRows packets := by
  induction packets with
  | nil => rfl
  | cons buf rest ih =>
    cases h : d.decodeParsed buf with
    | ok x =>
      rw [d.accepted_cons_ok h, List.map_cons, ih]
      simp [acceptedRows, decode, h, Except.toOption, Except.map]
    | error e =>
      rw [d.accepted_cons_error h, ih]
      simp [acceptedRows, decode, h, Except.toOption, Except.map]

theorem foldl_turnStep_skip (packets : List ByteArray) (n : Nat) (run : TurnRun)
    (hrun : run.fault = none) :
    ((packets.zipIdx n).foldl (d.turnStep split true) run).fault = none ∧
      ((packets.zipIdx n).foldl (d.turnStep split true) run).cut =
        addAll split run.cut (d.accepted packets) := by
  induction packets generalizing n run with
  | nil => exact ⟨hrun, rfl⟩
  | cons buf rest ih =>
    rw [List.zipIdx_cons, List.foldl_cons]
    cases h : d.decodeParsed buf with
    | error e =>
      have hstep : d.turnStep split true run (buf, n) =
          { run with warnings := run.warnings ++ [skipWarning n e] } := by
        simp [turnStep, hrun, h]
      rw [hstep, d.accepted_cons_error h]
      exact ih (n + 1) _ hrun
    | ok x =>
      obtain ⟨p, pts⟩ := x
      have hstep : d.turnStep split true run (buf, n) =
          { run with cut := run.cut.add split (leadAzimuth p) pts } := by
        simp [turnStep, hrun, h, leadAzimuth]
      rw [hstep, d.accepted_cons_ok h]
      exact ih (n + 1) _ hrun

theorem foldl_turnStep_of_fault (skipErrors : Bool) (l : List ByteArray) (n : Nat) (run : TurnRun)
    {e : DecodeError} (he : run.fault = some e) :
    (l.zipIdx n).foldl (d.turnStep split skipErrors) run = run := by
  induction l generalizing n with
  | nil => rfl
  | cons buf rest ih =>
    rw [List.zipIdx_cons, List.foldl_cons]
    have hstep : d.turnStep split skipErrors run (buf, n) = run := by simp [turnStep, he]
    rw [hstep, ih]

theorem foldl_turnStep_decoded (l : List ByteArray)
    (hl : ∀ b ∈ l, ∃ x, d.decodeParsed b = .ok x) (n : Nat) (run : TurnRun) :
    (l.zipIdx n).foldl (d.turnStep split false) run =
      (l.zipIdx n).foldl (d.turnStep split true) run := by
  induction l generalizing n run with
  | nil => rfl
  | cons buf rest ih =>
    obtain ⟨x, hx⟩ := hl buf List.mem_cons_self
    rw [List.zipIdx_cons, List.foldl_cons, List.foldl_cons,
      ih (fun b hb => hl b (List.mem_cons_of_mem _ hb))]
    congr 1
    simp [turnStep, hx]

theorem turnRun_skip (split : Nat) (packets : List ByteArray) :
    (d.turnRun packets split true).fault = none ∧
      (d.turnRun packets split true).cut = addAll split .empty (d.accepted packets) :=
  d.foldl_turnStep_skip packets 0 _ rfl

theorem turnRun_fault (split : Nat) {pre : List ByteArray} (post : List ByteArray)
    {buf : ByteArray} {e : DecodeError} (hpre : ∀ b ∈ pre, ∃ x, d.decodeParsed b = .ok x)
    (hbuf : d.decodeParsed buf = .error e) :
    (d.turnRun (pre ++ buf :: post) split false).fault = some e ∧
      (d.turnRun (pre ++ buf :: post) split false).cut = addAll split .empty (d.accepted pre) := by
  obtain ⟨hfault, hcut⟩ := d.turnRun_skip split pre
  have hstop : d.turnStep split false (d.turnRun pre split true) (buf, pre.length) =
      { d.turnRun pre split true with fault := some e } := by
    simp [turnStep, hfault, hbuf]
  rw [turnRun, List.zipIdx_append, List.foldl_append, foldl_turnStep_decoded d pre hpre,
    List.zipIdx_cons, List.foldl_cons, Nat.zero_add]
  rw [show (pre.zipIdx 0).foldl (d.turnStep split true) ⟨.empty, none, []⟩ =
    d.turnRun pre split true from rfl, hstop, foldl_turnStep_of_fault d false post _ _ rfl]
  exact ⟨rfl, hcut⟩

end TurnRuns

theorem splitOf_eq {deg : Float} (hdeg : (deg / 0.01).isFinite = true) :
    splitOf deg = .ok (rne (toRat (deg / 0.01)) % 36000).toNat := by
  simp [splitOf, Fault.roundInt, roundInt_eq hdeg, Except.mapError, bind, Except.bind, pure,
    Except.pure]

theorem splitOf_of_infinite {deg : Float} {neg : Bool}
    (hdeg : Binary.ofFloat (deg / 0.01) = .infinite neg) :
    splitOf deg = .error .integerOfInfinity := by
  simp [splitOf, Fault.roundInt, Float.roundInt, hdeg, Except.mapError, bind, Except.bind,
    Fault.ofIntegerFault]

/-- What a stream cut into turns at `split` yields. Skipping faults, the turns are the runs of
the packets that decode, the trailing run only if partial turns are wanted or it ended at a
crossing, and together the runs hold every decoded point once, in order. When faults are not
skipped, the first packet that does not decode stops the stream with its fault after the turns
completed before it, and a stream without such a packet is cut as when skipping. -/
structure CutAtCrossings (packets : List ByteArray) (split : Nat) : Prop where
  skipping : ∀ includePartial, (d.turns packets split true includePartial).fault = none ∧
    (d.turns packets split true includePartial).items =
      ((runs split (d.accepted packets)).filter fun r => includePartial || endsTurn r).map rowsOf
  rows_kept :
    ((runs split (d.accepted packets)).map rowsOf).flatten = (d.acceptedRows packets).flatten
  stopping : ∀ pre buf post e, packets = pre ++ buf :: post →
    (∀ b ∈ pre, ∃ x, d.decodeParsed b = .ok x) → d.decodeParsed buf = .error e →
      ∀ includePartial, (d.turns packets split false includePartial).fault = some e ∧
        (d.turns packets split false includePartial).items =
          ((runs split (d.accepted pre)).filter endsTurn).map rowsOf
  decoded : (∀ b ∈ packets, ∃ x, d.decodeParsed b = .ok x) →
    ∀ includePartial, d.turns packets split false includePartial =
      d.turns packets split true includePartial

theorem cutAtCrossings {split : Nat} (hsplit : split < 36000) (packets : List ByteArray) :
    CutAtCrossings d packets split where
  skipping includePartial := by
    obtain ⟨hfault, hcut⟩ := d.turnRun_skip split packets
    simp [turns, hfault, hcut, finish_addAll hsplit _ (d.accepted_lt packets)]
  rows_kept := by rw [flatten_rows_runs, map_accepted]
  stopping pre buf post e hpackets hpre hbuf includePartial := by
    subst hpackets
    obtain ⟨hfault, hcut⟩ := d.turnRun_fault split post hpre hbuf
    simp [turns, hfault, hcut, turns_addAll hsplit _ (d.accepted_lt pre)]
  decoded hall includePartial := by
    simp only [turns, turnRun, foldl_turnStep_decoded d packets hall]

/-- Cutting a stream into turns at an angle in degrees whose quotient by a hundredth of a degree
is finite: the split is that quotient rounded half to even, modulo a full turn, and the stream is
cut there, a run ending exactly after each decoded packet whose leading azimuth crosses the
split from the previous decoded packet's. -/
theorem iterTurns_cut_at_crossings (deg : Float) (hdeg : (deg / 0.01).isFinite = true)
    (packets : List ByteArray) :
    (∀ skipErrors includePartial, d.iterTurns packets deg skipErrors includePartial =
      .ok (d.turns packets (rne (toRat (deg / 0.01)) % 36000).toNat skipErrors includePartial)) ∧
    CutAtCrossings d packets (rne (toRat (deg / 0.01)) % 36000).toNat := by
  refine ⟨fun skipErrors includePartial => ?_, d.cutAtCrossings ?_ packets⟩
  · simp [iterTurns, splitOf_eq hdeg, Except.map]
  · omega

theorem mixedStream_cut_at_crossings :
    ((0.0 : Float) / 0.01).isFinite = true ∧
    (∀ skipErrors includePartial, (flatDecoder .hdl64e).iterTurns
        [Packet.mixedBytes, .empty, Packet.mixedBytes] 0.0 skipErrors includePartial =
      .ok ((flatDecoder .hdl64e).turns [Packet.mixedBytes, .empty, Packet.mixedBytes]
        (rne (toRat ((0.0 : Float) / 0.01)) % 36000).toNat skipErrors includePartial)) ∧
    CutAtCrossings (flatDecoder .hdl64e) [Packet.mixedBytes, .empty, Packet.mixedBytes]
      (rne (toRat ((0.0 : Float) / 0.01)) % 36000).toNat :=
  ⟨by decide +kernel, iterTurns_cut_at_crossings _ 0.0 (by decide +kernel) _⟩

/-- An angle of `1e307` degrees is finite, but its quotient by a hundredth of a degree is not:
the split overflows and no turn is yielded, not even of an empty stream. -/
theorem iterTurns_overflows_at_finite_angle :
    (1e307 : Float).isFinite = true ∧
      (flatDecoder .hdl32e).iterTurns [] 1e307 true true = .error .integerOfInfinity := by
  have hsplit := splitOf_of_infinite
    (show Binary.ofFloat ((1e307 : Float) / 0.01) = .infinite false by decide +kernel)
  refine ⟨by decide +kernel, ?_⟩
  simp [iterTurns, hsplit, Except.map]

/-- The ordered pipeline hands out one result per packet, in the order of the packets: the
packet's points when it decodes, its fault otherwise. Its points, in that order, are the points
of a decoded stream that skips faults. -/
theorem parallel_keeps_order (workers : Int) (hw : 1 ≤ workers) (packets : List ByteArray) :
    d.parallel workers packets = .ok (packets.zipIdx.map fun (buf, i) => (i, d.decode buf)) ∧
      (d.stream packets true).result =
        .ok ((packets.zipIdx.map fun (buf, i) => (i, d.decode buf)).filterMap
          fun r => r.2.toOption).flatten := by
  refine ⟨d.parallel_eq workers hw packets, ?_⟩
  -- a result's points depend on its packet alone, not on its index
  have hfst : ((fun r : Nat × Except DecodeError (List Point) => r.2.toOption) ∘
      fun x : ByteArray × Nat => (x.2, d.decode x.1)) =
        (fun buf => (d.decode buf).toOption) ∘ Prod.fst :=
    rfl
  rw [stream_skip, List.filterMap_map, hfst, ← List.filterMap_map, List.zipIdx_map_fst]
  rfl

theorem parallel_keeps_order_one_worker :
    (1 : Int) ≤ 1 ∧
    (flatDecoder .hdl64e).parallel 1 [Packet.mixedBytes, ByteArray.empty, Packet.mixedBytes] =
      .ok ([Packet.mixedBytes, ByteArray.empty, Packet.mixedBytes].zipIdx.map fun (buf, i) =>
        (i, (flatDecoder .hdl64e).decode buf)) ∧
    ((flatDecoder .hdl64e).stream [Packet.mixedBytes, ByteArray.empty, Packet.mixedBytes]
        true).result =
      .ok (([Packet.mixedBytes, ByteArray.empty, Packet.mixedBytes].zipIdx.map fun (buf, i) =>
        (i, (flatDecoder .hdl64e).decode buf)).filterMap fun r => r.2.toOption).flatten :=
  ⟨by decide, parallel_keeps_order _ 1 (by decide) _⟩

end SpinLidar.Decoder
