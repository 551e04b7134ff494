import SpinLidar.Decoder
import Mathlib
namespace SpinLidar.Decoder

def Step.isDraw : Step → Bool
  | .draw _ => true
  | .submit _ | .deliver _ => false

def Step.isSubmit : Step → Bool
  | .submit _ => true
  | .draw _ | .deliver _ => false

theorem prefix_append_cases {α : Type} {es A B : List α} (h : es <+: A ++ B) :
    es <+: A ∨ ∃ t, t <+: B ∧ es = A ++ t := by
  rw [List.prefix_iff_eq_take, List.take_append] at h
  by_cases hl : es.length ≤ A.length
  · left
    rw [h, Nat.sub_eq_zero_of_le hl, List.take_zero, List.append_nil]
    exact List.take_prefix _ _
  · right
    rw [List.take_of_length_le (by omega)] at h
    exact ⟨_, List.take_prefix _ _, h⟩

theorem concat_prefix_append {α : Type} {es A B : List α} {x : α} (h : es ++ [x] <+: A ++ B) :
    es ++ [x] <+: A ∨ ∃ t, t ++ [x] <+: B ∧ es = A ++ t := by
  rcases prefix_append_cases h with h | ⟨t, ht, he⟩
  · exact .inl h
  · rcases List.eq_nil_or_concat t with rfl | ⟨t, y, rfl⟩
    · rw [List.append_nil] at he
      exact .inl (he ▸ List.prefix_refl _)
    · rw [List.concat_eq_append, ← List.append_assoc] at he
      obtain ⟨rfl, hxy⟩ := List.append_inj' he rfl
      rw [List.concat_eq_append, ← hxy] at ht
      exact .inr ⟨t, ht, rfl⟩

theorem exists_prefix_deliver {L : List Step} {k : Nat} (h : k ∈ L.filterMap Step.delivered) :
    ∃ es, es ++ [.deliver k] <+: L := by
  obtain ⟨s, hs, hk⟩ := List.mem_filterMap.1 h
  cases s with
  | deliver j =>
    cases hk
    obtain ⟨es, rest, rfl⟩ := List.mem_iff_append.1 hs
    exact ⟨es, rest, by simp⟩
  | draw _ | submit _ => cases hk

namespace InFlight

variable {window : Nat}

def waitingAfter (window m : Nat) : List Nat := List.range' (m - min m window) (min m window)

def pullSteps (window i : Nat) : List Step :=
  [.draw i] ++ (if window ≤ i then [.deliver (i - window)] else []) ++ [.submit i]

theorem makeRoom_waitingAfter (hw : 0 < window) (m : Nat) :
    makeRoom window (waitingAfter window m) =
      if window ≤ m then ([.deliver (m - window)], List.range' (m - window + 1) (window - 1))
      else ([], waitingAfter window m) := by
  unfold makeRoom waitingAfter
  by_cases hm : window ≤ m
  · obtain ⟨c, rfl⟩ : ∃ c, window = c + 1 := ⟨window - 1, by omega⟩
    have hmin : min m (c + 1) = c + 1 := by omega
    simp only [hmin, List.range'_succ, List.length_cons, List.length_range', if_true, hm,
      Nat.add_sub_cancel]
  · have hmin : min m window = m := by omega
    have hlen : m ≠ window := by omega
    simp only [hmin, List.length_range', hlen, hm, if_false]

theorem pull_waitingAfter (hw : 0 < window) (m : Nat) :
    (⟨m, waitingAfter window m⟩ : InFlight).pull window =
      (pullSteps window m, ⟨m + 1, waitingAfter window (m + 1)⟩) := by
  rw [pull, makeRoom_waitingAfter hw]
  unfold pullSteps waitingAfter
  by_cases hm : window ≤ m
  · obtain ⟨c, rfl⟩ : ∃ c, window = c + 1 := ⟨window - 1, by omega⟩
    have hmin : min (m + 1) (c + 1) = c + 1 := by omega
    have hstart : m + 1 - (c + 1) = m - (c + 1) + 1 := by omega
    have hlast : m - (c + 1) + 1 + c = m := by omega
    simp only [hm, if_true, hmin, hstart, Nat.add_sub_cancel, List.range'_1_concat, hlast]
  · have hmin : min (m + 1) window = m + 1 := by omega
    have hmin' : min m window = m := by omega
    simp only [hm, if_false, hmin, hmin', Nat.sub_self, List.range'_1_concat, Nat.zero_add]

theorem pulls_succ (m : Nat) :
    pulls window (m + 1) =
      ((pulls window m).1 ++ ((pulls window m).2.pull window).1,
        ((pulls window m).2.pull window).2) :=
  rfl

theorem pulls_snd (hw : 0 < window) (m : Nat) : (pulls window m).2 = ⟨m, waitingAfter window m⟩ := by
  induction m with
  | zero => rfl
  | succ m ih => rw [pulls_succ, ih, pull_waitingAfter hw]

theorem pulls_fst_succ (hw : 0 < window) (m : Nat) :
    (pulls window (m + 1)).1 = (pulls window m).1 ++ pullSteps window m := by
  rw [pulls_succ, pulls_snd hw, pull_waitingAfter hw]

theorem pullSteps_counts (window i : Nat) :
    (pullSteps window i).countP Step.isDraw = 1 ∧ (pullSteps window i).countP Step.isSubmit = 1 ∧
      (pullSteps window i).filterMap Step.delivered = if window ≤ i then [i - window] else [] := by
  unfold pullSteps
  split_ifs <;> exact ⟨rfl, rfl, rfl⟩

theorem pulls_counts (hw : 0 < window) (m : Nat) :
    (pulls window m).1.countP Step.isDraw = m ∧ (pulls window m).1.countP Step.isSubmit = m := by
  induction m with
  | zero => exact ⟨rfl, rfl⟩
  | succ m ih =>
    obtain ⟨hd, hs, -⟩ := pullSteps_counts window m
    rw [pulls_fst_succ hw, List.countP_append, List.countP_append, ih.1, ih.2, hd, hs]
    exact ⟨rfl, rfl⟩

theorem pulls_delivered (hw : 0 < window) (m : Nat) :
    (pulls window m).1.filterMap Step.delivered = List.range (m - window) := by
  induction m with
  | zero => rw [Nat.zero_sub]; rfl
  | succ m ih =>
    rw [pulls_fst_succ hw, List.filterMap_append, ih, (pullSteps_counts window m).2.2]
    by_cases hm : window ≤ m
    · rw [if_pos hm, show m + 1 - window = m - window + 1 by omega, List.range_succ]
    · rw [if_neg hm, List.append_nil, show m + 1 - window = m - window by omega]

theorem prefix_pullSteps {t : List Step} {i : Nat} (h : t <+: pullSteps window i) :
    t = [] ∨ t = [.draw i] ∨ (window ≤ i ∧ t = [.draw i, .deliver (i - window)]) ∨
      t = pullSteps window i := by
  obtain ⟨r, hr⟩ := h
  unfold pullSteps at hr ⊢
  split_ifs at hr ⊢ with hi
  all_goals
    rcases t with _ | ⟨a, _ | ⟨b, _ | ⟨c, _ | ⟨d, t⟩⟩⟩⟩ <;> simp_all

theorem deliver_prefix_pullSteps {t : List Step} {i k : Nat}
    (h : t ++ [.deliver k] <+: pullSteps window i) :
    window ≤ i ∧ t = [.draw i] ∧ k = i - window := by
  rcases prefix_pullSteps h with ht | ht | ⟨hi, ht⟩ | ht
  · simp at ht
  · rcases t with _ | ⟨a, t⟩ <;> simp at ht
  · rcases t with _ | ⟨a, _ | ⟨b, t⟩⟩ <;> simp_all
  · unfold pullSteps at ht
    split_ifs at ht <;> rcases t with _ | ⟨a, _ | ⟨b, _ | ⟨c, t⟩⟩⟩ <;> simp_all

/-- While the source gives packets, a delivery is the `k`-th, with `k` deliveries and
`k + window + 1` draws before it: packet `k + window` is drawn before it waits for room. -/
theorem delivery_in_pulls (hw : 0 < window) (m : Nat) {es : List Step} {k : Nat}
    (h : es ++ [.deliver k] <+: (pulls window m).1) :
    (es.filterMap Step.delivered).length = k ∧ es.countP Step.isDraw = k + window + 1 ∧
      k + window + 1 ≤ m := by
  induction m with
  | zero => exact absurd (List.prefix_nil.1 h) (by simp)
  | succ m ih =>
    rw [pulls_fst_succ hw] at h
    rcases concat_prefix_append h with h | ⟨t, ht, rfl⟩
    · obtain ⟨hk, hd, hm⟩ := ih h
      exact ⟨hk, hd, by omega⟩
    · obtain ⟨hm, rfl, rfl⟩ := deliver_prefix_pullSteps ht
      have hd : [Step.draw m].filterMap Step.delivered = [] ∧ [Step.draw m].countP Step.isDraw = 1 :=
        ⟨rfl, rfl⟩
      rw [List.filterMap_append, List.countP_append, pulls_delivered hw, (pulls_counts hw m).1,
        hd.1, hd.2, List.append_nil, List.length_range]
      omega

theorem submitted_in_pulls (hw : 0 < window) (m : Nat) {es : List Step}
    (h : es <+: (pulls window m).1) :
    es.countP Step.isSubmit ≤ (es.filterMap Step.delivered).length + window := by
  induction m with
  | zero => rw [List.prefix_nil.1 h]; exact Nat.zero_le _
  | succ m ih =>
    rw [pulls_fst_succ hw] at h
    rcases prefix_append_cases h with h | ⟨t, ht, rfl⟩
    · exact ih h
    · rw [List.filterMap_append, List.countP_append, pulls_delivered hw, (pulls_counts hw m).2,
        List.length_append, List.length_range]
      -- packet `m` is submitted only after the delivery that made room for it
      rcases prefix_pullSteps ht with rfl | rfl | ⟨hm, rfl⟩ | rfl
      · simp
        omega
      · simp [Step.isSubmit]
        omega
      · simp [Step.isSubmit]
        omega
      · obtain ⟨-, hs, hdel⟩ := pullSteps_counts window m
        rw [hs, hdel]
        split_ifs <;> simp only [List.length_singleton, List.length_nil] <;> omega

end InFlight

theorem prefix_map_deliver {t : List Step} {s c : Nat}
    (h : t <+: (List.range' s c).map Step.deliver) :
    ∃ j ≤ c, t = (List.range' s j).map Step.deliver := by
  induction c generalizing s t with
  | zero => exact ⟨0, le_rfl, by simpa using h⟩
  | succ c ih =>
    rw [List.range'_succ, List.map_cons, List.prefix_cons_iff] at h
    rcases h with rfl | ⟨t, rfl, ht⟩
    · exact ⟨0, Nat.zero_le _, rfl⟩
    · obtain ⟨j, hj, rfl⟩ := ih ht
      exact ⟨j + 1, by omega, by rw [List.range'_succ, List.map_cons]⟩

theorem map_deliver_counts (l : List Nat) :
    (l.map Step.deliver).countP Step.isDraw = 0 ∧ (l.map Step.deliver).countP Step.isSubmit = 0 ∧
      (l.map Step.deliver).filterMap Step.delivered = l := by
  simp [List.countP_map, Function.comp_def, Step.isDraw, Step.isSubmit, List.filterMap_map,
    Step.delivered]

theorem pipeline_eq_pulls (workers n : Nat) :
    pipeline workers n =
      (InFlight.pulls (2 * workers) n).1 ++ (InFlight.pulls (2 * workers) n).2.drain :=
  rfl

theorem pipeline_eq {workers : Nat} (hw : 1 ≤ workers) (n : Nat) :
    pipeline workers n = (InFlight.pulls (2 * workers) n).1 ++
      (InFlight.waitingAfter (2 * workers) n).map Step.deliver := by
  rw [pipeline_eq_pulls, InFlight.pulls_snd (by omega)]
  rfl

/-- The pipeline delivers every packet once, in the order the packets were drawn: the packets
delivered while drawing and those drained at the end meet without a gap or an overlap. -/
theorem delivered_pipeline {workers : Nat} (hw : 1 ≤ workers) (n : Nat) :
    (pipeline workers n).filterMap Step.delivered = List.range n := by
  rw [pipeline_eq hw, List.filterMap_append, InFlight.pulls_delivered (by omega),
    (map_deliver_counts _).2.2, InFlight.waitingAfter, List.range_eq_range', List.range_eq_range',
    show n - min n (2 * workers) = 0 + 1 * (n - 2 * workers) by omega, List.range'_append]
  congr 1
  omega

theorem delivery_in_pipeline {workers : Nat} (hw : 1 ≤ workers) (n : Nat) {es : List Step}
    {k : Nat} (h : es ++ [.deliver k] <+: pipeline workers n) :
    (es.filterMap Step.delivered).length = k ∧
      es.countP Step.isDraw = min n (k + 2 * workers + 1) := by
  rw [pipeline_eq hw] at h
  rcases concat_prefix_append h with h | ⟨t, ht, rfl⟩
  · obtain ⟨hk, hd, hn⟩ := InFlight.delivery_in_pulls (by omega) n h
    exact ⟨hk, by omega⟩
  · -- a delivery while draining: every packet has been drawn
    rw [InFlight.waitingAfter] at ht
    obtain ⟨j, hj, hjt⟩ := prefix_map_deliver ht
    rcases j with _ | j
    · simp at hjt
    · rw [List.range'_1_concat, List.map_append, List.map_singleton] at hjt
      obtain ⟨rfl, hk⟩ := List.append_inj' hjt rfl
      obtain ⟨hd, -, hdel⟩ := map_deliver_counts (List.range' (n - min n (2 * workers)) j)
      rw [List.filterMap_append, List.countP_append, InFlight.pulls_delivered (by omega),
        (InFlight.pulls_counts (by omega) n).1, hd, hdel, List.length_append, List.length_range,
        List.length_range']
      simp only [List.cons.injEq, Step.deliver.injEq, and_true] at hk
      omega

theorem submitted_in_pipeline {workers : Nat} (hw : 1 ≤ workers) (n : Nat) {es : List Step}
    (h : es <+: pipeline workers n) :
    es.countP Step.isSubmit ≤ (es.filterMap Step.delivered).length + 2 * workers := by
  rw [pipeline_eq hw] at h
  rcases prefix_append_cases h with h | ⟨t, ht, rfl⟩
  · exact InFlight.submitted_in_pulls (by omega) n h
  · obtain ⟨j, -, rfl⟩ := prefix_map_deliver ht
    obtain ⟨-, hs, hdel⟩ := map_deliver_counts (List.range' (n - min n (2 * workers)) j)
    rw [List.filterMap_append, List.countP_append, InFlight.pulls_delivered (by omega),
      (InFlight.pulls_counts (by omega) n).2, hs, hdel, List.length_append, List.length_range,
      List.length_range']
    omega

/-- The events of the pipeline on a source of `n` packets, `n` finite or not, once it has drawn
`m` of them: it drains once the source has run out, and goes on drawing while it has not. -/
def stepsOn (workers : ℕ) (n : ℕ∞) (m : ℕ) : List Step :=
  if (m : ℕ∞) = n then pipeline workers m else (InFlight.pulls (2 * workers) m).1

def RunPrefix (workers : ℕ) (n : ℕ∞) (es : List Step) : Prop :=
  ∃ m : ℕ, (m : ℕ∞) ≤ n ∧ es <+: stepsOn workers n m

theorem pulls_prefix_stepsOn (workers : ℕ) (n : ℕ∞) (m : ℕ) :
    (InFlight.pulls (2 * workers) m).1 <+: stepsOn workers n m := by
  unfold stepsOn
  split
  · rw [pipeline_eq_pulls]
    exact List.prefix_append _ _
  · exact List.prefix_refl _

theorem RunPrefix.delivery {workers : ℕ} (hw : 1 ≤ workers) {n : ℕ∞} {es : List Step} {k : ℕ}
    (h : RunPrefix workers n (es ++ [.deliver k])) :
    (es.filterMap Step.delivered).length = k ∧
      (es.countP Step.isDraw : ℕ∞) = min n (k + 2 * workers + 1 : ℕ) := by
  obtain ⟨m, hm, h⟩ := h
  unfold stepsOn at h
  split_ifs at h with hn
  · -- the source ran out after `m` packets
    subst hn
    obtain ⟨hk, hd⟩ := delivery_in_pipeline hw m h
    exact ⟨hk, by rw [hd, Nat.mono_cast.map_min]⟩
  · -- the source holds more than the `m` packets drawn
    obtain ⟨hk, hd, hle⟩ := InFlight.delivery_in_pulls (by omega) m h
    have hlt : ((k + 2 * workers + 1 : ℕ) : ℕ∞) < n :=
      lt_of_le_of_lt (Nat.cast_le.2 hle) (lt_of_le_of_ne hm hn)
    exact ⟨hk, by rw [hd, min_eq_right hlt.le]⟩

theorem RunPrefix.delivers {workers : ℕ} (hw : 1 ≤ workers) {n : ℕ∞} {k : ℕ} (hk : (k : ℕ∞) < n) :
    ∃ es, RunPrefix workers n (es ++ [.deliver k]) := by
  by_cases hlong : ((k + 2 * workers + 1 : ℕ) : ℕ∞) ≤ n
  · -- the window fills past packet `k` while the source still gives packets
    have hin : k ∈ (InFlight.pulls (2 * workers) (k + 2 * workers + 1)).1.filterMap
        Step.delivered := by
      rw [InFlight.pulls_delivered (by omega), List.mem_range]
      omega
    obtain ⟨es, hes⟩ := exists_prefix_deliver hin
    exact ⟨es, _, hlong, hes.trans (pulls_prefix_stepsOn _ _ _)⟩
  · -- the source runs out first, after `N` packets, and packet `k` is delivered by the drain
    obtain ⟨N, rfl⟩ := ENat.ne_top_iff_exists.1 (ne_top_of_lt (not_le.1 hlong))
    have hin : k ∈ (pipeline workers N).filterMap Step.delivered := by
      rw [delivered_pipeline hw, List.mem_range]
      exact_mod_cast hk
    obtain ⟨es, hes⟩ := exists_prefix_deliver hin
    exact ⟨es, N, le_rfl, by rwa [stepsOn, if_pos rfl]⟩

theorem RunPrefix.submitted {workers : ℕ} (hw : 1 ≤ workers) {n : ℕ∞} {es : List Step}
    (h : RunPrefix workers n es) :
    es.countP Step.isSubmit ≤ (es.filterMap Step.delivered).length + 2 * workers := by
  obtain ⟨m, -, h⟩ := h
  unfold stepsOn at h
  split_ifs at h
  · exact submitted_in_pipeline hw m h
  · exact InFlight.submitted_in_pulls (by omega) m h

/-- The pipeline reads its source only as fast as its results are taken. On a source of `n`
packets, finite or not, every packet is delivered, and a delivery is the `k`-th, with `k`
deliveries and exactly `min n (k + 2 · workers + 1)` draws before it: at most
`2 · workers + 1` packets are drawn before the first result. At no moment do more than
`2 · workers` submitted packets wait for their results. -/
theorem pipeline_reads_ahead (workers : ℕ) (hw : 1 ≤ workers) (n : ℕ∞) :
    (∀ es k, RunPrefix workers n (es ++ [.deliver k]) →
      (es.filterMap Step.delivered).length = k ∧
        (es.countP Step.isDraw : ℕ∞) = min n (k + 2 * workers + 1 : ℕ)) ∧
    (∀ es k, RunPrefix workers n (es ++ [.deliver k]) → es.filterMap Step.delivered = [] →
      es.countP Step.isDraw ≤ 2 * workers + 1) ∧
    (∀ k : ℕ, (k : ℕ∞) < n → ∃ es, RunPrefix workers n (es ++ [.deliver k])) ∧
    ∀ es, RunPrefix workers n es →
      es.countP Step.isSubmit ≤ (es.filterMap Step.delivered).length + 2 * workers := by
  refine ⟨fun es k h => h.delivery hw, fun es k h hfirst => ?_,
    fun k hk => RunPrefix.delivers hw hk, fun es h => h.submitted hw⟩
  obtain ⟨hk, hd⟩ := h.delivery hw
  rw [hfirst, List.length_nil] at hk
  subst hk
  have hle : (es.countP Step.isDraw : ℕ∞) ≤ (2 * workers + 1 : ℕ) := by
    rw [hd, Nat.zero_add]
    exact min_le_right _ _
  exact_mod_cast hle

theorem pipeline_reads_ahead_unbounded :
    1 ≤ 2 ∧
    (∀ es k, RunPrefix 2 ⊤ (es ++ [.deliver k]) →
      (es.filterMap Step.delivered).length = k ∧
        (es.countP Step.isDraw : ℕ∞) = min (⊤ : ℕ∞) (k + 2 * 2 + 1 : ℕ)) ∧
    (∀ es k, RunPrefix 2 ⊤ (es ++ [.deliver k]) → es.filterMap Step.delivered = [] →
      es.countP Step.isDraw ≤ 2 * 2 + 1) ∧
    (∀ k : ℕ, (k : ℕ∞) < ⊤ → ∃ es, RunPrefix 2 ⊤ (es ++ [.deliver k])) ∧
    ∀ es, RunPrefix 2 ⊤ es →
      es.countP Step.isSubmit ≤ (es.filterMap Step.delivered).length + 2 * 2 :=
  ⟨by decide, pipeline_reads_ahead 2 (by decide) ⊤⟩

end SpinLidar.Decoder
