import Mathlib.Algebra.Order.Ring.Int
import Mathlib.Data.List.Induction
import Mathlib.Tactic.Ring
import TopicAlerts.Throttle.Window

/-!
# Fixed windows on the grid of their periods

A window that is asked at instants that never go back, and never `2³²` periods late, keeps to the
grid of its periods: the period that it is in starts at a point of the grid, and what it still
admits is what the calls of that period have left over. So whether a call is admitted depends only
on the earlier calls in the same cell of the grid (`Window.tryAcquire_after`).
-/

namespace TopicAlerts.Throttle

/-- The cell of an instant in the grid of periods that starts at `origin`. -/
def cell (origin : Int) (period : Nat) (instant : Int) : Int := (instant - origin) / period

/-- The calls that lie in the same cell as an instant. -/
def callsInCell (origin : Int) (period : Nat) (calls : List Int) (instant : Int) : List Int :=
  calls.filter fun call => cell origin period call = cell origin period instant

section Cell

variable {origin : Int} {period : Nat}

@[simp] theorem cell_self : cell origin period origin = 0 := by simp [cell]

theorem cell_mono {s t : Int} (h : s ≤ t) : cell origin period s ≤ cell origin period t := by
  unfold cell
  rcases Nat.eq_zero_or_pos period with rfl | hP
  · simp
  · exact Int.ediv_le_ediv (by omega) (by omega)

theorem cell_nonneg {t : Int} (h : origin ≤ t) : 0 ≤ cell origin period t := by
  unfold cell
  exact Int.ediv_nonneg (by omega) (Int.natCast_nonneg period)

theorem start_of_cell_le (hP : 0 < period) (t : Int) :
    origin + period * cell origin period t ≤ t := by
  have h := Int.mul_ediv_self_le (x := t - origin) (k := (period : Int)) (by omega)
  unfold cell
  omega

/-- Whole periods after the start of a cell, the cells have moved on by as many. -/
theorem ediv_of_elapsed (hP : 0 < period) (k t : Int) :
    (t - (origin + period * k)) / period = cell origin period t - k := by
  have hP' : (period : Int) ≠ 0 := by omega
  have h : t - (origin + period * k) = (t - origin) + period * (-k) := by ring
  rw [h, Int.add_mul_ediv_left _ _ hP']
  unfold cell
  omega

theorem callsInCell_append (calls : List Int) (call t : Int) :
    callsInCell origin period (calls ++ [call]) t = callsInCell origin period calls t ++
      (if cell origin period call = cell origin period t then [call] else []) := by
  unfold callsInCell
  rw [List.filter_append]
  split_ifs with h <;> simp [h]

theorem callsInCell_congr {calls : List Int} {s t : Int}
    (h : cell origin period s = cell origin period t) :
    callsInCell origin period calls s = callsInCell origin period calls t := by
  unfold callsInCell
  rw [h]

/-- In a later cell than all calls there are no calls. -/
theorem callsInCell_eq_nil {calls : List Int} {last t : Int} (hle : ∀ call ∈ calls, call ≤ last)
    (h : cell origin period last < cell origin period t) :
    callsInCell origin period calls t = [] := by
  unfold callsInCell
  rw [List.filter_eq_nil_iff]
  intro call hcall
  have hcell : cell origin period call ≤ cell origin period last := cell_mono (hle call hcall)
  simp only [decide_eq_true_eq]
  omega

end Cell

namespace Window

/-- The window made at `origin` after some calls. -/
def after (permits period : Nat) (origin : Int) (calls : List Int) : Window :=
  calls.foldl (fun window call => (window.tryAcquire call).2) (new permits period origin)

@[simp] theorem after_nil (permits period : Nat) (origin : Int) :
    after permits period origin [] = new permits period origin := rfl

theorem after_append (permits period : Nat) (origin : Int) (calls : List Int) (call : Int) :
    after permits period origin (calls ++ [call]) =
      ((after permits period origin calls).tryAcquire call).2 := by
  simp [after]

@[simp] theorem refill_permits (window : Window) (now : Int) :
    (window.refill now).permits = window.permits := by
  unfold refill
  split_ifs <;> rfl

@[simp] theorem refill_period (window : Window) (now : Int) :
    (window.refill now).period = window.period := by
  unfold refill
  split_ifs <;> rfl

/-- A window that has permits and periods of some length admits a call if any permits are left
after refilling, and takes one. -/
theorem tryAcquire_of_pos {window : Window} (hN : 0 < window.permits) (hP : 0 < window.period)
    (now : Int) :
    window.tryAcquire now = (decide (0 < (window.refill now).available),
      { window.refill now with available := (window.refill now).available - 1 }) := by
  unfold tryAcquire
  rw [if_neg (by omega), if_neg (by omega)]
  rcases hr : window.refill now with ⟨permits, period, available, start⟩
  cases available <;> simp

theorem tryAcquire_of_permits_eq_zero {window : Window} (hN : window.permits = 0) (now : Int) :
    window.tryAcquire now = (false, window) := by
  simp [tryAcquire, hN]

theorem tryAcquire_permits (window : Window) (now : Int) :
    (window.tryAcquire now).2.permits = window.permits := by
  rcases Nat.eq_zero_or_pos window.permits with hN | hN
  · rw [tryAcquire_of_permits_eq_zero hN]
  · rcases Nat.eq_zero_or_pos window.period with hP | hP
    · simp [tryAcquire, hN.ne', hP]
    · rw [tryAcquire_of_pos hN hP]; exact refill_permits window now

theorem tryAcquire_period (window : Window) (now : Int) :
    (window.tryAcquire now).2.period = window.period := by
  rcases Nat.eq_zero_or_pos window.permits with hN | hN
  · rw [tryAcquire_of_permits_eq_zero hN]
  · rcases Nat.eq_zero_or_pos window.period with hP | hP
    · simp [tryAcquire, hN.ne', hP]
    · rw [tryAcquire_of_pos hN hP]; exact refill_period window now

theorem after_settings (permits period : Nat) (origin : Int) (calls : List Int) :
    (after permits period origin calls).permits = permits ∧
      (after permits period origin calls).period = period := by
  induction calls using List.reverseRecOn with
  | nil => exact ⟨rfl, rfl⟩
  | append_singleton calls call ih =>
    rw [after_append, tryAcquire_permits, tryAcquire_period]
    exact ih

/-- What a window on the grid of its periods has come to after some calls, the last of which was
not after `last`: its period starts at the point of the grid below `last`, and it has given away
one permit for each call in that period as long as there were any. -/
structure OnGrid (window : Window) (origin : Int) (calls : List Int) (last : Int) : Prop where
  origin_le : origin ≤ last
  calls_le : ∀ call ∈ calls, call ≤ last
  start_eq : window.start = origin + window.period * cell origin window.period last
  available_eq :
    window.available = window.permits - (callsInCell origin window.period calls last).length

theorem OnGrid.new (permits period : Nat) (origin : Int) :
    OnGrid (Window.new permits period origin) origin [] origin where
  origin_le := le_rfl
  calls_le := by simp
  start_eq := by simp [Window.new]
  available_eq := by simp [Window.new, callsInCell]

/-- Refilling brings a window to the cell of the present instant, before the call is counted. -/
theorem OnGrid.refill {window : Window} {origin last now : Int} {calls : List Int}
    (h : OnGrid window origin calls last) (hP : 0 < window.period) (hnow : last ≤ now)
    (hspan : now - origin < UInt32.size * window.period) :
    OnGrid (window.refill now) origin calls now := by
  have hle : window.start ≤ now := by
    rw [h.start_eq]; exact (start_of_cell_le hP last).trans hnow
  have helapsed : (window.elapsed now : Int) = now - window.start := by
    unfold elapsed; omega
  -- how many cells the present instant is ahead
  have hahead : (window.elapsed now : Int) / window.period =
      cell origin window.period now - cell origin window.period last := by
    rw [helapsed, h.start_eq, ediv_of_elapsed hP]
  have hcalls : ∀ call ∈ calls, call ≤ now := fun call hc => (h.calls_le call hc).trans hnow
  unfold Window.refill
  split_ifs with hlt
  · -- the present instant is still in the cell of `last`
    have hzero : (window.elapsed now : Int) / window.period = 0 :=
      Int.ediv_eq_zero_of_lt (by omega) (by omega)
    have hcell : cell origin window.period now = cell origin window.period last := by omega
    exact ⟨h.origin_le.trans hnow, hcalls, by rw [hcell]; exact h.start_eq,
      by rw [callsInCell_congr hcell]; exact h.available_eq⟩
  · have hpos : 0 < (window.elapsed now : Int) / window.period := by
      have := Int.le_ediv_of_mul_le (a := 1) (b := window.elapsed now) (c := window.period)
        (by omega) (by omega)
      omega
    have hsmall : window.elapsed now / window.period < UInt32.size := by
      rw [Nat.div_lt_iff_lt_mul hP]
      have horigin : origin ≤ window.start := by
        have hcell : 0 ≤ cell origin window.period last := cell_nonneg h.origin_le
        have hshift := mul_nonneg (Int.natCast_nonneg window.period) hcell
        rw [h.start_eq]
        omega
      have : (window.elapsed now : Int) < UInt32.size * window.period := by omega
      exact_mod_cast this
    have hstart :
        window.nextStart now = origin + window.period * cell origin window.period now := by
      unfold nextStart
      simp only [hsmall, if_true]
      push_cast
      rw [hahead, h.start_eq]
      ring
    have hnone : callsInCell origin window.period calls now = [] :=
      callsInCell_eq_nil h.calls_le (by omega)
    exact ⟨h.origin_le.trans hnow, hcalls, hstart, by simp [hnone]⟩

/-- One call of a window on the grid: it is admitted if fewer calls than there are permits lie in
its cell, and the window stays on the grid. -/
theorem OnGrid.tryAcquire {window : Window} {origin last now : Int} {calls : List Int}
    (h : OnGrid window origin calls last) (hN : 0 < window.permits) (hP : 0 < window.period)
    (hnow : last ≤ now) (hspan : now - origin < UInt32.size * window.period) :
    (window.tryAcquire now).1 =
        decide ((callsInCell origin window.period calls now).length < window.permits) ∧
      OnGrid (window.tryAcquire now).2 origin (calls ++ [now]) now := by
  have hr := h.refill hP hnow hspan
  have havail := hr.available_eq
  rw [refill_permits, refill_period] at havail
  rw [tryAcquire_of_pos hN hP]
  refine ⟨?_, hr.origin_le, ?_, hr.start_eq, ?_⟩
  · rw [havail, decide_eq_decide]; omega
  · intro call hcall
    rcases List.mem_append.mp hcall with hc | hc
    · exact hr.calls_le call hc
    · rw [List.mem_singleton.mp hc]
  · show (window.refill now).available - 1 = (window.refill now).permits -
      (callsInCell origin (window.refill now).period (calls ++ [now]) now).length
    rw [refill_permits, refill_period, havail, callsInCell_append, if_pos rfl, List.length_append,
      List.length_singleton]
    omega

/-- A window stays on the grid over any number of calls. -/
theorem onGrid_after {permits period : Nat} {origin : Int} (hN : 0 < permits) (hP : 0 < period)
    (calls : List Int) (sorted : (origin :: calls).Pairwise (· ≤ ·))
    (span : ∀ call ∈ calls, call - origin < UInt32.size * period) :
    OnGrid (after permits period origin calls) origin calls
      ((origin :: calls).getLast (List.cons_ne_nil _ _)) := by
  induction calls using List.reverseRecOn with
  | nil => exact OnGrid.new permits period origin
  | append_singleton calls call ih =>
    rw [← List.cons_append, List.pairwise_append] at sorted
    obtain ⟨sorted, -, hle⟩ := sorted
    have hgrid := ih sorted fun c hc => span c (List.mem_append_left _ hc)
    obtain ⟨hpermits, hperiod⟩ := after_settings permits period origin calls
    have hstep := hgrid.tryAcquire (by omega) (by omega)
      (hle _ (List.getLast_mem _) call (List.mem_singleton_self call))
      (by rw [hperiod]; exact span call (by simp))
    rw [after_append]
    simp only [← List.cons_append, List.getLast_concat]
    exact hstep.2

/-- A call is admitted if and only if fewer earlier calls than there are permits lie in the same
cell of the grid. -/
theorem tryAcquire_after {permits period : Nat} {origin : Int} (hP : 0 < period)
    (calls : List Int) (now : Int) (sorted : (origin :: (calls ++ [now])).Pairwise (· ≤ ·))
    (span : ∀ call ∈ calls ++ [now], call - origin < UInt32.size * period) :
    ((after permits period origin calls).tryAcquire now).1 =
      decide ((callsInCell origin period calls now).length < permits) := by
  obtain ⟨hpermits, hperiod⟩ := after_settings permits period origin calls
  rcases Nat.eq_zero_or_pos permits with hN | hN
  · rw [tryAcquire_of_permits_eq_zero (by omega)]
    simp [hN]
  · rw [← List.cons_append, List.pairwise_append] at sorted
    obtain ⟨sorted, -, hle⟩ := sorted
    have hgrid := onGrid_after hN hP calls sorted fun c hc => span c (List.mem_append_left _ hc)
    have hstep := hgrid.tryAcquire (by omega) (by omega)
      (hle _ (List.getLast_mem _) now (List.mem_singleton_self now))
      (by rw [hperiod]; exact span now (by simp))
    rw [hstep.1, hpermits, hperiod]

end Window

end TopicAlerts.Throttle
