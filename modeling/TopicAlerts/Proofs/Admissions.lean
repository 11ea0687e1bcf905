import TopicAlerts.Proofs.WindowGrid

/-!
# What a fixed window admits

A window that is asked at instants that never go back admits, in each cell of its grid, the first
calls up to its permits and no others (`Window.admits_iff_callsInCell`).

On a clock that may go back or leave out any number of periods, the grid is lost: after `2³²`
periods or more without a call the window starts anew at the call. What is left is a bound. The
start of the period never goes back, and each refill moves it on by a whole period at least, so
between the making of a window and its current period there were no more refills than periods fit in
between. The permits that were given out so far, with those that are still there, are thus at most
the permits of that many periods (`Window.Bounded`, kept by each call: `Window.Bounded.tryAcquire`).
-/

namespace TopicAlerts.Throttle.Window

/-- Those of some calls that a window admits. -/
def admitted (window : Window) : List Int → List Int
  | [] => []
  | call :: rest =>
    let (allowed, window) := window.tryAcquire call
    if allowed then call :: window.admitted rest else window.admitted rest

theorem admitted_concat (window : Window) (calls : List Int) (call : Int) :
    window.admitted (calls ++ [call]) = window.admitted calls ++
      (if ((calls.foldl (fun window call => (window.tryAcquire call).2) window).tryAcquire call).1
        then [call] else []) := by
  induction calls generalizing window with
  | nil => cases h : (window.tryAcquire call).1 <;> simp [admitted, h]
  | cons first rest ih =>
    rw [List.cons_append, List.foldl_cons]
    unfold admitted
    rcases window.tryAcquire first with ⟨allowed, next⟩
    cases allowed
    · exact ih next
    · exact congrArg (first :: ·) (ih next)

/-- The calls that the window made at `origin` admits. -/
theorem admitted_append (permits period : Nat) (origin : Int) (calls : List Int) (call : Int) :
    (new permits period origin).admitted (calls ++ [call]) =
      (new permits period origin).admitted calls ++
        (if ((after permits period origin calls).tryAcquire call).1 then [call] else []) :=
  admitted_concat _ calls call

/-! ## Instants that never go back -/

section Grid

variable {permits period : Nat} {origin : Int}

/-- In each cell the first calls are admitted, as many as there are permits. -/
theorem length_admittedInCell (permits : Nat) (hP : 0 < period) (calls : List Int)
    (sorted : (origin :: calls).Pairwise (· ≤ ·))
    (span : ∀ call ∈ calls, call - origin < UInt32.size * period) (t : Int) :
    (callsInCell origin period ((new permits period origin).admitted calls) t).length =
      min permits (callsInCell origin period calls t).length := by
  induction calls using List.reverseRecOn with
  | nil => simp [admitted, callsInCell]
  | append_singleton calls call ih =>
    have hadmits := @tryAcquire_after permits _ _ hP calls call sorted span
    have hcount := ih (sorted.sublist (by simp)) fun c hc => span c (List.mem_append_left _ hc)
    rw [admitted_append, hadmits, callsInCell_append]
    by_cases hcell : cell origin period call = cell origin period t
    · rw [if_pos hcell, callsInCell_congr hcell]
      by_cases hroom : (callsInCell origin period calls t).length < permits
      · rw [if_pos (decide_eq_true hroom), callsInCell_append, if_pos hcell, List.length_append,
          List.length_append, hcount]
        simp only [List.length_singleton]
        omega
      · rw [if_neg (by simpa using hroom), List.append_nil, List.length_append, hcount]
        simp only [List.length_singleton]
        omega
    · -- a call in another cell counts on neither side
      rw [if_neg hcell, List.append_nil, ← hcount]
      split_ifs
      · rw [callsInCell_append, if_neg hcell, List.append_nil]
      · rw [List.append_nil]

/-- At instants that never go back, from the making of the window on and for fewer than `2³²`
periods, a call is admitted if and only if fewer earlier calls than there are permits lie in its
cell of the grid. If there are permits at all, the window is then in the period of that cell, and
it still has the permits that were not given to the calls admitted in the cell. -/
theorem admits_iff_callsInCell (hP : 0 < period) (calls : List Int) (now : Int)
    (sorted : (origin :: (calls ++ [now])).Pairwise (· ≤ ·))
    (span : ∀ call ∈ calls ++ [now], call - origin < 2 ^ 32 * period) :
    let window := after permits period origin calls
    let next := (window.tryAcquire now).2
    let given := (new permits period origin).admitted (calls ++ [now])
    ((window.tryAcquire now).1 = true ↔ (callsInCell origin period calls now).length < permits) ∧
      (0 < permits → next.start = origin + cell origin period now * period ∧
        next.available + (callsInCell origin period given now).length = permits) := by
  intro window next given
  have hadmits := @tryAcquire_after permits _ _ hP calls now sorted span
  refine ⟨by rw [hadmits, decide_eq_true_eq], fun hN => ?_⟩
  have hgrid := onGrid_after hN hP (calls ++ [now]) sorted span
  have hgiven := length_admittedInCell permits hP (calls ++ [now]) sorted span now
  obtain ⟨hpermits, hperiod⟩ := after_settings permits period origin (calls ++ [now])
  have hnext : after permits period origin (calls ++ [now]) = next := after_append ..
  simp only [← List.cons_append, List.getLast_concat] at hgrid
  have hstart := hgrid.start_eq
  have havailable := hgrid.available_eq
  rw [hnext] at hpermits hperiod hstart havailable
  rw [hperiod] at hstart havailable
  rw [hpermits] at havailable
  refine ⟨by rw [hstart, mul_comm], ?_⟩
  rw [hgiven, havailable]
  omega

/-- Of two calls in each ten nanoseconds, the third call in a period is refused, though a whole
period before it had no calls at all. -/
theorem thirdInTen_refused :
    let window := after 2 10 0 [0, 3, 25, 40, 46]
    (window.tryAcquire 49).1 = false ∧ (window.tryAcquire 49).2.start = 40 ∧
      (window.tryAcquire 49).2.available = 0 := by
  intro window
  have hP : 0 < 10 := by decide
  have sorted : ((0 : Int) :: ([0, 3, 25, 40, 46] ++ [49])).Pairwise (· ≤ ·) := by decide
  have span : ∀ call ∈ [0, 3, 25, 40, 46] ++ [49], call - (0 : Int) < 2 ^ 32 * (10 : Nat) := by
    decide
  obtain ⟨hiff, hperiod⟩ := @admits_iff_callsInCell 2 10 0 hP [0, 3, 25, 40, 46] 49 sorted span
  obtain ⟨hstart, hleft⟩ := hperiod (by decide)
  have hfull : ¬(callsInCell 0 10 [0, 3, 25, 40, 46] 49).length < 2 := by decide
  have hgiven : (callsInCell 0 10 ((new 2 10 0).admitted ([0, 3, 25, 40, 46] ++ [49])) 49).length =
      2 := by decide
  refine ⟨eq_false_of_ne_true (mt hiff.mp hfull), hstart.trans (by decide), ?_⟩
  rw [hgiven] at hleft
  exact Nat.add_eq_right.mp hleft

end Grid

/-! ## Any clock -/

/-- The latest of some instants, and of the one that a window was made at. -/
def latest (origin : Int) (calls : List Int) : Int := calls.foldl max origin

theorem latest_append (origin : Int) (calls : List Int) (call : Int) :
    latest origin (calls ++ [call]) = max (latest origin calls) call := by
  simp [latest]

/-- The periods that were left out when the current one is over, as a length of time. -/
def skipped (window : Window) (now : Int) : Nat :=
  window.period * (window.elapsed now / window.period)

/-- The start of the period that an instant lies in, with each result in a word of its size: the
number of periods in 32 bits, their length in a duration, of which `longest` is the greatest, and
the start in an instant, of which `last` is the last. If the number or the length is too great, the
period starts with the present instant; if the start is too late, there is no result. -/
def wordStart? (longest : Nat) (last : Int) (window : Window) (now : Int) : Option Int :=
  if window.elapsed now / window.period < UInt32.size ∧ window.skipped now ≤ longest then
    if window.start + window.skipped now ≤ last then some (window.start + window.skipped now)
    else none
  else some now

/-- A window goes on to another period: the current one is over, and the way to the start of the
other stays below the present instant, so that words hold all of it. -/
structure MovesOn (window : Window) (now : Int) : Prop where
  due : window.start + window.period ≤ now
  /-- The product is no longer than the time that passed. -/
  skipped_le : window.skipped now ≤ window.elapsed now
  /-- The sum is no later than the present instant. -/
  start_le : window.start + window.skipped now ≤ now
  /-- As the time that passed is a duration, and the present instant an instant, no result is too
  great for its word but the number of periods. -/
  wordStart : ∀ longest last, window.elapsed now ≤ longest → now ≤ last →
    window.wordStart? longest last now = some (window.refill now).start

section AnyClock

variable {window : Window} {origin now : Int}

theorem skipped_le_elapsed (window : Window) (now : Int) :
    window.skipped now ≤ window.elapsed now :=
  Nat.mul_div_le ..

theorem start_add_elapsed (due : window.start + window.period ≤ now) :
    window.start + window.elapsed now = now := by
  unfold elapsed
  omega

theorem nextStart_eq (window : Window) (now : Int) :
    window.nextStart now = if window.elapsed now / window.period < UInt32.size then
      window.start + window.skipped now else now := rfl

/-- Until its period is over a window stays as it is, and then it starts another one with all its
permits. -/
theorem refill_cases (hP : 0 < window.period) (now : Int) :
    now < window.start + window.period ∧ window.refill now = window ∨
      window.start + window.period ≤ now ∧ window.refill now =
        { window with start := window.nextStart now, available := window.permits } := by
  unfold refill
  split_ifs with hlt
  · refine .inl ⟨?_, rfl⟩
    unfold elapsed at hlt
    omega
  · refine .inr ⟨?_, rfl⟩
    unfold elapsed at hlt
    omega

/-- The other period starts a whole period later at least, and no later than the present instant. -/
theorem nextStart_bounds (hP : 0 < window.period) (due : window.start + window.period ≤ now) :
    window.start + window.period ≤ window.nextStart now ∧ window.nextStart now ≤ now := by
  have helapsed := start_add_elapsed due
  have hle := skipped_le_elapsed window now
  have hone : 1 ≤ window.elapsed now / window.period :=
    (Nat.one_le_div_iff hP).mpr (by omega)
  have hperiod : window.period ≤ window.skipped now := Nat.le_mul_of_pos_right _ hone
  rw [nextStart_eq]
  split_ifs <;> omega

/-- A refill that changes a window moves it on to another period. -/
theorem movesOn_of_refill_ne (hP : 0 < window.period) (changed : window.refill now ≠ window) :
    window.MovesOn now := by
  obtain ⟨-, hkept⟩ | ⟨due, hrefill⟩ := refill_cases hP now
  · exact absurd hkept changed
  have helapsed := start_add_elapsed due
  have hle := skipped_le_elapsed window now
  refine ⟨due, hle, by omega, fun longest last hlongest hlast => ?_⟩
  have hstart : (window.refill now).start = window.nextStart now := by rw [hrefill]
  have hfits : window.skipped now ≤ longest := hle.trans hlongest
  have hinstant : window.start + window.skipped now ≤ last := by omega
  rw [hstart, nextStart_eq, wordStart?]
  simp only [hfits, hinstant, and_true, if_true]
  split_ifs <;> rfl

/-- What is known of a window on any clock, after calls up to the instant `latest` of which it
admitted so many. -/
structure Bounded (window : Window) (origin latest : Int) (given : Nat) : Prop where
  origin_le : origin ≤ window.start
  start_le : window.start ≤ latest
  available_le : window.available ≤ window.permits
  /-- The permits that were given out and those that are still there are those of the periods that
  fit in up to the current one. -/
  given_le : (given + window.available : Int) ≤
    window.permits * (1 + cell origin window.period window.start)

theorem bounded_new (permits period : Nat) (origin : Int) :
    Bounded (new permits period origin) origin origin 0 where
  origin_le := le_rfl
  start_le := le_rfl
  available_le := le_rfl
  given_le := by simp [new]

/-- Refilling gives the permits of one period at most, and moves on by one at least. -/
theorem Bounded.refill {latest : Int} {given : Nat} (h : window.Bounded origin latest given)
    (hP : 0 < window.period) (now : Int) :
    (window.refill now).Bounded origin (max latest now) given := by
  obtain ⟨-, hkept⟩ | ⟨due, hrefill⟩ := refill_cases hP now
  · rw [hkept]
    exact ⟨h.origin_le, le_max_of_le_left h.start_le, h.available_le, h.given_le⟩
  obtain ⟨hlow, hhigh⟩ := nextStart_bounds hP due
  -- off the grid too, a start that is a period later lies in a later cell
  have hcell : cell origin window.period window.start + 1 ≤
      cell origin window.period (window.nextStart now) := by
    have hshift : cell origin window.period (window.start + window.period) =
        cell origin window.period window.start + 1 := by
      unfold cell
      rw [add_sub_right_comm, Int.add_ediv_of_dvd_right (dvd_refl _), Int.ediv_self (by omega)]
    rw [← hshift]
    exact cell_mono hlow
  have horigin := h.origin_le
  have hgiven := h.given_le
  rw [hrefill]
  refine ⟨by dsimp only; omega, le_max_of_le_right hhigh, le_rfl, ?_⟩
  calc (given + window.permits : Int)
      ≤ window.permits * (1 + cell origin window.period window.start) + window.permits := by omega
    _ = window.permits * (1 + (cell origin window.period window.start + 1)) := by ring
    _ ≤ window.permits * (1 + cell origin window.period (window.nextStart now)) :=
        mul_le_mul_of_nonneg_left (by omega) (by omega)

/-- A call takes a permit that is there. -/
theorem Bounded.tryAcquire {latest : Int} {given : Nat} (h : window.Bounded origin latest given)
    (hP : 0 < window.period) (now : Int) :
    (window.tryAcquire now).2.Bounded origin (max latest now)
      (given + if (window.tryAcquire now).1 then 1 else 0) := by
  rcases Nat.eq_zero_or_pos window.permits with hN | hN
  · rw [tryAcquire_of_permits_eq_zero hN]
    exact ⟨h.origin_le, le_max_of_le_left h.start_le, h.available_le, h.given_le⟩
  have hr := h.refill hP now
  have havailable := hr.available_le
  have hgiven := hr.given_le
  rw [tryAcquire_of_pos hN hP]
  refine ⟨hr.origin_le, hr.start_le, by dsimp only; omega, ?_⟩
  dsimp only
  simp only [decide_eq_true_eq]
  split_ifs <;> omega

/-- Whatever the instants of the calls are, they keep a window within its bounds. -/
theorem bounded_after (permits : Nat) {period : Nat} (hP : 0 < period) (origin : Int)
    (calls : List Int) :
    (after permits period origin calls).Bounded origin (latest origin calls)
      ((new permits period origin).admitted calls).length := by
  induction calls using List.reverseRecOn with
  | nil => exact bounded_new permits period origin
  | append_singleton calls call ih =>
    obtain ⟨-, hperiod⟩ := after_settings permits period origin calls
    have hstep := ih.tryAcquire (by omega) call
    rw [after_append, latest_append, admitted_append, List.length_append]
    split_ifs at hstep ⊢ <;> exact hstep

/-- No call moves the start of the period back. -/
theorem start_le_tryAcquire (hP : 0 < window.period) (now : Int) :
    window.start ≤ (window.tryAcquire now).2.start := by
  rcases Nat.eq_zero_or_pos window.permits with hN | hN
  · rw [tryAcquire_of_permits_eq_zero hN]
  rw [tryAcquire_of_pos hN hP]
  show window.start ≤ (window.refill now).start
  obtain ⟨-, hkept⟩ | ⟨due, hrefill⟩ := refill_cases hP now
  · rw [hkept]
  · obtain ⟨hlow, -⟩ := nextStart_bounds hP due
    rw [hrefill]
    dsimp only
    omega

/-- After any calls, at instants in any order and with gaps of any length, a window has admitted no
more calls than there are permits in the periods that have started up to the latest instant. It has
no more than its permits left; the start of its period has not gone back, and is not after all
instants so far; and it was refilled only if its period was over, without a result too great for its
word. -/
theorem tryAcquire_bounds {permits period : Nat} (hP : 0 < period) (origin : Int)
    (calls : List Int) (now : Int) :
    (((new permits period origin).admitted (calls ++ [now])).length : Int) ≤
        permits * (1 + (latest origin (calls ++ [now]) - origin) / period) ∧
      let window := after permits period origin calls
      let next := (window.tryAcquire now).2
      next.available ≤ permits ∧ window.start ≤ next.start ∧
        next.start ≤ latest origin (calls ++ [now]) ∧
        (window.refill now ≠ window → window.MovesOn now) := by
  set last := latest origin (calls ++ [now])
  set window := after permits period origin calls
  set next := (window.tryAcquire now).2
  obtain ⟨hpermits, hperiod⟩ := after_settings permits period origin calls
  have hwindow : 0 < window.period := by rw [hperiod]; exact hP
  have hbounded := bounded_after permits hP origin (calls ++ [now])
  have hnext : after permits period origin (calls ++ [now]) = next := after_append ..
  obtain ⟨hpermits', hperiod'⟩ := after_settings permits period origin (calls ++ [now])
  rw [hnext] at hbounded hpermits' hperiod'
  have havailable := hbounded.available_le
  have hgiven := hbounded.given_le
  rw [hpermits'] at havailable hgiven
  rw [hperiod'] at hgiven
  have hcell : cell origin period next.start ≤ cell origin period last :=
    cell_mono hbounded.start_le
  refine ⟨?_, havailable, start_le_tryAcquire hwindow now, hbounded.start_le,
    movesOn_of_refill_ne hwindow⟩
  calc (((new permits period origin).admitted (calls ++ [now])).length : Int)
      ≤ permits * (1 + cell origin period next.start) := by omega
    _ ≤ permits * (1 + cell origin period last) := mul_le_mul_of_nonneg_left (by omega) (by omega)

/-- After a call long before the window was made, a pause of more than `2³²` periods starts the
window anew at the next call, off the grid; its calls stay within the bounds. -/
theorem longPause_bounds :
    let pause : Int := 10 * 2 ^ 32 + 7
    let window := after 1 10 0 [4, -30]
    window.MovesOn pause ∧ (window.tryAcquire pause).2.start = pause ∧
      (((new 1 10 0).admitted ([4, -30] ++ [pause])).length : Int) ≤ 1 * (1 + (2 ^ 32)) := by
  intro pause window
  obtain ⟨hgiven, -, -, -, hmoves⟩ :=
    @tryAcquire_bounds 1 10 (by decide) 0 [4, -30] pause
  exact ⟨hmoves (by decide), by decide, hgiven.trans (by decide)⟩

end AnyClock

end TopicAlerts.Throttle.Window
