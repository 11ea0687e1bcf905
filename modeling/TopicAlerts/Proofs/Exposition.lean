import Mathlib.Data.Bool.AllAny
import TopicAlerts.Console.Run
import TopicAlerts.Proofs.BareIntegers
import TopicAlerts.Proofs.TextParts

/-!
# Reading the published counts

The text of the metrics has a line for every count, between lines that only name a type. Looking up
a series in it gives the double nearest to its count (`Metrics.lookup_exposition`): the text falls
into the lines that were written (`Metrics.linesOf_exposition`), and a line is of use for the one
series that it starts with (`Metrics.valueOn?_sample`).

The digits of a count are read as the nearest double, of which there is only one, and which is the
count itself up to `2⁵³` (`Reading.ofText?_toDigits`, `Binary64.isNearest_ofNat`,
`Binary64.IsNearest.unique`).
-/

namespace TopicAlerts

/-! ## The nearest double -/

namespace Binary64

variable {n : Nat}

/-- How far a double is from a natural number, counted in least positive doubles. -/
def distance (x : Binary64) (n : Nat) : Nat := (x.value - (n * unitsOfOne : Nat)).natAbs

/-- No double is nearer to the natural number, and where another one is as near, this one has the
even magnitude. Zero is the one without a sign. -/
structure IsNearest (x : Binary64) (n : Nat) : Prop where
  unsigned : x.negative = false
  distance_le : ∀ y : Binary64, x.distance n ≤ y.distance n
  even_of_tie : ∀ y, y ≠ x → y.distance n = x.distance n → x.magnitude % 2 = 0

/-- A natural number is rounded to one of the two magnitudes around it. -/
theorem roundRatio_natural_cases (n : Nat) : ∃ below,
    unitsOf below ≤ n * unitsOfOne ∧ n * unitsOfOne < unitsOf (below + 1) ∧
      (roundRatio n 1 = below ∧
          n * unitsOfOne - unitsOf below ≤ unitsOf (below + 1) - n * unitsOfOne ∨
        roundRatio n 1 = below + 1 ∧
          unitsOf (below + 1) - n * unitsOfOne ≤ n * unitsOfOne - unitsOf below) ∧
      (n * unitsOfOne - unitsOf below = unitsOf (below + 1) - n * unitsOfOne →
        roundRatio n 1 % 2 = 0) := by
  have hround : roundRatio n 1 = scaleOf n 1 * 2 ^ 52 +
      roundHalfEven (n * unitsOfOne) (2 ^ scaleOf n 1) := by
    rw [← Nat.one_mul (2 ^ scaleOf n 1)]
    rfl
  have hplace : n * unitsOfOne / 1 = n * unitsOfOne := Nat.div_one _
  obtain ⟨hlimit, hscale⟩ := div_two_pow_log2 (n * unitsOfOne / 1)
  change _ / 2 ^ scaleOf n 1 < _ at hlimit
  change scaleOf n 1 = 0 ∨ _ ≤ _ / 2 ^ scaleOf n 1 at hscale
  rw [hplace] at hlimit hscale
  have hcases := roundHalfEven_cases (n * unitsOfOne) (2 ^ scaleOf n 1)
  have htie : 2 * (n * unitsOfOne % 2 ^ scaleOf n 1) = 2 ^ scaleOf n 1 →
      roundHalfEven (n * unitsOfOne) (2 ^ scaleOf n 1) % 2 = 0 := by
    intro hhalf
    have heven : roundHalfEven (n * unitsOfOne) (2 ^ scaleOf n 1) =
        n * unitsOfOne / 2 ^ scaleOf n 1 + n * unitsOfOne / 2 ^ scaleOf n 1 % 2 := by
      simp [roundHalfEven, hhalf]
    omega
  have hparts := Nat.div_add_mod (n * unitsOfOne) (2 ^ scaleOf n 1)
  have hrest := Nat.mod_lt (n * unitsOfOne) (Nat.two_pow_pos (scaleOf n 1))
  have hbelow := unitsOf_parts hlimit.le hscale
  have habove := unitsOf_succ (scaleOf n 1 * 2 ^ 52 + n * unitsOfOne / 2 ^ scaleOf n 1)
  rw [step_parts hlimit hscale, hbelow] at habove
  rw [Nat.mul_comm] at hparts
  refine ⟨scaleOf n 1 * 2 ^ 52 + n * unitsOfOne / 2 ^ scaleOf n 1, ?_⟩
  rw [hbelow, habove, hround]
  generalize n * unitsOfOne / 2 ^ scaleOf n 1 = quotient at *
  generalize n * unitsOfOne % 2 ^ scaleOf n 1 = rest at *
  generalize n * unitsOfOne = exact at *
  generalize quotient * 2 ^ scaleOf n 1 = floor at *
  omega

/-- There is no double between the two neighbours. -/
theorem value_outside (y : Binary64) (below : Nat) :
    y.value ≤ unitsOf below ∨ (unitsOf (below + 1) : Int) ≤ y.value := by
  unfold value
  cases y.negative with
  | true => exact .inl (by simp only [if_true]; omega)
  | false =>
    simp only [Bool.false_eq_true, if_false, Nat.cast_le]
    rcases Nat.lt_or_ge below y.magnitude with hmore | hless
    · exact .inr (unitsOf_strictMono.monotone hmore)
    · exact .inl (unitsOf_strictMono.monotone hless)

/-- Doubles of the same value are the same, zero apart. -/
theorem eq_of_value_eq {x y : Binary64} (hx : x.negative = false) (h : y.value = x.value) :
    y = x ∨ x.magnitude = 0 := by
  have hvalue : x.value = unitsOf x.magnitude := by
    rw [value, hx]
    rfl
  have hpos : 0 < unitsOf x.magnitude ↔ 0 < x.magnitude := unitsOf_pos_iff
  rw [hvalue, value, units] at h
  cases hy : y.negative with
  | true =>
    rw [hy, if_pos rfl] at h
    omega
  | false =>
    rw [hy, if_neg Bool.false_ne_true] at h
    have hmagnitude : y.magnitude = x.magnitude := unitsOf_strictMono.injective (by omega)
    obtain ⟨_, _, _⟩ := x
    obtain ⟨_, _, _⟩ := y
    cases hx
    cases hy
    cases hmagnitude
    exact .inl rfl

theorem IsNearest.value_eq {x : Binary64} (h : x.IsNearest n) : x.value = unitsOf x.magnitude := by
  rw [value, h.unsigned]
  rfl

/-- Two nearest doubles would be equally near and both even, with another one between them. -/
theorem IsNearest.magnitude_le {x y : Binary64} (hx : x.IsNearest n) (hy : y.IsNearest n) :
    y.magnitude ≤ x.magnitude := by
  by_contra hmore
  have hsame : y.distance n = x.distance n :=
    Nat.le_antisymm (hy.distance_le x) (hx.distance_le y)
  have hne : y ≠ x := fun heq => hmore (heq ▸ Nat.le_refl _)
  have hxeven := hx.even_of_tie y hne hsame
  have hyeven := hy.even_of_tie x hne.symm hsame.symm
  have hbetween : x.magnitude + 1 < y.magnitude := by omega
  have hnearer := hx.distance_le ⟨false, x.magnitude + 1, hbetween.trans y.finite⟩
  have hmiddle : value ⟨false, x.magnitude + 1, hbetween.trans y.finite⟩ =
      unitsOf (x.magnitude + 1) := rfl
  have hlow : unitsOf x.magnitude < unitsOf (x.magnitude + 1) :=
    unitsOf_strictMono (Nat.lt_succ_self _)
  have hhigh : unitsOf (x.magnitude + 1) < unitsOf y.magnitude := unitsOf_strictMono hbetween
  rw [distance, distance, hx.value_eq] at hsame hnearer
  rw [hy.value_eq] at hsame
  rw [hmiddle] at hnearer
  generalize n * unitsOfOne = exact at *
  omega

/-- There is only one nearest double. -/
theorem IsNearest.unique {x y : Binary64} (hx : x.IsNearest n) (hy : y.IsNearest n) : x = y := by
  have hmagnitude := Nat.le_antisymm (hy.magnitude_le hx) (hx.magnitude_le hy)
  have hsign := hx.unsigned.trans hy.unsigned.symm
  obtain ⟨_, _, _⟩ := x
  obtain ⟨_, _, _⟩ := y
  cases hmagnitude
  cases hsign
  rfl

theorem isNearest_ofNat (hn : n < 2 ^ 64) : (ofNat n).IsNearest n := by
  have hfinite := roundRatio_natural_lt hn
  have hnat : ofNat n = ⟨false, roundRatio n 1, hfinite⟩ := by
    rw [ofNat, ofRatio?, ofMagnitude?, dif_pos hfinite]
    rfl
  have hsign : (ofNat n).negative = false := by rw [hnat]
  have hmagnitude : (ofNat n).magnitude = roundRatio n 1 := by rw [hnat]
  have hvalue : (ofNat n).value = unitsOf (roundRatio n 1) := by
    rw [value, hsign, units, hmagnitude]
    exact if_neg Bool.false_ne_true
  obtain ⟨below, hlow, hhigh, hcases, htie⟩ := roundRatio_natural_cases n
  refine ⟨hsign, fun y => ?_, fun y hne hsame => ?_⟩
  · have houtside := value_outside y below
    rw [distance, distance, hvalue]
    generalize n * unitsOfOne = exact at *
    rcases hcases with ⟨hround, hless⟩ | ⟨hround, hless⟩ <;> rw [hround] <;> omega
  · have houtside := value_outside y below
    by_cases hvalues : y.value = (ofNat n).value
    · rcases eq_of_value_eq hsign hvalues with heq | hzero
      · exact absurd heq hne
      · rw [hzero]
    · rw [distance, distance, hvalue] at hsame
      rw [hvalue] at hvalues
      rw [hmagnitude]
      refine htie ?_
      generalize n * unitsOfOne = exact at *
      rcases hcases with ⟨hround, hless⟩ | ⟨hround, hless⟩ <;>
        rw [hround] at hsame hvalues <;> omega

end Binary64

/-! ## Counts in the text -/

theorem mem_integerChars_toDigits (n : Nat) : ∀ c ∈ Nat.toDigits 10 n, c ∈ integerChars :=
  fun c hc => mem_integerChars_of_isDigit (isDigits_toDigits n c hc)

theorem trimChars_toDigits (n : Nat) : Text.trimChars (Nat.toDigits 10 n) = Nat.toDigits 10 n := by
  have hplain : ∀ c ∈ integerChars, Text.isBlank c = false :=
    List.all_iff_forall_prop.mp (by decide)
  have hsolid (c : Char) (hc : c ∈ Nat.toDigits 10 n) : Text.isBlank c = false :=
    hplain c (mem_integerChars_toDigits n c hc)
  refine Text.trimChars_of_stops (fun c hc => ?_) (fun c hc => ?_)
  · exact hsolid c (List.mem_of_mem_head? hc)
  · exact hsolid c (List.mem_reverse.mp (List.mem_of_mem_head? hc))

theorem Binary64.ofRatio?_natural {n : Nat} (hn : n < 2 ^ 64) :
    ofRatio? false n 1 = some (ofNat n) := by
  have hsome : ofRatio? false n 1 = some ⟨false, roundRatio n 1, roundRatio_natural_lt hn⟩ :=
    dif_pos (roundRatio_natural_lt hn)
  rw [ofNat, hsome]
  rfl

theorem Decimal.toBinary64?_natural {n : Nat} (hn : n < 2 ^ 64) :
    toBinary64? ⟨false, n, 0⟩ = some (Binary64.ofNat n) := by
  by_cases hzero : n = 0
  · subst hzero
    decide +kernel
  · have hcount : digitCount n ≤ 20 :=
      (Nat.length_toDigits_le_iff (by decide) (by decide)).mpr (hn.trans (by decide))
    have hfirst : ¬(n = 0 ∨ (digitCount n : Int) + 0 < -330) := by omega
    have hlimit : ¬(310 : Int) < digitCount n + 0 := by omega
    have hwhole : n * Nat.pow 10 (Int.toNat 0) = n := Nat.mul_one n
    unfold toBinary64?
    simp only [if_neg hfirst, if_neg hlimit, if_neg (Int.lt_irrefl 0), hwhole]
    exact Binary64.ofRatio?_natural hn

/-- The digits of a natural number are read as the nearest double. -/
theorem Reading.ofText?_toDigits {n : Nat} (hn : n < 2 ^ 64) :
    ofText? (Nat.toDigits 10 n) = some (.finite (Binary64.ofNat n)) := by
  have hne : Nat.toDigits 10 n ≠ [] := Nat.toDigits_ne_nil
  have hsign : sign (signed false (Nat.toDigits 10 n ++ [])) = (false, Nat.toDigits 10 n ++ []) :=
    sign_signed (isDigits_toDigits n) hne
  have hdecimal : decimal? false (Nat.toDigits 10 n ++ []) = some ⟨false, n, 0⟩ := by
    rw [decimal?_of_whole false (isDigits_toDigits n) hne (stops_nil _) nofun rfl,
      naturalOf_toDigits]
  rw [List.append_nil] at hsign hdecimal
  change sign (Nat.toDigits 10 n) = _ at hsign
  unfold ofText?
  simp only [hsign, hdecimal, Decimal.toBinary64?_natural hn]
  rfl

namespace Metrics

/-! ## The series of the text -/

/-- The series by their names in the text, and the counts that they show. -/
def published (m : Metrics) : List (String × Nat) := [
  ("tripwire_worker_messages_received_total", m.messagesReceived),
  ("tripwire_worker_rules_evaluated_total", m.rulesEvaluated),
  ("tripwire_worker_rules_matched_total", m.rulesMatched),
  ("tripwire_worker_rule_faults_total", m.ruleFaults),
  ("tripwire_worker_notifications_throttled_total", m.notificationsThrottled),
  ("tripwire_worker_notifications_sent_total", m.notificationsSent),
  ("tripwire_worker_notifications_failed_total", m.notificationsFailed),
  ("tripwire_worker_subscribe_failures_total", m.subscribeFailures),
  ("tripwire_worker_reconcile_runs_total", m.reconcileRuns),
  ("tripwire_worker_active_subscriptions", m.activeSubscriptions),
  ("tripwire_worker_processing_latency_us_sum", m.latencySum),
  ("tripwire_worker_processing_latency_us_count", m.latencyCount)]

/-- The samples of a series with their names in the text. -/
def Series.named (s : Series) : List (String × Nat) :=
  s.samples.map fun (suffix, value) => (s.name ++ suffix, value)

theorem published_eq (m : Metrics) : m.published = m.series.flatMap Series.named := rfl

/-- The characters in the names of series. -/
def isNameChar (c : Char) : Bool := c.isAlphanum || c == '_'

/-- A text of such characters. -/
def IsName (text : String) : Prop := ∀ c ∈ text.toList, isNameChar c = true

instance (text : String) : Decidable (IsName text) :=
  decidable_of_iff (text.toList.all isNameChar = true) List.all_eq_true

theorem IsName.append {s t : String} (hs : IsName s) (ht : IsName t) : IsName (s ++ t) := by
  intro c hc
  rw [String.toList_append, List.mem_append] at hc
  exact hc.elim (hs c) (ht c)

/-- The names of a series and its type are made of such characters. -/
structure Series.IsPlain (s : Series) : Prop where
  name : IsName s.name
  type : IsName s.type
  suffixes : ∀ sample ∈ s.samples, IsName sample.1

theorem isPlain_counter {name : String} (hname : IsName name) (value : Nat) :
    (counter name value).IsPlain := by
  have hstart : IsName "tripwire_worker_" := by decide
  have hend : IsName "_total" := by decide
  have htype : IsName "counter" := by decide
  have hsuffix : IsName "" := by decide
  exact ⟨(hstart.append hname).append hend, htype, List.forall_mem_singleton.mpr hsuffix⟩

theorem isPlain_series (m : Metrics) : ∀ s ∈ m.series, s.IsPlain := by
  have hgauge : Series.IsPlain
      ⟨"tripwire_worker_active_subscriptions", "gauge", [("", m.activeSubscriptions)]⟩ := by
    have hnames : IsName "tripwire_worker_active_subscriptions" ∧ IsName "gauge" ∧
        IsName "" := by decide
    exact ⟨hnames.1, hnames.2.1, by simpa using hnames.2.2⟩
  have hsummary : Series.IsPlain ⟨"tripwire_worker_processing_latency_us", "summary",
      [("_sum", m.latencySum), ("_count", m.latencyCount)]⟩ := by
    have hnames : IsName "tripwire_worker_processing_latency_us" ∧ IsName "summary" ∧
        IsName "_sum" ∧ IsName "_count" := by decide
    exact ⟨hnames.1, hnames.2.1, by simpa using hnames.2.2⟩
  unfold series
  simp only [List.forall_mem_cons]
  refine ⟨?_, ?_, ?_, ?_, ?_, ?_, ?_, ?_, ?_, hgauge, hsummary, nofun⟩
  all_goals exact isPlain_counter (by decide) _

/-! ## The lines of the text -/

/-- The characters in the lines of the text. -/
def isLineChar (c : Char) : Bool := isNameChar c || c == '#' || c == ' '

/-- The line of a sample. -/
def sampleLine (sample : String × Nat) : String := sample.1 ++ " " ++ toString sample.2

theorem lines_eq (s : Series) :
    s.lines = ("# TYPE " ++ s.name ++ " " ++ s.type) :: s.named.map sampleLine := by
  unfold Series.lines Series.named
  rw [List.map_map]
  rfl

theorem isNameChar_toDigits (n : Nat) : ∀ c ∈ Nat.toDigits 10 n, isNameChar c = true := by
  intro c hc
  simp [isNameChar, Char.isAlphanum, isDigits_toDigits n c hc]

theorem isLineChar_of_isName {text : String} (h : IsName text) :
    ∀ c ∈ text.toList, isLineChar c = true := by
  intro c hc
  simp [isLineChar, h c hc]

variable {s : Series} {name text line : String} {n : Nat}

theorem isName_named (hs : s.IsPlain) : ∀ sample ∈ s.named, IsName sample.1 := by
  intro sample hsample
  obtain ⟨inner, hinner, rfl⟩ := List.mem_map.mp hsample
  exact hs.name.append (hs.suffixes inner hinner)

theorem isLineChar_lines (hs : s.IsPlain) :
    ∀ line ∈ s.lines, ∀ c ∈ line.toList, isLineChar c = true := by
  have hstart : ∀ c ∈ "# TYPE ".toList, isLineChar c = true := List.all_eq_true.mp (by decide)
  have hspace : ∀ c ∈ " ".toList, isLineChar c = true := List.all_eq_true.mp (by decide)
  intro line hline c hc
  rw [lines_eq] at hline
  rcases List.mem_cons.mp hline with rfl | hsample
  · simp only [String.toList_append, List.mem_append] at hc
    rcases hc with ((hc | hc) | hc) | hc
    · exact hstart c hc
    · exact isLineChar_of_isName hs.name c hc
    · exact hspace c hc
    · exact isLineChar_of_isName hs.type c hc
  · obtain ⟨⟨name, n⟩, hmem, rfl⟩ := List.mem_map.mp hsample
    simp only [sampleLine, String.toList_append, List.mem_append] at hc
    rcases hc with (hc | hc) | hc
    · exact isLineChar_of_isName (isName_named hs _ hmem) c hc
    · exact hspace c hc
    · rw [isLineChar, isNameChar_toDigits n c (by rwa [← Nat.toList_repr])]
      rfl

/-- Lines that each end with a break are all parts between the breaks but the last one, which is
empty. -/
theorem toList_join_lines (lines : List String) : (String.join (lines.map (· ++ "\n"))).toList =
    List.intercalate ['\n'] (lines.map String.toList ++ [[]]) := by
  rw [String.toList_join]
  induction lines with
  | nil => rfl
  | cons line rest ih =>
    have hne : rest.map String.toList ++ [[]] ≠ [] := by simp
    rw [List.map_cons, List.map_cons, List.flatMap_cons, ih, List.cons_append,
      List.intercalate_cons_of_ne_nil hne, String.toList_append]
    rfl

/-- The text falls into the lines that were written. -/
theorem linesOf_exposition (m : Metrics) : linesOf m.exposition.toList =
    (m.series.flatMap Series.lines).map String.toList ++ [[]] := by
  have hchars : ∀ line ∈ (m.series.flatMap Series.lines).map String.toList ++ [[]],
      ∀ c ∈ line, isLineChar c = true := by
    intro line hline c hc
    rcases List.mem_append.mp hline with hwritten | hlast
    · obtain ⟨text, htext, rfl⟩ := List.mem_map.mp hwritten
      obtain ⟨s, hs, hmem⟩ := List.mem_flatMap.mp htext
      exact isLineChar_lines (isPlain_series m s hs) text hmem c hc
    · rw [List.mem_singleton.mp hlast] at hc
      cases hc
  have hbreaks : ∀ line ∈ (m.series.flatMap Series.lines).map String.toList ++ [[]],
      '\n' ∉ line := by
    intro line hline hbreak
    exact absurd (hchars line hline _ hbreak) (by decide)
  rw [linesOf, exposition, toList_join_lines, Text.splitChars_intercalate (by simp) hbreaks]
  refine (List.map_congr_left fun line hline => if_neg fun hreturn => ?_).trans (List.map_id' _)
  exact absurd (hchars line hline _ (List.mem_of_getLast? hreturn)) (by decide)

/-! ## Looking up a series -/

theorem valueOn?_comment (name : List Char) (text : String) :
    valueOn? name ("# TYPE " ++ text).toList = none := by
  rw [String.toList_append]
  exact if_pos rfl

/-- A line has the value of the series at its start, and of no other one. -/
theorem valueOn?_sample (hname : IsName name) (hn : n < 2 ^ 64) (other : String) :
    valueOn? other.toList (sampleLine (name, n)).toList =
      if other = name then some (.finite (Binary64.ofNat n)) else none := by
  have hline : (sampleLine (name, n)).toList = name.toList ++ ' ' :: Nat.toDigits 10 n := by
    rw [sampleLine, String.toList_append, String.toList_append, List.append_assoc,
      ← Nat.toList_repr]
    rfl
  have hspaces : ∀ c ∈ name.toList, (c != ' ') = true := by
    intro c hc
    by_contra hspace
    have hspace : c = ' ' := by simpa using hspace
    exact absurd (hname c hc) (by rw [hspace]; decide)
  have htake : (name.toList ++ ' ' :: Nat.toDigits 10 n).takeWhile (· != ' ') = name.toList :=
    takeWhile_of_stops hspaces (stops_cons (by decide) _)
  have hhead : (name.toList ++ ' ' :: Nat.toDigits 10 n).head? ≠ some '#' := by
    intro hmark
    cases hchars : name.toList with
    | nil =>
      rw [hchars] at hmark
      exact absurd hmark (by simp)
    | cons c rest =>
      rw [hchars] at hmark
      have hc : c = '#' := by simpa using hmark
      exact absurd (hname c (hchars ▸ List.mem_cons_self)) (by rw [hc]; decide)
  rw [hline, valueOn?, if_neg hhead, htake]
  by_cases heq : other = name
  · subst heq
    rw [if_pos rfl, if_pos rfl, List.drop_left]
    show Reading.ofText? (Text.trimChars (Nat.toDigits 10 n)) = _
    rw [trimChars_toDigits, Reading.ofText?_toDigits hn]
  · rw [if_neg (fun hsame => heq (String.toList_inj.mp hsame).symm), if_neg heq]

theorem findSome?_samples {samples : List (String × Nat)}
    (hsamples : ∀ sample ∈ samples, IsName sample.1 ∧ sample.2 < 2 ^ 64) (name : String) :
    ((samples.map sampleLine).map String.toList).findSome? (valueOn? name.toList) =
      (samples.lookup name).map fun n => .finite (Binary64.ofNat n) := by
  induction samples with
  | nil => rfl
  | cons sample rest ih =>
    obtain ⟨⟨hname, hn⟩, hrest⟩ := List.forall_mem_cons.mp hsamples
    rw [List.map_cons, List.map_cons, List.findSome?_cons, List.lookup_cons,
      valueOn?_sample hname hn, ih hrest]
    by_cases heq : name = sample.1
    · rw [if_pos heq, beq_iff_eq.mpr heq]
      rfl
    · rw [if_neg heq, beq_eq_false_iff_ne.mpr heq]

/-- A lookup in the lines is one in the samples. -/
theorem findSome?_lines {series : List Series} (hplain : ∀ s ∈ series, s.IsPlain)
    (hcounts : ∀ sample ∈ series.flatMap Series.named, sample.2 < 2 ^ 64) (name : String) :
    ((series.flatMap Series.lines).map String.toList).findSome? (valueOn? name.toList) =
      ((series.flatMap Series.named).lookup name).map fun n => .finite (Binary64.ofNat n) := by
  induction series with
  | nil => rfl
  | cons s rest ih =>
    obtain ⟨hs, hrest⟩ := List.forall_mem_cons.mp hplain
    rw [List.flatMap_cons, List.forall_mem_append] at hcounts
    have hnamed := findSome?_samples (fun sample hsample =>
      ⟨isName_named hs sample hsample, hcounts.1 sample hsample⟩) name
    have htype := valueOn?_comment name.toList (s.name ++ " " ++ s.type)
    rw [← String.append_assoc, ← String.append_assoc] at htype
    rw [List.flatMap_cons, List.flatMap_cons, List.map_append, List.findSome?_append,
      ih hrest hcounts.2, List.lookup_append, lines_eq, List.map_cons, List.findSome?_cons, htype,
      hnamed]
    cases s.named.lookup name <;> rfl

/-- The lookup of a series in the text gives the double nearest to its count, if the counts have 64
bits. -/
theorem lookup?_exposition {m : Metrics} (hm : ∀ sample ∈ m.published, sample.2 < 2 ^ 64)
    (name : String) : lookup? m.exposition name =
      (m.published.lookup name).map fun n => .finite (Binary64.ofNat n) := by
  have hlast : [[]].findSome? (valueOn? name.toList) = none := by
    cases name.toList <;> rfl
  rw [published_eq] at hm ⊢
  rw [lookup?, linesOf_exposition, List.findSome?_append, hlast, Option.or_none,
    findSome?_lines (isPlain_series m) hm]

theorem names_published (m : Metrics) :
    m.published.map Prod.fst = ({} : Metrics).published.map Prod.fst := rfl

theorem nodup_published (m : Metrics) : (m.published.map Prod.fst).Nodup := by
  rw [names_published]
  decide +kernel

theorem lookup_published {m : Metrics} (h : (name, n) ∈ m.published) :
    m.published.lookup name = some n := by
  obtain ⟨before, after, hsplit⟩ := List.append_of_mem h
  have hnames := nodup_published m
  rw [hsplit, List.map_append, List.nodup_append] at hnames
  refine List.lookup_eq_some_iff.mpr ⟨before, after, hsplit, fun other hother => ?_⟩
  have hdiffers := hnames.2.2 other.1 (List.mem_map_of_mem hother) name List.mem_cons_self
  exact bne_iff_ne.mpr hdiffers.symm

/-- The counters of an overview are all published. -/
theorem mem_published_of_counter (m : Metrics) {label : String}
    (h : (label, name) ∈ Console.Session.counters) : ∃ n, (name, n) ∈ m.published := by
  have hnames : ∀ entry ∈ Console.Session.counters,
      entry.2 ∈ ({} : Metrics).published.map Prod.fst := by decide +kernel
  have hmem := hnames _ h
  rw [← names_published m] at hmem
  obtain ⟨⟨_, n⟩, hsample, rfl⟩ := List.mem_map.mp hmem
  exact ⟨n, hsample⟩

/-- What is read back from the published text. With counts of 64 bits, the lookup of a published
series gives the double nearest to its count, and that is the count itself up to `2⁵³`. So all the
counters of an overview are there. Any other name gives nothing. -/
theorem lookup_exposition {m : Metrics} (hm : ∀ sample ∈ m.published, sample.2 < 2 ^ 64) :
    (∀ name n, (name, n) ∈ m.published → ∃ x : Binary64,
      lookup? m.exposition name = some (.finite x) ∧ x.IsNearest n ∧
        (n ≤ 2 ^ 53 → x.value = (n * Binary64.unitsOfOne : Nat))) ∧
    (∀ label name, (label, name) ∈ Console.Session.counters →
      ((lookup? m.exposition name).bind Reading.finite?).isSome) ∧
    (∀ name, name ∉ m.published.map Prod.fst → lookup? m.exposition name = none) := by
  have hread (name : String) (n : Nat) (h : (name, n) ∈ m.published) :
      lookup? m.exposition name = some (.finite (Binary64.ofNat n)) := by
    rw [lookup?_exposition hm, lookup_published h]
    rfl
  refine ⟨fun name n h => ⟨_, hread name n h, Binary64.isNearest_ofNat (hm _ h), ?_⟩,
    fun label name h => ?_, fun name h => ?_⟩
  · intro hexact
    rw [Binary64.value_ofNat (hm _ h), roundedNat_of_le hexact]
  · obtain ⟨n, hsample⟩ := mem_published_of_counter m h
    rw [hread name n hsample]
    rfl
  · have hnone : m.published.lookup name = none := by
      refine List.lookup_eq_none_iff.mpr fun sample hsample => ?_
      have hdiffers : name ≠ sample.1 := fun heq => h (heq ▸ List.mem_map_of_mem hsample)
      exact bne_iff_ne.mpr hdiffers
    rw [lookup?_exposition hm, hnone]
    rfl

/-- A count that is no double is read as a neighbour of it; the name of the series without its
ending gives nothing. -/
theorem lookup_exposition_received :
    (∃ x : Binary64,
      lookup? ({ messagesReceived := 2 ^ 64 - 1 } : Metrics).exposition
          "tripwire_worker_messages_received_total" = some (.finite x) ∧
        x.IsNearest (2 ^ 64 - 1)) ∧
      lookup? ({ messagesReceived := 2 ^ 64 - 1 } : Metrics).exposition
        "tripwire_worker_messages_received" = none := by
  have hm : ∀ sample ∈ ({ messagesReceived := 2 ^ 64 - 1 } : Metrics).published,
      sample.2 < 2 ^ 64 := by decide
  obtain ⟨hpublished, -, hother⟩ := lookup_exposition hm
  obtain ⟨x, hread, hnearest, -⟩ := hpublished _ _ List.mem_cons_self
  exact ⟨⟨x, hread, hnearest⟩, hother _ (by decide +kernel)⟩

end Metrics

end TopicAlerts
