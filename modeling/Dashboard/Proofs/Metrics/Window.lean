import Dashboard.Metrics.Widget

/-! The window of the latest durations of a widget, and the total that is kept beside it. The total is
never summed anew: every duration that comes is added and every one that goes is taken off again, and it
is the sum of the window all the same. The program does this in 128 bits, one duration after another. -/

namespace Dashboard.Metrics.Window

def sum : List Duration → Nat
  | [] => 0
  | span :: rest => span.nanos + sum rest

theorem sum_append (front back : List Duration) : sum (front ++ back) = sum front + sum back := by
  induction front with
  | nil => simp [sum]
  | cons span rest inductionHypothesis =>
    simp only [List.cons_append, sum, inductionHypothesis]
    omega

theorem foldl_eq_sum (spans : List Duration) (start : Nat) :
    spans.foldl (fun total old => total + old.nanos) start = start + sum spans := by
  induction spans generalizing start with
  | nil => rfl
  | cons span rest inductionHypothesis =>
    rw [List.foldl_cons, inductionHypothesis, sum]
    omega

theorem sum_le (spans : List Duration) (short : ∀ span ∈ spans, span ≤ Duration.longest) :
    sum spans ≤ spans.length * Duration.longest.nanos := by
  induction spans with
  | nil => exact Nat.zero_le _
  | cons span rest inductionHypothesis =>
    have first : span.nanos ≤ Duration.longest.nanos := short span List.mem_cons_self
    have others := inductionHypothesis fun span present => short span (List.mem_cons_of_mem _ present)
    rw [sum, List.length_cons, Nat.succ_mul]
    omega

/-- The latest `size` of some durations, oldest first, with their sum. -/
def latest (size : Nat) (spans : List Duration) : Window :=
  let kept := spans.drop (spans.length - size)
  ⟨kept, sum kept⟩

theorem length_latest (size : Nat) (spans : List Duration) :
    (latest size spans).durations.length = min size spans.length := by
  simp only [latest, List.length_drop]
  omega

theorem mem_of_mem_latest {size : Nat} {spans : List Duration} {span : Duration}
    (present : span ∈ (latest size spans).durations) : span ∈ spans := List.mem_of_mem_drop present

theorem latest_of_le {size : Nat} {spans : List Duration} (few : spans.length ≤ size) :
    latest size spans = ⟨spans, sum spans⟩ := by
  have nothing : spans.length - size = 0 := by omega
  simp only [latest, nothing, List.drop_zero]

/-- A window that is full loses its oldest duration when another one comes, and its total loses as
much. -/
theorem push_latest (size : Nat) (spans : List Duration) (span : Duration) :
    (latest size spans).push size span = latest size (spans ++ [span]) := by
  have length := length_latest size spans
  have total : (latest size spans).totalNanos = sum (latest size spans).durations := rfl
  have behind : (spans ++ [span]).drop (spans.length - size) =
      (latest size spans).durations ++ [span] := List.drop_append_of_le_length (Nat.sub_le _ _)
  generalize latest size spans = window at length total behind
  -- what lies beyond the window together with what falls out of it
  have beyond : (spans ++ [span]).length - size =
      (spans.length - size) + ((window.durations ++ [span]).length - size) := by
    simp only [List.length_append, List.length_singleton, length]
    omega
  have kept : (spans ++ [span]).drop ((spans ++ [span]).length - size) =
      (window.durations ++ [span]).drop ((window.durations ++ [span]).length - size) := by
    rw [beyond, ← List.drop_drop, behind]
  have parts := sum_append
    ((window.durations ++ [span]).take ((window.durations ++ [span]).length - size))
    ((window.durations ++ [span]).drop ((window.durations ++ [span]).length - size))
  rw [List.take_append_drop, sum_append, ← total] at parts
  have added : sum [span] = span.nanos := Nat.add_zero _
  simp only [latest, push, kept, foldl_eq_sum, Window.mk.injEq, true_and]
  omega

/-- Only what is in the window matters for what is in it later. -/
theorem latest_append_of_window (size : Nat) (spans : List Duration) (span : Duration) :
    latest size ((latest size spans).durations ++ [span]) = latest size (spans ++ [span]) := by
  have few : (latest size spans).durations.length ≤ size := by
    rw [length_latest]
    exact Nat.min_le_left _ _
  rw [← push_latest, latest_of_le few, ← push_latest]
  rfl

/-- The largest unsigned number of 128 bits. -/
def largestTotal : Nat := 0xffffffffffffffffffffffffffffffff

/-- Drops the oldest duration as long as there are more than `size`, and takes each off the total. There
is no answer when a total is too small for that. -/
def shed? (size : Nat) : List Duration → Nat → Option Window
  | [], total => some ⟨[], total⟩
  | oldest :: rest, total =>
    if size < rest.length + 1 then
      if oldest.nanos ≤ total then shed? size rest (total - oldest.nanos) else none
    else some ⟨oldest :: rest, total⟩

/-- Adds a duration first and sheds the oldest ones then. There is no answer when the total, with all of
them still in it, needs more than 128 bits. -/
def pushWide? (window : Window) (size : Nat) (span : Duration) : Option Window :=
  if window.totalNanos + span.nanos ≤ largestTotal then
    shed? size (window.durations ++ [span]) (window.totalNanos + span.nanos)
  else none

/-- A total that is the sum of its durations covers whatever is shed. -/
theorem shed?_sum (size : Nat) (spans : List Duration) :
    shed? size spans (sum spans) = some (latest size spans) := by
  induction spans with
  | nil =>
    rw [latest_of_le (Nat.zero_le size)]
    rfl
  | cons oldest rest inductionHypothesis =>
    rw [shed?]
    split
    · rename_i many
      have covered : oldest.nanos ≤ sum (oldest :: rest) := Nat.le_add_right _ _
      have left : sum (oldest :: rest) - oldest.nanos = sum rest := Nat.add_sub_cancel_left _ _
      have beyond : (oldest :: rest).length - size = (rest.length - size) + 1 := by
        rw [List.length_cons]
        omega
      rw [if_pos covered, left, inductionHypothesis]
      simp only [latest, beyond, List.drop_succ_cons]
    · rename_i few
      rw [latest_of_le (by rw [List.length_cons]; omega)]

/-- A window of up to 2^34 durations, with another one on top, fits in 128 bits however long they are. -/
theorem total_le_largestTotal {size : Nat} (bound : size ≤ 0x400000000) {spans : List Duration}
    {span : Duration} (short : ∀ other ∈ spans ++ [span], other ≤ Duration.longest) :
    (latest size spans).totalNanos + span.nanos ≤ largestTotal := by
  have window := sum_le (latest size spans).durations fun other present =>
    short other (List.mem_append_left _ (mem_of_mem_latest present))
  have added : span.nanos ≤ Duration.longest.nanos := short span (by simp)
  have few : (latest size spans).durations.length ≤ 0x400000000 := by
    rw [length_latest]
    omega
  have most := Nat.mul_le_mul_right Duration.longest.nanos few
  have fits : 0x400000000 * Duration.longest.nanos + Duration.longest.nanos ≤ largestTotal := by decide
  change sum (latest size spans).durations + span.nanos ≤ largestTotal
  omega

/-- In 128 bits nothing overflows, nothing that is taken off is missing, and the window is the same. -/
theorem pushWide?_latest {size : Nat} (bound : size ≤ 0x400000000) {spans : List Duration}
    {span : Duration} (short : ∀ other ∈ spans ++ [span], other ≤ Duration.longest) :
    (latest size spans).pushWide? size span = some ((latest size spans).push size span) := by
  have total : (latest size spans).totalNanos + span.nanos =
      sum ((latest size spans).durations ++ [span]) := by
    rw [sum_append]
    rfl
  rw [pushWide?, if_pos (total_le_largestTotal bound short), total, shed?_sum,
    latest_append_of_window, push_latest]

/-- The mean is the total over the number of durations, and zero without any. -/
theorem averageMilliseconds_latest {size : Nat} (positive : 0 < size) (spans : List Duration) :
    (latest size spans).averageMilliseconds =
      if spans.length = 0 then 0.0
      else Float.ofNat (latest size spans).totalNanos / 1000000.0 /
        Float.ofNat (min size spans.length) := by
  have nothingKept : (latest size spans).durations.isEmpty = decide (spans.length = 0) := by
    rw [Bool.eq_iff_iff, List.isEmpty_iff_length_eq_zero, length_latest, decide_eq_true_iff]
    omega
  rw [averageMilliseconds, nothingKept, length_latest]
  simp only [decide_eq_true_eq]

end Dashboard.Metrics.Window
