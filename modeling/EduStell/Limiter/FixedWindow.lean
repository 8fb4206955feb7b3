/-
  A fixed-window counter.

  The first arrival opens a window; an arrival more than `width` after the start of the window opens
  the next one; of a window the first `limit` arrivals are admitted.  Arrivals come in order.

  * `counted_of_window` — what the counter says: the last arrivals, all within `width` of the first
    of them.
  * `admitted_le`       — an interval no longer than `width` meets at most two windows, wherever it
    lies: a third one would have to begin more than `width` after the second, which began inside.
-/
import Mathlib.Data.List.Induction
import Mathlib.Data.Nat.Basic

namespace FixedWindow

/-! ## The counter

  The state remembers the last window only; the admitted arrivals are kept for the statements. -/

/-- A window: when it was opened, and how many arrivals it has counted. -/
structure Window where
  startedAt : Nat
  hits : Nat

/-- The window that an arrival is counted in, with the arrival. -/
def step (width : Nat) : Option Window → Nat → Window
  | none, now => ⟨now, 1⟩
  | some w, now => if width < now - w.startedAt then ⟨now, 1⟩ else ⟨w.startedAt, w.hits + 1⟩

/-- The last window and the admitted arrivals. -/
structure State where
  window : Option Window
  admitted : List Nat

/-- One arrival more: it is counted, and admitted if the count is within the limit. -/
def State.arrive (width limit : Nat) (s : State) (now : Nat) : State where
  window := some (step width s.window now)
  admitted :=
    if (step width s.window now).hits ≤ limit then s.admitted ++ [now] else s.admitted

/-- The arrivals one after another. -/
def run (width limit : Nat) (ts : List Nat) : State := ts.foldl (State.arrive width limit) ⟨none, []⟩

variable {width limit : Nat}

/-- The last arrival comes after the others. -/
theorem run_snoc (ts : List Nat) (now : Nat) :
    run width limit (ts ++ [now]) = (run width limit ts).arrive width limit now := by
  rw [run, List.foldl_append]; rfl

/-- In order up to an arrival. -/
theorem sorted_snoc {ts : List Nat} {now : Nat} :
    (ts ++ [now]).Pairwise (· ≤ ·) ↔ ts.Pairwise (· ≤ ·) ∧ ∀ t ∈ ts, t ≤ now := by
  simp [List.pairwise_append]

/-! ## What the counter counts

  By induction on the arrivals: the window holds the last of them, from the one that opened it. -/

/-- **The counter is right**: the window holds the last arrivals, from the one that opened it. -/
theorem counted_of_window {ts : List Nat} (h : ts.Pairwise (· ≤ ·)) {w : Window}
    (hw : (run width limit ts).window = some w) :
    ∃ older counted, ts = older ++ counted ∧ counted.length = w.hits ∧
      counted.head? = some w.startedAt ∧
      ∀ t ∈ counted, w.startedAt ≤ t ∧ t ≤ w.startedAt + width := by
  induction ts using List.reverseRecOn generalizing w with
  | nil => cases hw
  | append_singleton ts now ih =>
    obtain ⟨hts, hlast⟩ := sorted_snoc.mp h
    rw [run_snoc] at hw
    obtain rfl := Option.some.inj hw
    have hopened : ∃ older counted, ts ++ [now] = older ++ counted ∧ counted.length = 1 ∧
        counted.head? = some now ∧ ∀ t ∈ counted, now ≤ t ∧ t ≤ now + width := by
      refine ⟨ts, [now], rfl, rfl, rfl, fun t ht => ?_⟩
      obtain rfl := List.mem_singleton.mp ht
      omega
    cases hbefore : (run width limit ts).window with
    | none => exact hopened
    | some v =>
      rw [step]
      split
      · exact hopened
      · rename_i hwithin
        -- the window goes on: the arrival joins those that it has counted
        obtain ⟨older, counted, rfl, hlen, hhead, hin⟩ := ih hts hbefore
        have hstart : v.startedAt ∈ counted := List.mem_of_head? hhead
        have hle : v.startedAt ≤ now := hlast _ (List.mem_append_right _ hstart)
        refine ⟨older, counted ++ [now], by simp, by simp [hlen], ?_, ?_⟩
        · rw [List.head?_append, hhead]; rfl
        · intro t ht
          rcases List.mem_append.mp ht with ht | ht
          · exact hin t ht
          · obtain rfl := List.mem_singleton.mp ht
            show v.startedAt ≤ t ∧ t ≤ v.startedAt + width
            omega

/-! ## How many are admitted

  The bound is about ANY interval, not one that starts with a window.  The invariant therefore
  says what has been seen of the interval so far: nothing, a part of one window, or the end of one
  and a part of the next. -/

/-- The admitted arrivals of an interval. -/
def admittedIn (lo hi : Nat) (s : State) : Nat := (s.admitted.filter fun t => lo ≤ t ∧ t ≤ hi).length

/-- An arrival is admitted into the interval, or the interval has as many as before. -/
theorem admittedIn_arrive (width limit lo hi : Nat) (s : State) (now : Nat) :
    admittedIn lo hi (s.arrive width limit now) = admittedIn lo hi s +
      if (step width s.window now).hits ≤ limit ∧ lo ≤ now ∧ now ≤ hi then 1 else 0 := by
  unfold admittedIn State.arrive
  by_cases hadmitted : (step width s.window now).hits ≤ limit
  · by_cases hin : lo ≤ now ∧ now ≤ hi
    · simp [hadmitted, hin]
    · simp [hadmitted, hin]
  · simp [hadmitted]

/-- What an interval with `n` admitted arrivals has seen when the last window is `w`: a window from
    before it, a second one that began inside, or all that it will ever see. -/
def Seen (limit lo hi : Nat) (w : Window) (n : Nat) : Prop :=
  (w.startedAt < lo → n ≤ min w.hits limit) ∧
  (lo ≤ w.startedAt → w.startedAt ≤ hi → n ≤ limit + min w.hits limit) ∧
  (hi < w.startedAt → n ≤ 2 * limit)

/-- What is known after the arrivals `ts`: how the admitted ones of the interval stand to the
    window. -/
structure Invariant (limit lo hi : Nat) (ts : List Nat) (s : State) : Prop where
  quiet : (∀ t ∈ ts, t < lo) → admittedIn lo hi s = 0
  unopened : s.window = none → admittedIn lo hi s = 0
  seen : ∀ w, s.window = some w → Seen limit lo hi w (admittedIn lo hi s)

/-- One arrival. -/
theorem Invariant.arrive {lo hi : Nat} (hinterval : hi ≤ lo + width) {ts : List Nat} {s : State}
    (h : Invariant limit lo hi ts s) {now : Nat} (hlast : ∀ t ∈ ts, t ≤ now)
    (hstart : ∀ w, s.window = some w → w.startedAt ∈ ts) :
    Invariant limit lo hi (ts ++ [now]) (s.arrive width limit now) := by
  have hcount := admittedIn_arrive width limit lo hi s now
  have hquiet : now < lo → admittedIn lo hi s = 0 := fun hlt =>
    h.quiet fun t ht => Nat.lt_of_le_of_lt (hlast t ht) hlt
  refine ⟨fun hall => ?_, nofun, fun w hw => ?_⟩
  · have hlt : now < lo := hall now (by simp)
    have hzero := hquiet hlt
    split at hcount <;> omega
  · obtain rfl : step width s.window now = w := Option.some.inj hw
    generalize admittedIn lo hi (s.arrive width limit now) = n' at hcount ⊢
    cases hwindow : s.window with
    | none =>
      have hnone := h.unopened hwindow
      simp only [hwindow, step] at hcount
      simp only [step, Seen]
      split at hcount <;> omega
    | some v =>
      have hseen := h.seen v hwindow
      have hle : v.startedAt ≤ now := hlast _ (hstart v hwindow)
      unfold Seen at hseen
      rw [hwindow, step] at hcount
      rw [step, Seen]
      by_cases hreset : width < now - v.startedAt
      · -- a window that began inside is not followed by another one inside
        simp only [if_pos hreset] at hcount ⊢
        split at hcount <;> omega
      · simp only [if_neg hreset] at hcount ⊢
        split at hcount <;> omega

/-- The invariant holds after every sequence of arrivals that come in order. -/
theorem invariant (limit : Nat) {lo hi : Nat} (hinterval : hi ≤ lo + width) {ts : List Nat}
    (h : ts.Pairwise (· ≤ ·)) : Invariant limit lo hi ts (run width limit ts) := by
  induction ts using List.reverseRecOn with
  | nil => exact ⟨fun _ => rfl, fun _ => rfl, nofun⟩
  | append_singleton ts now ih =>
    obtain ⟨hts, hlast⟩ := sorted_snoc.mp h
    rw [run_snoc]
    refine (ih hts).arrive hinterval hlast fun w hw => ?_
    obtain ⟨older, counted, rfl, -, hhead, -⟩ := counted_of_window hts hw
    exact List.mem_append_right _ (List.mem_of_head? hhead)

/-- **At most two windows' worth** of arrivals is admitted in any interval that is not longer than a
    window. -/
theorem admitted_le (limit : Nat) {lo hi : Nat} (hinterval : hi ≤ lo + width) {ts : List Nat}
    (h : ts.Pairwise (· ≤ ·)) : admittedIn lo hi (run width limit ts) ≤ 2 * limit := by
  have hinv := invariant limit hinterval h
  cases hwindow : (run width limit ts).window with
  | none =>
    have := hinv.unopened hwindow
    omega
  | some w =>
    have hseen := hinv.seen w hwindow
    unfold Seen at hseen
    omega

end FixedWindow
