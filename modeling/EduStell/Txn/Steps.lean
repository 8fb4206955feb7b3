/-
  Runs of a step function: what holds at every step, and how often something happens.

  A counter of the state is compared with the number of steps at which something happens: where every
  step raises the counter by at most one, and only if it happens, the counter of the whole run is
  bounded by what has happened on the way (`count_le_tally`).
-/
namespace Txn.Steps

variable {σ κ : Type} (step : κ → σ → σ)

/-- One step after another. -/
def run (s : σ) (qs : List κ) : σ := qs.foldl (fun s q => step q s) s

/-- `P` holds at every step of the run, of the state in which the step is taken. -/
def Throughout (P : κ → σ → Prop) : σ → List κ → Prop
  | _, [] => True
  | s, q :: qs => P q s ∧ Throughout P (step q s) qs

/-- The number of steps of the run at which `happens`, from the state before to the state after. -/
def tally (happens : σ → σ → Bool) : σ → List κ → Nat
  | _, [] => 0
  | s, q :: qs => (happens s (step q s)).toNat + tally happens (step q s) qs

variable {step} {P Q : κ → σ → Prop} {s : σ} {qs : List κ}

/-- The property may be replaced by an equivalent one. -/
theorem throughout_congr (h : ∀ q s, P q s ↔ Q q s) :
    Throughout step P s qs ↔ Throughout step Q s qs := by
  induction qs generalizing s with
  | nil => exact Iff.rfl
  | cons q qs ih => exact and_congr (h q s) ih

/-- A property that holds throughout may be weakened. -/
theorem throughout_mono (h : ∀ q s, P q s → Q q s) (hP : Throughout step P s qs) :
    Throughout step Q s qs := by
  induction qs generalizing s with
  | nil => trivial
  | cons q qs ih =>
    obtain ⟨hq, hqs⟩ := hP
    exact ⟨h q s hq, ih hqs⟩

/-- What every step keeps holds in every state that is reached. -/
theorem throughout_keeps {I : σ → Prop} (hs : I s) (h : ∀ q s, I s → P q s → I (step q s))
    (hP : Throughout step P s qs) : Throughout step (fun q s => I (step q s)) s qs := by
  induction qs generalizing s with
  | nil => trivial
  | cons q qs ih =>
    obtain ⟨hq, hqs⟩ := hP
    have hnext : I (step q s) := h q s hs hq
    exact ⟨hnext, ih hnext hqs⟩

/-- A counter that each step raises at most when its event happens never exceeds the number of
    events. -/
theorem count_le_tally {count : σ → Nat} {happens : σ → σ → Bool}
    (h : ∀ q s, P q s → count (step q s) ≤ count s + (happens s (step q s)).toNat)
    (hP : Throughout step P s qs) : count (run step s qs) ≤ count s + tally step happens s qs := by
  induction qs generalizing s with
  | nil => exact Nat.le_refl _
  | cons q qs ih =>
    obtain ⟨hq, hqs⟩ := hP
    have hfirst : count (step q s) ≤ count s + (happens s (step q s)).toNat := h q s hq
    have hrest : count (run step (step q s) qs) ≤
        count (step q s) + tally step happens (step q s) qs := ih hqs
    show count (run step (step q s) qs) ≤
      count s + ((happens s (step q s)).toNat + tally step happens (step q s) qs)
    omega

end Txn.Steps
