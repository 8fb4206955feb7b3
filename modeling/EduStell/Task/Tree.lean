/-
  A task as the sequence of its accesses.

  A `Tree` is what a task does next, one access to the world outside at a time, and how it goes on
  with each answer; in between it computes.  What the accesses are is a parameter (`Op`, with the
  answers `Ret`), and so is what they do: other tasks may come between any two of them.

  A `Monitor` watches one task.  Its state is what has been seen of the task so far; `before` is what
  must hold where an access is about to happen, `ends` where the task ends.  `p.Keeps X t`: from the
  monitor state `t` on, `p` keeps the monitor whatever the answers are.  As for any weakest
  precondition there is one rule for each construct, and a task is judged along its text.

  The rules compose: what is bound or relabelled keeps a monitor if its parts do, with the state
  in which each part is entered.
-/
import Mathlib.Logic.Basic

namespace Task

variable {Op : Type} {Ret : Op → Type} {α β τ : Type}

/-! ## Tasks

  The tree branches over the answers of an access, so a task may decide by what it has read. -/

/-- A task: it is done, or it makes an access and goes on with the answer. -/
inductive Tree (Op : Type) (Ret : Op → Type) (α : Type) : Type
  | done (a : α)
  | ask (op : Op) (k : Ret op → Tree Op Ret α)

namespace Tree

/-- One task after another. -/
def bind : Tree Op Ret α → (α → Tree Op Ret β) → Tree Op Ret β
  | done a, f => f a
  | ask op k, f => ask op fun r => (k r).bind f

/-- Tasks as a monad. -/
instance : Monad (Tree Op Ret) where
  pure := done
  bind := bind

/-- One access. -/
def access (op : Op) : Tree Op Ret (Ret op) := ask op done

/-- The task with other accesses in the place of its own, answered alike. -/
def relabel (f : Op → Op) (h : ∀ op, Ret (f op) = Ret op) : Tree Op Ret α → Tree Op Ret α
  | done a => done a
  | ask op k => ask (f op) fun r => (k (cast (h op) r)).relabel f h

end Tree

/-! ## Monitors

  A monitor is an automaton beside the task.  It sees the accesses and their answers, and does not
  influence them. -/

/-- What is asked of a task at each access, what is seen of it, and what is asked at its end. -/
structure Monitor (Op : Type) (Ret : Op → Type) (α τ : Type) where
  before : Op → τ → Prop
  after : (op : Op) → Ret op → τ → τ
  ends : α → τ → Prop

namespace Monitor

/-- The same accesses, and another end. -/
def ending (X : Monitor Op Ret α τ) (ends : β → τ → Prop) : Monitor Op Ret β τ :=
  { X with ends := ends }

/-- The accesses of a task that is relabelled, as they are watched afterwards. -/
def relabelled (X : Monitor Op Ret α τ) (f : Op → Op) (h : ∀ op, Ret (f op) = Ret op) :
    Monitor Op Ret α τ where
  before op := X.before (f op)
  after op r := X.after (f op) (cast (h op).symm r)
  ends := X.ends

end Monitor

namespace Tree

/-- The task keeps the monitor from the state `t` on. -/
def Keeps (X : Monitor Op Ret α τ) : Tree Op Ret α → τ → Prop
  | done a, t => X.ends a t
  | ask op k, t => X.before op t ∧ ∀ r, (k r).Keeps X (X.after op r t)

variable {X : Monitor Op Ret α τ} {t : τ}

/-- The second task starts where the first one ends. -/
theorem Keeps.bind {p : Tree Op Ret β} {f : β → Tree Op Ret α}
    (h : p.Keeps (X.ending fun b t => (f b).Keeps X t) t) : (p >>= f).Keeps X t := by
  change (p.bind f).Keeps X t
  induction p generalizing t with
  | done b => exact h
  | ask op k ih => exact ⟨h.1, fun r => ih r (h.2 r)⟩

/-- An access, and then the rest. -/
theorem Keeps.access {op : Op} {f : Ret op → Tree Op Ret α} (hop : X.before op t)
    (h : ∀ r, (f r).Keeps X (X.after op r t)) : (Tree.access op >>= f).Keeps X t := ⟨hop, h⟩

/-- A relabelled task is watched through its labels. -/
theorem Keeps.relabel {f : Op → Op} {h : ∀ op, Ret (f op) = Ret op} {p : Tree Op Ret α}
    (hp : p.Keeps (X.relabelled f h) t) : (p.relabel f h).Keeps X t := by
  induction p generalizing t with
  | done a => exact hp
  | ask op k ih =>
    refine ⟨hp.1, fun r => ih (cast (h op) r) ?_⟩
    have hback : cast (h op).symm (cast (h op) r) = r := by rw [cast_cast, cast_eq]
    have hafter : (X.relabelled f h).after op (cast (h op) r) t = X.after (f op) r t := by
      show X.after (f op) (cast (h op).symm (cast (h op) r)) t = _
      rw [hback]
    exact hafter ▸ hp.2 (cast (h op) r)

/-- The end may be described more loosely. -/
theorem Keeps.mono {p : Tree Op Ret α} {ends : α → τ → Prop} (h : p.Keeps (X.ending ends) t)
    (hends : ∀ a t, ends a t → X.ends a t) : p.Keeps X t := by
  induction p generalizing t with
  | done a => exact hends a t h
  | ask op k ih => exact ⟨h.1, fun r => ih r (h.2 r)⟩

end Tree
end Task
