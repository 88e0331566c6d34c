/-!
# Steps

An operation on a state answers, leaves a next state behind, and may notice things worth a
report.  Reports are read off the notices, so an operation itself is a plain function.
-/

namespace MediaClock

/-- The outcome of an operation: its answer, the next state, and its notices in order. -/
structure Step (σ ν α : Type) where
  answer : α
  state : σ
  notices : List ν := []

namespace Step

variable {σ τ ν μ α β : Type}

/-- The step with another answer. -/
def answering (s : Step σ ν α) (f : α → β) : Step σ ν β := ⟨f s.answer, s.state, s.notices⟩

/-- The step seen as one of a larger state with its own notices. -/
def within (s : Step σ ν α) (state : σ → τ) (notice : ν → μ) : Step τ μ α :=
  ⟨s.answer, state s.state, s.notices.map notice⟩

/-- The step followed by another one, which depends on its answer and state. -/
def next (s : Step σ ν α) (f : α → σ → Step σ ν β) : Step σ ν β :=
  let later := f s.answer s.state
  ⟨later.answer, later.state, s.notices ++ later.notices⟩

end Step

end MediaClock
