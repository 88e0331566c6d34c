/-!
# Traces

The trace of a run lists its calls, each with the state that the call is made in.  What a run
puts out is listed call by call, or leg by leg if the calls come in legs.  A run whose calls
each go along with the ones of another machine puts out what the other machine does.
-/

namespace MediaClock

variable {σ τ γ ω υ : Type}

section

variable (next : σ → γ → σ)

/-- The calls of a run from a state, each with the state that it is made in. -/
def trace (s : σ) : List γ → List (σ × γ)
  | [] => []
  | call :: calls => (s, call) :: trace (next s call) calls

/-- A call is made in the state that the calls before it lead to. -/
theorem getElem?_trace (s : σ) (calls : List γ) (i : Nat) :
  (trace next s calls)[i]? = calls[i]?.map fun call => ((calls.take i).foldl next s, call)
  := by
  induction calls generalizing s i with
  | nil => rfl
  | cons call calls ih =>
    cases i with
    | zero => rfl
    | succ i => apply ih

/-- The calls of a trace are those of the run. -/
theorem map_snd_trace (s : σ) (calls : List γ) :
  (trace next s calls).map Prod.snd = calls
  := by
  induction calls generalizing s with
  | nil => rfl
  | cons call calls ih => apply congrArg (call :: ·) (ih _)

theorem trace_append (s : σ) (earlier later : List γ) :
  trace next s (earlier ++ later)
    = trace next s earlier ++ trace next (earlier.foldl next s) later
  := by
  induction earlier generalizing s with
  | nil => rfl
  | cons call calls ih => apply congrArg ((s, call) :: ·) (ih _)

/-- What is read off the entries of a trace is read off the first call and then the others. -/
theorem filterMap_trace_cons (read : σ × γ → Option ω) (s : σ) (call : γ) (calls : List γ) :
  (trace next s (call :: calls)).filterMap read
    = (read (s, call)).toList ++ (trace next (next s call) calls).filterMap read
  := by
  rw [trace, List.filterMap_cons]
  cases read (s, call) <;> rfl

/-! ### Outputs -/

variable (out : σ → γ → List ω)

/-- What a run puts out. -/
def outputs (s : σ) : List γ → List ω
  | [] => []
  | call :: calls => out s call ++ outputs (next s call) calls

/-- What a run puts out, leg by leg. -/
def outputsByLeg (s : σ) : List (List γ) → List (List ω)
  | [] => []
  | leg :: legs => outputs next out s leg :: outputsByLeg (leg.foldl next s) legs

theorem outputs_append (s : σ) (earlier later : List γ) :
  outputs next out s (earlier ++ later)
    = outputs next out s earlier ++ outputs next out (earlier.foldl next s) later
  := by
  induction earlier generalizing s with
  | nil => rfl
  | cons call calls ih =>
    rw [List.cons_append, outputs, ih, outputs, List.append_assoc]
    rfl

/-- The legs of a run put out what the run does. -/
theorem flatten_outputsByLeg (s : σ) (legs : List (List γ)) :
  (outputsByLeg next out s legs).flatten = outputs next out s legs.flatten
  := by
  induction legs generalizing s with
  | nil => rfl
  | cons leg legs ih => rw [outputsByLeg, List.flatten_cons, List.flatten_cons, outputs_append, ih]

end

/-! ### Simulation -/

section Simulation

variable {next : σ → γ → σ} {out : σ → γ → List ω} {next' : τ → γ → τ} {out' : τ → γ → List υ}
  {R : σ → τ → Prop} {P : σ × γ → Prop} {f : ω → υ} {s : σ} {t : τ}

/-- A run goes along with another machine if each of its calls does. -/
theorem outputs_of_simulates
    (step : ∀ s t call, R s t → P (s, call) →
      (out s call).map f = out' t call ∧ R (next s call) (next' t call))
    (related : R s t) {calls : List γ} (all : ∀ entry ∈ trace next s calls, P entry) :
  (outputs next out s calls).map f = outputs next' out' t calls
    ∧ R (calls.foldl next s) (calls.foldl next' t)
  := by
  induction calls generalizing s t with
  | nil => exact ⟨rfl, related⟩
  | cons call calls ih =>
    obtain ⟨first, rest⟩ := List.forall_mem_cons.mp all
    obtain ⟨now, onward⟩ := step s t call related first
    obtain ⟨later, final⟩ := ih onward rest
    constructor
    · rw [outputs, List.map_append, now, later]
      rfl
    · apply final

theorem outputsByLeg_of_simulates
    (step : ∀ s t call, R s t → P (s, call) →
      (out s call).map f = out' t call ∧ R (next s call) (next' t call))
    (related : R s t) {legs : List (List γ)}
    (all : ∀ entry ∈ trace next s legs.flatten, P entry) :
  (outputsByLeg next out s legs).map (·.map f) = outputsByLeg next' out' t legs
  := by
  induction legs generalizing s t with
  | nil => rfl
  | cons leg legs ih =>
    rw [List.flatten_cons, trace_append, List.forall_mem_append] at all
    obtain ⟨first, rest⟩ := all
    obtain ⟨now, onward⟩ := outputs_of_simulates step related first
    rw [outputsByLeg, List.map_cons, now, ih onward rest, outputsByLeg]

end Simulation

end MediaClock
