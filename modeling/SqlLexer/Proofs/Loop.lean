import Mathlib.Data.PFun

/-!
# Loops

A loop repeats a step until that gives a result.  It need not end: a loop whose steps never give a
result has none, and neither has one that comes to a step which does not end.
-/

namespace SqlLexer

/-- Repeats a step, which ends with a result or goes on from another state. -/
def loop {State Result : Type} (step : State → Result ⊕ State) : State → Part Result :=
  PFun.fix fun state => Part.some (step state)

/-- Repeats a step that may have loops of its own, and then need not end. -/
def partLoop {State Result : Type} (step : State → Part (Result ⊕ State)) : State → Part Result :=
  PFun.fix step

section

variable {State Result : Type} {step : State → Part (Result ⊕ State)} {state next : State}
variable {result : Result}

/-- A step with a result is the last one. -/
theorem partLoop_of_inl (ends : step state = .some (.inl result)) :
    partLoop step state = .some result := by
  refine Part.eq_some_iff.mpr (PFun.fix_stop ?_)
  rw [ends]
  exact Part.mem_some _

/-- A step without a result is followed by the loop from the state that it leads to. -/
theorem partLoop_of_inr (goesOn : step state = .some (.inr next)) :
    partLoop step state = partLoop step next := by
  refine PFun.fix_fwd_eq ?_
  rw [goesOn]
  exact Part.mem_some _

end

section

variable {State Result : Type} {step : State → Result ⊕ State} {state next : State}
variable {result : Result}

/-- A step with a result is the last one. -/
theorem loop_of_inl (ends : step state = .inl result) : loop step state = .some result :=
  partLoop_of_inl (congrArg Part.some ends)

/-- A step without a result is followed by the loop from the state that it leads to. -/
theorem loop_of_inr (goesOn : step state = .inr next) : loop step state = loop step next :=
  partLoop_of_inr (congrArg Part.some goesOn)

/-- A loop does not end where a step leads back to where it began. -/
theorem loop_eq_none (stays : step state = .inr state) : loop step state = .none := by
  refine Part.eq_none_iff.mpr fun result returned => ?_
  -- No run with a result starts at the state, by induction from the end of the run.
  refine PFun.fixInduction' (C := fun other => other ≠ state) returned ?ends ?goesOn rfl
  case ends =>
    rintro last isLast rfl
    rw [Part.mem_some_iff, stays] at isLast
    cases isLast
  case goesOn =>
    rintro first second _ isNext different rfl
    rw [Part.mem_some_iff, stays] at isNext
    cases isNext
    exact different rfl

end

end SqlLexer
