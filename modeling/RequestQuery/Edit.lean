namespace RequestQuery

/-- A change of a state in place. What it has changed by the time it fails stays changed. -/
abbrev Edit (σ ε α : Type) :=
  EStateM ε σ α

namespace Edit

variable {σ ε α : Type}

/-- The state that an edit leaves, whether it fails or not. -/
def leave (edit : Edit σ ε α) (s : σ) : σ :=
  match edit.run s with
  | .ok _ s => s
  | .error _ s => s

/-- The state after an edit that succeeds and what it gives, or its error. -/
def outcome (edit : Edit σ ε α) (s : σ) : Except ε (σ × α) :=
  match edit.run s with
  | .ok a s => .ok (s, a)
  | .error e _ => .error e

/-- The state after an edit that succeeds, or its error. -/
def result (edit : Edit σ ε α) (s : σ) : Except ε σ :=
  (edit.outcome s).map Prod.fst

end Edit

end RequestQuery
