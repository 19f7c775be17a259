import HostRouting.Event

/-!
# Audited actions

Loading and compiling change a state, report events, and may fail.  What an action has changed and
reported before it fails stays changed and reported; only what would have followed is left out.
-/

namespace HostRouting

/-- How an action ends: with a result or a failure, and in either case with the state that it
leaves behind and the events that it reported, first one first. -/
structure Outcome (σ α : Type) where
  result : Except Failure α
  state : σ
  events : List Event

def Audited (σ α : Type) : Type :=
  σ → Outcome σ α

namespace Audited

variable {σ τ α β : Type}

def run (action : Audited σ α) (state : σ) : Outcome σ α :=
  action state

protected def pure (value : α) : Audited σ α := fun state =>
  ⟨.ok value, state, []⟩

/-- Performs a second action on what a first one leaves, unless that one fails. -/
protected def bind (first : Audited σ α) (next : α → Audited σ β) : Audited σ β := fun state =>
  match first state with
  | ⟨.ok value, state, events⟩ =>
      let outcome := next value state
      ⟨outcome.result, outcome.state, events ++ outcome.events⟩
  | ⟨.error failure, state, events⟩ => ⟨.error failure, state, events⟩

instance : Monad (Audited σ) where
  pure := Audited.pure
  bind := Audited.bind

def emit (event : Event) : Audited σ Unit := fun state =>
  ⟨.ok (), state, [event]⟩

def ofExcept (result : Except Failure α) : Audited σ α := fun state =>
  ⟨result, state, []⟩

def get : Audited σ σ := fun state =>
  ⟨.ok state, state, []⟩

def set (state : σ) : Audited σ Unit := fun _ =>
  ⟨.ok (), state, []⟩

/-- Replaces the state by one computed from it, or fails and keeps it. -/
def update (change : σ → Except Failure σ) : Audited σ Unit := fun state =>
  match change state with
  | .ok changed => ⟨.ok (), changed, []⟩
  | .error failure => ⟨.error failure, state, []⟩

/-- Performs an action on a state of its own.  What it leaves behind is put back, also if it
fails, and comes with its result. -/
def within (enter : σ → τ) (leave : τ → σ → σ) (action : Audited τ α) : Audited σ (α × τ) :=
  fun state =>
    let outcome := action (enter state)
    ⟨outcome.result.map fun value => (value, outcome.state), leave outcome.state state,
      outcome.events⟩

/-- Performs an action for each member of a list and counts them. -/
def countEach (action : α → Audited σ Unit) : List α → Audited σ Nat
  | [] => pure 0
  | first :: rest => do
      action first
      let count ← countEach action rest
      pure (count + 1)

end Audited

end HostRouting
