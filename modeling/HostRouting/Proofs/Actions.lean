import HostRouting.Audited
import Mathlib.Data.List.Forall2

/-!
# Laws of audited actions

Running a composed action is running its parts one after another.  The laws below say this for each
way to compose actions, so that later proofs follow an action step by step and never open what an
action is.
-/

namespace HostRouting

theorem ok_bind {α β : Type} (value : α) (next : α → Except Failure β) :
    Except.ok value >>= next = next value := rfl

theorem error_bind {α β : Type} (failure : Failure) (next : α → Except Failure β) :
    Except.error failure >>= next = .error failure := rfl

theorem bind_eq_ok_iff {α β : Type} {result : Except Failure α} {next : α → Except Failure β}
    {value : β} :
    result >>= next = .ok value ↔ ∃ middle, result = .ok middle ∧ next middle = .ok value := by
  cases result <;> simp [ok_bind, error_bind]

namespace Audited

variable {σ τ α β : Type}

@[simp]
theorem run_pure (value : α) (state : σ) :
    (pure value : Audited σ α).run state = ⟨.ok value, state, []⟩ := rfl

@[simp]
theorem run_emit (event : Event) (state : σ) :
    (emit event).run state = ⟨.ok (), state, [event]⟩ := rfl

@[simp]
theorem run_ofExcept (result : Except Failure α) (state : σ) :
    (ofExcept result).run state = ⟨result, state, []⟩ := rfl

@[simp]
theorem run_get (state : σ) : (get : Audited σ σ).run state = ⟨.ok state, state, []⟩ := rfl

@[simp]
theorem run_set (next state : σ) : (set next).run state = ⟨.ok (), next, []⟩ := rfl

theorem run_update (change : σ → Except Failure σ) (state : σ) :
    (update change).run state = match change state with
      | .ok changed => ⟨.ok (), changed, []⟩
      | .error failure => ⟨.error failure, state, []⟩ := rfl

@[simp]
theorem run_within (enter : σ → τ) (leave : τ → σ → σ) (action : Audited τ α) (state : σ) :
    (within enter leave action).run state =
      let outcome := action.run (enter state)
      ⟨outcome.result.map fun value => (value, outcome.state), leave outcome.state state,
        outcome.events⟩ := rfl

/-- A composed action goes on with what its first part leaves, or stops with its failure. -/
theorem run_bind (first : Audited σ α) (next : α → Audited σ β) (state : σ) :
    (first >>= next).run state = match first.run state with
      | ⟨.ok value, state, events⟩ =>
          ⟨((next value).run state).result, ((next value).run state).state,
            events ++ ((next value).run state).events⟩
      | ⟨.error failure, state, events⟩ => ⟨.error failure, state, events⟩ := rfl

/-- A result that is only looked at changes nothing. -/
theorem run_ofExcept_bind (result : Except Failure α) (next : α → Audited σ β) (state : σ) :
    (ofExcept result >>= next).run state = match result with
      | .ok value => (next value).run state
      | .error failure => ⟨.error failure, state, []⟩ := by
  cases result <;> rfl

theorem run_ofExcept_bind_of_ok {result : Except Failure α} {value : α}
    (hresult : result = .ok value) (next : α → Audited σ β) (state : σ) :
    (ofExcept result >>= next).run state = (next value).run state := by
  rw [run_ofExcept_bind, hresult]

theorem run_ofExcept_bind_of_error {result : Except Failure α} {failure : Failure}
    (hresult : result = .error failure) (next : α → Audited σ β) (state : σ) :
    (ofExcept result >>= next).run state = ⟨.error failure, state, []⟩ := by
  rw [run_ofExcept_bind, hresult]

theorem run_get_bind (next : σ → Audited σ β) (state : σ) :
    (get >>= next).run state = (next state).run state := rfl

@[simp]
theorem run_map (change : α → β) (action : Audited σ α) (state : σ) :
    (change <$> action).run state =
      ⟨(action.run state).result.map change, (action.run state).state,
        (action.run state).events⟩ := by
  change (action >>= fun value => pure (change value)).run state = _
  rw [run_bind]
  rcases action.run state with ⟨_ | value, after, events⟩ <;> simp [Except.map]

theorem run_bind_of_ok {first : Audited σ α} {state after : σ} {value : α} {events : List Event}
    (hfirst : first.run state = ⟨.ok value, after, events⟩) (next : α → Audited σ β) :
    (first >>= next).run state =
      ⟨((next value).run after).result, ((next value).run after).state,
        events ++ ((next value).run after).events⟩ := by
  rw [run_bind, hfirst]

theorem run_bind_of_error {first : Audited σ α} {state after : σ} {failure : Failure}
    {events : List Event} (hfirst : first.run state = ⟨.error failure, after, events⟩)
    (next : α → Audited σ β) :
    (first >>= next).run state = ⟨.error failure, after, events⟩ := by
  rw [run_bind, hfirst]

/-- A composed action that succeeds has succeeded with its first part and then with its second. -/
theorem run_bind_eq_ok {first : Audited σ α} {next : α → Audited σ β} {state after : σ} {value : β}
    {events : List Event} (hrun : (first >>= next).run state = ⟨.ok value, after, events⟩) :
    ∃ middle between reported more,
      first.run state = ⟨.ok middle, between, reported⟩ ∧
      (next middle).run between = ⟨.ok value, after, more⟩ ∧ events = reported ++ more := by
  rcases hfirst : first.run state with ⟨failure | middle, between, reported⟩
  · rw [run_bind_of_error hfirst] at hrun
    cases hrun
  · rw [run_bind_of_ok hfirst] at hrun
    obtain ⟨hresult, rfl, rfl⟩ := Outcome.mk.inj hrun
    refine ⟨middle, between, reported, _, rfl, ?_, rfl⟩
    rw [← hresult]

theorem run_within_eq_ok {enter : σ → τ} {leave : τ → σ → σ} {action : Audited τ α}
    {state after : σ} {value : α × τ} {events : List Event}
    (hrun : (within enter leave action).run state = ⟨.ok value, after, events⟩) :
    action.run (enter state) = ⟨.ok value.1, value.2, events⟩ ∧
      after = leave value.2 state := by
  rw [run_within] at hrun
  rcases haction : action.run (enter state) with ⟨failure | result, last, reported⟩
  · simp [haction, Except.map] at hrun
  · simp only [haction, Except.map, Outcome.mk.injEq, Except.ok.injEq] at hrun
    obtain ⟨rfl, rfl, rfl⟩ := hrun
    exact ⟨rfl, rfl⟩

/-! ## The laws of composition -/

private theorem id_map_run (action : Audited σ α) : id <$> action = action := by
  funext state
  change (action >>= pure).run state = action.run state
  rw [run_bind]
  rcases action.run state with ⟨_ | _, after, events⟩ <;> simp

private theorem bind_assoc_run {γ : Type} (first : Audited σ α) (next : α → Audited σ β)
    (last : β → Audited σ γ) :
    first >>= next >>= last = first >>= fun value => next value >>= last := by
  funext state
  change (first >>= next >>= last).run state =
    (first >>= fun value => next value >>= last).run state
  simp only [run_bind]
  rcases first.run state with ⟨_ | value, after, events⟩
  · rfl
  · simp only
    rcases (next value).run after with ⟨_ | value, after, events⟩ <;> simp

instance : LawfulMonad (Audited σ) :=
  LawfulMonad.mk' (Audited σ) id_map_run (fun _ _ => rfl) bind_assoc_run

theorem ofExcept_pure (value : α) : (ofExcept (pure value) : Audited σ α) = pure value := rfl

theorem ofExcept_bind (result : Except Failure α) (next : α → Except Failure β) :
    (ofExcept (result >>= next) : Audited σ β) =
      ofExcept result >>= fun value => ofExcept (next value) := by
  cases result <;> rfl

/-! ## Counting -/

@[simp]
theorem run_countEach_nil (action : α → Audited σ Unit) (state : σ) :
    (countEach action []).run state = ⟨.ok 0, state, []⟩ := rfl

theorem run_countEach_of_ok {action : α → Audited σ Unit} {first : α} {state after : σ}
    {events : List Event} (hfirst : (action first).run state = ⟨.ok (), after, events⟩)
    (rest : List α) :
    (countEach action (first :: rest)).run state =
      ⟨((countEach action rest).run after).result.map (· + 1),
        ((countEach action rest).run after).state,
        events ++ ((countEach action rest).run after).events⟩ := by
  rw [countEach, run_bind_of_ok hfirst, run_bind]
  rcases (countEach action rest).run after with ⟨_ | count, last, more⟩
  · rfl
  · simp [Except.map]

theorem run_countEach_of_error {action : α → Audited σ Unit} {first : α} {state after : σ}
    {failure : Failure} {events : List Event}
    (hfirst : (action first).run state = ⟨.error failure, after, events⟩) (rest : List α) :
    (countEach action (first :: rest)).run state = ⟨.error failure, after, events⟩ := by
  rw [countEach, run_bind_of_error hfirst]

/-- A count that succeeds has succeeded with its first member and then with the others. -/
theorem run_countEach_cons_eq_ok {action : α → Audited σ Unit} {first : α} {rest : List α}
    {state after : σ} {count : Nat} {events : List Event}
    (hrun : (countEach action (first :: rest)).run state = ⟨.ok count, after, events⟩) :
    ∃ middle reported number more,
      (action first).run state = ⟨.ok (), middle, reported⟩ ∧
      (countEach action rest).run middle = ⟨.ok number, after, more⟩ ∧
      count = number + 1 ∧ events = reported ++ more := by
  obtain ⟨_, middle, reported, _, hfirst, hothers, rfl⟩ := run_bind_eq_ok hrun
  obtain ⟨number, last, more, _, hrest, hlast, rfl⟩ := run_bind_eq_ok hothers
  cases hlast
  exact ⟨middle, reported, number, more, hfirst, hrest, rfl, by rw [List.append_nil]⟩

/-- A count that fails has succeeded with some members and then failed with the next one. -/
theorem run_countEach_eq_error {action : α → Audited σ Unit} {members : List α}
    {state after : σ} {failure : Failure} {events : List Event}
    (hrun : (countEach action members).run state = ⟨.error failure, after, events⟩) :
    ∃ done member rest middle reported more,
      members = done ++ member :: rest ∧
      (countEach action done).run state = ⟨.ok done.length, middle, reported⟩ ∧
      (action member).run middle = ⟨.error failure, after, more⟩ := by
  induction members generalizing state events with
  | nil => cases hrun
  | cons first others ih =>
      rcases hfirst : (action first).run state with ⟨other | _, middle, reported⟩
      · rw [run_countEach_of_error hfirst] at hrun
        cases hrun
        exact ⟨[], first, others, state, [], events, rfl, rfl, hfirst⟩
      · rw [run_countEach_of_ok hfirst] at hrun
        rcases hothers : (countEach action others).run middle with ⟨other | number, last, more⟩
        · rw [hothers] at hrun
          cases hrun
          obtain ⟨done, member, rest, before, earlier, final, rfl, hdone, hmember⟩ := ih hothers
          refine ⟨first :: done, member, rest, before, reported ++ earlier, final, rfl, ?_, hmember⟩
          rw [run_countEach_of_ok hfirst, hdone]
          rfl
        · rw [hothers] at hrun
          cases hrun

theorem countEach_congr {first : α → Audited σ Unit} {second : β → Audited σ Unit}
    {lefts : List α} {rights : List β}
    (hactions : List.Forall₂ (fun left right => first left = second right) lefts rights) :
    countEach first lefts = countEach second rights := by
  induction hactions with
  | nil => rfl
  | cons hhead _ ih => rw [countEach, countEach, hhead, ih]

/-- What one action keeps, a count keeps, whether or not it gets to its end. -/
theorem countEach_preserves {action : α → Audited σ Unit} {invariant : σ → Prop} {list : List α}
    (hstep : ∀ member ∈ list, ∀ state, invariant state →
      invariant ((action member).run state).state)
    {state : σ} (hstart : invariant state) :
    invariant ((countEach action list).run state).state := by
  induction list generalizing state with
  | nil => exact hstart
  | cons first rest ih =>
      have hfirst := hstep first List.mem_cons_self state hstart
      have hrest := fun member hmem => hstep member (List.mem_cons_of_mem first hmem)
      rcases hrun : (action first).run state with ⟨_ | _, after, events⟩
      · rw [run_countEach_of_error hrun]
        simpa [hrun] using hfirst
      · rw [run_countEach_of_ok hrun]
        rw [hrun] at hfirst
        exact ih hrest hfirst

end Audited

end HostRouting
