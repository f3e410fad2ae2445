import QueryGate.Failure

/-!
# Actions on objects

Builders and sessions change as they are used. An action on such an object gives an answer or fails,
and what it changed before it failed stays changed; that an action changes nothing when it fails is
a fact about the action and not about actions as such.

## Main definitions

* `Action` — what can be done with an object
* `Action.on` — the object after an action that succeeds
-/

namespace QueryGate

/-- What can be done with an object of type `σ`. -/
abbrev Action (σ : Type) := ExceptT Failure (StateM σ)

/-- The object after an action, if the action succeeds. -/
def Action.on {σ : Type} (action : Action σ Unit) (object : σ) : Except Failure σ :=
  match action.run.run object with
  | (.ok (), after) => .ok after
  | (.error failure, _) => .error failure

/-- Of two actions in a row the second is done if the first succeeds, with the object as it then is. -/
theorem Action.run_bind {σ α β : Type} (first : Action σ α) (second : α → Action σ β) (object : σ) :
    (first >>= second).run.run object =
      match first.run.run object with
      | (.ok a, after) => (second a).run.run after
      | (.error failure, after) => (.error failure, after) := by
  rw [ExceptT.run_bind, StateT.run_bind]
  rcases first.run.run object with ⟨_ | _, after⟩ <;> rfl

/-- What fails by itself changes nothing. -/
theorem Action.run_liftM_bind {σ α β : Type} (result : Except Failure α) (next : α → Action σ β)
    (object : σ) : ((liftM result : Action σ α) >>= next).run.run object =
      match result with
      | .ok a => (next a).run.run object
      | .error failure => (.error failure, object) := by
  cases result <;> rfl

theorem Action.on_eq_ok_iff {σ : Type} {action : Action σ Unit} {object after : σ} :
    action.on object = .ok after ↔ action.run.run object = (.ok (), after) := by
  rw [Action.on]
  rcases action.run.run object with ⟨_ | _, other⟩ <;> constructor <;> intro same <;> cases same <;>
    rfl

theorem Action.on_pure {σ : Type} (object : σ) : Action.on (pure ()) object = .ok object := rfl

theorem Action.on_bind {σ : Type} (first : Action σ Unit) (second : Unit → Action σ Unit)
    (object : σ) : Action.on (first >>= second) object = first.on object >>= (second ()).on := by
  rw [Action.on, run_bind, Action.on]
  rcases first.run.run object with ⟨_ | _, after⟩ <;> rfl

end QueryGate
