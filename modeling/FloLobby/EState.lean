import Mathlib.Data.List.Basic

/-!
# Running a state-and-error computation

The LAN lobby handler and the control plane are both `EStateM` computations, and an error keeps
the state it was raised in, since `?` leaves `&mut self` and the shared cells behind. `stateOf`
reads that state off a result, `andThen` runs the rest of a computation after a first part, and
the equations below evaluate the monad's operations on a state. The later modules rewrite with
these and never unfold `EStateM.bind`.
-/

namespace FloLobby

section
variable {ε σ α β : Type}

/-- The state a computation ends in, whether it returned or failed. -/
def stateOf : EStateM.Result ε σ α → σ
  | .ok _ s => s
  | .error _ s => s

/-- The rest of a computation, run after a first part has returned or failed. -/
def andThen (r : EStateM.Result ε σ α) (f : α → EStateM ε σ β) : EStateM.Result ε σ β :=
  match r with
  | .ok a s => f a s
  | .error e s => .error e s

/-- `?` on an `Except` of the computation's own error type. -/
def liftExcept : Except ε α → EStateM ε σ α
  | .ok a => pure a
  | .error e => throw e

variable (s t : σ) (f : α → EStateM ε σ β)

@[simp] theorem bind_apply (x : EStateM ε σ α) : (x >>= f) s = andThen (x s) f := by
  show EStateM.bind x f s = _
  unfold EStateM.bind andThen
  split <;> simp_all

theorem get_bind (f : σ → EStateM ε σ β) : (get >>= f) s = f s s := rfl

theorem pure_bind_apply (a : α) : (pure a >>= f) s = f a s := rfl

theorem modify_bind (g : σ → σ) (f : PUnit → EStateM ε σ β) :
    (modify g >>= f) s = f () (g s) := rfl

@[simp] theorem map_apply (g : α → β) (x : EStateM ε σ α) :
    (g <$> x) s = andThen (x s) fun a t => .ok (g a) t := by
  show EStateM.map g x s = _
  unfold EStateM.map andThen
  split <;> simp_all

@[simp] theorem andThen_ok (a : α) : andThen (.ok a s) f = f a s := rfl

@[simp] theorem andThen_error (e : ε) : andThen (.error e s) f = .error e s := rfl

@[simp] theorem andThen_ite (c : Prop) [Decidable c] (r₁ r₂ : EStateM.Result ε σ α) :
    andThen (if c then r₁ else r₂) f = if c then andThen r₁ f else andThen r₂ f := by
  split <;> rfl

@[simp] theorem pure_apply (a : α) : (pure a : EStateM ε σ α) s = .ok a s := rfl

@[simp] theorem get_apply : (get : EStateM ε σ σ) s = .ok s s := rfl

@[simp] theorem modify_apply (g : σ → σ) : (modify g : EStateM ε σ PUnit) s = .ok () (g s) := rfl

@[simp] theorem throw_apply (e : ε) : (throw e : EStateM ε σ α) s = .error e s := rfl

@[simp] theorem liftExcept_apply (x : Except ε α) :
    liftExcept x s = match x with
      | .ok a => .ok a s
      | .error e => .error e s := by
  cases x <;> rfl

@[simp] theorem stateOf_ok (a : α) : stateOf (.ok a s : EStateM.Result ε σ α) = s := rfl

@[simp] theorem stateOf_error (e : ε) : stateOf (.error e s : EStateM.Result ε σ α) = s := rfl

@[simp] theorem stateOf_ite (c : Prop) [Decidable c] (r₁ r₂ : EStateM.Result ε σ α) :
    stateOf (if c then r₁ else r₂) = if c then stateOf r₁ else stateOf r₂ := by
  split <;> rfl

/-- A result is an error or a return, in the state it carries. -/
theorem result_cases (r : EStateM.Result ε σ α) :
    (∃ err, r = .error err (stateOf r)) ∨ ∃ a, r = .ok a (stateOf r) := by
  cases r <;> simp

end

end FloLobby
