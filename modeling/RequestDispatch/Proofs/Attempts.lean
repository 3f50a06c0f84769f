/-! # Steps that may fail

A step that fails ends all that was to follow, and what was written before it stays written. Here
is what running one step after another comes to. -/
namespace RequestDispatch

/-- Something done to a state that may fail. What was written by then stays written. -/
abbrev Attempt (ε σ α : Type) := ExceptT ε (StateM σ) α

namespace Attempt

variable {ε σ α β : Type} {s s' : σ} {x : Attempt ε σ α} {f : α → Attempt ε σ β}

theorem run_bind_ok {a : α} (hx : x.run.run s = (.ok a, s')) :
    (x >>= f).run.run s = (f a).run.run s' := by
  change x s = (.ok a, s') at hx
  change ((x >>= f) s : Except ε β × σ) = f a s'
  simp only [bind, ExceptT.bind, ExceptT.mk, StateT.bind, hx]
  rfl

theorem run_bind_error {e : ε} (hx : x.run.run s = (.error e, s')) :
    (x >>= f).run.run s = (.error e, s') := by
  change x s = (.error e, s') at hx
  change ((x >>= f) s : Except ε β × σ) = (.error e, s')
  simp only [bind, ExceptT.bind, ExceptT.mk, StateT.bind, hx]
  rfl

theorem run_liftM (result : Except ε α) (s : σ) :
    (liftM result : Attempt ε σ α).run.run s = (result, s) := by
  cases result <;> rfl

theorem forM_modify (x? : Option α) (write : α → σ → σ) (s : σ) :
    (x?.forM fun x => modify (write x) : Attempt ε σ Unit).run.run s =
      (.ok (), x?.elim s fun x => write x s) := by
  cases x? <;> rfl

theorem forM_modify_list (xs : List α) (write : α → σ → σ) (s : σ) :
    (xs.forM fun x => modify (write x) : Attempt ε σ Unit).run.run s =
      (.ok (), xs.foldl (fun s x => write x s) s) := by
  induction xs generalizing s with
  | nil => rfl
  | cons x xs ih => exact ih (write x s)

end Attempt

end RequestDispatch
