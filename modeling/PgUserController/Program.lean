-- SUMMARY: The state-and-exception monad the controller's Python runs in, and its primitive steps.
import PgUserController.World

/-!
# Programs

A `PyM α` runs from a world to an `Outcome`: a result or a raised exception,
and the world it leaves. As in Python, an exception keeps every change made
before it was raised.

The primitive steps below are the ones every module of the controller shares:
the log, the fault oracle, the cycle's counters, and the `try` around one item
of a loop.
-/

namespace PgUserController

/-- The end of a run: its result or exception, and the world it leaves. -/
structure Outcome (α : Type) where
  result : Except PyExc α
  world : World

/-- Python code with its effects on the world. -/
def PyM (α : Type) : Type := World → Outcome α

namespace PyM

variable {α β : Type}

/-- `return a`. -/
protected def pure (a : α) : PyM α := fun w => ⟨.ok a, w⟩

/-- Sequencing: an exception skips the rest. -/
protected def bind (x : PyM α) (f : α → PyM β) : PyM β := fun w =>
  match x w with
  | ⟨.ok a, w'⟩ => f a w'
  | ⟨.error e, w'⟩ => ⟨.error e, w'⟩

instance : Monad PyM where
  pure := PyM.pure
  bind := PyM.bind

/-- `raise e`. -/
def raise (e : PyExc) : PyM α := fun w => ⟨.error e, w⟩

/-- `try: x except e: h e`. -/
def tryCatch (x : PyM α) (h : PyExc → PyM α) : PyM α := fun w =>
  match x w with
  | ⟨.ok a, w'⟩ => ⟨.ok a, w'⟩
  | ⟨.error e, w'⟩ => h e w'

/-- `try: x finally: h`: `h` runs on both exits, and an exception it raises wins. -/
def tryFinally (x : PyM α) (h : PyM Unit) : PyM α := fun w =>
  match x w with
  | ⟨r, w'⟩ => match h w' with
    | ⟨.ok _, w''⟩ => ⟨r, w''⟩
    | ⟨.error e, w''⟩ => ⟨.error e, w''⟩

/-- The world as it is. -/
def read : PyM World := fun w => ⟨.ok w, w⟩

/-- Change the world. -/
def modify (f : World → World) : PyM Unit := fun w => ⟨.ok (), f w⟩

/-- A Python expression that may raise. -/
def lift (r : Except PyExc α) : PyM α := fun w => ⟨r, w⟩

/-- `for x in xs: body(x)`. -/
def forEach {γ : Type} : List γ → (γ → PyM Unit) → PyM Unit
  | [], _ => PyM.pure ()
  | x :: xs, body => PyM.bind (body x) fun _ => forEach xs body

@[simp] theorem pure_apply (a : α) (w : World) : (pure a : PyM α) w = ⟨.ok a, w⟩ := rfl

theorem bind_apply (x : PyM α) (f : α → PyM β) (w : World) :
    (x >>= f) w = match x w with
      | ⟨.ok a, w'⟩ => f a w'
      | ⟨.error e, w'⟩ => ⟨.error e, w'⟩ := rfl

theorem bind_ok {x : PyM α} {f : α → PyM β} {w w' : World} {a : α} (h : x w = ⟨.ok a, w'⟩) :
    (x >>= f) w = f a w' := by rw [bind_apply, h]

/-- A run seen through its result. -/
theorem eq_of_result {x : PyM α} {w : World} {r : Except PyExc α} (h : (x w).result = r) :
    x w = ⟨r, (x w).world⟩ := by
  rw [← h]

theorem bind_error {x : PyM α} {f : α → PyM β} {w w' : World} {e : PyExc} (h : x w = ⟨.error e, w'⟩) :
    (x >>= f) w = ⟨.error e, w'⟩ := by rw [bind_apply, h]

@[simp] theorem forEach_nil {γ : Type} (body : γ → PyM Unit) : forEach [] body = pure () := rfl

@[simp] theorem forEach_cons {γ : Type} (x : γ) (xs : List γ) (body : γ → PyM Unit) :
    forEach (x :: xs) body = (body x >>= fun _ => forEach xs body) := rfl

end PyM

/-! ## Primitive steps -/

/-- Append an event to the log. -/
def record (e : Event) : PyM Unit := PyM.modify fun w => { w with log := w.log ++ [e] }

/-- `logger.error(...)`. -/
def logError : PyM Unit := record .logError

/-- Consult the fault oracle at the current tick, and move on to the next. -/
def fault : PyM Bool := fun w => ⟨.ok (w.faults w.tick), { w with tick := w.tick + 1 }⟩

/-- Change the cycle's counters. -/
def modifyStats (f : ReconciliationStats → ReconciliationStats) : PyM Unit :=
  PyM.modify fun w => { w with stats := f w.stats }

/-- `stats.errors += 1`. -/
def countError : PyM Unit := modifyStats fun s => { s with errors := s.errors + 1 }

/-- `except Exception: logger.error(...); stats.errors += 1`, around one item of a loop. -/
def isolate (x : PyM Unit) : PyM Unit :=
  PyM.tryCatch x fun _ => do logError; countError

end PgUserController
