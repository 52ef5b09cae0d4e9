-- SUMMARY: Hoare triples for the runs that raise nothing: one rule per construct of the Python monad, loops with an invariant over the items done, isolated items whose failure is logged, and frames drawn from what a run may log.
import PgUserController.Runs

/-!
# Triples

`Triple pre x post` says what a run of `x` that returns has done: from a world
satisfying `pre`, a run that returns `a` ends in a world satisfying `post a`. A
run that raises owes nothing, so a triple speaks of the path on which every call
succeeds; what the other paths may do is the business of `Keeps`.

Each item of the loops of `reconcile_users` runs under its own `try`, and its
failure is logged rather than raised. `Triple.isolate` turns the triple of an
item into one whose postcondition holds unless an error was logged, and
`Triple.orLogged` carries that alternative through the rest of a run, so that a
cycle that logged no error has every postcondition of its items.
-/

namespace PgUserController

/-- A run of `x` from a world satisfying `pre` that returns `a` ends in a world
    satisfying `post a`. -/
def Triple {α : Type} (pre : World → Prop) (x : PyM α) (post : α → World → Prop) : Prop :=
  ∀ w, pre w → ∀ a, (x w).result = .ok a → post a (x w).world

namespace Triple

variable {α β γ : Type} {pre pre' : World → Prop} {post post' : α → World → Prop}

theorem conseq {x : PyM α} (h : Triple pre x post) (hpre : ∀ w, pre' w → pre w)
    (hpost : ∀ a w, post a w → post' a w) : Triple pre' x post' :=
  fun w hw a ha => hpost a _ (h w (hpre w hw) a ha)

theorem weaken {x : PyM α} (h : Triple pre x post) (hpre : ∀ w, pre' w → pre w) : Triple pre' x post :=
  fun w hw => h w (hpre w hw)

theorem and {x : PyM α} {pre₂ : World → Prop} {post₂ : α → World → Prop} (h₁ : Triple pre x post)
    (h₂ : Triple pre₂ x post₂) : Triple (fun w => pre w ∧ pre₂ w) x (fun a w => post a w ∧ post₂ a w) :=
  fun w hw a ha => ⟨h₁ w hw.1 a ha, h₂ w hw.2 a ha⟩

/-- A fact about the values involved, assumed with the precondition. -/
theorem assume {φ : Prop} {x : PyM α} (h : φ → Triple pre x post) : Triple (fun w => φ ∧ pre w) x post :=
  fun w hw => h hw.1 w hw.2

/-- A witness of the precondition, taken apart. -/
theorem exists_pre {P : β → World → Prop} {x : PyM α} (h : ∀ b, Triple (P b) x post) :
    Triple (fun w => ∃ b, P b w) x post :=
  fun w ⟨b, hb⟩ => h b w hb

theorem pure {a : α} (h : ∀ w, pre w → post a w) : Triple pre (Pure.pure a : PyM α) post :=
  fun w hw b hb => by cases hb; exact h w hw

theorem raise (e : PyExc) : Triple pre (PyM.raise e : PyM α) post := fun _ _ _ h => nomatch h

theorem lift {r : Except PyExc α} (h : ∀ w a, pre w → r = .ok a → post a w) : Triple pre (PyM.lift r) post :=
  fun w hw a ha => h w a hw ha

/-- A Python expression returns its value, and changes nothing. -/
theorem lift_ok (r : Except PyExc α) : Triple pre (PyM.lift r) fun a w => r = .ok a ∧ pre w :=
  fun _ hw _ h => ⟨h, hw⟩

theorem modify {f : World → World} {post : Unit → World → Prop} (h : ∀ w, pre w → post () (f w)) :
    Triple pre (PyM.modify f) post := fun w hw _ _ => h w hw

theorem bind {x : PyM α} {f : α → PyM β} {mid : α → World → Prop} {post : β → World → Prop}
    (hx : Triple pre x mid) (hf : ∀ a, Triple (mid a) (f a) post) : Triple pre (x >>= f) post :=
  fun w hw b => by
    have h := hx w hw
    rw [PyM.bind_apply]
    generalize x w = o at h ⊢
    obtain ⟨r, w'⟩ := o
    cases r with
    | ok a => exact hf a w' (h a rfl) b
    | error e => exact fun h => nomatch h

theorem map {x : PyM α} {f : α → β} {post : β → World → Prop} (h : Triple pre x fun a => post (f a)) :
    Triple pre (f <$> x) post :=
  h.bind fun _ => pure fun _ hw => hw

theorem discard {x : PyM α} {post : World → Prop} (h : Triple pre x fun _ => post) :
    Triple pre (discard x) fun _ => post :=
  h.bind fun _ => pure fun _ hw => hw

/-- A method that logs its call first, then runs `f`. -/
theorem record_bind {e : Event} {f : Unit → PyM α} (hpre : ∀ w, pre w → pre { w with log := w.log ++ [e] })
    (h : Triple pre (f ()) post) : Triple pre (record e >>= f) post :=
  bind (show Triple pre (record e) fun _ => pre from fun w hw _ _ => hpre w hw) fun _ => h

/-- A run that ends by raising never returns. -/
theorem bind_raise {x : PyM β} (e : PyExc) : Triple pre (x >>= fun _ => PyM.raise e : PyM α) post :=
  bind (show Triple pre x fun _ _ => True from fun _ _ _ _ => trivial) fun _ => raise e

/-- A handler runs from whatever world the exception left. -/
theorem tryCatch {x : PyM α} {h : PyExc → PyM α} (hx : Triple pre x post)
    (hh : ∀ e, Triple (fun _ => True) (h e) post) : Triple pre (PyM.tryCatch x h) post := fun w hw b => by
  have h₁ := hx w hw
  unfold PyM.tryCatch
  generalize x w = o at h₁ ⊢
  obtain ⟨r, w'⟩ := o
  cases r with
  | ok a => exact h₁ b
  | error e => exact hh e w' trivial b

/-- `finally` runs after a body that returned, and its own run has to return too. -/
theorem tryFinally {x : PyM α} {h : PyM Unit} {mid : α → World → Prop} (hx : Triple pre x mid)
    (hh : ∀ a, Triple (mid a) h fun _ => post a) : Triple pre (PyM.tryFinally x h) post := fun w hw b => by
  have h₁ := hx w hw
  unfold PyM.tryFinally
  generalize x w = o at h₁ ⊢
  obtain ⟨r, w'⟩ := o
  dsimp only
  cases r with
  | ok a =>
    have h₂ := hh a w' (h₁ a rfl) ()
    generalize h w' = o' at h₂ ⊢
    obtain ⟨r', w''⟩ := o'
    cases r' with
    | ok u => exact fun hb => by cases hb; exact h₂ rfl
    | error e => exact fun h => nomatch h
  | error e =>
    generalize h w' = o'
    obtain ⟨r', w''⟩ := o'
    cases r' <;> exact fun h => nomatch h

/-- A loop, with an invariant indexed by the items done: each item takes the
    invariant of the items before it to that of the items up to it. -/
theorem forEach {body : γ → PyM Unit} (I : List γ → World → Prop) :
    ∀ {xs : List γ}, (∀ done x rest, xs = done ++ x :: rest → Triple (I done) (body x) fun _ => I (done ++ [x])) →
      Triple (I []) (PyM.forEach xs body) fun _ => I xs
  | [], _ => pure fun _ h => h
  | x :: xs, hb =>
    (hb [] x xs rfl).bind fun _ =>
      forEach (fun done => I (x :: done)) fun done y rest h =>
        hb (x :: done) y rest (by rw [h]; rfl)

/-- A loop with an invariant that each item keeps. -/
theorem forEach_inv {body : γ → PyM Unit} {I : World → Prop} {xs : List γ}
    (hb : ∀ x ∈ xs, Triple I (body x) fun _ => I) : Triple I (PyM.forEach xs body) fun _ => I :=
  forEach (fun _ => I) fun _ x _ h => hb x (by simp [h])

/-- An isolated item: what holds when it returns still holds, unless an error
    was logged, and one is logged when it raises. -/
theorem isolate {x : PyM Unit} {post : World → Prop} (hx : Triple pre x fun _ w => post w ∨ .logError ∈ w.log) :
    Triple pre (isolate x) fun _ w => post w ∨ .logError ∈ w.log := fun w hw _ => by
  have h₁ := hx w hw ()
  unfold PgUserController.isolate PyM.tryCatch
  generalize x w = o at h₁ ⊢
  obtain ⟨r, w'⟩ := o
  cases r with
  | ok u => exact fun _ => h₁ rfl
  | error e => exact fun _ => .inr (by simp [logError, record, countError, modifyStats, PyM.modify, PyM.bind_apply])

/-- Logging an error and counting it: the error is in the log. -/
theorem logError_countError {post : World → Prop} :
    Triple pre (logError >>= fun _ => countError) fun _ w => post w ∨ .logError ∈ w.log :=
  fun _ _ _ _ => .inr (by simp [logError, record, countError, modifyStats, PyM.modify, PyM.bind_apply])

/-- A logged error stays in the log. -/
theorem orLogged {P : Event → Prop} {x : PyM α} (h : Triple pre x post) (hk : Keeps P x) :
    Triple (fun w => pre w ∨ .logError ∈ w.log) x fun a w => post a w ∨ .logError ∈ w.log := by
  rintro w (hw | hw) a ha
  · exact .inl (h w hw a ha)
  · obtain ⟨new, hl, -⟩ := hk w
    exact .inr (by rw [hl]; exact List.mem_append_left _ hw)

/-- A run keeps every property of the catalogs that each statement it may send keeps. -/
theorem of_keeps {P : Event → Prop} {V : Catalog → Prop} {x : PyM α} (hk : Keeps P x)
    (hP : ∀ s, P (.sql s) → s.Preserves V) : Triple (World.Sees V) x fun _ => World.Sees V :=
  fun w hw _ _ => (hk w).sees hP hw

/-- A run that sends only `SELECT`s keeps whatever holds of the catalogs, or the
    error that was logged. -/
theorem of_reads {Q : Event → Prop} {x : PyM α} {V : Catalog → Prop} (hk : Keeps Q x)
    (hQ : ∀ s, Q (.sql s) → s.isRead) :
    Triple (fun w => w.Sees V ∨ .logError ∈ w.log) x fun _ w => w.Sees V ∨ .logError ∈ w.log :=
  (of_keeps hk fun s hs => Stmt.preserves_of_isRead (hQ s hs)).orLogged hk

end Triple

/-- Whatever `x` returns, from any world, satisfies `Q`. -/
def Returns {α : Type} (Q : α → Prop) (x : PyM α) : Prop := Triple (fun _ => True) x fun a _ => Q a

namespace Returns

variable {α β : Type} {Q : α → Prop} {R : β → Prop}

theorem true (x : PyM α) : Returns (fun _ => True) x := fun _ _ _ _ => trivial

theorem mono {x : PyM α} {Q' : α → Prop} (h : Returns Q x) (hQ : ∀ a, Q a → Q' a) : Returns Q' x :=
  Triple.conseq h (fun _ h => h) fun a _ => hQ a

theorem pure {a : α} (h : Q a) : Returns Q (pure a) := Triple.pure fun _ _ => h

theorem raise (e : PyExc) : Returns Q (PyM.raise e) := Triple.raise e

theorem bind {x : PyM α} {f : α → PyM β} (hx : Returns Q x) (hf : ∀ a, Q a → Returns R (f a)) :
    Returns R (x >>= f) :=
  Triple.bind hx fun a w hq => hf a hq w trivial

theorem tryCatch {x : PyM α} {h : PyExc → PyM α} (hx : Returns Q x) (hh : ∀ e, Returns Q (h e)) :
    Returns Q (PyM.tryCatch x h) := Triple.tryCatch hx hh

theorem tryFinally {x : PyM α} {h : PyM Unit} (hx : Returns Q x) : Returns Q (PyM.tryFinally x h) :=
  Triple.tryFinally hx fun a => show Triple (fun _ => Q a) h fun _ _ => Q a from fun _ hq _ _ => hq

end Returns

end PgUserController
