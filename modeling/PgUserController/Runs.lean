-- SUMMARY: What a run appends to the log, and what it can change through those events: the rules for composing such guarantees, for knowing the first event of a run, and for runs that log a given event.
import PgUserController.Program

/-!
# Runs

`Keeps P x` is what every run of `x` guarantees: it appends to the log only
events satisfying `P`, and it changes the catalog or the state file only through
such an event that writes it. The rules below compose such guarantees along
`bind`, `try`, `finally` and loops, so that a property of a whole cycle is
assembled from one lemma per gateway method. `Starts` and `Logs` say which
event a run logs first, and that it logs one at all.
-/

namespace PgUserController

/-- `w'` follows `w` by a run that appends to the log only events satisfying `P`,
    changes the catalog only when one of them writes it, the state file only when
    one of them is a save, and the catalogs only as the statements among them
    allow: a property that each of those statements keeps still holds. The
    cluster and the fault oracle stay as they are. -/
def Extends (P : Event → Prop) (w w' : World) : Prop :=
  ∃ new, w'.log = w.log ++ new ∧ (∀ e ∈ new, P e) ∧
    (w'.db = w.db ∨ ∃ e ∈ new, e.writesDb) ∧ (w'.stateFile = w.stateFile ∨ ∃ e ∈ new, e.writesState) ∧
    (∀ V, (∀ s, .sql s ∈ new → s.Preserves V) → w.Sees V → w'.Sees V) ∧
    w'.cluster = w.cluster ∧ w'.faults = w.faults

/-- A component that changed over two runs changed in one of them. -/
private theorem changed_append {β : Type} {a b c : β} {q : Event → Bool} {n₁ n₂ : List Event}
    (h₁ : b = a ∨ ∃ e ∈ n₁, q e) (h₂ : c = b ∨ ∃ e ∈ n₂, q e) : c = a ∨ ∃ e ∈ n₁ ++ n₂, q e := by
  rcases h₂ with rfl | ⟨e, he, hq⟩
  · rcases h₁ with rfl | ⟨e, he, hq⟩
    · exact .inl rfl
    · exact .inr ⟨e, List.mem_append_left _ he, hq⟩
  · exact .inr ⟨e, List.mem_append_right _ he, hq⟩

namespace Extends

variable {P Q : Event → Prop} {w w' w'' : World}

theorem refl (w : World) : Extends P w w :=
  ⟨[], by simp, by simp, .inl rfl, .inl rfl, fun _ _ h => h, rfl, rfl⟩

theorem trans (h₁ : Extends P w w') (h₂ : Extends P w' w'') : Extends P w w'' := by
  obtain ⟨n₁, l₁, p₁, d₁, s₁, v₁, c₁, f₁⟩ := h₁
  obtain ⟨n₂, l₂, p₂, d₂, s₂, v₂, c₂, f₂⟩ := h₂
  refine ⟨n₁ ++ n₂, by rw [l₂, l₁, List.append_assoc], fun e he => ?_,
    changed_append d₁ d₂, changed_append s₁ s₂,
    fun V hV hw => v₂ V (fun s hs => hV s (List.mem_append_right _ hs))
      (v₁ V (fun s hs => hV s (List.mem_append_left _ hs)) hw), c₂.trans c₁, f₂.trans f₁⟩
  rcases List.mem_append.mp he with h | h
  exacts [p₁ e h, p₂ e h]

theorem mono (h : Extends P w w') (hPQ : ∀ e, P e → Q e) : Extends Q w w' := by
  obtain ⟨n, l, p, rest⟩ := h
  exact ⟨n, l, fun x hx => hPQ x (p x hx), rest⟩

/-- A step that accounts for nothing. -/
theorem of_frame (h : World.Frame w w') : Extends P w w' := by
  refine ⟨[], by simp [h.log], by simp, .inl h.db, .inl h.stateFile, fun V _ hw => ?_, h.cluster, h.faults⟩
  rcases h.txn with ht | ht <;> simp only [World.Sees, h.db, ht] at hw ⊢
  exacts [hw, ⟨hw.1, hw.1⟩]

/-- A step that appends one event. -/
theorem single {e : Event} (hl : w'.log = w.log ++ [e]) (he : P e) (hd : w'.db = w.db ∨ e.writesDb)
    (hs : w'.stateFile = w.stateFile ∨ e.writesState)
    (hV : ∀ V, (∀ s, e = .sql s → s.Preserves V) → w.Sees V → w'.Sees V)
    (hc : w'.cluster = w.cluster) (hf : w'.faults = w.faults) : Extends P w w' :=
  ⟨[e], hl, by simpa using he, hd.imp_right fun h => ⟨e, by simp, h⟩,
    hs.imp_right fun h => ⟨e, by simp, h⟩, fun V hV' => hV V fun s hs => hV' s (by simp [hs]), hc, hf⟩

/-- A run whose events write no catalog leaves the catalog as it was. -/
theorem db_eq (h : Extends P w w') (hP : ∀ e, P e → e.writesDb = false) : w'.db = w.db := by
  obtain ⟨n, -, p, d, -⟩ := h
  exact d.resolve_right fun ⟨e, he, hw⟩ => by simp [hP e (p e he)] at hw

/-- A run whose events save no state leaves the state file as it was. -/
theorem stateFile_eq (h : Extends P w w') (hP : ∀ e, P e → e.writesState = false) :
    w'.stateFile = w.stateFile := by
  obtain ⟨n, -, p, -, s, -⟩ := h
  exact s.resolve_right fun ⟨e, he, hw⟩ => by simp [hP e (p e he)] at hw

/-- A run keeps every property of the catalogs that each statement it may send keeps. -/
theorem sees {V : Catalog → Prop} (h : Extends P w w') (hP : ∀ s, P (.sql s) → s.Preserves V)
    (hw : w.Sees V) : w'.Sees V := by
  obtain ⟨n, -, p, -, -, v, -⟩ := h
  exact v V (fun s hs => hP s (p _ hs)) hw

theorem cluster_eq (h : Extends P w w') : w'.cluster = w.cluster := by
  obtain ⟨-, -, -, -, -, -, c, -⟩ := h
  exact c

theorem faults_eq (h : Extends P w w') : w'.faults = w.faults := by
  obtain ⟨-, -, -, -, -, -, -, f⟩ := h
  exact f

end Extends

/-- Every run of `x` extends its world by events satisfying `P`. -/
def Keeps {α : Type} (P : Event → Prop) (x : PyM α) : Prop := ∀ w, Extends P w (x w).world

namespace Keeps

variable {α β : Type} {P Q : Event → Prop}

theorem mono {x : PyM α} (h : Keeps P x) (hPQ : ∀ e, P e → Q e) : Keeps Q x :=
  fun w => (h w).mono hPQ

/-- A step that accounts for nothing. -/
theorem of_frame {x : PyM α} (h : ∀ w, World.Frame w (x w).world) : Keeps P x :=
  fun w => .of_frame (h w)

/-- The guarantee of `x`, at a run whose outcome is known. -/
theorem run {x : PyM α} {w w' : World} {r : Except PyExc α} (h : Keeps P x) (hx : x w = ⟨r, w'⟩) :
    Extends P w w' := by
  have := h w
  rwa [hx] at this

theorem pure (a : α) : Keeps P (pure a : PyM α) := of_frame fun _ => ⟨rfl, rfl, rfl, .inl rfl, rfl, rfl⟩

theorem raise (e : PyExc) : Keeps P (PyM.raise e : PyM α) :=
  of_frame fun _ => ⟨rfl, rfl, rfl, .inl rfl, rfl, rfl⟩

theorem lift (r : Except PyExc α) : Keeps P (PyM.lift r) := of_frame fun _ => ⟨rfl, rfl, rfl, .inl rfl, rfl, rfl⟩

theorem read : Keeps P PyM.read := of_frame fun _ => ⟨rfl, rfl, rfl, .inl rfl, rfl, rfl⟩

theorem fault : Keeps P fault := of_frame fun _ => ⟨rfl, rfl, rfl, .inl rfl, rfl, rfl⟩

theorem record {e : Event} (he : P e) : Keeps P (record e) :=
  fun _ => .single rfl he (.inl rfl) (.inl rfl) (fun _ _ h => h) rfl rfl

theorem modifyStats (f : ReconciliationStats → ReconciliationStats) : Keeps P (modifyStats f) :=
  of_frame fun _ => ⟨rfl, rfl, rfl, .inl rfl, rfl, rfl⟩

theorem bind {x : PyM α} {f : α → PyM β} (hx : Keeps P x) (hf : ∀ a, Keeps P (f a)) :
    Keeps P (x >>= f) := by
  intro w
  have h := hx w
  rw [PyM.bind_apply]
  generalize x w = o at h ⊢
  obtain ⟨r, w'⟩ := o
  cases r with
  | ok a => exact h.trans (hf a w')
  | error e => exact h

/-- The continuation of a Python expression only runs on its value. -/
theorem lift_bind {r : Except PyExc α} {f : α → PyM β} (hf : ∀ a, r = .ok a → Keeps P (f a)) :
    Keeps P (PyM.lift r >>= f) := by
  intro w
  cases r with
  | ok a => exact hf a rfl w
  | error e => exact .refl w

theorem tryCatch {x : PyM α} {h : PyExc → PyM α} (hx : Keeps P x) (hh : ∀ e, Keeps P (h e)) :
    Keeps P (PyM.tryCatch x h) := by
  intro w
  have h₁ := hx w
  unfold PyM.tryCatch
  generalize x w = o at h₁ ⊢
  obtain ⟨r, w'⟩ := o
  cases r with
  | ok a => exact h₁
  | error e => exact h₁.trans (hh e w')

theorem tryFinally {x : PyM α} {h : PyM Unit} (hx : Keeps P x) (hh : Keeps P h) :
    Keeps P (PyM.tryFinally x h) := by
  intro w
  have h₁ := hx w
  unfold PyM.tryFinally
  generalize x w = o at h₁ ⊢
  obtain ⟨r, w'⟩ := o
  have h₂ := hh w'
  dsimp only
  generalize h w' = o' at h₂ ⊢
  obtain ⟨r', w''⟩ := o'
  cases r' <;> exact h₁.trans h₂

theorem forEach {γ : Type} {xs : List γ} {body : γ → PyM Unit} (hb : ∀ x ∈ xs, Keeps P (body x)) :
    Keeps P (PyM.forEach xs body) := by
  induction xs with
  | nil => exact pure ()
  | cons x xs ih =>
    exact (hb x (List.mem_cons_self _ _)).bind fun _ =>
      ih fun y hy => hb y (List.mem_cons_of_mem _ hy)

theorem logError (h : P .logError) : Keeps P logError := record h

theorem countError : Keeps P countError := modifyStats _

theorem isolate {x : PyM Unit} (hx : Keeps P x) (h : P .logError) : Keeps P (isolate x) :=
  hx.tryCatch fun _ => (logError h).bind fun _ => countError

/-- A run that may send no event leaves the log as it was. -/
theorem log_eq {x : PyM α} (h : Keeps (fun _ => False) x) (w : World) : (x w).world.log = w.log := by
  obtain ⟨new, hl, hP, -⟩ := h w
  cases new with
  | nil => simpa using hl
  | cons e _ => exact (hP e (List.mem_cons_self _ _)).elim

end Keeps

/-- Every run of `x` begins by logging `e`. -/
def Starts {α : Type} (e : Event) (x : PyM α) : Prop := ∀ w, ∃ new, (x w).world.log = w.log ++ e :: new

namespace Starts

variable {α β : Type} {P : Event → Prop} {e : Event}

/-- A method that logs its call first, and what it then does. -/
theorem record_bind {f : Unit → PyM β} (he : P e) (hf : ∀ a, Keeps P (f a)) :
    Keeps P (record e >>= f) ∧ Starts e (record e >>= f) := by
  refine ⟨(Keeps.record he).bind hf, fun w => ?_⟩
  obtain ⟨new, hl, -⟩ := hf () { w with log := w.log ++ [e] }
  have hrun : (record e >>= f) w = f () { w with log := w.log ++ [e] } := rfl
  exact ⟨new, by rw [hrun, hl]; simp⟩

theorem bind {x : PyM α} {f : α → PyM β} (hx : Starts e x) (hf : ∀ a, Keeps P (f a)) :
    Starts e (x >>= f) := fun w => by
  obtain ⟨n₁, h₁⟩ := hx w
  rw [PyM.bind_apply]
  generalize x w = o at h₁
  obtain ⟨r, w'⟩ := o
  cases r with
  | ok a =>
    obtain ⟨n₂, h₂, -⟩ := hf a w'
    exact ⟨n₁ ++ n₂, by rw [h₂, h₁]; simp⟩
  | error => exact ⟨n₁, h₁⟩

theorem isolate {x : PyM Unit} (hx : Starts e x) : Starts e (isolate x) := fun w => by
  obtain ⟨n₁, h₁⟩ := hx w
  unfold PgUserController.isolate PyM.tryCatch
  generalize x w = o at h₁
  obtain ⟨r, w'⟩ := o
  cases r with
  | ok => exact ⟨n₁, h₁⟩
  | error =>
    have hh : Keeps (fun _ => True) (logError >>= fun _ => countError) :=
      (Keeps.logError trivial).bind fun _ => Keeps.countError
    obtain ⟨n₂, h₂, -⟩ := hh w'
    exact ⟨n₁ ++ n₂, by rw [h₂, h₁]; simp⟩

end Starts

/-- Every run of `x` begins by logging `e`, and logs nothing after it but events
    that `Q` allows. -/
def StartsThen {α : Type} (e : Event) (Q : Event → Prop) (x : PyM α) : Prop :=
  ∀ w, ∃ new, (x w).world.log = w.log ++ e :: new ∧ ∀ e' ∈ new, Q e'

namespace StartsThen

variable {α β : Type} {Q : Event → Prop} {e : Event}

/-- A method that logs its call first, then runs `f`. -/
theorem record_bind {f : Unit → PyM β} (hf : ∀ a, Keeps Q (f a)) : StartsThen e Q (record e >>= f) := fun w => by
  obtain ⟨new, hl, hQ, -⟩ := hf () { w with log := w.log ++ [e] }
  have hrun : (record e >>= f) w = f () { w with log := w.log ++ [e] } := rfl
  exact ⟨new, by rw [hrun, hl]; simp, hQ⟩

theorem starts {x : PyM α} (h : StartsThen e Q x) : Starts e x := fun w =>
  let ⟨new, hl, _⟩ := h w
  ⟨new, hl⟩

end StartsThen

/-- Every run of `x` logs `e`. -/
def Logs {α : Type} (e : Event) (x : PyM α) : Prop := ∀ w, ∃ new, (x w).world.log = w.log ++ new ∧ e ∈ new

namespace Logs

variable {α β : Type} {P : Event → Prop} {e : Event}

theorem of_starts {x : PyM α} (h : Starts e x) : Logs e x := fun w =>
  let ⟨new, hl⟩ := h w
  ⟨e :: new, hl, List.mem_cons_self _ _⟩

theorem bind_left {x : PyM α} {f : α → PyM β} (hx : Logs e x) (hf : ∀ a, Keeps P (f a)) :
    Logs e (x >>= f) := fun w => by
  obtain ⟨n₁, h₁, hm⟩ := hx w
  rw [PyM.bind_apply]
  generalize x w = o at h₁
  obtain ⟨r, w'⟩ := o
  cases r with
  | ok a =>
    obtain ⟨n₂, h₂, -⟩ := hf a w'
    exact ⟨n₁ ++ n₂, by rw [h₂, h₁, List.append_assoc], List.mem_append_left _ hm⟩
  | error => exact ⟨n₁, h₁, hm⟩

/-- A step that always returns, then a continuation that logs `e`. -/
theorem bind_right {x : PyM α} {f : α → PyM β} (hx : Keeps (fun _ => True) x) (hok : ∀ w, ∃ a, (x w).result = .ok a)
    (hf : ∀ a, Logs e (f a)) : Logs e (x >>= f) := fun w => by
  obtain ⟨a, ha⟩ := hok w
  obtain ⟨n₁, h₁, -⟩ := hx w
  obtain ⟨n₂, h₂, hm⟩ := hf a (x w).world
  rw [PyM.bind_ok (PyM.eq_of_result ha)]
  exact ⟨n₁ ++ n₂, by rw [h₂, h₁, List.append_assoc], List.mem_append_right _ hm⟩

/-- A loop whose items never raise runs the item `x`, which logs `e`. -/
theorem forEach {γ : Type} {body : γ → PyM Unit} {x : γ} (hb : Logs e (body x))
    (hok : ∀ y w, (body y w).result = .ok ()) (hk : ∀ y, Keeps (fun _ => True) (body y)) :
    ∀ {xs : List γ}, x ∈ xs → Logs e (PyM.forEach xs body)
  | y :: ys, hx => by
    rw [PyM.forEach_cons]
    rcases List.mem_cons.mp hx with rfl | hx
    · exact hb.bind_left fun _ => Keeps.forEach fun z _ => hk z
    · exact bind_right (hk y) (fun w => ⟨(), hok y w⟩) fun _ => forEach hb hok hk hx

end Logs

/-- Every run of `x` logs `e`, and after it only events that `Q` allows. -/
def LogsThen {α : Type} (e : Event) (Q : Event → Prop) (x : PyM α) : Prop :=
  ∀ w, ∃ pre post, (x w).world.log = w.log ++ pre ++ e :: post ∧ ∀ e' ∈ post, Q e'

namespace LogsThen

variable {α β : Type} {Q : Event → Prop} {e : Event}

/-- A method that logs `e` first and then only events that `Q` allows. -/
theorem of_starts {x : PyM α} (h : Starts e x) (hk : Keeps Q x) : LogsThen e Q x := fun w => by
  obtain ⟨new, hl⟩ := h w
  obtain ⟨new', hl', hQ, -⟩ := hk w
  obtain rfl := List.append_cancel_left (hl'.symm.trans hl)
  exact ⟨[], new, by rw [hl, List.append_nil], fun e' he' => hQ e' (List.mem_cons_of_mem _ he')⟩

theorem bind_left {x : PyM α} {f : α → PyM β} (hx : LogsThen e Q x) (hf : ∀ a, Keeps Q (f a)) :
    LogsThen e Q (x >>= f) := fun w => by
  obtain ⟨pre, post, h₁, hQ₁⟩ := hx w
  rw [PyM.bind_apply]
  generalize x w = o at h₁
  obtain ⟨r, w'⟩ := o
  cases r with
  | ok a =>
    obtain ⟨n₂, h₂, hQ₂, -⟩ := hf a w'
    exact ⟨pre, post ++ n₂, by rw [h₂, h₁]; simp, fun e' he' => (List.mem_append.mp he').elim (hQ₁ e') (hQ₂ e')⟩
  | error => exact ⟨pre, post, h₁, hQ₁⟩

/-- A step that always returns, then a continuation that logs `e` and after it
    only events that `Q` allows. -/
theorem bind_right {x : PyM α} {f : α → PyM β} (hx : Keeps (fun _ => True) x)
    (hok : ∀ w, ∃ a, (x w).result = .ok a) (hf : ∀ a, LogsThen e Q (f a)) : LogsThen e Q (x >>= f) := fun w => by
  obtain ⟨a, ha⟩ := hok w
  obtain ⟨n₁, h₁, -⟩ := hx w
  obtain ⟨pre, post, h₂, hQ⟩ := hf a (x w).world
  rw [PyM.bind_ok (PyM.eq_of_result ha)]
  exact ⟨n₁ ++ pre, post, by rw [h₂, h₁]; simp, hQ⟩

end LogsThen

/-! ## Loops whose items are isolated -/

/-- An isolated item never raises. -/
theorem isolate_result (x : PyM Unit) (w : World) : (isolate x w).result = .ok () := by
  unfold isolate PyM.tryCatch
  generalize x w = o
  obtain ⟨r, w'⟩ := o
  cases r <;> rfl

/-- A loop whose items never raise does not raise. -/
theorem forEach_ok {γ : Type} {body : γ → PyM Unit} :
    ∀ {xs : List γ}, (∀ x ∈ xs, ∀ w, (body x w).result = .ok ()) →
      ∀ w, (PyM.forEach xs body w).result = .ok ()
  | [], _, _ => rfl
  | x :: _, hb, w => by
    rw [PyM.forEach_cons, PyM.bind_ok (PyM.eq_of_result (hb x (List.mem_cons_self _ _) w))]
    exact forEach_ok (fun y hy => hb y (List.mem_cons_of_mem _ hy)) _

/-- A loop whose items never raise runs every item: when the run of each item
    logs `ev x`, the run of the loop logs `ev x` for each `x`, and returns. -/
theorem forEach_logs {γ : Type} {body : γ → PyM Unit} {ev : γ → Event}
    (hb : ∀ x w, (body x w).result = .ok () ∧ ∃ new, (body x w).world.log = w.log ++ new ∧ ev x ∈ new) :
    ∀ (xs : List γ) (w : World), (PyM.forEach xs body w).result = .ok () ∧
      ∃ new, (PyM.forEach xs body w).world.log = w.log ++ new ∧ ∀ x ∈ xs, ev x ∈ new
  | [], w => ⟨rfl, [], by simp [PyM.forEach, PyM.pure], by simp⟩
  | x :: xs, w => by
    obtain ⟨hok, n₁, hl₁, hm₁⟩ := hb x w
    obtain ⟨hok₂, n₂, hl₂, hm₂⟩ := forEach_logs hb xs (body x w).world
    have hrun : PyM.forEach (x :: xs) body w = PyM.forEach xs body (body x w).world := by
      rw [PyM.forEach_cons, PyM.bind_ok (PyM.eq_of_result hok)]
    refine ⟨hrun ▸ hok₂, n₁ ++ n₂, by rw [hrun, hl₂, hl₁, List.append_assoc], fun y hy => ?_⟩
    rcases List.mem_cons.mp hy with rfl | hy
    exacts [List.mem_append_left _ hm₁, List.mem_append_right _ (hm₂ y hy)]

/-! ## Runs within a relation -/

/-- Every run of `x`, whether it returns or raises, ends in a world related to the
    one it started from. `Keeps P` is `Steps (Extends P)`. -/
def Steps {α : Type} (R : World → World → Prop) (x : PyM α) : Prop := ∀ w, R w (x w).world

/-- A relation between a world and a later one that holds of every world and
    itself and composes: the rules below then lift it along `bind`, `try`,
    `finally` and loops. -/
structure StepRel (R : World → World → Prop) : Prop where
  refl : ∀ w, R w w
  trans : ∀ {w₁ w₂ w₃ : World}, R w₁ w₂ → R w₂ w₃ → R w₁ w₃

theorem Extends.stepRel (P : Event → Prop) : StepRel (Extends P) := ⟨Extends.refl, Extends.trans⟩

section StepRel

variable {α β : Type} {R : World → World → Prop} (hR : StepRel R)
include hR

/-- `Steps.bind` from one world. -/
theorem StepRel.bind_apply {x : PyM α} {f : α → PyM β} {w : World} (hx : R w (x w).world)
    (hf : ∀ a, Steps R (f a)) : R w ((x >>= f) w).world := by
  rw [PyM.bind_apply]
  generalize x w = o at hx ⊢
  obtain ⟨_ | a, w'⟩ := o
  · exact hx
  · exact hR.trans hx (hf a w')

/-- `Steps.tryCatch` from one world. -/
theorem StepRel.tryCatch_apply {x : PyM α} {h : PyExc → PyM α} {w : World} (hx : R w (x w).world)
    (hh : ∀ e, Steps R (h e)) : R w (PyM.tryCatch x h w).world := by
  unfold PyM.tryCatch
  generalize x w = o at hx ⊢
  obtain ⟨_ | a, w'⟩ := o
  · exact hR.trans hx (hh _ w')
  · exact hx

theorem Steps.pure (a : α) : Steps R (pure a : PyM α) := hR.refl

theorem Steps.raise (e : PyExc) : Steps R (PyM.raise e : PyM α) := hR.refl

theorem Steps.lift (r : Except PyExc α) : Steps R (PyM.lift r) := hR.refl

theorem Steps.bind {x : PyM α} {f : α → PyM β} (hx : Steps R x) (hf : ∀ a, Steps R (f a)) :
    Steps R (x >>= f) := fun w => hR.bind_apply (hx w) hf

theorem Steps.tryCatch {x : PyM α} {h : PyExc → PyM α} (hx : Steps R x) (hh : ∀ e, Steps R (h e)) :
    Steps R (PyM.tryCatch x h) := fun w => hR.tryCatch_apply (hx w) hh

theorem Steps.tryFinally {x : PyM α} {h : PyM Unit} (hx : Steps R x) (hh : Steps R h) :
    Steps R (PyM.tryFinally x h) := fun w => by
  have h₁ := hx w
  unfold PyM.tryFinally
  generalize x w = o at h₁ ⊢
  obtain ⟨r, w'⟩ := o
  have h₂ := hR.trans h₁ (hh w')
  dsimp only
  generalize h w' = o' at h₂ ⊢
  obtain ⟨_ | _, w''⟩ := o' <;> exact h₂

theorem Steps.forEach {γ : Type} {body : γ → PyM Unit} (hb : ∀ x, Steps R (body x)) :
    ∀ xs, Steps R (PyM.forEach xs body)
  | [] => Steps.pure hR ()
  | x :: xs => (hb x).bind hR fun _ => Steps.forEach hb xs

theorem Steps.map {x : PyM α} (g : α → β) (h : Steps R x) : Steps R (g <$> x) :=
  h.bind hR fun _ => Steps.pure hR _

theorem Steps.discard {x : PyM α} (h : Steps R x) : Steps R (discard x) := h.bind hR fun _ => Steps.pure hR _

end StepRel

end PgUserController
