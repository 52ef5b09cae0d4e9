-- SUMMARY: Dry and real cycles side by side: without faults, when the real cycle returns and logs no error and drops no user that a live desired user is directly a member of, the dry cycle reports the same mutation calls and ends with the same counters.
import PgUserController.Idempotence

/-!
# Dry and real runs agree

`reconcileUsers_dryRun_reports_other_updates` shows a dry cycle reporting an
`update_user_roles` that the real cycle on the same inputs does not make: the real
cycle drops a role before it reads the memberships of a user of it. This module
proves the agreement where that cannot happen (`reconcileUsers_dryRun_agrees`):
with no fault anywhere, a real cycle that returns and logs no error, and no user
it drops a direct role of a live desired user, the dry cycle returns too, calls the
same mutations with the same arguments in the same order, and ends with the same
counters.

The proof runs the two cycles side by side. `Agree R xd xr R'` is a relational
triple: from worlds related by `R`, a real run of `xr` that returns and logs no
error has a dry counterpart `xd` that returns the same, and the two end related
by `R'`. Its rules follow the program: `bind`, `lift_bind`, `ite`, `isolate`
and an indexed `forEach` for the loops. `Twin` is the relation the cycle keeps: the same
calls and counters so far, no faults, the dry catalog untouched, and the real
catalog keeping the memberships of the users the update loop has yet to read
(`MembersKept`, `Pending`).
-/

namespace PgUserController

/-! ## Reads without faults -/

section Reads

variable {α : Type}

/-- `try: x finally: h` returns what `x` returns when `h` cannot raise. -/
theorem tryFinally_result {x : PyM α} {h : PyM Unit} (hh : ∀ w, (h w).result = .ok ()) (w : World) :
    (PyM.tryFinally x h w).result = (x w).result := by
  unfold PyM.tryFinally
  generalize x w = o
  obtain ⟨r, w'⟩ := o
  dsimp only
  have := hh w'
  revert this
  generalize h w' = o'
  obtain ⟨_ | _, w''⟩ := o' <;> intro h' <;> cases h'
  rfl

/-- A handler that re-raises leaves the result as it is. -/
theorem onDbError_result (x : PyM α) (w : World) : (onDbError (pure ()) x w).result = (x w).result := by
  unfold onDbError PyM.tryCatch
  generalize x w = o
  obtain ⟨_ | e, w'⟩ := o
  · dsimp only
    split <;> rfl
  · rfl

/-- `with self.get_connection()` returns what its body returns. -/
theorem withConnection_result (body : PyM α) (w : World) :
    (withConnection body w).result = (body { w with conn := none, txn := none }).result :=
  show (PyM.tryFinally body returnConnection _).result = _ from tryFinally_result (fun _ => rfl) _

/-- Without faults, `getconn()` hands out a connection, outside any transaction. -/
theorem getConnection_ok {w : World} (hnf : ∀ t, w.faults t = false) :
    (getConnection w).result = .ok () ∧ (∃ c, (getConnection w).world.conn = some c) ∧
      (getConnection w).world.txn = none ∧ (getConnection w).world.db = w.db ∧
      (getConnection w).world.faults = w.faults := by
  unfold getConnection
  split
  · exact ⟨rfl, ⟨_, rfl⟩, rfl, rfl, rfl⟩
  · rw [if_neg (by simp [hnf])]
    exact ⟨rfl, ⟨_, rfl⟩, rfl, rfl, rfl⟩

/-- Without faults, a `SELECT` on a connection outside a transaction returns its
    rows on the committed catalog. -/
theorem execute_rows {s : Stmt} (hs : s.isRead) {w : World} (hnf : ∀ t, w.faults t = false) {c : Conn}
    (hc : w.conn = some c) (ht : w.txn = none) : (execute s w).result = s.rows w.db := by
  unfold execute
  simp only [hnf, hc, ht, Option.getD_none, ite_self, Stmt.exec_of_isRead hs, Bool.false_eq_true, ite_false]
  cases s.rows w.db <;> rfl

/-- Without faults, a query returns the set of the rows its `SELECT` reads on the
    committed catalog. -/
theorem fetchRoleNames_result (call : Call) {s : Stmt} (hs : s.isRead) {w : World} (hnf : ∀ t, w.faults t = false) :
    (fetchRoleNames call s w).result = (s.rows w.db).map PySet.ofList := by
  unfold fetchRoleNames
  rw [PyM.bind_ok (show record (.call call) w = ⟨.ok (), { w with log := w.log ++ [.call call] }⟩ from rfl),
    withConnection_result, onDbError_result]
  have hnf₁ : ∀ t, ({ w with log := w.log ++ [Event.call call], conn := none, txn := none } : World).faults t =
      false := hnf
  obtain ⟨hok, ⟨c, hc⟩, ht, hdb, hf⟩ := getConnection_ok hnf₁
  rw [PyM.bind_ok (PyM.eq_of_result hok), PyM.bind_apply]
  have hrows := execute_rows hs (by rw [hf]; exact hnf) hc ht
  rw [hdb] at hrows
  revert hrows
  cases execute s _ with
  | mk r w'' => intro hrows; dsimp only at hrows ⊢; subst hrows; cases s.rows w.db <;> rfl

/-- A run whose result depends on the cluster alone, when nothing faults. -/
def ClusterRead (x : PyM α) : Prop :=
  ∀ w w', w'.cluster = w.cluster → (∀ t, w.faults t = false) → (∀ t, w'.faults t = false) →
    (x w').result = (x w).result

namespace ClusterRead

theorem of_result {x : PyM α} {r : Except PyExc α} (h : ∀ w, (x w).result = r) : ClusterRead x :=
  fun w w' _ _ _ => (h w').trans (h w).symm

theorem apiRead (obj : Cluster → Option α) : ClusterRead (apiRead obj) := fun w w' hc hnf hnf' => by
  unfold PgUserController.apiRead
  simp only [hnf, hnf', hc, Bool.false_eq_true, ite_false]
  split <;> rfl

/-- Two runs of a step from worlds with one cluster and no faults end so too. -/
theorem frame {P : Event → Prop} {x : PyM α} (hk : Keeps P x) {w w' : World} (hc : w'.cluster = w.cluster)
    (hnf : ∀ t, w.faults t = false) (hnf' : ∀ t, w'.faults t = false) :
    (x w').world.cluster = (x w).world.cluster ∧ (∀ t, (x w).world.faults t = false) ∧
      ∀ t, (x w').world.faults t = false :=
  ⟨by rw [(hk w').cluster_eq, (hk w).cluster_eq, hc], by rw [(hk w).faults_eq]; exact hnf,
    by rw [(hk w').faults_eq]; exact hnf'⟩

/-- Sequencing: a step that keeps the log growing keeps the cluster and the faults. -/
theorem bind {β : Type} {x : PyM α} {f : α → PyM β} (hx : ClusterRead x) (hk : Keeps (fun _ => True) x)
    (hf : ∀ a, ClusterRead (f a)) : ClusterRead (x >>= f) := fun w w' hc hnf hnf' => by
  have hr := hx w w' hc hnf hnf'
  have hframe := frame hk hc hnf hnf'
  rw [PyM.bind_apply, PyM.bind_apply]
  revert hr hframe
  cases x w with
  | mk r₁ w₁ => cases x w' with
    | mk r₂ w₂ => rintro (rfl : r₂ = r₁) ⟨hc', hnf₁, hnf₁'⟩; cases r₂ with
      | ok a => exact hf a w₁ w₂ hc' hnf₁ hnf₁'
      | error e => rfl

theorem tryCatch {x : PyM α} {h : PyExc → PyM α} (hx : ClusterRead x) (hk : Keeps (fun _ => True) x)
    (hh : ∀ e, ClusterRead (h e)) : ClusterRead (PyM.tryCatch x h) := fun w w' hc hnf hnf' => by
  have hr := hx w w' hc hnf hnf'
  have hframe := frame hk hc hnf hnf'
  unfold PyM.tryCatch
  revert hr hframe
  cases x w with
  | mk r₁ w₁ => cases x w' with
    | mk r₂ w₂ => rintro (rfl : r₂ = r₁) ⟨hc', hnf₁, hnf₁'⟩; cases r₂ with
      | ok a => rfl
      | error e => exact hh e w₁ w₂ hc' hnf₁ hnf₁'

/-- The retry loop of the Kubernetes reads. -/
theorem withRetries {attempt : PyM (Option α)} (ha : ClusterRead attempt) (hk : Keeps (fun _ => True) attempt) :
    ∀ n, ClusterRead (withRetries attempt n)
  | 0 => ha.tryCatch hk fun e => by
    unfold onApiException
    split
    exacts [of_result fun _ => rfl, of_result fun _ => rfl, of_result fun _ => rfl]
  | n + 1 => ha.tryCatch hk fun e => by
    unfold onApiException
    split
    exacts [of_result fun _ => rfl, withRetries ha hk n, of_result fun _ => rfl]

/-- Without faults, `get_user_password` returns what the cluster's secret holds. -/
theorem getUserPassword (cfg : Config) (username : Scalar) : ClusterRead (getUserPassword cfg username) := by
  refine bind (of_result fun _ => rfl) (Keeps.record trivial) fun _ => ?_
  dsimp only
  have hattempt : ∀ name, Keeps (fun _ => True) (do
      match ← PgUserController.apiRead fun c => c.secrets cfg.namespace_ name with
      | .noData => PyM.raise .attributeError
      | .absent => do logError; pure none
      | .decoded pw => pure (some pw)
      | .undecodable => PyM.raise .valueError : PyM (Option String)) := fun name =>
    (apiRead_keeps _).bind fun p => by
      split
      exacts [.raise _, (Keeps.logError trivial).bind fun _ => .pure _, .pure _, .raise _]
  split
  · refine bind (of_result fun _ => rfl) (.pure _) fun name => withRetries (bind (apiRead _) (apiRead_keeps _)
      fun p => ?_) (hattempt name) _
    split <;> exact of_result fun _ => rfl
  · exact bind (of_result fun _ => rfl) (.raise _) fun _ => withRetries (bind (apiRead _) (apiRead_keeps _)
      fun p => by split <;> exact of_result fun _ => rfl) (hattempt _) _

end ClusterRead

end Reads

/-! ## Two runs side by side -/

/-- From worlds related by `R`, `xd` returns what `xr` returns in a run that returns
    and logs no error, and the two runs end related by `R'`. -/
def Agree {α : Type} (R : World → World → Prop) (xd xr : PyM α) (R' : α → World → World → Prop) : Prop :=
  ∀ wd wr a, R wd wr → (xr wr).result = .ok a → Event.logError ∉ (xr wr).world.log →
    (xd wd).result = .ok a ∧ R' a (xd wd).world (xr wr).world

namespace Agree

variable {α β γ : Type} {R R' : World → World → Prop}

/-- Sequencing: the real continuation keeps the log growing, so a clean real run
    is clean up to the middle. -/
theorem bind {P : Event → Prop} {xd xr : PyM α} {fd fr : α → PyM β} {M : α → World → World → Prop}
    {R'' : β → World → World → Prop}
    (hx : Agree R xd xr M) (hk : ∀ a, Keeps P (fr a)) (hf : ∀ a, Agree (M a) (fd a) (fr a) R'') :
    Agree R (xd >>= fd) (xr >>= fr) R'' := fun wd wr b hR hok herr => by
  rcases hxr : xr wr with ⟨_ | a, wr'⟩
  · rw [PyM.bind_error hxr] at hok; cases hok
  rw [PyM.bind_ok hxr] at hok herr ⊢
  have herr' : Event.logError ∉ wr'.log := fun h => herr <| by
    obtain ⟨new, hl, -⟩ := hk a wr'
    exact hl ▸ List.mem_append_left _ h
  obtain ⟨hd, hM⟩ := hx wd wr a hR (by rw [hxr]) (by rw [hxr]; exact herr')
  rcases hxd : xd wd with ⟨rd, wd'⟩
  rw [hxd, hxr] at hM
  rw [hxd] at hd
  cases hd
  rw [PyM.bind_ok hxd]
  exact hf a wd' wr' b hM hok herr

theorem pure {a : α} {R' : α → World → World → Prop} (h : ∀ wd wr, R wd wr → R' a wd wr) :
    Agree R (Pure.pure a : PyM α) (Pure.pure a) R' := fun wd wr _ hR hok _ => by
  cases hok
  exact ⟨rfl, h wd wr hR⟩

/-- A value computed without effects, the same in both runs. -/
theorem lift_bind {r : Except PyExc α} {fd fr : α → PyM β} {R' : β → World → World → Prop}
    (hf : ∀ a, r = .ok a → Agree R (fd a) (fr a) R') : Agree R (PyM.lift r >>= fd) (PyM.lift r >>= fr) R' := by
  cases r with
  | error e => exact fun _ _ _ _ hok _ => nomatch hok
  | ok a => exact hf a rfl

/-- A real run that raises is not one the relation speaks of. -/
theorem raise {xd : PyM α} {R' : α → World → World → Prop} (e : PyExc) : Agree R xd (PyM.raise e) R' :=
  fun _ _ _ _ hok _ => nomatch hok

/-- A branch on a condition the two runs share. -/
theorem ite {c : Prop} [Decidable c] {xd xr yd yr : PyM α} {R' : α → World → World → Prop}
    (hx : c → Agree R xd xr R') (hy : ¬ c → Agree R yd yr R') :
    Agree R (if c then xd else yd) (if c then xr else yr) R' := by
  by_cases h : c
  · rw [if_pos h, if_pos h]
    exact hx h
  · rw [if_neg h, if_neg h]
    exact hy h

/-- An isolated item: the real run raised nothing, since it logged no error. -/
theorem isolate {xd xr : PyM Unit} (h : Agree R xd xr fun _ => R') :
    Agree R (PgUserController.isolate xd) (PgUserController.isolate xr) fun _ => R' := fun wd wr u hR _ herr => by
  unfold PgUserController.isolate PyM.tryCatch at herr ⊢
  rcases hxr : xr wr with ⟨_ | u', wr'⟩ <;> rw [hxr] at herr
  · exact absurd (by simp [logError, record, countError, modifyStats, PyM.modify, PyM.bind_apply]) herr
  obtain ⟨hd, hR'⟩ := h wd wr u' hR (by rw [hxr]) (by rw [hxr]; exact herr)
  rcases hxd : xd wd with ⟨rd, wd'⟩
  rw [hxd] at hd hR'
  cases hd
  rw [hxr] at hR'
  exact ⟨rfl, hR'⟩

/-- Strengthening the precondition. -/
theorem weaken {R₀ : World → World → Prop} {xd xr : PyM α} {R' : α → World → World → Prop}
    (h : Agree R xd xr R') (hR : ∀ wd wr, R₀ wd wr → R wd wr) : Agree R₀ xd xr R' :=
  fun wd wr a h₀ => h wd wr a (hR wd wr h₀)

/-- Weakening the postcondition. -/
theorem mono {xd xr : PyM α} {R' R'' : α → World → World → Prop} (h : Agree R xd xr R')
    (hR : ∀ a wd wr, R' a wd wr → R'' a wd wr) : Agree R xd xr R'' :=
  fun wd wr a h₀ hok herr => (h wd wr a h₀ hok herr).imp_right (hR a _ _)

/-- A real run that always logs an error is never one that the relation speaks of. -/
theorem of_logs {xd xr : PyM α} {R' : α → World → World → Prop} (h : Logs .logError xr) : Agree R xd xr R' :=
  fun _ wr _ _ _ herr => absurd (by obtain ⟨new, hl, hm⟩ := h wr; rw [hl]; exact List.mem_append_right _ hm) herr

/-- A loop, with a relation indexed by the items done. -/
theorem forEach {P : Event → Prop} {bd br : γ → PyM Unit} (I : List γ → World → World → Prop) :
    ∀ {xs : List γ}, (∀ x ∈ xs, Keeps P (br x)) →
      (∀ done x rest, xs = done ++ x :: rest → Agree (I done) (bd x) (br x) fun _ => I (done ++ [x])) →
      Agree (I []) (PyM.forEach xs bd) (PyM.forEach xs br) fun _ => I xs
  | [], _, _ => pure fun _ _ h => h
  | x :: xs, hk, hb =>
    (hb [] x xs rfl).bind (fun _ => Keeps.forEach fun y hy => hk y (List.mem_cons_of_mem _ hy)) fun _ =>
      forEach (fun done => I (x :: done)) (fun y hy => hk y (List.mem_cons_of_mem _ hy))
        fun done y rest h => hb (x :: done) y rest (by rw [h]; rfl)

end Agree

/-! ## Twin runs -/

/-- A dry run and a real run of a cycle at the same point: the same mutation calls
    and counters so far, one cluster, no fault in either, the dry run's catalog
    still `db₀`, and the real run's catalogs satisfying `V`. -/
structure Twin (db₀ : Catalog) (V : Catalog → Prop) (wd wr : World) : Prop where
  calls : mutationCalls wd.log = mutationCalls wr.log
  stats : wd.stats = wr.stats
  cluster : wr.cluster = wd.cluster
  faults_dry : ∀ t, wd.faults t = false
  faults_real : ∀ t, wr.faults t = false
  db_dry : wd.db = db₀
  sees : wr.Sees V

/-- Statements, commits and logged errors call no mutation. -/
theorem mutationCalls_of_stmtEvents {stmts : Stmt → Prop} {new : List Event} (h : ∀ e ∈ new, StmtEvent stmts e) :
    mutationCalls new = [] :=
  List.filterMap_eq_nil_iff.mpr fun e he => by
    rcases h e he with rfl | rfl | ⟨s, -, rfl⟩ <;> rfl

namespace Twin

variable {db₀ : Catalog} {V : Catalog → Prop} {wd wr wd' wr' : World}

/-- Steps that call no mutation and leave the counters keep two runs twins, when
    the dry one writes no catalog and the real one keeps `V`. -/
theorem step {Qd Qr : Event → Prop} (h : Twin db₀ V wd wr) (hd : Extends Qd wd wd') (hr : Extends Qr wr wr')
    (hQd : ∀ e, Qd e → Quiet e ∧ e.writesDb = false) (hQr : ∀ e, Qr e → Quiet e)
    (hV : ∀ s, Qr (.sql s) → s.Preserves V) (hs : wd'.stats = wd.stats) (hs' : wr'.stats = wr.stats) :
    Twin db₀ V wd' wr' where
  calls := by
    rw [(hd.mono fun e he => (hQd e he).1).mutationCalls_eq, (hr.mono hQr).mutationCalls_eq, h.calls]
  stats := by rw [hs, hs', h.stats]
  cluster := by rw [hr.cluster_eq, hd.cluster_eq, h.cluster]
  faults_dry := by rw [hd.faults_eq]; exact h.faults_dry
  faults_real := by rw [hr.faults_eq]; exact h.faults_real
  db_dry := by rw [hd.db_eq fun e he => (hQd e he).2, h.db_dry]
  sees := hr.sees hV h.sees

theorem mono {V' : Catalog → Prop} (h : Twin db₀ V wd wr) (hV : ∀ c, V c → V' c) : Twin db₀ V' wd wr :=
  ⟨h.calls, h.stats, h.cluster, h.faults_dry, h.faults_real, h.db_dry, h.sees.mono hV⟩

theorem modifyStats (h : Twin db₀ V wd wr) (f : ReconciliationStats → ReconciliationStats) :
    Twin db₀ V { wd with stats := f wd.stats } { wr with stats := f wr.stats } :=
  ⟨h.calls, by rw [h.stats], h.cluster, h.faults_dry, h.faults_real, h.db_dry, h.sees⟩

/-- Both runs count the same. -/
theorem agree_modifyStats (f : ReconciliationStats → ReconciliationStats) :
    Agree (Twin db₀ V) (PgUserController.modifyStats f) (PgUserController.modifyStats f) fun _ => Twin db₀ V :=
  fun _ _ _ h hok _ => by cases hok; exact ⟨rfl, h.modifyStats f⟩

/-- A read that calls no mutation and leaves the counters, from worlds that `R`
    relates: both runs return the same, when `hres` says so. -/
theorem agree_read {α : Type} {R : World → World → Prop} {x : PyM α} {Q : Event → Prop}
    (hR : ∀ wd wr, R wd wr → Twin db₀ V wd wr) (hk : Keeps Q x)
    (hQ : ∀ e, Q e → Quiet e ∧ e.writesDb = false) (hl : Leaves World.stats x)
    (hres : ∀ wd wr a, R wd wr → (x wr).result = .ok a → (x wd).result = .ok a) :
    Agree R x x fun _ => Twin db₀ V := fun wd wr a h hok _ =>
  ⟨hres wd wr a h hok, (hR wd wr h).step (hk wd) (hk wr) hQ (fun e he => (hQ e he).1)
    (fun s hs => Stmt.preserves_of_isRead (by simpa [Event.writesDb] using (hQ _ hs).2)) (hl wd) (hl wr)⟩

/-- A mutation: in dry-run mode it logs its call and returns, and a real run that
    returns has logged the same call and statements that keep `V`. -/
theorem agree_mutation {x : Bool → PyM Unit} {c : Call} {stmts : Stmt → Prop}
    (hrun : ∀ b, Keeps (MutationEvent c stmts b) (x b) ∧
      StartsThen (.call c) (fun e => b = false ∧ StmtEvent stmts e) (x b))
    (hl : ∀ b, Leaves World.stats (x b)) (hm : c.isMutation = true) (hV : ∀ s, stmts s → s.Preserves V)
    (hdry : ∀ w, (x true w).result = .ok ()) :
    Agree (Twin db₀ V) (x true) (x false) fun _ => Twin db₀ V := fun wd wr _ h _ _ => by
  refine ⟨hdry wd, ?_⟩
  obtain ⟨newd, hld, hd⟩ := (hrun true).2 wd
  obtain ⟨newr, hlr, hr⟩ := (hrun false).2 wr
  have hcalls : ∀ (w : World) (new : List Event), mutationCalls (w.log ++ .call c :: new) =
      mutationCalls w.log ++ c :: mutationCalls new := fun w new => by
    rw [mutationCalls_append]
    simp [mutationCalls, hm]
  have hd' := (hrun true).1 wd
  have hr' := (hrun false).1 wr
  refine ⟨?_, by rw [hl true wd, hl false wr, h.stats], by rw [hr'.cluster_eq, hd'.cluster_eq, h.cluster],
    by rw [hd'.faults_eq]; exact h.faults_dry, by rw [hr'.faults_eq]; exact h.faults_real,
    by rw [hd'.db_eq fun e he => he.elim (fun he => by rw [he]; rfl) (fun he => nomatch he.1), h.db_dry],
    hr'.sees (fun s hs => hV s (mutationEvent_sql.mp hs).2) h.sees⟩
  rw [hld, hlr, hcalls, hcalls, h.calls, mutationCalls_of_stmtEvents fun e he => (hr e he).2,
    mutationCalls_of_stmtEvents fun e he => (hd e he).2]

/-- A mutation, then counting it. -/
theorem agree_mutation_count {x : Bool → PyM Unit} {c : Call} {stmts : Stmt → Prop}
    (hrun : ∀ b, Keeps (MutationEvent c stmts b) (x b) ∧
      StartsThen (.call c) (fun e => b = false ∧ StmtEvent stmts e) (x b))
    (hl : ∀ b, Leaves World.stats (x b)) (hm : c.isMutation = true) (hV : ∀ s, stmts s → s.Preserves V)
    (hdry : ∀ w, (x true w).result = .ok ()) (f : ReconciliationStats → ReconciliationStats) :
    Agree (Twin db₀ V) (x true >>= fun _ => PgUserController.modifyStats f)
      (x false >>= fun _ => PgUserController.modifyStats f) fun _ => Twin db₀ V :=
  (agree_mutation hrun hl hm hV hdry).bind (fun _ => Keeps.modifyStats (P := fun _ => True) _) fun _ =>
    agree_modifyStats f

/-- Blocks that call no mutation and leave the counters, and whose dry version
    returns on a world without faults, keep the calls and the counters equal. -/
theorem agree_quiet {xd xr : PyM Unit} (hd : Keeps Quiet xd) (hr : Keeps Quiet xr) (hld : Leaves World.stats xd)
    (hlr : Leaves World.stats xr) (hok : ∀ w, (∀ t, w.faults t = false) → (xd w).result = .ok ()) :
    Agree (Twin db₀ V) xd xr fun _ wd wr => mutationCalls wd.log = mutationCalls wr.log ∧ wd.stats = wr.stats :=
  fun wd wr _ h _ _ => ⟨hok wd h.faults_dry, by
    rw [(hd wd).mutationCalls_eq, (hr wr).mutationCalls_eq, h.calls], by rw [hld wd, hlr wr, h.stats]⟩

end Twin

/-- What the real run keeps of the catalog `db₀` it found: the catalog stays
    well-formed, and each user of `K` directly a member of the roles it was. -/
def MembersKept (db₀ : Catalog) (K : Scalar → Prop) (c : Catalog) : Prop :=
  c.WF ∧ ∀ n, K (.str n) → c.rolesOf n = db₀.rolesOf n

namespace MembersKept

variable {db₀ : Catalog} {K K' : Scalar → Prop}

theorem mono (hK : ∀ u, K' u → K u) {c : Catalog} (h : MembersKept db₀ K c) : MembersKept db₀ K' c :=
  ⟨h.1, fun n hn => h.2 n (hK _ hn)⟩

/-- A statement that touches no user of `K` keeps what it keeps. -/
theorem preserved {s : Stmt} (hs : ∀ n, K (.str n) → ¬ s.Touches n) : s.Preserves (MembersKept db₀ K) :=
  fun c c' he ⟨hwf, hr⟩ => ⟨s.preserves_wf c c' he hwf, fun n hn => by
    rw [(Stmt.exec_untouched (hs n hn) he hwf).2, hr n hn]⟩

/-- `DROP USER IF EXISTS r` keeps it when no user of `K` is `r` or directly a member of `r`. -/
theorem preserved_drop {r : String} (hK : ∀ n, K (.str n) → r ≠ n ∧ r ∉ db₀.rolesOf n) :
    (Stmt.dropUserIfExists r).Preserves (MembersKept db₀ K) :=
  fun c c' he ⟨hwf, hr⟩ => ⟨Stmt.preserves_wf _ c c' he hwf, fun n hn => by
    obtain ⟨hrn, hm⟩ := hK n hn
    rw [Catalog.rolesOf_dropRole hrn (by rw [hr n hn]; exact hm) he, hr n hn]⟩

end MembersKept

/-- The live desired users that the update loop has not passed after `done`. -/
def Pending (D : PyDict UserSpec) (live : PySet) (done : List Scalar) (u : Scalar) : Prop :=
  u ∈ D.keys ∧ u ∈ live ∧ u ∉ done

/-! ## The steps of a cycle in both modes -/

section Loops

variable {cfg : Config} {D P : PyDict UserSpec} {live A : PySet} {db₀ : Catalog} {K : Scalar → Prop}

/-- A read's events call no mutation and write no catalog. -/
theorem queryEvent_quiet_read {c : Call} {s : Stmt} (hc : c.isMutation = false) (hs : s.isRead) {e : Event}
    (h : QueryEvent c s e) : Quiet e ∧ e.writesDb = false := by
  refine ⟨QueryEvent.quiet hc h, ?_⟩
  rcases h with rfl | rfl | rfl <;> simp [Event.writesDb, hs]

/-- The events of a call that is no mutation. -/
theorem callEvent_quiet {c : Call} (hc : c.isMutation = false) {e : Event} (h : CallEvent c e) :
    Quiet e ∧ e.writesDb = false := by
  rcases h with rfl | rfl
  · exact ⟨fun _ h => (by cases h; exact hc), rfl⟩
  · exact ⟨fun _ h => (by cases h), rfl⟩

/-- `logger.error(...)`, then counting the error, logs an error. -/
theorem logError_countError_logs : Logs .logError (logError >>= fun _ => countError) :=
  Logs.bind_left (fun _ => ⟨[.logError], rfl, List.mem_singleton_self _⟩) fun _ => Keeps.countError (P := fun _ => True)

/-- A pass of the role loop keeps the log growing. -/
theorem createRoleItem_keeps (dryRun : Bool) (r : Scalar) : Keeps (fun _ => True) (createRoleItem dryRun r) :=
  Keeps.isolate (((createRole_keeps r dryRun).mono fun _ _ => trivial).bind fun _ => .modifyStats _) trivial

/-- A pass of the role loop in both modes. -/
theorem agree_createRoleItem (r : Scalar) :
    Agree (Twin db₀ (MembersKept db₀ K)) (createRoleItem true r) (createRoleItem false r)
      fun _ => Twin db₀ (MembersKept db₀ K) :=
  Agree.isolate <| Twin.agree_mutation_count (x := fun b => createRole r b) (fun b => roleStatement_run _ _ _ b)
    (fun b => roleStatement_leaves _ _ _ b) rfl (fun s ⟨_, _, hs⟩ => hs ▸ MembersKept.preserved fun _ _ h => by cases h)
    (fun _ => rfl) _

/-- `reconcile_roles` in both modes, from one catalog: the same roles to create. -/
theorem agree_reconcileRoles :
    Agree (fun wd wr => Twin db₀ (MembersKept db₀ K) wd wr ∧ wr.db = db₀) (reconcileRoles D true)
      (reconcileRoles D false) fun _ => Twin db₀ (MembersKept db₀ K) := by
  unfold reconcileRoles
  refine Agree.lift_bind fun A' _ => ?_
  refine (Twin.agree_read (fun _ _ h => h.1) (fetchRoleNames_keeps _ _) (fun _ => queryEvent_quiet_read (by rfl) (by rfl))
    (fetchRoleNames_leaves _ _) fun wd wr E ⟨h, hdb⟩ hok => ?_).bind
    (fun _ => Keeps.forEach fun r _ => createRoleItem_keeps false r) fun E => ?_
  · exact Agree.forEach (fun _ => Twin db₀ (MembersKept db₀ K)) (fun r _ => createRoleItem_keeps false r)
      fun _ r _ _ => agree_createRoleItem r
  · have hs : Stmt.selectRoles.isRead = true := rfl
    rw [fetchRoleNames_result _ hs h.faults_dry, h.db_dry, ← hdb, ← fetchRoleNames_result _ hs h.faults_real]
    exact hok

/-- The deletion loop in both modes, when no user it drops is a user of `K` or a
    role that a user of `K` is directly a member of. -/
theorem agree_deleteUsers
    (hK : ∀ u ∈ live, u ∉ D.keys → u ∈ P.keys → ∀ m n, u = .str m → K (.str n) →
      m ≠ n ∧ m ∉ db₀.rolesOf n) :
    Agree (Twin db₀ (MembersKept db₀ K)) (deleteUsers cfg P (live.diff D.keys) true)
      (deleteUsers cfg P (live.diff D.keys) false) fun _ => Twin db₀ (MembersKept db₀ K) := by
  refine Agree.forEach (fun _ => Twin db₀ (MembersKept db₀ K))
    (fun _ hu => (deleteUserItem_keeps hu : Keeps (LiveEvent cfg D P live PySet.empty false) _)) fun _ u _ h => ?_
  obtain ⟨hl, hD⟩ := PySet.mem_diff.mp (show u ∈ live.diff D.keys by rw [← PySet.mem_elems, h]; simp)
  unfold deleteUserItem
  refine Agree.ite (fun hp => Agree.isolate (Twin.agree_mutation_count (x := fun b => dropUser cfg u b)
    (dropUser_run cfg u) (dropUser_leaves cfg u) rfl ?_ (fun _ => rfl) _)) fun _ => Agree.pure fun _ _ h => h
  -- `REVOKE ALL`, `REASSIGN OWNED` and `DROP OWNED` change no membership
  rintro s ⟨m, rfl, rfl | rfl | rfl | rfl⟩
  iterate 3 exact MembersKept.preserved fun _ _ h => by cases h
  exact MembersKept.preserved_drop fun n hn => hK _ hl hD hp m n rfl hn

/-- One pass of the creation loop in both modes, for a user outside `K`. -/
theorem agree_createUserItem (hD : UsersKeyed D) {u : Scalar} (hu : ∀ n, u = .str n → ¬ K (.str n)) :
    Agree (Twin db₀ (MembersKept db₀ K)) (createUserItem cfg D true u) (createUserItem cfg D false u)
      fun _ => Twin db₀ (MembersKept db₀ K) := by
  unfold createUserItem
  cases hspec : D.get? u with
  | none => exact Agree.raise _
  | some spec =>
    dsimp only
    refine Agree.isolate (Agree.bind (P := fun _ => True) (Twin.agree_read (fun _ _ h => h)
      (getUserPassword_keeps cfg u) (fun _ => callEvent_quiet (by rfl)) (getUserPassword_leaves cfg u)
      fun wd wr o h hok => (ClusterRead.getUserPassword cfg u wr wd h.cluster.symm h.faults_real
        h.faults_dry).trans hok) (fun o => ?_) fun o => ?_)
    · rcases o with _ | pw
      · exact (Keeps.logError trivial).bind fun _ => .countError
      · dsimp only
        split
        · exact (Keeps.logError trivial).bind fun _ => .countError
        · exact ((createUser_keeps spec pw false).mono fun _ _ => trivial).bind fun _ => .modifyStats _
    rcases o with _ | pw
    · exact Agree.of_logs logError_countError_logs
    dsimp only
    refine Agree.ite (fun _ => Agree.of_logs logError_countError_logs) fun _ =>
      Twin.agree_mutation_count (x := fun b => createUser spec pw b) (createUser_run spec pw)
        (createUser_leaves spec pw) rfl (fun s hs => MembersKept.preserved fun n hn ht => hu n ?_ hn) (fun _ => rfl) _
    simpa [hD u spec hspec] using createUserStmts_touches hs ht

/-- The creation loop in both modes, when every user of `K` is live. -/
theorem agree_createUsers (hD : UsersKeyed D) (hK : ∀ u, K u → u ∈ live) :
    Agree (Twin db₀ (MembersKept db₀ K)) (createUsers cfg D (D.keys.diff live) true)
      (createUsers cfg D (D.keys.diff live) false) fun _ => Twin db₀ (MembersKept db₀ K) :=
  Agree.forEach (fun _ => Twin db₀ (MembersKept db₀ K)) (fun _ hu => createUserItem_keeps (PySet.mem_diff.mp hu).2
    (P := PyDict.empty) (A := PySet.empty)) fun _ u _ h => agree_createUserItem hD fun n hn hK' => (PySet.mem_diff.mp
      (show u ∈ D.keys.diff live by rw [← PySet.mem_elems, h]; simp)).2 (hn ▸ hK _ hK')

/-- One pass of the update loop in both modes, for a live desired user the loop
    has not passed: it reads the same memberships in both. -/
theorem agree_updateUserItem {done : List Scalar} {n : String} (hp : Pending D live done (.str n)) :
    Agree (Twin db₀ (MembersKept db₀ (Pending D live done))) (updateUserItem D P true (.str n))
      (updateUserItem D P false (.str n))
      fun _ => Twin db₀ (MembersKept db₀ (Pending D live (done ++ [.str n]))) := by
  have hw : ∀ wd wr, Twin db₀ (MembersKept db₀ (Pending D live done)) wd wr →
      Twin db₀ (MembersKept db₀ (Pending D live (done ++ [.str n]))) wd wr := fun _ _ h =>
    h.mono fun _ => MembersKept.mono fun _ ⟨h₁, h₂, h₃⟩ =>
      ⟨h₁, h₂, fun h₄ => h₃ (List.mem_append_left _ h₄)⟩
  unfold updateUserItem
  cases hspec : D.get? (.str n) with
  | none => exact Agree.raise _
  | some spec =>
  dsimp only
  cases hprev : P.get? (.str n) with
  | none => exact Agree.pure hw
  | some prev =>
  dsimp only
  refine Agree.lift_bind fun S₀ _ => Agree.lift_bind fun S _ => Agree.ite (fun _ => Agree.pure hw) fun _ => ?_
  refine Agree.isolate (Agree.bind (P := fun _ => True) (Twin.agree_read (fun _ _ h => h) (fetchRoleNames_keeps _ _)
    (fun _ => queryEvent_quiet_read (by rfl) (by rfl)) (fetchRoleNames_leaves _ _) fun wd wr roles h hok => ?_)
    (fun _ => ?_) fun actual => Agree.lift_bind fun desired _ => ?_)
  · have hs : (Stmt.selectUserRoles (.str n)).isRead = true := rfl
    have hr : wr.db.rolesOf n = db₀.rolesOf n := h.sees.1.2 n hp
    show (fetchRoleNames _ _ wd).result = _
    rw [fetchRoleNames_result _ hs h.faults_dry, h.db_dry]
    rw [fetchUserRoles, fetchRoleNames_result _ hs h.faults_real] at hok
    simpa [Stmt.rows, hr] using hok
  · refine Keeps.lift_bind fun _ _ => ?_
    split
    · exact .pure ()
    · exact ((updateUserRoles_keeps _ _ _ false).mono fun _ _ => trivial).bind fun _ => .modifyStats _
  refine Agree.ite (fun _ => Agree.pure hw) fun _ => (Twin.agree_mutation_count
    (x := fun b => updateUserRoles (.str n) actual desired b) (updateUserRoles_run _ _ _) (updateUserRoles_leaves _ _ _)
    rfl (fun s hs => MembersKept.preserved fun m hm ht => ?_) (fun _ => by dsimp only [updateUserRoles]; split <;> rfl)
    _).weaken hw
  obtain rfl : n = m := by simpa using updateUserRolesStmts_touches hs ht
  exact hm.2.2 (List.mem_append_right _ (List.mem_singleton_self _))

/-- In dry mode, what `applyDrift` does once its loops are over returns on a world
    without faults. -/
theorem afterUpdates_dry_ok (D : PyDict UserSpec) {w : World} (hnf : ∀ t, w.faults t = false) :
    ((do
      PyM.modify fun w => { w with metrics := { w.metrics with usersManaged := D.card } }
      let roles ← fetchExistingRoles
      PyM.modify fun w => { w with metrics := { w.metrics with rolesManaged := roles.card } } : PyM Unit) w).result =
      .ok () := by
  have hE := fetchRoleNames_result .fetchExistingRoles (show Stmt.selectRoles.isRead from rfl)
    (w := { w with metrics := { w.metrics with usersManaged := D.card } }) hnf
  exact (congrArg Outcome.result (PyM.bind_ok (PyM.eq_of_result hE))).trans rfl

/-- The update loop in both modes, over live desired users that are strings. -/
theorem agree_updateUsers (hstr : ∀ u ∈ live, ∃ n, u = .str n) :
    Agree (Twin db₀ (MembersKept db₀ (Pending D live []))) (updateUsers D P (D.keys.inter live) true)
      (updateUsers D P (D.keys.inter live) false)
      fun _ => Twin db₀ (MembersKept db₀ (Pending D live (D.keys.inter live).elems)) := by
  refine Agree.forEach (fun done => Twin db₀ (MembersKept db₀ (Pending D live done)))
    (fun u hu => (updateUserItem_keeps (PySet.mem_inter.mp hu).2 :
      Keeps (LiveEvent Config.default D P live PySet.empty false) _)) fun done u rest h => ?_
  have hnd := (D.keys.inter live).nodup
  rw [h] at hnd
  have hk : u ∉ done := fun hk => (List.nodup_append.mp hnd).2.2 hk (List.mem_cons_self _ _)
  obtain ⟨hD, hl⟩ := PySet.mem_inter.mp (show u ∈ D.keys.inter live by rw [← PySet.mem_elems, h]; simp)
  obtain ⟨n, rfl⟩ := hstr u hl
  exact agree_updateUserItem ⟨hD, hl, hk⟩

/-- `applyDrift` in both modes, when no user it drops is directly a role of a live
    desired user: the same calls and counters. -/
theorem agree_applyDrift (hD : UsersKeyed D) (hstr : ∀ u ∈ live, ∃ n, u = .str n)
    (hK : ∀ u ∈ live, u ∉ D.keys → u ∈ P.keys → ∀ m n, u = .str m → .str n ∈ D.keys → .str n ∈ live →
      m ∉ db₀.rolesOf n) :
    Agree (Twin db₀ (MembersKept db₀ (Pending D live []))) (applyDrift cfg D P live true)
      (applyDrift cfg D P live false)
      fun _ wd wr => mutationCalls wd.log = mutationCalls wr.log ∧ wd.stats = wr.stats := by
  have tail := afterUpdates_quiet D false
  unfold applyDrift
  dsimp only [detectDrift]
  refine Agree.ite (fun _ => ?_) fun _ => ?_
  all_goals
    refine Agree.bind (P := fun _ => True)
      (by first | exact Twin.agree_modifyStats _ | exact Agree.pure fun _ _ h => h)
      (fun _ => ((deleteUsers_keeps (A := PySet.empty)).bind fun _ => afterDeletions_keeps).mono fun _ _ => trivial)
      fun _ => Agree.bind (agree_deleteUsers fun u hl hD hp m n hu hn =>
        ⟨by rintro rfl; subst hu; exact hD hn.1, hK u hl hD hp m n hu hn.1 hn.2.1⟩)
        (fun _ => (afterDeletions_keeps (A := PySet.empty)).mono fun _ _ => trivial) fun _ =>
      Agree.bind (agree_createUsers hD fun _ h => h.2.1)
        (fun _ => ((show Keeps (LiveEvent cfg D P live PySet.empty false) _ from updateUsers_keeps).mono
          fun _ _ => trivial).bind fun _ => tail.1.mono fun _ _ => trivial) fun _ =>
      Agree.bind (agree_updateUsers hstr) (fun _ => tail.1.mono fun _ _ => trivial) fun _ =>
      Twin.agree_quiet (afterUpdates_quiet D true).1 tail.1 (afterUpdates_quiet D true).2 tail.2
        fun _ => afterUpdates_dry_ok D

end Loops

/-! ## Dry-run agreement -/

/-- A cycle that finds no fault, whose real run returns and logs no error, and
    whose real run drops no user that a live desired user is directly a member of:
    its dry run returns, reports the same mutation calls in the same order, and
    ends with the same counters. The desired privilege keywords are plain, so that
    no `GRANT ... ON` of the real run changes a role on the server; the model
    refuses any other keyword, so the proof does without the hypothesis. -/
theorem reconcileUsers_dryRun_agrees {cfg : Config} {w w₄ : World} {D P : PyDict UserSpec} {live : PySet}
    (hin : CycleInputs cfg w D P live w₄) (_hplain : PlainPrivileges D) (hwf : w.db.WF) (htx : w.txn = none) (hnf : ∀ t, w.faults t = false)
    (hok : (reconcileUsers cfg false w).result = .ok ())
    (herr : Event.logError ∉ (reconcileUsers cfg false w).world.log)
    (hdrop : ∀ u ∈ live, u ∉ D.keys → u ∈ P.keys → ∀ m n, u = .str m → .str n ∈ D.keys → .str n ∈ live →
      m ∉ w.db.rolesOf n) :
    (reconcileUsers cfg true w).result = .ok () ∧
      mutationCalls (reconcileUsers cfg true w).world.log = mutationCalls (reconcileUsers cfg false w).world.log ∧
      (reconcileUsers cfg true w).world.stats = (reconcileUsers cfg false w).world.stats := by
  have hdb : w₄.db = w.db := hin.extends.db_eq fun e he => by
    rcases he with (rfl | rfl) | (rfl | rfl) | rfl | rfl | rfl <;> rfl
  have hnf₄ : ∀ t, w₄.faults t = false := fun t => by rw [hin.extends.faults_eq]; exact hnf t
  have hsees : w₄.Sees (MembersKept w.db (Pending D live [])) :=
    hin.extends.sees (fun s h => Stmt.preserves_of_isRead (by
      rcases h with h | h | h <;> simp at h; subst h; rfl)) (World.sees_of_txn htx ⟨hwf, fun _ _ => rfl⟩)
  rw [hin.reconcileUsers_eq] at hok herr ⊢
  rw [hin.reconcileUsers_eq]
  have hlive : ∀ u ∈ live, ∃ n, u = .str n := fun u hu => (hin.live_not_system u hu).imp fun _ h => h.1
  exact (Agree.bind (P := fun _ => True) agree_reconcileRoles
    (fun _ => (applyDrift_keeps (A := PySet.empty)).mono fun _ _ => trivial)
    fun _ => agree_applyDrift hin.keyed hlive hdrop) w₄ w₄ () ⟨⟨rfl, rfl, rfl, hnf₄, hnf₄, hdb, hsees⟩, hdb⟩ hok herr

/-- `alice`, desired as a member of `team` and last applied with no role, is a
    member of `staff`; `bob` is live and last applied, and no longer desired. -/
def dropWorld : World where
  db := { roles := [("postgres", true), ("alice", true), ("bob", true), ("team", false), ("staff", false)],
          members := [("staff", "alice")], databases := ["postgres"], connect := [], grants := [], owners := [] }
  pool := ⟨[⟨false⟩], 1⟩
  cluster :=
    { configMaps := fun _ _ => some ⟨some [("users.yaml", .document (.dict [(.str "users",
        .list [userEntry "alice" [.str "team"]])]))]⟩
      secrets := fun _ _ => some (.decoded "pw") }
  stateFile := some (.value (.dict [(.str "alice", userEntry "alice" []), (.str "bob", userEntry "bob" [])]))
  faults := fun _ => false

set_option smartUnfolding false in
/-- In `dropWorld` both modes drop `bob` and then move `alice` from `staff` to `team`. -/
theorem dropWorld_dryRun_agrees :
    mutationCalls (reconcileUsers Config.default false dropWorld).world.log = [.dropUser (.str "bob"),
      .updateUserRoles (.str "alice") (PySet.ofList [.str "staff"]) (PySet.ofList [.str "team"])] ∧
    (reconcileUsers Config.default true dropWorld).result = .ok () ∧
    mutationCalls (reconcileUsers Config.default true dropWorld).world.log =
      mutationCalls (reconcileUsers Config.default false dropWorld).world.log ∧
    (reconcileUsers Config.default true dropWorld).world.stats =
      (reconcileUsers Config.default false dropWorld).world.stats := by
  let previous : PyDict UserSpec := (PyDict.empty.insert (.str "alice")
    ⟨.str "alice", .str "postgres", .list [], .scalar .none⟩).insert (.str "bob")
      ⟨.str "bob", .str "postgres", .list [], .scalar .none⟩
  have hin : CycleInputs Config.default dropWorld aliceUsers previous _ _ :=
    ⟨_, _, _, _, PyM.eq_of_result rfl, PyM.eq_of_result rfl, PyM.eq_of_result rfl, PyM.eq_of_result rfl⟩
  have hkeys : ∀ k ∈ aliceUsers.keys, k = .str "alice" := by decide
  have hdropped : ∀ k ∈ previous.keys, k ∉ aliceUsers.keys → k = .str "bob" := by decide
  refine ⟨by decide, reconcileUsers_dryRun_agrees hin (.of_none (by decide)) (by unfold Catalog.WF; decide) rfl
    (fun _ => rfl) rfl
    (by decide) fun u _ hD hP m n hm hn _ => ?_⟩
  subst hm
  cases hkeys _ hn
  cases hdropped _ hP hD
  decide

end PgUserController
