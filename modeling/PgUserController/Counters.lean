-- SUMMARY: The counters of a cycle: no gateway method changes `ReconciliationStats`, the loops leave `drift_detected` alone, and the drift a cycle records counts every live role, with or without `LOGIN`, that no desired user names.
import PgUserController.Cycle
import PgUserController.Sessions

/-!
# The counters of a cycle

`ReconciliationStats` changes only at the `stats.… += 1` lines of the loops, at
`stats.drift_detected = drift_count`, and at the reset that starts each pass of
`run_reconciliation_loop`. `Leaves f x` says that a run of `x`, whether it
returns or raises, ends with `f` of the world as it found it. The gateway methods
leave every view of the counters and the metrics (`OfCounters`), and every step
of a cycle but one leaves every view that the counts and the two gauges do not
change (`CountFree`): `drift_detected`, and the three metrics that only
`record_reconciliation` adds to.

So the drift a cycle reports is the one `reconcile_users` computes from what
`fetch_existing_users` read, or `0` when `reconcile_roles` raised before it. That
query reads every role outside the denylist, with or without `LOGIN`, and the
count of users to delete is not restricted to the previous state: a group role
that `reconcile_roles` created, or a user the controller never managed, counts as
drift in every cycle (`reconciliationCycle_driftDetected`).
-/

namespace PgUserController

/-- A run of `x` ends with `f` of the world as it found it, whether it returns or
    raises. -/
def Leaves {α β : Type} (f : World → β) (x : PyM α) : Prop := ∀ w, f (x w).world = f w

namespace Leaves

variable {α β γ δ : Type} {f : World → γ}

theorem comp {x : PyM α} (g : γ → δ) (h : Leaves f x) : Leaves (fun w => g (f w)) x :=
  fun w => congrArg g (h w)

theorem run {x : PyM α} {w w' : World} {r : Except PyExc α} (h : Leaves f x) (hx : x w = ⟨r, w'⟩) :
    f w' = f w := by
  rw [← h w, hx]

theorem pure (a : α) : Leaves f (pure a : PyM α) := fun _ => rfl

theorem raise (e : PyExc) : Leaves f (PyM.raise e : PyM α) := fun _ => rfl

theorem lift (r : Except PyExc α) : Leaves f (PyM.lift r) := fun _ => rfl

theorem read : Leaves f PyM.read := fun _ => rfl

theorem modify {g : World → World} (h : ∀ w, f (g w) = f w) : Leaves f (PyM.modify g) := h

/-- A continuation that leaves `f` ends with `f` as `x` left it. -/
theorem bind_apply {x : PyM α} {k : α → PyM β} (hk : ∀ a, Leaves f (k a)) (w : World) :
    f ((x >>= k) w).world = f (x w).world := by
  rw [PyM.bind_apply]
  generalize x w = o
  obtain ⟨_ | a, w'⟩ := o
  · rfl
  · exact hk a w'

theorem bind {x : PyM α} {k : α → PyM β} (hx : Leaves f x) (hk : ∀ a, Leaves f (k a)) :
    Leaves f (x >>= k) := fun w => (bind_apply hk w).trans (hx w)

/-- A handler that leaves `f` ends with `f` as the failed run left it. -/
theorem tryCatch_apply {x : PyM α} {h : PyExc → PyM α} (hh : ∀ e, Leaves f (h e)) (w : World) :
    f ((PyM.tryCatch x h) w).world = f (x w).world := by
  unfold PyM.tryCatch
  generalize x w = o
  obtain ⟨_ | a, w'⟩ := o
  · exact hh _ w'
  · rfl

theorem tryCatch {x : PyM α} {h : PyExc → PyM α} (hx : Leaves f x) (hh : ∀ e, Leaves f (h e)) :
    Leaves f (PyM.tryCatch x h) := fun w => (tryCatch_apply hh w).trans (hx w)

theorem tryFinally {x : PyM α} {h : PyM Unit} (hx : Leaves f x) (hh : Leaves f h) :
    Leaves f (PyM.tryFinally x h) := fun w => by
  unfold PyM.tryFinally
  rw [← hx w]
  generalize x w = o
  obtain ⟨r, w'⟩ := o
  dsimp only
  rw [← hh w']
  generalize h w' = o'
  obtain ⟨_ | _, w''⟩ := o' <;> rfl

theorem forEach {body : δ → PyM Unit} (hb : ∀ x, Leaves f (body x)) :
    ∀ xs, Leaves f (PyM.forEach xs body)
  | [] => pure ()
  | x :: xs => (hb x).bind fun _ => forEach hb xs

theorem discard {x : PyM α} (h : Leaves f x) : Leaves f (discard x) := h.bind fun _ => pure _

theorem map {x : PyM α} (g : α → β) (h : Leaves f x) : Leaves f (g <$> x) := h.bind fun _ => pure _

end Leaves

/-- The counters of the running pass and the controller's metrics. -/
def World.counters (w : World) : ReconciliationStats × Metrics := (w.stats, w.metrics)

/-- A view of the world that its counters and metrics determine: whatever leaves
    both leaves the view. -/
class OfCounters {γ : Type} (f : World → γ) : Prop where
  congr : ∀ {w w' : World}, w.counters = w'.counters → f w = f w'

theorem Leaves.of_counters {α γ : Type} {f : World → γ} [OfCounters f] {x : PyM α}
    (h : Leaves World.counters x) : Leaves f x :=
  fun w => OfCounters.congr (h w)

instance : OfCounters World.stats := ⟨congrArg Prod.fst⟩

/-- What a step that reaches neither the database nor the counters keeps: the
    catalog, the pool, the held connection and its transaction, the counters and
    the metrics. Such a step changes only the log, the clock and the state file. -/
def World.offline (w : World) : Catalog × Pool × Option Conn × Option Catalog × ReconciliationStats × Metrics :=
  (w.db, w.pool, w.conn, w.txn, w.stats, w.metrics)

/-- A view of the world that `World.offline` determines. -/
class OfOffline {γ : Type} (f : World → γ) : Prop where
  congr : ∀ {w w' : World}, w.offline = w'.offline → f w = f w'

theorem Leaves.of_offline {α γ : Type} {f : World → γ} [OfOffline f] {x : PyM α}
    (h : Leaves World.offline x) : Leaves f x :=
  fun w => OfOffline.congr (h w)

instance {γ : Type} {f : World → γ} [OfCounters f] : OfOffline f := ⟨fun h => OfCounters.congr (congrArg (·.2.2.2.2) h)⟩

/-! ## No gateway method changes the counters: the offline ones -/

section Offline

variable {α γ : Type} {f : World → γ} [OfOffline f]

theorem record_leaves (e : Event) : Leaves f (record e) := .of_offline fun _ => rfl

theorem logError_leaves : Leaves f logError := record_leaves _

theorem apiRead_leaves (obj : Cluster → Option α) : Leaves f (apiRead obj) := .of_offline fun w => by
  unfold apiRead
  dsimp only
  split
  · rfl
  · split <;> rfl

theorem withRetries_leaves {attempt : PyM (Option α)} (ha : Leaves f attempt) :
    ∀ n, Leaves f (withRetries attempt n)
  | 0 => ha.tryCatch fun _ => by
    unfold onApiException
    split
    exacts [.pure _, logError_leaves.bind fun _ => .raise _, .raise _]
  | n + 1 => ha.tryCatch fun _ => by
    unfold onApiException
    split
    exacts [.pure _, withRetries_leaves ha n, .raise _]

theorem fetchConfigmap_leaves (cfg : Config) : Leaves f (fetchConfigmap cfg) :=
  (record_leaves _).bind fun _ => withRetries_leaves ((apiRead_leaves _).bind fun _ => by
    split
    exacts [.raise _, .pure _]) _

theorem getUserPassword_leaves (cfg : Config) (username : Scalar) :
    Leaves f (getUserPassword cfg username) := by
  refine (record_leaves _).bind fun _ => ?_
  dsimp only
  split <;> refine Leaves.bind (by first | exact .pure _ | exact .raise _) fun _ =>
    withRetries_leaves ((apiRead_leaves _).bind fun _ => ?_) _ <;> split
  all_goals first
    | exact logError_leaves.bind fun _ => .pure _
    | exact .pure _
    | exact .raise _

theorem parseDesiredUsers_leaves (cfg : Config) (yamlContent : YamlText) :
    Leaves f (parseDesiredUsers cfg yamlContent) := by
  unfold parseDesiredUsers
  split
  · exact .pure _
  · exact logError_leaves.bind fun _ => .pure _
  · split
    exacts [.pure _, logError_leaves.bind fun _ => .pure _, .raise _]

theorem loadState_leaves : Leaves f loadState :=
  (record_leaves _).bind fun _ => Leaves.read.bind fun _ => by
    split
    · exact .pure _
    · refine (show Leaves f fault from .of_offline fun _ => rfl).bind fun _ => ?_
      split
      · exact logError_leaves.bind fun _ => .pure _
      · split
        exacts [logError_leaves.bind fun _ => .pure _, .raise _, .lift _]

theorem saveState_leaves (users : PyDict UserSpec) : Leaves f (saveState users) := .of_offline fun w => by
  unfold saveState
  dsimp only
  split
  · rfl
  · split
    · rfl
    · split <;> rfl

end Offline

/-- Recording a metric. -/
theorem metrics_leaves (g : World → Metrics) : Leaves World.stats (PyM.modify fun w => { w with metrics := g w }) :=
  fun _ => rfl

/-! ## No gateway method changes the counters: `DatabaseClient` -/

section Database

variable {α γ : Type} {f : World → γ} [OfCounters f]

theorem getConnection_leaves : Leaves f getConnection := .of_counters fun w => by
  unfold getConnection
  split
  · rfl
  · split <;> rfl

theorem returnConnection_leaves : Leaves f returnConnection := .of_counters <| .modify fun w => by
  split <;> rfl

theorem setAutocommit_leaves : Leaves f setAutocommit := .of_counters fun _ => rfl

theorem rollback_leaves : Leaves f rollback := .of_counters fun _ => rfl

theorem execute_leaves (s : Stmt) : Leaves f (execute s) := .of_counters fun w => by
  obtain ⟨db, txn, hw, -⟩ := execute_world s w
  rw [hw]
  rfl

theorem commit_leaves : Leaves f commit := .of_counters fun w => by
  unfold commit
  split <;> rfl

omit [OfCounters f] in
theorem sqlString_leaves (v : PyVal) : Leaves f (sqlString v) := by
  unfold sqlString
  split
  exacts [.pure _, .raise _]

theorem withConnection_leaves {body : PyM α} (hb : Leaves f body) :
    Leaves f (withConnection body) := by
  unfold withConnection
  exact Leaves.bind (.of_counters fun _ => rfl) fun _ => hb.tryFinally returnConnection_leaves

theorem onDbError_leaves {cleanup : PyM Unit} {x : PyM α} (hc : Leaves f cleanup)
    (hx : Leaves f x) : Leaves f (onDbError cleanup x) :=
  hx.tryCatch fun e => by
    split
    · exact logError_leaves.bind fun _ => hc.bind fun _ => .raise e
    · exact .raise e

theorem fetchRoleNames_leaves (call : Call) (s : Stmt) : Leaves f (fetchRoleNames call s) :=
  (record_leaves _).bind fun _ => withConnection_leaves <| onDbError_leaves (.pure ()) <|
    getConnection_leaves.bind fun _ => (execute_leaves s).bind fun _ => .pure _

/-- A mutation of `DatabaseClient` after its call. -/
private theorem mutation_leaves {cleanup body : PyM Unit} (dryRun : Bool) (hc : Leaves f cleanup)
    (hb : Leaves f body) :
    Leaves f (if dryRun then pure () else withConnection (onDbError cleanup body)) := by
  split
  exacts [.pure (), withConnection_leaves (onDbError_leaves hc hb)]

omit [OfCounters f] in
/-- A statement on identifiers built by `sql.Identifier`. -/
private theorem statement_leaves {v : PyVal} {k : String → PyM β} (hk : ∀ n, Leaves f (k n)) :
    Leaves f (sqlString v >>= k) :=
  (sqlString_leaves v).bind hk

theorem roleStatement_leaves (call : Call) (stmt : String → Stmt) (roleName : Scalar) (dryRun : Bool) :
    Leaves f (roleStatement call stmt roleName dryRun) :=
  (record_leaves _).bind fun _ => mutation_leaves dryRun (.pure ()) <| getConnection_leaves.bind fun _ =>
    setAutocommit_leaves.bind fun _ => statement_leaves fun _ => (execute_leaves _).discard

theorem grantPrivileges_leaves (userSpec : UserSpec) : Leaves f (grantPrivileges userSpec) := by
  unfold grantPrivileges
  split
  · exact .pure ()
  · exact (Leaves.lift _).bind fun _ => Leaves.forEach (fun _ => (Leaves.lift _).bind fun _ =>
      Leaves.forEach (fun _ => statement_leaves fun _ => statement_leaves fun _ => statement_leaves fun _ =>
        (execute_leaves _).discard) _) _

theorem createUser_leaves (userSpec : UserSpec) (password : String) (dryRun : Bool) :
    Leaves f (createUser userSpec password dryRun) := by
  refine (record_leaves _).bind fun _ => mutation_leaves dryRun rollback_leaves <|
    getConnection_leaves.bind fun _ => statement_leaves fun _ => (execute_leaves _).discard.bind fun _ =>
    statement_leaves fun _ => statement_leaves fun _ => (execute_leaves _).discard.bind fun _ =>
    (Leaves.lift _).bind fun _ => (Leaves.forEach (fun _ => statement_leaves fun _ => statement_leaves fun _ =>
      (execute_leaves _).discard) _).bind fun _ => ?_
  dsimp only
  split <;> refine Leaves.bind ?_ fun _ => commit_leaves
  exacts [grantPrivileges_leaves userSpec, .pure ()]

theorem updateUserRoles_leaves (username : Scalar) (oldRoles newRoles : PySet) (dryRun : Bool) :
    Leaves f (updateUserRoles username oldRoles newRoles dryRun) := by
  refine (record_leaves _).bind fun _ => ?_
  dsimp only
  split
  · exact .pure ()
  exact mutation_leaves dryRun rollback_leaves <| getConnection_leaves.bind fun _ =>
    (Leaves.forEach (fun _ => statement_leaves fun _ => statement_leaves fun _ => (execute_leaves _).discard) _).bind
      fun _ => (Leaves.forEach (fun _ => statement_leaves fun _ => statement_leaves fun _ =>
        (execute_leaves _).discard) _).bind fun _ => commit_leaves

theorem dropUser_leaves (cfg : Config) (username : Scalar) (dryRun : Bool) :
    Leaves f (dropUser cfg username dryRun) :=
  (record_leaves _).bind fun _ => mutation_leaves dryRun rollback_leaves <|
    getConnection_leaves.bind fun _ => statement_leaves fun _ => statement_leaves fun _ =>
    (execute_leaves _).discard.bind fun _ => statement_leaves fun _ => statement_leaves fun _ =>
    (execute_leaves _).discard.bind fun _ => statement_leaves fun _ => (execute_leaves _).discard.bind fun _ =>
    statement_leaves fun _ => (execute_leaves _).discard.bind fun _ => commit_leaves

end Database

/-! ## The steps of a cycle leave `drift_detected` -/

/-- The three metrics that `export_prometheus` declares as counters:
    `reconciliations_total`, `drift_total` and `errors_total`. -/
def Metrics.totals (m : Metrics) : Nat × Nat × Nat := (m.reconciliationCount, m.driftCount, m.errorCount)

/-- A view of the counters that the counts of the loops and the two gauges
    `users_managed` and `roles_managed` leave alone: in a pass, only
    `stats.drift_detected = drift_count` and `record_reconciliation` can change it. -/
class CountFree {γ : Type} (f : World → γ) extends OfCounters f : Prop where
  count : ∀ (w : World) {g : ReconciliationStats → ReconciliationStats},
    (∀ s, (g s).driftDetected = s.driftDetected) → f { w with stats := g w.stats } = f w
  gauge : ∀ (w : World) {g : Metrics → Metrics}, (∀ m, (g m).totals = m.totals) → f { w with metrics := g w.metrics } = f w

instance : CountFree (·.stats.driftDetected) where
  congr h := congrArg (·.1.driftDetected) h
  count _ _ h := h _
  gauge _ _ _ := rfl

section Steps

variable {γ : Type} {f : World → γ} [CountFree f] {cfg : Config} {D P : PyDict UserSpec} {dryRun : Bool}

/-- A method that leaves the counters leaves `drift_detected`. -/
private theorem drift_of_stats {α : Type} {x : PyM α} (h : Leaves World.stats x) :
    Leaves (·.stats.driftDetected) x :=
  h.comp ReconciliationStats.driftDetected

/-- A count of the loops, which is not `drift_detected`. -/
theorem modifyStats_leaves {g : ReconciliationStats → ReconciliationStats}
    (h : ∀ s, (g s).driftDetected = s.driftDetected) : Leaves f (modifyStats g) :=
  fun w => CountFree.count w h

/-- `users_managed` or `roles_managed`. -/
theorem gauge_leaves {g : World → Metrics → Metrics} (h : ∀ w m, (g w m).totals = m.totals) :
    Leaves f (PyM.modify fun w => { w with metrics := g w w.metrics }) :=
  fun w => CountFree.gauge w (h w)

theorem isolate_leaves {x : PyM Unit} (hx : Leaves f x) : Leaves f (isolate x) :=
  hx.tryCatch fun _ => logError_leaves.bind fun _ => modifyStats_leaves fun _ => rfl

/-- `logger.error(...); stats.errors += 1`. -/
theorem loggedError_leaves : Leaves f (logError >>= fun _ => countError) :=
  logError_leaves.bind fun _ => modifyStats_leaves fun _ => rfl

private theorem logError_countError_leaves :
    Leaves (·.stats.driftDetected) (logError >>= fun _ => countError) :=
  loggedError_leaves

theorem fetchLiveUsers_leaves : Leaves f fetchLiveUsers :=
  (fetchRoleNames_leaves _ _).map _ |>.tryCatch fun _ => loggedError_leaves.bind fun _ => .pure _

theorem createRoleItem_leaves (r : Scalar) : Leaves f (createRoleItem dryRun r) :=
  isolate_leaves <| (roleStatement_leaves _ _ _ _).bind fun _ => modifyStats_leaves fun _ => rfl

theorem reconcileRoles_leaves : Leaves f (reconcileRoles D dryRun) :=
  (Leaves.lift _).bind fun _ => (fetchRoleNames_leaves _ _).bind fun _ => Leaves.forEach createRoleItem_leaves _

theorem deleteUserItem_leaves (u : Scalar) : Leaves f (deleteUserItem cfg P dryRun u) := by
  unfold deleteUserItem
  split
  · exact isolate_leaves <| (dropUser_leaves _ _ _).bind fun _ => modifyStats_leaves fun _ => rfl
  · exact .pure ()

theorem createUserItem_leaves (u : Scalar) : Leaves f (createUserItem cfg D dryRun u) := by
  unfold createUserItem
  split
  · exact .raise _
  refine isolate_leaves <| (getUserPassword_leaves _ _).bind fun _ => ?_
  split
  · split
    · exact loggedError_leaves
    · exact (createUser_leaves _ _ _).bind fun _ => modifyStats_leaves fun _ => rfl
  · exact loggedError_leaves

theorem updateUserItem_leaves (u : Scalar) : Leaves f (updateUserItem D P dryRun u) := by
  unfold updateUserItem
  split
  · exact .raise _
  split
  · exact .pure ()
  refine (Leaves.lift _).bind fun _ => (Leaves.lift _).bind fun _ => ?_
  split
  · exact .pure ()
  refine isolate_leaves <| (fetchRoleNames_leaves _ _).bind fun _ => (Leaves.lift _).bind fun _ => ?_
  split
  · exact .pure ()
  · exact (updateUserRoles_leaves _ _ _ _).bind fun _ => modifyStats_leaves fun _ => rfl

theorem deleteUsers_leaves (xs : PySet) : Leaves f (deleteUsers cfg P xs dryRun) :=
  Leaves.forEach deleteUserItem_leaves _

theorem createUsers_leaves (xs : PySet) : Leaves f (createUsers cfg D xs dryRun) :=
  Leaves.forEach createUserItem_leaves _

theorem updateUsers_leaves (xs : PySet) : Leaves f (updateUsers D P xs dryRun) :=
  Leaves.forEach updateUserItem_leaves _

/-- Once the drift is recorded, nothing else in `applyDrift` changes the view. -/
theorem afterDrift_leaves {live : PySet} : Leaves f (do
    deleteUsers cfg P (live.diff D.keys) dryRun
    createUsers cfg D (D.keys.diff live) dryRun
    updateUsers D P (D.keys.inter live) dryRun
    if !dryRun then saveState D
    PyM.modify fun w => { w with metrics := { w.metrics with usersManaged := D.card } }
    let roles ← fetchExistingRoles
    PyM.modify fun w => { w with metrics := { w.metrics with rolesManaged := roles.card } } : PyM Unit) := by
  refine Leaves.bind (deleteUsers_leaves _) fun _ => ?_
  refine Leaves.bind (createUsers_leaves _) fun _ => ?_
  refine Leaves.bind (updateUsers_leaves _) fun _ => ?_
  split <;> refine Leaves.bind ?_ fun _ =>
    (gauge_leaves (g := fun _ m => { m with usersManaged := D.card }) fun _ _ => rfl).bind fun _ =>
    (fetchRoleNames_leaves _ _).bind fun roles => gauge_leaves (g := fun _ m => { m with rolesManaged := roles.card })
      fun _ _ => rfl
  exacts [saveState_leaves D, .pure ()]

variable (cfg D P dryRun) in
/-- `applyDrift` records the drift it finds, when there is some, and nothing after
    that changes it. -/
theorem applyDrift_driftDetected (live : PySet) (w : World) :
    (applyDrift cfg D P live dryRun w).world.stats.driftDetected =
      if (D.keys.diff live).card + (live.diff D.keys).card > 0 then (D.keys.diff live).card + (live.diff D.keys).card
      else w.stats.driftDetected := by
  unfold applyDrift
  dsimp only [detectDrift]
  by_cases h : (D.keys.diff live).card + (live.diff D.keys).card > 0 <;> simp only [h, ite_true, ite_false] <;>
    exact Leaves.bind_apply (fun _ => (afterDrift_leaves : Leaves (·.stats.driftDetected) _)) w

end Steps

/-! ## The drift of a cycle -/

/-- `fetch_existing_users`, as the cycle calls it, reads every role of the
    committed catalog outside the denylist, with or without `LOGIN`. -/
theorem fetchLiveUsers_spec (c : Catalog) :
    Triple (fun w => w.db = c) fetchLiveUsers fun o w =>
      ∀ live, o = some live → w.db = c ∧ live = PySet.ofList (c.selectRoles false) :=
  Triple.tryCatch (Triple.map ((fetchRoleNames_spec _ (show Stmt.selectUsers.isRead = true from rfl) c).conseq (fun _ h => h)
    fun _ _ ⟨_, hd, rows, hr, hroles⟩ live hl => by cases hl; cases hr; exact ⟨hd, hroles⟩)) fun _ =>
    Triple.bind (Returns.true logError) fun _ => Triple.bind (Returns.true countError) fun _ =>
      Triple.pure fun _ _ _ h => nomatch h

/-- The reads of a cycle leave the catalog and `drift_detected` as they were, and
    the live users are the roles of the catalog outside the denylist. -/
theorem CycleInputs.live_eq {cfg : Config} {w w₄ : World} {D P : PyDict UserSpec} {live : PySet}
    (hin : CycleInputs cfg w D P live w₄) :
    live = PySet.ofList (w.db.selectRoles false) ∧ w₄.stats.driftDetected = w.stats.driftDetected := by
  have hdb : w₄.db = w.db := hin.extends.db_eq fun e he => by
    rcases he with (rfl | rfl) | (rfl | rfl) | rfl | rfl | rfl <;> rfl
  obtain ⟨y, w₁, w₂, w₃, hc, hp, hl, hf⟩ := hin
  obtain ⟨hd, hlive⟩ := fetchLiveUsers_spec w₃.db w₃ rfl (some live) (by rw [hf]) live rfl
  rw [hf] at hd
  dsimp only at hd
  refine ⟨by rw [hlive, ← hd, hdb], ?_⟩
  calc w₄.stats.driftDetected = w₃.stats.driftDetected := (fetchLiveUsers_leaves : Leaves (·.stats.driftDetected) _).run hf
    _ = w₂.stats.driftDetected := (drift_of_stats loadState_leaves).run hl
    _ = w₁.stats.driftDetected := (drift_of_stats (parseDesiredUsers_leaves cfg y)).run hp
    _ = w.stats.driftDetected := (drift_of_stats (fetchConfigmap_leaves cfg)).run hc

/-- The drift a cycle reports, once it has read the desired users `D` and the
    live users: the desired users missing from the live users, plus every live
    user no desired user names, where the live users are all the roles of the
    catalog outside the denylist, `LOGIN` or not, managed or not. It is `0` when
    `reconcile_roles` raised. -/
theorem reconciliationCycle_driftDetected {cfg : Config} {w w₄ : World} {D P : PyDict UserSpec}
    {live : PySet} (hin : CycleInputs cfg { w with stats := {} } D P live w₄) :
    live = PySet.ofList (w.db.selectRoles false) ∧
    (reconciliationCycle cfg w).world.stats.driftDetected =
      match (reconcileRoles D cfg.dryRun w₄).result with
      | .ok _ => (D.keys.diff live).card + (live.diff D.keys).card
      | .error _ => 0 := by
  obtain ⟨hlive, hdrift⟩ := hin.live_eq
  refine ⟨hlive, ?_⟩
  have hcycle : (reconciliationCycle cfg w).world.stats.driftDetected =
      (reconcileUsers cfg cfg.dryRun { w with stats := {} }).world.stats.driftDetected := by
    unfold reconciliationCycle
    rw [PyM.bind_ok (show PyM.modify (fun w => { w with stats := {} }) w = ⟨.ok (), { w with stats := {} }⟩ from rfl),
      Leaves.bind_apply fun _ => drift_of_stats (metrics_leaves _)]
    exact Leaves.tryCatch_apply (fun _ => logError_countError_leaves) _
  have h₅ : (reconcileRoles D cfg.dryRun w₄).world.stats.driftDetected = 0 :=
    ((reconcileRoles_leaves : Leaves (·.stats.driftDetected) (reconcileRoles D cfg.dryRun)) w₄).trans hdrift
  rw [hcycle, hin.reconcileUsers_eq, reconcileLive, PyM.bind_apply]
  generalize reconcileRoles D cfg.dryRun w₄ = o at h₅ ⊢
  obtain ⟨_ | _, w₅⟩ := o
  · exact h₅
  · dsimp only at h₅ ⊢
    rw [applyDrift_driftDetected, h₅]
    split
    · rfl
    · exact (Nat.eq_zero_of_not_pos ‹_›).symm

/-- `alice`, a member of the group role `readers`. -/
def readerUsers : PyDict UserSpec :=
  PyDict.empty.insert (.str "alice") ⟨.str "alice", .str "postgres", .list [.str "readers"], .scalar .none⟩

/-- `users.yaml` with `alice` alone, in `readers`. -/
def readerYaml : YamlText :=
  .document (.dict [(.str "users", .list [.dict [(.str "username", .str "alice"), (.str "roles", .list [.str "readers"])]])])

/-- A cluster with nothing left to do: `alice` is live and in `readers`, which an
    earlier cycle created, and the state file holds `readerUsers`. -/
def groupRoleWorld : World where
  db := { roles := [("postgres", true), ("alice", true), ("readers", false)], members := [("readers", "alice")],
          databases := ["postgres"], connect := [("postgres", "alice")], grants := [], owners := [] }
  pool := ⟨[⟨false⟩], 1⟩
  cluster :=
    { configMaps := fun _ _ => some ⟨some [("users.yaml", readerYaml)]⟩
      secrets := fun _ _ => some (.decoded "pw") }
  stateFile := some (.value (.dict [(.str "alice",
    UserSpec.asdict ⟨.str "alice", .str "postgres", .list [.str "readers"], .scalar .none⟩)]))
  faults := fun _ => false

/-- `groupRoleWorld` once a cycle has reset its counters and read its inputs. -/
def groupRoleRead : World :=
  (fetchLiveUsers (loadState (parseDesiredUsers Config.default readerYaml
    (fetchConfigmap Config.default { groupRoleWorld with stats := {} }).world).world).world).world

set_option smartUnfolding false in
/-- The live users of `groupRoleWorld` include the group role `readers`, which no
    desired user names, so the cycle reports a drift of `1`. -/
theorem groupRoleWorld_drift :
    CycleInputs Config.default { groupRoleWorld with stats := {} } readerUsers readerUsers
      (PySet.ofList [.str "alice", .str "readers"]) groupRoleRead ∧
    PySet.ofList [.str "alice", .str "readers"] = PySet.ofList (groupRoleWorld.db.selectRoles false) ∧
    (reconciliationCycle Config.default groupRoleWorld).world.stats.driftDetected = 1 := by
  have hin : CycleInputs Config.default { groupRoleWorld with stats := {} } readerUsers readerUsers
      (PySet.ofList [.str "alice", .str "readers"]) groupRoleRead :=
    ⟨readerYaml, _, _, _, PyM.eq_of_result rfl, PyM.eq_of_result rfl, PyM.eq_of_result rfl,
      PyM.eq_of_result rfl⟩
  obtain ⟨hlive, hdrift⟩ := reconciliationCycle_driftDetected hin
  exact ⟨hin, hlive, hdrift.trans rfl⟩

end PgUserController
