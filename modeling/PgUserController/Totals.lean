-- SUMMARY: The metrics over runs of the reconciliation loop: every pass adds one to `reconciliations_total`, and its own drift and errors to `drift_total` and `errors_total`, whether `reconcile_users` returned or raised, so over any run the three counters only grow, and `errors_total` never counts more errors than the run logged.
import PgUserController.Ownership

/-!
# The metrics over runs

`run_reconciliation_loop` calls `record_reconciliation` once per pass: in the
`try` when `reconcile_users` returned, in the `except` when it raised. Nothing
else writes the three metrics `export_prometheus` declares as counters:
`reconcile_users` only sets the gauges `users_managed` and `roles_managed`
(`reconcileUsers_totals`). So a pass adds exactly one reconciliation and the
`drift_detected` and `errors` it counted from zero (`reconciliationCycle_totals`),
and over any run `reconciliations_total` counts the passes while `drift_total` and
`errors_total` never decrease, as a Prometheus counter must not
(`runCycles_totals`). Every error a pass counts it has also logged, so over any
run `errors_total` grows by at most the number of `logger.error` lines
(`runCycles_counts_logged_errors`).
-/

namespace PgUserController

instance : CountFree (·.metrics.totals) where
  congr h := congrArg (·.2.totals) h
  count _ _ _ := rfl
  gauge _ _ h := h _

/-! ## `reconcile_users` leaves the totals -/

section Pass

variable (cfg : Config) (dryRun : Bool)

/-- Besides the steps every count-free view survives, `applyDrift` only sets
    `drift_detected`, which the metrics do not hold. -/
theorem applyDrift_totals (D P : PyDict UserSpec) (live : PySet) :
    Leaves (·.metrics.totals) (applyDrift cfg D P live dryRun) := by
  unfold applyDrift
  dsimp only [detectDrift]
  split
  · refine Leaves.bind (.modify fun _ => rfl) fun _ => ?_
    exact afterDrift_leaves
  · exact afterDrift_leaves

theorem reconcileUsers_totals : Leaves (·.metrics.totals) (reconcileUsers cfg dryRun) :=
  (fetchConfigmap_leaves cfg).bind fun y => by
    split
    · exact loggedError_leaves
    refine (parseDesiredUsers_leaves cfg _).bind fun _ => loadState_leaves.bind fun _ =>
      fetchLiveUsers_leaves.bind fun live => ?_
    split
    exacts [.pure (), reconcileRoles_leaves.bind fun _ => applyDrift_totals cfg dryRun _ _ _]

end Pass

/-! ## One pass, and a run -/

/-- A pass ends with `record_reconciliation` of the counters that `reconcile_users`,
    guarded by the loop's `except`, left; the pass itself always returns. -/
theorem reconciliationCycle_apply (cfg : Config) (w : World) :
    reconciliationCycle cfg w =
      let w₁ := (PyM.tryCatch (reconcileUsers cfg cfg.dryRun) (fun _ => do logError; countError)
        { w with stats := {} }).world
      ⟨.ok (), { w₁ with metrics := w₁.metrics.recordReconciliation w₁.stats }⟩ := by
  unfold reconciliationCycle
  rw [PyM.bind_ok (show PyM.modify (fun w => { w with stats := {} }) w = ⟨.ok (), { w with stats := {} }⟩ from rfl),
    PyM.bind_apply]
  unfold PyM.tryCatch
  rcases reconcileUsers cfg cfg.dryRun { w with stats := {} } with ⟨_ | _, _⟩ <;> rfl

/-- A pass adds one reconciliation, and the drift and the errors it counted, to
    the totals. -/
theorem reconciliationCycle_totals (cfg : Config) (w : World) :
    (reconciliationCycle cfg w).world.metrics.totals =
      (w.metrics.reconciliationCount + 1,
       w.metrics.driftCount + (reconciliationCycle cfg w).world.stats.driftDetected,
       w.metrics.errorCount + (reconciliationCycle cfg w).world.stats.errors) := by
  have h₁ := (reconcileUsers_totals cfg cfg.dryRun).tryCatch (fun _ => loggedError_leaves) { w with stats := {} }
  simp only [Metrics.totals, Prod.mk.injEq] at h₁
  rw [reconciliationCycle_apply]
  simp only [Metrics.totals, Metrics.recordReconciliation, h₁]

/-- A pass always returns, so a run of `n + 1` passes is a pass and then a run of `n`. -/
theorem runCycles_succ (cfg : Config) (n : Nat) (w : World) :
    runCycles cfg (n + 1) w = runCycles cfg n (reconciliationCycle cfg w).world :=
  PyM.bind_ok (PyM.eq_of_result (congrArg Outcome.result (reconciliationCycle_apply cfg w)))

/-- Over any run of `n` passes, `reconciliations_total` grows by exactly `n`, and
    `drift_total` and `errors_total` never decrease. -/
theorem runCycles_totals (cfg : Config) : ∀ (n : Nat) (w : World),
    (runCycles cfg n w).world.metrics.reconciliationCount = w.metrics.reconciliationCount + n ∧
    w.metrics.driftCount ≤ (runCycles cfg n w).world.metrics.driftCount ∧
    w.metrics.errorCount ≤ (runCycles cfg n w).world.metrics.errorCount
  | 0, _ => ⟨rfl, le_rfl, le_rfl⟩
  | n + 1, w => by
    have hpass := reconciliationCycle_totals cfg w
    simp only [Metrics.totals, Prod.mk.injEq] at hpass
    obtain ⟨ih₁, ih₂, ih₃⟩ := runCycles_totals cfg n (reconciliationCycle cfg w).world
    rw [runCycles_succ]
    exact ⟨by omega, by omega, by omega⟩

/-! ## `errors_total` counts only logged errors

Every `stats.errors += 1` of the source follows a `logger.error` line, while
several errors are logged and not counted (a malformed `users.yaml`, a state file
that does not load or save, a budget of failed API reads). `ErrorsLogged w w'`
says that from `w` to `w'` the count of errors grew by no more than the errors
logged; it composes, so the rules of `Steps` carry it through a cycle. The gateway
methods count no error, so they keep it by their `Keeps` and `Leaves` lemmas. -/

/-- The `logger.error` lines of a log. -/
def loggedErrors (log : List Event) : Nat := log.count .logError

@[simp] theorem loggedErrors_append (l₁ l₂ : List Event) :
    loggedErrors (l₁ ++ l₂) = loggedErrors l₁ + loggedErrors l₂ :=
  List.count_append _ _ _

/-- From `w` to `w'` the log grew, and `count` grew by at most the number of
    `logger.error` lines it grew by. -/
def CountLogged (count : World → Nat) (w w' : World) : Prop :=
  ∃ new, w'.log = w.log ++ new ∧ count w' ≤ count w + loggedErrors new

theorem CountLogged.stepRel (count : World → Nat) : StepRel (CountLogged count) where
  refl _ := ⟨[], (List.append_nil _).symm, Nat.le_add_right _ _⟩
  trans := fun ⟨n₁, hl₁, he₁⟩ ⟨n₂, hl₂, he₂⟩ =>
    ⟨n₁ ++ n₂, by rw [hl₂, hl₁, List.append_assoc], by rw [loggedErrors_append]; omega⟩

/-- `errors` of the running pass, against the errors logged. -/
def ErrorsLogged : World → World → Prop := CountLogged (·.stats.errors)

namespace ErrorsLogged

theorem stepRel : StepRel ErrorsLogged := CountLogged.stepRel _

variable {α : Type}

/-- A gateway method extends the log and leaves the counters. -/
theorem of_keeps {P : Event → Prop} {x : PyM α} (hk : Keeps P x) (hl : Leaves World.stats x) :
    Steps ErrorsLogged x := fun w => by
  obtain ⟨new, hlog, -⟩ := hk w
  exact ⟨new, hlog, by dsimp only; rw [hl w]; omega⟩

/-- A step that writes neither the log nor `errors`. -/
theorem modify {g : World → World} (h : ∀ w, (g w).log = w.log ∧ (g w).stats.errors = w.stats.errors) :
    Steps ErrorsLogged (PyM.modify g) :=
  fun w => ⟨[], by rw [List.append_nil]; exact (h w).1, Nat.le_add_right_of_le (h w).2.le⟩

/-- Recording a metric. -/
theorem metrics (g : World → Metrics) : Steps ErrorsLogged (PyM.modify fun w => { w with metrics := g w }) :=
  modify fun _ => ⟨rfl, rfl⟩

/-- A count other than `errors`. -/
theorem modifyStats {g : ReconciliationStats → ReconciliationStats} (h : ∀ s, (g s).errors = s.errors) :
    Steps ErrorsLogged (PgUserController.modifyStats g) :=
  modify fun w => ⟨rfl, h w.stats⟩

/-- `logger.error(...); stats.errors += 1`. -/
theorem loggedError : Steps ErrorsLogged (logError >>= fun _ => countError) :=
  fun w => ⟨[.logError], rfl, show w.stats.errors + 1 ≤ w.stats.errors + loggedErrors [.logError] by simp [loggedErrors]⟩

theorem isolate {x : PyM Unit} (hx : Steps ErrorsLogged x) : Steps ErrorsLogged (PgUserController.isolate x) :=
  hx.tryCatch stepRel fun _ => loggedError

end ErrorsLogged

section Loops

open ErrorsLogged

variable {cfg : Config} {D P : PyDict UserSpec} {dryRun : Bool}

theorem fetchLiveUsers_errorsLogged : Steps ErrorsLogged fetchLiveUsers :=
  ((of_keeps (fetchRoleNames_keeps _ _) (fetchRoleNames_leaves _ _)).map stepRel _).tryCatch stepRel fun _ =>
    loggedError.bind stepRel fun _ => .pure stepRel _

theorem reconcileRoles_errorsLogged : Steps ErrorsLogged (reconcileRoles D dryRun) :=
  (Steps.lift stepRel _).bind stepRel fun _ =>
    (of_keeps (fetchRoleNames_keeps _ _) (fetchRoleNames_leaves _ _)).bind stepRel fun _ =>
    Steps.forEach stepRel (fun _ => by
      unfold createRoleItem
      exact ErrorsLogged.isolate <| (of_keeps (roleStatement_keeps _ _ _ _) (roleStatement_leaves _ _ _ _)).bind
        stepRel fun _ => ErrorsLogged.modifyStats fun _ => rfl) _

theorem deleteUsers_errorsLogged (xs : PySet) : Steps ErrorsLogged (deleteUsers cfg P xs dryRun) :=
  Steps.forEach stepRel (fun u => by
    unfold deleteUserItem
    split
    · exact ErrorsLogged.isolate <| (of_keeps (dropUser_keeps _ _ _) (dropUser_leaves _ _ _)).bind stepRel
        fun _ => ErrorsLogged.modifyStats fun _ => rfl
    · exact .pure stepRel ()) _

theorem createUsers_errorsLogged (xs : PySet) : Steps ErrorsLogged (createUsers cfg D xs dryRun) :=
  Steps.forEach stepRel (fun u => by
    unfold createUserItem
    split
    · exact .raise stepRel _
    refine ErrorsLogged.isolate <| (of_keeps (getUserPassword_keeps _ _) (getUserPassword_leaves _ _)).bind stepRel
      fun _ => ?_
    split
    · split
      · exact loggedError
      · exact (of_keeps (createUser_keeps _ _ _) (createUser_leaves _ _ _)).bind stepRel fun _ =>
          ErrorsLogged.modifyStats fun _ => rfl
    · exact loggedError) _

theorem updateUsers_errorsLogged (xs : PySet) : Steps ErrorsLogged (updateUsers D P xs dryRun) :=
  Steps.forEach stepRel (fun u => by
    unfold updateUserItem
    split
    · exact .raise stepRel _
    split
    · exact .pure stepRel ()
    refine (Steps.lift stepRel _).bind stepRel fun _ => (Steps.lift stepRel _).bind stepRel fun _ => ?_
    split
    · exact .pure stepRel ()
    refine ErrorsLogged.isolate <| (of_keeps (fetchRoleNames_keeps _ _) (fetchRoleNames_leaves _ _)).bind stepRel
      fun _ => (Steps.lift stepRel _).bind stepRel fun _ => ?_
    split
    · exact .pure stepRel ()
    · exact (of_keeps (updateUserRoles_keeps _ _ _ _) (updateUserRoles_leaves _ _ _ _)).bind stepRel fun _ =>
        ErrorsLogged.modifyStats fun _ => rfl) _

theorem applyDrift_errorsLogged (live : PySet) : Steps ErrorsLogged (applyDrift cfg D P live dryRun) := by
  unfold applyDrift
  dsimp only [detectDrift]
  have hrest : Steps ErrorsLogged (do
      deleteUsers cfg P (live.diff D.keys) dryRun
      createUsers cfg D (D.keys.diff live) dryRun
      updateUsers D P (D.keys.inter live) dryRun
      if !dryRun then saveState D
      PyM.modify fun w => { w with metrics := { w.metrics with usersManaged := D.card } }
      let roles ← fetchExistingRoles
      PyM.modify fun w => { w with metrics := { w.metrics with rolesManaged := roles.card } } : PyM Unit) := by
    refine (deleteUsers_errorsLogged _).bind stepRel fun _ => (createUsers_errorsLogged _).bind stepRel fun _ =>
      (updateUsers_errorsLogged _).bind stepRel fun _ => ?_
    split <;> refine Steps.bind stepRel ?_ fun _ => (metrics _).bind stepRel fun _ =>
      (of_keeps (fetchRoleNames_keeps _ _) (fetchRoleNames_leaves _ _)).bind stepRel fun _ => metrics _
    exacts [of_keeps (saveState_keeps D) (saveState_leaves D), .pure stepRel ()]
  split
  · exact Steps.bind stepRel (ErrorsLogged.modifyStats fun _ => rfl) fun _ => hrest
  · exact hrest

theorem reconcileUsers_errorsLogged : Steps ErrorsLogged (reconcileUsers cfg dryRun) :=
  (of_keeps (fetchConfigmap_keeps cfg) (fetchConfigmap_leaves cfg)).bind stepRel fun _ => by
    split
    · exact loggedError
    refine (of_keeps (parseDesiredUsers_keeps (P := fun _ => True) cfg _ trivial)
      (parseDesiredUsers_leaves cfg _)).bind stepRel fun _ => (of_keeps loadState_keeps loadState_leaves).bind stepRel
      fun _ => fetchLiveUsers_errorsLogged.bind stepRel fun _ => ?_
    split
    exacts [.pure stepRel (), reconcileRoles_errorsLogged.bind stepRel fun _ => applyDrift_errorsLogged _]

end Loops

/-- A pass counts, from zero, no more errors than it logs. -/
theorem reconciliationCycle_errorsLogged (cfg : Config) (w : World) :
    ∃ new, (reconciliationCycle cfg w).world.log = w.log ++ new ∧
      (reconciliationCycle cfg w).world.stats.errors ≤ loggedErrors new := by
  obtain ⟨new, hlog, herr⟩ :=
    (reconcileUsers_errorsLogged.tryCatch ErrorsLogged.stepRel fun _ => ErrorsLogged.loggedError) { w with stats := {} }
  rw [reconciliationCycle_apply]
  exact ⟨new, hlog, by simpa using herr⟩

/-- A pass adds to `errors_total` no more errors than it logs. -/
theorem reconciliationCycle_countLogged (cfg : Config) :
    Steps (CountLogged (·.metrics.errorCount)) (reconciliationCycle cfg) := fun w => by
  obtain ⟨new, hlog, herr⟩ := reconciliationCycle_errorsLogged cfg w
  have hpass := reconciliationCycle_totals cfg w
  simp only [Metrics.totals, Prod.mk.injEq] at hpass
  exact ⟨new, hlog, by dsimp only; omega⟩

/-- Over any run of the loop, `errors_total` grows by at most the number of
    `logger.error` lines the run writes. -/
theorem runCycles_counts_logged_errors (cfg : Config) : ∀ (n : Nat) (w : World),
    ∃ new, (runCycles cfg n w).world.log = w.log ++ new ∧
      (runCycles cfg n w).world.metrics.errorCount ≤ w.metrics.errorCount + loggedErrors new :=
  Steps.runCycles (CountLogged.stepRel _) (reconciliationCycle_countLogged cfg)

end PgUserController
