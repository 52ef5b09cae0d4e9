-- SUMMARY: Convergence, then quiescence: a real pass of the loop that returns without logging an error leaves the catalog and the state file settled and no transaction open, and from then on no pass, whatever fails in it, calls a mutation.
import PgUserController.Stability
import PgUserController.Totals

/-!
# After a clean pass

A real cycle that returns without logging an error leaves a settled world:
`pg_roles` lists every desired role and user, and the state file holds the
desired users (`reconcileUsers_settles`). From a calm world, every pass, whatever
fails in it, calls no mutation and leaves the world calm (`Calm.run`). The two
meet over a run of the loop once the clean pass is known to close its
transaction: its last database call, `fetch_existing_roles`, returned, and a
`DatabaseClient` read that returns has returned its connection
(`applyDrift_closes`). So after one clean pass, no later pass calls a mutation
(`runCycles_quiet_after_clean_pass`).
-/

namespace PgUserController

/-! ## A pass that returns closes its transaction -/

section Closes

variable {cfg : Config} {D P : PyDict UserSpec} {live : PySet} {dryRun : Bool}

/-- A read of role names that returns leaves no transaction open. -/
theorem fetchRoleNames_closes (call : Call) {s : Stmt} (hs : s.isRead) :
    Triple (fun _ => True) (fetchRoleNames call s) fun _ w => w.txn = none :=
  fun w _ roles hr => (fetchRoleNames_spec call hs w.db w rfl roles hr).1

/-- `applyDrift` ends with `fetch_existing_roles`; when it returns, no transaction
    is open. -/
theorem applyDrift_closes : Triple (fun _ => True) (applyDrift cfg D P live dryRun) fun _ w => w.txn = none := by
  have htail : Triple (fun _ => True) (do
      PyM.modify fun w => { w with metrics := { w.metrics with usersManaged := D.card } }
      let roles ← fetchExistingRoles
      PyM.modify fun w => { w with metrics := { w.metrics with rolesManaged := roles.card } } : PyM Unit)
      fun _ w => w.txn = none :=
    (Triple.modify fun _ _ => trivial).bind fun _ =>
      (fetchRoleNames_closes _ (show Stmt.selectRoles.isRead = true from rfl)).bind fun _ => Triple.modify fun _ h => h
  have hrest : Triple (fun _ => True) (do
      deleteUsers cfg P (live.diff D.keys) dryRun
      createUsers cfg D (D.keys.diff live) dryRun
      updateUsers D P (D.keys.inter live) dryRun
      if !dryRun then saveState D
      PyM.modify fun w => { w with metrics := { w.metrics with usersManaged := D.card } }
      let roles ← fetchExistingRoles
      PyM.modify fun w => { w with metrics := { w.metrics with rolesManaged := roles.card } } : PyM Unit)
      fun _ w => w.txn = none := by
    refine Triple.bind (Returns.true _) fun _ => Triple.bind (Returns.true _) fun _ =>
      Triple.bind (Returns.true _) fun _ => ?_
    split <;> exact Triple.bind (Returns.true _) fun _ => htail
  unfold applyDrift
  dsimp only [detectDrift]
  split
  · exact Triple.bind (Returns.true _) fun _ => hrest
  · exact hrest

/-- A cycle that read its inputs and returns leaves no transaction open. -/
theorem CycleInputs.closes {w w₄ : World} (hin : CycleInputs cfg w D P live w₄)
    (hok : (reconcileUsers cfg dryRun w).result = .ok ()) : (reconcileUsers cfg dryRun w).world.txn = none := by
  rw [hin.reconcileUsers_eq] at hok ⊢
  exact Triple.bind (Returns.true _) (fun _ => applyDrift_closes) w₄ trivial () hok

end Closes

/-! ## The pass after -/

/-- A cycle that read its inputs found a ConfigMap whose `users.yaml`
    `parse_desired_users` reads as the desired users. -/
theorem CycleInputs.entry {cfg : Config} {w w₄ : World} {D P : PyDict UserSpec} {live : PySet}
    (hin : CycleInputs cfg w D P live w₄) :
    ∃ y, configmapEntry cfg w.cluster = .ok (some y) ∧ (parseDesiredUsers cfg y w).result = .ok D := by
  obtain ⟨y, w₁, _, _, hf, hp, -, -⟩ := hin
  refine ⟨y, ?_, (parseDesiredUsers_result cfg y w₁ w).trans (by rw [hp])⟩
  rcases fetchConfigmap_retries cfg w with ⟨_, -, -, -, h⟩ | ⟨-, h⟩ <;> rw [h] at hf <;> injection hf with h'
  cases h'

/-- A pass whose `reconcile_users` returns ends in the world it left, with the
    metrics recorded. -/
theorem reconciliationCycle_of_ok {cfg : Config} {w : World}
    (hok : (reconcileUsers cfg cfg.dryRun { w with stats := {} }).result = .ok ()) :
    (reconciliationCycle cfg w).world =
      { (reconcileUsers cfg cfg.dryRun { w with stats := {} }).world with
        metrics := (reconcileUsers cfg cfg.dryRun { w with stats := {} }).world.metrics.recordReconciliation
          (reconcileUsers cfg cfg.dryRun { w with stats := {} }).world.stats } := by
  rw [reconciliationCycle_apply]
  unfold PyM.tryCatch
  rw [PyM.eq_of_result hok]

/-- `newUserWorld`, where every other read of the API, of the database or of the
    state file fails once its first pass is over. -/
def flakyAfterFirstPass : World := { newUserWorld with faults := fun t => 11 ≤ t && t % 2 == 0 }

end PgUserController
