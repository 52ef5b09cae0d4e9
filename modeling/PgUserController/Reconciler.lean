-- SUMMARY: `PostgresUserController`: `detect_drift`, `reconcile_roles`, the deletion, creation and update loops of `reconcile_users`, one cycle of `run_reconciliation_loop`, and runs of cycles.
import PgUserController.Database
import PgUserController.Kubernetes
import PgUserController.Documents

/-!
# The reconciler

`reconcile_users` fetches the desired users, loads the previous state, reads the
live users, makes sure the desired roles exist, and then drops, creates and
updates users, in that order, before it saves the desired users as the new state.
Each item of the three loops runs under its own `try`, so that one failing user
only counts an error. The loops iterate their sets in the sets' order.
-/

namespace PgUserController

/-- `PostgresUserController.detect_drift`: the users to create, to delete and to
    update. -/
def detectDrift (desired : PyDict UserSpec) (actualUsers : PySet) : PySet × PySet × PySet :=
  (desired.keys.diff actualUsers, actualUsers.diff desired.keys, desired.keys.inter actualUsers)

/-- `all_desired_roles.update(user_spec.roles)`. -/
def addRoles (allDesiredRoles : PySet) (userSpec : UserSpec) : Except PyExc PySet := do
  let roles ← userSpec.roles.iter
  pure (allDesiredRoles.update (← roles.mapM PyVal.hash?))

/-- The roles of all desired users, collected by `reconcile_roles`. -/
def allDesiredRoles (desired : PyDict UserSpec) : Except PyExc PySet :=
  desired.values.foldlM addRoles PySet.empty

/-- One pass of the loop of `reconcile_roles`. -/
def createRoleItem (dryRun : Bool) (role : Scalar) : PyM Unit := isolate do
  createRole role dryRun
  modifyStats fun s => { s with rolesCreated := s.rolesCreated + 1 }

/-- `PostgresUserController.reconcile_roles`: create each desired role that
    `fetch_existing_roles` does not list. -/
def reconcileRoles (desiredUsers : PyDict UserSpec) (dryRun : Bool) : PyM Unit := do
  let allRoles ← PyM.lift (allDesiredRoles desiredUsers)
  let existingRoles ← fetchExistingRoles
  PyM.forEach (allRoles.diff existingRoles).elems (createRoleItem dryRun)

/-- One pass of the deletion loop: a user is dropped only when it is in the
    previous state. -/
def deleteUserItem (cfg : Config) (previousState : PyDict UserSpec) (dryRun : Bool) (username : Scalar) :
    PyM Unit :=
  if username ∈ previousState.keys then isolate do
    dropUser cfg username dryRun
    modifyStats fun s => { s with usersDeleted := s.usersDeleted + 1 }
  else pure ()

/-- The deletion loop. -/
def deleteUsers (cfg : Config) (previousState : PyDict UserSpec) (usersToDelete : PySet)
    (dryRun : Bool) : PyM Unit :=
  PyM.forEach usersToDelete.elems (deleteUserItem cfg previousState dryRun)

/-- One pass of the creation loop: a user whose password cannot be found is
    skipped with an error. -/
def createUserItem (cfg : Config) (desiredUsers : PyDict UserSpec) (dryRun : Bool) (username : Scalar) :
    PyM Unit :=
  match desiredUsers.get? username with
  | none => PyM.raise .keyError
  | some userSpec => isolate do
    match ← getUserPassword cfg username with
    | some password =>
      if password.isEmpty then do logError; countError
      else do
        createUser userSpec password dryRun
        modifyStats fun s => { s with usersCreated := s.usersCreated + 1 }
    | none => do logError; countError

/-- The creation loop. -/
def createUsers (cfg : Config) (desiredUsers : PyDict UserSpec) (usersToCreate : PySet)
    (dryRun : Bool) : PyM Unit :=
  PyM.forEach usersToCreate.elems (createUserItem cfg desiredUsers dryRun)

/-- One pass of the update loop: a user's memberships are read and updated only
    when its roles in the previous state differ from the desired ones. -/
def updateUserItem (desiredUsers previousState : PyDict UserSpec) (dryRun : Bool) (username : Scalar) :
    PyM Unit :=
  match desiredUsers.get? username with
  | none => PyM.raise .keyError
  | some userSpec =>
    match previousState.get? username with
    | none => pure ()
    | some prevSpec => do
      let prevRoles ← PyM.lift (pySet prevSpec.roles)
      let specRoles ← PyM.lift (pySet userSpec.roles)
      if prevRoles.beq specRoles then pure () else isolate do
        let actualRoles ← fetchUserRoles username
        let desiredRoles ← PyM.lift (pySet userSpec.roles)
        if actualRoles.beq desiredRoles then pure () else do
          updateUserRoles username actualRoles desiredRoles dryRun
          modifyStats fun s => { s with usersUpdated := s.usersUpdated + 1 }

/-- The update loop. -/
def updateUsers (desiredUsers previousState : PyDict UserSpec) (usersToUpdate : PySet)
    (dryRun : Bool) : PyM Unit :=
  PyM.forEach usersToUpdate.elems (updateUserItem desiredUsers previousState dryRun)

/-- `fetch_existing_users()`, with a failure logged and counted; `none` then. -/
def fetchLiveUsers : PyM (Option PySet) :=
  PyM.tryCatch (some <$> fetchExistingUsers) fun _ => do logError; countError; pure none

/-- What `reconcile_users` does after `reconcile_roles`: find the drift, drop,
    create and update users, save the desired users, and record the metrics. -/
def applyDrift (cfg : Config) (desiredUsers previousState : PyDict UserSpec) (actualUsers : PySet)
    (dryRun : Bool) : PyM Unit := do
  let (usersToCreate, usersToDelete, usersToUpdate) := detectDrift desiredUsers actualUsers
  let driftCount := usersToCreate.card + usersToDelete.card
  if driftCount > 0 then modifyStats fun s => { s with driftDetected := driftCount }
  deleteUsers cfg previousState usersToDelete dryRun
  createUsers cfg desiredUsers usersToCreate dryRun
  updateUsers desiredUsers previousState usersToUpdate dryRun
  if !dryRun then saveState desiredUsers
  PyM.modify fun w => { w with metrics := { w.metrics with usersManaged := desiredUsers.card } }
  let roles ← fetchExistingRoles
  PyM.modify fun w => { w with metrics := { w.metrics with rolesManaged := roles.card } }

/-- What `reconcile_users` does once it knows the desired users, the previous
    state and the live users. -/
def reconcileLive (cfg : Config) (desiredUsers previousState : PyDict UserSpec)
    (actualUsers : PySet) (dryRun : Bool) : PyM Unit := do
  reconcileRoles desiredUsers dryRun
  applyDrift cfg desiredUsers previousState actualUsers dryRun

/-- `PostgresUserController.reconcile_users`. -/
def reconcileUsers (cfg : Config) (dryRun : Bool) : PyM Unit := do
  match ← fetchConfigmap cfg with
  | none => do logError; countError
  | some yamlContent => do
    let desiredUsers ← parseDesiredUsers cfg yamlContent
    let previousState ← loadState
    match ← fetchLiveUsers with
    | none => pure ()
    | some actualUsers => reconcileLive cfg desiredUsers previousState actualUsers dryRun

/-- One pass of `run_reconciliation_loop`: fresh counters, `reconcile_users`, and
    the metrics recorded whether it returned or raised. -/
def reconciliationCycle (cfg : Config) : PyM Unit := do
  PyM.modify fun w => { w with stats := {} }
  PyM.tryCatch (reconcileUsers cfg cfg.dryRun) fun _ => do logError; countError
  PyM.modify fun w => { w with metrics := w.metrics.recordReconciliation w.stats }

/-- The first `n` cycles of `run_reconciliation_loop`. -/
def runCycles (cfg : Config) : Nat → PyM Unit
  | 0 => pure ()
  | n + 1 => do reconciliationCycle cfg; runCycles cfg n

end PgUserController
