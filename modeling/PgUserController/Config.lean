-- SUMMARY: The controller's configuration and system-role denylist, and the records it passes around: `UserSpec`, `ReconciliationStats`, `Metrics`.
import PgUserController.Python

/-!
# Configuration and records

`Config` is read once from the environment. Only the settings that a modelled
function reads are fields here; the rest (the database host, port and password,
the sync interval, the backoff base, the pool's maximum) only reach the
connection, the sleeps and the log.

`UserSpec` keeps what the parser put in it, untyped: its fields are whatever
YAML or JSON values the documents held.
-/

namespace PgUserController

/-- The settings of `Config` that the modelled functions read. -/
structure Config where
  namespace_ : String
  configmapName : String
  dbName : String
  dbUser : String
  dryRun : Bool
  maxRetries : Int
  dbPoolMinConn : Int

/-- `Config` with every environment variable unset. -/
def Config.default : Config where
  namespace_ := "postgres"
  configmapName := "postgres-users-config"
  dbName := "postgres"
  dbUser := "postgres"
  dryRun := false
  maxRetries := 5
  dbPoolMinConn := 1

/-- `Config.SYSTEM_ROLES`: the roles excluded from management. -/
def systemRoles : List String :=
  ["postgres", "pg_monitor", "pg_read_all_settings", "pg_read_all_stats",
   "pg_stat_scan_tables", "pg_read_server_files", "pg_write_server_files",
   "pg_execute_server_program", "pg_signal_backend", "rds_superuser"]

/-- A user specification: one entry of `users.yaml`, or of the state file. -/
structure UserSpec where
  username : PyVal
  database : PyVal
  roles : PyVal
  privileges : PyVal := .scalar .none
  deriving DecidableEq

/-- The counters of one reconciliation cycle (its timestamps are not modelled). -/
structure ReconciliationStats where
  usersCreated : Nat := 0
  usersUpdated : Nat := 0
  usersDeleted : Nat := 0
  rolesCreated : Nat := 0
  rolesDeleted : Nat := 0
  driftDetected : Nat := 0
  errors : Nat := 0
  deriving DecidableEq, Repr

/-- The controller's Prometheus metrics, without the two timestamps. -/
structure Metrics where
  reconciliationCount : Nat := 0
  driftCount : Nat := 0
  usersManaged : Nat := 0
  rolesManaged : Nat := 0
  errorCount : Nat := 0
  deriving DecidableEq, Repr

/-- `Metrics.record_reconciliation`. -/
def Metrics.recordReconciliation (m : Metrics) (stats : ReconciliationStats) : Metrics :=
  { m with
    reconciliationCount := m.reconciliationCount + 1
    driftCount := m.driftCount + stats.driftDetected
    errorCount := m.errorCount + stats.errors }

end PgUserController
