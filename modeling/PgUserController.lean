import PgUserController.Python
import PgUserController.Config
import PgUserController.Sql
import PgUserController.Catalog
import PgUserController.World
import PgUserController.Program
import PgUserController.Runs
import PgUserController.Hoare
import PgUserController.Database
import PgUserController.Kubernetes
import PgUserController.Documents
import PgUserController.StateFile
import PgUserController.Reconciler
import PgUserController.Effects
import PgUserController.Sessions
import PgUserController.Cycle
import PgUserController.Counters
import PgUserController.Safety
import PgUserController.DryRun
import PgUserController.Failures
import PgUserController.Convergence
import PgUserController.Idempotence
import PgUserController.Agreement
import PgUserController.Ownership
import PgUserController.Retries
import PgUserController.Stability
import PgUserController.Totals
import PgUserController.Quiescence
import PgUserController.Connections
