-- SUMMARY: The world the controller runs in: the catalog, the connection pool, the Kubernetes objects, the state file, a fault oracle, and a log of the gateway calls and statements it issues.
import PgUserController.Catalog

/-!
# The world

Everything the controller reads or changes, and a log of what it did.

The documents it reads are kept at the level the code observes them:
`YamlText` is what `yaml.safe_load` makes of the `users.yaml` text, `JsonText`
what `json.load` makes of the state file, `PasswordEntry` what decoding a
secret's `password` field gives. The YAML, JSON and base64 codecs themselves are
library code and are not modelled.

`faults` is an oracle: each point where the environment can fail (an API read, a
new database connection, a statement, a commit, a file operation) consults it at
the current `tick`. Quantifying over `faults` quantifies over every pattern of
failures. `log` is ghost state: it records, in order, each gateway call as it
starts, each statement and each commit as it is sent, and each error the code
logs.
-/

namespace PgUserController

/-- What `yaml.safe_load` makes of a `users.yaml` text. -/
inductive YamlText where
  /-- The empty text, which `parse_desired_users` does not load. -/
  | empty
  /-- A text on which `yaml.safe_load` raises `YAMLError`. -/
  | malformed
  /-- A non-empty text that loads as this document. -/
  | document (v : PyVal)
  deriving DecidableEq

/-- What `json.load` makes of the state file's text. -/
inductive JsonText where
  /-- A text on which `json.load` raises `JSONDecodeError`. -/
  | malformed
  /-- Bytes that are not UTF-8: reading them raises `UnicodeDecodeError`, a
      `ValueError` but not a `JSONDecodeError`. -/
  | undecodable
  /-- A text that loads as this value. -/
  | value (v : PyVal)
  deriving DecidableEq

/-- A secret's `password` entry, as `get_user_password` reads it. -/
inductive PasswordEntry where
  /-- A secret with no `data`: `secret.data.get` raises `AttributeError`. -/
  | noData
  /-- No `password` field, or an empty one. -/
  | absent
  /-- `base64.b64decode(...).decode()` gives this text. -/
  | decoded (pw : String)
  /-- That decoding raises. -/
  | undecodable
  deriving DecidableEq

/-- A ConfigMap's `data`, absent when the object has none. -/
structure ConfigMap where
  data : Option (List (String × YamlText))

/-- The Kubernetes objects the controller reads, by namespace and name. -/
structure Cluster where
  configMaps : String → String → Option ConfigMap
  secrets : String → String → Option PasswordEntry

/-- A database connection, with the one setting the code changes on it. -/
structure Conn where
  autocommit : Bool
  deriving DecidableEq

/-- `psycopg2.pool.SimpleConnectionPool`: its idle connections, the one returned
    last first, and `minconn`. -/
structure Pool where
  idle : List Conn
  minconn : Int
  deriving DecidableEq

/-- A call of a gateway method, with its arguments. -/
inductive Call where
  | fetchConfigmap
  | getUserPassword (username : Scalar)
  | fetchExistingUsers
  | fetchExistingRoles
  | fetchUserRoles (username : Scalar)
  | createRole (roleName : Scalar)
  | dropRole (roleName : Scalar)
  | createUser (userSpec : UserSpec) (password : String)
  | updateUserRoles (username : Scalar) (oldRoles newRoles : PySet)
  | dropUser (username : Scalar)
  | loadState
  | saveState (users : PyDict UserSpec)
  deriving DecidableEq

/-- An entry of the log. -/
inductive Event where
  | call (c : Call)
  | sql (s : Stmt)
  /-- `conn.commit()`. -/
  | commit
  | logError
  deriving DecidableEq

/-- Whether an event may change the catalog: a statement other than a `SELECT`,
    or a commit. -/
def Event.writesDb : Event → Bool
  | .sql s => !s.isRead
  | .commit => true
  | _ => false

/-- Whether a call is a call of `save_state`. -/
def Call.isSave : Call → Bool
  | .saveState _ => true
  | _ => false

/-- Whether an event may change the state file: a call of `save_state`. -/
def Event.writesState : Event → Bool
  | .call c => c.isSave
  | _ => false

/-- Everything the controller reads or changes. -/
structure World where
  db : Catalog
  pool : Pool
  /-- The connection the running `DatabaseClient` method holds. -/
  conn : Option Conn := none
  /-- The catalog as that connection's open transaction sees it, `none` outside one. -/
  txn : Option Catalog := none
  cluster : Cluster
  /-- The state file's text, `none` when the file does not exist. -/
  stateFile : Option JsonText
  faults : Nat → Bool
  tick : Nat := 0
  stats : ReconciliationStats := {}
  metrics : Metrics := {}
  log : List Event := []

/-- The committed catalog and the one the held connection works on both satisfy `V`. -/
def World.Sees (V : Catalog → Prop) (w : World) : Prop := V w.db ∧ V (w.txn.getD w.db)

/-- `w'` differs from `w` in nothing a run accounts for: the log, the catalog, the
    state file, the cluster and the fault oracle are as they were, and the open
    transaction is as it was or gone. -/
structure World.Frame (w w' : World) : Prop where
  log : w'.log = w.log
  db : w'.db = w.db
  stateFile : w'.stateFile = w.stateFile
  txn : w'.txn = w.txn ∨ w'.txn = none
  cluster : w'.cluster = w.cluster
  faults : w'.faults = w.faults

end PgUserController
