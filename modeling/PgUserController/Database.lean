-- SUMMARY: `DatabaseClient`: the pool's `getconn` and `putconn`, statements on the held connection with autocommit or a transaction, and each query and mutation method.
import PgUserController.Program

/-!
# The database client

Each method of `DatabaseClient` takes a connection from the pool, runs its
statements, and gives the connection back in a `finally`. Mutations that build
a user (`create_user`, `update_user_roles`, `drop_user`) run in a transaction and
commit at the end; `create_role` and `drop_role` first switch their connection to
autocommit. `putconn` hands a connection back to the pool as it is: it rolls back
an open transaction, but it does not reset the autocommit setting.

Every method starts by logging its call. In dry-run mode a mutation stops right
after, before it takes a connection.
-/

namespace PgUserController

variable {α : Type}

/-! ## Connections and statements -/

/-- `self.get_connection()`, through `getconn`: the idle connection returned last,
    or a new one, which may fail to connect. -/
def getConnection : PyM Unit := fun w =>
  match w.pool.idle with
  | c :: rest => ⟨.ok (), { w with conn := some c, txn := none, pool := { w.pool with idle := rest } }⟩
  | [] =>
    if w.faults w.tick then ⟨.error .psycopg2Error, { w with tick := w.tick + 1 }⟩
    else ⟨.ok (), { w with conn := some ⟨false⟩, txn := none, tick := w.tick + 1 }⟩

/-- `self.return_connection(conn)`, through `putconn`: an open transaction is
    rolled back, then the connection rejoins the pool while the pool holds fewer
    than `minconn`, and is closed otherwise. -/
def returnConnection : PyM Unit := PyM.modify fun w =>
  match w.conn with
  | none => w
  | some c =>
    { w with
      conn := none
      txn := none
      pool := if (w.pool.idle.length : Int) < w.pool.minconn then { w.pool with idle := c :: w.pool.idle }
        else w.pool }

/-- `conn = None`, then `try: body finally: if conn: self.return_connection(conn)`. -/
def withConnection (body : PyM α) : PyM α := do
  PyM.modify fun w => { w with conn := none, txn := none }
  PyM.tryFinally body returnConnection

/-- `conn.set_isolation_level(ISOLATION_LEVEL_AUTOCOMMIT)`. -/
def setAutocommit : PyM Unit :=
  PyM.modify fun w => { w with conn := w.conn.map fun c => { c with autocommit := true } }

/-- `cur.execute(s)` on the held connection, then `cur.fetchall()`. The statement
    is sent, and may fail on the way; otherwise the server runs it on the catalog
    the connection sees. In autocommit mode its change is committed at once;
    otherwise it joins the connection's transaction. -/
def execute (s : Stmt) : PyM (List Scalar) := fun w =>
  let sent := { w with log := w.log ++ [.sql s], tick := w.tick + 1 }
  if w.faults w.tick then ⟨.error .psycopg2Error, sent⟩ else
  match w.conn with
  | none => ⟨.error .attributeError, sent⟩
  | some c =>
    let base := if c.autocommit then w.db else w.txn.getD w.db
    match s.exec base, s.rows base with
    | .ok db', .ok rows =>
      ⟨.ok rows, if c.autocommit then { sent with db := db' } else { sent with txn := some db' }⟩
    | .error e, _ => ⟨.error e, sent⟩
    | .ok _, .error e => ⟨.error e, sent⟩

/-- `conn.commit()`: the transaction's catalog becomes the database's. -/
def commit : PyM Unit := fun w =>
  let sent := { w with log := w.log ++ [.commit], tick := w.tick + 1 }
  if w.faults w.tick then ⟨.error .psycopg2Error, sent⟩
  else ⟨.ok (), { sent with db := w.txn.getD w.db, txn := none }⟩

/-- `conn.rollback()`. -/
def rollback : PyM Unit := PyM.modify fun w => { w with txn := none }

/-- `sql.Identifier(v)` and `sql.SQL(v)`: both take only a string. -/
def sqlString : PyVal → PyM String
  | .scalar (.str s) => pure s
  | _ => PyM.raise .typeError

/-- `except psycopg2.Error as e: logger.error(...); cleanup; raise`. -/
def onDbError (cleanup : PyM Unit) (x : PyM α) : PyM α :=
  PyM.tryCatch x fun e =>
    if e = .psycopg2Error then do logError; cleanup; PyM.raise e else PyM.raise e

/-! ## Queries -/

/-- The queries of `DatabaseClient`: one `SELECT rolname ...`, its rows as a set. -/
def fetchRoleNames (call : Call) (s : Stmt) : PyM PySet := do
  record (.call call)
  withConnection <| onDbError (pure ()) do
    getConnection
    let rows ← execute s
    pure (PySet.ofList rows)

/-- `DatabaseClient.fetch_existing_users`: every role outside the denylist. -/
def fetchExistingUsers : PyM PySet := fetchRoleNames .fetchExistingUsers .selectUsers

/-- `DatabaseClient.fetch_existing_roles`: the roles without `LOGIN` outside the denylist. -/
def fetchExistingRoles : PyM PySet := fetchRoleNames .fetchExistingRoles .selectRoles

/-- `DatabaseClient.fetch_user_roles`: the roles `username` is directly a member of. -/
def fetchUserRoles (username : Scalar) : PyM PySet :=
  fetchRoleNames (.fetchUserRoles username) (.selectUserRoles username)

/-! ## Mutations -/

/-- The two role methods of `DatabaseClient`: one statement on one identifier, on a
    connection switched to autocommit. -/
def roleStatement (call : Call) (stmt : String → Stmt) (roleName : Scalar) (dryRun : Bool) :
    PyM Unit := do
  record (.call call)
  if dryRun then pure () else
  withConnection <| onDbError (pure ()) do
    getConnection
    setAutocommit
    discard <| execute (stmt (← sqlString (.scalar roleName)))

/-- `DatabaseClient.create_role`: `CREATE ROLE {} NOLOGIN;`. -/
def createRole (roleName : Scalar) (dryRun : Bool) : PyM Unit :=
  roleStatement (.createRole roleName) .createRole roleName dryRun

/-- `DatabaseClient.drop_role`: `DROP ROLE IF EXISTS {};`. -/
def dropRole (roleName : Scalar) (dryRun : Bool) : PyM Unit :=
  roleStatement (.dropRole roleName) .dropRoleIfExists roleName dryRun

/-- `DatabaseClient._grant_privileges`: `GRANT {} ON {} TO {};` for each privilege
    keyword of each object, the keyword spliced in by `sql.SQL`. -/
def grantPrivileges (userSpec : UserSpec) : PyM Unit :=
  if !userSpec.privileges.truthy then pure () else do
  let items ← PyM.lift userSpec.privileges.items
  PyM.forEach items fun item => do
    let privileges ← PyM.lift item.2.iter
    PyM.forEach privileges fun privilege => do
      discard <| execute (.grantPrivilege (← sqlString privilege) (← sqlString (.scalar item.1))
        (← sqlString userSpec.username))

/-- `DatabaseClient.create_user`. -/
def createUser (userSpec : UserSpec) (password : String) (dryRun : Bool) : PyM Unit := do
  record (.call (.createUser userSpec password))
  if dryRun then pure () else
  withConnection <| onDbError rollback do
    getConnection
    discard <| execute (.createUser (← sqlString userSpec.username) password)
    discard <| execute (.grantConnect (← sqlString userSpec.database) (← sqlString userSpec.username))
    let roles ← PyM.lift userSpec.roles.iter
    PyM.forEach roles fun role => do
      discard <| execute (.grantRole (← sqlString role) (← sqlString userSpec.username))
    if userSpec.privileges.truthy then grantPrivileges userSpec
    commit

/-- `DatabaseClient.update_user_roles`: revoke `old - new`, then grant `new - old`. -/
def updateUserRoles (username : Scalar) (oldRoles newRoles : PySet) (dryRun : Bool) : PyM Unit := do
  record (.call (.updateUserRoles username oldRoles newRoles))
  let toRevoke := oldRoles.diff newRoles
  let toGrant := newRoles.diff oldRoles
  if toRevoke.elems.isEmpty && toGrant.elems.isEmpty then pure () else
  if dryRun then pure () else
  withConnection <| onDbError rollback do
    getConnection
    PyM.forEach toRevoke.elems fun role => do
      discard <| execute (.revokeRole (← sqlString (.scalar role)) (← sqlString (.scalar username)))
    PyM.forEach toGrant.elems fun role => do
      discard <| execute (.grantRole (← sqlString (.scalar role)) (← sqlString (.scalar username)))
    commit

/-- `DatabaseClient.drop_user`: revoke database privileges, reassign and drop what
    the user owns, then drop the user. -/
def dropUser (cfg : Config) (username : Scalar) (dryRun : Bool) : PyM Unit := do
  record (.call (.dropUser username))
  if dryRun then pure () else
  withConnection <| onDbError rollback do
    getConnection
    discard <| execute (.revokeAllOnDatabase (← sqlString (.str cfg.dbName))
      (← sqlString (.scalar username)))
    discard <| execute (.reassignOwned (← sqlString (.scalar username))
      (← sqlString (.str cfg.dbUser)))
    discard <| execute (.dropOwned (← sqlString (.scalar username)))
    discard <| execute (.dropUserIfExists (← sqlString (.scalar username)))
    commit

end PgUserController
