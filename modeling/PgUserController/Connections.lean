-- SUMMARY: Connection hygiene over whole runs: every method of `DatabaseClient` returns its connection, whether it returns or raises, so a pass of the loop that starts with no connection held and no transaction open ends the same way, whatever fails in it.
import PgUserController.Totals

/-!
# Connections

Every method of `DatabaseClient` takes a connection inside `try: ... finally:
self.return_connection(conn)`, and `putconn` rolls back what the connection
left open. Between two calls, then, the controller holds no connection and has no
transaction open (`Detached`). Inside a method, a transaction is open only on
the connection it holds (`TxnOnConn`): every primitive of the connection keeps
that, and `withConnection` turns it into `Detached`, whatever the body did
(`withConnection_detached`). The steps that do not reach the database leave the
connection alone, by the offline `Leaves` lemmas. So every pass of the loop from
a detached world ends detached (`runCycles_detached`), and the hypothesis
`w.txn = none` of the single-cycle theorems holds at the start of every pass.
-/

namespace PgUserController

/-! ## The connection and its transaction -/

/-- No connection is held and no transaction is open. -/
def Detached : Option Conn × Option Catalog → Prop
  | (conn, txn) => conn = none ∧ txn = none

/-- A transaction is open only on a held connection. -/
def TxnOnConn : Option Conn × Option Catalog → Prop
  | (conn, txn) => conn = none → txn = none

/-- From `w` to `w'`, the connection and its transaction keep `J`. -/
def Keeping (J : Option Conn × Option Catalog → Prop) (w w' : World) : Prop :=
  J (w.conn, w.txn) → J (w'.conn, w'.txn)

theorem Keeping.stepRel (J : Option Conn × Option Catalog → Prop) : StepRel (Keeping J) :=
  ⟨fun _ h => h, fun h₁ h₂ h => h₂ (h₁ h)⟩

instance : OfOffline fun w : World => (w.conn, w.txn) :=
  ⟨congrArg fun o : Catalog × Pool × Option Conn × Option Catalog × ReconciliationStats × Metrics => (o.2.2.1, o.2.2.2.1)⟩

/-- An offline step keeps whatever held of the connection and its transaction. -/
theorem Keeping.of_leaves {α : Type} {J : Option Conn × Option Catalog → Prop} {x : PyM α}
    (h : Leaves (fun w => (w.conn, w.txn)) x) : Steps (Keeping J) x :=
  fun w hw => by
    rw [show ((x w).world.conn, (x w).world.txn) = (w.conn, w.txn) from h w]
    exact hw

/-! ## Inside a method -/

section Inside

variable {α β : Type}

theorem getConnection_txnOnConn : Steps (Keeping TxnOnConn) getConnection := fun w hw => by
  unfold getConnection
  split
  · exact fun _ => rfl
  · split
    exacts [hw, fun _ => rfl]

theorem execute_txnOnConn (s : Stmt) : Steps (Keeping TxnOnConn) (execute s) := fun w hw => by
  unfold execute
  dsimp only
  split
  · exact hw
  · split
    · exact hw
    · rename_i c hc
      split
      · split
        · exact hw
        · exact fun h => by simp [hc] at h
      all_goals exact hw

theorem commit_txnOnConn : Steps (Keeping TxnOnConn) commit := fun w hw => by
  unfold commit
  split
  exacts [hw, fun _ => rfl]

theorem rollback_txnOnConn : Steps (Keeping TxnOnConn) rollback := fun _ _ _ => rfl

theorem setAutocommit_txnOnConn : Steps (Keeping TxnOnConn) setAutocommit :=
  fun _ hw h => hw (Option.map_eq_none'.mp h)

theorem sqlString_steps {R : World → World → Prop} (hR : StepRel R) (v : PyVal) : Steps R (sqlString v) := by
  unfold sqlString
  split
  exacts [.pure hR _, .raise hR _]

/-- `except psycopg2.Error: logger.error(...); cleanup; raise`. -/
theorem onDbError_steps {R : World → World → Prop} (hR : StepRel R) {cleanup : PyM Unit} {x : PyM α}
    (hlog : Steps R logError) (hc : Steps R cleanup) (hx : Steps R x) : Steps R (onDbError cleanup x) :=
  hx.tryCatch hR fun e => by
    split
    · exact hlog.bind hR fun _ => hc.bind hR fun _ => .raise hR e
    · exact .raise hR e

/-- `conn = None; try: body finally: if conn: self.return_connection(conn)`: when
    the body keeps a transaction on its connection only, the method ends holding
    no connection and with no transaction open, whether the body returned or
    raised. -/
theorem withConnection_detached {body : PyM α} (hb : Steps (Keeping TxnOnConn) body) (w : World) :
    Detached ((withConnection body w).world.conn, (withConnection body w).world.txn) := by
  have h := hb { w with conn := none, txn := none } fun _ => rfl
  unfold withConnection
  rw [PyM.bind_ok (show PyM.modify (fun w => { w with conn := none, txn := none }) w =
    ⟨.ok (), { w with conn := none, txn := none }⟩ from rfl)]
  unfold PyM.tryFinally
  generalize body { w with conn := none, txn := none } = o at h ⊢
  obtain ⟨r, w'⟩ := o
  unfold returnConnection
  dsimp only [PyM.modify]
  split
  · exact ⟨‹w'.conn = none›, h ‹w'.conn = none›⟩
  · exact ⟨rfl, rfl⟩

end Inside

/-! ## The methods of `DatabaseClient` -/

section Methods

variable {α β : Type}

private theorem txnOnConn : StepRel (Keeping TxnOnConn) := Keeping.stepRel _

private theorem detached : StepRel (Keeping Detached) := Keeping.stepRel _

/-- A method: its call, then its body inside `withConnection`. -/
private theorem method_detached {body : PyM α} (hb : Steps (Keeping TxnOnConn) body) :
    Steps (Keeping Detached) (withConnection body) :=
  fun w _ => withConnection_detached hb w

/-- A statement on identifiers built by `sql.Identifier`. -/
private theorem statement_txnOnConn {v : PyVal} {k : String → PyM β} (hk : ∀ n, Steps (Keeping TxnOnConn) (k n)) :
    Steps (Keeping TxnOnConn) (sqlString v >>= k) :=
  (sqlString_steps txnOnConn v).bind txnOnConn hk

private theorem logError_keeping {J : Option Conn × Option Catalog → Prop} : Steps (Keeping J) logError :=
  .of_leaves logError_leaves

theorem fetchRoleNames_detached (call : Call) (s : Stmt) : Steps (Keeping Detached) (fetchRoleNames call s) :=
  (Keeping.of_leaves (record_leaves _)).bind detached fun _ => method_detached <|
    onDbError_steps txnOnConn logError_keeping (.pure txnOnConn ()) <|
      getConnection_txnOnConn.bind txnOnConn fun _ => (execute_txnOnConn s).bind txnOnConn fun _ => .pure txnOnConn _

/-- A mutation of `DatabaseClient` after its call. -/
private theorem mutation_detached {cleanup body : PyM Unit} (dryRun : Bool) (hc : Steps (Keeping TxnOnConn) cleanup)
    (hb : Steps (Keeping TxnOnConn) body) :
    Steps (Keeping Detached) (if dryRun then pure () else withConnection (onDbError cleanup body)) := by
  split
  exacts [.pure detached (), method_detached (onDbError_steps txnOnConn logError_keeping hc hb)]

theorem roleStatement_detached (call : Call) (stmt : String → Stmt) (roleName : Scalar) (dryRun : Bool) :
    Steps (Keeping Detached) (roleStatement call stmt roleName dryRun) :=
  (Keeping.of_leaves (record_leaves _)).bind detached fun _ => mutation_detached dryRun (.pure txnOnConn ()) <|
    getConnection_txnOnConn.bind txnOnConn fun _ => setAutocommit_txnOnConn.bind txnOnConn fun _ =>
      statement_txnOnConn fun _ => (execute_txnOnConn _).discard txnOnConn

theorem grantPrivileges_txnOnConn (userSpec : UserSpec) : Steps (Keeping TxnOnConn) (grantPrivileges userSpec) := by
  unfold grantPrivileges
  split
  · exact .pure txnOnConn ()
  · exact (Steps.lift txnOnConn _).bind txnOnConn fun _ => Steps.forEach txnOnConn (fun _ =>
      (Steps.lift txnOnConn _).bind txnOnConn fun _ => Steps.forEach txnOnConn (fun _ =>
        statement_txnOnConn fun _ => statement_txnOnConn fun _ => statement_txnOnConn fun _ =>
          (execute_txnOnConn _).discard txnOnConn) _) _

theorem createUser_detached (userSpec : UserSpec) (password : String) (dryRun : Bool) :
    Steps (Keeping Detached) (createUser userSpec password dryRun) := by
  refine (Keeping.of_leaves (record_leaves _)).bind detached fun _ => mutation_detached dryRun rollback_txnOnConn <|
    getConnection_txnOnConn.bind txnOnConn fun _ => statement_txnOnConn fun _ =>
    (execute_txnOnConn _).discard txnOnConn |>.bind txnOnConn fun _ => statement_txnOnConn fun _ =>
    statement_txnOnConn fun _ => (execute_txnOnConn _).discard txnOnConn |>.bind txnOnConn fun _ =>
    (Steps.lift txnOnConn _).bind txnOnConn fun _ => (Steps.forEach txnOnConn (fun _ =>
      statement_txnOnConn fun _ => statement_txnOnConn fun _ => (execute_txnOnConn _).discard txnOnConn) _).bind
      txnOnConn fun _ => ?_
  dsimp only
  split <;> refine Steps.bind txnOnConn ?_ fun _ => commit_txnOnConn
  exacts [grantPrivileges_txnOnConn userSpec, .pure txnOnConn ()]

theorem updateUserRoles_detached (username : Scalar) (oldRoles newRoles : PySet) (dryRun : Bool) :
    Steps (Keeping Detached) (updateUserRoles username oldRoles newRoles dryRun) := by
  refine (Keeping.of_leaves (record_leaves _)).bind detached fun _ => ?_
  dsimp only
  split
  · exact .pure detached ()
  exact mutation_detached dryRun rollback_txnOnConn <| getConnection_txnOnConn.bind txnOnConn fun _ =>
    (Steps.forEach txnOnConn (fun _ => statement_txnOnConn fun _ => statement_txnOnConn fun _ =>
      (execute_txnOnConn _).discard txnOnConn) _).bind txnOnConn fun _ =>
    (Steps.forEach txnOnConn (fun _ => statement_txnOnConn fun _ => statement_txnOnConn fun _ =>
      (execute_txnOnConn _).discard txnOnConn) _).bind txnOnConn fun _ => commit_txnOnConn

theorem dropUser_detached (cfg : Config) (username : Scalar) (dryRun : Bool) :
    Steps (Keeping Detached) (dropUser cfg username dryRun) :=
  (Keeping.of_leaves (record_leaves _)).bind detached fun _ => mutation_detached dryRun rollback_txnOnConn <|
    getConnection_txnOnConn.bind txnOnConn fun _ => statement_txnOnConn fun _ => statement_txnOnConn fun _ =>
    (execute_txnOnConn _).discard txnOnConn |>.bind txnOnConn fun _ => statement_txnOnConn fun _ =>
    statement_txnOnConn fun _ => (execute_txnOnConn _).discard txnOnConn |>.bind txnOnConn fun _ =>
    statement_txnOnConn fun _ => (execute_txnOnConn _).discard txnOnConn |>.bind txnOnConn fun _ =>
    statement_txnOnConn fun _ => (execute_txnOnConn _).discard txnOnConn |>.bind txnOnConn fun _ =>
    commit_txnOnConn

end Methods

/-! ## A pass of the loop, and a run -/

section Loops

variable {cfg : Config} {D P : PyDict UserSpec} {dryRun : Bool}

/-- A count of the loops. -/
private theorem count_detached {g : ReconciliationStats → ReconciliationStats} :
    Steps (Keeping Detached) (modifyStats g) :=
  .of_leaves fun _ => rfl

/-- Recording a metric. -/
private theorem metric_detached {g : World → Metrics} :
    Steps (Keeping Detached) (PyM.modify fun w => { w with metrics := g w }) :=
  .of_leaves fun _ => rfl

/-- `logger.error(...); stats.errors += 1`. -/
private theorem loggedError_detached : Steps (Keeping Detached) (logError >>= fun _ => countError) :=
  logError_keeping.bind detached fun _ => count_detached

private theorem isolate_detached {x : PyM Unit} (hx : Steps (Keeping Detached) x) :
    Steps (Keeping Detached) (isolate x) :=
  hx.tryCatch detached fun _ => loggedError_detached

theorem fetchLiveUsers_detached : Steps (Keeping Detached) fetchLiveUsers :=
  ((fetchRoleNames_detached _ _).map detached _).tryCatch detached fun _ =>
    loggedError_detached.bind detached fun _ => .pure detached _

theorem reconcileRoles_detached : Steps (Keeping Detached) (reconcileRoles D dryRun) :=
  (Steps.lift detached _).bind detached fun _ => (fetchRoleNames_detached _ _).bind detached fun _ =>
    Steps.forEach detached (fun _ => by
      unfold createRoleItem
      exact isolate_detached <| (roleStatement_detached _ _ _ _).bind detached fun _ => count_detached) _

theorem deleteUsers_detached (xs : PySet) : Steps (Keeping Detached) (deleteUsers cfg P xs dryRun) :=
  Steps.forEach detached (fun u => by
    unfold deleteUserItem
    split
    · exact isolate_detached <| (dropUser_detached _ _ _).bind detached fun _ => count_detached
    · exact .pure detached ()) _

theorem createUsers_detached (xs : PySet) : Steps (Keeping Detached) (createUsers cfg D xs dryRun) :=
  Steps.forEach detached (fun u => by
    unfold createUserItem
    split
    · exact .raise detached _
    refine isolate_detached <| (Keeping.of_leaves (getUserPassword_leaves _ _)).bind detached fun _ => ?_
    split
    · split
      · exact loggedError_detached
      · exact (createUser_detached _ _ _).bind detached fun _ => count_detached
    · exact loggedError_detached) _

theorem updateUsers_detached (xs : PySet) : Steps (Keeping Detached) (updateUsers D P xs dryRun) :=
  Steps.forEach detached (fun u => by
    unfold updateUserItem
    split
    · exact .raise detached _
    split
    · exact .pure detached ()
    refine (Steps.lift detached _).bind detached fun _ => (Steps.lift detached _).bind detached fun _ => ?_
    split
    · exact .pure detached ()
    refine isolate_detached <| (fetchRoleNames_detached _ _).bind detached fun _ =>
      (Steps.lift detached _).bind detached fun _ => ?_
    split
    · exact .pure detached ()
    · exact (updateUserRoles_detached _ _ _ _).bind detached fun _ => count_detached) _

theorem applyDrift_detached (live : PySet) : Steps (Keeping Detached) (applyDrift cfg D P live dryRun) := by
  unfold applyDrift
  dsimp only [detectDrift]
  have hrest : Steps (Keeping Detached) (do
      deleteUsers cfg P (live.diff D.keys) dryRun
      createUsers cfg D (D.keys.diff live) dryRun
      updateUsers D P (D.keys.inter live) dryRun
      if !dryRun then saveState D
      PyM.modify fun w => { w with metrics := { w.metrics with usersManaged := D.card } }
      let roles ← fetchExistingRoles
      PyM.modify fun w => { w with metrics := { w.metrics with rolesManaged := roles.card } } : PyM Unit) := by
    refine (deleteUsers_detached _).bind detached fun _ => (createUsers_detached _).bind detached fun _ =>
      (updateUsers_detached _).bind detached fun _ => ?_
    split <;> refine Steps.bind detached ?_ fun _ => metric_detached.bind detached fun _ =>
      (fetchRoleNames_detached _ _).bind detached fun _ => metric_detached
    exacts [.of_leaves (saveState_leaves D), .pure detached ()]
  split
  · exact Steps.bind detached count_detached fun _ => hrest
  · exact hrest

theorem reconcileUsers_detached : Steps (Keeping Detached) (reconcileUsers cfg dryRun) :=
  (Keeping.of_leaves (fetchConfigmap_leaves cfg)).bind detached fun _ => by
    split
    · exact loggedError_detached
    refine (Keeping.of_leaves (parseDesiredUsers_leaves cfg _)).bind detached fun _ =>
      (Keeping.of_leaves loadState_leaves).bind detached fun _ => fetchLiveUsers_detached.bind detached fun _ => ?_
    split
    exacts [.pure detached (), reconcileRoles_detached.bind detached fun _ => applyDrift_detached _]

theorem reconciliationCycle_detached : Steps (Keeping Detached) (reconciliationCycle cfg) := by
  unfold reconciliationCycle
  exact (Keeping.of_leaves fun _ => rfl).bind detached fun _ =>
    (reconcileUsers_detached.tryCatch detached fun _ => loggedError_detached).bind detached fun _ =>
      .of_leaves fun _ => rfl

end Loops

/-- Over any run of the loop from a world that holds no connection and has no
    transaction open, with any failures, the controller ends holding no
    connection and with no transaction open. -/
theorem runCycles_detached (cfg : Config) (n : Nat) {w : World} (hc : w.conn = none) (ht : w.txn = none) :
    (runCycles cfg n w).world.conn = none ∧ (runCycles cfg n w).world.txn = none :=
  Steps.runCycles (Keeping.stepRel _) reconciliationCycle_detached n w ⟨hc, ht⟩

/-- Three passes over `groupRoleWorld`, where every third read fails. -/
theorem flakyGroupRoleWorld_detached :
    (runCycles Config.default 3 { groupRoleWorld with faults := fun t => t % 3 == 0 }).world.conn = none ∧
      (runCycles Config.default 3 { groupRoleWorld with faults := fun t => t % 3 == 0 }).world.txn = none :=
  runCycles_detached Config.default 3 rfl rfl

end PgUserController
