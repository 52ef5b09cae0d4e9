-- SUMMARY: What each gateway method can append to the log (its call, the statements it may send, its commits, the errors it logs) and that it changes the catalog and the state file only through them.
import PgUserController.Database
import PgUserController.Kubernetes
import PgUserController.Documents
import PgUserController.Hoare

/-!
# What the gateway methods do

One lemma per method of `DatabaseClient`, `KubernetesClient` and
`StateManager`: every run of it, from any world and with any failures, appends
only the events its predicate allows. A mutation in dry-run mode appends its
call and nothing else. The statements a mutation may send are fixed by its
arguments alone, so a property of the statements of a whole cycle follows from
these lemmas and from the arguments the cycle passes.
-/

namespace PgUserController

/-! ## The events of each kind of method -/

/-- The events of a query of `DatabaseClient`: its call, its `SELECT`, and the
    error it logs. -/
def QueryEvent (c : Call) (s : Stmt) (e : Event) : Prop :=
  e = .call c ∨ e = .sql s ∨ e = .logError

/-- The events of a mutation of `DatabaseClient`: its call, and outside dry-run
    mode the statements `stmts` allows, commits, and the error it logs. -/
def MutationEvent (c : Call) (stmts : Stmt → Prop) (dryRun : Bool) (e : Event) : Prop :=
  e = .call c ∨ dryRun = false ∧ (e = .logError ∨ e = .commit ∨ ∃ s, stmts s ∧ e = .sql s)

/-- What a mutation of `DatabaseClient` sends after its call, outside dry-run
    mode: the statements `stmts` allows, commits, and the error it logs. -/
def StmtEvent (stmts : Stmt → Prop) (e : Event) : Prop :=
  e = .logError ∨ e = .commit ∨ ∃ s, stmts s ∧ e = .sql s

/-- The events of a Kubernetes read and of a state-file method: its call and the
    errors it logs. -/
def CallEvent (c : Call) (e : Event) : Prop := e = .call c ∨ e = .logError

section Inversion

variable {c c' : Call} {s s' : Stmt} {stmts : Stmt → Prop} {dryRun : Bool}

@[simp] theorem queryEvent_call : QueryEvent c s (.call c') ↔ c' = c := by simp [QueryEvent]
@[simp] theorem queryEvent_sql : QueryEvent c s (.sql s') ↔ s' = s := by simp [QueryEvent]
@[simp] theorem queryEvent_commit : QueryEvent c s .commit ↔ False := by simp [QueryEvent]
@[simp] theorem queryEvent_logError : QueryEvent c s .logError := by simp [QueryEvent]

@[simp] theorem mutationEvent_call : MutationEvent c stmts dryRun (.call c') ↔ c' = c := by
  simp [MutationEvent]
@[simp] theorem mutationEvent_sql : MutationEvent c stmts dryRun (.sql s) ↔ dryRun = false ∧ stmts s := by
  simp [MutationEvent]
@[simp] theorem mutationEvent_commit : MutationEvent c stmts dryRun .commit ↔ dryRun = false := by
  simp [MutationEvent]
@[simp] theorem mutationEvent_logError : MutationEvent c stmts dryRun .logError ↔ dryRun = false := by
  simp [MutationEvent]

@[simp] theorem callEvent_call : CallEvent c (.call c') ↔ c' = c := by simp [CallEvent]
@[simp] theorem callEvent_sql : CallEvent c (.sql s) ↔ False := by simp [CallEvent]
@[simp] theorem callEvent_commit : CallEvent c .commit ↔ False := by simp [CallEvent]
@[simp] theorem callEvent_logError : CallEvent c .logError := by simp [CallEvent]

end Inversion

/-- The statement of a role method: `stmt` on the role's name. -/
def roleStmts (stmt : String → Stmt) (roleName : Scalar) (s : Stmt) : Prop :=
  ∃ n, roleName = .str n ∧ s = stmt n

/-- The `GRANT {} ON {} TO {}` statements of `_grant_privileges`: a keyword listed
    under an object of `privileges`, granted to `username`. -/
def privilegeStmts (userSpec : UserSpec) (username : String) (s : Stmt) : Prop :=
  ∃ items, userSpec.privileges.items = .ok items ∧ ∃ o v, (Scalar.str o, v) ∈ items ∧
    ∃ privileges, v.iter = .ok privileges ∧ ∃ p, PyVal.str p ∈ privileges ∧ s = .grantPrivilege p o username

/-- Every `GRANT {} ON {} TO {}` that `_grant_privileges` composes for a desired
    user has one of `tablePrivileges` as its keyword: the keywords on which
    `Stmt.exec` is the server's `GRANT`. Any other text the server reads as
    whatever SQL it spells. -/
def PlainPrivileges (D : PyDict UserSpec) : Prop :=
  ∀ userSpec ∈ D.values, ∀ n p o u, privilegeStmts userSpec n (.grantPrivilege p o u) → p ∈ tablePrivileges

/-- Users without privileges compose no `GRANT {} ON {} TO {}`. -/
theorem PlainPrivileges.of_none {D : PyDict UserSpec} (h : ∀ userSpec ∈ D.values, userSpec.privileges = .scalar .none) :
    PlainPrivileges D := fun userSpec hs _ _ _ _ ⟨_, hi, _⟩ => by
  rw [h userSpec hs] at hi
  cases hi

/-- The statements of `create_user(user_spec, password)`. -/
def createUserStmts (userSpec : UserSpec) (password : String) (s : Stmt) : Prop :=
  ∃ n, userSpec.username = .str n ∧
    (s = .createUser n password ∨ (∃ d, userSpec.database = .str d ∧ s = .grantConnect d n) ∨
      (∃ roles, userSpec.roles.iter = .ok roles ∧ ∃ r, PyVal.str r ∈ roles ∧ s = .grantRole r n) ∨
      privilegeStmts userSpec n s)

/-- The statements of `update_user_roles(username, old_roles, new_roles)`. -/
def updateUserRolesStmts (username : Scalar) (oldRoles newRoles : PySet) (s : Stmt) : Prop :=
  ∃ n r, username = .str n ∧
    (s = .revokeRole r n ∧ .str r ∈ oldRoles.diff newRoles ∨ s = .grantRole r n ∧ .str r ∈ newRoles.diff oldRoles)

/-- The statements of `drop_user(username)`. -/
def dropUserStmts (cfg : Config) (username : Scalar) (s : Stmt) : Prop :=
  ∃ n, username = .str n ∧
    (s = .revokeAllOnDatabase cfg.dbName n ∨ s = .reassignOwned n cfg.dbUser ∨ s = .dropOwned n ∨
      s = .dropUserIfExists n)

/-! ## Connections and statements -/

variable {α β : Type} {P : Event → Prop}

/-- `cur.execute(s)` logs `s` and changes the catalog only when `s` writes. -/
theorem execute_world (s : Stmt) (w : World) : ∃ db txn,
    (execute s w).world = { w with log := w.log ++ [.sql s], tick := w.tick + 1, db := db, txn := txn } ∧
    (db = w.db ∨ s.isRead = false) := by
  unfold execute
  dsimp only
  split
  · exact ⟨_, _, rfl, .inl rfl⟩
  cases w.conn with
  | none => exact ⟨_, _, rfl, .inl rfl⟩
  | some c =>
    dsimp only
    cases hr : s.isRead
    · cases s.exec _ <;> cases s.rows _ <;> cases c.autocommit <;> exact ⟨_, _, rfl, .inr rfl⟩
    · rw [Stmt.exec_of_isRead hr]
      cases s.rows _ <;> cases c.autocommit <;> exact ⟨_, _, rfl, .inl rfl⟩

/-- A statement keeps on the catalogs what it keeps on one catalog: in autocommit
    mode it changes the committed catalog, otherwise the transaction's. -/
theorem execute_sees (s : Stmt) (w : World) {V : Catalog → Prop} (hs : s.Preserves V) (hw : w.Sees V) :
    (execute s w).world.Sees V := by
  obtain ⟨hd, ht⟩ := hw
  unfold execute
  dsimp only
  split
  · exact ⟨hd, ht⟩
  cases w.conn with
  | none => exact ⟨hd, ht⟩
  | some c =>
    dsimp only
    have hbase : V (if c.autocommit then w.db else w.txn.getD w.db) := by split <;> assumption
    generalize (if c.autocommit then w.db else w.txn.getD w.db) = base at hbase ⊢
    cases hx : s.exec base with
    | error e => exact ⟨hd, ht⟩
    | ok db' =>
      cases s.rows base with
      | error e => exact ⟨hd, ht⟩
      | ok rows =>
        have hv := hs _ _ hx hbase
        cases c.autocommit
        · exact ⟨hd, hv⟩
        · refine ⟨hv, ?_⟩
          rcases ht' : w.txn with _ | t <;> simp only [ht', Option.getD_none, Option.getD_some] at ht ⊢
          exacts [hv, ht]

theorem execute_keeps (s : Stmt) : Keeps (· = .sql s) (execute s) := fun w => by
  obtain ⟨db, txn, hw, hdb⟩ := execute_world s w
  have hv : ∀ V, (∀ s', Event.sql s = .sql s' → s'.Preserves V) → w.Sees V → (execute s w).world.Sees V :=
    fun V hV => execute_sees s w (hV s rfl)
  rw [hw] at hv ⊢
  exact .single rfl rfl (hdb.imp_right fun h => by simp [Event.writesDb, h]) (.inl rfl) hv rfl rfl

theorem commit_keeps : Keeps (· = .commit) commit := fun w => by
  unfold commit
  split
  · exact .single rfl rfl (.inr rfl) (.inl rfl) (fun _ _ h => h) rfl rfl
  · exact .single rfl rfl (.inr rfl) (.inl rfl) (fun _ _ h => ⟨h.2, h.2⟩) rfl rfl

/-- `cur.execute(s)` logs `s`, whether it succeeds or not. -/
theorem execute_log (s : Stmt) (w : World) : (execute s w).world.log = w.log ++ [.sql s] := by
  obtain ⟨_, _, hw, -⟩ := execute_world s w
  rw [hw]

/-- `conn.commit()` logs the commit, whether it succeeds or not. -/
theorem commit_log (w : World) : (commit w).world.log = w.log ++ [.commit] := by
  unfold commit
  split <;> rfl

theorem getConnection_keeps : Keeps P getConnection := .of_frame fun w => by
  unfold getConnection
  split
  · exact ⟨rfl, rfl, rfl, .inr rfl, rfl, rfl⟩
  · split
    · exact ⟨rfl, rfl, rfl, .inl rfl, rfl, rfl⟩
    · exact ⟨rfl, rfl, rfl, .inr rfl, rfl, rfl⟩

theorem returnConnection_keeps : Keeps P returnConnection := .of_frame fun w => by
  unfold returnConnection PyM.modify
  dsimp only
  split
  · exact ⟨rfl, rfl, rfl, .inl rfl, rfl, rfl⟩
  · exact ⟨rfl, rfl, rfl, .inr rfl, rfl, rfl⟩

theorem setAutocommit_keeps : Keeps P setAutocommit := .of_frame fun _ => ⟨rfl, rfl, rfl, .inl rfl, rfl, rfl⟩

theorem rollback_keeps : Keeps P rollback := .of_frame fun _ => ⟨rfl, rfl, rfl, .inr rfl, rfl, rfl⟩

theorem Keeps.discard {x : PyM α} (h : Keeps P x) : Keeps P (discard x) :=
  h.bind fun _ => .pure _

theorem Keeps.map {x : PyM α} (f : α → β) (h : Keeps P x) : Keeps P (f <$> x) :=
  h.bind fun _ => .pure _

/-- An identifier is built only from a string. -/
theorem Keeps.sqlString_bind {v : PyVal} {f : String → PyM β} (hf : ∀ n, v = .str n → Keeps P (f n)) :
    Keeps P (sqlString v >>= f) := fun w => by
  rcases v with ⟨_ | _ | _ | n | _⟩ | _ | _
  case scalar.str => exact hf n rfl w
  all_goals exact .refl w

theorem withConnection_keeps {body : PyM α} (hb : Keeps P body) : Keeps P (withConnection body) :=
  (Keeps.of_frame fun _ => ⟨rfl, rfl, rfl, .inr rfl, rfl, rfl⟩).bind fun _ => hb.tryFinally returnConnection_keeps

theorem onDbError_keeps {cleanup : PyM Unit} {x : PyM α} (hc : Keeps P cleanup) (hx : Keeps P x)
    (hl : P .logError) : Keeps P (onDbError cleanup x) :=
  hx.tryCatch fun e => by
    split
    · exact (Keeps.logError hl).bind fun _ => hc.bind fun _ => .raise e
    · exact .raise e

/-- `fetchall()` gives the rows the statement reads on some catalog. -/
theorem execute_returns (s : Stmt) : Returns (fun rows => ∃ db, s.rows db = .ok rows) (execute s) :=
  fun w _ rows h => by
    unfold execute at h
    dsimp only at h
    split at h
    · cases h
    split at h
    · cases h
    split at h
    · cases h; exact ⟨_, ‹_›⟩
    all_goals cases h

theorem onDbError_returns {Q : α → Prop} {cleanup : PyM Unit} {x : PyM α} (hx : Returns Q x) :
    Returns Q (onDbError cleanup x) :=
  hx.tryCatch fun e => by
    split
    · exact (Returns.true _).bind fun _ _ => (Returns.true _).bind fun _ _ => .raise e
    · exact .raise e

theorem withConnection_returns {Q : α → Prop} {body : PyM α} (hb : Returns Q body) :
    Returns Q (withConnection body) :=
  (Returns.true _).bind fun _ _ => hb.tryFinally

/-! ## DatabaseClient -/

/-- A query returns the set of the rows its `SELECT` reads on some catalog. -/
theorem fetchRoleNames_returns (c : Call) (s : Stmt) :
    Returns (fun roles => ∃ db rows, s.rows db = .ok rows ∧ roles = PySet.ofList rows) (fetchRoleNames c s) :=
  (Returns.true _).bind fun _ _ => withConnection_returns <| onDbError_returns <|
    (Returns.true _).bind fun _ _ => (execute_returns s).bind fun rows ⟨db, h⟩ => .pure ⟨db, rows, h, rfl⟩

theorem fetchRoleNames_keeps (c : Call) (s : Stmt) : Keeps (QueryEvent c s) (fetchRoleNames c s) :=
  (Keeps.record (.inl rfl)).bind fun _ => withConnection_keeps <| onDbError_keeps (.pure ())
    (getConnection_keeps.bind fun _ => ((execute_keeps s).mono fun _ h => .inr (.inl h)).bind
      fun _ => .pure _) (.inr (.inr rfl))

section Mutations

variable {c : Call} {stmts : Stmt → Prop}

private theorem mutation_sql {s : Stmt} (h : stmts s) : StmtEvent stmts (.sql s) := .inr (.inr ⟨s, h, rfl⟩)

private theorem mutation_commit : Keeps (StmtEvent stmts) commit := commit_keeps.mono fun _ h => .inr (.inl h)

private theorem mutation_execute {s : Stmt} (h : stmts s) : Keeps (StmtEvent stmts) (discard (execute s)) :=
  ((execute_keeps s).mono fun _ he => he ▸ mutation_sql h).discard

/-- A mutation of `DatabaseClient` after its call: nothing in dry-run mode, and
    otherwise `body` on a connection, with `cleanup` when a statement fails. -/
private theorem mutation_keeps {cleanup body : PyM Unit} (dryRun : Bool)
    (hc : Keeps (StmtEvent stmts) cleanup) (hb : Keeps (StmtEvent stmts) body) :
    Keeps (fun e => dryRun = false ∧ StmtEvent stmts e)
      (if dryRun then pure () else withConnection (onDbError cleanup body)) := by
  cases dryRun with
  | true => exact .pure ()
  | false => exact (withConnection_keeps (onDbError_keeps hc hb (.inl rfl))).mono fun _ h => ⟨rfl, h⟩

/-- A mutation logs its call, then only what it sends outside dry-run mode. -/
private theorem mutation_run {dryRun : Bool} {f : Unit → PyM Unit}
    (hf : ∀ a, Keeps (fun e => dryRun = false ∧ StmtEvent stmts e) (f a)) :
    Keeps (MutationEvent c stmts dryRun) (record (.call c) >>= f) ∧
      StartsThen (.call c) (fun e => dryRun = false ∧ StmtEvent stmts e) (record (.call c) >>= f) :=
  ⟨(Keeps.record (.inl rfl)).bind fun a => (hf a).mono fun _ => .inr, StartsThen.record_bind hf⟩

theorem roleStatement_run (call : Call) (stmt : String → Stmt) (roleName : Scalar) (dryRun : Bool) :
    Keeps (MutationEvent call (roleStmts stmt roleName) dryRun) (roleStatement call stmt roleName dryRun) ∧
      StartsThen (.call call) (fun e => dryRun = false ∧ StmtEvent (roleStmts stmt roleName) e)
        (roleStatement call stmt roleName dryRun) :=
  mutation_run fun _ => mutation_keeps dryRun (.pure ()) <|
    getConnection_keeps.bind fun _ => setAutocommit_keeps.bind fun _ =>
    Keeps.sqlString_bind fun n hn => mutation_execute ⟨n, by cases hn; rfl, rfl⟩

theorem roleStatement_keeps (call : Call) (stmt : String → Stmt) (roleName : Scalar) (dryRun : Bool) :
    Keeps (MutationEvent call (roleStmts stmt roleName) dryRun) (roleStatement call stmt roleName dryRun) :=
  (roleStatement_run call stmt roleName dryRun).1

theorem createRole_keeps (roleName : Scalar) (dryRun : Bool) :
    Keeps (MutationEvent (.createRole roleName) (roleStmts .createRole roleName) dryRun)
      (createRole roleName dryRun) :=
  roleStatement_keeps _ _ _ _

/-- `create_role` logs its call before anything else. -/
theorem createRole_starts (roleName : Scalar) (dryRun : Bool) :
    Starts (.call (.createRole roleName)) (createRole roleName dryRun) :=
  (roleStatement_run _ _ _ _).2.starts

theorem dropRole_keeps (roleName : Scalar) (dryRun : Bool) :
    Keeps (MutationEvent (.dropRole roleName) (roleStmts .dropRoleIfExists roleName) dryRun)
      (dropRole roleName dryRun) :=
  roleStatement_keeps _ _ _ _

private theorem grantPrivileges_stmts (userSpec : UserSpec) (n : String) (hn : userSpec.username = .str n)
    (hs : ∀ s, privilegeStmts userSpec n s → stmts s) : Keeps (StmtEvent stmts) (grantPrivileges userSpec) := by
  unfold grantPrivileges
  split
  · exact .pure ()
  refine Keeps.lift_bind fun items hitems => Keeps.forEach fun item hitem =>
    Keeps.lift_bind fun privileges hps => Keeps.forEach fun p hp =>
    Keeps.sqlString_bind fun pn hpn => Keeps.sqlString_bind fun o ho => Keeps.sqlString_bind fun u hu => ?_
  obtain ⟨k, v⟩ := item
  cases ho
  rw [hn, PyVal.str, PyVal.scalar.injEq, Scalar.str.injEq] at hu
  subst hu hpn
  exact mutation_execute (hs _ ⟨items, hitems, o, v, hitem, privileges, hps, pn, hp, rfl⟩)

theorem grantPrivileges_keeps (userSpec : UserSpec) (n : String) (hn : userSpec.username = .str n)
    (hs : ∀ s, privilegeStmts userSpec n s → stmts s) :
    Keeps (MutationEvent c stmts false) (grantPrivileges userSpec) :=
  (grantPrivileges_stmts userSpec n hn hs).mono fun _ h => .inr ⟨rfl, h⟩

theorem createUser_run (userSpec : UserSpec) (password : String) (dryRun : Bool) :
    Keeps (MutationEvent (.createUser userSpec password) (createUserStmts userSpec password) dryRun)
      (createUser userSpec password dryRun) ∧
      StartsThen (.call (.createUser userSpec password))
        (fun e => dryRun = false ∧ StmtEvent (createUserStmts userSpec password) e) (createUser userSpec password dryRun) := by
  refine mutation_run fun _ => mutation_keeps dryRun rollback_keeps <|
    getConnection_keeps.bind fun _ =>
    Keeps.sqlString_bind fun n hn => (mutation_execute ⟨n, hn, .inl rfl⟩).bind fun _ =>
    Keeps.sqlString_bind fun d hd => Keeps.sqlString_bind fun n' hn' => ?_
  rw [hn] at hn'
  cases hn'
  refine (mutation_execute ⟨n, hn, .inr (.inl ⟨d, hd, rfl⟩)⟩).bind fun _ =>
    Keeps.lift_bind fun roles hroles => (Keeps.forEach fun r hr => ?_).bind fun _ => ?_
  · refine Keeps.sqlString_bind fun rn hrn => Keeps.sqlString_bind fun n' hn' => ?_
    rw [hn] at hn'
    cases hn'
    cases hrn
    exact mutation_execute ⟨n, hn, .inr (.inr (.inl ⟨roles, hroles, rn, hr, rfl⟩))⟩
  · dsimp only
    split
    · exact (grantPrivileges_stmts userSpec n hn fun s hs => ⟨n, hn, .inr (.inr (.inr hs))⟩).bind
        fun _ => mutation_commit
    · exact (Keeps.pure _).bind fun _ => mutation_commit

theorem createUser_keeps (userSpec : UserSpec) (password : String) (dryRun : Bool) :
    Keeps (MutationEvent (.createUser userSpec password) (createUserStmts userSpec password) dryRun)
      (createUser userSpec password dryRun) :=
  (createUser_run userSpec password dryRun).1

theorem updateUserRoles_run (username : Scalar) (oldRoles newRoles : PySet) (dryRun : Bool) :
    Keeps (MutationEvent (.updateUserRoles username oldRoles newRoles)
      (updateUserRolesStmts username oldRoles newRoles) dryRun)
      (updateUserRoles username oldRoles newRoles dryRun) ∧
      StartsThen (.call (.updateUserRoles username oldRoles newRoles))
        (fun e => dryRun = false ∧ StmtEvent (updateUserRolesStmts username oldRoles newRoles) e)
        (updateUserRoles username oldRoles newRoles dryRun) := by
  refine mutation_run fun _ => ?_
  dsimp only
  split
  · exact .pure ()
  refine mutation_keeps dryRun rollback_keeps <| getConnection_keeps.bind fun _ =>
    (Keeps.forEach fun r hr => ?_).bind fun _ => (Keeps.forEach fun r hr => ?_).bind fun _ => mutation_commit
  all_goals
    refine Keeps.sqlString_bind fun rn hrn => Keeps.sqlString_bind fun n hn => mutation_execute ?_
    cases hrn
    exact ⟨n, rn, by cases hn; rfl, by simp_all⟩

theorem updateUserRoles_keeps (username : Scalar) (oldRoles newRoles : PySet) (dryRun : Bool) :
    Keeps (MutationEvent (.updateUserRoles username oldRoles newRoles)
      (updateUserRolesStmts username oldRoles newRoles) dryRun)
      (updateUserRoles username oldRoles newRoles dryRun) :=
  (updateUserRoles_run username oldRoles newRoles dryRun).1

theorem dropUser_run (cfg : Config) (username : Scalar) (dryRun : Bool) :
    Keeps (MutationEvent (.dropUser username) (dropUserStmts cfg username) dryRun) (dropUser cfg username dryRun) ∧
      StartsThen (.call (.dropUser username)) (fun e => dryRun = false ∧ StmtEvent (dropUserStmts cfg username) e)
        (dropUser cfg username dryRun) := by
  refine mutation_run fun _ => mutation_keeps dryRun rollback_keeps <|
    getConnection_keeps.bind fun _ => Keeps.sqlString_bind fun d hd => Keeps.sqlString_bind fun n hn => ?_
  cases hd
  cases hn
  refine (mutation_execute ⟨n, rfl, .inl rfl⟩).bind fun _ =>
    Keeps.sqlString_bind fun n' hn' => Keeps.sqlString_bind fun u hu => ?_
  cases hn'
  cases hu
  refine (mutation_execute ⟨n, rfl, .inr (.inl rfl)⟩).bind fun _ => Keeps.sqlString_bind fun n' hn' => ?_
  cases hn'
  refine (mutation_execute ⟨n, rfl, .inr (.inr (.inl rfl))⟩).bind fun _ =>
    Keeps.sqlString_bind fun n' hn' => ?_
  cases hn'
  exact (mutation_execute ⟨n, rfl, .inr (.inr (.inr rfl))⟩).bind fun _ => mutation_commit

theorem dropUser_keeps (cfg : Config) (username : Scalar) (dryRun : Bool) :
    Keeps (MutationEvent (.dropUser username) (dropUserStmts cfg username) dryRun)
      (dropUser cfg username dryRun) :=
  (dropUser_run cfg username dryRun).1

/-- `drop_user` logs its call before anything else. -/
theorem dropUser_starts (cfg : Config) (username : Scalar) (dryRun : Bool) :
    Starts (.call (.dropUser username)) (dropUser cfg username dryRun) :=
  (dropUser_run cfg username dryRun).2.starts

end Mutations

/-! ## KubernetesClient -/

theorem apiRead_keeps (obj : Cluster → Option α) : Keeps P (apiRead obj) := .of_frame fun w => by
  unfold apiRead
  dsimp only
  split
  · exact ⟨rfl, rfl, rfl, .inl rfl, rfl, rfl⟩
  · split <;> exact ⟨rfl, rfl, rfl, .inl rfl, rfl, rfl⟩

theorem onApiException_keeps {retry : PyExc → PyM (Option α)} (hr : ∀ e, Keeps P (retry e)) (e : PyExc) :
    Keeps P (onApiException retry e) := by
  unfold onApiException
  split
  · exact .pure _
  · exact hr _
  · exact .raise _

theorem withRetries_keeps {attempt : PyM (Option α)} (ha : Keeps P attempt) (hl : P .logError) :
    ∀ n, Keeps P (withRetries attempt n)
  | 0 => ha.tryCatch (onApiException_keeps fun e => (Keeps.logError hl).bind fun _ => .raise e)
  | n + 1 => ha.tryCatch (onApiException_keeps fun _ => withRetries_keeps ha hl n)

theorem fetchConfigmap_keeps (cfg : Config) : Keeps (CallEvent .fetchConfigmap) (fetchConfigmap cfg) :=
  (Keeps.record (.inl rfl)).bind fun _ => withRetries_keeps ((apiRead_keeps _).bind fun cm => by
    split
    · exact .raise _
    · exact .pure _) (.inr rfl) _

theorem getUserPassword_keeps (cfg : Config) (username : Scalar) :
    Keeps (CallEvent (.getUserPassword username)) (getUserPassword cfg username) := by
  refine (Keeps.record (.inl rfl)).bind fun _ => ?_
  dsimp only
  split <;> refine Keeps.bind (by first | exact .pure _ | exact .raise _) fun _ =>
    withRetries_keeps ((apiRead_keeps _).bind fun p => ?_) (.inr rfl) _ <;> split
  all_goals first
    | exact (Keeps.logError (.inr rfl)).bind fun _ => .pure _
    | exact .pure _
    | exact .raise _

/-! ## The documents -/

theorem parseDesiredUsers_keeps (cfg : Config) (yamlContent : YamlText) (hl : P .logError) :
    Keeps P (parseDesiredUsers cfg yamlContent) := by
  unfold parseDesiredUsers
  split
  · exact .pure _
  · exact (Keeps.logError hl).bind fun _ => .pure _
  · split
    · exact .pure _
    · exact (Keeps.logError hl).bind fun _ => .pure _
    · exact .raise _

theorem loadState_keeps : Keeps (CallEvent .loadState) loadState :=
  (Keeps.record (.inl rfl)).bind fun _ => Keeps.read.bind fun w => by
    split
    · exact .pure _
    · refine Keeps.fault.bind fun b => ?_
      split
      · exact (Keeps.logError (.inr rfl)).bind fun _ => .pure _
      · split
        · exact (Keeps.logError (.inr rfl)).bind fun _ => .pure _
        · exact .raise _
        · exact .lift _

theorem saveState_keeps (users : PyDict UserSpec) : Keeps (CallEvent (.saveState users)) (saveState users) :=
  fun w => by
    have hc : (Event.call (.saveState users)).writesState := rfl
    unfold saveState
    dsimp only
    split
    · exact ⟨[.call (.saveState users), .logError], by simp, by simp [CallEvent], .inl rfl, .inl rfl,
        fun _ _ h => h, rfl, rfl⟩
    · split
      · exact ⟨[.call (.saveState users)], rfl, by simp [CallEvent], .inl rfl, .inr ⟨_, by simp, hc⟩,
          fun _ _ h => h, rfl, rfl⟩
      · split
        · exact ⟨[.call (.saveState users), .logError], by simp, by simp [CallEvent], .inl rfl,
            .inr ⟨_, by simp, hc⟩, fun _ _ h => h, rfl, rfl⟩
        · exact ⟨[.call (.saveState users)], rfl, by simp [CallEvent], .inl rfl, .inr ⟨_, by simp, hc⟩,
            fun _ _ h => h, rfl, rfl⟩

theorem saveState_starts (users : PyDict UserSpec) : Starts (.call (.saveState users)) (saveState users) :=
  fun w => by
    unfold saveState
    dsimp only
    split
    · exact ⟨[.logError], by simp⟩
    · split
      · exact ⟨[], rfl⟩
      · split
        · exact ⟨[.logError], by simp⟩
        · exact ⟨[], rfl⟩

end PgUserController
