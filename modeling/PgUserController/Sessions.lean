-- SUMMARY: What a gateway method that returns has done to the catalog: the connection it holds, the catalog its session works on, the commit that makes that the database's, and the users `create_user` and `update_user_roles` leave behind.
import PgUserController.Effects

/-!
# Sessions

A method of `DatabaseClient` takes a connection, runs its statements on the
catalog that connection sees (`World.session`: its open transaction's, or the
committed one in autocommit mode) and commits. The triples below follow that
catalog along the path on which every call succeeds: `execute_spec` for one
statement, then one triple per method. `create_user` that returns leaves its user
with `LOGIN` and exactly the roles its spec lists (`createUser_spec`), and
`update_user_roles(u, old, new)`, run while `u` has exactly the roles `old`,
leaves it with exactly `new` (`updateUserRoles_spec`). It sends each `REVOKE`
and each `GRANT` once, and no statement at all when `old` and `new` have the
same members (`updateUserRoles_sets_memberships`).

The catalogs are well formed throughout (`Catalog.WF`): every statement keeps
that, and the lemmas of `Stmt.exec` need it.
-/

namespace PgUserController

/-- The catalog the held connection works on: its open transaction's, or the
    committed one. -/
def World.session (w : World) : Catalog := w.txn.getD w.db

/-- A connection is held, and in autocommit mode no transaction is open on it. -/
def World.Attached (w : World) : Prop := ∃ c, w.conn = some c ∧ (c.autocommit = true → w.txn = none)

theorem World.session_of_txn {w : World} (h : w.txn = none) : w.session = w.db := by
  simp [World.session, h]

theorem World.Sees.mono {V W : Catalog → Prop} {w : World} (h : w.Sees V) (hVW : ∀ c, V c → W c) : w.Sees W :=
  ⟨hVW _ h.1, hVW _ h.2⟩

theorem World.sees_of_txn {V : Catalog → Prop} {w : World} (ht : w.txn = none) (h : V w.db) : w.Sees V :=
  ⟨h, by simpa [ht] using h⟩

variable {α : Type}

/-! ## Connections and statements -/

theorem getConnection_spec {Q : Catalog → Prop} :
    Triple (fun w => Q w.db) getConnection fun _ w => w.Attached ∧ w.txn = none ∧ Q w.db := by
  intro w hw _ h
  unfold getConnection at h ⊢
  split
  · exact ⟨⟨_, rfl, fun _ => rfl⟩, rfl, hw⟩
  · rename_i hp
    simp only [hp] at h
    split at h
    · cases h
    · rename_i hf
      simp only [hf]
      exact ⟨⟨_, rfl, fun _ => rfl⟩, rfl, hw⟩

theorem execute_spec (s : Stmt) (c : Catalog) :
    Triple (fun w => w.Attached ∧ w.session = c) (execute s) fun rows w =>
      w.Attached ∧ s.exec c = .ok w.session ∧ s.rows c = .ok rows := by
  rintro w ⟨⟨cn, hc, hac⟩, rfl⟩ rows h
  have hbase : (if cn.autocommit then w.db else w.txn.getD w.db) = w.session := by
    cases ha : cn.autocommit
    · rfl
    · simp [World.session, hac ha]
  by_cases hf : w.faults w.tick
  · simp [execute, hf] at h
  simp only [execute, hf, hc, hbase, Bool.false_eq_true, if_false] at h ⊢
  cases he : s.exec w.session with
  | error e => simp [he] at h
  | ok db' =>
    cases hr : s.rows w.session with
    | error e => simp [he, hr] at h
    | ok rs =>
      simp only [he, hr] at h ⊢
      cases h
      cases ha : cn.autocommit
      · simp [World.Attached, World.session, hc, ha]
      · simp [World.Attached, World.session, hc, ha, hac ha]

/-- A statement takes the session's catalog along its effect. -/
theorem execute_step (s : Stmt) {V V' : Catalog → Prop} (h : ∀ c c', s.exec c = .ok c' → V c → V' c') :
    Triple (fun w => w.Attached ∧ V w.session) (execute s) fun _ w => w.Attached ∧ V' w.session :=
  fun w ⟨ha, hv⟩ rows hr =>
    let ⟨ha', he, _⟩ := execute_spec s w.session w ⟨ha, rfl⟩ rows hr
    ⟨ha', h _ _ he hv⟩

theorem commit_spec {Q : Catalog → Prop} :
    Triple (fun w => w.Attached ∧ Q w.session) commit fun _ w => w.Attached ∧ Q w.db := by
  rintro w ⟨⟨c, hc, -⟩, hw⟩ _ h
  unfold commit at h ⊢
  split at h
  · cases h
  · rw [if_neg ‹_›]
    exact ⟨⟨c, hc, fun _ => rfl⟩, hw⟩

/-- The held connection is in autocommit mode, with no transaction open. -/
def World.Autocommit (w : World) : Prop := w.txn = none ∧ ∃ c, w.conn = some c ∧ c.autocommit = true

theorem setAutocommit_spec {Q : Catalog → Prop} :
    Triple (fun w => w.Attached ∧ w.txn = none ∧ Q w.db) setAutocommit fun _ w => w.Autocommit ∧ Q w.db := by
  rintro w ⟨⟨c, hc, -⟩, ht, hq⟩ _ _
  simp only [setAutocommit, PyM.modify, hc, Option.map_some']
  exact ⟨⟨ht, _, rfl, rfl⟩, hq⟩

/-- In autocommit mode a statement changes the committed catalog at once. -/
theorem execute_autocommit (s : Stmt) {V V' : Catalog → Prop} (h : ∀ c c', s.exec c = .ok c' → V c → V' c') :
    Triple (fun w => w.Autocommit ∧ V w.db) (execute s) fun _ w => w.Autocommit ∧ V' w.db := by
  rintro w ⟨⟨ht, c, hc, ha⟩, hv⟩ rows hr
  by_cases hf : w.faults w.tick
  · simp [execute, hf] at hr
  simp only [execute, hf, hc, ha, if_true, Bool.false_eq_true, if_false] at hr ⊢
  cases he : s.exec w.db with
  | error e => simp [he] at hr
  | ok db' =>
    cases hrw : s.rows w.db with
    | error e => simp [he, hrw] at hr
    | ok rs =>
      simp only [he, hrw]
      exact ⟨⟨ht, c, rfl, ha⟩, h _ _ he hv⟩

theorem returnConnection_spec {Q : Catalog → Prop} :
    Triple (fun w => w.Attached ∧ Q w.db) returnConnection fun _ w => w.txn = none ∧ Q w.db := by
  rintro w ⟨⟨c, hc, -⟩, hq⟩ _ _
  simp only [returnConnection, PyM.modify, hc]
  exact ⟨trivial, hq⟩

theorem withConnection_spec {body : PyM α} {Q : Catalog → Prop} {post : α → Catalog → Prop}
    (hb : Triple (fun w => Q w.db) body fun a w => w.Attached ∧ post a w.db) :
    Triple (fun w => Q w.db) (withConnection body) fun a w => w.txn = none ∧ post a w.db := by
  unfold withConnection
  refine Triple.bind ?_ fun _ => hb.tryFinally fun _ => returnConnection_spec
  exact Triple.modify fun _ hw => hw

theorem onDbError_spec {cleanup : PyM Unit} {x : PyM α} {pre : World → Prop} {post : α → World → Prop}
    (hx : Triple pre x post) : Triple pre (onDbError cleanup x) post :=
  hx.tryCatch fun e => by
    split
    · exact Triple.bind (show Triple _ logError fun _ _ => True from fun _ _ _ _ => trivial) fun _ =>
        Triple.bind_raise e
    · exact Triple.raise e

theorem sqlString_spec {pre : World → Prop} (v : PyVal) :
    Triple pre (sqlString v) fun n w => v = .str n ∧ pre w := by
  intro w hw n h
  rcases v with ⟨_ | _ | _ | s | _⟩ | _ | _
  case scalar.str => cases h; exact ⟨rfl, hw⟩
  all_goals cases h

/-! ## Queries -/

/-- A query reads its rows on the committed catalog, and leaves it as it is. -/
theorem fetchRoleNames_spec (call : Call) {s : Stmt} (hs : s.isRead) (c : Catalog) :
    Triple (fun w => w.db = c) (fetchRoleNames call s) fun roles w =>
      w.txn = none ∧ w.db = c ∧ ∃ rows, s.rows c = .ok rows ∧ roles = PySet.ofList rows := by
  have hread : Triple (fun w => (w.Attached ∧ w.session = c) ∧ w.Sees (· = c)) (execute s)
      fun rows w => (w.Attached ∧ s.exec c = .ok w.session ∧ s.rows c = .ok rows) ∧ w.Sees (· = c) :=
    (execute_spec s c).and <| Triple.of_keeps (execute_keeps s) fun _ h => by
      cases h
      intro _ _ he hd
      rw [Stmt.exec_of_isRead hs] at he
      cases he
      exact hd
  refine Triple.record_bind (fun _ h => h) (@withConnection_spec _ _ (· = c)
    (fun roles c' => c' = c ∧ ∃ rows, s.rows c = .ok rows ∧ roles = PySet.ofList rows) (onDbError_spec ?_))
  refine Triple.bind (@getConnection_spec (· = c)) fun _ => ?_
  refine Triple.bind (hread.weaken ?_) fun rows => Triple.pure fun _ ⟨⟨ha, _, hr⟩, hd, _⟩ => ⟨ha, hd, rows, hr, rfl⟩
  rintro w ⟨ha, ht, hd⟩
  rw [World.session_of_txn ht]
  exact ⟨⟨ha, hd⟩, hd, by simp [ht, hd]⟩

/-- `fetch_user_roles(n)` reads the memberships of `n` on the committed catalog. -/
theorem fetchUserRoles_spec (n : String) {V : Catalog → Prop} :
    Triple (fun w => w.Sees V) (fetchUserRoles (.str n)) fun roles w =>
      w.Sees V ∧ w.txn = none ∧ ∀ x, Scalar.str x ∈ roles ↔ x ∈ w.db.rolesOf n := by
  intro w hw roles h
  unfold fetchUserRoles at h ⊢
  obtain ⟨ht, hd, rows, hr, rfl⟩ :=
    fetchRoleNames_spec _ (show (Stmt.selectUserRoles (.str n)).isRead = true from rfl) w.db w rfl roles h
  cases hr
  refine ⟨World.sees_of_txn ht (hd ▸ hw.1), ht, fun x => ?_⟩
  simp [hd]

/-! ## Mutations -/

/-- `create_role(r)` that returns has run `CREATE ROLE` on the committed catalog. -/
theorem createRole_spec (r : Scalar) {V V' : Catalog → Prop}
    (h : ∀ n c c', r = .str n → (Stmt.createRole n).exec c = .ok c' → V c → V' c') :
    Triple (fun w => V w.db) (createRole r false) fun _ w => w.txn = none ∧ V' w.db := by
  refine Triple.record_bind (fun _ h => h) ?_
  rw [if_neg Bool.false_ne_true]
  refine @withConnection_spec _ _ V (fun _ => V') (onDbError_spec ?_)
  refine Triple.bind getConnection_spec fun _ => Triple.bind setAutocommit_spec fun _ =>
    Triple.bind (sqlString_spec _) fun n => Triple.assume fun hn => ?_
  cases hn
  exact Triple.discard ((execute_autocommit _ fun c c' => h n c c' rfl).conseq (fun _ h => h)
    fun _ _ ⟨ha, hv⟩ => ⟨⟨_, ha.2.choose_spec.1, fun _ => ha.1⟩, hv⟩)

theorem grantPrivileges_spec (userSpec : UserSpec) {V : Catalog → Prop}
    (hV : ∀ p o u, (Stmt.grantPrivilege p o u).Preserves V) :
    Triple (fun w => w.Attached ∧ V w.session) (grantPrivileges userSpec) fun _ w => w.Attached ∧ V w.session := by
  unfold grantPrivileges
  split
  · exact Triple.pure fun _ h => h
  refine Triple.bind (Triple.lift fun _ _ h _ => h) fun items => Triple.forEach_inv fun item _ =>
    Triple.bind (Triple.lift fun _ _ h _ => h) fun ps => Triple.forEach_inv fun p _ => ?_
  exact Triple.bind (sqlString_spec _) fun _ => Triple.assume fun _ => Triple.bind (sqlString_spec _) fun _ =>
    Triple.assume fun _ => Triple.bind (sqlString_spec _) fun _ => Triple.assume fun _ =>
    Triple.discard (execute_step _ (hV _ _ _))

/-- What `create_user` leaves of its user: a role with `LOGIN` and exactly the
    roles of its spec. -/
def Granted (n : String) (roles : List PyVal) (c : Catalog) : Prop :=
  c.WF ∧ c.isLogin n = true ∧ ∀ x, x ∈ c.rolesOf n ↔ PyVal.str x ∈ roles

/-- `GRANT r TO n` adds `r` to the roles `n` has. -/
theorem Granted.grantRole {n r : String} {roles : List PyVal} {c c' : Catalog}
    (h : (Stmt.grantRole r n).exec c = .ok c') (hg : Granted n roles c) : Granted n (roles ++ [.str r]) c' := by
  obtain ⟨hwf, hl, hm⟩ := hg
  obtain ⟨hr, hm'⟩ := Stmt.exec_grantRole h
  refine ⟨Stmt.preserves_wf _ _ _ h hwf, by simpa [Catalog.isLogin, hr] using hl, fun x => ?_⟩
  simp [hm', hm]

/-- The user of a spec as `create_user` makes it: a role with `LOGIN` whose
    memberships are exactly the roles the spec lists. -/
def UserSpec.CreatedIn (userSpec : UserSpec) (c : Catalog) : Prop :=
  ∃ n roles, userSpec.username = .str n ∧ userSpec.roles.iter = .ok roles ∧ Granted n roles c

theorem createUser_spec (userSpec : UserSpec) (password : String) :
    Triple (fun w => w.db.WF) (createUser userSpec password false) fun _ w =>
      w.txn = none ∧ userSpec.CreatedIn w.db := by
  refine Triple.record_bind (fun _ h => h) ?_
  rw [if_neg Bool.false_ne_true]
  refine withConnection_spec (onDbError_spec ?_)
  refine Triple.bind getConnection_spec fun _ => Triple.bind (sqlString_spec _) fun n => Triple.assume fun hn => ?_
  have hcreate : Triple (fun w => w.Attached ∧ w.session.WF) (execute (.createUser n password))
      fun _ w => w.Attached ∧ Granted n [] w.session := execute_step _ fun c c' he hwf => by
    obtain ⟨-, hl, hr⟩ := Stmt.exec_createUser he hwf
    exact ⟨Stmt.preserves_wf _ _ _ he hwf, hl, by simp [hr]⟩
  refine Triple.bind (Triple.discard (hcreate.weaken fun w ⟨ha, ht, hw⟩ => ⟨ha, (World.session_of_txn ht).symm ▸ hw⟩))
    fun _ => ?_
  refine Triple.bind (sqlString_spec _) fun d => Triple.assume fun _ => Triple.bind (sqlString_spec _) fun n' =>
    Triple.assume fun hn' => ?_
  obtain rfl : n' = n := by simpa [hn] using hn'.symm
  refine Triple.bind (Triple.discard (execute_step _ (Stmt.preserves_role (by simp [Stmt.Touches])
    fun b L => b = true ∧ ∀ x, x ∈ L ↔ PyVal.str x ∈ []))) fun _ => ?_
  refine Triple.bind (Triple.lift_ok _) fun roles => Triple.assume fun hroles => ?_
  refine Triple.bind (Triple.forEach (fun done w => w.Attached ∧ Granted n' done w.session)
    fun done role _ _ => ?_) fun _ => ?_
  · refine Triple.bind (sqlString_spec _) fun r => Triple.assume fun hr => Triple.bind (sqlString_spec _) fun n'' =>
      Triple.assume fun hn'' => ?_
    obtain rfl : n'' = n' := by simpa [hn] using hn''.symm
    subst hr
    exact Triple.discard (execute_step _ fun _ _ => Granted.grantRole)
  have hcommit : Triple (fun w => w.Attached ∧ Granted n' roles w.session) commit
      fun _ w => w.Attached ∧ userSpec.CreatedIn w.db :=
    commit_spec.conseq (fun _ h => h) fun _ _ ⟨ha, hg⟩ => ⟨ha, n', roles, hn, hroles, hg⟩
  dsimp only
  split
  · exact Triple.bind (grantPrivileges_spec _ fun _ _ _ => Stmt.preserves_role (by simp [Stmt.Touches])
      fun b L => b = true ∧ ∀ x, x ∈ L ↔ PyVal.str x ∈ roles) fun _ => hcommit
  · exact Triple.bind (Triple.pure fun _ h => h) fun _ => hcommit

/-- The memberships of `n` are exactly the roles satisfying `p`, in a well-formed catalog. -/
def RolesAre (n : String) (p : String → Prop) (c : Catalog) : Prop := c.WF ∧ ∀ x, x ∈ c.rolesOf n ↔ p x

theorem RolesAre.congr {n : String} {p q : String → Prop} {c : Catalog} (h : RolesAre n p c) (hpq : ∀ x, p x ↔ q x) :
    RolesAre n q c :=
  ⟨h.1, fun x => (h.2 x).trans (hpq x)⟩

theorem RolesAre.grantRole {n r : String} {p : String → Prop} {c c' : Catalog}
    (h : (Stmt.grantRole r n).exec c = .ok c') (hg : RolesAre n p c) : RolesAre n (fun x => p x ∨ x = r) c' :=
  ⟨Stmt.preserves_wf _ _ _ h hg.1, fun x => by rw [(Stmt.exec_grantRole h).2, hg.2]⟩

theorem RolesAre.revokeRole {n r : String} {p : String → Prop} {c c' : Catalog}
    (h : (Stmt.revokeRole r n).exec c = .ok c') (hg : RolesAre n p c) : RolesAre n (fun x => p x ∧ x ≠ r) c' :=
  ⟨Stmt.preserves_wf _ _ _ h hg.1, fun x => by rw [(Stmt.exec_revokeRole h).2, hg.2]⟩

theorem PySet.eq_of_diff_empty {a b : PySet} (h : (a.diff b).elems.isEmpty && (b.diff a).elems.isEmpty) :
    ∀ x, x ∈ a ↔ x ∈ b := by
  simp only [Bool.and_eq_true, List.isEmpty_iff, List.eq_nil_iff_forall_not_mem, PySet.mem_elems,
    PySet.mem_diff, not_and, not_not] at h
  exact fun x => ⟨h.1 x, h.2 x⟩

theorem updateUserRoles_spec (n : String) (oldRoles newRoles : PySet) :
    Triple (fun w => w.txn = none ∧ RolesAre n (fun x => .str x ∈ oldRoles) w.db)
      (updateUserRoles (.str n) oldRoles newRoles false)
      fun _ w => w.txn = none ∧ RolesAre n (fun x => .str x ∈ newRoles) w.db := by
  refine Triple.record_bind (fun _ h => h) ?_
  dsimp only
  split
  · rename_i he
    exact Triple.pure fun _ ⟨ht, hr⟩ => ⟨ht, hr.congr fun x => PySet.eq_of_diff_empty he _⟩
  rw [if_neg Bool.false_ne_true]
  refine (withConnection_spec (onDbError_spec ?_)).weaken fun _ h => h.2
  refine Triple.bind getConnection_spec fun _ => ?_
  refine Triple.bind ((Triple.forEach
    (fun done w => w.Attached ∧ RolesAre n (fun x => .str x ∈ oldRoles ∧ .str x ∉ done) w.session)
    fun done role _ _ => ?_).weaken fun w ⟨ha, ht, hr⟩ => ⟨ha, ?_⟩) fun _ => ?_
  · refine Triple.bind (sqlString_spec _) fun r => Triple.assume fun hr => Triple.bind (sqlString_spec _) fun n' =>
      Triple.assume fun hn' => ?_
    cases hr
    cases hn'
    exact Triple.discard (execute_step _ fun _ _ h hg => (hg.revokeRole h).congr fun x => by simp [and_assoc])
  · rw [World.session_of_txn ht]
    exact hr.congr fun x => by simp
  refine Triple.bind ((Triple.forEach
    (fun done w => w.Attached ∧ RolesAre n (fun x => (.str x ∈ oldRoles ∧ .str x ∈ newRoles) ∨ .str x ∈ done) w.session)
    fun done role _ _ => ?_).weaken fun w ⟨ha, hr⟩ => ⟨ha, hr.congr fun x => ?_⟩) fun _ => ?_
  · refine Triple.bind (sqlString_spec _) fun r => Triple.assume fun hr => Triple.bind (sqlString_spec _) fun n' =>
      Triple.assume fun hn' => ?_
    cases hr
    cases hn'
    exact Triple.discard (execute_step _ fun _ _ h hg => (hg.grantRole h).congr fun x => by simp [or_assoc])
  · by_cases h : Scalar.str x ∈ newRoles <;> simp [h]
  refine commit_spec.weaken fun w ⟨ha, hr⟩ => ⟨ha, hr.congr fun x => ?_⟩
  by_cases h : Scalar.str x ∈ oldRoles <;> simp [h]

/-! ## The statements of `update_user_roles` -/

/-- A step that sends nothing, as a triple on the log. -/
private theorem quiet_log {x : PyM α} (h : Keeps (fun _ => False) x) (L : List Event) :
    Triple (fun w => w.log = L) x fun _ w => w.log = L :=
  fun w hw _ _ => (h.log_eq w).trans hw

/-- `withConnection` sends nothing but what its body sends. -/
private theorem withConnection_log {body : PyM α} {pre : World → Prop} {post : α → World → Prop}
    (hpre : ∀ w, pre w → pre { w with conn := none, txn := none })
    (hpost : ∀ a w w', w'.log = w.log → post a w → post a w') (hb : Triple pre body post) :
    Triple pre (withConnection body) post := by
  unfold withConnection
  refine Triple.bind (Triple.modify hpre) fun _ => hb.tryFinally fun a w hw _ _ => hpost a w _ ?_ hw
  exact (returnConnection_keeps : Keeps (fun _ => False) _).log_eq w

/-- A loop of `update_user_roles`: the statement `stmt r n` on each role `r`,
    which has to be a string. -/
private theorem roleLoop_log (stmt : String → String → Stmt) (n : String) :
    ∀ (roles : List Scalar) (L : List Event), Triple (fun w => w.log = L)
      (PyM.forEach roles fun role => do
        discard <| execute (stmt (← sqlString (.scalar role)) (← sqlString (.scalar (.str n)))))
      fun _ w => ∃ names : List String, roles = names.map .str ∧ w.log = L ++ names.map fun r => .sql (stmt r n)
  | [], L => Triple.pure fun _ hw => ⟨[], rfl, by simpa using hw⟩
  | role :: roles, L => by
    have hbody : Triple (fun w => w.log = L)
        (do discard <| execute (stmt (← sqlString (.scalar role)) (← sqlString (.scalar (.str n)))))
        fun _ w => ∃ r, role = .str r ∧ w.log = L ++ [.sql (stmt r n)] :=
      Triple.bind (sqlString_spec _) fun r => Triple.assume fun hr =>
        Triple.bind (sqlString_spec _) fun n' => Triple.assume fun hn' => by
          cases hn'
          exact Triple.discard fun w hw _ _ => ⟨r, by cases hr; rfl, by rw [execute_log, hw]⟩
    refine Triple.bind hbody fun _ w ⟨r, hr, hl⟩ a ha => ?_
    obtain ⟨names, hnames, hlog⟩ := roleLoop_log stmt n roles _ w hl a ha
    exact ⟨r :: names, by rw [hr, hnames]; rfl, by rw [hlog]; simp⟩

/-- What `update_user_roles(n, old, new)` sends on a run that returns: its call,
    then, unless `old - new` and `new - old` are both empty, a `REVOKE` for each
    role of `old - new`, a `GRANT` for each role of `new - old`, and the commit. -/
theorem updateUserRoles_log (n : String) (oldRoles newRoles : PySet) (L : List Event) :
    Triple (fun w => w.log = L) (updateUserRoles (.str n) oldRoles newRoles false) fun _ w =>
      ∃ revoked granted : List String, (oldRoles.diff newRoles).elems = revoked.map .str ∧
        (newRoles.diff oldRoles).elems = granted.map .str ∧
        w.log = L ++ .call (.updateUserRoles (.str n) oldRoles newRoles) ::
          (if revoked ++ granted = [] then [] else
            revoked.map (fun r => .sql (.revokeRole r n)) ++ granted.map (fun r => .sql (.grantRole r n)) ++
              [.commit]) := by
  refine Triple.bind (show Triple (fun w => w.log = L) (record (.call (.updateUserRoles (.str n) oldRoles newRoles)))
    fun _ w => w.log = L ++ [.call (.updateUserRoles (.str n) oldRoles newRoles)] from
      fun w hw _ _ => by simp [record, PyM.modify, hw]) fun _ => ?_
  dsimp only
  split
  · rename_i he
    simp only [Bool.and_eq_true, List.isEmpty_iff] at he
    exact Triple.pure fun w hw => ⟨[], [], he.1, he.2, by simp [hw]⟩
  rename_i he
  rw [if_neg Bool.false_ne_true]
  refine withConnection_log (fun _ h => h) (fun _ w w' h hp => by rwa [h]) (onDbError_spec ?_)
  refine Triple.bind (quiet_log getConnection_keeps _) fun _ =>
    Triple.bind (roleLoop_log .revokeRole n (oldRoles.diff newRoles).elems _) fun _ =>
    Triple.exists_pre fun revoked => Triple.assume fun hrv =>
    Triple.bind (roleLoop_log .grantRole n (newRoles.diff oldRoles).elems _) fun _ =>
    Triple.exists_pre fun granted => Triple.assume fun hgr => fun w hl' _ _ => ?_
  refine ⟨revoked, granted, hrv, hgr, ?_⟩
  have hne : revoked ++ granted ≠ [] := by
    intro h
    simp only [List.append_eq_nil] at h
    simp [hrv, hgr, h.1, h.2] at he
  rw [commit_log, hl', if_neg hne]
  simp

/-- `update_user_roles(n, old, new)`, run while `n` is a member of exactly the
    roles `old`: when it returns, `n` is a member of exactly the roles `new`, and
    it has sent its call, a `REVOKE` for each role of `old - new` and a `GRANT`
    for each role of `new - old`, no role twice, then the commit; or no statement
    at all when those are empty. When `old` and `new` have the same members, every
    run, dry or not, only logs the call. -/
theorem updateUserRoles_sets_memberships (n : String) (oldRoles newRoles : PySet) :
    (∀ L, Triple (fun w => w.log = L ∧ w.txn = none ∧ RolesAre n (fun x => .str x ∈ oldRoles) w.db)
      (updateUserRoles (.str n) oldRoles newRoles false) fun _ w =>
        RolesAre n (fun x => .str x ∈ newRoles) w.db ∧ ∃ revoked granted : List String,
          (oldRoles.diff newRoles).elems = revoked.map .str ∧ (newRoles.diff oldRoles).elems = granted.map .str ∧
          (revoked ++ granted).Nodup ∧
          w.log = L ++ .call (.updateUserRoles (.str n) oldRoles newRoles) ::
            (if revoked ++ granted = [] then [] else
              revoked.map (fun r => .sql (.revokeRole r n)) ++ granted.map (fun r => .sql (.grantRole r n)) ++
                [.commit])) ∧
    ((∀ x, x ∈ oldRoles ↔ x ∈ newRoles) → ∀ dryRun w,
      updateUserRoles (.str n) oldRoles newRoles dryRun w =
        ⟨.ok (), { w with log := w.log ++ [.call (.updateUserRoles (.str n) oldRoles newRoles)] }⟩) := by
  have hnd : ∀ {a b : PySet} {names : List String}, (a.diff b).elems = names.map .str → names.Nodup :=
    fun h => List.Nodup.of_map Scalar.str (h ▸ (PySet.diff _ _).nodup)
  refine ⟨fun L => ((updateUserRoles_log n oldRoles newRoles L).and (updateUserRoles_spec n oldRoles newRoles)).conseq
    (fun w ⟨hl, ht, hr⟩ => ⟨hl, ht, hr⟩) fun _ w ⟨⟨revoked, granted, hrv, hgr, hlog⟩, _, hr⟩ =>
      ⟨hr, revoked, granted, hrv, hgr, List.nodup_append.mpr ⟨hnd hrv, hnd hgr, fun r h₁ h₂ => ?_⟩, hlog⟩,
    fun hsame dryRun w => ?_⟩
  · have m₁ : Scalar.str r ∈ (oldRoles.diff newRoles).elems := hrv ▸ List.mem_map_of_mem _ h₁
    have m₂ : Scalar.str r ∈ (newRoles.diff oldRoles).elems := hgr ▸ List.mem_map_of_mem _ h₂
    simp only [PySet.mem_elems, PySet.mem_diff] at m₁ m₂
    exact m₁.2 m₂.1
  · have he : ((oldRoles.diff newRoles).elems.isEmpty && (newRoles.diff oldRoles).elems.isEmpty) = true := by
      simp [List.isEmpty_iff, List.eq_nil_iff_forall_not_mem, PySet.mem_elems, PySet.mem_diff, hsame]
    unfold updateUserRoles
    rw [PyM.bind_ok (show record (.call (.updateUserRoles (.str n) oldRoles newRoles)) w =
      ⟨.ok (), { w with log := w.log ++ [.call (.updateUserRoles (.str n) oldRoles newRoles)] }⟩ from rfl),
      if_pos he]
    rfl

/-- Updating `alice` from `{ro, rw}` to `{rw, ro}` sends no statement. -/
theorem updateUserRoles_same_roles :
    (∀ x, x ∈ PySet.ofList [.str "ro", .str "rw"] ↔ x ∈ PySet.ofList [.str "rw", .str "ro"]) ∧ ∀ dryRun w,
      updateUserRoles (.str "alice") (PySet.ofList [.str "ro", .str "rw"]) (PySet.ofList [.str "rw", .str "ro"])
          dryRun w =
        ⟨.ok (), { w with log := w.log ++ [.call (.updateUserRoles (.str "alice") (PySet.ofList [.str "ro", .str "rw"])
          (PySet.ofList [.str "rw", .str "ro"]))] }⟩ :=
  have hsame : ∀ x, x ∈ PySet.ofList [.str "ro", .str "rw"] ↔ x ∈ PySet.ofList [.str "rw", .str "ro"] := by
    simp [or_comm]
  ⟨hsame, (updateUserRoles_sets_memberships "alice" _ _).2 hsame⟩

/-! ## What a mutation touches -/

/-- `create_user` touches only its own user. -/
theorem createUserStmts_touches {userSpec : UserSpec} {password m : String} {s : Stmt}
    (h : createUserStmts userSpec password s) (ht : s.Touches m) : userSpec.username = .str m := by
  obtain ⟨n, hn, rfl | ⟨d, -, rfl⟩ | ⟨roles, -, r, -, rfl⟩ | ⟨_, -, _, _, -, _, -, p, -, rfl⟩⟩ := h <;>
    simp only [Stmt.Touches] at ht
  all_goals rw [hn, ht]

/-- `update_user_roles` touches only its own user. -/
theorem updateUserRolesStmts_touches {username : Scalar} {oldRoles newRoles : PySet} {m : String} {s : Stmt}
    (h : updateUserRolesStmts username oldRoles newRoles s) (ht : s.Touches m) : username = .str m := by
  obtain ⟨n, r, rfl, ⟨rfl, -⟩ | ⟨rfl, -⟩⟩ := h <;> simp only [Stmt.Touches] at ht <;> rw [ht]

/-- A statement that touches no role of the spec's name keeps the user as
    `create_user` made it. -/
theorem UserSpec.createdIn_preserved {userSpec : UserSpec} {s : Stmt}
    (h : ∀ n, userSpec.username = .str n → ¬ s.Touches n) : s.Preserves userSpec.CreatedIn := by
  rintro db db' he ⟨n, roles, hn, hr, hg⟩
  exact ⟨n, roles, hn, hr,
    Stmt.preserves_role (h n hn) (fun b L => b = true ∧ ∀ x, x ∈ L ↔ PyVal.str x ∈ roles) db db' he hg⟩

end PgUserController
