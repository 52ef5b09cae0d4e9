-- SUMMARY: The PostgreSQL catalog the controller reads and changes, and what each statement the controller sends does to it.
import PgUserController.Sql

/-!
# The catalog

The part of a PostgreSQL cluster that the controller's statements read or
change: roles with their `LOGIN` flag, direct role memberships, databases and
their `CONNECT` grants, object privileges and object owners.

`Stmt.exec` is what the server does with a statement: the new catalog, or the
error it answers with. The errors kept are the ones the controller's statements
run into in practice: creating a role that exists, granting to or from a role
that does not, dropping a role that objects or privileges still depend on. Any
other failure of a statement is a fault of the oracle in `World`.

Two readings of the server are narrower here. A `GRANT ... ON` runs when its
keyword is one of `tablePrivileges` and is refused otherwise, while the server
also takes keywords in lower case or as lists, and runs whatever SQL a keyword
spliced in by `sql.SQL` spells; whether the object exists is not checked. And
the catalog keeps names whole, while the server truncates an identifier to 63
bytes. Results that depend on either carry the hypothesis that the desired
users' keywords are plain (`PlainPrivileges`) or that their names fit
(`FitsIdentifier`), the inputs on which the two readings agree.
-/

namespace PgUserController

/-- The catalog: `pg_roles`, `pg_auth_members`, `pg_database`, and the
    privileges and ownerships that `DROP ROLE` checks. -/
structure Catalog where
  /-- Each role's name and `rolcanlogin`. -/
  roles : List (String × Bool)
  /-- Direct memberships, as (role, member). -/
  members : List (String × String)
  databases : List String
  /-- `CONNECT` grants, as (database, grantee). -/
  connect : List (String × String)
  /-- Object privileges, as (privilege, object, grantee). -/
  grants : List (String × String × String)
  /-- Owned objects, as (object, owner). -/
  owners : List (String × String)
  deriving DecidableEq, Repr

/-- The privilege keywords `GRANT ... ON <table>` accepts. -/
def tablePrivileges : List String :=
  ["SELECT", "INSERT", "UPDATE", "DELETE", "TRUNCATE", "REFERENCES", "TRIGGER", "ALL",
   "ALL PRIVILEGES"]

/-- A name the server stores as it is: PostgreSQL keeps the first
    `NAMEDATALEN - 1 = 63` bytes of an identifier and drops the rest. -/
def FitsIdentifier (n : String) : Prop := n.utf8ByteSize ≤ 63

instance (n : String) : Decidable (FitsIdentifier n) := inferInstanceAs (Decidable (_ ≤ _))

namespace Catalog

/-- Whether a role of that name exists. -/
def hasRole (db : Catalog) (n : String) : Bool := db.roles.any (·.1 == n)

/-- Whether a role of that name exists with `LOGIN`. -/
def isLogin (db : Catalog) (n : String) : Bool := db.roles.any fun r => r.1 == n && r.2

/-- The roles `u` is directly a member of, as `fetch_user_roles`'s join reads them. -/
def rolesOf (db : Catalog) (u : String) : List String :=
  if db.hasRole u then (db.members.filter fun m => m.2 == u && db.hasRole m.1).map Prod.fst
  else []

/-- Whether objects or privileges still depend on the role. -/
def hasDependents (db : Catalog) (n : String) : Bool :=
  db.owners.any (·.2 == n) || db.grants.any (·.2.2 == n) || db.connect.any (·.2 == n)

/-- `DROP ROLE IF EXISTS n` (and `DROP USER IF EXISTS n`): the role leaves with
    every membership it takes part in. -/
def dropRole (db : Catalog) (n : String) : Except PyExc Catalog :=
  if !db.hasRole n then .ok db
  else if db.hasDependents n then .error .psycopg2Error
  else .ok { db with
    roles := db.roles.filter (·.1 != n)
    members := db.members.filter fun m => m.1 != n && m.2 != n }

/-- `CREATE ROLE` and `CREATE USER`: a new role, with or without `LOGIN`. -/
def createRole (db : Catalog) (n : String) (login : Bool) : Except PyExc Catalog :=
  if db.hasRole n then .error .psycopg2Error else .ok { db with roles := db.roles ++ [(n, login)] }

/-- The roles a `SELECT` on `pg_roles` reads: every role not in the denylist,
    and only those without `LOGIN` when `nologinOnly`. -/
def selectRoles (db : Catalog) (nologinOnly : Bool) : List Scalar :=
  (db.roles.filter fun r => r.1 ∉ systemRoles && !(nologinOnly && r.2)).map fun r => .str r.1

theorem mem_selectRoles {db : Catalog} {nologinOnly : Bool} {u : Scalar} :
    u ∈ db.selectRoles nologinOnly ↔
      ∃ r ∈ db.roles, r.1 ∉ systemRoles ∧ (nologinOnly && r.2) = false ∧ .str r.1 = u := by
  simp only [selectRoles, List.mem_map, List.mem_filter, Bool.and_eq_true, decide_eq_true_eq,
    Bool.not_eq_true', and_assoc]

/-- A role without `LOGIN` outside the denylist is listed by both `SELECT`s on `pg_roles`. -/
theorem mem_selectRoles_of_nologin {c : Catalog} {n : String} (h : c.hasRole n = true) (hl : c.isLogin n = false)
    (hn : n ∉ systemRoles) (b : Bool) : .str n ∈ c.selectRoles b := by
  obtain ⟨r, hr, hrn⟩ := List.any_eq_true.mp h
  have : r.2 = false := by
    simp only [isLogin, List.any_eq_false, Bool.and_eq_true, beq_iff_eq, not_and, Bool.not_eq_true] at hl
    exact hl r hr (by simpa using hrn)
  exact mem_selectRoles.mpr ⟨r, hr, by simpa using (beq_iff_eq.mp hrn) ▸ hn, by simp [this],
    by rw [beq_iff_eq.mp hrn]⟩

/-- A role with `LOGIN` outside the denylist is listed by `fetch_existing_users`'s `SELECT`. -/
theorem mem_selectRoles_of_isLogin {c : Catalog} {n : String} (h : c.isLogin n = true) (hn : n ∉ systemRoles) :
    .str n ∈ c.selectRoles false := by
  obtain ⟨r, hr, hrn⟩ := List.any_eq_true.mp h
  simp only [Bool.and_eq_true, beq_iff_eq] at hrn
  exact mem_selectRoles.mpr ⟨r, hr, hrn.1 ▸ hn, rfl, by rw [hrn.1]⟩

/-!
## Well-formed catalogs

In PostgreSQL a membership row names two roles that exist: `DROP ROLE` takes the
role's memberships with it. On such a catalog, creating a role leaves every
membership as it reads, which is what lets the frame lemmas below ignore the
roles a cycle creates.
-/

/-- Every membership is between two roles that exist. -/
def WF (db : Catalog) : Prop := ∀ m ∈ db.members, db.hasRole m.1 ∧ db.hasRole m.2

theorem mem_rolesOf {db : Catalog} {n x : String} :
    x ∈ db.rolesOf n ↔ db.hasRole n ∧ (x, n) ∈ db.members ∧ db.hasRole x := by
  unfold rolesOf
  split
  · simp only [List.mem_map, List.mem_filter, Bool.and_eq_true, beq_iff_eq, Prod.exists, exists_and_right,
      exists_eq_right, true_and, *]
    exact ⟨fun ⟨_, h, e, h'⟩ => e ▸ ⟨h, h'⟩, fun ⟨h, h'⟩ => ⟨n, h, rfl, h'⟩⟩
  · simp_all

/-- The memberships of `n` read the same from two catalogs with the same
    memberships that agree on which of the roles involved exist. -/
theorem rolesOf_congr {db db' : Catalog} {n : String} (hm : db'.members = db.members)
    (hr : ∀ m ∈ db.members, m.2 = n → db'.hasRole m.1 = db.hasRole m.1) (hn : db'.hasRole n = db.hasRole n) :
    db'.rolesOf n = db.rolesOf n := by
  unfold rolesOf
  rw [hn, hm]
  split
  · congr 1
    refine List.filter_congr fun m hm' => ?_
    by_cases h : m.2 = n
    · simp [h, hr m hm' h]
    · have : (m.2 == n) = false := by simpa using h
      simp [this]
  · rfl

@[simp] theorem hasRole_append {db : Catalog} {r n : String} {l : Bool} :
    ({ db with roles := db.roles ++ [(r, l)] } : Catalog).hasRole n = (db.hasRole n || r == n) := by
  simp [hasRole]

@[simp] theorem isLogin_append {db : Catalog} {r n : String} {l : Bool} :
    ({ db with roles := db.roles ++ [(r, l)] } : Catalog).isLogin n = (db.isLogin n || r == n && l) := by
  simp [isLogin]

/-- A new role leaves every membership as it reads, in a well-formed catalog. -/
theorem rolesOf_append {db : Catalog} (hwf : db.WF) {r n : String} {l : Bool} (hr : db.hasRole r = false) :
    ({ db with roles := db.roles ++ [(r, l)] } : Catalog).rolesOf n = db.rolesOf n := by
  by_cases hn : r = n
  · subst hn
    have : ∀ m ∈ db.members, m.2 ≠ r := fun m hm h => by simpa [h, hr] using (hwf m hm).2
    unfold rolesOf
    simp only [hasRole_append, hr, beq_self_eq_true, Bool.or_true, if_true, Bool.false_eq_true, if_false]
    simp only [List.map_eq_nil_iff, List.filter_eq_nil_iff, Bool.and_eq_true, beq_iff_eq, not_and]
    exact fun m hm h => absurd h (this m hm)
  · refine rolesOf_congr rfl (fun m hm _ => ?_) (by simp [hn])
    have h1 := (hwf m hm).1
    simp [h1]


theorem hasRole_filter {db : Catalog} {r n : String} {ms : List (String × String)} :
    ({ db with roles := db.roles.filter (·.1 != r), members := ms } : Catalog).hasRole n =
      (db.hasRole n && n != r) := by
  rw [Bool.eq_iff_iff]
  simp only [hasRole, List.any_eq_true, List.mem_filter, Bool.and_eq_true, bne_iff_ne, ne_eq, beq_iff_eq]
  constructor
  · rintro ⟨x, ⟨hx, hxr⟩, rfl⟩; exact ⟨⟨x, hx, rfl⟩, hxr⟩
  · rintro ⟨⟨x, hx, rfl⟩, hxr⟩; exact ⟨x, ⟨hx, hxr⟩, rfl⟩

/-- The memberships of `n` read the same from two catalogs with the same roles and
    the same memberships of `n`. -/
theorem rolesOf_of_members {db db' : Catalog} {n : String} (hr : db'.roles = db.roles)
    (hm : db'.members.filter (·.2 == n) = db.members.filter (·.2 == n)) : db'.rolesOf n = db.rolesOf n := by
  have hh : ∀ x, db'.hasRole x = db.hasRole x := fun x => by simp only [hasRole, hr]
  unfold rolesOf
  rw [hh]
  split
  · congr 1
    have e : ∀ c : Catalog, c.members.filter (fun m => m.2 == n && c.hasRole m.1) =
        (c.members.filter (·.2 == n)).filter (fun m => c.hasRole m.1) := fun c => by
      rw [List.filter_filter]; exact List.filter_congr fun m _ => Bool.and_comm _ _
    rw [e, e, hm]
    exact List.filter_congr fun m _ => hh m.1
  · rfl

/-- Dropping a role other than `n` that `n` is not a member of leaves the
    memberships of `n`. -/
theorem rolesOf_dropRole {db db' : Catalog} {r n : String} (hrn : r ≠ n) (hr : r ∉ db.rolesOf n)
    (h : db.dropRole r = .ok db') : db'.rolesOf n = db.rolesOf n := by
  unfold dropRole at h
  split at h
  · cases h; rfl
  split at h
  · cases h
  cases h
  have hn : (n != r) = true := bne_iff_ne.mpr (Ne.symm hrn)
  unfold rolesOf
  rw [hasRole_filter, hn, Bool.and_true]
  split
  · rename_i hhas
    congr 1
    rw [List.filter_filter]
    refine List.filter_congr fun x hx => ?_
    by_cases hx2 : x.2 = n
    · have hx1 : db.hasRole x.1 = true → x.1 ≠ r := fun h₁ h₂ => hr (mem_rolesOf.mpr ⟨hhas, by
        rw [← h₂, ← hx2]; exact hx, h₂ ▸ h₁⟩)
      by_cases h₁ : db.hasRole x.1 = true
      · simp [hx2, h₁, hasRole_filter, hx1 h₁, hrn.symm, Ne.symm hrn]
      · simp [hx2, h₁, hasRole_filter]
    · have : (x.2 == n) = false := by simpa using hx2
      simp [this]
  · rfl

end Catalog

namespace Stmt

/-- What the server does with a statement: the new catalog, or its error. A
    `SELECT` leaves the catalog as it is. -/
def exec : Stmt → Catalog → Except PyExc Catalog
  | createRole r, db => db.createRole r false
  | dropRoleIfExists r, db => db.dropRole r
  | createUser u _, db => db.createRole u true
  | grantConnect d u, db =>
    if d ∈ db.databases && db.hasRole u then .ok { db with connect := db.connect.insert (d, u) }
    else .error .psycopg2Error
  | grantRole r u, db =>
    if db.hasRole r && db.hasRole u && r != u then .ok { db with members := db.members.insert (r, u) }
    else .error .psycopg2Error
  | grantPrivilege p o u, db =>
    if p ∈ tablePrivileges && db.hasRole u then .ok { db with grants := db.grants.insert (p, o, u) }
    else .error .psycopg2Error
  | revokeRole r u, db =>
    if db.hasRole r && db.hasRole u then .ok { db with members := db.members.filter (· != (r, u)) }
    else .error .psycopg2Error
  | revokeAllOnDatabase d u, db =>
    if d ∈ db.databases && db.hasRole u then .ok { db with connect := db.connect.filter (· != (d, u)) }
    else .error .psycopg2Error
  | reassignOwned u t, db =>
    if db.hasRole u && db.hasRole t then
      .ok { db with owners := db.owners.map fun o => if o.2 == u then (o.1, t) else o }
    else .error .psycopg2Error
  | dropOwned u, db =>
    if db.hasRole u then
      .ok { db with
        owners := db.owners.filter (·.2 != u)
        grants := db.grants.filter (·.2.2 != u)
        connect := db.connect.filter (·.2 != u) }
    else .error .psycopg2Error
  | dropUserIfExists u, db => db.dropRole u
  | selectUsers, db => .ok db
  | selectRoles, db => .ok db
  | selectUserRoles _, db => .ok db

/-- The rows a statement returns: the `rolname` column of a `SELECT`. A username
    parameter that is not a string does not compare with `rolname`. -/
def rows : Stmt → Catalog → Except PyExc (List Scalar)
  | selectUsers, db => .ok (db.selectRoles false)
  | selectRoles, db => .ok (db.selectRoles true)
  | selectUserRoles (.str u), db => .ok ((db.rolesOf u).map .str)
  | selectUserRoles _, _ => .error .psycopg2Error
  | _, _ => .ok []

@[simp] theorem exec_of_isRead {s : Stmt} (h : s.isRead) (db : Catalog) : s.exec db = .ok db := by
  cases s <;> simp_all [isRead, exec]

/-! ## What a statement changes -/

/-- A property of the catalog that the statement keeps whenever it succeeds. -/
def Preserves (V : Catalog → Prop) (s : Stmt) : Prop := ∀ db db', s.exec db = .ok db' → V db → V db'

/-- A `SELECT` keeps every property of the catalog. -/
theorem preserves_of_isRead {V : Catalog → Prop} {s : Stmt} (h : s.isRead) : s.Preserves V := by
  intro db db' he hv
  rw [exec_of_isRead h] at he
  cases he
  exact hv

theorem Preserves.and {V W : Catalog → Prop} {s : Stmt} (hV : s.Preserves V) (hW : s.Preserves W) :
    s.Preserves fun c => V c ∧ W c :=
  fun db db' h hc => ⟨hV db db' h hc.1, hW db db' h hc.2⟩

theorem Preserves.forall {ι : Type} {V : ι → Catalog → Prop} {s : Stmt} (h : ∀ i, s.Preserves (V i)) :
    s.Preserves fun c => ∀ i, V i c :=
  fun db db' he hc i => h i db db' he (hc i)

theorem Preserves.imp {φ : Prop} {V : Catalog → Prop} {s : Stmt} (h : φ → s.Preserves V) :
    s.Preserves fun c => φ → V c :=
  fun db db' he hc hφ => h hφ db db' he (hc hφ)

theorem preserves_wf (s : Stmt) : s.Preserves Catalog.WF := by
  intro db db' h hwf
  cases s <;> simp only [exec, Catalog.createRole, Catalog.dropRole] at h <;> (repeat' split at h) <;> cases h
  all_goals first
    | exact hwf
    | exact fun m hm => by simp [(hwf m hm).1, (hwf m hm).2]
    | exact fun m hm => hwf m (List.mem_of_mem_filter hm)
    | exact fun m hm => by
        obtain ⟨hm, hne⟩ := List.mem_filter.mp hm
        simp only [Bool.and_eq_true, bne_iff_ne, ne_eq] at hne
        simp [Catalog.hasRole_filter, (hwf m hm).1, (hwf m hm).2, hne.1, hne.2]
    | rename_i hc
      simp only [Bool.and_eq_true] at hc
      exact fun m hm => by
        rcases List.mem_insert_iff.mp hm with rfl | hm
        exacts [⟨hc.1.1, hc.1.2⟩, hwf m hm]

/-- Whether the statement may change the `LOGIN` or the memberships of the role `n`. -/
def Touches (n : String) : Stmt → Prop
  | createUser u _ | grantRole _ u | revokeRole _ u => u = n
  | dropRoleIfExists _ | dropUserIfExists _ => True
  | _ => False

/-- A statement that does not touch `n` leaves its `LOGIN` and its memberships as
    they read, in a well-formed catalog. -/
theorem exec_untouched {n : String} {s : Stmt} (hs : ¬ s.Touches n) {db db' : Catalog}
    (h : s.exec db = .ok db') (hwf : db.WF) : db'.isLogin n = db.isLogin n ∧ db'.rolesOf n = db.rolesOf n := by
  cases s <;> simp only [Touches, not_true_eq_false, not_false_eq_true] at hs <;>
    simp only [exec, Catalog.createRole, Catalog.dropRole] at h <;> (repeat' split at h) <;> cases h
  all_goals first
    | exact ⟨rfl, rfl⟩
    | rename_i hc
      have hne : ∀ u, ¬u = n → (u == n) = false := fun u h => by simpa using h
      refine ⟨?_, Catalog.rolesOf_append hwf (by simpa using hc)⟩
      first | simp [hne _ hs] | simp
    | refine ⟨rfl, Catalog.rolesOf_of_members rfl ?_⟩
      first
        | unfold List.insert; split <;> simp [hs]
        | rw [List.filter_filter]
          refine List.filter_congr fun m _ => ?_
          by_cases h : m.2 = n <;> simp [h]
          rintro rfl
          exact hs h

/-- What a well-formed catalog says of a role that the statement does not touch
    stays true after it. -/
theorem preserves_role {n : String} {s : Stmt} (hs : ¬ s.Touches n) (R : Bool → List String → Prop) :
    s.Preserves fun c => c.WF ∧ R (c.isLogin n) (c.rolesOf n) := by
  intro db db' h ⟨hwf, hr⟩
  obtain ⟨hl, hm⟩ := exec_untouched hs h hwf
  exact ⟨s.preserves_wf db db' h hwf, hl ▸ hm ▸ hr⟩

/-- Whether the statement drops the role `n`. -/
def Drops (n : String) : Stmt → Prop
  | dropRoleIfExists r | dropUserIfExists r => r = n
  | _ => False

/-- A statement that drops no role named `n` keeps every row of `n` in `pg_roles`. -/
theorem exec_keeps_row {n : String} {s : Stmt} (hs : ¬ s.Drops n) {db db' : Catalog}
    (h : s.exec db = .ok db') {l : Bool} (hr : (n, l) ∈ db.roles) : (n, l) ∈ db'.roles := by
  cases s <;> simp only [Drops, not_true_eq_false, not_false_eq_true] at hs <;>
    simp only [exec, Catalog.createRole, Catalog.dropRole] at h <;> (repeat' split at h) <;> cases h
  all_goals first
    | exact hr
    | exact List.mem_append_left _ hr
    | exact List.mem_filter.mpr ⟨hr, by simpa using Ne.symm hs⟩

/-- A name that a `SELECT` on `pg_roles` lists stays listed after a statement that
    does not drop it. -/
theorem preserves_selected {u : Scalar} {s : Stmt} (hs : ∀ n, u = .str n → ¬ s.Drops n) (b : Bool) :
    s.Preserves fun c => u ∈ c.selectRoles b := by
  intro db db' h hu
  obtain ⟨⟨n, l⟩, hr, hsys, hb, rfl⟩ := Catalog.mem_selectRoles.mp hu
  exact Catalog.mem_selectRoles.mpr ⟨(n, l), exec_keeps_row (hs n rfl) h hr, hsys, hb, rfl⟩

/-- `CREATE USER n` succeeds only on a new name, and makes `n` a role with `LOGIN`
    and no membership. -/
theorem exec_createUser {db db' : Catalog} {n pw : String} (h : (createUser n pw).exec db = .ok db')
    (hwf : db.WF) : db.hasRole n = false ∧ db'.isLogin n = true ∧ db'.rolesOf n = [] := by
  simp only [exec, Catalog.createRole] at h
  split at h
  · cases h
  · cases h
    rename_i hn
    simp only [Bool.not_eq_true] at hn
    refine ⟨hn, by simp, ?_⟩
    rw [Catalog.rolesOf_append hwf hn]
    simp [Catalog.rolesOf, hn]

/-- `CREATE ROLE r NOLOGIN` makes `r` a role without `LOGIN`. -/
theorem exec_createRole {db db' : Catalog} {r : String} (h : (createRole r).exec db = .ok db') :
    db'.hasRole r = true ∧ db'.isLogin r = false := by
  simp only [exec, Catalog.createRole] at h
  split at h
  · cases h
  · cases h
    rename_i hr
    have : db.isLogin r = false := by
      simp only [Catalog.hasRole, Catalog.isLogin, List.any_eq_false, Bool.not_eq_true, beq_eq_false_iff_ne,
        ne_eq, Bool.and_eq_false_imp, beq_iff_eq] at hr ⊢
      exact fun x hx h => absurd h (hr x hx)
    simp [this]

/-- `GRANT r TO n` adds `r` to the memberships of `n`, and changes no role. -/
theorem exec_grantRole {db db' : Catalog} {r n : String} (h : (grantRole r n).exec db = .ok db') :
    db'.roles = db.roles ∧ ∀ x, x ∈ db'.rolesOf n ↔ x ∈ db.rolesOf n ∨ x = r := by
  simp only [exec] at h
  split at h
  · cases h
    rename_i hc
    simp only [Bool.and_eq_true, bne_iff_ne] at hc
    refine ⟨rfl, fun x => ?_⟩
    simp only [Catalog.mem_rolesOf, List.mem_insert_iff, Prod.mk.injEq]
    constructor
    · rintro ⟨hn, (⟨rfl, -⟩ | hm), hx⟩
      exacts [.inr rfl, .inl ⟨hn, hm, hx⟩]
    · rintro (⟨hn, hm, hx⟩ | rfl)
      exacts [⟨hn, .inr hm, hx⟩, ⟨hc.1.2, .inl ⟨rfl, trivial⟩, hc.1.1⟩]
  · cases h

/-- `REVOKE r FROM n` takes `r` out of the memberships of `n`, and changes no role. -/
theorem exec_revokeRole {db db' : Catalog} {r n : String} (h : (revokeRole r n).exec db = .ok db') :
    db'.roles = db.roles ∧ ∀ x, x ∈ db'.rolesOf n ↔ x ∈ db.rolesOf n ∧ x ≠ r := by
  simp only [exec] at h
  split at h
  · cases h
    refine ⟨rfl, fun x => ?_⟩
    simp only [Catalog.mem_rolesOf, List.mem_filter, bne_iff_ne, ne_eq, Prod.mk.injEq, not_and,
      not_true_eq_false, imp_false]
    exact ⟨fun ⟨a, ⟨b, c⟩, d⟩ => ⟨⟨a, b, d⟩, c⟩, fun ⟨⟨a, b, d⟩, c⟩ => ⟨a, ⟨b, c⟩, d⟩⟩
  · cases h

end Stmt

end PgUserController
