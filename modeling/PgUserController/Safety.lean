-- SUMMARY: What the calls of a cycle spare and in what order they come: a user is dropped only when the previous state names it, no role is dropped, the denylist keeps system roles out of drops and updates but not out of creations, a role is granted only once it exists or was created, and a privilege keyword reaches the SQL text raw.
import PgUserController.Cycle

/-!
# What a cycle spares

Each result is read off `reconcileUsers_keeps`, which says what every event of
a cycle can be, and off what the cycle read before its first mutation: the
desired users `D`, the previous state `P` and the live users, the last of which
`fetch_existing_users` gives without the names of `Config.SYSTEM_ROLES`.

The denylist is applied to what the controller reads from the database, not to
the desired users: a system role named in the spec is never seen as existing,
so the cycle goes on to create it.

Names reach the SQL text through `sql.Identifier` (`Stmt.lex_compose`), but the
privilege keyword of `_grant_privileges` goes through `sql.SQL`, as raw text.
-/

namespace PgUserController

/-! ## Drops -/

/-- A user is dropped only when the previous state names it, the desired users do
    not, and it was live outside the denylist when the cycle began; no role is
    ever dropped. -/
theorem reconcileUsers_drops_only_managed_users (cfg : Config) (dryRun : Bool) (w : World) :
    ∃ new, (reconcileUsers cfg dryRun w).world.log = w.log ++ new ∧ ∀ e ∈ new,
      (∀ r, e ≠ .call (.dropRole r)) ∧
      ∀ u, e = .call (.dropUser u) → ∃ D P live w₄, CycleInputs cfg w D P live w₄ ∧
        u ∈ P.keys ∧ u ∉ D.keys ∧ u ∈ live ∧ ∃ n, u = .str n ∧ n ∉ systemRoles := by
  obtain ⟨new, hlog, hev, -, -⟩ := reconcileUsers_keeps cfg dryRun w
  refine ⟨new, hlog, fun e he => ?_⟩
  rcases hev e he with h | ⟨D, P, live, w₄, A, hin, -, h⟩
  · exact ⟨by rintro _ rfl; simp [PrefixEvent] at h, by rintro _ rfl; simp [PrefixEvent] at h⟩
  · refine ⟨by rintro _ rfl; simp [LiveEvent, RolesEvent] at h, fun u hu => ?_⟩
    subst hu
    obtain ⟨_, hl, hd, hp, rfl⟩ : ∃ u' ∈ live, u' ∉ D.keys ∧ u' ∈ P.keys ∧ u = u' := by
      simpa [LiveEvent, RolesEvent] using h
    exact ⟨D, P, live, w₄, hin, hp, hd, hl, hin.live_not_system _ hl⟩

/-! ## System roles -/

/-- The memberships of a user are read and updated only for a live user, so never
    for a system role. -/
theorem reconcileUsers_updates_only_live_users (cfg : Config) (dryRun : Bool) (w : World) :
    ∃ new, (reconcileUsers cfg dryRun w).world.log = w.log ++ new ∧ ∀ e ∈ new, ∀ u,
      (e = .call (.fetchUserRoles u) ∨ ∃ old desired, e = .call (.updateUserRoles u old desired)) →
        ∃ n, u = .str n ∧ n ∉ systemRoles := by
  obtain ⟨new, hlog, hev, -, -⟩ := reconcileUsers_keeps cfg dryRun w
  refine ⟨new, hlog, fun e he u hu => ?_⟩
  rcases hev e he with h | ⟨D, P, live, w₄, A, hin, -, h⟩
  · rcases hu with rfl | ⟨old, desired, rfl⟩ <;> simp [PrefixEvent] at h
  rcases hu with rfl | ⟨old, desired, rfl⟩ <;> simp [LiveEvent, RolesEvent] at h
  · exact hin.live_not_system u h.2
  · obtain ⟨_, _, -, hl, -, -, -, rfl, -⟩ := h
    exact hin.live_not_system _ hl

/-- A spec that names the system roles `pg_monitor`, as a role, and `postgres`, as
    a user, with a password for every user. -/
def systemSpecWorld : World where
  db := { roles := [("postgres", true), ("pg_monitor", false)], members := [], databases := ["postgres"],
          connect := [], grants := [], owners := [] }
  pool := ⟨[⟨false⟩], 1⟩
  cluster :=
    { configMaps := fun _ _ => some ⟨some [("users.yaml", .document (.dict [(.str "users",
        .list [.dict [(.str "username", .str "postgres"), (.str "roles", .list [.str "pg_monitor"])]])]))]⟩
      secrets := fun _ _ => some (.decoded "pw") }
  stateFile := none
  faults := fun _ => false

/-- The desired user `postgres` of `systemSpecWorld`, as `parse_desired_users` reads it. -/
def postgresSpec : UserSpec :=
  { username := .str "postgres", database := .str "postgres", roles := .list [.str "pg_monitor"] }

set_option smartUnfolding false in
/-- The cycle calls `create_role('pg_monitor')` and `create_user` for `postgres`. -/
theorem reconcileUsers_creates_system_roles :
    Event.call (.createRole (.str "pg_monitor")) ∈ (reconcileUsers Config.default false systemSpecWorld).world.log ∧
    Event.call (.createUser postgresSpec "pw") ∈ (reconcileUsers Config.default false systemSpecWorld).world.log := by
  decide

/-! ## Grants come after the roles exist -/

/-- Every `GRANT role TO user` of a cycle names a role that the cycle's
    `fetch_existing_roles` listed, or one it called `create_role` for before. -/
theorem reconcileUsers_grants_existing_roles (cfg : Config) (dryRun : Bool) (w : World) :
    ∃ new, (reconcileUsers cfg dryRun w).world.log = w.log ++ new ∧
      ∀ pre r u post, new = pre ++ .sql (.grantRole r u) :: post →
        .call (.createRole (.str r)) ∈ pre ∨
        ∃ D P live w₄ E, CycleInputs cfg w D P live w₄ ∧ (fetchExistingRoles w₄).result = .ok E ∧
          .str r ∈ E := by
  have notPrefix : ∀ {n : List Event} (r u : String), (∀ e ∈ n, PrefixEvent e) →
      Event.sql (.grantRole r u) ∉ n :=
    fun _ _ hn h => by simpa [PrefixEvent] using hn _ h
  rcases reconcileUsers_cases cfg dryRun w with
    ⟨n₀, h₀, hpre, -, -⟩ | ⟨D, P, live, w₄, hin, ⟨n₀, h₀, hpre, -, -⟩, heq⟩
  · exact ⟨n₀, h₀, fun pre r u post hn => (notPrefix r u hpre (by simp [hn])).elim⟩
  rw [heq]
  cases hA : allDesiredRoles D with
  | error e =>
    rw [reconcileLive_of_roles_error hA]
    exact ⟨n₀, h₀, fun pre r u post hn => (notPrefix r u hpre (by simp [hn])).elim⟩
  | ok A =>
    obtain ⟨n, hn, hgrant⟩ := reconcileLive_grants_after_roles cfg P live dryRun hA w₄
    refine ⟨n₀ ++ n, by rw [hn, h₀, List.append_assoc], fun pre r u post hnew => ?_⟩
    obtain ⟨pre', rfl, hn'⟩ := append_eq_append_cons_of_not_mem hnew (notPrefix r u hpre)
    rcases hgrant pre' r u post hn' with h | ⟨E, hE, hr⟩
    · exact .inl (List.mem_append_right _ h)
    · exact .inr ⟨D, P, live, w₄, E, hin, hE, hr⟩

/-! ## The privilege keyword -/

/-- A privilege keyword that closes the `GRANT` and starts a statement of its own. -/
def injectedKeyword : String := "SELECT ON t TO alice; DROP TABLE t; --"

/-- `alice`, desired with that keyword as a privilege on the object `t`. -/
def injectionWorld : World where
  db := { roles := [("postgres", true)], members := [], databases := ["postgres"],
          connect := [], grants := [], owners := [] }
  pool := ⟨[⟨false⟩], 1⟩
  cluster :=
    { configMaps := fun _ _ => some ⟨some [("users.yaml", .document (.dict [(.str "users",
        .list [.dict [(.str "username", .str "alice"),
          (.str "privileges", .dict [(.str "t", .list [.str injectedKeyword])])]])]))]⟩
      secrets := fun _ _ => some (.decoded "pw") }
  stateFile := none
  faults := fun _ => false

set_option smartUnfolding false in
/-- The cycle sends the `GRANT` with the keyword in it, and the keyword lexes as
    raw text: its `;` ends the `GRANT`, and `DROP TABLE t` follows it. -/
theorem reconcileUsers_splices_privilege_keyword :
    Event.sql (.grantPrivilege injectedKeyword "t" "alice") ∈
      (reconcileUsers Config.default false injectionWorld).world.log ∧
    lex (render (Stmt.grantPrivilege injectedKeyword "t" "alice").compose) =
      ("GRANT " ++ injectedKeyword ++ " ON ").toList.map .char ++ .ident "t".toList ::
        " TO ".toList.map .char ++ [.ident "alice".toList, .char ';'] := by
  decide

end PgUserController
