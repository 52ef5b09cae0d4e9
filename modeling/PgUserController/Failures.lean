-- SUMMARY: What a failure leaves behind: the state file is saved with the desired users after the last mutation, whatever the mutations did; a connection that `create_role` switched to autocommit lets a later `create_user` keep half of its work; a `users.yaml` that does not load is read as no desired user, so every managed live user is dropped; and one user whose roles are not a list stops the whole cycle.
import PgUserController.DryRun

/-!
# Failures

Each item of the three loops of `reconcile_users` runs under its own `try`, so a
failed mutation only counts an error, and the cycle goes on to
`save_state(desired_users)`, after its last mutation (`reconcileUsers_saves_last`).
The state file then records the desired users, not what was applied: a user whose
`drop_user` failed is no longer in the previous state of the next cycle, which
does not drop it again (`Idempotence` states this for every such pair of cycles).

`create_role` switches its pooled connection to autocommit and hands it back as
it is. A later `create_user` that gets that connection commits each statement as
it runs it, so when one of its grants fails, the user it created stays.

`parse_desired_users` answers `{}` for a `users.yaml` on which `yaml.safe_load`
raises or whose entry lacks `username`, as the specification's `ConfigMalformed`
asks. The cycle then goes on with no desired user, and the deletion loop drops
every live user of the previous state (`reconcileUsers_drops_all_on_malformed`).

The per-user `try` blocks do not cover `reconcile_roles`'s first line: one desired
user whose `roles` is `null`, or holds an item that cannot be hashed, makes
`all_desired_roles.update` raise, and the cycle ends before any user's step.
-/

namespace PgUserController

/-! ## The state file is saved whatever the mutations did -/

section Save

variable {cfg : Config} {D P : PyDict UserSpec} {live : PySet}

/-- The drift loops return, and a real run then calls `save_state` with the
    desired users; after that call it calls no mutation. -/
theorem applyDrift_saves (hD : ∀ spec ∈ D.values, ∃ s, pySet spec.roles = .ok s)
    (hP : ∀ spec ∈ P.values, ∃ s, pySet spec.roles = .ok s) :
    LogsThen (.call (.saveState D)) Quiet (applyDrift cfg D P live false) := by
  have grow : ∀ {β} {x : PyM β}, Keeps (LiveEvent cfg D P live .empty false) x → Keeps (fun _ => True) x :=
    fun h => h.mono fun _ _ => trivial
  have ok : ∀ {x : PyM Unit}, (∀ w, (x w).result = .ok ()) → ∀ w, ∃ a, (x w).result = .ok a :=
    fun h w => ⟨(), h w⟩
  have hc : ∀ u ∈ D.keys.diff live, u ∈ D.keys := fun _ hu => (PySet.mem_diff.mp hu).1
  have hu : ∀ u ∈ D.keys.inter live, u ∈ D.keys := fun _ hu => (PySet.mem_inter.mp hu).1
  have hsave : Keeps Quiet (saveState D) :=
    (saveState_keeps D).mono fun e h => by rintro c rfl; simp at h; rw [h]; rfl
  unfold applyDrift
  dsimp only [detectDrift]
  split <;>
    refine LogsThen.bind_right (by first | exact .modifyStats _ | exact .pure _) (fun _ => ⟨(), rfl⟩) fun _ =>
      LogsThen.bind_right (grow deleteUsers_keeps) (ok (deleteUsers_ok _)) fun _ =>
      LogsThen.bind_right (grow createUsers_keeps) (ok (createUsers_ok hc)) fun _ =>
      LogsThen.bind_right (grow updateUsers_keeps) (ok (updateUsers_ok hu hD hP)) fun _ => ?_ <;>
    rw [if_pos (show (!false) = true from rfl)] <;>
    exact LogsThen.bind_left (.of_starts (saveState_starts D) hsave) fun _ =>
      (Keeps.of_frame fun _ => ⟨rfl, rfl, rfl, .inl rfl, rfl, rfl⟩).bind fun _ =>
        ((fetchRoleNames_keeps _ _).mono fun _ => QueryEvent.quiet (by rfl)).bind fun _ =>
          .of_frame fun _ => ⟨rfl, rfl, rfl, .inl rfl, rfl, rfl⟩

/-- A real cycle that has read its inputs and the existing roles calls
    `save_state` with the desired users after every mutation it calls, whatever
    the mutations did, as long as the roles of each previous user make a set. -/
theorem reconcileUsers_saves_last {w w₄ : World} {A E : PySet}
    (hin : CycleInputs cfg w D P live w₄) (hA : allDesiredRoles D = .ok A)
    (hE : (fetchExistingRoles w₄).result = .ok E) (hP : ∀ spec ∈ P.values, ∃ s, pySet spec.roles = .ok s) :
    ∃ pre post, (reconcileUsers cfg false w).world.log = pre ++ .call (.saveState D) :: post ∧
      mutationCalls post = [] := by
  have hR := (reconcileRoles_creates false hA (PyM.eq_of_result hE)).1
  obtain ⟨pre, post, hl, hq⟩ :=
    applyDrift_saves (fun _ hs => allDesiredRoles_pySet hA hs) hP (reconcileRoles D false w₄).world
  rw [hin.reconcileUsers_eq, reconcileLive, PyM.bind_ok (PyM.eq_of_result hR), hl]
  exact ⟨_, post, rfl, mutationCalls_eq_nil hq⟩

end Save

/-- A `users.yaml` with no users. -/
def noUsersYaml : YamlText := .document (.dict [(.str "users", .list [])])

/-- The previous state that holds `bob`. -/
def bobState : PyDict UserSpec :=
  PyDict.empty.insert (.str "bob") ⟨.str "bob", .str "postgres", .list [], .scalar .none⟩

/-- `bob`, last applied and no longer desired, whose `DROP USER` fails: the
    statement at tick 7 faults. -/
def failedDropWorld : World where
  db := { roles := [("postgres", true), ("bob", true)], members := [], databases := ["postgres"],
          connect := [], grants := [], owners := [] }
  pool := ⟨[⟨false⟩], 1⟩
  cluster :=
    { configMaps := fun _ _ => some ⟨some [("users.yaml", noUsersYaml)]⟩
      secrets := fun _ _ => some (.decoded "pw") }
  stateFile := some (.value (.dict [(.str "bob", userEntry "bob" [])]))
  faults := fun t => t == 7

/-- `failedDropWorld` once its cycle has read its inputs. -/
def failedDropRead : World :=
  (fetchLiveUsers (loadState (parseDesiredUsers Config.default noUsersYaml
    (fetchConfigmap Config.default failedDropWorld).world).world).world).world

set_option smartUnfolding false in
/-- The drop of `bob` fails, yet the state file is saved with the desired users,
    and the next cycle, from the world this one left, does not drop `bob` again. -/
theorem reconcileUsers_forgets_failed_drop :
    Event.logError ∈ (reconcileUsers Config.default false failedDropWorld).world.log ∧
    (reconcileUsers Config.default false failedDropWorld).world.db.hasRole "bob" = true ∧
    (reconcileUsers Config.default false failedDropWorld).world.stateFile ≠ failedDropWorld.stateFile ∧
    Event.call (.dropUser (.str "bob")) ∉
      ((reconcileUsers Config.default false (reconcileUsers Config.default false failedDropWorld).world).world.log.drop
        (reconcileUsers Config.default false failedDropWorld).world.log.length) := by
  decide

/-! ## A connection left in autocommit -/

/-- `alice` wants the role `team`, which does not exist yet, and `CONNECT` on a
    database that does not exist. -/
def autocommitWorld : World where
  db := { roles := [("postgres", true)], members := [], databases := ["postgres"],
          connect := [], grants := [], owners := [] }
  pool := ⟨[⟨false⟩], 1⟩
  cluster :=
    { configMaps := fun _ _ => some ⟨some [("users.yaml", .document (.dict [(.str "users",
        .list [.dict [(.str "username", .str "alice"), (.str "database", .str "analytics"),
          (.str "roles", .list [.str "team"])]])]))]⟩
      secrets := fun _ _ => some (.decoded "pw") }
  stateFile := none
  faults := fun _ => false

set_option smartUnfolding false in
/-- `create_role('team')` hands its autocommit connection back to the pool;
    `create_user` for `alice` takes it, so `CREATE USER` is committed at once, and
    when `GRANT CONNECT` then fails, `alice` stays, with `LOGIN` and no role. -/
theorem createUser_keeps_user_after_failed_grant :
    autocommitWorld.db.hasRole "alice" = false ∧
    Event.sql (.grantConnect "analytics" "alice") ∈ (reconcileUsers Config.default false autocommitWorld).world.log ∧
    Event.logError ∈ (reconcileUsers Config.default false autocommitWorld).world.log ∧
    (reconcileUsers Config.default false autocommitWorld).world.db.isLogin "alice" = true ∧
    (reconcileUsers Config.default false autocommitWorld).world.db.rolesOf "alice" = [] := by
  decide

/-! ## A `users.yaml` that does not load -/

/-- A `users.yaml` on which `yaml.safe_load` raises, or one of whose entries has
    no `username`, is read as no desired user: once the cycle has read the
    previous state `P` and the live users, and `fetch_existing_roles` has answered,
    it calls `drop_user` for every live user that `P` holds. -/
theorem reconcileUsers_drops_all_on_malformed {cfg : Config} {dryRun : Bool} {w w₄ : World}
    {yamlContent : YamlText} {D P : PyDict UserSpec} {live E : PySet}
    (hc : (fetchConfigmap cfg w).result = .ok (some yamlContent))
    (hmal : yamlContent = .malformed ∨
      ∃ parsed, yamlContent = .document parsed ∧ decodeUsers cfg parsed = .error .keyError)
    (hin : CycleInputs cfg w D P live w₄) (hE : (fetchExistingRoles w₄).result = .ok E) :
    D = PyDict.empty ∧ ∀ u ∈ live, u ∈ P.keys → Event.call (.dropUser u) ∈ (reconcileUsers cfg dryRun w).world.log := by
  obtain ⟨y, w₁, w₂, w₃, hc', hp, hl, hf⟩ := hin
  rw [hc'] at hc
  cases hc
  obtain rfl : D = PyDict.empty := by
    rcases hmal with rfl | ⟨parsed, rfl, hdec⟩
    · cases hp; rfl
    · simp only [parseDesiredUsers, hdec] at hp
      cases hp; rfl
  refine ⟨rfl, fun u hu hpu => ?_⟩
  rw [CycleInputs.reconcileUsers_eq ⟨_, _, _, _, hc', hp, hl, hf⟩ dryRun, reconcileLive,
    PyM.bind_ok (PyM.eq_of_result (reconcileRoles_creates dryRun (rfl : allDesiredRoles PyDict.empty = .ok .empty)
      (PyM.eq_of_result hE)).1)]
  obtain ⟨new, hlog, hm⟩ := applyDrift_drops hu
    (show u ∉ (PyDict.empty : PyDict UserSpec).keys by simp) hpu (reconcileRoles PyDict.empty dryRun w₄).world
  rw [hlog]
  exact List.mem_append_right _ hm

/-- `bob`, last applied and live, while `users.yaml` does not load. -/
def malformedYamlWorld : World where
  db := { roles := [("postgres", true), ("bob", true)], members := [], databases := ["postgres"],
          connect := [], grants := [], owners := [] }
  pool := ⟨[⟨false⟩], 1⟩
  cluster :=
    { configMaps := fun _ _ => some ⟨some [("users.yaml", .malformed)]⟩
      secrets := fun _ _ => some (.decoded "pw") }
  stateFile := some (.value (.dict [(.str "bob", userEntry "bob" [])]))
  faults := fun _ => false

/-- `malformedYamlWorld` once its cycle has read its inputs. -/
def malformedYamlRead : World :=
  (fetchLiveUsers (loadState (parseDesiredUsers Config.default .malformed
    (fetchConfigmap Config.default malformedYamlWorld).world).world).world).world

set_option smartUnfolding false in
theorem malformedYamlWorld_drops_all :
    (fetchConfigmap Config.default malformedYamlWorld).result = .ok (some .malformed) ∧
    CycleInputs Config.default malformedYamlWorld PyDict.empty bobState (PySet.ofList [.str "bob"])
      malformedYamlRead ∧
    (fetchExistingRoles malformedYamlRead).result = .ok (PySet.ofList []) ∧
    (PyDict.empty : PyDict UserSpec) = PyDict.empty ∧ ∀ u ∈ PySet.ofList [.str "bob"], u ∈ bobState.keys →
      Event.call (.dropUser u) ∈ (reconcileUsers Config.default false malformedYamlWorld).world.log := by
  have hc : (fetchConfigmap Config.default malformedYamlWorld).result = .ok (some .malformed) := rfl
  have hin : CycleInputs Config.default malformedYamlWorld PyDict.empty bobState (PySet.ofList [.str "bob"])
      malformedYamlRead :=
    ⟨.malformed, _, _, _, PyM.eq_of_result rfl, PyM.eq_of_result rfl, PyM.eq_of_result rfl,
      PyM.eq_of_result rfl⟩
  have hE : (fetchExistingRoles malformedYamlRead).result = .ok (PySet.ofList []) := rfl
  exact ⟨hc, hin, hE, reconcileUsers_drops_all_on_malformed hc (.inl rfl) hin hE⟩

set_option smartUnfolding false in
/-- The cycle drops `bob`, with no desired user to tell it otherwise. -/
theorem reconcileUsers_drops_on_malformed_yaml :
    Event.call (.dropUser (.str "bob")) ∈ (reconcileUsers Config.default false malformedYamlWorld).world.log := by
  decide

/-! ## Roles that do not make a set -/

/-- A desired user whose `roles` do not make a set (`null`, or an item that
    cannot be hashed) stops the cycle as soon as its inputs are read:
    `all_desired_roles.update` raises outside any `try`, so no user's step is
    attempted and no error is counted before the exception leaves
    `reconcile_users`. -/
theorem reconcileUsers_aborts_on_malformed_roles {cfg : Config} {dryRun : Bool} {w w₄ : World}
    {D P : PyDict UserSpec} {live : PySet} (hin : CycleInputs cfg w D P live w₄)
    {userSpec : UserSpec} (hu : userSpec ∈ D.values) {e : PyExc} (hbad : pySet userSpec.roles = .error e) :
    ∃ e', reconcileUsers cfg dryRun w = ⟨.error e', w₄⟩ := by
  rw [hin.reconcileUsers_eq]
  cases hA : allDesiredRoles D with
  | error e' => exact ⟨e', reconcileLive_of_roles_error hA w₄⟩
  | ok A =>
    obtain ⟨s, hs⟩ := allDesiredRoles_pySet hA hu
    cases hbad.symm.trans hs

/-- `alice`, whose `roles` is `null`, and `bob`, a new user with no role. -/
def nullRolesYaml : YamlText :=
  .document (.dict [(.str "users", .list [.dict [(.str "username", .str "alice"), (.str "roles", .scalar .none)],
    .dict [(.str "username", .str "bob")]])])

/-- The users `nullRolesYaml` decodes to. -/
def nullRolesUsers : PyDict UserSpec :=
  (PyDict.empty.insert (.str "alice") ⟨.str "alice", .str "postgres", .scalar .none, .scalar .none⟩).insert
    (.str "bob") ⟨.str "bob", .str "postgres", .list [], .scalar .none⟩

/-- A cluster whose `users.yaml` is `nullRolesYaml`, with no user live yet. -/
def nullRolesWorld : World where
  db := { roles := [("postgres", true)], members := [], databases := ["postgres"],
          connect := [], grants := [], owners := [] }
  pool := ⟨[⟨false⟩], 1⟩
  cluster :=
    { configMaps := fun _ _ => some ⟨some [("users.yaml", nullRolesYaml)]⟩
      secrets := fun _ _ => some (.decoded "pw") }
  stateFile := none
  faults := fun _ => false

/-- `nullRolesWorld` once its cycle has read its inputs. -/
def nullRolesRead : World :=
  (fetchLiveUsers (loadState (parseDesiredUsers Config.default nullRolesYaml
    (fetchConfigmap Config.default nullRolesWorld).world).world).world).world

set_option smartUnfolding false in
/-- Neither `alice` nor `bob` is created: the cycle stops at the reads. -/
theorem nullRolesWorld_aborts :
    CycleInputs Config.default nullRolesWorld nullRolesUsers PyDict.empty (PySet.ofList []) nullRolesRead ∧
    (⟨.str "alice", .str "postgres", .scalar .none, .scalar .none⟩ : UserSpec) ∈ nullRolesUsers.values ∧
    pySet (.scalar .none) = .error .typeError ∧
    ∃ e', reconcileUsers Config.default false nullRolesWorld = ⟨.error e', nullRolesRead⟩ := by
  have hin : CycleInputs Config.default nullRolesWorld nullRolesUsers PyDict.empty (PySet.ofList [])
      nullRolesRead :=
    ⟨nullRolesYaml, _, _, _, PyM.eq_of_result rfl, PyM.eq_of_result rfl, PyM.eq_of_result rfl,
      PyM.eq_of_result rfl⟩
  have hu : (⟨.str "alice", .str "postgres", .scalar .none, .scalar .none⟩ : UserSpec) ∈ nullRolesUsers.values := by
    decide
  exact ⟨hin, hu, rfl, reconcileUsers_aborts_on_malformed_roles hin hu rfl⟩

end PgUserController
