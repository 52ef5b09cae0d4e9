-- SUMMARY: What a cycle that logs no error applies (the users it creates, and the live users whose previous roles differ from the desired ones, end with exactly their desired roles), what it leaves undone (a desired user already live and absent from the previous state never gets its roles), and work a successful cycle leaves for the next one.
import PgUserController.Failures
import PgUserController.Sessions

/-!
# Convergence

A real cycle that returns and logs no error has run every item of its loops to
the end. Each user it creates ends as a role with `LOGIN` whose memberships are
exactly its desired roles (`createUser_spec`), and each live user whose roles in
the previous state differ from the desired ones is read and set to them
(`updateUserRoles_spec`). No later statement of the cycle touches those users: the
creations and updates of the other users touch only their own roles, and the
drops come first. `reconcileUsers_applies_changed_users` assembles this from one
loop invariant per loop.

That is all a cycle changes. `reconcile_users` changes the memberships of a live
user only when the previous state holds it with roles other than the desired
ones: a user that already existed when it first became desired, or whose
previous state was lost, keeps the memberships it had, cycle after cycle.

`reconcile_roles` checks the desired roles against `fetch_existing_roles`, which
lists only roles without `LOGIN` outside the denylist, and it runs before the
drops. So a cycle in which every call succeeds can still leave the next cycle
something to do: here it drops a role that a desired user still names.
-/

namespace PgUserController

/-! ## What a cycle that logs no error applies -/

/-- A desired user the creation loop has passed, as `create_user` left it. -/
def CreatedOK (D : PyDict UserSpec) (k : Scalar) (c : Catalog) : Prop :=
  ∀ userSpec, D.get? k = some userSpec → userSpec.CreatedIn c

/-- A live desired user the update loop has passed: when its previous roles and
    its desired roles make different sets, it has exactly the desired ones. -/
def UpdatedOK (D P : PyDict UserSpec) (k : Scalar) (c : Catalog) : Prop :=
  ∀ userSpec prevSpec S₀ S, D.get? k = some userSpec → P.get? k = some prevSpec →
    pySet prevSpec.roles = .ok S₀ → pySet userSpec.roles = .ok S → S₀.beq S = false →
    ∃ n, k = .str n ∧ RolesAre n (fun x => .str x ∈ S) c

section Applied

variable {cfg : Config} {D P : PyDict UserSpec} {live : PySet}

/-- A statement that touches no role named `k` keeps what the loops applied to `k`. -/
theorem createdOK_preserved (hD : UsersKeyed D) {k : Scalar} {s : Stmt} (h : ∀ n, k = .str n → ¬ s.Touches n) :
    s.Preserves (CreatedOK D k) :=
  Stmt.Preserves.forall fun spec => Stmt.Preserves.imp fun hs =>
    UserSpec.createdIn_preserved fun n hn => h n (by simpa [hD k spec hs] using hn)

theorem updatedOK_preserved {k : Scalar} {s : Stmt} (h : ∀ n, k = .str n → ¬ s.Touches n) :
    s.Preserves (UpdatedOK D P k) := by
  intro db db' he hu spec prev S₀ S h₁ h₂ h₃ h₄ h₅
  obtain ⟨n, hn, hr⟩ := hu spec prev S₀ S h₁ h₂ h₃ h₄ h₅
  exact ⟨n, hn, Stmt.preserves_role (h n hn) (fun _ L => ∀ x, x ∈ L ↔ Scalar.str x ∈ S) db db' he hr⟩

/-- What the creation loop has applied once it has passed the users `done`. -/
def CreateLoopInv (D : PyDict UserSpec) (done : List Scalar) (c : Catalog) : Prop :=
  c.WF ∧ ∀ k ∈ done, CreatedOK D k c

/-- What the update loop has applied once it has passed the users `done`, after
    the creation loop passed the users `created`. -/
def UpdateLoopInv (D P : PyDict UserSpec) (created done : List Scalar) (c : Catalog) : Prop :=
  c.WF ∧ (∀ k ∈ created, CreatedOK D k c) ∧ ∀ k ∈ done, UpdatedOK D P k c

/-- A statement that touches only the role of `u` keeps what the creation loop
    applied to the other users. -/
theorem createLoopInv_preserved (hD : UsersKeyed D) {done : List Scalar} {u : Scalar} (hu : u ∉ done)
    {s : Stmt} (hs : ∀ m, s.Touches m → u = .str m) : s.Preserves (CreateLoopInv D done) :=
  (Stmt.preserves_wf s).and <| Stmt.Preserves.forall fun k => Stmt.Preserves.imp fun hk =>
    createdOK_preserved hD fun n hn ht => hu (by rw [hs n ht, ← hn]; exact hk)

theorem createUserItem_applies (hD : UsersKeyed D) {done : List Scalar} {k : Scalar} (hk : k ∉ done) :
    Triple (fun w => w.Sees (CreateLoopInv D done)) (createUserItem cfg D false k)
      fun _ w => w.Sees (CreateLoopInv D (done ++ [k])) ∨ .logError ∈ w.log := by
  unfold createUserItem
  split
  · exact Triple.raise _
  rename_i spec hspec
  refine Triple.isolate (Triple.bind (Triple.of_keeps (getUserPassword_keeps cfg k) (by simp)) fun pw => ?_)
  split
  · split
    · exact Triple.logError_countError
    refine Triple.bind (((createUser_spec spec _).and (Triple.of_keeps (createUser_keeps spec _ false)
      fun s hs => createLoopInv_preserved hD hk fun m ht => ?_)).weaken fun w hw => ⟨hw.1.1, hw⟩) fun _ => ?_
    · simpa [hD k spec hspec] using createUserStmts_touches (mutationEvent_sql.mp hs).2 ht
    refine Triple.modify fun w ⟨⟨ht, hc⟩, hs⟩ => .inl (World.sees_of_txn ht ⟨hs.1.1, fun k' hk' => ?_⟩)
    rcases List.mem_append.mp hk' with hk' | hk'
    · exact hs.1.2 k' hk'
    · obtain rfl : k' = k := by simpa using hk'
      intro spec' hspec'
      obtain rfl : spec' = spec := by simpa [hspec] using hspec'.symm
      exact hc
  · exact Triple.logError_countError

theorem createUsers_applies (hD : UsersKeyed D) :
    Triple (fun w => w.Sees Catalog.WF ∨ .logError ∈ w.log) (createUsers cfg D (D.keys.diff live) false)
      fun _ w => w.Sees (CreateLoopInv D (D.keys.diff live).elems) ∨ .logError ∈ w.log := by
  refine (Triple.forEach (fun done w => w.Sees (CreateLoopInv D done) ∨ .logError ∈ w.log)
    fun done k rest h => ?_).weaken ?_
  swap
  · exact fun w hw => hw.imp_left fun h => h.mono fun c hc => ⟨hc, fun _ h => nomatch h⟩
  have hnd := (D.keys.diff live).nodup
  rw [h] at hnd
  have hk : k ∉ done := fun hk => (List.nodup_append.mp hnd).2.2 hk (List.mem_cons_self _ _)
  have hl : k ∉ live := (PySet.mem_diff.mp (show k ∈ D.keys.diff live by rw [← PySet.mem_elems, h]; simp)).2
  exact ((createUserItem_applies hD hk).orLogged
    (createUserItem_keeps hl : Keeps (LiveEvent cfg D D live PySet.empty false) _)).conseq (fun _ h => h)
    fun _ _ h => h.elim id .inr


/-- A statement that touches only the role of `u` keeps what the loops applied to
    the other users. -/
theorem updateLoopInv_preserved (hD : UsersKeyed D) {created done : List Scalar} {u : Scalar}
    (hc : u ∉ created) (hu : u ∉ done) {s : Stmt} (hs : ∀ m, s.Touches m → u = .str m) :
    s.Preserves (UpdateLoopInv D P created done) :=
  (Stmt.preserves_wf s).and <| (Stmt.Preserves.forall fun k => Stmt.Preserves.imp fun hk =>
    createdOK_preserved hD fun n hn ht => hc (by rw [hs n ht, ← hn]; exact hk)).and <|
    Stmt.Preserves.forall fun k => Stmt.Preserves.imp fun hk =>
    updatedOK_preserved fun n hn ht => hu (by rw [hs n ht, ← hn]; exact hk)

theorem UpdateLoopInv.snoc {created done : List Scalar} {k : Scalar} {c : Catalog}
    (h : UpdateLoopInv D P created done c) (hk : UpdatedOK D P k c) : UpdateLoopInv D P created (done ++ [k]) c :=
  ⟨h.1, h.2.1, fun k' hk' => (List.mem_append.mp hk').elim (h.2.2 k') fun h' => by
    obtain rfl : k' = k := by simpa using h'
    exact hk⟩

/-- A user with exactly its desired roles. -/
theorem updatedOK_of {k : Scalar} {userSpec : UserSpec} {S : PySet} (hspec : D.get? k = some userSpec)
    (hS : pySet userSpec.roles = .ok S) {n : String} (hn : k = .str n) {c : Catalog}
    (hr : RolesAre n (fun x => .str x ∈ S) c) : UpdatedOK D P k c := by
  intro spec' _ _ S' h₁ _ _ h₄ _
  obtain rfl : spec' = userSpec := by simpa [hspec] using h₁.symm
  obtain rfl : S' = S := by simpa [hS] using h₄.symm
  exact ⟨n, hn, hr⟩

theorem updateUserItem_applies (hD : UsersKeyed D) {created done : List Scalar} {n : String}
    (hc : .str n ∉ created) (hk : .str n ∉ done) :
    Triple (fun w => w.Sees (UpdateLoopInv D P created done)) (updateUserItem D P false (.str n))
      fun _ w => w.Sees (UpdateLoopInv D P created (done ++ [.str n])) ∨ .logError ∈ w.log := by
  unfold updateUserItem
  split
  · exact Triple.raise _
  rename_i spec hspec
  split
  · rename_i hprev
    exact Triple.pure fun w hw => .inl (hw.mono fun c hc => hc.snoc fun _ _ _ _ _ h => by simp [hprev] at h)
  rename_i prev hprev
  refine Triple.bind (Triple.lift_ok _) fun S₀ => Triple.assume fun hS₀ =>
    Triple.bind (Triple.lift_ok _) fun S => Triple.assume fun hS => ?_
  split
  · rename_i hb
    refine Triple.pure fun w hw => .inl (hw.mono fun c hc => hc.snoc fun spec' prev' _ _ h₁ h₂ h₃ h₄ h₅ => ?_)
    obtain rfl : spec' = spec := by simpa [hspec] using h₁.symm
    obtain rfl : prev' = prev := by simpa [hprev] using h₂.symm
    rw [hS₀] at h₃; rw [hS] at h₄
    cases h₃; cases h₄
    simp [hb] at h₅
  refine Triple.isolate (Triple.bind (fetchUserRoles_spec n) fun actual => Triple.bind (Triple.lift_ok _)
    fun desired => Triple.assume fun hdes => ?_)
  obtain rfl : desired = S := by rw [hS] at hdes; cases hdes; rfl
  split
  · rename_i hb
    exact Triple.pure fun w ⟨hs, ht, hr⟩ => .inl (World.sees_of_txn ht (hs.1.snoc (updatedOK_of hspec hS rfl
      ⟨hs.1.1, fun x => (hr x).symm.trans (PySet.beq_iff.mp hb _)⟩)))
  refine Triple.bind (((updateUserRoles_spec n actual desired).and (Triple.of_keeps (updateUserRoles_keeps _ _ _ false)
    fun s hs => updateLoopInv_preserved hD hc hk fun m ht => updateUserRolesStmts_touches (mutationEvent_sql.mp hs).2 ht)).weaken
    fun w ⟨hs, ht, hr⟩ => ⟨⟨ht, hs.1.1, fun x => (hr x).symm⟩, hs⟩) fun _ => ?_
  exact Triple.modify fun w ⟨⟨ht, hr⟩, hs⟩ => .inl (World.sees_of_txn ht (hs.1.snoc (updatedOK_of hspec hS rfl hr)))

theorem updateUsers_applies (hD : UsersKeyed D) (hlive : ∀ u ∈ live, ∃ n, u = .str n) :
    Triple (fun w => w.Sees (UpdateLoopInv D P (D.keys.diff live).elems []) ∨ .logError ∈ w.log)
      (updateUsers D P (D.keys.inter live) false)
      fun _ w => w.Sees (UpdateLoopInv D P (D.keys.diff live).elems (D.keys.inter live).elems) ∨
        .logError ∈ w.log := by
  refine Triple.forEach (fun done w => w.Sees (UpdateLoopInv D P (D.keys.diff live).elems done) ∨ .logError ∈ w.log)
    fun done k rest h => ?_
  have hnd := (D.keys.inter live).nodup
  rw [h] at hnd
  have hk : k ∉ done := fun hk => (List.nodup_append.mp hnd).2.2 hk (List.mem_cons_self _ _)
  have hl : k ∈ live := (PySet.mem_inter.mp (show k ∈ D.keys.inter live by rw [← PySet.mem_elems, h]; simp)).2
  have hc : k ∉ (D.keys.diff live).elems := fun hc => (PySet.mem_diff.mp hc).2 hl
  obtain ⟨n, rfl⟩ := hlive k hl
  exact ((updateUserItem_applies hD hc hk).orLogged
    (updateUserItem_keeps hl : Keeps (LiveEvent Config.default D P live PySet.empty false) _)).conseq
    (fun _ h => h) fun _ _ h => h.elim id .inr


theorem applyDrift_applies (hD : UsersKeyed D) (hlive : ∀ u ∈ live, ∃ n, u = .str n) :
    Triple (fun w => w.Sees Catalog.WF) (applyDrift cfg D P live false)
      fun _ w => w.Sees (UpdateLoopInv D P (D.keys.diff live).elems (D.keys.inter live).elems) ∨
        .logError ∈ w.log := by
  have hdel : Keeps (LiveEvent cfg D P live PySet.empty false) (deleteUsers cfg P (live.diff D.keys) false) :=
    deleteUsers_keeps
  unfold applyDrift
  dsimp only [detectDrift]
  split <;> refine Triple.bind (show Triple _ _ fun _ => World.Sees Catalog.WF from
    Triple.modify fun _ h => h) fun _ =>
    (Triple.of_keeps hdel fun s _ => Stmt.preserves_wf s).bind fun _ =>
    ((createUsers_applies hD).weaken fun _ h => .inl h).bind fun _ =>
    ((updateUsers_applies hD hlive).weaken fun _ h => h.imp_left fun h => h.mono fun c hc =>
      ⟨hc.1, hc.2, fun _ h => nomatch h⟩).bind fun _ => ?_
  all_goals
    rw [if_pos (show (!false) = true from rfl)]
    refine Triple.of_reads (show Keeps (fun e => CallEvent (.saveState D) e ∨
      QueryEvent .fetchExistingRoles .selectRoles e) _ from ?_) (by simp [Stmt.isRead])
    exact ((saveState_keeps D).mono fun _ => .inl).bind fun _ =>
      (Keeps.of_frame fun _ => ⟨rfl, rfl, rfl, .inl rfl, rfl, rfl⟩).bind fun _ =>
      ((fetchRoleNames_keeps _ _).mono fun _ => .inr).bind fun _ =>
      .of_frame fun _ => ⟨rfl, rfl, rfl, .inl rfl, rfl, rfl⟩

theorem reconcileLive_applies (hD : UsersKeyed D) (hlive : ∀ u ∈ live, ∃ n, u = .str n) :
    Triple (fun w => w.Sees Catalog.WF) (reconcileLive cfg D P live false)
      fun _ w => w.Sees (UpdateLoopInv D P (D.keys.diff live).elems (D.keys.inter live).elems) ∨
        .logError ∈ w.log := by
  cases hA : allDesiredRoles D with
  | error e => intro w _ _ h; rw [reconcileLive_of_roles_error hA] at h; cases h
  | ok A => exact (Triple.of_keeps (reconcileRoles_keeps hA) fun s _ => Stmt.preserves_wf s).bind fun _ =>
      applyDrift_applies hD hlive
end Applied

/-- A real cycle from a well-formed catalog, with no transaction open, that
    returns and logs no error: every desired user it did not find live, or whose
    previous roles differ as a set from its desired roles, ends with exactly its
    desired roles as its memberships; one it did not find live also has `LOGIN`.
    The desired privilege keywords are plain, so that no `GRANT ... ON` of the
    cycle runs other SQL on the server; the model refuses any other keyword, so
    the proof does without the hypothesis. -/
theorem reconcileUsers_applies_changed_users {cfg : Config} {w w₄ : World} {D P : PyDict UserSpec} {live : PySet}
    (hin : CycleInputs cfg w D P live w₄) (_hplain : PlainPrivileges D) (hwf : w.db.WF) (htx : w.txn = none)
    (hok : (reconcileUsers cfg false w).result = .ok ())
    (herr : Event.logError ∉ (reconcileUsers cfg false w).world.log)
    {k : Scalar} {userSpec : UserSpec} (hk : D.get? k = some userSpec)
    (hchg : k ∉ live ∨ ∃ prevSpec S₀ S, P.get? k = some prevSpec ∧ pySet prevSpec.roles = .ok S₀ ∧
      pySet userSpec.roles = .ok S ∧ S₀.beq S = false) :
    ∃ n S, k = .str n ∧ pySet userSpec.roles = .ok S ∧
      (∀ x, x ∈ (reconcileUsers cfg false w).world.db.rolesOf n ↔ .str x ∈ S) ∧
      (k ∉ live → (reconcileUsers cfg false w).world.db.isLogin n = true) := by
  have hpre : w₄.Sees Catalog.WF :=
    hin.extends.sees (fun s _ => Stmt.preserves_wf s) (World.sees_of_txn htx hwf)
  rw [hin.reconcileUsers_eq] at hok herr ⊢
  obtain ⟨⟨-, hcreated, hupdated⟩, -⟩ := (reconcileLive_applies hin.keyed
    (fun u hu => (hin.live_not_system u hu).imp fun _ h => h.1) w₄ hpre () hok).resolve_right herr
  have hkD : k ∈ D.keys := PyDict.mem_keys.mpr (by simp [hk])
  by_cases hl : k ∈ live
  · obtain ⟨prevSpec, S₀, S, hp, hS₀, hS, hb⟩ := hchg.resolve_left (not_not.mpr hl)
    obtain ⟨n, hn, -, hr⟩ := hupdated k (by simpa using ⟨hkD, hl⟩) userSpec prevSpec S₀ S hk hp hS₀ hS hb
    exact ⟨n, S, hn, hS, hr, fun h => absurd hl h⟩
  · obtain ⟨n, roles, hn, hroles, -, hlogin, hr⟩ := hcreated k (by simpa using ⟨hkD, hl⟩) userSpec hk
    cases hA : allDesiredRoles D with
    | error e => rw [reconcileLive_of_roles_error hA] at hok; cases hok
    | ok A =>
      obtain ⟨S, hS⟩ := allDesiredRoles_pySet hA (PyDict.mem_values_of_get? hk)
      have hkn : k = .str n := by simpa [hin.keyed k userSpec hk] using hn
      exact ⟨n, S, hkn, hS, fun x => (hr x).trans (mem_pySet_iff hS hroles).symm, fun _ => hlogin⟩

/-- `alice`, desired as a member of `team`, does not exist yet. -/
def newUserWorld : World where
  db := { roles := [("postgres", true), ("team", false)], members := [], databases := ["postgres"],
          connect := [], grants := [], owners := [] }
  pool := ⟨[⟨false⟩], 1⟩
  cluster :=
    { configMaps := fun _ _ => some ⟨some [("users.yaml", .document (.dict [(.str "users",
        .list [userEntry "alice" [.str "team"]])]))]⟩
      secrets := fun _ _ => some (.decoded "pw") }
  stateFile := none
  faults := fun _ => false

/-- The desired users of `newUserWorld`. -/
def aliceUsers : PyDict UserSpec :=
  PyDict.empty.insert (.str "alice") ⟨.str "alice", .str "postgres", .list [.str "team"], .scalar .none⟩

/-- `newUserWorld` once its cycle has read its inputs. -/
def newUserRead : World :=
  (fetchLiveUsers (loadState (parseDesiredUsers Config.default (.document (.dict [(.str "users",
    .list [userEntry "alice" [.str "team"]])]))
    (fetchConfigmap Config.default newUserWorld).world).world).world).world

set_option smartUnfolding false in
theorem newUserWorld_applies :
    CycleInputs Config.default newUserWorld aliceUsers PyDict.empty (PySet.ofList [.str "team"]) newUserRead ∧
    PlainPrivileges aliceUsers ∧ newUserWorld.db.WF ∧ newUserWorld.txn = none ∧
    (reconcileUsers Config.default false newUserWorld).result = .ok () ∧
    Event.logError ∉ (reconcileUsers Config.default false newUserWorld).world.log ∧
    aliceUsers.get? (.str "alice") = some ⟨.str "alice", .str "postgres", .list [.str "team"], .scalar .none⟩ ∧
    (Scalar.str "alice" ∉ PySet.ofList [.str "team"] ∨ ∃ prevSpec S₀ S, (PyDict.empty : PyDict UserSpec).get? (.str "alice") = some prevSpec ∧
      pySet prevSpec.roles = .ok S₀ ∧ pySet (PyVal.list [.str "team"]) = .ok S ∧ S₀.beq S = false) ∧
    ∃ n S, Scalar.str "alice" = .str n ∧ pySet (PyVal.list [.str "team"]) = .ok S ∧
      (∀ x, x ∈ (reconcileUsers Config.default false newUserWorld).world.db.rolesOf n ↔ .str x ∈ S) ∧
      (Scalar.str "alice" ∉ PySet.ofList [.str "team"] →
        (reconcileUsers Config.default false newUserWorld).world.db.isLogin n = true) := by
  have hin : CycleInputs Config.default newUserWorld aliceUsers PyDict.empty (PySet.ofList [.str "team"])
      newUserRead :=
    ⟨_, _, _, _, PyM.eq_of_result rfl, PyM.eq_of_result rfl, PyM.eq_of_result rfl, PyM.eq_of_result rfl⟩
  have hwf : newUserWorld.db.WF := fun _ h => nomatch h
  have hok : (reconcileUsers Config.default false newUserWorld).result = .ok () := rfl
  have herr : Event.logError ∉ (reconcileUsers Config.default false newUserWorld).world.log := by decide
  have hk : aliceUsers.get? (.str "alice") = some ⟨.str "alice", .str "postgres", .list [.str "team"], .scalar .none⟩ :=
    rfl
  have hchg : Scalar.str "alice" ∉ PySet.ofList [.str "team"] ∨ ∃ prevSpec S₀ S,
      (PyDict.empty : PyDict UserSpec).get? (.str "alice") = some prevSpec ∧
      pySet prevSpec.roles = .ok S₀ ∧ pySet (PyVal.list [.str "team"]) = .ok S ∧ S₀.beq S = false :=
    .inl (by decide)
  have hplain : PlainPrivileges aliceUsers := .of_none (by decide)
  exact ⟨hin, hplain, hwf, rfl, hok, herr, hk, hchg,
    reconcileUsers_applies_changed_users hin hplain hwf rfl hok herr hk hchg⟩

/-- `alice` and the role `team` exist, `alice` is desired as a member of `team`,
    and there is no state file. -/
def existingMemberWorld : World where
  db := { roles := [("postgres", true), ("alice", true), ("team", false)], members := [],
          databases := ["postgres"], connect := [], grants := [], owners := [] }
  pool := ⟨[⟨false⟩], 1⟩
  cluster :=
    { configMaps := fun _ _ => some ⟨some [("users.yaml", .document (.dict [(.str "users",
        .list [userEntry "alice" [.str "team"]])]))]⟩
      secrets := fun _ _ => some (.decoded "pw") }
  stateFile := none
  faults := fun _ => false

set_option smartUnfolding false in
/-- Two cycles log no error, and `alice` still is in no role. -/
theorem reconcileUsers_never_grants_existing_user :
    Event.logError ∉ (reconcileUsers Config.default false existingMemberWorld).world.log ∧
    Event.logError ∉
      (reconcileUsers Config.default false (reconcileUsers Config.default false existingMemberWorld).world).world.log ∧
    (reconcileUsers Config.default false
      (reconcileUsers Config.default false existingMemberWorld).world).world.db.isLogin "alice" = true ∧
    (reconcileUsers Config.default false
      (reconcileUsers Config.default false existingMemberWorld).world).world.db.rolesOf "alice" = [] := by
  decide

/-- `alice` is desired as a member of `team`, and already is one; the previous
    state also holds `team` as a user, which the desired users no longer do. -/
def droppedRoleWorld : World where
  db := { roles := [("postgres", true), ("alice", true), ("team", false)], members := [("team", "alice")],
          databases := ["postgres"], connect := [], grants := [], owners := [] }
  pool := ⟨[⟨false⟩], 1⟩
  cluster :=
    { configMaps := fun _ _ => some ⟨some [("users.yaml", .document (.dict [(.str "users",
        .list [userEntry "alice" [.str "team"]])]))]⟩
      secrets := fun _ _ => some (.decoded "pw") }
  stateFile := some (.value (.dict [(.str "alice", userEntry "alice" [.str "team"]),
    (.str "team", userEntry "team" [])]))
  faults := fun _ => false

set_option smartUnfolding false in
/-- The first cycle logs no error, and drops `team`: `fetch_existing_users` lists
    the role without `LOGIN` as live, and the previous state holds it. The second
    cycle, from the world the first left, creates `team` again. -/
theorem reconcileUsers_second_cycle_creates_role :
    Event.logError ∉ (reconcileUsers Config.default false droppedRoleWorld).world.log ∧
    Event.call (.createRole (.str "team")) ∈
      ((reconcileUsers Config.default false (reconcileUsers Config.default false droppedRoleWorld).world).world.log.drop
        (reconcileUsers Config.default false droppedRoleWorld).world.log.length) := by
  decide

end PgUserController
