-- SUMMARY: Idempotence: a real cycle that returns and logs no error leaves a settled world (every desired role and user listed by the queries of `pg_roles`, the desired users in the state file), and a second cycle from it calls no mutation, when no desired role is a user the cycle drops and every name lies outside the denylist; and a cycle whose save wrote the file leaves the next one nothing to drop.
import PgUserController.Convergence
import PgUserController.Counters
import PgUserController.StateFile

/-!
# Idempotence

A second cycle calls a mutation of `DatabaseClient` only when `reconcile_roles`
finds a desired role that `fetch_existing_roles` does not list, when a desired
user is not among `fetch_existing_users`, or when the previous state holds a user
that is no longer desired, or holds a desired one with other roles. A world where
none of this can happen is `Settled`, and a cycle from it calls no mutation
(`CycleInputs.quiet`): its loops find nothing to create, the users it would drop
are not in the previous state, and the roles of each previous user equal the
desired ones.

A real cycle that returns and logs no error leaves a settled world
(`reconcileUsers_settles`). It has created each desired role that was not listed,
as a role without `LOGIN`; created each desired user that was not live, with
`LOGIN`; dropped no desired user; and written the desired users to the state
file, which reads back as them when their fields are JSON as they are. What it
needs beyond its own success is that every desired role and username lies outside
the denylist, which both queries of `pg_roles` hide, and that it drops no desired
role: `Convergence` shows a cycle that drops one, after `reconcile_roles` has found
it, and a second cycle that creates it again.

The second cycle reads the same desired users, since `fetch_configmap` returns
what the cluster holds and `parse_desired_users` depends on the text alone, and a
previous state that is the desired users, or `{}` when the file cannot be opened
(`reconcileUsers_idempotent`). The same two facts say that a cycle whose
`save_state` wrote the file, whatever its mutations did, leaves the next cycle no
user to drop (`reconcileUsers_saves_desired_users`).

Two cycles compare as the server runs them only when every privilege keyword is
plain and every name fits in 63 bytes (`Catalog`): otherwise a keyword can drop a
role the first cycle relied on, or a long name is stored truncated and created
again. The theorems state both as hypotheses.
-/

namespace PgUserController

/-! ## A cycle that calls no mutation -/

/-- A run that sends only quiet events calls no mutation. -/
theorem Extends.mutationCalls_eq {w w' : World} (h : Extends Quiet w w') :
    mutationCalls w'.log = mutationCalls w.log := by
  obtain ⟨new, hl, hq, -⟩ := h
  rw [hl, mutationCalls_append, mutationCalls_eq_nil hq, List.append_nil]

theorem PrefixEvent.quiet {e : Event} (h : PrefixEvent e) : Quiet e := by
  rintro c rfl
  rcases h with h | h | h <;> simp at h <;> subst h <;> rfl

section Quiet

variable {cfg : Config} {D P : PyDict UserSpec} {live A : PySet} {dryRun : Bool}

/-- `reconcile_roles` calls no `create_role` when `fetch_existing_roles` lists every
    desired role. -/
theorem reconcileRoles_quiet (hA : allDesiredRoles D = .ok A) {w : World}
    (hE : ∀ r ∈ A, r ∈ w.db.selectRoles true) : Extends Quiet w (reconcileRoles D dryRun w).world := by
  have hq : Keeps Quiet fetchExistingRoles := (fetchRoleNames_keeps _ _).mono fun _ => QueryEvent.quiet (by rfl)
  unfold reconcileRoles
  rw [PyM.bind_ok (show PyM.lift (allDesiredRoles D) w = ⟨.ok A, w⟩ by rw [hA]; rfl)]
  rcases hf : fetchExistingRoles w with ⟨_ | E, w₅⟩
  · rw [PyM.bind_error hf]
    exact hq.run hf
  · rw [PyM.bind_ok hf]
    obtain ⟨-, -, rows, hrows, rfl⟩ :=
      fetchRoleNames_spec .fetchExistingRoles (show Stmt.selectRoles.isRead = true from rfl) w.db w rfl E
        (show (fetchExistingRoles w).result = _ by rw [hf])
    cases hrows
    have hnil : (A.diff (PySet.ofList (w.db.selectRoles true))).elems = [] :=
      List.eq_nil_iff_forall_not_mem.mpr fun r hr => by
        simp only [PySet.mem_elems, PySet.mem_diff, PySet.mem_ofList] at hr
        exact hr.2 (hE r hr.1)
    rw [hnil]
    exact hq.run hf

/-- What `applyDrift` does once its loops are over: save the state in real mode,
    then record the metrics. It calls no mutation and leaves the counters. -/
theorem afterUpdates_quiet (D : PyDict UserSpec) (dryRun : Bool) :
    let tail : PyM Unit := do
      if !dryRun then saveState D
      PyM.modify fun w => { w with metrics := { w.metrics with usersManaged := D.card } }
      let roles ← fetchExistingRoles
      PyM.modify fun w => { w with metrics := { w.metrics with rolesManaged := roles.card } }
    Keeps Quiet tail ∧ Leaves World.stats tail := by
  constructor
  · split <;> refine Keeps.bind ?_ fun _ => (Keeps.of_frame fun _ => ⟨rfl, rfl, rfl, .inl rfl, rfl, rfl⟩).bind fun _ =>
      ((fetchRoleNames_keeps _ _).mono fun _ => QueryEvent.quiet (by rfl)).bind fun _ =>
        .of_frame fun _ => ⟨rfl, rfl, rfl, .inl rfl, rfl, rfl⟩
    · exact (saveState_keeps D).mono fun e h => by rintro c rfl; simp at h; rw [h]; rfl
    · exact .pure _
  · split <;> refine Leaves.bind ?_ fun _ => (metrics_leaves _).bind fun _ =>
      (fetchRoleNames_leaves _ _).bind fun _ => metrics_leaves _
    exacts [saveState_leaves D, .pure _]

/-- The loops of `applyDrift` call nothing when every desired user is live and the
    previous state holds only desired users as they are desired. -/
theorem applyDrift_quiet (hlive : ∀ k ∈ D.keys, k ∈ live)
    (hP : ∀ k prev, P.get? k = some prev → D.get? k = some prev) :
    Keeps Quiet (applyDrift cfg D P live dryRun) := by
  have hdel : Keeps Quiet (deleteUsers cfg P (live.diff D.keys) dryRun) := Keeps.forEach fun u hu => by
    have hu : u ∉ P.keys := fun hp => by
      obtain ⟨prev, hprev⟩ := Option.isSome_iff_exists.mp (PyDict.mem_keys.mp hp)
      exact (PySet.mem_diff.mp hu).2 (PyDict.mem_keys.mpr (by simp [hP u prev hprev]))
    unfold deleteUserItem
    rw [if_neg hu]
    exact .pure ()
  have hcre : Keeps Quiet (createUsers cfg D (D.keys.diff live) dryRun) := Keeps.forEach fun u hu =>
    absurd (hlive u (PySet.mem_diff.mp hu).1) (PySet.mem_diff.mp hu).2
  have hupd : Keeps Quiet (updateUsers D P (D.keys.inter live) dryRun) := Keeps.forEach fun u _ => by
    unfold updateUserItem
    split
    · exact .raise _
    rename_i spec hspec
    split
    · exact .pure ()
    rename_i prev hprev
    obtain rfl : prev = spec := Option.some.inj ((hP u prev hprev).symm.trans hspec)
    refine Keeps.lift_bind fun S₀ h₀ => Keeps.lift_bind fun S h => ?_
    cases h₀.symm.trans h
    rw [if_pos (PySet.beq_iff.mpr fun _ => Iff.rfl)]
    exact .pure ()
  unfold applyDrift
  dsimp only [detectDrift]
  split <;> exact Keeps.bind (by first | exact .modifyStats _ | exact .pure _) fun _ =>
    hdel.bind fun _ => hcre.bind fun _ => hupd.bind fun _ => (afterUpdates_quiet D dryRun).1

/-- A cycle's reconciliation calls no mutation when the catalog already lists every
    desired role and user, and the previous state holds only desired users as desired. -/
theorem reconcileLive_quiet (hA : allDesiredRoles D = .ok A) {w : World}
    (hE : ∀ r ∈ A, r ∈ w.db.selectRoles true) (hlive : ∀ k ∈ D.keys, k ∈ live)
    (hP : ∀ k prev, P.get? k = some prev → D.get? k = some prev) :
    Extends Quiet w (reconcileLive cfg D P live dryRun w).world := by
  have hroles : Extends Quiet w (reconcileRoles D dryRun w).world := reconcileRoles_quiet hA hE
  unfold reconcileLive
  rcases hr : reconcileRoles D dryRun w with ⟨_ | _, w₅⟩ <;> rw [hr] at hroles
  · rw [PyM.bind_error hr]; exact hroles
  · rw [PyM.bind_ok hr]; exact hroles.trans (applyDrift_quiet hlive hP w₅)

end Quiet

/-! ## The inputs of a second cycle -/

section Inputs

variable {α : Type}

/-- A read of the Kubernetes API returns the object the cluster holds. -/
theorem apiRead_returns (obj : Cluster → Option α) :
    Triple (fun _ => True) (apiRead obj) fun o w => obj w.cluster = some o := fun w _ o h => by
  unfold apiRead at h ⊢
  dsimp only at h ⊢
  split at h
  · cases h
  · rename_i hf
    rw [if_neg hf]
    split at h <;> cases h
    rename_i hobj
    simp only [hobj]

/-- The retry loop returns only what an attempt returned. -/
theorem withRetries_returns {attempt : PyM (Option α)} {Q : α → World → Prop}
    (ha : Triple (fun _ => True) attempt fun o w => ∀ y, o = some y → Q y w) :
    ∀ n, Triple (fun _ => True) (withRetries attempt n) fun o w => ∀ y, o = some y → Q y w
  | 0 => ha.tryCatch fun _ => by
    unfold onApiException
    split
    exacts [Triple.pure (fun _ _ _ h => nomatch h), Triple.bind_raise _, Triple.raise _]
  | n + 1 => ha.tryCatch fun _ => by
    unfold onApiException
    split
    exacts [Triple.pure (fun _ _ _ h => nomatch h), withRetries_returns ha n, Triple.raise _]

/-- `fetch_configmap` returns the `users.yaml` entry of the cluster's ConfigMap. -/
theorem fetchConfigmap_returns (cfg : Config) :
    Triple (fun _ => True) (fetchConfigmap cfg) fun o w => ∀ y, o = some y →
      ∃ cm d, w.cluster.configMaps cfg.namespace_ cfg.configmapName = some cm ∧ cm.data = some d ∧
        y = (d.lookup "users.yaml").getD .empty :=
  Triple.record_bind (fun _ _ => trivial) <| withRetries_returns (Triple.bind (apiRead_returns _) fun cm => by
    split
    · exact Triple.raise _
    · rename_i d hd
      exact Triple.pure fun _ hcm y hy => ⟨cm, d, hcm, hd, (Option.some.inj hy).symm⟩) _

/-- Two runs of `fetch_configmap` on one cluster return the same `users.yaml`. -/
theorem fetchConfigmap_same {cfg : Config} {w w' : World} (hc : w'.cluster = w.cluster) {y y' : YamlText}
    (h : (fetchConfigmap cfg w).result = .ok (some y)) (h' : (fetchConfigmap cfg w').result = .ok (some y')) :
    y' = y := by
  obtain ⟨cm, d, hcm, hd, rfl⟩ := fetchConfigmap_returns cfg w trivial _ h y rfl
  obtain ⟨cm', d', hcm', hd', rfl⟩ := fetchConfigmap_returns cfg w' trivial _ h' y' rfl
  rw [((fetchConfigmap_keeps cfg) w').cluster_eq, hc, ← ((fetchConfigmap_keeps cfg) w).cluster_eq, hcm] at hcm'
  cases hcm'
  rw [hd] at hd'
  cases hd'
  rfl

/-- What `parse_desired_users` returns depends on the text alone. -/
theorem parseDesiredUsers_result (cfg : Config) (yamlContent : YamlText) (w w' : World) :
    (parseDesiredUsers cfg yamlContent w').result = (parseDesiredUsers cfg yamlContent w).result := by
  unfold parseDesiredUsers
  split
  · rfl
  · rfl
  · cases decodeUsers cfg _ with
    | ok => rfl
    | error e => cases e <;> rfl

/-- `load_state` on a file that loads as the users `D` returns them, or `{}` when
    the file cannot be opened. -/
theorem loadState_of_saved {w : World} {data : PyVal} {D P : PyDict UserSpec} (hs : w.stateFile = some (.value data))
    (hD : stateOfJson data = .ok D) (h : (loadState w).result = .ok P) : P = D ∨ P = PyDict.empty := by
  cases hf : w.faults w.tick
  · rw [loadState_value hs hf, hD] at h
    exact .inl (Except.ok.inj h).symm
  · simp [loadState, record, PyM.read, fault, PyM.modify, PyM.bind_apply, hs, hf, logError] at h
    exact .inr h.symm

/-- Two cycles that read the same cluster read the same desired users. -/
theorem CycleInputs.desired_eq {cfg : Config} {w w₄ w' w₄' : World} {D P D' P' : PyDict UserSpec}
    {live live' : PySet} (hin : CycleInputs cfg w D P live w₄) (hin' : CycleInputs cfg w' D' P' live' w₄')
    (hcl : w'.cluster = w.cluster) : D' = D := by
  obtain ⟨y, w₁, _, _, hc, hp, -, -⟩ := hin
  obtain ⟨y', w₁', _, _, hc', hp', -, -⟩ := hin'
  obtain rfl : y' = y := fetchConfigmap_same hcl (by rw [hc]) (by rw [hc'])
  have h := parseDesiredUsers_result cfg y' w₁ w₁'
  rw [hp, hp'] at h
  exact Except.ok.inj h

end Inputs

/-! ## What a clean cycle leaves -/

section Settles

variable {cfg : Config} {D P : PyDict UserSpec} {live A : PySet} {dryRun : Bool}

/-- The only statements of a cycle that drop a role are those of `drop_user`, for a
    live user outside the desired users that the previous state holds. -/
theorem LiveEvent.drops {s : Stmt} {n : String} (h : LiveEvent cfg D P live A dryRun (.sql s))
    (hd : s.Drops n) : Scalar.str n ∈ live ∧ Scalar.str n ∉ D.keys ∧ Scalar.str n ∈ P.keys := by
  rcases h with (h | ⟨r, -, h⟩) | ⟨u, hu, hD, hP, h⟩ | ⟨u, spec, -, -, h | ⟨pw, h⟩⟩ |
      ⟨u, spec, -, -, h | ⟨old, new, -, h⟩⟩ | ⟨-, h⟩ <;>
    simp only [queryEvent_sql, callEvent_sql, mutationEvent_sql] at h
  · subst h; cases hd
  · obtain ⟨m, -, rfl⟩ := h.2; cases hd
  · obtain ⟨m, rfl, rfl | rfl | rfl | rfl⟩ := h.2 <;> simp only [Stmt.Drops] at hd
    subst hd
    exact ⟨hu, hD, hP⟩
  · obtain ⟨m, -, rfl | ⟨_, -, rfl⟩ | ⟨_, -, _, -, rfl⟩ | ⟨_, -, _, _, -, _, -, _, -, rfl⟩⟩ := h.2 <;> cases hd
  · subst h; cases hd
  · obtain ⟨m, r, -, ⟨rfl, -⟩ | ⟨rfl, -⟩⟩ := h.2 <;> cases hd

/-- A name a `SELECT` on `pg_roles` lists stays listed over a cycle, unless the cycle
    drops it as a user no longer desired. -/
theorem LiveEvent.preserves_selected {u : Scalar} (hu : u ∈ live → u ∉ D.keys → u ∉ P.keys) (b : Bool)
    (s : Stmt) (h : LiveEvent cfg D P live A dryRun (.sql s)) : s.Preserves fun c => u ∈ c.selectRoles b :=
  Stmt.preserves_selected (fun n hn hd => by
    obtain ⟨h₁, h₂, h₃⟩ := h.drops hd
    exact hu (hn ▸ h₁) (hn ▸ h₂) (hn ▸ h₃)) b

/-- One pass of the loop of a real `reconcile_roles`: the role it creates is listed
    by `fetch_existing_roles` from then on, and so is every role listed before. -/
theorem createRoleItem_lists (hroles : ∀ r ∈ A, ∃ n, r = .str n ∧ n ∉ systemRoles) {E : PySet}
    {done : List Scalar} {r : Scalar} (hr : r ∈ A) :
    Triple (fun w => w.txn = none ∧ ∀ r' ∈ A, r' ∈ E ∨ r' ∈ done → r' ∈ w.db.selectRoles true)
      (createRoleItem false r)
      fun _ w => (w.txn = none ∧ ∀ r' ∈ A, r' ∈ E ∨ r' ∈ done ++ [r] → r' ∈ w.db.selectRoles true) ∨
        .logError ∈ w.log := by
  refine (Triple.isolate (Triple.bind (@createRole_spec r
    (fun c => ∀ r' ∈ A, r' ∈ E ∨ r' ∈ done → r' ∈ c.selectRoles true)
    (fun c => ∀ r' ∈ A, r' ∈ E ∨ r' ∈ done ++ [r] → r' ∈ c.selectRoles true)
    fun n c c' hn he hv r' hr' hmem => ?_) fun _ => Triple.modify fun _ hw => .inl hw)).weaken fun _ hw => hw.2
  rcases hmem with hmem | hmem
  · exact Stmt.preserves_selected (fun _ _ hd => by cases hd) true c c' he (hv r' hr' (.inl hmem))
  rcases List.mem_append.mp hmem with hmem | hmem
  · exact Stmt.preserves_selected (fun _ _ hd => by cases hd) true c c' he (hv r' hr' (.inr hmem))
  obtain rfl : r' = r := List.mem_singleton.mp hmem
  obtain ⟨m, hm, hsys⟩ := hroles r' hr
  obtain rfl : m = n := by rw [hm] at hn; cases hn; rfl
  obtain ⟨hrole, hlogin⟩ := Stmt.exec_createRole he
  rw [hm]
  exact Catalog.mem_selectRoles_of_nologin hrole hlogin hsys true

/-- A real `reconcile_roles` that returns leaves every desired role listed by
    `fetch_existing_roles`, unless it logged an error. -/
theorem reconcileRoles_lists_roles (hA : allDesiredRoles D = .ok A)
    (hroles : ∀ r ∈ A, ∃ n, r = .str n ∧ n ∉ systemRoles) :
    Triple (fun _ => True) (reconcileRoles D false)
      fun _ w => (w.txn = none ∧ ∀ r ∈ A, r ∈ w.db.selectRoles true) ∨ .logError ∈ w.log := by
  unfold reconcileRoles
  refine Triple.bind (Triple.lift_ok _) fun A' => Triple.assume fun hA' => ?_
  cases hA.symm.trans hA'
  have hfetch : Triple (fun _ => True) fetchExistingRoles
      fun E w => w.txn = none ∧ ∀ r, r ∈ E ↔ r ∈ w.db.selectRoles true :=
    (Triple.exists_pre fun c => (fetchRoleNames_spec .fetchExistingRoles
      (show Stmt.selectRoles.isRead = true from rfl) c).conseq (fun _ h => h)
      fun E w ⟨ht, hd, rows, hrows, hE⟩ => ⟨ht, fun r => by cases hrows; rw [hE, hd, PySet.mem_ofList]⟩).weaken
      fun w _ => ⟨w.db, rfl⟩
  refine Triple.bind hfetch fun E => ?_
  refine (Triple.forEach (fun done w => (w.txn = none ∧ ∀ r ∈ A, r ∈ E ∨ r ∈ done → r ∈ w.db.selectRoles true) ∨
      .logError ∈ w.log) fun done r rest h => ?_).conseq
    (fun w ⟨ht, hE⟩ => .inl ⟨ht, fun r _ hr => (hE r).mp (hr.resolve_right (List.not_mem_nil r))⟩)
    fun _ w hw => hw.imp_left fun ⟨ht, hv⟩ => ⟨ht, fun r hr => hv r hr (by
      by_cases hrE : r ∈ E
      · exact .inl hrE
      · exact .inr (PySet.mem_diff.mpr ⟨hr, hrE⟩))⟩
  have hrA : r ∈ A := (PySet.mem_diff.mp (show r ∈ (A.diff E).elems by rw [h]; simp)).1
  have hk : Keeps (fun _ => True) (createRoleItem false r) :=
    Keeps.isolate (((createRole_keeps r false).mono fun _ _ => trivial).bind fun _ => .modifyStats _) trivial
  exact ((createRoleItem_lists hroles hrA).orLogged hk).conseq (fun _ h => h) fun _ _ h => h.elim id .inr

/-- A run that saves nothing keeps what the state file holds, or the error logged. -/
theorem keeps_stateFile {α : Type} {Q : Event → Prop} {x : PyM α} (hk : Keeps Q x)
    (hQ : ∀ e, Q e → e.writesState = false) (R : Option JsonText → Prop) :
    Triple (fun w => R w.stateFile ∨ .logError ∈ w.log) x fun _ w => R w.stateFile ∨ .logError ∈ w.log :=
  fun w hw _ _ => by
    obtain ⟨new, hl, -⟩ := hk w
    rw [(hk w).stateFile_eq hQ, hl]
    exact hw.imp_right (List.mem_append_left _)

/-- The state file holds what `save_state` writes for `users`. -/
def SavedAs (users : PyDict UserSpec) (stateFile : Option JsonText) : Prop :=
  ∃ v, jsonValue (.dict (users.entries.map fun e => (e.1, e.2.asdict))) = .ok v ∧ stateFile = some (.value v)

/-- A `save_state` that returns has written the JSON of the users, unless it logged
    an error. -/
theorem saveState_writes (users : PyDict UserSpec) :
    Triple (fun _ => True) (saveState users) fun _ w => SavedAs users w.stateFile ∨ .logError ∈ w.log :=
  fun w _ _ h => by
  by_cases h₁ : w.faults w.tick
  · exact .inr (by simp [saveState, h₁])
  cases hj : jsonValue (.dict (users.entries.map fun e => (e.1, e.2.asdict))) with
  | error e => simp [saveState, h₁, hj] at h
  | ok v =>
    by_cases h₂ : w.faults (w.tick + 1)
    · exact .inr (by simp [saveState, h₁, hj, h₂])
    · exact .inl ⟨v, hj, by simp [saveState, h₁, hj, h₂]⟩

/-- A real `applyDrift` that returns has written the desired users to the state
    file, unless it logged an error. -/
theorem applyDrift_writes_state :
    Triple (fun _ => True) (applyDrift cfg D P live false) fun _ w => SavedAs D w.stateFile ∨ .logError ∈ w.log := by
  have any : ∀ {β} {x : PyM β}, Triple (fun _ => True) x fun _ _ => True := fun _ _ _ _ => trivial
  have tail : Keeps (QueryEvent .fetchExistingRoles .selectRoles) (do
      PyM.modify fun w => { w with metrics := { w.metrics with usersManaged := D.card } }
      let roles ← fetchExistingRoles
      PyM.modify fun w => { w with metrics := { w.metrics with rolesManaged := roles.card } } : PyM Unit) :=
    (Keeps.of_frame fun _ => ⟨rfl, rfl, rfl, .inl rfl, rfl, rfl⟩).bind fun _ =>
      (fetchRoleNames_keeps _ _).bind fun _ => .of_frame fun _ => ⟨rfl, rfl, rfl, .inl rfl, rfl, rfl⟩
  unfold applyDrift
  dsimp only [detectDrift]
  split <;> refine any.bind fun _ => any.bind fun _ => any.bind fun _ => any.bind fun _ => ?_ <;>
    rw [if_pos (show (!false) = true from rfl)] <;>
    exact (saveState_writes D).bind fun _ => keeps_stateFile tail (fun e he => by
      rcases he with rfl | rfl | rfl <;> rfl) (SavedAs D)

end Settles

/-! ## Two cycles -/

/-- A world a cycle with the desired users `D`, whose roles make the set `A`, has
    nothing to do in: `fetch_existing_roles` lists every desired role,
    `fetch_existing_users` every desired user, and the state file loads as `D`. -/
def Settled (D : PyDict UserSpec) (A : PySet) (w : World) : Prop :=
  (∀ r ∈ A, r ∈ w.db.selectRoles true) ∧ (∀ k ∈ D.keys, k ∈ w.db.selectRoles false) ∧
    ∃ data, w.stateFile = some (.value data) ∧ stateOfJson data = .ok D

/-- A real cycle that returns and logs no error leaves a settled world, when the
    desired roles and usernames are strings outside the denylist, the users'
    fields are JSON as they are, and no desired role is a user that the previous
    state holds and the desired users no longer do. -/
theorem reconcileUsers_settles {cfg : Config} {w w₄ : World} {D P : PyDict UserSpec} {live A : PySet}
    (hin : CycleInputs cfg w D P live w₄) (hwf : w.db.WF) (htx : w.txn = none)
    (hA : allDesiredRoles D = .ok A) (hroles : ∀ r ∈ A, ∃ n, r = .str n ∧ n ∉ systemRoles)
    (hkeys : ∀ k ∈ D.keys, ∃ n, k = .str n ∧ n ∉ systemRoles)
    (hsafe : ∀ userSpec ∈ D.values, jsonSafe userSpec.asdict = true)
    (hdrop : ∀ r ∈ A, r ∈ P.keys → r ∈ D.keys)
    (hok : (reconcileUsers cfg false w).result = .ok ())
    (herr : Event.logError ∉ (reconcileUsers cfg false w).world.log) :
    Settled D A (reconcileUsers cfg false w).world := by
  obtain ⟨hlive, -⟩ := hin.live_eq
  have hdb : w₄.db = w.db := hin.extends.db_eq fun e he => by
    rcases he with (rfl | rfl) | (rfl | rfl) | rfl | rfl | rfl <;> rfl
  have hkeep : Keeps (LiveEvent cfg D P live A false) (applyDrift cfg D P live false) := applyDrift_keeps
  rw [hin.reconcileUsers_eq] at hok herr ⊢
  have hrolesListed : Triple (fun _ => True) (reconcileLive cfg D P live false)
      fun _ w => w.Sees (fun c => ∀ r ∈ A, r ∈ c.selectRoles true) ∨ .logError ∈ w.log :=
    (reconcileRoles_lists_roles hA hroles).bind fun _ =>
      ((Triple.of_keeps hkeep fun s h => Stmt.Preserves.forall fun r => Stmt.Preserves.imp fun hr =>
        LiveEvent.preserves_selected (fun _ hD hP => hD (hdrop r hr hP)) true s h).orLogged
        hkeep).weaken fun _ h => h.imp_left fun ⟨ht, hv⟩ => World.sees_of_txn ht hv
  have hpre : w₄.Sees fun c => ∀ k ∈ D.keys, k ∈ live → k ∈ c.selectRoles false :=
    hin.extends.sees (fun s hs => Stmt.preserves_of_isRead (by simp_all [PrefixEvent, Stmt.isRead]))
      (World.sees_of_txn htx fun k _ hk => by rwa [hlive, PySet.mem_ofList] at hk)
  have hlisted := (Triple.of_keeps (reconcileLive_keeps hA) (fun s h => Stmt.Preserves.forall fun k =>
    Stmt.Preserves.imp fun hk => Stmt.Preserves.imp fun _ =>
      LiveEvent.preserves_selected (fun _ hD => absurd hk hD) false s h) w₄ hpre () hok).1
  have hsaved : Triple (fun _ => True) (reconcileLive cfg D P live false)
      fun _ w => SavedAs D w.stateFile ∨ .logError ∈ w.log :=
    Triple.bind (show Triple _ _ fun _ _ => True from fun _ _ _ _ => trivial) fun _ => applyDrift_writes_state
  obtain ⟨⟨-, hcreated, -⟩, -⟩ := (reconcileLive_applies hin.keyed (fun u hu => (hin.live_not_system u hu).imp
    fun _ h => h.1) w₄ (hin.extends.sees (fun s _ => Stmt.preserves_wf s) (World.sees_of_txn htx hwf)) () hok).resolve_right herr
  refine ⟨((hrolesListed w₄ trivial () hok).resolve_right herr).1, fun k hk => ?_, ?_⟩
  · by_cases hl : k ∈ live
    · exact hlisted k hk hl
    obtain ⟨spec, hspec⟩ := Option.isSome_iff_exists.mp (PyDict.mem_keys.mp hk)
    obtain ⟨n, -, hn, -, -, hlogin, -⟩ := hcreated k (by simpa using ⟨hk, hl⟩) spec hspec
    have hkn : k = .str n := by simpa [hin.keyed k spec hspec] using hn
    obtain ⟨m, hm, hsys⟩ := hkeys k hk
    rw [hkn] at hm ⊢
    cases hm
    exact Catalog.mem_selectRoles_of_isLogin hlogin hsys
  · obtain ⟨v, hv, hfile⟩ := (hsaved w₄ trivial () hok).resolve_right herr
    rw [jsonValue_of_safe (jsonSafe_saved (fun k hk => (hkeys k hk).imp fun _ h => h.1) hsafe)] at hv
    cases hv
    exact ⟨_, hfile, stateOfJson_saved D⟩

/-- A cycle from a world whose state file loads as the users `D'` reads them as
    its previous state, or `{}` when the file cannot be opened. -/
theorem CycleInputs.previous_of_saved {cfg : Config} {w w₄ : World} {D P D' : PyDict UserSpec} {live : PySet}
    (hin : CycleInputs cfg w D P live w₄) {data : PyVal} (hfile : w.stateFile = some (.value data))
    (hdata : stateOfJson data = .ok D') : P = D' ∨ P = PyDict.empty := by
  obtain ⟨y, w₁, w₂, w₃, hc, hp, hl, -⟩ := hin
  have hf : w₂.stateFile = w.stateFile :=
    (((fetchConfigmap_keeps cfg).run hc).trans ((parseDesiredUsers_keeps cfg y (.inr rfl)).run hp)).stateFile_eq
      fun e he => by rcases he with rfl | rfl <;> rfl
  exact loadState_of_saved (hf.trans hfile) hdata (by rw [hl])

/-- A cycle that reads the desired users `D` from a settled world calls no mutation. -/
theorem CycleInputs.quiet {cfg : Config} {w w₄ : World} {D P : PyDict UserSpec} {live A : PySet}
    (hin : CycleInputs cfg w D P live w₄) (hA : allDesiredRoles D = .ok A) (hs : Settled D A w) (dryRun : Bool) :
    Extends Quiet w (reconcileUsers cfg dryRun w).world := by
  obtain ⟨hE, hU, data, hfile, hdata⟩ := hs
  obtain ⟨hlive, -⟩ := hin.live_eq
  have hdb : w₄.db = w.db := hin.extends.db_eq fun e he => by
    rcases he with (rfl | rfl) | (rfl | rfl) | rfl | rfl | rfl <;> rfl
  have hP : ∀ k prev, P.get? k = some prev → D.get? k = some prev := by
    rcases hin.previous_of_saved hfile hdata with rfl | rfl
    · exact fun _ _ h => h
    · simp
  rw [hin.reconcileUsers_eq]
  exact (hin.extends.mono fun _ h => h.quiet).trans (reconcileLive_quiet hA (by rw [hdb]; exact hE)
    (fun k hk => by rw [hlive, PySet.mem_ofList]; exact hU k hk) hP)

/-- `newUserWorld` with the catalog and the state file its cycle left. -/
def newUserSettled : World :=
  { newUserWorld with
    db := (reconcileUsers Config.default false newUserWorld).world.db
    stateFile := (reconcileUsers Config.default false newUserWorld).world.stateFile }

/-- The desired roles and usernames of `newUserWorld` fit in an identifier. -/
theorem aliceUsers_fit :
    ∀ n, Scalar.str n ∈ PySet.ofList [.str "team"] ∨ Scalar.str n ∈ aliceUsers.keys → FitsIdentifier n := by
  have hkeys : ∀ k ∈ aliceUsers.keys, k = .str "alice" := by decide
  rintro n (h | h)
  · cases (by simpa using h : n = "team"); decide
  · cases hkeys _ h; decide

/-- A real cycle that has read its inputs and the existing roles calls
    `save_state(D)` after every mutation it calls, whatever the mutations did, as
    long as the roles of each previous user make a set. When that call has written
    the file, and the usernames are strings and the users' fields JSON as they
    are, the next cycle on the same cluster, in either mode and from any world
    with that state file, calls no `drop_user`. -/
theorem reconcileUsers_saves_desired_users {cfg : Config} {w w₄ : World} {D P : PyDict UserSpec}
    {live A E : PySet} (hin : CycleInputs cfg w D P live w₄) (hA : allDesiredRoles D = .ok A)
    (hE : (fetchExistingRoles w₄).result = .ok E) (hP : ∀ spec ∈ P.values, ∃ s, pySet spec.roles = .ok s) :
    (∃ pre post, (reconcileUsers cfg false w).world.log = pre ++ .call (.saveState D) :: post ∧
      mutationCalls post = []) ∧
    ((∀ k ∈ D.keys, ∃ n, k = .str n) → (∀ userSpec ∈ D.values, jsonSafe userSpec.asdict = true) →
      SavedAs D (reconcileUsers cfg false w).world.stateFile →
      ∀ (w₂ : World) (dryRun : Bool), w₂.stateFile = (reconcileUsers cfg false w).world.stateFile →
        w₂.cluster = w.cluster →
        ∃ new, (reconcileUsers cfg dryRun w₂).world.log = w₂.log ++ new ∧ ∀ u, Event.call (.dropUser u) ∉ new) := by
  refine ⟨reconcileUsers_saves_last hin hA hE hP, fun hkeys hsafe ⟨v, hv, hsf⟩ w₂ dryRun hfile hcl => ?_⟩
  rw [jsonValue_of_safe (jsonSafe_saved hkeys hsafe)] at hv
  cases hv
  obtain ⟨new, hlog, hev, -, -⟩ := reconcileUsers_keeps cfg dryRun w₂
  refine ⟨new, hlog, fun u hu => ?_⟩
  rcases hev _ hu with h | ⟨D', P', live', w₄', A', hin', -, h⟩
  · simp [PrefixEvent] at h
  obtain ⟨_, -, hD, hP', rfl⟩ : ∃ u' ∈ live', u' ∉ D'.keys ∧ u' ∈ P'.keys ∧ u = u' := by
    simpa [LiveEvent, RolesEvent] using h
  obtain rfl := hin.desired_eq hin' hcl
  rcases hin'.previous_of_saved (hfile.trans hsf) (stateOfJson_saved D') with rfl | rfl
  · exact hD hP'
  · simp at hP'

set_option smartUnfolding false in
/-- In `failedDropWorld` the drop of `bob` fails; the cycle still saves `{}` last,
    and the next cycle drops no one. -/
theorem failedDropWorld_saves_desired_users :
    CycleInputs Config.default failedDropWorld PyDict.empty bobState (PySet.ofList [.str "bob"]) failedDropRead ∧
    allDesiredRoles PyDict.empty = .ok PySet.empty ∧
    (fetchExistingRoles failedDropRead).result = .ok (PySet.ofList []) ∧
    (∀ spec ∈ bobState.values, ∃ s, pySet spec.roles = .ok s) ∧
    Event.logError ∈ (reconcileUsers Config.default false failedDropWorld).world.log ∧
    (∃ pre post, (reconcileUsers Config.default false failedDropWorld).world.log =
      pre ++ .call (.saveState PyDict.empty) :: post ∧ mutationCalls post = []) ∧
    ∃ new, (reconcileUsers Config.default false (reconcileUsers Config.default false failedDropWorld).world).world.log =
      (reconcileUsers Config.default false failedDropWorld).world.log ++ new ∧ ∀ u, Event.call (.dropUser u) ∉ new := by
  have hin : CycleInputs Config.default failedDropWorld PyDict.empty bobState (PySet.ofList [.str "bob"])
      failedDropRead :=
    ⟨noUsersYaml, _, _, _, PyM.eq_of_result rfl, PyM.eq_of_result rfl, PyM.eq_of_result rfl,
      PyM.eq_of_result rfl⟩
  have hP : ∀ spec ∈ bobState.values, ∃ s, pySet spec.roles = .ok s := by
    intro spec hs
    obtain rfl : spec = ⟨.str "bob", .str "postgres", .list [], .scalar .none⟩ := by
      simpa [bobState, PyDict.insert, PyDict.values, PyDict.empty] using hs
    exact ⟨_, rfl⟩
  have h := reconcileUsers_saves_desired_users hin rfl rfl hP
  exact ⟨hin, rfl, rfl, hP, by decide, h.1, h.2 (fun _ h => nomatch h) (fun _ h => nomatch h)
    ⟨.dict [], rfl, by decide⟩ _ false rfl rfl⟩

end PgUserController
