-- SUMMARY: What one cycle of `reconcile_users` can do: the reads before it knows the live users, and then each event, fixed by the desired users, the previous state and the live users it read.
import PgUserController.Effects
import PgUserController.Reconciler

/-!
# What a cycle does

`reconcile_users` first reads the ConfigMap, the previous state and the live
users. `reconcileUsers_cases` says that a run either stops there, having
appended only such reads, or goes on as `reconcileLive` on what it read.
`reconcileLive_keeps` says what each event of that second part can be: an event
of a gateway method, called with arguments that the loops draw from the desired
users `D`, the previous state `P` and the live users. `reconcileUsers_keeps`
puts the two together; the safety properties of a cycle are read off it.
-/

namespace PgUserController

/-- The events of `reconcile_users` before it knows the live users. -/
def PrefixEvent (e : Event) : Prop :=
  CallEvent .fetchConfigmap e ∨ CallEvent .loadState e ∨ QueryEvent .fetchExistingUsers .selectUsers e

/-- The events of `reconcile_roles`, where `A` is the set of the desired users' roles. -/
def RolesEvent (A : PySet) (dryRun : Bool) (e : Event) : Prop :=
  QueryEvent .fetchExistingRoles .selectRoles e ∨
  ∃ r ∈ A, MutationEvent (.createRole r) (roleStmts .createRole r) dryRun e

/-- The events of `reconcileLive cfg D P live dryRun`, where `A` is the set of the
    desired users' roles. -/
def LiveEvent (cfg : Config) (D P : PyDict UserSpec) (live A : PySet) (dryRun : Bool) (e : Event) :
    Prop :=
  RolesEvent A dryRun e ∨
  (∃ u ∈ live, u ∉ D.keys ∧ u ∈ P.keys ∧ MutationEvent (.dropUser u) (dropUserStmts cfg u) dryRun e) ∨
  (∃ u spec, D.get? u = some spec ∧ u ∉ live ∧
    (CallEvent (.getUserPassword u) e ∨
      ∃ pw, MutationEvent (.createUser spec pw) (createUserStmts spec pw) dryRun e)) ∨
  (∃ u spec, D.get? u = some spec ∧ u ∈ live ∧
    (QueryEvent (.fetchUserRoles u) (.selectUserRoles u) e ∨
      ∃ old new, pySet spec.roles = .ok new ∧
        MutationEvent (.updateUserRoles u old new) (updateUserRolesStmts u old new) dryRun e)) ∨
  dryRun = false ∧ CallEvent (.saveState D) e

/-! ## The desired roles -/

/-- A role of a user: the hash of an item of its `roles`. -/
def RoleOf (userSpec : UserSpec) (x : Scalar) : Prop :=
  ∃ items, userSpec.roles.iter = .ok items ∧ ∃ y ∈ items, y.hash? = .ok x

theorem addRoles_mem {acc acc' : PySet} {userSpec : UserSpec} (h : addRoles acc userSpec = .ok acc')
    {x : Scalar} : x ∈ acc' ↔ x ∈ acc ∨ RoleOf userSpec x := by
  unfold addRoles at h
  cases hi : userSpec.roles.iter with
  | error e => simp only [hi, except_error_bind] at h; cases h
  | ok items =>
    cases hm : items.mapM PyVal.hash? with
    | error e => simp only [hi, hm, except_ok_bind, except_error_bind] at h; cases h
    | ok ks =>
      simp only [hi, hm, except_ok_bind] at h
      cases h
      simp [RoleOf, hi, mem_mapM_ok hm]

/-- `set(user_spec.roles)` succeeds where `all_desired_roles.update` did. -/
theorem pySet_of_addRoles {acc acc' : PySet} {userSpec : UserSpec} (h : addRoles acc userSpec = .ok acc') :
    ∃ s, pySet userSpec.roles = .ok s := by
  unfold addRoles at h
  unfold pySet
  cases hi : userSpec.roles.iter with
  | error e => simp only [hi, except_error_bind] at h; cases h
  | ok items =>
    cases hm : items.mapM PyVal.hash? with
    | error e => simp only [hi, hm, except_ok_bind, except_error_bind] at h; cases h
    | ok ks => exact ⟨_, by simp only [except_ok_bind, hm]; rfl⟩

private theorem foldlM_addRoles_mem {A : PySet} :
    ∀ (specs : List UserSpec) (acc : PySet), specs.foldlM addRoles acc = .ok A →
      (∀ x ∈ acc, x ∈ A) ∧ ∀ userSpec ∈ specs,
        (∀ x, RoleOf userSpec x → x ∈ A) ∧ ∃ s, pySet userSpec.roles = .ok s
  | [], acc, h => by cases h; simp
  | s :: specs, acc, h => by
    rw [List.foldlM_cons] at h
    cases hs : addRoles acc s with
    | error e => simp only [hs, except_error_bind] at h; cases h
    | ok acc' =>
      simp only [hs, except_ok_bind] at h
      obtain ⟨hacc, hspecs⟩ := foldlM_addRoles_mem specs acc' h
      refine ⟨fun x hx => hacc x ((addRoles_mem hs).mpr (.inl hx)), fun spec hspec => ?_⟩
      rcases List.mem_cons.mp hspec with rfl | hspec
      exacts [⟨fun x hx => hacc x ((addRoles_mem hs).mpr (.inr hx)), pySet_of_addRoles hs⟩, hspecs spec hspec]

/-- Every role of a desired user is in `all_desired_roles`. -/
theorem allDesiredRoles_mem {D : PyDict UserSpec} {A : PySet} (hA : allDesiredRoles D = .ok A)
    {userSpec : UserSpec} (hs : userSpec ∈ D.values) {x : Scalar} (hx : RoleOf userSpec x) : x ∈ A :=
  ((foldlM_addRoles_mem _ _ hA).2 userSpec hs).1 x hx

/-- When the desired roles could be collected, the roles of each desired user
    make a set. -/
theorem allDesiredRoles_pySet {D : PyDict UserSpec} {A : PySet} (hA : allDesiredRoles D = .ok A)
    {userSpec : UserSpec} (hs : userSpec ∈ D.values) : ∃ s, pySet userSpec.roles = .ok s :=
  ((foldlM_addRoles_mem _ _ hA).2 userSpec hs).2

/-- Where an event stands in a log made of two parts, when the first part does not
    hold it. -/
theorem append_eq_append_cons_of_not_mem {L₁ L₂ pre post : List Event} {x : Event}
    (h : L₁ ++ L₂ = pre ++ x :: post) (hx : x ∉ L₁) : ∃ pre', pre = L₁ ++ pre' ∧ L₂ = pre' ++ x :: post := by
  rcases List.append_eq_append_iff.mp h with ⟨a', rfl, h'⟩ | ⟨_ | ⟨c, cs⟩, rfl, hc⟩
  · exact ⟨a', rfl, h'⟩
  · exact ⟨[], by simp, hc.symm⟩
  · cases (List.cons_eq_cons.mp hc).1
    simp at hx

/-! ## The phases of a cycle -/

section Phases

variable {cfg : Config} {D P : PyDict UserSpec} {live A : PySet} {dryRun : Bool}

private theorem live_logError : LiveEvent cfg D P live A dryRun .logError := .inl (.inl (by simp))

theorem reconcileRoles_keeps (hA : allDesiredRoles D = .ok A) :
    Keeps (RolesEvent A dryRun) (reconcileRoles D dryRun) :=
  Keeps.lift_bind fun A' hA' => by
    cases hA.symm.trans hA'
    exact ((fetchRoleNames_keeps _ _).mono fun _ h => .inl h).bind fun _ => Keeps.forEach fun r hr =>
      Keeps.isolate (((createRole_keeps r dryRun).mono fun _ h =>
        .inr ⟨r, (PySet.mem_diff.mp hr).1, h⟩).bind fun _ => .modifyStats _) (.inl (by simp))

variable (dryRun) in
/-- Existing roles that cannot be read stop `reconcile_roles` before any change. -/
theorem reconcileRoles_of_fetch_error (hA : allDesiredRoles D = .ok A) {w w₅ : World} {e : PyExc}
    (hE : fetchExistingRoles w = ⟨.error e, w₅⟩) : reconcileRoles D dryRun w = ⟨.error e, w₅⟩ := by
  unfold reconcileRoles
  rw [PyM.bind_ok (show PyM.lift (allDesiredRoles D) w = ⟨.ok A, w⟩ by rw [hA]; rfl), PyM.bind_error hE]

variable (dryRun) in
/-- `reconcile_roles` calls `create_role` for each desired role that the
    `fetch_existing_roles` it starts with does not list, whatever those calls do. -/
theorem reconcileRoles_creates (hA : allDesiredRoles D = .ok A) {w w₅ : World} {E : PySet}
    (hE : fetchExistingRoles w = ⟨.ok E, w₅⟩) :
    (reconcileRoles D dryRun w).result = .ok () ∧
      ∃ new, (reconcileRoles D dryRun w).world.log = w.log ++ new ∧
        ∀ r ∈ A.diff E, .call (.createRole r) ∈ new := by
  have hq : Keeps (fun _ => True) fetchExistingRoles := (fetchRoleNames_keeps _ _).mono fun _ _ => trivial
  obtain ⟨n₁, h₁, -⟩ := hq.run hE
  unfold reconcileRoles
  rw [PyM.bind_ok (show PyM.lift (allDesiredRoles D) w = ⟨.ok A, w⟩ by rw [hA]; rfl), PyM.bind_ok hE]
  refine And.imp id (fun ⟨n₂, h₂, hmem⟩ => ⟨n₁ ++ n₂, by rw [h₂, h₁, List.append_assoc],
    fun r hr => List.mem_append_right _ (hmem r hr)⟩) (forEach_logs (fun r w' => ⟨show (createRoleItem dryRun r w').result = .ok () from isolate_result _ w', ?_⟩) _ w₅)
  obtain ⟨new, h⟩ := ((createRole_starts r dryRun).bind fun _ =>
    (Keeps.modifyStats _ : Keeps (fun _ => True) _)).isolate w'
  exact ⟨_, h, List.mem_cons_self _ _⟩

/-- A role granted by the loops of a cycle is one of the desired users' roles. -/
theorem LiveEvent.grantRole_mem (hA : allDesiredRoles D = .ok A) {r u : String}
    (h : LiveEvent cfg D P live A dryRun (.sql (.grantRole r u))) : .str r ∈ A := by
  rcases h with h | ⟨_, -, -, -, h⟩ | ⟨u', spec, hget, -, h | ⟨pw, h⟩⟩ | ⟨u', spec, hget, -, h | ⟨old, new, hnew, h⟩⟩ |
    ⟨-, h⟩
  · simp [RolesEvent, roleStmts] at h
  · simp [dropUserStmts] at h
  · simp at h
  · obtain ⟨-, n, -, h | ⟨d, -, h⟩ | ⟨roles, hi, r', hr', h⟩ | ⟨-, -, -, -, -, -, -, -, -, -, h⟩⟩ :=
      mutationEvent_sql.mp h
    · cases h
    · cases h
    · cases h
      exact allDesiredRoles_mem hA (PyDict.mem_values_of_get? hget) ⟨roles, hi, _, hr', rfl⟩
  · simp at h
  · obtain ⟨-, n, r', -, ⟨h, -⟩ | ⟨h, hr'⟩⟩ := mutationEvent_sql.mp h
    · cases h
    · cases h
      obtain ⟨items, hi, y, hy, hx⟩ := (mem_pySet hnew).mp (PySet.mem_diff.mp hr').1
      exact allDesiredRoles_mem hA (PyDict.mem_values_of_get? hget) ⟨items, hi, y, hy, hx⟩
  · simp at h

/-- A pass of the deletion loop emits the events of `drop_user(u)`, and those only
    when the previous state holds `u`, or the error its isolation logs. -/
theorem deleteUserItem_events {Q : Event → Prop} {u : Scalar}
    (hQ : ∀ e, u ∈ P.keys → MutationEvent (.dropUser u) (dropUserStmts cfg u) dryRun e → Q e)
    (hlog : Q .logError) : Keeps Q (deleteUserItem cfg P dryRun u) := by
  unfold deleteUserItem
  split
  · rename_i hp
    exact Keeps.isolate (((dropUser_keeps cfg u dryRun).mono fun e => hQ e hp).bind fun _ => .modifyStats _) hlog
  · exact .pure ()

theorem deleteUserItem_keeps {u : Scalar} (hu : u ∈ live.diff D.keys) :
    Keeps (LiveEvent cfg D P live A dryRun) (deleteUserItem cfg P dryRun u) :=
  have ⟨hl, hd⟩ := PySet.mem_diff.mp hu
  deleteUserItem_events (fun _ hp h => .inr (.inl ⟨u, hl, hd, hp, h⟩)) live_logError

theorem deleteUsers_keeps :
    Keeps (LiveEvent cfg D P live A dryRun) (deleteUsers cfg P (live.diff D.keys) dryRun) :=
  Keeps.forEach fun _ hu => deleteUserItem_keeps hu

/-- A pass of the creation loop emits the events of `get_user_password(u)` and of
    `create_user` for `u`'s spec, and the errors it logs. -/
theorem createUserItem_events {Q : Event → Prop} {u : Scalar}
    (hQ : ∀ e spec, D.get? u = some spec → (CallEvent (.getUserPassword u) e ∨
      ∃ pw, MutationEvent (.createUser spec pw) (createUserStmts spec pw) dryRun e) → Q e)
    (hlog : Q .logError) : Keeps Q (createUserItem cfg D dryRun u) := by
  unfold createUserItem
  split
  · exact .raise _
  rename_i spec hspec
  refine Keeps.isolate (((getUserPassword_keeps cfg u).mono fun e h => hQ e spec hspec (.inl h)).bind
    fun _ => ?_) hlog
  split
  · split
    · exact (Keeps.logError hlog).bind fun _ => .countError
    · exact ((createUser_keeps spec _ dryRun).mono fun e h => hQ e spec hspec (.inr ⟨_, h⟩)).bind
        fun _ => .modifyStats _
  · exact (Keeps.logError hlog).bind fun _ => .countError

theorem createUserItem_keeps {u : Scalar} (hl : u ∉ live) :
    Keeps (LiveEvent cfg D P live A dryRun) (createUserItem cfg D dryRun u) :=
  createUserItem_events (fun _ spec hspec h => .inr (.inr (.inl ⟨u, spec, hspec, hl, h⟩))) live_logError

theorem createUsers_keeps :
    Keeps (LiveEvent cfg D P live A dryRun) (createUsers cfg D (D.keys.diff live) dryRun) :=
  Keeps.forEach fun _ hu => createUserItem_keeps (PySet.mem_diff.mp hu).2

/-- A pass of the update loop emits the events of `fetch_user_roles(u)` and of
    `update_user_roles` for `u` towards its desired roles, and the error its
    isolation logs. -/
theorem updateUserItem_events {Q : Event → Prop} {u : Scalar}
    (hQ : ∀ e spec, D.get? u = some spec → (QueryEvent (.fetchUserRoles u) (.selectUserRoles u) e ∨
      ∃ old new, pySet spec.roles = .ok new ∧
        MutationEvent (.updateUserRoles u old new) (updateUserRolesStmts u old new) dryRun e) → Q e)
    (hlog : Q .logError) : Keeps Q (updateUserItem D P dryRun u) := by
  unfold updateUserItem
  split
  · exact .raise _
  rename_i spec hspec
  split
  · exact .pure ()
  refine Keeps.lift_bind fun _ _ => Keeps.lift_bind fun _ _ => ?_
  split
  · exact .pure ()
  refine Keeps.isolate (((fetchRoleNames_keeps _ _).mono fun e h => hQ e spec hspec (.inl h)).bind
    fun old => Keeps.lift_bind fun new hnew => ?_) hlog
  split
  · exact .pure ()
  · exact ((updateUserRoles_keeps u old new dryRun).mono fun e h => hQ e spec hspec (.inr ⟨old, new, hnew, h⟩)).bind
      fun _ => .modifyStats _

theorem updateUserItem_keeps {u : Scalar} (hl : u ∈ live) :
    Keeps (LiveEvent cfg D P live A dryRun) (updateUserItem D P dryRun u) :=
  updateUserItem_events (fun _ spec hspec h => .inr (.inr (.inr (.inl ⟨u, spec, hspec, hl, h⟩)))) live_logError

theorem updateUsers_keeps :
    Keeps (LiveEvent cfg D P live A dryRun) (updateUsers D P (D.keys.inter live) dryRun) :=
  Keeps.forEach fun _ hu => updateUserItem_keeps (PySet.mem_inter.mp hu).2

theorem deleteUsers_ok (xs : PySet) (w : World) : (deleteUsers cfg P xs dryRun w).result = .ok () :=
  forEach_ok (fun u _ w => by unfold deleteUserItem; split; exacts [isolate_result _ w, rfl]) w

theorem createUsers_ok {xs : PySet} (hxs : ∀ u ∈ xs, u ∈ D.keys) (w : World) :
    (createUsers cfg D xs dryRun w).result = .ok () :=
  forEach_ok (fun u hu w => by
    obtain ⟨spec, hspec⟩ := Option.isSome_iff_exists.mp (PyDict.mem_keys.mp (hxs u hu))
    simp only [createUserItem, hspec]
    exact isolate_result _ w) w

/-- The update loop returns when the roles of every desired user and of every
    previous user make sets. -/
theorem updateUsers_ok {xs : PySet} (hxs : ∀ u ∈ xs, u ∈ D.keys)
    (hD : ∀ spec ∈ D.values, ∃ s, pySet spec.roles = .ok s)
    (hP : ∀ spec ∈ P.values, ∃ s, pySet spec.roles = .ok s) (w : World) :
    (updateUsers D P xs dryRun w).result = .ok () :=
  forEach_ok (fun u hu w => by
    obtain ⟨spec, hspec⟩ := Option.isSome_iff_exists.mp (PyDict.mem_keys.mp (hxs u hu))
    simp only [updateUserItem, hspec]
    cases hprev : P.get? u with
    | none => rfl
    | some prev =>
    dsimp only
    obtain ⟨s, hs⟩ := hP prev (PyDict.mem_values_of_get? hprev)
    obtain ⟨s', hs'⟩ := hD spec (PyDict.mem_values_of_get? hspec)
    rw [PyM.bind_ok (show PyM.lift _ w = ⟨.ok s, w⟩ by rw [hs]; rfl),
      PyM.bind_ok (show PyM.lift _ w = ⟨.ok s', w⟩ by rw [hs']; rfl)]
    split
    · rfl
    · exact isolate_result _ w) w

/-- What `applyDrift` does once the deletion loop is over. -/
theorem afterDeletions_keeps : Keeps (LiveEvent cfg D P live A dryRun) (do
    createUsers cfg D (D.keys.diff live) dryRun
    updateUsers D P (D.keys.inter live) dryRun
    if !dryRun then saveState D
    PyM.modify fun w => { w with metrics := { w.metrics with usersManaged := D.card } }
    let roles ← fetchExistingRoles
    PyM.modify fun w => { w with metrics := { w.metrics with rolesManaged := roles.card } } : PyM Unit) := by
  refine createUsers_keeps.bind fun _ => updateUsers_keeps.bind fun _ => ?_
  split <;> refine Keeps.bind ?_ fun _ => (Keeps.of_frame fun _ => ⟨rfl, rfl, rfl, .inl rfl, rfl, rfl⟩).bind fun _ =>
    ((fetchRoleNames_keeps _ _).mono fun _ h => .inl (.inl h)).bind fun _ => .of_frame fun _ => ⟨rfl, rfl, rfl, .inl rfl, rfl, rfl⟩
  · rename_i hd
    exact (saveState_keeps D).mono fun _ h => .inr (.inr (.inr (.inr ⟨by simpa using hd, h⟩)))
  · exact .pure _

theorem applyDrift_keeps :
    Keeps (LiveEvent cfg D P live A dryRun) (applyDrift cfg D P live dryRun) := by
  unfold applyDrift
  dsimp only [detectDrift]
  split <;> exact Keeps.bind (by first | exact .modifyStats _ | exact .pure _) fun _ =>
    deleteUsers_keeps.bind fun _ => afterDeletions_keeps

/-- The deletion loop calls `drop_user` for every live user outside the desired
    users that the previous state holds, whatever the drops before it did. -/
theorem applyDrift_drops {u : Scalar} (hl : u ∈ live) (hD : u ∉ D.keys) (hP : u ∈ P.keys) :
    Logs (.call (.dropUser u)) (applyDrift cfg D P live dryRun) := by
  have hitem : Logs (.call (.dropUser u)) (deleteUserItem cfg P dryRun u) := by
    unfold deleteUserItem
    rw [if_pos hP]
    exact .of_starts ((dropUser_starts cfg u dryRun).bind fun _ => (.modifyStats _ : Keeps (fun _ => True) _)).isolate
  have hk : ∀ v, Keeps (fun _ => True) (deleteUserItem cfg P dryRun v) := fun v => by
    unfold deleteUserItem
    split
    · exact Keeps.isolate (((dropUser_keeps cfg v dryRun).mono fun _ _ => trivial).bind fun _ => .modifyStats _) trivial
    · exact .pure ()
  have hloop : Logs (.call (.dropUser u)) (deleteUsers cfg P (live.diff D.keys) dryRun) :=
    Logs.forEach hitem (fun v w => by unfold deleteUserItem; split; exacts [isolate_result _ w, rfl]) hk
      (PySet.mem_diff.mpr ⟨hl, hD⟩)
  unfold applyDrift
  dsimp only [detectDrift]
  split <;> exact Logs.bind_right (by first | exact .modifyStats _ | exact .pure _) (fun _ => ⟨(), rfl⟩) fun _ =>
    hloop.bind_left fun _ => (afterDeletions_keeps : Keeps (LiveEvent cfg D P live .empty dryRun) _)

theorem reconcileLive_keeps (hA : allDesiredRoles D = .ok A) :
    Keeps (LiveEvent cfg D P live A dryRun) (reconcileLive cfg D P live dryRun) :=
  ((reconcileRoles_keeps hA).mono fun _ => .inl).bind fun _ => applyDrift_keeps

variable (cfg P live dryRun) in
/-- Every `GRANT role TO user` of `reconcileLive` names a role that its
    `fetch_existing_roles` listed, or one it called `create_role` for before. -/
theorem reconcileLive_grants_after_roles (hA : allDesiredRoles D = .ok A) (w : World) :
    ∃ new, (reconcileLive cfg D P live dryRun w).world.log = w.log ++ new ∧
      ∀ pre r u post, new = pre ++ .sql (.grantRole r u) :: post →
        .call (.createRole (.str r)) ∈ pre ∨ ∃ E, (fetchExistingRoles w).result = .ok E ∧ .str r ∈ E := by
  have notRoles : ∀ {n : List Event} (r u : String), (∀ e ∈ n, RolesEvent A dryRun e) →
      Event.sql (.grantRole r u) ∉ n :=
    fun _ _ hn h => by simpa [RolesEvent, roleStmts] using hn _ h
  unfold reconcileLive
  rcases hE : fetchExistingRoles w with ⟨_ | E, w₅⟩
  case error e =>
    have hR := reconcileRoles_of_fetch_error dryRun hA hE
    obtain ⟨n₁, h₁, hroles, -, -⟩ := (reconcileRoles_keeps hA).run hR
    rw [PyM.bind_error hR]
    exact ⟨n₁, h₁, fun pre r u post hn => (notRoles r u hroles (by simp [hn])).elim⟩
  rcases hR : reconcileRoles D dryRun w with ⟨res, w₆⟩
  have hc := reconcileRoles_creates dryRun hA hE
  rw [hR] at hc
  obtain ⟨rfl, n₁, h₁, hcreate⟩ := hc
  obtain ⟨n₁', h₁', hroles, -, -⟩ := (reconcileRoles_keeps hA).run hR
  obtain rfl := List.append_cancel_left (h₁.symm.trans h₁')
  obtain ⟨n₂, h₂, hlive, -, -⟩ := (applyDrift_keeps : Keeps (LiveEvent cfg D P live A dryRun) _) w₆
  rw [PyM.bind_ok hR]
  refine ⟨n₁ ++ n₂, by rw [h₂, h₁, List.append_assoc], fun pre r u post hn => ?_⟩
  obtain ⟨pre', rfl, hn₂⟩ := append_eq_append_cons_of_not_mem hn (notRoles r u hroles)
  have hr := LiveEvent.grantRole_mem hA (hlive (.sql (.grantRole r u)) (by simp [hn₂]))
  by_cases hrE : .str r ∈ E
  · exact .inr ⟨E, rfl, hrE⟩
  · exact .inl (List.mem_append_left _ (hcreate _ (PySet.mem_diff.mpr ⟨hr, hrE⟩)))

/-- Roles that cannot be collected stop the cycle before any call. -/
theorem reconcileLive_of_roles_error {e : PyExc} (he : allDesiredRoles D = .error e) (w : World) :
    reconcileLive cfg D P live dryRun w = ⟨.error e, w⟩ := by
  unfold reconcileLive reconcileRoles
  rw [he]
  rfl

end Phases

/-! ## A whole cycle -/

/-- A run of `reconcile_users` from `w` read the desired users `D`, the previous
    state `P` and the live users `live`, and was at `w₄` once it had them. -/
def CycleInputs (cfg : Config) (w : World) (D P : PyDict UserSpec) (live : PySet) (w₄ : World) : Prop :=
  ∃ yamlContent w₁ w₂ w₃, fetchConfigmap cfg w = ⟨.ok (some yamlContent), w₁⟩ ∧
    parseDesiredUsers cfg yamlContent w₁ = ⟨.ok D, w₂⟩ ∧ loadState w₂ = ⟨.ok P, w₃⟩ ∧
    fetchLiveUsers w₃ = ⟨.ok (some live), w₄⟩

theorem fetchLiveUsers_keeps : Keeps PrefixEvent fetchLiveUsers :=
  ((fetchRoleNames_keeps _ _).mono fun _ h => .inr (.inr h)).map _ |>.tryCatch fun _ =>
    (Keeps.logError (.inl (by simp))).bind fun _ => Keeps.countError.bind fun _ => .pure _

/-- The live users are role names outside the denylist. -/
theorem fetchLiveUsers_returns :
    Returns (fun o => ∀ live, o = some live → ∀ u ∈ live, ∃ n, u = .str n ∧ n ∉ systemRoles) fetchLiveUsers :=
  Returns.tryCatch ((fetchRoleNames_returns _ _).bind fun _ ⟨db, rows, hrows, hset⟩ => .pure fun live hl u hu => by
    cases hl
    cases hrows
    obtain ⟨r, -, hr, -, rfl⟩ := Catalog.mem_selectRoles.mp (by simpa [hset] using hu)
    exact ⟨r.1, rfl, hr⟩) fun _ =>
    (Returns.true _).bind fun _ _ => (Returns.true _).bind fun _ _ => .pure fun _ h => nomatch h

theorem CycleInputs.live_not_system {cfg : Config} {w w₄ : World} {D P : PyDict UserSpec} {live : PySet}
    (h : CycleInputs cfg w D P live w₄) : ∀ u ∈ live, ∃ n, u = .str n ∧ n ∉ systemRoles := by
  obtain ⟨-, -, -, w₃, -, -, -, hf⟩ := h
  exact fetchLiveUsers_returns w₃ trivial _ (by rw [hf]) live rfl

/-- Once a cycle has read its inputs, it runs `reconcileLive` on them. -/
theorem CycleInputs.reconcileUsers_eq {cfg : Config} {w w₄ : World} {D P : PyDict UserSpec} {live : PySet}
    (h : CycleInputs cfg w D P live w₄) (dryRun : Bool) :
    reconcileUsers cfg dryRun w = reconcileLive cfg D P live dryRun w₄ := by
  obtain ⟨yamlContent, w₁, w₂, w₃, hc, hp, hl, hf⟩ := h
  unfold reconcileUsers
  rw [PyM.bind_ok hc]
  dsimp only
  rw [PyM.bind_ok hp, PyM.bind_ok hl, PyM.bind_ok hf]

/-- Reading the inputs sends no statement but `fetch_existing_users`. -/
theorem CycleInputs.extends {cfg : Config} {w w₄ : World} {D P : PyDict UserSpec} {live : PySet}
    (h : CycleInputs cfg w D P live w₄) : Extends PrefixEvent w w₄ := by
  obtain ⟨yamlContent, w₁, w₂, w₃, hc, hp, hl, hf⟩ := h
  exact (((fetchConfigmap_keeps cfg).mono fun _ h => (.inl h : PrefixEvent _)).run hc).trans <|
    ((parseDesiredUsers_keeps cfg yamlContent (.inl (by simp))).run hp).trans <|
    ((loadState_keeps.mono fun _ h => (.inr (.inl h) : PrefixEvent _)).run hl).trans (fetchLiveUsers_keeps.run hf)

/-- The desired users a cycle read are filed under their usernames. -/
theorem CycleInputs.keyed {cfg : Config} {w w₄ : World} {D P : PyDict UserSpec} {live : PySet}
    (h : CycleInputs cfg w D P live w₄) : UsersKeyed D := by
  obtain ⟨yamlContent, w₁, _, _, -, hp, -, -⟩ := h
  have empty : UsersKeyed PyDict.empty := fun _ _ h => by simp at h
  rcases yamlContent with _ | _ | parsed
  · cases hp; exact empty
  · cases hp; exact empty
  · rcases hdec : decodeUsers cfg parsed with e | users <;> simp only [parseDesiredUsers, hdec] at hp
    · cases e <;> cases hp
      exact empty
    · cases hp
      exact decodeUsers_keyed hdec

/-- A cycle either stops after reads, or runs `reconcileLive` on what it read. -/
theorem reconcileUsers_cases (cfg : Config) (dryRun : Bool) (w : World) :
    Extends PrefixEvent w (reconcileUsers cfg dryRun w).world ∨
    ∃ D P live w₄, CycleInputs cfg w D P live w₄ ∧ Extends PrefixEvent w w₄ ∧
      reconcileUsers cfg dryRun w = reconcileLive cfg D P live dryRun w₄ := by
  have logErr : PrefixEvent .logError := .inl (by simp)
  unfold reconcileUsers
  rcases hc : fetchConfigmap cfg w with ⟨_ | _ | yamlContent, w₁⟩ <;>
    have h₁ := ((fetchConfigmap_keeps cfg).mono fun _ h => (.inl h : PrefixEvent _)).run hc
  · rw [PyM.bind_error hc]; exact .inl h₁
  · rw [PyM.bind_ok hc]
    exact .inl (h₁.trans (((Keeps.logError logErr).bind fun _ => .countError) w₁))
  rw [PyM.bind_ok hc]
  dsimp only
  rcases hp : parseDesiredUsers cfg yamlContent w₁ with ⟨_ | D, w₂⟩ <;>
    have h₂ := h₁.trans ((parseDesiredUsers_keeps cfg yamlContent logErr).run hp)
  · rw [PyM.bind_error hp]; exact .inl h₂
  rw [PyM.bind_ok hp]
  rcases hl : loadState w₂ with ⟨_ | P, w₃⟩ <;>
    have h₃ := h₂.trans ((loadState_keeps.mono fun _ h => (.inr (.inl h) : PrefixEvent _)).run hl)
  · rw [PyM.bind_error hl]; exact .inl h₃
  rw [PyM.bind_ok hl]
  rcases hf : fetchLiveUsers w₃ with ⟨_ | _ | live, w₄⟩ <;> have h₄ := h₃.trans (fetchLiveUsers_keeps.run hf)
  · rw [PyM.bind_error hf]; exact .inl h₄
  · rw [PyM.bind_ok hf]; exact .inl h₄
  exact .inr ⟨D, P, live, w₄, ⟨yamlContent, w₁, w₂, w₃, hc, hp, hl, hf⟩, h₄, by rw [PyM.bind_ok hf]⟩

/-- The events of a run of `reconcile_users` from `w`: reads before it knows the
    live users, then events of `reconcileLive` on what it read. -/
def CycleEvent (cfg : Config) (w : World) (dryRun : Bool) (e : Event) : Prop :=
  PrefixEvent e ∨ ∃ D P live w₄ A, CycleInputs cfg w D P live w₄ ∧ allDesiredRoles D = .ok A ∧
    LiveEvent cfg D P live A dryRun e

theorem reconcileUsers_keeps (cfg : Config) (dryRun : Bool) (w : World) :
    Extends (CycleEvent cfg w dryRun) w (reconcileUsers cfg dryRun w).world := by
  rcases reconcileUsers_cases cfg dryRun w with h | ⟨D, P, live, w₄, hin, hpre, heq⟩
  · exact h.mono fun _ => .inl
  rw [heq]
  replace hpre : Extends (CycleEvent cfg w dryRun) w w₄ := hpre.mono fun _ => .inl
  cases hA : allDesiredRoles D with
  | error e => rw [reconcileLive_of_roles_error hA]; exact hpre
  | ok A => exact hpre.trans ((reconcileLive_keeps hA w₄).mono fun _ h => .inr ⟨D, P, live, w₄, A, hin, hA, h⟩)

end PgUserController
