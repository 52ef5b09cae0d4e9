-- SUMMARY: Once the catalog lists every desired role and user and the state file holds only desired users as they are desired, every later pass of the reconciliation loop, whatever fails, calls no mutation and leaves the world so.
import PgUserController.Ownership
import PgUserController.Retries

/-!
# A settled controller stays quiet

`reconcileUsers_idempotent` compares two cycles. Over a whole run of the loop,
more can go wrong between passes: a `save_state` can fail and leave the state file
truncated, the file can fail to open, and so on. None of this wakes the
controller up. A world is `Calm` for the desired users `D` when the query of
`fetch_existing_roles` lists every desired role (so each is a role without
`LOGIN` outside the denylist), the query of `fetch_existing_users` lists every
desired user (a role outside the denylist), and the state file, where it loads,
holds only desired users as they are desired. A desired role that has `LOGIN` or
is in the denylist is never calm: `reconcile_roles` calls `create_role` for it in
every pass. From a calm world a pass calls no
mutation: the loops find nothing to create, drop only users the previous state
holds, which are desired, and update no one, since every previous entry is the
desired one (`Calm.quiet`). It sends only reads, so the catalog stays as it was,
and it saves only the desired users, so the file stays calm (`Calm.cycle`). By
induction, every run of the loop from a calm world calls no mutation
(`runCycles_calm`).

The desired users are what the ConfigMap of the cluster holds, which no pass
changes, as `parse_desired_users` reads it; saving them must give them back, so
their fields are JSON as they are.
-/

namespace PgUserController

/-! ## Calm worlds -/

/-- Every entry of `P` is an entry of `D`. -/
def PyDict.SubMap {α : Type} (P D : PyDict α) : Prop := ∀ k v, P.get? k = some v → D.get? k = some v

theorem PyDict.SubMap.mem_keys {α : Type} {P D : PyDict α} (h : P.SubMap D) {k : Scalar} (hk : k ∈ P.keys) :
    k ∈ D.keys :=
  have ⟨v, hv⟩ := Option.isSome_iff_exists.mp (PyDict.mem_keys.mp hk)
  PyDict.mem_keys.mpr (by simp [h k v hv])

/-- What the state file loads as, where it loads, are desired users as they are desired. -/
def FileAgrees (D : PyDict UserSpec) (stateFile : Option JsonText) : Prop :=
  ∀ data P, stateFile = some (.value data) → stateOfJson data = .ok P → P.SubMap D

/-- A world the loop has nothing left to do in, for the desired users `D` whose
    roles make the set `A`. -/
structure Calm (D : PyDict UserSpec) (A : PySet) (w : World) : Prop where
  /-- The query of `fetch_existing_roles` lists every desired role, as a role
      without `LOGIN` outside the denylist, and the query of
      `fetch_existing_users` every desired user, as a role outside the denylist;
      both in the database and in any transaction open on it. -/
  listed : w.Sees fun c => (∀ r ∈ A, r ∈ c.selectRoles true) ∧ ∀ k ∈ D.keys, k ∈ c.selectRoles false
  file : FileAgrees D w.stateFile

/-- The settled world of `reconcileUsers_settles`, with no transaction open, is calm. -/
theorem Settled.calm {D : PyDict UserSpec} {A : PySet} {w : World} (hs : Settled D A w) (htx : w.txn = none) :
    Calm D A w := by
  obtain ⟨hE, hU, data, hfile, hdata⟩ := hs
  refine ⟨World.sees_of_txn htx ⟨hE, hU⟩, fun data' P hs hP => ?_⟩
  rw [hfile] at hs
  cases hs
  rw [hdata] at hP
  cases hP
  exact fun _ _ h => h

/-- `load_state` from a calm file returns desired users as they are desired. -/
theorem loadState_subMap {D P : PyDict UserSpec} {w : World} (hf : FileAgrees D w.stateFile)
    (h : (loadState w).result = .ok P) : P.SubMap D := by
  rcases loadState_cases h with rfl | ⟨data, hs, hd⟩
  · exact fun _ _ h => by simp at h
  · exact hf data P hs hd

/-- `save_state` of the desired users keeps the file calm, when they read back as
    they are saved. -/
theorem saveState_agrees {D : PyDict UserSpec} (hkeys : ∀ k ∈ D.keys, ∃ n, k = .str n)
    (hsafe : ∀ userSpec ∈ D.values, jsonSafe userSpec.asdict = true) :
    Steps (fun w w' => FileAgrees D w.stateFile → FileAgrees D w'.stateFile) (saveState D) := fun w hf => by
  rcases saveState_stateFile D w with h | h | ⟨v, hv, h⟩ <;> rw [h]
  · exact hf
  · exact fun _ _ h => nomatch h
  · rw [jsonValue_of_safe (jsonSafe_saved hkeys hsafe)] at hv
    cases hv
    rintro _ P ⟨⟩ hP
    rw [stateOfJson_saved D] at hP
    cases hP
    exact fun _ _ h => h

theorem fileAgrees_fileRel (D : PyDict UserSpec) :
    FileRel fun w w' => FileAgrees D w.stateFile → FileAgrees D w'.stateFile :=
  ⟨fun h hf => (h.stateFile_eq fun _ => NoSave.writesState) ▸ hf, fun h₁ h₂ hf => h₂ (h₁ hf)⟩

/-! ## One pass -/

section Pass

variable {cfg : Config} {y : YamlText} {D : PyDict UserSpec} {A : PySet}

/-- A cycle on a cluster whose ConfigMap holds `y` reads the desired users
    `parse_desired_users` finds in `y`. -/
theorem CycleInputs.desired_of_entry {c : Cluster} (hy : configmapEntry cfg c = .ok (some y)) {w₀ : World}
    (hp : (parseDesiredUsers cfg y w₀).result = .ok D) {w w₄ : World} {D' P : PyDict UserSpec} {live : PySet}
    (hin : CycleInputs cfg w D' P live w₄) (hc : w.cluster = c) : D' = D := by
  obtain ⟨y', w₁, _, _, hf, hp', -, -⟩ := hin
  obtain rfl : y' = y := by
    rcases fetchConfigmap_retries cfg w with ⟨_, -, -, -, h⟩ | ⟨-, h⟩ <;> rw [h] at hf <;> injection hf with h'
    · rw [hc, hy] at h'
      injection h' with h'
      exact (Option.some.inj h').symm
    · cases h'
  have h := parseDesiredUsers_result cfg y' w₀ w₁
  rw [hp', hp] at h
  exact Except.ok.inj h

variable {c : Cluster} (hy : configmapEntry cfg c = .ok (some y)) {w₀ : World}
  (hp : (parseDesiredUsers cfg y w₀).result = .ok D) (hA : allDesiredRoles D = .ok A)
include hy hp hA

/-- From a calm world a cycle calls no mutation. -/
theorem Calm.quiet {w : World} (h : Calm D A w) (hc : w.cluster = c) (dryRun : Bool) :
    Extends Quiet w (reconcileUsers cfg dryRun w).world := by
  rcases reconcileUsers_cases cfg dryRun w with hpre | ⟨D', P, live, w₄, hin, hpre, heq⟩
  · exact hpre.mono fun _ h => h.quiet
  obtain rfl := hin.desired_of_entry hy hp hc
  obtain ⟨hlive, -⟩ := hin.live_eq
  have hdb : w₄.db = w.db := hpre.db_eq fun e he => by
    rcases he with (rfl | rfl) | (rfl | rfl) | rfl | rfl | rfl <;> rfl
  obtain ⟨_, hf, hl⟩ := hin.loads
  rw [heq]
  exact (hpre.mono fun _ h => h.quiet).trans (reconcileLive_quiet hA (by rw [hdb]; exact h.listed.1.1)
    (fun k hk => by rw [hlive, PySet.mem_ofList]; exact h.listed.1.2 k hk) (loadState_subMap (hf ▸ h.file) hl))

/-- A statement of a cycle from a calm world keeps `pg_roles` listing the desired
    roles and users. -/
theorem Calm.preserves {w : World} (h : Calm D A w) (hc : w.cluster = c) {dryRun : Bool} (s : Stmt)
    (he : CycleEvent cfg w dryRun (.sql s)) :
    s.Preserves fun db => (∀ r ∈ A, r ∈ db.selectRoles true) ∧ ∀ k ∈ D.keys, k ∈ db.selectRoles false := by
  rcases he with he | ⟨D', P, live, w₄, A', hin, hA', he⟩
  · exact Stmt.preserves_of_isRead (by simp_all [PrefixEvent, Stmt.isRead])
  obtain rfl := hin.desired_of_entry hy hp hc
  obtain rfl : A' = A := Except.ok.inj (hA'.symm.trans hA)
  obtain ⟨_, hf, hl⟩ := hin.loads
  have hsub := loadState_subMap (hf ▸ h.file) hl
  exact (Stmt.Preserves.forall fun r => Stmt.Preserves.imp fun hr =>
      LiveEvent.preserves_selected (fun _ hD hP => hD (hsub.mem_keys hP)) true s he).and
    (Stmt.Preserves.forall fun k => Stmt.Preserves.imp fun hk =>
      LiveEvent.preserves_selected (fun _ hD => absurd hk hD) false s he)

/-- A pass of the loop from a calm world calls no mutation and leaves the world
    calm, on the same cluster, when the desired users read back as they are saved. -/
theorem Calm.cycle (hsafe : ∀ userSpec ∈ D.values, jsonSafe userSpec.asdict = true) {w : World}
    (h : Calm D A w) (hc : w.cluster = c) :
    Extends Quiet w (reconciliationCycle cfg w).world ∧ Calm D A (reconciliationCycle cfg w).world ∧
      (reconciliationCycle cfg w).world.cluster = c := by
  let w₁ : World := { w with stats := {} }
  have h₁ : Calm D A w₁ := ⟨h.listed, h.file⟩
  have hkeys : ∀ k ∈ D.keys, ∃ n, k = .str n := fun k hk => by
    obtain ⟨r, -, -, -, rfl⟩ := Catalog.mem_selectRoles.mp (h.listed.1.2 k hk)
    exact ⟨r.1, rfl⟩
  have hall : Extends (fun e => CycleEvent cfg w₁ cfg.dryRun e ∨ e = .logError) w (reconciliationCycle cfg w).world :=
    reconciliationCycle_extends cfg w (.inr rfl) ((reconcileUsers_keeps cfg cfg.dryRun w₁).mono fun _ => .inl)
  refine ⟨reconciliationCycle_extends cfg w (by rintro _ ⟨⟩) (h₁.quiet hy hp hA hc cfg.dryRun),
    ⟨hall.sees (fun s hs => hs.elim (h₁.preserves hy hp hA hc s) fun h => nomatch h) h.listed, ?_⟩,
    hall.cluster_eq.trans hc⟩
  exact reconciliationCycle_steps (fileAgrees_fileRel D) cfg w (fun D' _ _ _ hin => by
    obtain rfl := hin.desired_of_entry hy hp hc
    exact saveState_agrees hkeys hsafe) h.file

/-- Every run of the loop from a calm world calls no mutation and ends calm. -/
theorem Calm.run (hsafe : ∀ userSpec ∈ D.values, jsonSafe userSpec.asdict = true) (n : Nat) {w : World}
    (h : Calm D A w) (hc : w.cluster = c) :
    Extends Quiet w (runCycles cfg n w).world ∧ Calm D A (runCycles cfg n w).world :=
  have hrun := Steps.runCycles
    (R := fun w w' => Calm D A w → w.cluster = c → Extends Quiet w w' ∧ Calm D A w' ∧ w'.cluster = c)
    ⟨fun w h hc => ⟨.refl w, h, hc⟩, fun h₁ h₂ h hc =>
      have ⟨q₁, c₁, l₁⟩ := h₁ h hc
      have ⟨q₂, c₂, l₂⟩ := h₂ c₁ l₁
      ⟨q₁.trans q₂, c₂, l₂⟩⟩
    (fun _ h hc => h.cycle hy hp hA hsafe hc) n w h hc
  ⟨hrun.1, hrun.2.1⟩

end Pass

/-! ## Every run -/

/-- Every run of the loop from a calm world, with any failures, calls no mutation of
    `DatabaseClient` and ends calm, when the ConfigMap of the cluster holds the text
    `y`, `parse_desired_users` reads the users `D` from it, and they read back as
    they are saved. -/
theorem runCycles_calm {cfg : Config} {y : YamlText} {D : PyDict UserSpec} {A : PySet} {w : World}
    (hy : configmapEntry cfg w.cluster = .ok (some y)) (hp : (parseDesiredUsers cfg y w).result = .ok D)
    (hA : allDesiredRoles D = .ok A) (hsafe : ∀ userSpec ∈ D.values, jsonSafe userSpec.asdict = true)
    (h : Calm D A w) (n : Nat) :
    mutationCalls (runCycles cfg n w).world.log = mutationCalls w.log ∧ Calm D A (runCycles cfg n w).world :=
  have ⟨hq, hcalm⟩ := Calm.run hy hp hA hsafe n h rfl
  ⟨hq.mutationCalls_eq, hcalm⟩

/-- The world `newUserWorld`'s cycle left, where every other read of the API, of
    the database or of the state file fails. -/
def flakySettled : World := { newUserSettled with faults := fun t => t % 2 == 0 }

set_option smartUnfolding false in
/-- Three passes from it call no mutation. -/
theorem flakySettled_quiet :
    mutationCalls (runCycles Config.default 3 flakySettled).world.log = mutationCalls flakySettled.log := by
  have hin : CycleInputs Config.default newUserWorld aliceUsers PyDict.empty (PySet.ofList [.str "team"])
      newUserRead :=
    ⟨_, _, _, _, PyM.eq_of_result rfl, PyM.eq_of_result rfl, PyM.eq_of_result rfl, PyM.eq_of_result rfl⟩
  have hA : allDesiredRoles aliceUsers = .ok (PySet.ofList [.str "team"]) := rfl
  have hkeys : ∀ k ∈ aliceUsers.keys, k = .str "alice" := by decide
  obtain ⟨hE, hU, hS⟩ := reconcileUsers_settles hin (fun _ h => nomatch h) rfl hA
    (fun r hr => ⟨"team", by simpa using hr, by decide⟩) (fun k hk => ⟨"alice", hkeys k hk, by decide⟩)
    (by decide) (fun _ _ h => by simp at h) rfl (by decide)
  exact (runCycles_calm (show configmapEntry Config.default flakySettled.cluster = .ok (some _) from rfl) rfl
    hA (by decide) (Settled.calm (w := flakySettled) ⟨hE, hU, hS⟩ rfl) 3).1

end PgUserController
