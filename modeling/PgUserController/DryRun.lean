-- SUMMARY: Dry-run cycles: they send only the three reads and leave the catalog and the state file as they were; but the mutations they report can differ from those of a real run, whose drops change what a later `fetch_user_roles` reads.
import PgUserController.Safety

/-!
# Dry runs

In dry-run mode every mutation of `DatabaseClient` logs its call and returns
before it takes a connection, and `reconcile_users` skips `save_state`. So a
dry-run cycle sends only the `SELECT`s of `fetch_existing_users`,
`fetch_existing_roles` and `fetch_user_roles`, and changes neither the catalog nor
the state file (`reconcileUsers_dryRun_pure`).

A dry run does not stand for the real run on the same inputs, though: the real
run drops users before it reads the memberships of the users it updates, and the
dry run reads them with the dropped roles still in place. Where no dropped user
is such a role, the two agree (`reconcileUsers_dryRun_agrees`, in `Agreement`).
-/

namespace PgUserController

/-- What an event of a dry-run cycle can be: it sends one of the three reads at
    most, and writes neither the catalog nor the state file. -/
theorem cycleEvent_dryRun {cfg : Config} {w : World} {e : Event} (h : CycleEvent cfg w true e) :
    (∀ s, e = .sql s → s = .selectUsers ∨ s = .selectRoles ∨ ∃ u, s = .selectUserRoles u) ∧
    e.writesDb = false ∧ e.writesState = false := by
  rcases h with h | ⟨D, P, live, w₄, A, -, -, h⟩ <;> cases e <;>
    simp [PrefixEvent, LiveEvent, RolesEvent, Event.writesDb, Event.writesState] at h ⊢
  · rcases h with rfl | rfl | rfl <;> rfl
  · subst h; simp [Stmt.isRead]
  · revert h; cases ‹Call› <;> simp [Call.isSave]
  · rcases h with rfl | ⟨u, -, -, rfl⟩ <;> simp [Stmt.isRead]

/-- A dry-run cycle sends no statement but the reads of `fetch_existing_users`,
    `fetch_existing_roles` and `fetch_user_roles`, never calls `save_state`, and
    leaves the catalog and the state file as they were. -/
theorem reconcileUsers_dryRun_pure (cfg : Config) (w : World) :
    (reconcileUsers cfg true w).world.db = w.db ∧ (reconcileUsers cfg true w).world.stateFile = w.stateFile ∧
    ∃ new, (reconcileUsers cfg true w).world.log = w.log ++ new ∧ ∀ e ∈ new,
      (∀ s, e = .sql s → s = .selectUsers ∨ s = .selectRoles ∨ ∃ u, s = .selectUserRoles u) ∧
      ∀ users, e ≠ .call (.saveState users) := by
  have h := reconcileUsers_keeps cfg true w
  refine ⟨h.db_eq fun _ he => (cycleEvent_dryRun he).2.1,
    h.stateFile_eq fun _ he => (cycleEvent_dryRun he).2.2, ?_⟩
  obtain ⟨new, hlog, hev, -, -⟩ := h
  refine ⟨new, hlog, fun e he => ⟨(cycleEvent_dryRun (hev e he)).1, ?_⟩⟩
  rintro users rfl
  simpa [Event.writesState, Call.isSave] using (cycleEvent_dryRun (hev _ he)).2.2

/-! ## What a dry run reports -/

/-- Whether a call is one of the mutations of `DatabaseClient`. -/
def Call.isMutation : Call → Bool
  | .createRole _ | .dropRole _ | .createUser _ _ | .updateUserRoles _ _ _ | .dropUser _ => true
  | _ => false

/-- The mutations called in a log, in order. -/
def mutationCalls (log : List Event) : List Call :=
  log.filterMap fun
    | .call c => if c.isMutation then some c else none
    | _ => none

@[simp] theorem mutationCalls_append (l₁ l₂ : List Event) :
    mutationCalls (l₁ ++ l₂) = mutationCalls l₁ ++ mutationCalls l₂ :=
  List.filterMap_append _ _ _

/-- An event that is not the call of a mutation of `DatabaseClient`. -/
def Quiet (e : Event) : Prop := ∀ c, e = .call c → c.isMutation = false

/-- A log of quiet events calls no mutation. -/
theorem mutationCalls_eq_nil {l : List Event} (h : ∀ e ∈ l, Quiet e) : mutationCalls l = [] :=
  List.filterMap_eq_nil_iff.mpr fun e he => by
    cases e with
    | call c => simp [h _ he c rfl]
    | _ => rfl

theorem QueryEvent.quiet {c : Call} {s : Stmt} (hc : c.isMutation = false) {e : Event} (h : QueryEvent c s e) :
    Quiet e := by
  rintro c' rfl
  simp only [queryEvent_call] at h
  rw [h, hc]

/-- The entry of a user for `users.yaml` or the state file. -/
def userEntry (name : String) (roles : List PyVal) : PyVal :=
  .dict [(.str "username", .str name), (.str "database", .str "postgres"), (.str "roles", .list roles),
    (.str "privileges", .scalar .none)]

/-- `alice`, desired with no roles, last applied as a member of the role `team`,
    which the previous state also holds and the desired users no longer do. -/
def memberWorld : World where
  db := { roles := [("postgres", true), ("alice", true), ("team", false)], members := [("team", "alice")],
          databases := ["postgres"], connect := [], grants := [], owners := [] }
  pool := ⟨[⟨false⟩], 1⟩
  cluster :=
    { configMaps := fun _ _ => some ⟨some [("users.yaml", .document (.dict [(.str "users",
        .list [userEntry "alice" []])]))]⟩
      secrets := fun _ _ => some (.decoded "pw") }
  stateFile := some (.value (.dict [(.str "alice", userEntry "alice" [.str "team"]),
    (.str "team", userEntry "team" [])]))
  faults := fun _ => false

set_option smartUnfolding false in
/-- The real run drops `team` and then finds `alice` already without it; the dry
    run reads `alice` still in `team` and reports an `update_user_roles` that the
    real run does not make. -/
theorem reconcileUsers_dryRun_reports_other_updates :
    Event.logError ∉ (reconcileUsers Config.default false memberWorld).world.log ∧
    mutationCalls (reconcileUsers Config.default false memberWorld).world.log = [.dropUser (.str "team")] ∧
    mutationCalls (reconcileUsers Config.default true memberWorld).world.log =
      [.dropUser (.str "team"), .updateUserRoles (.str "alice") (PySet.ofList [.str "team"]) PySet.empty] ∧
    (reconcileUsers Config.default false memberWorld).world.stats.usersUpdated = 0 ∧
    (reconcileUsers Config.default true memberWorld).world.stats.usersUpdated = 1 := by
  decide

end PgUserController
