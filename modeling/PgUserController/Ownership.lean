-- SUMMARY: Over every run of the reconciliation loop, whatever fails: every user the controller drops was held by the state file the run started with, or is a username of a map that an earlier `save_state` of the run was given.
import PgUserController.Idempotence

/-!
# What a run may drop

`reconcile_users` drops only users of the previous state, the map `load_state`
reads from the state file, and only `save_state` writes that file, with the
desired users of its cycle. So over any number of passes of
`run_reconciliation_loop`, with any failures (of the Kubernetes API, of the
database, of a write that leaves the file truncated), the controller drops only
users that the state file held when the run started, or that an earlier pass of
the run was told to manage (`runCycles_drops_only_owned`).

`Traced w w'` carries that history from one world to a later one: every user the
state file of `w'` holds, the state file of `w` held, or a `save_state` call
logged between the two was given. Every step of a cycle keeps it
(`reconcileUsers_steps`, for any relation `FileRel` that only `save_state` can break),
and a pass of the loop drops only what the state file
held when the pass began (`reconciliationCycle_drops`).

What every pass logs, a whole run logs (`runCycles_extends`); with `DRY_RUN` set,
that is only reads, so no run changes the catalog or the state file
(`runCycles_dryRun_pure`).
-/

namespace PgUserController

/-! ## The users a state file holds -/

/-- The usernames `load_state` reads from a state file. -/
def FileHolds (stateFile : Option JsonText) (u : Scalar) : Prop :=
  ∃ data P, stateFile = some (.value data) ∧ stateOfJson data = .ok P ∧ u ∈ P.keys

/-- `u` is, as `json.dump` writes a key, a username of a map that some `save_state`
    call among `events` was given. -/
def SavedIn (events : List Event) (u : Scalar) : Prop :=
  ∃ D, .call (.saveState D) ∈ events ∧ ∃ k ∈ D.keys, jsonKey k = .ok u

theorem SavedIn.append_left {l₁ : List Event} {u : Scalar} (h : SavedIn l₁ u) (l₂ : List Event) :
    SavedIn (l₁ ++ l₂) u :=
  have ⟨D, hD, hk⟩ := h
  ⟨D, List.mem_append_left _ hD, hk⟩

theorem SavedIn.append_right {l₂ : List Event} {u : Scalar} (h : SavedIn l₂ u) (l₁ : List Event) :
    SavedIn (l₁ ++ l₂) u :=
  have ⟨D, hD, hk⟩ := h
  ⟨D, List.mem_append_right _ hD, hk⟩

/-- The map a `save_state` call was given. -/
def Event.savedMap : Event → Option (PyDict UserSpec)
  | .call (.saveState D) => some D
  | _ => none

theorem Event.savedMap_eq_some {e : Event} {D : PyDict UserSpec} :
    e.savedMap = some D ↔ e = .call (.saveState D) := by
  cases e with
  | call c => cases c <;> simp [Event.savedMap, eq_comm]
  | _ => simp [Event.savedMap]

instance (events : List Event) (u : Scalar) : Decidable (SavedIn events u) :=
  decidable_of_iff (∃ D ∈ events.filterMap Event.savedMap, ∃ k ∈ D.keys.elems, (jsonKey k).toOption = some u) <| by
    have hj : ∀ k, (jsonKey k).toOption = some u ↔ jsonKey k = .ok u := fun k => by
      cases jsonKey k <;> simp [Except.toOption]
    simp only [List.mem_filterMap, Event.savedMap_eq_some, exists_eq_right, hj]
    exact Iff.rfl

theorem PyDict.mem_keys_insert {α : Type} {d : PyDict α} {k u : Scalar} {v : α} :
    u ∈ (d.insert k v).keys ↔ u = k ∨ u ∈ d.keys := by
  simp only [PyDict.mem_keys, PyDict.get?_insert]
  split <;> simp_all

/-- The users of a decoded state are keys of the JSON object it was decoded from. -/
theorem stateOfJson_keys {data : PyVal} {P : PyDict UserSpec} (h : stateOfJson data = .ok P) {u : Scalar}
    (hu : u ∈ P.keys) : ∃ items, data.items = .ok items ∧ u ∈ items.map Prod.fst := by
  unfold stateOfJson at h
  cases hi : data.items with
  | error e => rw [hi] at h; cases h
  | ok items =>
    rw [hi, except_ok_bind] at h
    refine ⟨items, rfl, ?_⟩
    suffices ∀ (items : List (Scalar × PyVal)) (acc : PyDict UserSpec), items.foldlM (fun users item => do
        pure (users.insert item.1 (← userSpecOfJson item.2))) acc = .ok P → u ∈ acc.keys ∨ u ∈ items.map Prod.fst from
      (this items _ h).resolve_left (by simp [PyDict.mem_keys])
    intro items
    induction items with
    | nil => intro acc h; cases h; exact .inl hu
    | cons item items ih =>
      intro acc h
      simp only [List.foldlM_cons, except_bind_eq_ok] at h
      obtain ⟨_, ⟨spec, -, hacc⟩, h⟩ := h
      cases hacc
      rcases ih _ h with h | h
      · rcases PyDict.mem_keys_insert.mp h with rfl | h
        · exact .inr (List.mem_cons_self _ _)
        · exact .inl h
      · exact .inr (List.mem_cons_of_mem _ h)

/-- What `load_state` returns: `{}`, or the decoded content of the state file. -/
theorem loadState_cases {w : World} {P : PyDict UserSpec} (h : (loadState w).result = .ok P) :
    P = PyDict.empty ∨ ∃ data, w.stateFile = some (.value data) ∧ stateOfJson data = .ok P := by
  cases hf : w.stateFile with
  | none => simp [loadState, record, PyM.read, PyM.modify, PyM.bind_apply, hf] at h; exact .inl h.symm
  | some text =>
    cases hfault : w.faults w.tick
    · cases text with
      | malformed =>
        simp [loadState, record, PyM.read, fault, PyM.modify, PyM.bind_apply, hf, hfault, logError] at h
        exact .inl h.symm
      | undecodable =>
        simp [loadState, record, PyM.read, fault, PyM.modify, PyM.raise, PyM.bind_apply, hf, hfault] at h
      | value data => exact .inr ⟨data, rfl, (loadState_value hf hfault).symm.trans h⟩
    · simp [loadState, record, PyM.read, fault, PyM.modify, PyM.bind_apply, hf, hfault, logError] at h
      exact .inl h.symm

/-- The users `load_state` returns are users the state file holds. -/
theorem loadState_holds {w : World} {P : PyDict UserSpec} (h : (loadState w).result = .ok P) {u : Scalar}
    (hu : u ∈ P.keys) : FileHolds w.stateFile u := by
  rcases loadState_cases h with rfl | ⟨data, hf, hd⟩
  · simp [PyDict.mem_keys] at hu
  · exact ⟨data, P, hf, hd, hu⟩

/-- The users of what `save_state` writes for `D` are, as `json.dump` writes a
    key, usernames of `D`. -/
theorem saved_keys {D : PyDict UserSpec} {v : PyVal}
    (hv : jsonValue (.dict (D.entries.map fun e => (e.1, e.2.asdict))) = .ok v) {u : Scalar}
    (hu : FileHolds (some (.value v)) u) : ∃ k ∈ D.keys, jsonKey k = .ok u := by
  obtain ⟨_, P, ⟨⟩, hP, hu⟩ := hu
  obtain ⟨items, hi, hmem⟩ := stateOfJson_keys hP hu
  obtain ⟨out, hout, rfl⟩ := except_map_eq_ok.mp
    (show PyVal.dict <$> jsonItems (D.entries.map fun e => (e.1, e.2.asdict)) [] = _ by
      rw [← hv]; simp only [jsonValue])
  cases hi
  rcases (jsonItems_keys hout u).mp hmem with h | ⟨k, hk, hj⟩
  · simp at h
  · exact ⟨k, show k ∈ D.entries.map Prod.fst by simpa [List.map_map, Function.comp_def] using hk, hj⟩

/-! ## The history of the state file -/

/-- An event that is not a call of `save_state`. -/
def NoSave (e : Event) : Prop := ∀ D, e ≠ .call (.saveState D)

theorem NoSave.writesState {e : Event} (h : NoSave e) : e.writesState = false := by
  cases e with
  | call c => cases c <;> first | rfl | exact absurd rfl (h _)
  | _ => rfl

/-- From `w` to `w'` the log grew by `new`, and every user the state file of `w'`
    holds, the state file of `w` held or a `save_state` call of `new` was given. -/
def Traced (w w' : World) : Prop :=
  ∃ new, w'.log = w.log ++ new ∧ ∀ u, FileHolds w'.stateFile u → FileHolds w.stateFile u ∨ SavedIn new u

namespace Traced

theorem refl (w : World) : Traced w w := ⟨[], by simp, fun _ h => .inl h⟩

theorem trans {w₁ w₂ w₃ : World} (h₁ : Traced w₁ w₂) (h₂ : Traced w₂ w₃) : Traced w₁ w₃ := by
  obtain ⟨n₁, hl₁, hs₁⟩ := h₁
  obtain ⟨n₂, hl₂, hs₂⟩ := h₂
  refine ⟨n₁ ++ n₂, by rw [hl₂, hl₁, List.append_assoc], fun u hu => ?_⟩
  rcases hs₂ u hu with h | h
  · exact (hs₁ u h).imp_right (·.append_left _)
  · exact .inr (h.append_right _)

/-- Steps that call no `save_state` leave the state file as it was. -/
theorem of_extends {w w' : World} (h : Extends NoSave w w') : Traced w w' := by
  have ⟨new, hl, _⟩ := h
  exact ⟨new, hl, fun u hu => .inl (h.stateFile_eq (fun _ => NoSave.writesState) ▸ hu)⟩

end Traced

/-! ## Relations that only `save_state` can break -/

/-- A relation between a world and a later one that holds over every run of steps
    calling no `save_state`, and composes. -/
structure FileRel (R : World → World → Prop) : Prop where
  of_extends : ∀ {w w' : World}, Extends NoSave w w' → R w w'
  trans : ∀ {w₁ w₂ w₃ : World}, R w₁ w₂ → R w₂ w₃ → R w₁ w₃

/-- Such a relation holds of every world and itself. -/
theorem FileRel.stepRel {R : World → World → Prop} (hR : FileRel R) : StepRel R :=
  ⟨fun w => hR.of_extends (.refl w), hR.trans⟩

theorem Steps.of_keeps {α : Type} {R : World → World → Prop} (hR : FileRel R) {x : PyM α} (h : Keeps NoSave x) :
    Steps R x :=
  fun w => hR.of_extends (h w)

theorem Traced.fileRel : FileRel Traced := ⟨Traced.of_extends, Traced.trans⟩

/-- What `save_state` leaves in the file: the file as it was, a truncated file, or
    the JSON of the map it was given. -/
theorem saveState_stateFile (D : PyDict UserSpec) (w : World) :
    (saveState D w).world.stateFile = w.stateFile ∨ (saveState D w).world.stateFile = some .malformed ∨
      SavedAs D (saveState D w).world.stateFile := by
  by_cases h₁ : w.faults w.tick
  · exact .inl (by simp [saveState, h₁])
  cases hj : jsonValue (.dict (D.entries.map fun e => (e.1, e.2.asdict))) with
  | error e => exact .inr (.inl (by simp [saveState, h₁, hj]))
  | ok v =>
    by_cases h₂ : w.faults (w.tick + 1)
    · exact .inr (.inl (by simp [saveState, h₁, hj, h₂]))
    · exact .inr (.inr ⟨v, hj, by simp [saveState, h₁, hj, h₂]⟩)

theorem saveState_traces (D : PyDict UserSpec) : Steps Traced (saveState D) := fun w => by
  obtain ⟨new, hl⟩ := saveState_starts D w
  refine ⟨_, hl, fun u hu => ?_⟩
  rcases saveState_stateFile D w with h | h | ⟨v, hv, h⟩ <;> rw [h] at hu
  · exact .inl hu
  · obtain ⟨_, _, ⟨⟩, -⟩ := hu
  · exact .inr ⟨D, List.mem_cons_self _ _, saved_keys hv hu⟩

/-! ## A cycle -/

section Cycle

variable {R : World → World → Prop} {cfg : Config} {D P : PyDict UserSpec} {live : PySet} {dryRun : Bool}

theorem prefixEvent_noSave {e : Event} (h : PrefixEvent e) : NoSave e := by
  rintro D rfl
  simp [PrefixEvent] at h

/-- Apart from its `save_state` of the desired users, `applyDrift` calls no `save_state`. -/
theorem applyDrift_steps (hR : FileRel R) (hsave : Steps R (saveState D)) :
    Steps R (applyDrift cfg D P live dryRun) := by
  have hdel : Keeps NoSave (deleteUsers cfg P (live.diff D.keys) dryRun) := Keeps.forEach fun _ _ =>
    deleteUserItem_events (fun _ _ h _ he => by subst he; simp at h) (by simp [NoSave])
  have hcre : Keeps NoSave (createUsers cfg D (D.keys.diff live) dryRun) := Keeps.forEach fun _ _ =>
    createUserItem_events (fun _ _ _ h _ he => by subst he; simp at h) (by simp [NoSave])
  have hupd : Keeps NoSave (updateUsers D P (D.keys.inter live) dryRun) := Keeps.forEach fun _ _ =>
    updateUserItem_events (fun _ _ _ h _ he => by subst he; simp at h) (by simp [NoSave])
  have htail : Keeps NoSave (do
      PyM.modify fun w => { w with metrics := { w.metrics with usersManaged := D.card } }
      let roles ← fetchExistingRoles
      PyM.modify fun w => { w with metrics := { w.metrics with rolesManaged := roles.card } } : PyM Unit) :=
    (Keeps.of_frame fun _ => ⟨rfl, rfl, rfl, .inl rfl, rfl, rfl⟩).bind fun _ =>
      ((fetchRoleNames_keeps _ _).mono fun _ h _ he => by subst he; simp at h).bind fun _ =>
        .of_frame fun _ => ⟨rfl, rfl, rfl, .inl rfl, rfl, rfl⟩
  unfold applyDrift
  dsimp only [detectDrift]
  split <;> refine Steps.bind hR.stepRel (.of_keeps hR (by first | exact .modifyStats _ | exact .pure _)) fun _ =>
    (Steps.of_keeps hR hdel).bind hR.stepRel fun _ => (Steps.of_keeps hR hcre).bind hR.stepRel fun _ =>
      (Steps.of_keeps hR hupd).bind hR.stepRel fun _ => ?_
  all_goals
    split
    · exact hsave.bind hR.stepRel fun _ => .of_keeps hR htail
    · exact .of_keeps hR ((Keeps.pure _).bind fun _ => htail)

theorem reconcileLive_steps (hR : FileRel R) (hsave : Steps R (saveState D)) :
    Steps R (reconcileLive cfg D P live dryRun) := by
  cases hA : allDesiredRoles D with
  | error e => exact fun w => by rw [reconcileLive_of_roles_error hA]; exact hR.of_extends (.refl w)
  | ok A =>
    exact Steps.bind hR.stepRel (.of_keeps hR ((reconcileRoles_keeps hA).mono fun _ h _ he => by
      subst he; simp [RolesEvent] at h)) fun _ => applyDrift_steps hR hsave

/-- A cycle calls `save_state` only with the desired users it read. -/
theorem reconcileUsers_steps (hR : FileRel R) (cfg : Config) (dryRun : Bool) (w : World)
    (hsave : ∀ D P live w₄, CycleInputs cfg w D P live w₄ → Steps R (saveState D)) :
    R w (reconcileUsers cfg dryRun w).world := by
  rcases reconcileUsers_cases cfg dryRun w with h | ⟨D, P, live, w₄, hin, hpre, heq⟩
  · exact hR.of_extends (h.mono fun _ => prefixEvent_noSave)
  · rw [heq]
    exact hR.trans (hR.of_extends (hpre.mono fun _ => prefixEvent_noSave))
      (reconcileLive_steps hR (hsave D P live w₄ hin) w₄)

/-- A pass of the loop, around its `reconcile_users`. -/
theorem reconciliationCycle_steps (hR : FileRel R) (cfg : Config) (w : World)
    (hsave : ∀ D P live w₄, CycleInputs cfg { w with stats := {} } D P live w₄ → Steps R (saveState D)) :
    R w (reconciliationCycle cfg w).world := by
  unfold reconciliationCycle
  rw [PyM.bind_ok (show PyM.modify (fun w => { w with stats := {} }) w = ⟨.ok (), { w with stats := {} }⟩ from rfl)]
  exact hR.trans (hR.of_extends (.of_frame ⟨rfl, rfl, rfl, .inl rfl, rfl, rfl⟩) : R w { w with stats := {} }) <|
    hR.stepRel.bind_apply (hR.stepRel.tryCatch_apply (reconcileUsers_steps hR cfg cfg.dryRun _ hsave) fun _ =>
      .of_keeps hR ((Keeps.logError (by simp [NoSave])).bind fun _ => .countError)) fun _ =>
      .of_keeps hR (.of_frame fun _ => ⟨rfl, rfl, rfl, .inl rfl, rfl, rfl⟩)

end Cycle

theorem reconciliationCycle_traces (cfg : Config) (w : World) : Traced w (reconciliationCycle cfg w).world :=
  reconciliationCycle_steps Traced.fileRel cfg w fun D _ _ _ _ => saveState_traces D

/-! ## What a cycle drops -/

/-- The event removes the role `u`: a call of `drop_user` for it, or a statement
    that drops it. -/
def Removes (u : Scalar) (e : Event) : Prop :=
  e = .call (.dropUser u) ∨ ∃ n s, u = .str n ∧ e = .sql s ∧ s.Drops n

/-- Every role the event removes, the state file `s` holds. -/
def DropsHeld (s : Option JsonText) (e : Event) : Prop := ∀ u, Removes u e → FileHolds s u

/-- A cycle loads its previous state from the state file it began with. -/
theorem CycleInputs.loads {cfg : Config} {w w₄ : World} {D P : PyDict UserSpec} {live : PySet}
    (h : CycleInputs cfg w D P live w₄) : ∃ w₂ : World, w₂.stateFile = w.stateFile ∧ (loadState w₂).result = .ok P := by
  obtain ⟨yamlContent, w₁, w₂, w₃, hc, hp, hl, -⟩ := h
  have h₂ : Extends PrefixEvent w w₂ :=
    (((fetchConfigmap_keeps cfg).mono fun _ h => (.inl h : PrefixEvent _)).run hc).trans
      ((parseDesiredUsers_keeps cfg yamlContent (.inl (by simp))).run hp)
  exact ⟨w₂, h₂.stateFile_eq fun _ h => (prefixEvent_noSave h).writesState, by rw [hl]⟩

/-- The previous state a cycle read is held by the state file it began with. -/
theorem CycleInputs.holds {cfg : Config} {w w₄ : World} {D P : PyDict UserSpec} {live : PySet}
    (h : CycleInputs cfg w D P live w₄) {u : Scalar} (hu : u ∈ P.keys) : FileHolds w.stateFile u :=
  have ⟨_, hf, hl⟩ := h.loads
  hf ▸ loadState_holds hl hu

theorem CycleEvent.dropsHeld {cfg : Config} {w : World} {dryRun : Bool} {e : Event}
    (h : CycleEvent cfg w dryRun e) : DropsHeld w.stateFile e := by
  rintro u (rfl | ⟨n, s, rfl, rfl, hd⟩) <;> rcases h with h | ⟨D, P, live, w₄, A, hin, -, h⟩
  · simp [PrefixEvent] at h
  · obtain ⟨_, -, -, hp, rfl⟩ : ∃ u' ∈ live, u' ∉ D.keys ∧ u' ∈ P.keys ∧ u = u' := by
      simpa [LiveEvent, RolesEvent] using h
    exact hin.holds hp
  · obtain rfl : s = .selectUsers := by simpa [PrefixEvent] using h
    cases hd
  · exact hin.holds (h.drops hd).2.2

section Pointwise

variable {α β : Type} {Q : Event → Prop} {w : World}

/-- `Keeps.bind` from one world, for a guarantee that depends on it. -/
theorem Extends.bind_apply {x : PyM α} {f : α → PyM β} (hx : Extends Q w (x w).world)
    (hf : ∀ a, Keeps Q (f a)) : Extends Q w ((x >>= f) w).world :=
  (Extends.stepRel Q).bind_apply hx hf

/-- `Keeps.tryCatch` from one world, for a guarantee that depends on it. -/
theorem Extends.tryCatch_apply {x : PyM α} {h : PyExc → PyM α} (hx : Extends Q w (x w).world)
    (hh : ∀ e, Keeps Q (h e)) : Extends Q w (PyM.tryCatch x h w).world :=
  (Extends.stepRel Q).tryCatch_apply hx hh

end Pointwise

/-- A pass of the loop appends what its `reconcile_users` appends from the world
    with fresh counters, and the error it logs when that raises. -/
theorem reconciliationCycle_extends {Q : Event → Prop} (cfg : Config) (w : World) (hlog : Q .logError)
    (hu : Extends Q { w with stats := {} } (reconcileUsers cfg cfg.dryRun { w with stats := {} }).world) :
    Extends Q w (reconciliationCycle cfg w).world := by
  unfold reconciliationCycle
  rw [PyM.bind_ok (show PyM.modify (fun w => { w with stats := {} }) w = ⟨.ok (), { w with stats := {} }⟩ from rfl)]
  exact (Extends.of_frame ⟨rfl, rfl, rfl, .inl rfl, rfl, rfl⟩).trans <|
    (hu.tryCatch_apply fun _ => (Keeps.logError hlog).bind fun _ => .countError).bind_apply fun _ =>
      .of_frame fun _ => ⟨rfl, rfl, rfl, .inl rfl, rfl, rfl⟩

/-- A pass of the loop drops only users that the state file held when it began. -/
theorem reconciliationCycle_drops (cfg : Config) (w : World) :
    Extends (DropsHeld w.stateFile) w (reconciliationCycle cfg w).world :=
  reconciliationCycle_extends cfg w (by simp [DropsHeld, Removes])
    ((reconcileUsers_keeps cfg cfg.dryRun _).mono fun _ => CycleEvent.dropsHeld)

/-! ## A run -/

/-- From `w` to `w'` the log grew by `new`; every user the state file of `w'`
    holds, the state file of `w` held or a `save_state` call of `new` was given;
    every role an event of `new` removes, the state file of `w` held or a
    `save_state` call before the event was given; and what no statement of `new`
    can undo, `w'` still sees. -/
def Owned (w w' : World) : Prop :=
  ∃ new, w'.log = w.log ++ new ∧ (∀ u, FileHolds w'.stateFile u → FileHolds w.stateFile u ∨ SavedIn new u) ∧
    (∀ pre e post, new = pre ++ e :: post → ∀ u, Removes u e → FileHolds w.stateFile u ∨ SavedIn pre u) ∧
    ∀ V, (∀ s, .sql s ∈ new → s.Preserves V) → w.Sees V → w'.Sees V

namespace Owned

theorem refl (w : World) : Owned w w :=
  ⟨[], by simp, fun _ h => .inl h, fun _ _ _ h => by simp at h, fun _ _ h => h⟩

theorem trans {w₁ w₂ w₃ : World} (h₁ : Owned w₁ w₂) (h₂ : Owned w₂ w₃) : Owned w₁ w₃ := by
  obtain ⟨n₁, hl₁, hs₁, hd₁, hV₁⟩ := h₁
  obtain ⟨n₂, hl₂, hs₂, hd₂, hV₂⟩ := h₂
  have back : ∀ {u l}, FileHolds w₂.stateFile u ∨ SavedIn l u → FileHolds w₁.stateFile u ∨ SavedIn (n₁ ++ l) u
    | _, _, .inl h => (hs₁ _ h).imp_right (·.append_left _)
    | _, _, .inr h => .inr (h.append_right _)
  refine ⟨n₁ ++ n₂, by rw [hl₂, hl₁, List.append_assoc], fun u hu => back (hs₂ u hu), fun pre e post hn u hu => ?_,
    fun V hV hw => hV₂ V (fun s hs => hV s (List.mem_append_right _ hs))
      (hV₁ V (fun s hs => hV s (List.mem_append_left _ hs)) hw)⟩
  rcases List.append_eq_append_iff.mp hn with ⟨a, rfl, h⟩ | ⟨_ | ⟨c, cs⟩, rfl, h⟩
  · exact back (hd₂ a e post h u hu)
  · simpa using back (hd₂ [] e post h.symm u hu)
  · obtain ⟨rfl, rfl⟩ := List.cons_eq_cons.mp h
    exact hd₁ pre e cs rfl u hu

/-- A cycle whose state file is traced and whose removals the state file held. -/
theorem of_traced {w w' : World} (ht : Traced w w') (hd : Extends (DropsHeld w.stateFile) w w') : Owned w w' := by
  obtain ⟨new, hl, hs⟩ := ht
  obtain ⟨new', hl', hev, -, -, hV, -⟩ := hd
  obtain rfl := List.append_cancel_left (hl.symm.trans hl')
  exact ⟨new, hl, hs, fun pre e post hn u hu => .inl (hev e (by simp [hn]) u hu), hV⟩

end Owned

/-- What every pass of the loop keeps, a whole run keeps. -/
theorem Steps.runCycles {R : World → World → Prop} (hR : StepRel R) {cfg : Config}
    (hc : Steps R (reconciliationCycle cfg)) : ∀ n, Steps R (runCycles cfg n)
  | 0 => .pure hR ()
  | n + 1 => hc.bind hR fun _ => Steps.runCycles hR hc n

theorem runCycles_owned (cfg : Config) (n : Nat) : Steps Owned (runCycles cfg n) :=
  Steps.runCycles ⟨Owned.refl, Owned.trans⟩
    (fun w => .of_traced (reconciliationCycle_traces cfg w) (reconciliationCycle_drops cfg w)) n

/-- A run of the loop extends by `Q` when every guarded `reconcile_users` does and
    `Q` allows the loop's own logged error. -/
theorem runCycles_extends {Q : Event → Prop} (cfg : Config) (hlog : Q .logError)
    (hu : ∀ w : World, Extends Q { w with stats := {} } (reconcileUsers cfg cfg.dryRun { w with stats := {} }).world) :
    ∀ n, Steps (Extends Q) (runCycles cfg n) :=
  Steps.runCycles (Extends.stepRel Q) fun w => reconciliationCycle_extends cfg w hlog (hu w)

/-- Over any number of passes of `run_reconciliation_loop`, with any failures,
    every user the controller calls `drop_user` for is held by the state file the
    run began with, or is a username of the desired users of an earlier
    `save_state` call of the run. -/
theorem runCycles_drops_only_owned (cfg : Config) (n : Nat) (w : World) :
    ∃ new, (runCycles cfg n w).world.log = w.log ++ new ∧
      ∀ pre u post, new = pre ++ .call (.dropUser u) :: post → FileHolds w.stateFile u ∨ SavedIn pre u :=
  have ⟨new, hl, _, hd, _⟩ := runCycles_owned cfg n w
  ⟨new, hl, fun pre u post hn => hd pre _ post hn u (.inl rfl)⟩

/-- Every desired users map that a cycle on the cluster `c` can read has plain
    privilege keywords. -/
def ClusterPlain (cfg : Config) (c : Cluster) : Prop :=
  ∀ w D P live w₄, w.cluster = c → CycleInputs cfg w D P live w₄ → PlainPrivileges D

/-- A role that the state file did not hold when the run began, and that no
    `save_state` call of the run was given, is still listed by `pg_roles` after
    any number of passes of the loop, with any failures. The desired privilege
    keywords are plain, so that no `GRANT ... ON` of the run drops a role on the
    server; the model refuses any other keyword, so the proof does without the
    hypothesis. -/
theorem runCycles_keeps_unowned_roles (cfg : Config) (n : Nat) (w : World) {r : String} (b : Bool)
    (_hplain : ClusterPlain cfg w.cluster)
    (hr : w.Sees fun c => .str r ∈ c.selectRoles b) (hfile : ¬ FileHolds w.stateFile (.str r))
    (hsaved : ¬ SavedIn (runCycles cfg n w).world.log (.str r)) :
    (runCycles cfg n w).world.Sees fun c => .str r ∈ c.selectRoles b := by
  obtain ⟨new, hl, -, hd, hV⟩ := runCycles_owned cfg n w
  refine hV _ (fun s hs => Stmt.preserves_selected (fun m hm hdrop => ?_) b) hr
  obtain ⟨pre, post, rfl⟩ := List.append_of_mem hs
  rcases hd pre _ post rfl _ (.inr ⟨m, s, hm, rfl, hdrop⟩) with h | h
  · exact hfile h
  · exact hsaved (hl ▸ (h.append_left _).append_right _)

/-- `bob`, a login role made by hand, is not in `users.yaml`, which lists `alice`,
    and the controller starts without a state file. -/
def handMadeWorld : World where
  db := { roles := [("postgres", true), ("bob", true)], members := [], databases := ["postgres"],
          connect := [], grants := [], owners := [] }
  pool := ⟨[⟨false⟩], 1⟩
  cluster :=
    { configMaps := fun _ _ => some ⟨some [("users.yaml", .document (.dict [(.str "users",
        .list [userEntry "alice" []])]))]⟩
      secrets := fun _ _ => some (.decoded "pw") }
  stateFile := none
  faults := fun _ => false

set_option smartUnfolding false in
/-- A cycle on `handMadeWorld`'s cluster reads `alice`, who has no privileges. -/
theorem handMadeWorld_plain : ClusterPlain Config.default handMadeWorld.cluster := by
  let D₀ : PyDict UserSpec := PyDict.empty.insert (.str "alice") ⟨.str "alice", .str "postgres", .list [], .scalar .none⟩
  have hin : CycleInputs Config.default handMadeWorld D₀ PyDict.empty (PySet.ofList [.str "bob"]) _ :=
    ⟨_, _, _, _, PyM.eq_of_result rfl, PyM.eq_of_result rfl, PyM.eq_of_result rfl, PyM.eq_of_result rfl⟩
  intro w D P live w₄ hc hin'
  rw [hin.desired_eq hin' hc]
  exact .of_none (by decide)

set_option smartUnfolding false in
/-- Two passes create and save `alice`, and leave `bob`. -/
theorem handMadeWorld_keeps_bob :
    (runCycles Config.default 2 handMadeWorld).world.Sees fun c => .str "bob" ∈ c.selectRoles false :=
  runCycles_keeps_unowned_roles Config.default 2 handMadeWorld false handMadeWorld_plain ⟨by decide, by decide⟩
    (by simp [FileHolds, handMadeWorld]) (by decide)

/-- With `DRY_RUN` set, no run of the loop, whatever fails in it, changes the
    catalog or the state file: it sends no statement but the reads of
    `fetch_existing_users`, `fetch_existing_roles` and `fetch_user_roles`, and
    never calls `save_state`. -/
theorem runCycles_dryRun_pure {cfg : Config} (hdry : cfg.dryRun = true) (n : Nat) (w : World) :
    (runCycles cfg n w).world.db = w.db ∧ (runCycles cfg n w).world.stateFile = w.stateFile ∧
    ∃ new, (runCycles cfg n w).world.log = w.log ++ new ∧ ∀ e ∈ new,
      (∀ s, e = .sql s → s = .selectUsers ∨ s = .selectRoles ∨ ∃ u, s = .selectUserRoles u) ∧
      ∀ users, e ≠ .call (.saveState users) := by
  have h := runCycles_extends cfg ⟨fun _ h => (nomatch h), rfl, rfl⟩
    (fun w => hdry ▸ (reconcileUsers_keeps cfg true _).mono fun _ => cycleEvent_dryRun) n w
  refine ⟨h.db_eq fun _ he => he.2.1, h.stateFile_eq fun _ he => he.2.2, ?_⟩
  obtain ⟨new, hlog, hev, -⟩ := h
  refine ⟨new, hlog, fun e he => ⟨(hev e he).1, ?_⟩⟩
  rintro users rfl
  simpa [Event.writesState, Call.isSave] using (hev _ he).2.2

/-- Two dry passes over `handMadeWorld` leave its catalog as it was. -/
theorem handMadeWorld_dryRun_pure :
    (runCycles { Config.default with dryRun := true } 2 handMadeWorld).world.db = handMadeWorld.db :=
  (runCycles_dryRun_pure rfl 2 handMadeWorld).1

end PgUserController
