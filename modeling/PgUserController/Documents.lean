-- SUMMARY: The controller's two documents: `parse_desired_users` on the `users.yaml` document, and `StateManager.load_state` and `save_state` on the JSON state file.
import PgUserController.Program

/-!
# Documents

`parse_desired_users` turns the loaded `users.yaml` document into a dict of
`UserSpec` keyed by username. It catches `YAMLError` and `KeyError` (an entry
without `username`) and answers `{}` for them; any other error of a badly shaped
document propagates.

`save_state` writes `{username: asdict(spec)}` with `json.dump`, and
`load_state` reads it back with `json.load` and `UserSpec(**spec)`. `jsonValue`
is what survives that trip: dict keys become strings, and a date cannot be
written at all.
-/

namespace PgUserController

/-! ## users.yaml -/

/-- One entry of `users:` as a `UserSpec` and its key `spec.username`, which must
    be hashable. -/
def userSpecOf (cfg : Config) (userData : PyVal) : Except PyExc (Scalar × UserSpec) := do
  let username ← userData.getItem (.str "username")
  let database ← userData.get (.str "database") (.str cfg.dbName)
  let roles ← userData.get (.str "roles") (.list [])
  let privileges ← userData.get (.str "privileges") (.scalar .none)
  let key ← username.hash?
  pure (key, { username, database, roles, privileges })

/-- The users of a loaded `users.yaml` document; a later entry for a username
    replaces an earlier one in its place. -/
def decodeUsers (cfg : Config) (parsed : PyVal) : Except PyExc (PyDict UserSpec) := do
  let usersList ← parsed.get (.str "users") (.list [])
  let entries ← usersList.iter
  entries.foldlM (fun users userData => do
    let (key, spec) ← userSpecOf cfg userData
    pure (users.insert key spec)) PyDict.empty

/-- `PostgresUserController.parse_desired_users`. -/
def parseDesiredUsers (cfg : Config) (yamlContent : YamlText) : PyM (PyDict UserSpec) :=
  match yamlContent with
  | .empty => pure PyDict.empty
  | .malformed => do logError; pure PyDict.empty
  | .document parsed =>
    match decodeUsers cfg parsed with
    | .ok users => pure users
    | .error .keyError => do logError; pure PyDict.empty
    | .error e => PyM.raise e

/-- Every user of the dict is filed under its own username. -/
def UsersKeyed (users : PyDict UserSpec) : Prop :=
  ∀ k userSpec, users.get? k = some userSpec → userSpec.username = .scalar k

theorem userSpecOf_username {cfg : Config} {userData : PyVal} {key : Scalar} {userSpec : UserSpec}
    (h : userSpecOf cfg userData = .ok (key, userSpec)) : userSpec.username = .scalar key := by
  simp only [userSpecOf, except_bind_eq_ok] at h
  obtain ⟨username, -, _, -, _, -, _, -, key', hk, he⟩ := h
  cases he
  rcases username with _ | _ | _ <;> cases hk
  rfl

/-- `parse_desired_users` files each user under its username: a later entry for a
    username replaces the earlier one. -/
theorem decodeUsers_keyed {cfg : Config} {parsed : PyVal} {users : PyDict UserSpec}
    (h : decodeUsers cfg parsed = .ok users) : UsersKeyed users := by
  simp only [decodeUsers, except_bind_eq_ok] at h
  obtain ⟨-, -, entries, -, h⟩ := h
  suffices ∀ (entries : List PyVal) (acc : PyDict UserSpec), UsersKeyed acc →
      entries.foldlM (fun users userData => do
        let (key, spec) ← userSpecOf cfg userData
        pure (users.insert key spec)) acc = .ok users → UsersKeyed users from
    this entries _ (fun _ _ h => by simp at h) h
  intro entries
  induction entries with
  | nil => intro acc hacc h; cases h; exact hacc
  | cons e es ih =>
    intro acc hacc h
    simp only [List.foldlM_cons, except_bind_eq_ok] at h
    obtain ⟨acc', ⟨⟨key, spec⟩, hs, he⟩, h⟩ := h
    cases he
    refine ih _ (fun k spec' hk => ?_) h
    rw [PyDict.get?_insert] at hk
    split at hk
    · cases hk
      subst k
      exact userSpecOf_username hs
    · exact hacc k spec' hk

/-! ## The state file -/

/-- The keyword arguments `UserSpec` takes. -/
def userSpecFields : List Scalar := [.str "username", .str "database", .str "roles", .str "privileges"]

/-- `UserSpec(**spec)`: a mapping whose keys are fields of `UserSpec`, with
    `username`, `database` and `roles` present. -/
def userSpecOfJson : PyVal → Except PyExc UserSpec
  | .dict kvs =>
    if kvs.all (·.1 ∈ userSpecFields) then
      match kvs.lookup (.str "username"), kvs.lookup (.str "database"), kvs.lookup (.str "roles") with
      | some u, some d, some r =>
        .ok { username := u, database := d, roles := r,
              privileges := (kvs.lookup (.str "privileges")).getD (.scalar .none) }
      | _, _, _ => .error .typeError
    else .error .typeError
  | _ => .error .typeError

/-- `{username: UserSpec(**spec) for username, spec in data.items()}`. -/
def stateOfJson (data : PyVal) : Except PyExc (PyDict UserSpec) := do
  let items ← data.items
  items.foldlM (fun users item => do pure (users.insert item.1 (← userSpecOfJson item.2)))
    PyDict.empty

/-- `StateManager.load_state`: `{}` when the file is absent, unreadable or not
    JSON; bytes that are not UTF-8, or a JSON value of another shape, raise. -/
def loadState : PyM (PyDict UserSpec) := do
  record (.call .loadState)
  match (← PyM.read).stateFile with
  | none => pure PyDict.empty
  | some text =>
    if ← fault then do logError; pure PyDict.empty
    else match text with
      | .malformed => do logError; pure PyDict.empty
      | .undecodable => PyM.raise .valueError
      | .value data => PyM.lift (stateOfJson data)

/-- A dict key as `json.dump` writes it. -/
def jsonKey : Scalar → Except PyExc Scalar
  | .str s => .ok (.str s)
  | .none => .ok (.str "null")
  | .bool b => .ok (.str (if b then "true" else "false"))
  | .int n => .ok (.str (toString n))
  | .date _ => .error .typeError

/-- `json.load` of an object whose keys repeat: a later value replaces an earlier
    one in its place. -/
def insertItem (kvs : List (Scalar × PyVal)) (k : Scalar) (v : PyVal) : List (Scalar × PyVal) :=
  if kvs.any (·.1 == k) then kvs.map fun kv => if kv.1 == k then (k, v) else kv else kvs ++ [(k, v)]

mutual
/-- What `json.load` reads back from what `json.dump` writes for a value. -/
def jsonValue : PyVal → Except PyExc PyVal
  | .scalar (.date _) => .error .typeError
  | .scalar s => .ok (.scalar s)
  | .list xs => .list <$> jsonList xs
  | .dict kvs => .dict <$> jsonItems kvs []

/-- `jsonValue` on each item of a list. -/
def jsonList : List PyVal → Except PyExc (List PyVal)
  | [] => .ok []
  | x :: xs => do pure ((← jsonValue x) :: (← jsonList xs))

/-- `jsonValue` on the items of a dict, added to `acc`. -/
def jsonItems : List (Scalar × PyVal) → List (Scalar × PyVal) → Except PyExc (List (Scalar × PyVal))
  | [], acc => .ok acc
  | (k, v) :: kvs, acc => do jsonItems kvs (insertItem acc (← jsonKey k) (← jsonValue v))
end

/-- `asdict(spec)`. -/
def UserSpec.asdict (s : UserSpec) : PyVal :=
  .dict [(.str "username", s.username), (.str "database", s.database), (.str "roles", s.roles),
         (.str "privileges", s.privileges)]

/-- `StateManager.save_state`. Opening the file for writing empties it and
    `json.dump` writes it in pieces, so a failure after the open leaves a
    truncated file; an `IOError` is logged, a `TypeError` propagates. -/
def saveState (users : PyDict UserSpec) : PyM Unit := fun w =>
  let w : World := { w with log := w.log ++ [.call (.saveState users)] }
  -- `open(self.state_file, 'w')`
  if w.faults w.tick then ⟨.ok (), { w with tick := w.tick + 1, log := w.log ++ [.logError] }⟩ else
  let w : World := { w with tick := w.tick + 1 }
  match jsonValue (.dict (users.entries.map fun e => (e.1, e.2.asdict))) with
  | .error e => ⟨.error e, { w with stateFile := some .malformed }⟩
  | .ok v =>
    -- `json.dump(data, f)`
    if w.faults w.tick then
      ⟨.ok (), { w with tick := w.tick + 1, stateFile := some .malformed, log := w.log ++ [.logError] }⟩
    else ⟨.ok (), { w with tick := w.tick + 1, stateFile := some (.value v) }⟩

end PgUserController
