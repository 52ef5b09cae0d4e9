-- SUMMARY: The state file across a save and a load: the values `json.dump` writes and `json.load` reads back as they were, the round trip of `save_state` and `load_state`, and what a failed save or an unexpected file leaves.
import PgUserController.Documents

/-!
# The state file

`save_state(users)` writes `{username: asdict(spec)}` with `json.dump`, and
`load_state` rebuilds the users with `UserSpec(**spec)`. `jsonValue` is what the
trip through JSON leaves of a value: it keeps scalars and lists, turns every
mapping key into a string, and raises on a date. A value is `jsonSafe` when the
trip leaves it as it was (`jsonValue_of_safe`); for users with string usernames
and JSON-safe fields the round trip is exact (`loadState_saveState`), while a
username that YAML reads as the integer `123` comes back as the string `"123"`.

`save_state` opens the file for writing before `json.dump` writes it, so a
failure after the open leaves a truncated file (`saveState_after_open`).
`load_state` catches `JSONDecodeError` and `IOError` only: bytes that are not
UTF-8, and JSON that is not an object of records, make it raise
(`loadState_raises`).
-/

namespace PgUserController

/-! ## What `json.dump` writes and `json.load` reads back -/

theorem mem_insertItem {kvs : List (Scalar × PyVal)} {k : Scalar} {v : PyVal} {kv : Scalar × PyVal}
    (h : kv ∈ insertItem kvs k v) : kv ∈ kvs ∨ kv = (k, v) := by
  unfold insertItem at h
  split at h
  · obtain ⟨kv', hkv', rfl⟩ := List.mem_map.mp h
    split
    · exact .inr rfl
    · exact .inl hkv'
  · simpa using h

theorem keys_insertItem (kvs : List (Scalar × PyVal)) (k : Scalar) (v : PyVal) (k' : Scalar) :
    k' ∈ (insertItem kvs k v).map Prod.fst ↔ k' ∈ kvs.map Prod.fst ∨ k' = k := by
  unfold insertItem
  split
  · rename_i hk
    have e : (Prod.fst ∘ fun kv : Scalar × PyVal => if (kv.1 == k) = true then (k, v) else kv) = Prod.fst :=
      funext fun kv => by by_cases h : kv.1 = k <;> simp [h]
    rw [List.map_map, e, iff_self_or]
    rintro rfl
    obtain ⟨kv, hkv, he⟩ := List.any_eq_true.mp hk
    exact List.mem_map.mpr ⟨kv, hkv, beq_iff_eq.mp he⟩
  · simp

/-- A new key goes last. -/
theorem insertItem_of_not_mem {kvs : List (Scalar × PyVal)} {k : Scalar} (h : k ∉ kvs.map Prod.fst) (v : PyVal) :
    insertItem kvs k v = kvs ++ [(k, v)] := by
  unfold insertItem
  rw [if_neg]
  simpa using fun v' hv => h (List.mem_map.mpr ⟨(k, v'), hv, rfl⟩)

theorem jsonItems_mem : ∀ {kvs acc out : List (Scalar × PyVal)}, jsonItems kvs acc = .ok out →
    ∀ {kv : Scalar × PyVal}, kv ∈ out →
      kv ∈ acc ∨ ∃ k₀ v, (k₀, v) ∈ kvs ∧ jsonKey k₀ = .ok kv.1 ∧ jsonValue v = .ok kv.2
  | [], acc, out, h, kv, hkv => by cases h; exact .inl hkv
  | (k, v) :: kvs, acc, out, h, kv, hkv => by
    simp only [jsonItems, except_bind_eq_ok] at h
    obtain ⟨k', hk, v', hv, h⟩ := h
    rcases jsonItems_mem h hkv with hkv | ⟨k₀, v₀, hm, hk₀, hv₀⟩
    · rcases mem_insertItem hkv with hkv | rfl
      · exact .inl hkv
      · exact .inr ⟨k, v, List.mem_cons_self _ _, hk, hv⟩
    · exact .inr ⟨k₀, v₀, List.mem_cons_of_mem _ hm, hk₀, hv₀⟩

theorem jsonItems_keys : ∀ {kvs acc out : List (Scalar × PyVal)}, jsonItems kvs acc = .ok out →
    ∀ k, k ∈ out.map Prod.fst ↔ k ∈ acc.map Prod.fst ∨ ∃ k₀ ∈ kvs.map Prod.fst, jsonKey k₀ = .ok k
  | [], acc, out, h, k => by cases h; simp
  | (k₁, v) :: kvs, acc, out, h, k => by
    simp only [jsonItems, except_bind_eq_ok] at h
    obtain ⟨k', hk, v', -, h⟩ := h
    rw [jsonItems_keys h, keys_insertItem]
    simp only [List.map_cons, List.mem_cons, exists_eq_or_imp, hk, Except.ok.injEq]
    rw [eq_comm (a := k), or_assoc]

theorem jsonValue_scalar {s : Scalar} {y : PyVal} (h : jsonValue (.scalar s) = .ok y) : y = .scalar s := by
  cases s <;> simp only [jsonValue] at h <;> cases h <;> rfl

theorem jsonList_mem : ∀ {xs ys : List PyVal}, jsonList xs = .ok ys →
    (∀ y ∈ ys, ∃ x ∈ xs, jsonValue x = .ok y) ∧ ∀ x ∈ xs, ∃ y ∈ ys, jsonValue x = .ok y
  | [], ys, h => by cases h; simp
  | x :: xs, ys, h => by
    simp only [jsonList, except_bind_eq_ok] at h
    obtain ⟨y, hy, ys', hys, h⟩ := h
    cases h
    obtain ⟨h₁, h₂⟩ := jsonList_mem hys
    refine ⟨fun y' hy' => ?_, fun x' hx' => ?_⟩
    · rcases List.mem_cons.mp hy' with rfl | hy'
      · exact ⟨x, List.mem_cons_self _ _, hy⟩
      · obtain ⟨x', hx', he⟩ := h₁ y' hy'
        exact ⟨x', List.mem_cons_of_mem _ hx', he⟩
    · rcases List.mem_cons.mp hx' with rfl | hx'
      · exact ⟨y, List.mem_cons_self _ _, hy⟩
      · obtain ⟨y', hy', he⟩ := h₂ x' hx'
        exact ⟨y', List.mem_cons_of_mem _ hy', he⟩

/-! ## Values that survive the trip -/

mutual
/-- A value that `json.dump` writes and `json.load` reads back as it was: it
    holds no date, and the keys of each of its mappings are distinct strings. -/
def jsonSafe : PyVal → Bool
  | .scalar (.date _) => false
  | .scalar _ => true
  | .list xs => jsonSafeList xs
  | .dict kvs => decide (kvs.map Prod.fst).Nodup && jsonSafeItems kvs

/-- `jsonSafe` on each item of a list. -/
def jsonSafeList : List PyVal → Bool
  | [] => true
  | x :: xs => jsonSafe x && jsonSafeList xs

/-- The items of a mapping: string keys, and `jsonSafe` values. -/
def jsonSafeItems : List (Scalar × PyVal) → Bool
  | [] => true
  | (.str _, v) :: kvs => jsonSafe v && jsonSafeItems kvs
  | _ :: _ => false
end

mutual
theorem jsonValue_of_safe : ∀ {v : PyVal}, jsonSafe v = true → jsonValue v = .ok v
  | .scalar (.date _), h => by simp [jsonSafe] at h
  | .scalar .none, _ => rfl
  | .scalar (.bool _), _ => rfl
  | .scalar (.int _), _ => rfl
  | .scalar (.str _), _ => rfl
  | .list xs, h => by
    simp only [jsonSafe] at h
    simp only [jsonValue, jsonList_of_safe h]
    rfl
  | .dict kvs, h => by
    simp only [jsonSafe, Bool.and_eq_true, decide_eq_true_eq] at h
    rw [jsonValue, show jsonItems kvs [] = .ok ([] ++ kvs) from jsonItems_of_safe h.2 h.1 (by simp)]
    rfl

theorem jsonList_of_safe : ∀ {xs : List PyVal}, jsonSafeList xs = true → jsonList xs = .ok xs
  | [], _ => rfl
  | x :: xs, h => by
    simp only [jsonSafeList, Bool.and_eq_true] at h
    simp only [jsonList, jsonValue_of_safe h.1, jsonList_of_safe h.2]
    rfl

theorem jsonItems_of_safe : ∀ {kvs acc : List (Scalar × PyVal)}, jsonSafeItems kvs = true →
    (kvs.map Prod.fst).Nodup → (∀ k ∈ kvs.map Prod.fst, k ∉ acc.map Prod.fst) →
      jsonItems kvs acc = .ok (acc ++ kvs)
  | [], acc, _, _, _ => by simp [jsonItems]
  | (.str s, v) :: kvs, acc, h, hnd, hacc => by
    simp only [jsonSafeItems, Bool.and_eq_true] at h
    simp only [List.map_cons, List.nodup_cons] at hnd
    simp only [jsonItems, jsonKey, jsonValue_of_safe h.1, except_ok_bind,
      insertItem_of_not_mem (hacc _ (List.mem_cons_self _ _))]
    rw [jsonItems_of_safe h.2 hnd.2 fun k hk hk' => ?_]
    · simp
    · simp only [List.map_append, List.map_cons, List.map_nil, List.mem_append, List.mem_singleton] at hk'
      rcases hk' with hk' | rfl
      exacts [hacc k (List.mem_cons_of_mem _ hk) hk', hnd.1 hk]
  | (.none, _) :: _, _, h, _, _ => by simp [jsonSafeItems] at h
  | (.bool _, _) :: _, _, h, _, _ => by simp [jsonSafeItems] at h
  | (.int _, _) :: _, _, h, _, _ => by simp [jsonSafeItems] at h
  | (.date _, _) :: _, _, h, _, _ => by simp [jsonSafeItems] at h
end


/-! ## Saving and loading -/

/-- `UserSpec(**asdict(spec))` is `spec`. -/
theorem userSpecOfJson_asdict (userSpec : UserSpec) : userSpecOfJson userSpec.asdict = .ok userSpec := by
  cases userSpec
  rfl

/-- Reading back the items of a saved map into a map that holds none of their
    keys adds each of them at the end. -/
private theorem foldlM_insert_asdict :
    ∀ (es : List (Scalar × UserSpec)) (acc : PyDict UserSpec), (es.map Prod.fst).Nodup →
      (∀ k ∈ es.map Prod.fst, k ∉ acc.keys) →
      ∃ d : PyDict UserSpec, (es.map fun e => (e.1, e.2.asdict)).foldlM
        (fun users item => do pure (users.insert item.1 (← userSpecOfJson item.2))) acc = .ok d ∧
        d.entries = acc.entries ++ es
  | [], acc, _, _ => ⟨acc, rfl, by simp⟩
  | e :: es, acc, hnd, hacc => by
    simp only [List.map_cons, List.nodup_cons] at hnd
    have hnew := PyDict.entries_insert_of_not_mem (hacc _ (List.mem_cons_self _ _)) e.2
    obtain ⟨d, hd, he⟩ := foldlM_insert_asdict es (acc.insert e.1 e.2) hnd.2 fun k hk hk' => by
      rw [← PySet.mem_elems, PyDict.keys_elems, hnew, List.map_append, List.mem_append] at hk'
      rcases hk' with hk' | hk'
      · exact hacc k (List.mem_cons_of_mem _ hk) hk'
      · obtain rfl : k = e.1 := by simpa using hk'
        exact hnd.1 hk
    refine ⟨d, ?_, by rw [he, hnew, List.append_assoc]; rfl⟩
    simpa [userSpecOfJson_asdict] using hd

/-- `load_state`'s comprehension rebuilds the users from the dict `save_state` builds. -/
theorem stateOfJson_saved (users : PyDict UserSpec) :
    stateOfJson (.dict (users.entries.map fun e => (e.1, e.2.asdict))) = .ok users := by
  obtain ⟨d, hd, he⟩ := foldlM_insert_asdict users.entries PyDict.empty users.nodup (by simp)
  simp only [stateOfJson, PyVal.items, except_ok_bind, hd]
  exact congrArg _ (PyDict.eq_of_entries he)

/-- `save_state` builds a JSON-safe dict when every username is a string and every
    spec's `asdict` is JSON-safe. -/
theorem jsonSafe_saved {users : PyDict UserSpec} (hkeys : ∀ k ∈ users.keys, ∃ n, k = .str n)
    (hsafe : ∀ userSpec ∈ users.values, jsonSafe userSpec.asdict = true) :
    jsonSafe (.dict (users.entries.map fun e => (e.1, e.2.asdict))) = true := by
  have items : ∀ es : List (Scalar × UserSpec), (∀ e ∈ es, (∃ n, e.1 = .str n) ∧ jsonSafe e.2.asdict = true) →
      jsonSafeItems (es.map fun e => (e.1, e.2.asdict)) = true := by
    intro es h
    induction es with
    | nil => rfl
    | cons e es ih =>
      obtain ⟨⟨n, hn⟩, hs⟩ := h e (List.mem_cons_self _ _)
      obtain ⟨k, s⟩ := e
      cases hn
      simp [jsonSafeItems, hs, ih fun e' he' => h e' (List.mem_cons_of_mem _ he')]
  simp only [jsonSafe, List.map_map, Bool.and_eq_true, decide_eq_true_eq]
  refine ⟨by simpa [Function.comp_def] using users.nodup, items _ fun e he =>
    ⟨hkeys _ (List.mem_map.mpr ⟨e, he, rfl⟩), hsafe _ (List.mem_map.mpr ⟨e, he, rfl⟩)⟩⟩

/-- What `load_state` returns from a file that loads as `data`, when reading it does not fail. -/
theorem loadState_value {w : World} {data : PyVal} (hs : w.stateFile = some (.value data))
    (hread : w.faults w.tick = false) : (loadState w).result = stateOfJson data := by
  simp [loadState, record, PyM.read, fault, PyM.lift, PyM.modify, PyM.bind_apply, hs, hread]


/-- With the file opened, written and read without an IO error, `load_state` returns
    exactly the users `save_state` wrote, when their usernames are strings and
    their fields JSON-safe. The fields are values of the model, so they hold no
    float, bytes, set or tuple: a `NaN` or a tuple would not load back equal, and
    bytes or a set would make `json.dump` raise. -/
theorem loadState_saveState {users : PyDict UserSpec} (hkeys : ∀ k ∈ users.keys, ∃ n, k = .str n)
    (hsafe : ∀ userSpec ∈ users.values, jsonSafe userSpec.asdict = true) {w : World}
    (hopen : w.faults w.tick = false) (hdump : w.faults (w.tick + 1) = false) :
    (saveState users w).result = .ok () ∧ (saveState users w).world.log = w.log ++ [.call (.saveState users)] ∧
    ∀ w' : World, w'.stateFile = (saveState users w).world.stateFile → w'.faults w'.tick = false →
      (loadState w').result = .ok users := by
  have hj := jsonValue_of_safe (jsonSafe_saved hkeys hsafe)
  have hsave : saveState users w = ⟨.ok (), { w with
      log := w.log ++ [.call (.saveState users)]
      tick := w.tick + 1 + 1
      stateFile := some (.value (.dict (users.entries.map fun e => (e.1, e.2.asdict)))) }⟩ := by
    simp only [saveState, hopen, hdump, hj]
    rfl
  rw [hsave]
  exact ⟨rfl, rfl, fun w' hs hread => (loadState_value hs hread).trans (stateOfJson_saved users)⟩

/-- A world with an empty catalog and cluster, whose state file is `stateFile`. -/
def fileWorld (stateFile : Option JsonText) : World where
  db := ⟨[], [], [], [], [], []⟩
  pool := ⟨[], 1⟩
  cluster := ⟨fun _ _ => none, fun _ _ => none⟩
  stateFile := stateFile
  faults := fun _ => false

/-- `alice`, whose fields are all strings. -/
def aliceState : PyDict UserSpec :=
  PyDict.empty.insert (.str "alice") ⟨.str "alice", .str "app", .list [.str "ro"], .scalar .none⟩

theorem aliceState_round_trip :
    (∀ k ∈ aliceState.keys, ∃ n, k = .str n) ∧ (∀ userSpec ∈ aliceState.values, jsonSafe userSpec.asdict = true) ∧
    (fileWorld none).faults (fileWorld none).tick = false ∧ (fileWorld none).faults ((fileWorld none).tick + 1) = false ∧
    (saveState aliceState (fileWorld none)).result = .ok () ∧
    (saveState aliceState (fileWorld none)).world.log = (fileWorld none).log ++ [.call (.saveState aliceState)] ∧
    ∀ w' : World, w'.stateFile = (saveState aliceState (fileWorld none)).world.stateFile → w'.faults w'.tick = false →
      (loadState w').result = .ok aliceState :=
  have hk : ∀ k ∈ aliceState.keys, ∃ n, k = .str n := fun k hk => ⟨"alice", by simpa [aliceState, PyDict.insert,
    PyDict.empty, PyDict.keys] using hk⟩
  have hs : ∀ userSpec ∈ aliceState.values, jsonSafe userSpec.asdict = true := by decide
  ⟨hk, hs, rfl, rfl, loadState_saveState hk hs rfl rfl⟩

/-- A `users.yaml` whose only user has the username `123`, which YAML reads as an integer. -/
def intUsernameYaml : YamlText :=
  .document (.dict [(.str "users", .list [.dict [(.str "username", .scalar (.int 123))]])])

/-- `json.dump` writes the key `123` as `"123"`, and `load_state` files the user
    under the string: the map it returns is not the one parsed. -/
theorem loadState_saveState_int_username :
    ∃ D P : PyDict UserSpec, (parseDesiredUsers Config.default intUsernameYaml (fileWorld none)).result = .ok D ∧
      (saveState D (fileWorld none)).result = .ok () ∧
      (loadState (saveState D (fileWorld none)).world).result = .ok P ∧
      (D.get? (.int 123)).isSome ∧ P.get? (.int 123) = none ∧ (P.get? (.str "123")).isSome :=
  ⟨_, _, rfl, rfl, rfl, rfl, rfl, rfl⟩

/-! ## What a failed save or an unexpected file leaves -/

/-- Once `open(self.state_file, 'w')` has succeeded, the state file holds either the
    serialization of all the users or a truncated text, never its previous content. -/
theorem saveState_after_open (users : PyDict UserSpec) {w : World} (hopen : w.faults w.tick = false) :
    (∃ v, jsonValue (.dict (users.entries.map fun e => (e.1, e.2.asdict))) = .ok v ∧
      (saveState users w).world.stateFile = some (.value v)) ∨
    (saveState users w).world.stateFile = some .malformed := by
  simp only [saveState, hopen, Bool.false_eq_true, if_false]
  split
  · exact .inr rfl
  · split
    · exact .inr rfl
    · exact .inl ⟨_, ‹_›, rfl⟩

/-- A user whose `database` YAML read as a date, which `json.dump` cannot write. -/
def dateUsers : PyDict UserSpec :=
  PyDict.empty.insert (.str "alice") ⟨.str "alice", .scalar (.date "2024-01-01"), .list [], .scalar .none⟩

theorem dateUsers_after_open :
    (fileWorld (some (.value (.dict [])))).faults (fileWorld (some (.value (.dict [])))).tick = false ∧
    ((∃ v, jsonValue (.dict (dateUsers.entries.map fun e => (e.1, e.2.asdict))) = .ok v ∧
      (saveState dateUsers (fileWorld (some (.value (.dict []))))).world.stateFile = some (.value v)) ∨
    (saveState dateUsers (fileWorld (some (.value (.dict []))))).world.stateFile = some .malformed) :=
  ⟨rfl, saveState_after_open dateUsers rfl⟩

/-- `load_state` catches only an unreadable file and text that is not JSON: bytes
    that are not UTF-8, or a JSON value that is not an object of `UserSpec`
    records, make it raise. -/
theorem loadState_raises {w : World} (hread : w.faults w.tick = false)
    (hbad : w.stateFile = some .undecodable ∨
      ∃ data e, w.stateFile = some (.value data) ∧ stateOfJson data = .error e) :
    ∃ e, (loadState w).result = .error e := by
  rcases hbad with hs | ⟨data, e, hs, he⟩
  · exact ⟨.valueError, by simp [loadState, record, PyM.read, fault, PyM.modify, PyM.bind_apply, PyM.raise, hs, hread]⟩
  · exact ⟨e, (loadState_value hs hread).trans he⟩

/-- A state file holding the JSON list `[]`, which has no `items`. -/
theorem listState_raises :
    (fileWorld (some (.value (.list [])))).faults (fileWorld (some (.value (.list [])))).tick = false ∧
    ((fileWorld (some (.value (.list [])))).stateFile = some .undecodable ∨
      ∃ data e, (fileWorld (some (.value (.list [])))).stateFile = some (.value data) ∧ stateOfJson data = .error e) ∧
    ∃ e, (loadState (fileWorld (some (.value (.list []))))).result = .error e :=
  ⟨rfl, .inr ⟨_, _, rfl, rfl⟩, loadState_raises rfl (.inr ⟨_, _, rfl, rfl⟩)⟩

end PgUserController
