-- SUMMARY: The Python values the controller handles (YAML and JSON documents, hashable scalars), its exceptions, and the builtins it applies to them: iteration, `set`, `dict`, subscripts and truth.
import Mathlib.Data.List.Dedup

/-!
# Python values

`yaml.safe_load` and `json.load` hand the controller untyped Python values, and
the controller stores them in `UserSpec` without checking their types. The model
keeps them untyped too: a `PyVal` is a document (a list, a dict, or a scalar), and
a `Scalar` is a hashable value, the only kind a `set` or a `dict` key can hold.

The builtins below are the ones the source applies to such values: iteration
(`for x in v`, `set.update(v)`), hashing (`set(...)`, `d[k] = v`), `dict.get`,
subscripts and truth. Each returns `Except PyExc` where Python raises.

The values of the model are `None`, booleans, integers, strings, dates, lists and
mappings. `yaml.safe_load` also returns floats (`1.5`, `.nan`), bytes
(`!!binary`), sets (`!!set`) and the pairs of `!!omap` as tuples; the model leaves
them out, so every result stated over `PyVal` is about documents that hold none of
them. Python's cross-type equalities are not modelled either: `1` and `True` are
one key of a Python `dict` or `set`, and two keys here.
-/

namespace PgUserController

/-- A hashable Python value: what a `set` element or a `dict` key can be. -/
inductive Scalar where
  | none
  | bool (b : Bool)
  | int (n : Int)
  | str (s : String)
  | date (iso : String)
  deriving DecidableEq, Repr

/-- A Python value as `yaml.safe_load` or `json.load` builds it. Mapping keys are
    hashable: `safe_load` refuses an unhashable key with a `YAMLError`. -/
inductive PyVal where
  | scalar (s : Scalar)
  | list (xs : List PyVal)
  | dict (kvs : List (Scalar × PyVal))
  deriving Repr

/-- The exceptions the modelled code raises or catches. -/
inductive PyExc where
  /-- `psycopg2.Error`, with `psycopg2.pool.PoolError` and `OperationalError` under it. -/
  | psycopg2Error
  /-- `kubernetes.client.rest.ApiException` with its HTTP status. -/
  | apiException (status : Nat)
  | typeError
  | attributeError
  | keyError
  | yamlError
  | jsonDecodeError
  | ioError
  | valueError
  deriving DecidableEq, Repr

namespace PyVal

@[match_pattern] abbrev str (s : String) : PyVal := .scalar (.str s)

mutual
/-- Structural equality of documents, decided by recursion on both sides. -/
def decEq : (a b : PyVal) → Decidable (a = b)
  | .scalar s, .scalar t =>
    if h : s = t then isTrue (h ▸ rfl) else isFalse (fun e => h (PyVal.scalar.inj e))
  | .list xs, .list ys =>
    match decEqList xs ys with
    | isTrue h => isTrue (h ▸ rfl)
    | isFalse h => isFalse (fun e => h (PyVal.list.inj e))
  | .dict xs, .dict ys =>
    match decEqDict xs ys with
    | isTrue h => isTrue (h ▸ rfl)
    | isFalse h => isFalse (fun e => h (PyVal.dict.inj e))
  | .scalar _, .list _ => isFalse PyVal.noConfusion
  | .scalar _, .dict _ => isFalse PyVal.noConfusion
  | .list _, .scalar _ => isFalse PyVal.noConfusion
  | .list _, .dict _ => isFalse PyVal.noConfusion
  | .dict _, .scalar _ => isFalse PyVal.noConfusion
  | .dict _, .list _ => isFalse PyVal.noConfusion

/-- Equality of lists of documents. -/
def decEqList : (xs ys : List PyVal) → Decidable (xs = ys)
  | [], [] => isTrue rfl
  | x :: xs, y :: ys =>
    match decEq x y, decEqList xs ys with
    | isTrue h₁, isTrue h₂ => isTrue (h₁ ▸ h₂ ▸ rfl)
    | isFalse h, _ => isFalse (fun e => h (List.cons.inj e).1)
    | _, isFalse h => isFalse (fun e => h (List.cons.inj e).2)
  | [], _ :: _ => isFalse List.noConfusion
  | _ :: _, [] => isFalse List.noConfusion

/-- Equality of the item lists of two mappings. -/
def decEqDict : (xs ys : List (Scalar × PyVal)) → Decidable (xs = ys)
  | [], [] => isTrue rfl
  | (k, x) :: xs, (l, y) :: ys =>
    if hk : k = l then
      match decEq x y, decEqDict xs ys with
      | isTrue h₁, isTrue h₂ => isTrue (hk ▸ h₁ ▸ h₂ ▸ rfl)
      | isFalse h, _ => isFalse (fun e => h (Prod.mk.inj (List.cons.inj e).1).2)
      | _, isFalse h => isFalse (fun e => h (List.cons.inj e).2)
    else isFalse (fun e => hk (Prod.mk.inj (List.cons.inj e).1).1)
  | [], _ :: _ => isFalse List.noConfusion
  | _ :: _, [] => isFalse List.noConfusion
end

instance : DecidableEq PyVal := decEq

/-- Iteration, as `for x in v` and `set.update(v)` perform it: a list yields its
    items, a dict its keys, a string its characters; any other value raises. -/
def iter : PyVal → Except PyExc (List PyVal)
  | .list xs => .ok xs
  | .dict kvs => .ok (kvs.map fun kv => .scalar kv.1)
  | .scalar (.str s) => .ok (s.toList.map fun c => str (String.singleton c))
  | .scalar _ => .error .typeError

/-- Hashing: a scalar is its own key; lists and dicts are unhashable. -/
def hash? : PyVal → Except PyExc Scalar
  | .scalar s => .ok s
  | _ => .error .typeError

/-- `v.get(key, default)`: only a dict has the method. -/
def get (v : PyVal) (key : Scalar) (default : PyVal) : Except PyExc PyVal :=
  match v with
  | .dict kvs => .ok ((kvs.lookup key).getD default)
  | _ => .error .attributeError

/-- `v.items()`: only a dict has the method. -/
def items : PyVal → Except PyExc (List (Scalar × PyVal))
  | .dict kvs => .ok kvs
  | _ => .error .attributeError

/-- `v[key]` with a string key: a missing key of a dict raises `KeyError`; a list,
    a string or a scalar cannot be subscripted so. -/
def getItem (v : PyVal) (key : Scalar) : Except PyExc PyVal :=
  match v with
  | .dict kvs => match kvs.lookup key with
    | some x => .ok x
    | none => .error .keyError
  | _ => .error .typeError

/-- Python truth: `None`, `False`, `0`, empty strings and empty containers are false. -/
def truthy : PyVal → Bool
  | .scalar .none => false
  | .scalar (.bool b) => b
  | .scalar (.int n) => n != 0
  | .scalar (.str s) => !s.isEmpty
  | .scalar (.date _) => true
  | .list xs => !xs.isEmpty
  | .dict kvs => !kvs.isEmpty

end PyVal

/-! ## Sets -/

/-- A Python `set`: its elements, each once, in iteration order. -/
structure PySet where
  elems : List Scalar
  nodup : elems.Nodup
  deriving DecidableEq

namespace PySet

instance : Membership Scalar PySet := ⟨fun s x => x ∈ s.elems⟩

instance (x : Scalar) (s : PySet) : Decidable (x ∈ s) :=
  inferInstanceAs (Decidable (x ∈ s.elems))

/-- `set()`. -/
def empty : PySet := ⟨[], List.nodup_nil⟩

/-- The set of the given elements. -/
def ofList (xs : List Scalar) : PySet := ⟨xs.dedup, List.nodup_dedup xs⟩

/-- `a - b`. -/
def diff (a b : PySet) : PySet := ⟨a.elems.filter (· ∉ b), a.nodup.filter _⟩

/-- `a & b`. -/
def inter (a b : PySet) : PySet := ⟨a.elems.filter (· ∈ b), a.nodup.filter _⟩

/-- `a.update(xs)` for elements already hashed. -/
def update (a : PySet) (xs : List Scalar) : PySet := ofList (a.elems ++ xs)

/-- `len(a)`. -/
def card (a : PySet) : Nat := a.elems.length

/-- Python `==` on sets: the same members, in any order. -/
def beq (a b : PySet) : Bool := a.elems.all (· ∈ b) && b.elems.all (· ∈ a)

@[simp] theorem mem_mk {x : Scalar} {xs : List Scalar} {h : xs.Nodup} :
    x ∈ (⟨xs, h⟩ : PySet) ↔ x ∈ xs := Iff.rfl

@[simp] theorem mem_elems {x : Scalar} {s : PySet} : x ∈ s.elems ↔ x ∈ s := Iff.rfl

@[simp] theorem not_mem_empty (x : Scalar) : x ∉ empty := List.not_mem_nil x

@[simp] theorem mem_ofList {x : Scalar} {xs : List Scalar} : x ∈ ofList xs ↔ x ∈ xs :=
  List.mem_dedup

@[simp] theorem mem_diff {x : Scalar} {a b : PySet} : x ∈ diff a b ↔ x ∈ a ∧ x ∉ b := by
  simp [diff, ← mem_elems]

@[simp] theorem mem_inter {x : Scalar} {a b : PySet} : x ∈ inter a b ↔ x ∈ a ∧ x ∈ b := by
  simp [inter, ← mem_elems]

@[simp] theorem mem_update {x : Scalar} {a : PySet} {xs : List Scalar} :
    x ∈ update a xs ↔ x ∈ a ∨ x ∈ xs := by
  simp [update]

theorem beq_iff {a b : PySet} : a.beq b = true ↔ ∀ x, x ∈ a ↔ x ∈ b := by
  simp only [beq, Bool.and_eq_true, List.all_eq_true, decide_eq_true_eq, mem_elems]
  exact ⟨fun h x => ⟨h.1 x, h.2 x⟩, fun h => ⟨fun x => (h x).1, fun x => (h x).2⟩⟩

end PySet

/-- `set(v)`: iterate `v`, then hash every item. -/
def pySet (v : PyVal) : Except PyExc PySet := do
  let xs ← v.iter
  let ks ← xs.mapM PyVal.hash?
  pure (PySet.ofList ks)

@[simp] theorem except_ok_bind {ε α β : Type} (a : α) (f : α → Except ε β) :
    (Except.ok a >>= f) = f a := rfl

@[simp] theorem except_error_bind {ε α β : Type} (e : ε) (f : α → Except ε β) :
    (Except.error e >>= f) = Except.error e := rfl

theorem except_bind_eq_ok {ε α β : Type} {x : Except ε α} {f : α → Except ε β} {b : β} :
    (x >>= f) = .ok b ↔ ∃ a, x = .ok a ∧ f a = .ok b := by
  cases x <;> simp

theorem except_map_eq_ok {ε α β : Type} {x : Except ε α} {f : α → β} {b : β} :
    (f <$> x) = .ok b ↔ ∃ a, x = .ok a ∧ f a = b := by
  cases x <;> simp [Functor.map, Except.map]

/-- What a `mapM` that raises nothing returns: the values of `f` on the items. -/
theorem mem_mapM_ok {α β ε : Type} {f : α → Except ε β} :
    ∀ {xs : List α} {ys : List β}, xs.mapM f = .ok ys → ∀ {y}, y ∈ ys ↔ ∃ x ∈ xs, f x = .ok y
  | [], ys, h => by
    cases h
    simp
  | x :: xs, ys, h => by
    rw [List.mapM_cons] at h
    cases hx : f x with
    | error e => simp only [hx, except_error_bind] at h; cases h
    | ok b =>
      cases hxs : xs.mapM f with
      | error e => simp only [hx, hxs, except_ok_bind, except_error_bind] at h; cases h
      | ok bs =>
        simp only [hx, hxs, except_ok_bind] at h
        cases h
        simp only [List.mem_cons, mem_mapM_ok hxs]
        constructor
        · rintro (rfl | ⟨x', hx', hf⟩)
          exacts [⟨x, .inl rfl, hx⟩, ⟨x', .inr hx', hf⟩]
        · rintro ⟨x', rfl | hx', hf⟩
          · rw [hx] at hf; cases hf; exact .inl rfl
          · exact .inr ⟨x', hx', hf⟩

/-- The elements of `set(v)` are the hashes of the items of `v`. -/
theorem mem_pySet {v : PyVal} {s : PySet} (h : pySet v = .ok s) {x : Scalar} :
    x ∈ s ↔ ∃ items, v.iter = .ok items ∧ ∃ y ∈ items, y.hash? = .ok x := by
  unfold pySet at h
  cases hi : v.iter with
  | error e => simp only [hi, except_error_bind] at h; cases h
  | ok items =>
    cases hm : items.mapM PyVal.hash? with
    | error e => simp only [hi, hm, except_ok_bind, except_error_bind] at h; cases h
    | ok ks =>
      simp only [hi, hm, except_ok_bind] at h
      cases h
      simp [mem_mapM_ok hm]

/-- The elements of `set(v)`, for a `v` whose items are known. -/
theorem mem_pySet_iff {v : PyVal} {S : PySet} {items : List PyVal} (h : pySet v = .ok S) (hi : v.iter = .ok items)
    {x : Scalar} : x ∈ S ↔ PyVal.scalar x ∈ items := by
  rw [mem_pySet h]
  constructor
  · rintro ⟨items', hi', y, hy, hx⟩
    rw [hi] at hi'
    cases hi'
    rcases y with _ | _ | _ <;> cases hx
    exact hy
  · exact fun hx => ⟨items, hi, _, hx, rfl⟩

/-! ## Dicts -/

/-- A Python `dict`: its items in insertion order, each key once. -/
structure PyDict (α : Type) where
  entries : List (Scalar × α)
  nodup : (entries.map Prod.fst).Nodup
  deriving DecidableEq

namespace PyDict

variable {α : Type}

/-- `{}`. -/
def empty : PyDict α := ⟨[], List.nodup_nil⟩

/-- `d.get(k)`. -/
def get? (d : PyDict α) (k : Scalar) : Option α := d.entries.lookup k

/-- `set(d.keys())`. -/
def keys (d : PyDict α) : PySet := ⟨d.entries.map Prod.fst, d.nodup⟩

/-- `d.values()`. -/
def values (d : PyDict α) : List α := d.entries.map Prod.snd

/-- `len(d)`. -/
def card (d : PyDict α) : Nat := d.entries.length

private theorem map_fst_update (es : List (Scalar × α)) (k : Scalar) (v : α) :
    (es.map fun e => if e.1 = k then (k, v) else e).map Prod.fst = es.map Prod.fst := by
  induction es with
  | nil => rfl
  | cons e es ih => by_cases h : e.1 = k <;> simp [h, ih]

/-- `d[k] = v`: an existing key keeps its place, a new key goes last. -/
def insert (d : PyDict α) (k : Scalar) (v : α) : PyDict α :=
  if h : k ∈ d.entries.map Prod.fst then
    ⟨d.entries.map fun e => if e.1 = k then (k, v) else e, by
      rw [map_fst_update]; exact d.nodup⟩
  else
    ⟨d.entries ++ [(k, v)], by
      rw [List.map_append, List.nodup_append]
      exact ⟨d.nodup, List.nodup_singleton _, by simpa using h⟩⟩

@[simp] theorem keys_elems (d : PyDict α) : d.keys.elems = d.entries.map Prod.fst := rfl

private theorem mem_map_fst_iff (es : List (Scalar × α)) (k : Scalar) :
    k ∈ es.map Prod.fst ↔ (es.lookup k).isSome := by
  induction es with
  | nil => simp
  | cons e es ih =>
    obtain ⟨k', v⟩ := e
    by_cases h : k = k'
    · subst h; simp [List.lookup_cons]
    · have hb : (k == k') = false := by simpa using h
      simp [List.lookup_cons, hb, h, ← ih]

theorem mem_values_of_get? {d : PyDict α} {k : Scalar} {v : α} (h : d.get? k = some v) : v ∈ d.values := by
  obtain ⟨l₁, l₂, he, -⟩ := List.lookup_eq_some_iff.mp h
  simp [values, he]

theorem mem_keys {d : PyDict α} {k : Scalar} : k ∈ d.keys ↔ (d.get? k).isSome :=
  mem_map_fst_iff d.entries k

private theorem lookup_update_ne (es : List (Scalar × α)) {k k' : Scalar} (v : α) (h : k' ≠ k) :
    (es.map fun e => if e.1 = k then (k, v) else e).lookup k' = es.lookup k' := by
  induction es with
  | nil => rfl
  | cons e es ih =>
    obtain ⟨a, b⟩ := e
    by_cases ha : a = k
    · subst ha
      have hb : (k' == a) = false := by simpa using h
      simp [List.lookup_cons, hb, ih]
    · simp [List.lookup_cons, ha, ih]

private theorem lookup_update_self (es : List (Scalar × α)) (k : Scalar) (v : α) (h : k ∈ es.map Prod.fst) :
    (es.map fun e => if e.1 = k then (k, v) else e).lookup k = some v := by
  induction es with
  | nil => simp at h
  | cons e es ih =>
    obtain ⟨a, b⟩ := e
    by_cases ha : a = k
    · subst ha; simp [List.lookup_cons]
    · have hb : (k == a) = false := by simpa using Ne.symm ha
      simp [List.lookup_cons, ha, hb, ih (by simpa [Ne.symm ha] using h)]

private theorem lookup_append_new (es : List (Scalar × α)) (k k' : Scalar) (v : α) (h : k ∉ es.map Prod.fst) :
    (es ++ [(k, v)]).lookup k' = if k' = k then some v else es.lookup k' := by
  induction es with
  | nil =>
    by_cases h' : k' = k
    · simp [List.lookup_cons, h']
    · have hb : (k' == k) = false := by simpa using h'
      simp [List.lookup_cons, h', hb]
  | cons e es ih =>
    obtain ⟨k₀, v₀⟩ := e
    have hk : k₀ ≠ k := fun e => h (by simp [e])
    have hm : k ∉ es.map Prod.fst := fun hm => h (by simp [hm])
    by_cases h' : k' = k₀
    · subst h'; simp [List.lookup_cons, hk]
    · have hb : (k' == k₀) = false := by simpa using h'
      simp [List.lookup_cons, hb, ih hm]

theorem get?_insert (d : PyDict α) (k k' : Scalar) (v : α) :
    (d.insert k v).get? k' = if k' = k then some v else d.get? k' := by
  unfold insert get?
  split
  · split
    · subst k'; exact lookup_update_self _ _ _ ‹_›
    · exact lookup_update_ne _ _ ‹_›
  · exact lookup_append_new _ _ _ _ ‹_›

/-- An item of a dict is what `get` finds under its key. -/
theorem get?_of_mem {d : PyDict α} {k : Scalar} {v : α} (h : (k, v) ∈ d.entries) : d.get? k = some v := by
  obtain ⟨v', hv'⟩ := Option.isSome_iff_exists.mp (List.lookup_isSome_iff.mpr ⟨(k, v), h, beq_self_eq_true k⟩)
  obtain ⟨l₁, l₂, he, -⟩ := List.lookup_eq_some_iff.mp hv'
  cases List.inj_on_of_nodup_map d.nodup h (show (k, v') ∈ d.entries by rw [he]; simp) rfl
  exact hv'

theorem eq_of_entries {d d' : PyDict α} (h : d.entries = d'.entries) : d = d' := by
  cases d; cases d'; cases h; rfl

/-- A new key goes last. -/
theorem entries_insert_of_not_mem {d : PyDict α} {k : Scalar} (h : k ∉ d.keys) (v : α) :
    (d.insert k v).entries = d.entries ++ [(k, v)] := by
  unfold insert
  rw [dif_neg (by simpa [keys] using h)]

@[simp] theorem empty_keys : (empty : PyDict α).keys = PySet.empty := rfl

@[simp] theorem get?_empty (k : Scalar) : (empty : PyDict α).get? k = none := rfl

end PyDict

end PgUserController
