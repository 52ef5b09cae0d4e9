-- SUMMARY: The retry loop of the Kubernetes reads over every pattern of transient API failures: the first read of the budget that goes through decides what `fetch_configmap` and `get_user_password` answer, and a budget of failed reads ends in one logged error and the re-raised `ApiException`.
import PgUserController.Kubernetes

/-!
# Retries of the Kubernetes reads

`fetch_configmap` and `get_user_password` read the API at most
`MAX_RETRIES + 1` times. A read that fails with a transient `ApiException` is
retried, silently but for its warning, while the budget lasts; the first read
that goes through decides the answer, as if no read had failed before it; and
when every read of the budget failed, one error is logged and the exception is
re-raised (`fetchConfigmap_retries`, `getUserPassword_retries`). What the read
that goes through answers is `configmapEntry` and `secretEntry`; a ConfigMap or a
secret without data makes it raise `AttributeError`, which the loop lets through.

The loop is characterised by the fault tape it meets: `w.faults (w.tick + i)` is
whether the `i`-th read from `w` fails. `withRetries_skip` consumes a run of failed
reads, `withRetries_exhausted` a whole budget of them, and `first_read` splits
every tape into the two cases.
-/

namespace PgUserController

variable {α β : Type}

/-! ## The loop over a fault tape -/

/-- An attempt of the retry loop that starts with one read of the API: at a tick
    where the read fails, it raises the transient `ApiException` and only moves
    the clock. -/
def FailsAtFault (attempt : PyM (Option α)) : Prop :=
  ∀ w, w.faults w.tick = true → attempt w = ⟨.error (.apiException 500), { w with tick := w.tick + 1 }⟩

theorem apiRead_bind_failsAtFault (obj : Cluster → Option β) (f : β → PyM (Option α)) :
    FailsAtFault (apiRead obj >>= f) := fun w h => by
  rw [PyM.bind_apply]
  simp only [apiRead, h, if_true]

/-- Reads that fail one after the other use up the budget and move the clock. -/
theorem withRetries_skip {attempt : PyM (Option α)} (ha : FailsAtFault attempt) :
    ∀ {n k : Nat} {w : World}, k ≤ n → (∀ i < k, w.faults (w.tick + i) = true) →
      withRetries attempt n w = withRetries attempt (n - k) { w with tick := w.tick + k }
  | _, 0, _, _, _ => rfl
  | 0, _ + 1, _, hk, _ => absurd hk (by omega)
  | n + 1, k + 1, w, hk, hf => by
    have hnext := withRetries_skip ha (n := n) (k := k) (w := { w with tick := w.tick + 1 }) (by omega)
      fun i hi => by simpa only [Nat.add_right_comm _ 1 i, Nat.add_assoc] using hf (i + 1) (by omega)
    rw [withRetries, PyM.tryCatch, ha w (hf 0 (by omega))]
    simp only [onApiException, Nat.add_sub_add_right]
    rw [hnext, Nat.add_right_comm _ 1 k, Nat.add_assoc]

/-- A budget of failed reads: one error logged, and the `ApiException` re-raised. -/
theorem withRetries_exhausted {attempt : PyM (Option α)} (ha : FailsAtFault attempt) {n : Nat} {w : World}
    (hf : ∀ i ≤ n, w.faults (w.tick + i) = true) :
    withRetries attempt n w =
      ⟨.error (.apiException 500), { w with tick := w.tick + n + 1, log := w.log ++ [.logError] }⟩ := by
  rw [withRetries_skip ha (Nat.le_refl n) fun i hi => hf i (Nat.le_of_lt hi), Nat.sub_self, withRetries,
    PyM.tryCatch, ha _ (hf n (Nat.le_refl n))]
  rfl

/-- Within a budget of `n` retries, either some read goes through, after a run of
    failed ones, or every read fails. -/
theorem first_read (w : World) : ∀ n : Nat,
    (∃ k ≤ n, (∀ i < k, w.faults (w.tick + i) = true) ∧ w.faults (w.tick + k) = false) ∨
      ∀ i ≤ n, w.faults (w.tick + i) = true
  | 0 => by
    cases h : w.faults w.tick
    · exact .inl ⟨0, le_rfl, fun _ hi => absurd hi (Nat.not_lt_zero _), h⟩
    · exact .inr fun i hi => by rwa [Nat.le_zero.mp hi]
  | n + 1 => by
    rcases first_read w n with ⟨k, hk, hf, hok⟩ | hall
    · exact .inl ⟨k, by omega, hf, hok⟩
    cases h : w.faults (w.tick + (n + 1))
    · exact .inl ⟨n + 1, le_rfl, fun i hi => hall i (by omega), h⟩
    · exact .inr fun i hi => by
        rcases Nat.lt_or_eq_of_le hi with hi | rfl
        exacts [hall i (by omega), h]

/-! ## `fetch_configmap` -/

/-- What a read of the users ConfigMap answers when it goes through: the
    `users.yaml` entry of its data (empty when absent), `None` when there is no
    ConfigMap (the 404), and `AttributeError` when it has no data. -/
def configmapEntry (cfg : Config) (c : Cluster) : Except PyExc (Option YamlText) :=
  match c.configMaps cfg.namespace_ cfg.configmapName with
  | none => .ok none
  | some cm =>
    match cm.data with
    | none => .error .attributeError
    | some d => .ok (some ((d.lookup "users.yaml").getD .empty))

/-- A read of the ConfigMap that goes through ends the loop, whatever budget is left. -/
theorem fetchConfigmap_attempt_ok (cfg : Config) (m : Nat) {w : World} (h : w.faults w.tick = false) :
    withRetries (do
      let cm ← apiRead fun c => c.configMaps cfg.namespace_ cfg.configmapName
      match cm.data with
      | none => PyM.raise .attributeError
      | some d => pure (some ((d.lookup "users.yaml").getD .empty))) m w =
    ⟨configmapEntry cfg w.cluster, { w with tick := w.tick + 1 }⟩ := by
  rcases hc : w.cluster.configMaps cfg.namespace_ cfg.configmapName with _ | cm
  · cases m <;> simp [withRetries, PyM.tryCatch, PyM.bind_apply, apiRead, h, hc, configmapEntry, onApiException]
  · cases hd : cm.data <;> cases m <;>
      simp [withRetries, PyM.tryCatch, PyM.bind_apply, apiRead, h, hc, hd, configmapEntry, onApiException,
        PyM.raise]

/-- `fetch_configmap` over every pattern of transient API failures: when one of
    its first `MAX_RETRIES + 1` reads goes through, it answers what that read
    finds, logs no error and has read the API once per failure before it; when
    all of them fail, it logs one error and raises the `ApiException`. -/
theorem fetchConfigmap_retries (cfg : Config) (w : World) :
    (∃ k ≤ cfg.maxRetries.toNat, (∀ i < k, w.faults (w.tick + i) = true) ∧ w.faults (w.tick + k) = false ∧
      fetchConfigmap cfg w = ⟨configmapEntry cfg w.cluster,
        { w with tick := w.tick + k + 1, log := w.log ++ [.call .fetchConfigmap] }⟩) ∨
    ((∀ i ≤ cfg.maxRetries.toNat, w.faults (w.tick + i) = true) ∧
      fetchConfigmap cfg w = ⟨.error (.apiException 500),
        { w with tick := w.tick + cfg.maxRetries.toNat + 1, log := w.log ++ [.call .fetchConfigmap, .logError] }⟩) := by
  have ha := apiRead_bind_failsAtFault (fun c => c.configMaps cfg.namespace_ cfg.configmapName) fun cm =>
    match cm.data with
    | none => PyM.raise .attributeError
    | some d => pure (some ((d.lookup "users.yaml").getD .empty))
  -- the loop runs from the world `record` leaves, with the clock and the faults of `w`
  let w₁ : World := { w with log := w.log ++ [.call .fetchConfigmap] }
  rcases first_read w cfg.maxRetries.toNat with ⟨k, hk, hf, hok⟩ | hall
  · exact .inl ⟨k, hk, hf, hok, (withRetries_skip ha (w := w₁) hk hf).trans (fetchConfigmap_attempt_ok cfg _ hok)⟩
  · exact .inr ⟨hall, (withRetries_exhausted ha (w := w₁) hall).trans (by simp [w₁])⟩

/-! ## `get_user_password` -/

/-- What a read of a user's secret answers when it goes through, with the errors
    it logs: the decoded password; `None` when there is no secret (the 404), and
    `None` with an error logged when it has no `password`; `AttributeError` when it
    has no data at all; `ValueError` when the password does not decode. -/
def secretEntry (cfg : Config) (c : Cluster) (name : String) : Except PyExc (Option String) × List Event :=
  match c.secrets cfg.namespace_ name with
  | none => (.ok none, [])
  | some .noData => (.error .attributeError, [])
  | some .absent => (.ok none, [.logError])
  | some (.decoded pw) => (.ok (some pw), [])
  | some .undecodable => (.error .valueError, [])

/-- A read of the secret that goes through ends the loop, whatever budget is left. -/
theorem getUserPassword_attempt_ok (cfg : Config) (name : String) (m : Nat) {w : World}
    (h : w.faults w.tick = false) :
    withRetries (do
      match ← apiRead fun c => c.secrets cfg.namespace_ name with
      | .noData => PyM.raise .attributeError
      | .absent => do logError; pure none
      | .decoded pw => pure (some pw)
      | .undecodable => PyM.raise .valueError) m w =
    ⟨(secretEntry cfg w.cluster name).1,
      { w with tick := w.tick + 1, log := w.log ++ (secretEntry cfg w.cluster name).2 }⟩ := by
  rcases hs : w.cluster.secrets cfg.namespace_ name with _ | (_ | _ | pw | _) <;> cases m <;>
    simp [withRetries, PyM.tryCatch, PyM.bind_apply, apiRead, h, hs, secretEntry, onApiException, PyM.raise,
      logError, record, PyM.modify]

/-- `get_user_password` over every pattern of transient API failures, for a
    username that is a string: when one of its first `MAX_RETRIES + 1` reads of
    the secret `user-{username}-secret` goes through, it answers what that read
    finds and logs only what that read logs; when all of them fail, it logs one
    error and raises the `ApiException`. -/
theorem getUserPassword_retries (cfg : Config) (u : String) (w : World) :
    (∃ k ≤ cfg.maxRetries.toNat, (∀ i < k, w.faults (w.tick + i) = true) ∧ w.faults (w.tick + k) = false ∧
      getUserPassword cfg (.str u) w = ⟨(secretEntry cfg w.cluster (secretName u)).1,
        { w with tick := w.tick + k + 1,
                 log := w.log ++ .call (.getUserPassword (.str u)) :: (secretEntry cfg w.cluster (secretName u)).2 }⟩) ∨
    ((∀ i ≤ cfg.maxRetries.toNat, w.faults (w.tick + i) = true) ∧
      getUserPassword cfg (.str u) w = ⟨.error (.apiException 500),
        { w with tick := w.tick + cfg.maxRetries.toNat + 1,
                 log := w.log ++ [.call (.getUserPassword (.str u)), .logError] }⟩) := by
  have ha := apiRead_bind_failsAtFault (fun c => c.secrets cfg.namespace_ (secretName u)) fun p =>
    match p with
    | .noData => PyM.raise .attributeError
    | .absent => do logError; pure none
    | .decoded pw => pure (some pw)
    | .undecodable => PyM.raise .valueError
  let w₁ : World := { w with log := w.log ++ [.call (.getUserPassword (.str u))] }
  rcases first_read w cfg.maxRetries.toNat with ⟨k, hk, hf, hok⟩ | hall
  · refine .inl ⟨k, hk, hf, hok, (withRetries_skip ha (w := w₁) hk hf).trans ?_⟩
    exact (getUserPassword_attempt_ok cfg _ _ hok).trans (by simp [w₁])
  · exact .inr ⟨hall, (withRetries_exhausted ha (w := w₁) hall).trans (by simp [w₁])⟩

end PgUserController
