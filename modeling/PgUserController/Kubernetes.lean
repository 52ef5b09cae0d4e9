-- SUMMARY: `KubernetesClient`: reading the users ConfigMap and a user's password secret, with the retry policy the two share.
import PgUserController.Program

/-!
# The Kubernetes client

Both reads retry a failed API call with exponential backoff (the sleeps are not
modelled): a 404 answers `None` at once, any other `ApiException` is retried
while `retry_count < Config.MAX_RETRIES`, then re-raised. Exceptions of other
kinds pass through the retry loop untouched.
-/

namespace PgUserController

variable {α : Type}

/-- One read of the Kubernetes API: a fault of the oracle is a transient
    `ApiException` (500), a missing object a 404. -/
def apiRead (obj : Cluster → Option α) : PyM α := fun w =>
  let w' := { w with tick := w.tick + 1 }
  if w.faults w.tick then ⟨.error (.apiException 500), w'⟩
  else match obj w.cluster with
    | some o => ⟨.ok o, w'⟩
    | none => ⟨.error (.apiException 404), w'⟩

/-- What the retry loop does with an exception of an attempt: a 404 answers
    `None`, another `ApiException` goes to `retry`, anything else propagates. -/
def onApiException (retry : PyExc → PyM (Option α)) (e : PyExc) : PyM (Option α) :=
  match e with
  | .apiException 404 => pure none
  | .apiException _ => retry e
  | _ => PyM.raise e

/-- The retry policy of `fetch_configmap` and `get_user_password`, where
    `retriesLeft` is `MAX_RETRIES - retry_count` (none left when that is not
    positive): when none are left, the exception is logged and re-raised. -/
def withRetries (attempt : PyM (Option α)) : (retriesLeft : Nat) → PyM (Option α)
  | 0 => PyM.tryCatch attempt (onApiException fun e => do logError; PyM.raise e)
  | n + 1 => PyM.tryCatch attempt (onApiException fun _ => withRetries attempt n)

/-- `KubernetesClient.fetch_configmap`: the `users.yaml` entry of the ConfigMap's
    data (empty when absent), or `None` when there is no ConfigMap. A ConfigMap
    without data raises `AttributeError`. -/
def fetchConfigmap (cfg : Config) : PyM (Option YamlText) := do
  record (.call .fetchConfigmap)
  withRetries (do
    let cm ← apiRead fun c => c.configMaps cfg.namespace_ cfg.configmapName
    match cm.data with
    | none => PyM.raise .attributeError
    | some d => pure (some ((d.lookup "users.yaml").getD .empty))) cfg.maxRetries.toNat

/-- The secret that holds a user's password: `user-{username.replace('_', '-')}-secret`. -/
def secretName (username : String) : String :=
  "user-" ++ String.mk (username.toList.map fun c => if c = '_' then '-' else c) ++ "-secret"

/-- `KubernetesClient.get_user_password`: the decoded `password` of the user's
    secret, `None` when the secret or the field is missing. A username that is not
    a string has no `replace`, and a secret without data no `get`: both raise
    `AttributeError`, which the retry loop lets through. -/
def getUserPassword (cfg : Config) (username : Scalar) : PyM (Option String) := do
  record (.call (.getUserPassword username))
  let name ← match username with
    | .str u => pure (secretName u)
    | _ => PyM.raise .attributeError
  withRetries (do
    match ← apiRead fun c => c.secrets cfg.namespace_ name with
    | .noData => PyM.raise .attributeError
    | .absent => do logError; pure none
    | .decoded pw => pure (some pw)
    | .undecodable => PyM.raise .valueError) cfg.maxRetries.toNat

end PgUserController
