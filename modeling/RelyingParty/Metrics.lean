import RelyingParty.Algorithm
import RelyingParty.Keyed

/-!
# Metrics

What is counted: validations by algorithm and outcome, their durations, and fetches of key sets by
outcome. Each metric has a name, a description, and labels.
-/

namespace RelyingParty

/-- Something that is counted. -/
inductive Metric where
  /-- A validation with its algorithm and the word for its outcome. -/
  | validation (algorithm : Algorithm) (status : String)
  /-- The duration of a validation. -/
  | duration
  /-- A fetch of a key set. -/
  | fetch (isSuccess : Bool)
deriving DecidableEq, Repr

namespace Metric

/-- The word for success. -/
def success : String := "success"

/-- The name under which validations are counted. -/
def validationName : String := "idtoken_validations_total"

/-- The name under which durations are counted. -/
def durationName : String := "idtoken_validation_duration_seconds"

/-- The name under which fetches are counted. -/
def fetchName : String := "idtoken_key_set_fetches_total"

/-- The name under which a metric is counted. -/
def name : Metric → String
  | validation _ _ => validationName
  | duration => durationName
  | fetch _ => fetchName

/-- The labels of a metric, sorted by name. -/
def labels : Metric → Keyed String
  | validation algorithm status => [("algorithm", algorithm.name), ("status", status)]
  | duration => []
  | fetch isSuccess => [("status", if isSuccess then success else "failure")]

/-- The name and the labels in words. -/
def text (metric : Metric) : String :=
  let labels := metric.labels.map fun (label, value) => label ++ "=" ++ value
  metric.name ++ "\x7b" ++ ",".intercalate labels ++ "\x7d"

/-- How a metric is introduced: its type, its name and what it means. -/
structure Description where
  /-- The type of the metric. -/
  type : String
  /-- The name of the metric. -/
  name : String
  /-- What it means. -/
  meaning : String
deriving DecidableEq, Repr

/-- The descriptions of all metrics. -/
def descriptions : List Description :=
  [⟨"counter", validationName, "ID token validation outcomes by algorithm and status"⟩,
   ⟨"counter", fetchName, "Discovery + key-set fetches by status"⟩,
   ⟨"histogram", durationName, "ID token validation duration in seconds"⟩]

/-- How often each metric has been recorded, in the order of their first records. -/
def tally (metrics : List Metric) : List (Metric × Nat) :=
  metrics.eraseDups.map fun metric => (metric, metrics.count metric)

end Metric

end RelyingParty
