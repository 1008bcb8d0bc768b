import RelyingParty.Duration

/-!
# Looking keys up again

The keys of an issuer are looked up at most twice for one token. The second lookup follows only when
the first did not find the key that the token names, and then asks for younger keys.
-/

namespace RelyingParty

/-- How often the keys may still be looked up again, and how old they may be then. -/
structure Retry where
  /-- The number of lookups that are left. -/
  left : Nat
  /-- How old the keys may be. -/
  window : Duration
deriving DecidableEq, Repr

namespace Retry

/-- The greatest number of lookups for one token. -/
def maxLookups : Nat := 2

/-- What is left with the first lookup. -/
def first (window : Duration) : Retry := ⟨maxLookups - 1, window⟩

/-- The number of lookups so far. -/
def attempts (retry : Retry) : Nat := maxLookups - retry.left

/-- What is left when a key has not been found, if there is another lookup. -/
def afterMiss? (retry : Retry) : Option Retry :=
  match retry.left with
  | 0 => none
  | left + 1 => some { retry with left := left }

theorem left_lt_of_afterMiss? {retry again : Retry} (h : retry.afterMiss? = some again) :
    again.left < retry.left := by
  unfold afterMiss? at h
  split at h
  · simp at h
  · simp only [Option.some.injEq] at h
    subst h
    simp_all

/-- The state in words. -/
def text (retry : Retry) : String :=
  "KeyMissRetry \x7b attempts: " ++ toString retry.attempts ++ ", refresh_max_age: " ++
    retry.window.text ++ " \x7d"

end Retry

end RelyingParty
