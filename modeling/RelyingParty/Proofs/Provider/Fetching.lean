import Mathlib.Data.List.DropRight
import RelyingParty.Provider.Fetch

/-!
# What a fetch asks for and what it comes to

A fetch asks for one document or for two. The second is asked for exactly if the first tells where
the keys are, and the keys are had exactly if the second holds them. Otherwise the first step that
fails is told, and nothing else. Slashes at the end of an issuer make no difference to what is asked
for, but they stay in the issuer of the key set.
-/

namespace RelyingParty

/-- The URL that is asked for. -/
def Job.Effect.url? : Job.Effect → Option String
  | requested url => some url
  | recorded _ => none

namespace Provider

/-- What becomes of asking for each URL. -/
abbrev Retrieval := String → Except RetrievalError String

/-- What a fetch comes to. -/
def outcome (retrieve : Retrieval) (issuer : String) : Fetched :=
  ((fetch issuer).complete retrieve).1

/-- The URLs that a fetch asks for, in order. -/
def requests (retrieve : Retrieval) (issuer : String) : List String :=
  ((fetch issuer).complete retrieve).2.filterMap Job.Effect.url?

section Course

variable (retrieve : Retrieval) (place : String)

/-- The document at `place` can be had, is well formed and names the URL where the keys are. -/
def Refers (url : Url) : Prop :=
  ∃ body metadata, retrieve place = .ok body ∧ Metadata.ofDocument body = .ok metadata ∧
    Url.parse metadata.keySetUri = .ok url

/-- The document at `place` names a URL, and the document there is one with these keys. -/
def Provides (url : Url) (keys : List Key) : Prop :=
  Refers retrieve place url ∧
    ∃ body, retrieve url.text = .ok body ∧ KeySet.keysOfDocument body = .ok keys

/-- A step fails and all before it succeed, with what is told about it. -/
inductive Fails : String → Prop where
  /-- The first document cannot be had. -/
  | description {error : RetrievalError} : retrieve place = .error error → Fails error.message
  /-- The first document is not well formed. -/
  | metadata {body : String} {fault : Json.Fault} : retrieve place = .ok body →
    Metadata.ofDocument body = .error fault →
    Fails ("invalid OpenID configuration at " ++ place ++ ": " ++ fault.message)
  /-- What the first document names is no URL. -/
  | keySetUri {body : String} {metadata : Metadata} {fault : Url.Fault} :
    retrieve place = .ok body → Metadata.ofDocument body = .ok metadata →
    Url.parse metadata.keySetUri = .error fault →
    Fails ("invalid jwks_uri \"" ++ metadata.keySetUri ++ "\" in OpenID configuration: " ++
      fault.message)
  /-- The second document cannot be had. -/
  | keySet {url : Url} {error : RetrievalError} : Refers retrieve place url →
    retrieve url.text = .error error → Fails error.message
  /-- The second document is not well formed. -/
  | keys {url : Url} {body : String} {fault : Json.Fault} : Refers retrieve place url →
    retrieve url.text = .ok body → KeySet.keysOfDocument body = .error fault →
    Fails ("invalid key set at " ++ url.text ++ ": " ++ fault.message)

end Course

section Slashes

/-- Some slashes. -/
def slashes (count : Nat) : String := String.ofList (List.replicate count '/')

/-- What is left without the slashes at its end. -/
theorem toList_withoutSlashes (text : String) :
    (withoutSlashes text).toList = text.toList.rdropWhile (· == '/') := by
  simp only [withoutSlashes, List.rdropWhile, String.toList_ofList]

/-- No slash is left at the end. -/
theorem getLast?_withoutSlashes (text : String) :
    (withoutSlashes text).toList.getLast? ≠ some '/' := by
  intro h
  rw [toList_withoutSlashes, List.getLast?_eq_some_iff] at h
  obtain ⟨front, hfront⟩ := h
  have hne : text.toList.rdropWhile (· == '/') ≠ [] := by simp [hfront]
  have hlast := List.rdropWhile_last_not (· == '/') text.toList hne
  simp [hfront] at hlast

/-- Nothing but slashes is taken away. -/
theorem withoutSlashes_append (text : String) :
    ∃ count, text = withoutSlashes text ++ slashes count := by
  have htaken : ∀ c ∈ text.toList.rtakeWhile (· == '/'), c = '/' := by
    intro c hc
    simpa using List.mem_rtakeWhile_imp hc
  refine ⟨(text.toList.rtakeWhile (· == '/')).length, String.toList_injective ?_⟩
  rw [slashes, String.toList_append, toList_withoutSlashes, String.toList_ofList,
    ← List.eq_replicate_of_mem htaken, List.rdropWhile_append_rtakeWhile]

/-- Further slashes are taken away too. -/
theorem withoutSlashes_slashes (text : String) (count : Nat) :
    withoutSlashes (text ++ slashes count) = withoutSlashes text := by
  apply String.toList_injective
  simp only [toList_withoutSlashes, String.toList_append, slashes, String.toList_ofList]
  -- The last slash goes first.
  induction count with
  | zero => simp
  | succ count ih =>
    rw [List.replicate_succ', ← List.append_assoc, List.rdropWhile_concat_pos _ _ _ (by simp), ih]

/-- Slashes at the end of an issuer do not move the place where the provider describes itself. -/
theorem discoveryUrl_slashes (issuer : String) (count : Nat) :
    discoveryUrl (issuer ++ slashes count) = discoveryUrl issuer := by
  rw [discoveryUrl, withoutSlashes_slashes, discoveryUrl]

end Slashes

section Steps

variable {retrieve : Retrieval} {issuer place : String} {url : Url} {error : FetchError}

/-- The first step succeeds exactly if the provider tells where its keys are. -/
theorem keySetUrl_eq_ok_iff :
    keySetUrl place (retrieve place) = .ok url ↔ Refers retrieve place url := by
  constructor
  · intro h
    unfold keySetUrl at h
    split at h
    · cases h
    · next body hbody =>
      split at h
      · cases h
      · next metadata hmetadata =>
        split at h
        · cases h
        · next found hfound =>
          cases h
          exact ⟨body, metadata, hbody, hmetadata, hfound⟩
  · rintro ⟨body, metadata, hbody, hmetadata, hurl⟩
    simp only [keySetUrl, hbody, hmetadata, hurl]

/-- If the first step fails, what is told about it is its fault. -/
theorem fails_of_keySetUrl (h : keySetUrl place (retrieve place) = .error error) :
    Fails retrieve place error.message := by
  unfold keySetUrl at h
  split at h
  · next fault hbody =>
    cases h
    exact .description hbody
  · next body hbody =>
    split at h
    · next fault hmetadata =>
      cases h
      exact .metadata hbody hmetadata
    · next metadata hmetadata =>
      split at h
      · next fault hurl =>
        cases h
        exact .keySetUri hbody hmetadata hurl
      · cases h

/-- The second step succeeds exactly if there is a document with keys. -/
theorem keySet_eq_ok_iff {answer : Except RetrievalError String} {keys : KeySet} :
    keySet issuer place answer = .ok keys ↔ ∃ body list, answer = .ok body ∧
      KeySet.keysOfDocument body = .ok list ∧ keys = { issuer, uri := place, keys := list } := by
  constructor
  · intro h
    unfold keySet at h
    split at h
    · cases h
    · next body =>
      split at h
      · cases h
      · next list hlist => exact ⟨body, list, rfl, hlist, (Except.ok.inj h).symm⟩
  · rintro ⟨body, list, rfl, hlist, rfl⟩
    simp only [keySet, hlist]

/-- If the second step fails, what is told about it is its fault. -/
theorem fails_of_keySet (refers : Refers retrieve place url)
    (h : keySet issuer url.text (retrieve url.text) = .error error) :
    Fails retrieve place error.message := by
  unfold keySet at h
  split at h
  · next fault hbody =>
    cases h
    exact .keySet refers hbody
  · next body hbody =>
    split at h
    · next fault hkeys =>
      cases h
      exact .keys refers hbody hkeys
    · cases h

end Steps

section Outcome

variable {retrieve : Retrieval} {issuer : String} {url : Url}

/-- Without a place for the keys the fetch ends after the first document. -/
theorem complete_fetch_error {error : FetchError}
    (h : keySetUrl (discoveryUrl issuer) (retrieve (discoveryUrl issuer)) = .error error) :
    (fetch issuer).complete retrieve = (.error (.keyRetrieval error.message),
      [.requested (discoveryUrl issuer), .recorded (.fetch false)]) := by
  simp only [fetch, Job.complete, h, concluded, fetched, Except.isOk, Except.toBool]

/-- With a place for the keys the fetch is up to the second document. -/
theorem complete_fetch_ok (h : Refers retrieve (discoveryUrl issuer) url) :
    (fetch issuer).complete retrieve =
      (fetched (keySet issuer url.text (retrieve url.text)),
        [.requested (discoveryUrl issuer), .requested url.text,
          .recorded (.fetch (keySet issuer url.text (retrieve url.text)).isOk)]) := by
  simp only [fetch, Job.complete, keySetUrl_eq_ok_iff.mpr h, concluded]

/-- The second document is asked for where the first one says. -/
theorem requests_of_refers (h : Refers retrieve (discoveryUrl issuer) url) :
    requests retrieve issuer = [discoveryUrl issuer, url.text] := by
  simp only [requests, complete_fetch_ok h, List.filterMap_cons, Job.Effect.url?,
    List.filterMap_nil]

/-- A second document is asked for only if the first one names it. -/
theorem requests_of_not_refers (h : ∀ url, ¬Refers retrieve (discoveryUrl issuer) url) :
    requests retrieve issuer = [discoveryUrl issuer] := by
  cases hurl : keySetUrl (discoveryUrl issuer) (retrieve (discoveryUrl issuer)) with
  | error error =>
    simp only [requests, complete_fetch_error hurl, List.filterMap_cons, Job.Effect.url?,
      List.filterMap_nil]
  | ok url => exact absurd (keySetUrl_eq_ok_iff.mp hurl) (h url)

/-- Without a place for the keys the fetch comes to the fault of the first step. -/
theorem outcome_of_keySetUrl {error : FetchError}
    (h : keySetUrl (discoveryUrl issuer) (retrieve (discoveryUrl issuer)) = .error error) :
    outcome retrieve issuer = .error (.keyRetrieval error.message) := by
  rw [outcome, complete_fetch_error h]

/-- With a place for the keys the fetch comes to what the second document does. -/
theorem outcome_of_refers (h : Refers retrieve (discoveryUrl issuer) url) :
    outcome retrieve issuer = fetched (keySet issuer url.text (retrieve url.text)) := by
  rw [outcome, complete_fetch_ok h]

/-- Without the keys the fetch comes to the fault of the second step. -/
theorem outcome_of_keySet (refers : Refers retrieve (discoveryUrl issuer) url) {error : FetchError}
    (h : keySet issuer url.text (retrieve url.text) = .error error) :
    outcome retrieve issuer = .error (.keyRetrieval error.message) := by
  rw [outcome_of_refers refers, h, fetched]

/-- Keys that the provider gives are what the fetch comes to. -/
theorem outcome_of_provides {list : List Key}
    (h : Provides retrieve (discoveryUrl issuer) url list) :
    outcome retrieve issuer = .ok { issuer, uri := url.text, keys := list } := by
  obtain ⟨hrefers, body, hbody, hlist⟩ := h
  rw [outcome_of_refers hrefers, keySet_eq_ok_iff.mpr ⟨body, list, hbody, hlist, rfl⟩, fetched]

/-- The step that fails is what the fetch comes to. -/
theorem outcome_of_fails {text : String} (h : Fails retrieve (discoveryUrl issuer) text) :
    outcome retrieve issuer = .error (.keyRetrieval text) := by
  -- Each text is by definition the message of the error that the step ends with.
  cases h with
  | @description error hbody =>
    have hurl : keySetUrl (discoveryUrl issuer) (retrieve (discoveryUrl issuer)) =
        .error (.retrieval error) := by
      simp only [keySetUrl, hbody]
    have houtcome := outcome_of_keySetUrl hurl
    exact houtcome
  | @metadata body fault hbody hmetadata =>
    have hurl : keySetUrl (discoveryUrl issuer) (retrieve (discoveryUrl issuer)) =
        .error (.metadata (discoveryUrl issuer) fault) := by
      simp only [keySetUrl, hbody, hmetadata]
    have houtcome := outcome_of_keySetUrl hurl
    exact houtcome
  | @keySetUri body metadata fault hbody hmetadata hparse =>
    have hurl : keySetUrl (discoveryUrl issuer) (retrieve (discoveryUrl issuer)) =
        .error (.keySetUri metadata.keySetUri fault) := by
      simp only [keySetUrl, hbody, hmetadata, hparse]
    have houtcome := outcome_of_keySetUrl hurl
    exact houtcome
  | @keySet url error hrefers hbody =>
    have hkeys : Provider.keySet issuer url.text (retrieve url.text) =
        .error (.retrieval error) := by
      simp only [Provider.keySet, hbody]
    have houtcome := outcome_of_keySet hrefers hkeys
    exact houtcome
  | @keys url body fault hrefers hbody hlist =>
    have hkeys : Provider.keySet issuer url.text (retrieve url.text) =
        .error (.keys url.text fault) := by
      simp only [Provider.keySet, hbody, hlist]
    have houtcome := outcome_of_keySet hrefers hkeys
    exact houtcome

/-- A fetch comes to keys that the provider gives, or to the step that fails. -/
theorem provides_or_fails (retrieve : Retrieval) (place : String) :
    (∃ url list, Provides retrieve place url list) ∨ ∃ text, Fails retrieve place text := by
  cases hurl : keySetUrl place (retrieve place) with
  | error error => exact Or.inr ⟨_, fails_of_keySetUrl hurl⟩
  | ok url =>
    have hrefers := keySetUrl_eq_ok_iff.mp hurl
    -- whether the second step succeeds does not depend on the issuer
    cases hkeys : keySet place url.text (retrieve url.text) with
    | error error => exact Or.inr ⟨_, fails_of_keySet hrefers hkeys⟩
    | ok keys =>
      obtain ⟨body, list, hbody, hlist, _⟩ := keySet_eq_ok_iff.mp hkeys
      exact Or.inl ⟨url, list, hrefers, body, hbody, hlist⟩

end Outcome

section Account

variable (retrieve : Retrieval) (issuer : String)

/-- The second document is asked for exactly if the first one names it, at the URL that it names. -/
theorem requests_eq_pair_iff (text : String) :
    requests retrieve issuer = [discoveryUrl issuer, text] ↔
      ∃ url, Refers retrieve (discoveryUrl issuer) url ∧ url.text = text := by
  constructor
  · intro h
    by_cases hrefers : ∃ url, Refers retrieve (discoveryUrl issuer) url
    · obtain ⟨url, hurl⟩ := hrefers
      rw [requests_of_refers hurl] at h
      exact ⟨url, hurl, (List.cons.inj (List.cons.inj h).2).1⟩
    · rw [requests_of_not_refers (not_exists.mp hrefers)] at h
      cases (List.cons.inj h).2
  · rintro ⟨url, hurl, rfl⟩
    exact requests_of_refers hurl

/-- Otherwise nothing more is asked for. -/
theorem requests_eq_single_iff :
    requests retrieve issuer = [discoveryUrl issuer] ↔
      ∀ url, ¬Refers retrieve (discoveryUrl issuer) url := by
  constructor
  · intro h url hurl
    rw [requests_of_refers hurl] at h
    cases (List.cons.inj h).2
  · exact requests_of_not_refers

/-- Keys are had exactly if the provider gives them. -/
theorem outcome_eq_ok_iff (keys : KeySet) :
    outcome retrieve issuer = .ok keys ↔
      ∃ url list, Provides retrieve (discoveryUrl issuer) url list ∧
        keys = { issuer, uri := url.text, keys := list } := by
  constructor
  · intro h
    rcases provides_or_fails retrieve (discoveryUrl issuer) with ⟨url, list, hlist⟩ | ⟨text, htext⟩
    · rw [outcome_of_provides hlist] at h
      exact ⟨url, list, hlist, (Except.ok.inj h).symm⟩
    · rw [outcome_of_fails htext] at h
      cases h
  · rintro ⟨url, list, hlist, rfl⟩
    exact outcome_of_provides hlist

/-- An error is exactly the first step that fails. -/
theorem outcome_eq_error_iff (error : ValidationError) :
    outcome retrieve issuer = .error error ↔
      ∃ text, Fails retrieve (discoveryUrl issuer) text ∧ error = .keyRetrieval text := by
  constructor
  · intro h
    rcases provides_or_fails retrieve (discoveryUrl issuer) with ⟨url, list, hlist⟩ | ⟨text, htext⟩
    · rw [outcome_of_provides hlist] at h
      cases h
    · rw [outcome_of_fails htext] at h
      exact ⟨text, htext, (Except.error.inj h).symm⟩
  · rintro ⟨text, htext, rfl⟩
    exact outcome_of_fails htext

/-- What is asked for depends on nothing but where the provider describes itself. -/
theorem requests_congr {issuer other : String} (h : discoveryUrl other = discoveryUrl issuer) :
    requests retrieve other = requests retrieve issuer := by
  by_cases hrefers : ∃ url, Refers retrieve (discoveryUrl issuer) url
  · obtain ⟨url, hurl⟩ := hrefers
    rw [requests_of_refers hurl, requests_of_refers (h ▸ hurl), h]
  · have hnone := not_exists.mp hrefers
    rw [requests_of_not_refers hnone, requests_of_not_refers (h ▸ hnone), h]

/-- The issuer without the slashes at its end tells where the first document is. The second one is
asked for exactly if the first can be had, is well formed and names a URL, and there is no third.
The fetch comes to keys exactly if the second document holds them: to those keys, under the issuer
as it was given and the URL that was asked for. Otherwise it comes to the fault of the first step
that fails. The number of slashes at the end of the issuer makes no difference to the requests. -/
theorem requests_and_outcome :
    (∃ base count, issuer = base ++ slashes count ∧ base.toList.getLast? ≠ some '/' ∧
      discoveryUrl issuer = base ++ "/.well-known/openid-configuration") ∧
    (∀ text, requests retrieve issuer = [discoveryUrl issuer, text] ↔
      ∃ url, Refers retrieve (discoveryUrl issuer) url ∧ url.text = text) ∧
    (requests retrieve issuer = [discoveryUrl issuer] ↔
      ∀ url, ¬Refers retrieve (discoveryUrl issuer) url) ∧
    (∀ keys, outcome retrieve issuer = .ok keys ↔
      ∃ url list, Provides retrieve (discoveryUrl issuer) url list ∧
        keys = { issuer, uri := url.text, keys := list }) ∧
    (∀ error, outcome retrieve issuer = .error error ↔
      ∃ text, Fails retrieve (discoveryUrl issuer) text ∧ error = .keyRetrieval text) ∧
    ∀ count, requests retrieve (issuer ++ slashes count) = requests retrieve issuer := by
  obtain ⟨count, hcount⟩ := withoutSlashes_append issuer
  refine ⟨⟨withoutSlashes issuer, count, hcount, getLast?_withoutSlashes issuer, rfl⟩,
    requests_eq_pair_iff retrieve issuer, requests_eq_single_iff retrieve issuer,
    outcome_eq_ok_iff retrieve issuer, outcome_eq_error_iff retrieve issuer, ?_⟩
  intro further
  exact requests_congr retrieve (discoveryUrl_slashes issuer further)

end Account

end Provider

end RelyingParty
