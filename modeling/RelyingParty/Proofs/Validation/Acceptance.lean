import RelyingParty.Proofs.Run.Handover
import RelyingParty.Proofs.Token.Signing
import RelyingParty.Proofs.Validation.Inquiry

/-!
# Acceptance

What can be relied on when a token is accepted, or rejected for nothing but its claims: it carries a
valid signature of its own, under the client secret or under the one key that belongs to it. That
key is one of those to which the computation came that the lookup found in the validator's cache: it
was started in the same run, for the very issuer that was required and no longer ago than the lookup
allowed, and it asked for nothing but the issuer's two documents. An accepted token passes every
claim check.
-/

namespace RelyingParty

open Text

/-- Every claim check passes. -/
structure ClaimCheck.Passes (requirements : Requirements) (token : Token) (now : Int) : Prop where
  /-- The issuer is the one required. -/
  issuer : issuer requirements token = .ok ()
  /-- There is a subject. -/
  subject : subject token = .ok ()
  /-- The audience required is among the token's. -/
  audience : audience requirements token = .ok ()
  /-- The token has not expired. -/
  expiration : expiration token now (seconds requirements.leeway) = .ok ()
  /-- There is a time of issue. -/
  issuedAt : issuedAt token = .ok ()
  /-- The nonce is the one required. -/
  nonce : nonce requirements token = .ok ()
  /-- The authorized party is the audience required. -/
  authorizedParty : authorizedParty requirements token = .ok ()
  /-- The authentication is recent enough. -/
  authTime : authTime requirements token now (seconds requirements.leeway) = .ok ()
  /-- The organization is the one required. -/
  organization : organization requirements token = .ok ()

/-- No check is left out. -/
theorem ClaimCheck.passes_of_assert {requirements : Requirements} {token : Token} {now : Int}
    (h : ClaimCheck.assert requirements token now = .ok ()) :
    ClaimCheck.Passes requirements token now := by
  simp only [ClaimCheck.assert, bind_eq_ok] at h
  obtain ⟨_, hissuer, _, hsubject, _, haudience, _, hexpiration, _, hissuedAt, _, hnonce, _, hparty,
    _, htime, horganization⟩ := h
  exact ⟨hissuer, hsubject, haudience, hexpiration, hissuedAt, hnonce, hparty, htime, horganization⟩

namespace Provider

/-- A fetch that is over has asked for the document in which the issuer describes itself and, if
that names another, for the one with the keys. -/
theorem leads_fetch {issuer : String} {answers : Answers} {result : Fetched}
    (h : (fetch issuer).Leads answers (.done result)) :
    (∃ answer error, answers = [(discoveryUrl issuer, answer)] ∧
      keySetUrl (discoveryUrl issuer) answer = .error error ∧ result = fetched (.error error)) ∨
    ∃ first url last, answers = [(discoveryUrl issuer, first), (url.text, last)] ∧
      keySetUrl (discoveryUrl issuer) first = .ok url ∧
      result = fetched (keySet issuer url.text last) := by
  have ended {outcome : Except FetchError KeySet} {answers : Answers}
      (h : (concluded outcome).Leads answers (.done result)) :
      answers = [] ∧ result = fetched outcome := by
    cases h with
    | record h =>
      obtain ⟨hanswers, hresult⟩ := h.of_done
      exact ⟨hanswers, Job.done.inj hresult⟩
  cases h with
  | @request _ first _ _ _ rest h =>
    cases h with
    | sleeping h =>
      simp only at h
      split at h
      · next error herror =>
        obtain ⟨rfl, hresult⟩ := ended h
        exact Or.inl ⟨first, error, rfl, herror, hresult⟩
      · next url hurl =>
        cases h with
        | @request _ last _ _ _ rest h =>
          cases h with
          | sleeping h =>
            obtain ⟨rfl, hresult⟩ := ended h
            exact Or.inr ⟨first, url, last, rfl, hurl, hresult⟩

/-- A fetch that gives keys has got two documents: the one in which the issuer describes itself, and
the one that it names, which holds the keys. -/
theorem leads_fetch_ok {issuer : String} {answers : Answers} {keys : KeySet}
    (h : (fetch issuer).Leads answers (.done (.ok keys))) :
    ∃ description url document,
      answers = [(discoveryUrl issuer, .ok description), (url.text, .ok document)] ∧
      keySetUrl (discoveryUrl issuer) (.ok description) = .ok url ∧
      keySet issuer url.text (.ok document) = .ok keys := by
  rcases leads_fetch h with ⟨answer, error, _, _, hresult⟩ | ⟨first, url, last, rfl, hurl, hresult⟩
  · cases hresult
  · cases first with
    | error error => cases hurl
    | ok description =>
      cases last with
      | error error => cases hresult
      | ok document =>
        refine ⟨description, url, document, rfl, hurl, ?_⟩
        unfold fetched at hresult
        split at hresult
        · next found hfound =>
          cases hresult
          exact hfound
        · cases hresult

/-- A fetch that fails finds no fault with a claim. -/
theorem claimFree_of_leads_fetch {issuer : String} {answers : Answers} {result : Fetched}
    (h : (fetch issuer).Leads answers (.done result)) : ClaimFree result := by
  have hfetched (outcome : Except FetchError KeySet) : ClaimFree (fetched outcome) := by
    intro claim text heq
    cases outcome <;> cases heq
  rcases leads_fetch h with ⟨_, _, _, _, rfl⟩ | ⟨_, _, _, _, _, rfl⟩
  · exact hfetched _
  · exact hfetched _

end Provider

namespace Validator

/-- What a validation comes to is up to the claims: the token is accepted, or a claim is wrong. -/
def Reaches (result : Validated) : Prop :=
  (∃ token, result = .ok token) ∨ ∃ claim text, result = .error (.claim claim text)

/-- A token is decided by its claims: it passes every check, or the first that it fails is named. -/
def Decided (presentation : Presentation) (token : Token) (result : Validated) : Prop :=
  (result = .ok token ∧
    ClaimCheck.Passes presentation.requirements token presentation.now) ∨
  ∃ fault, result = .error (.claim fault.claim fault.message) ∧
    ClaimCheck.assert presentation.requirements token presentation.now = .error fault

/-- A rejection that is not about a claim is no matter of claims. -/
theorem reaches_bind {α : Type} {step : Except ValidationError α} {next : α → Validated}
    (free : ClaimFree step) (reaches : Reaches (step >>= next)) :
    ∃ value, step = .ok value ∧ Reaches (next value) := by
  cases step with
  | ok value => exact ⟨value, rfl, reaches⟩
  | error error =>
    rcases reaches with ⟨token, htoken⟩ | ⟨claim, text, hclaim⟩
    · cases htoken
    · exact absurd (congrArg Except.error (Except.error.inj hclaim)) (free claim text)

/-- The checks decide a token that was decoded. -/
theorem decided_checked (presentation : Presentation) (token : Token) :
    Decided presentation token (checked presentation token) := by
  unfold checked
  split
  · next hassert => exact Or.inl ⟨rfl, ClaimCheck.passes_of_assert hassert⟩
  · next fault hassert => exact Or.inr ⟨fault, rfl, hassert⟩

end Validator

namespace History

/-- Keys were fetched for a cache from their issuer: `start` is the lookup that started the
computation `id`, and `description` and `document` are the requests that this computation made. -/
structure Fetches (history : History) (caches : Caches ValidationError KeySet)
    (cache issuer : String) (id : Nat) (keys : KeySet) (start description document : Record) :
    Prop where
  /-- The lookup starts the computation. -/
  starts : start.Starts cache issuer id
  /-- The computation dates from the lookup, and it has come to the keys. -/
  came : (caches.named cache).computations[id]? = some ⟨issuer, start.clock, .done (.ok keys)⟩
  /-- The first request was made no earlier than the lookup. -/
  begins : start.clock ≤ description.clock
  /-- The second request was made no earlier than the first. -/
  follows : description.clock ≤ document.clock
  /-- The computation asked for the document in which the issuer describes itself, and then for the
  one that this names, which holds the keys, and for nothing else. -/
  asks : ∃ before middle between after url first last,
    history = before ++ start :: middle ++ description :: between ++ document :: after ∧
    description.answerTo? (before ++ start :: middle) cache id =
      some (Provider.discoveryUrl issuer, .ok first) ∧
    document.answerTo? (before ++ start :: middle ++ description :: between) cache id =
      some (url.text, .ok last) ∧
    history.askedBy cache id =
      [(Provider.discoveryUrl issuer, .ok first), (url.text, .ok last)] ∧
    Provider.keySetUrl (Provider.discoveryUrl issuer) (.ok first) = .ok url ∧
    Provider.keySet issuer url.text (.ok last) = .ok keys

/-- A lookup of a caller has found keys that were fetched, for the cache and from the issuer that it
names, no longer ago than it allows. -/
structure Supplies (history : History) (caches : Caches ValidationError KeySet) (caller : Nat)
    (lookup : Lookup) (keys : KeySet) : Prop where
  /-- The caller has made the lookup. -/
  made : ∃ used ∈ history, used.happening = .observed caller (.lookedUp lookup)
  /-- The computation that it found has fetched the keys. Whenever the caller made the lookup, the
  computation had been started, and no longer ago than the lookup allows. -/
  fetched : ∃ start description document,
    history.Fetches caches lookup.cache lookup.key lookup.id keys start description document ∧
      ∀ used ∈ history, used.happening = .observed caller (.lookedUp lookup) →
        start.clock ≤ used.clock ∧ used.clock ≤ start.clock + lookup.window.total

end History

namespace Chronicle

variable {chronicle : Chronicle ValidationError KeySet Reply}

/-- A computation that has come to keys has fetched them. -/
theorem Attended.fetches (h : chronicle.Attended) (booked : chronicle.Booked)
    (asking : ∀ caller ∈ chronicle.started, ∃ inquiry : Inquiry, caller = inquiry.caller)
    {cache issuer : String} {id : Nat} {keys : KeySet} {before after : History} {start : Record}
    (split : chronicle.history = before ++ start :: after) (starts : start.Starts cache issuer id)
    (came : (chronicle.pipeline.caches.named cache).computations[id]? =
      some ⟨issuer, start.clock, .done (.ok keys)⟩) :
    ∃ description document, chronicle.history.Fetches chronicle.pipeline.caches cache issuer id keys
      start description document := by
  obtain ⟨caller, window, given, hoffers, hleads⟩ := h.credited.course cache id _ came
  obtain rfl := hoffers.eq_fetch asking
  obtain ⟨first, url, last, hasked, hurl, hkeys⟩ := Provider.leads_fetch_ok hleads
  -- the two answers were got by two requests on record, which lie behind the start
  obtain ⟨earlier, description, later, hfirst, hdescription, hrest⟩ :=
    History.exists_answerTo?_of_askedSince hasked
  obtain ⟨between, document, rest, rfl, hdocument, _⟩ :=
    History.exists_answerTo?_of_askedSince hrest
  obtain ⟨middle, rfl⟩ := booked.justified.split_of_answerTo? split starts hfirst hdescription
  have hordered := booked.ordered
  rw [hfirst, List.pairwise_append, List.pairwise_cons] at hordered
  obtain ⟨_, ⟨hlater, _⟩, hearlier⟩ := hordered
  refine ⟨description, document, starts, came, ?_, ?_, before, middle, between, rest, url, first,
    last, ?_, hdescription, ?_, hasked, hurl, hkeys⟩
  · apply hearlier start _ description List.mem_cons_self
    exact List.mem_append_right _ List.mem_cons_self
  · apply hlater document
    exact List.mem_append_right _ List.mem_cons_self
  · rw [hfirst, List.append_assoc (before ++ start :: middle), List.cons_append]
  · simpa using hdocument

/-- Keys that a caller got for a lookup were fetched as the lookup wanted them. -/
theorem Attended.supplies (h : chronicle.Attended) (booked : chronicle.Booked)
    (asking : ∀ caller ∈ chronicle.started, ∃ inquiry : Inquiry, caller = inquiry.caller)
    {caller : Nat} {findings : Findings ValidationError KeySet}
    (made : chronicle.history.lookupsBy caller = findings.map Prod.fst)
    (gave : chronicle.pipeline.caches.Gave findings) {lookup : Lookup} {keys : KeySet}
    (member : (lookup, .ok keys) ∈ findings) :
    chronicle.history.Supplies chronicle.pipeline.caches caller lookup keys := by
  have hlookup : lookup ∈ chronicle.history.lookupsBy caller := by
    rw [made]
    exact List.mem_map.mpr ⟨_, member, rfl⟩
  obtain ⟨used, hused, hhappening⟩ := History.exists_of_mem_lookupsBy hlookup
  refine ⟨⟨used, hused, hhappening⟩, ?_⟩
  obtain ⟨before, start, after, starter, window, _, job, _, hsplit, hstart, _, _, _, hbuilt, _⟩ :=
    h.built booked hused ⟨caller, hhappening⟩
  obtain ⟨computation, hfound, hdone⟩ := gave lookup _ member
  obtain rfl := Option.some.inj (hfound.symm.trans hbuilt)
  obtain rfl : job = .done (.ok keys) := hdone
  have hstarts : start.Starts lookup.cache lookup.key lookup.id := ⟨starter, window, hstart⟩
  obtain ⟨description, document, hfetches⟩ := h.fetches booked asking hsplit hstarts hbuilt
  refine ⟨start, description, document, hfetches, fun other hother hlooksUp => ?_⟩
  -- the caller may have made the same lookup twice, but what it found was started once
  obtain ⟨_, origin, _, origin', length, _, _, _, hsplit', horigin, hbegun, hyoung, _⟩ :=
    h.built booked hother ⟨caller, hlooksUp⟩
  obtain ⟨_, rfl, _⟩ :=
    booked.justified.start_unique hsplit hstarts hsplit' ⟨origin', length, horigin⟩
  exact ⟨hbegun, hyoung⟩

end Chronicle

namespace Validator

/-- What vouches for a token: a signature under the client secret, or one under the key that belongs
to the token among the keys that were fetched for the last lookup of the caller. -/
def Vouches (validator : Validator) (presentation : Presentation) (history : History)
    (caches : Caches ValidationError KeySet) (caller : Nat) (token : Token) : Prop :=
  token.algorithm = presentation.requirements.algorithm ∧
  match presentation.requirements.algorithm with
  | .hs256 =>
    ∃ secret, presentation.secret = some secret ∧ isBlank secret = false ∧
      Token.Authentic presentation.token (fun signed signature =>
        signature = Crypto.hmacSha256 (Utf8.encode secret) signed) token
  | .rs256 =>
    ∃ kid keys entry key lookup window, token.keyId = some kid ∧
      KeySet.find? keys kid = some entry ∧ entry.decoded = .ok (.rsa key) ∧
      Token.Authentic presentation.token (fun signed signature =>
        Crypto.Rsa.verify key signed signature = true) token ∧
      lookup.Seeks validator.cache presentation.requirements.issuer window ∧
      history.Supplies caches caller lookup keys ∧
      (history.lookupsBy caller = [lookup] ∧ window = validator.settings.keySetMaxAge ∨
        ∃ first, history.lookupsBy caller = [first, lookup] ∧
          window = validator.settings.keySetRefreshMaxAge)

/-- A usable secret is the given one, and it is not blank. -/
theorem usableSecret_eq_ok {given : Option String} {secret : String}
    (h : usableSecret given = .ok secret) : given = some secret ∧ isBlank secret = false := by
  unfold usableSecret at h
  split at h
  · next found hfound =>
    obtain rfl := Except.ok.inj h
    obtain ⟨value, rfl, hvalue⟩ := Option.bind_eq_some_iff.mp hfound
    obtain ⟨hblank, rfl⟩ := nonBlank?_eq_some_iff.mp hvalue
    exact ⟨rfl, hblank⟩
  · cases h

/-- What comes of a lookup of keys vouches for a token that is judged by its claims with them. -/
theorem vouches_of_verdict {validator : Validator} {presentation : Presentation}
    (algorithm : presentation.requirements.algorithm = .rs256) {history : History}
    {caches : Caches ValidationError KeySet} {caller : Nat} {lookup : Lookup} {window : Duration}
    {found : Provider.Fetched}
    (seeks : lookup.Seeks validator.cache presentation.requirements.issuer window)
    (made : history.lookupsBy caller = [lookup] ∧ window = validator.settings.keySetMaxAge ∨
      ∃ first, history.lookupsBy caller = [first, lookup] ∧
        window = validator.settings.keySetRefreshMaxAge)
    (free : ClaimFree found)
    (supplies : ∀ keys, found = .ok keys → history.Supplies caches caller lookup keys)
    (reaches : Reaches (verdict presentation found)) :
    ∃ token, Decided presentation token (verdict presentation found) ∧
      validator.Vouches presentation history caches caller token := by
  obtain ⟨keys, rfl, hjudged⟩ := reaches_bind free reaches
  obtain ⟨token, hdecode, _⟩ :=
    reaches_bind (Token.claimFree_decode (.asymmetric keys) presentation.token) hjudged
  obtain ⟨halgorithm, kid, entry, key, hkid, hentry, hkey, hauthentic⟩ :=
    Token.authentic_asymmetric hdecode
  have hverdict : verdict presentation (.ok keys) = checked presentation token := by
    change Token.decode (.asymmetric keys) presentation.token >>= checked presentation = _
    rw [hdecode]
    rfl
  refine ⟨token, ?_, ?_⟩
  · rw [hverdict]
    exact decided_checked presentation token
  · simp only [Vouches, algorithm]
    exact ⟨halgorithm, kid, keys, entry, key, lookup, window, hkid, hentry, hkey, hauthentic, seeks,
      supplies keys rfl, made⟩

/-- The client secret vouches for a token that is judged by its claims with it. -/
theorem vouches_of_symmetric {validator : Validator} {presentation : Presentation}
    (algorithm : presentation.requirements.algorithm = .hs256) {history : History}
    {caches : Caches ValidationError KeySet} {caller : Nat}
    (reaches : Reaches (symmetric presentation)) :
    ∃ token, Decided presentation token (symmetric presentation) ∧
      validator.Vouches presentation history caches caller token := by
  have free : ClaimFree (usableSecret presentation.secret) := by
    intro claim text h
    unfold usableSecret at h
    split at h <;> cases h
  obtain ⟨secret, husable, hjudged⟩ := reaches_bind free reaches
  obtain ⟨token, hdecode, _⟩ :=
    reaches_bind (Token.claimFree_decode (.symmetric secret) presentation.token) hjudged
  obtain ⟨hsecret, hblank⟩ := usableSecret_eq_ok husable
  obtain ⟨halgorithm, hauthentic⟩ := Token.authentic_symmetric hdecode
  have hsymmetric : symmetric presentation = checked presentation token := by
    change (usableSecret presentation.secret >>= fun secret =>
      Token.decode (.symmetric secret) presentation.token >>= checked presentation) = _
    rw [husable]
    change Token.decode (.symmetric secret) presentation.token >>= checked presentation = _
    rw [hdecode]
    rfl
  refine ⟨token, ?_, ?_⟩
  · rw [hsymmetric]
    exact decided_checked presentation token
  · simp only [Vouches, algorithm]
    exact ⟨halgorithm, secret, hsecret, hblank, hauthentic⟩

/-- When it is up to the claims of a token, there is something that vouches for it. -/
theorem Judges.vouches {validator : Validator} {presentation : Presentation}
    {findings : Findings ValidationError KeySet} {result : Validated}
    (h : validator.Judges presentation findings result) (reaches : Reaches result)
    {history : History} {caches : Caches ValidationError KeySet} {caller : Nat}
    (made : history.lookupsBy caller = findings.map Prod.fst)
    (free : ∀ lookup found, (lookup, found) ∈ findings → ClaimFree found)
    (supplies : ∀ lookup keys, (lookup, .ok keys) ∈ findings →
      history.Supplies caches caller lookup keys) :
    ∃ token, Decided presentation token result ∧
      validator.Vouches presentation history caches caller token := by
  cases h with
  | missing blank =>
    rcases reaches with ⟨token, htoken⟩ | ⟨claim, text, hclaim⟩
    · cases htoken
    · cases hclaim
  | symmetric given algorithm => exact vouches_of_symmetric algorithm reaches
  | @once given algorithm lookup found seeks settles =>
    have hmember : (lookup, found) ∈ [(lookup, found)] := List.mem_cons_self
    refine vouches_of_verdict algorithm seeks (Or.inl ⟨made, rfl⟩) (free _ _ hmember) ?_ reaches
    rintro keys rfl
    exact supplies lookup keys hmember
  | @twice given algorithm first last lacking found kid seeks lacks seeksAgain =>
    have hmember : (last, found) ∈ [(first, .ok lacking), (last, found)] :=
      List.mem_cons_of_mem _ List.mem_cons_self
    refine vouches_of_verdict algorithm seeksAgain (Or.inr ⟨first, made, rfl⟩) (free _ _ hmember) ?_
      reaches
    rintro keys rfl
    exact supplies last keys hmember

/-- When the cache has keys that are young enough and settle how a token is judged, a validation is
over as soon as it is polled. -/
theorem poll_assert_of_cached {validator : Validator} {presentation : Presentation}
    (given : isBlank presentation.token = false)
    (algorithm : presentation.requirements.algorithm = .rs256)
    {caches : Caches ValidationError KeySet} {now id : Nat}
    {computation : Computation ValidationError KeySet} {keys : KeySet}
    (fresh : (caches.named validator.cache).fresh? now presentation.requirements.issuer
      validator.settings.keySetMaxAge = some id)
    (there : (caches.named validator.cache).computations[id]? = some computation)
    (done : computation.job = .done (.ok keys)) (settles : Settles presentation (.ok keys))
    (documents : Documents) {ρ : Type} (next : Validated → ρ) :
    ((validator.assert presentation next).poll now documents caches).caller =
      .done (next (verdict presentation (.ok keys))) := by
  simp only [assert, verify, given, Bool.false_eq_true, if_false, algorithm]
  obtain ⟨after, heq, hafter⟩ := exists_lookUp_eq validator.cache presentation
    (fun result => .record .duration <| .record (.validation .rs256 (status result)) <|
      .done (next result))
    (.first validator.settings.keySetRefreshMaxAge) validator.settings.keySetMaxAge
  have hawait : caches.await now documents validator.cache presentation.requirements.issuer id =
      ⟨caches, some (.ok keys), []⟩ :=
    Caches.await_of_done there done (fun _ h => by cases h) now documents
  rw [heq, Caches.poll_lookup_of_fresh fresh there]
  rcases hafter (.ok keys) with ⟨_, kid, _, hkeys, hlacks, _⟩ | ⟨_, hlast⟩
  · obtain rfl := Except.ok.inj hkeys
    exact absurd hlacks (settles _ kid rfl)
  · simp only [Caller.Polled.after, Caller.poll, hawait, hlast]

end Validator

/-- In every run, when a validation is up to the claims of a token, there is something that vouches
for the token; and a token that is accepted passes every claim check. -/
theorem Pipeline.acceptance {documents : Documents}
    {events : List (Event ValidationError KeySet Reply)}
    (inquires : ∀ event ∈ events, event.Inquires) {caller : Nat} {validator : Validator}
    {presentation : Presentation} {result : Validated}
    (asked : (Event.started events)[caller]? = some (Inquiry.assert validator presentation).caller)
    (ended : ((opened documents).run events).1.callers[caller]? =
      some (.finished (.validated result)))
    (reaches : Validator.Reaches result) :
    ∃ token, Validator.Decided presentation token result ∧
      validator.Vouches presentation ((opened documents).history events)
        ((opened documents).run events).1.caches caller token := by
  have hattended := Chronicle.attended_extend documents fun event h => (inquires event h).orderly
  have hbooked := Chronicle.booked_extend documents events
  have hasking := Event.asking_started inquires
  simp only [Chronicle.extend, Chronicle.opened, List.nil_append] at hattended hbooked
  obtain ⟨program, findings, hprogram, hleads, hmade, hgave⟩ := hattended.finished ended
  obtain rfl := Option.some.inj (hprogram.symm.trans asked)
  obtain ⟨judged, hreply, hjudges⟩ := Validator.judges_of_leads hleads
  obtain rfl := Reply.validated.inj hreply
  refine hjudges.vouches reaches hmade ?_ ?_
  · intro lookup found hmember
    obtain ⟨_, _, _, _, _, _, answers, _, _, _, _, hfetched, _⟩ :=
      hattended.fetched hbooked hasking hmade hgave hmember
    exact Provider.claimFree_of_leads_fetch hfetched
  · exact fun lookup keys hmember => hattended.supplies hbooked hasking hmade hgave hmember

/-- A token that is signed with a key of its issuer, and accepted ten seconds after the keys were
fetched. The exponent of the key is three, and its modulus is by how much the cube of the signature
exceeds the encoding of what is signed. -/
theorem Pipeline.acceptance_fetched :
    let issuer := "https://login.example"
    let head := Utf8.encode "\x7b\"alg\":\"RS256\",\"kid\":\"a\"\x7d"
    let body := Utf8.encode
      "\x7b\"iss\":\"https://login.example\",\"sub\":\"u\",\"aud\":\"c\",\"exp\":2,\"iat\":0\x7d"
    let signed := Base64Url.encodeText head ++ "." ++ Base64Url.encodeText body
    let signature : Bytes := List.replicate 171 0 ++ 8 :: List.replicate 85 0
    let excess := (1 <<< 2049) - Crypto.Rsa.toNat (Crypto.Rsa.encoded 257 (Utf8.encode signed))
    let modulus : Bytes := (List.range 257).map fun i => UInt8.ofNat (excess >>> (8 * (256 - i)))
    let presentation : Presentation :=
      { requirements := {
          algorithm := .rs256, issuer, audience := "c", nonce := none, maxAge := none
          leeway := .ofSeconds 60, organization := none
          issuer_nonBlank := by decide, audience_nonBlank := by decide
          nonce_nonBlank := by simp, organization_nonBlank := by simp }
        token := signed ++ "." ++ Base64Url.encodeText signature, secret := none, now := 1 }
    let validator : Validator := ⟨.default, "keys"⟩
    let description :=
      "\x7b\"issuer\":\"https://login.example\",\"jwks_uri\":\"urn:keys\"\x7d"
    let document := "\x7b\"keys\":[\x7b\"kty\":\"RSA\",\"kid\":\"a\",\"n\":\"" ++
      Base64Url.encodeText modulus ++ "\",\"e\":\"" ++ Base64Url.encodeText [3] ++ "\"\x7d]\x7d"
    let documents : Documents :=
      [(Provider.discoveryUrl issuer, ⟨.body description, 0⟩), ("urn:keys", ⟨.body document, 0⟩)]
    let events : List (Event ValidationError KeySet Reply) :=
      [.start (Inquiry.keys "keys" issuer (.ofSeconds 60)).caller, .poll 0, .pass 10000000000,
        .start (Inquiry.assert validator presentation).caller, .poll 1]
    ∃ found token, ((opened documents).run events).1.callers[1]? =
        some (.finished (.validated (.ok found))) ∧
      Validator.Decided presentation token (.ok found) ∧
      validator.Vouches presentation ((opened documents).history events)
        ((opened documents).run events).1.caches 1 token := by
  intro issuer head body signed signature excess modulus presentation validator description document
    documents events
  let key : Key := ⟨some "a", .rsa (Base64Url.encodeText modulus) (Base64Url.encodeText [3])⟩
  let keys : KeySet := ⟨issuer, "urn:keys", [key]⟩
  let inquiry : Inquiry := .assert validator presentation
  let first : List (Event ValidationError KeySet Reply) :=
    [.start (Inquiry.keys "keys" issuer (.ofSeconds 60)).caller, .poll 0, .pass 10000000000]
  obtain ⟨before, hbefore⟩ : ∃ before, before = ((opened documents).run first).1 := ⟨_, rfl⟩
  have cached : (before.caches.named "keys").fresh? before.clock issuer
      validator.settings.keySetMaxAge = some 0 ∧
        ((before.caches.named "keys").computations[0]?.bind fun computation =>
          computation.job.result?.bind Except.toOption) = some keys := by
    rw [hbefore]
    decide +kernel
  obtain ⟨fresh, hvalue⟩ := cached
  obtain ⟨computation, there, done⟩ : before.CameTo "keys" 0 (.ok keys) := cameTo_of_value? hvalue
  have accepted : ((Token.claimsOfBytes body).toOption.any fun claims =>
      (Validator.checked presentation ⟨.rs256, some "a", claims⟩).isOk) = true := by
    decide +kernel
  obtain ⟨claims, hclaims, hchecked⟩ := (Option.any_eq_true _ _).mp accepted
  have decoded : Token.decode (.asymmetric keys) presentation.token =
      .ok ⟨.rs256, some "a", claims⟩ := by
    have named : keys.find? "a" = some key := by
      simp only [keys, KeySet.find?, List.find?_cons, key, beq_self_eq_true]
    have hkey : key.decoded = .ok (.rsa ⟨modulus, [3]⟩) :=
      Token.decoded_rsa (some "a") modulus [3]
    have chosen : Token.keyFor keys (some "a") = .ok (.rsa ⟨modulus, [3]⟩) :=
      Token.keyFor_eq_ok.mpr ⟨"a", key, rfl, named, hkey⟩
    have header : Header.ofBytes head = .ok ⟨some Algorithm.rs256.name, some "a"⟩ :=
      eq_ok_of_toOption (by decide +kernel)
    have wellFormed : Header.isWellFormed head = true := by decide +kernel
    have valid : Crypto.Rsa.verify ⟨modulus, [3]⟩ (Utf8.encode signed) signature = true := by
      decide +kernel
    exact Token.decode_of_published chosen header wellFormed valid (eq_ok_of_toOption hclaims)
  obtain ⟨found, hfound⟩ : ∃ found, Validator.asymmetric presentation keys = .ok found := by
    cases hjudged : Validator.checked presentation ⟨.rs256, some "a", claims⟩ with
    | ok found => exact ⟨found, bind_eq_ok.mpr ⟨_, decoded, hjudged⟩⟩
    | error error =>
      rw [hjudged] at hchecked
      cases hchecked
  have settles : Validator.Settles presentation (.ok keys) := by
    rintro _ kid ⟨⟩ h
    cases hfound.symm.trans h
  have given : isBlank presentation.token = false := by
    have hdot : ".".toList.all isWhite = false := by decide
    have htoken : presentation.token = signed ++ "." ++ Base64Url.encodeText signature := rfl
    rw [htoken, isBlank, String.toList_append, String.toList_append, List.all_append,
      List.all_append, hdot, Bool.and_false, Bool.false_and]
  have ended : ((opened documents).run events).1.callers[1]? =
      some (.finished (.validated (.ok found))) := by
    have hover : (inquiry.caller.poll before.clock before.documents before.caches).caller =
        .done (.validated (Validator.verdict presentation (.ok keys))) :=
      Validator.poll_assert_of_cached given rfl fresh there done settles _ Reply.validated
    have hverdict : Validator.verdict presentation (.ok keys) = .ok found :=
      bind_eq_ok.mpr ⟨keys, rfl, hfound⟩
    have hlength : before.callers.length = 1 := by
      rw [hbefore]
      exact length_callers_run documents first
    have hlast := finished_run_start hover
    rw [hverdict, hlength] at hlast
    have hevents : events = first ++ [.start inquiry.caller, .poll 1] := rfl
    rw [hevents, run_append, ← hbefore]
    exact hlast
  have inquires : ∀ event ∈ events, event.Inquires := by
    simp [events, Event.Inquires]
  obtain ⟨token, hdecided, hvouches⟩ := acceptance inquires rfl ended (Or.inl ⟨found, rfl⟩)
  exact ⟨found, token, ended, hdecided, hvouches⟩

end RelyingParty
