/-
# Security.Replay -- a token id is accepted once, when its calls do not overlap

A validation asks the denylist for its `jti` and then records it, in two awaited calls.
As long as nobody asks for a `jti` between another validation's question and the end of
its record, at most one validation returns claims with it; every other one raises
`AuthenticationError`.  Two that ask before either has recorded are both accepted.
-/
import Lcp.Security.OidcTokens

namespace Lcp.Replay

open Theory Calls Security OidcTokens
open Jwks (Raised)

set_option autoImplicit false

/-- At most one validation of a `jti` is accepted, and a refusal is an
`AuthenticationError`. -/
structure Once (w : World) : Prop where
  accepted : ∀ (i k : Nat) (claims others : JsonDict) (jti : Json),
    w.calls[i]? = some (.returned claims) → w.calls[k]? = some (.returned others) →
    Json.get? claims "jti" = some jti → Json.get? others "jti" = some jti → i = k
  refused : ∀ (i : Nat) (exc : Raised), w.calls[i]? = some (.raised exc) →
    ∃ e, exc = .authentication e

/-! ## The condition -/

/-- The `jti` that a validation is about to ask for. -/
def asks : Validation → Option String
  | .checking _ jti => some jti
  | _ => none

/-- The `jti` that a validation is about to record. -/
def denies : Validation → Option String
  | .denying _ jti _ => some jti
  | _ => none

/-- A `jti` is not asked for while a validation is recording it. -/
def Ordered (w : World) : Action → Prop
  | .isDenied i =>
      ∀ jti ∈ w.calls[i]?.bind asks, ∀ call ∈ w.calls, denies call ≠ some jti
  | .validate _ | .jwks .. | .deny _ => True

instance decidableOrdered (w : World) : (a : Action) → Decidable (Ordered w a)
  | .isDenied i => inferInstanceAs
      (Decidable (∀ jti ∈ w.calls[i]?.bind asks, ∀ call ∈ w.calls, denies call ≠ some jti))
  | .validate _ | .jwks .. | .deny _ => isTrue trivial

section Condition

variable {Key : Type} (ctx : Context Key)

/-- A `jti` among the claims of the token is a nonempty string. -/
def CarriesText (token : String) : Prop :=
  ∀ now key claims jti, ctx.decode now token key (decodeOptions ctx) = .ok claims →
    Json.get? claims "jti" = some jti → ∃ text, text ≠ "" ∧ jti = .str text

/-- No listed JWK makes PyJWT raise a class that `validate_oidc_jwt` does not catch. -/
def Loads (cache : Jwks.JwksCache) : Prop :=
  ∀ entry ∈ cache.keysByKid, ∀ escaping, ctx.signingKey entry.2 ≠ .error (.other escaping)

/-- Tokens with a textual `jti`, and a provider whose failures `_get_jwks` catches and whose keys
load. -/
def Admissible : Action → Prop
  | .validate token => CarriesText ctx token
  | .jwks _ _ (.error exc) => ∃ e, exc = .authentication e
  | .jwks _ _ (.ok cache) => Loads ctx cache
  | .isDenied _ | .deny _ => True

end Condition

/-! ## The invariant -/

/-- The `jti` that a validation has found unused. -/
def spends : Validation → Option String
  | .denying _ jti _ => some jti
  | .returned claims => presentedJti claims
  | _ => none

section Steps

variable {Key : Type} {ctx : Context Key} {w t : World} {a : Action}

variable (ctx) in
/-- What a validation has behind it. -/
def Settled (w : World) : Validation → Prop
  | .fetching token _ _ => CarriesText ctx token
  | .checking claims jti => presentedJti claims = some jti ∧ ∃ exp, expiry claims = .ok exp
  | .denying claims jti _ => presentedJti claims = some jti
  | .returned claims => ∀ jti, Json.get? claims "jti" = some jti →
      ∃ text, jti = .str text ∧ presentedJti claims = some text ∧ w.isDenied text = true
  | .raised exc => ∃ e, exc = .authentication e

theorem presentedJti_eq_some {claims : JsonDict} {jti : String} :
    presentedJti claims = some jti ↔ Json.get? claims "jti" = some (.str jti) ∧ jti ≠ "" := by
  unfold presentedJti
  split
  · rename_i text found
    split
    · rename_i some_
      simp only [found, Option.some.injEq, Json.str.injEq]
      constructor
      · rintro rfl
        exact ⟨rfl, some_⟩
      · exact fun is => is.1
    · rename_i empty
      simp only [found, reduceCtorEq, Option.some.injEq, Json.str.injEq, false_iff]
      rintro ⟨rfl, some_⟩
      exact empty some_
  · rename_i other
    simp only [reduceCtorEq, false_iff]
    rintro ⟨found, -⟩
    exact other jti found

theorem onlyAuthentication_readHeader {token : String}
    (malformed : ∀ exc, ctx.getUnverifiedHeader token = .error exc →
      ∃ message, exc = .pyJwtError message) :
    OnlyAuthentication (readHeader ctx token) := by
  refine OnlyAuthentication.bind ?_ fun header => OnlyAuthentication.bind ?_ fun _ => ?_
  · unfold unverifiedHeader
    split
    · exact .ok _
    · exact .refused _
    · rename_i exc escaping raised
      obtain ⟨message, rfl⟩ := malformed _ raised
      exact absurd rfl (escaping message)
  · unfold checkAlgorithm
    dsimp only
    split
    · exact .ok _
    · exact .refused _
  · unfold headerKid
    split
    · split
      · exact .ok _
      · exact .refused _
    · exact .refused _

theorem onlyAuthentication_claimsUnder {now : Rat} {token : String} {jwk : JsonDict}
    (loads : ∀ exc, ctx.signingKey jwk ≠ .error (.other exc))
    (invalid : ∀ key exc, ctx.decode now token key (decodeOptions ctx) = .error exc →
      ∃ message, exc = .pyJwtError message) :
    OnlyAuthentication (claimsUnder ctx now token jwk) := by
  refine OnlyAuthentication.bind ?_ fun key => ?_
  · unfold loadSigningKey
    split
    · exact .ok _
    · exact .refused _
    · exact .refused _
    · exact .refused _
    · rename_i exc notPyJwt notKey notValue raised
      cases exc with
      | pyJwtError message => exact absurd rfl (notPyJwt message)
      | keyError message => exact absurd rfl (notKey message)
      | valueError message => exact absurd rfl (notValue message)
      | other escaping => exact absurd raised (loads escaping)
  · unfold decodeClaims
    split
    · exact .ok _
    · exact .refused _
    · rename_i exc escaping raised
      obtain ⟨message, rfl⟩ := invalid key _ raised
      exact absurd rfl (escaping message)

/-- What a validation knows of claims that it has decoded. -/
theorem of_claimsUnder (documented : Documented ctx) {now : Rat} {token : String} {jwk : JsonDict}
    {claims : JsonDict} (texts : CarriesText ctx token)
    (decoded : claimsUnder ctx now token jwk = .ok claims) :
    (∃ exp, expiry claims = .ok exp) ∧ ∀ jti, Json.get? claims "jti" = some jti →
      ∃ text, text ≠ "" ∧ jti = .str text := by
  obtain ⟨key, -, decoded⟩ := bind_eq_ok decoded
  unfold decodeClaims at decoded
  split at decoded
  · rename_i found
    obtain rfl := Except.ok.inj decoded
    exact ⟨documented.exp now token key _ _ found (by simp [decodeOptions]),
      fun jti presented => texts now key _ jti found presented⟩
  · cases decoded
  · cases decoded

theorem settled_start (documented : Documented ctx) {token : String}
    (texts : CarriesText ctx token) : Settled ctx w (start ctx token) := by
  unfold start
  split
  · exact texts
  · rename_i exc raised
    exact onlyAuthentication_readHeader (documented.header token) exc raised

theorem settled_decoded (documented : Documented ctx) {now : Rat} {token : String}
    {jwk : JsonDict} (texts : CarriesText ctx token)
    (loads : ∀ escaping, ctx.signingKey jwk ≠ .error (.other escaping)) :
    Settled ctx w (decoded ctx now token jwk) := by
  unfold decoded
  split
  · rename_i exc raised
    exact onlyAuthentication_claimsUnder loads
      (fun key => documented.decode now token key _) exc raised
  · rename_i claims found
    obtain ⟨exp, presented⟩ := of_claimsUnder documented texts found
    split
    · rename_i jti is
      exact ⟨is, exp⟩
    · rename_i absent
      intro jti carried
      obtain ⟨text, some_, rfl⟩ := presented jti carried
      rw [presentedJti_eq_some.2 ⟨carried, some_⟩] at absent
      cases absent

theorem settled_withJwks (documented : Documented ctx) {now : Rat} {token kid : String}
    {forceRefresh : Bool} {answer : Except Raised Jwks.JwksCache}
    (texts : CarriesText ctx token) (only : OnlyAuthentication answer)
    (loads : ∀ cache, answer = .ok cache → Loads ctx cache) :
    Settled ctx w (withJwks ctx now token kid forceRefresh answer) := by
  unfold withJwks
  split
  · rename_i exc
    exact only exc rfl
  · rename_i cache
    split
    · rename_i jwk found
      have listed : (kid, jwk) ∈ cache.keysByKid := by
        obtain ⟨before, after, split_, -⟩ := List.lookup_eq_some_iff.1 found
        simp [split_]
      exact settled_decoded documented texts (loads cache rfl _ listed)
    · split
      · exact ⟨_, rfl⟩
      · exact texts

theorem settled_checked {claims : JsonDict} {jti : String} {denied : Bool}
    (settled : Settled ctx w (.checking claims jti)) :
    Settled ctx w (checked claims jti denied) := by
  obtain ⟨presented, exp, is⟩ := settled
  unfold checked
  rw [is]
  split
  · exact ⟨_, rfl⟩
  · exact presented

theorem Settled.mono (denied : ∀ jti, w.isDenied jti = true → t.isDenied jti = true)
    {call : Validation} (settled : Settled ctx w call) : Settled ctx t call := by
  cases call with
  | returned claims =>
      intro jti carried
      obtain ⟨text, is, presented, before⟩ := settled jti carried
      exact ⟨text, is, presented, denied text before⟩
  | _ => exact settled

/-! ## The steps -/

theorem spends_start (token : String) : spends (start ctx token) = none := by
  unfold start
  split <;> rfl

/-- Until the denylist has been asked, no `jti` has been found unused. -/
theorem spends_withJwks (now : Rat) (token kid : String) (forceRefresh : Bool)
    (answer : Except Raised Jwks.JwksCache) :
    spends (withJwks ctx now token kid forceRefresh answer) = none := by
  unfold withJwks
  split
  · rfl
  · split
    · unfold decoded
      split
      · rfl
      · split
        · rfl
        · rename_i absent
          exact absent
    · split <;> rfl

theorem spends_checked {claims : JsonDict} {jti spent : String} {denied : Bool}
    (spends_ : spends (checked claims jti denied) = some spent) :
    spent = jti ∧ denied = false := by
  unfold checked at spends_
  split at spends_
  · cases spends_
  · rename_i unused
    split at spends_
    · exact ⟨(Option.some.inj spends_).symm, by simpa using unused⟩
    · cases spends_

variable (ctx) in
/-- The invariant of the runs that meet the condition. -/
structure Tracked (w : World) : Prop where
  settled : ∀ call ∈ w.calls, Settled ctx w call
  single : OnePerKey spends w.calls

/-- A `jti` that is neither denied nor being recorded has been found unused by nobody. -/
theorem Tracked.unspent (tracked : Tracked ctx w) {jti : String}
    (unused : w.isDenied jti = false) (nobody : ∀ call ∈ w.calls, denies call ≠ some jti) :
    ∀ call ∈ w.calls, spends call ≠ some jti := by
  intro call listed
  cases call with
  | denying claims other exp => exact nobody _ listed
  | returned claims =>
      intro presented
      obtain ⟨text, is, -, denied⟩ :=
        tracked.settled _ listed _ (presentedJti_eq_some.1 presented).1
      obtain rfl := Json.str.inj is
      rw [unused] at denied
      cases denied
  | _ => exact nofun

theorem tracked_effect (documented : Documented ctx) (tracked : Tracked ctx w)
    (admissible : Admissible ctx a) (ordered : Ordered w a) (effect : Effect ctx w a t) :
    Tracked ctx t := by
  cases effect with
  | started =>
      exact ⟨forall_joined tracked.settled (settled_start documented admissible),
        tracked.single.joined (spends_start _)⟩
  | @answered i now token kid forceRefresh answer here =>
      have texts : CarriesText ctx token := tracked.settled _ (List.mem_of_getElem? here)
      have only : OnlyAuthentication answer := by
        rintro exc rfl
        exact admissible
      have loads : ∀ cache, answer = .ok cache → Loads ctx cache := by
        rintro cache rfl
        exact admissible
      refine ⟨forall_moved tracked.settled (settled_withJwks documented texts only loads),
        tracked.single.moved here fun jti taken => ?_⟩
      rw [spends_withJwks] at taken
      cases taken
  | @asked i claims jti here =>
      have settled := tracked.settled _ (List.mem_of_getElem? here)
      refine ⟨forall_moved tracked.settled (settled_checked settled),
        tracked.single.moved here fun spent taken => .inr ?_⟩
      obtain ⟨rfl, unused⟩ := spends_checked taken
      exact tracked.unspent unused (ordered spent (by rw [here]; rfl))
  | @recorded i claims jti exp here =>
      have presented : presentedJti claims = some jti :=
        tracked.settled _ (List.mem_of_getElem? here)
      refine ⟨forall_moved (fun call listed => (tracked.settled call listed).mono ?_) ?_,
        tracked.single.moved here fun spent taken => .inl (presented.symm.trans taken)⟩
      · intro other denied
        simp only [World.isDenied, List.any_cons, Bool.or_eq_true]
        exact .inr denied
      · intro carried is
        rw [(presentedJti_eq_some.1 presented).1] at is
        obtain rfl := Option.some.inj is
        exact ⟨jti, rfl, presented, by simp [World.isDenied]⟩

theorem Tracked.once (tracked : Tracked ctx w) : Once w where
  accepted i k claims others jti here there carried carried_too := by
    obtain ⟨text, rfl, presented, -⟩ := tracked.settled _ (List.mem_of_getElem? here) jti carried
    obtain ⟨same, is, presented_too, -⟩ :=
      tracked.settled _ (List.mem_of_getElem? there) _ carried_too
    obtain rfl := Json.str.inj is
    exact tracked.single i k _ _ text here there presented presented_too
  refused i exc here := tracked.settled _ (List.mem_of_getElem? here)

end Steps

/-! ## Replay -/

/-- **A `jti` is accepted at most once**, in every run that does not ask for one while it
is being recorded. -/
theorem accepted_once {Key : Type} {ctx : Context Key} (documented : Documented ctx)
    (actions : List Action) (admissible : ∀ a ∈ actions, Admissible ctx a)
    (ordered : (validations ctx).Guarded Ordered {} actions) :
    (validations ctx).Always Once {} actions := by
  have start : Tracked ctx {} := ⟨nofun, .nil⟩
  have guarded : (validations ctx).Guarded (fun w a => Admissible ctx a ∧ Ordered w a) {} actions :=
    (Machine.guarded_of_labels admissible _).and ordered
  refine (Machine.always_of_inv ?_ start guarded).mono fun w tracked => tracked.once
  intro w a t tracked ok stepped
  exact tracked_effect documented tracked ok.1 ok.2 (effect_of_step stepped)

/-! ### Two presentations of one token -/

private def served : Jwks.JwksCache := ⟨[("2026-01", signing)], 0, .list [.dict signing]⟩

private theorem accepting_carriesText (token : String) : CarriesText accepting token := by
  intro now key claims jti decoded carried
  simp only [accepting] at decoded
  split at decoded
  · cases decoded
  · rename_i found
    split at decoded
    · cases decoded
    · split at decoded
      · cases decoded
      · obtain rfl := Except.ok.inj decoded
        obtain ⟨tenantId, text, rfl, some_⟩ := of_lookup_issued found
        exact ⟨text, some_, (Option.some.inj carried).symm⟩

private theorem accepting_admissible {actions : List Action}
    (answers : ∀ a ∈ actions, match a with | .jwks _ _ answer => answer = .ok served | _ => True) :
    ∀ a ∈ actions, Admissible accepting a := by
  intro a listed
  cases a with
  | validate token => exact accepting_carriesText token
  | jwks i now answer =>
      obtain rfl : answer = .ok served := answers _ listed
      exact fun entry _ exc => accepting_signingKey entry.2 exc
  | isDenied | deny => trivial

private def oneAfterTheOther : List Action :=
  [.validate acmeToken, .jwks 0 presentedAt (.ok served), .isDenied 0, .deny 0,
    .validate acmeToken, .jwks 1 presentedAt (.ok served), .isDenied 1]

private theorem oneAfterTheOther_admissible : ∀ a ∈ oneAfterTheOther, Admissible accepting a :=
  accepting_admissible (by simp [oneAfterTheOther])

/-- The second presentation of the token asks when the first has been recorded. -/
theorem second_presentation_refused :
    (validations accepting).Guarded Ordered {} oneAfterTheOther ∧
      (validations accepting).Always Once {} oneAfterTheOther :=
  have ordered : (validations accepting).Guarded Ordered {} oneAfterTheOther := by decide +kernel
  ⟨ordered, accepted_once accepting_documented oneAfterTheOther oneAfterTheOther_admissible
    ordered⟩

private def overlapping : List Action :=
  [.validate acmeToken, .validate acmeToken, .jwks 0 presentedAt (.ok served),
    .jwks 1 presentedAt (.ok served), .isDenied 0, .isDenied 1, .deny 0, .deny 1]

/-- Both presentations ask before either is recorded. -/
theorem overlapping_presentations_accepted :
    (∀ a ∈ overlapping, Admissible accepting a) ∧
      ¬ (validations accepting).Always Once {} overlapping := by
  refine ⟨accepting_admissible (by simp [overlapping]), ?_⟩
  have ends : ((validations accepting).run {} overlapping).map World.calls =
      some [.returned (claimed "acme" "unique-token-id"),
        .returned (claimed "acme" "unique-token-id")] := by decide +kernel
  obtain ⟨t, ran, calls⟩ := Option.map_eq_some_iff.1 ends
  refine Machine.not_always_of_run ran fun once => ?_
  have same := once.accepted 0 1 _ _ (.str "unique-token-id")
    (by rw [calls]; rfl) (by rw [calls]; rfl) rfl rfl
  cases same

end Lcp.Replay
