/-
# Invariants.KeyScoping -- when `<tenant_id>:<key>` keeps tenants apart

`submit_task` puts the tenant id in front of a client's key and escapes neither.
A tenant id is any nonempty text (`Security.extractable_iff`), so it may have a
colon, and then the key of one tenant can be spelled by another one: by the tenant
whose id is the part before the colon.

The UNIQUE column does not know about tenants, the look-ups of `submit_task` do.
So a tenant whose key is spelled by somebody else can neither insert its task nor
see the row in its way, and its submission raises.

`scoping_iff` says which sets of tenants cannot do that to each other: those in
which no id is another one, a colon, and what a client key has room for.
-/
import Mathlib.Data.Set.Defs
import Lcp.Core.Security
import Lcp.Services.TaskService
import Lcp.Theory.KeyText
import Lcp.Theory.Machine

namespace Lcp.KeyScoping

open Theory TaskService

set_option autoImplicit false

/-! ## Keys -/

/-- The key that `submit_task` stores for a request. -/
def storedKey (principal : TenantPrincipal) (request : TaskSubmitRequest) : Option String :=
  scopedKey principal (routerSubmission request).idempotencyKey

/-- No key of the one tenant is a key of the other. -/
def KeysApart (tenantId other : String) : Prop :=
  ∀ (p q : TenantPrincipal) (r s : TaskSubmitRequest), p.tenantId = tenantId → q.tenantId = other →
    r.idempotencyKey.isSome → storedKey p r ≠ storedKey q s

/-- `inner` is `outer`, a colon, and a text that leaves a client key room for a colon. -/
def Nested (outer inner : String) : Prop :=
  ∃ rest : String, rest.length < 128 ∧ inner = outer ++ ":" ++ rest

/-- No id is nested in another. -/
def Separate (tenants : Set String) : Prop :=
  ∀ outer ∈ tenants, ∀ inner ∈ tenants, ¬ Nested outer inner

/-- A request under a client key. -/
def keyed (key : String) (fits : key.length ≤ 128) : TaskSubmitRequest :=
  { TaskSubmitRequest.compaction with
    idempotencyKey := some key
    idempotencyKey_length := by simpa using fits }

theorem storedKey_eq_some {principal : TenantPrincipal} {request : TaskSubmitRequest}
    {stored : String} : storedKey principal request = some stored ↔
      ∃ key, request.idempotencyKey = some key ∧ principal.tenantId ++ ":" ++ key = stored := by
  simp [storedKey, scopedKey, routerSubmission]

theorem Nested.ne {outer inner : String} (nested : Nested outer inner) : outer ≠ inner := by
  rintro rfl
  obtain ⟨rest, -, longer⟩ := nested
  have lengths := congrArg String.length longer
  have colon : (":" : String).length = 1 := by decide
  simp only [String.length_append, colon] at lengths
  omega

/-- The outer tenant can spell a key of the inner one. -/
theorem Nested.shared {outer inner : String} (nested : Nested outer inner) :
    ∃ key : String, key.length ≤ 128 ∧ outer ++ ":" ++ key = inner ++ ":" ++ "" := by
  obtain ⟨rest, short, rfl⟩ := nested
  refine ⟨rest ++ ":", ?_, ?_⟩
  · have colon : (":" : String).length = 1 := by decide
    rw [String.length_append, colon]
    omega
  · simp [String.append_assoc]

/-- Two tenants with one stored key: one of them is nested in the other. -/
theorem nested_of_shared {t u k l : String} (distinct : t ≠ u) (fitsK : k.length ≤ 128)
    (fitsL : l.length ≤ 128) (same : t ++ ":" ++ k = u ++ ":" ++ l) :
    Nested t u ∨ Nested u t := by
  have chars : t.toList ++ ':' :: k.toList = u.toList ++ ':' :: l.toList := by
    have := congrArg String.toList same
    simpa using this
  have rejoin : ∀ {a b : String} {rest : List Char}, b.toList = a.toList ++ ':' :: rest →
      b = a ++ ":" ++ String.ofList rest := by
    intro a b rest apart
    apply String.toList_inj.1
    simpa using apart
  have room : ∀ {rest tail : List Char} {key : String}, key.length ≤ 128 →
      key.toList = rest ++ ':' :: tail → (String.ofList rest).length < 128 := by
    intro rest tail key fits apart
    have total := congrArg List.length apart
    simp only [String.length_toList, List.length_append, List.length_cons] at total
    rw [String.length_ofList]
    omega
  obtain ⟨tenants, -⟩ | ⟨rest, longer, key⟩ | ⟨rest, longer, key⟩ :=
    KeyText.append_cons_eq_cases chars
  · exact absurd (String.toList_inj.1 tenants) distinct
  · exact .inl ⟨String.ofList rest, room fitsK key, rejoin longer⟩
  · exact .inr ⟨String.ofList rest, room fitsL key, rejoin longer⟩

/-- Scoping keeps two tenants apart unless one is nested in the other. -/
theorem keysApart_iff {t u : String} (distinct : t ≠ u) :
    KeysApart t u ↔ ¬ Nested t u ∧ ¬ Nested u t := by
  constructor
  · intro apart
    have spelled : ∀ {a b : String}, Nested a b → ∃ r s : TaskSubmitRequest,
        r.idempotencyKey.isSome ∧ s.idempotencyKey.isSome ∧
          ∀ p q : TenantPrincipal, p.tenantId = a → q.tenantId = b →
            storedKey p r = storedKey q s := by
      intro a b nested
      obtain ⟨key, fits, same⟩ := nested.shared
      refine ⟨keyed key fits, keyed "" (by decide), rfl, rfl, ?_⟩
      rintro p q rfl rfl
      exact congrArg some same
    refine ⟨fun nested => ?_, fun nested => ?_⟩
    · obtain ⟨r, s, some_, -, same⟩ := spelled nested
      exact apart ⟨t, "", .oidc, false⟩ ⟨u, "", .oidc, false⟩ r s rfl rfl some_ (same _ _ rfl rfl)
    · obtain ⟨r, s, -, some_, same⟩ := spelled nested
      exact apart ⟨t, "", .oidc, false⟩ ⟨u, "", .oidc, false⟩ s r rfl rfl some_
        (same _ _ rfl rfl).symm
  · rintro ⟨notInner, notOuter⟩ p q r s rfl rfl some_ same
    obtain ⟨k, isK⟩ := Option.isSome_iff_exists.1 some_
    have stored : storedKey p r = some (p.tenantId ++ ":" ++ k) :=
      storedKey_eq_some.2 ⟨k, isK, rfl⟩
    obtain ⟨l, isL, spelled⟩ := storedKey_eq_some.1 (same.symm.trans stored)
    have fitsK := r.idempotencyKey_length k isK
    have fitsL := s.idempotencyKey_length l isL
    rcases nested_of_shared distinct fitsK fitsL spelled.symm with inner | outer
    · exact notInner inner
    · exact notOuter outer

/-! ## Submissions -/

/-- A call of `POST /v1/tasks`, with the `uuid4` and the time it draws. -/
structure Submit where
  principal : TenantPrincipal
  request : TaskSubmitRequest
  taskUuid : String
  now : DateTime

namespace Submit

/-- The caller is one of the tenants. -/
structure By (tenants : Set String) (s : Submit) : Prop where
  isSystem : s.principal.isSystem = false
  tenant : s.principal.tenantId ∈ tenants

/-- What the submission answers, and the rows after it. -/
def answer (s : Submit) (db : Database) : Except TaskError ((Task × Bool) × Database) :=
  submitTask (some s.principal) s.now s.taskUuid (routerSubmission s.request) db

end Submit

/-- Submissions one after the other; one that raises leaves the rows alone.  A `uuid4` is not
drawn twice. -/
def submissions : Machine Database Submit where
  step db s :=
    if s.taskUuid ∈ db.task.keys then none
    else
      match s.answer db with
      | .ok (_, after) => some after
      | .error _ => some db

/-- Every submission returns a task of its own tenant, under the key it asked for. -/
def Own (tenants : Set String) (db : Database) : Prop :=
  ∀ s : Submit, s.By tenants → s.taskUuid ∉ db.task.keys →
    ∃ task created after, s.answer db = .ok ((task, created), after) ∧
      task.tenantId = s.principal.tenantId ∧ task.idempotencyKey = storedKey s.principal s.request

/-- The rows under a key are scoped ones of the tenants. -/
def Scoped (tenants : Set String) (db : Database) : Prop :=
  ∀ task ∈ db.task.rows, ∀ stored, task.idempotencyKey = some stored →
    task.tenantId ∈ tenants ∧
      ∃ key : String, key.length ≤ 128 ∧ stored = task.tenantId ++ ":" ++ key

theorem own_of_scoped {tenants : Set String} {db : Database} (separate : Separate tenants)
    (rows : Scoped tenants db) : Own tenants db := by
  intro s caller fresh
  unfold Submit.answer submitTask
  simp only
  cases existing : (scopedKey s.principal (routerSubmission s.request).idempotencyKey).bind
      fun key => findByKey s.principal key db with
  | some task =>
      obtain ⟨key, stored, found⟩ := Option.bind_eq_some_iff.1 existing
      have holds := List.find?_some found
      simp only [TenantPrincipal.sees, caller.isSystem, Bool.false_or, Bool.and_eq_true,
        decide_eq_true_eq] at holds
      exact ⟨task, false, db, rfl, holds.1, holds.2.trans stored.symm⟩
  | none =>
      have unrefused : ¬ (((routerSubmission s.request).row s.principal s.taskUuid
          s.now).idempotencyKey.isSome ∧ ((routerSubmission s.request).row s.principal s.taskUuid
          s.now).idempotencyKey ∈ db.task.rows.map Task.idempotencyKey) := by
        rintro ⟨some_, listed⟩
        obtain ⟨stored, isStored⟩ := Option.isSome_iff_exists.1 some_
        obtain ⟨task, member, same⟩ := List.mem_map.1 listed
        obtain ⟨known, key, fits, spelled⟩ := rows task member stored (same.trans isStored)
        obtain ⟨own, isOwn, ownSpelled⟩ := storedKey_eq_some.1 isStored
        have ownFits := s.request.idempotencyKey_length own isOwn
        have sameTenant : task.tenantId = s.principal.tenantId := by
          by_contra distinct
          rcases nested_of_shared distinct fits ownFits (spelled.symm.trans ownSpelled.symm) with
            inner | outer
          · exact separate _ known _ caller.tenant inner
          · exact separate _ caller.tenant _ known outer
        have visible : (findByKey s.principal stored db).isSome = true := by
          rw [findByKey, List.find?_isSome]
          exact ⟨task, member, by simp [TenantPrincipal.sees, sameTenant, same.trans isStored]⟩
        have key_ : scopedKey s.principal (routerSubmission s.request).idempotencyKey =
            some stored := isStored
        rw [key_, Option.bind_some] at existing
        rw [existing] at visible
        cases visible
      obtain ⟨table, inserted⟩ := Table.exists_insert?
        (r := (routerSubmission s.request).row s.principal s.taskUuid s.now) fresh
      refine ⟨(routerSubmission s.request).row s.principal s.taskUuid s.now, true,
        { db with task := table }, ?_, rfl, rfl⟩
      simp only [insertTask, if_neg unrefused, inserted, Option.map_some]

theorem scoped_step {tenants : Set String} {db after : Database} {s : Submit}
    (rows : Scoped tenants db) (caller : s.By tenants)
    (stepped : submissions.step db s = some after) : Scoped tenants after := by
  simp only [submissions] at stepped
  split at stepped
  · cases stepped
  · split at stepped
    · rename_i answer after_ answered
      obtain rfl := Option.some.inj stepped
      obtain ⟨caller_, is, ⟨-, rfl, -⟩ | ⟨-, -, inserted⟩⟩ := submitTask_cases answered
      · exact rows
      · obtain rfl := Option.some.inj is
        obtain ⟨table, added, rfl, -⟩ := insertTask_eq_some inserted
        intro task member stored isStored
        rcases (Table.mem_insert? added).1 member with old | rfl
        · exact rows task old stored isStored
        · obtain ⟨key, isKey, spelled⟩ := storedKey_eq_some.1 isStored
          exact ⟨caller.tenant, key, s.request.idempotencyKey_length key isKey, spelled.symm⟩
    · obtain rfl := Option.some.inj stepped
      exact rows

/-- A nested tenant that submitted first keeps the outer one from its key. -/
theorem raises_of_nested {outer inner : String} (nested : Nested outer inner) :
    ∃ (first second : Submit) (db : Database), first.principal.isSystem = false ∧
      first.principal.tenantId = inner ∧ second.principal.isSystem = false ∧
      second.principal.tenantId = outer ∧ submissions.step {} first = some db ∧
      second.taskUuid ∉ db.task.keys ∧ second.answer db = .error .integrity := by
  obtain ⟨key, fits, same⟩ := nested.shared
  refine ⟨⟨⟨inner, "", .oidc, false⟩, keyed "" (by decide), "u1", 0⟩,
    ⟨⟨outer, "", .oidc, false⟩, keyed key fits, "u2", 0⟩, _, rfl, rfl, rfl, rfl, rfl, ?_, ?_⟩
  · show "u2" ∉ ["u1"]
    decide
  · have differ : ¬ inner = outer := Ne.symm nested.ne
    simp [Submit.answer, submitTask, scopedKey, routerSubmission, keyed, findByKey, insertTask,
      TenantPrincipal.sees, Submission.row, same, differ]

/-! ## The condition -/

/-- **Scoping keeps tenants apart exactly when no id is nested in another.**  Then, and only
then, do the stored keys of different tenants differ, and does every submission of every
history return a task of its own tenant. -/
theorem scoping_iff (tenants : Set String) :
    ((∀ t ∈ tenants, ∀ u ∈ tenants, t ≠ u → KeysApart t u) ↔ Separate tenants) ∧
      ((∀ (db : Database) (history : List Submit), db.task = .empty →
          (∀ s ∈ history, s.By tenants) → submissions.Always (Own tenants) db history) ↔
        Separate tenants) := by
  refine ⟨⟨fun apart outer isOuter inner isInner nested => ?_, fun separate t isT u isU distinct =>
    (keysApart_iff distinct).2 ⟨separate t isT u isU, separate u isU t isT⟩⟩,
    fun own outer isOuter inner isInner nested => ?_, fun separate db history empty callers => ?_⟩
  · have distinct := nested.ne
    exact ((keysApart_iff distinct).1 (apart outer isOuter inner isInner distinct)).1 nested
  · obtain ⟨first, second, db, notSystem, isFirst, alsoNot, isSecond, stepped, fresh, raised⟩ :=
      raises_of_nested nested
    have always := own {} [first] rfl fun s member => by
      obtain rfl := List.mem_singleton.1 member
      exact ⟨notSystem, isFirst ▸ isInner⟩
    obtain ⟨held, -⟩ := always.2 db stepped
    obtain ⟨task, created, after, returned, -⟩ := held second ⟨alsoNot, isSecond ▸ isOuter⟩ fresh
    rw [raised] at returned
    cases returned
  · have start : Scoped tenants db := by
      intro task member
      rw [empty] at member
      cases member
    have guarded : submissions.Guarded (fun _ s => s.By tenants) db history :=
      Machine.guarded_of_labels callers db
    have always : submissions.Always (Scoped tenants) db history :=
      Machine.always_of_inv (fun _ _ _ rows caller stepped => scoped_step rows caller stepped)
        start guarded
    exact always.mono fun _ rows => own_of_scoped separate rows

section Examples

/-- A submission by a client of a tenant. -/
def submit (tenantId key : String) (fits : key.length ≤ 128) (taskUuid : String) : Submit :=
  ⟨{ tenantId, subject := "sdk", authMethod := .oidc }, keyed key fits, taskUuid, 0⟩

/-- Two ids that tokens carry, one nested in the other: their keys collide, and the submission
of the outer tenant raises. -/
theorem tenants_collide :
    Security.extractTenantFromClaims [("tenant_id", .str "acme")] = .ok "acme" ∧
      Security.extractTenantFromClaims [("tenant_id", .str "acme:eu")] = .ok "acme:eu" ∧
      ¬ KeysApart "acme" "acme:eu" ∧
      ∃ db, submissions.step {} (submit "acme:eu" "nightly" (by decide) "u1") = some db ∧
        (submit "acme" "eu:nightly" (by decide) "u2").answer db = .error .integrity := by
  refine ⟨by decide, by decide, fun apart => ?_, _, rfl, ?_⟩
  · exact apart ⟨"acme", "", .oidc, false⟩ ⟨"acme:eu", "", .oidc, false⟩
      (keyed "eu:nightly" (by decide)) (keyed "nightly" (by decide)) rfl rfl rfl (by decide)
  · rfl

end Examples

end Lcp.KeyScoping
