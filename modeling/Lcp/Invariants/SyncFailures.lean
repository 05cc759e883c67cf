/-
# Invariants.SyncFailures -- what a meta sync raises, and what a dry run knows of it

A dry run reads and counts, and sends nothing.  The real run on the same rows counts the same
as long as it returns: it raises where the client raises anything but its own errors, and
where an INSERT meets the key of another tenant's row, which the tenant's SELECT does not
show (`dryRun_predicts_iff`).

In one schema, the same two things decide whether a fileset that cannot be read stops the
others (`reconcileSchema_isolates_iff`): all rows of a schema share the commit at its end.
-/
import Lcp.Services.MetaSyncPasses

namespace Lcp

open Theory Gravitino

set_option autoImplicit false

/-! ## Dry runs -/

namespace MetaSyncService

variable {sync : Sync} {schema : String} {db : Database} {names : List String}

/-- The dry run changes nothing, and the real run after it returns what the dry run counted. -/
def Predicts (sync : Sync) (db : Database) : Prop :=
  (reconcileAll sync true (.begin db)).2.committed = db ∧
    ∃ predicted result,
      (reconcileAll sync true (.begin db)).1 = .ok predicted ∧
      (reconcileAll sync false (.begin db)).1 = .ok result ∧
      (result.filesetsDiscovered, result.datasetsCreated, result.datasetsUpdated,
          result.errors) =
        (predicted.filesetsDiscovered, predicted.datasetsCreated, predicted.datasetsUpdated,
          predicted.errors)

/-- Nothing of the catalog is answered by an exception that escapes, and every fileset that is
served can be read from these rows. -/
def Sync.Syncable (sync : Sync) (db : Database) : Prop :=
  (∀ e, sync.client.listSchemas ≠ .error (.other e)) ∧
    ∀ schemas, sync.client.listSchemas = .ok schemas → ∀ schema ∈ schemas,
      sync.Readable schema db

/-- **When a dry run predicts the real one.**  With distinct names and fresh ids, the dry run
changes nothing and the real run then returns the same counts and errors, if and only if no
exception escapes the client and every fileset that is served has one row of the tenant or a
key that no tenant's row has, and the database takes the row. -/
theorem dryRun_predicts_iff (sees : sync.caller.sees sync.tenantId = true)
    (fresh : sync.Fresh db)
    (distinct : ∀ schemas, sync.client.listSchemas = .ok schemas → schemas.Nodup)
    (distinctNames : ∀ schema names, sync.client.listFilesets schema = .ok names →
      names.Nodup) :
    Predicts sync db ↔ sync.Syncable db := by
  have real := reconcileAll_concludes sync false (rested_begin db)
  have dry := reconcileAll_concludes sync true (rested_begin db)
  refine Iff.trans ?_ (syncAll_ok_iff sees fresh distinct)
  constructor
  · rintro ⟨-, predicted, result, -, returned, -⟩
    cases sent : syncAll sync false db with
    | ok outcome => exact ⟨outcome, rfl⟩
    | error e =>
        rw [sent] at real
        obtain ⟨e', raised⟩ := real
        rw [returned] at raised
        cases raised
  · rintro ⟨⟨after, total⟩, sent⟩
    have counted : syncAll sync true db = .ok (db, total) := by
      unfold syncAll at sent ⊢
      cases listed : sync.client.listSchemas with
      | error e =>
          rw [listed] at sent
          cases e with
          | other e' => cases sent
          | disabled =>
              obtain ⟨-, rfl⟩ := Prod.mk.inj (Except.ok.inj sent)
              rfl
          | api statusCode detail =>
              obtain ⟨-, rfl⟩ := Prod.mk.inj (Except.ok.inj sent)
              rfl
      | ok schemas =>
          rw [listed] at sent
          exact syncSchemas_predicts sees sent (distinct schemas listed) distinctNames
            fun _ _ _ => rfl
    rw [sent] at real
    rw [counted] at dry
    exact ⟨dry.2.1, total, total, dry.1, real.1, rfl⟩

end MetaSyncService

/-! ## Filesets that cannot be read -/

/-- The same catalog, with these filesets of a schema listed. -/
def Gravitino.GravitinoClient.listing (client : GravitinoClient) (schema : String)
    (names : List String) : GravitinoClient :=
  { client with
    filesets := fun asked =>
      if asked = schema then .response 200 "" (.ok ⟨some (names.map some)⟩)
      else client.filesets asked }

namespace MetaSyncService

variable {sync : Sync} {schema : String} {db after : Database} {names : List String}
variable {result total : MetaSyncResult}

theorem listFilesets_listing {client : GravitinoClient} (enabled : client.enabled = true)
    (names : List String) :
    (client.listing schema names).listFilesets schema = .ok names := by
  simp [GravitinoClient.listFilesets, GravitinoClient.listing, request, checkResponse, enabled,
    Listing.names]

theorem enabled_of_listed {client : GravitinoClient}
    (listed : client.listFilesets schema = .ok names) : client.enabled = true := by
  cases enabled : client.enabled with
  | true => rfl
  | false =>
      unfold GravitinoClient.listFilesets request at listed
      rw [enabled] at listed
      cases answer : client.filesets schema <;> simp [answer] at listed

/-- The rows after a step do not depend on the counters before it. -/
theorem rows_syncFileset {dryRun : Bool} {name : String} {fileset : Fileset}
    (stepped : syncFileset sync dryRun schema name fileset db result = .ok (after, total))
    (other : MetaSyncResult) :
    ∃ counted, syncFileset sync dryRun schema name fileset db other = .ok (after, counted) := by
  unfold syncFileset at stepped ⊢
  split at stepped
  · cases stepped
  · obtain ⟨next, written, same⟩ := map_eq_ok stepped
    obtain ⟨rfl, -⟩ := Prod.mk.inj same
    exact ⟨_, congrArg (Except.map _) written⟩
  · split at stepped
    · rename_i changed
      obtain ⟨next, written, same⟩ := map_eq_ok stepped
      obtain ⟨rfl, -⟩ := Prod.mk.inj same
      exact ⟨_, (if_pos changed).trans (congrArg (Except.map _) written)⟩
    · rename_i unchanged
      obtain ⟨rfl, -⟩ := Prod.mk.inj (Except.ok.inj stepped)
      exact ⟨other, if_neg unchanged⟩

/-- A pass writes the rows that a pass over the served filesets alone writes. -/
theorem Reads.served_only (reads : Reads sync schema names db result after total)
    (others : List String) (other : MetaSyncResult) :
    ∃ counted, syncNames { sync with client := sync.client.listing schema others } false schema
      (names.filter fun name => (sync.entry schema name).isNone) db other =
        .ok (after, counted) := by
  induction reads generalizing other with
  | nil => exact ⟨other, rfl⟩
  | @skip head rest statusCode detail db after result total failed later ih =>
      have left : (sync.entry schema head).isNone = false := by simp [Sync.entry, failed]
      rw [List.filter_cons, left]
      exact ih other
  | @read head rest fileset db next after result result' total got stepped later ih =>
      have left : (sync.entry schema head).isNone = true := by simp [Sync.entry, got]
      obtain ⟨between, again⟩ := rows_syncFileset stepped other
      obtain ⟨counted, ran⟩ := ih between
      refine ⟨counted, ?_⟩
      rw [List.filter_cons, left, if_pos rfl]
      unfold syncNames
      have got' : ({ sync with client := sync.client.listing schema others } :
          Sync).client.getFileset schema head = .ok fileset := got
      have again' : syncFileset { sync with client := sync.client.listing schema others } false
          schema head fileset db other = .ok (next, between) := again
      rw [got']
      simp only [again', Except.bind]
      exact ran

/-- The pass returns with one entry for each fileset that could not be read, and commits what a
pass over the others alone commits. -/
def Isolates (sync : Sync) (schema : String) (names : List String) (db : Database) : Prop :=
  ∃ result session,
    reconcileSchema sync false schema (.begin db) = (.ok result, session) ∧
    result.errors = names.filterMap (sync.entry schema) ∧
    ∃ result' session',
      reconcileSchema
          { sync with
            client := sync.client.listing schema
              (names.filter fun name => (sync.entry schema name).isNone) } false schema
          (.begin db) = (.ok result', session') ∧
      session'.committed = session.committed

/-- **When one bad fileset does not stop the others.**  A pass over a schema returns with one
entry for each fileset that could not be read and commits what a pass over the others commits,
if and only if every one of them failed with a `GravitinoAPIError` and each of the others has
one row of the tenant or a key that no tenant's row has, and the database takes the row. -/
theorem reconcileSchema_isolates_iff (sees : sync.caller.sees sync.tenantId = true)
    (fresh : sync.Fresh db) (listed : sync.client.listFilesets schema = .ok names) :
    Isolates sync schema names db ↔
      ∀ name ∈ names, sync.Served schema name ∧
        ∀ fileset, sync.client.getFileset schema name = .ok fileset →
          sync.Accepts schema name fileset db := by
  have realized := reconcileSchema_realizes sync false schema (rested_begin db)
  constructor
  · rintro ⟨result, session, ran, -⟩
    cases sent : syncSchema sync false schema db with
    | ok outcome =>
        exact ((syncSchema_ok_iff sees fresh).1 ⟨outcome, sent⟩).2 names listed
    | error e =>
        rw [sent, ran] at realized
        obtain ⟨⟨e', raised⟩, -⟩ := realized
        cases raised
  · intro accepted
    obtain ⟨⟨after, total⟩, read⟩ :=
      exists_syncNames { filesetsDiscovered := names.length } sees fresh accepted
    have sent : syncSchema sync false schema db = .ok (after, total) := by
      unfold syncSchema
      rw [listed]
      exact read
    have reads := reads_of_syncNames read
    obtain ⟨counted, alone⟩ := reads.served_only
      (names.filter fun name => (sync.entry schema name).isNone)
      { filesetsDiscovered := (names.filter fun name => (sync.entry schema name).isNone).length }
    have sentAlone : syncSchema
        { sync with
          client := sync.client.listing schema
            (names.filter fun name => (sync.entry schema name).isNone) } false schema db =
          .ok (after, counted) := by
      unfold syncSchema
      rw [listFilesets_listing (enabled_of_listed listed)]
      exact alone
    have realizedAlone := reconcileSchema_realizes
      { sync with
        client := sync.client.listing schema
          (names.filter fun name => (sync.entry schema name).isNone) } false schema
      (rested_begin db)
    rw [sent] at realized
    rw [sentAlone] at realizedAlone
    obtain ⟨returned, committed, -⟩ := realized
    obtain ⟨returnedAlone, committedAlone, -⟩ := realizedAlone
    refine ⟨total, _, Prod.ext returned rfl, ?_, counted, _, Prod.ext returnedAlone rfl,
      committedAlone.trans committed.symm⟩
    rw [reads.errors sees, List.nil_append]

section Examples

/-- A catalog of one schema with two filesets. -/
private def library (docs logs : Answer FilesetDocument) : GravitinoClient :=
  { enabled := true
    catalog := "lance"
    schemas := .response 200 "" (.ok ⟨some [some "public"]⟩)
    filesets := fun _ => .response 200 "" (.ok ⟨some [some "docs", some "logs"]⟩)
    fileset := fun _ name => if name = "docs" then docs else logs }

private def served (location : String) : Answer FilesetDocument :=
  .response 200 "" (.ok ⟨some location, none⟩)

/-- An id that spells the schema and the name. -/
private def spelled (schema name : String) : String :=
  String.ofList (List.replicate schema.length 'a' ++ 'b' :: (schema.toList ++ name.toList))

private theorem spelled_injective {schema name schema' name' : String}
    (same : spelled schema name = spelled schema' name') : schema = schema' ∧ name = name' := by
  have lists := congrArg String.toList same
  simp only [spelled, String.toList_ofList] at lists
  have count : ∀ (n : Nat) (rest : List Char),
      ((List.replicate n 'a' ++ 'b' :: rest).takeWhile (· = 'a')).length = n := by
    intro n rest
    induction n with
    | zero => simp
    | succ n ih => simpa only [List.replicate_succ, List.cons_append, List.takeWhile_cons,
        decide_true, if_true, List.length_cons, Nat.add_right_cancel_iff] using ih
  have lengths : schema.length = schema'.length := by
    rw [← count schema.length, lists, count]
  rw [lengths] at lists
  have tails := (List.cons.inj (List.append_cancel_left lists)).2
  obtain ⟨schemas, names⟩ :=
    List.append_inj tails (by simpa only [String.length_toList] using lengths)
  exact ⟨String.toList_inj.1 schemas, String.toList_inj.1 names⟩

private def acmeSync (docs logs : Answer FilesetDocument) : Sync :=
  { caller := { tenantId := "acme", subject := "sync", authMethod := .oidc }
    tenantId := "acme"
    client := library docs logs
    newUuid := spelled
    refuses := fun _ => false }

private theorem fresh_acmeSync (docs logs : Answer FilesetDocument) :
    (acmeSync docs logs).Fresh {} :=
  ⟨fun _ _ _ => List.not_mem_nil, fun _ _ _ _ same => spelled_injective same⟩

private theorem accepts_acmeSync {docs logs : Answer FilesetDocument} {schema name : String}
    {fileset : Fileset} : (acmeSync docs logs).Accepts schema name fileset {} :=
  ⟨List.not_mem_nil, rfl⟩

private theorem readable_acmeSync {schema : String} :
    (acmeSync (served "s3://docs") (served "s3://logs")).Readable schema {} := by
  refine ⟨(fun e same => by cases same), fun names listed name member => ⟨fun e failed => ?_,
    fun fileset got => accepts_acmeSync⟩⟩
  obtain rfl : names = ["docs", "logs"] := (Except.ok.inj listed).symm
  simp only [List.mem_cons, List.not_mem_nil, or_false] at member
  rcases member with rfl | rfl
  · cases failed
  · cases failed

/-- Both filesets are new. -/
theorem dryRun_predicts_iff_new :
    Predicts (acmeSync (served "s3://docs") (served "s3://logs")) {} :=
  (dryRun_predicts_iff rfl (fresh_acmeSync _ _)
    (fun schemas listed => by
      obtain rfl : schemas = ["public"] := (Except.ok.inj listed).symm
      decide)
    (fun schema names listed => by
      obtain rfl : names = ["docs", "logs"] := (Except.ok.inj listed).symm
      decide)).2
    ⟨(fun e same => by cases same), fun _ _ _ _ => readable_acmeSync⟩

/-- Another tenant has registered the table: the dry run counts a row to create, and the real
run raises. -/
theorem dryRun_misses_foreign_row :
    ∃ db, (DatasetService.createDataset
          (some { tenantId := "globex", subject := "sdk", authMethod := .oidc }) "d1"
          { catalog := "lance", dbSchema := "public", tableName := "docs"
            storageUri := "s3://globex" } {}).map Prod.snd = .ok db ∧
      (reconcileAll (acmeSync (served "s3://docs") (served "s3://logs")) true (.begin db)).1 =
        .ok { schemasScanned := 1, filesetsDiscovered := 2, datasetsCreated := 2 } ∧
      (reconcileAll (acmeSync (served "s3://docs") (served "s3://logs")) false (.begin db)).1 =
        .error .integrity :=
  ⟨_, rfl, rfl, rfl⟩

/-- A fileset that is gone is skipped. -/
theorem reconcileSchema_isolates_iff_gone :
    Isolates (acmeSync (.response 404 "gone" (.error ⟨"JSONDecodeError", "no body"⟩))
      (served "s3://logs")) "public" ["docs", "logs"] {} :=
  (reconcileSchema_isolates_iff rfl (fresh_acmeSync _ _) rfl).2 fun name member => by
    have listed : name ∈ ["docs", "logs"] := member
    refine ⟨fun e failed => ?_, fun fileset got => accepts_acmeSync⟩
    simp only [List.mem_cons, List.not_mem_nil, or_false] at listed
    rcases listed with rfl | rfl
    · exact ⟨404, "gone", (Except.error.inj failed).symm⟩
    · cases failed

/-- A timeout on the second fileset takes the first one with it. -/
theorem timeout_stops_sync :
    (reconcileSchema (acmeSync (served "s3://docs") (.raised ⟨"ReadTimeout", "timed out"⟩)) false
        "public" (.begin {})).1 =
        .error (.client (.other ⟨"ReadTimeout", "timed out"⟩)) ∧
      (reconcileSchema (acmeSync (served "s3://docs") (.raised ⟨"ReadTimeout", "timed out"⟩)) false
        "public" (.begin {})).2.committed.dataset.rows = [] ∧
      ¬ Isolates (acmeSync (served "s3://docs") (.raised ⟨"ReadTimeout", "timed out"⟩)) "public"
        ["docs", "logs"] {} := by
  refine ⟨rfl, rfl, ?_⟩
  rintro ⟨result, session, ran, -⟩
  cases congrArg Prod.fst ran

end Examples

end MetaSyncService

end Lcp
