/-
# Invariants.CatalogConvergence -- what the rows are after a meta sync

Gravitino owns the storage location and the comment of a fileset.  A new row takes both.  An
existing row takes each only where Gravitino's value is not empty, so a value that was
cleared upstream stays in the row: `reconcileSchema_converges_iff` says when a pass brings
the rows to agree with the catalog.

`reconcileAll_idempotent` -- whatever a pass leaves, the next one finds nothing to do.
-/
import Lcp.Services.MetaSyncPasses

namespace Lcp.MetaSyncService

open Theory Gravitino

set_option autoImplicit false

variable {sync : Sync} {schema : String} {db : Database} {names : List String}
variable {result : MetaSyncResult} {session : Session} {fileset : Fileset}

/-! ## Rows against their filesets -/

theorem agrees_row {name : String} : fileset.Agrees (sync.row schema name fileset) := ⟨rfl, rfl⟩

/-- The assignments reach the source of truth unless it was cleared. -/
theorem agrees_assign_iff {existing : Dataset} :
    fileset.Agrees (existing.assign fileset) ↔
      (fileset.storageLocation = "" → existing.storageUri = "") ∧
        (fileset.comment.getD "" = "" → existing.description = fileset.comment) := by
  have storage : (existing.assign fileset).storageUri = fileset.storageLocation ↔
      (fileset.storageLocation = "" → existing.storageUri = "") := by
    by_cases empty : fileset.storageLocation = ""
    · simp [Dataset.assign, Dataset.storageDiverged, empty]
    · by_cases same : existing.storageUri = fileset.storageLocation
      · simp [Dataset.assign, Dataset.storageDiverged, empty, same]
      · simp [Dataset.assign, Dataset.storageDiverged, empty, same]
  have comment : (existing.assign fileset).description = fileset.comment ↔
      (fileset.comment.getD "" = "" → existing.description = fileset.comment) := by
    by_cases empty : fileset.comment.getD "" = ""
    · simp [Dataset.assign, Dataset.commentDiverged, empty]
    · by_cases same : existing.description = fileset.comment
      · simp [Dataset.assign, Dataset.commentDiverged, empty, same]
      · simp [Dataset.assign, Dataset.commentDiverged, empty, same]
  exact and_congr storage comment

/-- The rows that no listed fileset concerns. -/
def Sync.unlisted (sync : Sync) (schema : String) (names : List String) (dataset : Dataset) :
    Bool :=
  names.all fun name => !sync.owns schema name dataset

/-- Every listed fileset has one row of the tenant, which its patch would not change, and the
other rows are as they were. -/
def Converged (sync : Sync) (schema : String) (names : List String) (db after : Database) :
    Prop :=
  (∀ name ∈ names, ∃ fileset dataset, sync.client.getFileset schema name = .ok fileset ∧
    sync.held schema name after = [dataset] ∧ fileset.Agrees dataset) ∧
    after.dataset.rows.filter (sync.unlisted schema names) =
      db.dataset.rows.filter (sync.unlisted schema names) ∧
    after = { db with dataset := after.dataset }

/-- No value that a row still has was cleared in Gravitino. -/
def Sync.Uncleared (sync : Sync) (schema : String) (names : List String) (db : Database) : Prop :=
  ∀ name ∈ names, ∀ fileset, sync.client.getFileset schema name = .ok fileset →
    ∀ existing ∈ sync.held schema name db,
      (fileset.storageLocation = "" → existing.storageUri = "") ∧
        (fileset.comment.getD "" = "" → existing.description = fileset.comment)

/-- A pass without errors has read every listed fileset. -/
theorem Reads.served {after : Database} {total : MetaSyncResult}
    (sees : sync.caller.sees sync.tenantId = true)
    (reads : Reads sync schema names db { filesetsDiscovered := names.length } after total)
    (clean : total.errors = []) {name : String} (member : name ∈ names) :
    ∃ fileset, sync.client.getFileset schema name = .ok fileset := by
  have entries := (reads.errors sees).symm.trans clean
  rw [List.nil_append, List.filterMap_eq_nil_iff] at entries
  have silent := entries name member
  unfold Sync.entry at silent
  split at silent
  · cases silent
  · exact ⟨_, by assumption⟩

/-- The one row of a fileset that was read agrees with it unless a value was cleared. -/
theorem Reads.agrees_iff {after : Database} {result total : MetaSyncResult}
    (sees : sync.caller.sees sync.tenantId = true)
    (reads : Reads sync schema names db result after total) {name : String}
    (member : name ∈ names) {fileset : Fileset}
    (got : sync.client.getFileset schema name = .ok fileset) :
    (∃ dataset, sync.held schema name after = [dataset] ∧ fileset.Agrees dataset) ↔
      ∀ existing ∈ sync.held schema name db,
        (fileset.storageLocation = "" → existing.storageUri = "") ∧
          (fileset.comment.getD "" = "" → existing.description = fileset.comment) := by
  have accepts := (reads.accepted sees name member).2 fileset got
  have held := reads.held sees member got
  unfold Sync.Accepts at accepts
  cases found : sync.held schema name db with
  | nil =>
      rw [found] at held
      refine iff_of_true ⟨_, held, agrees_row⟩ fun existing member => ?_
      cases member
  | cons existing rest =>
      rw [found] at held accepts
      cases rest with
      | cons second rest => exact accepts.elim
      | nil =>
          simp only [List.mem_singleton, forall_eq, ← agrees_assign_iff]
          constructor
          · rintro ⟨dataset, same, agrees⟩
            obtain rfl := (List.cons.inj (held.symm.trans same)).1
            exact agrees
          · intro agrees
            exact ⟨_, held, agrees⟩

/-- A pass without errors converges if and only if nothing was cleared. -/
theorem Reads.converged_iff {after : Database} {total : MetaSyncResult}
    (sees : sync.caller.sees sync.tenantId = true)
    (reads : Reads sync schema names db { filesetsDiscovered := names.length } after total)
    (clean : total.errors = []) :
    Converged sync schema names db after ↔ sync.Uncleared schema names db := by
  constructor
  · rintro ⟨rows, -⟩ name member fileset got
    obtain ⟨fileset', dataset, got', held, agrees⟩ := rows name member
    obtain rfl := Except.ok.inj (got'.symm.trans got)
    exact (reads.agrees_iff sees member got).1 ⟨dataset, held, agrees⟩
  · intro uncleared
    refine ⟨fun name member => ?_, ?_, reads.tables sees⟩
    · obtain ⟨fileset, got⟩ := reads.served sees clean member
      obtain ⟨dataset, held, agrees⟩ :=
        (reads.agrees_iff sees member got).2 (uncleared name member fileset got)
      exact ⟨fileset, dataset, got, held, agrees⟩
    · refine reads.filter sees fun name member dataset owned => ?_
      refine Bool.eq_false_iff.2 fun unlisted => ?_
      have apart := List.all_eq_true.1 unlisted name member
      rw [owned] at apart
      cases apart

/-- **When a meta sync converges.**  A pass over a schema that returns without errors leaves one
row of the tenant for each listed fileset, with its location and its comment, and no other row
changed, if and only if every existing row has, where Gravitino's location is empty, an empty
one, and where its comment is empty or absent, that comment. -/
theorem reconcileSchema_converges_iff (sees : sync.caller.sees sync.tenantId = true)
    (listed : sync.client.listFilesets schema = .ok names)
    (ran : reconcileSchema sync false schema (.begin db) = (.ok result, session))
    (clean : result.errors = []) :
    Converged sync schema names db session.committed ↔ sync.Uncleared schema names db := by
  have realized := reconcileSchema_realizes sync false schema (rested_begin db)
  rw [ran] at realized
  cases sent : syncSchema sync false schema db with
  | error e =>
      rw [sent] at realized
      obtain ⟨⟨e', raised⟩, -⟩ := realized
      cases raised
  | ok outcome =>
      obtain ⟨after, total⟩ := outcome
      rw [sent] at realized
      obtain ⟨returned, committed, -⟩ := realized
      obtain rfl : result = total := Except.ok.inj returned
      obtain rfl : session.committed = after := committed
      rcases syncSchema_cases sent with ⟨-, e, failed, -⟩ | ⟨names', listed', reads⟩
      · rw [failed] at listed
        cases listed
      · obtain rfl := Except.ok.inj (listed.symm.trans listed')
        exact reads.converged_iff sees clean

/-- **A meta sync is idempotent.**  When a pass over the catalog returned, a pass that follows
with the same client, dry or not and whatever ids it would draw, creates and updates nothing
and leaves the rows as they are. -/
theorem reconcileAll_idempotent {first : MetaSyncResult}
    (sees : sync.caller.sees sync.tenantId = true)
    (ran : reconcileAll sync false (.begin db) = (.ok first, session))
    (newUuid : String → String → String) (refuses : Dataset → Bool) (dryRun : Bool) :
    ∃ second last,
      reconcileAll { sync with newUuid, refuses } dryRun (.begin session.committed) =
        (.ok second, last) ∧
      second.datasetsCreated = 0 ∧ second.datasetsUpdated = 0 ∧
      last.committed = session.committed := by
  have concluded := reconcileAll_concludes sync false (rested_begin db)
  rw [ran] at concluded
  have again := reconcileAll_concludes { sync with newUuid, refuses } dryRun
    (rested_begin session.committed)
  suffices quiet : ∃ counted,
      syncAll { sync with newUuid, refuses } dryRun session.committed =
        .ok (session.committed, counted) ∧
      counted.datasetsCreated = 0 ∧ counted.datasetsUpdated = 0 by
    obtain ⟨counted, sent, created, updated⟩ := quiet
    rw [sent] at again
    obtain ⟨returned, committed, -⟩ := again
    exact ⟨counted, _, Prod.ext returned rfl, created, updated, committed⟩
  cases sent : syncAll sync false db with
  | error e =>
      rw [sent] at concluded
      obtain ⟨e', raised⟩ := concluded
      cases raised
  | ok outcome =>
      obtain ⟨after, total⟩ := outcome
      rw [sent] at concluded
      obtain ⟨-, committed, -⟩ := concluded
      obtain rfl : session.committed = after := committed
      unfold syncAll at sent ⊢
      cases listed : sync.client.listSchemas with
      | error e =>
          simp only [listed] at sent ⊢
          cases e with
          | other e' => cases sent
          | disabled => exact ⟨_, rfl, rfl, rfl⟩
          | api statusCode detail => exact ⟨_, rfl, rfl, rfl⟩
      | ok schemas =>
          simp only [listed] at sent ⊢
          have answered := served_of_syncSchemas sees sent
          obtain ⟨counted, ran, created, updated⟩ :=
            syncSchemas_calm { sync with newUuid, refuses } dryRun
              { schemasScanned := schemas.length } sees answered
              fun schema member names listed' =>
                calm_of_syncSchemas sees sent listed' (.inl member)
          exact ⟨counted, ran, created, updated⟩

section Examples

/-- A catalog with one fileset of one schema. -/
private def catalogOf (fileset : FilesetDocument) : GravitinoClient :=
  { enabled := true
    catalog := "lance"
    schemas := .response 200 "" (.ok ⟨some [some "public"]⟩)
    filesets := fun _ => .response 200 "" (.ok ⟨some [some "docs"]⟩)
    fileset := fun _ _ => .response 200 "" (.ok fileset) }

private def syncOf (fileset : FilesetDocument) : Sync :=
  { caller := { tenantId := "acme", subject := "sync", authMethod := .oidc }
    tenantId := "acme"
    client := catalogOf fileset
    newUuid := fun schema name => schema ++ "/" ++ name
    refuses := fun _ => false }

/-- The row of the fileset, as an earlier pass left it. -/
private def described : Database :=
  { dataset := .single
      { datasetUuid := "d1", catalog := "lance", dbSchema := "public", tableName := "docs"
        storageUri := "s3://old", tenantId := "acme", description := some "old" } }

private theorem moved_ran :
    reconcileSchema (syncOf ⟨some "s3://new", some "new"⟩) false "public" (.begin described) =
      (.ok { filesetsDiscovered := 1, datasetsUpdated := 1 },
        (reconcileSchema (syncOf ⟨some "s3://new", some "new"⟩) false "public"
          (.begin described)).2) := Prod.ext rfl rfl

/-- A new location reaches the row. -/
theorem reconcileSchema_converges_iff_moved :
    Converged (syncOf ⟨some "s3://new", some "new"⟩) "public" ["docs"] described
      (reconcileSchema (syncOf ⟨some "s3://new", some "new"⟩) false "public"
        (.begin described)).2.committed :=
  (reconcileSchema_converges_iff rfl rfl moved_ran rfl).2 (by
    intro name member fileset got existing held
    obtain rfl := List.mem_singleton.1 member
    obtain rfl : fileset = ⟨"s3://new", some "new"⟩ := (Except.ok.inj got).symm
    exact ⟨fun empty => absurd empty (by decide), fun empty => absurd empty (by decide)⟩)

/-- A comment that was cleared upstream stays in the row. -/
theorem cleared_comment_stays :
    (reconcileSchema (syncOf ⟨some "s3://new", none⟩) false "public" (.begin described)).1 =
        .ok { filesetsDiscovered := 1, datasetsUpdated := 1 } ∧
      ((reconcileSchema (syncOf ⟨some "s3://new", none⟩) false "public"
        (.begin described)).2.committed.dataset.rows.map (·.description)) = [some "old"] ∧
      ¬ Converged (syncOf ⟨some "s3://new", none⟩) "public" ["docs"] described
        (reconcileSchema (syncOf ⟨some "s3://new", none⟩) false "public"
          (.begin described)).2.committed := by
  refine ⟨rfl, rfl, fun converged => ?_⟩
  obtain ⟨fileset, dataset, got, held, agrees⟩ := converged.1 "docs" List.mem_cons_self
  obtain rfl : fileset = ⟨"s3://new", none⟩ := (Except.ok.inj got).symm
  have kept : (Sync.held (syncOf ⟨some "s3://new", none⟩) "public" "docs"
      (reconcileSchema (syncOf ⟨some "s3://new", none⟩) false "public"
        (.begin described)).2.committed).map (·.description) = [some "old"] := by
    decide +kernel
  rw [held] at kept
  have same : dataset.description = some "old" := (List.cons.inj kept).1
  rw [agrees.2] at same
  cases same

private theorem created_ran :
    reconcileAll (syncOf ⟨some "s3://new", some ""⟩) false (.begin {}) =
      (.ok { schemasScanned := 1, filesetsDiscovered := 1, datasetsCreated := 1 },
        (reconcileAll (syncOf ⟨some "s3://new", some ""⟩) false (.begin {})).2) :=
  Prod.ext rfl rfl

/-- The pass after the one that created the row. -/
theorem reconcileAll_idempotent_created :
    ∃ second last,
      reconcileAll { syncOf ⟨some "s3://new", some ""⟩ with
          newUuid := fun _ _ => "d2", refuses := fun _ => false } false
        (.begin (reconcileAll (syncOf ⟨some "s3://new", some ""⟩) false (.begin {})).2.committed) =
          (.ok second, last) ∧
      second.datasetsCreated = 0 ∧ second.datasetsUpdated = 0 ∧
      last.committed =
        (reconcileAll (syncOf ⟨some "s3://new", some ""⟩) false (.begin {})).2.committed :=
  reconcileAll_idempotent rfl created_ran _ _ _

end Examples

end Lcp.MetaSyncService
