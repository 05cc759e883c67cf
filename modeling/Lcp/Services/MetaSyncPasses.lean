/-
# Services.MetaSyncPasses -- what a pass of the meta sync does to the rows

A fileset concerns the rows that `owns` its key for the tenant, `held`.  A step settles them
and leaves every other row alone, so a pass settles the rows of each fileset it reads from
what they were at its start, in whatever order it reads them.

* `held_syncNames`, `filter_syncNames` -- the two halves of that.
* `syncNames_ok_iff` -- when a pass returns: what `Accepts` says of the rows at its start.
* `syncNames_predicts` -- a dry run counts what the real one does.
-/
import Lcp.Services.MetaSyncService

namespace Lcp

open Theory Gravitino

set_option autoImplicit false

namespace Dataset

variable {fileset : Fileset} {dataset : Dataset}

/-- The columns of `uk_catalog_schema_table`. -/
def qualifiedName (dataset : Dataset) : String × String × String :=
  (dataset.catalog, dataset.dbSchema, dataset.tableName)

@[simp] theorem qualifiedName_assign :
    (dataset.assign fileset).qualifiedName = dataset.qualifiedName := rfl

@[simp] theorem tenantId_assign : (dataset.assign fileset).tenantId = dataset.tenantId := rfl

/-- A row that was assigned does not diverge. -/
theorem diverged_assign : (dataset.assign fileset).diverged fileset = false := by
  have storage : (dataset.assign fileset).storageDiverged fileset = false := by
    by_cases location : fileset.storageLocation = ""
    · simp [storageDiverged, location]
    · by_cases same : dataset.storageUri = fileset.storageLocation
      · simp [storageDiverged, assign, same]
      · simp [storageDiverged, assign, location, same]
  have comment : (dataset.assign fileset).commentDiverged fileset = false := by
    by_cases empty : fileset.comment.getD "" = ""
    · simp [commentDiverged, empty]
    · by_cases same : dataset.description = fileset.comment
      · simp [commentDiverged, assign, same]
      · simp [commentDiverged, assign, empty, same]
  rw [diverged, storage, comment]
  rfl

theorem assign_of_not_diverged (same : dataset.diverged fileset = false) :
    dataset.assign fileset = dataset := by
  rw [diverged, Bool.or_eq_false_iff] at same
  rw [assign, same.1, same.2]
  rfl

@[simp] theorem assign_assign :
    (dataset.assign fileset).assign fileset = dataset.assign fileset :=
  assign_of_not_diverged diverged_assign

end Dataset

namespace MetaSyncService

variable {sync : Sync} {schema name : String} {fileset : Fileset} {db after : Database}
variable {result total : MetaSyncResult}

/-! ## The rows of a fileset -/

/-- The tenant's rows with the key of a fileset. -/
def Sync.held (sync : Sync) (schema name : String) (db : Database) : List Dataset :=
  db.dataset.rows.filter (sync.owns schema name)

/-- No row of any tenant has the key. -/
def Sync.Free (sync : Sync) (schema name : String) (db : Database) : Prop :=
  (sync.client.catalog, schema, name) ∉ db.dataset.rows.map Dataset.qualifiedName

/-- The rows of a fileset after it was read. -/
def Sync.settle (sync : Sync) (schema name : String) (fileset : Fileset) :
    List Dataset → List Dataset
  | [] => [sync.row schema name fileset]
  | existing :: rest => (existing :: rest).map (Dataset.assign fileset)

theorem owns_iff {dataset : Dataset} : sync.owns schema name dataset = true ↔
    dataset.qualifiedName = (sync.client.catalog, schema, name) ∧
      dataset.tenantId = sync.tenantId := by
  simp only [Sync.owns, Dataset.qualifiedName, decide_eq_true_eq]

@[simp] theorem owns_assign {dataset : Dataset} :
    sync.owns schema name (dataset.assign fileset) = sync.owns schema name dataset := rfl

theorem owns_row : sync.owns schema name (sync.row schema name fileset) = true :=
  owns_iff.2 ⟨rfl, rfl⟩

/-- No row belongs to two filesets. -/
theorem owns_unique {schema' name' : String} {dataset : Dataset}
    (first : sync.owns schema name dataset = true)
    (second : sync.owns schema' name' dataset = true) : schema = schema' ∧ name = name' := by
  have same := (owns_iff.1 first).1.symm.trans (owns_iff.1 second).1
  exact ⟨congrArg (fun key => key.2.1) same, congrArg (fun key => key.2.2) same⟩

theorem row_settled : (sync.row schema name fileset).assign fileset =
    sync.row schema name fileset := by
  refine Dataset.assign_of_not_diverged ?_
  simp [Dataset.diverged, Dataset.storageDiverged, Dataset.commentDiverged, Sync.row]

theorem settle_settle (rows : List Dataset) :
    sync.settle schema name fileset (sync.settle schema name fileset rows) =
      sync.settle schema name fileset rows := by
  cases rows with
  | nil => simp [Sync.settle, row_settled]
  | cons existing rest => simp [Sync.settle]

theorem held_eq_nil_of_free (free : sync.Free schema name db) : sync.held schema name db = [] := by
  refine List.filter_eq_nil_iff.2 fun dataset member owned => free ?_
  exact (owns_iff.1 owned).1 ▸ List.mem_map_of_mem member

/-- A principal that sees the tenant sees all rows of a fileset. -/
theorem find_eq (sees : sync.caller.sees sync.tenantId = true) :
    sync.find schema name db = scalarOneOrNone (sync.held schema name db) := by
  have visible : (fun dataset : Dataset =>
      sync.caller.sees dataset.tenantId && sync.owns schema name dataset) =
        sync.owns schema name := by
    funext dataset
    cases owned : sync.owns schema name dataset with
    | false => rw [Bool.and_false]
    | true => rw [(owns_iff.1 owned).2, sees, Bool.and_true]
  rw [Sync.find, visible, Sync.held]

/-! ## One write -/

theorem insert_eq_ok {dataset : Dataset} (inserted : sync.insert dataset db = .ok after) :
    sync.refuses dataset = false ∧ dataset.qualifiedName ∉
        db.dataset.rows.map Dataset.qualifiedName ∧
      ∃ table, db.dataset.insert? dataset = some table ∧ after = { db with dataset := table } := by
  unfold Sync.insert at inserted
  split at inserted
  · cases inserted
  · rename_i taken
    refine ⟨by simpa using taken, ?_⟩
    cases stored : DatasetService.insertDataset dataset db with
    | none =>
        rw [stored] at inserted
        cases inserted
    | some next =>
        rw [stored] at inserted
        obtain rfl := Except.ok.inj inserted
        unfold DatasetService.insertDataset at stored
        split at stored
        · cases stored
        · rename_i free
          obtain ⟨table, added, rfl⟩ := Option.map_eq_some_iff.1 stored
          refine ⟨fun taken => free ?_, table, added, rfl⟩
          obtain ⟨other, member, same⟩ := List.mem_map.1 taken
          exact List.any_eq_true.2 ⟨other, member, decide_eq_true same⟩

theorem exists_insert {dataset : Dataset} (accepted : sync.refuses dataset = false)
    (free : dataset.qualifiedName ∉ db.dataset.rows.map Dataset.qualifiedName)
    (fresh : dataset.datasetUuid ∉ db.dataset.keys) :
    ∃ after, sync.insert dataset db = .ok after := by
  obtain ⟨table, added⟩ := Table.exists_insert? (T := db.dataset) (r := dataset) fresh
  have alone : ¬ (db.dataset.rows.any fun other =>
      (other.catalog, other.dbSchema, other.tableName) =
        (dataset.catalog, dataset.dbSchema, dataset.tableName)) = true := by
    intro taken
    obtain ⟨other, member, same⟩ := List.any_eq_true.1 taken
    exact free (List.mem_map.2 ⟨other, member, of_decide_eq_true same⟩)
  refine ⟨{ db with dataset := table }, ?_⟩
  rw [Sync.insert, accepted, if_neg Bool.false_ne_true, DatasetService.insertDataset,
    if_neg alone, added]
  rfl

/-! ## One fileset -/

/-- What a step leaves: the rows of the fileset settled, no other row touched, and the key and
the drawn id added where there was no row. -/
structure Settles (sync : Sync) (schema name : String) (fileset : Fileset)
    (db after : Database) : Prop where
  held : sync.held schema name after =
    sync.settle schema name fileset (sync.held schema name db)
  filter : ∀ p : Dataset → Bool, (∀ dataset, sync.owns schema name dataset = true →
    p dataset = false) → after.dataset.rows.filter p = db.dataset.rows.filter p
  keys : (sync.held schema name db ≠ [] ∧ after.dataset.keys = db.dataset.keys ∧
      after.dataset.rows.map Dataset.qualifiedName = db.dataset.rows.map Dataset.qualifiedName) ∨
    (sync.Free schema name db ∧
      after.dataset.keys = db.dataset.keys ++ [sync.newUuid schema name] ∧
      after.dataset.rows.map Dataset.qualifiedName =
        db.dataset.rows.map Dataset.qualifiedName ++ [(sync.client.catalog, schema, name)])
  tables : after = { db with dataset := after.dataset }

theorem settles_insert (inserted : sync.insert (sync.row schema name fileset) db = .ok after) :
    Settles sync schema name fileset db after := by
  obtain ⟨-, free, table, added, rfl⟩ := insert_eq_ok inserted
  obtain ⟨rows, -⟩ := Table.insert?_eq_some added
  have none_ : sync.held schema name db = [] := held_eq_nil_of_free free
  refine ⟨?_, fun p outside => ?_, .inr ⟨free, Table.keys_insert? added, ?_⟩, rfl⟩
  · have kept : db.dataset.rows.filter (sync.owns schema name) = [] := none_
    rw [none_, Sync.held, rows, List.filter_append, kept, List.filter_cons, owns_row]
    rfl
  · exact Table.filter_insert? added (outside _ owns_row)
  · rw [rows, List.map_append]
    rfl

theorem settles_update {existing : Dataset} (found : sync.held schema name db = [existing]) :
    Settles sync schema name fileset db
      { db with
        dataset := db.dataset.update existing.datasetUuid (Dataset.assign fileset)
          (Dataset.datasetUuid_assign fileset) } := by
  have member : existing ∈ sync.held schema name db := by
    rw [found]
    exact List.mem_singleton_self _
  obtain ⟨inTable, owned⟩ := List.mem_filter.1 member
  have only : ∀ dataset ∈ db.dataset.rows, dataset.datasetUuid = existing.datasetUuid →
      dataset = existing := fun dataset present same => Table.eq_of_key_eq present inTable same
  refine ⟨?_, fun p outside => ?_,
    .inl ⟨?_, Table.keys_update _ _ _ (Dataset.datasetUuid_assign fileset), ?_⟩, rfl⟩
  · have same : (sync.owns schema name ∘ fun dataset : Dataset =>
        if dataset.datasetUuid = existing.datasetUuid then dataset.assign fileset else dataset) =
          sync.owns schema name := by
      funext dataset
      simp only [Function.comp]
      split <;> rfl
    have rows : db.dataset.rows.filter (sync.owns schema name) = [existing] := found
    rw [found, Sync.held]
    simp only [Table.rows_update, List.filter_map, same, rows]
    simp [Sync.settle]
  · refine Table.filter_update (Dataset.datasetUuid_assign fileset) fun dataset present same => ?_
    rw [only dataset present same]
    exact ⟨outside _ owned, outside _ owned⟩
  · rw [found]
    exact List.cons_ne_nil _ _
  · simp only [Table.rows_update, List.map_map]
    refine List.map_congr_left fun dataset _ => ?_
    simp only [Function.comp]
    split <;> rfl

theorem settles_same {existing : Dataset} (found : sync.held schema name db = [existing])
    (same : existing.diverged fileset = false) : Settles sync schema name fileset db db := by
  refine ⟨?_, fun p _ => rfl, .inl ⟨?_, rfl, rfl⟩, rfl⟩
  · rw [found]
    simp [Sync.settle, Dataset.assign_of_not_diverged same]
  · rw [found]
    exact List.cons_ne_nil _ _

/-- When a fileset can be read from these rows. -/
def Sync.Accepts (sync : Sync) (schema name : String) (fileset : Fileset) (db : Database) : Prop :=
  match sync.held schema name db with
  | [] => sync.Free schema name db ∧ sync.refuses (sync.row schema name fileset) = false
  | [existing] =>
      existing.diverged fileset = true → sync.refuses (existing.assign fileset) = false
  | _ => False

/-- What a step comes to, by the rows of its fileset. -/
theorem syncFileset_cases {dryRun : Bool} (sees : sync.caller.sees sync.tenantId = true) :
    (sync.held schema name db = [] ∧
      syncFileset sync dryRun schema name fileset db result =
        (if dryRun then .ok db else sync.insert (sync.row schema name fileset) db).map
          fun after => (after, { result with datasetsCreated := result.datasetsCreated + 1 })) ∨
    (∃ existing, sync.held schema name db = [existing] ∧ existing.diverged fileset = true ∧
      syncFileset sync dryRun schema name fileset db result =
        (if dryRun then .ok db else sync.update fileset existing db).map
          fun after => (after, { result with datasetsUpdated := result.datasetsUpdated + 1 })) ∨
    (∃ existing, sync.held schema name db = [existing] ∧ existing.diverged fileset = false ∧
      syncFileset sync dryRun schema name fileset db result = .ok (db, result)) ∨
    ∃ first second rest, sync.held schema name db = first :: second :: rest ∧
      syncFileset sync dryRun schema name fileset db result = .error .multipleResults := by
  unfold syncFileset
  rw [find_eq sees]
  cases sync.held schema name db with
  | nil => exact .inl ⟨rfl, rfl⟩
  | cons existing rest =>
      cases rest with
      | cons second rest => exact .inr (.inr (.inr ⟨existing, second, rest, rfl, rfl⟩))
      | nil =>
          cases changed : existing.diverged fileset with
          | true => exact .inr (.inl ⟨existing, rfl, changed, if_pos changed⟩)
          | false =>
              exact .inr (.inr (.inl ⟨existing, rfl, changed, if_neg (by simp [changed])⟩))

/-- The counters after a fileset with these rows. -/
def tally (fileset : Fileset) : List Dataset → MetaSyncResult → MetaSyncResult
  | [], result => { result with datasetsCreated := result.datasetsCreated + 1 }
  | existing :: _, result =>
      if existing.diverged fileset then
        { result with datasetsUpdated := result.datasetsUpdated + 1 }
      else result

theorem errors_tally (rows : List Dataset) :
    (tally fileset rows result).errors = result.errors := by
  cases rows with
  | nil => rfl
  | cons existing rest =>
      rw [tally]
      split <;> rfl

theorem tally_of_syncFileset {dryRun : Bool} (sees : sync.caller.sees sync.tenantId = true)
    (ran : syncFileset sync dryRun schema name fileset db result = .ok (after, total)) :
    total = tally fileset (sync.held schema name db) result ∧
      (sync.held schema name db).length ≤ 1 := by
  rcases syncFileset_cases sees with ⟨found, stepped⟩ | ⟨existing, found, changed, stepped⟩ |
    ⟨existing, found, same, stepped⟩ | ⟨first, second, rest, found, stepped⟩
  · obtain ⟨_, -, same⟩ := map_eq_ok (stepped.symm.trans ran)
    rw [found]
    exact ⟨(Prod.mk.inj same).2.symm, Nat.zero_le 1⟩
  · obtain ⟨_, -, same⟩ := map_eq_ok (stepped.symm.trans ran)
    rw [found]
    exact ⟨(Prod.mk.inj same).2.symm.trans (if_pos changed).symm, Nat.le_refl 1⟩
  · rw [found]
    refine ⟨(Prod.mk.inj (Except.ok.inj (stepped.symm.trans ran))).2.symm.trans ?_, Nat.le_refl 1⟩
    exact (if_neg (by simp [same])).symm
  · cases stepped.symm.trans ran

/-- A dry step writes nothing and counts. -/
theorem syncFileset_dry (sees : sync.caller.sees sync.tenantId = true)
    (one : (sync.held schema name db).length ≤ 1) :
    syncFileset sync true schema name fileset db result =
      .ok (db, tally fileset (sync.held schema name db) result) := by
  rcases syncFileset_cases sees with ⟨found, stepped⟩ | ⟨existing, found, changed, stepped⟩ |
    ⟨existing, found, same, stepped⟩ | ⟨first, second, rest, found, stepped⟩
  · rw [stepped, found]
    rfl
  · rw [stepped, found, tally, if_pos changed]
    rfl
  · rw [stepped, found, tally, if_neg (by simp [same])]
  · rw [found] at one
    simp at one

/-- A step that is taken settles its rows. -/
theorem settles_of_syncFileset (sees : sync.caller.sees sync.tenantId = true)
    (ran : syncFileset sync false schema name fileset db result = .ok (after, total)) :
    Settles sync schema name fileset db after ∧ sync.Accepts schema name fileset db := by
  unfold Sync.Accepts
  rcases syncFileset_cases sees with ⟨found, stepped⟩ | ⟨existing, found, changed, stepped⟩ |
    ⟨existing, found, same, stepped⟩ | ⟨first, second, rest, found, stepped⟩
  · obtain ⟨next, inserted, same⟩ := map_eq_ok (stepped.symm.trans ran)
    obtain ⟨rfl, -⟩ := Prod.mk.inj same
    rw [if_neg Bool.false_ne_true] at inserted
    obtain ⟨accepted, free, -⟩ := insert_eq_ok inserted
    rw [found]
    exact ⟨settles_insert inserted, free, accepted⟩
  · obtain ⟨next, updated, same⟩ := map_eq_ok (stepped.symm.trans ran)
    obtain ⟨rfl, -⟩ := Prod.mk.inj same
    rw [if_neg Bool.false_ne_true, Sync.update] at updated
    rw [found]
    split at updated
    · cases updated
    · rename_i taken
      obtain rfl := Except.ok.inj updated
      exact ⟨settles_update found, fun _ => by simpa using taken⟩
  · obtain ⟨rfl, -⟩ := Prod.mk.inj (Except.ok.inj (stepped.symm.trans ran))
    rw [found]
    refine ⟨settles_same found same, fun changed => ?_⟩
    rw [same] at changed
    cases changed
  · cases stepped.symm.trans ran

/-- A drawn id is fresh where it would be inserted. -/
def Sync.Fresh (sync : Sync) (db : Database) : Prop :=
  (∀ schema name, sync.held schema name db = [] →
    sync.newUuid schema name ∉ db.dataset.keys) ∧
    ∀ schema name schema' name', sync.newUuid schema name = sync.newUuid schema' name' →
      schema = schema' ∧ name = name'

/-- What is accepted is taken. -/
theorem exists_syncFileset (result : MetaSyncResult) (sees : sync.caller.sees sync.tenantId = true)
    (accepts : sync.Accepts schema name fileset db) (fresh : sync.Fresh db) :
    ∃ outcome, syncFileset sync false schema name fileset db result = .ok outcome := by
  unfold Sync.Accepts at accepts
  rcases syncFileset_cases sees with ⟨found, stepped⟩ | ⟨existing, found, changed, stepped⟩ |
    ⟨existing, found, same, stepped⟩ | ⟨first, second, rest, found, stepped⟩
  · rw [found] at accepts
    obtain ⟨after, inserted⟩ := exists_insert accepts.2 accepts.1 (fresh.1 _ _ found)
    rw [stepped, if_neg Bool.false_ne_true, inserted]
    exact ⟨_, rfl⟩
  · rw [found] at accepts
    rw [stepped, if_neg Bool.false_ne_true, Sync.update, accepts changed,
      if_neg Bool.false_ne_true]
    exact ⟨_, rfl⟩
  · exact ⟨_, stepped⟩
  · rw [found] at accepts
    exact accepts.elim

namespace Settles

/-- The rows of the other filesets are as they were. -/
theorem held_of_ne (settles : Settles sync schema name fileset db after)
    {schema' name' : String} (other : ¬ (schema = schema' ∧ name = name')) :
    sync.held schema' name' after = sync.held schema' name' db := by
  refine settles.filter _ fun dataset owned => ?_
  exact Bool.eq_false_iff.2 fun same => other (owns_unique owned same)

theorem free_iff_of_ne (settles : Settles sync schema name fileset db after)
    {schema' name' : String} (other : ¬ (schema = schema' ∧ name = name')) :
    sync.Free schema' name' after ↔ sync.Free schema' name' db := by
  unfold Sync.Free
  rcases settles.keys with ⟨-, -, names⟩ | ⟨-, -, names⟩
  · rw [names]
  · rw [names, List.mem_append, List.mem_singleton, not_or]
    refine ⟨And.left, fun absent => ⟨absent, fun same => other ?_⟩⟩
    obtain ⟨-, same⟩ := Prod.mk.inj same
    obtain ⟨inSchema, named⟩ := Prod.mk.inj same
    exact ⟨inSchema.symm, named.symm⟩

/-- What another fileset is accepted for does not change. -/
theorem accepts_iff_of_ne (settles : Settles sync schema name fileset db after)
    {schema' name' : String} {fileset' : Fileset} (other : ¬ (schema = schema' ∧ name = name')) :
    sync.Accepts schema' name' fileset' after ↔ sync.Accepts schema' name' fileset' db := by
  unfold Sync.Accepts
  rw [settles.held_of_ne other]
  cases sync.held schema' name' db with
  | nil => exact and_congr_left' (settles.free_iff_of_ne other)
  | cons existing rest => cases rest <;> exact Iff.rfl

/-- A fileset that was read can be read again. -/
theorem accepts_again (settles : Settles sync schema name fileset db after)
    (accepts : sync.Accepts schema name fileset db) :
    sync.Accepts schema name fileset after := by
  unfold Sync.Accepts at accepts ⊢
  rw [settles.held]
  cases found : sync.held schema name db with
  | nil =>
      refine fun changed => ?_
      have same : (sync.row schema name fileset).diverged fileset = false :=
        row_settled ▸ Dataset.diverged_assign
      rw [same] at changed
      cases changed
  | cons existing rest =>
      rw [found] at accepts
      cases rest with
      | cons second rest => exact accepts.elim
      | nil =>
          refine fun changed => ?_
          rw [Dataset.diverged_assign] at changed
          cases changed

theorem fresh (settles : Settles sync schema name fileset db after) (fresh : sync.Fresh db) :
    sync.Fresh after := by
  refine ⟨fun schema' name' none_ => ?_, fresh.2⟩
  have other : ¬ (schema = schema' ∧ name = name') := by
    rintro ⟨rfl, rfl⟩
    rw [settles.held] at none_
    cases found : sync.held schema name db with
    | nil => rw [found] at none_; cases none_
    | cons existing rest => rw [found] at none_; cases none_
  have before := fresh.1 schema' name' (settles.held_of_ne other ▸ none_)
  rcases settles.keys with ⟨-, keys, -⟩ | ⟨-, keys, -⟩
  · rw [keys]
    exact before
  · rw [keys, List.mem_append, List.mem_singleton, not_or]
    exact ⟨before, fun same => other (fresh.2 _ _ _ _ same.symm)⟩

end Settles

/-! ## The filesets of a schema -/

/-- The client serves the fileset, or answers with a `GravitinoAPIError`. -/
def Sync.Served (sync : Sync) (schema name : String) : Prop :=
  ∀ e, sync.client.getFileset schema name = .error e →
    ∃ statusCode detail, e = .api statusCode detail

/-- The entry of a fileset that was not served. -/
def Sync.entry (sync : Sync) (schema name : String) : Option String :=
  match sync.client.getFileset schema name with
  | .error e => some ("get_fileset(" ++ schema ++ "/" ++ name ++ "): " ++ e.text)
  | .ok _ => none

/-- What the loop of a schema does, name by name. -/
inductive Reads (sync : Sync) (schema : String) :
    List String → Database → MetaSyncResult → Database → MetaSyncResult → Prop
  | nil (db : Database) (result : MetaSyncResult) : Reads sync schema [] db result db result
  | skip {name : String} {rest : List String} {statusCode : Nat} {detail : String}
      {db after : Database} {result total : MetaSyncResult}
      (failed : sync.client.getFileset schema name = .error (.api statusCode detail))
      (later : Reads sync schema rest db
        { result with
          errors := result.errors ++ ["get_fileset(" ++ schema ++ "/" ++ name ++ "): " ++
            (ClientError.api statusCode detail).text] } after total) :
      Reads sync schema (name :: rest) db result after total
  | read {name : String} {rest : List String} {fileset : Fileset} {db next after : Database}
      {result result' total : MetaSyncResult}
      (got : sync.client.getFileset schema name = .ok fileset)
      (stepped : syncFileset sync false schema name fileset db result = .ok (next, result'))
      (later : Reads sync schema rest next result' after total) :
      Reads sync schema (name :: rest) db result after total

theorem reads_of_syncNames {names : List String}
    (ran : syncNames sync false schema names db result = .ok (after, total)) :
    Reads sync schema names db result after total := by
  induction names generalizing db result with
  | nil =>
      obtain ⟨rfl, rfl⟩ := Prod.mk.inj (Except.ok.inj ran)
      exact .nil _ _
  | cons name rest ih =>
      unfold syncNames at ran
      split at ran
      · rename_i failed
        exact .skip failed (ih ran)
      · cases ran
      · rename_i got
        obtain ⟨⟨next, result'⟩, stepped, later⟩ := bind_eq_ok ran
        exact .read got stepped (ih later)

/-- Rows that no listed fileset concerns are as they were. -/
theorem Reads.filter {names : List String} (sees : sync.caller.sees sync.tenantId = true)
    (reads : Reads sync schema names db result after total) {p : Dataset → Bool}
    (outside : ∀ name ∈ names, ∀ dataset, sync.owns schema name dataset = true →
      p dataset = false) : after.dataset.rows.filter p = db.dataset.rows.filter p := by
  induction reads with
  | nil => rfl
  | skip failed later ih => exact ih fun name member => outside name (List.mem_cons_of_mem _ member)
  | read got stepped later ih =>
      have settles := (settles_of_syncFileset sees stepped).1
      exact (ih fun name member => outside name (List.mem_cons_of_mem _ member)).trans
        (settles.filter p (outside _ List.mem_cons_self))

/-- The rows of a listed fileset are settled from what they were. -/
theorem Reads.held {names : List String} (sees : sync.caller.sees sync.tenantId = true)
    (reads : Reads sync schema names db result after total) (member : name ∈ names)
    (got : sync.client.getFileset schema name = .ok fileset) :
    sync.held schema name after =
      sync.settle schema name fileset (sync.held schema name db) := by
  induction reads with
  | nil => cases member
  | @skip head rest _ _ _ _ _ _ failed later ih =>
      rcases List.mem_cons.1 member with rfl | inRest
      · rw [got] at failed
        cases failed
      · exact ih inRest
  | @read head rest read_ db next after _ _ _ got' stepped later ih =>
      have settles := (settles_of_syncFileset sees stepped).1
      by_cases same : head = name
      · subst same
        obtain rfl := Except.ok.inj (got'.symm.trans got)
        by_cases again : head ∈ rest
        · rw [ih again, settles.held, settle_settle]
        · have kept : sync.held schema head after = sync.held schema head next := by
            refine later.filter sees fun other inRest dataset owned => ?_
            refine Bool.eq_false_iff.2 fun mine => again ?_
            exact (owns_unique mine owned).2 ▸ inRest
          rw [kept, settles.held]
      · have inRest := (List.mem_cons.1 member).resolve_left (fun eq => same eq.symm)
        rw [ih inRest, settles.held_of_ne fun both => same both.2]

theorem Reads.tables {names : List String} (sees : sync.caller.sees sync.tenantId = true)
    (reads : Reads sync schema names db result after total) :
    after = { db with dataset := after.dataset } := by
  induction reads with
  | nil => rfl
  | skip failed later ih => exact ih
  | read got stepped later ih =>
      have settles := (settles_of_syncFileset sees stepped).1
      rw [ih, settles.tables]

/-- The errors are the entries of what was not served. -/
theorem Reads.errors {names : List String} (sees : sync.caller.sees sync.tenantId = true)
    (reads : Reads sync schema names db result after total) :
    total.errors = result.errors ++ names.filterMap (sync.entry schema) := by
  induction reads with
  | nil => simp
  | skip failed later ih =>
      rw [ih, List.filterMap_cons]
      simp [Sync.entry, failed]
  | @read head rest fileset db next after result result' total got stepped later ih =>
      have kept : result'.errors = result.errors := by
        rw [(tally_of_syncFileset sees stepped).1, errors_tally]
      rw [ih, kept, List.filterMap_cons]
      simp [Sync.entry, got]

/-- A pass that returns was served, and every row it wrote was accepted at its start. -/
theorem Reads.accepted {names : List String} (sees : sync.caller.sees sync.tenantId = true)
    (reads : Reads sync schema names db result after total) :
    ∀ name ∈ names, sync.Served schema name ∧
      ∀ fileset, sync.client.getFileset schema name = .ok fileset →
        sync.Accepts schema name fileset db := by
  induction reads with
  | nil => intro name member; cases member
  | skip failed later ih =>
      intro name member
      rcases List.mem_cons.1 member with rfl | inRest
      · refine ⟨fun e same => ?_, fun fileset got => ?_⟩
        · rw [failed] at same
          exact ⟨_, _, (Except.error.inj same).symm⟩
        · rw [failed] at got
          cases got
      · exact ih name inRest
  | @read head rest read_ db next after _ _ _ got stepped later ih =>
      obtain ⟨settles, accepts⟩ := settles_of_syncFileset sees stepped
      have here : sync.Served schema head ∧
          ∀ fileset, sync.client.getFileset schema head = .ok fileset →
            sync.Accepts schema head fileset db := by
        refine ⟨fun e failed => ?_, fun fileset got' => ?_⟩
        · rw [got] at failed
          cases failed
        · obtain rfl := Except.ok.inj (got.symm.trans got')
          exact accepts
      intro name member
      by_cases same : head = name
      · exact same ▸ here
      · obtain ⟨served, accepts⟩ :=
          ih name ((List.mem_cons.1 member).resolve_left (fun eq => same eq.symm))
        refine ⟨served, fun fileset got' => ?_⟩
        exact (settles.accepts_iff_of_ne fun both => same both.2).1 (accepts fileset got')

/-- What is served and accepted is read to the end. -/
theorem exists_syncNames {names : List String} (result : MetaSyncResult)
    (sees : sync.caller.sees sync.tenantId = true) (fresh : sync.Fresh db)
    (accepted : ∀ name ∈ names, sync.Served schema name ∧
      ∀ fileset, sync.client.getFileset schema name = .ok fileset →
        sync.Accepts schema name fileset db) :
    ∃ outcome, syncNames sync false schema names db result = .ok outcome := by
  induction names generalizing db result with
  | nil => exact ⟨_, rfl⟩
  | cons name rest ih =>
      obtain ⟨served, accepts⟩ := accepted name List.mem_cons_self
      have later := fun other member => accepted other (List.mem_cons_of_mem name member)
      unfold syncNames
      cases got : sync.client.getFileset schema name with
      | error e =>
          obtain ⟨statusCode, detail, rfl⟩ := served e got
          exact ih _ fresh later
      | ok fileset =>
          obtain ⟨⟨next, result'⟩, stepped⟩ :=
            exists_syncFileset result sees (accepts fileset got) fresh
          have settles := (settles_of_syncFileset sees stepped).1
          obtain ⟨outcome, ran⟩ := ih result' (settles.fresh fresh)
            fun other member => by
              refine ⟨(later other member).1, fun fileset' got' => ?_⟩
              by_cases same : name = other
              · subst same
                obtain rfl := Except.ok.inj (got.symm.trans got')
                exact settles.accepts_again (accepts fileset got)
              · exact (settles.accepts_iff_of_ne fun both => same both.2).2
                  ((later other member).2 fileset' got')
          refine ⟨outcome, ?_⟩
          simp only [stepped, Except.bind, ran]

/-- The rows of another schema's filesets are as they were. -/
theorem Reads.held_of_ne {names : List String} (sees : sync.caller.sees sync.tenantId = true)
    (reads : Reads sync schema names db result after total) {schema' : String}
    (other : schema ≠ schema') : sync.held schema' name after = sync.held schema' name db := by
  refine reads.filter sees fun listed _ dataset owned => ?_
  exact Bool.eq_false_iff.2 fun mine => other (owns_unique owned mine).1

theorem Reads.accepts_iff_of_ne {names : List String}
    (sees : sync.caller.sees sync.tenantId = true)
    (reads : Reads sync schema names db result after total) {schema' : String}
    (other : schema ≠ schema') :
    sync.Accepts schema' name fileset after ↔ sync.Accepts schema' name fileset db := by
  induction reads with
  | nil => exact Iff.rfl
  | skip failed later ih => exact ih
  | read got stepped later ih =>
      have settles := (settles_of_syncFileset sees stepped).1
      exact ih.trans (settles.accepts_iff_of_ne fun both => other both.1)

theorem Reads.fresh {names : List String} (sees : sync.caller.sees sync.tenantId = true)
    (reads : Reads sync schema names db result after total) (fresh : sync.Fresh db) :
    sync.Fresh after := by
  induction reads with
  | nil => exact fresh
  | skip failed later ih => exact ih fresh
  | read got stepped later ih => exact ih ((settles_of_syncFileset sees stepped).1.fresh fresh)

/-! ## Dry runs -/

/-- A dry step counts what the real one does on the same rows. -/
theorem syncFileset_predicts {dry : Database} (sees : sync.caller.sees sync.tenantId = true)
    (stepped : syncFileset sync false schema name fileset db result = .ok (after, total))
    (same : sync.held schema name db = sync.held schema name dry) :
    syncFileset sync true schema name fileset dry result = .ok (dry, total) := by
  obtain ⟨rfl, one⟩ := tally_of_syncFileset sees stepped
  rw [same] at one ⊢
  exact syncFileset_dry sees one

/-- A dry run over distinct names counts what the real one does from the same rows. -/
theorem Reads.predicts {names : List String} (sees : sync.caller.sees sync.tenantId = true)
    (reads : Reads sync schema names db result after total) (distinct : names.Nodup)
    {dry : Database}
    (same : ∀ name ∈ names, sync.held schema name db = sync.held schema name dry) :
    syncNames sync true schema names dry result = .ok (dry, total) := by
  induction reads with
  | nil => rfl
  | skip failed later ih =>
      unfold syncNames
      rw [failed]
      exact ih (List.nodup_cons.1 distinct).2 fun name member =>
        same name (List.mem_cons_of_mem _ member)
  | @read head rest fileset db next after result result' total got stepped later ih =>
      obtain ⟨fresh, distinct⟩ := List.nodup_cons.1 distinct
      have settles := (settles_of_syncFileset sees stepped).1
      have predicted := syncFileset_predicts sees stepped (same head List.mem_cons_self)
      unfold syncNames
      rw [got]
      simp only [predicted, Except.bind]
      refine ih distinct fun name member => ?_
      rw [settles.held_of_ne fun both => fresh (both.2 ▸ member)]
      exact same name (List.mem_cons_of_mem _ member)

/-! ## Rows that agree -/

/-- Every fileset of a schema has one row of the tenant, and no step would change it. -/
def Sync.Calm (sync : Sync) (schema : String) (names : List String) (db : Database) : Prop :=
  ∀ name ∈ names, ∀ fileset, sync.client.getFileset schema name = .ok fileset →
    ∃ existing, sync.held schema name db = [existing] ∧ existing.diverged fileset = false

/-- A pass leaves its schema calm. -/
theorem Reads.calm {names : List String} (sees : sync.caller.sees sync.tenantId = true)
    (reads : Reads sync schema names db result after total) : sync.Calm schema names after := by
  intro name member fileset got
  have accepts := (reads.accepted sees name member).2 fileset got
  have held := reads.held sees member got
  unfold Sync.Accepts at accepts
  cases found : sync.held schema name db with
  | nil =>
      rw [found] at held
      exact ⟨_, held, row_settled ▸ Dataset.diverged_assign⟩
  | cons existing rest =>
      rw [found] at held accepts
      cases rest with
      | cons second rest => exact accepts.elim
      | nil => exact ⟨_, held, Dataset.diverged_assign⟩

/-- A pass over a calm schema changes nothing and counts nothing. -/
theorem syncNames_calm {dryRun : Bool} {names : List String} (result : MetaSyncResult)
    (sees : sync.caller.sees sync.tenantId = true) (calm : sync.Calm schema names db)
    (served : ∀ name ∈ names, sync.Served schema name) :
    ∃ errors, syncNames sync dryRun schema names db result =
      .ok (db, { result with errors }) := by
  induction names generalizing result with
  | nil => exact ⟨result.errors, rfl⟩
  | cons name rest ih =>
      have restCalm : sync.Calm schema rest db := fun other member =>
        calm other (List.mem_cons_of_mem _ member)
      have restServed := fun other member => served other (List.mem_cons_of_mem name member)
      unfold syncNames
      cases got : sync.client.getFileset schema name with
      | error e =>
          obtain ⟨statusCode, detail, rfl⟩ := served name List.mem_cons_self e got
          obtain ⟨errors, ran⟩ := ih _ restCalm restServed
          exact ⟨errors, ran⟩
      | ok fileset =>
          obtain ⟨existing, found, kept⟩ := calm name List.mem_cons_self fileset got
          obtain ⟨errors, ran⟩ := ih result restCalm restServed
          have stepped : syncFileset sync dryRun schema name fileset db result =
              .ok (db, result) := by
            rcases syncFileset_cases sees with ⟨none_, -⟩ | ⟨other, found', changed, -⟩ |
              ⟨other, found', -, ran⟩ | ⟨_, _, _, many, -⟩
            · rw [found] at none_
              cases none_
            · rw [found] at found'
              cases found'
              rw [kept] at changed
              cases changed
            · exact ran
            · rw [found] at many
              cases many
          refine ⟨errors, ?_⟩
          simp only [stepped, Except.bind, ran]

/-! ## The schemas of a catalog -/

/-- Nothing of the schema is answered by an exception that escapes, and what is served can be
read from these rows. -/
def Sync.Readable (sync : Sync) (schema : String) (db : Database) : Prop :=
  (∀ e, sync.client.listFilesets schema ≠ .error (.other e)) ∧
    ∀ names, sync.client.listFilesets schema = .ok names → ∀ name ∈ names,
      sync.Served schema name ∧ ∀ fileset, sync.client.getFileset schema name = .ok fileset →
        sync.Accepts schema name fileset db

theorem syncSchema_cases (ran : syncSchema sync false schema db = .ok (after, total)) :
    (after = db ∧ ∃ e, sync.client.listFilesets schema = .error e ∧ ∀ e', e ≠ .other e') ∨
      ∃ names, sync.client.listFilesets schema = .ok names ∧
        Reads sync schema names db { filesetsDiscovered := names.length } after total := by
  unfold syncSchema at ran
  split at ran
  · cases ran
  · rename_i e escapes failed
    exact .inl ⟨(Prod.mk.inj (Except.ok.inj ran)).1.symm, e, failed, escapes⟩
  · rename_i names listed
    exact .inr ⟨names, listed, reads_of_syncNames ran⟩

theorem syncSchema_held_of_ne (sees : sync.caller.sees sync.tenantId = true)
    (ran : syncSchema sync false schema db = .ok (after, total)) {schema' : String}
    (other : schema ≠ schema') : sync.held schema' name after = sync.held schema' name db := by
  rcases syncSchema_cases ran with ⟨rfl, -⟩ | ⟨names, -, reads⟩
  · rfl
  · exact reads.held_of_ne sees other

theorem syncSchema_accepts_iff_of_ne (sees : sync.caller.sees sync.tenantId = true)
    (ran : syncSchema sync false schema db = .ok (after, total)) {schema' : String}
    (other : schema ≠ schema') :
    sync.Accepts schema' name fileset after ↔ sync.Accepts schema' name fileset db := by
  rcases syncSchema_cases ran with ⟨rfl, -⟩ | ⟨names, -, reads⟩
  · exact Iff.rfl
  · exact reads.accepts_iff_of_ne sees other

theorem syncSchema_fresh (sees : sync.caller.sees sync.tenantId = true)
    (ran : syncSchema sync false schema db = .ok (after, total)) (fresh : sync.Fresh db) :
    sync.Fresh after := by
  rcases syncSchema_cases ran with ⟨rfl, -⟩ | ⟨names, -, reads⟩
  · exact fresh
  · exact reads.fresh sees fresh

/-- A schema returns if and only if it is readable. -/
theorem syncSchema_ok_iff (sees : sync.caller.sees sync.tenantId = true) (fresh : sync.Fresh db) :
    (∃ outcome, syncSchema sync false schema db = .ok outcome) ↔ sync.Readable schema db := by
  constructor
  · rintro ⟨⟨after, total⟩, ran⟩
    rcases syncSchema_cases ran with ⟨-, e, failed, escapes⟩ | ⟨names, listed, reads⟩
    · refine ⟨fun e' same => ?_, fun names listed => ?_⟩
      · rw [failed] at same
        exact escapes e' (Except.error.inj same)
      · rw [failed] at listed
        cases listed
    · refine ⟨fun e' same => ?_, fun names' listed' => ?_⟩
      · rw [listed] at same
        cases same
      · obtain rfl := Except.ok.inj (listed.symm.trans listed')
        exact reads.accepted sees
  · rintro ⟨answered, accepted⟩
    unfold syncSchema
    cases listed : sync.client.listFilesets schema with
    | error e =>
        cases e with
        | other e' => exact absurd listed (answered e')
        | disabled => exact ⟨_, rfl⟩
        | api statusCode detail => exact ⟨_, rfl⟩
    | ok names => exact exists_syncNames _ sees fresh (accepted names listed)

theorem readable_iff_of_ne (sees : sync.caller.sees sync.tenantId = true)
    (ran : syncSchema sync false schema db = .ok (after, total)) {schema' : String}
    (other : schema ≠ schema') : sync.Readable schema' after ↔ sync.Readable schema' db := by
  refine and_congr_right fun _ => forall₂_congr fun names _ => forall₂_congr fun name _ =>
    and_congr_right fun _ => forall₂_congr fun fileset _ => ?_
  exact syncSchema_accepts_iff_of_ne sees ran other

theorem syncSchemas_ok_iff {schemas : List String} (total : MetaSyncResult)
    (sees : sync.caller.sees sync.tenantId = true) (fresh : sync.Fresh db)
    (distinct : schemas.Nodup) :
    (∃ outcome, syncSchemas sync false schemas db total = .ok outcome) ↔
      ∀ schema ∈ schemas, sync.Readable schema db := by
  induction schemas generalizing db total with
  | nil => exact iff_of_true ⟨_, rfl⟩ (fun schema member => by cases member)
  | cons schema rest ih =>
      obtain ⟨absent, distinct⟩ := List.nodup_cons.1 distinct
      rw [List.forall_mem_cons, ← syncSchema_ok_iff sees fresh]
      unfold syncSchemas
      cases ran : syncSchema sync false schema db with
      | error e =>
          refine iff_of_false ?_ ?_
          · rintro ⟨outcome, same⟩
            cases same
          · rintro ⟨⟨outcome, same⟩, -⟩
            cases same
      | ok outcome =>
          obtain ⟨next, result⟩ := outcome
          refine (ih _ (syncSchema_fresh sees ran fresh) distinct).trans ?_
          refine Iff.trans ?_ (and_iff_right ⟨_, rfl⟩).symm
          refine forall₂_congr fun other member => ?_
          exact readable_iff_of_ne sees ran fun same => absent (same ▸ member)

/-- A catalog returns if and only if every schema of it is readable. -/
theorem syncAll_ok_iff (sees : sync.caller.sees sync.tenantId = true) (fresh : sync.Fresh db)
    (distinct : ∀ schemas, sync.client.listSchemas = .ok schemas → schemas.Nodup) :
    (∃ outcome, syncAll sync false db = .ok outcome) ↔
      (∀ e, sync.client.listSchemas ≠ .error (.other e)) ∧
        ∀ schemas, sync.client.listSchemas = .ok schemas → ∀ schema ∈ schemas,
          sync.Readable schema db := by
  unfold syncAll
  cases listed : sync.client.listSchemas with
  | error e =>
      cases e with
      | other e' =>
          refine iff_of_false ?_ fun ⟨answered, _⟩ => answered e' rfl
          rintro ⟨outcome, same⟩
          cases same
      | disabled => exact iff_of_true ⟨_, rfl⟩ ⟨by simp, by simp⟩
      | api statusCode detail => exact iff_of_true ⟨_, rfl⟩ ⟨by simp, by simp⟩
  | ok schemas =>
      refine (syncSchemas_ok_iff _ sees fresh (distinct schemas listed)).trans ?_
      simp

/-- A dry run over distinct schemas and names counts what the real one does. -/
theorem syncSchemas_predicts {schemas : List String} {counted : MetaSyncResult}
    (sees : sync.caller.sees sync.tenantId = true)
    (ran : syncSchemas sync false schemas db total = .ok (after, counted))
    (distinct : schemas.Nodup)
    (distinctNames : ∀ schema names, sync.client.listFilesets schema = .ok names → names.Nodup)
    {dry : Database}
    (same : ∀ schema ∈ schemas, ∀ name, sync.held schema name db = sync.held schema name dry) :
    syncSchemas sync true schemas dry total = .ok (dry, counted) := by
  induction schemas generalizing db total with
  | nil =>
      obtain ⟨-, rfl⟩ := Prod.mk.inj (Except.ok.inj ran)
      rfl
  | cons schema rest ih =>
      obtain ⟨absent, distinct⟩ := List.nodup_cons.1 distinct
      obtain ⟨⟨next, result⟩, stepped, later⟩ := bind_eq_ok ran
      have predicted : syncSchema sync true schema dry = .ok (dry, result) := by
        unfold syncSchema at stepped ⊢
        cases listed : sync.client.listFilesets schema with
        | error e =>
            rw [listed] at stepped
            cases e with
            | other e' => cases stepped
            | disabled =>
                obtain ⟨-, rfl⟩ := Prod.mk.inj (Except.ok.inj stepped)
                rfl
            | api statusCode detail =>
                obtain ⟨-, rfl⟩ := Prod.mk.inj (Except.ok.inj stepped)
                rfl
        | ok names =>
            rw [listed] at stepped
            exact (reads_of_syncNames stepped).predicts sees (distinctNames schema names listed)
              fun name _ => same schema List.mem_cons_self name
      unfold syncSchemas
      simp only [predicted, Except.bind]
      refine ih later distinct fun other member name => ?_
      rw [syncSchema_held_of_ne sees stepped fun eq => absent (eq ▸ member)]
      exact same other (List.mem_cons_of_mem _ member) name

/-- After a catalog was read, all its schemas are calm. -/
theorem calm_of_syncSchemas {schemas : List String} {counted : MetaSyncResult}
    (sees : sync.caller.sees sync.tenantId = true)
    (ran : syncSchemas sync false schemas db total = .ok (after, counted)) {names : List String}
    (listed : sync.client.listFilesets schema = .ok names)
    (before : schema ∈ schemas ∨ sync.Calm schema names db) : sync.Calm schema names after := by
  induction schemas generalizing db total with
  | nil =>
      obtain ⟨rfl, -⟩ := Prod.mk.inj (Except.ok.inj ran)
      exact before.resolve_left (List.not_mem_nil)
  | cons head rest ih =>
      obtain ⟨⟨next, result⟩, stepped, later⟩ := bind_eq_ok ran
      by_cases here : head = schema
      · subst here
        refine ih later (.inr ?_)
        rcases syncSchema_cases stepped with ⟨-, e, failed, -⟩ | ⟨names', listed', reads⟩
        · rw [failed] at listed
          cases listed
        · obtain rfl := Except.ok.inj (listed.symm.trans listed')
          exact reads.calm sees
      · refine ih later ?_
        rcases before with member | calm
        · exact .inl ((List.mem_cons.1 member).resolve_left fun eq => here eq.symm)
        · refine .inr fun name member fileset got => ?_
          rw [syncSchema_held_of_ne sees stepped here]
          exact calm name member fileset got

/-- A pass that returned met nothing that escapes. -/
theorem served_of_syncSchemas {schemas : List String} {counted : MetaSyncResult}
    (sees : sync.caller.sees sync.tenantId = true)
    (ran : syncSchemas sync false schemas db total = .ok (after, counted)) :
    ∀ schema ∈ schemas, (∀ e, sync.client.listFilesets schema ≠ .error (.other e)) ∧
      ∀ names, sync.client.listFilesets schema = .ok names → ∀ name ∈ names,
        sync.Served schema name := by
  induction schemas generalizing db total with
  | nil => intro schema member; cases member
  | cons head rest ih =>
      obtain ⟨⟨next, result⟩, stepped, later⟩ := bind_eq_ok ran
      refine List.forall_mem_cons.2 ⟨?_, ih later⟩
      rcases syncSchema_cases stepped with ⟨-, e, failed, escapes⟩ | ⟨names, listed, reads⟩
      · refine ⟨fun e' same => ?_, fun names listed => ?_⟩
        · rw [failed] at same
          exact escapes e' (Except.error.inj same)
        · rw [failed] at listed
          cases listed
      · refine ⟨fun e' same => ?_, fun names' listed' name member => ?_⟩
        · rw [listed] at same
          cases same
        · obtain rfl := Except.ok.inj (listed.symm.trans listed')
          exact (reads.accepted sees name member).1

/-- A pass over calm schemas changes nothing and counts nothing. -/
theorem syncSchemas_calm (sync : Sync) (dryRun : Bool) {schemas : List String}
    (total : MetaSyncResult) (sees : sync.caller.sees sync.tenantId = true)
    (answered : ∀ schema ∈ schemas, (∀ e, sync.client.listFilesets schema ≠ .error (.other e)) ∧
      ∀ names, sync.client.listFilesets schema = .ok names → ∀ name ∈ names,
        sync.Served schema name)
    (calm : ∀ schema ∈ schemas, ∀ names, sync.client.listFilesets schema = .ok names →
      sync.Calm schema names db) :
    ∃ counted, syncSchemas sync dryRun schemas db total = .ok (db, counted) ∧
      counted.datasetsCreated = total.datasetsCreated ∧
      counted.datasetsUpdated = total.datasetsUpdated := by
  induction schemas generalizing total with
  | nil => exact ⟨total, rfl, rfl, rfl⟩
  | cons schema rest ih =>
      obtain ⟨⟨listable, served⟩, answered⟩ := List.forall_mem_cons.1 answered
      obtain ⟨here, calm⟩ := List.forall_mem_cons.1 calm
      have stepped : ∃ discovered errors, syncSchema sync dryRun schema db =
          .ok (db, { filesetsDiscovered := discovered, errors }) := by
        unfold syncSchema
        cases listed : sync.client.listFilesets schema with
        | error e =>
            cases e with
            | other e' => exact absurd listed (listable e')
            | disabled => exact ⟨_, _, rfl⟩
            | api statusCode detail => exact ⟨_, _, rfl⟩
        | ok names =>
            obtain ⟨errors, ran⟩ := syncNames_calm { filesetsDiscovered := names.length } sees
              (here names listed) (served names listed)
            exact ⟨names.length, errors, ran⟩
      obtain ⟨discovered, errors, stepped⟩ := stepped
      obtain ⟨counted, ran, created, updated⟩ :=
        ih (total.add { filesetsDiscovered := discovered, errors }) answered calm
      refine ⟨counted, ?_, created, updated⟩
      unfold syncSchemas
      simp only [stepped, Except.bind, ran]

end MetaSyncService

end Lcp
