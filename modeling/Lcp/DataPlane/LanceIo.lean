/-
# DataPlane.LanceIo -- the lance calls the control plane makes

Pylance is a third-party package, so it is a parameter: `Pylance Disk` has one
field for each call the modelled code makes, over whatever `Disk` the tables
live on.  The functions below are the ones of `lance_io.py` over it.

`OptimizesOnce` is what pylance documents of `optimize_indices`: one commit that
leaves every index of the table fully indexed, and no effect on other tables.
-/
import Lcp.Core.Python

namespace Lcp

set_option autoImplicit false

/-- What `from_lance_metrics` reads off the metrics of a compaction. -/
structure CompactionStats where
  fragmentsRemoved : Int := 0
  fragmentsAdded : Int := 0
  filesRemoved : Int := 0
  filesAdded : Int := 0

/-- The calls on a table at a URI. -/
structure Pylance (Disk : Type) where
  /-- Open the table and read `latest_version`. -/
  latestVersion : Disk → String → Except PyException Nat
  /-- The `num_unindexed_rows` entry of `index_statistics(name)`; the outer `none`
  is a call that raises or a version without the method. -/
  indexStatistics : Disk → String → String → Option (Option Nat)
  listIndices : Disk → String → List String
  optimizeIndices : Disk → String → Except PyException Disk
  /-- Delete the rows that satisfy a predicate. -/
  delete : Disk → String → String → Except PyException Disk
  countRows : Disk → String → Nat
  /-- The call `create_index(column=, index_type=, replace=, **kwargs)`. -/
  createIndex : Disk → String → Json → Json → Bool → JsonDict → Except PyException Disk
  /-- The call `optimize.compact_files(**kwargs)`. -/
  compactFiles : Disk → String → JsonDict → Except PyException (CompactionStats × Disk) :=
    fun disk _ _ => .ok ({}, disk)

/-- A store without any lance table. -/
def noTables : Pylance Unit where
  latestVersion _ uri := .error (.valueError ("Dataset at path " ++ uri ++ " was not found"))
  indexStatistics _ _ _ := none
  listIndices _ _ := []
  optimizeIndices _ uri := .error (.valueError ("Dataset at path " ++ uri ++ " was not found"))
  delete _ uri _ := .error (.valueError ("Dataset at path " ++ uri ++ " was not found"))
  countRows _ _ := 0
  createIndex _ uri _ _ _ _ :=
    .error (.valueError ("Dataset at path " ++ uri ++ " was not found"))
  compactFiles _ uri _ := .error (.valueError ("Dataset at path " ++ uri ++ " was not found"))

/-- The fields of `IndexLiveStats` that the watcher reads. -/
structure IndexLiveStats where
  latestVersion : Nat
  numUnindexedRows : Option Nat
deriving DecidableEq, Repr

namespace LanceIo

variable {Disk : Type} (lance : Pylance Disk)

/-- Live stats of one named index; `none` when the table does not have it. -/
def readIndexStats (disk : Disk) (uri indexName : String) :
    Except PyException (Option IndexLiveStats) := do
  let latestVersion ← lance.latestVersion disk uri
  match lance.indexStatistics disk uri indexName with
  | some numUnindexedRows => return some { latestVersion, numUnindexedRows }
  | none =>
      if indexName ∈ lance.listIndices disk uri then
        return some { latestVersion, numUnindexedRows := none }
      else return none

/-- Optimize the table's indexes; the answer is their number and the version
after the commit, read from a second open. -/
def optimizeIndices (disk : Disk) (uri : String) : Except PyException (Nat × Nat) × Disk :=
  match lance.latestVersion disk uri with
  | .error e => (.error e, disk)
  | .ok _ =>
      match lance.optimizeIndices disk uri with
      | .error e => (.error e, disk)
      | .ok after =>
          match lance.latestVersion after uri with
          | .error e => (.error e, after)
          | .ok newVersion => (.ok ((lance.listIndices after uri).length, newVersion), after)

/-- Delete rows; the answer is the number of rows left. -/
def deleteRows (disk : Disk) (uri predicate : String) : Except PyException Nat × Disk :=
  match lance.latestVersion disk uri with
  | .error e => (.error e, disk)
  | .ok _ =>
      match lance.delete disk uri predicate with
      | .error e => (.error e, disk)
      | .ok after =>
          match lance.latestVersion after uri with
          | .error e => (.error e, after)
          | .ok _ => (.ok (lance.countRows after uri), after)

/-- Create an index on a column; the answer is its descriptor. -/
def createIndex (disk : Disk) (uri : String) (column indexType : Json) (replace : Bool)
    (indexParams : JsonDict) : Except PyException JsonDict × Disk :=
  match lance.latestVersion disk uri with
  | .error e => (.error e, disk)
  | .ok _ =>
      match lance.createIndex disk uri column indexType replace indexParams with
      | .error e => (.error e, disk)
      | .ok after =>
          (.ok
            [ ("uri", .str uri),
              ("column", column),
              ("index_type", indexType),
              ("replace", .bool replace),
              ("params", .dict indexParams) ], after)

/-- Compact the fragments of the table; only the keywords that are set are passed on. -/
def compactFiles (disk : Disk) (uri : String) (keywords : JsonDict) :
    Except PyException CompactionStats × Disk :=
  match lance.latestVersion disk uri with
  | .error e => (.error e, disk)
  | .ok _ =>
      match lance.compactFiles disk uri (keywords.filter fun entry => entry.2 ≠ .null) with
      | .error e => (.error e, disk)
      | .ok (stats, after) => (.ok stats, after)

end LanceIo

/-- What `optimize_indices` does: one new version of the table, in which no index
has unindexed rows. -/
structure OptimizesOnce {Disk : Type} (lance : Pylance Disk) : Prop where
  commits : ∀ {disk uri version}, lance.latestVersion disk uri = .ok version →
    ∃ after, lance.optimizeIndices disk uri = .ok after ∧
      lance.latestVersion after uri = .ok (version + 1)
  reported : ∀ {disk uri after}, lance.optimizeIndices disk uri = .ok after → ∀ name,
    (lance.indexStatistics after uri name).isSome = (lance.indexStatistics disk uri name).isSome
  indexed : ∀ {disk uri after}, lance.optimizeIndices disk uri = .ok after → ∀ name rows,
    lance.indexStatistics after uri name = some (some rows) → rows = 0
  listed : ∀ {disk uri after}, lance.optimizeIndices disk uri = .ok after →
    lance.listIndices after uri = lance.listIndices disk uri
  others : ∀ {disk uri after other}, lance.optimizeIndices disk uri = .ok after → other ≠ uri →
    lance.latestVersion after other = lance.latestVersion disk other ∧
      lance.indexStatistics after other = lance.indexStatistics disk other ∧
      lance.listIndices after other = lance.listIndices disk other

namespace LanceIo

variable {Disk : Type} {lance : Pylance Disk}

theorem readIndexStats_eq_ok {disk : Disk} {uri indexName : String}
    {stats : Option IndexLiveStats}
    (read : readIndexStats lance disk uri indexName = .ok stats) :
    ∃ version, lance.latestVersion disk uri = .ok version ∧
      ∀ live ∈ stats, live.latestVersion = version := by
  unfold readIndexStats at read
  obtain ⟨version, opened, read⟩ := bind_eq_ok read
  refine ⟨version, opened, ?_⟩
  split at read
  · cases read
    simp
  · split at read <;> cases read <;> simp

/-- A `create_index` that raises left the tables alone. -/
theorem createIndex_error {disk disk' : Disk} {uri : String} {column indexType : Json}
    {replace : Bool} {params : JsonDict} {e : PyException}
    (ran : createIndex lance disk uri column indexType replace params = (.error e, disk')) :
    disk' = disk := by
  unfold createIndex at ran
  split at ran
  · cases ran
    rfl
  · split at ran <;> cases ran
    rfl

end LanceIo

end Lcp
