/-
# DataPlane.IndexMap -- a store that keeps the definitions of its indexes

Of a lance table it keeps the version and a map from index names to what the
index was created with.  `create_index` without a `name` argument stores under
`<column>_idx`, and `replace=True` overwrites that entry.
-/
import Mathlib.Logic.Function.Basic
import Lcp.DataPlane.LanceIo

namespace Lcp

set_option autoImplicit false

/-- What an index of a table was created with. -/
structure IndexEntry where
  name : String
  column : String
  indexType : String
  params : JsonDict
deriving DecidableEq

/-- Tables by their URI; a URI without a version has no table. -/
structure Lake where
  version : String → Option Nat
  indexes : String → List IndexEntry

namespace Lake

/-- The name that `create_index` stores under. -/
def indexName (column : String) (params : JsonDict) : Except PyException String :=
  match Json.get? params "name" with
  | none | some .null => .ok (column ++ "_idx")
  | some (.str name) => .ok name
  | some value =>
      .error (.typeError ("argument 'name': " ++ pyRepr value.typeName ++
        " object cannot be converted to 'PyString'"))

/-- The column and the type of an index; the store takes texts. -/
def definition (column indexType : Json) : Except PyException (String × String) :=
  match column, indexType with
  | .str column, .str indexType => .ok (column, indexType)
  | .str _, value =>
      .error (.attributeError (pyRepr value.typeName ++ " object has no attribute 'upper'"))
  | value, _ => .error (.typeError (pyRepr value.typeName ++ " object is no column name"))

def entry (lake : Lake) (uri name : String) : Option IndexEntry :=
  (lake.indexes uri).find? fun entry => entry.name = name

/-- The commit of an index: a new version in which it is the one of its name. -/
def put (lake : Lake) (uri : String) (version : Nat) (entry : IndexEntry) : Lake where
  version := Function.update lake.version uri (some (version + 1))
  indexes := Function.update lake.indexes uri
    (entry :: (lake.indexes uri).filter fun other => other.name ≠ entry.name)

/-- A commit that leaves the indexes as they are. -/
def commit (lake : Lake) (uri : String) (version : Nat) : Lake :=
  { lake with version := Function.update lake.version uri (some (version + 1)) }

def notFound (uri : String) : PyException :=
  .valueError ("Dataset at path " ++ uri ++ " was not found")

/-- The store, with any count of the rows that an index does not cover. -/
def pylance (unindexedRows : Lake → String → String → Option Nat)
    (rows : Lake → String → Nat) : Pylance Lake where
  latestVersion lake uri :=
    match lake.version uri with
    | none => .error (notFound uri)
    | some version => .ok version
  indexStatistics lake uri name :=
    (lake.entry uri name).map fun _ => unindexedRows lake uri name
  listIndices lake uri := (lake.indexes uri).map IndexEntry.name
  optimizeIndices lake uri :=
    match lake.version uri with
    | none => .error (notFound uri)
    | some version => .ok (lake.commit uri version)
  delete lake uri _ :=
    match lake.version uri with
    | none => .error (notFound uri)
    | some version => .ok (lake.commit uri version)
  countRows := rows
  createIndex lake uri column indexType replace params :=
    match lake.version uri with
    | none => .error (notFound uri)
    | some version => do
        let (column, indexType) ← definition column indexType
        let name ← indexName column params
        if (lake.entry uri name).isSome ∧ replace = false then
          .error (.valueError ("Index name " ++ pyRepr name ++ " already exists"))
        else .ok (lake.put uri version { name, column, indexType, params })
  compactFiles lake uri _ :=
    match lake.version uri with
    | none => .error (notFound uri)
    | some version => .ok ({}, lake.commit uri version)

variable {lake : Lake}

@[simp] theorem version_put (uri other : String) (version : Nat) (entry : IndexEntry) :
    (lake.put uri version entry).version other =
      if other = uri then some (version + 1) else lake.version other := by
  by_cases same : other = uri <;> simp [put, same]

@[simp] theorem entry_put (uri other name : String) (version : Nat) (entry : IndexEntry) :
    (lake.put uri version entry).entry other name =
      if other = uri ∧ name = entry.name then some entry else lake.entry other name := by
  by_cases sameUri : other = uri
  · subst sameUri
    by_cases sameName : entry.name = name
    · simp [Lake.entry, put, sameName]
    · have kept : ∀ rest : List IndexEntry,
          (rest.filter fun other => other.name ≠ entry.name).find?
              (fun other => other.name = name) =
            rest.find? fun other => other.name = name := by
        intro rest
        rw [List.find?_filter]
        congr 1
        funext other
        by_cases named : other.name = name
        · simp [named, Ne.symm sameName]
        · simp [named]
      have differ : ¬ name = entry.name := fun same => sameName same.symm
      simp only [Lake.entry, put, Function.update_self, List.find?_cons]
      simpa [sameName, differ] using kept (lake.indexes other)
  · simp [Lake.entry, put, sameUri]

theorem definition_eq_ok {givenColumn givenType : Json} {column indexType : String}
    (defined : definition givenColumn givenType = .ok (column, indexType)) :
    givenColumn = .str column ∧ givenType = .str indexType := by
  unfold definition at defined
  split at defined
  · cases defined
    exact ⟨rfl, rfl⟩
  · cases defined
  · cases defined

/-- A call of `create_index` that returns with `replace=True`. -/
theorem createIndex_eq_ok {unindexedRows : Lake → String → String → Option Nat}
    {rows : Lake → String → Nat} {after : Lake} {uri : String} {givenColumn givenType : Json}
    {params descriptor : JsonDict}
    (ran : LanceIo.createIndex (pylance unindexedRows rows) lake uri givenColumn givenType true
      params = (.ok descriptor, after)) :
    ∃ version column indexType name, givenColumn = .str column ∧ givenType = .str indexType ∧
      lake.version uri = some version ∧ indexName column params = .ok name ∧
      after = lake.put uri version { name, column, indexType, params } := by
  unfold LanceIo.createIndex at ran
  split at ran
  · cases ran
  · split at ran
    · cases ran
    · rename_i created
      cases ran
      simp only [pylance] at created
      split at created
      · cases created
      · rename_i version opened
        obtain ⟨⟨column, indexType⟩, defined, naming⟩ := bind_eq_ok created
        obtain ⟨name, named, stored⟩ := bind_eq_ok naming
        obtain ⟨rfl, rfl⟩ := definition_eq_ok defined
        simp only [Bool.true_eq_false, and_false, if_false, Except.ok.injEq] at stored
        exact ⟨version, column, indexType, name, rfl, rfl, opened, named, stored.symm⟩

/-- A table with an entry of that name reports it. -/
theorem readIndexStats_of_entry {unindexedRows : Lake → String → String → Option Nat}
    {rows : Lake → String → Nat} {uri name : String} {version : Nat} {found : IndexEntry}
    (opened : lake.version uri = some version) (entered : lake.entry uri name = some found) :
    LanceIo.readIndexStats (pylance unindexedRows rows) lake uri name =
      .ok (some { latestVersion := version
                  numUnindexedRows := unindexedRows lake uri name }) := by
  simp [LanceIo.readIndexStats, pylance, opened, entered, bind, Except.bind, pure, Except.pure]

end Lake

end Lcp
