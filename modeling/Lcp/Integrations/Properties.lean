/-
# Integrations.Properties -- the state that is written back to the catalog

A dataset is rendered as eight properties and each of its indexes as three, all under
`lcp.`.  The keys of an index have its name in the middle, and a name may be any text: one
with dots in it, or one that ends in the suffix of a key.

* `indexKey_inj` -- the name and the suffix are read back from a key of an index.
* `index_ne_dataset` -- no key of an index is one of the dataset's.
* `merged_lossless` -- so the patches merge, in every order, without a loss.
-/
import Lcp.Core.Python
import Lcp.Db.Models
import Lcp.Theory.Dict
import Lcp.Theory.KeyText

namespace Lcp

open Theory

set_option autoImplicit false

/-- The stored spelling of a dataset status. -/
def DatasetStatus.toString : DatasetStatus → String
  | .active => "ACTIVE"
  | .paused => "PAUSED"
  | .archived => "ARCHIVED"
  | .deleted => "DELETED"

namespace Gravitino

/-! ## Keys -/

def LCP_PROPERTY_PREFIX : String := "lcp."

def PROP_DATASET_UUID : String := LCP_PROPERTY_PREFIX ++ "dataset_uuid"
def PROP_TENANT_ID : String := LCP_PROPERTY_PREFIX ++ "tenant_id"
def PROP_STATUS : String := LCP_PROPERTY_PREFIX ++ "status"
def PROP_ROW_COUNT : String := LCP_PROPERTY_PREFIX ++ "row_count"
def PROP_FRAGMENT_COUNT : String := LCP_PROPERTY_PREFIX ++ "fragment_count"
def PROP_INDEX_COVERAGE : String := LCP_PROPERTY_PREFIX ++ "index_coverage"
def PROP_LATEST_VERSION : String := LCP_PROPERTY_PREFIX ++ "latest_version"
def PROP_SYNCED_AT : String := LCP_PROPERTY_PREFIX ++ "synced_at"

def INDEX_PROPERTY_INFIX : String := "index."
def PROP_INDEX_STATE_SUFFIX : String := ".state"
def PROP_INDEX_COLUMN_SUFFIX : String := ".column"
def PROP_INDEX_LAST_OPTIMIZED_SUFFIX : String := ".last_optimized_at"

/-- `(state_key, column_key, last_optimized_at_key)` of an index. -/
def indexPropertyKeys (indexName : String) : String × String × String :=
  let base := LCP_PROPERTY_PREFIX ++ INDEX_PROPERTY_INFIX ++ indexName
  (base ++ PROP_INDEX_STATE_SUFFIX, base ++ PROP_INDEX_COLUMN_SUFFIX,
    base ++ PROP_INDEX_LAST_OPTIMIZED_SUFFIX)

/-! ## Values -/

/-- A `datetime`: its wall clock, and the offset of its time zone if it has one. -/
structure Moment where
  wall : DateTime
  utcoffset : Option TimeDelta := none
  valid : DateTime.inRange wall = true

/-- The UTC reading of `value.astimezone(timezone.utc)`; a naive value is one of the
machine's own `zone`. -/
def astimezone (zone : DateTime → Except PyException TimeDelta) (value : Moment) :
    Except PyException DateTime := do
  let offset ← match value.utcoffset with
    | some offset => Except.ok offset
    | none => zone value.wall
  if DateTime.inRange (value.wall - offset) then .ok (value.wall - offset)
  else .error (.overflowError "date value out of range")

/-- `isoformat()` of a value in UTC. -/
def isoformatUtc (utc : DateTime) : String := DateTime.isoformat utc ++ "+00:00"

/-- Render a moment as ISO-8601 UTC; a naive one is in UTC. -/
def formatIsoUtc (zone : DateTime → Except PyException TimeDelta) :
    Option Moment → Except PyException String
  | none => .ok ""
  | some value =>
      (astimezone zone { value with utcoffset := value.utcoffset.or (some 0) }).map isoformatUtc

/-- A decimal number; `body` is the rendering of a special value without its sign. -/
inductive Decimal where
  | finite (negative : Bool) (coefficient : Nat) (exponent : Int)
  | special (negative : Bool) (body : String)

/-- `format(value, "f")`. -/
def Decimal.format : Decimal → String
  | .special negative body => (if negative then "-" else "") ++ body
  | .finite negative coefficient exponent =>
      let exponent := if coefficient = 0 ∧ 0 < exponent then 0 else exponent
      let digits := (toString coefficient).toList
      let dotplace := exponent + digits.length
      let (intpart, fracpart) :=
        if dotplace < 0 then (['0'], List.replicate (-dotplace).toNat '0' ++ digits)
        else if dotplace > digits.length then
          (digits ++ List.replicate (dotplace - digits.length).toNat '0', [])
        else (digits.take dotplace.toNat, digits.drop dotplace.toNat)
      let intpart := if intpart = [] then ['0'] else intpart
      (if negative then "-" else "") ++ String.ofList intpart ++
        if fracpart = [] then "" else "." ++ String.ofList fracpart

/-- `Decimal | float | int | None`; a float is given by its `str`. -/
inductive Coverage where
  | decimal (value : Decimal)
  | float (text : String)
  | int (value : Int)
  | none

/-- Format a value as a fixed-point string. -/
def formatDecimal : Coverage → String
  | .none => "0"
  | .decimal value => value.format
  | .float text => text
  | .int value => toString value

example : formatDecimal (.decimal (.finite false 1 (-4))) = "0.0001" := by decide

example : formatDecimal (.decimal (.finite false 1 2)) = "100" := by decide

/-! ## Patches -/

/-- A dataset with its operational columns. -/
structure OperationalDataset extends Dataset where
  rowCount : Int := 0
  fragmentCount : Int := 0
  indexCoverage : Coverage := .decimal (.finite false 0 (-4))
  latestVersion : Int := 0

/-- The display of a dataset's patch. -/
def datasetEntries (dataset : OperationalDataset) (syncedAt : DateTime) : List (String × String) :=
  [ (PROP_DATASET_UUID, dataset.datasetUuid),
    (PROP_TENANT_ID, dataset.tenantId),
    (PROP_STATUS, dataset.status.toString),
    (PROP_ROW_COUNT, toString dataset.rowCount),
    (PROP_FRAGMENT_COUNT, toString dataset.fragmentCount),
    (PROP_INDEX_COVERAGE, formatDecimal dataset.indexCoverage),
    (PROP_LATEST_VERSION, toString dataset.latestVersion),
    (PROP_SYNCED_AT, isoformatUtc syncedAt) ]

/-- Render a dataset as a `properties` patch; without `now` it is stamped by the clock. -/
def datasetToPropertyPatch (zone : DateTime → Except PyException TimeDelta) (clock : Moment)
    (dataset : OperationalDataset) (now : Option Moment) :
    Except PyException (Dict String String) := do
  let syncedAt ← astimezone zone (now.getD clock)
  return Dict.ofList (datasetEntries dataset syncedAt)

/-- What `index_to_property_patch` is called with. -/
structure IndexState where
  indexName : String
  state : String
  column : String
  lastOptimizedAt : Option Moment

/-- The display of an index's patch. -/
def indexEntries (index : IndexState) (lastOptimizedAt : String) : List (String × String) :=
  let (stateKey, columnKey, lastKey) := indexPropertyKeys index.indexName
  [(stateKey, index.state), (columnKey, index.column), (lastKey, lastOptimizedAt)]

/-- Render a single index as a `properties` patch. -/
def indexToPropertyPatch (zone : DateTime → Except PyException TimeDelta) (index : IndexState) :
    Except PyException (Dict String String) := do
  let lastOptimizedAt ← formatIsoUtc zone index.lastOptimizedAt
  return Dict.ofList (indexEntries index lastOptimizedAt)

/-! ## The keys of an index -/

/-- The three keys of an index, in the order of its patch. -/
def indexKeys (indexName : String) : List String :=
  let (stateKey, columnKey, lastKey) := indexPropertyKeys indexName
  [stateKey, columnKey, lastKey]

def indexSuffixes : List String :=
  [PROP_INDEX_STATE_SUFFIX, PROP_INDEX_COLUMN_SUFFIX, PROP_INDEX_LAST_OPTIMIZED_SUFFIX]

def datasetKeys : List String :=
  [PROP_DATASET_UUID, PROP_TENANT_ID, PROP_STATUS, PROP_ROW_COUNT, PROP_FRAGMENT_COUNT,
    PROP_INDEX_COVERAGE, PROP_LATEST_VERSION, PROP_SYNCED_AT]

theorem mem_indexKeys {indexName k : String} :
    k ∈ indexKeys indexName ↔ ∃ suffix ∈ indexSuffixes,
      k = LCP_PROPERTY_PREFIX ++ INDEX_PROPERTY_INFIX ++ indexName ++ suffix := by
  simp [indexKeys, indexPropertyKeys, indexSuffixes]

theorem indexSuffixes_free : KeyText.SuffixFree (indexSuffixes.map String.toList) := by decide

/-- A key of an index tells the index's name, whatever is in it. -/
theorem indexKey_inj {one two s t : String} (inS : s ∈ indexSuffixes) (inT : t ∈ indexSuffixes)
    (same : LCP_PROPERTY_PREFIX ++ INDEX_PROPERTY_INFIX ++ one ++ s =
      LCP_PROPERTY_PREFIX ++ INDEX_PROPERTY_INFIX ++ two ++ t) : one = two ∧ s = t := by
  have chars := congrArg String.toList same
  rw [String.toList_append (t := s), String.toList_append (t := t)] at chars
  obtain ⟨bases, suffixes⟩ := indexSuffixes_free.append_inj (List.mem_map_of_mem inS)
    (List.mem_map_of_mem inT) chars
  rw [String.toList_append (t := one), String.toList_append (t := two)] at bases
  exact ⟨String.toList_inj.1 (List.append_cancel_left bases), String.toList_inj.1 suffixes⟩

theorem indexKeys_disjoint {one two : String} (other : one ≠ two) :
    (indexKeys one).Disjoint (indexKeys two) := by
  intro k ofOne ofTwo
  obtain ⟨s, inS, rfl⟩ := mem_indexKeys.1 ofOne
  obtain ⟨t, inT, same⟩ := mem_indexKeys.1 ofTwo
  exact other (indexKey_inj inS inT same).1

theorem indexKeys_nodup (indexName : String) : (indexKeys indexName).Nodup := by
  have spelled : indexKeys indexName = indexSuffixes.map fun suffix =>
      LCP_PROPERTY_PREFIX ++ INDEX_PROPERTY_INFIX ++ indexName ++ suffix := rfl
  have distinct : indexSuffixes.Nodup := by decide
  rw [spelled]
  refine distinct.map_on fun s inS t inT same => ?_
  exact (indexKey_inj inS inT same).2

/-- No key of a dataset goes on from `lcp.` with the infix of the indexes. -/
theorem index_ne_dataset {indexName k : String} (ofIndex : k ∈ indexKeys indexName) :
    k ∉ datasetKeys := by
  obtain ⟨suffix, -, rfl⟩ := mem_indexKeys.1 ofIndex
  intro ofDataset
  have outside : ∀ k ∈ datasetKeys,
      ¬ (LCP_PROPERTY_PREFIX ++ INDEX_PROPERTY_INFIX).toList <+: k.toList := by decide
  apply outside _ ofDataset
  rw [String.toList_append (t := suffix), String.toList_append (t := indexName),
    List.append_assoc]
  exact List.prefix_append _ _

theorem length_flatMap_indexKeys (names : List String) :
    (names.flatMap indexKeys).length = 3 * names.length := by
  induction names with
  | nil => rfl
  | cons name rest ih =>
      have three : (indexKeys name).length = 3 := rfl
      rw [List.flatMap_cons, List.length_append, ih, three, List.length_cons]
      omega

theorem datasetKeys_nodup : datasetKeys.Nodup := by decide

/-- The keys of a dataset and of its indexes are all different ones. -/
theorem keys_nodup {names : List String} (distinct : names.Nodup) :
    (datasetKeys ++ names.flatMap indexKeys).Nodup := by
  have indexes : (names.flatMap indexKeys).Nodup := by
    rw [List.nodup_flatMap]
    refine ⟨fun name _ => indexKeys_nodup name, ?_⟩
    exact distinct.imp fun other => indexKeys_disjoint other
  refine List.nodup_append'.2 ⟨datasetKeys_nodup, indexes, ?_⟩
  intro k ofDataset ofIndex
  obtain ⟨name, -, member⟩ := List.mem_flatMap.1 ofIndex
  exact index_ne_dataset member ofDataset

/-- Every key is one of the prefix's namespace. -/
theorem owned_of_mem {names : List String} {k : String}
    (member : k ∈ datasetKeys ++ names.flatMap indexKeys) :
    ∃ rest, k = LCP_PROPERTY_PREFIX ++ rest := by
  rcases List.mem_append.1 member with ofDataset | ofIndexes
  · simp only [datasetKeys, List.mem_cons, List.not_mem_nil, or_false] at ofDataset
    rcases ofDataset with rfl | rfl | rfl | rfl | rfl | rfl | rfl | rfl <;> exact ⟨_, rfl⟩
  · obtain ⟨name, -, ofIndex⟩ := List.mem_flatMap.1 ofIndexes
    obtain ⟨suffix, -, rfl⟩ := mem_indexKeys.1 ofIndex
    exact ⟨INDEX_PROPERTY_INFIX ++ name ++ suffix, by simp only [String.append_assoc]⟩

/-! ## The entries of a patch -/

section Entries

variable {zone : DateTime → Except PyException TimeDelta}

theorem rows_datasetToPropertyPatch {clock : Moment} {dataset : OperationalDataset}
    {now : Option Moment} {patch : Dict String String}
    (rendered : datasetToPropertyPatch zone clock dataset now = .ok patch) :
    ∃ syncedAt, astimezone zone (now.getD clock) = .ok syncedAt ∧
      patch.rows = datasetEntries dataset syncedAt := by
  unfold datasetToPropertyPatch at rendered
  obtain ⟨syncedAt, converted, displayed⟩ := bind_eq_ok rendered
  obtain rfl := Except.ok.inj displayed
  exact ⟨syncedAt, converted, Dict.rows_ofList datasetKeys_nodup⟩

theorem rows_indexToPropertyPatch {index : IndexState} {patch : Dict String String}
    (rendered : indexToPropertyPatch zone index = .ok patch) :
    ∃ text, formatIsoUtc zone index.lastOptimizedAt = .ok text ∧
      patch.rows = indexEntries index text := by
  unfold indexToPropertyPatch at rendered
  obtain ⟨text, formatted, displayed⟩ := bind_eq_ok rendered
  obtain rfl := Except.ok.inj displayed
  exact ⟨text, formatted, Dict.rows_ofList (indexKeys_nodup index.indexName)⟩

/-- What the `DATETIME` column holds is always rendered. -/
theorem formatIsoUtc_of_naive {value : Moment} (naive : value.utcoffset = none) :
    formatIsoUtc zone (some value) = .ok (isoformatUtc value.wall) := by
  have unmoved : value.wall - (0 : Int) = value.wall := Int.sub_zero value.wall
  simp only [formatIsoUtc, astimezone, naive, Option.none_or, bind, Except.bind]
  rw [unmoved, if_pos value.valid]
  rfl

end Entries

/-! ## Many patches -/

section Merges

variable {zone : DateTime → Except PyException TimeDelta} {clock : Moment}
  {dataset : OperationalDataset} {now : Option Moment} {indexes : List IndexState}

variable (zone clock dataset now indexes) in
/-- One map that has every value of a dataset and of its indexes under its own key. -/
structure Lossless (merged : Dict String String) : Prop where
  size : merged.keys.length = 8 + 3 * indexes.length
  owned : ∀ k ∈ merged.keys, ∃ rest, k = LCP_PROPERTY_PREFIX ++ rest
  datasetUuid : merged.find PROP_DATASET_UUID = some dataset.datasetUuid
  tenantId : merged.find PROP_TENANT_ID = some dataset.tenantId
  status : merged.find PROP_STATUS = some dataset.status.toString
  rowCount : merged.find PROP_ROW_COUNT = some (toString dataset.rowCount)
  fragmentCount : merged.find PROP_FRAGMENT_COUNT = some (toString dataset.fragmentCount)
  indexCoverage : merged.find PROP_INDEX_COVERAGE = some (formatDecimal dataset.indexCoverage)
  latestVersion : merged.find PROP_LATEST_VERSION = some (toString dataset.latestVersion)
  syncedAt : ∃ utc, astimezone zone (now.getD clock) = .ok utc ∧
    merged.find PROP_SYNCED_AT = some (isoformatUtc utc)
  state : ∀ index ∈ indexes,
    merged.find (indexPropertyKeys index.indexName).1 = some index.state
  column : ∀ index ∈ indexes,
    merged.find (indexPropertyKeys index.indexName).2.1 = some index.column
  lastOptimizedAt : ∀ index ∈ indexes, ∃ text,
    formatIsoUtc zone index.lastOptimizedAt = .ok text ∧
      merged.find (indexPropertyKeys index.indexName).2.2 = some text

variable {ofDataset : Dict String String} {ofIndexes : List (Dict String String)}

theorem keys_indexPatches
    (rendered : List.Forall₂ (fun index patch => indexToPropertyPatch zone index = .ok patch)
      indexes ofIndexes) :
    ofIndexes.flatMap Table.keys = (indexes.map IndexState.indexName).flatMap indexKeys := by
  induction rendered with
  | nil => rfl
  | cons head _ ih =>
      obtain ⟨text, -, rows⟩ := rows_indexToPropertyPatch head
      rw [List.flatMap_cons, List.map_cons, List.flatMap_cons, ih, Table.keys, rows]
      rfl

theorem exists_patch
    (rendered : List.Forall₂ (fun index patch => indexToPropertyPatch zone index = .ok patch)
      indexes ofIndexes) {index : IndexState} (member : index ∈ indexes) :
    ∃ patch ∈ ofIndexes, indexToPropertyPatch zone index = .ok patch := by
  induction rendered with
  | nil => cases member
  | cons head _ ih =>
      rcases List.mem_cons.1 member with rfl | later
      · exact ⟨_, List.mem_cons_self, head⟩
      · obtain ⟨patch, inRest, given⟩ := ih later
        exact ⟨patch, List.mem_cons_of_mem _ inRest, given⟩

theorem keys_patches
    (ofDatasetRendered : datasetToPropertyPatch zone clock dataset now = .ok ofDataset)
    (ofIndexesRendered : List.Forall₂
      (fun index patch => indexToPropertyPatch zone index = .ok patch) indexes ofIndexes) :
    (ofDataset :: ofIndexes).flatMap Table.keys =
      datasetKeys ++ (indexes.map IndexState.indexName).flatMap indexKeys := by
  obtain ⟨utc, -, rows⟩ := rows_datasetToPropertyPatch ofDatasetRendered
  rw [List.flatMap_cons, keys_indexPatches ofIndexesRendered, Table.keys, rows]
  rfl

section Order

variable {patches order : List (Dict String String)} (apart : (patches.flatMap Table.keys).Nodup)
  (reordered : order.Perm patches)

include apart reordered

/-- The values of a patch's entries, in a merge that loses nothing. -/
theorem find_of_rows {patch : Dict String String} (member : patch ∈ patches)
    {entries : List (String × String)} (rows : patch.rows = entries) {k v : String}
    (entry : (k, v) ∈ entries) : (Dict.mergeAll order).find k = some v :=
  Dict.find_mergeAll apart reordered member (Dict.find_eq_some_iff.2 (rows ▸ entry))

theorem find_of_index {patch : Dict String String} (member : patch ∈ patches)
    {index : IndexState} (rendered : indexToPropertyPatch zone index = .ok patch) :
    ∃ text, formatIsoUtc zone index.lastOptimizedAt = .ok text ∧
      ∀ k v, (k, v) ∈ indexEntries index text → (Dict.mergeAll order).find k = some v := by
  obtain ⟨text, formatted, rows⟩ := rows_indexToPropertyPatch rendered
  exact ⟨text, formatted, fun k v entry => find_of_rows apart reordered member rows entry⟩

end Order

/-- The patches of a dataset and of indexes with different names merge, in every order, into a
map that has each of their values. -/
theorem merged_lossless
    (ofDatasetRendered : datasetToPropertyPatch zone clock dataset now = .ok ofDataset)
    (ofIndexesRendered : List.Forall₂
      (fun index patch => indexToPropertyPatch zone index = .ok patch) indexes ofIndexes)
    (distinct : (indexes.map IndexState.indexName).Nodup) {order : List (Dict String String)}
    (reordered : order.Perm (ofDataset :: ofIndexes)) :
    Lossless zone clock dataset now indexes (Dict.mergeAll order) := by
  have keys := keys_patches ofDatasetRendered ofIndexesRendered
  have apart : ((ofDataset :: ofIndexes).flatMap Table.keys).Nodup := keys ▸ keys_nodup distinct
  have merged : (Dict.mergeAll order).keys.Perm
      (datasetKeys ++ (indexes.map IndexState.indexName).flatMap indexKeys) :=
    keys ▸ Dict.keys_mergeAll_perm apart reordered
  obtain ⟨utc, converted, rows⟩ := rows_datasetToPropertyPatch ofDatasetRendered
  have found : ∀ k v, (k, v) ∈ datasetEntries dataset utc →
      (Dict.mergeAll order).find k = some v := fun k v entry =>
    find_of_rows apart reordered List.mem_cons_self rows entry
  have foundIndex : ∀ index ∈ indexes, ∃ text, formatIsoUtc zone index.lastOptimizedAt = .ok text ∧
      ∀ k v, (k, v) ∈ indexEntries index text → (Dict.mergeAll order).find k = some v := by
    intro index member
    obtain ⟨patch, inPatches, rendered⟩ := exists_patch ofIndexesRendered member
    exact find_of_index apart reordered (List.mem_cons_of_mem _ inPatches) rendered
  exact {
    size := by
      rw [merged.length_eq, List.length_append, length_flatMap_indexKeys, List.length_map]
      rfl
    owned := fun k member => owned_of_mem (merged.mem_iff.1 member)
    datasetUuid := found _ _ (by simp [datasetEntries])
    tenantId := found _ _ (by simp [datasetEntries])
    status := found _ _ (by simp [datasetEntries])
    rowCount := found _ _ (by simp [datasetEntries])
    fragmentCount := found _ _ (by simp [datasetEntries])
    indexCoverage := found _ _ (by simp [datasetEntries])
    latestVersion := found _ _ (by simp [datasetEntries])
    syncedAt := ⟨utc, converted, found _ _ (by simp [datasetEntries])⟩
    state := by
      intro index member
      obtain ⟨text, -, each⟩ := foundIndex index member
      exact each _ _ (by simp [indexEntries])
    column := by
      intro index member
      obtain ⟨text, -, each⟩ := foundIndex index member
      exact each _ _ (by simp [indexEntries])
    lastOptimizedAt := by
      intro index member
      obtain ⟨text, formatted, each⟩ := foundIndex index member
      exact ⟨text, formatted, each _ _ (by simp [indexEntries])⟩ }

end Merges

/-- An index that is named as a key of the other one is. -/
theorem merged_lossless_nested :
    let zone : DateTime → Except PyException TimeDelta := fun _ => .ok 0
    let midnight : Moment := ⟨0, none, by decide⟩
    let dataset : OperationalDataset :=
      { datasetUuid := "ds-1", catalog := "c", dbSchema := "s", tableName := "t",
        storageUri := "/data/t", tenantId := "acme", rowCount := 42 }
    let inner : IndexState := ⟨"emb", "READY", "vector", some midnight⟩
    let outer : IndexState := ⟨"emb.state", "BUILDING", "vector", none⟩
    Lossless zone midnight dataset none [inner, outer]
      (Dict.mergeAll
        [Dict.ofList (indexEntries outer ""), Dict.ofList (indexEntries inner (isoformatUtc 0)),
          Dict.ofList (datasetEntries dataset 0)]) := by
  intro zone midnight dataset inner outer
  have ofInner : indexToPropertyPatch zone inner =
      .ok (Dict.ofList (indexEntries inner (isoformatUtc 0))) := by
    rw [indexToPropertyPatch, formatIsoUtc_of_naive rfl]
    rfl
  have ofDataset : datasetToPropertyPatch zone midnight dataset none =
      .ok (Dict.ofList (datasetEntries dataset 0)) := rfl
  refine merged_lossless ofDataset (.cons ofInner (.cons rfl .nil)) (by decide) ?_
  exact List.reverse_perm [_, _, _]

end Gravitino

end Lcp
