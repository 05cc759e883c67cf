/-
# Workers.EncodedTexts -- the text of a row, in both VECTORIZE executors

`_vectorize_sync` and the batch transform of `EmbeddingExecutor` both skip the
NULL fields of a row and join the others.  The transform takes the separator from
the rule's `extra`; the planner leaves `extra` out of the task, and
`_vectorize_sync` always joins by a space.  So the two encode the same texts when
the rule's separator is a space, or no row has two fields to join
(`texts_agree_iff`), however the rows are split into record batches.
-/
import Lcp.Theory.KeyText
import Lcp.Workers.EmbeddingAlignment
import Lcp.Workers.VectorizeContract

namespace Lcp

open Theory LifecyclePlannerService

set_option autoImplicit false

namespace EmbeddingExecutor

def DEFAULT_CONCAT_SEPARATOR : String := " "

def EXTRA_KEY_CONCAT_SEPARATOR : String := "concat_separator"

/-- The source columns and the separator that `execute` takes from the rule, after its checks. -/
def resolve (str : Json → String) (rule : VectorizationRule) :
    Except PyException (List String × String) :=
  if !rule.enabled then
    .error (.valueError ("VECTORIZE vectorization_rule is disabled: id=" ++ toString rule.id))
  else
    match rule.sourceColumns with
    | none => .error (.typeError "'NoneType' object is not iterable")
    | some [] =>
        .error (.valueError ("VECTORIZE rule has empty source_columns: id=" ++ toString rule.id))
    | some columns =>
        .ok (columns, str (Json.getOr (rule.extra.getD []) EXTRA_KEY_CONCAT_SEPARATOR
          (.str DEFAULT_CONCAT_SEPARATOR)))

/-- The list `materialised` of one record batch.  The rows are zipped from the columns, so
without a column there is none. -/
def materialise (sourceColumns : List String) (separator : String) (batch : List (Fields String)) :
    List String :=
  if sourceColumns = [] then []
  else
    (batch.map fun row => sourceColumns.map row).map fun row =>
      separator.intercalate (row.filterMap id)

theorem resolve_eq_ok {str : Json → String} {rule : VectorizationRule} {columns : List String}
    {separator : String} (resolved : resolve str rule = .ok (columns, separator)) :
    rule.sourceColumns = some columns ∧ columns ≠ [] := by
  unfold resolve at resolved
  split at resolved
  · cases resolved
  · split at resolved
    · cases resolved
    · cases resolved
    · rename_i listed nonempty source
      cases resolved
      exact ⟨source, nonempty⟩

theorem materialise_of_columns {columns : List String} (nonempty : columns ≠ [])
    (separator : String) (batch : List (Fields String)) :
    materialise columns separator batch =
      batch.map fun row => separator.intercalate (columns.filterMap row) := by
  rw [materialise, if_neg nonempty, List.map_map]
  refine List.map_congr_left fun row _ => ?_
  simp [List.filterMap_map]

end EmbeddingExecutor

namespace VectorizeSync

/-- The source columns of a call that was planned for a task are those of its parameters. -/
theorem sourceColumns_of_plan {context : ExecutorContext} {task : Task} {dataset : Dataset}
    {call : VectorizeCall}
    (planned : VectorizationExecutor.plan context task dataset = .ok (.embed call)) :
    call.sourceColumns = Json.getOr (task.params.getD []) "source_columns" (.list []) := by
  unfold VectorizationExecutor.plan at planned
  obtain ⟨batchSize, -, planned⟩ := bind_eq_ok planned
  split at planned
  · cases planned
  · simp only at planned
    split at planned
    · cases planned
    · obtain ⟨extra, -, planned⟩ := bind_eq_ok planned
      cases planned
      rfl

/-- The executor that runs the planner's task of a rule reads the rule's columns. -/
theorem sourceColumns_of_planned {context : ExecutorContext} {task : Task}
    {dataset parent : Dataset} {call : VectorizeCall} {now : DateTime} {policy : LifecyclePolicy}
    {rule : VectorizationRule} {columns : List String}
    (params : task.params = some (vectorizeDue now policy parent rule).params)
    (planned : VectorizationExecutor.plan context task dataset = .ok (.embed call))
    (source : rule.sourceColumns = some columns) : sourceColumns call = columns := by
  have listed : call.sourceColumns = .list (columns.map .str) := by
    rw [sourceColumns_of_plan planned, params, Option.getD_some]
    simp only [vectorizeDue, source]
    rfl
  have names : columnNames (.list (columns.map .str)) = some columns := by
    rw [columnNames, List.mapM_map]
    exact (List.mapM_pure (f := id)).trans (congrArg some (List.map_id columns))
  rw [sourceColumns, listed]
  exact congrArg (Option.getD · []) names

/-- **When both executors encode the same texts.**  Row by row, for every split of the rows into
record batches: when the rule's separator is a space, or every row has at most one source field
that is not NULL. -/
theorem texts_agree_iff {context : ExecutorContext} {task : Task} {dataset parent : Dataset}
    {call : VectorizeCall} {now : DateTime} {policy : LifecyclePolicy} {rule : VectorizationRule}
    {str : Json → String} {columns : List String} {separator : String}
    (params : task.params = some (vectorizeDue now policy parent rule).params)
    (planned : VectorizationExecutor.plan context task dataset = .ok (.embed call))
    (resolved : EmbeddingExecutor.resolve str rule = .ok (columns, separator))
    (batches : List (List (Fields String))) :
    texts id (sourceColumns call) batches.flatten =
        batches.flatMap (EmbeddingExecutor.materialise columns separator) ↔
      separator = " " ∨ ∀ row ∈ batches.flatten, (columns.filterMap row).length ≤ 1 := by
  obtain ⟨source, nonempty⟩ := EmbeddingExecutor.resolve_eq_ok resolved
  have read : texts id (sourceColumns call) batches.flatten =
      batches.flatten.map fun row => " ".intercalate (columns.filterMap row) := by
    rw [sourceColumns_of_planned params planned source, texts]
    refine List.map_congr_left fun row _ => ?_
    simp [textOfRow]
  have transformed : batches.flatMap (EmbeddingExecutor.materialise columns separator) =
      batches.flatten.map fun row => separator.intercalate (columns.filterMap row) := by
    rw [List.map_flatten, ← List.flatMap_def]
    exact List.flatMap_congr fun batch _ =>
      EmbeddingExecutor.materialise_of_columns nonempty separator batch
  rw [read, transformed, List.map_inj_left]
  constructor
  · intro same
    by_cases space : separator = " "
    · exact .inl space
    · refine .inr fun row member => ?_
      have joined := (KeyText.intercalate_eq_iff " " separator _).1 (same row member)
      exact joined.resolve_left fun equal => space equal.symm
  · rintro (rfl | short) row member
    · rfl
    · exact (KeyText.intercalate_eq_iff " " separator _).2 (.inr (short row member))

section Runs

/-- Settings with an endpoint. -/
def embeddingSettings : ExecutorContext where
  now := DateTime.start2026
  embeddingDefaultEndpoint := "http://embedding:8000/v1/embeddings"

def articlesTable : Dataset where
  datasetUuid := "d1"
  catalog := "lake"
  dbSchema := "acme"
  tableName := "articles"
  storageUri := "s3://acme/articles"
  tenantId := "acme"

/-- A rule over two columns. -/
def titleAndBody (extra : Option JsonDict) : VectorizationRule where
  id := 1
  datasetUuid := "d1"
  targetColumn := "vec"
  sourceColumns := some ["title", "body"]
  modelName := "bge"
  modelVersion := "v1"
  extra

/-- The planner's task of the rule. -/
def plannedTask (rule : VectorizationRule) : Task where
  taskUuid := "t"
  taskType := .vectorize
  datasetUuid := "d1"
  tenantId := "acme"
  createdAt := DateTime.start2026
  params := some (vectorizeDue DateTime.start2026
    { id := 1, datasetUuid := "d1", policyName := "p" } articlesTable rule).params

/-- One row with both fields. -/
def bothFields : Fields String := fun column =>
  if column = "title" then some "a" else if column = "body" then some "b" else none

def barSeparated : VectorizationRule := titleAndBody (some [("concat_separator", .str "|")])

/-- The separator of the rule does not reach the planner's task. -/
theorem texts_differ_bar :
    ∃ call, VectorizationExecutor.plan embeddingSettings (plannedTask barSeparated) articlesTable =
        .ok (.embed call) ∧
      EmbeddingExecutor.resolve (Json.pyStr toString) barSeparated =
        .ok (["title", "body"], "|") ∧
      texts id (sourceColumns call) [[bothFields]].flatten ≠
        [[bothFields]].flatMap (EmbeddingExecutor.materialise ["title", "body"] "|") :=
  ⟨_, rfl, rfl, by decide +kernel⟩

theorem texts_agree_default :
    ∃ call, VectorizationExecutor.plan embeddingSettings (plannedTask (titleAndBody none))
        articlesTable = .ok (.embed call) ∧
      texts id (sourceColumns call) [[bothFields], [bothFields, fun _ => none]].flatten =
        [[bothFields], [bothFields, fun _ => none]].flatMap
          (EmbeddingExecutor.materialise ["title", "body"] " ") :=
  ⟨_, rfl, (@texts_agree_iff embeddingSettings (plannedTask (titleAndBody none)) articlesTable
    articlesTable _ DateTime.start2026
    { id := 1, datasetUuid := "d1", policyName := "p" } (titleAndBody none)
    (Json.pyStr toString) _ " " rfl rfl rfl _).2 (.inl rfl)⟩

end Runs

end VectorizeSync

end Lcp
