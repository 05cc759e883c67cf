/-
# Workers.VectorizeSync -- the body of the VECTORIZE executor

`_vectorize_sync` reads the rows without a vector, joins their source columns
into texts, sends the texts to the embedding endpoint in batches and then builds
an array of the vectors that came back.  The comment at that place says that
lance's update mechanism writes a new version; there is no such call, so the
table that `vectorizeSync` returns is the one it was given.

Pylance, the endpoint and pyarrow are outside (`VectorizeIo`): what they raise,
what a cell renders to, what the endpoint answers to its `k`-th request.  A table
is its rows; a column that is not there reads as NULL.

The parameters come out of JSON and are passed on as they are: the target column
into an f-string, the source columns to pylance, which takes a list of names or, in
the scan without a filter, a dictionary of expressions.
-/
import Lcp.Theory.Chunks
import Lcp.Theory.Dict
import Lcp.Workers.Executors

namespace Lcp

open Theory

set_option autoImplicit false

/-- A row by column name; NULL and an absent column are `none`. -/
abbrev Fields (V : Type) := String → Option V

/-- An answer of the endpoint: its status, what `raise_for_status` says of a bad one, and what
`json()` returns or raises. -/
structure HttpResponse where
  statusCode : Nat := 200
  statusMessage : String := ""
  json : Except PyException Json

/-- A request: `client.post(endpoint, json={"input": ..., "model": ...}, headers=...)`. -/
structure EmbeddingRequest where
  endpoint : Json
  input : List String
  model : Json
  headers : JsonDict

/-- What a call meets outside the process. -/
structure VectorizeIo (V : Type) where
  /-- What opening the dataset raises. -/
  openFault : Option PyException := none
  /-- What the scan with the NULL filter raises, for one that the target column does not exist. -/
  filterFault : Option PyException := none
  /-- What the scan without a filter raises. -/
  scanFault : Option PyException := none
  /-- What pylance raises over columns that it does not take. -/
  refused : Json → PyException := fun _ => .typeError "columns must be a list or a dictionary"
  /-- The row that a scan computes for columns given by expressions. -/
  computed : JsonDict → Fields V → Fields V := fun _ row => row
  /-- The rendering `str(value)` of a cell. -/
  strOf : V → String
  /-- The interpreter's rendering of a float. -/
  floatRepr : Rat → String := fun _ => ""
  /-- The answer to the `k`-th request. -/
  post : Nat → EmbeddingRequest → Except PyException HttpResponse
  /-- The conversion `pa.array(vectors, type=pa.list_(pa.float32()))`. -/
  floatArray : List Json → Except PyException Unit := fun _ => .ok ()

namespace VectorizeSync

/-! ## Texts -/

/-- The names in a list of texts. -/
def columnNames : Json → Option (List String)
  | .list items => items.mapM fun | .str name => some name | _ => none
  | _ => none

/-- What `for col in source_columns` goes over, once the columns were read. -/
def sourceColumns (call : VectorizeCall) : List String :=
  match call.sourceColumns with
  | .dict entries => entries.map Prod.fst
  | columns => (columnNames columns).getD []

/-- The text of a row: its source fields that are not NULL, joined by a space. -/
def textOfRow {V : Type} (strOf : V → String) (columns : List String) (row : Fields V) : String :=
  " ".intercalate (columns.filterMap fun col => (row col).map strOf)

def texts {V : Type} (strOf : V → String) (columns : List String) (rows : List (Fields V)) :
    List String := rows.map (textOfRow strOf columns)

/-! ## The batching loop -/

/-- What `response.raise_for_status()` raises. -/
def raiseForStatus (response : HttpResponse) : Except PyException Unit :=
  if 200 ≤ response.statusCode ∧ response.statusCode < 300 then .ok ()
  else .error ⟨"HTTPStatusError", response.statusMessage⟩

/-- The embeddings of a response. -/
def embeddingsOf (response : HttpResponse) : Except PyException (List Json) := do
  raiseForStatus response
  let data ← response.json
  let items ← (← data.subscript "data").iterate
  items.mapM fun item => item.subscript "embedding"

variable {V : Type} (io : VectorizeIo V) (call : VectorizeCall)

/-- The column of the filter `f"{target_column} IS NULL"`. -/
def targetColumn : String := call.targetColumn.pyStr io.floatRepr

/-- The headers of every request. -/
def reqHeaders : Except PyException JsonDict :=
  let contentType : Dict String Json := .single ("Content-Type", .str "application/json")
  if !call.apiKey.truthy then .ok contentType.rows
  else
    match call.apiKeyHeader with
    | .str header =>
        if header.toLower = "authorization" then
          .ok (Dict.set contentType "Authorization"
            (.str ("Bearer " ++ call.apiKey.pyStr io.floatRepr))).rows
        else .ok (Dict.set contentType header call.apiKey).rows
    | value =>
        .error (.attributeError (pyRepr value.typeName ++ " object has no attribute 'lower'"))

/-- Send the batch as request `k` and take the embeddings of the answer.  The loop is entered
only when the headers were built. -/
def embed (k : Nat) (batch : List String) : Except PyException (List Json) := do
  let response ← io.post k
    { endpoint := call.endpoint
      input := batch
      model := call.modelName
      headers := (reqHeaders io call).toOption.getD [] }
  embeddingsOf response

/-- The lists of the loop. -/
structure Batching where
  allEmbeddings : List Json := []
  batchesSent : Nat := 0
  errors : List String := []

/-- One pass of the loop. -/
def sendBatch (acc : Batching) (batch : List String) : Batching :=
  match embed io call acc.batchesSent batch with
  | .ok embeddings =>
      { acc with
        allEmbeddings := acc.allEmbeddings ++ embeddings
        batchesSent := acc.batchesSent + 1 }
  | .error exc =>
      -- an empty list a text, so that the rows of this batch are skipped
      { allEmbeddings := acc.allEmbeddings ++ batch.map fun _ => .list []
        batchesSent := acc.batchesSent + 1
        errors := acc.errors ++ ["batch " ++ toString acc.batchesSent ++ ": " ++ exc.message] }

/-- The slices over `range(0, len(texts), batch_size)`. -/
def batches (texts : List String) : Except PyException (List (List String)) :=
  if call.batchSize = 0 then .error (.valueError "range() arg 3 must not be zero")
  else if call.batchSize < 0 then .ok []
  else .ok (chunks call.batchSize.toNat texts)

/-- The loop over the batches. -/
def batching (texts : List String) : Except PyException Batching := do
  return (← batches call texts).foldl (sendBatch io call) {}

/-! ## The end of the call -/

/-- The value of `any(len(e) > 0 for e in all_embeddings)`. -/
def anyFilled : List Json → Except PyException Bool
  | [] => .ok false
  | e :: rest => do
      if 0 < (← e.len) then return true
      else anyFilled rest

/-- The entries at `valid_indices`. -/
def filled : List Json → Except PyException (List Json)
  | [] => .ok []
  | e :: rest => do
      let here ← e.len
      let later ← filled rest
      return if 0 < here then e :: later else later

/-- The write-back: it converts the vectors and counts them.  The second component are the rows
of the table afterwards. -/
def writeBack (allEmbeddings : List Json) (table : List (Fields V)) :
    Except PyException (Nat × List (Fields V)) := do
  if !(← anyFilled allEmbeddings) then return (0, table)
  else
    let vectors ← filled allEmbeddings
    if vectors = [] then return (0, table)
    else
      io.floatArray vectors
      return (vectors.length, table)

/-- What the filtered scan raises; its columns are a list with the row ids in front. -/
def filteredFault : Option PyException :=
  match columnNames call.sourceColumns with
  | some _ => io.filterFault
  | none => some (io.refused call.sourceColumns)

/-- What the scan without a filter raises. -/
def fullFault : Option PyException :=
  match call.sourceColumns, columnNames call.sourceColumns with
  | .dict _, _ | _, some _ => io.scanFault
  | columns, none => some (io.refused columns)

/-- A row of the scan without a filter. -/
def scanned (row : Fields V) : Fields V :=
  match call.sourceColumns with
  | .dict entries => io.computed entries row
  | _ => row

/-- The rows to embed: those without a target, or all when the filtered scan raises. -/
def readRows (table : List (Fields V)) : Except PyException (List (Fields V)) :=
  match filteredFault io call, fullFault io call with
  | none, _ => .ok (table.filter fun row => (row (targetColumn io call)).isNone)
  | some _, none => .ok (table.map (scanned io call))
  | some _, some exc => .error exc

/-- The dictionary of a call that went through. -/
def payload (rowsWritten total : Nat) (sent : Batching) : JsonDict :=
  [ ("rows_processed", .int rowsWritten),
    ("total_unvectorized", .int total),
    ("batches", .int sent.batchesSent),
    ("errors", if sent.errors = [] then .null else .list (sent.errors.map .str)),
    ("status", .str "completed") ]

/-- Embed the rows without a vector: what the call returns, and the table afterwards. -/
def vectorizeSync (table : List (Fields V)) :
    Except PyException (JsonDict × List (Fields V)) := do
  if let some exc := io.openFault then .error exc
  else
    match readRows io call table with
    | .error exc =>
        return ([ ("error", .str ("Failed to read dataset: " ++ exc.message)),
          ("rows_processed", .int 0) ], table)
    | .ok rows =>
        if rows.length = 0 then
          return ([ ("rows_processed", .int 0), ("batches", .int 0),
            ("status", .str "no_new_rows") ], table)
        else
          let _ ← reqHeaders io call
          let sent ← batching io call (texts io.strOf (sourceColumns call) rows)
          let (rowsWritten, after) ← writeBack io sent.allEmbeddings table
          return (payload rowsWritten rows.length sent, after)

/-! ## What the parts do -/

/-- The embeddings that the endpoint returned for batch `k`; `none` for a batch that failed. -/
def answer (texts : List String) (k : Nat) : Option (List Json) :=
  (embed io call k (chunk call.batchSize.toNat texts k)).toOption

/-- An embedding that is written back. -/
def isFilled (e : Json) : Bool :=
  match e.len with
  | .ok n => 0 < n
  | .error _ => false

variable {io call}

/-- The state of the loop after so many batches. -/
structure Sent (io : VectorizeIo V) (call : VectorizeCall) (texts : List String) (count : Nat)
    (acc : Batching) : Prop where
  allEmbeddings : acc.allEmbeddings = (List.range count).flatMap
    (contribution (.list []) call.batchSize.toNat texts (answer io call texts))
  batchesSent : acc.batchesSent = count
  errors : acc.errors = [] ↔ ∀ k < count, answer io call texts k ≠ none

theorem sent_of_loop (io : VectorizeIo V) (call : VectorizeCall) (texts : List String)
    (count : Nat) :
    Sent io call texts count
      (((List.range count).map (chunk call.batchSize.toNat texts)).foldl
        (sendBatch io call) {}) := by
  induction count with
  | zero => exact ⟨rfl, rfl, by simp⟩
  | succ count ih =>
      rw [List.range_succ, List.map_append, List.foldl_append]
      generalize ((List.range count).map (chunk call.batchSize.toNat texts)).foldl
        (sendBatch io call) {} = acc at ih
      obtain ⟨allEmbeddings, batchesSent, errors⟩ := ih
      simp only [List.map_cons, List.map_nil, List.foldl_cons, List.foldl_nil, sendBatch,
        batchesSent]
      cases given : embed io call count (chunk call.batchSize.toNat texts count) with
      | ok embeddings =>
          have here : answer io call texts count = some embeddings := by
            simp [answer, given, Except.toOption]
          refine ⟨?_, rfl, ?_⟩
          · simp [List.range_succ, allEmbeddings, contribution, here]
          · rw [errors]
            constructor
            · intro before k below
              rcases Nat.lt_succ_iff_lt_or_eq.1 below with earlier | rfl
              · exact before k earlier
              · simp [here]
            · exact fun all k below => all k (by omega)
      | error exc =>
          have here : answer io call texts count = none := by
            simp [answer, given, Except.toOption]
          refine ⟨?_, rfl, ?_⟩
          · simp [List.range_succ, allEmbeddings, contribution, here]
          · constructor
            · intro none_
              simp at none_
            · intro all
              exact absurd here (all count (Nat.lt_succ_self count))

/-- A loop that ends went over the chunks, or over nothing for a negative batch size. -/
theorem batching_eq_ok {texts : List String} {sent : Batching}
    (ran : batching io call texts = .ok sent) :
    (call.batchSize < 0 ∧ sent = {}) ∨
      0 < call.batchSize ∧
        Sent io call texts (chunkCount call.batchSize.toNat texts.length) sent := by
  unfold batching batches at ran
  split at ran
  · cases ran
  · rename_i nonzero
    split at ran
    · rename_i negative
      cases ran
      exact .inl ⟨negative, rfl⟩
    · rename_i notNegative
      cases ran
      exact .inr ⟨by omega, sent_of_loop io call texts _⟩

theorem batching_of_pos (io : VectorizeIo V) (texts : List String) (pos : 0 < call.batchSize) :
    ∃ sent, batching io call texts = .ok sent ∧
      Sent io call texts (chunkCount call.batchSize.toNat texts.length) sent := by
  refine ⟨_, ?_, sent_of_loop io call texts _⟩
  have nonzero : ¬ call.batchSize = 0 := by omega
  have notNegative : ¬ call.batchSize < 0 := by omega
  simp only [batching, batches, nonzero, notNegative, if_false]
  rfl

theorem filled_eq_ok {all vectors : List Json} (ran : filled all = .ok vectors) :
    vectors = all.filter isFilled := by
  induction all generalizing vectors with
  | nil =>
      cases ran
      rfl
  | cons e rest ih =>
      obtain ⟨here, sized, ran⟩ := bind_eq_ok ran
      obtain ⟨later, tail, ran⟩ := bind_eq_ok ran
      cases ran
      rw [List.filter_cons, ← ih tail]
      by_cases some_ : 0 < here
      · simp [isFilled, sized, some_]
      · simp [isFilled, sized, some_]

theorem anyFilled_eq_ok {all : List Json} {any : Bool} (ran : anyFilled all = .ok any) :
    any = all.any isFilled := by
  induction all with
  | nil =>
      cases ran
      rfl
  | cons e rest ih =>
      obtain ⟨here, sized, ran⟩ := bind_eq_ok ran
      rw [List.any_cons]
      by_cases some_ : 0 < here
      · rw [if_pos some_] at ran
        cases ran
        simp [isFilled, sized, some_]
      · rw [if_neg some_] at ran
        rw [← ih ran]
        simp [isFilled, sized, some_]

/-- The write-back counts the embeddings that are not empty, and leaves the table. -/
theorem writeBack_eq_ok {all : List Json} {table after : List (Fields V)} {n : Nat}
    (ran : writeBack io all table = .ok (n, after)) :
    n = (all.filter isFilled).length ∧ after = table := by
  unfold writeBack at ran
  obtain ⟨any, some_, ran⟩ := bind_eq_ok ran
  have isAny := anyFilled_eq_ok some_
  cases any with
  | false =>
      cases ran
      refine ⟨?_, rfl⟩
      have none_ : all.filter isFilled = [] := by
        refine List.filter_eq_nil_iff.2 fun e member hit => ?_
        have found : all.any isFilled = true := List.any_eq_true.2 ⟨e, member, hit⟩
        rw [← isAny] at found
        cases found
      rw [none_]
      rfl
  | true =>
      rw [Bool.not_true, if_neg Bool.false_ne_true] at ran
      obtain ⟨vectors, collected, ran⟩ := bind_eq_ok ran
      obtain rfl := filled_eq_ok collected
      split at ran
      · rename_i empty
        cases ran
        exact ⟨by rw [empty]; rfl, rfl⟩
      · obtain ⟨-, -, ran⟩ := bind_eq_ok ran
        cases ran
        exact ⟨rfl, rfl⟩

end VectorizeSync

end Lcp
