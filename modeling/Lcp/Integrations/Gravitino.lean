/-
# Integrations.Gravitino -- the catalog client and the patch of a dataset

Every request of the client ends in one of three ways: the HTTP library raises, the status
is not 2xx, or there is a body.  Only the second is a `GravitinoAPIError`; what the library
raises, and what the accesses to a body of another shape raise, passes through.

`DatasetPatch` is the mapping's own contract of what a fileset makes of a row.
-/
import Lcp.Core.Python
import Lcp.Db.Models

namespace Lcp.Gravitino

set_option autoImplicit false

/-! ## The client -/

/-- How a call of the client fails. -/
inductive ClientError where
  | disabled
  | api (statusCode : Nat) (detail : String)
  /-- An exception that the client does not translate. -/
  | other (e : PyException)
deriving DecidableEq

/-- The text `str(exc)`. -/
def ClientError.text : ClientError → String
  | .disabled => "Gravitino integration is disabled (LCP_GRAVITINO_URL is empty)."
  | .api statusCode detail => "Gravitino API " ++ toString statusCode ++ ": " ++ detail
  | .other e => e.message

/-- What comes of a request; `document` is what the accesses to the JSON body come to. -/
inductive Answer (α : Type) where
  | raised (e : PyException)
  | response (statusCode : Nat) (text : String) (document : Except PyException α)

/-- The body of a listing; an identifier may lack its name. -/
structure Listing where
  identifiers : Option (List (Option String)) := none

/-- The names of `data.get("identifiers") or []`. -/
def Listing.names (listing : Listing) : List String := (listing.identifiers.getD []).filterMap id

/-- The body of a fileset; an absent comment and a null are one. -/
structure FilesetDocument where
  storageLocation : Option String := none
  comment : Option String := none

/-- What the service reads of a fileset. -/
structure Fileset where
  storageLocation : String
  comment : Option String
deriving DecidableEq

/-- A client, with what its provider answers to each request. -/
structure GravitinoClient where
  enabled : Bool
  catalog : String
  schemas : Answer Listing
  filesets : String → Answer Listing
  fileset : String → String → Answer FilesetDocument

/-- The text of a failed response. -/
def detailOf (statusCode : Nat) (text : String) : String :=
  if text ≠ "" then String.ofList (text.toList.take 500) else "HTTP " ++ toString statusCode

/-- Raise on non-2xx. -/
def checkResponse (statusCode : Nat) (text : String) : Except ClientError Unit :=
  if 200 ≤ statusCode ∧ statusCode < 300 then .ok ()
  else .error (.api statusCode (detailOf statusCode text))

/-- Send a request and read its body. -/
def request {α β : Type} (enabled : Bool) (read : α → β) : Answer α → Except ClientError β
  | .raised e => if enabled then .error (.other e) else .error .disabled
  | .response statusCode text document =>
      if enabled then
        match checkResponse statusCode text, document with
        | .error e, _ => .error e
        | .ok (), .error e => .error (.other e)
        | .ok (), .ok body => .ok (read body)
      else .error .disabled

namespace GravitinoClient

variable (client : GravitinoClient)

/-- Return schema names in the configured catalog. -/
def listSchemas : Except ClientError (List String) :=
  request client.enabled Listing.names client.schemas

/-- Return fileset names under a schema. -/
def listFilesets (schema : String) : Except ClientError (List String) :=
  request client.enabled Listing.names (client.filesets schema)

/-- Fetch full fileset metadata. -/
def getFileset (schema name : String) : Except ClientError Fileset :=
  request client.enabled
    (fun document => ⟨document.storageLocation.getD "", document.comment⟩)
    (client.fileset schema name)

end GravitinoClient

/-- An enabled client raises a `GravitinoAPIError` if and only if there is a response that is
not 2xx. -/
theorem request_eq_api_iff {α β : Type} {read : α → β} {answer : Answer α} :
    (∃ statusCode detail, request true read answer = .error (.api statusCode detail)) ↔
      ∃ statusCode text document, answer = .response statusCode text document ∧
        ¬ (200 ≤ statusCode ∧ statusCode < 300) := by
  cases answer with
  | raised e =>
      refine iff_of_false ?_ ?_
      · rintro ⟨statusCode, detail, same⟩
        cases same
      · rintro ⟨statusCode, text, document, same, -⟩
        cases same
  | response statusCode text document =>
      by_cases success : 200 ≤ statusCode ∧ statusCode < 300
      · refine iff_of_false ?_ ?_
        · rintro ⟨statusCode', detail, same⟩
          cases document <;> simp [request, checkResponse, success] at same
        · rintro ⟨statusCode', text', document', same, failed⟩
          cases same
          exact failed success
      · refine iff_of_true ?_ ⟨_, _, _, rfl, success⟩
        refine ⟨statusCode, detailOf statusCode text, ?_⟩
        simp only [request, checkResponse, if_neg success, if_true]

/-! ## The mapping -/

/-- The columns that a fileset sets; `none` leaves the URI alone. -/
structure DatasetPatch where
  storageUri : Option String := none
  description : Option String := none
  descriptionPresent : Bool := false

/-- Mutate the row; whether something changed. -/
def DatasetPatch.apply (patch : DatasetPatch) (dataset : Dataset) : Dataset × Bool :=
  let uriDiffers := decide (∃ uri ∈ patch.storageUri, dataset.storageUri ≠ uri)
  let descriptionDiffers :=
    patch.descriptionPresent && decide (dataset.description ≠ patch.description)
  ({ dataset with
      storageUri := if uriDiffers then patch.storageUri.getD dataset.storageUri
        else dataset.storageUri
      description := if descriptionDiffers then patch.description else dataset.description },
    uriDiffers || descriptionDiffers)

/-- The patch of a fileset; `raw` is what the access to its original JSON comes to.  The client's
`Fileset` does not keep that JSON, and there it is an `AttributeError`. -/
def filesetToDatasetPatch (fileset : Fileset) (raw : Except PyException JsonDict) :
    Except PyException DatasetPatch := do
  let raw ← raw
  return { storageUri := some fileset.storageLocation
           description := fileset.comment
           descriptionPresent := (Json.get? raw "comment").isSome }

/-- The row agrees with the source of truth. -/
def Fileset.Agrees (fileset : Fileset) (dataset : Dataset) : Prop :=
  dataset.storageUri = fileset.storageLocation ∧ dataset.description = fileset.comment

instance (fileset : Fileset) (dataset : Dataset) : Decidable (fileset.Agrees dataset) :=
  inferInstanceAs (Decidable (_ ∧ _))

section Patches

variable {fileset : Fileset} {raw : Except PyException JsonDict} {patch : DatasetPatch}

/-- The patch of a fileset that carries a comment field. -/
theorem eq_of_filesetToDatasetPatch (made : filesetToDatasetPatch fileset raw = .ok patch)
    (carried : patch.descriptionPresent = true) :
    patch = ⟨some fileset.storageLocation, fileset.comment, true⟩ := by
  cases raw with
  | error e => cases made
  | ok raw =>
      obtain rfl := Except.ok.inj made
      exact congrArg _ carried

/-- A row that such a patch was applied to agrees with the fileset. -/
theorem agrees_apply (dataset : Dataset) (made : filesetToDatasetPatch fileset raw = .ok patch)
    (carried : patch.descriptionPresent = true) : fileset.Agrees (patch.apply dataset).1 := by
  obtain rfl := eq_of_filesetToDatasetPatch made carried
  constructor
  · by_cases same : dataset.storageUri = fileset.storageLocation
    · simp [DatasetPatch.apply, same]
    · simp [DatasetPatch.apply, same]
  · by_cases same : dataset.description = fileset.comment
    · simp [DatasetPatch.apply, same]
    · simp [DatasetPatch.apply, same]

/-- The rows that agree are those in which the patch changes nothing. -/
theorem agrees_iff_apply {dataset : Dataset} (made : filesetToDatasetPatch fileset raw = .ok patch)
    (carried : patch.descriptionPresent = true) :
    fileset.Agrees dataset ↔ (patch.apply dataset).2 = false := by
  obtain rfl := eq_of_filesetToDatasetPatch made carried
  rw [Fileset.Agrees]
  by_cases location : dataset.storageUri = fileset.storageLocation
  · by_cases comment : dataset.description = fileset.comment
    · simp [DatasetPatch.apply, location, comment]
    · simp [DatasetPatch.apply, location, comment]
  · simp [DatasetPatch.apply, location]

end Patches

end Lcp.Gravitino
