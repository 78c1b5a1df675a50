import SearchSql.Error
import SearchSql.Json.Reader
import SearchSql.Text.CharacterClass

/-!
# Responses of the search engine

A response of success holds a document, or nothing, which counts as `null`. Any other response is a
failure, whose reason is looked for in the document and otherwise is the whole text.
-/

namespace SearchSql.Http

structure Response where
  status : Nat := 200
  body : String := ""
deriving DecidableEq

namespace Response

def isSuccess (response : Response) : Bool := 200 ≤ response.status && response.status < 300

def textMember? (value : Json) (name : String) : Option String :=
  (value.member? name).bind Json.asText?

/-- The reason of an error, or else that of the first of its causes. -/
def statedReason? (error : Json) : Option String :=
  (textMember? error "reason").or
    (((error.member? "root_cause").bind (·.element? 0)).bind (textMember? · "reason"))

/-- The reason in an error document: the error itself when it is a text. -/
def documentReason? (document : Json) : Option String := do
  let error ← document.member? "error"
  match error with
  | .string text => some text
  | error =>
    let reason ← statedReason? error
    match textMember? error "details" with
    | some details => some (if details.isEmpty then reason else reason ++ ": " ++ details)
    | none => some reason

def errorReason (body : String) : String :=
  ((Json.read body).bind documentReason?).getD (Text.trim body)

/-- The document that a response brings. -/
def document (response : Response) : Except BackendError Json :=
  if !response.isSuccess then .error (.status response.status (errorReason response.body))
  else if Text.isAllBlank response.body then .ok .null
  else
    match Json.read response.body with
    | some document => .ok document
    | none => .error (.decode "invalid JSON")

end Response

end SearchSql.Http
