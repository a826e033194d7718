import EmailStudio.Storage.Tree
import EmailStudio.Value.Basic

/-!
# Requests and responses

What the interface is asked and what it answers, as far as it matters to either side.
-/

namespace EmailStudio.Api

/-- A request. -/
structure Request where
  method : String
  path : String
  /-- What stands behind the question mark of the address. -/
  query : String
  /-- The body as text; empty when there is none. -/
  body : String
  /-- The identifier that the client follows its request by. -/
  correlation : Option String

/-- What a response carries. -/
inductive Content where
  | nothing
  | document (v : Value)
  | bytes (type : String) (content : Bytes)

/-- A response. -/
structure Response where
  status : Nat
  content : Content
  /-- The identifier that the request is followed by, where it is told. -/
  correlation : Option String := none

namespace Response

def ok (v : Value) : Response := ⟨200, .document v, none⟩

def created (v : Value) : Response := ⟨201, .document v, none⟩

/-- A response that says what is wrong. -/
def detail (status : Nat) (detail : Value) : Response :=
  ⟨status, .document (.object [("detail", detail)]), none⟩

def notFound : Response := detail 404 (.text "Not Found")

def methodNotAllowed : Response := detail 405 (.text "Method Not Allowed")

/-- The path is known with a slash more or less at its end. -/
def redirect : Response := ⟨307, .nothing, none⟩

/-- Something went wrong that nobody foresaw. Details are told only while debugging. -/
def internalError (details : Option String) : Response :=
  ⟨500, .document (.object [("error", .text "Internal server error"),
    ("detail", .text (details.getD "An unexpected error occurred"))]), none⟩

/-- The document of a response, null when it carries none. -/
def document (response : Response) : Value :=
  match response.content with
  | .document v => v
  | _ => .null

end Response

end EmailStudio.Api
