import ConnectTokens.Issuance.Error

/-!
# Answers to requests

What a matchmaker answers a request with, and the two ways in which a match is
refused.

## Main Definitions

* `Response`: status, two headers and body.
* `MatchError`, `MatchError.response`: why there is no match.
-/

namespace ConnectTokens

/-- An answer to a request. -/
@[ext] structure Response where
  status : Nat
  contentType : Option String
  /-- Whether a client may guess another type of content. -/
  contentTypeOptions : Option String
  body : String
deriving DecidableEq, Repr

namespace Response

/-- An answer in plain text, whose type a client may not guess. -/
def plain (status : Nat) (body : String) : Response where
  status
  contentType := some "text/plain; charset=utf-8"
  contentTypeOptions := some "nosniff"
  body

/-- A good answer in JSON. -/
def json (body : String) : Response where
  status := 200
  contentType := some "application/json"
  contentTypeOptions := none
  body

/-- The answer where there is nothing. -/
def notFound : Response where
  status := 404
  contentType := none
  contentTypeOptions := none
  body := ""

end Response

/-- The ids that a request names. -/
inductive IdName where
  | protocolId
  | clientId
deriving DecidableEq, Repr

/-- The name of an id in messages. -/
def IdName.text : IdName → String
  | protocolId => "protocolID"
  | clientId => "clientID"

/-- Why there is no match. -/
inductive MatchError where
  /-- What stands for an id is none. -/
  | invalidId (name : IdName) (value : String)
  /-- No token is issued. -/
  | issuance (cause : IssuanceError)
deriving DecidableEq, Repr

namespace MatchError

/-- The message of a refusal. -/
def message : MatchError → String
  | invalidId name value => s!"Unable to parse {name.text}: {value}"
  | issuance cause => s!"Failed to generate connect token: {cause.message}"

/-- The status of a refusal: the client is at fault for an id, and the matchmaker
for all else. -/
def status : MatchError → Nat
  | invalidId .. => 400
  | issuance _ => 500

/-- The answer for a refusal. -/
def response (e : MatchError) : Response := .plain e.status e.message

end MatchError

end ConnectTokens
