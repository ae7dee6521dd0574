import PhineAf.Core.Router
import PhineAf.Lib.Text

/-!
# Replies as HTTP responses

`RestRouter::message_to_http_response`: the status is read off the metadata of a reply, the
other metadata become headers, and the payload is the body.
-/

namespace PhineAf

structure HttpServerResponse where
  statusCode : ℤ
  body : String
  headers : Table String String

namespace RestRouter

/-- The metadata that are no headers. -/
def isInternal (key : String) : Bool :=
  key == "status" || key == "http_method" || key == "http_path"

/-- The status in the metadata, 200 if there is none that can be read. -/
def statusOf (metadata : Table String String) : ℤ :=
  ((metadata.lookup "status").bind Text.stoi).getD 200

/-- The headers: the metadata, a content type if there is none, and the correlation id. -/
def headersOf (reply : Reply) : Table String String :=
  let headers := (∅ : Table String String).insertAll
    ((reply.metadata.entries.filter fun e => !isInternal e.1).map fun e => (e.1, e.2))
  let headers := if (headers.lookup "content-type").isSome then headers
    else headers.insert "content-type" "application/json"
  if reply.correlationId.isEmpty then headers
  else headers.insert "x-correlator" reply.correlationId

/-- `message_to_http_response`. -/
def messageToHttpResponse (reply : Reply) : HttpServerResponse where
  statusCode := statusOf reply.metadata
  body := reply.payload
  headers := headersOf reply

/-- A status that is written as a number is the status of the response. -/
theorem statusOf_of_lookup {metadata : Table String String} {status : ℕ}
    (h : metadata.lookup "status" = some (toString status)) (hlt : status < 2 ^ 31) :
    statusOf metadata = status := by
  have hrest : ∀ c cs, "".toList = c :: cs → c.isDigit = false := nofun
  have hstoi := Text.stoi_toString_append status hrest
  rw [String.append_empty, if_pos hlt] at hstoi
  rw [statusOf, h, Option.bind_some, hstoi, Option.getD_some]

end RestRouter

end PhineAf
