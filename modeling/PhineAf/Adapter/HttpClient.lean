import PhineAf.Adapter.Client
import PhineAf.Lib.Retry

/-!
# The HTTP client of the demo adapter

`HttpQodClient`: the attempts of a request (`do_http_request`), and what is made of the
response (`parse_camara_response`). Requests and sessions are written and read as by
`QodClient`.

An attempt ends with a status and a body that have been read, or without a status line, or
in an exception. How the bytes of a response are read is left out, and so are the waiting
times.

Both clients make attempts as `Retry.run` does (`Client.result?_calls`,
`HttpCall.result?_calls`).
-/

namespace PhineAf.Adapter

/-! ## Responses -/

structure HttpResult where
  statusCode : ℤ := -1
  body : String := ""
  success : Bool := false

/-- A status of success. -/
def isSuccess (status : ℤ) : Bool := 200 ≤ status && status < 300

/-- The statuses that ask for another attempt. -/
def isRetryableStatus (status : ℤ) : Bool :=
  status == 503 || status == 502 || status == 504 || status == 429

/-- The error that a body tells of. -/
def camaraError (lib : Json.Library) (body : String) : Option (String × String) :=
  match lib.parse body with
  | .error _ => none
  | .ok json =>
    if json.contains "code" && json.contains "message" then
      match json.field "code" >>= Json.getStr, json.field "message" >>= Json.getStr with
      | .ok code, .ok message => some (code, message)
      | _, _ => none
    else if json.contains "status" && json.contains "message" then
      match json.field "status" >>= Json.getInt32, json.field "message" >>= Json.getStr with
      | .ok status, .ok message => some (toString status, message)
      | _, _ => none
    else none

/-- `parse_camara_response`. -/
def parseCamaraResponse (lib : Json.Library) (result : HttpResult) : Result String :=
  if !result.success then .error "HTTP_ERROR" result.body
  else if isSuccess result.statusCode then
    if result.statusCode == 204 || result.body.isEmpty then .ok "" else .ok result.body
  else match camaraError lib result.body with
    | some (code, message) => .error code message
    | none => .error ("HTTP_" ++ toString result.statusCode)
        (if result.body.isEmpty then "Request failed" else result.body)

/-! ## Attempts -/

/-- How an attempt ends. -/
inductive HttpOutcome
  | response (status : ℤ) (body : String)
  /-- The status line cannot be read. -/
  | unreadable (what : String)
  /-- An exception, after a status has been read or before. -/
  | exception (status : Option ℤ) (what : String)

namespace HttpOutcome

/-- The result that an attempt leaves. -/
def result : HttpOutcome → HttpResult
  | response status body => ⟨status, body, true⟩
  | unreadable what => { body := "Failed to read response status: " ++ what }
  | exception status what =>
    { statusCode := status.getD (-1), body := "HTTP request failed: " ++ what }

/-- An attempt that is the last one: it has a response that asks for no other. -/
def final : HttpOutcome → Option HttpResult
  | response status body =>
    if isSuccess status || !isRetryableStatus status then some ⟨status, body, true⟩ else none
  | _ => none

end HttpOutcome

/-- The result when the attempts are used up. -/
def exhaustedResult (result : HttpResult) : HttpResult :=
  if result.success then result else { result with body := "All retry attempts failed" }

/-- `do_http_request`, on its way. -/
inductive HttpCall
  /-- At the head of the loop. -/
  | ready (attempt : ℤ) (result : HttpResult)
  /-- An attempt is under way. -/
  | waiting (attempt : ℤ)
  | returned (result : HttpResult)

namespace HttpCall

/-- The call at its start. -/
def start : HttpCall := .ready 1 {}

/-- The head of the loop. -/
def send (config : QodClientConfig) : HttpCall → HttpCall
  | .ready attempt result =>
    if attempt ≤ config.maxRetries then .waiting attempt else .returned (exhaustedResult result)
  | c => c

/-- The attempt ends. -/
def receive : HttpCall → HttpOutcome → HttpCall
  | .waiting attempt, outcome =>
    match outcome.final with
    | some result => .returned result
    | none => .ready (attempt + 1) outcome.result
  | c, _ => c

/-- The call, as its attempts end one after the other. -/
def calls (config : QodClientConfig) (c : HttpCall) : List HttpOutcome → HttpCall
  | [] => c.send config
  | outcome :: outcomes => calls config ((c.send config).receive outcome) outcomes

/-- The result of a call that has returned. -/
def result? : HttpCall → Option HttpResult
  | .returned result => some result
  | _ => none

/-- The attempts that are left. -/
def left (config : QodClientConfig) (attempt : ℤ) : ℕ := (config.maxRetries + 1 - attempt).toNat

theorem result?_calls_returned (config : QodClientConfig) (result : HttpResult)
    (outcomes : List HttpOutcome) :
    (calls config (.returned result) outcomes).result? = some result := by
  induction outcomes with
  | nil => rfl
  | cons outcome outcomes ih => exact ih

/-- The result of a call is that of its attempts. -/
theorem result?_calls (config : QodClientConfig) (attempt : ℤ) (last : Option HttpOutcome)
    (outcomes : List HttpOutcome) :
    (calls config (.ready attempt (last.elim {} HttpOutcome.result)) outcomes).result? =
      Retry.run HttpOutcome.final (fun last => exhaustedResult (last.elim {} HttpOutcome.result))
        (left config attempt) last outcomes := by
  induction outcomes generalizing attempt last with
  | nil =>
    rw [calls, send]
    by_cases h : attempt ≤ config.maxRetries
    · have hleft : left config attempt = left config attempt - 1 + 1 := by rw [left]; omega
      rw [if_pos h, hleft]
      rfl
    · have hleft : left config attempt = 0 := by rw [left]; omega
      rw [if_neg h, hleft]
      rfl
  | cons outcome outcomes ih =>
    rw [calls, send]
    by_cases h : attempt ≤ config.maxRetries
    · have hleft : left config attempt = left config (attempt + 1) + 1 := by
        rw [left, left]
        omega
      rw [if_pos h, hleft, Retry.run, receive]
      rcases hfinal : outcome.final with _ | result
      · exact (ih (attempt + 1) (some outcome)).trans (Option.none_or ..).symm
      · exact result?_calls_returned ..
    · have hleft : left config attempt = 0 := by rw [left]; omega
      rw [if_neg h, hleft]
      exact result?_calls_returned ..

end HttpCall

/-! ## The calls of the other client -/

namespace Client

/-- The call, as its attempts end one after the other. -/
def calls (lib : Json.Library) (config : QodClientConfig) (c : Client) : List Outcome → Client
  | [] => c.send config
  | outcome :: outcomes => calls lib config ((c.send config).receive lib outcome) outcomes

/-- The result of a call that has returned. -/
def result? : Client → Option (Result String)
  | .returned result => some result
  | _ => none

/-- The result of an attempt that is the last one. -/
def final (lib : Json.Library) : Outcome → Option (Result String)
  | .reply payload => some <|
    match errorOf lib payload with
    | some (code, message) => .error code message
    | none => .ok payload
  | .failed code message =>
    if isRetryable code then none else some (.error ("GRPC_" ++ toString code.toNat) message)

theorem result?_calls_returned (lib : Json.Library) (config : QodClientConfig)
    (result : Result String) (outcomes : List Outcome) :
    (calls lib config (.returned result) outcomes).result? = some result := by
  induction outcomes with
  | nil => rfl
  | cons outcome outcomes ih => exact ih

theorem result?_calls (lib : Json.Library) (config : QodClientConfig) (attempt : ℤ)
    (last : Option Outcome) (outcomes : List Outcome) :
    (calls lib config (.ready attempt) outcomes).result? =
      Retry.run (final lib)
        (fun _ => .error "GRPC_RETRIES_EXHAUSTED" "All retry attempts failed")
        (HttpCall.left config attempt) last outcomes := by
  induction outcomes generalizing attempt last with
  | nil =>
    rw [calls, send]
    by_cases h : attempt ≤ config.maxRetries
    · have hleft : HttpCall.left config attempt = HttpCall.left config attempt - 1 + 1 := by
        rw [HttpCall.left]
        omega
      rw [if_pos h, hleft]
      rfl
    · have hleft : HttpCall.left config attempt = 0 := by rw [HttpCall.left]; omega
      rw [if_neg h, hleft]
      rfl
  | cons outcome outcomes ih =>
    rw [calls, send]
    by_cases h : attempt ≤ config.maxRetries
    · have hleft : HttpCall.left config attempt = HttpCall.left config (attempt + 1) + 1 := by
        rw [HttpCall.left, HttpCall.left]
        omega
      rw [if_pos h, hleft, Retry.run]
      cases outcome with
      | reply payload => exact result?_calls_returned ..
      | failed code message =>
        rw [receive, final]
        split_ifs
        · exact (ih (attempt + 1) _).trans (Option.none_or ..).symm
        · exact result?_calls_returned ..
    · have hleft : HttpCall.left config attempt = 0 := by rw [HttpCall.left]; omega
      rw [if_neg h, hleft]
      exact result?_calls_returned ..

end Client

end PhineAf.Adapter
