import PhineAf.Adapter.HttpClient
import PhineAf.Qod.Replies
import PhineAf.Rest.Response

/-!
# Two transports

The adapter reaches AF core by messages or over HTTP. Both ways the same handlers reply, and
over HTTP the reply becomes a response (`QodRestAdapter`). The clients read errors in
different ways, one in the payload, and the other from the status and the body; and they
disagree on which failures are worth another attempt. Yet they make the same of every reply
that the handlers give (`transports_agree`).
-/

namespace PhineAf.Adapter

open QodHandler

variable {lib : Json.Library} {helpers : ServiceHandlerHelpers} {format : ℤ → String}

/-- The result of a call by messages, as its attempts end. -/
def grpcResult (lib : Json.Library) (config : QodClientConfig) (outcomes : List Outcome) :
    Option (Result String) :=
  (Client.calls lib config (.ready 1) outcomes).result?

/-- The result of a call over HTTP, as its attempts end. -/
def httpResult (lib : Json.Library) (config : QodClientConfig) (outcomes : List HttpOutcome) :
    Option (Result String) :=
  (HttpCall.calls config .start outcomes).result?.map (parseCamaraResponse lib)

/-- The outcome of an attempt that gets a reply over HTTP. -/
def httpOutcome (reply : Reply) : HttpOutcome :=
  .response (RestRouter.messageToHttpResponse reply).statusCode
    (RestRouter.messageToHttpResponse reply).body

/-! ## Attempts that fail first -/

/-- The first attempts fail in a way that may pass, and the next one ends the call. -/
theorem grpcResult_of_final {config : QodClientConfig} {fails : List Outcome}
    (hfails : ∀ o ∈ fails, Client.final lib o = none) (hlength : fails.length < config.maxRetries)
    {o : Outcome} {r : Result String} (ho : Client.final lib o = some r) :
    grpcResult lib config (fails ++ [o]) = some r := by
  have hleft : fails.length < HttpCall.left config 1 := by
    rw [HttpCall.left]
    omega
  rw [grpcResult, Client.result?_calls lib config 1 none]
  exact Retry.run_of_final hfails none hleft ho []

theorem httpResult_of_final {config : QodClientConfig} {fails : List HttpOutcome}
    (hfails : ∀ o ∈ fails, o.final = none) (hlength : fails.length < config.maxRetries)
    {o : HttpOutcome} {result : HttpResult} (ho : o.final = some result) :
    httpResult lib config (fails ++ [o]) = some (parseCamaraResponse lib result) := by
  have hleft : fails.length < HttpCall.left config 1 := by
    rw [HttpCall.left]
    omega
  rw [httpResult, HttpCall.start]
  have hcalls := HttpCall.result?_calls config 1 none (fails ++ [o])
  rw [Option.elim_none] at hcalls
  rw [hcalls, Retry.run_of_final hfails none hleft ho [], Option.map_some]

/-! ## One reply -/

variable (format) in
/-- Sessions are not taken for an error. -/
theorem errorOf_of_isSessions {data : Json} (hdata : IsSessions format data) {payload : String}
    (hparse : lib.parse payload = .ok data) : errorOf lib payload = none := by
  have hstatus : data.contains "status" = false := by
    obtain ⟨session, includeDevice, rfl⟩ | ⟨l, rfl⟩ := hdata
    · have hkeys : ((sessionFields format session includeDevice).map Prod.fst).Nodup := by
        simp [sessionFields]
      rw [Json.contains, sessionToJson, Json.find?_ofFields _ hkeys]
      rfl
    · rfl
  rw [errorOf, hparse]
  split
  · rfl
  · dsimp only
    rw [hstatus, Bool.false_and, Bool.false_and, if_neg Bool.false_ne_true]

/-- An error is read off its payload. -/
theorem errorOf_of_error {status : ℕ} {code message payload : String} (hpayload : payload ≠ "")
    (hparse : lib.parse payload = .ok
      (.obj [("status", .int status), ("code", .str code), ("message", .str message)])) :
    errorOf lib payload = some (code, message) := by
  rw [errorOf, if_neg (by simpa using hpayload), hparse]
  rfl

/-- An error is read off its body, too. -/
theorem camaraError_of_error {status : ℕ} {code message payload : String}
    (hparse : lib.parse payload = .ok
      (.obj [("status", .int status), ("code", .str code), ("message", .str message)])) :
    camaraError lib payload = some (code, message) := by
  rw [camaraError, hparse]
  rfl

/-- A response that asks for no other attempt has the status in the metadata. -/
theorem final_httpOutcome {reply : Reply} {status : ℕ}
    (h : reply.metadata.lookup "status" = some (toString status)) (hlt : status < 2 ^ 31)
    (hfinal : isRetryableStatus status = false) :
    (httpOutcome reply).final = some ⟨status, reply.payload, true⟩ := by
  rw [httpOutcome, RestRouter.messageToHttpResponse, RestRouter.statusOf_of_lookup h hlt,
    HttpOutcome.final, hfinal, Bool.not_false, Bool.or_true, if_pos rfl]

/-- A response with a status of success is the result. -/
theorem parseCamaraResponse_of_isSuccess {status : ℤ} (h : isSuccess status = true)
    (hstatus : status ≠ 204) (body : String) :
    parseCamaraResponse lib ⟨status, body, true⟩ = .ok body := by
  rw [parseCamaraResponse]
  dsimp only
  rw [if_neg (by simp), if_pos h]
  split
  next hempty =>
    have hbody : body = "" := by simpa [hstatus] using hempty
    rw [hbody]
  next => rfl

/-- What both clients make of a reply: neither tries again, and the results are the same. -/
theorem final_of_written {reply : Reply} (hwritten : Written helpers lib format (some reply)) :
    ∃ r result, Client.final lib (.reply reply.payload) = some r ∧
      (httpOutcome reply).final = some result ∧ parseCamaraResponse lib result = r := by
  cases hwritten with
  | @error status hmem code message correlationId hwrites =>
    have hfacts : status < 2 ^ 31 ∧ isSuccess status = false ∧
        isRetryableStatus status = false := by
      simp only [errorStatuses, List.mem_cons, List.not_mem_nil, or_false] at hmem
      rcases hmem with rfl | rfl | rfl | rfl | rfl <;> decide
    obtain ⟨hlt, hfailure, hfinal⟩ := hfacts
    refine ⟨.error code message, _, ?_, final_httpOutcome hwrites.status hlt hfinal, ?_⟩
    · rw [Client.final, errorOf_of_error hwrites.payload_ne hwrites.parse]
    · rw [parseCamaraResponse]
      dsimp only
      rw [if_neg (by simp), hfailure, if_neg Bool.false_ne_true, camaraError_of_error hwrites.parse]
  | @data status hmem data hdata correlationId hwrites =>
    have hfacts : status < 2 ^ 31 ∧ isSuccess status = true ∧ (status : ℤ) ≠ 204 ∧
        isRetryableStatus status = false := by
      simp only [List.mem_cons, List.not_mem_nil, or_false] at hmem
      rcases hmem with rfl | rfl <;> decide
    obtain ⟨hlt, hsuccess, hcontent, hfinal⟩ := hfacts
    have hparse : lib.parse (helpers.createSuccessResponse data status correlationId).payload =
        .ok data := by
      rw [hwrites.payload]
      exact hwrites.lossless
    refine ⟨.ok (helpers.createSuccessResponse data status correlationId).payload, _, ?_,
      final_httpOutcome hwrites.status hlt hfinal,
      parseCamaraResponse_of_isSuccess hsuccess hcontent _⟩
    rw [Client.final, errorOf_of_isSessions format hdata hparse]
  | deleted correlationId => exact ⟨.ok "", _, rfl, rfl, rfl⟩

/-! ## Calls -/

/-- Whatever is asked of AF core in whatever state, a client makes the same of the reply by
    messages as over HTTP, however the attempts before have failed. -/
theorem transports_agree (reader : CredentialReader) (m : QodSessionManager) (a : QodMessage)
    (hdocumented : (handle lib reader format m a).2.Documented helpers lib) {reply : Reply}
    (hreply : (handle lib reader format m a).2.toReply helpers = some reply)
    (config : QodClientConfig) (fails : List Outcome) (httpFails : List HttpOutcome)
    (hfails : ∀ o ∈ fails, Client.final lib o = none) (hhttpFails : ∀ o ∈ httpFails, o.final = none)
    (hlength : fails.length < config.maxRetries)
    (hhttpLength : httpFails.length < config.maxRetries) :
    ∃ result, grpcResult lib config (fails ++ [.reply reply.payload]) = some result ∧
      httpResult lib config (httpFails ++ [httpOutcome reply]) = some result := by
  have hwritten := written_handle m a hdocumented
  rw [hreply] at hwritten
  obtain ⟨result, result', hfinal, hhttpFinal, heq⟩ := final_of_written hwritten
  refine ⟨result, grpcResult_of_final hfails hlength hfinal, ?_⟩
  rw [← heq]
  exact httpResult_of_final hhttpFails hhttpLength hhttpFinal

/-! ## An error over both transports -/

/-- The text of an error. -/
def errorObjectText (status : ℤ) (code message : String) : String :=
  "\x7b\"code\":\"" ++ code ++ "\",\"message\":\"" ++ message ++ "\",\"status\":" ++
    toString status ++ "\x7d"

/-- Helpers that write the texts of a library. -/
def textHelpers (lib : Json.Library) : ServiceHandlerHelpers where
  createErrorResponse status code message correlationId :=
    { messageType := "error", correlationId, payload := errorObjectText status code message
      metadata := (∅ : Table String String).insert "status" (toString status) }
  createSuccessResponse data status correlationId :=
    { messageType := "success", correlationId, payload := lib.dump data
      metadata := (∅ : Table String String).insert "status" (toString status) }
  errorText
    | .invalidArgument => "INVALID_ARGUMENT"
    | .outOfRange => "OUT_OF_RANGE"
    | .missingIdentifier => "MISSING_IDENTIFIER"
    | .unnecessaryIdentifier => "UNNECESSARY_IDENTIFIER"
    | .durationOutOfRange => "QUALITY_ON_DEMAND.DURATION_OUT_OF_RANGE"
    | .invalidSink => "INVALID_SINK"
    | .internalError => "INTERNAL"
  sessionErrorText
    | .invalidArgument => "INVALID_ARGUMENT"
    | .outOfRange => "OUT_OF_RANGE"
    | .notFound => "NOT_FOUND"
    | .durationOutOfRange => "QUALITY_ON_DEMAND.DURATION_OUT_OF_RANGE"
    | .sessionExtensionNotAllowed => "QUALITY_ON_DEMAND.SESSION_EXTENSION_NOT_ALLOWED"
    | .internalError => "INTERNAL"

/-- The error that a session is not there. -/
def notFoundText : String :=
  "\x7b\"code\":\"NOT_FOUND\",\"message\":\"Session not found\",\"status\":404\x7d"

/-- A library that knows this error. -/
def notFoundLibrary : Json.Library where
  dump _ := notFoundText
  parse s :=
    if s = notFoundText then .ok (.obj [("status", .int 404), ("code", .str "NOT_FOUND"),
      ("message", .str "Session not found")])
    else .error "parse error"
  what _ := ""

/-- A session that is not there is asked for: once a call fails, once the service is unavailable
    and once it cannot be reached. -/
theorem transports_agree_notFound :
    ∃ result, grpcResult notFoundLibrary {}
        [.failed .unavailable "", .reply notFoundText] = some result ∧
      httpResult notFoundLibrary {} [.response 503 "", .exception none "",
        .response 404 notFoundText] = some result := by
  let m := QodSessionManager.create {} true "pcf" true
  let a := QodMessage.getSession ⟨"consumer", "correlation-1", false⟩ "session-1"
  let reader : CredentialReader := ⟨⟨.plain, none, none, none, none, none, none, none⟩, fun _ => 0⟩
  have hdocumented : (handle notFoundLibrary reader toString m a).2.Documented
      (textHelpers notFoundLibrary) notFoundLibrary := ⟨by decide, rfl, rfl⟩
  exact transports_agree reader m a hdocumented rfl {} [.failed .unavailable ""]
    [.response 503 "", .exception none ""] (by simp [Client.final, isRetryable])
    (by simp [HttpOutcome.final, isSuccess, isRetryableStatus]) (by decide) (by decide)

end PhineAf.Adapter
