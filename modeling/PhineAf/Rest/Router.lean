import PhineAf.Lib.Percent
import PhineAf.Lib.Table

/-!
# The REST router

`RestRouter::http_request_to_message`: an HTTP request becomes a message. Its metadata are
the headers, the parameters in the path, which a pattern names, the parameters of the
query, and the method and the path themselves, assigned in this order.

Of the URL library, `parse_relative_ref` and the decoding of a `pct_string_view` are used
(`BoostUrl`); of the communication library, `path_pattern::to_regex`, whose expression is
given by its pieces (`PatternToken`). These, and the correlation identifier that is
generated, are arguments.
-/

namespace PhineAf

structure HttpRequest where
  method : Bytes
  /-- With the query string. -/
  path : Bytes
  headers : Table Bytes Bytes
  body : Bytes

structure RestMessage where
  messageType : Bytes
  correlationId : Bytes
  payload : Bytes
  metadata : Table Bytes Bytes

/-- `path()` and `params()` of a reference that has been parsed. -/
structure ParsedRef where
  path : Bytes
  params : List (Bytes × Bytes)

/-- The URL library. -/
structure BoostUrl where
  /-- `parse_relative_ref`, unless it fails. -/
  parseRelativeRef : Bytes → Option ParsedRef
  /-- `decode` of a `pct_string_view`, unless an exception is thrown. -/
  decode : Bytes → Option Bytes

/-- A piece of the expression made of a pattern. -/
inductive PatternToken
  | literal (text : Bytes)
  /-- `([^/]+)`. -/
  | capture

namespace RestRouter

open Percent

/-! ## Patterns -/

/-- `regex_match`: the captures, if the whole text matches. A group takes as much as it
    can. -/
def regexMatch : List PatternToken → Bytes → Option (List Bytes)
  | [], s => if s.isEmpty then some [] else none
  | .literal text :: tokens, s =>
    if text.isPrefixOf s then regexMatch tokens (s.drop text.length) else none
  | .capture :: tokens, s =>
    (List.range' 1 (s.takeWhile (· ≠ slash)).length).reverse.findSome? fun n =>
      (regexMatch tokens (s.drop n)).map (s.take n :: ·)

def openBrace : UInt8 := 123
def closeBrace : UInt8 := 125

/-- The matches of `\{([^}]+)\}`, after an opening brace and some of a name, or outside. -/
def scanNames : Option Bytes → Bytes → List Bytes
  | _, [] => []
  | none, b :: rest => scanNames (if b = openBrace then some [] else none) rest
  | some name, b :: rest =>
    if b = closeBrace then
      if name.isEmpty then scanNames none rest else name :: scanNames none rest
    else scanNames (some (name ++ [b])) rest

/-- The names in a pattern. -/
def paramNames (pattern : Bytes) : List Bytes := scanNames none pattern

/-! ## Requests -/

variable (boost : BoostUrl) (toRegex : Bytes → List PatternToken)

/-- `::tolower` of each byte. -/
def lowercase (s : Bytes) : Bytes := s.map fun b => if 65 ≤ b ∧ b ≤ 90 then b + 32 else b

/-- `get_correlation_id`. -/
def getCorrelationId (generated : Bytes) (req : HttpRequest) : Bytes :=
  (((req.headers.lookup (ascii "x-correlator")).filter fun id => !id.isEmpty).or
    ((req.headers.lookup (ascii "X-Correlator")).filter fun id => !id.isEmpty)).getD generated

/-- `extract_path_params`: what is assigned to the names, unless a capture cannot be
    decoded. -/
def extractPathParams (pattern path : Bytes) : Option (List (Bytes × Bytes)) :=
  match regexMatch (toRegex pattern) path with
  | none => some []
  | some captures =>
    ((paramNames pattern).zip captures).mapM fun p => (boost.decode p.2).map (p.1, ·)

/-- `extract_query_params`. -/
def extractQueryParams (path : Bytes) : List (Bytes × Bytes) :=
  ((boost.parseRelativeRef path).elim [] ParsedRef.params).map fun p =>
    (ascii "query." ++ p.1, p.2)

/-- The path a pattern is matched with: the decoded path component, if the path can be
    parsed. -/
def pathOnly (path : Bytes) : Bytes := (boost.parseRelativeRef path).elim path ParsedRef.path

/-- The headers as metadata. -/
def headerMetadata (req : HttpRequest) : List (Bytes × Bytes) :=
  req.headers.entries.map fun e => (lowercase e.1, e.2)

/-- The method and the path as metadata. -/
def referenceMetadata (req : HttpRequest) : List (Bytes × Bytes) :=
  [(ascii "http_method", req.method), (ascii "http_path", req.path)]

/-- The message made of a request, with the parameters in its path. -/
def messageOf (generated : Bytes) (req : HttpRequest) (messageType : Bytes)
    (params : List (Bytes × Bytes)) : RestMessage where
  messageType := messageType
  correlationId := getCorrelationId generated req
  payload := req.body
  metadata := (∅ : Table Bytes Bytes).insertAll
    (headerMetadata req ++ params ++ extractQueryParams boost req.path ++ referenceMetadata req)

/-- `http_request_to_message`, unless an exception is thrown. -/
def httpRequestToMessage (generated : Bytes) (req : HttpRequest) (messageType pattern : Bytes) :
    Option RestMessage :=
  (if pattern.isEmpty then some []
    else extractPathParams boost toRegex pattern (pathOnly boost req.path)).map
      (messageOf boost generated req messageType)

end RestRouter

end PhineAf
