import Mathlib.Data.List.Sort
import PhineAf.Adapter.Client
import PhineAf.Lib.System
import PhineAf.Lib.Table

/-!
# The session manager of the demo adapter

`SessionManager` of the demo adapter: it asks a client for a QoD session for each stream,
keeps the sessions it has got under their ids, and asks for their state and their deletion.

The client is left open (`IQodClient`): its answers may depend on the calls before, all of
which are logged with their results.
-/

namespace PhineAf.Adapter

/-! ## Data -/

/-- A stream that needs a session. -/
structure StreamConfig where
  name : String
  description : String := ""
  device : Device
  appServer : ApplicationServer
  devicePorts : Option PortsSpec := none
  qosProfile : String
  durationSeconds : Int32 := 3600

structure TrackedSession where
  stream : StreamConfig
  sessionInfo : Option SessionInfo
  createdAt : ℤ
  lastChecked : ℤ
  checkCount : ℤ := 0
  cleanupDone : Bool := false

/-- A call of the client, with its result. -/
inductive ClientCall
  | createSession (request : CreateSessionRequest) (result : Result SessionInfo)
  | getSession (sessionId : String) (result : Result SessionInfo)
  | deleteSession (sessionId : String) (result : Result Unit)

/-- The client, and the clock: what is answered after some calls, latest first. -/
structure IQodClient where
  createSession : List ClientCall → CreateSessionRequest → Result SessionInfo
  getSession : List ClientCall → String → Result SessionInfo
  deleteSession : List ClientCall → String → Result Unit
  now : List ClientCall → ℤ

/-- The manager. -/
structure SessionManager where
  sessions : Table String TrackedSession
  /-- The calls of the client, latest first. -/
  calls : List ClientCall

namespace SessionManager

/-- A new manager. -/
def empty : SessionManager := ⟨∅, []⟩

variable (client : IQodClient) (s : SessionManager)

/-- The client is called. -/
def call (c : ClientCall) : SessionManager := { s with calls := c :: s.calls }

@[simp]
theorem sessions_call (c : ClientCall) : (s.call c).sessions = s.sessions := rfl

/-- The ids of the sessions, in the order of the map. -/
def ids : List String := s.sessions.keys.insertionSort (· ≤ ·)

/-! ## One session -/

/-- The request for a stream. -/
def requestOf (stream : StreamConfig) : CreateSessionRequest where
  device := stream.device
  applicationServer := stream.appServer
  devicePorts := stream.devicePorts
  qosProfile := stream.qosProfile
  durationSeconds := stream.durationSeconds

/-- `request_qos_for_stream`. -/
def requestQosForStream (stream : StreamConfig) : Result SessionInfo × SessionManager :=
  let result := client.createSession s.calls (requestOf stream)
  let s := s.call (.createSession (requestOf stream) result)
  match result with
  | .error _ _ => (result, s)
  | .ok info =>
    let now := client.now s.calls
    let tracked : TrackedSession :=
      { stream, sessionInfo := some info, createdAt := now, lastChecked := now }
    (result, { s with sessions := s.sessions.insert info.sessionId tracked })

/-- A session whose state has been asked for. -/
def checked (tracked : TrackedSession) (info : SessionInfo) (now : ℤ) : TrackedSession :=
  { tracked with
    sessionInfo := some info
    lastChecked := now
    checkCount := tracked.checkCount + 1 }

/-- `get_session_status`. -/
def getSessionStatus (sessionId : String) : Result SessionInfo × SessionManager :=
  let result := client.getSession s.calls sessionId
  let s := s.call (.getSession sessionId result)
  match result with
  | .error _ _ => (result, s)
  | .ok info =>
    match s.sessions.lookup sessionId with
    | none => (result, s)
    | some tracked =>
      let tracked := checked tracked info (client.now s.calls)
      (result, { s with sessions := s.sessions.insert sessionId tracked })

/-- `delete_session`. -/
def deleteSession (sessionId : String) : Result Unit × SessionManager :=
  let result := client.deleteSession s.calls sessionId
  let s := s.call (.deleteSession sessionId result)
  match result with
  | .error _ _ => (result, s)
  | .ok _ => (result, { s with sessions := s.sessions.erase sessionId })

/-! ## All sessions -/

/-- A round of the loop of `create_all_sessions`. -/
def createOne (stream : StreamConfig) : SessionManager := (s.requestQosForStream client stream).2

/-- `create_all_sessions`. -/
def createAllSessions (streams : List StreamConfig) : SessionManager :=
  streams.foldl (createOne client) s

/-- A round of the loop of `monitor_sessions`. -/
def monitorOne (sessionId : String) : SessionManager :=
  match s.sessions.lookup sessionId with
  | none => s
  | some tracked =>
    let result := client.getSession s.calls sessionId
    let s := s.call (.getSession sessionId result)
    match result with
    | .error _ _ => s
    | .ok info =>
      let tracked := checked tracked info (client.now s.calls)
      { s with sessions := s.sessions.insert sessionId tracked }

/-- `monitor_sessions`. -/
def monitorSessions : SessionManager := s.ids.foldl (monitorOne client) s

/-- A round of the loop of `cleanup_all_sessions`. -/
def cleanupOne (sessionId : String) : SessionManager :=
  match s.sessions.lookup sessionId with
  | none => s
  | some tracked =>
    let result := client.deleteSession s.calls sessionId
    let s := s.call (.deleteSession sessionId result)
    match result with
    | .ok _ => { s with sessions := s.sessions.erase sessionId }
    | .error _ _ =>
      let tracked := { tracked with cleanupDone := false }
      { s with sessions := s.sessions.insert sessionId tracked }

/-- `cleanup_all_sessions`: the ids are collected first. -/
def cleanupAllSessions : SessionManager := s.ids.foldl (cleanupOne client) s

end SessionManager

/-! ## Runs -/

/-- A call of the manager. -/
inductive SessionOp
  | requestQosForStream (stream : StreamConfig)
  | createAllSessions (streams : List StreamConfig)
  | getSessionStatus (sessionId : String)
  | monitorSessions
  | deleteSession (sessionId : String)
  | cleanupAllSessions

namespace SessionManager

variable (client : IQodClient) (s : SessionManager)

/-- The manager after a call. -/
def next : SessionOp → SessionManager
  | .requestQosForStream stream => (s.requestQosForStream client stream).2
  | .createAllSessions streams => s.createAllSessions client streams
  | .getSessionStatus sessionId => (s.getSessionStatus client sessionId).2
  | .monitorSessions => s.monitorSessions client
  | .deleteSession sessionId => (s.deleteSession client sessionId).2
  | .cleanupAllSessions => s.cleanupAllSessions client

/-- The manager during a call, after each round of a loop. -/
def points : SessionOp → List SessionManager
  | .createAllSessions streams => streams.scanl (createOne client) s
  | .monitorSessions => s.ids.scanl (monitorOne client) s
  | .cleanupAllSessions => s.ids.scanl (cleanupOne client) s
  | op => [s, s.next client op]

end SessionManager

/-- The runs of a manager. -/
def sessionSystem (client : IQodClient) : System SessionManager SessionOp where
  init s := s = .empty
  step s op s' := s' = s.next client op

end PhineAf.Adapter
