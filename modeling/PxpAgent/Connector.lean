import PxpAgent.Format
import PxpAgent.Request

/-!
# PxpAgent.Connector — the replies of `PXPConnector`

The five ways the agent answers a request. Each builds the data of one message
and hands it to the connector's `send` inside a `try` block whose only handler
catches `connection_error`, logs it, and gives up: there is no retry.

* `sendCatching`: the common shape, `send` once and then either the success log
  line or the handler.
* `wrapDebug_eq`: the debug chunks of a request are forwarded as they are, in
  order, whatever the number of bad chunks.
* `reply_paths_deliver_once`: the provisional, blocking, non-blocking and PXP
  error replies hand exactly one message to `send`, addressed to the request's
  sender and carrying its transaction id, and return normally whatever `send`
  does.
* `sendPCPError_spec`: the handler of `sendPCPError` logs a format string
  that names `%3%` with two arguments, so when `send` fails and error logging
  is on, boost's `too_few_args` escapes the call.

The message-type URIs are declared in headers that are not part of the source;
the five types are the constructors of `MessageType`.
-/

namespace PxpAgent

/-! ## §1. Messages and the connector -/

/-- Modelled from the spec: the five kinds of message the agent sends. -/
inductive MessageType where
  | pcpError
  | pxpError
  | blockingResponse
  | nonBlockingResponse
  | provisionalResponse
  deriving DecidableEq, Repr

/-- `DEFAULT_MSG_TIMEOUT_SEC`. -/
def defaultMsgTimeoutSec : Nat := 2

/-- A call of `send(endpoints, type, timeout, data, debug)`. -/
structure Message where
  endpoints : List String
  messageType : MessageType
  timeout : Nat
  data : Json
  debug : List Json

/-- A behaviour of the connector's `send`: deliver the message (`none`), or raise
`connection_error` with the given text. -/
abbrev SendBehaviour := Message → Option String

/-- What a reply leaves behind: the messages handed to `send`, in order, and
whether the call returned or raised. -/
structure Emission where
  sent : List Message
  result : Except Exception Unit

section Sending

variable (logLevel : LogLevel) (connector : SendBehaviour)

/-- `try { send(msg); <success log> } catch (connection_error& e) { <handler> }`. -/
def sendCatching (msg : Message) (onSent : Except Exception Unit)
    (onError : String → Except Exception Unit) : Emission :=
  { sent := [msg]
    result := match connector msg with
      | none => onSent
      | some what => onError what }

/-- `wrapDebug(parsed_chunks)`: warn about bad debug chunks, then copy the good
ones. -/
def wrapDebug (parsedChunks : ParsedChunks) : Except Exception (List Json) := do
  let requestId ← parsedChunks.envelope.getString "id"
  if parsedChunks.numInvalidDebug ≠ 0 then
    log logLevel .warning "Message %1% contained %2% bad debug chunk%3%"
      [requestId, toString parsedChunks.numInvalidDebug, plural parsedChunks.numInvalidDebug]
  pure (parsedChunks.debug.foldl (fun debug debugEntry => debug ++ [debugEntry]) [])

/-! ## §2. The five replies -/

/-- `sendPCPError(request_id, description, endpoints)`. -/
def sendPCPError (requestId description : String) (endpoints : List String) : Emission :=
  let pcpErrorData := ((Json.obj []).set "id" (.str requestId)).set "description" (.str description)
  sendCatching connector ⟨endpoints, .pcpError, defaultMsgTimeoutSec, pcpErrorData, []⟩
    (log logLevel .info "Replied to request %1% with a PCP error message" [requestId])
    (fun what => log logLevel .error "Failed to send PCP error message for request %1%: %3%"
      [requestId, what])

/-- `sendPXPError(request, description)`. -/
def sendPXPError (request : ActionRequest) (description : String) : Emission :=
  let pxpErrorData := (((Json.obj []).set "transaction_id" (.str request.transactionId)).set
    "id" (.str request.id)).set "description" (.str description)
  sendCatching connector ⟨[request.sender], .pxpError, defaultMsgTimeoutSec, pxpErrorData, []⟩
    (log logLevel .info "Replied to %1% by %2%, request ID %3%, with a PXP error message"
      [request.prettyLabel, request.sender, request.id])
    (fun _ => log logLevel .error
      "Failed to send a PXP error message for the %1% by %2% (no further sending attempts will be made): %3%"
      [request.prettyLabel, request.sender, description])

/-- `sendBlockingResponse(request, results)`. -/
def sendBlockingResponse (request : ActionRequest) (results : Json) : Emission :=
  match wrapDebug logLevel request.parsedChunks with
  | .error e => ⟨[], .error e⟩
  | .ok debug =>
    let responseData := ((Json.obj []).set "transaction_id" (.str request.transactionId)).set
      "results" results
    sendCatching connector ⟨[request.sender], .blockingResponse, defaultMsgTimeoutSec, responseData, debug⟩
      (log logLevel .info "Sent response for the %1% by %2%" [request.prettyLabel, request.sender])
      (fun what => log logLevel .error "Failed to reply to the %1% by %2%: %3%"
        [request.prettyLabel, request.sender, what])

/-- `sendNonBlockingResponse(request, results, job_id)`; the debug chunks went
with the provisional response. -/
def sendNonBlockingResponse (request : ActionRequest) (results : Json) (jobId : String) :
    Emission :=
  let responseData := (((Json.obj []).set "transaction_id" (.str request.transactionId)).set
    "job_id" (.str jobId)).set "results" results
  sendCatching connector ⟨[request.sender], .nonBlockingResponse, defaultMsgTimeoutSec, responseData, []⟩
    (log logLevel .info "Sent response for the %1% by %2%" [request.prettyLabel, request.sender])
    (fun what => log logLevel .error
      "Failed to reply to %1% by %2%, (no further attempts will be made): %3%"
      [request.prettyLabel, request.sender, what])

/-- `sendProvisionalResponse(request)`. -/
def sendProvisionalResponse (request : ActionRequest) : Emission :=
  match wrapDebug logLevel request.parsedChunks with
  | .error e => ⟨[], .error e⟩
  | .ok debug =>
    let provisionalData := (Json.obj []).set "transaction_id" (.str request.transactionId)
    sendCatching connector ⟨[request.sender], .provisionalResponse, defaultMsgTimeoutSec, provisionalData, debug⟩
      (log logLevel .info "Sent provisional response for the %1% by %2%"
        [request.prettyLabel, request.sender])
      (fun what => log logLevel .error
        "Failed to send provisional response for the %1% by %2% (no further attempts will be made): %3%"
        [request.prettyLabel, request.sender, what])

/-! ## §3. What the replies do -/

/-- The loop of `wrapDebug` copies the chunks it is given, in order. -/
theorem foldl_push_back (acc chunks : List Json) :
    chunks.foldl (fun debug debugEntry => debug ++ [debugEntry]) acc = acc ++ chunks := by
  induction chunks generalizing acc with
  | nil => simp
  | cons c chunks ih => simp [ih]

/-- The debug chunks of a request are forwarded as they are; the warning about
bad chunks cannot raise. -/
theorem wrapDebug_eq (request : ActionRequest) :
    wrapDebug logLevel request.parsedChunks = .ok request.parsedChunks.debug := by
  unfold wrapDebug
  have hid : request.parsedChunks.envelope.getString "id" = .ok request.id :=
    Json.getString_eq_ok.2 request.envelope_id
  simp +decide only [hid, ok_bind, log_eq_ok, List.length_cons, List.length_nil, ite_self,
    foldl_push_back, List.nil_append, pure_eq_ok]

/-- A reply that went out once: one message handed to `send`, addressed to the
request's sender only, of the given type, with the request's transaction id and
the given debug chunks; and the call returned normally. -/
structure DeliveredOnce (request : ActionRequest) (type : MessageType) (debug : List Json)
    (em : Emission) : Prop where
  result : em.result = .ok ()
  sent : ∃ msg, em.sent = [msg] ∧ msg.endpoints = [request.sender] ∧ msg.messageType = type ∧
    msg.data.get? "transaction_id" = some (.str request.transactionId) ∧ msg.debug = debug

/-- The provisional, blocking, non-blocking and PXP error replies, for every
request and every behaviour of `send`: each hands exactly one message to `send`,
addressed to the request's sender, with its transaction id; the provisional and
blocking responses carry the request's debug chunks in order, the others none,
and the PXP error also carries the request id; and each returns normally. -/
theorem reply_paths_deliver_once (request : ActionRequest) (results : Json)
    (jobId description : String) :
    DeliveredOnce request .provisionalResponse request.parsedChunks.debug
      (sendProvisionalResponse logLevel connector request) ∧
    DeliveredOnce request .blockingResponse request.parsedChunks.debug
      (sendBlockingResponse logLevel connector request results) ∧
    DeliveredOnce request .nonBlockingResponse []
      (sendNonBlockingResponse logLevel connector request results jobId) ∧
    DeliveredOnce request .pxpError [] (sendPXPError logLevel connector request description) ∧
    ∀ msg ∈ (sendPXPError logLevel connector request description).sent,
      msg.data.get? "id" = some (.str request.id) := by
  refine ⟨⟨?_, ?_⟩, ⟨?_, ?_⟩, ⟨?_, ?_⟩, ⟨?_, ?_⟩, ?_⟩ <;>
    simp +decide [sendProvisionalResponse, sendBlockingResponse, sendNonBlockingResponse,
      sendPXPError, wrapDebug_eq, log_eq_ok, sendCatching] <;> split <;> rfl

/-- `sendPCPError` hands one message to `send`, to the given endpoints, with the
request id and the description. It returns normally when the message is
delivered; when `send` raises, it returns normally only if error logging is
off, and otherwise the handler's format string, which names `%3%` with two
arguments, raises `too_few_args`. -/
theorem sendPCPError_spec (requestId description : String) (endpoints : List String) :
    ∃ msg, (sendPCPError logLevel connector requestId description endpoints).sent = [msg] ∧
      msg.endpoints = endpoints ∧ msg.messageType = .pcpError ∧
      msg.data.get? "id" = some (.str requestId) ∧
      msg.data.get? "description" = some (.str description) ∧
      (sendPCPError logLevel connector requestId description endpoints).result =
        match connector msg with
        | none => .ok ()
        | some _ => if isEnabled logLevel .error then .error (.tooFewArgs 2 3) else .ok () := by
  refine ⟨_, rfl, rfl, rfl, by simp, by simp, ?_⟩
  dsimp only [sendPCPError, sendCatching]
  split
  · simp +decide [log_eq_ok]
  · cases hen : isEnabled logLevel .error
    · exact log_of_disabled hen
    · exact log_too_few hen (by simp; decide)

end Sending

/-- A broker that drops every message. -/
def unreachableBroker : SendBehaviour := fun _ => some "connection timed out"

/-- At the agent's default log level, a PCP error reply whose send fails raises
`too_few_args` out of `sendPCPError`. -/
theorem sendPCPError_connection_error_escapes :
    (sendPCPError .info unreachableBroker "0cb3a4e2" "unknown message type"
      ["pcp://broker.example.com/server"]).result = .error (.tooFewArgs 2 3) := rfl

end PxpAgent
