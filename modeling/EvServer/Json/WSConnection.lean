import EvServer.Lib.Runs

/-!
# Calls and answers over a WebSocket (`WSConnection`)

A connection sends CALLs, and answers the CALLs that it receives.  Each message that is sent
has a promise: the promise of a CALL is settled by an answer with its message ID, or by its
timer, and that of an answer at once.  What an answer that is received has to call is looked up
in `ocppRequests`, under its message ID; whoever settles a promise deletes the entry of its
message ID there, the promise of an answer as well.

The turns of the event loop are the steps: a message is sent, or received, the handler of a
received CALL comes back, or a timer fires.  A text that is no JSON changes nothing.
-/

namespace EvServer

namespace WSConnection

variable {J : Type}

/-- The error of a handler; one that is not an `OCPPError` has no code. -/
structure OCPPError (J : Type) where
  code : Option String := none
  message : String
  details : Option J := none
  deriving DecidableEq, Repr

/-- What a promise is rejected with: an `OCPPError` is kept, a text becomes an `Error`. -/
inductive Reason (J : Type)
  | ocppError (error : OCPPError J)
  | error (message : String)
  deriving DecidableEq, Repr

/-- What becomes of a promise. -/
inductive Settlement (J : Type)
  | resolved (payload : Option J)
  | rejected (reason : Reason J)
  deriving DecidableEq, Repr

/-- The type of a message that is sent, with what goes with it. -/
inductive Content (J : Type)
  | call (command : String) (data : J)
  | callResult (data : J)
  | callError (error : OCPPError J)
  deriving DecidableEq, Repr

/-- A message on its way to the socket; without details an error has an empty object. -/
inductive Frame (J : Type)
  | call (messageID command : String) (data : J)
  | callResult (messageID : String) (data : J)
  | callError (messageID code message : String) (details : Option J)
  deriving DecidableEq, Repr

/-- A message that is received. -/
inductive OCPPMessage (J : Type)
  | call (messageID command : String) (commandPayload : J)
  | callResult (messageID : String) (commandPayload : J)
  | callError (messageID : String) (commandPayload errorDetails : J)
  | other (messageType : ℕ) (messageID : String)
  deriving DecidableEq, Repr

/-- What the socket does with a message: `send` returns true, or false, or throws. -/
inductive Sending
  | sent
  | notSent
  | throws (message : String)
  deriving DecidableEq, Repr

/-- A promise of `sendMessage`, with what its callbacks share. -/
structure Promise (J : Type) where
  messageID : String
  content : Content J
  messageToSend : String
  messageProcessed : Bool := false
  /-- The timer is set, and neither cleared nor fired. -/
  requestTimeout : Bool
  deriving DecidableEq, Repr

/-- An entry of `ocppRequests`: the promise whose callbacks it has, and the command. -/
structure OCPPRequest where
  promise : ℕ
  command : String
  deriving DecidableEq, Repr

/-- A CALL that has been received. -/
structure IncomingCall (J : Type) where
  messageID : String
  command : String
  commandPayload : J
  /-- `handleRequest` has come back. -/
  handled : Bool := false
  deriving DecidableEq, Repr

/-- A connection: the promises and the received CALLs in their order, the messages handed to
the socket, what the promises have been settled with, and the errors logged. -/
structure State (J : Type) where
  promises : List (Promise J) := []
  ocppRequests : String → Option OCPPRequest := fun _ => none
  requests : List (IncomingCall J) := []
  sent : List (Frame J) := []
  settled : List (ℕ × Settlement J) := []
  logged : List String := []

/-- A turn of the event loop. -/
inductive Event (J : Type)
  /-- A CALL is sent. -/
  | call (messageID command : String) (data : J) (sending : Sending)
  /-- `receivedMessage`, up to the call of `handleRequest`. -/
  | received (message : String) (ocppMessage : OCPPMessage J)
  /-- `handleRequest` comes back to a received CALL. -/
  | handled (request : ℕ) (outcome : Except (OCPPError J) J) (sending : Sending)
  /-- The timer of a promise fires. -/
  | timeout (promise : ℕ)

/-- `OCPP_SOCKET_TIMEOUT_MILLIS`. -/
def ocppSocketTimeoutMillis : ℕ := 10 * 1000

/-- Only a CALL is stored, and waits for its answer. -/
def Content.isCall : Content J → Bool
  | .call .. => true
  | _ => false

/-- The message that is built of a content. -/
def Content.frame (messageID : String) : Content J → Frame J
  | .call command data => .call messageID command data
  | .callResult data => .callResult messageID data
  | .callError error =>
      .callError messageID (error.code.getD "GenericError") error.message error.details

/-- What is logged when the socket does not take a message. -/
def Sending.error (messageToSend : String) : Sending → Option String
  | .sent => none
  | .notSent => some s!"Error when sending message '{messageToSend}' to Web Socket"
  | .throws message =>
      some s!"Error when sending message '{messageToSend}' to Web Socket: {message}"

/-- What a CALL is rejected with when its timer fires. -/
def timeoutMessage (tenantSubdomain messageID messageToSend : String) : String :=
  let secs := ocppSocketTimeoutMillis / 1000
  s!"Timeout after {secs} secs for Message ID '{messageID}' with content '{messageToSend} ({tenantSubdomain})"

namespace State

/-- An error is logged. -/
def log (s : State J) (message : String) : State J :=
  { s with logged := s.logged ++ [message] }

/-- What `responseCallback` and `rejectCallback` do: nothing a second time. -/
def settle (s : State J) (n : ℕ) (settlement : Settlement J) : State J :=
  match s.promises[n]? with
  | some promise =>
      if promise.messageProcessed then s
      else
        { s with
          promises := s.promises.set n
            { promise with
              messageProcessed := true
              requestTimeout := false }
          ocppRequests := Function.update s.ocppRequests promise.messageID none
          settled := s.settled ++ [(n, settlement)] }
  | none => s

/-- `responseCallback` of a promise. -/
def responseCallback (s : State J) (n : ℕ) (payload : Option J) : State J :=
  s.settle n (.resolved payload)

/-- `rejectCallback` of a promise. -/
def rejectCallback (s : State J) (n : ℕ) (reason : Reason J) : State J :=
  s.settle n (.rejected reason)

/-- The callbacks of a CALL are stored under its message ID. -/
def store (s : State J) (messageID : String) : Content J → String → Option OCPPRequest
  | .call command _ =>
      Function.update s.ocppRequests messageID (some ⟨s.promises.length, command⟩)
  | _ => s.ocppRequests

variable (stringify : Frame J → String) (tenantSubdomain : String)

/-- `sendMessage`, up to its last lines. -/
def send (s : State J) (messageID : String) (content : Content J) (sending : Sending) : State J :=
  let messageToSend := stringify (content.frame messageID)
  { s with
    promises := s.promises ++
      [{ messageID := messageID
         content := content
         messageToSend := messageToSend
         requestTimeout := content.isCall }]
    ocppRequests := s.store messageID content
    sent := s.sent ++ [content.frame messageID]
    logged := s.logged ++ (sending.error messageToSend).toList }

/-- `sendMessage`: the promise of a CALL waits for its answer, with a timer; that of an answer is
resolved at once. -/
def sendMessage (s : State J) (messageID : String) (content : Content J) (sending : Sending) :
    State J :=
  let after := s.send stringify messageID content sending
  if content.isCall then after else after.responseCallback s.promises.length none

/-- `sendResponse`. -/
def sendResponse (s : State J) (messageID : String) (response : J) (sending : Sending) : State J :=
  s.sendMessage stringify messageID (.callResult response) sending

/-- `sendError`. -/
def sendError (s : State J) (messageID : String) (error : OCPPError J) (sending : Sending) :
    State J :=
  s.sendMessage stringify messageID (.callError error) sending

/-- `receivedMessage`, up to the call of `handleRequest`. -/
def receivedMessage (s : State J) (message : String) : OCPPMessage J → State J
  | .call messageID command commandPayload =>
      { s with
        requests := s.requests ++
          [{ messageID := messageID
             command := command
             commandPayload := commandPayload }] }
  | .callResult messageID commandPayload =>
      match s.ocppRequests messageID with
      | some request => s.responseCallback request.promise (some commandPayload)
      | none => s.log s!"Unknown OCPP Request: '{message}'"
  | .callError messageID _ _ =>
      match s.ocppRequests messageID with
      | some request =>
          s.rejectCallback request.promise
            (.ocppError
              { code := some request.command
                message := message })
      | none => s.log s!"Unknown OCPP Request: '{message}'"
  | .other messageType _ => s.log s!"Wrong OCPP Message Type '{messageType}' for '{message}'"

/-- `receivedMessage`, once `handleRequest` has come back; an error is answered, and logged. -/
def answer (s : State J) (messageID : String) (outcome : Except (OCPPError J) J)
    (sending : Sending) : State J :=
  match outcome with
  | .ok result => s.sendResponse stringify messageID result sending
  | .error error => (s.sendError stringify messageID error sending).log error.message

/-- The state after an event; `none` when it cannot happen. -/
def next (s : State J) : Event J → Option (State J)
  | .call messageID command data sending =>
      some (s.sendMessage stringify messageID (.call command data) sending)
  | .received message ocppMessage => some (s.receivedMessage message ocppMessage)
  | .handled n outcome sending =>
      (s.requests[n]?.filter fun request => !request.handled).map fun request =>
        { s with
          requests := s.requests.set n
            { request with
              handled := true } }.answer stringify request.messageID outcome sending
  | .timeout n =>
      (s.promises[n]?.filter Promise.requestTimeout).map fun promise =>
        s.rejectCallback n
          (.error (timeoutMessage tenantSubdomain promise.messageID promise.messageToSend))

/-- A step of a connection. -/
def Step (s : State J) (event : Event J) (s' : State J) : Prop :=
  s.next stringify tenantSubdomain event = some s'

/-- A CALL is sent under a message ID of its own. -/
def DistinctIds (s : State J) : Event J → Prop
  | .call messageID _ _ _ =>
      ∀ promise ∈ s.promises, promise.content.isCall = true → promise.messageID ≠ messageID
  | _ => True

/-- A received CALL is not answered while a CALL that was sent is pending under its message
ID. -/
def ClearOfPending (s : State J) : Event J → Prop
  | .handled n _ _ =>
      ∀ request ∈ s.requests[n]?, s.ocppRequests request.messageID = none
  | _ => True

instance (s : State J) : DecidablePred s.DistinctIds := fun event =>
  match event with
  | .call messageID _ _ _ => inferInstanceAs (Decidable (∀ promise ∈ s.promises,
      promise.content.isCall = true → promise.messageID ≠ messageID))
  | .received .. | .handled .. | .timeout _ => .isTrue trivial

instance (s : State J) : DecidablePred s.ClearOfPending := fun event =>
  match event with
  | .handled n _ _ => inferInstanceAs (Decidable
      (∀ request ∈ s.requests[n]?, s.ocppRequests request.messageID = none))
  | .received .. | .call .. | .timeout _ => .isTrue trivial

/-- What the promise has been settled with, as often as it was. -/
def settlementsOf (s : State J) (n : ℕ) : List (Settlement J) :=
  s.settled.filterMap fun entry => if entry.1 = n then some entry.2 else none

end State

/-! ## What a run is to show -/

/-- The events that send a message, and so make a promise. -/
def Event.sends : Event J → Bool
  | .call .. | .handled .. => true
  | .received .. | .timeout _ => false

/-- The event is the arrival of a CALL with this message ID. -/
def Event.arrives (messageID : String) : Event J → Bool
  | .received _ (.call id _ _) => id = messageID
  | _ => false

/-- The message answers a CALL with this message ID. -/
def Frame.answers (messageID : String) : Frame J → Bool
  | .call .. => false
  | .callResult id _ | .callError id _ _ _ => id = messageID

/-- What an event is to the CALL of the promise `n`: an answer with its message ID, or its
timeout. -/
def Event.settlement (tenantSubdomain : String) (n : ℕ) (messageID command messageToSend : String) :
    Event J → Option (Settlement J)
  | .received _ (.callResult id payload) =>
      if id = messageID then some (.resolved (some payload)) else none
  | .received message (.callError id _ _) =>
      if id = messageID then
        some (.rejected (.ocppError
          { code := some command
            message := message }))
      else none
  | .timeout k =>
      if k = n then
        some (.rejected (.error (timeoutMessage tenantSubdomain messageID messageToSend)))
      else none
  | _ => none

/-- Among the events a CALL is sent, with the promise `n`, and then come the events `after`. -/
def Called (events : List (Event J)) (n : ℕ) (messageID command : String) (data : J)
    (after : List (Event J)) : Prop :=
  ∃ before sending, events = before ++ .call messageID command data sending :: after ∧
    before.countP Event.sends = n

/-- A received CALL with this message ID is still being handled. -/
def IncomingCall.waits (messageID : String) (request : IncomingCall J) : Bool :=
  !request.handled && request.messageID = messageID

/-- What the events of a run are to have led to. -/
structure Settles (stringify : Frame J → String) (tenantSubdomain : String)
    (events : List (Event J)) (s : State J) : Prop where
  /-- Each CALL has been settled once, with the first of its answers and its timeout, and if
  there was none not at all. -/
  settled : ∀ n messageID command data after, Called events n messageID command data after →
    s.settlementsOf n = (after.findSome? (Event.settlement tenantSubdomain n messageID command
      (stringify (.call messageID command data)))).toList
  /-- A CALL that is not settled has its timer, which settles it. -/
  timed : ∀ n messageID command data after, Called events n messageID command data after →
    s.settlementsOf n = [] → ∃ s', s.Step stringify tenantSubdomain (.timeout n) s' ∧
      s'.settlementsOf n = [.rejected (.error (timeoutMessage tenantSubdomain messageID
        (stringify (.call messageID command data))))]
  /-- The pending requests are the CALLs not yet settled. -/
  pending : ∀ n messageID command, s.ocppRequests messageID = some ⟨n, command⟩ ↔
    (∃ data after, Called events n messageID command data after) ∧ s.settlementsOf n = []
  /-- Of each message ID there are as many answers as CALLs received and no longer handled. -/
  answered : ∀ messageID, s.sent.countP (Frame.answers messageID) +
    s.requests.countP (IncomingCall.waits messageID) = events.countP (Event.arrives messageID)

end WSConnection

end EvServer
