/-
A document's connection to a language server.

The connection begins with a handshake, then opens the document and passes on
questions. Messages lie in two queues, one each way, until the other side takes
them; either side can let go of its ends. The connection counts its requests
and remembers those without answer, so that every answer is taken once and for
the request it belongs to.
-/

import SymbolJump.Keyed
import SymbolJump.Server.Command
import SymbolJump.Server.Message
import SymbolJump.Uri.Document

namespace SymbolJump.Server

open Text

/-- The addresses of a connection. -/
structure Addresses where
  language : String
  serverUri : String
  endpoint : String
  rootUri : String
  documentUri : String
  deriving DecidableEq, Repr

/-- The port of the local endpoint that leads to the servers. -/
def navigationPort : Nat := 3000

/-- The addresses for a document in a directory. -/
def Addresses.ofDocument (language : String) (directory path : Path) : Addresses :=
  { language := language
    serverUri := "ws://localhost/" ++ language
    endpoint :=
      "ws://localhost:" ++ String.ofList (numeral navigationPort) ++ "/" ++ language
    rootUri := Uri.documentUri directory
    documentUri := Uri.documentUri path }

/-- Why a request is not sent. -/
inductive ConnectionError where
  | notInitialized
  | closed
  deriving DecidableEq, Repr

def ConnectionError.message : ConnectionError → String
  | notInitialized => "language server has not finished initializing"
  | closed => "connection is closed"

/-- What a request without answer was for. -/
inductive Pending where
  | handshake
  | question (command : Command)
  | shutdown
  deriving DecidableEq, Repr

/-- The queues between the two sides, and which ends are still held. -/
structure Link where
  inbox : List Message := []
  outbox : List Message := []
  serverSends : Bool := true
  serverReceives : Bool := true
  clientListens : Bool := true

structure Connection where
  addresses : Addresses
  documentText : List Char
  isOpen : Bool := true
  capabilities : Option Capabilities := none
  pending : Keyed Nat Pending := .empty
  /-- The count of requests so far, which never wraps. The number that a request carries on
  the wire is this count modulo 2^64. -/
  lastId : Nat := 0
  link : Link := {}

/-- What a connection reports. -/
inductive Event where
  | initialized (capabilities : Capabilities)
  | goTo (command : Command) (locations : List Location)
  | closed

namespace Connection

/-! ### Sending -/

/-- Puts a message into the outgoing queue; absent if it has no way out. -/
def send? (connection : Connection) (message : Message) : Option Connection :=
  if connection.isOpen && connection.link.serverReceives then
    some { connection with
      link := { connection.link with outbox := connection.link.outbox ++ [message] } }
  else none

/-- Sends a request under the next number and remembers it. The number is used up even if
the request has no way out. -/
def sendRequest (connection : Connection) (purpose : Pending) (method : String)
    (params : Option Json) : Except ConnectionError Nat × Connection :=
  let number := connection.lastId + 1
  let counted := { connection with lastId := number }
  match counted.send? (.request (.number number.toUInt64) method params) with
  | some sent => (.ok number, { sent with pending := sent.pending.insert number purpose })
  | none => (.error .closed, counted)

/-- What the client announces about itself. -/
def handshakeParams (processId : Nat) (rootUri : String) : Json :=
  .object
    [("processId", .nat processId), ("rootUri", .string rootUri),
     ("capabilities", .object
       [("textDocument", .object
         [("definition", .object [("linkSupport", .bool true)]),
          ("typeDefinition", .object [("linkSupport", .bool true)]),
          ("references", .object [])])])]

/-- Opens a connection over a link by sending the handshake. -/
def start (processId : Nat) (addresses : Addresses) (documentText : List Char) (link : Link) :
    Except ConnectionError Connection :=
  let fresh : Connection :=
    { addresses := addresses, documentText := documentText, link := link }
  let params := handshakeParams processId addresses.rootUri
  match fresh.sendRequest .handshake "initialize" (some params) with
  | (.ok _, connection) => .ok connection
  | (.error error, _) => .error error

/-- Asks a question about a position; gives the number of the request. -/
def ask (connection : Connection) (command : Command) (position : ServerPosition) :
    Except ConnectionError Nat × Connection :=
  if !connection.isOpen then (.error .closed, connection)
  else if connection.capabilities.isNone then (.error .notInitialized, connection)
  else
    let params := command.params connection.addresses.documentUri position
    connection.sendRequest (.question command) command.method (some params)

/-! ### Receiving -/

/-- What the server is told about the document. -/
def documentParams (connection : Connection) : Json :=
  .object
    [("textDocument", .object
      [("uri", .string connection.addresses.documentUri),
       ("languageId", .string connection.addresses.language), ("version", .nat 1),
       ("text", .string (String.ofList connection.documentText))])]

/-- Ends the handshake: notes the capabilities and opens the document. -/
def finishHandshake (connection : Connection) (result : Option Json) : Event × Connection :=
  let capabilities := Capabilities.ofHandshake result
  let ready := { connection with capabilities := some capabilities }
  let opened :=
    match ready.send? (.notification "initialized" (some (.object []))) with
    | none => ready
    | some sent =>
        (sent.send? (.notification "textDocument/didOpen" (some ready.documentParams))).getD sent
  (.initialized capabilities, opened)

/-- Takes a response. One that belongs to no open request is ignored, and one with an error
only ends its request. -/
def takeResponse (connection : Connection) (id : MessageId) (result : Option Json)
    (error : Option ResponseError) : Option Event × Connection :=
  match id.number? with
  | none => (none, connection)
  | some number =>
      match connection.pending.get? number with
      | none => (none, connection)
      | some purpose =>
          let settled := { connection with pending := connection.pending.erase number }
          if error.isSome then (none, settled)
          else
            match purpose with
            | .handshake =>
                let (event, ready) := settled.finishHandshake result
                (some event, ready)
            | .question command =>
                match Location.decodeAll result with
                | .ok (first :: rest) => (some (.goTo command (first :: rest)), settled)
                | _ => (none, settled)
            | .shutdown => (none, settled)

/-- The number of configuration items that a request asks for. -/
def configurationItems (params : Option Json) : Nat :=
  match params.bind (·.get? "items") with
  | some (.array items) => items.length
  | _ => 0

/-- The answer to a request of the server. Configuration is answered with nothing for each
item, what needs no answer with null, and all else with an error. -/
def replyTo (id : MessageId) (method : String) (params : Option Json) : Message :=
  match method with
  | "workspace/configuration" =>
      .response id (some (.array (List.replicate (configurationItems params) .null))) none
  | "window/workDoneProgress/create" => .response id (some .null) none
  | "client/registerCapability" => .response id (some .null) none
  | "client/unregisterCapability" => .response id (some .null) none
  | _ => .response id none (some ⟨-32601, "method not found"⟩)

/-- Takes one message of the server. -/
def take (connection : Connection) (message : Message) : Option Event × Connection :=
  match message with
  | .response id result error => connection.takeResponse id result error
  | .request id method params =>
      (none, (connection.send? (replyTo id method params)).getD connection)
  | .notification _ _ => (none, connection)

/-- Lets go of the outgoing queue and of all open requests. -/
def shut (connection : Connection) : Connection :=
  { connection with isOpen := false, pending := .empty }

def setInbox (connection : Connection) (inbox : List Message) : Connection :=
  { connection with link := { connection.link with inbox := inbox } }

/-- Takes the given messages, which are the incoming queue, up to the first that makes an
event. At the end of the queue the connection is over if the server let go of it. -/
def pollFrom (connection : Connection) : List Message → Option Event × Connection
  | [] =>
      let emptied := connection.setInbox []
      if emptied.link.serverSends then (none, emptied) else (some .closed, emptied.shut)
  | message :: rest =>
      match connection.take message with
      | (some event, taken) => (some event, taken.setInbox rest)
      | (none, taken) => pollFrom taken rest

/-- The next event, if there is one. -/
def poll (connection : Connection) : Option Event × Connection :=
  if connection.isOpen then connection.pollFrom connection.link.inbox else (none, connection)

/-- The events ready now, at most a given number of them. -/
def drainWithin : Nat → Connection → List Event × Connection
  | 0, connection => ([], connection)
  | fuel + 1, connection =>
      match connection.poll with
      | (none, polled) => ([], polled)
      | (some event, polled) =>
          let (events, drained) := drainWithin fuel polled
          (event :: events, drained)

/-- All events ready now. Each takes a message from the queue, except for the one at its
end. -/
def drain (connection : Connection) : List Event × Connection :=
  connection.drainWithin (connection.link.inbox.length + 1)

/-! ### Ending -/

/-- Closes the connection. A server that finished the handshake is shut down first. -/
def close (connection : Connection) : Connection :=
  if !connection.isOpen then connection
  else if connection.capabilities.isNone then connection.shut
  else
    match connection.sendRequest .shutdown "shutdown" none with
    | (.error _, counted) => counted.shut
    | (.ok _, sent) => ((sent.send? (.notification "exit" none)).getD sent).shut

/-- Closes the connection and lets go of the incoming queue too. -/
def drop (connection : Connection) : Connection :=
  let closed := connection.close
  { closed with link := { closed.link with clientListens := false } }

/-! ### The server's side -/

/-- The server sends a message; false if nobody can receive it. -/
def serverSend (connection : Connection) (message : Message) : Bool × Connection :=
  if connection.link.serverSends && connection.link.clientListens then
    (true, connection.setInbox (connection.link.inbox ++ [message]))
  else (false, connection)

/-- The server takes all messages sent to it, as long as it holds that end. -/
def serverReceive (connection : Connection) : Option (List Message) × Connection :=
  if connection.link.serverReceives then
    (some connection.link.outbox,
      { connection with link := { connection.link with outbox := [] } })
  else (none, connection)

/-- The server lets go of its sending end; false if it had. -/
def serverStopsSending (connection : Connection) : Bool × Connection :=
  (connection.link.serverSends,
    { connection with link := { connection.link with serverSends := false } })

/-- The server lets go of its receiving end; false if it had. -/
def serverStopsReceiving (connection : Connection) : Bool × Connection :=
  (connection.link.serverReceives,
    { connection with link := { connection.link with serverReceives := false, outbox := [] } })

end Connection

end SymbolJump.Server
