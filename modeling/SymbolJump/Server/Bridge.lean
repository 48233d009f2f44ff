/-
From a server's locations to movements of the caret.

Only the first location counts. One in the connected document moves the caret
there, without an entry in the history; one in another document is handed to
the host as an outside file.
-/

import SymbolJump.Host
import SymbolJump.Jumper.Basic
import SymbolJump.Server.Connection

namespace SymbolJump.Server

open Text

/-- What follows from an answer. -/
inductive GoTo where
  | stay
  | move (position : Position)
  | leave (target : OutsideTarget)
  deriving DecidableEq, Repr

/-- The consequence of an answer for a document and the text of its active editor. -/
def GoTo.ofLocations (documentUri : String) (text? : Option (List Char)) :
    List Location → GoTo
  | [] => .stay
  | location :: _ =>
      let start := location.range.start
      if Uri.sameDocument location.uri documentUri then
        match text? with
        | some text => .move (ofServer text start)
        | none => .stay
      else
        .leave
          { uri := Uri.stripFileScheme location.uri
            position := ⟨start.line.toNat, start.character.toNat⟩ }

/-- Follows an answer with a jumper. -/
def follow (jumper : Jumper) (host : Host) (goTo : GoTo) : Bool × Jumper × Host :=
  match goTo with
  | .stay => (false, jumper, host)
  | .move position =>
      let (moved, arrived) := jumper.jump (jumper.destinationAt position)
      (moved, arrived, host)
  | .leave target =>
      let (shown, asked) := host.present (target.request true)
      (shown, jumper, asked)

/-- Follows the locations of an answer. -/
def handleLocations (documentUri : String) (jumper : Jumper) (host : Host)
    (locations : List Location) : Bool × Jumper × Host :=
  let text? := jumper.activeEditor?.map (·.text)
  follow jumper host (GoTo.ofLocations documentUri text? locations)

/-- Follows the answers among the events, in order. -/
def applyEvents (documentUri : String) : List Event → Jumper → Host → Jumper × Host
  | [], jumper, host => (jumper, host)
  | .goTo _ locations :: rest, jumper, host =>
      let (_, jumper, host) := handleLocations documentUri jumper host locations
      applyEvents documentUri rest jumper host
  | _ :: rest, jumper, host => applyEvents documentUri rest jumper host

/-- Applies all ready events of a connection; gives their number. -/
def pump (connection : Connection) (jumper : Jumper) (host : Host) :
    Nat × Connection × Jumper × Host :=
  let (events, drained) := connection.drain
  let (jumper, host) := applyEvents connection.addresses.documentUri events jumper host
  (events.length, drained, jumper, host)

/-- Asks a question about a position in the text of an editor. -/
def askAt (connection : Connection) (command : Command) (text : List Char)
    (position : Position) : Except ConnectionError Nat × Connection :=
  connection.ask command (toServer text position)

/-- Whether the server answers a question, as far as is known. -/
def isSupported (connection : Connection) (command : Command) : Bool :=
  connection.capabilities.any (·.supports command)

end SymbolJump.Server
