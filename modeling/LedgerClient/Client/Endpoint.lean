import LedgerClient.Client.Basic
import LedgerClient.Url.Basic

/-!
# Endpoints

What can be told about a connection to a node before anything is sent: whether the address is one,
whether the name of the client can stand in a request, and whether the address is one of the web at
all.
-/

namespace LedgerClient

namespace Rpc

/-- Whether a byte may stand in the name that a client gives itself. -/
def isNameByte (b : UInt8) : Bool :=
  (0x20 ≤ b && b ≠ 0x7F) || b = 0x09

/-- The address to which the calls of a configuration go. -/
def Config.address (c : Config) : Except Fault Url :=
  match Url.ofText? c.endpoint with
  | none => .error (.network (.endpoint c.endpoint))
  | some url =>
    if (Utf8.encode c.userAgent).all isNameByte then .ok url else .error (.network .setup)

/-- A transport on which nothing can be sent, as there is none to addresses outside the web. -/
def unsent : Transport Unit :=
  fun _ s => ⟨s, ⟨0⟩, .error (.network .unsent), s⟩

end Rpc

/-- A client for a node by its address, over a transport that sends nothing. -/
def Client.dial (config : ClientConfig) : Except ClientFault (Url × Client Unit) :=
  match config.rpc.address with
  | .error fault => .error (.rpc fault)
  | .ok url => .ok (url, .new config Rpc.unsent ())

end LedgerClient
