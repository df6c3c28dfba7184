import DomeLink.Config.Basic

/-!
# What clients of a connection are told

Model of `PlcError` (`error` in `plc-driver`; specification, section 11.2), as far as a client of an
open connection meets it.

Why a connection does not open or does not take a request.

Out of scope: its transport, file and JSON errors, which come up before a connection is open.
-/

namespace DomeLink

/-- Why a client is refused. -/
inductive ClientFault
  /-- A value that was asked for is out of range. -/
  | protocol (fault : Fault)
  | config (fault : ConfigFault)
  /-- The session has ended. -/
  | sessionClosed
  deriving DecidableEq, Repr

/-- The text of the fault. -/
def ClientFault.message : ClientFault → String
  | .protocol fault => "Protocol error: " ++ fault.message
  | .config fault => "Invalid configuration: " ++ fault.message
  | .sessionClosed => "PLC session closed"

end DomeLink
