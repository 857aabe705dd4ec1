/-!
# Failures

What a request to a catalogue can end with, and the text for the user. A failure is transient
when the same request may succeed later.
-/

namespace ExtensionCatalogue

inductive Failure where
  /-- No usable response arrived. -/
  | transport (cause : String)
  /-- The response cannot be read. -/
  | unreadable (cause : String)
  /-- The server answered with a status other than success. -/
  | rejected (status : Nat) (message : String)
  /-- The package is not in the registry. -/
  | notFound (id : String)
  /-- The endpoint cannot carry a request. -/
  | invalidEndpoint (endpoint : String)
  /-- The controller has ended. -/
  | stopped
  deriving DecidableEq, Repr

namespace Failure

def text : Failure → String
  | transport cause => "Transport error: " ++ cause
  | unreadable cause => "Failed to parse response: " ++ cause
  | rejected status message => s!"Server rejected request (HTTP {status}): " ++ message
  | notFound id => "Package not found: " ++ id
  | invalidEndpoint endpoint => "Invalid endpoint: " ++ endpoint
  | stopped => "Sync controller has stopped"

def isTransient : Failure → Bool
  | transport _ => true
  | rejected status _ => 500 ≤ status
  | _ => false

end Failure

end ExtensionCatalogue
