import ExtensionCatalogue.Failure
import ExtensionCatalogue.Text.Blank
import ExtensionCatalogue.Text.Charset

/-!
# Replies

What comes back for a request: nothing, or a response whose body arrives in pieces and may be cut
short. A response counts only if its status is a success; otherwise its body is the message.
-/

namespace ExtensionCatalogue.Client

/-- A response as it is delivered: the length that it announces, the charset that its content type
names, UTF-8 if that names none that is known, the pieces of its body as they arrive, and whether
the body is complete or what cut it short. -/
structure Delivery where
  status : Nat
  announced : Option UInt64
  charset : Charset
  pieces : List (List UInt8)
  interrupted : Option String

namespace Delivery

def bytes (d : Delivery) : List UInt8 := d.pieces.flatten

def isComplete (d : Delivery) : Bool := d.interrupted.isNone

def isSuccess (d : Delivery) : Bool := 200 ≤ d.status && d.status < 300

/-- The text of the body without blanks around it, or nothing if the body is cut short. -/
def message (d : Delivery) : String :=
  if d.isComplete then Text.trim (d.charset.text d.bytes) else ""

end Delivery

inductive Reply where
  | unreachable (cause : String)
  | delivered (d : Delivery)

/-- The successful response to the request of `url`. -/
def Reply.success (url : String) : Reply → Except Failure Delivery
  | unreachable cause => .error (.transport ("Request to " ++ url ++ " failed: " ++ cause))
  | delivered d => if d.isSuccess then .ok d else .error (.rejected d.status d.message)

end ExtensionCatalogue.Client
