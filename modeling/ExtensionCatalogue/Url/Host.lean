import ExtensionCatalogue.Text.Percent
import ExtensionCatalogue.Url.Basic
import ExtensionCatalogue.Url.Domain

/-!
# Hosts

A host of the special schemes is an IPv6 address in brackets or a domain name, and a name that
ends in a number is an IPv4 address. Other schemes keep a host as it is written.
-/

namespace ExtensionCatalogue.Host

/-- An IPv6 address and its closing bracket. -/
def inBrackets (cs : List Char) : Except Url.Problem Host :=
  match cs.getLast?, Ipv6.ofChars? Ipv4.ofChars? cs.dropLast with
  | some ']', some a => .ok (.ipv6 a)
  | _, _ => .error .ipv6

/-- The host of a special scheme. -/
def ofChars : List Char → Except Url.Problem Host
  | '[' :: rest => inBrackets rest
  | cs =>
    match Domain.toAscii? (Percent.decode (Utf8.encode cs)) with
    | none => .error .internationalName
    | some [] => .error .emptyHost
    | some domain =>
      if Ipv4.endsInNumber domain then
        match Ipv4.ofName? domain with
        | some a => .ok (.ipv4 a)
        | none => .error .ipv4
      else .ok (.name (String.ofList domain))

/-- Characters that no host holds, whatever its scheme. -/
def isForbidden (c : Char) : Bool :=
  c ∈ ['\x00', '\t', '\n', '\r', ' ', '#', '/', ':', '<', '>', '?', '@', '[', '\\', ']', '^', '|']

/-- The host of any other scheme. -/
def asWritten : List Char → Except Url.Problem Host
  | '[' :: rest => inBrackets rest
  | cs =>
    if cs.any isForbidden then .error .hostCharacter
    else .ok (.name (String.ofList (Percent.encode Url.isControl cs)))

end ExtensionCatalogue.Host
