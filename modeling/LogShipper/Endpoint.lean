import LogShipper.Json.Writer
import LogShipper.Url

/-!
# Endpoints

Events are sent to one path of a server.  A URL names the server if it has a scheme and a host, and
only on this machine itself may the scheme be another than `https`.
-/

namespace LogShipper

/-- Why a value names no server.  What is found only when the host is shown or the path is replaced
is reported as it is. -/
inductive EndpointFault where
  | invalid (given : Json)
  | insecure (url : Text)
  | domain (fault : Url.Domain.Fault)
  | malformed (fault : Url.Fault)
  deriving Inhabited

def EndpointFault.message : EndpointFault → Text
  | .invalid given =>
    if given.hasOversized then Oversized.written.message
    else "Invalid addEvents URL: " ++ given.literal
  | .insecure url =>
    "Invalid addEvents URL: " ++ Text.quoted url ++ " (https is required for non-local hosts)"
  | .domain fault => fault.message
  | .malformed fault => fault.message

/-- Whether a fault is one of the settings.  A value that cannot be shown is not reported as one. -/
def EndpointFault.isSettings : EndpointFault → Bool
  | .invalid given => !given.hasOversized
  | .insecure _ => true
  | .domain _ | .malformed _ => false

namespace Endpoint

def path : Text := "/addEvents"

def localHost : Text := "localhost"

/-- The host of a URL as it is shown: an encoded first label makes the name be decoded. -/
def shownHost (url : Url) : Except EndpointFault Text :=
  if Text.startsWith Url.Domain.asciiLead url.host then
    match Url.Domain.toUnicode url.host with
    | .ok name => .ok name
    | .error fault => .error (.domain fault)
  else .ok url.host

/-- Whether events may be sent to a host by a scheme. -/
def isSecure (scheme host : Text) : Bool :=
  host = localHost || scheme = Text.ofString "https"

/-- The URL of the endpoint on the server that a text names. -/
def ofText (t : Text) : Except EndpointFault Text :=
  match Url.parse t with
  | .error (.unencodable fault) => .error (.malformed (.unencodable fault))
  | .error _ => .error (.invalid (.text t))
  | .ok url =>
    if url.scheme.isEmpty then .error (.invalid (.text t))
    else do
      let host ← shownHost url
      if host.isEmpty then throw (.invalid (.text t))
      if !isSecure url.scheme host then throw (.insecure t)
      match url.withPath path with
      | .ok endpoint => return endpoint.toText
      | .error fault => throw (.malformed fault)

/-- The URL of the endpoint on the server that a value names. -/
def ofJson : Json → Except EndpointFault Text
  | .text t => ofText t
  | given => .error (.invalid given)

end Endpoint

end LogShipper
