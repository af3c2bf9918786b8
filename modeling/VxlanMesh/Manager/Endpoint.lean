/-
  VxlanMesh.Manager.Endpoint
  ────────────────────────────────
  **THE MANAGER AS SEEN FROM THE AGENT.**

  An `Endpoint` answers requests: with the replies it holds, one each,
  then with a fallback, and without one with status 503.  A reply may
  break off before its announced end, or the line may be cut without any.
  Where the line is down no request arrives at all, and none is sent to
  what is no address for the library that sends them.  Which texts are
  addresses is up to that library (`addressOf?`): nothing is said of it.

      syncUrl   the address at which the manager serves snapshots
      request   ask the manager at an address for a snapshot
-/
import VxlanMesh.Error
import VxlanMesh.Json.Reader
import VxlanMesh.Overlay.Topology
import VxlanMesh.Text.Utf8

namespace VxlanMesh.Manager

/-! ## §1. Addresses and replies. -/

/-- Where the manager serves snapshots, below its base address. -/
def syncPath : String := "tenants/admin/sync"

/-- The address at which the manager serves snapshots to the agent at an address. -/
def syncUrl (base internalIp : String) : String :=
  let trimmed := (base.toList.reverse.dropWhile (· = '/')).reverse
  String.ofList trimmed ++ "/" ++ syncPath ++ "/" ++ internalIp

/-- An address as it is requested. -/
structure Address where
  /-- How failures name it. -/
  text : String
  /-- What is requested of the host. -/
  target : String
  deriving Repr, DecidableEq

/-- What the manager does with a request. -/
inductive Reply where
  /-- A status and a body, complete or broken off. -/
  | answer (status : Nat) (body : ByteArray) (complete : Bool)
  /-- The line is cut without an answer. -/
  | dropped

/-- The manager behind its line, and the library that sends requests there. -/
structure Endpoint where
  /-- What the library makes of a text; it sends nothing where the text is no address. -/
  addressOf? : String → Option Address
  isUp : Bool := true
  replies : List Reply := []
  fallback : Option Reply := none
  /-- The request lines that arrived. -/
  requests : List String := []

namespace Endpoint

/-- The reply where none is prepared. -/
def unavailable : Reply := .answer 503 ByteArray.empty true

/-- Take a request and reply to it. -/
def serve (endpoint : Endpoint) (target : String) : Reply × Endpoint :=
  let endpoint := { endpoint with requests := endpoint.requests ++ ["GET " ++ target] }
  match endpoint.replies with
  | reply :: rest => (reply, { endpoint with replies := rest })
  | [] => (endpoint.fallback.getD unavailable, endpoint)

end Endpoint

/-! ## §2. Statuses. -/

/-- The standard phrases of statuses. -/
def reasons : List (Nat × String) :=
  [(100, "Continue"), (101, "Switching Protocols"), (102, "Processing"), (200, "OK"),
    (201, "Created"), (202, "Accepted"), (203, "Non Authoritative Information"),
    (204, "No Content"), (205, "Reset Content"), (206, "Partial Content"),
    (207, "Multi-Status"), (208, "Already Reported"), (226, "IM Used"),
    (300, "Multiple Choices"), (301, "Moved Permanently"), (302, "Found"),
    (303, "See Other"), (304, "Not Modified"), (305, "Use Proxy"),
    (307, "Temporary Redirect"), (308, "Permanent Redirect"), (400, "Bad Request"),
    (401, "Unauthorized"), (402, "Payment Required"), (403, "Forbidden"),
    (404, "Not Found"), (405, "Method Not Allowed"), (406, "Not Acceptable"),
    (407, "Proxy Authentication Required"), (408, "Request Timeout"), (409, "Conflict"),
    (410, "Gone"), (411, "Length Required"), (412, "Precondition Failed"),
    (413, "Payload Too Large"), (414, "URI Too Long"), (415, "Unsupported Media Type"),
    (416, "Range Not Satisfiable"), (417, "Expectation Failed"), (418, "I'm a teapot"),
    (421, "Misdirected Request"), (422, "Unprocessable Entity"), (423, "Locked"),
    (424, "Failed Dependency"), (425, "Too Early"), (426, "Upgrade Required"),
    (428, "Precondition Required"), (429, "Too Many Requests"),
    (431, "Request Header Fields Too Large"), (451, "Unavailable For Legal Reasons"),
    (500, "Internal Server Error"), (501, "Not Implemented"), (502, "Bad Gateway"),
    (503, "Service Unavailable"), (504, "Gateway Timeout"),
    (505, "HTTP Version Not Supported"), (506, "Variant Also Negotiates"),
    (507, "Insufficient Storage"), (508, "Loop Detected"), (510, "Not Extended"),
    (511, "Network Authentication Required")]

/-- A status with its phrase. -/
def statusText (status : Nat) : String :=
  toString status ++ " " ++ (reasons.lookup status).getD "<unknown status code>"

/-! ## §3. Snapshots from replies. -/

/-- A failure to send a request. -/
def unsent (url : String) (address : Address) : OverlayError :=
  .transport url ("error sending request for url (" ++ address.text ++ ")")

/-- The snapshot that a reply holds: only a complete answer with status 200 and a readable
body holds one. -/
def snapshotOf (url : String) (address : Address) : Reply → Except OverlayError Topology
  | .dropped => .error (unsent url address)
  | .answer status body complete =>
      if status ≠ 200 then .error (.transport url ("unexpected status " ++ statusText status))
      else
        let topology := if complete then
            (Text.Utf8.decode? body).bind Topology.ofText?
          else none
        match topology with
        | some topology => .ok topology
        | none => .error (.transport url "invalid body: error decoding response body")

/-- Ask the manager at an address for a snapshot. -/
def request (url : String) (endpoint : Endpoint) : Except OverlayError Topology × Endpoint :=
  match endpoint.addressOf? url with
  | none => (.error (.transport url "builder error"), endpoint)
  | some address =>
      if endpoint.isUp then
        let (reply, endpoint) := endpoint.serve address.target
        (snapshotOf url address reply, endpoint)
      else (.error (unsent url address), endpoint)

end VxlanMesh.Manager
