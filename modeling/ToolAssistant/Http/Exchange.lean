import ToolAssistant.Http.Url
import ToolAssistant.Json.Reader
import ToolAssistant.World.Action

/-!
# Requests and responses

A client sends a request to a web service.  It may get a response with a status and a text, or
nothing at all.
-/

namespace ToolAssistant.Http

/-- What is asked of a resource. -/
inductive Method where
  | get
  | post
  deriving DecidableEq, Repr

/-- The name of a method. -/
def Method.name : Method → String
  | get => "GET"
  | post => "POST"

/-- A request, with the two headers that can carry a key. -/
structure Request where
  method : Method
  url : Url
  authorization : Option String := none
  apiKey : Option String := none
  body : Option Json := none

/-- May the text be the value of a header? -/
def isHeaderText (text : String) : Bool :=
  text.toList.all fun c => c == '\t' || 0x20 ≤ c.toNat && c.toNat ≠ 0x7F

/-- Can the request be sent at all? -/
def Request.isWellFormed (request : Request) : Bool :=
  request.authorization.all isHeaderText && request.apiKey.all isHeaderText

/-- A response. -/
structure Response where
  status : Nat
  body : String
  deriving DecidableEq, Repr

/-- The standard phrases for the statuses that have one. -/
def reasonPhrases : List (Nat × String) :=
  [(100, "Continue"), (101, "Switching Protocols"), (102, "Processing"), (200, "OK"),
    (201, "Created"), (202, "Accepted"), (203, "Non Authoritative Information"),
    (204, "No Content"), (205, "Reset Content"), (206, "Partial Content"), (207, "Multi-Status"),
    (208, "Already Reported"), (226, "IM Used"), (300, "Multiple Choices"),
    (301, "Moved Permanently"), (302, "Found"), (303, "See Other"), (304, "Not Modified"),
    (305, "Use Proxy"), (307, "Temporary Redirect"), (308, "Permanent Redirect"),
    (400, "Bad Request"), (401, "Unauthorized"), (402, "Payment Required"), (403, "Forbidden"),
    (404, "Not Found"), (405, "Method Not Allowed"), (406, "Not Acceptable"),
    (407, "Proxy Authentication Required"), (408, "Request Timeout"), (409, "Conflict"),
    (410, "Gone"), (411, "Length Required"), (412, "Precondition Failed"),
    (413, "Payload Too Large"), (414, "URI Too Long"), (415, "Unsupported Media Type"),
    (416, "Range Not Satisfiable"), (417, "Expectation Failed"), (418, "I'm a teapot"),
    (421, "Misdirected Request"), (422, "Unprocessable Entity"), (423, "Locked"),
    (424, "Failed Dependency"), (426, "Upgrade Required"), (428, "Precondition Required"),
    (429, "Too Many Requests"), (431, "Request Header Fields Too Large"),
    (451, "Unavailable For Legal Reasons"), (500, "Internal Server Error"),
    (501, "Not Implemented"), (502, "Bad Gateway"), (503, "Service Unavailable"),
    (504, "Gateway Timeout"), (505, "HTTP Version Not Supported"),
    (506, "Variant Also Negotiates"), (507, "Insufficient Storage"), (508, "Loop Detected"),
    (510, "Not Extended"), (511, "Network Authentication Required")]

/-- A status with its phrase. -/
def statusText (status : Nat) : String :=
  toString status ++ " " ++ (reasonPhrases.lookup status).getD "<unknown status code>"

namespace Response

/-- Does the status report a success? -/
def isSuccess (response : Response) : Bool :=
  200 ≤ response.status && response.status < 300

/-- The status with its phrase. -/
def statusText (response : Response) : String :=
  Http.statusText response.status

/-- The text of the body; a byte order mark in front of it is dropped. -/
def text (response : Response) : String :=
  match response.body.toList with
  | '\ufeff' :: rest => String.ofList rest
  | _ => response.body

/-- What arrives of a response as it was sent.  Statuses have three digits.  Those below 200 only
announce a response, which then never comes; after a switch of protocols, and where the status says
that there is no content, the body is not read. -/
def received? (response : Response) : Option Response :=
  if [101, 204, 304].contains response.status then some { response with body := "" }
  else if 200 ≤ response.status ∧ response.status < 1000 then some response
  else none

end Response

/-- A client in a world with states in `σ`; there is no response if the service cannot be reached or
closes the connection. -/
abbrev Client (σ : Type) := Request → Action σ (Option Response)

/-- Sends a request to an address, if the address can be read and the request be sent. -/
def Client.request {σ : Type} (client : Client σ) (address : String) (build : Url → Request) :
    Action σ (Option Response) :=
  match Url.read? address with
  | none => Action.pure none
  | some url => if (build url).isWellFormed then client (build url) else Action.pure none

end ToolAssistant.Http
