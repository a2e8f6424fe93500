import TokenLaunch.Url
import TokenLaunch.Utf8

/-!
# HTTP

Requests to services, what comes back, and the words for both.
-/

namespace TokenLaunch.Http

/-! ## Status codes -/

def reasons : List (Nat × String) :=
  [(100, "Continue"), (101, "Switching Protocols"), (102, "Processing"), (103, "Early Hints"),
    (200, "OK"), (201, "Created"), (202, "Accepted"), (203, "Non Authoritative Information"),
    (204, "No Content"), (205, "Reset Content"), (206, "Partial Content"), (207, "Multi-Status"),
    (208, "Already Reported"), (226, "IM Used"), (300, "Multiple Choices"),
    (301, "Moved Permanently"), (302, "Found"), (303, "See Other"), (304, "Not Modified"),
    (305, "Use Proxy"), (307, "Temporary Redirect"), (308, "Permanent Redirect"),
    (400, "Bad Request"), (401, "Unauthorized"), (402, "Payment Required"), (403, "Forbidden"),
    (404, "Not Found"), (405, "Method Not Allowed"), (406, "Not Acceptable"),
    (407, "Proxy Authentication Required"), (408, "Request Timeout"), (409, "Conflict"),
    (410, "Gone"), (411, "Length Required"), (412, "Precondition Failed"),
    (413, "Payload Too Large"), (414, "URI Too Long"), (415, "Unsupported Media Type"),
    (416, "Range Not Satisfiable"), (417, "Expectation Failed"), (418, "I'm a teapot"),
    (421, "Misdirected Request"), (422, "Unprocessable Entity"), (423, "Locked"),
    (424, "Failed Dependency"), (425, "Too Early"), (426, "Upgrade Required"),
    (428, "Precondition Required"), (429, "Too Many Requests"),
    (431, "Request Header Fields Too Large"), (451, "Unavailable For Legal Reasons"),
    (500, "Internal Server Error"), (501, "Not Implemented"), (502, "Bad Gateway"),
    (503, "Service Unavailable"), (504, "Gateway Timeout"), (505, "HTTP Version Not Supported"),
    (506, "Variant Also Negotiates"), (507, "Insufficient Storage"), (508, "Loop Detected"),
    (510, "Not Extended"), (511, "Network Authentication Required")]

/-- A status code and its reason. -/
def statusText (status : Nat) : String :=
  Text.decimal status ++ " " ++ (reasons.lookup status).getD "<unknown status code>"

def isSuccess (status : Nat) : Bool := 200 ≤ status && status < 300

theorem isSuccess_iff {status : Nat} : isSuccess status = true ↔ 200 ≤ status ∧ status < 300 := by
  simp [isSuccess]

/-! ## Requests -/

inductive Method where
  | get
  | post
deriving DecidableEq, Repr

structure Content where
  type : String
  text : String
deriving DecidableEq, Repr

structure Request where
  method : Method
  url : Url
  content : Option Content
deriving DecidableEq, Repr

/-- How every request names its sender. -/
def userAgent : String := "TokenForge/1.0"

/-- Why no response came. -/
inductive Fault where
  /-- The address of the service is no URL. -/
  | noUrl (fault : Url.Fault)
  /-- The URL is none of the web. -/
  | unusable (url : String)
  /-- The URL cannot be written into a request. -/
  | unwritable (url : String)
  | unreachable (url : String)
deriving DecidableEq, Repr

def Fault.message : Fault → String
  | noUrl _ => "builder error"
  | unusable url | unwritable url => "builder error for url (" ++ url ++ ")"
  | unreachable url => "error sending request for url (" ++ url ++ ")"

/-- What a fault comes from, the nearest cause first. -/
def Fault.causes : Fault → List String
  | noUrl fault => [fault.message]
  | unusable _ => ["URL scheme is not allowed"]
  | unwritable _ => ["Parsed Url is not a valid Uri"]
  | unreachable _ =>
    ["client error (Connect)", "tcp connect error", "Network is unreachable (os error 101)"]

/-- The most bytes that the URL of a request has. -/
def maxUrl : Nat := 65534

/-- Whether a URL can be written into a request: its host has no quotation mark, brace or grave
accent, and it is not too long. -/
def isWritable (url : Url) : Bool :=
  url.text.utf8ByteSize ≤ maxUrl
    && !(url.host.map (·.text)).any fun s => s.toList.any ['"', '\x7b', '\x7d', '\x60'].contains

/-- The request to an address, with pairs added to its query.  Credentials are told in a header of
their own. -/
def request (method : Method) (address : String) (pairs : List (String × String))
    (content : Option Content) : Except Fault Request :=
  match Url.ofText address with
  | .error fault => .error (.noUrl fault)
  | .ok u =>
    if u.hasHost then
      let url := if pairs.isEmpty then u.withoutCredentials else u.withoutCredentials.addPairs pairs
      if !url.isWeb then .error (.unusable url.text)
      else if isWritable url then .ok { method, url, content }
      else .error (.unwritable url.text)
    else .error (.unusable u.text)

/-! ## Responses -/

/-- What comes of a request. -/
inductive Exchange where
  | answered (status : Nat) (body : List UInt8)
  /-- The response broke off before the end of its body. -/
  | brokenOff (status : Nat)
  | unreachable
deriving DecidableEq, Repr

structure Response where
  status : Nat
  body : String
deriving DecidableEq, Repr

/-- The response of an exchange with the service under a URL. -/
def Exchange.response (url : Url) : Exchange → Except Fault Response
  | answered status body => .ok ⟨status, Utf8.decode body⟩
  | brokenOff status => .ok ⟨status, "<unreadable body>"⟩
  | unreachable => .error (.unreachable url.text)

/-- A network with a state of its own. -/
abbrev Network (σ : Type) := Request → StateM σ Exchange

/-- The network in which no service is reached. -/
def Network.down {σ : Type} : Network σ := fun _ => return .unreachable

/-- Sends a request that could be made. -/
def Network.send {σ : Type} (net : Network σ) :
    Except Fault Request → StateM σ (Except Fault Response)
  | .error fault => return .error fault
  | .ok r => return (← net r).response r.url

end TokenLaunch.Http
