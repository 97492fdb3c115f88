import GatewayPing.Bytes
import GatewayPing.Headers

/-! Requests and responses as they travel. The body of a response arrives in chunks; how it is cut
into chunks means nothing. After the body there may be a second block of headers, the trailers. -/
namespace GatewayPing

/-- A request. -/
structure Request where
  /-- What is to be done with the body. -/
  verb : String
  path : String
  headers : Headers
  body : Bytes
  deriving DecidableEq, Repr

/-- What follows the last chunk of a body. -/
inductive BodyEnd where
  /-- Nothing. -/
  | bare
  | trailers (hs : Headers)
  /-- The body breaks off, for this reason. -/
  | failed (reason : String)
  deriving DecidableEq, Repr

/-- A response. -/
structure Response where
  status : Nat
  headers : Headers
  chunks : List Bytes
  ending : BodyEnd
  deriving DecidableEq, Repr

/-- The status of a response that went well. -/
def Response.fine : Nat := 200

/-- The phrases that go with response statuses. -/
def reasonPhrases : List (Nat × String) :=
  [(100, "Continue"), (101, "Switching Protocols"), (102, "Processing"), (103, "Early Hints"),
    (200, "OK"), (201, "Created"), (202, "Accepted"), (203, "Non Authoritative Information"),
    (204, "No Content"), (205, "Reset Content"), (206, "Partial Content"), (207, "Multi-Status"),
    (208, "Already Reported"), (226, "IM Used"), (300, "Multiple Choices"),
    (301, "Moved Permanently"), (302, "Found"), (303, "See Other"), (304, "Not Modified"),
    (305, "Use Proxy"), (307, "Temporary Redirect"), (308, "Permanent Redirect"),
    (400, "Bad Request"), (401, "Unauthorized"), (402, "Payment Required"), (403, "Forbidden"),
    (404, "Not Found"), (405, "Method Not Allowed"), (406, "Not Acceptable"),
    (407, "Proxy Authentication Required"), (408, "Request Timeout"), (409, "Conflict"),
    (410, "Gone"), (411, "Length Required"), (412, "Precondition Failed"),
    (413, "Payload Too Large"), (414, "URI Too Long"), (415, "Unsupported Media Type"),
    (416, "Range Not Satisfiable"), (417, "Expectation Failed"), (418, "I'm a teapot"),
    (421, "Misdirected Request"), (422, "Unprocessable Entity"), (423, "Locked"),
    (424, "Failed Dependency"), (425, "Too Early"), (426, "Upgrade Required"),
    (428, "Precondition Required"), (429, "Too Many Requests"),
    (431, "Request Header Fields Too Large"), (451, "Unavailable For Legal Reasons"),
    (500, "Internal Server Error"), (501, "Not Implemented"), (502, "Bad Gateway"),
    (503, "Service Unavailable"), (504, "Gateway Timeout"), (505, "HTTP Version Not Supported"),
    (506, "Variant Also Negotiates"), (507, "Insufficient Storage"), (508, "Loop Detected"),
    (510, "Not Extended"), (511, "Network Authentication Required")]

/-- A response status with its phrase. -/
def statusLine (status : Nat) : String :=
  let phrase := ((reasonPhrases.find? (·.1 == status)).map (·.2)).getD "<unknown status code>"
  s!"{status} {phrase}"

end GatewayPing
