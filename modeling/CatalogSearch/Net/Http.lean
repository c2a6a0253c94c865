import CatalogSearch.Net.Url

/-!
# HTTP messages

What a client sends and what comes back. A request keeps the time that its answer is waited for,
in milliseconds.
-/

namespace CatalogSearch.Net

/-- What is to be done at an address. -/
inductive Method where
  | get
  | post
  | delete
  deriving DecidableEq

/-- The name of a method. -/
def Method.name : Method → String
  | .get => "GET"
  | .post => "POST"
  | .delete => "DELETE"

/-- A request. -/
structure HttpRequest where
  method : Method
  url : Url
  /-- The user that the request is made for, in the form of the header of that name. -/
  authorization : Option String
  body : String
  /-- How long an answer is waited for, if not for ever. -/
  timeout : Option Nat
  deriving DecidableEq

/-- A response. -/
structure HttpResponse where
  status : Nat
  body : String
  deriving DecidableEq

/-- The form of an authorization by user name and password. -/
def basicAuthorization (username password : String) : String :=
  "Basic " ++ String.ofList (base64 (utf8Bytes (username ++ ":" ++ password).toList))

/-- The reasons that go with status codes. -/
def reasonPhrases : List (Nat × String) :=
  [(100, "Continue"), (101, "Switching Protocols"), (102, "Processing"), (103, "Early Hints"),
    (200, "OK"), (201, "Created"), (202, "Accepted"), (203, "Non Authoritative Information"),
    (204, "No Content"), (205, "Reset Content"), (206, "Partial Content"), (207, "Multi-Status"),
    (208, "Already Reported"), (226, "IM Used"), (300, "Multiple Choices"),
    (301, "Moved Permanently"), (302, "Found"), (303, "See Other"), (304, "Not Modified"),
    (305, "Use Proxy"), (307, "Temporary Redirect"), (308, "Permanent Redirect"),
    (400, "Bad Request"), (401, "Unauthorized"), (402, "Payment Required"), (403, "Forbidden"),
    (404, "Not Found"), (405, "Method Not Allowed"), (406, "Not Acceptable"),
    (407, "Proxy Authentication Required"), (408, "Request Timeout"), (409, "Conflict"),
    (410, "Gone"), (411, "Length Required"), (412, "Precondition Failed"),
    (413, "Payload Too Large"), (414, "URI Too Long"), (415, "Unsupported Media Type"),
    (416, "Range Not Satisfiable"), (417, "Expectation Failed"), (418, "I'm a teapot"),
    (421, "Misdirected Request"), (422, "Unprocessable Entity"), (423, "Locked"),
    (424, "Failed Dependency"), (425, "Too Early"), (426, "Upgrade Required"),
    (428, "Precondition Required"), (429, "Too Many Requests"),
    (431, "Request Header Fields Too Large"), (451, "Unavailable For Legal Reasons"),
    (500, "Internal Server Error"), (501, "Not Implemented"), (502, "Bad Gateway"),
    (503, "Service Unavailable"), (504, "Gateway Timeout"), (505, "HTTP Version Not Supported"),
    (506, "Variant Also Negotiates"), (507, "Insufficient Storage"), (508, "Loop Detected"),
    (510, "Not Extended"), (511, "Network Authentication Required")]

namespace HttpResponse

/-- Whether the request was fulfilled. -/
def isSuccess (r : HttpResponse) : Bool := 200 ≤ r.status ∧ r.status < 300

/-- The status code with its reason. -/
def statusLine (r : HttpResponse) : String :=
  toString r.status ++ " " ++ (reasonPhrases.lookup r.status).getD "<unknown status code>"

/-- The mark of byte order that a text may start with. -/
def byteOrderMark : Char := Char.ofNat 0xFEFF

/-- The text of the body, without a mark of byte order. -/
def text (r : HttpResponse) : String :=
  match r.body.toList with
  | c :: cs => if c = byteOrderMark then String.ofList cs else r.body
  | [] => ""

end HttpResponse

end CatalogSearch.Net
