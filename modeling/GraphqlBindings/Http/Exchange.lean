import GraphqlBindings.Json.Basic
import GraphqlBindings.Text.Case
import GraphqlBindings.Url.Basic

namespace GraphqlBindings.Http

abbrev Headers := List (String × String)

def isNameChar (c : Char) : Bool :=
  Text.isAsciiLetter c || Text.isAsciiDigit c || "!#$%&'*+-.^_\x60|~".toList.contains c

def nameLimit : Nat := 65535

def headerName? (name : String) : Option String :=
  let cs := name.toList
  if cs.isEmpty ∨ nameLimit < cs.length ∨ !cs.all isNameChar then none
  else some (.ofList (cs.map Char.toLower))

def isValueChar (c : Char) : Bool :=
  c == '\t' || (decide (0x20 ≤ c.toNat) && c.toNat != 0x7f)

def isHeaderValue (value : String) : Bool := value.toList.all isValueChar

def Headers.fill (headers defaults : Headers) : Headers :=
  defaults.foldl (fun headers (name, value) =>
    if (headers.lookup name).isSome then headers else Keyed.put name value headers) headers

def reasons : List (Nat × String) :=
  [(100, "Continue"), (101, "Switching Protocols"), (102, "Processing"), (103, "Early Hints"),
    (200, "OK"), (201, "Created"), (202, "Accepted"), (203, "Non Authoritative Information"),
    (204, "No Content"), (205, "Reset Content"), (206, "Partial Content"), (207, "Multi-Status"),
    (208, "Already Reported"), (226, "IM Used"),
    (300, "Multiple Choices"), (301, "Moved Permanently"), (302, "Found"), (303, "See Other"),
    (304, "Not Modified"), (305, "Use Proxy"), (307, "Temporary Redirect"),
    (308, "Permanent Redirect"),
    (400, "Bad Request"), (401, "Unauthorized"), (402, "Payment Required"), (403, "Forbidden"),
    (404, "Not Found"), (405, "Method Not Allowed"), (406, "Not Acceptable"),
    (407, "Proxy Authentication Required"), (408, "Request Timeout"), (409, "Conflict"),
    (410, "Gone"), (411, "Length Required"), (412, "Precondition Failed"),
    (413, "Payload Too Large"), (414, "URI Too Long"), (415, "Unsupported Media Type"),
    (416, "Range Not Satisfiable"), (417, "Expectation Failed"), (418, "I'm a teapot"),
    (421, "Misdirected Request"), (422, "Unprocessable Entity"), (423, "Locked"),
    (424, "Failed Dependency"), (425, "Too Early"), (426, "Upgrade Required"),
    (428, "Precondition Required"), (429, "Too Many Requests"),
    (431, "Request Header Fields Too Large"), (451, "Unavailable For Legal Reasons"),
    (500, "Internal Server Error"), (501, "Not Implemented"), (502, "Bad Gateway"),
    (503, "Service Unavailable"), (504, "Gateway Timeout"), (505, "HTTP Version Not Supported"),
    (506, "Variant Also Negotiates"), (507, "Insufficient Storage"), (508, "Loop Detected"),
    (510, "Not Extended"), (511, "Network Authentication Required")]

def reason (status : Nat) : String := (reasons.lookup status).getD "<unknown status code>"

def statusText (status : Nat) : String := toString status ++ " " ++ reason status

def isSuccess (status : Nat) : Bool := decide (200 ≤ status) && decide (status < 300)

structure Request where
  url : Url
  headers : Headers
  body : String
deriving DecidableEq, Repr, Inhabited

structure Reply where
  status : Nat
  body : String
deriving DecidableEq, Repr, Inhabited

def Request.line (r : Request) : String := "POST " ++ r.url.target ++ " HTTP/1.1"

end GraphqlBindings.Http
