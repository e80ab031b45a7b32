/-!
# Status codes

The phrases that go with the codes of refusals.
-/

namespace Testbed.Http

/-- A request was understood and done. -/
def isSuccess (status : Nat) : Bool := 200 ≤ status && status ≤ 299

/-- A request was refused because of what it asks. -/
def isClientError (status : Nat) : Bool := 400 ≤ status && status ≤ 499

/-- A request was refused because of a fault of who was asked. -/
def isServerError (status : Nat) : Bool := 500 ≤ status && status ≤ 599

def phrases : List (Nat × String) := [
  (400, "Bad Request"), (401, "Unauthorized"), (402, "Payment Required"), (403, "Forbidden"),
  (404, "Not Found"), (405, "Method Not Allowed"), (406, "Not Acceptable"),
  (407, "Proxy Authentication Required"), (408, "Request Timeout"), (409, "Conflict"),
  (410, "Gone"), (411, "Length Required"), (412, "Precondition Failed"),
  (413, "Payload Too Large"), (414, "URI Too Long"), (415, "Unsupported Media Type"),
  (416, "Range Not Satisfiable"), (417, "Expectation Failed"), (418, "I'm a teapot"),
  (421, "Misdirected Request"), (422, "Unprocessable Entity"), (423, "Locked"),
  (424, "Failed Dependency"), (425, "Too Early"), (426, "Upgrade Required"),
  (428, "Precondition Required"), (429, "Too Many Requests"),
  (431, "Request Header Fields Too Large"), (451, "Unavailable For Legal Reasons"),
  (500, "Internal Server Error"), (501, "Not Implemented"), (502, "Bad Gateway"),
  (503, "Service Unavailable"), (504, "Gateway Timeout"), (505, "HTTP Version Not Supported"),
  (506, "Variant Also Negotiates"), (507, "Insufficient Storage"), (508, "Loop Detected"),
  (510, "Not Extended"), (511, "Network Authentication Required")]

def phrase (status : Nat) : String :=
  match phrases.find? (·.1 = status) with
  | some (_, text) => text
  | none => "<unknown status code>"

/-- A code with its phrase. -/
def statusText (status : Nat) : String := toString status ++ " " ++ phrase status

end Testbed.Http
