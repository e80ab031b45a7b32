import Testbed.Text.Base64
import Testbed.Wire
/-!
# The client of the hypervisor

The hypervisor is asked by requests below its base address. A session is opened with a name and a
password, and every later request carries the session's token. Refusals are statuses; a body that is
not what was asked for is a failure of its own.
-/

namespace Testbed.Client.Hypervisor

open Json (Shape)

structure Session where
  base : String
  token : String
  deriving DecidableEq, Repr

/-! ## Requests -/

/-- The schemes of addresses at which somebody can be asked. -/
def webSchemes : List String := ["http", "https"]

def fail {α : Type} (e : HttpError) : Exchange α := throw (.http e)

def authorization : String := "authorization"

def basicAuthorization (user password : String) : String :=
  "Basic " ++ String.ofList (Text.Base64.encode (user ++ ":" ++ password).toUTF8.toList)

/-- What is asked for at an address. An address without a host is refused at once. A user and a
password in the address are left out of it and sent in a header, unless that header is given. -/
def request (method address : String) (headers : List (String × String)) (body : Option Json) :
    Exchange Http.Request := do
  match Http.Url.parse address with
  | .error fault => fail (.malformed fault)
  | .ok url =>
    if url.host?.isNone then fail (.unreachable url.text)
    else
      let (login, url) := url.takeLogin
      let given := headers.any (·.1 = authorization)
      let login := if given then none else login
      let more := (login.map fun (user, password) =>
        (authorization, basicAuthorization user password)).toList
      return ⟨method, url, more ++ headers, body⟩

/-- Characters that hosts may hold, but no request. -/
def isUnwritable (c : Char) : Bool := ['"', '\x7b', '\x7d', '\x60'].contains c

/-- Sends a request, whatever the status of the answer. -/
def send (r : Http.Request) : Exchange Http.Response := do
  if !webSchemes.contains r.url.scheme then fail (.unreachable r.url.text)
  let host := (r.url.host?.map Http.Host.text).getD ""
  if host.toList.any isUnwritable then fail (.unwritable r.url.text)
  match ← Exchange.ask (.web r) with
  | .error _ => fail (.unanswered r.url.text)
  | .ok response => return response

/-- Refuses the statuses of refusals. -/
def accept (r : Http.Request) (response : Http.Response) : Exchange Http.Response :=
  if Http.isClientError response.status || Http.isServerError response.status then
    fail (.refused response.status r.url.text)
  else return response

def read {α : Type} (shape : Shape) (ofJson? : Json → Option α) (response : Http.Response) :
    Exchange α :=
  match response.read shape ofJson? with
  | .ok a => return a
  | .error _ => fail .undecodable

/-! ## Sessions -/

/-- The base address without slashes at its end. -/
def baseOf (url : String) : String :=
  String.ofList (url.toList.reverse.dropWhile (· = '/')).reverse

def openSession (params : VmParams) : Exchange Session := do
  let base := baseOf params.vsphereUrl
  let credentials := basicAuthorization params.vsphereUsername params.vspherePassword
  let r ← request "POST" (base ++ "/api/session") [(authorization, credentials)] none
  let token ← read aText Json.text? (← accept r (← send r))
  return ⟨base, token⟩

/-- A header holds no controls but tabs. -/
def isHeaderChar (c : Char) : Bool := c = '\t' || (0x20 ≤ c.toNat && c.toNat ≠ 0x7F)

/-- A header as it arrives: without blanks around it. -/
def headerText (value : String) : String :=
  let isOuter (c : Char) : Bool := c = ' ' || c = '\t'
  String.ofList ((value.toList.dropWhile isOuter).reverse.dropWhile isOuter).reverse

namespace Session

/-- A request in a session. -/
def request (s : Session) (method path : String) (query : List (String × String))
    (body : Option Json) : Exchange Http.Request := do
  let token := ("vmware-api-session-id", headerText s.token)
  let r ← Hypervisor.request method (s.base ++ path) [token] body
  if !s.token.toList.all isHeaderChar then fail .badHeader
  return if query.isEmpty then r else { r with url := r.url.addQuery query }

/-- Asks for something that must not be refused. -/
def ask (s : Session) (method path : String) (query : List (String × String))
    (body : Option Json) : Exchange Http.Response := do
  let r ← s.request method path query body
  accept r (← send r)

end Session

/-! ## Machines -/

def machinesPath : String := "/api/vcenter/vm"

def machine (vm rest : String) : String := machinesPath ++ "/" ++ vm ++ rest

def machinesShape : Shape := .list (.record "VmSummary" [("vm", aText, none)])

/-- The first of the machines that are listed. -/
def firstMachine? : Json → Option (Option String)
  | .list [] => some none
  | .list (j :: _) => some (j.textOf? "vm")
  | _ => none

/-- The machine of a name. -/
def find (s : Session) (name : String) : Exchange (Option String) := do
  read machinesShape firstMachine? (← s.ask "GET" machinesPath [("names", name)] none)

/-- A number from 0 to 255; a plus sign may stand before it. -/
def octet? (cs : List Char) : Option Nat :=
  let digits := if cs.head? = some '+' then cs.drop 1 else cs
  if digits.isEmpty || !digits.all Char.isDigit then none
  else
    let n := digits.foldl (fun n c => n * 10 + (c.toNat - '0'.toNat)) 0
    if n ≤ 255 then some n else none

def countOnes (n : Nat) : Nat := ((List.range 8).filter n.testBit).length

/-- How many ones there are in the octets of a mask; pieces that are no octets count nothing. -/
def prefixLength (mask : String) : Nat :=
  ((Text.split '.' mask.toList).filterMap octet?).foldl (fun n o => n + countOnes o) 0

/-- What the guest of a new machine is told. -/
def specification (name : String) (c : CustomizationParams) : Json :=
  .object [("spec", .object [
    ("configuration_spec", .object [("linux_config", .object [
      ("hostname", .object [("type", .text "FIXED"), ("fixed_name", .text name)]),
      ("domain", .text c.domain),
      ("time_zone", .text c.timeZone)])]),
    ("global_DNS_settings", .object [
      ("dns_servers", Json.ofTexts c.dnsServers),
      ("dns_suffix_list", Json.ofTexts c.dnsSuffixes)]),
    ("interfaces", .list [.object [("adapter", .object [("ipv4", .object [
      ("type", .text "DHCP"),
      ("gateways", Json.ofTexts c.gateways),
      ("prefix", .number (prefixLength c.subnetMask))])])]])])]

def clone (s : Session) (template name : String) (c : CustomizationParams) : Exchange String := do
  match ← find s template with
  | none => throw (.notFound ("template vm " ++ template))
  | some source =>
    let what := Json.object [
      ("source", .text source), ("name", .text name), ("power_on", .bool false)]
    let r ← s.ask "POST" (machinesPath ++ "?action=clone") [] (some what)
    let vm ← read aText Json.text? r
    discard (s.ask "PUT" (machine vm "/guest/customization") [] (some (specification name c)))
    return vm

def powerOn (s : Session) (vm : String) : Exchange Unit :=
  discard (s.ask "POST" (machine vm "/power?action=start") [] none)

def identityShape : Shape :=
  .record "GuestIdentity" [("ip_address", .maybe aText, none)]

/-- The address in the identity of a guest; an empty one is none. -/
def guestAddress? (j : Json) : Option (Option String) := do
  match ← j.member? "ip_address" with
  | .text address => return if address.isEmpty then none else some address
  | _ => return none

/-- A guest whose tools are not up yet has no address. -/
def guestIp (s : Session) (vm : String) : Exchange (Option String) := do
  let r ← s.request "GET" (machine vm "/guest/identity") [] none
  let response ← send r
  if response.status = 503 then return none
  else read identityShape guestAddress? (← accept r response)

def perform (s : Session) : (c : HypervisorCall) → Procedure wire c.Answer
  | .find name => (find s name).run
  | .clone template name customization => (clone s template name customization).run
  | .powerOn vm => (powerOn s vm).run
  | .guestIp vm => (guestIp s vm).run

end Testbed.Client.Hypervisor
