import HostDialing.Cache.Direct
import HostDialing.Network.Link
import HostDialing.Url.Http

/-!
# HTTP requests

A client that takes the addresses of its hosts from a cache. It knows hosts by the names that their
URLs have in ASCII, tries the socket addresses in order, and says what it asks of the server.
-/

namespace HostDialing

/-- The headers that a server sees. -/
structure HttpRequest where
  userAgent : String
  acceptEncoding : String
  host : String

/-- Why a request got no answer. -/
inductive HttpError where
  | invalidUrl
  | resolution (error : ResolutionError)
  | transport (error : IoError)

/-- The client's name and version. -/
def userAgent : String := "dialcache/0.1.0"

def httpRequest (url : HttpUrl) : HttpRequest where
  userAgent := userAgent
  acceptEncoding := "gzip"
  host := url.hostText

/-- A request can name the host: its grammar is narrower than that of URLs. -/
def UrlHost.isSendable : UrlHost → Bool
  | ip _ => true
  | domain name => name.toList.all fun c => c ∉ ['"', '\x60', '\x7b', '\x7d']

/-- Reads a URL that a request can be sent to. -/
def requestUrl? (url : String) : Option HttpUrl :=
  (HttpUrl.parse? url).filter fun u => u.host.isSendable

/-- The sockets of a host: that of its own address, or the cache's. -/
def httpSockets {σ : Type} (resolve : Resolver σ) (limit : Duration) (order : CandidateOrder)
    (host : UrlHost) (s : Surroundings σ) :
    Except ResolutionError (List SocketAddress) × Surroundings σ :=
  match host with
  | .ip address => (.ok [⟨address, 0, 0⟩], s)
  | .domain name => socketsNow resolve limit order name s

/-- Sends a request to a URL. -/
def httpGet {σ : Type} (link : Link) (resolve : Resolver σ) (limit : Duration)
    (order : CandidateOrder) (url : String) (s : Surroundings σ) :
    Except HttpError HttpRequest × Surroundings σ :=
  match requestUrl? url with
  | none => (.error .invalidUrl, s)
  | some url =>
    match httpSockets resolve limit order url.host s with
    | (.error e, s) => (.error (.resolution e), s)
    | (.ok sockets, s) =>
      match link.connectFirst nameUnknown (sockets.map fun s => { s with port := url.port }) with
      | .error e => (.error (.transport e), s)
      | .ok _ => (.ok (httpRequest url), s)

/-- Sends requests one after another. -/
def httpGets {σ : Type} (link : Link) (resolve : Resolver σ) (limit : Duration)
    (order : CandidateOrder) :
    List String → Surroundings σ → List (Except HttpError HttpRequest) × Surroundings σ
  | [], s => ([], s)
  | url :: urls, s =>
    let (result, s) := httpGet link resolve limit order url s
    let (results, s) := httpGets link resolve limit order urls s
    (result :: results, s)

end HostDialing
