import RailWatch.Calendar.Date
import RailWatch.Fetch
import RailWatch.Source.Response
import RailWatch.Url
/-!
# RailWatch.Source.Live

The live source of payloads: a web server that is asked about one train on one day.

The address of a train is the base address of the server without slashes at its end, a fixed path
and the id of the train as it stands; the day is the one parameter that is added to it, and user
and password are taken out of it. What comes of the request is for an `Exchange` to say: how the
server is connected to, and how its redirections are followed, is not part of this library. The
response at the end of that becomes a reply: the body as text if the status says that all is well, an
error otherwise.
-/

namespace RailWatch

open Text Url

/-- Why there is no response to make a reply of, or no body. -/
inductive RequestError
  /-- The address of the train is no address. -/
  | badUrl
  /-- The address is not one that a web server can be asked about. -/
  | unsupported (url : Url)
  /-- No response came from this address. -/
  | unanswered (url : Url)
  /-- A redirection from this address could not be followed. -/
  | misled (url : Url)
  /-- The body ended too early. -/
  | cutShort
deriving DecidableEq

/-- The error in words. -/
def RequestError.message : RequestError → String
  | badUrl => "builder error"
  | unsupported url => "builder error for url (" ++ String.ofList url.text ++ ")"
  | unanswered url => "error sending request for url (" ++ String.ofList url.text ++ ")"
  | misled url => "error following redirect for url (" ++ String.ofList url.text ++ ")"
  | cutShort => "error decoding response body"

/-- What comes of sending a request to an address, where `m` is the world in which that is done. All
redirections have been followed then: the response is the last one, whatever its status. -/
abbrev Exchange (m : Type → Type) := Url → m (Except RequestError Response)

namespace Response

/-- The reply that the response at the end of a request makes. -/
def reply (r : Response) : Reply :=
  if r.isSuccess then
    match r.text? with
    | some text => .ok text
    | none => .error (.http RequestError.cutShort.message)
  else .error (.status r.status (r.text?.getD ""))

end Response

/-- A server that is asked for payloads. -/
structure Server where
  baseUrl : String
  /-- The time that a single request may take, in seconds. -/
  timeout : Nat
deriving DecidableEq

namespace Server

/-- The server of the railway. -/
def standard : Server :=
  ⟨"https://admin.trenord.it/store-management-api", 10⟩

/-- The base address without slashes at its end. -/
def base (s : Server) : List Char :=
  (s.baseUrl.toList.reverse.dropWhile (· = '/')).reverse

/-- The path of a train behind the base address. -/
def trainPath : String := "/mia/train/"

/-- The address of a train, without the day. -/
def trainUrl (s : Server) (id : String) : String :=
  String.ofList s.base ++ trainPath ++ id

/-- The name of the parameter for the day. -/
def dayParameter : String := "date"

/-- The schemes of web servers. -/
def isWeb (u : Url) : Bool :=
  u.scheme = "http".toList || u.scheme = "https".toList

/-- A text in percent-encoding, if its octets are one. -/
def plainText? (s : List Char) : Option (List Char) :=
  Utf8.decode? (percentDecode s)

/-- An address without user and password, which are sent apart from it. A user whose name is no
text cannot be, and then both stay; without a name, so do passwords that are no text. -/
def withoutCredentials (u : Url) : Url :=
  match plainText? u.user with
  | none => u
  | some name =>
    if !name.isEmpty || (u.password.bind plainText?).isSome then u.withoutUser else u

/-- The greatest length of an address that is sent. -/
def maxAddress : Nat := 65534

/-- The characters of hosts that no request can have. -/
def unsendable : List Char := ['"', Char.ofNat 0x60, Char.ofNat 0x7B, Char.ofNat 0x7D]

/-- Whether an address is one that a web server can be asked about. -/
def isSupported (u : Url) : Bool :=
  isWeb u && !(u.host.getD []).any unsendable.contains && u.text.length ≤ maxAddress

/-- The address that is requested for a train on a day. -/
def request (s : Server) (id : String) (day : Date) : Except RequestError Url :=
  match Url.read? (s.trainUrl id).toList with
  | none => .error .badUrl
  | some url =>
    if url.hasHost then
      let url :=
        (withoutCredentials url).withParameter dayParameter.toList day.text.toList
      if isSupported url then .ok url else .error (.unsupported url)
    else .error (.unsupported url)

/-- The first line of a request. -/
def requestLine (u : Url) : String :=
  "GET " ++ String.ofList u.target ++ " HTTP/1.1"

/-- What comes of asking about a train on a day. Nothing is sent if there is no address to ask. -/
def ask {m : Type → Type} [Monad m] (s : Server) (exchange : Exchange m) (id : String) (day : Date) :
    m (Except RequestError Response) :=
  match s.request id day with
  | .ok url => exchange url
  | .error e => pure (.error e)

/-- The reply that comes of a request. -/
def reply : Except RequestError Response → Reply
  | .ok response => response.reply
  | .error e => .error (.http e.message)

end Server
end RailWatch
