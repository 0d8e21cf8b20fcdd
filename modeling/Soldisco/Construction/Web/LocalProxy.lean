import Mathlib.Data.Rat.Init
import Mathlib.Algebra.Order.Field.Rat

/-
This file embeds the gateway of the local web server, which forwards requests of the browser to the
loopback backend, and the parts of the JavaScript library that it uses.
-/

namespace Soldisco.Web

section Javascript

/-- The white space and line terminators that `trim` removes. -/
def isSpace (character : Char) : Bool :=
  character ∈ ['\t', '\n', '\x0b', '\x0c', '\r', ' ', '\u00a0', '\u1680', '\u2028', '\u2029',
    '\u202f', '\u205f', '\u3000', '\ufeff'] ||
  ('\u2000' ≤ character && character ≤ '\u200a')

def trim (text : List Char) : List Char :=
  ((text.dropWhile isSpace).reverse.dropWhile isSpace).reverse

def decimalValue (digits : List Char) : Nat :=
  digits.foldl (fun value digit => value * 10 + (digit.toNat - '0'.toNat)) 0

/-- A nonempty text of decimal digits. -/
def parseDecimal (text : List Char) : Option Nat :=
  if !text.isEmpty && text.all Char.isDigit then some (decimalValue text) else none

def digitOf (radix : Nat) (character : Char) : Option Nat :=
  let digit := if character.isDigit then character.toNat - '0'.toNat
    else if character.isLower then character.toNat - 'a'.toNat + 10
    else if character.isUpper then character.toNat - 'A'.toNat + 10
    else radix
  if digit < radix then some digit else none

/-- The integer after a radix mark. -/
def parseRadix (radix : Nat) (text : List Char) : Option Rat :=
  if text.isEmpty then none
  else (text.mapM (digitOf radix)).map fun digits =>
    ((digits.foldl (fun value digit => value * radix + digit) 0 : Nat) : Rat)

def parseExponent : List Char → Option Int
  | [] => some 0
  | _ :: '-' :: digits => (parseDecimal digits).map fun value => -(value : Int)
  | _ :: '+' :: digits => (parseDecimal digits).map fun value => (value : Int)
  | _ :: digits => (parseDecimal digits).map fun value => (value : Int)

/-- A decimal literal without its sign. -/
def parseUnsigned (text : List Char) : Option Rat := do
  let isMark := fun character => character == 'e' || character == 'E'
  let mantissa := text.takeWhile fun character => !isMark character
  let exponent ← parseExponent (text.dropWhile fun character => !isMark character)
  let whole := mantissa.takeWhile Char.isDigit
  let fraction ← match mantissa.dropWhile Char.isDigit with
    | [] => some []
    | '.' :: fraction => if fraction.all Char.isDigit then some fraction else none
    | _ => none
  let digits ← parseDecimal (whole ++ fraction)
  return (digits : Rat) * (10 : Rat) ^ (exponent - fraction.length)

/-- The value of `Number` at a text before it is rounded. It is absent for a text that is not a
number and for the infinities. -/
def stringToNumber (text : String) : Option Rat :=
  match trim text.toList with
  | [] => some 0
  | '0' :: 'x' :: digits => parseRadix 16 digits
  | '0' :: 'X' :: digits => parseRadix 16 digits
  | '0' :: 'o' :: digits => parseRadix 8 digits
  | '0' :: 'O' :: digits => parseRadix 8 digits
  | '0' :: 'b' :: digits => parseRadix 2 digits
  | '0' :: 'B' :: digits => parseRadix 2 digits
  | '-' :: literal => (parseUnsigned literal).map fun value => -value
  | '+' :: literal => parseUnsigned literal
  | literal => parseUnsigned literal

def isUnreserved (character : Char) : Bool :=
  character.isAlphanum || character ∈ ['-', '_', '.', '!', '~', '*', '\x27', '(', ')']

def hexDigit (value : Nat) : Char :=
  if value < 10 then Char.ofNat ('0'.toNat + value) else Char.ofNat ('A'.toNat + (value - 10))

def percentEncode (byte : UInt8) : List Char :=
  ['%', hexDigit (byte.toNat / 16), hexDigit (byte.toNat % 16)]

def encodeCharacter (character : Char) : List Char :=
  if isUnreserved character then [character]
  else (String.utf8EncodeChar character).flatMap percentEncode

def encodeURIComponent (text : String) : String :=
  String.ofList (text.toList.flatMap encodeCharacter)

end Javascript

section Headers

/-- The fields of a message, their names in lower case. -/
abbrev Headers := List (String × String)

namespace Headers

/-- The values of a repeated field are combined. -/
def get (headers : Headers) (name : String) : Option String :=
  match (headers.filter fun field => field.1 == name.toLower).map Prod.snd with
  | [] => none
  | values => some (", ".intercalate values)

def set (headers : Headers) (name value : String) : Headers :=
  (headers.filter fun field => field.1 != name.toLower) ++ [(name.toLower, value)]

/-- The named fields that are present. -/
def select (headers : Headers) (names : List String) : Headers :=
  names.foldl (fun chosen name =>
    match headers.get name with
    | some value => chosen.set name value
    | none => chosen) []

end Headers

end Headers

/-- The parts of a parsed URL that the gateway reads. -/
structure RequestUrl where
  protocol : String
  hostname : String
  username : String
  password : String
  origin : String
deriving DecidableEq, Repr

/-- A request of the browser. The URL is absent when it does not parse, and the body when it cannot
be read. -/
structure LocalRequest where
  method : String
  url : Option RequestUrl
  headers : Headers
  body : Option (List UInt8)
deriving DecidableEq, Repr

inductive ResponseBody where
  | apiError (code message : String)
  | relayed (content : Option (List UInt8))
deriving DecidableEq, Repr

structure ProxyResponse where
  status : Nat
  statusText : String
  headers : Headers
  body : ResponseBody
deriving DecidableEq, Repr

structure UpstreamResponse where
  status : Nat
  statusText : String
  headers : Headers
  body : Option (List UInt8)
deriving DecidableEq, Repr

/-- The arguments of the fetcher. -/
structure UpstreamCall where
  url : String
  method : String
  headers : Headers
  body : Option (List UInt8)
  cache : String
  redirect : String
deriving DecidableEq, Repr

/-- The calls of the fetcher and the response, which is absent when the promise rejects. -/
structure ProxyOutcome where
  calls : List UpstreamCall
  response : Option ProxyResponse
deriving DecidableEq, Repr

section Port

/-- The ports that the browser blocks, and port 80. -/
def unsupportedLocalApiPorts : List Nat := [
  1, 7, 9, 11, 13, 15, 17, 19, 20, 21, 22, 23, 25, 37, 42, 43, 53,
  69, 77, 79, 80, 87, 95, 101, 102, 103, 104, 109, 110, 111, 113,
  115, 117, 119, 123, 135, 137, 139, 143, 161, 179, 389, 427, 465,
  512, 513, 514, 515, 526, 530, 531, 532, 540, 548, 554, 556, 563,
  587, 601, 636, 989, 990, 993, 995, 1719, 1720, 1723, 2049, 3659,
  4045, 4190, 5060, 5061, 6000, 6566, 6665, 6666, 6667, 6668, 6669,
  6679, 6697, 10080]

/-- The port of a number. -/
def acceptLocalApiPort (candidate : Nat) : Option Nat :=
  if candidate < 2 ^ 53 && candidate ≥ 1 && candidate ≤ 65535 &&
      candidate ∉ unsupportedLocalApiPorts then some candidate
  else none

/-- The port of a text. Digits beyond the safe integers are rounded, but not to a port. -/
def parseLocalApiPort (value : String) : Option Nat := do
  let candidate ← parseDecimal (trim value.toList)
  acceptLocalApiPort candidate

def localApiHost : String := "127.0.0.1"

def localApiPath : String := "/api/v1"

/-- The base of the backend. An unsupported port throws. -/
def buildLocalApiBaseUrl (port : Nat) : Option String := do
  let parsedPort ← acceptLocalApiPort port
  return "http://" ++ localApiHost ++ ":" ++ toString parsedPort ++ localApiPath

def localPageHostnames : List String := ["localhost", "127.0.0.1", "::1", "[::1]"]

def isLocalHttpUrl (url : RequestUrl) : Bool :=
  url.protocol == "http:" && localPageHostnames.contains url.hostname && url.username == "" &&
    url.password == ""

end Port

section Gateway

def localControlHeaderName : String := "X-Soldisco-Control"

def localControlHeaderValue : String := "soldisco-local-ui-v1"

def maxRequestBodyBytes : Nat := 64 * 1024

def forwardedRequestHeaders : List String := ["accept", "content-type", "last-event-id"]

def forwardedResponseHeaders : List String :=
  ["cache-control", "content-type", "etag", "last-modified", "retry-after"]

def apiError (status : Nat) (code message : String) (headers : Headers) : ProxyResponse where
  status
  statusText := ""
  headers := headers.foldl (fun fields field => fields.set field.1 field.2)
    [("cache-control", "no-store"), ("content-type", "application/json")]
  body := .apiError code message

/-- The characters of an address. -/
def isBase58 (character : Char) : Bool :=
  ('1' ≤ character && character ≤ '9') || ('A' ≤ character && character ≤ 'H') ||
    ('J' ≤ character && character ≤ 'N') || ('P' ≤ character && character ≤ 'Z') ||
    ('a' ≤ character && character ≤ 'k') || ('m' ≤ character && character ≤ 'z')

def isTokenAddress (text : String) : Bool :=
  text.toList.all isBase58 && text.length ≥ 32 && text.length ≤ 44

/-- The methods of a path. The route is compared after its segments are joined. -/
def allowedMethods (path : List String) : List String :=
  let route := "/".intercalate path
  if route == "health" || route == "stream" || route == "discovery" || route == "events" then ["GET"]
  else if route == "stream/start" || route == "stream/stop" then ["POST"]
  else if route == "settings/prefilter-defaults" || route == "settings/qualification-defaults" then
    ["GET", "PUT"]
  else match path with
    | [first, second] => if first == "tokens" && isTokenAddress second then ["GET"] else []
    | _ => []

def validateLocalControlRequest (request : LocalRequest) (requestUrl : RequestUrl) :
    Option ProxyResponse :=
  if request.headers.get localControlHeaderName != some localControlHeaderValue then
    some (apiError 403 "LOCAL_CONTROL_FORBIDDEN" "The local control header is missing or invalid." [])
  else if request.headers.get "origin" != some requestUrl.origin then
    some (apiError 403 "LOCAL_CONTROL_ORIGIN_FORBIDDEN"
      "Local control requests must originate from this interface." [])
  else none

def validateBrowserRequestSource (request : LocalRequest) (requestUrl : RequestUrl) :
    Option ProxyResponse :=
  let origin := request.headers.get "origin"
  let fetchSite := request.headers.get "sec-fetch-site"
  if origin != none && origin != some requestUrl.origin then
    some (apiError 403 "LOCAL_API_GATEWAY_ORIGIN_FORBIDDEN"
      "Browser requests to the local API gateway must be same-origin." [])
  else if fetchSite != none && fetchSite != some "same-origin" && fetchSite != some "none" then
    some (apiError 403 "LOCAL_API_GATEWAY_FETCH_SITE_FORBIDDEN"
      "Cross-site browser requests to the local API gateway are forbidden." [])
  else none

def buildUpstreamHeaders (request : LocalRequest) (localControl : Bool) : Headers :=
  let headers := request.headers.select forwardedRequestHeaders
  if localControl then headers.set localControlHeaderName localControlHeaderValue else headers

/-- The constructor of a response throws outside its range and on a body that the status forbids. -/
def newResponse (status : Nat) (statusText : String) (headers : Headers)
    (content : Option (List UInt8)) : Option ProxyResponse :=
  if status < 200 || status > 599 || ([204, 205, 304].contains status && content.isSome) then none
  else some { status, statusText, headers, body := .relayed content }

def buildBrowserResponse (upstream : UpstreamResponse) : Option ProxyResponse :=
  if upstream.status ≥ 300 && upstream.status < 400 then
    some (apiError 502 "LOCAL_API_UPSTREAM_REDIRECT"
      "The local Rust backend returned an unexpected redirect." [])
  else
    let headers := upstream.headers.select forwardedResponseHeaders
    let headers := if (headers.get "cache-control").isNone then
        headers.set "Cache-Control" "no-store"
      else headers
    let headers := if (headers.get "content-type").any fun value =>
          value.toLower.startsWith "text/event-stream" then
        (headers.set "Cache-Control" "no-cache").set "X-Accel-Buffering" "no"
      else headers
    newResponse upstream.status upstream.statusText headers upstream.body

/-- The declared length is compared after it is rounded: the numbers next to 65536 lie `2 ^ -36`
above it, and a tie is rounded down to it. -/
def exceedsBodyLimit (declaredLength : Option Rat) : Bool :=
  match declaredLength with
  | some length => decide ((maxRequestBodyBytes : Rat) + 1 / 2 ^ 37 < length) &&
      decide (length < 2 ^ 1024 - 2 ^ 970)
  | none => false

def tooLarge : ProxyResponse :=
  apiError 413 "LOCAL_API_REQUEST_TOO_LARGE" "The local API request body is too large." []

/-- The function returns early with a response, or throws when there is none. -/
abbrev Returning (Value : Type) := Except (Option ProxyResponse) Value

def returnIf (condition : Bool) (response : ProxyResponse) : Returning Unit :=
  if condition then .error (some response) else .ok ()

def returnRejection : Option ProxyResponse → Returning Unit
  | some response => .error (some response)
  | none => .ok ()

def orReturn {Value : Type} (response : Option ProxyResponse) : Option Value → Returning Value
  | some value => .ok value
  | none => .error response

/-- The body is read unless the method is GET. -/
def readBody (request : LocalRequest) (method : String) : Returning (Option (List UInt8)) :=
  if method == "GET" then .ok none
  else do
    let body ← orReturn none request.body
    returnIf (body.length > maxRequestBodyBytes) tooLarge
    return some body

/-- The checks before the fetcher and its arguments. -/
def prepareUpstreamCall (request : LocalRequest) (portValue : String) (path : List String) :
    Returning (Nat × UpstreamCall) := do
  let requestUrl ← orReturn (apiError 400 "INVALID_LOCAL_API_REQUEST"
    "The local API gateway received an invalid request URL." []) request.url
  returnIf (!isLocalHttpUrl requestUrl) (apiError 403 "LOCAL_API_GATEWAY_LOCAL_ONLY"
    "The local API gateway is available only from a loopback web origin." [])
  returnRejection (validateBrowserRequestSource request requestUrl)
  let port ← orReturn (apiError 400 "INVALID_LOCAL_API_PORT"
    "The local API port is invalid or browser-restricted." []) (parseLocalApiPort portValue)
  let methods := allowedMethods path
  returnIf methods.isEmpty (apiError 404 "LOCAL_API_ROUTE_NOT_ALLOWED"
    "That route is not exposed by the local API gateway." [])
  let method := request.method.toUpper
  returnIf (!methods.contains method) (apiError 405 "LOCAL_API_METHOD_NOT_ALLOWED"
    "That method is not allowed for this local API route." [("Allow", ", ".intercalate methods)])
  let localControl := method == "POST" || method == "PUT"
  returnRejection (if localControl then validateLocalControlRequest request requestUrl else none)
  let declaredLength := stringToNumber ((request.headers.get "content-length").getD "")
  returnIf (exceedsBodyLimit declaredLength) tooLarge
  let body ← readBody request method
  let upstreamPath := "/".intercalate (path.map encodeURIComponent)
  let base ← orReturn none (buildLocalApiBaseUrl port)
  return (port, {
    url := base ++ "/" ++ upstreamPath
    method
    headers := buildUpstreamHeaders request localControl
    body
    cache := "no-store"
    redirect := "manual" })

/-- The fetcher answers or throws. -/
def proxyLocalApiRequest (request : LocalRequest) (portValue : String) (path : List String)
    (fetcher : UpstreamCall → Option UpstreamResponse) : ProxyOutcome :=
  match prepareUpstreamCall request portValue path with
  | .error response => { calls := [], response }
  | .ok (port, call) =>
      { calls := [call]
        response := match (fetcher call).bind buildBrowserResponse with
          | some response => some response
          | none => some (apiError 502 "LOCAL_API_UPSTREAM_UNREACHABLE"
              ("The local Rust backend could not be reached on port " ++ toString port ++ ".") []) }

end Gateway

end Soldisco.Web
