import Soldisco.Construction.Web.LocalProxy
import Soldisco.Library.Accumulation

/-
This file proves which requests the gateway forwards. The route is authorised after the segments are
joined and sent after they are encoded, and the two agree when no segment holds a slash.
-/

namespace Soldisco.Web
open Accumulation

section Encoding

theorem encodeURIComponent_unreserved {text : String}
    (plain : ∀ character ∈ text.toList, isUnreserved character = true) :
    encodeURIComponent text = text := by
  have kept : text.toList.flatMap encodeCharacter = text.toList := by
    generalize text.toList = characters at plain
    induction characters with
    | nil => rfl
    | cons character rest ih =>
        have first := plain character List.mem_cons_self
        have others := ih fun other member => plain other (List.mem_cons_of_mem _ member)
        rw [List.flatMap_cons, others, encodeCharacter, if_pos first]
        rfl
  rw [encodeURIComponent, kept, String.ofList_toList]

/-- An encoded slash leaves a percent sign. -/
theorem percent_mem_encodeURIComponent {text : String} (slash : '/' ∈ text.toList) :
    '%' ∈ (encodeURIComponent text).toList := by
  rw [encodeURIComponent, String.toList_ofList]
  exact List.mem_flatMap.mpr ⟨'/', slash, by decide⟩

/-- A character of a segment stands in the joined path. -/
theorem mem_intercalate {path : List String} {segment : String} {character : Char}
    (member : segment ∈ path) (inside : character ∈ segment.toList) :
    character ∈ ("/".intercalate path).toList := by
  rw [String.toList_intercalate]
  induction path with
  | nil => cases member
  | cons first rest ih =>
      cases rest with
      | nil =>
          rw [List.mem_singleton.mp member] at inside
          simpa using inside
      | cons second rest =>
          rw [List.map_cons, List.map_cons, List.intercalate_cons_cons]
          rcases List.mem_cons.mp member with rfl | later
          · exact List.mem_append_left _ (List.mem_append_left _ inside)
          · exact List.mem_append_right _ (ih later)

/-- Segments of unreserved characters are sent as they are. -/
theorem encoded_eq_joined {path : List String}
    (plain : ∀ character ∈ ("/".intercalate path).toList,
      isUnreserved character = true ∨ character = '/')
    (clean : ∀ segment ∈ path, '/' ∉ segment.toList) :
    "/".intercalate (path.map encodeURIComponent) = "/".intercalate path := by
  have same : path.map encodeURIComponent = path := by
    rw [List.map_congr_left (g := id), List.map_id]
    intro segment member
    apply encodeURIComponent_unreserved
    intro character inside
    rcases plain character (mem_intercalate member inside) with unreserved | slash
    · exact unreserved
    · rw [slash] at inside
      exact absurd inside (clean segment member)
  rw [same]

theorem percent_mem_encoded {path : List String} {segment : String} (member : segment ∈ path)
    (slash : '/' ∈ segment.toList) :
    '%' ∈ ("/".intercalate (path.map encodeURIComponent)).toList :=
  mem_intercalate (List.mem_map_of_mem member) (percent_mem_encodeURIComponent slash)

theorem isUnreserved_of_isBase58 {character : Char} (valid : isBase58 character = true) :
    isUnreserved character = true := by
  unfold isBase58 at valid
  unfold isUnreserved Char.isAlphanum Char.isAlpha Char.isUpper Char.isLower Char.isDigit
  simp only [Bool.or_eq_true, Bool.and_eq_true, decide_eq_true_eq] at valid ⊢
  left
  simp only [Char.le_def, UInt32.le_iff_toNat_le] at valid ⊢
  simp at valid ⊢
  omega

end Encoding

section Routes

/-- The routes that the gateway exposes and their methods. -/
inductive RouteAllows : String → String → Prop where
  | read {route : String} (known : route ∈ ["health", "stream", "discovery", "events"]) :
      RouteAllows route "GET"
  | control {route : String} (known : route ∈ ["stream/start", "stream/stop"]) :
      RouteAllows route "POST"
  | settings {route method : String}
      (known : route ∈ ["settings/prefilter-defaults", "settings/qualification-defaults"])
      (allowed : method ∈ ["GET", "PUT"]) : RouteAllows route method
  | token {address : String} (base58 : ∀ character ∈ address.toList, isBase58 character = true)
      (lower : 32 ≤ address.length) (upper : address.length ≤ 44) :
      RouteAllows ("tokens/" ++ address) "GET"

/-- A method is allowed for the joined path. -/
theorem routeAllows_of_allowedMethods {path : List String} {method : String}
    (allowed : method ∈ allowedMethods path) : RouteAllows ("/".intercalate path) method := by
  unfold allowedMethods at allowed
  dsimp only at allowed
  split_ifs at allowed with read control settings
  · rw [List.mem_singleton.mp allowed]
    exact .read (by simpa [or_assoc] using read)
  · rw [List.mem_singleton.mp allowed]
    exact .control (by simpa using control)
  · exact .settings (by simpa using settings) allowed
  · split at allowed
    · rename_i first second
      split_ifs at allowed with token
      · rw [List.mem_singleton.mp allowed]
        simp only [isTokenAddress, Bool.and_eq_true, beq_iff_eq, List.all_eq_true,
          decide_eq_true_eq] at token
        obtain ⟨rfl, ⟨base58, lower⟩, upper⟩ := token
        exact .token base58 lower upper
      · cases allowed
    · cases allowed

/-- The characters of the fixed routes. -/
def isPlain (text : String) : Bool :=
  text.toList.all fun character => isUnreserved character || character == '/'

theorem isPlain.character {text : String} (plain : isPlain text = true) :
    ∀ character ∈ text.toList, isUnreserved character = true ∨ character = '/' := by
  intro character member
  simpa using List.all_eq_true.mp plain character member

/-- An exposed route holds unreserved characters and slashes only. -/
theorem RouteAllows.plain {route method : String} (allowed : RouteAllows route method) :
    ∀ character ∈ route.toList, isUnreserved character = true ∨ character = '/' := by
  cases allowed with
  | read known =>
      have literal : ["health", "stream", "discovery", "events"].all isPlain = true := by decide
      exact isPlain.character (List.all_eq_true.mp literal route known)
  | control known =>
      have literal : ["stream/start", "stream/stop"].all isPlain = true := by decide
      exact isPlain.character (List.all_eq_true.mp literal route known)
  | settings known =>
      have literal : ["settings/prefilter-defaults", "settings/qualification-defaults"].all
          isPlain = true := by decide
      exact isPlain.character (List.all_eq_true.mp literal route known)
  | token base58 =>
      intro character member
      rw [String.toList_append] at member
      rcases List.mem_append.mp member with fixed | inside
      · have literal : isPlain "tokens/" = true := by decide
        exact isPlain.character literal character fixed
      · exact .inl (isUnreserved_of_isBase58 (base58 character inside))

end Routes

section Forwarding

variable {request : LocalRequest} {portValue : String} {path : List String}

theorem returnIf_eq_ok {condition : Bool} {response : ProxyResponse} {result : Unit}
    (passed : returnIf condition response = .ok result) : condition = false := by
  cases condition with
  | true => cases passed
  | false => rfl

theorem returnRejection_eq_ok {response : Option ProxyResponse} {result : Unit}
    (passed : returnRejection response = .ok result) : response = none := by
  cases response with
  | some response => cases passed
  | none => rfl

theorem orReturn_eq_ok {Value : Type} {response : Option ProxyResponse} {found : Option Value}
    {value : Value} (passed : orReturn response found = .ok value) : found = some value := by
  cases found with
  | some value => cases passed; rfl
  | none => cases passed

/-- The checks that a forwarded call has passed. -/
structure Prepared (request : LocalRequest) (portValue : String) (path : List String) (port : Nat)
    (call : UpstreamCall) (url : RequestUrl) : Prop where
  parsed : request.url = some url
  source : validateBrowserRequestSource request url = none
  accepted : parseLocalApiPort portValue = some port
  allowed : call.method ∈ allowedMethods path
  control : call.method = "POST" ∨ call.method = "PUT" →
    validateLocalControlRequest request url = none
  body : readBody request call.method = .ok call.body
  sent : call.url = "http://127.0.0.1:" ++ toString port ++ "/api/v1/" ++
    "/".intercalate (path.map encodeURIComponent)

theorem acceptLocalApiPort_eq_some {candidate port : Nat}
    (accepted : acceptLocalApiPort candidate = some port) : port = candidate := by
  unfold acceptLocalApiPort at accepted
  split_ifs at accepted
  cases accepted
  rfl

theorem prepareUpstreamCall_eq_ok {port : Nat} {call : UpstreamCall}
    (prepared : prepareUpstreamCall request portValue path = .ok (port, call)) :
    ∃ url, Prepared request portValue path port call url := by
  unfold prepareUpstreamCall at prepared
  obtain ⟨url, parsed, prepared⟩ := bind_eq_ok.mp prepared
  obtain ⟨-, -, prepared⟩ := bind_eq_ok.mp prepared
  obtain ⟨_, source, prepared⟩ := bind_eq_ok.mp prepared
  obtain ⟨_, accepted, prepared⟩ := bind_eq_ok.mp prepared
  obtain ⟨-, -, prepared⟩ := bind_eq_ok.mp prepared
  obtain ⟨_, allowed, prepared⟩ := bind_eq_ok.mp prepared
  obtain ⟨_, control, prepared⟩ := bind_eq_ok.mp prepared
  obtain ⟨-, -, prepared⟩ := bind_eq_ok.mp prepared
  obtain ⟨body, read, prepared⟩ := bind_eq_ok.mp prepared
  obtain ⟨base, built, prepared⟩ := bind_eq_ok.mp prepared
  cases prepared
  refine ⟨url, orReturn_eq_ok parsed, returnRejection_eq_ok source, orReturn_eq_ok accepted, ?_, ?_,
    read, ?_⟩
  · simpa using returnIf_eq_ok allowed
  · intro writes
    have passed := returnRejection_eq_ok control
    rw [if_pos (by simpa using writes)] at passed
    exact passed
  · have based := orReturn_eq_ok built
    unfold buildLocalApiBaseUrl at based
    obtain ⟨again, accepted, based⟩ := Option.bind_eq_some_iff.mp based
    rw [acceptLocalApiPort_eq_some accepted] at based
    cases based
    simp only [localApiHost, localApiPath, String.append_assoc]
    rfl

theorem validateLocalControlRequest_eq_none {url : RequestUrl}
    (passed : validateLocalControlRequest request url = none) :
    request.headers.get "X-Soldisco-Control" = some "soldisco-local-ui-v1" ∧
      request.headers.get "origin" = some url.origin := by
  unfold validateLocalControlRequest at passed
  split_ifs at passed with control origin
  have header : request.headers.get localControlHeaderName = some localControlHeaderValue := by
    simpa using control
  exact ⟨header, by simpa using origin⟩

theorem validateBrowserRequestSource_eq_none {url : RequestUrl}
    (passed : validateBrowserRequestSource request url = none) :
    (∀ origin, request.headers.get "origin" = some origin → origin = url.origin) ∧
      ∀ site, request.headers.get "sec-fetch-site" = some site →
        site = "same-origin" ∨ site = "none" := by
  unfold validateBrowserRequestSource at passed
  dsimp only at passed
  split_ifs at passed with foreign cross
  constructor
  · intro origin sent
    by_contra other
    exact foreign (by simp [sent, other])
  · intro site sent
    by_contra other
    rw [not_or] at other
    exact cross (by simp [sent, other])

theorem readBody_bounded {method : String} {body : Option (List UInt8)}
    (read : readBody request method = .ok body) :
    ∀ content, body = some content → content.length ≤ 65536 := by
  intro content same
  unfold readBody at read
  split_ifs at read
  · cases read
    cases same
  · obtain ⟨whole, -, read⟩ := bind_eq_ok.mp read
    obtain ⟨_, within, read⟩ := bind_eq_ok.mp read
    cases read
    cases same
    have small := returnIf_eq_ok within
    simpa [maxRequestBodyBytes] using small

/-- What a forwarded request keeps to besides its URL. -/
structure SourceAllowed (request : LocalRequest) (call : UpstreamCall) : Prop where
  control : call.method = "POST" ∨ call.method = "PUT" →
    request.headers.get "X-Soldisco-Control" = some "soldisco-local-ui-v1" ∧
      ∃ url, request.url = some url ∧ request.headers.get "origin" = some url.origin
  sameOrigin : ∃ url, request.url = some url ∧
    (∀ origin, request.headers.get "origin" = some origin → origin = url.origin) ∧
    ∀ site, request.headers.get "sec-fetch-site" = some site → site = "same-origin" ∨ site = "none"
  body : ∀ content, call.body = some content → content.length ≤ 65536

/-- The forwarded URL names an exposed route of the accepted port. -/
def TargetAllowed (portValue : String) (call : UpstreamCall) : Prop :=
  ∃ port route, parseLocalApiPort portValue = some port ∧ RouteAllows route call.method ∧
    call.url = "http://127.0.0.1:" ++ toString port ++ "/api/v1/" ++ route

theorem Prepared.sourceAllowed {port : Nat} {call : UpstreamCall} {url : RequestUrl}
    (prepared : Prepared request portValue path port call url) : SourceAllowed request call where
  control := fun writes =>
    have passed := validateLocalControlRequest_eq_none (prepared.control writes)
    ⟨passed.1, url, prepared.parsed, passed.2⟩
  sameOrigin := ⟨url, prepared.parsed, validateBrowserRequestSource_eq_none prepared.source⟩
  body := readBody_bounded prepared.body

/-- The URL names an exposed route exactly when no segment of the path holds a slash. -/
theorem Prepared.targetAllowed_iff {port : Nat} {call : UpstreamCall} {url : RequestUrl}
    (prepared : Prepared request portValue path port call url) :
    TargetAllowed portValue call ↔ ∀ segment ∈ path, '/' ∉ segment.toList := by
  have joined := routeAllows_of_allowedMethods prepared.allowed
  constructor
  · rintro ⟨named, route, accepted, allowed, target⟩ segment member slash
    have same : named = port := Option.some.inj (accepted.symm.trans prepared.accepted)
    rw [same, prepared.sent] at target
    have encoded := (String.append_right_inj _).mp target
    have percent := percent_mem_encoded member slash
    rw [encoded] at percent
    exact absurd (allowed.plain '%' percent) (by decide)
  · intro clean
    refine ⟨port, "/".intercalate path, prepared.accepted, joined, ?_⟩
    rw [prepared.sent, encoded_eq_joined joined.plain clean]

theorem proxyLocalApiRequest_call {fetcher : UpstreamCall → Option UpstreamResponse}
    {call : UpstreamCall}
    (called : call ∈ (proxyLocalApiRequest request portValue path fetcher).calls) :
    ∃ port url, Prepared request portValue path port call url := by
  unfold proxyLocalApiRequest at called
  cases prepared : prepareUpstreamCall request portValue path with
  | error response =>
      rw [prepared] at called
      cases called
  | ok result =>
      rw [prepared] at called
      rw [List.mem_singleton.mp called]
      exact ⟨result.1, prepareUpstreamCall_eq_ok prepared⟩

/-- Every call of the fetcher comes from an allowed source with a bounded body, and the whole request
is an exposed one exactly when no segment of the path holds a slash. -/
theorem gateway_forwards_allowed {fetcher : UpstreamCall → Option UpstreamResponse}
    {call : UpstreamCall}
    (called : call ∈ (proxyLocalApiRequest request portValue path fetcher).calls) :
    SourceAllowed request call ∧
      (TargetAllowed portValue call ∧ SourceAllowed request call ↔
        ∀ segment ∈ path, '/' ∉ segment.toList) := by
  obtain ⟨port, url, prepared⟩ := proxyLocalApiRequest_call called
  have allowed := prepared.sourceAllowed
  refine ⟨allowed, ?_⟩
  rw [and_iff_left allowed]
  exact prepared.targetAllowed_iff

/-- A control request of the interface. -/
def controlRequest : LocalRequest where
  method := "POST"
  url := some {
    protocol := "http:"
    hostname := "localhost"
    username := ""
    password := ""
    origin := "http://localhost:3000" }
  headers := [("origin", "http://localhost:3000"), ("x-soldisco-control", "soldisco-local-ui-v1")]
  body := some []

/-- The backend does not know the route. -/
def notFound (_ : UpstreamCall) : Option UpstreamResponse :=
  some { status := 404, statusText := "Not Found", headers := [], body := none }

theorem gateway_forwards_allowed_start :
    ∃ call ∈ (proxyLocalApiRequest controlRequest "8080" ["stream", "start"] notFound).calls,
      SourceAllowed controlRequest call ∧ TargetAllowed "8080" call := by
  obtain ⟨call, called⟩ := List.exists_mem_of_ne_nil
    (proxyLocalApiRequest controlRequest "8080" ["stream", "start"] notFound).calls
    (by decide +kernel)
  have clean : ∀ segment ∈ ["stream", "start"], '/' ∉ segment.toList := by decide
  obtain ⟨source, whole⟩ := gateway_forwards_allowed called
  exact ⟨call, called, source, (whole.mpr clean).1⟩

/-- A segment that holds the slash of a route is authorised and sent encoded. -/
theorem slashed_segment_forwarded :
    ∃ call ∈ (proxyLocalApiRequest controlRequest "8080" ["stream/start"] notFound).calls,
      ¬ TargetAllowed "8080" call := by
  obtain ⟨call, called⟩ := List.exists_mem_of_ne_nil
    (proxyLocalApiRequest controlRequest "8080" ["stream/start"] notFound).calls
    (by decide +kernel)
  obtain ⟨port, url, prepared⟩ := proxyLocalApiRequest_call called
  refine ⟨call, called, ?_⟩
  rw [prepared.targetAllowed_iff]
  decide

end Forwarding

end Soldisco.Web
