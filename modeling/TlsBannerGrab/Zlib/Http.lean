import TlsBannerGrab.Zlib.Conn

/-!
# HTTP over the connection (`zlib/conn.go`)

`HTTP` optionally asks a proxy to `CONNECT`, then sends the configured request on the active
stream and follows up to `MaxRedirects` redirects, each time moving the connection's domain to
the location's host. What `net/http`, `net/url` and the redirect tests answer (`http.NewRequest`,
`net.SplitHostPort`, `req.Write`, `http.ReadResponse` with the body read, `isRedirect`,
`canRedirectWithConn`, `url.Parse`) is the environment's: those functions live outside this
repository.

* `http_plain` — every exchange goes to the active stream, and the operation changes no stream,
  deadline or TLS state;
* `http_requests_fit` — every request written, the `CONNECT` and each redirect included, names
  the scheme of its stream and one host; through a proxy it is addressed to the proxy's host;
* `redirectLoop_succ` — what one test of the redirect loop can do, from which
  `redirectLoop_redirects` — the loop records at most one redirect per test it has left —
  follows by induction on the tests left, and from it `http_redirects_bounded` — one call
  records at most `max(MaxRedirects, 0)` redirects;
* `http_changes` — the changes `HTTP` makes to the connection, done once, from which
  `http_redirects_paired` — every recorded redirect request has its response — and
  `http_bodies_within` — no recorded body is longer than `1024*MaxSize` bytes, the product
  computed as Go computes it, in a 64-bit `int` that wraps — follow;
* `http_negative_maxSize` — with a `MaxSize` from `-2^53` to `-1`, `HTTP` never returns `nil`.
-/

namespace TlsBannerGrab.Zlib

open TlsBannerGrab.Go

/-! ## Requests and responses -/

/-- `HTTPConfig`, the fields `HTTP` reads. `MaxSize` and `MaxRedirects` are Go `int`s, 64 bits
wide, so arithmetic on them wraps. -/
structure HTTPConfig where
  proxyDomain : Bytes
  method : Bytes
  endpoint : Bytes
  userAgent : Bytes
  maxSize : BitVec 64
  maxRedirects : BitVec 64

/-- `1024*config.MaxSize`, the length error messages and bodies are cut to. Go computes it in
`int`, so the product wraps modulo `2^64`. -/
def HTTPConfig.sizeLimit (config : HTTPConfig) : Int := (1024 * config.maxSize).toInt

/-- The product is exact while `|MaxSize| ≤ 2^53`. -/
theorem HTTPConfig.sizeLimit_of_small (config : HTTPConfig) (lo : -2 ^ 53 ≤ config.maxSize.toInt)
    (hi : config.maxSize.toInt < 2 ^ 53) : config.sizeLimit = 1024 * config.maxSize.toInt := by
  have h1024 : (1024 : BitVec 64).toInt = 1024 := rfl
  rw [sizeLimit, BitVec.toInt_mul, h1024, Int.bmod_def]
  push_cast
  split <;> omega

/-- Past that it wraps: at `MaxSize = -2^54` nothing is cut off, not even at zero. -/
example : (⟨[], [], [], [], .ofInt 64 (-2 ^ 54), 0⟩ : HTTPConfig).sizeLimit = 0 := by decide

/-- The fields of `http.Response` the code reads, with `HeadersFromGolangHeaders` applied to its
header. -/
structure GoResponse where
  statusCode : Nat
  proto : Bytes
  status : Bytes
  protoMajor : Nat
  protoMinor : Nat
  headers : List (Bytes × HeaderValue)

/-- What `net/http` gives one exchange: the error of `req.Write`, then `http.ReadResponse`'s
response or its error's message, then the body and the message of the body read's error. -/
structure HTTPExchange where
  writeErr : Option GoError
  response : Except Bytes GoResponse
  body : Bytes
  bodyErr : Option Bytes

/-- One test of the redirect loop: `isRedirect() && canRedirectWithConn(c)`, and then what
`url.Parse(location)` gives: the URL's host and `RequestURI()`, or an error. -/
structure RedirectStep where
  follow : Bool
  parsed : Except GoError (Bytes × Bytes)

/-- What `HTTP` meets: whether `http.NewRequest` fails, the host of the remote address, the
`CONNECT` exchange, the exchange of the first request and of each followed redirect, and each
test of the redirect loop. -/
structure HTTPOutcome where
  newRequestErr : Option GoError
  remoteHost : Bytes
  proxy : HTTPExchange
  exchange : Nat → HTTPExchange
  redirect : Nat → RedirectStep

/-- `makeHTTPRequest(config)`: the request to send and its record. The host is the connection's
domain, or the remote address's when the domain is empty; the scheme is `https` on TLS. -/
def Conn.makeHTTPRequest (c : Conn) (config : HTTPConfig) (o : HTTPOutcome) :
    Except GoError (GoRequest × HTTPRequest) :=
  match o.newRequestErr with
  | some e => .error e
  | none =>
    let host := if !c.domain.isEmpty then c.domain else o.remoteHost
    let userAgent :=
      if !config.userAgent.isEmpty then config.userAgent else ascii "Mozilla/5.0 zgrab/0.x"
    .ok (⟨config.method, host, ascii "HTTP/1.1",
        if c.isTls then ascii "https" else ascii "http", host, config.endpoint, userAgent⟩,
      ⟨config.endpoint, config.method, userAgent⟩)

/-- The request `makeHTTPRequest` builds: the configured method, HTTP/1.1, the scheme of the
connection's stream, and one host in both the header and the URL. -/
theorem makeHTTPRequest_ok {c : Conn} {config : HTTPConfig} {o : HTTPOutcome} {req : GoRequest}
    {rec : HTTPRequest} (h : c.makeHTTPRequest config o = .ok (req, rec)) :
    req.method = config.method ∧ req.proto = ascii "HTTP/1.1" ∧
      (req.scheme = ascii "https" ↔ c.isTls = true) ∧ req.host = req.urlHost := by
  unfold Conn.makeHTTPRequest at h
  split at h
  · cases h
  · simp only [Except.ok.injEq, Prod.mk.injEq] at h
    obtain ⟨rfl, -⟩ := h
    refine ⟨rfl, rfl, ?_, rfl⟩
    cases c.isTls <;> simp [ascii]

/-- `msg[0:limit]` when `msg` is longer than `limit`: an error message or a body cut to
`1024*MaxSize` bytes. Go panics on a negative bound. -/
def truncateTo (limit : Int) (msg : Bytes) : Option Bytes :=
  if limit < msg.length then
    if 0 ≤ limit then some (msg.take limit.toNat) else none
  else some msg

/-- A cut message or body is at most `limit` bytes long. -/
theorem truncateTo_length {limit : Int} {msg m : Bytes} (h : truncateTo limit msg = some m) :
    (m.length : Int) ≤ limit := by
  unfold truncateTo at h
  split at h
  · split at h
    · cases h
      rw [List.length_take]
      omega
    · cases h
  · cases h
    omega

/-- `sendHTTPRequestReadHTTPResponse(req, config)`: write the request on the active stream, read
the response and its body from it, and build the record. -/
def Conn.sendHTTPRequestReadHTTPResponse (c : Conn) (req : GoRequest) (config : HTTPConfig)
    (x : HTTPExchange) : Outcome (Except GoError HTTPResponse) :=
  let uc := c.getUnderlyingConn
  let limit := config.sizeLimit
  match x.writeErr with
  | some e => .ret [c.call uc (.httpWrite req)] c (.error e)
  | none =>
    let calls := [c.call uc (.httpWrite req), c.call uc .httpRead]
    let failed (msg : Bytes) : Outcome (Except GoError HTTPResponse) :=
      match truncateTo limit msg with
      | none => ⟨calls, none⟩
      | some m => .ret calls c (.error (.msg m))
    match x.response with
    | .error msg => failed msg
    | .ok res =>
      match x.bodyErr with
      | some msg => failed msg
      | none =>
        match truncateTo limit x.body with
        | none => ⟨calls, none⟩
        | some body =>
          .ret calls c (.ok ⟨res.statusCode, res.proto ++ ascii " " ++ res.status,
            res.protoMajor, res.protoMinor, res.headers, body⟩)

/-- `strings.Split(s, ":")[0]`. -/
def beforeColon (s : Bytes) : Bytes := s.takeWhile (· != 58)

/-- `makeAndSendHTTPRequest(config)`: through a proxy, the request names the proxy's host. -/
def Conn.makeAndSendHTTPRequest (c : Conn) (config : HTTPConfig) (o : HTTPOutcome)
    (x : HTTPExchange) : Outcome (Except GoError (HTTPRequest × HTTPResponse)) :=
  match c.makeHTTPRequest config o with
  | .error e => .ret [] c (.error e)
  | .ok (req, rec) =>
    let req :=
      if !config.proxyDomain.isEmpty then
        { req with
          host := beforeColon config.proxyDomain
          urlHost := beforeColon config.proxyDomain }
      else req
    (c.sendHTTPRequestReadHTTPResponse req config x).andThen fun c r =>
      match r with
      | .error e => .ret [] c (.error e)
      | .ok res => .ret [] c (.ok (rec, res))

/-- The connection with its HTTP record, made if missing, changed by `f`. -/
def Conn.updateHTTP (c : Conn) (f : HTTPRequestResponse → HTTPRequestResponse) : Conn :=
  { c with grabData := { c.grabData with http := some (f (c.grabData.http.getD .new)) } }

/-! ## The proxy and the redirect loop -/

/-- `doProxy(config)`: send a `CONNECT` to the proxy domain, recording the request (changed
after it was stored, through the pointer) and the response; anything but 200 is an error. -/
def Conn.doProxy (c : Conn) (config : HTTPConfig) (o : HTTPOutcome) : Outcome (Option GoError) :=
  match c.makeHTTPRequest config o with
  | .error e => .ret [] c (some e)
  | .ok (req, rec) =>
    let connect := ascii "CONNECT"
    let c := c.updateHTTP fun h =>
      { h with proxyRequest := some { rec with method := connect, endpoint := config.proxyDomain } }
    (c.sendHTTPRequestReadHTTPResponse { req with method := connect, path := config.proxyDomain }
        config o.proxy).andThen fun c r =>
      match r with
      | .error e => .ret [] c (some e)
      | .ok res =>
        let c := c.updateHTTP fun h => { h with proxyResponse := some res }
        if res.statusCode ≠ 200 then
          .ret [] c (some (.msg (ascii "proxy connect returned status " ++
            ascii (toString res.statusCode))))
        else .ret [] c none

/-- The value of a header. -/
def lookupHeader (name : Bytes) (headers : List (Bytes × HeaderValue)) : Option HeaderValue :=
  (headers.find? (·.1 == name)).map (·.2)

/-- `" from <domain> (<remote address>)"`, the end of the redirect errors. -/
def Conn.fromText (c : Conn) : Bytes :=
  ascii " from " ++ c.domain ++ ascii " (" ++ c.remoteAddr ++ ascii ")"

/-- The redirect loop of `doHTTP`, at `redirectCount = count` with `fuel` tests left before
`MaxRedirects`. A location that is missing or not a string makes `.(string)` panic. -/
def Conn.redirectLoop (config : HTTPConfig) (o : HTTPOutcome) (count : Nat) (res : HTTPResponse)
    (c : Conn) : Nat → Outcome (Option GoError)
  | 0 => .ret [] c none
  | fuel + 1 =>
    if !(o.redirect count).follow then .ret [] c none
    else
      match lookupHeader (ascii "location") res.headers with
      | some (.str location) =>
        if location.isEmpty then
          .ret [] c (some (.msg (ascii "No location found for " ++
            ascii (toString res.statusCode) ++ ascii " response" ++ c.fromText)))
        else if res.statusCode ∈ [300, 301, 302, 303, 307] then
          match (o.redirect count).parsed with
          | .error e => .ret [] c (some e)
          | .ok (host, uri) =>
            let config := { config with endpoint := uri }
            ({ c with domain := host }.makeAndSendHTTPRequest config o
                (o.exchange (count + 1))).andThen fun c r =>
                match r with
                | .error e => .ret [] c (some e)
                | .ok (req, res) =>
                  (c.updateHTTP fun h => { h with
                    redirectRequests := h.redirectRequests ++ [req]
                    redirectResponses := h.redirectResponses ++ [res] }).redirectLoop config o
                    (count + 1) res fuel
        else if res.statusCode = 305 then c.redirectLoop config o (count + 1) res fuel
        else if res.statusCode = 304 then
          .ret [] c (some (.msg (ascii "Unexpected StatusNotModified response code: 304" ++
            c.fromText)))
        else
          .ret [] c (some (.msg (ascii "Invalid redirect response code: " ++
            ascii (toString res.statusCode) ++ c.fromText)))
      | _ => ⟨[], none⟩

/-- `doHTTP(config)`: the first request and response, then the redirect loop. -/
def Conn.doHTTP (c : Conn) (config : HTTPConfig) (o : HTTPOutcome) : Outcome (Option GoError) :=
  let c := c.updateHTTP id
  (c.makeAndSendHTTPRequest config o (o.exchange 0)).andThen fun c r =>
    match r with
    | .error e => .ret [] c (some e)
    | .ok (req, res) =>
      (c.updateHTTP fun h => { h with request := some req, response := some res }).redirectLoop
        config o 0 res config.maxRedirects.toInt.toNat

/-- `HTTP(config)`. -/
def Conn.http (c : Conn) (config : HTTPConfig) (o : HTTPOutcome) : Outcome (Option GoError) :=
  if !config.proxyDomain.isEmpty then
    (c.doProxy config o).andThen fun c err =>
      match err with
      | some e => .ret [] c (some e)
      | none => c.doHTTP config o
  else c.doHTTP config o

/-- One test of the redirect loop: it stops where it is, panics, tests again with one test
fewer, or follows the location: an exchange from the location's host, then, when the exchange
succeeds, the rest of the loop from the connection that records the redirect. -/
theorem redirectLoop_succ (config : HTTPConfig) (o : HTTPOutcome) (count : Nat)
    (res : HTTPResponse) (c : Conn) (fuel : Nat) :
    (∃ e, c.redirectLoop config o count res (fuel + 1) = .ret [] c e) ∨
    c.redirectLoop config o count res (fuel + 1) = ⟨[], none⟩ ∨
    c.redirectLoop config o count res (fuel + 1) = c.redirectLoop config o (count + 1) res fuel ∨
    ∃ host uri, c.redirectLoop config o count res (fuel + 1) =
      ({ c with domain := host }.makeAndSendHTTPRequest { config with endpoint := uri } o
          (o.exchange (count + 1))).andThen fun c r =>
        match r with
        | .error e => .ret [] c (some e)
        | .ok (req, res) =>
          (c.updateHTTP fun h => { h with
            redirectRequests := h.redirectRequests ++ [req]
            redirectResponses := h.redirectResponses ++ [res] }).redirectLoop
            { config with endpoint := uri } o (count + 1) res fuel := by
  generalize hL : c.redirectLoop config o count res (fuel + 1) = L
  simp only [Conn.redirectLoop] at hL
  split at hL
  · exact .inl ⟨_, hL.symm⟩
  split at hL
  · split at hL
    · exact .inl ⟨_, hL.symm⟩
    split at hL
    · -- a redirect status: the location is parsed and followed
      split at hL
      · exact .inl ⟨_, hL.symm⟩
      · exact .inr (.inr (.inr ⟨_, _, hL.symm⟩))
    split at hL
    · exact .inr (.inr (.inl hL.symm))
    split at hL <;> exact .inl ⟨_, hL.symm⟩
  · exact .inr (.inl hL.symm)

/-- What one exchange can do: write the request, then read, both on the active stream; return
the connection it was given; and cut a body it returns to `1024*MaxSize` bytes. -/
theorem sendHTTPRequestReadHTTPResponse_spec (c : Conn) (req : GoRequest) (config : HTTPConfig)
    (x : HTTPExchange) :
    (∀ k ∈ (c.sendHTTPRequestReadHTTPResponse req config x).calls,
      k = c.call c.getUnderlyingConn (.httpWrite req) ∨
        k = c.call c.getUnderlyingConn .httpRead) ∧
    ∀ c' r, (c.sendHTTPRequestReadHTTPResponse req config x).result = some (c', r) →
      c' = c ∧ ∀ res, r = .ok res → (res.body.length : Int) ≤ config.sizeLimit := by
  unfold Conn.sendHTTPRequestReadHTTPResponse
  dsimp only
  repeat' split
  all_goals refine ⟨by simp, fun c' r h => ?_⟩
  all_goals first
    | (obtain ⟨rfl, rfl⟩ := Prod.mk.inj (Option.some.inj h)
       exact ⟨rfl, fun res hres => by cases hres <;> exact truncateTo_length ‹_›⟩)
    | cases h

theorem sendHTTPRequestReadHTTPResponse_same (config : HTTPConfig) (c : Conn) (req : GoRequest)
    (x : HTTPExchange) {c' : Conn} {r : Except GoError HTTPResponse}
    (h : (c.sendHTTPRequestReadHTTPResponse req config x).result = some (c', r)) : c' = c :=
  ((sendHTTPRequestReadHTTPResponse_spec c req config x).2 c' r h).1

theorem sendHTTPRequestReadHTTPResponse_within {c : Conn} {req : GoRequest}
    {config : HTTPConfig} {x : HTTPExchange} {c' : Conn} {res : HTTPResponse}
    (h : (c.sendHTTPRequestReadHTTPResponse req config x).result = some (c', .ok res)) :
    (res.body.length : Int) ≤ config.sizeLimit :=
  ((sendHTTPRequestReadHTTPResponse_spec c req config x).2 _ _ h).2 res rfl

/-- What `makeAndSendHTTPRequest` returns: the connection it was given, and on success a body cut
to `1024*MaxSize` bytes. -/
theorem makeAndSendHTTPRequest_spec (config : HTTPConfig) (o : HTTPOutcome) (c : Conn)
    (x : HTTPExchange) :
    ∀ c' r, (c.makeAndSendHTTPRequest config o x).result = some (c', r) →
      c' = c ∧ ∀ rec res, r = .ok (rec, res) → (res.body.length : Int) ≤ config.sizeLimit := by
  unfold Conn.makeAndSendHTTPRequest
  split
  · intro c' r h
    obtain ⟨rfl, rfl⟩ := Prod.mk.inj (Option.some.inj h)
    exact ⟨rfl, fun _ _ e => nomatch e⟩
  · intro c' r h
    obtain ⟨c₂, r₂, hsend, hk⟩ := Outcome.andThen_result_eq_some h
    obtain ⟨rfl, within⟩ := (sendHTTPRequestReadHTTPResponse_spec _ _ _ _).2 _ _ hsend
    split at hk <;> obtain ⟨rfl, rfl⟩ := Prod.mk.inj (Option.some.inj hk)
    · exact ⟨rfl, fun _ _ e => nomatch e⟩
    · exact ⟨rfl, fun _ _ e => by cases e; exact within _ rfl⟩

theorem makeAndSendHTTPRequest_same (config : HTTPConfig) (o : HTTPOutcome) (c : Conn)
    (x : HTTPExchange) {c' : Conn} {r : Except GoError (HTTPRequest × HTTPResponse)}
    (h : (c.makeAndSendHTTPRequest config o x).result = some (c', r)) : c' = c :=
  (makeAndSendHTTPRequest_spec config o c x c' r h).1

theorem makeAndSendHTTPRequest_within {c : Conn} {config : HTTPConfig} {o : HTTPOutcome}
    {x : HTTPExchange} {c' : Conn} {rec : HTTPRequest} {res : HTTPResponse}
    (h : (c.makeAndSendHTTPRequest config o x).result = some (c', .ok (rec, res))) :
    (res.body.length : Int) ≤ config.sizeLimit :=
  (makeAndSendHTTPRequest_spec config o c x _ _ h).2 rec res rfl

/-! ## What `HTTP` keeps -/

section Keeps

variable (config : HTTPConfig) (o : HTTPOutcome)

theorem Conn.updateHTTP_keeps (c : Conn) (f : HTTPRequestResponse → HTTPRequestResponse) :
    c.Keeps (c.updateHTTP f) :=
  ⟨rfl, rfl, rfl, rfl, rfl⟩

theorem sendHTTPRequestReadHTTPResponse_plain (c : Conn) (req : GoRequest) (x : HTTPExchange) :
    (c.sendHTTPRequestReadHTTPResponse req config x).Plain c := by
  obtain ⟨calls, same⟩ := sendHTTPRequestReadHTTPResponse_spec c req config x
  refine ⟨fun k hk => ?_, fun c' r h => ?_⟩
  · rcases calls k hk with rfl | rfl <;> exact c.call_plain (by simp)
  · obtain ⟨rfl, -⟩ := same c' r h
    exact .refl _

theorem makeAndSendHTTPRequest_plain (c : Conn) (x : HTTPExchange) :
    (c.makeAndSendHTTPRequest config o x).Plain c := by
  unfold Conn.makeAndSendHTTPRequest
  split
  · exact .ret _ (.refl c) (by simp)
  · refine .andThen (sendHTTPRequestReadHTTPResponse_plain config _ _ _) fun c' r _ => ?_
    split <;> exact .ret _ (.refl c') (by simp)

theorem doProxy_plain (c : Conn) : (c.doProxy config o).Plain c := by
  unfold Conn.doProxy
  split
  · exact .ret _ (.refl c) (by simp)
  · refine .andThen ?_ fun c' r _ => ?_
    · exact (sendHTTPRequestReadHTTPResponse_plain config _ _ _).keeps_from
        (c.updateHTTP_keeps _)
    · split
      · exact .ret _ (.refl c') (by simp)
      · split <;> exact .ret _ (c'.updateHTTP_keeps _) (by simp)

theorem redirectLoop_plain (count : Nat) (res : HTTPResponse) (c : Conn) (fuel : Nat) :
    (c.redirectLoop config o count res fuel).Plain c := by
  induction fuel generalizing config count res c with
  | zero => exact .ret _ (.refl c) (by simp)
  | succ fuel ih =>
    rcases redirectLoop_succ config o count res c fuel with ⟨e, h⟩ | h | h | ⟨host, uri, h⟩ <;>
      rw [h]
    · exact .ret _ (.refl c) (by simp)
    · exact .panic (by simp)
    · exact ih _ _ _ _
    · -- a followed redirect: one exchange, then the rest of the loop
      refine .andThen ((makeAndSendHTTPRequest_plain _ o _ _).keeps_from
        ⟨rfl, rfl, rfl, rfl, rfl⟩) fun c' r _ => ?_
      split
      · exact .ret _ (.refl c') (by simp)
      · exact (ih _ _ _ _).keeps_from (c'.updateHTTP_keeps _)

theorem doHTTP_plain (c : Conn) : (c.doHTTP config o).Plain c :=
  .andThen ((makeAndSendHTTPRequest_plain config o _ _).keeps_from (c.updateHTTP_keeps _))
    fun c' r _ => by
      split
      · exact .ret _ (.refl c') (by simp)
      · exact (redirectLoop_plain _ o _ _ _ _).keeps_from (c'.updateHTTP_keeps _)

/-- **`HTTP` is plain.** Every exchange goes to the active stream, and the operation leaves the
streams, the cached deadlines and the TLS state as they were. -/
theorem http_plain (c : Conn) : (c.http config o).Plain c := by
  unfold Conn.http
  split
  · refine .andThen (doProxy_plain config o c) fun c' err _ => ?_
    split
    · exact .ret _ (.refl c') (by simp)
    · exact doHTTP_plain config o c'
  · exact doHTTP_plain config o c

end Keeps

/-! ## The requests `HTTP` writes -/

/-- A request `HTTP` may write under `config` on a stream that is, or is not, TLS: it names that
stream's scheme, one host in its header and its URL, and HTTP/1.1; it carries the configured
method, but for the `CONNECT` whose path is the proxy domain, and through a proxy every other
request is addressed to the proxy's host. -/
def RequestFits (config : HTTPConfig) (tls : Bool) (req : GoRequest) : Prop :=
  (req.scheme = ascii "https" ↔ tls = true) ∧ req.host = req.urlHost ∧
    req.proto = ascii "HTTP/1.1" ∧
    (config.proxyDomain ≠ [] ∧ req.method = ascii "CONNECT" ∧ req.path = config.proxyDomain ∨
      req.method = config.method ∧
        (config.proxyDomain ≠ [] → req.host = beforeColon config.proxyDomain))

/-- The request a call writes, if any, fits `config` and goes to the active stream of a
connection whose TLS state is `tls`. -/
def Call.FitsHTTP (config : HTTPConfig) (tls : Bool) (k : Call) : Prop :=
  ∀ req, k.access = .httpWrite req →
    k.tlsActive = tls ∧ k.layer = activeLayer tls ∧ RequestFits config tls req

theorem sendHTTPRequestReadHTTPResponse_fits {c : Conn} {req : GoRequest} {config : HTTPConfig}
    (fits : RequestFits config c.isTls req) (config' : HTTPConfig) (x : HTTPExchange) :
    ∀ k ∈ (c.sendHTTPRequestReadHTTPResponse req config' x).calls, k.FitsHTTP config c.isTls := by
  intro k hk req' hreq
  rcases (sendHTTPRequestReadHTTPResponse_spec c req config' x).1 k hk with rfl | rfl
  · obtain rfl := Access.httpWrite.inj hreq
    exact ⟨rfl, rfl, fits⟩
  · cases hreq

theorem makeAndSendHTTPRequest_fits (c : Conn) (config : HTTPConfig) (o : HTTPOutcome)
    (x : HTTPExchange) :
    ∀ k ∈ (c.makeAndSendHTTPRequest config o x).calls, k.FitsHTTP config c.isTls := by
  unfold Conn.makeAndSendHTTPRequest
  split
  · simp
  · rename_i req rec hreq
    obtain ⟨method, proto, scheme, host⟩ := makeHTTPRequest_ok hreq
    intro k hk
    rcases Outcome.mem_andThen_calls hk with hk | ⟨c', r, -, hk⟩
    · refine sendHTTPRequestReadHTTPResponse_fits ?_ config x k hk
      split
      · -- through a proxy, the request is readdressed to the proxy's host
        exact ⟨scheme, rfl, proto, .inr ⟨method, fun _ => rfl⟩⟩
      · rename_i noProxy
        refine ⟨scheme, host, proto, .inr ⟨method, fun proxy => absurd ?_ noProxy⟩⟩
        simpa [List.isEmpty_iff] using proxy
    · split at hk <;> simp at hk

theorem doProxy_fits (c : Conn) (config : HTTPConfig) (o : HTTPOutcome)
    (proxy : config.proxyDomain ≠ []) :
    ∀ k ∈ (c.doProxy config o).calls, k.FitsHTTP config c.isTls := by
  unfold Conn.doProxy
  split
  · simp
  · rename_i req rec hreq
    obtain ⟨-, proto, scheme, host⟩ := makeHTTPRequest_ok hreq
    intro k hk
    rcases Outcome.mem_andThen_calls hk with hk | ⟨c', r, -, hk⟩
    · refine (sendHTTPRequestReadHTTPResponse_fits ?_ config o.proxy k hk :)
      exact ⟨scheme, host, proto, .inl ⟨proxy, rfl, rfl⟩⟩
    · dsimp only at hk
      split at hk
      · simp at hk
      · split at hk <;> simp at hk

theorem redirectLoop_fits (config : HTTPConfig) (o : HTTPOutcome) (count : Nat)
    (res : HTTPResponse) (c : Conn) (fuel : Nat) :
    ∀ k ∈ (c.redirectLoop config o count res fuel).calls, k.FitsHTTP config c.isTls := by
  induction fuel generalizing config count res c with
  | zero => simp [Conn.redirectLoop]
  | succ fuel ih =>
    rcases redirectLoop_succ config o count res c fuel with ⟨e, h⟩ | h | h | ⟨host, uri, h⟩ <;>
      rw [h]
    · simp
    · simp
    · exact ih _ _ _ _
    · -- a followed redirect: one exchange from the location's host, then the rest of the loop
      intro k hk
      rcases Outcome.mem_andThen_calls hk with hk | ⟨c', r, hsend, hk⟩
      · exact (makeAndSendHTTPRequest_fits _ { config with endpoint := uri } o _ k hk :)
      · obtain rfl := makeAndSendHTTPRequest_same _ o _ _ hsend
        split at hk
        · simp at hk
        · exact (ih _ _ _ _ k hk :)

theorem doHTTP_fits (c : Conn) (config : HTTPConfig) (o : HTTPOutcome) :
    ∀ k ∈ (c.doHTTP config o).calls, k.FitsHTTP config c.isTls := by
  intro k hk
  rcases Outcome.mem_andThen_calls hk with hk | ⟨c', r, hsend, hk⟩
  · exact (makeAndSendHTTPRequest_fits _ config o _ k hk :)
  · obtain rfl := makeAndSendHTTPRequest_same config o _ _ hsend
    split at hk
    · simp at hk
    · exact (redirectLoop_fits config o 0 _ _ _ k hk :)

/-- **The requests `HTTP` writes.** Every request, the `CONNECT` to a proxy and each followed
redirect included, goes to the active stream and names its scheme (`https` exactly on TLS),
one host in its header and its URL, and HTTP/1.1; it carries the configured method, but for
the `CONNECT`, whose path is the proxy domain; through a proxy, every other request is addressed
to the proxy's host rather than to the redirect's. -/
theorem http_requests_fit (config : HTTPConfig) (o : HTTPOutcome) (c : Conn) :
    ∀ k ∈ (c.http config o).calls, k.FitsHTTP config c.isTls := by
  unfold Conn.http
  split
  · rename_i proxy
    intro k hk
    rcases Outcome.mem_andThen_calls hk with hk | ⟨c', err, hproxy, hk⟩
    · exact doProxy_fits c config o (by simpa [List.isEmpty_iff] using proxy) k hk
    · have keeps := (doProxy_plain config o c).keeps c' err hproxy
      split at hk
      · simp at hk
      · rw [← keeps.isTls]
        exact doHTTP_fits c' config o k hk
  · exact doHTTP_fits c config o

/-- A `GET /` with no proxy, no user agent and no redirect. -/
def getRoot : HTTPConfig := ⟨[], ascii "GET", ascii "/", [], 0, 0⟩

/-- `net/http` answers every exchange with a read error, and no redirect is followed. -/
def silentPeer : HTTPOutcome :=
  ⟨none, [], ⟨none, .error [], [], none⟩, fun _ => ⟨none, .error [], [], none⟩,
    fun _ => ⟨false, .error (.msg [])⟩⟩

/-- A `GET /` through the proxy `proxy:3128`. -/
def proxiedGet : HTTPConfig := { getRoot with proxyDomain := ascii "proxy:3128" }

/-- The `CONNECT` a fresh connection writes for `proxiedGet`. -/
def connectCall : Call :=
  ⟨false, .raw, .httpWrite ⟨ascii "CONNECT", [], ascii "HTTP/1.1", ascii "http", [],
    ascii "proxy:3128", ascii "Mozilla/5.0 zgrab/0.x"⟩⟩

theorem http_requests_fit_connect :
    connectCall ∈ (freshConn.http proxiedGet silentPeer).calls ∧
      connectCall.FitsHTTP proxiedGet freshConn.isTls :=
  ⟨by decide, http_requests_fit proxiedGet silentPeer freshConn _ (by decide)⟩

/-! ## The redirect bound -/

/-- The redirects recorded so far. -/
def Conn.redirectCount (c : Conn) : Nat :=
  ((c.grabData.http.getD .new).redirectRequests).length

/-- The loop records at most one redirect per test it has left. -/
theorem redirectLoop_redirects (config : HTTPConfig) (o : HTTPOutcome) (count : Nat)
    (res : HTTPResponse) (c : Conn) (fuel : Nat) {c' : Conn} {err : Option GoError}
    (h : (c.redirectLoop config o count res fuel).result = some (c', err)) :
    c'.redirectCount ≤ c.redirectCount + fuel := by
  induction fuel generalizing config count res c with
  | zero => simp_all [Conn.redirectLoop]
  | succ fuel ih =>
    rcases redirectLoop_succ config o count res c fuel with ⟨e, he⟩ | he | he | ⟨host, uri, he⟩ <;>
      rw [he] at h
    · obtain ⟨rfl, -⟩ := Prod.mk.inj (Option.some.inj h)
      omega
    · cases h
    · have := ih _ _ _ _ h
      omega
    · -- a followed redirect: the exchange keeps the connection, then one more redirect
      obtain ⟨c₂, r₂, hsend, h⟩ := Outcome.andThen_result_eq_some h
      obtain rfl := makeAndSendHTTPRequest_same _ o _ _ hsend
      split at h
      · obtain ⟨rfl, -⟩ := Prod.mk.inj (Option.some.inj h)
        simp [Conn.redirectCount]
      · have := ih _ _ _ _ h
        simp only [Conn.redirectCount, Conn.updateHTTP, Option.getD_some, List.length_append,
          List.length_singleton] at this ⊢
        omega

/-- `doProxy` records no redirect. -/
theorem doProxy_redirectCount (c : Conn) (config : HTTPConfig) (o : HTTPOutcome) {c' : Conn}
    {err : Option GoError} (h : (c.doProxy config o).result = some (c', err)) :
    c'.redirectCount = c.redirectCount := by
  unfold Conn.doProxy at h
  split at h
  · obtain ⟨rfl, -⟩ := Prod.mk.inj (Option.some.inj h)
    rfl
  · obtain ⟨c₂, r, hsend, h⟩ := Outcome.andThen_result_eq_some h
    obtain rfl := sendHTTPRequestReadHTTPResponse_same config _ _ _ hsend
    split at h
    · obtain ⟨rfl, -⟩ := Prod.mk.inj (Option.some.inj h)
      rfl
    · dsimp only at h
      split at h <;>
      · obtain ⟨rfl, -⟩ := Prod.mk.inj (Option.some.inj h)
        rfl

/-- `doHTTP` runs the loop with `max(MaxRedirects, 0)` tests: the loop goes on while
`redirectCount < config.MaxRedirects`. -/
theorem doHTTP_redirects (c : Conn) (config : HTTPConfig) (o : HTTPOutcome) {c' : Conn}
    {err : Option GoError} (h : (c.doHTTP config o).result = some (c', err)) :
    c'.redirectCount ≤ c.redirectCount + config.maxRedirects.toInt.toNat := by
  obtain ⟨c₂, r, hsend, h⟩ := Outcome.andThen_result_eq_some h
  obtain rfl := makeAndSendHTTPRequest_same config o _ _ hsend
  split at h
  · obtain ⟨rfl, -⟩ := Prod.mk.inj (Option.some.inj h)
    exact Nat.le_add_right _ _
  · exact (redirectLoop_redirects config o 0 _ _ _ h :)

/-- **At most `MaxRedirects` redirects per call.** One `HTTP` call, through a proxy or not,
records at most `max(MaxRedirects, 0)` redirects, whatever the peer answers. -/
theorem http_redirects_bounded (config : HTTPConfig) (o : HTTPOutcome) (c : Conn) :
    ∀ c' err, (c.http config o).result = some (c', err) →
      c'.redirectCount ≤ c.redirectCount + config.maxRedirects.toInt.toNat := by
  intro c' err h
  unfold Conn.http at h
  split at h
  · obtain ⟨c₂, e, hproxy, h⟩ := Outcome.andThen_result_eq_some h
    rw [← doProxy_redirectCount c config o hproxy]
    split at h
    · obtain ⟨rfl, -⟩ := Prod.mk.inj (Option.some.inj h)
      exact Nat.le_add_right _ _
    · exact doHTTP_redirects _ config o h
  · exact doHTTP_redirects c config o h

/-- A `GET /` that follows at most one redirect. -/
def getOneRedirect : HTTPConfig := { getRoot with maxRedirects := 1 }

/-- A peer that answers every request with a `302` to `/next`, a redirect that is followed. -/
def movedPeer : HTTPOutcome :=
  ⟨none, [], ⟨none, .error [], [], none⟩,
    fun _ => ⟨none, .ok ⟨302, [], [], 1, 1, [(ascii "location", .str (ascii "/next"))]⟩, [], none⟩,
    fun _ => ⟨true, .ok ([], ascii "/next")⟩⟩

theorem http_redirects_bounded_once :
    ∃ c', (freshConn.http getOneRedirect movedPeer).result = some (c', none) ∧
      c'.redirectCount = 1 ∧
      c'.redirectCount ≤ freshConn.redirectCount + getOneRedirect.maxRedirects.toInt.toNat :=
  ⟨_, rfl, rfl, http_redirects_bounded getOneRedirect movedPeer freshConn _ _ rfl⟩

/-! ## What `HTTP` changes -/

/-- One change `HTTP` makes to the connection: its record made or filled in, or its domain
moved to a redirect's host. A recorded response is one an exchange returned, so its body is at
most `limit` bytes long, the cut the exchange made. -/
inductive HTTPChange (limit : Int) : Conn → Conn → Prop
  | create (c : Conn) : HTTPChange limit c (c.updateHTTP id)
  | proxyRequest (c : Conn) (rec : HTTPRequest) :
      HTTPChange limit c (c.updateHTTP fun h => { h with proxyRequest := some rec })
  | proxyResponse (c : Conn) (res : HTTPResponse) (within : (res.body.length : Int) ≤ limit) :
      HTTPChange limit c (c.updateHTTP fun h => { h with proxyResponse := some res })
  | first (c : Conn) (req : HTTPRequest) (res : HTTPResponse)
      (within : (res.body.length : Int) ≤ limit) :
      HTTPChange limit c
        (c.updateHTTP fun h => { h with request := some req, response := some res })
  | domain (c : Conn) (host : Bytes) : HTTPChange limit c { c with domain := host }
  | redirect (c : Conn) (req : HTTPRequest) (res : HTTPResponse)
      (within : (res.body.length : Int) ≤ limit) :
      HTTPChange limit c (c.updateHTTP fun h => { h with
        redirectRequests := h.redirectRequests ++ [req]
        redirectResponses := h.redirectResponses ++ [res] })

/-- What every change keeps, every sequence of changes keeps. -/
theorem HTTPChange.trace_keeps {limit : Int} {P : Conn → Prop}
    (step : ∀ c c', HTTPChange limit c c' → P c → P c') {c c' : Conn}
    (trace : Relation.ReflTransGen (HTTPChange limit) c c') (hc : P c) : P c' := by
  induction trace with
  | refl => exact hc
  | tail _ last ih => exact step _ _ last ih

theorem doProxy_changes (c : Conn) (config : HTTPConfig) (o : HTTPOutcome) {c' : Conn}
    {err : Option GoError} (h : (c.doProxy config o).result = some (c', err)) :
    Relation.ReflTransGen (HTTPChange config.sizeLimit) c c' := by
  unfold Conn.doProxy at h
  split at h
  · obtain ⟨rfl, -⟩ := Prod.mk.inj (Option.some.inj h)
    exact .refl
  · rename_i rec _
    obtain ⟨c₂, r, hsend, h⟩ := Outcome.andThen_result_eq_some h
    obtain rfl := sendHTTPRequestReadHTTPResponse_same config _ _ _ hsend
    refine .head (.proxyRequest c
      { rec with method := ascii "CONNECT", endpoint := config.proxyDomain }) ?_
    split at h
    · obtain ⟨rfl, -⟩ := Prod.mk.inj (Option.some.inj h)
      exact .refl
    · dsimp only at h
      split at h <;>
      · obtain ⟨rfl, -⟩ := Prod.mk.inj (Option.some.inj h)
        exact .single (.proxyResponse _ _ (sendHTTPRequestReadHTTPResponse_within hsend))

theorem redirectLoop_changes (config : HTTPConfig) (o : HTTPOutcome) (count : Nat)
    (res : HTTPResponse) (c : Conn) (fuel : Nat) {c' : Conn} {err : Option GoError}
    (h : (c.redirectLoop config o count res fuel).result = some (c', err)) :
    Relation.ReflTransGen (HTTPChange config.sizeLimit) c c' := by
  induction fuel generalizing config count res c with
  | zero =>
    obtain ⟨rfl, -⟩ := Prod.mk.inj (Option.some.inj h)
    exact .refl
  | succ fuel ih =>
    rcases redirectLoop_succ config o count res c fuel with ⟨e, he⟩ | he | he | ⟨host, uri, he⟩ <;>
      rw [he] at h
    · obtain ⟨rfl, -⟩ := Prod.mk.inj (Option.some.inj h)
      exact .refl
    · cases h
    · exact ih _ _ _ _ h
    · -- a followed redirect: the domain moves, then the exchange is recorded
      obtain ⟨c₂, r, hsend, h⟩ := Outcome.andThen_result_eq_some h
      obtain rfl := makeAndSendHTTPRequest_same _ o _ _ hsend
      refine .head (.domain c host) ?_
      split at h
      · obtain ⟨rfl, -⟩ := Prod.mk.inj (Option.some.inj h)
        exact .refl
      · exact .head (.redirect _ _ _ (makeAndSendHTTPRequest_within hsend :)) (ih _ _ _ _ h :)

theorem doHTTP_changes (c : Conn) (config : HTTPConfig) (o : HTTPOutcome) {c' : Conn}
    {err : Option GoError} (h : (c.doHTTP config o).result = some (c', err)) :
    Relation.ReflTransGen (HTTPChange config.sizeLimit) c c' := by
  obtain ⟨c₂, r, hsend, h⟩ := Outcome.andThen_result_eq_some h
  obtain rfl := makeAndSendHTTPRequest_same config o _ _ hsend
  refine .head (.create c) ?_
  split at h
  · obtain ⟨rfl, -⟩ := Prod.mk.inj (Option.some.inj h)
    exact .refl
  · exact .head (.first _ _ _ (makeAndSendHTTPRequest_within hsend))
      (redirectLoop_changes config o 0 _ _ _ h)

/-- `HTTP` changes the connection only by the changes `HTTPChange` lists. -/
theorem http_changes (c : Conn) (config : HTTPConfig) (o : HTTPOutcome) {c' : Conn}
    {err : Option GoError} (h : (c.http config o).result = some (c', err)) :
    Relation.ReflTransGen (HTTPChange config.sizeLimit) c c' := by
  unfold Conn.http at h
  split at h
  · obtain ⟨c₂, e, hproxy, h⟩ := Outcome.andThen_result_eq_some h
    refine (doProxy_changes c config o hproxy).trans ?_
    split at h
    · obtain ⟨rfl, -⟩ := Prod.mk.inj (Option.some.inj h)
      exact .refl
    · exact doHTTP_changes _ config o h
  · exact doHTTP_changes c config o h

/-! ## Redirects are recorded in pairs -/

/-- The record holds one redirect response per redirect request. -/
def Conn.RedirectsPaired (c : Conn) : Prop :=
  (c.grabData.http.getD .new).redirectRequests.length =
    (c.grabData.http.getD .new).redirectResponses.length

/-- An update that leaves both redirect lists alone keeps them paired. -/
theorem Conn.RedirectsPaired.update {c : Conn} (paired : c.RedirectsPaired)
    {f : HTTPRequestResponse → HTTPRequestResponse}
    (hf : ∀ h, (f h).redirectRequests = h.redirectRequests ∧
      (f h).redirectResponses = h.redirectResponses) :
    (c.updateHTTP f).RedirectsPaired := by
  simpa only [Conn.RedirectsPaired, Conn.updateHTTP, Option.getD_some, (hf _).1, (hf _).2]
    using paired

theorem HTTPChange.paired {limit : Int} {c c' : Conn} (step : HTTPChange limit c c')
    (paired : c.RedirectsPaired) : c'.RedirectsPaired := by
  cases step with
  | domain => exact paired
  | redirect =>
    simp only [Conn.RedirectsPaired, Conn.updateHTTP, Option.getD_some, List.length_append,
      List.length_singleton] at paired ⊢
    exact congrArg (· + 1) paired
  | _ => exact paired.update fun _ => ⟨rfl, rfl⟩

/-- **Redirects are recorded in pairs.** From a connection whose record pairs its redirects, as
one without a record does, `HTTP` leaves one redirect response recorded per redirect request,
whatever the proxy, the exchanges and the redirect tests answer. -/
theorem http_redirects_paired (config : HTTPConfig) (o : HTTPOutcome) (c : Conn)
    (paired : c.RedirectsPaired) :
    ∀ c' err, (c.http config o).result = some (c', err) → c'.RedirectsPaired :=
  fun _ _ h => HTTPChange.trace_keeps (fun _ _ step => step.paired) (http_changes c config o h)
    paired

theorem http_redirects_paired_fresh :
    freshConn.RedirectsPaired ∧
      ∀ c' err, (freshConn.http getRoot silentPeer).result = some (c', err) →
        c'.RedirectsPaired :=
  ⟨rfl, http_redirects_paired getRoot silentPeer freshConn rfl⟩

/-! ## Recorded bodies -/

/-- Every response the connection's record holds has a body of at most `limit` bytes. -/
structure Conn.BodiesWithin (limit : Int) (c : Conn) : Prop where
  proxyResponse :
    ∀ res ∈ (c.grabData.http.getD .new).proxyResponse, (res.body.length : Int) ≤ limit
  response : ∀ res ∈ (c.grabData.http.getD .new).response, (res.body.length : Int) ≤ limit
  redirectResponses :
    ∀ res ∈ (c.grabData.http.getD .new).redirectResponses, (res.body.length : Int) ≤ limit

/-- A change within `limit` keeps every bound above it. -/
theorem HTTPChange.bodiesWithin {limit bound : Int} {c c' : Conn}
    (step : HTTPChange limit c c') (le : limit ≤ bound) (within : c.BodiesWithin bound) :
    c'.BodiesWithin bound := by
  cases step with
  | proxyResponse res new =>
    exact ⟨fun r hr => by cases hr; exact new.trans le, within.2, within.3⟩
  | first req res new => exact ⟨within.1, fun r hr => by cases hr; exact new.trans le, within.3⟩
  | redirect req res new =>
    refine ⟨within.1, within.2, fun r hr => ?_⟩
    rcases List.mem_append.mp hr with old | added
    · exact within.3 r old
    · cases List.mem_singleton.mp added
      exact new.trans le
  | _ => exact ⟨within.1, within.2, within.3⟩

/-- **Recorded bodies are cut.** From a connection whose record holds no body longer than
`1024*MaxSize` bytes, the product as Go computes it (`sizeLimit`), as one without a record
does, `HTTP` records none longer: not the proxy's response, not the response, not any redirect
response. -/
theorem http_bodies_within (config : HTTPConfig) (o : HTTPOutcome) (c : Conn)
    (within : c.BodiesWithin config.sizeLimit) :
    ∀ c' err, (c.http config o).result = some (c', err) → c'.BodiesWithin config.sizeLimit :=
  fun _ _ h => HTTPChange.trace_keeps (fun _ _ step => step.bodiesWithin le_rfl)
    (http_changes c config o h) within

theorem http_bodies_within_fresh :
    (freshConn.http getRoot silentPeer).result =
        some (freshConn.updateHTTP id, some (.msg [])) ∧
      (freshConn.updateHTTP id).BodiesWithin getRoot.sizeLimit :=
  ⟨rfl, http_bodies_within getRoot silentPeer freshConn ⟨nofun, nofun, nofun⟩ _ _ rfl⟩

/-- `doHTTP` returns `nil` only after a response, so only with a cut of at least zero. -/
theorem doHTTP_nil_nonneg {c : Conn} {config : HTTPConfig} {o : HTTPOutcome} {c' : Conn}
    (h : (c.doHTTP config o).result = some (c', none)) : 0 ≤ config.sizeLimit := by
  obtain ⟨c₂, r, hsend, h⟩ := Outcome.andThen_result_eq_some h
  split at h
  · simp at h
  · exact (Int.natCast_nonneg _).trans (makeAndSendHTTPRequest_within hsend)

/-- **A negative `MaxSize` never succeeds.** An exchange that gets as far as a response cuts
its body or its error message at `1024*MaxSize`, which panics below zero; so with a `MaxSize`
from `-2^53` to `-1`, `HTTP` either panics or returns an error, and never returns `nil`. Below
`-2^53` Go's product wraps and the cut may be zero or positive again. -/
theorem http_negative_maxSize (config : HTTPConfig) (o : HTTPOutcome) (c : Conn)
    (neg : config.maxSize.toInt < 0) (noWrap : -2 ^ 53 ≤ config.maxSize.toInt) (c' : Conn) :
    (c.http config o).result ≠ some (c', none) := by
  have cut : config.sizeLimit < 0 := by
    rw [config.sizeLimit_of_small noWrap (by omega)]
    omega
  intro h
  unfold Conn.http at h
  split at h
  · obtain ⟨c₂, e, -, h⟩ := Outcome.andThen_result_eq_some h
    split at h
    · simp at h
    · exact (doHTTP_nil_nonneg h).not_lt cut
  · exact (doHTTP_nil_nonneg h).not_lt cut

/-- An `HTTP` call that cuts at `-1024` bytes. -/
def negativeGet : HTTPConfig := { getRoot with maxSize := -1 }

theorem http_negative_maxSize_silent :
    negativeGet.maxSize.toInt < 0 ∧ -2 ^ 53 ≤ negativeGet.maxSize.toInt ∧
      (freshConn.http negativeGet silentPeer).result ≠ some (freshConn, none) :=
  ⟨by decide, by decide,
    http_negative_maxSize negativeGet silentPeer freshConn (by decide) (by decide) freshConn⟩

end TlsBannerGrab.Zlib
