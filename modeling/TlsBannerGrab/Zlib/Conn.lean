import TlsBannerGrab.Ztls.Log
import TlsBannerGrab.Zlib.Regexp

/-!
# The scanner connection (`zlib/conn.go`)

A `Conn` wraps the raw stream `conn`. `TLSHandshake` wraps that stream once more in a `ztls`
client, `tlsConn`, and sets `isTls`; from then on `getUnderlyingConn` returns the TLS client.

Each operation is a function of the connection and of the outcomes the network and the
collaborators (the `ztls` engine, `util.ReadUntilRegex`, the SSH, FTP, HTTP and Modbus code)
give its calls. Those outcomes are arguments, so a theorem over them holds whatever the peer
and the engine do. An operation returns an `Outcome`: the calls it made on the two streams, in
order, then the connection after it and its Go results, or `none` where the code panics.

Of each stream the model keeps what this file acts on: its deadlines, and the remote address
both streams report (a `ztls` client reports the address of the stream it wraps).

* `Conn.isTls_eq` — a connection is on TLS exactly when it has a TLS client (a field, so no
  other connection can be built);
* `tlsHandshake_of_isTls` — a second handshake fails with the repeat error and changes nothing;
* `tlsHandshake_of_plain` — a first one wraps the raw stream, sets the cached deadlines on the
  new client and records the engine's log, whatever the handshake's error;
* `Outcome.Upgrades.cached` — an operation that may upgrade leaves the cached deadlines alone.
-/

namespace TlsBannerGrab.Zlib

open TlsBannerGrab.Go TlsBannerGrab.Ztls

/-! ## Streams and the calls made on them -/

/-- A `time.Time` deadline, as an instant; `0` is the zero time, no deadline. -/
abbrev Time := Nat

/-- The read and write deadlines a stream holds. -/
structure Deadlines where
  read : Time
  write : Time
  deriving DecidableEq, Repr

/-- The stream a call goes to: the raw connection `c.conn`, or the TLS client `c.tlsConn`. -/
inductive Layer
  | raw
  | tls
  deriving DecidableEq, Repr

/-- The fields of the `http.Request` that `makeHTTPRequest` sets, as `req.Write` sends them. -/
structure GoRequest where
  method : Bytes
  host : Bytes
  proto : Bytes
  scheme : Bytes
  urlHost : Bytes
  path : Bytes
  userAgent : Bytes
  deriving DecidableEq, Repr

/-- What a call does with a stream. A hand-off gives the stream to code outside this file,
which reads and writes it. -/
inductive Access
  | read
  | write (data : Bytes)
  | close
  | setDeadline
  | setReadDeadline
  | setWriteDeadline
  /-- `ztls.Client(c.conn, tlsConfig)`. -/
  | wrap
  /-- `(*ztls.Conn).Handshake()`. -/
  | handshake
  /-- `(*ztls.Conn).CheckHeartbleed(b)`. -/
  | heartbleed
  /-- `util.ReadUntilRegex(stream, res, expr)`. -/
  | readUntil (expr : Regexp)
  /-- `ftp.SetupFTPS(c.grabData.FTP, stream)`. -/
  | setupFTPS
  /-- `ssh.Client(stream, config)` and its handshake. -/
  | sshClient
  /-- `req.Write(stream)`. -/
  | httpWrite (req : GoRequest)
  /-- `http.ReadResponse` over the stream, and the body read. -/
  | httpRead
  /-- `c.GetModbusResponse()`. -/
  | modbusRead
  deriving DecidableEq, Repr

/-- A call on a stream, with whether the connection was on TLS when it was made. -/
structure Call where
  tlsActive : Bool
  layer : Layer
  access : Access
  deriving DecidableEq, Repr

/-- The stream `getUnderlyingConn` returns on a connection that is, or is not, on TLS. -/
def activeLayer (tlsActive : Bool) : Layer := if tlsActive then .tls else .raw

/-- The call goes to the stream `getUnderlyingConn` returned when it was made. -/
def Call.OnActive (k : Call) : Prop := k.layer = activeLayer k.tlsActive

instance : DecidablePred Call.OnActive := fun _ => inferInstanceAs (Decidable (_ = _))

/-- A deadline call's effect on a stream's deadlines: a failed call leaves them. -/
def Deadlines.after (a : Access) (t : Time) (err : Option GoError) (d : Deadlines) : Deadlines :=
  if err.isSome then d
  else match a with
    | .setDeadline => ⟨t, t⟩
    | .setReadDeadline => { d with read := t }
    | .setWriteDeadline => { d with write := t }
    | _ => d

/-- The raw stream `c.conn`. -/
structure RawConn where
  deadlines : Deadlines
  remoteAddr : Bytes
  deriving DecidableEq, Repr

/-- An `x509.CertPool`, as the raw certificates it holds. -/
abbrev CertPool := List Bytes

/-- The fields of `ztls.Config` that `TLSHandshake` sets. `cipherSuites = none` is a nil list:
the engine's default suites. -/
structure TLSConfig where
  insecureSkipVerify : Bool
  minVersion : UInt16
  maxVersion : UInt16
  rootCAs : Option CertPool
  heartbeatEnabled : Bool
  clientDSAEnabled : Bool
  serverName : Bytes
  cipherSuites : Option (List UInt16)
  forceSuites : Bool
  extendedRandom : Bool
  deriving DecidableEq, Repr

/-- The TLS client `c.tlsConn`: the configuration it was made with, and its deadlines. -/
structure TLSConn where
  config : TLSConfig
  deadlines : Deadlines
  deriving DecidableEq, Repr

/-! ## The result record -/

/-- `SMTPHelpEvent`. -/
structure SMTPHelpEvent where
  response : Bytes
  deriving DecidableEq, Repr

/-- `ztls.Heartbleed`, the log of the probe. -/
structure Heartbleed where
  heartbeatEnabled : Bool
  vulnerable : Bool
  deriving DecidableEq, Repr

/-- `ModbusEvent`, the fields `SendModbusEcho` sets (`ParseSelf` fills the others). -/
structure ModbusEvent where
  length : Nat
  unitID : Nat
  function : UInt8
  response : Bytes
  deriving DecidableEq, Repr

/-- `HTTPRequest`. -/
structure HTTPRequest where
  endpoint : Bytes
  method : Bytes
  userAgent : Bytes
  deriving DecidableEq, Repr

/-- A value of `HTTPResponse.Headers`, a `map[string]interface{}`: a string, or any other
value. -/
inductive HeaderValue
  | str (s : Bytes)
  | other
  deriving DecidableEq, Repr

/-- `HTTPResponse`, without `BodySHA256`. -/
structure HTTPResponse where
  statusCode : Nat
  statusLine : Bytes
  versionMajor : Nat
  versionMinor : Nat
  headers : List (Bytes × HeaderValue)
  body : Bytes
  deriving DecidableEq, Repr

/-- `HTTPRequestResponse`. -/
structure HTTPRequestResponse where
  proxyRequest : Option HTTPRequest
  proxyResponse : Option HTTPResponse
  request : Option HTTPRequest
  response : Option HTTPResponse
  redirectRequests : List HTTPRequest
  redirectResponses : List HTTPResponse
  deriving DecidableEq, Repr

/-- `new(HTTPRequestResponse)`. -/
def HTTPRequestResponse.new : HTTPRequestResponse := ⟨none, none, none, none, [], []⟩

/-- The handshake log of `ssh.Client`, as the bytes it serializes to: this file only stores
it. -/
abbrev SSHHandshakeLog := Bytes

/-- `GrabData`, the fields this file writes. -/
structure GrabData where
  banner : Bytes
  read : Bytes
  write : Bytes
  startTLS : Bytes
  tlsHandshake : Option ServerHandshake
  ehlo : Bytes
  smtpHelp : Option SMTPHelpEvent
  http : Option HTTPRequestResponse
  heartbleed : Option Heartbleed
  modbus : Option ModbusEvent
  ssh : Option SSHHandshakeLog

/-! ## The connection -/

/-- `Conn`. `isTls_eq` is what `TLSHandshake` keeps: the connection is on TLS exactly when it
has a TLS client, so `getUnderlyingConn` never returns a nil client. -/
structure Conn where
  conn : RawConn
  tlsConn : Option TLSConn
  isTls : Bool
  isTls_eq : isTls = tlsConn.isSome
  grabData : GrabData
  maxTlsVersion : UInt16
  readDeadline : Time
  writeDeadline : Time
  caPool : Option CertPool
  onlyDHE : Bool
  onlyExports : Bool
  onlyExportsDH : Bool
  chromeCiphers : Bool
  chromeNoDHE : Bool
  firefoxCiphers : Bool
  firefoxNoDHECiphers : Bool
  safariCiphers : Bool
  safariNoDHECiphers : Bool
  noSNI : Bool
  extendedRandom : Bool
  domain : Bytes

/-- A `GrabData` with nothing recorded. -/
def GrabData.empty : GrabData := ⟨[], [], [], [], none, [], none, none, none, none, none⟩

/-- Modelled from the spec: a connection is made per target over its raw stream; its other
fields hold Go's zero values until the setters run. -/
def Conn.new (conn : RawConn) : Conn where
  conn := conn
  tlsConn := none
  isTls := false
  isTls_eq := rfl
  grabData := .empty
  maxTlsVersion := 0
  readDeadline := 0
  writeDeadline := 0
  caPool := none
  onlyDHE := false
  onlyExports := false
  onlyExportsDH := false
  chromeCiphers := false
  chromeNoDHE := false
  firefoxCiphers := false
  firefoxNoDHECiphers := false
  safariCiphers := false
  safariNoDHECiphers := false
  noSNI := false
  extendedRandom := false
  domain := []

/-- A connection over a stream with no deadline. -/
def freshConn : Conn := Conn.new ⟨⟨0, 0⟩, []⟩

/-- `getUnderlyingConn`. -/
def Conn.getUnderlyingConn (c : Conn) : Layer := activeLayer c.isTls

/-- `c.RemoteAddr().String()`. -/
def Conn.remoteAddr (c : Conn) : Bytes := c.conn.remoteAddr

/-- A call made now on stream `l`. -/
def Conn.call (c : Conn) (l : Layer) (a : Access) : Call := ⟨c.isTls, l, a⟩

/-- The cached deadlines `readDeadline` and `writeDeadline`. -/
def Conn.cached (c : Conn) : Deadlines := ⟨c.readDeadline, c.writeDeadline⟩

/-- The deadlines of the stream `getUnderlyingConn` returns. -/
def Conn.activeDeadlines (c : Conn) : Deadlines :=
  match c.tlsConn with
  | some t => t.deadlines
  | none => c.conn.deadlines

/-- A deadline call on stream `l`, and its effect on that stream. -/
def Conn.applyDeadline (c : Conn) (l : Layer) (a : Access) (t : Time) (err : Option GoError) :
    Conn :=
  match l with
  | .raw => { c with conn := { c.conn with deadlines := c.conn.deadlines.after a t err } }
  | .tls =>
    { c with
      tlsConn := c.tlsConn.map fun s => { s with deadlines := s.deadlines.after a t err }
      isTls_eq := by simp [c.isTls_eq] }

section ApplyDeadline

variable (c : Conn) (l : Layer) (a : Access) (t : Time) (err : Option GoError)

@[simp] theorem Conn.applyDeadline_isTls : (c.applyDeadline l a t err).isTls = c.isTls := by
  cases l <;> rfl

@[simp] theorem Conn.applyDeadline_grabData :
    (c.applyDeadline l a t err).grabData = c.grabData := by
  cases l <;> rfl

@[simp] theorem Conn.applyDeadline_cached : (c.applyDeadline l a t err).cached = c.cached := by
  cases l <;> rfl

@[simp] theorem Conn.applyDeadline_config :
    (c.applyDeadline l a t err).tlsConn.map (·.config) = c.tlsConn.map (·.config) := by
  cases l
  · rfl
  · simp only [Conn.applyDeadline]
    cases c.tlsConn <;> rfl

end ApplyDeadline

@[simp] theorem Conn.call_onActive (c : Conn) (a : Access) :
    (c.call c.getUnderlyingConn a).OnActive := rfl

/-! ## What an operation did -/

/-- The calls an operation made on the streams, in order, then the connection after it and
its Go results, or `none` where the code panics or never returns. -/
structure Outcome (α : Type) where
  calls : List Call
  result : Option (Conn × α)

/-- An operation that returns normally. -/
def Outcome.ret {α : Type} (calls : List Call) (c : Conn) (a : α) : Outcome α :=
  ⟨calls, some (c, a)⟩

/-- Run `k` after `o`, unless `o` panicked. -/
def Outcome.andThen {α β : Type} (o : Outcome α) (k : Conn → α → Outcome β) : Outcome β :=
  match o.result with
  | none => ⟨o.calls, none⟩
  | some (c, a) => ⟨o.calls ++ (k c a).calls, (k c a).result⟩

@[simp] theorem Outcome.ret_calls {α : Type} (calls : List Call) (c : Conn) (a : α) :
    (Outcome.ret calls c a).calls = calls := rfl

@[simp] theorem Outcome.ret_result {α : Type} (calls : List Call) (c : Conn) (a : α) :
    (Outcome.ret calls c a).result = some (c, a) := rfl

@[simp] theorem Outcome.ret_andThen {α β : Type} (calls : List Call) (c : Conn) (a : α)
    (k : Conn → α → Outcome β) :
    (Outcome.ret calls c a).andThen k = ⟨calls ++ (k c a).calls, (k c a).result⟩ := rfl

/-- Go's results of an operation, turned into another form. -/
def Outcome.map {α β : Type} (f : α → β) (o : Outcome α) : Outcome β :=
  ⟨o.calls, o.result.map fun r => (r.1, f r.2)⟩

theorem Outcome.map_result_eq_some {α β : Type} {f : α → β} {o : Outcome α} {c : Conn}
    {b : β} (h : (o.map f).result = some (c, b)) : ∃ a, o.result = some (c, a) ∧ f a = b := by
  simp only [Outcome.map, Option.map_eq_some', Prod.mk.injEq, Prod.exists] at h
  obtain ⟨c', a, h, rfl, rfl⟩ := h
  exact ⟨a, h, rfl⟩

/-- A call of `o.andThen k` is one of `o`'s, or one of `k`'s after `o` returned. -/
theorem Outcome.mem_andThen_calls {α β : Type} {o : Outcome α} {k : Conn → α → Outcome β}
    {x : Call} (h : x ∈ (o.andThen k).calls) :
    x ∈ o.calls ∨ ∃ c a, o.result = some (c, a) ∧ x ∈ (k c a).calls := by
  unfold Outcome.andThen at h
  split at h
  · exact .inl h
  · rename_i c a hr
    exact (List.mem_append.mp h).imp id fun hk => ⟨c, a, hr, hk⟩

theorem Outcome.andThen_result_eq_some {α β : Type} {o : Outcome α}
    {k : Conn → α → Outcome β} {c : Conn} {b : β} (h : (o.andThen k).result = some (c, b)) :
    ∃ c' a, o.result = some (c', a) ∧ (k c' a).result = some (c, b) := by
  unfold Outcome.andThen at h
  split at h
  · cases h
  · exact ⟨_, _, ‹_›, h⟩

/-- `c'` has the streams, the cached deadlines and the TLS state of `c`. -/
structure Conn.Keeps (c c' : Conn) : Prop where
  isTls : c'.isTls = c.isTls
  tlsConn : c'.tlsConn = c.tlsConn
  conn : c'.conn = c.conn
  cached : c'.cached = c.cached
  tlsHandshake : c'.grabData.tlsHandshake = c.grabData.tlsHandshake

theorem Conn.Keeps.refl (c : Conn) : c.Keeps c := ⟨rfl, rfl, rfl, rfl, rfl⟩

theorem Conn.Keeps.trans {c c' c'' : Conn} (h : c.Keeps c') (h' : c'.Keeps c'') : c.Keeps c'' :=
  ⟨h'.1.trans h.1, h'.2.trans h.2, h'.3.trans h.3, h'.4.trans h.4, h'.5.trans h.5⟩

/-- A call on the active stream that is not the making of a TLS client. -/
def Call.Plain (k : Call) : Prop := k.OnActive ∧ k.access ≠ .wrap

/-- An operation from `c` that makes only plain calls and keeps `c`'s streams, cache and TLS
state in every connection it returns: every operation but the upgrades, the deadline setters
and `SSHHandshake`. -/
structure Outcome.Plain {α : Type} (c : Conn) (o : Outcome α) : Prop where
  calls : ∀ k ∈ o.calls, k.Plain
  keeps : ∀ c' a, o.result = some (c', a) → c.Keeps c'

theorem Outcome.Plain.ret {α : Type} {c c' : Conn} {calls : List Call} (a : α)
    (keeps : c.Keeps c') (plain : ∀ k ∈ calls, k.Plain) : (Outcome.ret calls c' a).Plain c :=
  ⟨plain, fun _ _ h => by
    obtain ⟨rfl, -⟩ := Prod.mk.inj (Option.some.inj h)
    exact keeps⟩

/-- One plain call on the active stream, then the operation's own results. -/
theorem Outcome.Plain.active {α : Type} {c c' : Conn} (a : α) (access : Access)
    (keeps : c.Keeps c') (notWrap : access ≠ .wrap) :
    (Outcome.ret [c.call c.getUnderlyingConn access] c' a).Plain c :=
  .ret a keeps (by simpa [Call.Plain] using notWrap)

theorem Outcome.Plain.panic {α : Type} {c : Conn} {calls : List Call}
    (plain : ∀ k ∈ calls, k.Plain) : (⟨calls, none⟩ : Outcome α).Plain c :=
  ⟨plain, by simp⟩

theorem Outcome.Plain.andThen {α β : Type} {c : Conn} {o : Outcome α}
    {k : Conn → α → Outcome β} (first : o.Plain c)
    (rest : ∀ c' a, o.result = some (c', a) → (k c' a).Plain c') :
    (o.andThen k).Plain c := by
  unfold Outcome.andThen
  split
  · exact .panic first.calls
  · rename_i c' a h
    have hk := rest c' a h
    refine ⟨?_, fun c'' b hb => (first.keeps c' a h).trans (hk.keeps c'' b hb)⟩
    simpa using fun k hk' => hk'.elim (first.calls k) (hk.calls k)

/-- Plain work from a connection that plain work left is plain from the start. -/
theorem Outcome.Plain.keeps_from {α : Type} {c c₁ : Conn} {o : Outcome α} (h : o.Plain c₁)
    (keeps : c.Keeps c₁) : o.Plain c :=
  ⟨h.calls, fun c' a hr => keeps.trans (h.keeps c' a hr)⟩

theorem Outcome.Plain.map {α β : Type} {c : Conn} {o : Outcome α} (f : α → β)
    (h : o.Plain c) : (o.map f).Plain c :=
  ⟨h.calls, by
    simp only [Outcome.map, Option.map_eq_some', Prod.exists]
    rintro c' b ⟨_, a, ha, rfl, -⟩
    exact h.keeps _ a ha⟩

/-! ## Configuration setters -/

/-- The flags the configuration setters raise. -/
inductive Flag
  | onlyDHE
  | onlyExports
  | onlyExportsDH
  | chromeCiphers
  | chromeNoDHE
  | firefoxCiphers
  | firefoxNoDHECiphers
  | safariCiphers
  | safariNoDHECiphers
  | noSNI
  | extendedRandom
  deriving DecidableEq, Repr

/-- The setters of `conn.go`'s flags: each sets its own flag to `true`. -/
def Conn.setFlag (f : Flag) (c : Conn) : Conn :=
  match f with
  | .onlyDHE => { c with onlyDHE := true }
  | .onlyExports => { c with onlyExports := true }
  | .onlyExportsDH => { c with onlyExportsDH := true }
  | .chromeCiphers => { c with chromeCiphers := true }
  | .chromeNoDHE => { c with chromeNoDHE := true }
  | .firefoxCiphers => { c with firefoxCiphers := true }
  | .firefoxNoDHECiphers => { c with firefoxNoDHECiphers := true }
  | .safariCiphers => { c with safariCiphers := true }
  | .safariNoDHECiphers => { c with safariNoDHECiphers := true }
  | .noSNI => { c with noSNI := true }
  | .extendedRandom => { c with extendedRandom := true }

/-- `SetDHEOnly`. -/
def Conn.setDHEOnly (c : Conn) : Conn := c.setFlag .onlyDHE
/-- `SetExportsOnly`. -/
def Conn.setExportsOnly (c : Conn) : Conn := c.setFlag .onlyExports
/-- `SetExportsDHOnly`. -/
def Conn.setExportsDHOnly (c : Conn) : Conn := c.setFlag .onlyExportsDH
/-- `SetChromeCiphers`. -/
def Conn.setChromeCiphers (c : Conn) : Conn := c.setFlag .chromeCiphers
/-- `SetChromeNoDHECiphers`. -/
def Conn.setChromeNoDHECiphers (c : Conn) : Conn := c.setFlag .chromeNoDHE
/-- `SetFirefoxCiphers`. -/
def Conn.setFirefoxCiphers (c : Conn) : Conn := c.setFlag .firefoxCiphers
/-- `SetFirefoxNoDHECiphers`. -/
def Conn.setFirefoxNoDHECiphers (c : Conn) : Conn := c.setFlag .firefoxNoDHECiphers
/-- `SetSafariCiphers`. -/
def Conn.setSafariCiphers (c : Conn) : Conn := c.setFlag .safariCiphers
/-- `SetSafariNoDHECiphers`. -/
def Conn.setSafariNoDHECiphers (c : Conn) : Conn := c.setFlag .safariNoDHECiphers
/-- `SetNoSNI`. -/
def Conn.setNoSNI (c : Conn) : Conn := c.setFlag .noSNI
/-- `SetExtendedRandom`. -/
def Conn.setExtendedRandom (c : Conn) : Conn := c.setFlag .extendedRandom

/-- `SetCAPool`. -/
def Conn.setCAPool (c : Conn) (pool : Option CertPool) : Conn := { c with caPool := pool }

/-- `SetDomain`. -/
def Conn.setDomain (c : Conn) (domain : Bytes) : Conn := { c with domain := domain }

/-! ## Deadlines and plain I/O -/

/-- `SetDeadline`, `SetReadDeadline` and `SetWriteDeadline`: cache the new deadline, then set it
on the stream `getUnderlyingConn` returns, whose call gives `err`. -/
def Conn.setDeadlineBy (a : Access) (c : Conn) (t : Time) (err : Option GoError) :
    Outcome (Option GoError) :=
  let cache := c.cached.after a t none
  let c := { c with readDeadline := cache.read, writeDeadline := cache.write }
  .ret [c.call c.getUnderlyingConn a] (c.applyDeadline c.getUnderlyingConn a t err) err

/-- `SetDeadline`. -/
def Conn.setDeadline : Conn → Time → Option GoError → Outcome (Option GoError) :=
  Conn.setDeadlineBy .setDeadline
/-- `SetReadDeadline`. -/
def Conn.setReadDeadline : Conn → Time → Option GoError → Outcome (Option GoError) :=
  Conn.setDeadlineBy .setReadDeadline
/-- `SetWriteDeadline`. -/
def Conn.setWriteDeadline : Conn → Time → Option GoError → Outcome (Option GoError) :=
  Conn.setDeadlineBy .setWriteDeadline

/-- What a `Write` call returns. -/
structure WriteOutcome where
  n : Nat
  err : Option GoError
  deriving DecidableEq, Repr

/-- What a `Read` call returns: the bytes it put at the front of the buffer (`n` is their
length) and its error. -/
structure ReadOutcome where
  data : Bytes
  err : Option GoError
  deriving DecidableEq, Repr

/-- `Write(b)`: write on the active stream and record `b[0:n]`. -/
def Conn.write (c : Conn) (b : Bytes) (o : WriteOutcome) : Outcome (Nat × Option GoError) :=
  match sliceTo b o.n with
  | none => ⟨[c.call c.getUnderlyingConn (.write b)], none⟩
  | some s =>
    .ret [c.call c.getUnderlyingConn (.write b)]
      { c with grabData := { c.grabData with write := s } } (o.n, o.err)

/-- `BasicBanner()`: read into a 1024-byte buffer and record what came. -/
def Conn.basicBanner (c : Conn) (o : ReadOutcome) : Outcome (Bytes × Option GoError) :=
  match sliceTo (goCopy (makeBytes 1024) o.data) o.data.length with
  | none => ⟨[c.call c.getUnderlyingConn .read], none⟩
  | some s =>
    .ret [c.call c.getUnderlyingConn .read]
      { c with grabData := { c.grabData with banner := s } } (s, o.err)

/-- `Read(b)`: read into the caller's buffer and record `b[0:n]`. -/
def Conn.read (c : Conn) (b : Bytes) (o : ReadOutcome) : Outcome (Nat × Option GoError) :=
  match sliceTo (goCopy b o.data) o.data.length with
  | none => ⟨[c.call c.getUnderlyingConn .read], none⟩
  | some s =>
    .ret [c.call c.getUnderlyingConn .read]
      { c with grabData := { c.grabData with read := s } } (o.data.length, o.err)

/-- `Close()`. -/
def Conn.close (c : Conn) (err : Option GoError) : Outcome (Option GoError) :=
  .ret [c.call c.getUnderlyingConn .close] c err

theorem Conn.call_plain (c : Conn) {access : Access} (notWrap : access ≠ .wrap) :
    (c.call c.getUnderlyingConn access).Plain :=
  ⟨rfl, notWrap⟩

section PlainIO

variable (c : Conn)

theorem write_plain (b : Bytes) (o : WriteOutcome) : (c.write b o).Plain c := by
  unfold Conn.write
  split
  · exact .panic (by simpa using c.call_plain (by simp))
  · exact .active _ _ ⟨rfl, rfl, rfl, rfl, rfl⟩ (by simp)

theorem basicBanner_plain (o : ReadOutcome) : (c.basicBanner o).Plain c := by
  unfold Conn.basicBanner
  split
  · exact .panic (by simpa using c.call_plain (by simp))
  · exact .active _ _ ⟨rfl, rfl, rfl, rfl, rfl⟩ (by simp)

theorem read_plain (b : Bytes) (o : ReadOutcome) : (c.read b o).Plain c := by
  unfold Conn.read
  split
  · exact .panic (by simpa using c.call_plain (by simp))
  · exact .active _ _ ⟨rfl, rfl, rfl, rfl, rfl⟩ (by simp)

theorem close_plain (err : Option GoError) : (c.close err).Plain c :=
  .active _ _ (.refl c) (by simp)

/-- The configuration setters change no stream and no TLS state. -/
theorem setFlag_keeps (f : Flag) : c.Keeps (c.setFlag f) := by
  cases f <;> exact ⟨rfl, rfl, rfl, rfl, rfl⟩

end PlainIO

/-! ## The TLS handshake -/

/-- The `ztls` suite lists `TLSHandshake` chooses from. -/
structure CipherSuites where
  dheCiphers : List UInt16
  rsa512ExportCiphers : List UInt16
  dheExportCiphers : List UInt16
  chromeCiphers : List UInt16
  chromeNoDHECiphers : List UInt16
  firefoxCiphers : List UInt16
  firefoxNoDHECiphers : List UInt16
  safariCiphers : List UInt16
  safariNoDHECiphers : List UInt16

/-- `ztls.VersionSSL30`. -/
def versionSSL30 : UInt16 := 0x0300

/-- The `tlsConfig` that `TLSHandshake` builds. Each set flag overwrites the suite list, in the
order the code tests them. -/
def Conn.tlsConfig (suites : CipherSuites) (c : Conn) : TLSConfig :=
  let cs : Option (List UInt16) := none
  let cs := if c.onlyDHE then some suites.dheCiphers else cs
  let cs := if c.onlyExports then some suites.rsa512ExportCiphers else cs
  let cs := if c.onlyExportsDH then some suites.dheExportCiphers else cs
  let cs := if c.chromeCiphers then some suites.chromeCiphers else cs
  let cs := if c.chromeNoDHE then some suites.chromeNoDHECiphers else cs
  let cs := if c.firefoxCiphers then some suites.firefoxCiphers else cs
  let cs := if c.firefoxNoDHECiphers then some suites.firefoxNoDHECiphers else cs
  let cs := if c.safariCiphers then some suites.safariCiphers else cs
  let force := c.safariCiphers
  let cs := if c.safariNoDHECiphers then some suites.safariNoDHECiphers else cs
  let force := if c.safariNoDHECiphers then true else force
  { insecureSkipVerify := true
    minVersion := versionSSL30
    maxVersion := c.maxTlsVersion
    rootCAs := c.caPool
    heartbeatEnabled := true
    clientDSAEnabled := true
    serverName := if !c.noSNI && !c.domain.isEmpty then c.domain else []
    cipherSuites := cs
    forceSuites := force
    extendedRandom := c.extendedRandom }

/-- What the `ztls` engine gives `TLSHandshake`: the new client's deadlines before they are
set, the errors of the two deadline calls and of `Handshake()`, and `GetHandshakeLog()`. -/
structure HandshakeOutcome where
  initial : Deadlines
  setReadErr : Option GoError
  setWriteErr : Option GoError
  err : Option GoError
  log : Option ServerHandshake

/-- The error of a second `TLSHandshake`. -/
def repeatHandshakeError (c : Conn) : GoError :=
  .msg (ascii "Attempted repeat handshake with remote host " ++ c.remoteAddr)

/-- The error `TLSHandshake` returns for the engine's error: a suite mismatch under forced
suites is the measurement, not a failure. -/
def handshakeError (config : TLSConfig) (err : Option GoError) : Option GoError :=
  if config.forceSuites ∧ err = some .unimplementedCipher then none else err

/-- The TLS client `TLSHandshake` makes, once its two deadline calls are done. -/
def Conn.newTLSConn (suites : CipherSuites) (c : Conn) (o : HandshakeOutcome) : TLSConn :=
  ⟨c.tlsConfig suites,
    (o.initial.after .setReadDeadline c.readDeadline o.setReadErr).after .setWriteDeadline
      c.writeDeadline o.setWriteErr⟩

/-- `TLSHandshake()`. -/
def Conn.tlsHandshake (suites : CipherSuites) (c : Conn) (o : HandshakeOutcome) :
    Outcome (Option GoError) :=
  if c.isTls then .ret [] c (some (repeatHandshakeError c))
  else
    let c' : Conn :=
      { c with
        tlsConn := some (c.newTLSConn suites o)
        isTls := true
        isTls_eq := rfl
        grabData := { c.grabData with tlsHandshake := o.log } }
    .ret [c.call .raw .wrap, c.call .tls .setReadDeadline, c.call .tls .setWriteDeadline,
        c'.call .tls .handshake]
      c' (handshakeError (c.tlsConfig suites) o.err)

section Handshake

variable (suites : CipherSuites) (c : Conn) (o : HandshakeOutcome)

theorem tlsHandshake_of_isTls (h : c.isTls = true) :
    c.tlsHandshake suites o = .ret [] c (some (repeatHandshakeError c)) := if_pos h

/-- A first handshake: whatever the engine answers, the connection is on the new client, whose
deadlines are the cached ones when both calls succeed, and the log is the engine's. -/
theorem tlsHandshake_of_plain (h : c.isTls = false) :
    ∃ c', c.tlsHandshake suites o =
        .ret [⟨false, .raw, .wrap⟩, ⟨false, .tls, .setReadDeadline⟩,
          ⟨false, .tls, .setWriteDeadline⟩, ⟨true, .tls, .handshake⟩]
          c' (handshakeError (c.tlsConfig suites) o.err) ∧
      c'.isTls = true ∧ c'.tlsConn = some (c.newTLSConn suites o) ∧
      c'.grabData.tlsHandshake = o.log ∧ c'.conn = c.conn ∧ c'.cached = c.cached := by
  cases c
  dsimp only at h
  subst h
  exact ⟨_, rfl, rfl, rfl, rfl, rfl, rfl⟩

end Handshake

/-! ## Operations that may upgrade -/

/-- An operation from `c` that does plain work, and then possibly `TLSHandshake`, with the
engine's outcome `ho`, from the connection that work left. -/
def Outcome.Upgrades (suites : CipherSuites) (c : Conn) (ho : HandshakeOutcome)
    (o : Outcome (Option GoError)) : Prop :=
  o.Plain c ∨ ∃ pre c₁, (∀ k ∈ pre, k.Plain) ∧ c.Keeps c₁ ∧
    o = ⟨pre ++ (c₁.tlsHandshake suites ho).calls, (c₁.tlsHandshake suites ho).result⟩

/-- `TLSHandshake` from a connection that plain work left. -/
theorem Outcome.Upgrades.handshake_of_keeps {suites : CipherSuites} {c c₁ : Conn}
    (ho : HandshakeOutcome) (keeps : c.Keeps c₁) :
    (c₁.tlsHandshake suites ho).Upgrades suites c ho :=
  .inr ⟨[], c₁, by simp, keeps, rfl⟩

theorem Outcome.Upgrades.andThen {suites : CipherSuites} {c : Conn} {ho : HandshakeOutcome}
    {α : Type} {o : Outcome α} {k : Conn → α → Outcome (Option GoError)} (first : o.Plain c)
    (rest : ∀ c' a, o.result = some (c', a) → (k c' a).Upgrades suites c' ho) :
    (o.andThen k).Upgrades suites c ho := by
  unfold Outcome.andThen
  split
  · exact .inl (.panic first.calls)
  · rename_i c' a h
    rcases rest c' a h with plain | ⟨pre, c₁, hpre, keeps, eq⟩
    · refine .inl ⟨?_, fun c'' b hb => (first.keeps c' a h).trans (plain.keeps c'' b hb)⟩
      simpa using fun k hk => hk.elim (first.calls k) (plain.calls k)
    · refine .inr ⟨o.calls ++ pre, c₁, ?_, (first.keeps c' a h).trans keeps,
        by rw [eq]; simp⟩
      simpa using fun k hk => hk.elim (first.calls k) (hpre k)

/-- An operation that may upgrade leaves the cached deadlines as they were. -/
theorem Outcome.Upgrades.cached {suites : CipherSuites} {c : Conn} {ho : HandshakeOutcome}
    {o : Outcome (Option GoError)} (h : o.Upgrades suites c ho) :
    ∀ c' a, o.result = some (c', a) → c'.cached = c.cached := by
  rcases h with plain | ⟨pre, c₁, -, keeps, rfl⟩
  · exact fun c' a h => (plain.keeps c' a h).cached
  intro c' a h
  cases h₁ : c₁.isTls
  · obtain ⟨c₂, hhs, -, -, -, -, cached⟩ := tlsHandshake_of_plain suites c₁ ho h₁
    rw [hhs] at h
    obtain ⟨rfl, -⟩ := Prod.mk.inj (Option.some.inj h)
    exact cached.trans keeps.cached
  · rw [tlsHandshake_of_isTls suites c₁ ho h₁] at h
    obtain ⟨rfl, -⟩ := Prod.mk.inj (Option.some.inj h)
    exact keeps.cached

/-- With both deadline calls successful, the new client starts with the cached deadlines. -/
theorem newTLSConn_deadlines (suites : CipherSuites) (c : Conn) (o : HandshakeOutcome)
    (readSet : o.setReadErr = none) (writeSet : o.setWriteErr = none) :
    (c.newTLSConn suites o).deadlines = c.cached := by
  simp [Conn.newTLSConn, Deadlines.after, readSet, writeSet, Conn.cached]

end TlsBannerGrab.Zlib
