import TlsBannerGrab.Ztls.KeyExchange

/-!
# The handshake recorder (`ztls`)

`MakeLog` turns each server handshake message into its logged form by copying its byte
strings into freshly made slices (`make` then `copy`), and `setSkx` records the server key
exchange: the raw key always, and the decoded parameters of the one key-exchange family the
negotiated suite belongs to when that family's decoder accepts the key.

* `makeLog_copies` — every logged byte string equals the message's, and the certificate chain
  is logged entry for entry, in order;
* `setSkx_selects` — on a log with no decoded parameters yet, `setSkx` never panics, records the
  key, and fills at most one parameter field: the one of the first family listing the suite,
  exactly when its decoder accepts, with complete parameters.
-/

namespace TlsBannerGrab.Ztls

open TlsBannerGrab.Go

/-! ## Messages and their logs -/

/-- `serverHelloMsg`, the fields `MakeLog` reads. -/
structure serverHelloMsg where
  vers : UInt16
  random : Bytes
  sessionId : Bytes
  cipherSuite : UInt16
  compressionMethod : UInt8
  ocspStapling : Bool
  ticketSupported : Bool
  secureRenegotiation : Bool
  heartbeatEnabled : Bool
  deriving DecidableEq, Repr

/-- `certificateMsg`: the raw certificate chain. -/
structure certificateMsg where
  certificates : List Bytes
  deriving DecidableEq, Repr

/-- `serverKeyExchangeMsg`: the raw key-exchange blob. -/
structure serverKeyExchangeMsg where
  key : Bytes
  deriving DecidableEq, Repr

/-- `finishedMsg`. -/
structure finishedMsg where
  verifyData : Bytes
  deriving DecidableEq, Repr

/-- `ServerHello`, the logged server hello. -/
structure ServerHello where
  version : UInt16
  random : Bytes
  sessionID : Bytes
  cipherSuite : UInt16
  compressionMethod : UInt8
  ocspStapling : Bool
  ticketSupported : Bool
  secureRenegotiation : Bool
  heartbeatSupported : Bool
  deriving DecidableEq, Repr

/-- `Certificates`, the logged chain (`ParsedCertificates` is filled by the certificate parser,
not by the recorder). -/
structure Certificates where
  certificates : List Bytes
  deriving DecidableEq, Repr

/-- `ServerKeyExchange`. -/
structure ServerKeyExchange where
  key : Bytes
  deriving DecidableEq, Repr

/-- `Finished`. -/
structure Finished where
  verifyData : Bytes
  deriving DecidableEq, Repr

/-- `ServerHandshake`: every message the server sent, each field a pointer (`none` is nil). -/
structure ServerHandshake where
  serverHello : Option ServerHello
  serverCertificates : Option Certificates
  serverKeyExchange : Option ServerKeyExchange
  rsaExportParams : Option RSAExportParams
  dhExportParams : Option DHParams
  dhParams : Option DHParams
  serverFinished : Option Finished
  deriving DecidableEq, Repr

/-- `(*serverHelloMsg).MakeLog`. -/
def serverHelloMsg.makeLog (m : serverHelloMsg) : ServerHello :=
  { version := m.vers
    random := goCopy (makeBytes m.random.length) m.random
    sessionID := goCopy (makeBytes m.sessionId.length) m.sessionId
    cipherSuite := m.cipherSuite
    compressionMethod := m.compressionMethod
    ocspStapling := m.ocspStapling
    ticketSupported := m.ticketSupported
    secureRenegotiation := m.secureRenegotiation
    heartbeatSupported := m.heartbeatEnabled }

/-- One turn of the loop of `(*certificateMsg).MakeLog`:
`sc.Certificates[idx] = make([]byte, len(cert)); copy(sc.Certificates[idx], cert)`. -/
def copyCertificate (certs : List Bytes) (entry : Nat × Bytes) : List Bytes :=
  certs.set entry.1 (goCopy (makeBytes entry.2.length) entry.2)

/-- `(*certificateMsg).MakeLog`: `make([][]byte, n)` of nil slices, then the copy loop. -/
def certificateMsg.makeLog (m : certificateMsg) : Certificates :=
  ⟨m.certificates.enum.foldl copyCertificate (List.replicate m.certificates.length [])⟩

/-- `(*serverKeyExchangeMsg).MakeLog`. -/
def serverKeyExchangeMsg.makeLog (m : serverKeyExchangeMsg) : ServerKeyExchange :=
  ⟨goCopy (makeBytes m.key.length) m.key⟩

/-- `(*finishedMsg).MakeLog`. -/
def finishedMsg.makeLog (m : finishedMsg) : Finished :=
  ⟨goCopy (makeBytes m.verifyData.length) m.verifyData⟩

/-- The copy loop's invariant: after the entries before index `pre.length`, the slots already
visited hold their certificates and the rest are still nil. -/
theorem foldl_copyCertificate (pre rest : List Bytes) :
    (rest.enumFrom pre.length).foldl copyCertificate (pre ++ List.replicate rest.length []) =
      pre ++ rest := by
  induction rest generalizing pre with
  | nil => simp
  | cons cert rest ih =>
    rw [List.enumFrom_cons, List.foldl_cons]
    have hstep : copyCertificate (pre ++ List.replicate (rest.length + 1) []) (pre.length, cert)
        = (pre ++ [cert]) ++ List.replicate rest.length [] := by
      simp [copyCertificate, List.replicate_succ, List.set_append_right]
    rw [List.length_cons, hstep, show pre.length + 1 = (pre ++ [cert]).length by simp, ih]
    simp

/-- **Recorder copies.** Each `MakeLog` logs its message's byte strings unchanged, and the
certificate chain entry for entry: no certificate is dropped, duplicated, padded, truncated
or reordered. -/
theorem makeLog_copies (hello : serverHelloMsg) (certs : certificateMsg)
    (skx : serverKeyExchangeMsg) (fin : finishedMsg) :
    hello.makeLog.random = hello.random ∧ hello.makeLog.sessionID = hello.sessionId ∧
    skx.makeLog.key = skx.key ∧ fin.makeLog.verifyData = fin.verifyData ∧
    certs.makeLog.certificates = certs.certificates := by
  refine ⟨goCopy_makeBytes _, goCopy_makeBytes _, goCopy_makeBytes _, goCopy_makeBytes _, ?_⟩
  simpa using foldl_copyCertificate [] certs.certificates

/-! ## Recording the server key exchange -/

/-- `new(ServerHandshake)`: nothing recorded yet. -/
def ServerHandshake.new : ServerHandshake := ⟨none, none, none, none, none, none, none⟩

/-- The `ztls` cipher-suite tables `setSkx` consults. They are defined outside this
repository, so they are parameters of the recorder. -/
structure CipherFamilies where
  rsaExportCiphers : List UInt16
  dheExportCiphers : List UInt16
  dheCiphers : List UInt16

/-- Modelled from the spec: `cipherInList`, membership of a suite in a family "is a static
lookup". -/
def cipherInList (cipher : UInt16) (list : List UInt16) : Bool := decide (cipher ∈ list)

/-- `new(DHParams)`. -/
def DHParams.new : DHParams := ⟨none, none, none⟩

/-- `(*ServerHandshake).setSkx`. `rsaUnmarshal` is `(*rsaExportParams).unmarshal`, defined
outside this repository: `some` the decoded parameters when it returns `true`. `none` is a Go
panic. -/
def ServerHandshake.setSkx (tables : CipherFamilies)
    (rsaUnmarshal : Bytes → Option TlsBannerGrab.Ztls.rsaExportParams)
    (hs : ServerHandshake) (skx : serverKeyExchangeMsg) (cipher : UInt16) :
    Option ServerHandshake :=
  let hs := { hs with serverKeyExchange := some skx.makeLog }
  if cipherInList cipher tables.rsaExportCiphers then
    match rsaUnmarshal skx.key with
    | some p => some { hs with rsaExportParams := some p.makeLog }
    | none => some hs
  else if cipherInList cipher tables.dheExportCiphers then do
    let (ok, p) ← DHParams.new.unmarshal skx.key
    if ok then some { hs with dhExportParams := some p } else some hs
  else if cipherInList cipher tables.dheCiphers then do
    let (ok, p) ← DHParams.new.unmarshal skx.key
    if ok then some { hs with dhParams := some p } else some hs
  else some hs

/-- The key-exchange family of a negotiated suite: the first of the three tables listing it. -/
inductive KexFamily
  | rsaExport
  | dheExport
  | dhe
  | other
  deriving DecidableEq, Repr

/-- Which family `setSkx` dispatches `cipher` to. -/
def kexFamily (tables : CipherFamilies) (cipher : UInt16) : KexFamily :=
  if cipher ∈ tables.rsaExportCiphers then .rsaExport
  else if cipher ∈ tables.dheExportCiphers then .dheExport
  else if cipher ∈ tables.dheCiphers then .dhe
  else .other

/-- `q` is what the DH decoder makes of `key`: the three fields of an accepted layout. -/
def DHDecodes (key : Bytes) (q : DHParams) : Prop :=
  ∃ p g ys rest, DHWire p g ys rest key ∧
    q = ⟨some (bigEndian p), some (bigEndian g), some (bigEndian ys)⟩

/-- `q` is complete: `MarshalJSON` finds all three integers. -/
theorem DHDecodes.marshalJSON_isSome {key : Bytes} {q : DHParams} (h : DHDecodes key q) :
    q.marshalJSON.isSome := by
  obtain ⟨p, g, ys, rest, -, rfl⟩ := h
  exact (marshalJSON_isSome_iff _).mpr ⟨rfl, rfl, rfl⟩

/-- The DH decoder on a fresh receiver: it never panics, and it accepts with `q` exactly when
`q` is the decoding of the key. -/
theorem unmarshal_new (key : Bytes) :
    ∃ ok q, DHParams.new.unmarshal key = some (ok, q) ∧
      ∀ q', (ok = true ∧ q = q') ↔ DHDecodes key q' := by
  obtain ⟨⟨ok, q⟩, h⟩ := unmarshal_exists DHParams.new key
  obtain ⟨-, spec⟩ := unmarshal_accepts_iff DHParams.new key
  obtain ⟨hok, hval⟩ := spec ok q h
  refine ⟨ok, q, h, fun q' => ⟨?_, ?_⟩⟩
  · rintro ⟨rfl, rfl⟩
    obtain ⟨p, g, ys, rest, hw⟩ := hok.mp rfl
    exact ⟨p, g, ys, rest, hw, (hval p g ys rest hw).1⟩
  · rintro ⟨p, g, ys, rest, hw, rfl⟩
    exact ⟨hok.mpr ⟨p, g, ys, rest, hw⟩, (hval p g ys rest hw).1⟩

/-- **Key-exchange recording.** On a log with no decoded parameters yet, `setSkx` never panics,
records the raw key, and sets a parameter field only for the family of the first table listing
the suite, only when that family's decoder accepts the key, and then to exactly the decoded
values; decoded DH parameters are complete, so serialising them cannot hit a nil integer. -/
theorem setSkx_selects (tables : CipherFamilies)
    (rsaUnmarshal : Bytes → Option TlsBannerGrab.Ztls.rsaExportParams)
    (hs : ServerHandshake) (skx : serverKeyExchangeMsg) (cipher : UInt16)
    (noRSA : hs.rsaExportParams = none) (noDHExport : hs.dhExportParams = none)
    (noDH : hs.dhParams = none) :
    ∃ hs', hs.setSkx tables rsaUnmarshal skx cipher = some hs' ∧
      hs'.serverKeyExchange = some ⟨skx.key⟩ ∧
      (∀ r, hs'.rsaExportParams = some r ↔ kexFamily tables cipher = .rsaExport ∧
        ∃ raw, rsaUnmarshal skx.key = some raw ∧ r = raw.makeLog) ∧
      (∀ q, hs'.dhExportParams = some q ↔
        kexFamily tables cipher = .dheExport ∧ DHDecodes skx.key q) ∧
      (∀ q, hs'.dhParams = some q ↔ kexFamily tables cipher = .dhe ∧ DHDecodes skx.key q) ∧
      (∀ q, hs'.dhExportParams = some q ∨ hs'.dhParams = some q → q.marshalJSON.isSome) := by
  obtain ⟨ok, q0, hun, hdec⟩ := unmarshal_new skx.key
  have hkey : skx.makeLog = ⟨skx.key⟩ := by simp [serverKeyExchangeMsg.makeLog]
  simp only [ServerHandshake.setSkx, kexFamily, cipherInList, decide_eq_true_eq, hun, hkey]
  by_cases hRSA : cipher ∈ tables.rsaExportCiphers
  · -- export RSA: the RSA decoder alone decides
    cases hr : rsaUnmarshal skx.key
    · simp [hRSA, hr, noRSA, noDHExport, noDH]
    · simpa [hRSA, hr, noRSA, noDHExport, noDH] using fun r => eq_comm
  by_cases hDHE : cipher ∈ tables.dheExportCiphers
  · -- export DHE: the DH decoder fills `DHExportParams` or nothing
    cases ok <;> simp_all
    exact fun _ => DHDecodes.marshalJSON_isSome
  by_cases hDH : cipher ∈ tables.dheCiphers
  · -- DHE: the DH decoder fills `DHParams` or nothing
    cases ok <;> simp_all
    exact fun _ => DHDecodes.marshalJSON_isSome
  simp_all

/-- A DHE suite and a well-formed key on a fresh log. -/
theorem setSkx_selects_new_log :
    ServerHandshake.new.rsaExportParams = none ∧ ServerHandshake.new.dhExportParams = none ∧
    ServerHandshake.new.dhParams = none ∧
    ∃ hs', ServerHandshake.new.setSkx ⟨[3], [17], [51]⟩ (fun _ => none)
        ⟨[0, 1, 23, 0, 1, 2, 0, 1, 5]⟩ 51 = some hs' ∧
      hs'.serverKeyExchange = some ⟨[0, 1, 23, 0, 1, 2, 0, 1, 5]⟩ ∧
      (∀ r, hs'.rsaExportParams = some r ↔ kexFamily ⟨[3], [17], [51]⟩ 51 = .rsaExport ∧
        ∃ raw, (fun _ => none : Bytes → Option rsaExportParams) [0, 1, 23, 0, 1, 2, 0, 1, 5] =
          some raw ∧ r = raw.makeLog) ∧
      (∀ q, hs'.dhExportParams = some q ↔
        kexFamily ⟨[3], [17], [51]⟩ 51 = .dheExport ∧
          DHDecodes [0, 1, 23, 0, 1, 2, 0, 1, 5] q) ∧
      (∀ q, hs'.dhParams = some q ↔
        kexFamily ⟨[3], [17], [51]⟩ 51 = .dhe ∧ DHDecodes [0, 1, 23, 0, 1, 2, 0, 1, 5] q) ∧
      (∀ q, hs'.dhExportParams = some q ∨ hs'.dhParams = some q → q.marshalJSON.isSome) :=
  ⟨rfl, rfl, rfl, setSkx_selects _ _ ServerHandshake.new _ _ rfl rfl rfl⟩

end TlsBannerGrab.Ztls
