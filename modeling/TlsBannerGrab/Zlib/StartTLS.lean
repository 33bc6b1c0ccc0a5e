import TlsBannerGrab.Zlib.Conn
import TlsBannerGrab.Zlib.Framing

/-!
# STARTTLS, banners and the SMTP commands (`zlib/conn.go`)

The three STARTTLS upgrades are one procedure with four parameters: the command, the framed
read of the reply, the size of the reply buffer and the test of the reply. `sendStartTLSCommand`
writes the command on the raw stream and refuses once the connection is on TLS; the reply is
read by `util.ReadUntilRegex`, which lives outside this repository, so what it puts in the
buffer and its error are the environment's.

* `smtpCheck_spec` — the SMTP test `strconv.Atoi(s[0:3])` in `[200, 300)` after `n >= 5`
  accepts exactly the replies of at least five bytes that start with `2` and two ASCII digits,
  and never slices out of range;
* `startTLSHandshake_decides` — for any test with that shape of specification, the upgrade goes
  on to `TLSHandshake` exactly when the write succeeded, the read returned no error and the
  reply passes; otherwise it returns an error, still on the raw stream, with no TLS client made
  and the handshake log untouched.
-/

namespace TlsBannerGrab.Zlib

open TlsBannerGrab.Go TlsBannerGrab.Ztls

/-! ## Commands and framed reads -/

/-- `SMTP_COMMAND`. -/
def smtpCommand : Bytes := ascii "STARTTLS\r\n"

/-- `POP3_COMMAND`. -/
def pop3Command : Bytes := ascii "STLS\r\n"

/-- `IMAP_COMMAND`. -/
def imapCommand : Bytes := ascii "a001 STARTTLS\r\n"

/-- The error of `sendStartTLSCommand` on a connection already on TLS. -/
def startTLSAfterTLSError (c : Conn) : GoError :=
  .msg (ascii "Attempt STARTTLS after TLS handshake with remote host " ++ c.remoteAddr)

/-- `sendStartTLSCommand(command)`: the command goes on the raw stream `c.conn`; `writeErr` is
the error of that write (its count is discarded). -/
def Conn.sendStartTLSCommand (c : Conn) (command : Bytes) (writeErr : Option GoError) :
    Outcome (Option GoError) :=
  if c.isTls then .ret [] c (some (startTLSAfterTLSError c))
  else .ret [c.call .raw (.write command)] c writeErr

/-- `readSmtpResponse`, `readPop3Response` and `readImapStatusResponse`: `util.ReadUntilRegex`
on the active stream, into `res`. The result is the buffer after the call, `n` and the error. -/
def Conn.readResponse (expr : Regexp) (c : Conn) (res : Bytes) (o : ReadOutcome) :
    Outcome (Bytes × Nat × Option GoError) :=
  .ret [c.call c.getUnderlyingConn (.readUntil expr)] c (goCopy res o.data, o.data.length, o.err)

/-- `readSmtpResponse`. -/
def Conn.readSmtpResponse :
    Conn → Bytes → ReadOutcome → Outcome (Bytes × Nat × Option GoError) :=
  Conn.readResponse smtpEndRegex
/-- `readPop3Response`. -/
def Conn.readPop3Response :
    Conn → Bytes → ReadOutcome → Outcome (Bytes × Nat × Option GoError) :=
  Conn.readResponse pop3EndRegex
/-- `readImapStatusResponse`. -/
def Conn.readImapStatusResponse :
    Conn → Bytes → ReadOutcome → Outcome (Bytes × Nat × Option GoError) :=
  Conn.readResponse imapStatusEndRegex

/-! ## The tests of the reply -/

/-- "Server did not indicate support for STARTTLS". -/
def notSupportedError : GoError := .msg (ascii "Server did not indicate support for STARTTLS")

/-- "Bad return code for STARTTLS". -/
def badReturnCodeError : GoError := .msg (ascii "Bad return code for STARTTLS")

/-- The SMTP test, from the reply `s = buf[0:n]` and the read's error to the error the upgrade
stops with (`none`: go on); the outer `none` is a panic of `s[0:3]`. -/
def smtpCheck (s : Bytes) (err : Option GoError) : Option (Option GoError) :=
  let err := if s.length < 5 then some notSupportedError else err
  match err with
  | some e => some (some e)
  | none => (sliceTo s 3).map fun code =>
    match atoi code with
    | some ret => if ret < 200 ∨ 300 ≤ ret then some badReturnCodeError else none
    | none => some badReturnCodeError

/-- The POP3 and IMAP test: `strings.HasPrefix(s, pre)` after a read with no error. -/
def prefixCheck (pre : Bytes) (s : Bytes) (err : Option GoError) : Option (Option GoError) :=
  some (match err with
    | none => if pre.isPrefixOf s then none else some notSupportedError
    | some e => some e)

/-- A test of the reply never panics, and lets the upgrade go on exactly when the read had no
error and the reply is accepted. -/
def CheckSpec (check : Bytes → Option GoError → Option (Option GoError))
    (accepts : Bytes → Prop) : Prop :=
  ∀ s err, ∃ r, check s err = some r ∧ (r = none ↔ err = none ∧ accepts s)

/-- The replies the SMTP test accepts: at least five bytes, starting with `2` and two ASCII
digits. -/
def SmtpAccepts (s : Bytes) : Prop :=
  5 ≤ s.length ∧ ∃ d1 d2 rest, s = 50 :: d1 :: d2 :: rest ∧ isDigit d1 ∧ isDigit d2

/-- **The SMTP test is a digit test.** `strconv.Atoi(s[0:3])` lands in `[200, 300)` exactly when
the code is `2` and two ASCII digits: signs and other bytes that `Atoi` treats differently
from digits never pass, and `s[0:3]` is only taken once `n >= 5`. -/
theorem smtpCheck_spec : CheckSpec smtpCheck SmtpAccepts := by
  intro s err
  by_cases short : s.length < 5
  · -- too short: the reply is refused before it is sliced
    refine ⟨some notSupportedError, by simp [smtpCheck, short], ?_⟩
    simp only [reduceCtorEq, false_iff, not_and, SmtpAccepts]
    omega
  · cases err with
    | some e => exact ⟨some e, by simp [smtpCheck, short], by simp⟩
    | none =>
      simp only [smtpCheck, short, if_false, sliceTo_of_le (show 3 ≤ s.length by omega),
        Option.map_some', Option.some.injEq, exists_eq_left', true_and, SmtpAccepts,
        Nat.le_of_not_lt short]
      obtain ⟨a, b, d, rest, rfl⟩ : ∃ a b d rest, s = a :: b :: d :: rest := by
        rcases s with _ | ⟨a, _ | ⟨b, _ | ⟨d, rest⟩⟩⟩ <;> simp_all
      -- the code decides: `atoi` of the three bytes against `[200, 300)`
      have starts : (∃ d1 d2 rest', a :: b :: d :: rest = 50 :: d1 :: d2 :: rest' ∧
          isDigit d1 ∧ isDigit d2) ↔
          ∃ n, atoi [a, b, d] = some n ∧ 200 ≤ n ∧ n < 300 := by
        rw [atoi_mem_200_300]
        constructor
        · rintro ⟨_, _, _, h, h1, h2⟩
          simp only [List.cons.injEq] at h
          obtain ⟨rfl, rfl, rfl, -⟩ := h
          exact ⟨rfl, h1, h2⟩
        · rintro ⟨rfl, h1, h2⟩
          exact ⟨b, d, rest, rfl, h1, h2⟩
      rw [starts, show (a :: b :: d :: rest).take 3 = [a, b, d] from rfl]
      cases atoi [a, b, d] with
      | none => simp
      | some ret =>
        simp only [Option.some.injEq, exists_eq_left']
        split <;> simp <;> omega

theorem prefixCheck_spec (pre : Bytes) : CheckSpec (prefixCheck pre) (pre <+: ·) := by
  intro s err
  cases err with
  | some e => exact ⟨some e, rfl, by simp⟩
  | none =>
    refine ⟨_, rfl, ?_⟩
    by_cases h : pre <+: s
    · simp [List.isPrefixOf_iff_prefix.mpr h, h]
    · simp [h, List.isPrefixOf_iff_prefix]

/-! ## The upgrades -/

/-- What a command's exchange gives: the error of the command write and what the framed read
of the reply put in the buffer, with its error. -/
structure CommandOutcome where
  writeErr : Option GoError
  reply : ReadOutcome

/-- The outcomes a STARTTLS upgrade meets: the command's exchange, then the handshake. -/
structure StartTLSOutcome extends CommandOutcome where
  handshake : HandshakeOutcome

/-- The STARTTLS upgrades: send `command`, read the reply into a `bufSize`-byte buffer, record
it as `StartTLS`, and stop with `check`'s error or go on to `TLSHandshake`. -/
def Conn.startTLSHandshake (suites : CipherSuites) (command : Bytes)
    (read : Conn → Bytes → ReadOutcome → Outcome (Bytes × Nat × Option GoError))
    (bufSize : Nat) (check : Bytes → Option GoError → Option (Option GoError)) (c : Conn)
    (o : StartTLSOutcome) :
    Outcome (Option GoError) :=
  (c.sendStartTLSCommand command o.writeErr).andThen fun c err =>
    match err with
    | some e => .ret [] c (some e)
    | none =>
      (read c (makeBytes bufSize) o.reply).andThen fun c (buf, n, err) =>
        match sliceTo buf n with
        | none => ⟨[], none⟩
        | some s =>
          let c := { c with grabData := { c.grabData with startTLS := s } }
          match check s err with
          | none => ⟨[], none⟩
          | some (some e) => .ret [] c (some e)
          | some none => c.tlsHandshake suites o.handshake

/-- `SMTPStartTLSHandshake()`. -/
def Conn.smtpStartTLSHandshake (suites : CipherSuites) :
    Conn → StartTLSOutcome → Outcome (Option GoError) :=
  Conn.startTLSHandshake suites smtpCommand Conn.readSmtpResponse 256 smtpCheck

/-- `POP3StartTLSHandshake()`. -/
def Conn.pop3StartTLSHandshake (suites : CipherSuites) :
    Conn → StartTLSOutcome → Outcome (Option GoError) :=
  Conn.startTLSHandshake suites pop3Command Conn.readPop3Response 512 (prefixCheck (ascii "+"))

/-- `IMAPStartTLSHandshake()`. -/
def Conn.imapStartTLSHandshake (suites : CipherSuites) :
    Conn → StartTLSOutcome → Outcome (Option GoError) :=
  Conn.startTLSHandshake suites imapCommand Conn.readImapStatusResponse 512
    (prefixCheck (ascii "a001 OK"))

/-- The connection once the reply `s` is recorded. -/
def Conn.withStartTLS (c : Conn) (s : Bytes) : Conn :=
  { c with grabData := { c.grabData with startTLS := s } }

/-- What a STARTTLS call `run` on `c` must do with the outcomes `o`: when the write succeeded,
the read had no error and the reply passes, record the reply and run `TLSHandshake`; otherwise
return an error without panicking, still off TLS with no TLS client made, the handshake log
untouched, and the reply recorded whenever the write succeeded. -/
def StartTLSDecides (suites : CipherSuites) (command : Bytes) (expr : Regexp)
    (accepts : Bytes → Prop) (c : Conn) (o : StartTLSOutcome) (run : Outcome (Option GoError)) :
    Prop :=
  let hs := (c.withStartTLS o.reply.data).tlsHandshake suites o.handshake
  (o.writeErr = none ∧ o.reply.err = none ∧ accepts o.reply.data →
    run = ⟨[⟨false, .raw, .write command⟩, ⟨false, .raw, .readUntil expr⟩] ++ hs.calls,
      hs.result⟩) ∧
  (¬ (o.writeErr = none ∧ o.reply.err = none ∧ accepts o.reply.data) →
    ∃ c' e, run.result = some (c', some e) ∧ c'.isTls = false ∧ c'.tlsConn = none ∧
      c'.grabData.tlsHandshake = c.grabData.tlsHandshake ∧
      (∀ k ∈ run.calls, k.access ≠ .wrap) ∧
      (o.writeErr = none → c'.grabData.startTLS = o.reply.data))

/-- **A STARTTLS upgrade decides on the reply alone**, for any test meeting `CheckSpec`, on a
connection not on TLS and a reply that fits the buffer. -/
theorem startTLSHandshake_decides (suites : CipherSuites) (command : Bytes) (expr : Regexp)
    (bufSize : Nat) {check : Bytes → Option GoError → Option (Option GoError)}
    {accepts : Bytes → Prop} (spec : CheckSpec check accepts) (c : Conn) (o : StartTLSOutcome)
    (plain : c.isTls = false) (fits : o.reply.data.length ≤ bufSize) :
    StartTLSDecides suites command expr accepts c o
      (c.startTLSHandshake suites command (Conn.readResponse expr) bufSize check o) := by
  unfold StartTLSDecides
  have noClient : c.tlsConn = none := by simpa [plain] using c.isTls_eq
  have slice := sliceTo_goCopy (show o.reply.data.length ≤ (makeBytes bufSize).length by simpa)
  obtain ⟨r, hr, hiff⟩ := spec o.reply.data o.reply.err
  cases hw : o.writeErr with
  | some e =>
    -- the command write failed: the error is returned before any read
    refine ⟨by simp, fun _ => ⟨c, e, ?_, plain, noClient, rfl, ?_, by simp⟩⟩ <;>
      simp [Conn.startTLSHandshake, Conn.sendStartTLSCommand, plain, hw, Conn.call]
  | none =>
    cases r with
    | none =>
      -- the reply passes: the handshake follows the two calls
      obtain ⟨hre, hacc⟩ := hiff.mp rfl
      refine ⟨fun _ => ?_, fun h => absurd ⟨rfl, hre, hacc⟩ h⟩
      simp [Conn.startTLSHandshake, Conn.sendStartTLSCommand, Conn.readResponse, plain, Conn.call,
        Conn.getUnderlyingConn, activeLayer, slice, hr, hw, Conn.withStartTLS]
    | some e =>
      -- the reply fails the test, or the read failed
      have hrej : ¬ (o.reply.err = none ∧ accepts o.reply.data) := fun h => by
        simpa using hiff.mpr h
      refine ⟨fun ⟨_, h⟩ => absurd h hrej,
        fun _ => ⟨c.withStartTLS o.reply.data, e, ?_, plain, noClient, rfl, ?_,
          fun _ => rfl⟩⟩ <;>
        simp [Conn.startTLSHandshake, Conn.sendStartTLSCommand, Conn.readResponse, plain,
          Conn.call, Conn.getUnderlyingConn, activeLayer, slice, hr, hw, Conn.withStartTLS]

/-- **The three STARTTLS upgrades decide on the reply.** From any connection not on TLS, and
for every outcome of the command write and of the framed read whose reply fits the buffer,
each upgrade runs `TLSHandshake` exactly when the write and the read succeeded and the reply
passes its protocol's test: SMTP at least five bytes starting with `2` and two ASCII digits,
POP3 a leading `+`, IMAP a leading `a001 OK`. -/
theorem startTLS_upgrades_decide (suites : CipherSuites) (c : Conn) (o : StartTLSOutcome)
    (plain : c.isTls = false) :
    (o.reply.data.length ≤ 256 → StartTLSDecides suites smtpCommand smtpEndRegex SmtpAccepts c o
      (c.smtpStartTLSHandshake suites o)) ∧
    (o.reply.data.length ≤ 512 → StartTLSDecides suites pop3Command pop3EndRegex
      (ascii "+" <+: ·) c o (c.pop3StartTLSHandshake suites o)) ∧
    (o.reply.data.length ≤ 512 → StartTLSDecides suites imapCommand imapStatusEndRegex
      (ascii "a001 OK" <+: ·) c o (c.imapStartTLSHandshake suites o)) :=
  ⟨startTLSHandshake_decides suites _ _ 256 smtpCheck_spec c o plain,
    startTLSHandshake_decides suites _ _ 512 (prefixCheck_spec _) c o plain,
    startTLSHandshake_decides suites _ _ 512 (prefixCheck_spec _) c o plain⟩

/-- Empty suite lists. -/
def noSuites : CipherSuites := ⟨[], [], [], [], [], [], [], [], []⟩

/-- An `SMTP` server answering `220 Go ahead`, then an engine that fails the handshake without
a log. -/
def goAheadOutcome : StartTLSOutcome :=
  ⟨⟨none, ⟨ascii "220 Go ahead\r\n", none⟩⟩,
    ⟨⟨0, 0⟩, none, none, some (.msg []), none⟩⟩

theorem startTLS_upgrades_decide_go_ahead :
    (Conn.new ⟨⟨0, 0⟩, []⟩).isTls = false ∧
    ((ascii "220 Go ahead\r\n").length ≤ 256 → StartTLSDecides noSuites smtpCommand smtpEndRegex
      SmtpAccepts (Conn.new ⟨⟨0, 0⟩, []⟩) goAheadOutcome
      ((Conn.new ⟨⟨0, 0⟩, []⟩).smtpStartTLSHandshake noSuites goAheadOutcome)) ∧
    ((ascii "220 Go ahead\r\n").length ≤ 512 → StartTLSDecides noSuites pop3Command pop3EndRegex
      (ascii "+" <+: ·) (Conn.new ⟨⟨0, 0⟩, []⟩) goAheadOutcome
      ((Conn.new ⟨⟨0, 0⟩, []⟩).pop3StartTLSHandshake noSuites goAheadOutcome)) ∧
    ((ascii "220 Go ahead\r\n").length ≤ 512 → StartTLSDecides noSuites imapCommand
      imapStatusEndRegex (ascii "a001 OK" <+: ·) (Conn.new ⟨⟨0, 0⟩, []⟩) goAheadOutcome
      ((Conn.new ⟨⟨0, 0⟩, []⟩).imapStartTLSHandshake noSuites goAheadOutcome)) :=
  ⟨rfl, startTLS_upgrades_decide noSuites (Conn.new ⟨⟨0, 0⟩, []⟩) goAheadOutcome rfl⟩

/-! ## Banners and the SMTP commands -/

/-- `SMTPBanner`, `POP3Banner` and `IMAPBanner`: a framed read into the caller's buffer `b`,
recorded as the banner. -/
def Conn.bannerBy
    (read : Conn → Bytes → ReadOutcome → Outcome (Bytes × Nat × Option GoError)) (c : Conn)
    (b : Bytes) (o : ReadOutcome) : Outcome (Nat × Option GoError) :=
  (read c b o).andThen fun c (buf, n, err) =>
    match sliceTo buf n with
    | none => ⟨[], none⟩
    | some s => .ret [] { c with grabData := { c.grabData with banner := s } } (n, err)

/-- `SMTPBanner(b)`. -/
def Conn.smtpBanner : Conn → Bytes → ReadOutcome → Outcome (Nat × Option GoError) :=
  Conn.bannerBy Conn.readSmtpResponse
/-- `POP3Banner(b)`. -/
def Conn.pop3Banner : Conn → Bytes → ReadOutcome → Outcome (Nat × Option GoError) :=
  Conn.bannerBy Conn.readPop3Response
/-- `IMAPBanner(b)`. -/
def Conn.imapBanner : Conn → Bytes → ReadOutcome → Outcome (Nat × Option GoError) :=
  Conn.bannerBy Conn.readImapStatusResponse

/-- `EHLO(domain)`: write the command on the active stream, then read the SMTP reply into a
512-byte buffer and record it. -/
def Conn.ehlo (c : Conn) (domain : Bytes) (o : CommandOutcome) : Outcome (Option GoError) :=
  let cmd := ascii "EHLO " ++ domain ++ ascii "\r\n"
  (Outcome.ret [c.call c.getUnderlyingConn (.write cmd)] c o.writeErr).andThen fun c err =>
    match err with
    | some e => .ret [] c (some e)
    | none =>
      (c.readSmtpResponse (makeBytes 512) o.reply).andThen fun c (buf, n, err) =>
        match sliceTo buf n with
        | none => ⟨[], none⟩
        | some s => .ret [] { c with grabData := { c.grabData with ehlo := s } } err

/-- `SMTPHelp()`: like `EHLO`, but the reply goes into a new `SMTPHelpEvent`, recorded even when
the write fails. -/
def Conn.smtpHelp (c : Conn) (o : CommandOutcome) : Outcome (Option GoError) :=
  let cmd := ascii "HELP\r\n"
  (Outcome.ret [c.call c.getUnderlyingConn (.write cmd)] c o.writeErr).andThen fun c err =>
    match err with
    | some e =>
      .ret [] { c with grabData := { c.grabData with smtpHelp := some ⟨[]⟩ } } (some e)
    | none =>
      (c.readSmtpResponse (makeBytes 512) o.reply).andThen fun c (buf, n, err) =>
        match sliceTo buf n with
        | none => ⟨[], none⟩
        | some s => .ret [] { c with grabData := { c.grabData with smtpHelp := some ⟨s⟩ } } err

/-- Where `SMTPHelp` departs from `EHLO`: when the command write fails, `EHLO` returns the error
with the connection as it was, while `SMTPHelp` first records a help event with no response. -/
theorem smtpHelp_records_failed_write (c : Conn) (domain : Bytes) (o : CommandOutcome)
    {e : GoError} (failed : o.writeErr = some e) :
    (c.ehlo domain o).result = some (c, some e) ∧
      (c.smtpHelp o).result =
        some ({ c with grabData := { c.grabData with smtpHelp := some ⟨[]⟩ } }, some e) := by
  simp [Conn.ehlo, Conn.smtpHelp, failed]

/-! ## FTPS -/

/-- The outcomes `GetFTPSCertificates` meets: `ftp.SetupFTPS`'s answer, then the handshake. -/
structure FTPSOutcome where
  ready : Bool
  err : Option GoError
  handshake : HandshakeOutcome

/-- `GetFTPSCertificates()`: hand the active stream to `ftp.SetupFTPS`, and do the TLS
handshake when it reports the server ready. -/
def Conn.getFTPSCertificates (suites : CipherSuites) (c : Conn) (o : FTPSOutcome) :
    Outcome (Option GoError) :=
  (Outcome.ret [c.call c.getUnderlyingConn .setupFTPS] c o.err).andThen fun c err =>
    match err with
    | some e => .ret [] c (some e)
    | none => if o.ready then c.tlsHandshake suites o.handshake else .ret [] c none

/-! ## What the operations keep -/

section Keeps

variable (c : Conn)

theorem sendStartTLSCommand_plain (command : Bytes) (err : Option GoError) :
    (c.sendStartTLSCommand command err).Plain c := by
  unfold Conn.sendStartTLSCommand
  split
  · exact .ret _ (.refl c) (by simp)
  · -- off TLS, the raw stream is the active one
    rename_i h
    exact .ret _ (.refl c) (by simp [Call.Plain, Call.OnActive, Conn.call, activeLayer, h])

theorem readResponse_plain (expr : Regexp) (res : Bytes) (o : ReadOutcome) :
    (c.readResponse expr res o).Plain c :=
  .active _ _ (.refl c) (by simp)

theorem bannerBy_plain (expr : Regexp) (b : Bytes) (o : ReadOutcome) :
    (c.bannerBy (Conn.readResponse expr) b o).Plain c := by
  refine .andThen (readResponse_plain c expr b o) fun c' r _ => ?_
  rcases r with ⟨buf, n, err⟩
  dsimp only
  split
  · exact .panic (by simp)
  · exact .ret _ ⟨rfl, rfl, rfl, rfl, rfl⟩ (by simp)

theorem ehlo_plain (domain : Bytes) (o : CommandOutcome) : (c.ehlo domain o).Plain c := by
  unfold Conn.ehlo
  refine .andThen (.active _ _ (.refl c) (by simp)) fun c' err _ => ?_
  cases err with
  | some e => exact .ret _ (.refl c') (by simp)
  | none =>
    refine .andThen (readResponse_plain c' _ _ _) fun c'' r _ => ?_
    rcases r with ⟨buf, n, err⟩
    dsimp only
    split
    · exact .panic (by simp)
    · exact .ret _ ⟨rfl, rfl, rfl, rfl, rfl⟩ (by simp)

theorem smtpHelp_plain (o : CommandOutcome) : (c.smtpHelp o).Plain c := by
  unfold Conn.smtpHelp
  refine .andThen (.active _ _ (.refl c) (by simp)) fun c' err _ => ?_
  cases err with
  | some e => exact .ret _ ⟨rfl, rfl, rfl, rfl, rfl⟩ (by simp)
  | none =>
    refine .andThen (readResponse_plain c' _ _ _) fun c'' r _ => ?_
    rcases r with ⟨buf, n, err⟩
    dsimp only
    split
    · exact .panic (by simp)
    · exact .ret _ ⟨rfl, rfl, rfl, rfl, rfl⟩ (by simp)

/-- A STARTTLS upgrade is plain work, then possibly the handshake. -/
theorem startTLSHandshake_upgrades (suites : CipherSuites) (command : Bytes) (expr : Regexp)
    (bufSize : Nat) (check : Bytes → Option GoError → Option (Option GoError))
    (o : StartTLSOutcome) :
    (c.startTLSHandshake suites command (Conn.readResponse expr) bufSize check o).Upgrades
      suites c o.handshake := by
  refine .andThen (sendStartTLSCommand_plain c _ _) fun c' err _ => ?_
  cases err with
  | some e => exact .inl (.ret _ (.refl c') (by simp))
  | none =>
    refine .andThen (readResponse_plain c' _ _ _) fun c'' r _ => ?_
    rcases r with ⟨buf, n, err⟩
    dsimp only
    split
    · exact .inl (.panic (by simp))
    · split
      · exact .inl (.panic (by simp))
      · exact .inl (.ret _ ⟨rfl, rfl, rfl, rfl, rfl⟩ (by simp))
      · exact .handshake_of_keeps _ ⟨rfl, rfl, rfl, rfl, rfl⟩

theorem getFTPSCertificates_upgrades (suites : CipherSuites) (o : FTPSOutcome) :
    (c.getFTPSCertificates suites o).Upgrades suites c o.handshake := by
  refine .andThen (.active _ _ (.refl c) (by simp)) fun c' err _ => ?_
  cases err with
  | some e => exact .inl (.ret _ (.refl c') (by simp))
  | none =>
    dsimp only
    split
    · exact .handshake_of_keeps _ (.refl c')
    · exact .inl (.ret _ (.refl c') (by simp))

end Keeps

end TlsBannerGrab.Zlib
