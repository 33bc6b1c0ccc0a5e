import TlsBannerGrab.Zlib.StartTLS
import TlsBannerGrab.Zlib.Probes
import TlsBannerGrab.Zlib.Http

/-!
# Runs of a connection (`zlib/conn.go`)

A run is any sequence of the exported operations of `Conn`, each with the outcomes its calls
meet. `step_cases` says once what an operation can do; every property of runs below is derived
from it, by induction over the run.

* `step_cases` — an operation is plain work, a deadline setter, the SSH hand-off, or plain work
  followed by at most one `TLSHandshake`;
* `run_keeps` — the induction over a run, done once: what every step keeps, every run keeps;
* `tls_client_made_once` — from a fresh connection, `ztls.Client` is called at most once, the
  connection never leaves TLS nor changes client, the handshake log is the one of the
  handshake that made the client and never changes after, and a later `TLSHandshake` fails with
  the repeat error;
* `calls_on_active_stream` — every call is made by one operation of the run and goes to the
  active stream, but for the two deadline calls that operation's `TLSHandshake` makes on the
  new client before setting `isTls` and the raw stream `SSHHandshake` hands to the SSH client,
  also on TLS (`calls_on_active_stream_fails`);
* `deadlines_follow_cache` — the cache holds the deadlines last set through the connection, and
  when every deadline call succeeds the active stream's deadlines stay the cached ones, across
  the upgrade;
* `step_httpRecord`, `run_httpRecord` — no operation but `HTTP` touches the HTTP record, so the
  record keeps its redirects paired and its bodies within the cut over every run.
-/

namespace TlsBannerGrab.Zlib

open TlsBannerGrab.Go TlsBannerGrab.Ztls

/-! ## Operations and runs -/

/-- The package-level values of other packages the operations read: `ztls`'s suite lists and
the encoded Modbus echo request. -/
structure Globals where
  suites : CipherSuites
  modbusRequest : Bytes

/-- An exported operation of `Conn`, with its arguments and the outcomes its calls meet. -/
inductive Op
  | setFlag (f : Flag)
  | setCAPool (pool : Option CertPool)
  | setDomain (domain : Bytes)
  | setDeadline (t : Time) (err : Option GoError)
  | setReadDeadline (t : Time) (err : Option GoError)
  | setWriteDeadline (t : Time) (err : Option GoError)
  | write (b : Bytes) (o : WriteOutcome)
  | read (b : Bytes) (o : ReadOutcome)
  | basicBanner (o : ReadOutcome)
  | close (err : Option GoError)
  | tlsHandshake (o : HandshakeOutcome)
  | smtpStartTLSHandshake (o : StartTLSOutcome)
  | pop3StartTLSHandshake (o : StartTLSOutcome)
  | imapStartTLSHandshake (o : StartTLSOutcome)
  | getFTPSCertificates (o : FTPSOutcome)
  | smtpBanner (b : Bytes) (o : ReadOutcome)
  | pop3Banner (b : Bytes) (o : ReadOutcome)
  | imapBanner (b : Bytes) (o : ReadOutcome)
  | ehlo (domain : Bytes) (o : CommandOutcome)
  | smtpHelp (o : CommandOutcome)
  | checkHeartbleed (o : HeartbleedOutcome)
  | sendModbusEcho (o : ModbusOutcome)
  | sshHandshake (o : SSHOutcome)
  | http (config : HTTPConfig) (o : HTTPOutcome)

/-- What an operation returns to its caller. -/
inductive Reply
  | unit
  | err (e : Option GoError)
  | count (n : Nat) (e : Option GoError)
  | text (s : Bytes) (e : Option GoError)

/-- One operation. -/
def Conn.step (g : Globals) (c : Conn) : Op → Outcome Reply
  | .setFlag f => .ret [] (c.setFlag f) .unit
  | .setCAPool pool => .ret [] (c.setCAPool pool) .unit
  | .setDomain domain => .ret [] (c.setDomain domain) .unit
  | .setDeadline t err => (c.setDeadline t err).map .err
  | .setReadDeadline t err => (c.setReadDeadline t err).map .err
  | .setWriteDeadline t err => (c.setWriteDeadline t err).map .err
  | .write b o => (c.write b o).map fun r => .count r.1 r.2
  | .read b o => (c.read b o).map fun r => .count r.1 r.2
  | .basicBanner o => (c.basicBanner o).map fun r => .text r.1 r.2
  | .close err => (c.close err).map .err
  | .tlsHandshake o => (c.tlsHandshake g.suites o).map .err
  | .smtpStartTLSHandshake o => (c.smtpStartTLSHandshake g.suites o).map .err
  | .pop3StartTLSHandshake o => (c.pop3StartTLSHandshake g.suites o).map .err
  | .imapStartTLSHandshake o => (c.imapStartTLSHandshake g.suites o).map .err
  | .getFTPSCertificates o => (c.getFTPSCertificates g.suites o).map .err
  | .smtpBanner b o => (c.smtpBanner b o).map fun r => .count r.1 r.2
  | .pop3Banner b o => (c.pop3Banner b o).map fun r => .count r.1 r.2
  | .imapBanner b o => (c.imapBanner b o).map fun r => .count r.1 r.2
  | .ehlo domain o => (c.ehlo domain o).map .err
  | .smtpHelp o => (c.smtpHelp o).map .err
  | .checkHeartbleed o => (c.checkHeartbleed o).map fun r => .count r.1 r.2
  | .sendModbusEcho o => (c.sendModbusEcho g.modbusRequest o).map fun r => .count r.1 r.2
  | .sshHandshake o => (c.sshHandshake o).map .err
  | .http config o => (c.http config o).map .err

/-- A run: the operations one after the other, stopping at a panic. -/
def Conn.run (g : Globals) (c : Conn) : List Op → Outcome Unit
  | [] => .ret [] c ()
  | op :: ops => (c.step g op).andThen fun c _ => c.run g ops

/-- The deadline call a setter makes: which one, the time, and the call's error. -/
def Op.deadlineCall : Op → Option (Access × Time × Option GoError)
  | .setDeadline t err => some (.setDeadline, t, err)
  | .setReadDeadline t err => some (.setReadDeadline, t, err)
  | .setWriteDeadline t err => some (.setWriteDeadline, t, err)
  | _ => none

/-- The engine's outcome for the handshake an operation may run. -/
def Op.handshakeOutcome : Op → Option HandshakeOutcome
  | .tlsHandshake o => some o
  | .smtpStartTLSHandshake o | .pop3StartTLSHandshake o | .imapStartTLSHandshake o =>
    some o.handshake
  | .getFTPSCertificates o => some o.handshake
  | _ => none

/-- Every deadline call of the operation succeeds. -/
def Op.deadlinesSucceed (op : Op) : Bool :=
  (match op.deadlineCall with
    | some (_, _, err) => err.isNone
    | none => true) &&
  (match op.handshakeOutcome with
    | some o => o.setReadErr.isNone && o.setWriteErr.isNone
    | none => true)

/-! ## What one operation can do -/

/-- The TLS client's identity: the configuration it was made with. -/
def Conn.tlsClient (c : Conn) : Option TLSConfig := c.tlsConn.map (·.config)

theorem Conn.activeDeadlines_applyDeadline (c : Conn) (a : Access) (t : Time)
    (err : Option GoError) :
    (c.applyDeadline c.getUnderlyingConn a t err).activeDeadlines =
      c.activeDeadlines.after a t err := by
  have h := c.isTls_eq
  cases hb : c.isTls
  · -- off TLS: the raw stream, and there is no client
    have hc : c.tlsConn = none := by simpa [hb] using h
    simp [Conn.applyDeadline, Conn.getUnderlyingConn, activeLayer, Conn.activeDeadlines, hb, hc]
  · obtain ⟨tc, hc⟩ := Option.isSome_iff_exists.mp (hb ▸ h).symm
    simp [Conn.applyDeadline, Conn.getUnderlyingConn, activeLayer, Conn.activeDeadlines, hb, hc]

/-- A deadline setter: one call on the active stream; the cache and the active stream's
deadlines both take the new deadline, when the call succeeds. -/
theorem setDeadlineBy_spec (a : Access) (c : Conn) (t : Time) (err : Option GoError) :
    ∃ c', c.setDeadlineBy a t err = .ret [c.call c.getUnderlyingConn a] c' err ∧
      c'.isTls = c.isTls ∧ c'.tlsClient = c.tlsClient ∧
      c'.grabData.tlsHandshake = c.grabData.tlsHandshake ∧
      c'.cached = c.cached.after a t none ∧
      c'.activeDeadlines = c.activeDeadlines.after a t err :=
  ⟨_, rfl, by simp, by simp [Conn.tlsClient], by simp,
    (Conn.applyDeadline_cached _ _ _ _ _).trans rfl, Conn.activeDeadlines_applyDeadline _ _ _ _⟩

/-- **What one operation can do.** Plain work; a deadline setter; the SSH hand-off; or plain
work and then, possibly, `TLSHandshake` with the operation's own handshake outcome. -/
theorem step_cases (g : Globals) (c : Conn) (op : Op) :
    (c.step g op).Plain c ∨
    (∃ a t err, op.deadlineCall = some (a, t, err) ∧
      c.step g op = (c.setDeadlineBy a t err).map .err) ∨
    (∃ o, op = .sshHandshake o ∧ c.step g op = (c.sshHandshake o).map .err) ∨
    (∃ ho, ∃ u : Outcome (Option GoError), op.handshakeOutcome = some ho ∧
      u.Upgrades g.suites c ho ∧
      c.step g op = u.map .err) := by
  cases op with
  | setFlag f => exact .inl (.ret _ (setFlag_keeps c f) (by simp))
  | setCAPool pool => exact .inl (.ret _ ⟨rfl, rfl, rfl, rfl, rfl⟩ (by simp))
  | setDomain domain => exact .inl (.ret _ ⟨rfl, rfl, rfl, rfl, rfl⟩ (by simp))
  | setDeadline t err => exact .inr (.inl ⟨_, _, _, rfl, rfl⟩)
  | setReadDeadline t err => exact .inr (.inl ⟨_, _, _, rfl, rfl⟩)
  | setWriteDeadline t err => exact .inr (.inl ⟨_, _, _, rfl, rfl⟩)
  | write b o => exact .inl (by simp only [Conn.step]; exact (write_plain c b o).map _)
  | read b o => exact .inl (by simp only [Conn.step]; exact (read_plain c b o).map _)
  | basicBanner o => exact .inl (by simp only [Conn.step]; exact (basicBanner_plain c o).map _)
  | close err => exact .inl ((close_plain c err).map _)
  | tlsHandshake o => exact .inr (.inr (.inr ⟨o, _, rfl, .handshake_of_keeps o (.refl c), rfl⟩))
  | smtpStartTLSHandshake o =>
    exact .inr (.inr (.inr ⟨_, _, rfl, startTLSHandshake_upgrades c _ _ _ _ _ o, rfl⟩))
  | pop3StartTLSHandshake o =>
    exact .inr (.inr (.inr ⟨_, _, rfl, startTLSHandshake_upgrades c _ _ _ _ _ o, rfl⟩))
  | imapStartTLSHandshake o =>
    exact .inr (.inr (.inr ⟨_, _, rfl, startTLSHandshake_upgrades c _ _ _ _ _ o, rfl⟩))
  | getFTPSCertificates o =>
    exact .inr (.inr (.inr ⟨_, _, rfl, getFTPSCertificates_upgrades c _ o, rfl⟩))
  | smtpBanner b o =>
    exact .inl (by simp only [Conn.step]; exact (bannerBy_plain c smtpEndRegex b o).map _)
  | pop3Banner b o =>
    exact .inl (by simp only [Conn.step]; exact (bannerBy_plain c pop3EndRegex b o).map _)
  | imapBanner b o =>
    exact .inl (by simp only [Conn.step]; exact (bannerBy_plain c imapStatusEndRegex b o).map _)
  | ehlo domain o => exact .inl ((ehlo_plain c domain o).map _)
  | smtpHelp o => exact .inl ((smtpHelp_plain c o).map _)
  | checkHeartbleed o =>
    exact .inl (by simp only [Conn.step]; exact (checkHeartbleed_plain c o).map _)
  | sendModbusEcho o =>
    exact .inl (by simp only [Conn.step]; exact (sendModbusEcho_plain _ c o).map _)
  | sshHandshake o => exact .inr (.inr (.inl ⟨o, rfl, rfl⟩))
  | http config o => exact .inl ((http_plain config o c).map _)

theorem Op.deadlineCall_access {op : Op} {a : Access} {t : Time} {err : Option GoError}
    (h : op.deadlineCall = some (a, t, err)) :
    a = .setDeadline ∨ a = .setReadDeadline ∨ a = .setWriteDeadline := by
  cases op <;> simp_all [Op.deadlineCall]

theorem Op.deadlinesSucceed_spec {op : Op} (h : op.deadlinesSucceed = true) :
    (∀ a t err, op.deadlineCall = some (a, t, err) → err = none) ∧
    (∀ ho, op.handshakeOutcome = some ho → ho.setReadErr = none ∧ ho.setWriteErr = none) := by
  unfold Op.deadlinesSucceed at h
  constructor
  · intro a t err hc
    exact (by simpa [hc] using h : _ ∧ _).1
  · intro ho hh
    exact (by simpa [hh] using h : _ ∧ _ ∧ _).2

/-! ## The TLS client and its log -/

/-- The number of `ztls.Client` calls. -/
def wraps (calls : List Call) : Nat := calls.countP fun k => k.access = .wrap

theorem wraps_append (a b : List Call) : wraps (a ++ b) = wraps a + wraps b :=
  List.countP_append _ _ _

/-- How many TLS clients a connection may still make: one off TLS, none on it. -/
def Conn.budget (c : Conn) : Nat := if c.isTls then 0 else 1

/-- What one step does to the TLS state: it makes a client only off TLS and then goes on TLS;
on TLS it keeps the client and the log; and the log changes only when the step goes on TLS,
to the log of the step's own handshake. -/
structure StepTLS {α : Type} (c : Conn) (op : Op) (o : Outcome α) : Prop where
  wrapsLe : wraps o.calls ≤ c.budget
  result : ∀ c' a, o.result = some (c', a) →
    wraps o.calls + c'.budget ≤ c.budget ∧
    (c.isTls = true → c'.isTls = true ∧ c'.tlsClient = c.tlsClient ∧
      c'.grabData.tlsHandshake = c.grabData.tlsHandshake) ∧
    (c'.isTls = false → c'.grabData.tlsHandshake = c.grabData.tlsHandshake) ∧
    (c.isTls = false → c'.isTls = true →
      ∃ ho, op.handshakeOutcome = some ho ∧ c'.grabData.tlsHandshake = ho.log)

/-- A step that makes no client and keeps `isTls`, the client and the log. -/
theorem StepTLS.of_keeps {α : Type} {c : Conn} {op : Op} {o : Outcome α}
    (noWrap : ∀ k ∈ o.calls, k.access ≠ .wrap)
    (keeps : ∀ c' a, o.result = some (c', a) →
      c'.isTls = c.isTls ∧ c'.tlsClient = c.tlsClient ∧
        c'.grabData.tlsHandshake = c.grabData.tlsHandshake) :
    StepTLS c op o := by
  have none : wraps o.calls = 0 :=
    List.countP_eq_zero.mpr fun k hk => by simpa using noWrap k hk
  refine ⟨by omega, fun c' a h => ?_⟩
  obtain ⟨hTls, hClient, hLog⟩ := keeps c' a h
  refine ⟨by simp [none, Conn.budget, hTls],
    fun _ => ⟨by rw [hTls]; assumption, hClient, hLog⟩, fun _ => hLog, fun offTls onTls => ?_⟩
  rw [hTls, offTls] at onTls
  cases onTls

theorem StepTLS.of_plain {α : Type} {c : Conn} {op : Op} {o : Outcome α} (h : o.Plain c) :
    StepTLS c op o :=
  .of_keeps (fun k hk => (h.calls k hk).2) fun c' a hr =>
    have keeps := h.keeps c' a hr
    ⟨keeps.isTls, by simp [Conn.tlsClient, keeps.tlsConn], keeps.tlsHandshake⟩

theorem StepTLS.map {α β : Type} {c : Conn} {op : Op} {o : Outcome α} (f : α → β)
    (h : StepTLS c op o) : StepTLS c op (o.map f) :=
  ⟨h.wrapsLe, fun c' b hb => by
    obtain ⟨a, ha, -⟩ := Outcome.map_result_eq_some hb
    exact h.result c' a ha⟩

/-- Plain work, then `TLSHandshake` with the step's handshake outcome. -/
theorem StepTLS.of_upgrades {suites : CipherSuites} {c : Conn} {op : Op} {ho : HandshakeOutcome}
    {u : Outcome (Option GoError)} (hop : op.handshakeOutcome = some ho)
    (h : u.Upgrades suites c ho) : StepTLS c op u := by
  rcases h with plain | ⟨pre, c₁, hpre, keeps, rfl⟩
  · exact .of_plain plain
  have prePlain : wraps pre = 0 :=
    List.countP_eq_zero.mpr fun k hk => by simpa using (hpre k hk).2
  cases h₁ : c₁.isTls
  · -- off TLS: one client is made, and the connection goes on TLS with the engine's log
    obtain ⟨c', hhs, onTls, -, log, -, -⟩ := tlsHandshake_of_plain suites c₁ ho h₁
    have offTls : c.isTls = false := keeps.isTls ▸ h₁
    have made : wraps (pre ++ (c₁.tlsHandshake suites ho).calls) = 1 := by
      rw [wraps_append, prePlain, hhs]
      rfl
    refine ⟨by simp [made, Conn.budget, offTls], fun c'' a hr => ?_⟩
    simp only [hhs, Outcome.ret_result, Option.some.injEq, Prod.mk.injEq] at hr
    obtain ⟨rfl, -⟩ := hr
    refine ⟨by simp [made, Conn.budget, offTls, onTls], ?_, ?_, fun _ _ => ⟨ho, hop, log⟩⟩
    · intro h
      rw [offTls] at h
      cases h
    · intro h
      rw [onTls] at h
      cases h
  · -- already on TLS: the repeat error, nothing made, nothing changed
    rw [tlsHandshake_of_isTls suites c₁ ho h₁]
    refine .of_keeps (by simpa using fun k hk => (hpre k hk).2) fun c' a hr => ?_
    simp only [Outcome.ret_result, Option.some.injEq, Prod.mk.injEq] at hr
    obtain ⟨rfl, -⟩ := hr
    exact ⟨keeps.isTls, by simp [Conn.tlsClient, keeps.tlsConn], keeps.tlsHandshake⟩

/-- Every step meets `StepTLS`. -/
theorem step_tls (g : Globals) (c : Conn) (op : Op) : StepTLS c op (c.step g op) := by
  rcases step_cases g c op with plain | ⟨a, t, err, hcall, heq⟩ | ⟨o, rfl, heq⟩ |
      ⟨ho, u, hop, hu, heq⟩
  · exact .of_plain plain
  · -- a deadline setter: one deadline call, nothing else changes
    obtain ⟨c', hset, hTls, hClient, hLog, -⟩ := setDeadlineBy_spec a c t err
    rw [heq, hset]
    refine .map _ (.of_keeps ?_ fun c'' _ hr => ?_)
    · rcases Op.deadlineCall_access hcall with rfl | rfl | rfl <;> simp [Conn.call]
    · simp only [Outcome.ret_result, Option.some.injEq, Prod.mk.injEq] at hr
      obtain ⟨rfl, -⟩ := hr
      exact ⟨hTls, hClient, hLog⟩
  · -- the SSH hand-off
    rw [heq]
    exact .map _ (.of_keeps (by simp [Conn.sshHandshake, Conn.call]) fun c' a hr => by
      simp only [Conn.sshHandshake, Outcome.ret_result, Option.some.injEq, Prod.mk.injEq] at hr
      obtain ⟨rfl, -⟩ := hr
      exact ⟨rfl, rfl, rfl⟩)
  · rw [heq]
    exact .map _ (.of_upgrades hop hu)

/-! ### Over a run -/

section Runs

variable (g : Globals)

theorem run_wraps (c : Conn) (ops : List Op) : wraps (c.run g ops).calls ≤ c.budget := by
  induction ops generalizing c with
  | nil => simp [Conn.run, wraps]
  | cons op ops ih =>
    have step := step_tls g c op
    unfold Conn.run Outcome.andThen
    split
    · exact step.wrapsLe
    · rename_i c' a h
      have first := (step.result c' a h).1
      have rest := ih c'
      simp only [wraps_append] at first ⊢
      omega

/-- What every step keeps, every run keeps: from a state where `P` holds, through operations
that `Q` admits. -/
theorem run_keeps (P : Conn → Prop) (Q : Op → Prop)
    (step : ∀ c op, P c → Q op → ∀ c' r, (c.step g op).result = some (c', r) → P c')
    (ops : List Op) (c : Conn) (hc : P c) (ok : ∀ op ∈ ops, Q op) {c₂ : Conn}
    (h : (c.run g ops).result = some (c₂, ())) : P c₂ := by
  induction ops generalizing c with
  | nil =>
    simp only [Conn.run, Outcome.ret_result, Option.some.injEq, Prod.mk.injEq, and_true] at h
    exact h ▸ hc
  | cons op ops ih =>
    obtain ⟨c', a, hs, hr⟩ := Outcome.andThen_result_eq_some h
    exact ih c' (step c op hc (ok op (List.mem_cons_self _ _)) c' a hs)
      (fun op' h' => ok op' (List.mem_cons_of_mem _ h')) hr

theorem run_staysTls (c : Conn) (ops : List Op) (onTls : c.isTls = true) {c₂ : Conn}
    (h : (c.run g ops).result = some (c₂, ())) :
    c₂.isTls = true ∧ c₂.tlsClient = c.tlsClient ∧
      c₂.grabData.tlsHandshake = c.grabData.tlsHandshake :=
  run_keeps g (fun c' => c'.isTls = true ∧ c'.tlsClient = c.tlsClient ∧
      c'.grabData.tlsHandshake = c.grabData.tlsHandshake) (fun _ => True)
    (fun c₁ op ⟨tls₁, client₁, log₁⟩ _ c' r hs =>
      let ⟨tls', client', log'⟩ := ((step_tls g c₁ op).result c' r hs).2.1 tls₁
      ⟨tls', client'.trans client₁, log'.trans log₁⟩)
    ops c ⟨onTls, rfl, rfl⟩ (fun _ _ => trivial) h

theorem run_noLog (c : Conn) (ops : List Op) (noLog : c.grabData.tlsHandshake = none)
    {c₂ : Conn} (h : (c.run g ops).result = some (c₂, ())) (offTls : c₂.isTls = false) :
    c₂.grabData.tlsHandshake = none := by
  refine run_keeps g (fun c' => c'.isTls = false → c'.grabData.tlsHandshake = none)
    (fun _ => True) (fun c₁ op noLog₁ _ c' r hs offTls' => ?_) ops c (fun _ => noLog)
    (fun _ _ => trivial) h offTls
  have step := (step_tls g c₁ op).result c' r hs
  -- a step from TLS stays on TLS, so this one started off TLS
  have offTls₁ : c₁.isTls = false := by
    cases h₁ : c₁.isTls
    · rfl
    · simpa [offTls'] using (step.2.1 h₁).1
  exact (step.2.2.1 offTls').trans (noLog₁ offTls₁)

end Runs

/-- What holds of the TLS client along the runs from `c₀`. -/
structure TLSClientOnce (g : Globals) (c₀ : Conn) : Prop where
  /-- `ztls.Client` is called at most once in any run. -/
  clientOnce : ∀ ops : List Op, wraps (c₀.run g ops).calls ≤ 1
  /-- Until the connection goes on TLS, there is no handshake log. -/
  noLogBefore : ∀ (ops : List Op) (c₁ : Conn), (c₀.run g ops).result = some (c₁, ()) →
    c₁.isTls = false → c₁.grabData.tlsHandshake = none
  /-- The step that goes on TLS records the log of its own handshake, whatever its outcome. -/
  upgradeLogs : ∀ (c₁ : Conn) (op : Op) (c₂ : Conn) (r : Reply),
    (c₁.step g op).result = some (c₂, r) → c₁.isTls = false → c₂.isTls = true →
      ∃ ho, op.handshakeOutcome = some ho ∧ c₂.grabData.tlsHandshake = ho.log
  /-- On TLS, every run stays on TLS, with the same client and the same log. -/
  staysTls : ∀ (c₁ : Conn) (ops : List Op) (c₂ : Conn), c₁.isTls = true →
    (c₁.run g ops).result = some (c₂, ()) →
      c₂.isTls = true ∧ c₂.tlsClient = c₁.tlsClient ∧
        c₂.grabData.tlsHandshake = c₁.grabData.tlsHandshake
  /-- On TLS, `TLSHandshake` fails with the repeat error and changes nothing. -/
  repeatFails : ∀ (c₁ : Conn) (ho : HandshakeOutcome), c₁.isTls = true →
    c₁.step g (.tlsHandshake ho) = .ret [] c₁ (.err (some (repeatHandshakeError c₁)))

/-- **One TLS client per connection.** From a fresh connection, whatever the operations and
whatever the network and the engine answer: `ztls.Client` is called at most once; the
connection never leaves TLS and never changes client; the log is absent before the upgrade,
is then the log of the upgrading handshake, whether it succeeded, hit a forced-suite mismatch
or failed, and never changes after; and every later `TLSHandshake` returns the repeat error. -/
theorem tls_client_made_once (g : Globals) (c₀ : Conn) (fresh : c₀.isTls = false)
    (noLog : c₀.grabData.tlsHandshake = none) : TLSClientOnce g c₀ where
  clientOnce ops := by simpa [Conn.budget, fresh] using run_wraps g c₀ ops
  noLogBefore ops _ h offTls := run_noLog g c₀ ops noLog h offTls
  upgradeLogs c₁ op c₂ r h offTls onTls :=
    ((step_tls g c₁ op).result c₂ r h).2.2.2 offTls onTls
  staysTls c₁ ops _ onTls h := run_staysTls g c₁ ops onTls h
  repeatFails c₁ ho onTls := by
    simp [Conn.step, tlsHandshake_of_isTls _ _ _ onTls, Outcome.map, Outcome.ret]

/-- A handshake the engine fails, after both deadline calls succeeded. -/
def refusedHandshake : HandshakeOutcome := ⟨⟨0, 0⟩, none, none, some (.msg []), none⟩

theorem tls_client_made_once_fresh :
    freshConn.isTls = false ∧ freshConn.grabData.tlsHandshake = none ∧
      TLSClientOnce ⟨noSuites, []⟩ freshConn :=
  ⟨rfl, rfl, tls_client_made_once _ _ rfl rfl⟩

/-! ## The streams the calls go to -/

/-- The deadlines an operation sets through the connection, whether or not the stream's call
succeeds: `SetDeadline` both, `SetReadDeadline` the read one, `SetWriteDeadline` the write one;
no other operation sets one. -/
def Op.setsDeadlines : Op → Deadlines → Deadlines
  | .setDeadline t _, _ => ⟨t, t⟩
  | .setReadDeadline t _, d => { d with read := t }
  | .setWriteDeadline t _, d => { d with write := t }
  | _, d => d

/-- The deadlines last set through the connection by `ops`, from `d`. -/
def lastSetDeadlines (d : Deadlines) (ops : List Op) : Deadlines :=
  ops.foldl (fun d op => op.setsDeadlines d) d

/-- A setter sets what its call would set were it to succeed. -/
theorem Op.setsDeadlines_eq (op : Op) (d : Deadlines) :
    op.setsDeadlines d = match op.deadlineCall with
      | some (a, t, _) => d.after a t none
      | none => d := by
  cases op <;> rfl

theorem Op.step_of_deadlineCall (g : Globals) (c : Conn) {op : Op} {a : Access} {t : Time}
    {err : Option GoError} (h : op.deadlineCall = some (a, t, err)) :
    c.step g op = (c.setDeadlineBy a t err).map .err := by
  cases op <;> cases h <;> rfl

/-- One operation leaves in the cache the deadlines it sets through the connection. -/
theorem step_cached (g : Globals) (c : Conn) (op : Op) {c' : Conn} {r : Reply}
    (h : (c.step g op).result = some (c', r)) : c'.cached = op.setsDeadlines c.cached := by
  rw [Op.setsDeadlines_eq]
  cases hcall : op.deadlineCall with
  | some call =>
    obtain ⟨a, t, err⟩ := call
    obtain ⟨c₁, hset, -, -, -, hcached, -⟩ := setDeadlineBy_spec a c t err
    rw [Op.step_of_deadlineCall g c hcall, hset] at h
    obtain ⟨_, h, -⟩ := Outcome.map_result_eq_some h
    obtain ⟨rfl, -⟩ := Prod.mk.inj (Option.some.inj h)
    exact hcached
  | none =>
    rcases step_cases g c op with plain | ⟨a, t, err, hcall', -⟩ | ⟨o, rfl, heq⟩ |
        ⟨ho, u, -, hu, heq⟩
    · exact (plain.keeps c' r h).cached
    · cases hcall.symm.trans hcall'
    · rw [heq] at h
      obtain ⟨_, h, -⟩ := Outcome.map_result_eq_some h
      obtain ⟨rfl, -⟩ := Prod.mk.inj (Option.some.inj h)
      rfl
    · rw [heq] at h
      obtain ⟨a, h, -⟩ := Outcome.map_result_eq_some h
      exact hu.cached c' a h

/-- Over a run, the cache holds the deadlines last set through the connection. -/
theorem run_cached (g : Globals) (c : Conn) (ops : List Op) {c₁ : Conn}
    (h : (c.run g ops).result = some (c₁, ())) : c₁.cached = lastSetDeadlines c.cached ops := by
  induction ops generalizing c with
  | nil =>
    obtain ⟨rfl, -⟩ := Prod.mk.inj (Option.some.inj h)
    rfl
  | cons op ops ih =>
    obtain ⟨c', a, hs, hr⟩ := Outcome.andThen_result_eq_some h
    rw [ih c' hr, step_cached g c op hs]
    rfl

/-- The active stream's deadlines are the cached ones. -/
def Conn.Synced (c : Conn) : Prop := c.activeDeadlines = c.cached

theorem Conn.Keeps.synced {c c' : Conn} (h : c.Keeps c') (s : c.Synced) : c'.Synced := by
  unfold Conn.Synced Conn.activeDeadlines at *
  rw [h.tlsConn, h.conn, h.cached]
  exact s

theorem step_synced (g : Globals) (c : Conn) (op : Op) (s : c.Synced)
    (ok : op.deadlinesSucceed = true) :
    ∀ c' r, (c.step g op).result = some (c', r) → c'.Synced := by
  obtain ⟨okCall, okHandshake⟩ := Op.deadlinesSucceed_spec ok
  intro c' r h
  rcases step_cases g c op with plain | ⟨a, t, err, hcall, heq⟩ | ⟨o, rfl, heq⟩ |
      ⟨ho, u, hop, hu, heq⟩
  · exact (plain.keeps c' r h).synced s
  · -- a deadline setter: the cache and the active stream take the same deadline
    obtain ⟨c₁, hset, -, -, -, hcached, hactive⟩ := setDeadlineBy_spec a c t err
    rw [heq, hset] at h
    obtain ⟨_, h, -⟩ := Outcome.map_result_eq_some h
    simp only [Outcome.ret_result, Option.some.injEq, Prod.mk.injEq] at h
    obtain ⟨rfl, -⟩ := h
    unfold Conn.Synced at s ⊢
    rw [hcached, hactive, s, okCall a t err hcall]
  · rw [heq] at h
    obtain ⟨_, h, -⟩ := Outcome.map_result_eq_some h
    simp only [Conn.sshHandshake, Outcome.ret_result, Option.some.injEq, Prod.mk.injEq] at h
    obtain ⟨rfl, -⟩ := h
    exact (⟨rfl, rfl, rfl, rfl, rfl⟩ : c.Keeps _).synced s
  · rw [heq] at h
    obtain ⟨a, h, -⟩ := Outcome.map_result_eq_some h
    rcases hu with plain | ⟨pre, c₁, -, keeps, rfl⟩
    · exact (plain.keeps c' a h).synced s
    cases h₁ : c₁.isTls
    · -- the upgrade: the new client starts with the cached deadlines
      obtain ⟨readOk, writeOk⟩ := okHandshake ho hop
      obtain ⟨c₂, hhs, -, client, -, -, cached⟩ := tlsHandshake_of_plain g.suites c₁ ho h₁
      simp only [hhs, Outcome.ret_result, Option.some.injEq, Prod.mk.injEq] at h
      obtain ⟨rfl, -⟩ := h
      unfold Conn.Synced Conn.activeDeadlines
      rw [client]
      exact (newTLSConn_deadlines _ _ _ readOk writeOk).trans cached.symm
    · simp only [tlsHandshake_of_isTls g.suites c₁ ho h₁, Outcome.ret_result,
        Option.some.injEq, Prod.mk.injEq] at h
      obtain ⟨rfl, -⟩ := h
      exact keeps.synced s

/-- **Deadlines survive the upgrade.** From a connection whose active stream has the cached
deadlines, and when every deadline call succeeds, after every step of every run the active
stream's deadlines are the cached ones, and the cache holds the deadlines last set through the
connection: before the upgrade on the raw stream, after it on the TLS client, which therefore
starts with the deadlines last set through the connection. -/
theorem deadlines_follow_cache (g : Globals) (c₀ : Conn)
    (synced : c₀.activeDeadlines = c₀.cached) (ops : List Op)
    (succeed : ∀ op ∈ ops, op.deadlinesSucceed = true) :
    ∀ pre c₁, pre <+: ops → (c₀.run g pre).result = some (c₁, ()) →
      c₁.activeDeadlines = c₁.cached ∧ c₁.cached = lastSetDeadlines c₀.cached pre :=
  fun pre _ hpre h =>
    ⟨run_keeps g Conn.Synced _ (step_synced g) pre c₀ synced
      (fun op hop => succeed op (hpre.subset hop)) h, run_cached g c₀ pre h⟩

/-- A deadline, then the upgrade. -/
def deadlineThenUpgrade : List Op := [.setDeadline 5 none, .tlsHandshake refusedHandshake]

theorem deadlines_follow_cache_upgrade :
    freshConn.activeDeadlines = freshConn.cached ∧
      (∀ op ∈ deadlineThenUpgrade, op.deadlinesSucceed = true) ∧
      ∀ pre c₁, pre <+: deadlineThenUpgrade →
        (freshConn.run ⟨noSuites, []⟩ pre).result = some (c₁, ()) →
          c₁.activeDeadlines = c₁.cached ∧ c₁.cached = lastSetDeadlines freshConn.cached pre :=
  ⟨rfl, by decide,
    deadlines_follow_cache ⟨noSuites, []⟩ freshConn rfl deadlineThenUpgrade (by decide)⟩

/-! ## The HTTP record across runs -/

/-- Every connection the operation returns holds `c`'s HTTP record. -/
def Outcome.KeepsHTTP {α : Type} (c : Conn) (o : Outcome α) : Prop :=
  ∀ c' a, o.result = some (c', a) → c'.grabData.http = c.grabData.http

theorem Outcome.KeepsHTTP.ret {α : Type} {c c' : Conn} (calls : List Call) (a : α)
    (same : c'.grabData.http = c.grabData.http) : (Outcome.ret calls c' a).KeepsHTTP c := by
  intro _ _ h
  obtain ⟨rfl, -⟩ := Prod.mk.inj (Option.some.inj h)
  exact same

theorem Outcome.KeepsHTTP.panic {α : Type} {c : Conn} {calls : List Call} :
    (⟨calls, none⟩ : Outcome α).KeepsHTTP c :=
  fun _ _ h => nomatch h

theorem Outcome.KeepsHTTP.andThen {α β : Type} {c : Conn} {o : Outcome α}
    {k : Conn → α → Outcome β} (first : o.KeepsHTTP c)
    (rest : ∀ c' a, o.result = some (c', a) → (k c' a).KeepsHTTP c') :
    (o.andThen k).KeepsHTTP c := by
  intro c'' b h
  obtain ⟨c', a, h₁, h₂⟩ := Outcome.andThen_result_eq_some h
  exact (rest c' a h₁ c'' b h₂).trans (first c' a h₁)

theorem Outcome.KeepsHTTP.map {α β : Type} {c : Conn} {o : Outcome α} (f : α → β)
    (h : o.KeepsHTTP c) : (o.map f).KeepsHTTP c := by
  intro c' b hb
  obtain ⟨a, ha, -⟩ := Outcome.map_result_eq_some hb
  exact h c' a ha

section KeepsHTTP

variable (c : Conn)

theorem tlsHandshake_keepsHTTP (suites : CipherSuites) (o : HandshakeOutcome) :
    (c.tlsHandshake suites o).KeepsHTTP c := by
  unfold Conn.tlsHandshake
  split <;> exact .ret _ _ rfl

theorem startTLSHandshake_keepsHTTP (suites : CipherSuites) (command : Bytes) (expr : Regexp)
    (bufSize : Nat) (check : Bytes → Option GoError → Option (Option GoError))
    (o : StartTLSOutcome) :
    (c.startTLSHandshake suites command (Conn.readResponse expr) bufSize check o).KeepsHTTP c := by
  refine .andThen (by unfold Conn.sendStartTLSCommand; split <;> exact .ret _ _ rfl)
    fun c' err _ => ?_
  cases err with
  | some e => exact .ret _ _ rfl
  | none =>
    refine .andThen (.ret _ _ rfl) fun c'' r _ => ?_
    rcases r with ⟨buf, n, err⟩
    dsimp only
    split
    · exact .panic
    · split
      · exact .panic
      · exact .ret _ _ rfl
      · exact tlsHandshake_keepsHTTP _ suites o.handshake

theorem getFTPSCertificates_keepsHTTP (suites : CipherSuites) (o : FTPSOutcome) :
    (c.getFTPSCertificates suites o).KeepsHTTP c := by
  refine .andThen (.ret _ _ rfl) fun c' err _ => ?_
  cases err with
  | some e => exact .ret _ _ rfl
  | none =>
    dsimp only
    split
    · exact tlsHandshake_keepsHTTP c' suites o.handshake
    · exact .ret _ _ rfl

theorem bannerBy_keepsHTTP (expr : Regexp) (b : Bytes) (o : ReadOutcome) :
    (c.bannerBy (Conn.readResponse expr) b o).KeepsHTTP c := by
  refine .andThen (.ret _ _ rfl) fun c' r _ => ?_
  rcases r with ⟨buf, n, err⟩
  dsimp only
  split
  · exact .panic
  · exact .ret _ _ rfl

/-- `EHLO` and `SMTPHelp` differ only in what they record of their own. -/
theorem smtpCommands_keepsHTTP (domain : Bytes) (o : CommandOutcome) :
    (c.ehlo domain o).KeepsHTTP c ∧ (c.smtpHelp o).KeepsHTTP c := by
  constructor <;> refine .andThen (.ret _ _ rfl) fun c' err _ => ?_ <;> rcases err with _ | e
  all_goals first
    | exact .ret _ _ rfl
    | (refine .andThen (.ret _ _ rfl) fun c'' r _ => ?_
       rcases r with ⟨buf, n, err⟩
       dsimp only
       split
       · exact .panic
       · exact .ret _ _ rfl)

theorem sendModbusEcho_keepsHTTP (request : Bytes) (o : ModbusOutcome) :
    (c.sendModbusEcho request o).KeepsHTTP c := by
  refine .andThen (fun c' r h => by rw [(writeLoop_calls c request 0 o.writes).2 c' r h])
    fun c' r _ => ?_
  rcases r with ⟨w, failed⟩
  dsimp only
  split
  · exact .ret _ _ rfl
  · exact .andThen (.ret _ _ rfl) fun _ _ _ => .ret _ _ rfl

end KeepsHTTP

/-- **Only `HTTP` touches the HTTP record.** Every other operation returns connections that
hold the record it was given; `HTTP` changes it only by the changes `HTTPChange` lists. -/
theorem step_httpRecord (g : Globals) (c : Conn) (op : Op) :
    (∃ config o, op = .http config o ∧ ∀ c' r, (c.step g op).result = some (c', r) →
      Relation.ReflTransGen (HTTPChange config.sizeLimit) c c') ∨
    (c.step g op).KeepsHTTP c := by
  cases op with
  | http config o =>
    refine .inl ⟨config, o, rfl, fun c' r h => ?_⟩
    obtain ⟨e, he, -⟩ := Outcome.map_result_eq_some h
    exact http_changes c config o he
  | setFlag f => exact .inr (.ret _ _ (by cases f <;> rfl))
  | setCAPool pool => exact .inr (.ret _ _ rfl)
  | setDomain domain => exact .inr (.ret _ _ rfl)
  | setDeadline t err => exact .inr (.map _ (.ret _ _ (by simp)))
  | setReadDeadline t err => exact .inr (.map _ (.ret _ _ (by simp)))
  | setWriteDeadline t err => exact .inr (.map _ (.ret _ _ (by simp)))
  | write b o =>
    refine .inr (.map _ ?_)
    unfold Conn.write
    split
    · exact .panic
    · exact .ret _ _ rfl
  | read b o =>
    refine .inr (.map _ ?_)
    unfold Conn.read
    split
    · exact .panic
    · exact .ret _ _ rfl
  | basicBanner o =>
    refine .inr (.map _ ?_)
    unfold Conn.basicBanner
    split
    · exact .panic
    · exact .ret _ _ rfl
  | close err => exact .inr (.map _ (.ret _ _ rfl))
  | tlsHandshake o => exact .inr (.map _ (tlsHandshake_keepsHTTP c _ o))
  | smtpStartTLSHandshake o => exact .inr (.map _ (startTLSHandshake_keepsHTTP c _ _ _ _ _ o))
  | pop3StartTLSHandshake o => exact .inr (.map _ (startTLSHandshake_keepsHTTP c _ _ _ _ _ o))
  | imapStartTLSHandshake o => exact .inr (.map _ (startTLSHandshake_keepsHTTP c _ _ _ _ _ o))
  | getFTPSCertificates o => exact .inr (.map _ (getFTPSCertificates_keepsHTTP c _ o))
  | smtpBanner b o => exact .inr (.map _ (bannerBy_keepsHTTP c smtpEndRegex b o))
  | pop3Banner b o => exact .inr (.map _ (bannerBy_keepsHTTP c pop3EndRegex b o))
  | imapBanner b o => exact .inr (.map _ (bannerBy_keepsHTTP c imapStatusEndRegex b o))
  | ehlo domain o => exact .inr (.map _ (smtpCommands_keepsHTTP c domain o).1)
  | smtpHelp o => exact .inr (.map _ (smtpCommands_keepsHTTP c [] o).2)
  | checkHeartbleed o =>
    refine .inr (.map _ ?_)
    unfold Conn.checkHeartbleed
    split <;> exact .ret _ _ rfl
  | sendModbusEcho o => exact .inr (.map _ (sendModbusEcho_keepsHTTP c _ o))
  | sshHandshake o => exact .inr (.map _ (.ret _ _ rfl))

/-- The HTTP record is consistent: one redirect response per redirect request, and no body
longer than `limit` bytes. -/
structure Conn.HTTPRecordOK (limit : Int) (c : Conn) : Prop where
  paired : c.RedirectsPaired
  within : c.BodiesWithin limit

theorem Conn.HTTPRecordOK.of_same {limit : Int} {c c' : Conn} (ok : c.HTTPRecordOK limit)
    (same : c'.grabData.http = c.grabData.http) : c'.HTTPRecordOK limit := by
  obtain ⟨paired, ⟨w₁, w₂, w₃⟩⟩ := ok
  refine ⟨?_, ⟨?_, ?_, ?_⟩⟩ <;> simp only [Conn.RedirectsPaired, same] <;> assumption

/-- **The HTTP record stays consistent over every run.** From a connection whose record pairs its
redirects and holds no body longer than `limit` bytes, as a fresh one does, every run whose
`HTTP` calls cut at no more than `limit` (`1024*MaxSize`, as Go computes it) keeps both,
whatever the operations meet: the other operations never touch the record. -/
theorem run_httpRecord (g : Globals) (c : Conn) (ops : List Op) (limit : Int)
    (bounded : ∀ op ∈ ops, ∀ config o, op = .http config o → config.sizeLimit ≤ limit)
    (ok : c.HTTPRecordOK limit) {c₂ : Conn} (h : (c.run g ops).result = some (c₂, ())) :
    c₂.HTTPRecordOK limit := by
  refine run_keeps g (Conn.HTTPRecordOK limit)
    (fun op => ∀ config o, op = .http config o → config.sizeLimit ≤ limit) ?_ ops c ok bounded h
  intro c₁ op ok₁ bound₁ c' r hs
  rcases step_httpRecord g c₁ op with ⟨config, o, rfl, trace⟩ | keeps
  · exact HTTPChange.trace_keeps (fun _ _ step ok =>
      ⟨step.paired ok.paired, step.bodiesWithin (bound₁ config o rfl) ok.within⟩)
      (trace c' r hs) ok₁
  · exact ok₁.of_same (keeps c' r hs)

/-- A write, then a `GET /` that `net/http` answers with a read error. -/
def writeThenGet : List Op := [.write (ascii "PING\r\n") ⟨6, none⟩, .http getRoot silentPeer]

theorem run_httpRecord_write :
    (∀ op ∈ writeThenGet, ∀ config o, op = .http config o → config.sizeLimit ≤ 0) ∧
      freshConn.HTTPRecordOK 0 ∧
      ∃ c₂, (freshConn.run ⟨noSuites, []⟩ writeThenGet).result = some (c₂, ()) ∧
        c₂.HTTPRecordOK 0 :=
  have bounded : ∀ op ∈ writeThenGet, ∀ config o, op = .http config o → config.sizeLimit ≤ 0 := by
    rintro op hop config o rfl
    simp only [writeThenGet, List.mem_cons, reduceCtorEq, Op.http.injEq, List.mem_nil_iff,
      or_false, false_or] at hop
    rw [hop.1]
    decide
  have fresh : freshConn.HTTPRecordOK 0 := ⟨rfl, ⟨nofun, nofun, nofun⟩⟩
  ⟨bounded, fresh, _, rfl,
    run_httpRecord ⟨noSuites, []⟩ freshConn writeThenGet 0 bounded fresh rfl⟩

end TlsBannerGrab.Zlib
