import TlsBannerGrab.Zlib.Conn

/-!
# Probes over the connection: Heartbleed, Modbus and SSH (`zlib/conn.go`)

`CheckHeartbleed` runs the `ztls` probe on the TLS client and refuses before the handshake.
`SendModbusEcho` writes the encoded echo request on the active stream until all of it is
written or a write fails, then reads the response. `SSHHandshake` gives the raw stream to the
SSH client.

* `checkHeartbleed_spec` — before the handshake the probe fails without a call; after it, the
  one call goes to the TLS client and the Heartbleed sentinel is reported as success;
* `writeLoop_calls` — every write of the loop goes to the active stream and sends what is left
  of the request;
* `writeLoop_returns` — the loop returns whenever each write either makes progress or fails and
  there are as many write outcomes as bytes to send.
-/

namespace TlsBannerGrab.Zlib

open TlsBannerGrab.Go TlsBannerGrab.Ztls

/-! ## Heartbleed -/

/-- What `CheckHeartbleed` meets: the probe's count and error, then `GetHeartbleedLog()`. -/
structure HeartbleedOutcome where
  n : Nat
  err : Option GoError
  log : Option Heartbleed

/-- The error of `CheckHeartbleed` before the TLS handshake. -/
def heartbleedBeforeTLSError (c : Conn) : GoError :=
  .msg (ascii "Must perform TLS handshake before sending Heartbleed probe to " ++ c.remoteAddr)

/-- `CheckHeartbleed(b)`; the buffer `b` goes to the engine with the probe. -/
def Conn.checkHeartbleed (c : Conn) (o : HeartbleedOutcome) : Outcome (Nat × Option GoError) :=
  if !c.isTls then .ret [] c (0, some (heartbleedBeforeTLSError c))
  else
    let err := if o.err = some .heartbleed then none else o.err
    .ret [c.call .tls .heartbleed] { c with grabData := { c.grabData with heartbleed := o.log } }
      (o.n, err)

/-- Before the handshake the probe fails and touches no stream; after it, its one call goes to
the TLS client, the engine's log is recorded, and the Heartbleed sentinel becomes success. -/
theorem checkHeartbleed_spec (c : Conn) (o : HeartbleedOutcome) :
    (c.isTls = false → c.checkHeartbleed o = .ret [] c (0, some (heartbleedBeforeTLSError c))) ∧
    (c.isTls = true → ∃ c', c.checkHeartbleed o =
        .ret [⟨true, .tls, .heartbleed⟩] c'
          (o.n, if o.err = some .heartbleed then none else o.err) ∧
      c'.grabData.heartbleed = o.log) := by
  refine ⟨fun h => by simp [Conn.checkHeartbleed, h], fun h => ?_⟩
  simp only [Conn.checkHeartbleed, h, Conn.call, Bool.not_true, Bool.false_eq_true, if_false]
  exact ⟨_, rfl, rfl⟩

/-! ## Modbus -/

/-- `ModbusResponse`, the fields `SendModbusEcho` reads. -/
structure ModbusResponse where
  length : Nat
  unitID : Nat
  function : UInt8
  data : Bytes

/-- What `SendModbusEcho` meets: the results of its writes, in order, then the response and
error of `GetModbusResponse()`. -/
structure ModbusOutcome where
  writes : List WriteOutcome
  response : ModbusResponse
  err : Option GoError

/-- The loop `for w < len(data)` of `SendModbusEcho`: write `data[w:]` on the active stream and
add the count, until all is written or a write fails (`true`). When the outcomes run out first,
the loop is still writing: `none`. -/
def Conn.writeLoop (c : Conn) (data : Bytes) (w : Nat) : List WriteOutcome → Outcome (Nat × Bool)
  | [] => if w < data.length then ⟨[], none⟩ else .ret [] c (w, false)
  | o :: rest =>
    if w < data.length then
      (Outcome.ret [c.call c.getUnderlyingConn (.write (data.drop w))] c (w + o.n)).andThen
        fun c w => if o.err.isSome then .ret [] c (w, true) else c.writeLoop data w rest
    else .ret [] c (w, false)

/-- "Could not write modbus request". -/
def modbusWriteError : GoError := .msg (ascii "Could not write modbus request")

/-- Modelled from the spec: `GetModbusResponse` reads the raw response from the active stream
and decodes it with the Modbus codec. -/
def Conn.getModbusResponse (c : Conn) (res : ModbusResponse) (err : Option GoError) :
    Outcome (ModbusResponse × Option GoError) :=
  .ret [c.call c.getUnderlyingConn .modbusRead] c (res, err)

/-- `SendModbusEcho()`. `request` is `req.MarshalBinary()` of the echo request, whose codec
lives outside this repository. -/
def Conn.sendModbusEcho (request : Bytes) (c : Conn) (o : ModbusOutcome) :
    Outcome (Nat × Option GoError) :=
  (c.writeLoop request 0 o.writes).andThen fun c (w, failed) =>
    if failed then
      .ret [] { c with grabData := { c.grabData with modbus := some ⟨0, 0, 0, []⟩ } }
        (w, some modbusWriteError)
    else
      (c.getModbusResponse o.response o.err).andThen fun c (res, err) =>
        .ret [] { c with grabData := { c.grabData with
          modbus := some ⟨res.length, res.unitID, res.function, res.data⟩ } } (w, err)

/-- Every write of the loop goes to the active stream and sends the rest of the request from
some offset; the loop leaves the connection as it was. -/
theorem writeLoop_calls (c : Conn) (data : Bytes) (w : Nat) (outs : List WriteOutcome) :
    (∀ k ∈ (c.writeLoop data w outs).calls,
      ∃ i, k = c.call c.getUnderlyingConn (.write (data.drop i))) ∧
    ∀ c' r, (c.writeLoop data w outs).result = some (c', r) → c' = c := by
  induction outs generalizing w with
  | nil =>
    unfold Conn.writeLoop
    split <;> simp
  | cons o rest ih =>
    unfold Conn.writeLoop
    split
    · -- one write, then the rest of the loop
      obtain ⟨ihc, ihr⟩ := ih (w + o.n)
      simp only [Outcome.ret_andThen]
      split
      · simp only [List.append_nil, List.mem_singleton, forall_eq, Outcome.ret_calls,
          Outcome.ret_result, Option.some.injEq, Prod.mk.injEq]
        exact ⟨⟨w, rfl⟩, fun _ _ h => h.1.symm⟩
      · exact ⟨by simpa using ⟨⟨w, rfl⟩, ihc⟩, ihr⟩
    · simp

/-- **The loop returns** when every write sends at least one byte or fails, and there is an
outcome for each byte still to send. -/
theorem writeLoop_returns (c : Conn) (data : Bytes) (w : Nat) (outs : List WriteOutcome)
    (progress : ∀ o ∈ outs, 0 < o.n ∨ o.err.isSome)
    (enough : data.length - w ≤ outs.length) :
    ∃ w' failed, (c.writeLoop data w outs).result = some (c, w', failed) ∧
      (failed = false → data.length ≤ w') := by
  induction outs generalizing w with
  | nil =>
    have done : ¬ w < data.length := by simp at enough; omega
    exact ⟨w, false, by simp [Conn.writeLoop, done], fun _ => by omega⟩
  | cons o rest ih =>
    unfold Conn.writeLoop
    split
    · simp only [Outcome.ret_andThen]
      split
      · exact ⟨_, true, rfl, by simp⟩
      · -- no error: this write made progress, so the rest has enough outcomes
        rename_i hw herr
        have step : 0 < o.n := by simpa [herr] using progress o (by simp)
        exact ih (w + o.n) (fun o' h => progress o' (by simp [h]))
          (by simp at enough; omega)
    · exact ⟨w, false, rfl, fun _ => by omega⟩

/-- Two one-byte writes, each a success. -/
def twoWrites : List WriteOutcome := [⟨1, none⟩, ⟨1, none⟩]

theorem writeLoop_returns_two_writes :
    (∀ o ∈ twoWrites, 0 < o.n ∨ o.err.isSome) ∧
      ([1, 2] : Bytes).length - 0 ≤ twoWrites.length ∧
      ∃ w' failed,
        (freshConn.writeLoop [1, 2] 0 twoWrites).result = some (freshConn, w', failed) ∧
        (failed = false → ([1, 2] : Bytes).length ≤ w') :=
  ⟨by decide, by decide, writeLoop_returns freshConn [1, 2] 0 twoWrites (by decide) (by decide)⟩

theorem checkHeartbleed_plain (c : Conn) (o : HeartbleedOutcome) :
    (c.checkHeartbleed o).Plain c := by
  unfold Conn.checkHeartbleed
  split
  · exact .ret _ (.refl c) (by simp)
  · -- on TLS, the TLS client is the active stream
    rename_i h
    simp only [Bool.not_eq_true', Bool.not_eq_false] at h
    exact .ret _ ⟨rfl, rfl, rfl, rfl, rfl⟩
      (by simp [Call.Plain, Call.OnActive, Conn.call, activeLayer, h])

theorem writeLoop_plain (c : Conn) (data : Bytes) (w : Nat) (outs : List WriteOutcome) :
    (c.writeLoop data w outs).Plain c := by
  obtain ⟨calls, result⟩ := writeLoop_calls c data w outs
  refine ⟨fun k hk => ?_, fun c' a h => result c' a h ▸ .refl c⟩
  obtain ⟨i, rfl⟩ := calls k hk
  exact c.call_plain (by simp)

theorem sendModbusEcho_plain (request : Bytes) (c : Conn) (o : ModbusOutcome) :
    (c.sendModbusEcho request o).Plain c := by
  refine .andThen (writeLoop_plain c request 0 o.writes) fun c' r _ => ?_
  rcases r with ⟨w, failed⟩
  dsimp only
  split
  · exact .ret _ ⟨rfl, rfl, rfl, rfl, rfl⟩ (by simp)
  · exact .andThen (.active _ _ (.refl c') (by simp)) fun _ _ _ =>
      .ret _ ⟨rfl, rfl, rfl, rfl, rfl⟩ (by simp)

/-! ## SSH -/

/-- What the SSH client gives `SSHHandshake`: `HandshakeLog()` and the handshake's error. -/
structure SSHOutcome where
  log : Option SSHHandshakeLog
  err : Option GoError

/-- `SSHHandshake()`: the raw stream `c.conn` goes to `ssh.Client`, whether or not the connection
is on TLS, and the client's log is recorded. -/
def Conn.sshHandshake (c : Conn) (o : SSHOutcome) : Outcome (Option GoError) :=
  .ret [c.call .raw .sshClient] { c with grabData := { c.grabData with ssh := o.log } } o.err

end TlsBannerGrab.Zlib
