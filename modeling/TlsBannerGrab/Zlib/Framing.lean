import TlsBannerGrab.Zlib.Regexp

/-!
# Response framing (`zlib/conn.go`)

The STARTTLS and banner reads stop once the bytes read so far match a protocol's end
expression:

* `smtpEndRegex` — `(?:^\d\d\d\s.*\r\n$)|(?:^\d\d\d-[\s\S]*\r\n\d\d\d\s.*\r\n$)`;
* `pop3EndRegex` — `(?:\r\n\.\r\n$)|(?:\r\n$)`;
* `imapStatusEndRegex` — `\r\n$`.

`smtpEndRegex_iff` says what the SMTP expression accepts in plain terms: one line made of three
digits, a `\s` byte, bytes other than `LF` and `CRLF`, or such a line after a block that starts
with three digits and `-`. `pop3EndRegex_iff` shows that the POP3 expression accepts every input
ending in `CRLF` (its first alternative adds nothing), like the IMAP one.

`readUntilRegex` is `util.ReadUntilRegex`, which lives outside this repository.
-/

namespace TlsBannerGrab.Zlib

open TlsBannerGrab.Go

/-- A one-byte literal. -/
def lit (b : UInt8) : Regexp := .cls (.byte b)

/-- `smtpEndRegex`. -/
def smtpEndRegex : Regexp :=
  .alt
    (.seq [.bol, .cls .digit, .cls .digit, .cls .digit, .cls .space, .star (.cls .notNewline),
      lit 13, lit 10, .eol])
    (.seq [.bol, .cls .digit, .cls .digit, .cls .digit, lit 45,
      .star (.cls (.union .space .notSpace)), lit 13, lit 10,
      .cls .digit, .cls .digit, .cls .digit, .cls .space, .star (.cls .notNewline),
      lit 13, lit 10, .eol])

/-- `pop3EndRegex`. -/
def pop3EndRegex : Regexp :=
  .alt (.seq [lit 13, lit 10, lit 46, lit 13, lit 10, .eol]) (.seq [lit 13, lit 10, .eol])

/-- `imapStatusEndRegex`. -/
def imapStatusEndRegex : Regexp := .seq [lit 13, lit 10, .eol]

/-! ## What the SMTP expression accepts -/

/-- `\d\d\d\s.*\r\n$`, the line both alternatives of `smtpEndRegex` end with. -/
def endLineRegex : Regexp :=
  .seq [.cls .digit, .cls .digit, .cls .digit, .cls .space, .star (.cls .notNewline),
    lit 13, lit 10, .eol]

theorem smtpEndRegex_eq : smtpEndRegex = .alt (.cat .bol endLineRegex)
    (.seq [.bol, .cls .digit, .cls .digit, .cls .digit, lit 45,
      .star (.cls (.union .space .notSpace)), lit 13, lit 10, endLineRegex]) := rfl

/-- The line `endLineRegex` accepts: three digits, a `\s` byte, bytes other than `LF`, `CRLF`. -/
def EndLine (y : Bytes) : Prop :=
  ∃ d1 d2 d3 sp m, y = d1 :: d2 :: d3 :: sp :: (m ++ [13, 10]) ∧
    isDigit d1 ∧ isDigit d2 ∧ isDigit d3 ∧ isSpace sp ∧ ∀ b ∈ m, b ≠ 10

theorem endLineRegex_accepts {pre w post : Bytes} :
    endLineRegex.accepts pre w post = true ↔ post = [] ∧ EndLine w := by
  simp only [endLineRegex, lit, seq_cons_cons, seq_singleton, accepts_cat_cls,
    accepts_cat_star_cls, accepts_eol, CharClass.test, decide_eq_true_eq]
  constructor
  · rintro ⟨d1, _, rfl, h1, d2, _, rfl, h2, d3, _, rfl, h3, sp, _, rfl, hsp, m, _, rfl, hm,
      _, _, rfl, rfl, _, _, rfl, rfl, rfl, rfl⟩
    exact ⟨rfl, d1, d2, d3, sp, m, rfl, h1, h2, h3, hsp, hm⟩
  · rintro ⟨rfl, d1, d2, d3, sp, m, rfl, h1, h2, h3, hsp, hm⟩
    exact ⟨d1, _, rfl, h1, d2, _, rfl, h2, d3, _, rfl, h3, sp, _, rfl, hsp, m, _, rfl, hm,
      _, _, rfl, rfl, _, _, rfl, rfl, rfl, rfl⟩

/-- `smtpEndRegex` in plain terms. -/
theorem smtpEndRegex_iff (s : Bytes) :
    smtpEndRegex.matchBytes s = true ↔
      EndLine s ∨ ∃ d1 d2 d3 x y, s = d1 :: d2 :: d3 :: 45 :: (x ++ 13 :: 10 :: y) ∧
        isDigit d1 ∧ isDigit d2 ∧ isDigit d3 ∧ EndLine y := by
  simp only [matchBytes_iff, smtpEndRegex_eq, lit, seq_cons_cons, seq_singleton, accepts_alt,
    accepts_cat_bol, accepts_cat_cls, accepts_cat_star_cls, endLineRegex_accepts,
    CharClass.test, decide_eq_true_eq]
  constructor
  · rintro ⟨pre, w, post, rfl, ⟨rfl, rfl, hw⟩ |
      ⟨rfl, d1, _, rfl, h1, d2, _, rfl, h2, d3, _, rfl, h3, _, _, rfl, rfl, x, _, rfl, -, _, _,
        rfl, rfl, _, _, rfl, rfl, rfl, hy⟩⟩
    · simpa using Or.inl hw
    · exact Or.inr ⟨d1, d2, d3, x, _, by simp, h1, h2, h3, hy⟩
  · rintro (hs | ⟨d1, d2, d3, x, y, rfl, h1, h2, h3, hy⟩)
    · exact ⟨[], s, [], by simp, Or.inl ⟨rfl, rfl, hs⟩⟩
    · exact ⟨[], _, [], by simp, Or.inr ⟨rfl, d1, _, rfl, h1, d2, _, rfl, h2, d3, _, rfl, h3,
        _, _, rfl, rfl, x, _, rfl, by simp, _, _, rfl, rfl, _, _, rfl, rfl, rfl, hy⟩⟩

/-! ## POP3 and IMAP -/

/-- `\r\n$` matches exactly the inputs ending in `CRLF`. -/
theorem imapStatusEndRegex_iff (s : Bytes) :
    imapStatusEndRegex.matchBytes s = true ↔ ∃ x, s = x ++ [13, 10] := by
  simp only [matchBytes_iff, imapStatusEndRegex, lit, seq_cons_cons, seq_singleton,
    accepts_cat_cls, accepts_eol, CharClass.test, decide_eq_true_eq]
  constructor
  · rintro ⟨pre, _, _, rfl, _, _, rfl, rfl, _, _, rfl, rfl, rfl, rfl⟩
    exact ⟨pre, by simp⟩
  · rintro ⟨x, rfl⟩
    exact ⟨x, _, [], by simp, _, _, rfl, rfl, _, _, rfl, rfl, rfl, rfl⟩

/-- The POP3 expression matches exactly what the IMAP one does: `\r\n\.\r\n$` already ends in
`\r\n$`. -/
theorem pop3EndRegex_iff (s : Bytes) :
    pop3EndRegex.matchBytes s = true ↔ ∃ x, s = x ++ [13, 10] := by
  rw [← imapStatusEndRegex_iff]
  simp only [matchBytes_iff, pop3EndRegex, imapStatusEndRegex, accepts_alt]
  constructor
  · rintro ⟨pre, w, post, rfl, h | h⟩
    · simp only [lit, seq_cons_cons, seq_singleton, accepts_cat_cls, accepts_eol,
        CharClass.test, decide_eq_true_eq] at h
      obtain ⟨_, _, rfl, rfl, _, _, rfl, rfl, _, _, rfl, rfl, _, _, rfl, rfl, _, _, rfl, rfl,
        rfl, rfl⟩ := h
      exact ⟨pre ++ [13, 10, 46], [13, 10], [], by simp, by simp [lit, CharClass.test]⟩
    · exact ⟨pre, w, post, rfl, h⟩
  · rintro ⟨pre, w, post, rfl, h⟩
    exact ⟨pre, w, post, rfl, .inr h⟩

/-! ## Reading until a match -/

/-- Modelled from the spec: `util.ReadUntilRegex(conn, res, expr)` "reads a response framed by a
protocol-specific terminator pattern": it reads into `res`, tests the bytes accumulated so far
after each read, and stops at the first match or the first failed read. `reads` are the
successive results of `Read`; `none` means the loop is still reading when they run out. The loop
has no buffer: how `util.ReadUntilRegex` treats a full `res` is not in this repository, and a
bound here would be a guess about it. The buffer enters at `Conn.readResponse`, which copies the
bytes read into it, and the callers' `b[0:n]` panics on more bytes than it holds. -/
def readUntilRegex (expr : Regexp) (acc : Bytes) :
    List (Bytes × Option GoError) → Option (Bytes × Option GoError)
  | [] => none
  | (data, err) :: reads =>
    match err with
    | some e => some (acc ++ data, some e)
    | none =>
      if expr.matchBytes (acc ++ data) then some (acc ++ data, none)
      else readUntilRegex expr (acc ++ data) reads

end TlsBannerGrab.Zlib
