import TlsBannerGrab.Zlib.Framing

/-!
# SMTP replies and `smtpEndRegex`

SMTP replies: continuation lines `DDD-[text]CRLF`, then one final line
`DDD[ SP text]CRLF`, a text being one or more bytes of `HT` or printable ASCII. `ReplyCode` and
`ReplyText` carry these conditions, so every `SmtpReply` renders to a well-formed reply.

`readSmtpResponse` tests `smtpEndRegex` on the bytes accumulated after each read, so it frames
replies correctly when the expression matches a prefix of a reply exactly when the prefix is the
whole reply. It does for every reply whose final line carries a text, and matches no prefix at
all of a reply whose final line is a bare code such as `250\r\n`: `\s.*\r\n` needs three
bytes after the code where `\r\n` has two.

* `flatten_eq_crlf`, `endLine_suffix` — a `CRLF` in a reply ends a line, and a line the
  expression recognises at a line boundary is the final line;
* `smtpEndRegex_frames_reply` — the prefix characterisation, and what the read loop returns
  however the reply is cut into reads;
* `smtpEndRegex_misses_bare_reply` — `250\r\n` is never matched.
-/

namespace TlsBannerGrab.Zlib

open TlsBannerGrab.Go

/-! ## Replies -/

/-- A reply code: three ASCII digits. -/
structure ReplyCode where
  d1 : UInt8
  d2 : UInt8
  d3 : UInt8
  digits : isDigit d1 ∧ isDigit d2 ∧ isDigit d3

/-- A byte that is not a digit is none of the code's. -/
theorem ReplyCode.ne_of_not_isDigit (c : ReplyCode) {b : UInt8} (hb : isDigit b = false) :
    b ≠ c.d1 ∧ b ≠ c.d2 ∧ b ≠ c.d3 := by
  obtain ⟨h1, h2, h3⟩ := c.digits
  refine ⟨?_, ?_, ?_⟩ <;> rintro rfl <;> simp_all

/-- The text of a reply line: one or more bytes, each `HT` or printable ASCII. -/
structure ReplyText where
  bytes : Bytes
  ne_nil : bytes ≠ []
  textual : ∀ b ∈ bytes, b = 9 ∨ (32 ≤ b.toNat ∧ b.toNat ≤ 126)

theorem ReplyText.cr_not_mem (t : ReplyText) : (13 : UInt8) ∉ t.bytes := by
  intro h
  rcases t.textual 13 h with h | h
  · cases h
  · exact absurd h.1 (by decide)

theorem ReplyText.lf_not_mem (t : ReplyText) : (10 : UInt8) ∉ t.bytes := by
  intro h
  rcases t.textual 10 h with h | h
  · cases h
  · exact absurd h.1 (by decide)

/-- The optional text of a continuation line. -/
def textBytes : Option ReplyText → Bytes
  | some t => t.bytes
  | none => []

theorem textBytes_cr (t : Option ReplyText) : (13 : UInt8) ∉ textBytes t := by
  cases t with
  | none => simp [textBytes]
  | some t => exact t.cr_not_mem

/-- `DDD-[text]CRLF`. -/
def continuationLine (code : ReplyCode) (text : Option ReplyText) : Bytes :=
  code.d1 :: code.d2 :: code.d3 :: 45 :: (textBytes text ++ [13, 10])

/-- `DDD[ SP text]CRLF`. -/
def finalLine (code : ReplyCode) (text : Option ReplyText) : Bytes :=
  code.d1 :: code.d2 :: code.d3 ::
    (match text with
      | some t => 32 :: (t.bytes ++ [13, 10])
      | none => [13, 10])

/-- A well-formed SMTP reply. -/
structure SmtpReply where
  continuations : List (ReplyCode × Option ReplyText)
  finalCode : ReplyCode
  finalText : Option ReplyText

/-- The reply's lines, in order. -/
def SmtpReply.lines (r : SmtpReply) : List Bytes :=
  r.continuations.map (fun l => continuationLine l.1 l.2) ++ [finalLine r.finalCode r.finalText]

/-- The reply on the wire. -/
def SmtpReply.render (r : SmtpReply) : Bytes := r.lines.flatten

/-! ## Line structure -/

/-- A line: a body without `CR`, then `CRLF`. -/
def IsLine (l : Bytes) : Prop := ∃ body, l = body ++ [13, 10] ∧ (13 : UInt8) ∉ body

theorem isLine_continuationLine (c : ReplyCode) (t : Option ReplyText) :
    IsLine (continuationLine c t) := by
  obtain ⟨h1, h2, h3⟩ := c.ne_of_not_isDigit (b := 13) rfl
  refine ⟨c.d1 :: c.d2 :: c.d3 :: 45 :: textBytes t, by simp [continuationLine], ?_⟩
  simp only [List.mem_cons, not_or]
  exact ⟨h1, h2, h3, by decide, textBytes_cr t⟩

theorem isLine_finalLine (c : ReplyCode) (t : Option ReplyText) : IsLine (finalLine c t) := by
  obtain ⟨h1, h2, h3⟩ := c.ne_of_not_isDigit (b := 13) rfl
  cases t with
  | none =>
    refine ⟨[c.d1, c.d2, c.d3], by simp [finalLine], ?_⟩
    simp [h1, h2, h3]
  | some t =>
    refine ⟨c.d1 :: c.d2 :: c.d3 :: 32 :: t.bytes, by simp [finalLine], ?_⟩
    simp only [List.mem_cons, not_or]
    exact ⟨h1, h2, h3, by decide, t.cr_not_mem⟩

theorem SmtpReply.isLine_lines (r : SmtpReply) : ∀ l ∈ r.lines, IsLine l := by
  simp only [SmtpReply.lines, List.mem_append, List.mem_map, List.mem_singleton]
  rintro l (⟨⟨c, t⟩, -, rfl⟩ | rfl)
  · exact isLine_continuationLine c t
  · exact isLine_finalLine _ _

/-- A `CRLF` in a run of lines ends one of them. -/
theorem flatten_eq_crlf {lines : List Bytes} (hl : ∀ l ∈ lines, IsLine l) {x w : Bytes}
    (h : lines.flatten = x ++ 13 :: 10 :: w) :
    ∃ j, x ++ [13, 10] = (lines.take j).flatten ∧ w = (lines.drop j).flatten := by
  induction lines generalizing x with
  | nil => simp at h
  | cons l rest ih =>
    obtain ⟨body, rfl, hbody⟩ := hl l (by simp)
    simp only [List.flatten_cons, List.append_assoc, List.cons_append, List.nil_append] at h
    rcases List.append_eq_append_iff.mp h with ⟨a, rfl, ha⟩ | ⟨c, rfl, hc⟩
    · rcases a with _ | ⟨_, _ | ⟨_, a⟩⟩
      · simp at ha
        exact ⟨1, by simp, by simp [ha]⟩
      · simp at ha
      · simp only [List.cons_append, List.cons.injEq] at ha
        obtain ⟨rfl, rfl, ha⟩ := ha
        obtain ⟨j, hj, rfl⟩ := ih (fun l hl' => hl l (by simp [hl'])) ha
        exact ⟨j + 1, by simp [← hj], by simp⟩
    · rcases c with _ | ⟨_, c⟩
      · simp at hc
        exact ⟨1, by simp, by simp [hc]⟩
      · simp only [List.cons_append, List.cons.injEq] at hc
        obtain ⟨rfl, -⟩ := hc
        exact absurd (by simp) hbody

/-- Two `CRLF`-terminated runs agree when neither can hold the other's terminator. -/
theorem crlf_cancel {m t u v : Bytes} (hm : (10 : UInt8) ∉ m) (ht : (13 : UInt8) ∉ t)
    (h : m ++ 13 :: 10 :: u = t ++ 13 :: 10 :: v) : m = t ∧ u = v := by
  induction t generalizing m with
  | nil =>
    rcases m with _ | ⟨_, _ | ⟨_, m⟩⟩
    · simpa using h
    · simp at h
    · simp only [List.cons_append, List.nil_append, List.cons.injEq] at h
      obtain ⟨rfl, rfl, -⟩ := h
      simp at hm
  | cons a t ih =>
    rcases m with _ | ⟨b, m⟩
    · simp only [List.nil_append, List.cons_append, List.cons.injEq] at h
      obtain ⟨rfl, -⟩ := h
      simp at ht
    · simp only [List.cons_append, List.cons.injEq] at h
      obtain ⟨rfl, h⟩ := h
      obtain ⟨rfl, rfl⟩ := ih (by simp_all) (by simp_all) h
      exact ⟨rfl, rfl⟩

/-! ## Where the expression can match -/

/-- A final line the expression recognises is a final line with a text, and nothing follows. -/
theorem endLine_finalLine {y z : Bytes} {c : ReplyCode} {t : Option ReplyText} (hy : EndLine y)
    (h : y ++ z = finalLine c t) : t.isSome ∧ y = finalLine c t ∧ z = [] := by
  obtain ⟨d1, d2, d3, sp, m, rfl, -, -, -, hsp, hm⟩ := hy
  have hm' : (10 : UInt8) ∉ m := fun h => hm 10 h rfl
  cases t with
  | none =>
    rcases m with _ | ⟨b, m⟩ <;> simp [finalLine] at h
  | some t =>
    simp only [finalLine, List.cons_append, List.append_assoc, List.cons.injEq] at h
    obtain ⟨rfl, rfl, rfl, rfl, h⟩ := h
    obtain ⟨rfl, rfl⟩ := crlf_cancel hm' t.cr_not_mem (by simpa using h)
    simp [finalLine]

/-- A recognised final line starting at a line boundary of a reply is the reply's last line,
and it carries a text. -/
theorem endLine_suffix {r : SmtpReply} {y z : Bytes} (j : Nat) (hy : EndLine y)
    (h : y ++ z = (r.lines.drop j).flatten) :
    r.finalText.isSome ∧ y = finalLine r.finalCode r.finalText ∧ z = [] := by
  obtain ⟨d1, d2, d3, sp, m, rfl, -, -, -, hsp, -⟩ := id hy
  rw [SmtpReply.lines, List.drop_append_eq_append_drop, ← List.map_drop] at h
  rcases hc : r.continuations.drop j with _ | ⟨⟨c, t⟩, cs⟩
  · -- past the continuation lines: only the final line, or nothing, is left
    rw [hc, List.length_map] at h
    rcases hk : j - r.continuations.length with _ | k
    · simp only [hk, List.map_nil, List.nil_append, List.drop_zero, List.flatten_singleton] at h
      exact endLine_finalLine hy h
    · simp [hk] at h
  · -- a continuation line starts with `DDD-`, and `-` is no `\s`
    simp only [hc, List.map_cons, List.flatten_cons, continuationLine, List.cons_append,
      List.append_assoc, List.cons.injEq] at h
    obtain ⟨-, -, -, rfl, -⟩ := h
    simp [isSpace] at hsp

/-- Lines after a `CRLF` leave the run ending in `CRLF`. -/
theorem ends_crlf (ls : List Bytes) (hl : ∀ l ∈ ls, IsLine l) (a : Bytes) :
    ∃ x, a ++ 13 :: 10 :: ls.flatten = x ++ [13, 10] := by
  induction ls generalizing a with
  | nil => exact ⟨a, rfl⟩
  | cons l ls ih =>
    obtain ⟨body, rfl, -⟩ := hl l (by simp)
    obtain ⟨x, hx⟩ := ih (fun l hl' => hl l (by simp [hl'])) (a ++ 13 :: 10 :: body)
    exact ⟨x, by simpa using hx⟩

/-- A reply whose final line has a text matches. -/
theorem smtpEndRegex_render {r : SmtpReply} (ht : r.finalText.isSome) :
    smtpEndRegex.matchBytes r.render = true := by
  obtain ⟨t, ht⟩ := Option.isSome_iff_exists.mp ht
  have hfinal : EndLine (finalLine r.finalCode r.finalText) := by
    obtain ⟨h1, h2, h3⟩ := r.finalCode.digits
    rw [ht]
    exact ⟨_, _, _, 32, t.bytes, rfl, h1, h2, h3, rfl, fun b hb h => t.lf_not_mem (h ▸ hb)⟩
  rw [smtpEndRegex_iff]
  rcases hc : r.continuations with _ | ⟨⟨c, ct⟩, cs⟩
  · simpa [SmtpReply.render, SmtpReply.lines, hc] using Or.inl hfinal
  · right
    obtain ⟨x, hx⟩ := ends_crlf (cs.map fun l => continuationLine l.1 l.2)
      (fun l hl => by
        obtain ⟨⟨c', t'⟩, -, rfl⟩ := List.mem_map.mp hl
        exact isLine_continuationLine c' t') (textBytes ct)
    obtain ⟨h1, h2, h3⟩ := c.digits
    refine ⟨c.d1, c.d2, c.d3, x, _, ?_, h1, h2, h3, hfinal⟩
    have hcl : continuationLine c ct = c.d1 :: c.d2 :: c.d3 :: 45 :: (textBytes ct ++ [13, 10]) :=
      rfl
    simp only [SmtpReply.render, SmtpReply.lines, hc, List.map_cons, List.cons_append,
      List.flatten_cons, hcl, List.flatten_append, List.flatten_singleton, List.append_assoc]
    simpa using congrArg (· ++ finalLine r.finalCode r.finalText) hx

theorem smtpEndRegex_prefix_iff (r : SmtpReply) (p : Bytes) (hp : p <+: r.render) :
    smtpEndRegex.matchBytes p = true ↔ p = r.render ∧ r.finalText.isSome := by
  constructor
  · intro hm
    obtain ⟨z, hz⟩ := hp
    rcases (smtpEndRegex_iff p).mp hm with hy | ⟨d1, d2, d3, x, y, rfl, -, -, -, hy⟩
    · -- a single final line: the reply's first line is its last
      obtain ⟨ht, -, rfl⟩ := endLine_suffix 0 hy (by simpa [SmtpReply.render] using hz)
      exact ⟨by simpa using hz, ht⟩
    · -- a continuation block: the final line starts right after one of its CRLFs
      obtain ⟨j, -, hj⟩ := flatten_eq_crlf r.isLine_lines (x := d1 :: d2 :: d3 :: 45 :: x)
        (w := y ++ z) (by simpa [SmtpReply.render] using hz.symm)
      obtain ⟨ht, -, rfl⟩ := endLine_suffix j hy hj
      exact ⟨by simpa using hz, ht⟩
  · rintro ⟨rfl, ht⟩
    exact smtpEndRegex_render ht
/-! ## The read loop -/

theorem readUntilRegex_text {r : SmtpReply} (ht : r.finalText.isSome) (acc : Bytes)
    (chunks : List Bytes) (hne : chunks ≠ []) (h : acc ++ chunks.flatten = r.render) :
    readUntilRegex smtpEndRegex acc (chunks.map fun c => (c, none)) = some (r.render, none) := by
  induction chunks generalizing acc with
  | nil => exact absurd rfl hne
  | cons c cs ih =>
    have hpre : acc ++ c <+: r.render := ⟨cs.flatten, by simpa using h⟩
    simp only [List.map_cons, readUntilRegex]
    split
    · rename_i hm
      rw [((smtpEndRegex_prefix_iff r _ hpre).mp hm).1]
    · rename_i hm
      have hcs : cs ≠ [] := by
        rintro rfl
        exact hm ((smtpEndRegex_prefix_iff r _ hpre).mpr ⟨by simpa using h, ht⟩)
      exact ih (acc ++ c) hcs (by simpa using h)

theorem readUntilRegex_bare {r : SmtpReply} (ht : r.finalText = none) (acc : Bytes)
    (chunks : List Bytes) (h : acc ++ chunks.flatten = r.render) :
    readUntilRegex smtpEndRegex acc (chunks.map fun c => (c, none)) = none := by
  induction chunks generalizing acc with
  | nil => rfl
  | cons c cs ih =>
    have hpre : acc ++ c <+: r.render := ⟨cs.flatten, by simpa using h⟩
    have hm : smtpEndRegex.matchBytes (acc ++ c) = false := by
      simpa [ht] using (smtpEndRegex_prefix_iff r _ hpre).not
    simp only [List.map_cons, readUntilRegex, hm]
    exact ih (acc ++ c) (by simpa using h)

/-- **SMTP framing.** On a well-formed reply whose final line carries a text, `smtpEndRegex`
matches a prefix exactly when the prefix is the whole reply, so `readSmtpResponse` stops on the
read that completes the reply and not before, however the reply is cut into reads; on a reply
whose final line is a bare code it matches no prefix, and the loop reads on. -/
theorem smtpEndRegex_frames_reply (r : SmtpReply) :
    (∀ p, p <+: r.render →
      (smtpEndRegex.matchBytes p = true ↔ p = r.render ∧ r.finalText.isSome)) ∧
    ∀ chunks : List Bytes, chunks.flatten = r.render →
      readUntilRegex smtpEndRegex [] (chunks.map fun c => (c, none)) =
        if r.finalText.isSome then some (r.render, none) else none := by
  refine ⟨smtpEndRegex_prefix_iff r, fun chunks h => ?_⟩
  split
  · rename_i ht
    have hne : r.render ≠ [] := by simp [SmtpReply.render, SmtpReply.lines, finalLine]
    refine readUntilRegex_text ht [] chunks ?_ (by simpa using h)
    rintro rfl
    exact hne h.symm
  · rename_i ht
    exact readUntilRegex_bare (Option.not_isSome_iff_eq_none.mp ht) [] chunks (by simpa using h)

/-- The reply `250\r\n`: a final line with no text. -/
def bareReply : SmtpReply := ⟨[], ⟨50, 53, 48, by decide⟩, none⟩

theorem smtpEndRegex_misses_bare_reply :
    ¬ ∀ (r : SmtpReply) (p : Bytes), p <+: r.render →
      (smtpEndRegex.matchBytes p = true ↔ p = r.render) := by
  intro h
  have := (h bareReply bareReply.render (List.prefix_refl _)).mpr rfl
  revert this
  decide

end TlsBannerGrab.Zlib
