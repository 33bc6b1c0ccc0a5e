import TlsBannerGrab.Go.Bytes

/-!
# Go regular expressions over bytes

`ReadUntilRegex` stops reading when `(*regexp.Regexp).Match` reports a match somewhere in the
bytes read so far. The three framing expressions of `zlib` use classes (`\d`, `\s`, `.`,
`[\s\S]`), concatenation, alternation, `*` and the anchors `^` and `$` (no `m` flag: beginning
and end of text). `Regexp.accepts r pre w post` decides whether `r` matches `w` when `pre` stands
before it and `post` after it, which is what the anchors look at; `Regexp.matchBytes` searches
every substring, as `Match` does.

Bytes stand for characters: each expression here only cuts its input next to ASCII bytes, and
an ASCII byte is always a character of its own in Go's UTF-8 decoding.

* `accepts_cls`, `accepts_cat`, `accepts_bol`, `accepts_eol`, `accepts_star_cls` — one
  equation per constructor, so proofs never unfold the matcher;
* `matchBytes_iff` — `Match` reports a match exactly when some substring, in its context, is
  accepted.
-/

namespace TlsBannerGrab.Zlib

open TlsBannerGrab.Go

/-- A character class of Go's RE2 syntax, on bytes. -/
inductive CharClass
  /-- A literal such as `\r`, `-` or `\.`. -/
  | byte (b : UInt8)
  /-- `\d`. -/
  | digit
  /-- `\s`: `[\t\n\f\r ]`. -/
  | space
  /-- `\S`. -/
  | notSpace
  /-- `.` without the `s` flag: anything but `\n`. -/
  | notNewline
  /-- `[xy]`: either class. -/
  | union (x y : CharClass)
  deriving DecidableEq, Repr

/-- An ASCII space as `\s` reads it. -/
def isSpace (b : UInt8) : Bool := b = 9 || b = 10 || b = 12 || b = 13 || b = 32

/-- Whether the class contains a byte. -/
def CharClass.test : CharClass → UInt8 → Bool
  | .byte c, b => b = c
  | .digit, b => isDigit b
  | .space, b => isSpace b
  | .notSpace, b => !isSpace b
  | .notNewline, b => b ≠ 10
  | .union x y, b => x.test b || y.test b

/-- An RE2 expression built from the operators the framing expressions use. -/
inductive Regexp
  /-- The empty expression. -/
  | empty
  | cls (c : CharClass)
  | cat (a b : Regexp)
  | alt (a b : Regexp)
  | star (a : Regexp)
  /-- `^`: beginning of text. -/
  | bol
  /-- `$`: end of text. -/
  | eol
  deriving DecidableEq, Repr

/-- All the ways to cut `w` in two. -/
def splits (w : Bytes) : List (Bytes × Bytes) :=
  (List.range (w.length + 1)).map fun k => (w.take k, w.drop k)

theorem mem_splits {w x y : Bytes} : (x, y) ∈ splits w ↔ x ++ y = w := by
  simp only [splits, List.mem_map, List.mem_range, Prod.mk.injEq]
  constructor
  · rintro ⟨k, -, rfl, rfl⟩
    exact List.take_append_drop k w
  · rintro rfl
    exact ⟨x.length, by simp; omega, by simp, by simp⟩

/-- `a*` by iterating `a` on non-empty pieces; `fuel` bounds the number of pieces. -/
def starAccepts (acc : Bytes → Bytes → Bytes → Bool) :
    Nat → Bytes → Bytes → Bytes → Bool
  | 0, _, w, _ => w.isEmpty
  | fuel + 1, pre, w, post =>
    w.isEmpty || (splits w).any fun (x, y) =>
      !x.isEmpty && acc pre x (y ++ post) && starAccepts acc fuel (pre ++ x) y post

/-- `r.accepts pre w post`: `r` matches `w` with `pre` before it and `post` after it. -/
def Regexp.accepts : Regexp → Bytes → Bytes → Bytes → Bool
  | .empty, _, w, _ => w.isEmpty
  | .cls c, _, w, _ => match w with
    | [b] => c.test b
    | _ => false
  | .cat a b, pre, w, post => (splits w).any fun (x, y) =>
    a.accepts pre x (y ++ post) && b.accepts (pre ++ x) y post
  | .alt a b, pre, w, post => a.accepts pre w post || b.accepts pre w post
  | .star a, pre, w, post => starAccepts a.accepts w.length pre w post
  | .bol, pre, w, _ => pre.isEmpty && w.isEmpty
  | .eol, _, w, post => w.isEmpty && post.isEmpty

/-- `(*regexp.Regexp).Match(s)`: some substring of `s` matches. -/
def Regexp.matchBytes (r : Regexp) (s : Bytes) : Bool :=
  (splits s).any fun (pre, rest) => (splits rest).any fun (w, post) => r.accepts pre w post

/-- A concatenation of several pieces, as RE2 reads `xyz`. -/
def Regexp.seq : List Regexp → Regexp
  | [] => .empty
  | [r] => r
  | r :: rs => .cat r (Regexp.seq rs)

/-! ## One equation per constructor -/

section Equations

variable {pre w post : Bytes}

@[simp] theorem accepts_empty : Regexp.empty.accepts pre w post = true ↔ w = [] := by
  simp [Regexp.accepts]

@[simp] theorem accepts_cls {c : CharClass} :
    (Regexp.cls c).accepts pre w post = true ↔ ∃ b, w = [b] ∧ c.test b = true := by
  match w with
  | [] => simp [Regexp.accepts]
  | [b] => simp [Regexp.accepts]
  | _ :: _ :: _ => simp [Regexp.accepts]

theorem accepts_cat {a b : Regexp} :
    (Regexp.cat a b).accepts pre w post = true ↔
      ∃ x y, w = x ++ y ∧ a.accepts pre x (y ++ post) = true ∧
        b.accepts (pre ++ x) y post = true := by
  simp only [Regexp.accepts, List.any_eq_true, Bool.and_eq_true, Prod.exists, mem_splits]
  constructor
  · rintro ⟨x, y, rfl, h⟩
    exact ⟨x, y, rfl, h⟩
  · rintro ⟨x, y, rfl, h⟩
    exact ⟨x, y, rfl, h⟩

@[simp] theorem accepts_alt {a b : Regexp} :
    (Regexp.alt a b).accepts pre w post = true ↔
      a.accepts pre w post = true ∨ b.accepts pre w post = true := by
  simp [Regexp.accepts]

@[simp] theorem accepts_bol : Regexp.bol.accepts pre w post = true ↔ pre = [] ∧ w = [] := by
  simp [Regexp.accepts]

@[simp] theorem accepts_eol : Regexp.eol.accepts pre w post = true ↔ w = [] ∧ post = [] := by
  simp [Regexp.accepts]

private theorem starAccepts_cls (c : CharClass) (fuel : Nat) (pre w post : Bytes)
    (hfuel : w.length ≤ fuel) :
    starAccepts (Regexp.cls c).accepts fuel pre w post = true ↔ ∀ b ∈ w, c.test b = true := by
  induction fuel generalizing pre w with
  | zero => simp_all [starAccepts, List.length_eq_zero]
  | succ fuel ih =>
    simp only [starAccepts, Bool.or_eq_true, List.isEmpty_iff, List.any_eq_true,
      Bool.and_eq_true, Bool.not_eq_true', Prod.exists, mem_splits, accepts_cls]
    constructor
    · rintro (rfl | ⟨x, y, rfl, ⟨-, b, rfl, hb⟩, hy⟩)
      · simp
      · rw [ih _ _ (by simp at hfuel; omega)] at hy
        simpa [hb] using hy
    · intro hall
      match w, hfuel, hall with
      | [], _, _ => exact .inl rfl
      | b :: y, hfuel, hall =>
        refine .inr ⟨[b], y, rfl, ⟨rfl, b, rfl, hall b (by simp)⟩, ?_⟩
        exact (ih _ _ (by simp at hfuel; omega)).mpr fun b' hb' => hall b' (by simp [hb'])

/-- `[…]*` matches exactly the runs of bytes of the class. -/
@[simp] theorem accepts_star_cls {c : CharClass} :
    (Regexp.star (.cls c)).accepts pre w post = true ↔ ∀ b ∈ w, c.test b = true :=
  starAccepts_cls c w.length pre w post le_rfl

/-! The three shapes of concatenation the framing expressions are built from. -/

@[simp] theorem accepts_cat_cls {c : CharClass} {r : Regexp} :
    (Regexp.cat (.cls c) r).accepts pre w post = true ↔
      ∃ b rest, w = b :: rest ∧ c.test b = true ∧
        r.accepts (pre ++ [b]) rest post = true := by
  rw [accepts_cat]
  constructor
  · rintro ⟨x, y, rfl, hx, hy⟩
    obtain ⟨b, rfl, hb⟩ := accepts_cls.mp hx
    exact ⟨b, y, rfl, hb, hy⟩
  · rintro ⟨b, rest, rfl, hb, hr⟩
    exact ⟨[b], rest, rfl, accepts_cls.mpr ⟨b, rfl, hb⟩, hr⟩

@[simp] theorem accepts_cat_star_cls {c : CharClass} {r : Regexp} :
    (Regexp.cat (.star (.cls c)) r).accepts pre w post = true ↔
      ∃ x y, w = x ++ y ∧ (∀ b ∈ x, c.test b = true) ∧
        r.accepts (pre ++ x) y post = true := by
  simp only [accepts_cat, accepts_star_cls]

@[simp] theorem accepts_cat_bol {r : Regexp} :
    (Regexp.cat .bol r).accepts pre w post = true ↔ pre = [] ∧ r.accepts pre w post = true := by
  rw [accepts_cat]
  constructor
  · rintro ⟨x, y, rfl, hx, hy⟩
    obtain ⟨rfl, rfl⟩ := accepts_bol.mp hx
    exact ⟨rfl, hy⟩
  · rintro ⟨rfl, hr⟩
    exact ⟨[], w, rfl, accepts_bol.mpr ⟨rfl, rfl⟩, hr⟩

@[simp] theorem seq_cons_cons (r s : Regexp) (rs : List Regexp) :
    Regexp.seq (r :: s :: rs) = .cat r (.seq (s :: rs)) := rfl

@[simp] theorem seq_singleton (r : Regexp) : Regexp.seq [r] = r := rfl

end Equations

/-- `Match` finds a match exactly when some substring, in its context, is accepted. -/
theorem matchBytes_iff (r : Regexp) (s : Bytes) :
    r.matchBytes s = true ↔
      ∃ pre w post, s = pre ++ (w ++ post) ∧ r.accepts pre w post = true := by
  simp only [Regexp.matchBytes, List.any_eq_true, Prod.exists, mem_splits]
  constructor
  · rintro ⟨pre, rest, rfl, w, post, rfl, h⟩
    exact ⟨pre, w, post, rfl, h⟩
  · rintro ⟨pre, w, post, rfl, h⟩
    exact ⟨pre, w ++ post, rfl, w, post, rfl, h⟩

end TlsBannerGrab.Zlib
