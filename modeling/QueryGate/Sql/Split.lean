import QueryGate.Sql.Segment

/-!
# Splitting an SQL text into segments

One pass from left to right. At each position either a quoted text or a comment begins, and its
extent is scanned at once, or the character is code. Each scan hands back a shorter rest, which is
why the pass ends.

## Main definitions

* `QuoteMark.scan` — the inside of a quoted text
* `scanBlock` — the inside of a block comment
* `segmentAt?` — the quoted text or comment that begins a text, if one does
* `split` — the segments of a text

## Main statements

* `length_rest_lt_of_segmentAt?` — a segment takes at least one character
-/

namespace QueryGate.Sql

/-- What a scan for a closing delimiter finds: the text before it, whether it is there at all, and
the text after it. -/
structure Enclosed where
  inside : List Char
  closed : Bool
  rest : List Char
  deriving Repr, DecidableEq

/-- The same finding with more text in front of the inside. -/
def Enclosed.after (front : List Char) (e : Enclosed) : Enclosed :=
  { e with inside := front ++ e.inside }

/-- Scans a quoted text after its opening mark. A doubled mark stands for the mark itself, and so
does a mark after a backslash where backslashes protect. -/
def QuoteMark.scan (mark : QuoteMark) : List Char → Enclosed
  | [] => ⟨[], false, []⟩
  | [c] => if c == mark.char then ⟨[], true, []⟩ else ⟨[c], false, []⟩
  | c :: d :: rest =>
    -- The backslash comes first: a mark that it protects closes nothing.
    if c == '\\' && mark.escapes then (scan mark rest).after [c, d]
    else if c == mark.char then
      if d == mark.char then (scan mark rest).after [c, d] else ⟨[], true, d :: rest⟩
    else (scan mark (d :: rest)).after [c]

/-- Scans a block comment after its opening `/*`, up to the first `*/`. -/
def scanBlock : List Char → Enclosed
  | [] => ⟨[], false, []⟩
  | [c] => ⟨[c], false, []⟩
  | c :: d :: rest =>
    if c == '*' && d == '/' then ⟨[], true, rest⟩ else (scanBlock (d :: rest)).after [c]

/-- The comment with the given inside: executable if the inside begins with one of the marks. -/
def commentOf (inside : List Char) (closed : Bool) : Segment :=
  -- The digits of a version are read off the inside, so they never reach past the closing `*/`.
  match inside with
  | '!' :: run => executable .anyServer run
  | 'M' :: '!' :: run => executable .mariaDb run
  | _ => .blockComment inside closed
where
  executable (mark : ExecutableMark) (run : List Char) : Segment :=
    .executableComment mark (run.takeWhile Text.isDecimalDigit) (run.dropWhile Text.isDecimalDigit)
      closed

/-- The line comment whose text begins after the given mark, and the text from the end of its line
on. -/
def lineFrom (mark : LineMark) (text : List Char) : Segment × List Char :=
  (.lineComment mark (text.takeWhile (· != '\n')), text.dropWhile (· != '\n'))

/-- The quoted text or comment that begins a text, and what follows it. -/
def segmentAt? : List Char → Option (Segment × List Char)
  | [] => none
  | '#' :: rest => some (lineFrom .hash rest)
  | '-' :: '-' :: rest => some (lineFrom .dashes rest)
  | '/' :: '*' :: rest =>
    let found := scanBlock rest
    some (commentOf found.inside found.closed, found.rest)
  | c :: rest =>
    (QuoteMark.ofChar? c).map fun mark =>
      let found := mark.scan rest
      (.quoted mark found.inside found.closed, found.rest)

@[simp] theorem Enclosed.rest_after (front : List Char) (e : Enclosed) :
    (e.after front).rest = e.rest := rfl

theorem QuoteMark.length_rest_scan (mark : QuoteMark) (text : List Char) :
    (mark.scan text).rest.length ≤ text.length := by
  fun_induction QuoteMark.scan mark text <;> grind [Enclosed.after]

theorem length_rest_scanBlock (text : List Char) :
    (scanBlock text).rest.length ≤ text.length := by
  fun_induction scanBlock text <;> grind [Enclosed.after]

theorem length_rest_lineFrom (mark : LineMark) (text : List Char) :
    (lineFrom mark text).2.length ≤ text.length :=
  (List.dropWhile_suffix _).length_le

/-- A quoted text or comment takes at least one character. -/
theorem length_rest_lt_of_segmentAt? {text rest : List Char} {segment : Segment}
    (h : segmentAt? text = some (segment, rest)) : rest.length < text.length := by
  fun_cases segmentAt? text with
  | case1 => simp [segmentAt?] at h
  | case2 text =>
    have := length_rest_lineFrom .hash text
    simp only [segmentAt?, Option.some.injEq] at h
    simp only [h, List.length_cons] at this ⊢
    omega
  | case3 text =>
    have := length_rest_lineFrom .dashes text
    simp only [segmentAt?, Option.some.injEq] at h
    simp only [h, List.length_cons] at this ⊢
    omega
  | case4 text found =>
    have := length_rest_scanBlock text
    simp only [segmentAt?, Option.some.injEq, Prod.mk.injEq] at h
    simp only [h.2, List.length_cons] at this ⊢
    omega
  | case5 c text h₁ h₂ h₃ =>
    rw [segmentAt?.eq_5 c text h₁ h₂ h₃] at h
    obtain ⟨mark, -, hmark⟩ := Option.map_eq_some_iff.1 h
    have := mark.length_rest_scan text
    simp only [Prod.mk.injEq] at hmark
    simp only [hmark.2, List.length_cons] at this ⊢
    omega

/-- Puts a code character in front of a list of segments; it joins a code segment that comes
first. -/
def consCode (c : Char) : List Segment → List Segment
  | .code text :: rest => .code (c :: text) :: rest
  | segments => .code [c] :: segments

/-- The segments of an SQL text, from left to right. -/
def split (text : List Char) : List Segment :=
  match _h : segmentAt? text with
  | some (segment, rest) => segment :: split rest
  | none =>
    -- Nothing begins here, so the character is code and belongs to what follows.
    match text with
    | [] => []
    | c :: rest => consCode c (split rest)
termination_by text.length
decreasing_by
  · exact length_rest_lt_of_segmentAt? _h
  · simp

end QueryGate.Sql
