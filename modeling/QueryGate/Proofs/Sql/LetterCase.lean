import QueryGate.Proofs.Sql.Lexing
import QueryGate.Proofs.Text.LetterCase
import QueryGate.Sql.Strip

/-!
# Segments and the case of letters

The lexer looks for quotes, for the marks of comments and for digits, none of which are letters,
with one exception: `/*M!` begins an executable comment, and `/*m!` does not. So a text written
small has the segments of the text, each written small, if this mark is turned into that of a
comment that no server runs.

## Main definitions

* `Segment.lowerAscii` — a segment with its letters written small
* `Segment.IsMariaDb` — a comment that is known by the letter in its mark

## Main results

* `split_lowerAscii` — the segments of a text written small
* `withoutComments_lowerAscii`, `asExecuted_lowerAscii` — the readings of such a text
* `infix_of_isMariaDb` — where there can be a comment that is known by a letter
-/

namespace QueryGate.Sql

open Text

variable {text rest : List Char} {segment : Segment} {segments : List Segment} {c d : Char}

/-- A segment with the letters of the ASCII set written small. The mark of a comment that MariaDB
runs is lost with its capital. -/
def Segment.lowerAscii : Segment → Segment
  | code text => code (Text.lowerAscii text)
  | quoted mark inside closed => quoted mark (Text.lowerAscii inside) closed
  | lineComment mark inside => lineComment mark (Text.lowerAscii inside)
  | blockComment inside closed => blockComment (Text.lowerAscii inside) closed
  | executableComment .anyServer version body closed =>
    executableComment .anyServer (Text.lowerAscii version) (Text.lowerAscii body) closed
  | executableComment .mariaDb version body closed =>
    blockComment (Text.lowerAscii ('M' :: '!' :: version ++ body)) closed

/-- What a scan finds, with letters written small. -/
def Enclosed.lowerAscii (e : Enclosed) : Enclosed :=
  ⟨Text.lowerAscii e.inside, e.closed, Text.lowerAscii e.rest⟩

theorem Enclosed.lowerAscii_after (front : List Char) (e : Enclosed) :
    (e.after front).lowerAscii = e.lowerAscii.after (Text.lowerAscii front) := by
  simp [Enclosed.lowerAscii, Enclosed.after]

/-! ### Scans -/

theorem QuoteMark.toLower_eq_char_iff {mark : QuoteMark} :
    c.toLower = mark.char ↔ c = mark.char := by
  cases mark <;> exact toLower_eq_iff rfl rfl

theorem QuoteMark.ofChar?_toLower (c : Char) :
    QuoteMark.ofChar? c.toLower = QuoteMark.ofChar? c := by
  rw [Option.ext_iff]
  intro mark
  rw [ofChar?_eq_some_iff, ofChar?_eq_some_iff, toLower_eq_char_iff]

theorem QuoteMark.scan_lowerAscii (mark : QuoteMark) (text : List Char) :
    mark.scan (lowerAscii text) = (mark.scan text).lowerAscii := by
  have backslash (c : Char) : c.toLower = '\\' ↔ c = '\\' := toLower_eq_iff rfl rfl
  -- Quotes and backslashes are no letters, so the scan takes the same branch on both texts.
  fun_induction QuoteMark.scan mark text with
  | case7 c d rest protects other ih =>
    rw [lowerAscii_cons] at ih
    simp_all [QuoteMark.scan, Enclosed.lowerAscii_after, toLower_eq_char_iff]
  | _ => simp_all [QuoteMark.scan, Enclosed.lowerAscii, toLower_eq_char_iff, Enclosed.after]

theorem scanBlock_lowerAscii (text : List Char) :
    scanBlock (lowerAscii text) = (scanBlock text).lowerAscii := by
  have star (c : Char) : c.toLower = '*' ↔ c = '*' := toLower_eq_iff rfl rfl
  have slash (c : Char) : c.toLower = '/' ↔ c = '/' := toLower_eq_iff rfl rfl
  fun_induction scanBlock text with
  | case4 c d rest other ih =>
    rw [lowerAscii_cons] at ih
    simp_all [scanBlock, Enclosed.lowerAscii_after]
  | _ => simp_all [scanBlock, Enclosed.lowerAscii]

/-! ### Beginnings of segments -/

theorem lineFrom_lowerAscii (mark : LineMark) (text : List Char) :
    lineFrom mark (lowerAscii text) =
      ((lineFrom mark text).1.lowerAscii, lowerAscii (lineFrom mark text).2) := by
  have sameLine (c : Char) : (c.toLower != '\n') = (c != '\n') :=
    apply_toLower (f := (· != '\n')) (by decide) c
  simp [lineFrom, lowerAscii, Segment.lowerAscii, List.takeWhile_map, List.dropWhile_map,
    Function.comp_def, sameLine]

theorem commentOf_executable_lowerAscii (run : List Char) (closed : Bool) :
    commentOf.executable closed .anyServer (lowerAscii run) =
      (commentOf.executable closed .anyServer run).lowerAscii := by
  simp [commentOf.executable, lowerAscii, Segment.lowerAscii, List.takeWhile_map,
    List.dropWhile_map, Function.comp_def]

theorem commentOf_lowerAscii (inside : List Char) (closed : Bool) :
    commentOf (lowerAscii inside) closed = (commentOf inside closed).lowerAscii := by
  fun_cases commentOf inside closed with
  | case1 run => exact commentOf_executable_lowerAscii run closed
  | case2 run =>
    -- Written small, the inside begins with a letter that is no mark.
    have whole : run.takeWhile isDecimalDigit ++ run.dropWhile isDecimalDigit = run :=
      List.takeWhile_append_dropWhile
    rw [commentOf.executable, Segment.lowerAscii, List.cons_append, List.cons_append, whole]
    rfl
  | case3 inside noMark noMariaDb =>
    rw [Segment.lowerAscii, commentOf.eq_3]
    · intro run begins
      obtain ⟨c, t, rfl, small, -⟩ := List.map_eq_cons_iff.mp begins
      exact noMark t (by rw [(toLower_eq_iff rfl rfl).mp small])
    · intro run begins
      obtain ⟨c, t, rfl, small, -⟩ := List.map_eq_cons_iff.mp begins
      exact absurd small (toLower_ne_of_capital (by decide))

/-- A segment begins where it does when letters are written small. -/
theorem segmentAt?_lowerAscii (text : List Char) :
    segmentAt? (lowerAscii text) =
      (segmentAt? text).map fun found => (found.1.lowerAscii, lowerAscii found.2) := by
  cases found : segmentAt? text with
  | none =>
    cases text with
    | nil => rfl
    | cons c text =>
      -- The signs that begin a segment are no letters, so none of them appears or is lost.
      have hash : c.toLower = '#' ↔ c = '#' := toLower_eq_iff rfl rfl
      have dash (c : Char) : c.toLower = '-' ↔ c = '-' := toLower_eq_iff rfl rfl
      have star (c : Char) : c.toLower = '*' ↔ c = '*' := toLower_eq_iff rfl rfl
      have slash : c.toLower = '/' ↔ c = '/' := toLower_eq_iff rfl rfl
      rw [segmentAt?_eq_none_iff] at found
      rw [lowerAscii_cons, Option.map_none, segmentAt?_eq_none_iff, QuoteMark.ofChar?_toLower]
      simpa [lowerAscii, hash, dash, star, slash] using found
  | some pair =>
    obtain ⟨segment, rest⟩ := pair
    rcases segmentAt?_cases found with ⟨mark, t, rfl, same⟩ | ⟨t, rfl, rfl, rfl⟩ |
      ⟨mark, t, rfl, rfl, rfl⟩
    · have begins : segmentAt? (mark.text ++ lowerAscii t) =
          some (lineFrom mark (lowerAscii t)) := by
        cases mark <;> rfl
      have small : lowerAscii mark.text = mark.text := by
        cases mark <;> rfl
      rw [lowerAscii_append, small, begins, lineFrom_lowerAscii, ← same]
      rfl
    · have begins := segmentAt?_block (lowerAscii t)
      rw [scanBlock_lowerAscii] at begins
      exact begins.trans (by rw [Enclosed.lowerAscii, commentOf_lowerAscii]; rfl)
    · have small : mark.char.toLower = mark.char := by
        cases mark <;> rfl
      rw [lowerAscii_cons, small, segmentAt?_quote, mark.scan_lowerAscii]
      rfl

/-! ### All segments -/

theorem consCode_lowerAscii (c : Char) (segments : List Segment) :
    consCode c.toLower (segments.map Segment.lowerAscii) =
      (consCode c segments).map Segment.lowerAscii := by
  cases segments with
  | nil => rfl
  | cons s segments =>
    cases s with
    | executableComment mark version body closed => cases mark <;> rfl
    | _ => rfl

/-- The segments of a text written small are its segments, each written small. -/
theorem split_lowerAscii (text : List Char) :
    split (lowerAscii text) = (split text).map Segment.lowerAscii := by
  induction text using split_induction with
  | nil => exact split_nil
  | segment text s rest found ih =>
    have begins : segmentAt? (lowerAscii text) = some (s.lowerAscii, lowerAscii rest) := by
      rw [segmentAt?_lowerAscii, found]
      rfl
    rw [split_of_segmentAt? begins, ih, List.map_cons]
  | code c rest unopened ih =>
    have stays : segmentAt? (c.toLower :: lowerAscii rest) = none := by
      rw [← lowerAscii_cons, segmentAt?_lowerAscii, unopened]
      rfl
    rw [lowerAscii_cons, split_cons stays, ih, consCode_lowerAscii]

/-! ### Readings -/

variable {s : Segment}

namespace Segment

@[simp] theorem text_lowerAscii (s : Segment) : s.lowerAscii.text = Text.lowerAscii s.text := by
  have mark (m : QuoteMark) : m.char.toLower = m.char := by
    cases m <;> rfl
  have line (m : LineMark) : Text.lowerAscii m.text = m.text := by
    cases m <;> rfl
  have blockEnd (closed : Bool) : Text.lowerAscii (blockEnd closed) = blockEnd closed := by
    cases closed <;> rfl
  have slash : '/'.toLower = '/' := rfl
  have star : '*'.toLower = '*' := rfl
  fun_cases Segment.lowerAscii s with
  | case1 t => rfl
  | case2 m inside closed => cases closed <;> simp [text, mark]
  | case3 m inside => simp [text, line]
  | case4 inside closed => simp [text, blockEnd, slash, star]
  | case5 version body closed => simp [text, ExecutableMark.text, blockEnd, slash, star]
  | case6 version body closed => simp [text, ExecutableMark.text, blockEnd, slash, star]

theorem textOfAll_lowerAscii (segments : List Segment) :
    textOfAll (segments.map Segment.lowerAscii) = Text.lowerAscii (textOfAll segments) := by
  rw [textOfAll, textOfAll, Text.lowerAscii, List.flatMap_map, List.map_flatMap]
  simp only [text_lowerAscii]
  rfl

@[simp] theorem isComment_lowerAscii (s : Segment) : s.lowerAscii.isComment = s.isComment := by
  fun_cases Segment.lowerAscii s <;> rfl

theorem skipped_lowerAscii (s : Segment) : s.lowerAscii.skipped = Text.lowerAscii s.skipped := by
  rw [skipped, skipped, isComment_lowerAscii, text_lowerAscii]
  split <;> rfl

/-- A comment that is known for one that MariaDB runs by the letter in its mark. -/
def IsMariaDb : Segment → Prop
  | executableComment .mariaDb _ _ _ => True
  | _ => False

theorem executed_lowerAscii (other : ¬ s.IsMariaDb) :
    s.lowerAscii.executed = Text.lowerAscii s.executed := by
  -- Only a comment that is run differs from what it is when it is skipped.
  cases s with
  | code t => exact (code t).skipped_lowerAscii
  | quoted mark inside closed => exact (quoted mark inside closed).skipped_lowerAscii
  | lineComment mark inside => exact (lineComment mark inside).skipped_lowerAscii
  | blockComment inside closed => exact (blockComment inside closed).skipped_lowerAscii
  | executableComment mark version body closed =>
    cases mark with
    | anyServer => simp [Segment.lowerAscii, executed]
    | mariaDb => exact absurd trivial other

end Segment

/-- A comment that MariaDB runs begins with its mark. -/
theorem infix_of_isMariaDb (member : s ∈ split text) (mariaDb : s.IsMariaDb) :
    ['/', '*', 'M', '!'] <:+: text := by
  obtain ⟨front, later, eq⟩ := List.append_of_mem member
  have inside : s.text <:+: text := by
    rw [← textOfAll_split text, eq, textOfAll_append, textOfAll_cons, ← List.append_assoc]
    exact List.infix_append _ _ _
  refine List.IsInfix.trans (List.IsPrefix.isInfix ?_) inside
  match s, mariaDb with
  | .executableComment .mariaDb version body closed, _ =>
    rw [Segment.text, List.append_assoc, List.append_assoc]
    exact List.prefix_append ['/', '*', 'M', '!'] _

theorem withoutComments_lowerAscii (segments : List Segment) :
    withoutComments (segments.map Segment.lowerAscii) = lowerAscii (withoutComments segments) := by
  rw [withoutComments, withoutComments, lowerAscii, List.flatMap_map, List.map_flatMap]
  simp only [Segment.skipped_lowerAscii]
  rfl

/-- Where no comment is known by the letter in its mark, letters written small are run as such. -/
theorem asExecuted_lowerAscii (others : ∀ s ∈ segments, ¬ s.IsMariaDb) :
    asExecuted (segments.map Segment.lowerAscii) = lowerAscii (asExecuted segments) := by
  have each : ∀ s ∈ segments, s.lowerAscii.executed = lowerAscii s.executed :=
    fun s member => s.executed_lowerAscii (others s member)
  rw [asExecuted, asExecuted, lowerAscii, List.flatMap_map, List.map_flatMap]
  exact List.flatMap_congr each

end QueryGate.Sql
