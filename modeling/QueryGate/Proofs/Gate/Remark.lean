import QueryGate.Proofs.Gate.Approval
import QueryGate.Proofs.Gate.Context
import QueryGate.Proofs.Pattern.Shape
import QueryGate.Proofs.Sql.Decomposition

/-!
# What a skipped comment can hide

The scan of the raw text goes through the words of every comment, so an allowed query has none that
is blocked everywhere, and none that is blocked unless called. Two rules are looser inside a comment
than for a text of its own. Only spaces are passed over between a word and what follows it, because
the raw text is not brought into normal form; and quotes inside of a comment open no literal, so
nothing there is an encoded one.

## Main definitions

* `Segment.remark?` — what stands in a comment that no server runs

## Main results

* `Allows.mem_wordsAt_remark` — a word of a comment is scanned with what follows it there
* `Allows.mem_wordsAt_normalize_remark` — what that says about the normal form of the comment
* `Allows.noContext_remark_of_spaces` — it says more where all white space is spaces
* `findBlocked_remark_of_validate` — which blocked tokens such a comment can hold
-/

namespace QueryGate.Sql

open Text

/-- What stands in a comment that no server runs. -/
def Segment.remark? : Segment → Option (List Char)
  | .lineComment _ inside => some inside
  | .blockComment inside _ => some inside
  | _ => none

/-- What ends a comment that no server runs. A line comment does not include its line end. -/
def Segment.remarkEnd : Segment → List Char
  | .blockComment _ closed => blockEnd closed
  | _ => []

@[simp] theorem Segment.remarkEnd_lineComment (mark : LineMark) (inside : List Char) :
    (lineComment mark inside).remarkEnd = [] := rfl

/-- The words of such a comment are those of its inside. -/
theorem Segment.wordsAt_text_of_remark {s : Segment} {inside : List Char}
    (remark : s.remark? = some inside) :
    wordsAt s.text = (wordsAt inside).map (.mapAfter (· ++ s.remarkEnd)) := by
  -- Neither the marks of a comment nor its end are part of a word.
  cases s with
  | lineComment mark t =>
    obtain rfl := Option.some.inj remark
    have marked : wordsAt (mark.text ++ t) = wordsAt t := by
      cases mark <;> simp only [LineMark.text, List.cons_append, List.nil_append] <;>
        repeat rw [wordsAt_cons_of_not_word (by decide)]
    have kept : WordAt.mapAfter (· ++ []) = id := by
      funext w
      simp [WordAt.mapAfter]
    rw [Segment.text, marked, remarkEnd_lineComment, kept, List.map_id]
  | blockComment t closed =>
    obtain rfl := Option.some.inj remark
    have cut : CleanCut t (blockEnd closed) := .of_startsInWord (by cases closed <;> rfl)
    have none : wordsAt (blockEnd closed) = [] := by cases closed <;> rfl
    rw [Segment.text, List.cons_append, List.cons_append, wordsAt_cons_of_not_word (by decide),
      wordsAt_cons_of_not_word (by decide), wordsAt_append cut, none, List.append_nil]
    rfl
  | _ => cases remark

end QueryGate.Sql

namespace QueryGate.Gate

open Sql Text

variable {g : Gate} {v : Value} {query inside a b : List Char} {s : Segment}
  {later : List Segment} {found : WordAt} {c : Char}

namespace Allows

/-- A comment is followed by its end, by a line end or by nothing. -/
theorem firstVisible_behind_remark (allowed : Allows g query) {front : List Segment}
    (eq : split query = front ++ s :: later) (remark : s.remark? = some inside)
    (notStar : c ≠ '*') (notBreak : c ≠ '\n') :
    firstVisible (s.remarkEnd ++ Segment.textOfAll later) ≠ some c := by
  have reads : Reads (s :: later) := .of_append (eq ▸ reads_split query)
  -- A line comment is followed by a line break, and a block comment by its own end.
  cases s with
  | lineComment mark t =>
    rw [Segment.remarkEnd_lineComment, List.nil_append]
    obtain empty | first := (Segment.fits_of_segmentAt? reads.1).lineComment_ends rfl
    · rw [empty]
      simp [firstVisible]
    · obtain ⟨rest, eq⟩ := List.head?_eq_some_iff.mp first
      rw [eq, firstVisible_cons, if_pos (by decide)]
      exact fun same => notBreak (Option.some.inj same).symm
  | blockComment t closed =>
    have clean := allowed.comments (.blockComment t closed) (by simp [eq])
    cases closed with
    | true =>
      have first : firstVisible ('*' :: '/' :: Segment.textOfAll later) = some '*' := rfl
      exact fun same => notStar (Option.some.inj (same.symm.trans first))
    | false => cases clean
  | _ => cases remark

/-- What follows a word of a comment is the same with the end of the comment and without. -/
theorem firstVisible_remark_iff (allowed : Allows g query) {front : List Segment}
    (eq : split query = front ++ s :: later) (remark : s.remark? = some inside)
    (notStar : c ≠ '*') (notBreak : c ≠ '\n') :
    firstVisible (a ++ (s.remarkEnd ++ Segment.textOfAll later)) = some c ↔
      firstVisible a = some c :=
  firstVisible_append_iff (allowed.firstVisible_behind_remark eq remark notStar notBreak)

/-- A word of a comment is let pass in the raw text, where the end of the comment stands behind
it. -/
theorem mem_wordsAt_remark (allowed : Allows g query) {front : List Segment}
    (eq : split query = front ++ s :: later) (remark : s.remark? = some inside)
    (member : found ∈ wordsAt inside) :
    ¬ Forbidden g.blockedTables found.word ∧
      ¬ BlockedInContext
        (found.mapAfter (· ++ (s.remarkEnd ++ Segment.textOfAll later))) := by
  have inText : found.mapAfter (· ++ s.remarkEnd) ∈ wordsAt s.text := by
    rw [Segment.wordsAt_text_of_remark remark]
    exact List.mem_map_of_mem member
  have inQuery := mem_wordsAt_iff.mpr ⟨front, s, later, eq, _, inText, rfl⟩
  have clean := (findBlocked_eq_none_iff.mp allowed.raw_tokens).1 _ inQuery
  simpa [WordAt.mapAfter] using clean

/-- A word of the normal form of a comment is not blocked everywhere, and if it is blocked unless
called, it is called. -/
theorem mem_wordsAt_normalize_remark (allowed : Allows g query) {front : List Segment}
    (eq : split query = front ++ s :: later) (remark : s.remark? = some inside)
    (member : found ∈ wordsAt (normalize inside)) :
    ¬ Forbidden g.blockedTables found.word ∧ ¬ UncalledFunction found := by
  rw [wordsAt_normalize] at member
  obtain ⟨w, inComment, rfl⟩ := List.mem_map.mp member
  obtain ⟨everywhere, here⟩ := allowed.mem_wordsAt_remark eq remark inComment
  refine ⟨everywhere, ?_⟩
  rintro ⟨name, uncalled⟩
  -- The word is called in the raw text, and so within the comment; the normal form keeps the call.
  have called : firstVisible w.after = some '(' := by
    rw [← allowed.firstVisible_remark_iff eq remark (by decide) (by decide)]
    by_contra absent
    exact (not_blockedInContext_iff.mp here).2.1 ⟨name, absent⟩
  exact uncalled ((firstVisible_trimEnd (by decide)).mpr (firstVisible_collapse (by decide) called))

/-- Where all white space of a comment is spaces, its normal form shows what follows a word as the
raw text does. -/
theorem noContext_remark_of_spaces (allowed : Allows g query) {front : List Segment}
    (eq : split query = front ++ s :: later) (remark : s.remark? = some inside)
    (spaces : ∀ c ∈ inside, isSpace c = true → c = ' ')
    (member : found ∈ wordsAt (normalize inside)) :
    ¬ CallsEncoding found ∧ ¬ QualifiesBySchema found := by
  rw [wordsAt_normalize] at member
  obtain ⟨w, inComment, rfl⟩ := List.mem_map.mp member
  obtain ⟨encoding, -, schema⟩ :=
    not_blockedInContext_iff.mp (allowed.mem_wordsAt_remark eq remark inComment).2
  have same {c : Char} (visible : isSpace c = false) (notStar : c ≠ '*') (notBreak : c ≠ '\n') :
      firstVisible (trimEnd (collapse w.after)) = some c ↔
        firstVisible (w.after ++ (s.remarkEnd ++ Segment.textOfAll later)) = some c := by
    rw [firstVisible_trimEnd visible, firstVisible_collapse_of_spaces fun d inAfter =>
      spaces d ((isSuffix_after inComment).subset inAfter),
      allowed.firstVisible_remark_iff eq remark notStar notBreak]
  constructor
  · rintro ⟨name, call⟩
    exact encoding ⟨name, (same (by decide) (by decide) (by decide)).mp call⟩
  · rintro ⟨name, dot⟩
    exact schema ⟨name, (same (by decide) (by decide) (by decide)).mp dot⟩

end Allows

/-- In the normal form of a comment of an allowed query, a blocked token can only be an encoded
literal, a call of an encoding function or a qualifier by a system schema; and it can be neither of
the last two unless white space other than a space stands in the comment. -/
theorem findBlocked_remark_of_validate (text : textOf v = .ok query) (valid : g.validate v = .ok ())
    (member : s ∈ split query) (remark : s.remark? = some inside) :
    (findBlocked g.blockedTables (normalize inside) = none ↔
      NoEncodedLiteral (split (normalize inside)) ∧
        ∀ found ∈ wordsAt (normalize inside), ¬ CallsEncoding found ∧ ¬ QualifiesBySchema found) ∧
    ((∀ c ∈ inside, isSpace c = true → c = ' ') →
      ∀ found ∈ wordsAt (normalize inside), ¬ CallsEncoding found ∧ ¬ QualifiesBySchema found) := by
  have allowed := allows_of_validate text valid
  obtain ⟨front, later, eq⟩ := List.append_of_mem member
  refine ⟨?_, fun spaces found => allowed.noContext_remark_of_spaces eq remark spaces⟩
  rw [findBlocked_eq_none_iff, and_comm]
  refine and_congr_right' (forall₂_congr fun found inNormal => ?_)
  obtain ⟨everywhere, called⟩ := allowed.mem_wordsAt_normalize_remark eq remark inNormal
  rw [not_blockedInContext_iff]
  constructor
  · rintro ⟨-, encoding, -, schema⟩
    exact ⟨encoding, schema⟩
  · rintro ⟨encoding, schema⟩
    exact ⟨everywhere, encoding, called, schema⟩

/-- A comment with words that are blocked only in some contexts, none of which is this one. -/
theorem findBlocked_remark_of_called_function :
    let query := "SELECT * FROM posts -- replace (a, 'b') for char, x in mysql".toList
    let inside := " replace (a, 'b') for char, x in mysql".toList
    let s : Segment := .lineComment .dashes inside
    (textOf (.text query) = .ok query ∧ standard.validate (.text query) = .ok () ∧
      s ∈ split query ∧ s.remark? = some inside ∧
      ∀ c ∈ inside, isSpace c = true → c = ' ') ∧
    NoEncodedLiteral (split (normalize inside)) ∧
    (∀ found ∈ wordsAt (normalize inside), ¬ CallsEncoding found ∧ ¬ QualifiesBySchema found) ∧
    findBlocked standard.blockedTables (normalize inside) = none := by
  intro query inside s
  have valid : standard.validate (.text query) = .ok () := by
    rw [validate_text_eq_ok_iff, standard_eq]
    exact ⟨rfl, by decide +kernel⟩
  have member : s ∈ split query := by decide +kernel
  have spaces : ∀ c ∈ inside, isSpace c = true → c = ' ' := by
    have table : inside.all (fun c => !isSpace c || c == ' ') = true := by decide +kernel
    intro c member space
    simpa [space] using List.all_eq_true.mp table c member
  have encoded : NoEncodedLiteral (split (normalize inside)) := by
    have one : split (normalize inside) = [.code "replace (a, ".toList,
      .quoted .single ['b'] true, .code ") for char, x in mysql".toList] := by decide +kernel
    rw [one]
    exact ⟨by decide +kernel, by decide +kernel, by decide +kernel, trivial⟩
  obtain ⟨exactly, context⟩ := findBlocked_remark_of_validate rfl valid member rfl
  exact ⟨⟨rfl, valid, member, rfl, spaces⟩, encoded, context spaces,
    exactly.mpr ⟨encoded, context spaces⟩⟩

/-- A tab behind a function hides its call, and a comment hides an encoded literal, although both
are found in the same text by itself. -/
theorem remark_hides_blocked_token :
    (¬ ∀ (g : Gate) (v : Value) (query inside : List Char) (s : Segment),
      textOf v = .ok query → g.validate v = .ok () → s ∈ split query → s.remark? = some inside →
        findBlocked g.blockedTables (normalize inside) = none) ∧
    ∀ sample ∈ [(" CHAR\t(65)", "CHAR()"), (" X'41'", "X'...'"), (" mysql\t.user", "MYSQL")],
      standard.validate (.text ("SELECT * FROM posts --".toList ++ sample.1.toList)) = .ok () ∧
        .lineComment .dashes sample.1.toList ∈
          split ("SELECT * FROM posts --".toList ++ sample.1.toList) ∧
        findBlocked standard.blockedTables (normalize sample.1.toList) =
          some sample.2.toList := by
  -- The samples come first, because one of them refutes the claim about all queries.
  refine (fun hidden => ⟨fun all => ?refuted, hidden⟩) ?samples
  case refuted =>
    obtain ⟨valid, member, token⟩ := hidden _ List.mem_cons_self
    rw [all standard _ _ _ _ rfl valid member rfl] at token
    cases token
  case samples =>
    simp only [validate_text_eq_ok_iff, standard_eq]
    decide +kernel

end QueryGate.Gate
