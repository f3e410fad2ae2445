import QueryGate.Proofs.Gate.SingleQuery
import QueryGate.Proofs.Sql.Delimiters

/-!
# What can follow the mark of an executable comment

The mark of an executable comment can stand anywhere: where the lexer reads such a comment, but also
in a line comment, in a comment that is skipped, or in quoted text, where another server may see it
as the beginning of an executable comment. In a query that is allowed, what stands from a mark to
the next `*/` is harmless in each of these places. Only a word that touches the digits of the
version is left out: outside of executable comments it is scanned together with these digits.

## Main definitions

* `OpensAt` — the mark of an executable comment stands at a place of a text
* `untouchedWords` — the words after the mark that do not touch the digits of the version

## Main results

* `exists_opensAt` — every mark has a version, a body and a rest
* `body_eq_of_opensAt` — what the lexer reads as the body, if it reads a comment there
* `harmless_of_opensAt` — what can follow a mark in an allowed query
-/

namespace QueryGate.Sql

open Segment Text

/-- The mark of an executable comment stands after `before` in a text. Some digits follow the mark,
and then a body that goes to the next end of a comment or else to the end of the text. -/
structure OpensAt (text before : List Char) (mark : ExecutableMark)
    (version body rest : List Char) : Prop where
  text_eq : text = before ++ '/' :: '*' :: (mark.text ++ (version ++ (body ++ rest)))
  digits : version.all isDecimalDigit = true
  no_digit : body.head?.any isDecimalDigit = false
  no_end : ¬ ['*', '/'] <:+: body
  ends : rest = [] ∨ ['*', '/'] <+: rest

variable {text before version body rest : List Char} {mark : ExecutableMark}

/-- A scan for the end of a comment stops at the first end. -/
theorem inside_scanBlock_append (no_end : ¬ ['*', '/'] <:+: body)
    (ends : rest = [] ∨ ['*', '/'] <+: rest) : (scanBlock (body ++ rest)).inside = body := by
  obtain rfl | ⟨rest, rfl⟩ := ends
  · rw [List.append_nil, scanBlock_eq_self no_end]
  · exact congrArg Enclosed.inside (scanBlock_append_end no_end rest)

/-- Every mark of an executable comment has a version, a body and a rest. -/
theorem exists_opensAt (before : List Char) (mark : ExecutableMark) (after : List Char) :
    ∃ version body rest,
      OpensAt (before ++ '/' :: '*' :: (mark.text ++ after)) before mark version body rest := by
  -- The version is all digits behind the mark, and the body ends where a block comment does.
  have halves := List.takeWhile_append_dropWhile (p := isDecimalDigit) (l := after)
  have whole := scanBlock_text (after.dropWhile isDecimalDigit)
  refine ⟨after.takeWhile isDecimalDigit, (scanBlock (after.dropWhile isDecimalDigit)).inside,
    blockEnd (scanBlock (after.dropWhile isDecimalDigit)).closed ++
      (scanBlock (after.dropWhile isDecimalDigit)).rest, ?_, ?_, ?_, ?_, ?_⟩
  · rw [← List.append_assoc (scanBlock _).inside, whole, halves]
  · exact List.all_eq_true.mpr fun c member => List.mem_takeWhile_imp member
  · have first := List.head?_dropWhile_not isDecimalDigit after
    rw [← whole, List.append_assoc] at first
    cases inside : (scanBlock (after.dropWhile isDecimalDigit)).inside with
    | nil => rfl
    | cons c inside =>
      simpa [inside] using first
  · exact not_isInfix_inside_scanBlock _
  · cases closed : (scanBlock (after.dropWhile isDecimalDigit)).closed with
    | true => exact .inr ⟨_, rfl⟩
    | false => exact .inl (by simp [blockEnd, rest_scanBlock_of_not_closed _ closed])

/-- Characters other than the star begin no end of a comment. -/
theorem inside_scanBlock_append_of_no_star {front : List Char} (no_star : ∀ c ∈ front, c ≠ '*')
    (text : List Char) : (scanBlock (front ++ text)).inside = front ++ (scanBlock text).inside := by
  induction front with
  | nil => rfl
  | cons c front ih =>
    rw [List.cons_append, scanBlock_cons (no_star c List.mem_cons_self), Enclosed.inside_after,
      ih fun d member => no_star d (List.mem_cons_of_mem c member)]
    rfl

/-- If the lexer begins a segment at the mark, it is a comment with that body. -/
theorem body_eq_of_opensAt (opens : OpensAt text before mark version body rest)
    {front later : List Segment} {s : Segment} (eq : split text = front ++ s :: later)
    (place : textOfAll front = before) : s.body = body := by
  have here : textOfAll (s :: later) =
      '/' :: '*' :: (mark.text ++ (version ++ (body ++ rest))) := by
    have whole := textOfAll_split text
    rw [eq, textOfAll_append, place] at whole
    exact List.append_cancel_left (whole.trans opens.text_eq)
  have no_star : ∀ c ∈ mark.text ++ version, c ≠ '*' := by
    rintro c member rfl
    obtain inMark | inVersion := List.mem_append.mp member
    · cases mark <;> simp [ExecutableMark.text] at inMark
    · exact absurd (List.all_eq_true.mp opens.digits _ inVersion) (by decide)
  have inside : (scanBlock (mark.text ++ (version ++ (body ++ rest)))).inside =
      mark.text ++ (version ++ body) := by
    rw [← List.append_assoc, inside_scanBlock_append_of_no_star no_star,
      inside_scanBlock_append opens.no_end opens.ends, List.append_assoc]
  -- The lexer reads the comment from the same characters, so it takes them apart in the same way.
  have found := segmentAt?_of_split eq (by rw [here, segmentAt?_block]; simp)
  rw [here, segmentAt?_block, inside, commentOf_mark_append opens.digits opens.no_digit] at found
  rw [← (Prod.mk.inj (Option.some.inj found)).1]
  rfl

/-- The words of a body that do not touch the digits of its version. -/
def untouchedWords (version body : List Char) : List (List Char) :=
  if version.isEmpty then words body else innerWords body

/-- The words before a mark and the untouched ones after it are words of the text. -/
theorem OpensAt.words_sublist (opens : OpensAt text before mark version body rest) :
    (words before ++ untouchedWords version body).Sublist (words text) := by
  have last : startsInWord rest = false := by
    obtain rfl | ⟨rest, rfl⟩ := opens.ends
    · rfl
    · rfl
  -- The words of the body are cut off from what follows, and from the digits if there are none.
  have kept : (untouchedWords version body).Sublist (words (version ++ (body ++ rest))) := by
    rw [← List.append_assoc, words_append (.of_startsInWord last)]
    refine List.Sublist.trans ?_ (List.sublist_append_left _ _)
    unfold untouchedWords
    split
    · next empty =>
      rw [List.isEmpty_iff] at empty
      rw [empty, List.nil_append]
    · exact (innerWords_sublist_innerWords_append version body).trans (innerWords_sublist_words _)
  have front : endsInWord ('/' :: '*' :: mark.text) = false := by cases mark <;> rfl
  have rejoin : '/' :: '*' :: (mark.text ++ (version ++ (body ++ rest))) =
      ('/' :: '*' :: mark.text) ++ (version ++ (body ++ rest)) := rfl
  rw [opens.text_eq, words_append (.of_startsInWord rfl)]
  refine List.Sublist.append (List.Sublist.refl _) ?_
  rw [rejoin, words_append (.of_endsInWord front)]
  exact kept.trans (List.sublist_append_right _ _)

end QueryGate.Sql

namespace QueryGate.Gate

open Sql Text

variable {g : Gate} {v : Value} {query before version body rest : List Char}
  {mark : ExecutableMark}

/-- In an allowed query, what follows the mark of an executable comment up to the next end of a
comment is harmless. Where the lexer begins a segment at the mark, no word there is forbidden or is
`SELECT`. In any other place no word that does not touch the version is forbidden, and one of them
can be `SELECT` only if none stands before the mark: then it is the one that begins the query. -/
theorem harmless_of_opensAt (text : textOf v = .ok query) (valid : g.validate v = .ok ())
    (opens : OpensAt query before mark version body rest) :
    ((∃ front s later, split query = front ++ s :: later ∧ Segment.textOfAll front = before) →
      ∀ word ∈ words body, ¬ Forbidden g.blockedTables word ∧ upperText word ≠ Keyword.select) ∧
    (∀ word ∈ untouchedWords version body, ¬ Forbidden g.blockedTables word) ∧
    countWord Keyword.select before +
      (untouchedWords version body).countP (upperText · == Keyword.select) ≤ 1 := by
  have allowed := allows_of_validate text valid
  refine ⟨?_, ?_, ?_⟩
  · rintro ⟨front, s, later, eq, place⟩ word member
    have clean := allowed.body_clean (s := s) (by simp [eq])
    rw [body_eq_of_opensAt opens eq place] at clean
    refine ⟨not_forbidden_of_findBlocked clean.1 word member, fun select => ?_⟩
    have noWord := List.countP_eq_zero.mp clean.2.1 word member
    exact noWord (by simpa using select)
  · intro word member
    exact allowed.not_forbidden word (opens.words_sublist.subset (List.mem_append_right _ member))
  · have fewer := opens.words_sublist.countP_le (p := (upperText · == Keyword.select))
    rw [List.countP_append] at fewer
    exact fewer.trans allowed.selects

/-- A comment that is run, with a version. -/
theorem harmless_of_versioned_comment :
    let g := standard.withoutWhitelist
    let query := "SELECT id /*!50000 , title*/ FROM posts".toList
    let before := "SELECT id ".toList
    let version := "50000".toList
    let body := " , title".toList
    let rest := "*/ FROM posts".toList
    (textOf (.text query) = .ok query ∧ g.validate (.text query) = .ok () ∧
      OpensAt query before .anyServer version body rest ∧
      ∃ front s later, split query = front ++ s :: later ∧ Segment.textOfAll front = before) ∧
    (∀ word ∈ words body, ¬ Forbidden g.blockedTables word ∧ upperText word ≠ Keyword.select) ∧
    (∀ word ∈ untouchedWords version body, ¬ Forbidden g.blockedTables word) ∧
    countWord Keyword.select before +
      (untouchedWords version body).countP (upperText · == Keyword.select) ≤ 1 := by
  intro g query before version body rest
  have valid : g.validate (.text query) = .ok () :=
    validate_text_eq_ok_iff.mpr ⟨rfl, by decide +kernel⟩
  have opens : OpensAt query before .anyServer version body rest :=
    ⟨by decide +kernel, by decide +kernel, by decide +kernel, by decide +kernel,
      .inr (by decide +kernel)⟩
  have place : ∃ front s later, split query = front ++ s :: later ∧
      Segment.textOfAll front = before :=
    ⟨[.code before], .executableComment .anyServer version body true, [.code " FROM posts".toList],
      by decide +kernel, by decide +kernel⟩
  obtain ⟨atSegment, anywhere, select⟩ := harmless_of_opensAt rfl valid opens
  exact ⟨⟨rfl, valid, opens, place⟩, atSegment place, anywhere, select⟩

/-- The range of a mark in a line comment goes on behind the comment, so it can hold the `SELECT`
that begins the query; and outside of executable comments a keyword that touches the digits of a
version is no word by itself. -/
theorem not_harmless_of_opensAt :
    (¬ ∀ (g : Gate) (v : Value) (query before version body rest : List Char)
        (mark : ExecutableMark),
      textOf v = .ok query → g.validate v = .ok () →
        OpensAt query before mark version body rest →
          ∀ word ∈ words body, upperText word ≠ Keyword.select) ∧
    ¬ ∀ (g : Gate) (v : Value) (query before version body rest : List Char)
        (mark : ExecutableMark),
      textOf v = .ok query → g.validate v = .ok () →
        OpensAt query before mark version body rest →
          ∀ word ∈ words body, upperText word ∉ Keyword.alwaysBlocked := by
  constructor
  · intro all
    have valid : standard.withoutWhitelist.validate
        (.text "#/*!\nSELECT * FROM posts".toList) = .ok () :=
      validate_text_eq_ok_iff.mpr ⟨rfl, by decide +kernel⟩
    have opens : OpensAt "#/*!\nSELECT * FROM posts".toList ['#'] .anyServer []
        "\nSELECT * FROM posts".toList [] :=
      ⟨by decide +kernel, by decide +kernel, by decide +kernel, by decide +kernel, .inl rfl⟩
    have member : "SELECT".toList ∈ words "\nSELECT * FROM posts".toList := by decide +kernel
    exact all _ _ _ _ _ _ _ _ rfl valid opens _ member (by decide +kernel)
  · intro all
    have valid : standard.withoutWhitelist.validate
        (.text "SELECT * FROM posts -- /*!50000UNION*/".toList) = .ok () :=
      validate_text_eq_ok_iff.mpr ⟨rfl, by decide +kernel⟩
    have opens : OpensAt "SELECT * FROM posts -- /*!50000UNION*/".toList
        "SELECT * FROM posts -- ".toList .anyServer "50000".toList "UNION".toList ['*', '/'] :=
      ⟨by decide +kernel, by decide +kernel, by decide +kernel, by decide +kernel,
        .inr (by decide)⟩
    have member : "UNION".toList ∈ words "UNION".toList := by decide +kernel
    exact all _ _ _ _ _ _ _ _ rfl valid opens _ member (by decide +kernel)

end QueryGate.Gate
