import QueryGate.Proofs.Gate.Layout
import QueryGate.Proofs.Pattern.Quoting

/-!
# The default patterns and the lexer

The default patterns find literals and names by themselves, with no lexer. On a text without
backticks both agree: each way in which a default pattern matches the text cuts it where the lexer
does, so a text that is let pass has no comments and no calls but `COUNT`. With backticks they agree
where each name has two or none; the patterns allow one on either side. In the other direction,
nothing of the documented grammar is kept out by the way the patterns are written or by the other
checks: what has one `SELECT`, no semicolon and no blocked token is let pass.

## Main results

* `simplyShaped_of_accepts` — the segments of a text that a default pattern matches
* `wellQuoted_iff_of_accepts` — such a text is well quoted exactly if it is documented
* `validate_of_documented` — documented queries are let pass
-/

namespace QueryGate.Gate

open Pattern Sql Text
open Language (append_mem_mul)
open Pattern.Grammar (letter letters query startsName)

variable {p : Pattern} {q t : List Char} {w : List Segment}

/-! ### What the default patterns match -/

theorem isPlain_columnsQuery : (Expression.seqAll Shape.columnsQuery).isPlain = true := by
  decide

theorem isPlain_countQuery : (Expression.seqAll Shape.countQuery).isPlain = true := by
  decide

/-- A default pattern is an expression without conditions on the place, and its cuts are those of
the grammar. -/
theorem exists_expression_of_default (isDefault : p ∈ Default.patterns) :
    ∃ source e, p = .expression source true e ∧ e.isPlain = true ∧
      ∀ w ∈ e.readings true, w ∈ query .loose := by
  rw [patterns_default, List.mem_cons, List.mem_singleton] at isDefault
  obtain rfl | rfl := isDefault
  · exact ⟨_, _, rfl, isPlain_columnsQuery, fun w cut => .inl (readings_columnsQuery ▸ cut)⟩
  · exact ⟨_, _, rfl, isPlain_countQuery, fun w cut => .inr (readings_countQuery ▸ cut)⟩

/-- A text of the grammar is matched by one of the default patterns. -/
theorem exists_accepts_of_mem_query (member : t ∈ texts (query .loose)) :
    ∃ p ∈ Default.patterns, p.accepts t = true := by
  rw [patterns_default]
  rw [query, map_add, ← readings_columnsQuery, ← readings_countQuery] at member
  obtain columns | count := (Language.mem_add _ _ t).mp member
  · refine ⟨_, List.mem_cons_self, ?_⟩
    rw [accepts, Expression.matchesAll_iff_mem_language isPlain_columnsQuery,
      ← Expression.texts_readings]
    exact columns
  · refine ⟨_, .tail _ List.mem_cons_self, ?_⟩
    rw [accepts, Expression.matchesAll_iff_mem_language isPlain_countQuery,
      ← Expression.texts_readings]
    exact count

/-- A text without backticks that a default pattern matches has only code and closed literals, with
known characters and simple calls. The pattern sees its literals where the lexer finds them. -/
theorem simplyShaped_of_accepts (isDefault : p ∈ Default.patterns) (noBacktick : '\x60' ∉ t)
    (accepted : p.accepts t = true) :
    SimplyShaped (split t) ∧
      ∃ source e, p = .expression source true e ∧
        (∃ w ∈ e.readings true, Segment.textOfAll w = t) ∧
        ∀ w ∈ e.readings true, Segment.textOfAll w = t → joinCode w = split t := by
  obtain ⟨source, e, rfl, plain, cuts⟩ := exists_expression_of_default isDefault
  have formed {w : List Segment} (cut : w ∈ e.readings true) (text : Segment.textOfAll w = t) :
      Formed false w := by
    refine forms_loose.formed_of_mem_query (cuts w cut) ?_
    -- A backtick that is code would stand in the text.
    rintro - backtick rfl
    refine noBacktick (text ▸ ?_)
    exact List.mem_flatMap.mpr ⟨_, backtick, List.mem_cons_self⟩
  have inLanguage := (Expression.matchesAll_iff_mem_language plain).mp accepted
  rw [← Expression.texts_readings] at inLanguage
  obtain ⟨w, cut, text⟩ := inLanguage
  refine ⟨text ▸ (formed cut text).simplyShaped, source, e, rfl, ⟨w, cut, text⟩, ?_⟩
  rintro u cut rfl
  exact (split_textOfAll (formed cut rfl).reads).symm

/-- Literals that hold a doubled quote and the marks of comments, in the list of an `IN`. -/
theorem simplyShaped_of_marked_literals :
    let p := Pattern.expression Default.columnsQuery true (Expression.seqAll Shape.columnsQuery)
    let t := "SELECT id FROM posts WHERE author IN ('it''s -- me', \x22/*\x22)".toList
    (p ∈ Default.patterns ∧ '\x60' ∉ t ∧ p.accepts t = true) ∧
    SimplyShaped (split t) ∧
      ∃ source e, p = .expression source true e ∧
        (∃ w ∈ e.readings true, Segment.textOfAll w = t) ∧
        ∀ w ∈ e.readings true, Segment.textOfAll w = t → joinCode w = split t := by
  intro p t
  have isDefault : p ∈ Default.patterns := by
    rw [patterns_default]
    exact List.mem_cons_self
  have noBacktick : '\x60' ∉ t := by decide +kernel
  have accepted : p.accepts t = true := by decide +kernel
  exact ⟨⟨isDefault, noBacktick, accepted⟩, simplyShaped_of_accepts isDefault noBacktick accepted⟩

/-! ### Backticks -/

/-- In a text that a default pattern matches, every segment ends and a name stands between any two
backticks, exactly if the text is documented: if each name in it is plain or stands between two
backticks of its own. -/
theorem wellQuoted_iff_of_accepts (isDefault : p ∈ Default.patterns)
    (accepted : p.accepts t = true) : WellQuoted t ↔ t ∈ texts (query .documented) := by
  apply wellQuoted_iff_of_mem_query
  obtain ⟨source, e, rfl, plain, cuts⟩ := exists_expression_of_default isDefault
  have inLanguage := (Expression.matchesAll_iff_mem_language plain).mp accepted
  rw [← Expression.texts_readings] at inLanguage
  obtain ⟨w, cut, text⟩ := inLanguage
  exact ⟨w, cuts w cut, text⟩

/-- Backticks around a keyword and around a table, and a plain name between them. -/
theorem wellQuoted_of_quoted_keyword :
    let p := Pattern.expression Default.columnsQuery true (Expression.seqAll Shape.columnsQuery)
    let t := "SELECT `order`, title AS `name` FROM `posts` WHERE `order`>5".toList
    (p ∈ Default.patterns ∧ p.accepts t = true) ∧
      WellQuoted t ∧ t ∈ texts (query .documented) := by
  intro p t
  have isDefault : p ∈ Default.patterns := by
    rw [patterns_default]
    exact List.mem_cons_self
  have accepted : p.accepts t = true := by decide +kernel
  have quoted : WellQuoted t := by decide +kernel
  exact ⟨⟨isDefault, accepted⟩, quoted, (wellQuoted_iff_of_accepts isDefault accepted).mp quoted⟩

/-- A backtick on one side of a name is let pass: the first text ends within quotes, the second has
two columns between one pair of backticks, and in the third a keyword stands between them. -/
theorem not_wellQuoted_of_single_backtick :
    (¬ ∀ p ∈ Default.patterns, ∀ t, p.accepts t = true → WellQuoted t) ∧
    ∀ t ∈ ["SELECT * FROM `posts".toList, "SELECT `id, title` FROM posts".toList,
        "SELECT * FROM posts` WHERE `id = 1".toList],
      standard.validate (.text t) = .ok () ∧
        (∃ p ∈ Default.patterns, p.accepts t = true) ∧ ¬ WellQuoted t := by
  -- The samples come first, because one of them refutes the claim about all texts.
  refine (fun samples => ⟨fun all => ?refuted, samples⟩) ?samples
  case refuted =>
    obtain ⟨-, ⟨p, isDefault, accepted⟩, unquoted⟩ := samples _ List.mem_cons_self
    exact unquoted (all p isDefault _ accepted)
  case samples =>
    simp only [validate_text_eq_ok_iff, standard_eq, patterns_default]
    decide +kernel

/-! ### Documented queries -/

/-- A query of either shape begins with the word `SELECT`. -/
theorem startsWithSelect_of_mem_query {lex : Lexicon} (member : w ∈ query lex) :
    startsWithSelect (Segment.textOfAll w) = true := by
  have spaced : letters "SELECT ".toList = letters Keyword.select * letter ' ' := by
    rw [← letters_singleton, ← letters_append]
    rfl
  obtain ⟨rest, front⟩ : ∃ rest, w ∈ letters Keyword.select * (letter ' ' * rest) := by
    obtain columns | count := (Language.mem_add _ _ w).mp member
    · rw [Grammar.columnsQuery, spaced] at columns
      exact ⟨_, by simpa only [mul_assoc] using columns⟩
    · rw [Grammar.countQuery, spaced] at count
      exact ⟨_, by simpa only [mul_assoc] using count⟩
  obtain ⟨u, word, v, behind, rfl⟩ := Language.mem_mul.mp front
  obtain ⟨select, same, rfl⟩ := mem_letters_iff.mp word
  obtain ⟨-, ⟨c, space, rfl⟩, later, -, rfl⟩ := Language.mem_mul.mp behind
  obtain rfl := eq_of_sameLetter (by decide) space
  rw [startsWithSelect, textOfAll_append, textOfAll_codes, afterLetters?_append same]
  rfl

/-- Without comments and semicolons, all forms of a text in normal form are the text itself. -/
theorem allows_iff_of_no_comment {g : Gate} (comments : ∀ s ∈ split q, s.isComment = false)
    (normal : normalize q = q) (noSemicolon : ';' ∉ q) :
    Allows g q ↔
      g.limit.exceededBy? q.length = some false ∧ startsWithSelect q = true ∧
        findBlocked g.blockedTables q = none ∧ countWord Keyword.select q ≤ 1 ∧
        (g.whitelistEnabled = true → g.allows q = true) := by
  -- No check sees anything but the text itself.
  have plain : plainForm (split q) = q := by
    rw [plainForm_of_no_comment comments, normal]
  have undropped : dropSemicolon q = q := by
    rw [dropSemicolon, if_neg fun last => noSemicolon (List.mem_of_getLast? last)]
  have executed : executedForm (split q) = q := by
    rw [executedForm_of_no_comment comments, normal, undropped]
  constructor
  · intro allowed
    exact ⟨allowed.short_enough, plain ▸ allowed.begins, allowed.raw_tokens, allowed.selects,
      executed ▸ allowed.whitelisted⟩
  · rintro ⟨short, begins, tokens, selects, whitelisted⟩
    refine ⟨short, fun s found => segmentViolation?_of_not_comment (comments s found), ?_, ?_, ?_,
      ?_, tokens, selects, ?_⟩
    · rwa [plain]
    · rwa [plain, undropped]
    · exact hasSeparator_of_notMem noSemicolon
    · rwa [plain, undropped]
    · rwa [executed]

/-- A text in normal form stands on one line. -/
theorem newline_notMem_of_normal (normal : normalize q = q) : '\n' ∉ q := by
  intro found
  have spaces := (singleSpaced_normalize q).eq_space
  rw [normal] at spaces
  exact absurd (spaces _ found (by decide)) (by decide)

/-- A documented query in normal form, without a semicolon, with one `SELECT` and without a blocked
token is let pass. -/
theorem validate_of_documented (documented : q ∈ texts (query .documented))
    (normal : normalize q = q) (noSemicolon : ';' ∉ q) (oneSelect : countWord Keyword.select q = 1)
    (noToken : findBlocked standard.blockedTables q = none) :
    standard.validate (.text q) = .ok () := by
  obtain ⟨w, member, rfl⟩ := documented
  have forms : Lexicon.documented.Forms fun _ => True := forms_documented
  have formed : Formed false w := forms.formed_of_mem_query member fun _ _ => trivial
  have comments : ∀ s ∈ split (Segment.textOfAll w), s.isComment = false :=
    fun s => formed.simplyShaped.isComment_eq_false
  -- A backslash before a line feed is all that the patterns are stricter about.
  obtain ⟨p, isDefault, accepted⟩ :=
    exists_accepts_of_mem_query (covers_query w member (newline_notMem_of_normal normal))
  have matched : standard.allows (Segment.textOfAll w) = true := by
    have patterns : standard.patterns = Default.patterns := by rw [standard]
    rw [allows, patterns, List.any_eq_true]
    exact ⟨p, isDefault, accepted⟩
  rw [validate_text_eq_ok_iff_allows, allows_iff_of_no_comment comments normal noSemicolon]
  exact ⟨rfl, startsWithSelect_of_mem_query member, noToken, oneSelect.le, fun _ => matched⟩

/-- A name between backticks, and a literal that holds the mark of a comment. -/
theorem validate_of_commented_literal :
    let q := "SELECT * FROM `posts` WHERE title<>'a -- b'".toList
    (q ∈ texts (query .documented) ∧ normalize q = q ∧ ';' ∉ q ∧
      countWord Keyword.select q = 1 ∧ findBlocked standard.blockedTables q = none) ∧
    standard.validate (.text q) = .ok () := by
  intro q
  have absent (L : Language Segment) : [] ∈ 1 + L := .inl Language.nil_mem_one
  have table : [.quoted .backtick "posts".toList true] ∈ Lexicon.documented.name := by
    have plain := codes_mem_plainName (by decide : startsName 'p' = true)
      (by decide : "osts".toList.all isWordChar = true)
    exact .inr ⟨_, texts_plainName ▸ ⟨_, plain, textOfAll_codes _⟩, rfl⟩
  have column : codes "title".toList ++ [] ∈ Grammar.column .documented :=
    append_mem_mul (.inl (codes_mem_plainName (by decide) (by decide))) (absent _)
  have operator : codes "<>".toList ∈ Grammar.operator :=
    .inl (.inl (.inl (.inl (.inr (codes_mem_letters _)))))
  have value : [.quoted .single "a -- b".toList true] ∈ Grammar.value .documented := by
    refine .inl (.inr (.inl ⟨_, ?_, rfl⟩))
    repeat refine .other (by decide) (by decide) ?_
    exact .nil
  have condition : _ ∈ Grammar.condition .documented :=
    .inl (.inl (.inl (.inl (append_mem_mul (append_mem_mul (append_mem_mul
      (append_mem_mul column (absent _)) operator) (absent _)) value))))
  have clause : _ ∈ Grammar.whereClause .documented :=
    .inr (append_mem_mul (append_mem_mul (codes_mem_letters _) condition)
      (Language.nil_mem_kstar _))
  have columns : [.code ['*']] ∈ letter '*' + Grammar.commaList
      (Grammar.column .documented * Grammar.newName .documented) :=
    .inl ⟨'*', sameLetter_self _, rfl⟩
  have whole : _ ∈ Grammar.columnsQuery .documented :=
    append_mem_mul (append_mem_mul (append_mem_mul (append_mem_mul (append_mem_mul
      (append_mem_mul (append_mem_mul (codes_mem_letters _) (absent _)) columns)
      (codes_mem_letters _)) table) clause) (absent _)) (absent _)
  have documented : q ∈ texts (query .documented) := ⟨_, .inl whole, by decide +kernel⟩
  have normal : normalize q = q := by decide +kernel
  have noSemicolon : ';' ∉ q := by decide +kernel
  have oneSelect : countWord Keyword.select q = 1 := by decide +kernel
  have noToken : findBlocked standard.blockedTables q = none := by decide +kernel
  exact ⟨⟨documented, normal, noSemicolon, oneSelect, noToken⟩,
    validate_of_documented documented normal noSemicolon oneSelect noToken⟩

end QueryGate.Gate
