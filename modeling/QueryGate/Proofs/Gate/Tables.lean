import QueryGate.Proofs.Gate.Listing
import QueryGate.Proofs.Gate.Making
import QueryGate.Proofs.Gate.SingleQuery
import QueryGate.Proofs.Text.LetterCase

/-!
# Blocked tables

The names of blocked tables are compared with the words of a query one by one, and with nothing
else. So more names can only take approvals away, and they take away exactly those of the queries in
which one of the names stands as a word. A name that is not a single word is compared like the
others, but no word is like it: quoted in a query it falls apart into the words that it is made of.

## Main definitions

* `scannedWords` — the words of a query that are compared with the names of blocked tables
* `BlocksAlso` — a gate that blocks some tables besides those of another, and is like it otherwise

## Main results

* `blocksAlso_of_make` — arguments with more table names make such a gate
* `violation?_congr_tables` — tables that no word of a query names do not matter
* `BlocksAlso.allows_iff` — what a gate with more blocked tables allows
* `verdict_of_blocksAlso` — how its verdicts differ from those of the other gate
* `validate_of_quoted_table` — a blocked table whose name stands between backticks
-/

namespace QueryGate.Gate

open Sql Text

variable {g g' : Gate} {v : Value} {query text name token : List Char}
  {tables tables' names : List (List Char)}

/-! ### The scan with other tables -/

theorem blockedWord?_congr_tables {found : WordAt} (later : List Segment)
    (same : upperText found.word ∈ tables ↔ upperText found.word ∈ tables') :
    blockedWord? tables found later = blockedWord? tables' found later := by
  have contained : tables.contains (upperText found.word) =
      tables'.contains (upperText found.word) := by
    rw [Bool.eq_iff_iff, List.contains_iff_mem, List.contains_iff_mem, same]
  rw [blockedWord?, blockedWord?, contained]

/-- A word that other tables block, and only they, is the name of one of them. -/
theorem blockedWord?_of_other_tables {found : WordAt} {later : List Segment}
    (before : blockedWord? tables found later = none)
    (now : blockedWord? tables' found later = some token) :
    upperText found.word = token ∧ token ∈ tables' := by
  by_cases named : upperText found.word ∈ tables'
  · -- The name of a blocked table is named as such, whatever stands behind it.
    have here : blockedWord? tables' found later = some (upperText found.word) := by
      simp [blockedWord?, named]
    obtain rfl := Option.some.inj (here.symm.trans now)
    exact ⟨rfl, named⟩
  · have passes : ¬ Forbidden tables found.word := by
      rw [blockedWord?_eq] at before
      exact (blockedWord?_eq_none_iff.mp before).1
    have unnamed : upperText found.word ∉ tables := fun member => passes (.inr (.inl member))
    rw [blockedWord?_congr_tables later (iff_of_false named unnamed), before] at now
    cases now

theorem findBlockedInSegment_congr_tables {s : Segment} (later : List Segment)
    (same : ∀ word ∈ words s.text, upperText word ∈ tables ↔ upperText word ∈ tables') :
    findBlockedInSegment tables s later = findBlockedInSegment tables' s later := by
  refine findSome?_congr_of_mem fun found member => ?_
  rw [blockedWord?_congr_tables later (same found.word (List.mem_map_of_mem member))]

theorem findBlockedInSegments_congr_tables {segments : List Segment}
    (same : ∀ s ∈ segments, ∀ word ∈ words s.text,
      upperText word ∈ tables ↔ upperText word ∈ tables') :
    findBlockedInSegments tables segments = findBlockedInSegments tables' segments := by
  induction segments with
  | nil => rfl
  | cons s later ih =>
    have here := same s List.mem_cons_self
    have rest := ih fun r member => same r (List.mem_cons_of_mem s member)
    rw [findBlockedInSegments, findBlockedInSegments, findBlockedInSegment_congr_tables later here,
      rest]

/-- What the scan finds depends on which words of the text are names of blocked tables. -/
theorem findBlocked_congr_tables
    (same : ∀ word ∈ words text, upperText word ∈ tables ↔ upperText word ∈ tables') :
    findBlocked tables text = findBlocked tables' text := by
  refine findBlockedInSegments_congr_tables fun s member word inside => same word ?_
  rw [words_eq_flatMap_split]
  exact List.mem_flatMap.mpr ⟨s, member, inside⟩

theorem findBlockedInSegments_of_other_tables {segments : List Segment}
    (before : findBlockedInSegments tables segments = none)
    (now : findBlockedInSegments tables' segments = some token) :
    token ∈ tables' ∧ ∃ s ∈ segments, ∃ word ∈ words s.text, upperText word = token := by
  induction segments with
  | nil => cases now
  | cons s later ih =>
    rw [findBlockedInSegments] at before now
    split at before
    · cases before
    · next clean =>
      split at now
      · next found =>
        -- The token stands here, and the tables are all that can have made it one.
        obtain rfl := Option.some.inj now
        obtain ⟨w, member, named⟩ := List.exists_of_findSome?_eq_some found
        have passes := List.findSome?_eq_none_iff.mp clean w member
        obtain ⟨noWord, noLiteral⟩ := Option.or_eq_none_iff.mp passes
        rw [noLiteral, Option.or_none] at named
        obtain ⟨same, listed⟩ := blockedWord?_of_other_tables noWord named
        exact ⟨listed, s, List.mem_cons_self, w.word, List.mem_map_of_mem member, same⟩
      · obtain ⟨listed, r, member, word⟩ := ih before now
        exact ⟨listed, r, List.mem_cons_of_mem s member, word⟩

/-- A token that is found because of other tables, and of nothing else, is the name of one of them
and the upper-case form of a word of the text. -/
theorem findBlocked_of_other_tables (before : findBlocked tables text = none)
    (now : findBlocked tables' text = some token) :
    token ∈ tables' ∧ ∃ word ∈ words text, upperText word = token := by
  obtain ⟨listed, s, member, word, inside, same⟩ := findBlockedInSegments_of_other_tables before now
  refine ⟨listed, word, ?_, same⟩
  rw [words_eq_flatMap_split]
  exact List.mem_flatMap.mpr ⟨s, member, inside⟩

/-! ### Gates with more blocked tables -/

/-- The words of a query that are compared with the names of blocked tables: those of the raw text,
and those of the bodies of executable comments. -/
def scannedWords (query : List Char) : List (List Char) :=
  words query ++ (split query).flatMap fun s => words s.body

theorem mem_scannedWords_of_mem_words {word : List Char} (member : word ∈ words query) :
    word ∈ scannedWords query :=
  List.mem_append_left _ member

theorem mem_scannedWords_of_mem_body {s : Segment} {word : List Char} (inside : s ∈ split query)
    (member : word ∈ words s.body) : word ∈ scannedWords query :=
  List.mem_append_right _ (List.mem_flatMap.mpr ⟨s, inside, member⟩)

/-- The words of the text without comments are scanned in the raw text too. -/
theorem mem_scannedWords_of_mem_plainForm {word : List Char}
    (member : word ∈ words (dropSemicolon (plainForm (split query)))) :
    word ∈ scannedWords query := by
  rw [plainForm, words_dropSemicolon, words_normalize] at member
  exact mem_scannedWords_of_mem_words ((words_withoutComments_sublist query).subset member)

/-- One gate blocks the tables of another and some more, and is like the other in all else. -/
structure BlocksAlso (g g' : Gate) (names : List (List Char)) : Prop where
  patterns : g'.patterns = g.patterns
  whitelist : g'.whitelist = g.whitelist
  limit : g'.limit = g.limit
  tables : ∀ table, table ∈ g'.blockedTables ↔
    table ∈ g.blockedTables ∨ ∃ name ∈ names, upperText name = table

theorem blocksAlso_append (g : Gate) (names : List (List Char)) :
    BlocksAlso g { g with blockedTables := g.blockedTables ++ names.map upperText } names := by
  refine ⟨rfl, rfl, rfl, fun table => ?_⟩
  rw [List.mem_append, List.mem_map]

/-- Arguments with more table names make a gate that blocks these tables also. -/
theorem blocksAlso_of_make [Pattern.Engine] {spec : GateSpec} {listed : List Value}
    (yields : spec.blockedTables.elements id = .ok listed) (made : make spec = .ok g)
    (names : List (List Char)) :
    ∃ g', make { spec with blockedTables := .items (listed ++ names.map .text) } = .ok g' ∧
      BlocksAlso g g' names := by
  obtain ⟨patterns, whitelist, read, limit⟩ := make_eq_ok_iff.mp made
  have more := tableNames_append_texts yields read names
  refine ⟨{ g with blockedTables := g.blockedTables ++ names.map upperText }, ?_,
    blocksAlso_append g names⟩
  exact make_eq_ok_iff.mpr ⟨patterns, whitelist, more, limit⟩

/-- Tables that are no words of a query do not matter to it. -/
theorem violation?_congr_tables (patterns : g'.patterns = g.patterns)
    (whitelist : g'.whitelist = g.whitelist)
    (same : ∀ word ∈ scannedWords query,
      upperText word ∈ g'.blockedTables ↔ upperText word ∈ g.blockedTables) :
    g'.violation? query = g.violation? query := by
  -- Bodies, the plain form and the query are searched for tokens; nothing else knows of tables.
  have comments : g'.commentViolation? (split query) = g.commentViolation? (split query) := by
    refine findSome?_congr_of_mem fun s member => ?_
    cases s with
    | executableComment mark version body closed =>
      have tokens : findBlocked g'.blockedTables body = findBlocked g.blockedTables body :=
        findBlocked_congr_tables fun word inside =>
          same word (mem_scannedWords_of_mem_body member inside)
      simp only [segmentViolation?, bodyViolation?, tokens]
    | _ => rfl
  have plainTokens : findBlocked g'.blockedTables (dropSemicolon (plainForm (split query))) =
      findBlocked g.blockedTables (dropSemicolon (plainForm (split query))) :=
    findBlocked_congr_tables fun word member =>
      same word (mem_scannedWords_of_mem_plainForm member)
  have rawTokens : findBlocked g'.blockedTables query = findBlocked g.blockedTables query :=
    findBlocked_congr_tables fun word member => same word (mem_scannedWords_of_mem_words member)
  have statement : g'.statementViolation? query (plainForm (split query)) =
      g.statementViolation? query (plainForm (split query)) := by
    rw [statementViolation?, statementViolation?, plainTokens, rawTokens]
  have enabled : g'.whitelistEnabled = g.whitelistEnabled := congrArg Value.isTruthy whitelist
  rw [violation?, violation?, comments, statement, enabled, allows, allows, patterns]

/-! ### Where only the tables can be violated -/

/-- Where a comment is let pass, other tables are all that can make it a violation. -/
theorem segmentViolation?_of_eq_none {s : Segment} (clean : g.segmentViolation? s = none) :
    g'.segmentViolation? s = (findBlocked g'.blockedTables s.body).map .blocked := by
  cases s with
  | executableComment mark version body closed =>
    obtain ⟨cleanBody, rfl⟩ := segmentViolation?_executable.mp clean
    obtain ⟨-, noSelect, noSemicolon⟩ := bodyViolation?_eq_none_iff.mp cleanBody
    rw [segmentViolation?, bodyViolation?, Segment.body]
    cases findBlocked g'.blockedTables body <;>
      simp [noSelect, noSemicolon, Segment.isComment, Segment.isTerminated]
  | _ =>
    have nothing : findBlocked g'.blockedTables [] = none := by
      simp [findBlocked, findBlockedInSegments]
    simp only [Segment.body, nothing]
    exact clean

/-- Where a statement is let pass, other tables are all that can make it a violation. -/
theorem statementViolation?_of_eq_none {plain : List Char}
    (clean : g.statementViolation? query plain = none) :
    g'.statementViolation? query plain = ((findBlocked g'.blockedTables (dropSemicolon plain)).or
      (findBlocked g'.blockedTables query)).map .blocked := by
  obtain ⟨begins, noSemicolon, noSeparator, -, -, selects⟩ :=
    statementViolation?_eq_none_iff.mp clean
  rw [statementViolation?, begins, noSeparator]
  cases findBlocked g'.blockedTables (dropSemicolon plain) <;>
    cases findBlocked g'.blockedTables query <;> simp [noSemicolon, Nat.not_lt.mpr selects]

/-- A violation that is there because of other tables, and of nothing else, is a table that a word
of the query names. -/
theorem violation?_of_other_tables (patterns : g'.patterns = g.patterns)
    (whitelist : g'.whitelist = g.whitelist) (allowed : Allows g query) {violation : Violation}
    (now : g'.violation? query = some violation) :
    ∃ token ∈ g'.blockedTables, violation = .blocked token ∧
      ∃ word ∈ scannedWords query, upperText word = token := by
  have statement : g.statementViolation? query (plainForm (split query)) = none :=
    statementViolation?_eq_none_iff.mpr ⟨allowed.begins, allowed.plain_statement,
      allowed.raw_statement, allowed.plain_tokens, allowed.raw_tokens, allowed.selects⟩
  have enabled : g'.whitelistEnabled = g.whitelistEnabled := congrArg Value.isTruthy whitelist
  -- The whitelist is the same and has let the query pass, so one of the other checks is at work.
  have listed : (g'.whitelistEnabled && !g'.allows (executedForm (split query))) = false := by
    rw [enabled, allows, patterns]
    cases on : g.whitelistEnabled with
    | false => rfl
    | true => simpa [allows] using allowed.whitelisted on
  rw [violation?_eq_or, listed, if_neg Bool.false_ne_true, Option.or_none, ruleViolation?,
    statementViolation?_of_eq_none statement] at now
  rcases Option.or_eq_some_iff.mp now with inComment | ⟨-, inStatement⟩
  · obtain ⟨s, member, here⟩ := List.exists_of_findSome?_eq_some inComment
    rw [segmentViolation?_of_eq_none (allowed.comments s member)] at here
    obtain ⟨token, found, rfl⟩ := Option.map_eq_some_iff.mp here
    obtain ⟨isTable, word, inside, same⟩ :=
      findBlocked_of_other_tables (allowed.body_clean member).1 found
    exact ⟨token, isTable, rfl, word, mem_scannedWords_of_mem_body member inside, same⟩
  · obtain ⟨token, found, rfl⟩ := Option.map_eq_some_iff.mp inStatement
    rcases Option.or_eq_some_iff.mp found with inPlain | ⟨-, inRaw⟩
    · obtain ⟨isTable, word, inside, same⟩ :=
        findBlocked_of_other_tables allowed.plain_tokens inPlain
      exact ⟨token, isTable, rfl, word, mem_scannedWords_of_mem_plainForm inside, same⟩
    · obtain ⟨isTable, word, inside, same⟩ := findBlocked_of_other_tables allowed.raw_tokens inRaw
      exact ⟨token, isTable, rfl, word, mem_scannedWords_of_mem_words inside, same⟩

/-! ### Verdicts -/

/-- No scanned word of an allowed query is blocked wherever it stands. -/
theorem Allows.not_forbidden_scanned (allowed : Allows g query) :
    ∀ word ∈ scannedWords query, ¬ Forbidden g.blockedTables word := by
  intro word member
  rcases List.mem_append.mp member with raw | inBody
  · exact allowed.not_forbidden word raw
  · obtain ⟨s, inside, found⟩ := List.mem_flatMap.mp inBody
    exact not_forbidden_of_findBlocked (allowed.body_clean inside).1 word found

namespace BlocksAlso

/-- Where no word of a query is one of the added names, nothing changes. -/
theorem textVerdict_eq (extra : BlocksAlso g g' names)
    (unnamed : ∀ word ∈ scannedWords query, ∀ name ∈ names, upperText word ≠ upperText name) :
    g'.textVerdict query = g.textVerdict query := by
  have same : g'.violation? query = g.violation? query := by
    refine violation?_congr_tables extra.patterns extra.whitelist fun word member => ?_
    rw [extra.tables, or_iff_left_iff_imp]
    rintro ⟨name, listed, equal⟩
    exact absurd equal.symm (unnamed word member name listed)
  rw [textVerdict, textVerdict, extra.limit, same]

/-- A gate with more blocked tables allows what the other allows, unless a word of the query is one
of the added names. -/
theorem allows_iff (extra : BlocksAlso g g' names) :
    Allows g' query ↔ Allows g query ∧
      ∀ word ∈ scannedWords query, ∀ name ∈ names, upperText word ≠ upperText name := by
  constructor
  · intro allowed
    have unnamed : ∀ word ∈ scannedWords query, ∀ name ∈ names,
        upperText word ≠ upperText name := by
      intro word member name listed equal
      have isTable := (extra.tables (upperText word)).mpr (.inr ⟨name, listed, equal.symm⟩)
      exact allowed.not_forbidden_scanned word member (.inr (.inl isTable))
    refine ⟨?_, unnamed⟩
    rwa [← textVerdict_eq_approved_iff, ← extra.textVerdict_eq unnamed, textVerdict_eq_approved_iff]
  · rintro ⟨allowed, unnamed⟩
    rwa [← textVerdict_eq_approved_iff, extra.textVerdict_eq unnamed, textVerdict_eq_approved_iff]

end BlocksAlso

/-- A gate that blocks more tables than another approves nothing that the other does not. What it
rejects and the other approves, it rejects for a blocked word that is the name of one of the added
tables, and some scanned word of the query is that name. Where no scanned word is one of the added
names, both give the same verdict. -/
theorem verdict_of_blocksAlso (extra : BlocksAlso g g' names) (v : Value) :
    (g'.verdict v = .ok .approved → g.verdict v = .ok .approved) ∧
    (g.verdict v = .ok .approved → g'.verdict v ≠ .ok .approved →
      ∃ query name, textOf v = .ok query ∧ name ∈ names ∧
        g'.verdict v = .ok (.rejected (.disallowedKeyword query (upperText name))) ∧
        ∃ word ∈ scannedWords query, upperText word = upperText name) ∧
    ((∀ query, textOf v = .ok query → ∀ word ∈ scannedWords query, ∀ name ∈ names,
        upperText word ≠ upperText name) →
      g'.verdict v = g.verdict v) := by
  refine ⟨?_, ?_, ?_⟩
  · rw [verdict_eq_approved_iff_allows, verdict_eq_approved_iff_allows]
    rintro ⟨query, text, allowed⟩
    exact ⟨query, text, (extra.allows_iff.mp allowed).1⟩
  · intro approved refused
    obtain ⟨query, text, allowed⟩ := verdict_eq_approved_iff_allows.mp approved
    have short : g'.limit.exceededBy? query.length = some false :=
      extra.limit ▸ allowed.short_enough
    have verdict' : g'.verdict v = .ok (.ofViolation? query (g'.violation? query)) := by
      rw [verdict, text]
      simp only [textVerdict, short]
    cases found : g'.violation? query with
    | none => exact absurd (by rw [verdict', found]; rfl) refused
    | some violation =>
      obtain ⟨token, isTable, rfl, word, member, same⟩ :=
        violation?_of_other_tables extra.patterns extra.whitelist allowed found
      -- A table of the first gate would have made that gate reject the query too.
      have unlisted : token ∉ g.blockedTables := fun listed =>
        allowed.not_forbidden_scanned word member (.inr (.inl (same ▸ listed)))
      obtain ⟨name, listed, rfl⟩ := ((extra.tables token).mp isTable).resolve_left unlisted
      refine ⟨query, name, text, listed, ?_, word, member, same⟩
      rw [verdict', found]
      rfl
  · intro unnamed
    exact verdict_congr fun query text => extra.textVerdict_eq (unnamed query text)

/-- The long s is taken for `S`, also in the body of a comment that is run. -/
theorem verdict_of_blocksAlso_of_long_s :
    let g := { standard with blockedTables := [upperText "users".toList] }
    let query := "SELECT id FROM posts /*!50000 WHERE author = 'U\u017fers'*/".toList
    let other := "SELECT id FROM posts /*!50000 WHERE author = 'user'*/".toList
    BlocksAlso standard g ["users".toList] ∧ standard.verdict (.text query) = .ok .approved ∧
      g.verdict (.text query) =
        .ok (.rejected (.disallowedKeyword query (upperText "users".toList))) ∧
      (∀ word ∈ scannedWords other, upperText word ≠ upperText "users".toList) ∧
      g.verdict (.text other) = standard.verdict (.text other) := by
  intro g query other
  have extra : BlocksAlso standard g ["users".toList] :=
    blocksAlso_append standard ["users".toList]
  have approved : standard.verdict (.text query) = .ok .approved := by
    have clean : standard.violation? query = none := by
      rw [standard_eq]
      decide +kernel
    exact textVerdict_eq_approved_iff_violation?.mpr ⟨rfl, clean⟩
  have refused : g.verdict (.text query) ≠ .ok .approved := by
    have unclean : g.violation? query ≠ none := by decide +kernel
    intro passes
    have textPasses : g.textVerdict query = .ok .approved := passes
    exact unclean (textVerdict_eq_approved_iff_violation?.mp textPasses).2
  have unnamed : ∀ word ∈ scannedWords other, upperText word ≠ upperText "users".toList := by
    decide +kernel
  obtain ⟨-, named, -⟩ := verdict_of_blocksAlso extra (.text query)
  obtain ⟨-, -, same⟩ := verdict_of_blocksAlso extra (.text other)
  obtain ⟨q, name, text, listed, rejected, -⟩ := named approved refused
  obtain rfl := Except.ok.inj text
  rw [List.mem_singleton.mp listed] at rejected
  refine ⟨extra, approved, rejected, unnamed, same fun q text word member name listed => ?_⟩
  obtain rfl := Except.ok.inj text
  rw [List.mem_singleton.mp listed]
  exact unnamed word member

/-! ### Names between backticks -/

theorem words_text_backtick (name : List Char) :
    words (Segment.quoted .backtick name true).text = words name := by
  have quote : isWordChar QuoteMark.backtick.char = false := QuoteMark.isWordChar_char .backtick
  have cut : CleanCut name [QuoteMark.backtick.char] := .of_startsInWord quote
  rw [Segment.text, List.cons_append, words_cons_of_not_word quote, if_pos rfl, words_append cut,
    words_cons_of_not_word quote, words_nil, List.append_nil]

/-- A name between backticks is found as a word exactly if it is nothing but a word. -/
theorem exists_word_of_backtick_iff (nonempty : name ≠ []) :
    (∃ word ∈ words (Segment.quoted .backtick name true).text,
        upperText word = upperText name) ↔
      ∀ c ∈ name, isWordChar c = true := by
  rw [words_text_backtick]
  constructor
  · rintro ⟨word, member, same⟩
    -- A word is a part of the word characters of the name, and here it is as long as the name.
    have part : word.Sublist (name.filter isWordChar) :=
      flatten_words name ▸ List.sublist_flatten_of_mem member
    obtain rfl := eq_of_sublist_of_upperText_eq (part.trans List.filter_sublist) same
    intro c inside
    exact (List.mem_filter.mp (part.subset inside)).2
  · intro all
    have found := wordsAt_append_of_all nonempty all startsInWord_nil
    rw [List.append_nil] at found
    exact ⟨name, by rw [words, found]; exact List.mem_cons_self, rfl⟩

/-- A query that is not allowed is rejected, unless the limit gives no verdict on its length. -/
theorem validate_of_not_allows (text : textOf v = .ok query) (refused : ¬ Allows g query) :
    ∃ failure, g.validate v = .error failure ∧
      ((∃ r, failure = .rejected r) ∨ g.limit.Fails query.length failure) := by
  have same : g.verdict v = g.textVerdict query := verdict_of_textOf text
  cases decided : g.textVerdict query with
  | error failure =>
    refine ⟨failure, by rw [validate, same, decided]; rfl, .inr ?_⟩
    exact textVerdict_eq_error_iff.mp decided
  | ok outcome =>
    cases outcome with
    | approved => exact absurd (textVerdict_eq_approved_iff.mp decided) refused
    | rejected r => exact ⟨.rejected r, by rw [validate, same, decided]; rfl, .inl ⟨r, rfl⟩⟩

/-- A query is rejected if it has the name of a blocked table between backticks and that name is a
word. No other name is found between its backticks; and whatever the name, the table is blocked in a
query exactly if some scanned word has the upper-case form of the name. -/
theorem validate_of_quoted_table (nonempty : name ≠ []) (listed : upperText name ∈ g.blockedTables)
    (text : textOf v = .ok query) (quoted : .quoted .backtick name true ∈ split query) :
    ((∀ c ∈ name, isWordChar c = true) →
      ∃ failure, g.validate v = .error failure ∧
        ((∃ r, failure = .rejected r) ∨ g.limit.Fails query.length failure)) ∧
    ((∃ word ∈ words (Segment.quoted .backtick name true).text,
        upperText word = upperText name) ↔
      ∀ c ∈ name, isWordChar c = true) ∧
    ∀ g₀, BlocksAlso g₀ g [name] →
      (g.validate v = .ok () ↔ g₀.validate v = .ok () ∧
        ∀ word ∈ scannedWords query, upperText word ≠ upperText name) := by
  refine ⟨fun all => validate_of_not_allows text fun allowed => ?_,
    exists_word_of_backtick_iff nonempty, fun g₀ extra => ?_⟩
  · obtain ⟨word, inside, same⟩ := (exists_word_of_backtick_iff nonempty).mpr all
    have member : word ∈ words query := by
      rw [words_eq_flatMap_split]
      exact List.mem_flatMap.mpr ⟨_, quoted, inside⟩
    exact allowed.not_forbidden word member (.inr (.inl (same ▸ listed)))
  · have allows (g : Gate) : g.validate v = .ok () ↔ Allows g query := by
      constructor
      · exact allows_of_validate text
      · intro allowed
        exact validate_eq_ok_iff.mpr ⟨query, text, allowed⟩
    rw [allows, allows, extra.allows_iff]
    simp

/-- The sharp s is written `SS` in upper case, in the query as in the list of tables. -/
theorem validate_of_quoted_table_of_sharp_s :
    let name := "stra\u00dfe".toList
    let g := { standard.withoutWhitelist with blockedTables := ["STRASSE".toList] }
    let query := "SELECT * FROM \x60stra\u00dfe\x60 -- all".toList
    (name ≠ [] ∧ upperText name ∈ g.blockedTables ∧ textOf (.text query) = .ok query ∧
      .quoted .backtick name true ∈ split query ∧ ∀ c ∈ name, isWordChar c = true) ∧
    ∃ r, g.validate (.text query) = .error (.rejected r) := by
  intro name g query
  have nonempty : name ≠ [] := by decide
  have listed : upperText name ∈ g.blockedTables := by decide +kernel
  have quoted : .quoted .backtick name true ∈ split query := by decide +kernel
  have all : ∀ c ∈ name, isWordChar c = true := List.all_eq_true.mp (by decide +kernel)
  have text : textOf (.text query) = .ok query := rfl
  obtain ⟨rejects, -, -⟩ := validate_of_quoted_table nonempty listed text quoted
  obtain ⟨failure, failed, ⟨r, rfl⟩ | fails⟩ := rejects all
  · exact ⟨⟨nonempty, listed, text, quoted, all⟩, r, failed⟩
  · exact absurd fails (Limit.not_fails_of_unlimited rfl)

/-- A name with a hyphen is two words, neither of which is the name, so the table is not blocked. -/
theorem quoted_table_not_blocked :
    (¬ ∀ (g : Gate) (name query : List Char), name ≠ [] → '\x60' ∉ name →
      upperText name ∈ g.blockedTables → .quoted .backtick name true ∈ split query →
        g.validate (.text query) ≠ .ok ()) ∧
    let g := { standard.withoutWhitelist with blockedTables := ["USER-DATA".toList] }
    g.validate (.text "SELECT * FROM \x60user-data\x60".toList) = .ok () := by
  have approved : ({ standard.withoutWhitelist with blockedTables := ["USER-DATA".toList] } :
      Gate).validate (.text "SELECT * FROM \x60user-data\x60".toList) = .ok () :=
    validate_text_eq_ok_iff.mpr ⟨rfl, by decide +kernel⟩
  refine ⟨fun all => ?_, approved⟩
  exact all _ "user-data".toList _ (by decide) (by decide) (by decide +kernel) (by decide +kernel)
    approved

end QueryGate.Gate
