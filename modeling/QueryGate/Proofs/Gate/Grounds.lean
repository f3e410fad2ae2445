import QueryGate.Proofs.Gate.Bytes
import QueryGate.Proofs.Gate.Leftmost
import QueryGate.Proofs.Gate.Listing
import QueryGate.Proofs.Gate.Modes
import QueryGate.Proofs.Gate.Plain

/-!
# What a rejection says about a query

A rejection reports one violation, and what it reports can be found in the submitted query. The
checks look at other texts as well: at the bodies of executable comments, and at the query without
its comments, with its white space collapsed. A word or a semicolon found there stands in the query
itself too, for none of these texts has words of its own, and where a literal follows a word, it
does so in the query.

## Main definitions

* `Shows`, `Contains` — the word of a query for which a blocked token is named
* `WordsWithin` — the words of one text stand in another, with the same character right after them
* `Grounds` — what is the case in a query that is rejected for a violation

## Main results

* `reason_injective` — the reason of a rejection tells which violation it is for
* `grounds_of_rejected` — what a rejection reports is the case
-/

namespace QueryGate.Gate

open Sql Text Segment

variable {g : Gate} {v : Value} {query text token : List Char} {tables : List (List Char)}
  {found : WordAt} {s : Segment} {violation : Violation}

/-! ### Wordings -/

theorem take_append_append {α : Type*} {a b c : List α} {n : Nat} (short : n ≤ a.length) :
    (a ++ b ++ c).take n = a.take n := by
  rw [List.append_assoc, List.take_append_of_le_length short]

/-- A flaw of each sort. -/
def flawSorts : List Flaw :=
  [.notUtf8, .notText, .tooLong [], .executableSeparator, .unterminatedComment, .notSelect,
    .severalStatements, .nestedSelect]

/-- The flaw of the same sort in that list. -/
def Flaw.sort : Flaw → Flaw
  | tooLong _ => tooLong []
  | flaw => flaw

theorem sort_mem_flawSorts (flaw : Flaw) : flaw.sort ∈ flawSorts := by
  cases flaw <;> simp [Flaw.sort, flawSorts]

/-- How the wording of a flaw begins depends on its sort only. -/
theorem take_detail_sort (flaw : Flaw) : flaw.sort.detail.take 14 = flaw.detail.take 14 := by
  cases flaw with
  | tooLong limit =>
    have short : 14 ≤ "Query exceeds maximum length of ".toList.length := by decide
    exact (take_append_append short).trans (take_append_append short).symm
  | _ => rfl

/-- Different flaws have different wordings, for no two sorts of them begin alike. -/
theorem detail_injective : Function.Injective Flaw.detail := by
  intro flaw flaw' same
  have openings : flaw.sort.detail.take 14 = flaw'.sort.detail.take 14 := by
    rw [take_detail_sort, take_detail_sort, same]
  have table : ∀ a ∈ flawSorts, ∀ b ∈ flawSorts,
      a.detail.take 14 = b.detail.take 14 → a = b := by decide +kernel
  have sorts := table _ (sort_mem_flawSorts flaw) _ (sort_mem_flawSorts flaw') openings
  cases flaw with
  | tooLong limit =>
    cases flaw' with
    | tooLong limit' =>
      have limits : limit = limit' := List.append_cancel_left (List.append_cancel_right same)
      rw [limits]
    | _ => cases sorts
  | _ =>
    cases flaw' with
    | _ => cases sorts <;> rfl

/-- The letter with which every reason for rejections of a kind begins. -/
def Kind.initial : Kind → List Char
  | invalidStructure => ['I']
  | disallowedKeyword => ['D']
  | notWhitelisted => ['Q']

theorem initial_injective : Function.Injective Kind.initial := by
  intro kind kind' same
  cases kind <;> cases kind' <;> simp_all [Kind.initial]

theorem take_reason (query : List Char) (violation : Violation) :
    (Rejection.ofViolation query violation).reason.take 1 =
      (Rejection.ofViolation query violation).kind.initial := by
  cases violation with
  | flawed flaw =>
    have short : 1 ≤ "Invalid query structure: ".toList.length := by decide
    exact List.take_append_of_le_length short
  | blocked token =>
    have short : 1 ≤ "Disallowed SQL keyword '".toList.length := by decide
    exact take_append_append short
  | notAllowed => rfl

/-- The reason of a rejection tells which violation it is for. -/
theorem reason_injective {violation' : Violation}
    (same : (Rejection.ofViolation query violation).reason =
      (Rejection.ofViolation query violation').reason) : violation = violation' := by
  -- The first letter of a reason tells its kind, and then the rest tells the violation.
  have kinds : (Rejection.ofViolation query violation).kind =
      (Rejection.ofViolation query violation').kind := by
    apply initial_injective
    rw [← take_reason, ← take_reason, same]
  cases violation with
  | flawed flaw =>
    cases violation' with
    | flawed flaw' => rw [detail_injective (List.append_cancel_left same)]
    | _ => cases kinds
  | blocked token =>
    cases violation' with
    | blocked token' =>
      have tokens : token = token' := List.append_cancel_left (List.append_cancel_right same)
      rw [tokens]
    | _ => cases kinds
  | notAllowed =>
    cases violation' with
    | notAllowed => rfl
    | _ => cases kinds

/-! ### Words that a token is named for -/

/-- A word can be the one that a blocked token names. -/
inductive Shows (tables : List (List Char)) (found : WordAt) : List Char → Prop
  | everywhere (forbidden : Forbidden tables found.word) : Shows tables found (upperText found.word)
  | function (name : upperText found.word ∈ Keyword.functionsOnly) :
      Shows tables found (upperText found.word)
  | schema (name : upperText found.word ∈ Keyword.systemSchemas) :
      Shows tables found (upperText found.word)
  | encoding (name : upperText found.word ∈ Keyword.encodingFunctions) :
      Shows tables found (upperText found.word ++ "()".toList)
  | literal (mark : upperText found.word ∈ Keyword.encodedStringMarks)
      (quote : found.after.head? = some '\x27') :
      Shows tables found (upperText found.word ++ "'...'".toList)

/-- A token is named for a word of the query, or for one of the body of an executable comment, where
`SELECT` counts as well. -/
inductive Contains (tables : List (List Char)) (query : List Char) : List Char → Prop
  | raw {found : WordAt} {token : List Char} (member : found ∈ wordsAt query)
      (shows : Shows tables found token) : Contains tables query token
  | body {s : Segment} {found : WordAt} {token : List Char} (segment : s ∈ split query)
      (member : found ∈ wordsAt s.body) (shows : Shows tables found token) :
      Contains tables query token
  | select {s : Segment} {word : List Char} (segment : s ∈ split query)
      (member : word ∈ words s.body) (capitals : upperText word = Keyword.select) :
      Contains tables query Keyword.select

/-- A literal in single quotes begins with a single quote. -/
theorem head?_of_literalAt {before rest : List Char} (eq : text = before ++ rest)
    (touches : LiteralAt text before) : rest.head? = some '\x27' := by
  have member := (mem_literals_split_iff eq).mpr touches
  obtain ⟨front, later, -, opens, rfl⟩ := mem_literals_iff.mp member
  obtain ⟨inside, closed, back, rfl⟩ := opensString_iff.mp opens
  rfl

/-- What the scan of a text reports is named for one of its words. -/
theorem shows_of_findBlocked (blocked : findBlocked tables text = some token) :
    ∃ found ∈ wordsAt text, Shows tables found token := by
  rw [findBlocked_eq_findSome?, findSome?_wordsAt_eq_some_iff] at blocked
  obtain ⟨before, word, after, occurs, here, -⟩ := blocked
  refine ⟨⟨word, after⟩, occurs.mem_wordsAt, ?_⟩
  have names := (tokenAt?_eq_some_iff occurs).mp here
  cases names with
  | alone named =>
    rcases named with forbidden | uncalled | schema
    · exact .everywhere forbidden
    · exact .function uncalled.1
    · exact .schema schema.1
  | called other calls => exact .encoding calls.1
  | literal other mark touches =>
    have eq : text = (before ++ word) ++ after := by rw [occurs.text_eq, List.append_assoc]
    exact .literal mark (head?_of_literalAt eq touches)

/-! ### Words of other texts -/

/-- The words of a text stand in another one too, with the same visible character right after
them. -/
def WordsWithin (a b : List Char) : Prop :=
  ∀ found ∈ wordsAt a, ∃ w ∈ wordsAt b, w.word = found.word ∧
    ∀ c, isSpace c = false → found.after.head? = some c → w.after.head? = some c

theorem WordsWithin.trans {a b c : List Char} (first : WordsWithin a b)
    (second : WordsWithin b c) : WordsWithin a c := by
  intro found member
  obtain ⟨u, inside, word, behind⟩ := first found member
  obtain ⟨w, outside, word', behind'⟩ := second u inside
  exact ⟨w, outside, word'.trans word, fun d visible starts =>
    behind' d visible (behind d visible starts)⟩

/-- Taking comments away puts nothing visible behind a word that was not there. -/
theorem wordsWithin_withoutComments (query : List Char) :
    WordsWithin (withoutComments (split query)) query := by
  intro found member
  obtain ⟨front, s, later, eq, u, inside, rfl⟩ :=
    (mem_wordsAt_flatMap (isReading_skipped.apart_split query)).mp member
  have plain : s.isComment = false := by
    by_contra comment
    rw [skipped, if_pos (by simpa using comment), wordsAt_cons_of_not_word isWordChar_space]
      at inside
    cases inside
  rw [isReading_skipped.keeps s plain] at inside
  have inQuery : u.mapAfter (· ++ textOfAll later) ∈ wordsAt query :=
    mem_wordsAt_iff.mpr ⟨front, s, later, eq, u, inside, rfl⟩
  refine ⟨_, inQuery, rfl, fun c visible starts => ?_⟩
  rw [WordAt.after_mapAfter] at starts ⊢
  by_cases last : u.after = []
  · -- The segment ends with the word, so the next one decides what follows it.
    rw [last, List.nil_append] at starts ⊢
    have nonempty : ∀ r ∈ later, r.text ≠ [] := fun r member =>
      text_ne_nil_of_mem_split query r (by simp [eq, member])
    have space : c ≠ ' ' := by
      rintro rfl
      exact absurd isSpace_space (by simp [visible])
    exact isReading_skipped.head?_flatMap nonempty space starts
  · rw [List.head?_append_of_ne_nil _ last] at starts ⊢
    exact starts

theorem wordsWithin_normalize (text : List Char) : WordsWithin (normalize text) text := by
  intro found member
  rw [wordsAt_normalize] at member
  obtain ⟨w, inside, rfl⟩ := List.mem_map.mp member
  refine ⟨w, inside, rfl, fun c visible starts => ?_⟩
  exact (sameStart_collapse w.after c visible).mp ((sameStart_trimEnd _ c visible).mp starts)

theorem wordsWithin_dropSemicolon (text : List Char) : WordsWithin (dropSemicolon text) text := by
  obtain ⟨front, rfl, dropped⟩ | same := dropSemicolon_cases text
  · intro found member
    rw [dropped, wordsAt_trimEnd] at member
    obtain ⟨w, inside, rfl⟩ := List.mem_map.mp member
    refine ⟨w.mapAfter (· ++ [';']), ?_, rfl, fun c visible starts => ?_⟩
    · rw [wordsAt_append (.of_startsInWord (by decide))]
      exact List.mem_append_left _ (List.mem_map_of_mem inside)
    · have first := (sameStart_trimEnd w.after c visible).mp starts
      rw [WordAt.after_mapAfter, List.head?_append, first]
      rfl
  · intro found member
    rw [same] at member
    exact ⟨found, member, rfl, fun c _ starts => starts⟩

theorem wordsWithin_plainForm (query : List Char) :
    WordsWithin (dropSemicolon (plainForm (split query))) query :=
  (wordsWithin_dropSemicolon _).trans
    ((wordsWithin_normalize _).trans (wordsWithin_withoutComments query))

theorem Shows.of_wordsWithin {a b : List Char} (within : WordsWithin a b)
    (member : found ∈ wordsAt a) (shows : Shows tables found token) :
    ∃ w ∈ wordsAt b, Shows tables w token := by
  obtain ⟨w, inside, word, behind⟩ := within found member
  refine ⟨w, inside, ?_⟩
  cases shows with
  | everywhere forbidden => exact word ▸ .everywhere (word ▸ forbidden)
  | function name => exact word ▸ .function (word ▸ name)
  | schema name => exact word ▸ .schema (word ▸ name)
  | encoding name => exact word ▸ .encoding (word ▸ name)
  | literal mark quote =>
    have quote := behind '\x27' (by decide) quote
    exact word ▸ .literal (word ▸ mark) quote

/-! ### What is reported -/

/-- What is the case in a query that is rejected for a violation. -/
def Grounds (g : Gate) (query : List Char) : Violation → Prop
  | .flawed .notUtf8 => False
  | .flawed .notText => False
  | .flawed (.tooLong limit) =>
    g.limit.shown? = some limit ∧ g.limit.exceededBy? query.length = some true
  | .flawed .executableSeparator => ∃ s ∈ split query, ';' ∈ s.body
  | .flawed .unterminatedComment =>
    ∃ front s, split query = front ++ [s] ∧ s.isComment = true ∧ s.isTerminated = false
  | .flawed .notSelect => startsWithSelect (plainForm (split query)) = false
  | .flawed .severalStatements =>
    ∃ before between c after, query = before ++ ';' :: (between ++ c :: after) ∧ isSpace c = false
  | .flawed .nestedSelect => 2 ≤ countWord Keyword.select query
  | .blocked token => Contains g.blockedTables query token
  | .notAllowed =>
    g.whitelistEnabled = true ∧ g.withoutWhitelist.verdict (.text query) = .ok .approved

theorem grounds_of_bodyViolation? (member : s ∈ split query)
    (found : g.bodyViolation? s.body = some violation) : Grounds g query violation := by
  simp only [bodyViolation?] at found
  split at found
  · next token blocked =>
    obtain rfl := Option.some.inj found
    obtain ⟨w, inside, shows⟩ := shows_of_findBlocked blocked
    exact .body member inside shows
  · split_ifs at found with selects separator
    · obtain rfl := Option.some.inj found
      have some : 0 < countWord Keyword.select s.body := by
        rw [bne_iff_ne] at selects
        omega
      obtain ⟨word, inside, capitals⟩ := List.countP_pos_iff.mp some
      exact .select member inside (by simpa using capitals)
    · obtain rfl := Option.some.inj found
      exact ⟨s, member, by simpa using separator⟩

theorem grounds_of_segmentViolation? (member : s ∈ split query)
    (found : g.segmentViolation? s = some violation) : Grounds g query violation := by
  have open? (comment : s.isComment = true)
      (unclosed : (if !s.isTerminated then some (Violation.flawed .unterminatedComment) else none) =
        some violation) : Grounds g query violation := by
    obtain ⟨unterminated, rfl⟩ :
        s.isTerminated = false ∧ .flawed .unterminatedComment = violation := by simpa using unclosed
    obtain ⟨front, later, eq⟩ := List.append_of_mem member
    -- Only the last segment can be without its end.
    obtain rfl := eq_nil_of_not_isTerminated eq unterminated
    exact ⟨front, s, eq, comment, unterminated⟩
  cases s with
  | executableComment mark version body closed =>
    rcases Option.or_eq_some_iff.mp found with inBody | ⟨-, atEnd⟩
    · exact grounds_of_bodyViolation? member inBody
    · exact open? rfl atEnd
  | blockComment inside closed => exact open? rfl found
  | lineComment mark inside => exact open? rfl found
  | code t => cases found
  | quoted mark inside closed => cases found

/-- A semicolon that is left in the text without comments is followed by something in the query. -/
theorem hasSeparator_of_semicolon_mem
    (semicolon : ';' ∈ dropSemicolon (plainForm (split query))) : hasSeparator query = true := by
  by_contra absent
  have noSeparator : hasSeparator (plainForm (split query)) = false := by
    rw [plainForm, hasSeparator_normalize]
    exact hasSeparator_withoutComments (by simpa using absent)
  exact semicolon_notMem_dropSemicolon noSeparator (trimEnd_normalize _) semicolon

theorem exists_of_hasSeparator (separator : hasSeparator text = true) :
    ∃ before between c after, text = before ++ ';' :: (between ++ c :: after) ∧
      isSpace c = false := by
  obtain ⟨before, blank, c, after, eq, -, visible⟩ := hasSeparator_iff.mp separator
  exact ⟨before, blank, c, after, eq, visible⟩

theorem grounds_of_statementViolation?
    (found : g.statementViolation? query (plainForm (split query)) = some violation) :
    Grounds g query violation := by
  simp only [statementViolation?] at found
  split at found
  · next other =>
    obtain rfl := Option.some.inj found
    show startsWithSelect _ = false
    simpa using other
  · split at found
    · next several =>
      obtain rfl := Option.some.inj found
      apply exists_of_hasSeparator
      rcases Bool.or_eq_true_iff.mp several with semicolon | separator
      · exact hasSeparator_of_semicolon_mem (List.contains_iff_mem.mp semicolon)
      · exact separator
    · split at found
      · next token blocked =>
        obtain rfl := Option.some.inj found
        -- The word is found without the comments, and has to be traced to the query.
        obtain ⟨w, inPlain, shows⟩ := shows_of_findBlocked blocked
        obtain ⟨u, member, shown⟩ := shows.of_wordsWithin (wordsWithin_plainForm query) inPlain
        exact .raw member shown
      · split at found
        · next token blocked =>
          obtain rfl := Option.some.inj found
          obtain ⟨w, member, shows⟩ := shows_of_findBlocked blocked
          exact .raw member shows
        · split_ifs at found with nested
          obtain rfl := Option.some.inj found
          exact nested

theorem grounds_of_violation? (short : g.limit.exceededBy? query.length = some false)
    (found : g.violation? query = some violation) : Grounds g query violation := by
  rw [violation?_eq_or] at found
  rcases Option.or_eq_some_iff.mp found with rule | ⟨passed, listed⟩
  · rcases Option.or_eq_some_iff.mp rule with inComment | ⟨-, inStatement⟩
    · obtain ⟨s, member, here⟩ := List.exists_of_findSome?_eq_some inComment
      exact grounds_of_segmentViolation? member here
    · exact grounds_of_statementViolation? inStatement
  · split_ifs at listed with refused
    obtain rfl := Option.some.inj listed
    rw [Bool.and_eq_true] at refused
    refine ⟨refused.1, ?_⟩
    -- The whitelist is the last check, so the query has passed all others.
    show g.withoutWhitelist.textVerdict query = .ok .approved
    rw [textVerdict_eq_approved_iff_violation?, violation?_withoutWhitelist]
    exact ⟨short, passed⟩

/-- A rejected query is reported as it was submitted, and what the reason says of it is the case: a
token that is named stands in the query or in the body of an executable comment, a second statement
follows a semicolon, an open comment is the last segment, and a query that is not whitelisted has
passed every other check. -/
theorem grounds_of_rejected {r : Rejection} (text : textOf v = .ok query)
    (rejected : g.verdict v = .ok (.rejected r)) :
    r.query = query ∧ (∃ violation, r = .ofViolation query violation) ∧
      ∀ violation, r.reason = (Rejection.ofViolation query violation).reason →
        r = .ofViolation query violation ∧ Grounds g query violation := by
  obtain ⟨violation, rfl, grounds⟩ :
      ∃ violation, r = .ofViolation query violation ∧ Grounds g query violation := by
    rw [verdict_of_textOf text] at rejected
    obtain ⟨violation, rfl, ⟨limit, shown, rfl, long⟩ | ⟨short, found⟩⟩ :=
      textVerdict_eq_rejected_iff.mp rejected
    · exact ⟨_, rfl, shown, long⟩
    · exact ⟨violation, rfl, grounds_of_violation? short found⟩
  refine ⟨query_ofViolation query violation, ⟨violation, rfl⟩, fun other same => ?_⟩
  obtain rfl := reason_injective same
  exact ⟨rfl, grounds⟩

/-- The name of a function that is called only once the comment behind it is taken away. -/
theorem grounds_of_rejected_of_hidden_call :
    let query := "SELECT CHAR /* code */ (65) FROM posts".toList
    let r := Rejection.disallowedKeyword query "CHAR()".toList
    (textOf (.text query) = .ok query ∧ standard.verdict (.text query) = .ok (.rejected r)) ∧
      r.query = query ∧ Contains standard.blockedTables query "CHAR()".toList := by
  intro query r
  have found : standard.violation? query = some (.blocked "CHAR()".toList) := by
    rw [standard_eq]
    decide +kernel
  have rejected : standard.verdict (.text query) = .ok (.rejected r) := by
    have unfolded : standard.verdict (.text query) =
        .ok (.ofViolation? query (standard.violation? query)) := rfl
    rw [unfolded, found]
    rfl
  obtain ⟨same, -, reports⟩ := grounds_of_rejected rfl rejected
  have reported := (reports (.blocked "CHAR()".toList) rfl).2
  exact ⟨⟨rfl, rejected⟩, same, reported⟩

end QueryGate.Gate
