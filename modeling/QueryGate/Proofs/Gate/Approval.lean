import Mathlib.Tactic.SplitIfs
import QueryGate.Gate.Check
import QueryGate.Proofs.Sql.Lexing

/-!
# When a query is allowed

A query is let pass exactly when it is text and none of the checks finds a violation. The checks
end at the first violation, so what an allowed query satisfies is the conjunction of all of them.

## Main definitions

* `Gate.Allows` — a query text passes every check of a gate
* `Gate.withoutWhitelist` — the same gate with its whitelist switched off
* `Limit.Fails` — a limit gives no verdict on a length
* `Gate.Undecided` — a gate gives no verdict on a value

## Main results

* `Limit.exceededBy?_of_le` — a shorter query keeps a limit that a longer one keeps
* `Limit.shown?_eq_none_iff` — only a number of too many digits cannot be shown
* `verdict_eq_error_iff` — there is a verdict on all but undecided values
* `verdict_eq_approved_iff_allows`, `validate_eq_ok_iff` — an allowed query is a text that passes
  every check
* `textVerdict_eq_rejected_iff` — a text is rejected for its length or for the first violation by it
* `segmentViolation?_executable`, `bodyViolation?_eq_none_iff` — comments without a violation
-/

namespace QueryGate.Gate

open Sql Text

variable {g : Gate} {query : List Char} {v : Value}

/-! ### Length limits -/

theorem isBelow_mono {x : Decimal.Binary64} {m n : Nat} (le : m ≤ n) (below : x.isBelow m = true) :
    x.isBelow n = true := by
  simp only [Decimal.Binary64.isBelow, decide_eq_true_eq] at below ⊢
  exact Nat.lt_of_lt_of_le below (Nat.mul_le_mul_right _ le)

theorem isLess_mono {x : Float} {m n : Nat} (le : m ≤ n) (less : Decimal.isLess x m = true) :
    Decimal.isLess x n = true := by
  simp only [Decimal.isLess] at less ⊢
  by_cases number : x.isNaN = true
  · rw [if_pos number] at less
    cases less
  · rw [if_neg number] at less ⊢
    by_cases negative : x.toBits.toNat / Nat.pow 2 63 = 1
    · rw [if_pos negative, Bool.or_eq_true, decide_eq_true_eq] at less ⊢
      exact less.imp_right fun positive => by omega
    · rw [if_neg negative, Bool.and_eq_true] at less ⊢
      exact ⟨less.1, isBelow_mono le less.2⟩

/-- A shorter query is not over a limit that a longer one keeps. -/
theorem Limit.exceededBy?_of_le {limit : Limit} {m n : Nat} (le : m ≤ n)
    (kept : limit.exceededBy? n = some false) : limit.exceededBy? m = some false := by
  cases limit with
  | unlimited => rfl
  | whole k =>
    simp only [exceededBy?, Option.some.injEq, decide_eq_false_iff_not, Int.not_lt] at kept ⊢
    omega
  | decimal x =>
    simp only [exceededBy?, Option.some.injEq] at kept ⊢
    refine Bool.eq_false_iff.mpr fun less => ?_
    rw [isLess_mono le less] at kept
    cases kept
  | flag b =>
    simp only [exceededBy?, Option.some.injEq, decide_eq_false_iff_not, Nat.not_lt] at kept ⊢
    omega
  | incomparable => cases kept

theorem Limit.exceededBy?_eq_none_iff {limit : Limit} {n : Nat} :
    limit.exceededBy? n = none ↔ limit = .incomparable := by
  cases limit <;> simp [exceededBy?]

/-- A whole number can be shown unless it has too many digits. -/
theorem shownInt?_eq_none_iff {n : Int} :
    Value.shownInt? n = none ↔ Nat.pow 10 Decimal.digitLimit ≤ n.natAbs := by
  have digits (k : Nat) (positive : 0 < k) :
      (Nat.toDigits 10 n.natAbs).length ≤ k ↔ n.natAbs < Nat.pow 10 k :=
    Nat.length_toDigits_le_iff (by decide) positive
  rw [Value.shownInt?, ← Nat.not_lt, ← digits _ (by decide), Nat.not_le]
  split <;> simp_all

theorem Limit.shown?_eq_none_iff {limit : Limit} :
    limit.shown? = none ↔
      ∃ n : Int, limit = .whole n ∧ Nat.pow 10 Decimal.digitLimit ≤ n.natAbs := by
  cases limit <;> simp [shown?, shownInt?_eq_none_iff]

/-- A limit gives no verdict on a length: it cannot be compared with it, or it is exceeded and has too
many digits to be shown. -/
inductive Limit.Fails (limit : Limit) (length : Nat) : Failure → Prop
  | incomparable (no_number : limit = .incomparable) : limit.Fails length .incomparableLimit
  | unshown (exceeded : limit.exceededBy? length = some true) (too_long : limit.shown? = none) :
    limit.Fails length .numberTooLong

theorem Limit.not_fails_of_unlimited {limit : Limit} {n : Nat} {failure : Failure}
    (unlimited : limit = .unlimited) : ¬ limit.Fails n failure := by
  rintro (no_number | ⟨exceeded, -⟩)
  · cases unlimited.symm.trans no_number
  · rw [unlimited] at exceeded
    cases exceeded

/-! ### Checks -/

/-- A query text passes every check of a gate. -/
structure Allows (g : Gate) (query : List Char) : Prop where
  short_enough : g.limit.exceededBy? query.length = some false
  comments : ∀ s ∈ split query, g.segmentViolation? s = none
  begins : startsWithSelect (plainForm (split query)) = true
  plain_statement : ';' ∉ dropSemicolon (plainForm (split query))
  raw_statement : hasSeparator query = false
  plain_tokens : findBlocked g.blockedTables (dropSemicolon (plainForm (split query))) = none
  raw_tokens : findBlocked g.blockedTables query = none
  selects : countWord Keyword.select query ≤ 1
  whitelisted : g.whitelistEnabled = true → g.allows (executedForm (split query)) = true

/-- The same gate with its whitelist switched off. -/
def withoutWhitelist (g : Gate) : Gate :=
  { g with whitelist := .bool false }

@[simp] theorem whitelistEnabled_withoutWhitelist (g : Gate) :
    g.withoutWhitelist.whitelistEnabled = false := rfl

@[simp] theorem withoutWhitelist_withoutWhitelist (g : Gate) :
    g.withoutWhitelist.withoutWhitelist = g.withoutWhitelist := rfl

theorem commentViolation?_eq_none_iff {segments : List Segment} :
    g.commentViolation? segments = none ↔ ∀ s ∈ segments, g.segmentViolation? s = none :=
  List.findSome?_eq_none_iff

theorem statementViolation?_eq_none_iff {plain : List Char} :
    g.statementViolation? query plain = none ↔
      startsWithSelect plain = true ∧ ';' ∉ dropSemicolon plain ∧ hasSeparator query = false ∧
        findBlocked g.blockedTables (dropSemicolon plain) = none ∧
        findBlocked g.blockedTables query = none ∧ countWord Keyword.select query ≤ 1 := by
  rw [← Nat.not_lt]
  by_cases semicolon : ';' ∈ dropSemicolon plain
  · cases begins : startsWithSelect plain <;> simp [statementViolation?, begins, semicolon]
  · cases begins : startsWithSelect plain <;> cases separator : hasSeparator query <;>
      cases plainToken : findBlocked g.blockedTables (dropSemicolon plain) <;>
      cases rawToken : findBlocked g.blockedTables query <;>
      simp [statementViolation?, begins, separator, semicolon, plainToken, rawToken]

theorem violation?_eq_none_iff :
    g.violation? query = none ↔
      g.commentViolation? (split query) = none ∧
        g.statementViolation? query (plainForm (split query)) = none ∧
        (g.whitelistEnabled = true → g.allows (executedForm (split query)) = true) := by
  simp only [violation?]
  cases g.commentViolation? (split query) <;>
    cases g.statementViolation? query (plainForm (split query)) <;> simp

theorem textVerdict_eq_error_iff {failure : Failure} :
    g.textVerdict query = .error failure ↔ g.limit.Fails query.length failure := by
  rw [textVerdict]
  constructor
  · intro failed
    rcases exceeded : g.limit.exceededBy? query.length with _ | _ | _ <;> rw [exceeded] at failed
    · cases failed
      exact .incomparable (Limit.exceededBy?_eq_none_iff.mp exceeded)
    · cases failed
    · cases shown : g.limit.shown? <;> rw [shown] at failed <;> cases failed
      exact .unshown exceeded shown
  · rintro (no_number | ⟨exceeded, too_long⟩)
    · rw [Limit.exceededBy?_eq_none_iff.mpr no_number]
    · rw [exceeded, too_long]

/-- A value that can be shown has a text or is rejected for its form, and any other one is reported. -/
theorem textOf_cases (v : Value) :
    v.shown? ≠ none ∧
        ((∃ query, textOf v = .ok query) ∨ ∃ shown flaw,
          textOf v = .error (.rejected (.ofViolation shown (.flawed flaw)))) ∨
      v.shown? = none ∧ textOf v = .error .numberTooLong := by
  cases shown : v.shown? with
  | none =>
    cases v with
    | text _ | bytes _ | null => simp [Value.shown?] at shown
    | _ => exact .inr ⟨rfl, by simp only [textOf, shown]⟩
  | some _ =>
    refine .inl ⟨nofun, ?_⟩
    cases v with
    | text chars => exact .inl ⟨chars, rfl⟩
    | bytes content =>
      cases decoded : Utf8.decode? content with
      | some query => exact .inl ⟨query, by simp only [textOf, decoded]⟩
      | none => exact .inr ⟨_, .notUtf8, by simp only [textOf, decoded]; rfl⟩
    | null => exact .inr ⟨_, .notText, rfl⟩
    | _ => exact .inr ⟨_, .notText, by simp only [textOf, shown]; rfl⟩

/-- A gate gives no verdict on a value: its length limit fails, or the value cannot be shown. -/
inductive Undecided (g : Gate) (v : Value) : Failure → Prop
  | length {query : List Char} {failure : Failure} (text : textOf v = .ok query)
      (fails : g.limit.Fails query.length failure) : g.Undecided v failure
  | value (too_long : v.shown? = none) : g.Undecided v .numberTooLong

theorem verdict_of_textOf (text : textOf v = .ok query) : g.verdict v = g.textVerdict query := by
  rw [verdict, text]

/-- Gates that judge a text alike judge its value alike; any other value says all by itself. -/
theorem verdict_congr {g' : Gate}
    (same : ∀ query, textOf v = .ok query → g'.textVerdict query = g.textVerdict query) :
    g'.verdict v = g.verdict v := by
  rcases textOf_cases v with ⟨-, ⟨query, text⟩ | ⟨_, _, rejected⟩⟩ | ⟨-, failed⟩
  · rw [verdict_of_textOf text, verdict_of_textOf text, same query text]
  · rw [verdict, verdict, rejected]
  · rw [verdict, verdict, failed]

/-- There is a verdict on every value that is not undecided. -/
theorem verdict_eq_error_iff {failure : Failure} :
    g.verdict v = .error failure ↔ g.Undecided v failure := by
  rcases textOf_cases v with ⟨shown, ⟨query, text⟩ | ⟨answer, flaw, rejected⟩⟩ | ⟨unshown, failed⟩
  · rw [verdict_of_textOf text, textVerdict_eq_error_iff]
    constructor
    · exact .length text
    · rintro (⟨text', fails⟩ | unshown)
      · obtain rfl := Except.ok.inj (text.symm.trans text')
        exact fails
      · exact absurd unshown shown
  · have decided : g.verdict v = .ok (.rejected (.ofViolation answer (.flawed flaw))) := by
      rw [verdict, rejected]
    rw [decided]
    constructor
    · rintro ⟨⟩
    · rintro (⟨text, -⟩ | unshown)
      · cases rejected.symm.trans text
      · exact absurd unshown shown
  · have undecided : g.verdict v = .error .numberTooLong := by rw [verdict, failed]
    rw [undecided]
    constructor
    · rintro ⟨⟩
      exact .value unshown
    · rintro (⟨text, -⟩ | _)
      · cases failed.symm.trans text
      · rfl

/-- Without a length limit the first violation decides. -/
theorem verdict_of_unlimited (unlimited : g.limit = .unlimited) (text : textOf v = .ok query) :
    g.verdict v = .ok (.ofViolation? query (g.violation? query)) := by
  rw [verdict_of_textOf text]
  simp only [textVerdict, unlimited, Limit.exceededBy?]

/-- A text is rejected for its length, and if it is short enough for the first violation by it. -/
theorem textVerdict_eq_rejected_iff {r : Rejection} :
    g.textVerdict query = .ok (.rejected r) ↔ ∃ violation, r = .ofViolation query violation ∧
      ((∃ shown, g.limit.shown? = some shown ∧ violation = .flawed (.tooLong shown) ∧
          g.limit.exceededBy? query.length = some true) ∨
        g.limit.exceededBy? query.length = some false ∧ g.violation? query = some violation) := by
  rw [textVerdict]
  rcases g.limit.exceededBy? query.length with _ | _ | _
  · simp
  · cases g.violation? query <;> simp [Verdict.ofViolation?, eq_comm]
  · cases g.limit.shown? <;> simp [eq_comm]

theorem textVerdict_eq_approved_iff_violation? :
    g.textVerdict query = .ok .approved ↔
      g.limit.exceededBy? query.length = some false ∧ g.violation? query = none := by
  rw [textVerdict]
  rcases g.limit.exceededBy? query.length with _ | _ | _
  · simp
  · cases g.violation? query <;> simp [Verdict.ofViolation?]
  · cases g.limit.shown? <;> simp

theorem textVerdict_eq_approved_iff :
    g.textVerdict query = .ok .approved ↔ Allows g query := by
  rw [textVerdict_eq_approved_iff_violation?, violation?_eq_none_iff,
    commentViolation?_eq_none_iff, statementViolation?_eq_none_iff]
  constructor
  · rintro ⟨short, comments, ⟨begins, plain, raw, plainTokens, rawTokens, selects⟩, listed⟩
    exact ⟨short, comments, begins, plain, raw, plainTokens, rawTokens, selects, listed⟩
  · rintro ⟨short, comments, begins, plain, raw, plainTokens, rawTokens, selects, listed⟩
    exact ⟨short, comments, ⟨begins, plain, raw, plainTokens, rawTokens, selects⟩, listed⟩

/-- An approved query is a text that passes every check. -/
theorem verdict_eq_approved_iff_allows :
    g.verdict v = .ok .approved ↔ ∃ query, textOf v = .ok query ∧ Allows g query := by
  rcases textOf_cases v with ⟨-, ⟨query, text⟩ | ⟨_, _, rejected⟩⟩ | ⟨-, failed⟩
  · rw [verdict_of_textOf text, text, textVerdict_eq_approved_iff]
    simp
  · simp [verdict, rejected]
  · simp [verdict, failed]

theorem validate_eq_ok_iff_verdict : g.validate v = .ok () ↔ g.verdict v = .ok .approved := by
  rw [validate]
  rcases g.verdict v with _ | _ | _ <;> simp [bind, Except.bind, pure, Except.pure]

/-- An allowed query is a text that passes every check. -/
theorem validate_eq_ok_iff :
    g.validate v = .ok () ↔ ∃ query, textOf v = .ok query ∧ Allows g query := by
  rw [validate_eq_ok_iff_verdict, verdict_eq_approved_iff_allows]

theorem validate_eq_ok_iff_of_textOf (text : textOf v = .ok query) :
    g.validate v = .ok () ↔ Allows g query := by
  rw [validate_eq_ok_iff_verdict, verdict_of_textOf text, textVerdict_eq_approved_iff]

theorem validate_text_eq_ok_iff_allows : g.validate (.text query) = .ok () ↔ Allows g query :=
  validate_eq_ok_iff_of_textOf rfl

/-- A text is allowed if it is short enough and no check finds a violation. -/
theorem validate_text_eq_ok_iff :
    g.validate (.text query) = .ok () ↔
      g.limit.exceededBy? query.length = some false ∧ g.violation? query = none := by
  rw [validate_text_eq_ok_iff_allows, ← textVerdict_eq_approved_iff,
    textVerdict_eq_approved_iff_violation?]

theorem allows_of_validate (text : textOf v = .ok query) (valid : g.validate v = .ok ()) :
    Allows g query :=
  (validate_eq_ok_iff_of_textOf text).mp valid

/-- What a server may run of a comment has no blocked token, no `SELECT` and no semicolon. -/
theorem bodyViolation?_eq_none_iff {body : List Char} :
    g.bodyViolation? body = none ↔
      findBlocked g.blockedTables body = none ∧ countWord Keyword.select body = 0 ∧ ';' ∉ body := by
  simp only [bodyViolation?]
  cases findBlocked g.blockedTables body <;> split_ifs <;> simp_all

theorem segmentViolation?_executable {mark : ExecutableMark} {version body : List Char}
    {closed : Bool} :
    g.segmentViolation? (.executableComment mark version body closed) = none ↔
      g.bodyViolation? body = none ∧ closed = true := by
  simp [segmentViolation?, Segment.isComment, Segment.isTerminated, Option.or_eq_none_iff]

/-- Text outside comments is no violation by a comment. -/
theorem segmentViolation?_of_not_comment {s : Segment} (h : s.isComment = false) :
    g.segmentViolation? s = none := by
  cases s <;> simp_all [segmentViolation?, Segment.isComment]

/-- In an allowed query, what a server may run of a segment that is a comment has no blocked token,
no `SELECT` and no semicolon. -/
theorem Allows.body_clean (allowed : Allows g query) {s : Segment} (member : s ∈ split query) :
    findBlocked g.blockedTables s.body = none ∧ countWord Keyword.select s.body = 0 ∧
      ';' ∉ s.body := by
  have clean := allowed.comments s member
  cases s with
  | executableComment mark version body closed =>
    exact bodyViolation?_eq_none_iff.mp (segmentViolation?_executable.mp clean).1
  | _ => simp [Segment.body, findBlocked, findBlockedInSegments, countWord]

end QueryGate.Gate
