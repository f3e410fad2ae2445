import QueryGate.Proofs.Gate.Approval
import QueryGate.Proofs.Gate.Making
import QueryGate.Proofs.Pattern.Shape

/-!
# The whitelist as the last check

The whitelist is looked at when every other check has been passed, so it can turn an approval into
one sort of rejection and do nothing else. All other checks depend on the blocked tables and the
length limit only. So the verdicts of gates that share these two are known from the verdict without
a whitelist and from which patterns allow the text that a server runs.

## Main definitions

* `Gate.withPatterns` — the same gate with other patterns
* `Gate.ruleViolation?` — the first violation by a query text, the whitelist aside
* `NotListed` — a verdict that rejects a query because no pattern allows it

## Main results

* `verdict_of_whitelistEnabled` — the verdict with a whitelist from the verdict without
* `verdict_of_addPattern` — the verdict after one more pattern was added
* `whitelist_decides_last` — how verdicts depend on the whitelist and its patterns
-/

namespace QueryGate.Gate

open Sql Text

variable {g g' : Gate} {v : Value} {query : List Char} {p : Pattern}

/-- The same gate with other patterns in its whitelist. -/
def withPatterns (g : Gate) (patterns : List Pattern) : Gate :=
  { g with patterns := patterns }

/-! ### Checks other than the whitelist -/

/-- The first violation by a query text, its length and the whitelist aside. -/
def ruleViolation? (g : Gate) (query : List Char) : Option Violation :=
  (g.commentViolation? (split query)).or (g.statementViolation? query (plainForm (split query)))

theorem violation?_eq_or (g : Gate) (query : List Char) :
    g.violation? query = (g.ruleViolation? query).or
      (if g.whitelistEnabled && !g.allows (executedForm (split query)) then some .notAllowed
        else none) := by
  simp only [violation?, ruleViolation?]
  cases g.commentViolation? (split query) <;>
    cases g.statementViolation? query (plainForm (split query)) <;> rfl

theorem violation?_withoutWhitelist (g : Gate) (query : List Char) :
    g.withoutWhitelist.violation? query = g.ruleViolation? query := by
  rw [violation?_eq_or, whitelistEnabled_withoutWhitelist, Bool.false_and,
    if_neg Bool.false_ne_true, Option.or_none]
  rfl

/-- The checks other than the whitelist look at the blocked tables of a gate only. -/
theorem ruleViolation?_congr (tables : g.blockedTables = g'.blockedTables) (query : List Char) :
    g.ruleViolation? query = g'.ruleViolation? query := by
  have segment : g.segmentViolation? = g'.segmentViolation? := by
    funext s
    simp only [segmentViolation?, bodyViolation?, tables]
  simp only [ruleViolation?, commentViolation?, statementViolation?, segment, tables]

theorem bodyViolation?_ne_notAllowed (g : Gate) (body : List Char) :
    g.bodyViolation? body ≠ some .notAllowed := by
  intro found
  simp only [bodyViolation?] at found
  split at found
  · cases found
  · split_ifs at found <;> cases found

theorem segmentViolation?_ne_notAllowed (g : Gate) (s : Segment) :
    g.segmentViolation? s ≠ some .notAllowed := by
  intro found
  have unclosed {open? : Bool} : (if open? then some (Violation.flawed .unterminatedComment)
      else none) ≠ some .notAllowed := by
    cases open? <;> simp
  cases s with
  | executableComment mark version body closed =>
    rcases Option.or_eq_some_iff.mp found with inBody | ⟨-, atEnd⟩
    · exact bodyViolation?_ne_notAllowed g body inBody
    · exact unclosed atEnd
  | code t => cases found
  | quoted mark inside closed => cases found
  | lineComment mark inside => cases found
  | blockComment inside closed => exact unclosed found

theorem statementViolation?_ne_notAllowed (g : Gate) (query plain : List Char) :
    g.statementViolation? query plain ≠ some .notAllowed := by
  intro found
  simp only [statementViolation?] at found
  -- Every check has a violation of its own, and that of the whitelist is not among them.
  split at found
  · cases found
  · split at found
    · cases found
    · split at found
      · cases found
      · split at found
        · cases found
        · split_ifs at found
          cases found

theorem ruleViolation?_ne_notAllowed (g : Gate) (query : List Char) :
    g.ruleViolation? query ≠ some .notAllowed := by
  intro found
  rcases Option.or_eq_some_iff.mp found with inComment | ⟨-, inStatement⟩
  · obtain ⟨s, -, here⟩ := List.exists_of_findSome?_eq_some inComment
    exact segmentViolation?_ne_notAllowed g s here
  · exact statementViolation?_ne_notAllowed g query _ inStatement

/-! ### Verdicts -/

/-- A verdict that rejects a query because no pattern allows it. -/
def NotListed (verdict : Except Failure Verdict) : Prop :=
  ∃ r, verdict = .ok (.rejected r) ∧ r.kind = .notWhitelisted

theorem kind_ofViolation_eq_notWhitelisted_iff {violation : Violation} :
    (Rejection.ofViolation query violation).kind = .notWhitelisted ↔ violation = .notAllowed := by
  cases violation <;> simp [Rejection.ofViolation, Rejection.invalidStructure,
    Rejection.disallowedKeyword, Rejection.notWhitelisted]

theorem not_notListed_approved : ¬ NotListed (.ok .approved) := by
  rintro ⟨r, same, -⟩
  cases same

theorem notListed_notAllowed (query : List Char) :
    NotListed (.ok (.rejected (.ofViolation query .notAllowed))) :=
  ⟨_, rfl, rfl⟩

/-- What cannot be read as text is rejected by every gate in the same way. -/
theorem kind_ne_notWhitelisted_of_textOf {r : Rejection}
    (unread : textOf v = .error (.rejected r)) : r.kind ≠ .notWhitelisted := by
  rcases textOf_cases v with ⟨-, ⟨query, text⟩ | ⟨answer, flaw, other⟩⟩ | ⟨-, failed⟩
  · cases unread.symm.trans text
  · cases unread.symm.trans other
    rw [ne_eq, kind_ofViolation_eq_notWhitelisted_iff]
    exact nofun
  · cases unread.symm.trans failed

/-- Without a whitelist no query is rejected for want of a pattern. -/
theorem not_notListed_withoutWhitelist (g : Gate) (v : Value) :
    ¬ NotListed (g.withoutWhitelist.verdict v) := by
  rintro ⟨r, rejected, listed⟩
  rcases textOf_cases v with ⟨-, ⟨query, text⟩ | ⟨answer, flaw, other⟩⟩ | ⟨-, failed⟩
  · rw [verdict_of_textOf text] at rejected
    obtain ⟨violation, rfl, ⟨_, -, rfl, -⟩ | ⟨-, found⟩⟩ := textVerdict_eq_rejected_iff.mp rejected
    · cases listed
    · rw [kind_ofViolation_eq_notWhitelisted_iff] at listed
      rw [violation?_withoutWhitelist, listed] at found
      exact ruleViolation?_ne_notAllowed g query found
  · rw [verdict, other] at rejected
    obtain rfl := Verdict.rejected.inj (Except.ok.inj rejected)
    exact kind_ne_notWhitelisted_of_textOf other listed
  · rw [verdict, failed] at rejected
    cases rejected

/-- Without a whitelist the verdict depends on the blocked tables and the length limit only. -/
theorem verdict_withoutWhitelist_congr (tables : g.blockedTables = g'.blockedTables)
    (limit : g.limit = g'.limit) (v : Value) :
    g.withoutWhitelist.verdict v = g'.withoutWhitelist.verdict v := by
  have sameLimit : g.withoutWhitelist.limit = g'.withoutWhitelist.limit := limit
  simp only [verdict, textVerdict, violation?_withoutWhitelist, sameLimit,
    ruleViolation?_congr tables]

theorem verdict_of_not_whitelistEnabled (off : g.whitelistEnabled = false) (v : Value) :
    g.verdict v = g.withoutWhitelist.verdict v := by
  have sameLimit : g.withoutWhitelist.limit = g.limit := rfl
  simp only [verdict, textVerdict, violation?_withoutWhitelist, sameLimit, violation?_eq_or g, off,
    Bool.false_and, if_neg Bool.false_ne_true, Option.or_none]

/-- With a whitelist a query is rejected as it is without one; or it would be let pass, and then the
patterns decide. -/
theorem verdict_of_whitelistEnabled (on : g.whitelistEnabled = true) (v : Value) :
    (g.withoutWhitelist.verdict v ≠ .ok .approved ∧
      g.verdict v = g.withoutWhitelist.verdict v) ∨
    ∃ query, textOf v = .ok query ∧ g.withoutWhitelist.verdict v = .ok .approved ∧
      g.verdict v = .ok (if g.allows (executedForm (split query)) then .approved
        else .rejected (.ofViolation query .notAllowed)) := by
  have sameLimit : g.withoutWhitelist.limit = g.limit := rfl
  -- Both gates go through the same checks, up to the whitelist.
  simp only [verdict]
  rcases textOf_cases v with ⟨-, ⟨query, text⟩ | ⟨answer, flaw, other⟩⟩ | ⟨-, failed⟩
  · rw [text]
    simp only [textVerdict, violation?_withoutWhitelist, sameLimit, violation?_eq_or g, on,
      Bool.true_and]
    cases g.limit.exceededBy? query.length with
    | none => exact .inl ⟨by simp, rfl⟩
    | some exceeded =>
      cases exceeded with
      | true => exact .inl ⟨by cases g.limit.shown? <;> simp, rfl⟩
      | false =>
        cases g.ruleViolation? query with
        | some violation => exact .inl ⟨by simp [Verdict.ofViolation?], rfl⟩
        | none =>
          refine .inr ⟨query, rfl, rfl, ?_⟩
          cases g.allows (executedForm (split query)) <;> rfl
  · rw [other]
    exact .inl ⟨by simp, rfl⟩
  · rw [failed]
    exact .inl ⟨by simp, rfl⟩

/-- What a gate lets pass: what it lets pass without its whitelist, if some pattern allows the text
that a server runs. -/
theorem verdict_eq_approved_iff (on : g.whitelistEnabled = true) (v : Value) :
    g.verdict v = .ok .approved ↔
      g.withoutWhitelist.verdict v = .ok .approved ∧
        ∃ query, textOf v = .ok query ∧ ∃ p ∈ g.patterns,
          p.accepts (executedForm (split query)) = true := by
  rcases verdict_of_whitelistEnabled on v with ⟨other, same⟩ | ⟨query, text, base, listed⟩
  · rw [same]
    exact ⟨fun approved => absurd approved other, fun approved => absurd approved.1 other⟩
  · rw [listed]
    constructor
    · intro approved
      refine ⟨base, query, text, ?_⟩
      by_contra absent
      have refused : g.allows (executedForm (split query)) = false := by
        simpa [allows] using absent
      rw [refused] at approved
      cases approved
    · rintro ⟨-, other, same, p, member, accepts⟩
      obtain rfl := Except.ok.inj (text.symm.trans same)
      rw [allows, List.any_eq_true.mpr ⟨p, member, accepts⟩]
      rfl

/-- A query is rejected for want of a pattern if nothing else is wrong with it. -/
theorem notListed_verdict_iff (on : g.whitelistEnabled = true) (v : Value) :
    NotListed (g.verdict v) ↔
      g.withoutWhitelist.verdict v = .ok .approved ∧ g.verdict v ≠ .ok .approved := by
  rcases verdict_of_whitelistEnabled on v with ⟨other, same⟩ | ⟨query, -, base, listed⟩
  · rw [same]
    exact ⟨fun unlisted => absurd unlisted (not_notListed_withoutWhitelist g v),
      fun approved => absurd approved.1 other⟩
  · rw [listed]
    cases g.allows (executedForm (split query)) with
    | true => exact ⟨fun unlisted => absurd unlisted not_notListed_approved,
        fun approved => absurd rfl approved.2⟩
    | false => exact ⟨fun _ => ⟨base, by simp⟩, fun _ => notListed_notAllowed query⟩

/-- Of a gate's patterns only matters which of them there are. -/
theorem verdict_withPatterns_congr {patterns : List Pattern}
    (same : ∀ p, p ∈ patterns ↔ p ∈ g.patterns) (v : Value) :
    (g.withPatterns patterns).verdict v = g.verdict v := by
  have allowed (t : List Char) : (g.withPatterns patterns).allows t = g.allows t := by
    rw [Bool.eq_iff_iff, allows, allows, List.any_eq_true, List.any_eq_true]
    exact exists_congr fun p => and_congr_left' (same p)
  have rules (query : List Char) :
      (g.withPatterns patterns).ruleViolation? query = g.ruleViolation? query :=
    ruleViolation?_congr rfl query
  have enabled : (g.withPatterns patterns).whitelistEnabled = g.whitelistEnabled := rfl
  have limit : (g.withPatterns patterns).limit = g.limit := rfl
  simp only [verdict, textVerdict, violation?_eq_or, allowed, rules, enabled, limit]

/-! ### Adding a pattern -/

theorem allows_append (t : List Char) :
    (g.withPatterns (g.patterns ++ [p])).allows t = (g.allows t || p.accepts t) := by
  simp [allows, withPatterns]

/-- One more pattern changes a verdict exactly if the query was rejected for want of a pattern and
the new one allows the text that a server runs; and then the query is let pass. -/
theorem verdict_of_addPattern (on : g.whitelistEnabled = true) (v : Value) (p : Pattern) :
    let wider := g.withPatterns (g.patterns ++ [p])
    (wider.verdict v ≠ g.verdict v ↔
      NotListed (g.verdict v) ∧
        ∃ query, textOf v = .ok query ∧ p.accepts (executedForm (split query)) = true) ∧
    (wider.verdict v ≠ g.verdict v → wider.verdict v = .ok .approved) := by
  intro wider
  have base : wider.withoutWhitelist.verdict v = g.withoutWhitelist.verdict v :=
    verdict_withoutWhitelist_congr rfl rfl v
  have onWider : wider.whitelistEnabled = true := on
  rcases verdict_of_whitelistEnabled on v with ⟨other, same⟩ | ⟨query, text, approved, listed⟩
  · -- Another check rejects the query, and it does so for both gates.
    have sameWider : wider.verdict v = g.verdict v := by
      rcases verdict_of_whitelistEnabled onWider v with ⟨-, here⟩ | ⟨-, -, passes, -⟩
      · rw [here, base, same]
      · exact absurd (base.symm.trans passes) other
    refine ⟨⟨fun changed => absurd sameWider changed, ?_⟩, fun changed => absurd sameWider changed⟩
    rintro ⟨unlisted, -⟩
    rw [same] at unlisted
    exact absurd unlisted (not_notListed_withoutWhitelist g v)
  · have listedWider : wider.verdict v = .ok (if g.allows (executedForm (split query)) ||
        p.accepts (executedForm (split query)) then .approved
        else .rejected (.ofViolation query .notAllowed)) := by
      rcases verdict_of_whitelistEnabled onWider v with ⟨other, -⟩ | ⟨query', text', -, here⟩
      · exact absurd (base.trans approved) other
      · obtain rfl := Except.ok.inj (text.symm.trans text')
        rw [here, allows_append]
    have accepted : (∃ q, textOf v = .ok q ∧ p.accepts (executedForm (split q)) = true) ↔
        p.accepts (executedForm (split query)) = true := by
      rw [text]
      simp
    rw [listedWider, listed, accepted]
    cases g.allows (executedForm (split query)) with
    | true => simp [not_notListed_approved]
    | false =>
      cases p.accepts (executedForm (split query)) with
      | true => simp [notListed_notAllowed]
      | false => simp

/-- Where the whitelist is off, its patterns do not matter. -/
theorem verdict_withPatterns_of_not_whitelistEnabled (off : g.whitelistEnabled = false)
    (patterns : List Pattern) (v : Value) :
    (g.withPatterns patterns).verdict v = g.verdict v := by
  have offToo : (g.withPatterns patterns).whitelistEnabled = false := off
  rw [verdict_of_not_whitelistEnabled off, verdict_of_not_whitelistEnabled offToo]
  exact verdict_withoutWhitelist_congr rfl rfl v

/-! ### Main result -/

/-- Two gates share the blocked tables and the length limit, and one of them uses a whitelist. The
other lets pass what this one lets pass or rejects for want of a pattern, and all other verdicts are
the same. What the whitelist lets pass is what each pattern by itself lets pass, taken together; and
one more pattern changes a verdict only from a rejection for want of a pattern into an approval,
exactly where it allows the text that a server runs. Without a whitelist it changes none. -/
theorem whitelist_decides_last [Pattern.Engine] (tables : g.blockedTables = g'.blockedTables)
    (limit : g.limit = g'.limit) (off : g.whitelistEnabled = false)
    (on : g'.whitelistEnabled = true) (v : Value) :
    (g.verdict v = .ok .approved ↔ g'.verdict v = .ok .approved ∨ NotListed (g'.verdict v)) ∧
    (g.verdict v ≠ .ok .approved → g'.verdict v = g.verdict v) ∧
    (g'.verdict v = .ok .approved ↔
      ∃ p ∈ g'.patterns, (g'.withPatterns [p]).verdict v = .ok .approved) ∧
    (g'.withPatterns []).verdict v ≠ .ok .approved ∧
    (∀ patterns, (∀ p, p ∈ patterns ↔ p ∈ g'.patterns) →
      (g'.withPatterns patterns).verdict v = g'.verdict v) ∧
    ∀ argument p, argument.compile = .ok p →
      (∃ wider, (addPattern argument).on g' = .ok wider ∧
        (wider.verdict v ≠ g'.verdict v ↔
          NotListed (g'.verdict v) ∧
            ∃ query, textOf v = .ok query ∧ p.accepts (executedForm (split query)) = true) ∧
        (wider.verdict v ≠ g'.verdict v → wider.verdict v = .ok .approved)) ∧
      ∃ wider, (addPattern argument).on g = .ok wider ∧ wider.verdict v = g.verdict v := by
  have base : g.verdict v = g'.withoutWhitelist.verdict v := by
    rw [verdict_of_not_whitelistEnabled off, verdict_withoutWhitelist_congr tables limit]
  have single (patterns : List Pattern) :
      (g'.withPatterns patterns).verdict v = .ok .approved ↔
        g'.withoutWhitelist.verdict v = .ok .approved ∧ ∃ query, textOf v = .ok query ∧
          ∃ p ∈ patterns, p.accepts (executedForm (split query)) = true := by
    have same : (g'.withPatterns patterns).withoutWhitelist.verdict v =
        g'.withoutWhitelist.verdict v := verdict_withoutWhitelist_congr rfl rfl v
    rw [← same]
    exact verdict_eq_approved_iff (g := g'.withPatterns patterns) on v
  refine ⟨?_, ?_, ?_, ?_, fun patterns same => verdict_withPatterns_congr same v, ?_⟩
  · rw [base, notListed_verdict_iff on]
    constructor
    · intro passes
      by_cases listed : g'.verdict v = .ok .approved
      · exact .inl listed
      · exact .inr ⟨passes, listed⟩
    · rintro (listed | ⟨passes, -⟩)
      · exact ((verdict_eq_approved_iff on v).mp listed).1
      · exact passes
  · intro other
    rw [base] at other ⊢
    rcases verdict_of_whitelistEnabled on v with ⟨-, same⟩ | ⟨-, -, passes, -⟩
    · exact same
    · exact absurd passes other
  · rw [verdict_eq_approved_iff on]
    simp only [single, List.mem_singleton, exists_eq_left]
    constructor
    · rintro ⟨passes, query, text, p, member, accepts⟩
      exact ⟨p, member, passes, query, text, accepts⟩
    · rintro ⟨p, member, passes, query, text, accepts⟩
      exact ⟨passes, query, text, p, member, accepts⟩
  · rw [ne_eq, single]
    rintro ⟨-, -, -, p, member, -⟩
    cases member
  · intro argument p compiled
    refine ⟨⟨_, addPattern_eq_ok compiled, verdict_of_addPattern on v p⟩, ?_⟩
    exact ⟨_, addPattern_eq_ok compiled, verdict_withPatterns_of_not_whitelistEnabled off _ v⟩

/-- A sum is no column, so no default pattern allows it; a pattern of its own does. -/
theorem whitelist_decides_last_of_sum :
    let _ : Pattern.Engine := .plain
    let v : Value := .text "SELECT 1 + 1 -- two\n;".toList
    let sum : Pattern := .exactly "sum".toList "SELECT 1 + 1".toList
    (standard.withoutWhitelist.blockedTables = standard.blockedTables ∧
      standard.withoutWhitelist.limit = standard.limit ∧
      standard.withoutWhitelist.whitelistEnabled = false ∧ standard.whitelistEnabled = true) ∧
    standard.withoutWhitelist.verdict v = .ok .approved ∧ NotListed (standard.verdict v) ∧
    ∃ wider, (addPattern (.matcher sum)).on standard = .ok wider ∧
      wider.verdict v = .ok .approved := by
  intro _ v sum
  have refused : standard.violation? "SELECT 1 + 1 -- two\n;".toList = some .notAllowed := by
    rw [standard_eq]
    decide +kernel
  have unlisted : NotListed (standard.verdict v) := by
    have rejected : standard.verdict v =
        .ok (.ofViolation? _ (standard.violation? "SELECT 1 + 1 -- two\n;".toList)) := rfl
    rw [rejected, refused]
    exact notListed_notAllowed _
  have tables : standard.withoutWhitelist.blockedTables = standard.blockedTables := rfl
  have on : standard.whitelistEnabled = true := rfl
  obtain ⟨iff, -, -, -, -, adding⟩ := whitelist_decides_last tables rfl rfl on v
  obtain ⟨wider, added, changed, approved⟩ := (adding (.matcher sum) sum rfl).1
  have accepts : sum.accepts (executedForm (split "SELECT 1 + 1 -- two\n;".toList)) = true := by
    decide +kernel
  refine ⟨⟨tables, rfl, rfl, on⟩, iff.mpr (.inr unlisted), unlisted, wider, added, ?_⟩
  exact approved (changed.mpr ⟨unlisted, _, rfl, accepts⟩)

end QueryGate.Gate
