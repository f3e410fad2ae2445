import QueryGate.Proofs.Gate.Construction
import QueryGate.Tool

/-!
# The tool and its history

Which gate decides over a query can be read off the calls of the tool: the one that was handed over
last, or, if there was none or it was taken away again, the one that the settings of a query made
first since then. Queries that are blank or cannot be shown make none, nor do settings that cannot be
used; and once there is a gate, settings no longer matter. The log has one entry for each decision,
and one more in front of it if the gate was made for this query.

## Main definitions

* `Tool.Call` — what can be asked of the tool
* `Tool.after` — the tool after several calls
* `Tool.recordedText?` — the text under which a query is recorded
* `Tool.handed?` — what a call puts in the place of the gate
* `Tool.made?` — the gate that a call makes if there is none
* `Tool.LastHanded` — the last of several calls that hands over a gate or takes one away

## Main results

* `gate_next` — what one call does to the gate
* `gate_after_of_lastHanded` — the gate after several calls
* `check_of_currentGate` — what the log has of a query that reaches a gate
* `check_history` — what decides over a query, and what is recorded of it
-/

namespace QueryGate.Tool

open Gate

/-- What can be asked of the tool. A query comes with the settings of its time, if there are any. -/
inductive Call where
  | setGate (spec : Option GateSpec)
  | check (settings : Except Failure Settings) (query : Value)

variable {t : Tool} {call : Call} {calls front back since : List Call} {handed : Option Gate}
  {settings : Except Failure Settings} {query : Value} {shown : List Char} {built : List Record}
  {g : Gate} {failure : Failure}

/-- The text under which a query is recorded: blank queries and those that cannot be shown are not. -/
def recordedText? (query : Value) : Option (List Char) :=
  if isBlank query then none else query.asText?

theorem recordedText?_eq_some_iff :
    recordedText? query = some shown ↔ isBlank query = false ∧ query.asText? = some shown := by
  rw [recordedText?]
  cases isBlank query <;> simp

/-- What can be shown of a query as text can be shown as a value. -/
theorem shown?_ne_none_of_asText? (shows : query.asText? = some shown) : query.shown? ≠ none := by
  cases query with
  | text chars => simp [Value.shown?]
  | _ =>
    intro unshown
    cases unshown.symm.trans shows

/-- A gate fails to decide over a query that can be shown only if its length limit fails. -/
theorem verdict_eq_error_iff_of_asText? (shows : query.asText? = some shown) :
    g.verdict query = .error failure ↔
      ∃ text, textOf query = .ok text ∧ g.limit.Fails text.length failure := by
  rw [verdict_eq_error_iff]
  constructor
  · rintro (⟨text, fails⟩ | unshown)
    · exact ⟨_, text, fails⟩
    · exact absurd unshown (shown?_ne_none_of_asText? shows)
  · rintro ⟨text, read, fails⟩
    exact .length read fails

section Calls

variable [Pattern.Engine]

/-! ### Several calls -/

/-- The tool after a call. -/
def next (t : Tool) : Call → Tool
  | .setGate spec => (t.setGate spec).tool
  | .check settings query => (t.check settings query).tool

/-- The tool after several calls. -/
def after (t : Tool) (calls : List Call) : Tool :=
  calls.foldl next t

@[simp] theorem after_nil (t : Tool) : t.after [] = t := rfl

@[simp] theorem after_cons (t : Tool) (call : Call) (calls : List Call) :
    t.after (call :: calls) = (t.next call).after calls := rfl

theorem after_append (t : Tool) (front back : List Call) :
    t.after (front ++ back) = (t.after front).after back := List.foldl_append

/-- The gate that settings make, if there are any. -/
def settingsGate (settings : Except Failure Settings) : Except Failure Gate := do
  (← settings).gate

/-- What a call puts in the place of the gate: a gate that can be made, or none. Calls that do not
succeed in this leave the gate as it is, and so do queries. -/
def handed? : Call → Option (Option Gate)
  | .setGate none => some none
  | .setGate (some spec) => (make spec).toOption.map some
  | .check _ _ => none

/-- The gate that a call makes if there is none: the one from its settings, if it has a query. -/
def made? : Call → Option Gate
  | .setGate _ => none
  | .check settings query => (recordedText? query).bind fun _ => (settingsGate settings).toOption

/-! ### One call -/

theorem check_of_isBlank (blank : isBlank query = true) :
    t.check settings query = ⟨t, [], .ok (blankPayload query)⟩ := by
  rw [check, if_pos blank]

/-- What cannot be shown is not looked at. -/
theorem check_of_unshown (submitted : isBlank query = false) (unshown : query.asText? = none) :
    t.check settings query = ⟨t, [], .error .numberTooLong⟩ := by
  rw [check, submitted, unshown]
  rfl

theorem tool_check_of_recordedText?_eq_none (unrecorded : recordedText? query = none) :
    (t.check settings query).tool = t := by
  cases blank : isBlank query with
  | true => rw [check_of_isBlank blank]
  | false =>
    rw [recordedText?, blank] at unrecorded
    rw [check_of_unshown blank unrecorded]

theorem currentGate_of_some (given : t.gate = some g) :
    t.currentGate settings = .ok (g, []) := by
  rw [currentGate, given]

theorem currentGate_of_none (unset : t.gate = none) (settings : Except Failure Settings) :
    t.currentGate settings = (settingsGate settings).map fun g => (g, [builtRecord g]) := by
  rw [currentGate, unset, settingsGate]
  rcases settings with failure | settings
  · rfl
  · cases made : settings.gate <;> simp [made, bind, Except.bind, Except.map, pure, Except.pure]

theorem check_of_currentGate_error (recorded : recordedText? query = some shown)
    (failed : t.currentGate settings = .error failure) :
    t.check settings query = ⟨t, [], .error failure⟩ := by
  obtain ⟨submitted, shows⟩ := recordedText?_eq_some_iff.mp recorded
  rw [check, submitted, shows, failed]
  rfl

/-- A query that reaches a gate is decided by it, and the decision is recorded after the making of
the gate. If the gate cannot decide, it is kept all the same. -/
theorem check_of_currentGate (recorded : recordedText? query = some shown)
    (current : t.currentGate settings = .ok (g, built)) :
    t.check settings query =
      match g.verdict query with
      | .error failure => ⟨⟨some g⟩, built, .error failure⟩
      | .ok .approved =>
        ⟨⟨some g⟩, built ++ [approvedRecord shown], .ok ⟨true, query, none, none⟩⟩
      | .ok (.rejected r) =>
        ⟨⟨some g⟩, built ++ [rejectedRecord r],
          .ok ⟨false, .text r.query, some r.reason, some r.kind⟩⟩ := by
  obtain ⟨submitted, shows⟩ := recordedText?_eq_some_iff.mp recorded
  simp only [check, submitted, shows, current, Bool.false_eq_true, if_false]
  rcases g.verdict query with failure | _ | r <;> rfl

theorem tool_check (recorded : recordedText? query = some shown)
    (current : t.currentGate settings = .ok (g, built)) :
    (t.check settings query).tool = ⟨some g⟩ := by
  rw [check_of_currentGate recorded current]
  rcases g.verdict query with failure | _ | r <;> rfl

/-- A call puts something in the place of the gate, or makes a gate if there is none; otherwise the
gate stays as it was. -/
theorem gate_next (t : Tool) (call : Call) :
    (t.next call).gate = (handed? call).getD (t.gate.or (made? call)) := by
  cases call with
  | setGate spec =>
    cases spec with
    | none => rfl
    | some spec =>
      rw [next, setGate, handed?, made?, Option.or_none]
      cases make spec <;> rfl
  | check settings query =>
    rw [next, handed?, Option.getD_none, made?]
    cases recorded : recordedText? query with
    | none => simp [tool_check_of_recordedText?_eq_none recorded]
    | some shown =>
      rw [Option.bind_some]
      -- The gate that decides is kept, whether it was there before or is made for this query.
      cases given : t.gate with
      | some g => rw [tool_check recorded (currentGate_of_some given), Option.some_or]
      | none =>
        have current := currentGate_of_none given settings
        cases made : settingsGate settings with
        | error failure =>
          rw [made] at current
          rw [check_of_currentGate_error recorded current]
          simp [given, Except.toOption]
        | ok g =>
          rw [made] at current
          rw [tool_check recorded current]
          rfl

/-! ### Histories -/

/-- The last of several calls that hands over a gate or takes one away, by what it puts in the place
of the gate, and the calls since then; at the start there is no gate. -/
structure LastHanded (calls : List Call) (handed : Option Gate) (since : List Call) : Prop where
  last : handed = none ∧ calls = since ∨
    ∃ front call, calls = front ++ call :: since ∧ handed? call = some handed
  kept : ∀ call ∈ since, handed? call = none

theorem exists_lastHanded (calls : List Call) : ∃ handed since, LastHanded calls handed since := by
  induction calls using List.reverseRecOn with
  | nil => exact ⟨none, [], .inl ⟨rfl, rfl⟩, nofun⟩
  | append_singleton calls call ih =>
    cases hands : handed? call with
    | some handed => exact ⟨handed, [], .inr ⟨calls, call, rfl, hands⟩, nofun⟩
    | none =>
      obtain ⟨handed, since, last, kept⟩ := ih
      have keptLonger : ∀ later ∈ since ++ [call], handed? later = none :=
        List.forall_mem_append.mpr ⟨kept, List.forall_mem_singleton.mpr hands⟩
      refine ⟨handed, since ++ [call], ?_, keptLonger⟩
      obtain ⟨rfl, rfl⟩ | ⟨front, hander, rfl, hands⟩ := last
      · exact .inl ⟨rfl, rfl⟩
      · exact .inr ⟨front, hander, by simp, hands⟩

theorem gate_after_of_kept (kept : ∀ call ∈ back, handed? call = none) :
    (t.after back).gate = t.gate.or (back.findSome? made?) := by
  -- A gate that was there at first, or was made by the first call, is not replaced by later ones.
  induction back generalizing t with
  | nil => simp
  | cons call back ih =>
    obtain ⟨here, later⟩ := List.forall_mem_cons.mp kept
    rw [after_cons, ih later, gate_next, here, Option.getD_none, Option.or_assoc]
    cases made : made? call <;> simp [made]

/-- The gate after several calls is the one handed over last, or else the first that was made since
it was taken away. -/
theorem gate_after_of_lastHanded (last : LastHanded calls handed since) :
    (({} : Tool).after calls).gate = handed.or (since.findSome? made?) := by
  obtain ⟨⟨rfl, rfl⟩ | ⟨front, call, rfl, hands⟩, kept⟩ := last
  · exact gate_after_of_kept kept
  · rw [after_append, after_cons, gate_after_of_kept kept, gate_next, hands, Option.getD_some]

/-- A query that is recorded is decided by the gate in use, also if it is made for this query. -/
theorem currentGate_cases (recorded : recordedText? query = some shown) :
    (t.gate.or (made? (.check settings query)) = none ∧ t.gate = none ∧
      ∃ failure, settingsGate settings = .error failure ∧
        t.currentGate settings = .error failure) ∨
    ∃ g built, t.gate.or (made? (.check settings query)) = some g ∧
      t.currentGate settings = .ok (g, built) ∧
      (t.gate = some g ∧ built = [] ∨
        t.gate = none ∧ settingsGate settings = .ok g ∧ built = [builtRecord g]) := by
  cases given : t.gate with
  | some g => exact .inr ⟨g, [], rfl, currentGate_of_some given, .inl ⟨rfl, rfl⟩⟩
  | none =>
    have current := currentGate_of_none given settings
    rw [Option.none_or, made?, recorded, Option.bind_some]
    cases made : settingsGate settings with
    | error failure =>
      rw [made] at current
      exact .inl ⟨rfl, rfl, failure, rfl, current⟩
    | ok g =>
      rw [made] at current
      exact .inr ⟨g, [builtRecord g], rfl, current, .inr ⟨rfl, rfl, rfl⟩⟩

theorem inUse_of_lastHanded (last : LastHanded calls handed since) :
    handed.or ((since ++ [call]).findSome? made?) =
      (({} : Tool).after calls).gate.or (made? call) := by
  rw [gate_after_of_lastHanded last, Option.or_assoc, List.findSome?_append,
    List.findSome?_singleton]

/-- After any calls, a query that is neither blank nor impossible to show is decided by the gate
handed over last or, if it was taken away or there was none, by the first that the settings of such a
query made since then, at the latest for this one. If there is still none, the failure of the
settings is handed on, nothing is recorded and nothing changes; and so it is for a query that cannot
be shown, and for a blank one apart from its answer. A decision is the only thing recorded, a
rejection with its sort and reason and an approval with the beginning of the query, unless the gate
was made for it, which is recorded first. A gate fails to decide exactly if its length limit is no
number, or is exceeded and has too many digits to be shown; then the gate is kept, and no decision is
recorded. -/
theorem check_history (calls : List Call) :
    (∃ handed since, LastHanded calls handed since) ∧
    ∀ handed since, LastHanded calls handed since → ∀ settings query,
      let t := ({} : Tool).after calls
      let outcome := t.check settings query
      let inUse := handed.or ((since ++ [Call.check settings query]).findSome? made?)
      (isBlank query = true → outcome = ⟨t, [], .ok (blankPayload query)⟩) ∧
      (isBlank query = false → query.asText? = none → outcome = ⟨t, [], .error .numberTooLong⟩) ∧
      ∀ shown, isBlank query = false → query.asText? = some shown →
        (inUse = none → t.gate = none ∧ ∃ failure, settingsGate settings = .error failure ∧
          outcome = ⟨t, [], .error failure⟩) ∧
        ∀ g, inUse = some g →
          outcome.tool = ⟨some g⟩ ∧
          ∃ built, (t.gate = some g ∧ built = [] ∨
              t.gate = none ∧ settingsGate settings = .ok g ∧
                built = [⟨.debug, "QueryValidator built from settings (whitelist=".toList ++
                  Value.shownBool g.whitelistEnabled ++ ", ".toList ++
                  Nat.toDigits 10 g.patterns.length ++ " patterns)".toList⟩]) ∧
            (g.verdict query = .ok .approved →
              outcome.log = built ++ [⟨.debug, "Approved query: ".toList ++ shown.take 200⟩] ∧
                outcome.result = .ok ⟨true, query, none, none⟩) ∧
            (∀ r, g.verdict query = .ok (.rejected r) →
              outcome.log = built ++ [⟨.info, "Rejected query (".toList ++ r.kind.name ++
                  "): ".toList ++ r.reason⟩] ∧
                outcome.result = .ok ⟨false, .text r.query, some r.reason, some r.kind⟩) ∧
            ∀ failure, (g.verdict query = .error failure ↔
                ∃ text, textOf query = .ok text ∧ g.limit.Fails text.length failure) ∧
              (g.verdict query = .error failure →
                outcome.log = built ∧ outcome.result = .error failure) := by
  refine ⟨exists_lastHanded calls, ?_⟩
  intro handed since last settings query t outcome inUse
  have current : inUse = t.gate.or (made? (.check settings query)) := inUse_of_lastHanded last
  refine ⟨check_of_isBlank, check_of_unshown, fun shown submitted shows => ?_⟩
  have recorded := recordedText?_eq_some_iff.mpr ⟨submitted, shows⟩
  rcases currentGate_cases recorded with ⟨missing, unset, failure, failed, handedOn⟩ |
    ⟨g, built, found, reaches, made⟩
  · refine ⟨fun _ => ⟨unset, failure, failed, check_of_currentGate_error recorded handedOn⟩, ?_⟩
    intro g decides
    cases decides.symm.trans (current.trans missing)
  · refine ⟨fun unset => (nomatch unset.symm.trans (current.trans found)), fun g' decides => ?_⟩
    obtain rfl : g' = g := Option.some.inj (decides.symm.trans (current.trans found))
    have decided : outcome = _ := check_of_currentGate recorded reaches
    refine ⟨tool_check recorded reaches, built, made, ?_, ?_, fun failure =>
      ⟨verdict_eq_error_iff_of_asText? shows, ?_⟩⟩ <;> rw [decided]
    · intro approved
      rw [approved]
      exact ⟨rfl, rfl⟩
    · intro r rejected
      rw [rejected]
      exact ⟨rfl, rfl⟩
    · intro failed
      rw [failed]
      exact ⟨rfl, rfl⟩

end Calls

/-- The first settings cannot be used and the second come with a blank query, so that the third make
the gate; the settings of the query that is looked at no longer matter. -/
theorem check_history_of_changed_settings :
    let _ : Pattern.Engine := .plain
    let limited (limit : Int) : Except Failure Settings := .ok { maxQueryLength := some limit }
    let query : Value := .text "SELECT * FROM posts".toList
    let since : List Call := [.check (.error .invalidField) query,
      .check (limited 8) (.text [' ', '\t']), .check (limited 9) query]
    let calls : List Call := .setGate (some { limit := .whole 5 }) :: .setGate none :: since
    let g : Gate := ⟨Pattern.Default.patterns, .bool true, [], .whole 9⟩
    LastHanded calls none since ∧
      (({} : Tool).after calls).gate = some g ∧
      ((({} : Tool).after calls).check (limited 30) query).log = [⟨.info, ("Rejected query " ++
        "(invalid_structure): Invalid query structure: " ++
        "Query exceeds maximum length of 9 characters").toList⟩] ∧
      ((({} : Tool).after calls).check (limited 30) query).tool = ⟨some g⟩ := by
  intro _ limited query since calls g
  have last : LastHanded calls none since :=
    ⟨.inr ⟨[.setGate (some { limit := .whole 5 })], .setGate none, rfl, rfl⟩,
      by simp [since, handed?]⟩
  -- Of the three queries only the last has settings that make a gate.
  have makes : settingsGate (limited 9) = .ok g := by
    have compiled : [].mapM PatternArgument.compile = .ok [] := rfl
    refine bind_eq_ok_iff.mpr ⟨_, rfl, ?_⟩
    rw [Settings.gate_eq_make, Settings.make_spec compiled, List.append_nil]
    rfl
  have made : made? (.check (limited 9) query) = some g := by
    have recorded : recordedText? query = some "SELECT * FROM posts".toList := by decide
    rw [made?, makes, recorded]
    rfl
  have blank : made? (.check (limited 8) (.text [' ', '\t'])) = none := rfl
  have first : since.findSome? made? = some g := by
    refine List.findSome?_eq_some_iff.mpr ⟨since.take 2, _, [], rfl, made, ?_⟩
    exact List.forall_mem_cons.mpr ⟨rfl, List.forall_mem_singleton.mpr blank⟩
  have held := gate_after_of_lastHanded last
  rw [Option.none_or, first] at held
  have reached : (none : Option Gate).or
      ((since ++ [Call.check (limited 30) query]).findSome? made?) = some g := by
    rw [Option.none_or, List.findSome?_append, first, Option.some_or]
  obtain ⟨-, -, decides⟩ := (check_history calls).2 none since last (limited 30) query
  obtain ⟨kept, built, fresh, -, rejects, -⟩ := (decides _ rfl rfl).2 g reached
  have logged := (rejects _ rfl).1
  obtain ⟨-, rfl⟩ | ⟨unset, -⟩ := fresh
  · exact ⟨last, held, logged, kept⟩
  · cases held.symm.trans unset

/-- Decisions that fail are not recorded: a limit that is no number cannot be compared with the length
of a query, and a limit of too many digits cannot be shown when it is exceeded. A query that is a
number of too many digits is not even looked at. -/
theorem unrecorded_of_undecided :
    let _ : Pattern.Engine := .plain
    let query : Value := .text "SELECT * FROM posts".toList
    let long : Int := (Nat.pow 10 Decimal.digitLimit : Nat)
    let checked (limit : Limit) :=
      (({} : Tool).after [.setGate (some { limit := limit })]).check (.ok {}) query
    (¬ ∀ calls settings query, isBlank query = false →
      ((({} : Tool).after calls).check settings query).log ≠ []) ∧
    (checked .incomparable).log = [] ∧ (checked .incomparable).result = .error .incomparableLimit ∧
    (checked (.whole (-long))).log = [] ∧
      (checked (.whole (-long))).result = .error .numberTooLong ∧
    ({} : Tool).check (.ok {}) (.int long) = ⟨{}, [], .error .numberTooLong⟩ := by
  intro _ query long checked
  have undecided {limit : Limit} {failure : Failure} (fails : limit.Fails 19 failure) :
      (checked limit).log = [] ∧ (checked limit).result = .error failure := by
    have recorded : recordedText? query = some "SELECT * FROM posts".toList := by decide
    let g : Gate := ⟨Pattern.Default.patterns, .bool true, [], limit⟩
    have failed : g.verdict query = .error failure := verdict_eq_error_iff.mpr (.length rfl fails)
    have decided : checked limit = _ := check_of_currentGate (g := g) recorded rfl
    rw [decided, failed]
    exact ⟨rfl, rfl⟩
  have noNumber := undecided (.incomparable rfl)
  have size : long.natAbs = Nat.pow 10 Decimal.digitLimit := Int.natAbs_natCast _
  have power (k : Nat) : 0 < Nat.pow 10 k := Nat.pow_pos (by decide)
  have positive : 0 < long := Int.natCast_pos.mpr (power _)
  have tooLow : (Limit.whole (-long)).Fails 19 .numberTooLong := by
    have less : -long < 19 := Int.lt_trans (Int.neg_neg_of_pos positive) (by decide)
    refine .unshown (congrArg some (decide_eq_true less)) ?_
    refine Limit.shown?_eq_none_iff.mpr ⟨-long, rfl, ?_⟩
    rw [Int.natAbs_neg, size]
  have unshown : (Value.int long).asText? = none := shownInt?_eq_none_iff.mpr size.ge
  have submitted : isBlank (.int long) = false := by
    rw [isBlank, unshown, Value.isTruthy, bne_iff_ne.mpr (Int.ne_of_gt positive)]
    rfl
  refine ⟨fun all => ?_, noNumber.1, noNumber.2, (undecided tooLow).1, (undecided tooLow).2,
    check_of_unshown submitted unshown⟩
  exact all [.setGate (some { limit := .incomparable })] (.ok {}) query (by decide) noNumber.1

end QueryGate.Tool
