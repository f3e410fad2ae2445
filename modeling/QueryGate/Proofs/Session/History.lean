import QueryGate.Proofs.Gate.Listing
import QueryGate.Proofs.Gate.Making
import QueryGate.Session

/-!
# Sessions and their histories

What a session holds as its gate can be read off the steps that were taken: it is the last gate that
was made, with the patterns that were added to it since, in their order. Nothing else that is asked
of a session matters to it, neither what fails nor what is done to a draft. So until another gate is
made, the whitelist only grows, and a query that was approved once is approved again. A step that
fails leaves nothing behind, except that names of tables which came before a failure stay in a draft.

## Main definitions

* `Session.after` — the session after several steps
* `Session.Installs` — a step makes a gate and puts it in place of the current one
* `Session.NoneInstalled` — several steps, none of which does so
* `Session.addedPattern?` — the pattern that a step adds to the current gate
* `Session.Step.breaksOff` — a step is given names that fail while they are gone through

## Main results

* `getElem?_run` — a run goes through the sessions after each number of steps
* `step_cases` — everything that a step can do
* `step_of_error` — what a step leaves behind that fails
* `gate_step_of_not_installs` — what one step does to the gate if it makes no other
* `gate_after_of_noneInstalled` — the gate after several steps that make no other
* `gate_history` — the gate of a session is known from its steps
-/

namespace QueryGate.Session

open Gate

variable {s : Session} {action : Step} {actions back : List Step} {g : Gate} {v : Value}
  {failure : Failure} {d : Draft}

/-! ### Sorts of steps -/

/-- Whether a step can change the current gate. -/
def Step.changesGate : Step → Bool
  | create _ | configure _ | build | addPattern _ => true
  | _ => false

/-- Whether a step only asks for something. -/
def Step.asks : Step → Bool
  | validate _ | isValid _ | check _ | listPatterns => true
  | _ => false

/-- Whether a step is given names of tables that fail while they are gone through. -/
def Step.breaksOff : Step → Bool
  | blockTables (.interrupted _ _) => true
  | _ => false

/-- The change that a step makes to the draft. -/
def Step.change? : Step → Option (Action Draft Unit)
  | usePatterns patterns => some (Draft.usePatterns patterns)
  | addToDraft pattern => some (Draft.addPattern pattern)
  | setWhitelist enabled => some (Draft.setWhitelist enabled)
  | blockTables tables => some (Draft.blockTables tables)
  | setLimit limit => some (Draft.setLimit limit)
  | _ => none

theorem asks_of_changesGate (changes : action.changesGate = true) : action.asks = false := by
  cases action <;> simp_all [Step.changesGate, Step.asks]

/-- What is asked of the gate changes nothing, whether there is an answer or not. -/
theorem run_asking {α : Type} (ask : Gate → Except Failure α) (answer : α → Answer) (s : Session) :
    (do return answer (← ask (← get).gate) : Action Session Answer).run.run s =
      ((ask s.gate).map answer, s) := by
  show (liftM (ask s.gate) >>= fun a => pure (answer a) : Action Session Answer).run.run s = _
  rw [Action.run_liftM_bind]
  cases ask s.gate <;> rfl

theorem run_onDraft {α : Type} (begun : s.draft = some d) (action : Action Draft α) :
    (onDraft action).run.run s =
      ((action.run.run d).1, { s with draft := some (action.run.run d).2 }) := by
  obtain ⟨gate, _⟩ := s
  cases begun
  rfl

/-- A change succeeds or leaves the draft as it was, but for names that come before a failure. -/
theorem run_change? {change : Action Draft Unit} (changes : action.change? = some change)
    (whole : action.breaksOff = false) (d : Draft) :
    (change.run.run d).1 = .ok () ∨ (change.run.run d).2 = d := by
  cases action with
  | usePatterns patterns =>
    obtain rfl := Option.some.inj changes
    rw [Draft.usePatterns, Action.run_liftM_bind]
    cases patterns.elements .value with
    | error _ => exact .inr rfl
    | ok _ => exact .inl rfl
  | blockTables tables =>
    obtain rfl := Option.some.inj changes
    cases tables with
    | value v =>
      rw [Draft.blockTables, Collection.yield]
      cases v.elements? with
      | none =>
        refine .inr ?_
        show { d with blockedTables := d.blockedTables ++ [] } = d
        rw [List.append_nil]
      | some names => exact .inl rfl
    | items names => exact .inl rfl
    | interrupted names errorName => cases whole
  | addToDraft _ | setWhitelist _ | setLimit _ =>
    obtain rfl := Option.some.inj changes
    exact .inl rfl
  | _ => cases changes

/-- A query that is approved is approved by the same gate with more patterns. -/
theorem verdict_withPatterns_append (approved : g.verdict v = .ok .approved)
    (more : List Pattern) :
    (g.withPatterns (g.patterns ++ more)).verdict v = .ok .approved := by
  cases enabled : g.whitelistEnabled with
  | false => rw [verdict_withPatterns_of_not_whitelistEnabled enabled, approved]
  | true =>
    -- The other checks do not look at patterns, and the one that allowed the query is still there.
    have base : (g.withPatterns (g.patterns ++ more)).withoutWhitelist.verdict v =
        g.withoutWhitelist.verdict v := verdict_withoutWhitelist_congr rfl rfl v
    have stillEnabled : (g.withPatterns (g.patterns ++ more)).whitelistEnabled = true := enabled
    obtain ⟨passes, query, text, p, member, accepts⟩ :=
      (verdict_eq_approved_iff enabled v).mp approved
    have stillMember : p ∈ g.patterns ++ more := List.mem_append_left more member
    exact (verdict_eq_approved_iff stillEnabled v).mpr
      ⟨base.trans passes, query, text, p, stillMember, accepts⟩

section Steps

variable [Pattern.Engine]

/-! ### Several steps -/

/-- The session after several steps. -/
def after (s : Session) (actions : List Step) : Session :=
  actions.foldl (fun s action => (s.step action).1) s

@[simp] theorem after_nil (s : Session) : s.after [] = s := rfl

@[simp] theorem after_cons (s : Session) (action : Step) (actions : List Step) :
    s.after (action :: actions) = (s.step action).1.after actions := rfl

theorem after_append (s : Session) (front back : List Step) :
    s.after (front ++ back) = (s.after front).after back := List.foldl_append

/-- A run goes through the sessions after each number of steps. -/
theorem getElem?_run (s : Session) (actions : List Step) (n : Nat) :
    (s.run actions)[n]? = actions[n]?.map (s.after (actions.take n)).step := by
  -- A run starts again after each step, from the session that the step left.
  induction actions generalizing s n with
  | nil => rfl
  | cons action actions ih =>
    cases n with
    | zero => rfl
    | succ n => exact ih (s.step action).1 n

/-! ### One step -/

/-- A step makes a gate and puts it in place of the current one: from arguments, from settings, or
from the draft. -/
inductive Installs (s : Session) : Step → Gate → Prop
  | create {spec : GateSpec} {g : Gate} (made : Gate.make spec = .ok g) :
    Installs s (.create spec) g
  | configure {settings : Settings} {g : Gate} (made : settings.gate = .ok g) :
    Installs s (.configure (.ok settings)) g
  | build {draft : Draft} {g : Gate} (begun : s.draft = some draft)
    (made : Gate.make draft.spec = .ok g) : Installs s .build g

/-- The pattern that a step adds to the current gate, if it adds one. -/
def addedPattern? : Step → Option Pattern
  | .addPattern argument => argument.compile.toOption
  | _ => none

/-- A draft is left as the change of it leaves it, whether the change succeeds or not. -/
theorem step_of_change? {change : Action Draft Unit} (changes : action.change? = some change)
    (begun : s.draft = some d) :
    s.step action = ({ s with draft := some (change.run.run d).2 },
      (change.run.run d).1.map fun _ => .itself) := by
  have performs : perform action = changeDraft change := by
    cases action <;> cases changes <;> rfl
  rw [step, performs, changeDraft, Action.run_bind, run_onDraft begun]
  rcases change.run.run d with ⟨_ | _, after⟩ <;> rfl

theorem step_of_change?_of_none {change : Action Draft Unit}
    (changes : action.change? = some change) (unbegun : s.draft = none) :
    s.step action = (s, .error .noBuilder) := by
  obtain ⟨gate, _⟩ := s
  cases unbegun
  cases action <;> cases changes <;> rfl

theorem step_of_run {result : Except Failure Answer} {s' : Session}
    (ran : (perform action).run.run s = (result, s')) : s.step action = (s', result) := by
  rw [step, ran]

theorem step_build_of_draft (begun : s.draft = some d) :
    s.step .build =
      match Gate.make d.spec with
      | .ok g => ({ s with gate := g }, .ok .done)
      | .error failure => (s, .error failure) := by
  have ran : Draft.build.run.run d = (make d.spec, d) := rfl
  have same : { s with draft := some d } = s := begun ▸ rfl
  rw [step, perform, Action.run_bind, run_onDraft begun, ran, same]
  cases make d.spec <;> rfl

theorem step_of_installs (installs : s.Installs action g) :
    s.step action = ({ s with gate := g }, .ok .done) := by
  cases installs with
  | create made =>
    rw [step, perform, Action.run_liftM_bind, made]
    rfl
  | configure made =>
    simp only [step, perform, Action.run_liftM_bind, made]
    rfl
  | build begun made => rw [step_build_of_draft begun, made]

theorem exists_argument_of_addedPattern? {p : Pattern} (adds : addedPattern? action = some p) :
    ∃ argument, action = .addPattern argument ∧ argument.compile = .ok p := by
  cases action with
  | addPattern argument =>
    refine ⟨argument, rfl, ?_⟩
    rw [addedPattern?] at adds
    cases compiled : argument.compile with
    | error failure => simp [compiled, Except.toOption] at adds
    | ok q =>
      rw [compiled] at adds
      exact congrArg Except.ok (Option.some.inj adds)
  | _ => cases adds

theorem step_of_addedPattern? {p : Pattern} (adds : addedPattern? action = some p) :
    s.step action =
      ({ s with gate := s.gate.withPatterns (s.gate.patterns ++ [p]) }, .ok .itself) := by
  obtain ⟨argument, rfl, compiled⟩ := exists_argument_of_addedPattern? adds
  rw [step, perform, addPattern, compiled]
  rfl

/-- A step installs a gate, adds a pattern to the current one, fails in either and changes nothing,
only asks for something, or changes the draft. -/
theorem step_cases (s : Session) (action : Step) :
    (∃ g, s.Installs action g ∧ s.step action = ({ s with gate := g }, .ok .done)) ∨
    (∃ p, addedPattern? action = some p ∧ s.step action =
      ({ s with gate := s.gate.withPatterns (s.gate.patterns ++ [p]) }, .ok .itself)) ∨
    (action.changesGate = true ∧ ∃ failure, s.step action = (s, .error failure)) ∨
    (action.asks = true ∧ ∃ result, s.step action = (s, result)) ∨
    (action.changesGate = false ∧ action.asks = false ∧ ∃ draft result,
      s.step action = ({ s with draft := draft }, result) ∧
        ∀ failure, result = .error failure → action.breaksOff = false → draft = s.draft) := by
  cases action with
  | create spec =>
    cases made : make spec with
    | ok g => exact .inl ⟨g, .create made, step_of_installs (.create made)⟩
    | error failure =>
      refine .inr (.inr (.inl ⟨rfl, failure, ?_⟩))
      rw [step, perform, Action.run_liftM_bind, made]
  | configure settings =>
    rcases settings with failure | settings
    · exact .inr (.inr (.inl ⟨rfl, failure, rfl⟩))
    · cases made : settings.gate with
      | ok g => exact .inl ⟨g, .configure made, step_of_installs (.configure made)⟩
      | error failure =>
        refine .inr (.inr (.inl ⟨rfl, failure, ?_⟩))
        simp only [step, perform, Action.run_liftM_bind, made]
  | build =>
    rcases Option.eq_none_or_eq_some s.draft with unbegun | ⟨d, begun⟩
    · refine .inr (.inr (.inl ⟨rfl, .noBuilder, ?_⟩))
      obtain ⟨gate, _⟩ := s
      cases unbegun
      rfl
    · cases made : make d.spec with
      | ok g => exact .inl ⟨g, .build begun made, step_of_installs (.build begun made)⟩
      | error failure =>
        refine .inr (.inr (.inl ⟨rfl, failure, ?_⟩))
        rw [step_build_of_draft begun, made]
  | addPattern argument =>
    cases compiled : argument.compile with
    | ok p =>
      have adds : addedPattern? (.addPattern argument) = some p := by
        rw [addedPattern?, compiled]
        rfl
      exact .inr (.inl ⟨p, adds, step_of_addedPattern? adds⟩)
    | error failure =>
      refine .inr (.inr (.inl ⟨rfl, failure, ?_⟩))
      rw [step, perform, addPattern, compiled]
      rfl
  | newDraft =>
    refine .inr (.inr (.inr (.inr ⟨rfl, rfl, some {}, _, rfl, fun _ failed => ?_⟩)))
    cases failed
  | usePatterns _ | addToDraft _ | setWhitelist _ | blockTables _ | setLimit _ =>
    refine .inr (.inr (.inr (.inr ⟨rfl, rfl, ?_⟩)))
    rcases Option.eq_none_or_eq_some s.draft with unbegun | ⟨d, begun⟩
    · exact ⟨s.draft, _, step_of_change?_of_none rfl unbegun, fun _ _ _ => rfl⟩
    · refine ⟨_, _, step_of_change? rfl begun, fun failure failed whole => ?_⟩
      rcases run_change? rfl whole d with succeeds | same
      · rw [succeeds] at failed
        cases failed
      · rw [same, begun]
  | validate query =>
    have ran := run_asking (·.validate query) (fun _ => .done) s
    exact .inr (.inr (.inr (.inl ⟨rfl, _, step_of_run ran⟩)))
  | isValid query =>
    have ran := run_asking (·.isValid query) .truth s
    exact .inr (.inr (.inr (.inl ⟨rfl, _, step_of_run ran⟩)))
  | check query =>
    have ran := run_asking (·.verdict query) .verdict s
    exact .inr (.inr (.inr (.inl ⟨rfl, _, step_of_run ran⟩)))
  | listPatterns => exact .inr (.inr (.inr (.inl ⟨rfl, _, rfl⟩)))
  | unknown =>
    exact .inr (.inr (.inr (.inr ⟨rfl, rfl, s.draft, _, rfl, fun _ _ _ => rfl⟩)))

/-- A step that fails leaves the gate as it was, and the whole session unless it is given names of
tables that fail while they are gone through. -/
theorem step_of_error (failed : (s.step action).2 = .error failure) :
    (s.step action).1.gate = s.gate ∧ (action.breaksOff = false → (s.step action).1 = s) := by
  rcases step_cases s action with ⟨g, -, done⟩ | ⟨p, -, done⟩ | ⟨-, _, done⟩ | ⟨-, _, done⟩ |
    ⟨-, -, draft, result, done, same⟩
  · cases (congrArg Prod.snd done).symm.trans failed
  · cases (congrArg Prod.snd done).symm.trans failed
  · rw [done]
    exact ⟨rfl, fun _ => rfl⟩
  · rw [done]
    exact ⟨rfl, fun _ => rfl⟩
  · rw [done] at failed ⊢
    refine ⟨rfl, fun whole => ?_⟩
    rw [same failure failed whole]

theorem Installs.changesGate (installs : s.Installs action g) : action.changesGate = true := by
  cases installs <;> rfl

theorem changesGate_of_addedPattern? {p : Pattern} (adds : addedPattern? action = some p) :
    action.changesGate = true := by
  obtain ⟨argument, rfl, -⟩ := exists_argument_of_addedPattern? adds
  rfl

/-- A step that only asks leaves the session as it was. -/
theorem step_of_asks (asks : action.asks = true) : (s.step action).1 = s := by
  rcases step_cases s action with ⟨g, installs, -⟩ | ⟨p, adds, -⟩ | ⟨changes, -⟩ | ⟨-, _, done⟩ |
    ⟨-, asksNot, -⟩
  · simp [asks_of_changesGate installs.changesGate] at asks
  · simp [asks_of_changesGate (changesGate_of_addedPattern? adds)] at asks
  · simp [asks_of_changesGate changes] at asks
  · rw [done]
  · simp [asks] at asksNot

/-- A step that installs no gate adds its pattern to the current one, if it has one to add. -/
theorem gate_step_of_not_installs (kept : ∀ g, ¬ s.Installs action g) :
    (s.step action).1.gate =
      s.gate.withPatterns (s.gate.patterns ++ (addedPattern? action).toList) := by
  cases adds : addedPattern? action with
  | some p =>
    rw [step_of_addedPattern? adds]
    rfl
  | none =>
    -- Nothing is added, so the gate must be shown to be the same, also if the step fails.
    have same : s.gate.withPatterns (s.gate.patterns ++ []) = s.gate := by
      rw [List.append_nil]
      rfl
    rw [Option.toList_none, same]
    rcases step_cases s action with ⟨g, installs, -⟩ | ⟨p, adds', -⟩ | ⟨-, _, done⟩ |
      ⟨-, _, done⟩ | ⟨-, -, _, _, done, -⟩
    · exact absurd installs (kept g)
    · cases adds.symm.trans adds'
    all_goals rw [done]

/-- Of the steps that can change the gate those succeed that install a gate or add a pattern. -/
theorem succeeds_iff (changes : action.changesGate = true) :
    (∃ answer, (s.step action).2 = .ok answer) ↔
      (∃ g, s.Installs action g) ∨ ∃ p, addedPattern? action = some p := by
  constructor
  · rintro ⟨answer, succeeds⟩
    rcases step_cases s action with ⟨g, installs, -⟩ | ⟨p, adds, -⟩ | ⟨-, _, done⟩ | ⟨asks, -⟩ |
      ⟨keeps, -⟩
    · exact .inl ⟨g, installs⟩
    · exact .inr ⟨p, adds⟩
    · cases (congrArg Prod.snd done).symm.trans succeeds
    · simp [asks_of_changesGate changes] at asks
    · simp [changes] at keeps
  · rintro (⟨g, installs⟩ | ⟨p, adds⟩)
    · exact ⟨_, by rw [step_of_installs installs]⟩
    · exact ⟨_, by rw [step_of_addedPattern? adds]⟩

/-! ### Histories -/

/-- None of several steps, taken one after the other, installs a gate. -/
def NoneInstalled : Session → List Step → Prop
  | _, [] => True
  | s, action :: actions =>
    (∀ g, ¬ s.Installs action g) ∧ NoneInstalled (s.step action).1 actions

theorem gate_after_of_noneInstalled (kept : s.NoneInstalled actions) :
    (s.after actions).gate =
      s.gate.withPatterns (s.gate.patterns ++ actions.filterMap addedPattern?) := by
  -- The first step adds its pattern before the later steps add theirs, which keeps their order.
  induction actions generalizing s with
  | nil => simp [withPatterns]
  | cons action actions ih =>
    rw [after_cons, ih kept.2, gate_step_of_not_installs kept.1]
    cases adds : addedPattern? action <;> simp [withPatterns, adds]

/-- Of several steps none installs a gate, or one is the last that does. -/
theorem noneInstalled_or_last (s : Session) (actions : List Step) :
    s.NoneInstalled actions ∨ ∃ front action back g, actions = front ++ action :: back ∧
      (s.after front).Installs action g ∧ (s.after (front ++ [action])).NoneInstalled back := by
  -- If one of the later steps is the last to install a gate, it is the last of all; if none of them
  -- does, the first step is the last one or there is none.
  induction actions generalizing s with
  | nil => exact .inl trivial
  | cons action actions ih =>
    rcases ih (s.step action).1 with kept | ⟨front, last, back, g, rfl, installs, kept⟩
    · by_cases installs : ∃ g, s.Installs action g
      · obtain ⟨g, installs⟩ := installs
        exact .inr ⟨[], action, actions, g, rfl, installs, kept⟩
      · exact .inl ⟨not_exists.mp installs, kept⟩
    · exact .inr ⟨action :: front, last, back, g, rfl, installs, kept⟩

theorem gate_after_of_installs {front : List Step} (installs : (s.after front).Installs action g)
    (kept : (s.after (front ++ [action])).NoneInstalled back) :
    (s.after (front ++ action :: back)).gate =
      g.withPatterns (g.patterns ++ back.filterMap addedPattern?) := by
  have installed : (s.after (front ++ [action])).gate = g := by
    rw [after_append, after_cons, after_nil, step_of_installs installs]
  rw [List.append_cons, after_append, gate_after_of_noneInstalled kept, installed]

/-- After any steps the gate of a session is the last that was made, at first the default one, with
the patterns that were added since, in their order. The steps that can change the gate and succeed
are those that make a gate or add a pattern. A step that only asks leaves the session as it was, and so
does one that fails, with the exception of names of tables that fail while they are gone through,
which leave the gate as it was. So a query that was approved is approved until another gate is
made. -/
theorem gate_history (actions : List Step) :
    (∀ n, (start.run actions)[n]? = actions[n]?.map (start.after (actions.take n)).step) ∧
    (start.NoneInstalled actions ∧ (start.after actions).gate =
        standard.withPatterns (Pattern.Default.patterns ++ actions.filterMap addedPattern?) ∨
      ∃ front action back g, actions = front ++ action :: back ∧
        (start.after front).Installs action g ∧
        (start.after (front ++ [action])).NoneInstalled back ∧
        (start.after actions).gate =
          g.withPatterns (g.patterns ++ back.filterMap addedPattern?)) ∧
    (∀ action, action.changesGate = true →
      ((∃ answer, ((start.after actions).step action).2 = .ok answer) ↔
        (∃ g, (start.after actions).Installs action g) ∨ ∃ p, addedPattern? action = some p)) ∧
    (∀ action, action.asks = true ∨
      (∃ failure, ((start.after actions).step action).2 = .error failure) →
        (start.after (actions ++ [action])).gate = (start.after actions).gate ∧
        (action.breaksOff = false →
          start.after (actions ++ [action]) = start.after actions)) ∧
    ∀ back v, (start.after actions).NoneInstalled back →
      (start.after actions).gate.verdict v = .ok .approved →
      (start.after (actions ++ back)).gate.verdict v = .ok .approved := by
  refine ⟨getElem?_run start actions, ?_, fun action => succeeds_iff, ?_, ?_⟩
  · -- The gate is known from the last installation on, or else from the start on.
    rcases noneInstalled_or_last start actions with kept |
      ⟨front, action, back, g, eq, installs, kept⟩
    · have first : start.gate = standard := rfl
      have patterns : standard.patterns = Pattern.Default.patterns := by
        rw [standard]
      refine .inl ⟨kept, ?_⟩
      rw [gate_after_of_noneInstalled kept, first, patterns]
    · refine .inr ⟨front, action, back, g, eq, installs, kept, ?_⟩
      rw [eq, gate_after_of_installs installs kept]
  · intro action still
    rw [after_append, after_cons, after_nil]
    rcases still with asks | ⟨failure, failed⟩
    · rw [step_of_asks asks]
      exact ⟨rfl, fun _ => rfl⟩
    · exact step_of_error failed
  · intro back v kept approved
    rw [after_append, gate_after_of_noneInstalled kept]
    exact verdict_withPatterns_append approved _

end Steps

/-- A draft that cannot be built and a number for a pattern change nothing about an approval. -/
theorem gate_history_of_failed_build :
    let _ : Pattern.Engine := .plain
    let sum : Pattern := .exactly "sum".toList "SELECT 1 + 1".toList
    let v : Value := .text "SELECT 1 + 1 -- two\n;".toList
    let actions : List Step := [.addPattern (.matcher sum)]
    let back : List Step := [.newDraft, .usePatterns (.items [.value .null]), .build,
      .addPattern (.value (.int 7)), .check v]
    (start.after actions).NoneInstalled back ∧
    (start.after actions).gate.verdict v = .ok .approved ∧
    (start.after (actions ++ back)).gate.verdict v = .ok .approved := by
  intro _ sum v actions back
  have kept : (start.after actions).NoneInstalled back := by
    refine ⟨nofun, nofun, ?_, nofun, nofun, trivial⟩
    intro g installs
    cases installs with
    | build begun made =>
      obtain rfl := Option.some.inj begun
      cases made
  have approved : (start.after actions).gate.verdict v = .ok .approved := by
    have extended : (start.after actions).gate =
        standard.withPatterns (standard.patterns ++ [sum]) := rfl
    have clean : (standard.withPatterns (standard.patterns ++ [sum])).violation?
        "SELECT 1 + 1 -- two\n;".toList = none := by
      rw [standard_eq]
      decide +kernel
    rw [extended]
    exact textVerdict_eq_approved_iff_violation?.mpr ⟨rfl, clean⟩
  obtain ⟨-, -, -, -, stays⟩ := gate_history actions
  exact ⟨kept, approved, stays back v kept approved⟩

end QueryGate.Session
