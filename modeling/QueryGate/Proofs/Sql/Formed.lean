import QueryGate.Proofs.Sql.Delimiters
import QueryGate.Proofs.Text.Letters

/-!
# Texts put together without comments

A text that is put together from single characters of code and closed quoted texts is cut by the
lexer in the same places if three things are kept apart: two hyphens, two quoted texts with the same
quote, and a parenthesis and anything but the name of a call before it. What is put together in this
way has no comments, every quoted text in it ends, and its parentheses belong to calls of known
names and are never nested.

## Main definitions

* `Called` — segments that end in the name of a call
* `Formed` — segments put together piece by piece
* `SimplyShaped` — what can be said of the segments that the lexer finds

## Main results

* `Formed.reads` — such segments are what the lexer reads at their places
* `Formed.simplyShaped` — the segments that the lexer finds
-/

namespace QueryGate.Sql

open Segment Text

variable {w front later segments : List Segment} {s : Segment} {t : List Char} {c : Char}
  {inside : Bool} {mark : QuoteMark}

/-! ### Putting segments together -/

/-- The marks that can stand anywhere outside of quoted texts. -/
def looseMarks : List Char := " *,.=!<>-".toList

/-- All marks that can stand outside of quoted texts. -/
def codeMarks : List Char := '(' :: ')' :: looseMarks

/-- The characters of a text as pieces of code. -/
def codes (t : List Char) : List Segment :=
  t.map fun c => .code [c]

/-- A word that is `COUNT` or `IN`, in either case. -/
def IsCallName (word : List Char) : Prop :=
  ∃ name ∈ ["COUNT".toList, "IN".toList],
    List.Forall₂ (fun letter c => sameLetter letter c = true) name word

/-- The last segment is not a word character. -/
def EndsOutside (segments : List Segment) : Prop :=
  ∀ c, segments.getLast? = some (.code [c]) → isWordChar c = false

/-- The segments end in a whole word that names a call, with at most one space after it. -/
def Called (segments : List Segment) : Prop :=
  ∃ front word gap, segments = front ++ codes (word ++ gap) ∧ EndsOutside front ∧
    IsCallName word ∧ (gap = [] ∨ gap = [' '])

/-- Segments put together piece by piece; `inside` says whether a parenthesis is open. -/
inductive Formed : Bool → List Segment → Prop
  | nil : Formed false []
  | code {inside : Bool} {front : List Segment} {c : Char} (formed : Formed inside front)
      (allowed : isWordChar c = true ∨ c ∈ looseMarks)
      (noDashes : c = '-' → front.getLast? ≠ some (.code ['-'])) :
      Formed inside (front ++ [.code [c]])
  | opening {front : List Segment} (formed : Formed false front) (called : Called front) :
      Formed true (front ++ [.code ['(']])
  | closing {front : List Segment} (formed : Formed true front) :
      Formed false (front ++ [.code [')']])
  | quoted {inside : Bool} {front : List Segment} {mark : QuoteMark} {t : List Char}
      (formed : Formed inside front) (encloses : mark.Encloses t)
      (apart : ∀ u, front.getLast? ≠ some (.quoted mark u true)) :
      Formed inside (front ++ [.quoted mark t true])

/-- A single character of code, or a closed quoted text. -/
inductive Simple : Segment → Prop
  | code {c : Char} (allowed : isWordChar c = true ∨ c ∈ codeMarks) : Simple (.code [c])
  | quoted {mark : QuoteMark} {t : List Char} (encloses : mark.Encloses t) :
      Simple (.quoted mark t true)

/-- Neither two hyphens, which begin a comment, nor two quoted texts with one quote, which are one
text with a doubled quote. -/
def Separate (s r : Segment) : Prop :=
  ¬ (s = .code ['-'] ∧ r = .code ['-']) ∧
    ∀ mark t u, s = .quoted mark t true → r ≠ .quoted mark u true

theorem Formed.simple (formed : Formed inside w) : ∀ s ∈ w, Simple s := by
  induction formed with
  | nil => simp
  | code formed allowed noDashes ih =>
    refine List.forall_mem_append.mpr ⟨ih, List.forall_mem_singleton.mpr (.code ?_)⟩
    exact allowed.imp_right fun loose => .tail _ (.tail _ loose)
  | opening formed called ih =>
    exact List.forall_mem_append.mpr ⟨ih, List.forall_mem_singleton.mpr (.code (.inr (by decide)))⟩
  | closing formed ih =>
    exact List.forall_mem_append.mpr ⟨ih, List.forall_mem_singleton.mpr (.code (.inr (by decide)))⟩
  | quoted formed encloses apart ih =>
    exact List.forall_mem_append.mpr ⟨ih, List.forall_mem_singleton.mpr (.quoted encloses)⟩

theorem Formed.isChain (formed : Formed inside w) : w.IsChain Separate := by
  -- A new last segment has to be separate from the last one so far.
  have snoc {front : List Segment} {r : Segment} (chain : front.IsChain Separate)
      (last : ∀ s, front.getLast? = some s → Separate s r) : (front ++ [r]).IsChain Separate := by
    refine List.isChain_append.mpr ⟨chain, .singleton r, fun s found d first => ?_⟩
    obtain rfl : r = d := by simpa using first
    exact last s found
  induction formed with
  | nil => exact .nil
  | code formed allowed noDashes ih =>
    refine snoc ih fun s found => ⟨?_, by simp⟩
    rintro ⟨rfl, same⟩
    exact noDashes (by simpa using same) found
  | opening formed called ih => exact snoc ih fun s found => ⟨by simp, by simp⟩
  | closing formed ih => exact snoc ih fun s found => ⟨by simp, by simp⟩
  | quoted formed encloses apart ih =>
    refine snoc ih fun s found => ⟨by simp, ?_⟩
    rintro mark t u rfl same
    obtain ⟨rfl, -, -⟩ := Segment.quoted.inj same
    exact apart t found

/-! ### What the lexer reads -/

theorem ne_of_mem_codeMarks (allowed : isWordChar c = true ∨ c ∈ codeMarks) :
    QuoteMark.ofChar? c = none ∧ c ≠ '#' ∧ c ≠ '/' := by
  have table : codeMarks.all (fun c => decide (QuoteMark.ofChar? c = none ∧ c ≠ '#' ∧ c ≠ '/')) =
      true := by decide
  obtain word | known := allowed
  · refine ⟨?_, ?_, ?_⟩
    · rw [Option.eq_none_iff_forall_ne_some]
      intro mark found
      rw [QuoteMark.ofChar?_eq_some_iff.mp found, mark.isWordChar_char] at word
      cases word
    · rintro rfl
      exact absurd word (by decide)
    · rintro rfl
      exact absurd word (by decide)
  · exact of_decide_eq_true (List.all_eq_true.mp table c known)

/-- Simple segments that are kept apart are what the lexer reads at their places. -/
theorem reads_of_simple (simple : ∀ s ∈ w, Simple s) (chain : w.IsChain Separate) : Reads w := by
  induction w with
  | nil => trivial
  | cons s later ih =>
    obtain ⟨first, rest⟩ := List.forall_mem_cons.mp simple
    obtain ⟨next, onward⟩ := List.isChain_cons.mp chain
    cases first with
    | @code c allowed =>
      obtain ⟨noQuote, noHash, noSlash⟩ := ne_of_mem_codeMarks allowed
      refine ⟨⟨segmentAt?_eq_none_iff.mpr ⟨noQuote, noHash, ?_, fun slash => noSlash slash.1⟩,
        trivial⟩, ih rest onward⟩
      -- Two hyphens would begin a comment, but the next segment begins with no hyphen.
      rintro ⟨rfl, second⟩
      cases later with
      | nil => cases second
      | cons r later =>
        have separate := next r rfl
        cases rest r List.mem_cons_self with
        | code allowed =>
          obtain rfl := Option.some.inj second
          exact separate.1 ⟨rfl, rfl⟩
        | @quoted mark t encloses =>
          have dash : mark.char = '-' := Option.some.inj second
          cases mark <;> cases dash
    | @quoted mark t encloses =>
      -- One more mark would be taken for a doubled one, and the text would go on behind it.
      have single : (textOfAll later).head? ≠ some mark.char := by
        intro second
        cases later with
        | nil => cases second
        | cons r later =>
          have separate := next r rfl
          cases rest r List.mem_cons_self with
          | code allowed =>
            obtain rfl := Option.some.inj second
            have noQuote := (ne_of_mem_codeMarks allowed).1
            rw [mark.ofChar?_char] at noQuote
            cases noQuote
          | @quoted other u encloses =>
            have same : other = mark := QuoteMark.char_injective (Option.some.inj second)
            exact separate.2 mark t u rfl (by rw [same])
      refine ⟨?_, ih rest onward⟩
      have scanned := mark.scan_append_mark encloses single
      rw [Segment.text, if_pos rfl, List.append_assoc, List.cons_append, segmentAt?_quote,
        List.singleton_append, scanned]

theorem Formed.reads (formed : Formed inside w) : Reads w :=
  reads_of_simple formed.simple formed.isChain

/-! ### Neighbouring pieces of code made one -/

/-- The characters of a segment that are code. -/
def Segment.codeText : Segment → List Char
  | .code t => t
  | _ => []

theorem consCode_of_not_code (other : ∀ t later, segments ≠ .code t :: later) :
    consCode c segments = .code [c] :: segments := by
  rw [consCode]
  exact other

/-- A character goes in front of a piece of code that comes first, or it is a piece of its own. -/
theorem consCode_cases (c : Char) (segments : List Segment) :
    (∃ t later, segments = .code t :: later ∧ consCode c segments = .code (c :: t) :: later) ∨
      (∀ t later, segments ≠ .code t :: later) ∧ consCode c segments = .code [c] :: segments := by
  by_cases code : ∃ t later, segments = .code t :: later
  · obtain ⟨t, later, rfl⟩ := code
    exact .inl ⟨t, later, rfl, rfl⟩
  · have other : ∀ t later, segments ≠ .code t :: later := by simpa using code
    exact .inr ⟨other, consCode_of_not_code other⟩

theorem codeText_consCode (c : Char) (segments : List Segment) :
    (consCode c segments).flatMap Segment.codeText = c :: segments.flatMap Segment.codeText := by
  unfold consCode
  split <;> simp [Segment.codeText]

/-- Joining keeps the characters that are code. -/
theorem codeText_joinCode (segments : List Segment) :
    (joinCode segments).flatMap Segment.codeText = segments.flatMap Segment.codeText := by
  induction segments with
  | nil => rfl
  | cons s later ih =>
    cases s with
    | code t =>
      rw [joinCode, List.flatMap_cons, Segment.codeText, ← ih]
      induction t with
      | nil => rfl
      | cons c t step => rw [List.foldr_cons, codeText_consCode, step, List.cons_append]
    | _ => rw [joinCode_cons_of_not_code (by simp), List.flatMap_cons, List.flatMap_cons, ih]

/-- Joining brings no segment of another sort. -/
theorem mem_of_mem_joinCode (member : s ∈ joinCode segments) (notCode : ∀ t, s ≠ .code t) :
    s ∈ segments := by
  induction segments with
  | nil => exact member
  | cons r later ih =>
    cases r with
    | code t =>
      rw [joinCode] at member
      refine .tail _ (ih ?_)
      -- Code is put in front letter by letter, and no letter brings another sort of segment along.
      induction t with
      | nil => exact member
      | cons c t step =>
        obtain ⟨u, rfl⟩ | inside := mem_consCode member
        · exact absurd rfl (notCode _)
        · exact step inside
    | _ =>
      rw [joinCode_cons_of_not_code (by simp)] at member
      obtain rfl | inside := List.mem_cons.mp member
      · exact List.mem_cons_self
      · exact .tail _ (ih inside)

/-- A joined piece of code that comes first was a run of characters. -/
theorem eq_codes_append_of_joinCode_cons (simple : ∀ s ∈ w, Simple s)
    (joined : joinCode w = .code t :: later) : ∃ more, w = codes t ++ more := by
  induction w generalizing t later with
  | nil => cases joined
  | cons s rest ih =>
    obtain ⟨first, others⟩ := List.forall_mem_cons.mp simple
    cases first with
    | @code c allowed =>
      have whole : consCode c (joinCode rest) = .code t :: later := joined
      obtain ⟨u, more, eq, joinedCode⟩ | ⟨-, joinedCode⟩ := consCode_cases c (joinCode rest)
      · obtain ⟨same, -⟩ := List.cons.inj (joinedCode.symm.trans whole)
        obtain rfl := Segment.code.inj same
        obtain ⟨more, rfl⟩ := ih others eq
        exact ⟨more, rfl⟩
      · obtain ⟨same, -⟩ := List.cons.inj (joinedCode.symm.trans whole)
        obtain rfl := Segment.code.inj same
        exact ⟨rest, rfl⟩
    | quoted encloses =>
      rw [joinCode_cons_of_not_code (by simp)] at joined
      cases joined

/-- A joined piece of code was a run of characters, with the segments before it joined in front. -/
theorem eq_append_of_joinCode (simple : ∀ s ∈ w, Simple s)
    (joined : joinCode w = front ++ .code t :: later) :
    ∃ u v, w = u ++ codes t ++ v ∧ joinCode u = front := by
  -- Along `w`, for any `front`: a letter of code opens a segment or joins the one behind it.
  induction w generalizing front with
  | nil => simp [joinCode] at joined
  | cons s rest ih =>
    cases front with
    | nil =>
      obtain ⟨more, whole⟩ := eq_codes_append_of_joinCode_cons simple joined
      exact ⟨[], more, whole, rfl⟩
    | cons f front =>
      obtain ⟨first, others⟩ := List.forall_mem_cons.mp simple
      cases first with
      | @code c allowed =>
        have whole : consCode c (joinCode rest) = f :: (front ++ .code t :: later) := joined
        obtain ⟨u, more, eq, joinedCode⟩ | ⟨other, joinedCode⟩ := consCode_cases c (joinCode rest)
        · obtain ⟨rfl, rfl⟩ := List.cons.inj (joinedCode.symm.trans whole)
          rw [← List.cons_append] at eq
          obtain ⟨u', v, rfl, joinedFront⟩ := ih others eq
          exact ⟨.code [c] :: u', v, rfl, by simp [joinCode, joinedFront, consCode]⟩
        · obtain ⟨rfl, eq⟩ := List.cons.inj (joinedCode.symm.trans whole)
          obtain ⟨u', v, rfl, joinedFront⟩ := ih others eq
          have apart : ∀ u more, front ≠ .code u :: more := by
            rintro u more rfl
            exact other u (more ++ .code t :: later) eq
          have single : joinCode (.code [c] :: u') = consCode c (joinCode u') := rfl
          exact ⟨.code [c] :: u', v, rfl, by
            rw [single, joinedFront, consCode_of_not_code apart]⟩
      | quoted encloses =>
        rw [joinCode_cons_of_not_code (by simp)] at joined
        obtain ⟨rfl, eq⟩ := List.cons.inj joined
        obtain ⟨u', v, rfl, joinedFront⟩ := ih others eq
        exact ⟨_ :: u', v, rfl, by rw [joinCode_cons_of_not_code (by simp), joinedFront]⟩

/-- Where segments end in code, so do the joined ones. -/
theorem exists_joinCode_append_code (segments : List Segment) (c : Char) :
    ∃ front t, joinCode (segments ++ [.code [c]]) = front ++ [.code t] := by
  -- A letter changes the first segment at most, so the last one stays code.
  have step {segments front : List Segment} {t : List Char} (d : Char)
      (eq : segments = front ++ [.code t]) :
      ∃ front t, consCode d segments = front ++ [.code t] := by
    subst eq
    cases front with
    | nil => exact ⟨[], d :: t, rfl⟩
    | cons s front =>
      rw [List.cons_append]
      obtain ⟨u, rest, eq, whole⟩ | ⟨-, whole⟩ := consCode_cases d (s :: (front ++ [.code t]))
      · obtain ⟨rfl, rfl⟩ := List.cons.inj eq
        exact ⟨.code (d :: u) :: front, t, whole⟩
      · exact ⟨.code [d] :: s :: front, t, whole⟩
  induction segments with
  | nil => exact ⟨[], [c], rfl⟩
  | cons s later ih =>
    obtain ⟨front, t, eq⟩ := ih
    cases s with
    | code u =>
      rw [List.cons_append, joinCode]
      induction u with
      | nil => exact ⟨front, t, eq⟩
      | cons d u more =>
        obtain ⟨front, t, eq⟩ := more
        exact step d eq
    | _ =>
      rw [List.cons_append, joinCode_cons_of_not_code (by simp), eq]
      exact ⟨_ :: front, t, rfl⟩

/-! ### Parentheses and calls -/

/-- The parentheses outside of quoted texts and comments. -/
def parentheses (segments : List Segment) : List Char :=
  (segments.flatMap Segment.codeText).filter fun c => c == '(' || c == ')'

/-- A text that ends in a whole word that names a call, with at most one space after it. -/
def EndsInCallName (t : List Char) : Prop :=
  ∃ front word gap, t = front ++ (word ++ gap) ∧ endsInWord front = false ∧ IsCallName word ∧
    (gap = [] ∨ gap = [' '])

/-- Code and closed quoted texts only; code of word characters and known marks; parentheses that are
balanced and never nested, each right after the name of a call. -/
structure SimplyShaped (segments : List Segment) : Prop where
  closed : ∀ s ∈ segments, (∃ t, s = .code t) ∨ ∃ mark t, s = .quoted mark t true
  characters : ∀ t, .code t ∈ segments → ∀ c ∈ t, isWordChar c = true ∨ c ∈ codeMarks
  balanced : ∃ n, parentheses segments = (List.replicate n ['(', ')']).flatten
  calls : ∀ front rest, .code (front ++ '(' :: rest) ∈ segments → EndsInCallName front

/-- What is simply shaped has no comments. -/
theorem SimplyShaped.isComment_eq_false (shaped : SimplyShaped segments) (member : s ∈ segments) :
    s.isComment = false := by
  obtain ⟨t, rfl⟩ | ⟨mark, t, rfl⟩ := shaped.closed s member
  · rfl
  · rfl

theorem parentheses_append (front back : List Segment) :
    parentheses (front ++ back) = parentheses front ++ parentheses back := by
  rw [parentheses, List.flatMap_append, List.filter_append]
  rfl

theorem not_paren_of_allowed (allowed : isWordChar c = true ∨ c ∈ looseMarks) :
    c ≠ '(' ∧ c ≠ ')' := by
  constructor
  · rintro rfl
    exact absurd allowed (by decide)
  · rintro rfl
    exact absurd allowed (by decide)

/-- Pairs of parentheses stand one after the other, with at most one open at the end. -/
theorem Formed.parentheses (formed : Formed inside w) :
    ∃ n, parentheses w =
      (List.replicate n ['(', ')']).flatten ++ (if inside then ['('] else []) := by
  -- Only `opening` and `closing` add parentheses, and they take turns.
  induction formed with
  | nil => exact ⟨0, rfl⟩
  | @code inside front c formed allowed noDashes ih =>
    obtain ⟨n, eq⟩ := ih
    have none : Sql.parentheses [.code [c]] = [] := by
      simp [Sql.parentheses, Segment.codeText, not_paren_of_allowed allowed]
    exact ⟨n, by rw [parentheses_append, eq, none, List.append_nil]⟩
  | opening formed called ih =>
    obtain ⟨n, eq⟩ := ih
    exact ⟨n, by rw [parentheses_append, eq]; simp [Sql.parentheses, Segment.codeText]⟩
  | closing formed ih =>
    obtain ⟨n, eq⟩ := ih
    refine ⟨n + 1, ?_⟩
    rw [parentheses_append, eq, List.replicate_succ', List.flatten_append]
    simp [Sql.parentheses, Segment.codeText]
  | quoted formed encloses apart ih =>
    obtain ⟨n, eq⟩ := ih
    exact ⟨n, by rw [parentheses_append, eq]; simp [Sql.parentheses, Segment.codeText]⟩

/-- Each opening parenthesis comes right after the name of a call. -/
theorem Formed.called (formed : Formed inside w) (eq : w = front ++ .code ['('] :: later) :
    Called front := by
  -- The parenthesis is the last segment, or it stands in the segments before the last.
  have cut {pre : List Segment} {s : Segment} {later : List Segment}
      (eq : pre ++ [s] = front ++ .code ['('] :: later) :
      (pre = front ∧ s = .code ['(']) ∨ ∃ more, pre = front ++ .code ['('] :: more := by
    obtain rfl | ⟨more, r, rfl⟩ := List.eq_nil_or_concat' later
    · exact .inl ((List.append_inj' eq rfl).imp_right fun same => (List.cons.inj same).1)
    · rw [← List.cons_append, ← List.append_assoc] at eq
      exact .inr ⟨more, (List.append_inj' eq rfl).1⟩
  induction formed generalizing later with
  | nil => simp at eq
  | code formed allowed noDashes ih =>
    obtain ⟨rfl, same⟩ | ⟨more, rfl⟩ := cut eq
    · obtain rfl : _ = '(' := by simpa using same
      exact absurd rfl (not_paren_of_allowed allowed).1
    · exact ih rfl
  | opening formed called ih =>
    obtain ⟨rfl, -⟩ | ⟨more, rfl⟩ := cut eq
    · exact called
    · exact ih rfl
  | closing formed ih =>
    obtain ⟨rfl, same⟩ | ⟨more, rfl⟩ := cut eq
    · simp at same
    · exact ih rfl
  | quoted formed encloses apart ih =>
    obtain ⟨rfl, same⟩ | ⟨more, rfl⟩ := cut eq
    · cases same
    · exact ih rfl

theorem textOfAll_codes (t : List Char) : textOfAll (codes t) = t := by
  induction t with
  | nil => rfl
  | cons c t ih => exact congrArg (c :: ·) ih

theorem getLast?_codes (t : List Char) : (codes t).getLast? = t.getLast?.map fun c => .code [c] :=
  List.getLast?_map

/-- A name of a call that ends a run of characters lies within the run. -/
theorem Called.endsInCallName {a : List Char} (called : Called (front ++ codes a))
    (starts : ∀ c, front.getLast? ≠ some (.code [c])) : EndsInCallName a := by
  obtain ⟨before, word, gap, eq, outside, name, short⟩ := called
  have injective : Function.Injective fun c : Char => Segment.code [c] :=
    fun c d same => by simpa using same
  obtain ⟨more, rfl, rest⟩ | ⟨more, rfl, rest⟩ := List.append_eq_append_iff.mp eq
  · obtain ⟨b, c, rfl, rfl, same⟩ := List.map_eq_append_iff.mp rest
    obtain rfl : c = word ++ gap := List.map_injective_iff.mpr injective same
    refine ⟨b, word, gap, rfl, ?_, name, short⟩
    -- What comes before the name within the run ends outside of words, as the segments do.
    rw [endsInWord]
    cases last : b.getLast? with
    | none => rfl
    | some c =>
      exact outside c (by rw [List.getLast?_append, ← codes, getLast?_codes, last]; rfl)
  · obtain ⟨b, c, whole, rfl, same⟩ := List.map_eq_append_iff.mp rest
    obtain rfl : c = a := List.map_injective_iff.mpr injective same
    cases last : b.getLast? with
    | none =>
      obtain rfl := List.getLast?_eq_none_iff.mp last
      exact ⟨[], word, gap, by rw [whole, List.nil_append, List.nil_append], rfl, name, short⟩
    | some c =>
      exact absurd (by rw [List.getLast?_append, ← codes, getLast?_codes, last]; rfl) (starts c)

/-- What is put together piece by piece is simply shaped once neighbouring pieces of code are
one. -/
theorem Formed.simplyShaped_joinCode (formed : Formed false w) : SimplyShaped (joinCode w) where
  closed s member := by
    by_cases code : ∃ t, s = .code t
    · exact .inl code
    · cases formed.simple s (mem_of_mem_joinCode member fun t eq => code ⟨t, eq⟩) with
      | code allowed => exact .inl ⟨_, rfl⟩
      | quoted encloses => exact .inr ⟨_, _, rfl⟩
  characters t member c inCode := by
    have found : c ∈ w.flatMap Segment.codeText := by
      rw [← codeText_joinCode]
      exact List.mem_flatMap.mpr ⟨_, member, inCode⟩
    obtain ⟨s, inside, here⟩ := List.mem_flatMap.mp found
    cases formed.simple s inside with
    | code allowed =>
      obtain rfl := List.mem_singleton.mp here
      exact allowed
    | quoted encloses => cases here
  balanced := by
    obtain ⟨n, eq⟩ := formed.parentheses
    exact ⟨n, by rw [Sql.parentheses, codeText_joinCode, ← Sql.parentheses, eq]; simp⟩
  calls front rest member := by
    obtain ⟨before, later, joined⟩ := List.append_of_mem member
    have chain := isChain_split (textOfAll w)
    rw [split_textOfAll formed.reads, joined] at chain
    obtain ⟨u, v, rfl, rfl⟩ := eq_append_of_joinCode formed.simple joined
    have called : Called (u ++ codes front) :=
      formed.called (by simp [codes, List.append_assoc] : _ = _ ++ _ :: (codes rest ++ v))
    refine called.endsInCallName fun c last => ?_
    -- Otherwise the lexer would have joined the run with the code in front of it.
    obtain ⟨u, rfl⟩ := List.getLast?_eq_some_iff.mp last
    obtain ⟨more, t, eq⟩ := exists_joinCode_append_code u c
    rw [eq, List.append_assoc] at chain
    exact (List.isChain_cons_cons.mp (List.isChain_append.mp chain).2.1).1 t _ rfl rfl

/-- The lexer finds what was put together piece by piece. -/
theorem Formed.simplyShaped (formed : Formed false w) : SimplyShaped (split (textOfAll w)) := by
  rw [split_textOfAll formed.reads]
  exact formed.simplyShaped_joinCode

end QueryGate.Sql
