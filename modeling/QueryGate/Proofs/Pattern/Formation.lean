import QueryGate.Proofs.Pattern.Grammar
import QueryGate.Proofs.Sql.Formed

/-!
# Queries are put together without comments

Reading a query of one of the default shapes from left to right, each part is met under some
condition on the segments before it and leaves another condition for the part after it. So what one
part keeps apart stays apart in the whole: a value is never met right after a word or a quoted text,
a sign never right after a hyphen, and a parenthesis only after the name of a call.

## Main definitions

* `Leads` — a language leads from one condition on the segments so far to another
* `Ready` — the segments so far end in a mark, so any part can follow
* `Lexicon.Forms` — what a lexicon has to guarantee

## Main results

* `Lexicon.Forms.formed_of_mem_query` — a query is put together piece by piece
-/

namespace QueryGate.Pattern

open Sql Text Grammar
open scoped Computability

variable {P : Segment → Prop} {A B C D : List Segment → Prop} {L M : Language Segment}
  {inside : Bool} {front w : List Segment} {c : Char} {t : List Char}

/-! ### Conditions on the segments so far -/

/-- A language leads from one condition on the segments so far to another, as long as all segments
read satisfy a condition of their own. -/
def Leads (P : Segment → Prop) (A : List Segment → Prop) (L : Language Segment)
    (B : List Segment → Prop) : Prop :=
  ∀ front, A front → ∀ w ∈ L, (∀ s ∈ w, P s) → B (front ++ w)

theorem leads_one : Leads P A 1 A := by
  intro front before w empty _
  rwa [(Language.mem_one w).mp empty, List.append_nil]

theorem Leads.mul (first : Leads P A L B) (second : Leads P B M C) : Leads P A (L * M) C := by
  intro front before w member all
  obtain ⟨u, inL, v, inM, rfl⟩ := Language.mem_mul.mp member
  obtain ⟨allFirst, allSecond⟩ := List.forall_mem_append.mp all
  rw [← List.append_assoc]
  exact second _ (first front before u inL allFirst) v inM allSecond

theorem Leads.add (left : Leads P A L B) (right : Leads P A M B) : Leads P A (L + M) B := by
  intro front before w member all
  obtain inL | inM := (Language.mem_add L M w).mp member
  · exact left front before w inL all
  · exact right front before w inM all

/-- A condition that a part preserves is preserved by any number of such parts. -/
theorem Leads.kstar (step : Leads P A L A) : Leads P A L∗ A := by
  intro front before w member all
  obtain ⟨parts, rfl, inL⟩ := Language.mem_kstar.mp member
  clear member
  induction parts generalizing front with
  | nil => rwa [List.flatten_nil, List.append_nil]
  | cons u parts ih =>
    obtain ⟨first, rest⟩ := List.forall_mem_cons.mp inL
    rw [List.flatten_cons] at all ⊢
    obtain ⟨allFirst, allRest⟩ := List.forall_mem_append.mp all
    rw [← List.append_assoc]
    exact ih (front ++ u) (step front before u first allFirst) rest allRest

theorem Leads.imp (leads : Leads P B L C) (before : ∀ front, A front → B front)
    (after : ∀ front, C front → D front) : Leads P A L D :=
  fun front start w member all => after _ (leads front (before front start) w member all)

/-- A part that may be absent. -/
theorem Leads.optional (leads : Leads P A L B) (absent : ∀ front, A front → B front) :
    Leads P A (1 + L) B :=
  (leads_one.imp (fun _ => id) absent).add leads

/-- The segments so far are well formed and end in a mark other than a hyphen, or there are none. -/
structure Ready (inside : Bool) (front : List Segment) : Prop where
  formed : Formed inside front
  last : ∀ s, front.getLast? = some s → ∃ c, s = .code [c] ∧ isWordChar c = false ∧ c ≠ '-'

/-- The segments so far end in a whole word that names a call. -/
structure Named (front : List Segment) : Prop where
  formed : Formed false front
  name : ∃ before word, front = before ++ codes word ∧ EndsOutside before ∧ IsCallName word

/-- The segments so far end in the name of a call, with a space after it or none. -/
structure Calling (front : List Segment) : Prop where
  formed : Formed false front
  called : Called front

theorem ready_nil : Ready false [] := ⟨.nil, by simp⟩

theorem Leads.fromReady (leads : Leads P (Formed inside) L B) : Leads P (Ready inside) L B :=
  leads.imp (fun _ => Ready.formed) fun _ => id

theorem Leads.toFormed (leads : Leads P A L (Ready inside)) : Leads P A L (Formed inside) :=
  leads.imp (fun _ => id) fun _ => Ready.formed

theorem Ready.endsOutside (ready : Ready inside front) : EndsOutside front := by
  intro c last
  obtain ⟨d, same, outside, -⟩ := ready.last _ last
  obtain rfl : c = d := by simpa using same
  exact outside

/-! ### Single characters -/

theorem leads_codeSingle {test : Char → Bool}
    (step : ∀ c, test c = true → P (.code [c]) → ∀ front, A front → B (front ++ [.code [c]])) :
    Leads P A (codeSingle test) B := by
  rintro front before - ⟨c, holds, rfl⟩ all
  exact step c holds (all _ List.mem_cons_self) front before

theorem leads_wordChar {test : Char → Bool} (words : ∀ c, test c = true → isWordChar c = true) :
    Leads P (Formed inside) (codeSingle test) (Formed inside) := by
  refine leads_codeSingle fun c holds _ front formed => .code formed (.inl (words c holds)) ?_
  rintro rfl
  exact absurd (words _ holds) (by decide)

theorem ready_append_code (formed : Formed inside (front ++ [.code [c]]))
    (outside : isWordChar c = false) (noDash : c ≠ '-') : Ready inside (front ++ [.code [c]]) := by
  refine ⟨formed, fun s last => ⟨c, ?_, outside, noDash⟩⟩
  simpa using last.symm

/-- Marks that can follow anything and that anything can follow. -/
def freeMarks : List Char := " *,.=!<>".toList

theorem leads_mark (member : c ∈ freeMarks) :
    Leads P (Formed inside) (letter c) (Ready inside) := by
  have table : freeMarks.all (fun c => decide (c ∈ marks ∧ c ∈ looseMarks ∧
      isWordChar c = false ∧ c ≠ '-')) = true := by decide
  obtain ⟨mark, loose, outside, noDash⟩ := of_decide_eq_true (List.all_eq_true.mp table c member)
  refine leads_codeSingle fun d same _ front formed => ?_
  obtain rfl := eq_of_sameLetter mark same
  exact ready_append_code (.code formed (.inr loose) fun dash => absurd dash noDash) outside noDash

theorem leads_sign : Leads P (Ready inside) (letter '-') (Formed inside) := by
  refine leads_codeSingle fun d same _ front ready => ?_
  obtain rfl := eq_of_sameLetter (by decide) same
  refine .code ready.formed (.inr (by decide)) fun _ last => ?_
  obtain ⟨c, eq, -, noDash⟩ := ready.last _ last
  exact noDash (by simpa using eq.symm)

theorem leads_opening : Leads P Calling (letter '(') (Ready true) := by
  refine leads_codeSingle fun d same _ front calling => ?_
  obtain rfl := eq_of_sameLetter (by decide) same
  exact ready_append_code (.opening calling.formed calling.called) (by decide) (by decide)

theorem leads_closing : Leads P (Formed true) (letter ')') (Ready false) := by
  refine leads_codeSingle fun d same _ front formed => ?_
  obtain rfl := eq_of_sameLetter (by decide) same
  exact ready_append_code (.closing formed) (by decide) (by decide)

theorem leads_gap : Leads P (Formed inside) gap (Formed inside) :=
  (leads_mark (by decide)).toFormed.optional fun _ => id

theorem leads_gap_ready : Leads P (Ready inside) gap (Ready inside) :=
  (leads_mark (by decide)).fromReady.optional fun _ => id

/-! ### Words -/

/-- Letters of words and spaces between them. -/
def isPhrase (t : List Char) : Bool :=
  t.all fun c => capitals.contains c || freeMarks.contains c

/-- A phrase that ends in a mark. -/
def endsInMark (t : List Char) : Bool :=
  isPhrase t && t.getLast?.any freeMarks.contains

theorem letters_cons (c : Char) (t : List Char) : letters (c :: t) = letter c * letters t :=
  List.prod_cons

theorem letters_append (t u : List Char) : letters (t ++ u) = letters t * letters u := by
  rw [letters, List.map_append, List.prod_append]
  rfl

theorem letters_singleton (c : Char) : letters [c] = letter c := List.prod_singleton

theorem mem_letters_iff :
    w ∈ letters t ↔ ∃ word,
      List.Forall₂ (fun letter c => sameLetter letter c = true) t word ∧ w = codes word := by
  induction t generalizing w with
  | nil =>
    constructor
    · intro empty
      exact ⟨[], .nil, empty⟩
    · rintro ⟨word, same, rfl⟩
      cases same
      rfl
  | cons c t ih =>
    rw [letters_cons, Language.mem_mul]
    constructor
    · rintro ⟨-, ⟨d, same, rfl⟩, v, inside, rfl⟩
      obtain ⟨word, rest, rfl⟩ := ih.mp inside
      exact ⟨d :: word, .cons same rest, rfl⟩
    · rintro ⟨word, same, rfl⟩
      cases same with
      | @cons _ d _ word head tail =>
        exact ⟨_, ⟨d, head, rfl⟩, codes word, ih.mpr ⟨word, tail, rfl⟩, rfl⟩

theorem codes_mem_letters (t : List Char) : codes t ∈ letters t :=
  mem_letters_iff.mpr ⟨t, List.forall₂_same.mpr fun c _ => sameLetter_self c, rfl⟩

theorem codes_mem_plainName (starts : startsName c = true) (words : t.all isWordChar = true) :
    codes (c :: t) ∈ plainName := by
  refine Language.mem_mul.mpr ⟨[.code [c]], ⟨c, starts, rfl⟩, codes t, ?_, rfl⟩
  induction t with
  | nil => exact Language.nil_mem_kstar _
  | cons d t ih =>
    obtain ⟨first, rest⟩ := Bool.and_eq_true_iff.mp words
    have piece : [Segment.code [d]] ∈ codeSingle isWordChar := ⟨d, first, rfl⟩
    exact append_mem_kstar piece (ih rest)

theorem leads_letters (phrase : isPhrase t = true) :
    Leads P (Formed inside) (letters t) (Formed inside) := by
  induction t with
  | nil => exact leads_one
  | cons c t ih =>
    rw [isPhrase, List.all_cons, Bool.and_eq_true, Bool.or_eq_true, List.contains_iff_mem,
      List.contains_iff_mem] at phrase
    obtain ⟨known, rest⟩ := phrase
    rw [letters_cons]
    refine Leads.mul ?_ (ih rest)
    obtain capital | mark := known
    · exact leads_wordChar fun d same => isWordChar_of_sameLetter capital same
    · exact (leads_mark mark).toFormed

/-- After letters that end in a mark any part can follow. -/
theorem leads_letters_ready (marked : endsInMark t = true) :
    Leads P (Formed inside) (letters t) (Ready inside) := by
  obtain ⟨phrase, mark⟩ := Bool.and_eq_true_iff.mp marked
  obtain ⟨c, last, free⟩ : ∃ c, t.getLast? = some c ∧ freeMarks.contains c = true := by
    simpa [Option.any_eq_true] using mark
  obtain ⟨u, rfl⟩ := List.getLast?_eq_some_iff.mp last
  rw [isPhrase, List.all_append, Bool.and_eq_true] at phrase
  rw [letters_append, letters_singleton]
  exact (leads_letters phrase.1).mul (leads_mark (List.contains_iff_mem.mp free))

theorem leads_callName (name : t ∈ ["COUNT".toList, "IN".toList]) :
    Leads P (Ready false) (letters t) Named := by
  have table : ["COUNT".toList, "IN".toList].all isPhrase = true := by decide
  intro front ready w member all
  refine ⟨leads_letters (List.all_eq_true.mp table t name) front ready.formed w member all, ?_⟩
  obtain ⟨word, same, rfl⟩ := mem_letters_iff.mp member
  exact ⟨front, word, rfl, ready.endsOutside, t, name, same⟩

theorem leads_gap_calling : Leads P Named gap Calling := by
  intro front named w member all
  have formed := leads_gap front named.formed w member all
  obtain ⟨before, word, rfl, outside, name⟩ := named.name
  obtain empty | ⟨c, same, rfl⟩ := (Language.mem_add _ _ w).mp member
  · obtain rfl := (Language.mem_one w).mp empty
    exact ⟨formed, before, word, [], by simp, outside, name, .inl rfl⟩
  · obtain rfl := eq_of_sameLetter (by decide) same
    exact ⟨formed, before, word, [' '], by simp [codes], outside, name, .inr rfl⟩

theorem leads_digits : Leads P (Formed inside) digits (Formed inside) := by
  have one : Leads P (Formed inside) (codeSingle isDecimalDigit) (Formed inside) :=
    leads_wordChar fun c => isWordChar_of_isDecimalDigit
  exact one.mul one.kstar

theorem leads_plainName : Leads P (Formed inside) plainName (Formed inside) := by
  have first : Leads P (Formed inside) (codeSingle startsName) (Formed inside) :=
    leads_wordChar fun c starts => (Bool.and_eq_true_iff.mp starts).1
  exact first.mul (leads_wordChar fun c => id).kstar

theorem leads_quotedText {mark : QuoteMark} {K : Language Char}
    (encloses : ∀ t ∈ K, mark.Encloses t) :
    Leads P (Ready inside) (quotedText mark K) (Formed inside) := by
  rintro front ready - ⟨t, member, rfl⟩ -
  refine .quoted ready.formed (encloses t member) fun u last => ?_
  obtain ⟨c, eq, -⟩ := ready.last _ last
  cases eq

/-! ### The parts of a query -/

theorem leads_number : Leads P (Ready inside) number (Formed inside) :=
  (leads_sign.optional fun _ => Ready.formed).mul leads_digits
    |>.mul (((leads_mark (by decide)).toFormed.mul leads_digits).optional fun _ => id)

theorem leads_operator : Leads P (Formed inside) operator (Ready inside) := by
  have mark {t : List Char} (marked : endsInMark t = true) :
      Leads P (Formed inside) (letters t) (Ready inside) := leads_letters_ready marked
  rw [operator]
  exact mark (by decide) |>.add (mark (by decide)) |>.add (mark (by decide))
    |>.add (mark (by decide)) |>.add (mark (by decide)) |>.add (mark (by decide))
    |>.add (mark (by decide))

theorem leads_negation : Leads P (Ready inside) negation (Ready inside) :=
  (leads_letters_ready (by decide)).fromReady.optional fun _ => id

theorem leads_commaList (element : Leads P (Ready inside) L (Formed inside)) :
    Leads P (Ready inside) (commaList L) (Formed inside) := by
  have further : Leads P (Formed inside) (gap * letter ',' * gap * L) (Formed inside) :=
    leads_gap.mul (leads_mark (by decide)) |>.mul leads_gap_ready |>.mul element
  exact element.mul further.kstar

/-- What a lexicon has to guarantee: a name leaves the segments well formed wherever it may stand,
and a literal ends with its second quote. -/
structure Lexicon.Forms (P : Segment → Prop) (lex : Lexicon) : Prop where
  name : ∀ {inside}, Leads P (Ready inside) lex.name (Formed inside)
  encloses : ∀ mark, mark.escapes = true → ∀ t ∈ lex.inside mark, mark.Encloses t

section Forms

variable {lex : Lexicon} (forms : lex.Forms P)

include forms

theorem leads_column : Leads P (Ready inside) (column lex) (Formed inside) :=
  forms.name.mul (((leads_mark (by decide)).mul forms.name).optional fun _ => id)

theorem leads_literal : Leads P (Ready inside) (literal lex) (Formed inside) :=
  (leads_quotedText (forms.encloses .single rfl)).add
    (leads_quotedText (forms.encloses .double rfl))

theorem leads_value : Leads P (Ready inside) (value lex) (Formed inside) :=
  leads_number.add (leads_literal forms) |>.add (leads_column forms)

theorem leads_condition : Leads P (Ready false) (condition lex) (Formed false) := by
  have word {t : List Char} (marked : endsInMark t = true) :
      Leads P (Formed false) (letters t) (Ready false) := leads_letters_ready marked
  have column : Leads P (Ready false) (column lex) (Formed false) := leads_column forms
  have value {inside : Bool} : Leads P (Ready inside) (value lex) (Formed inside) :=
    leads_value forms
  rw [condition]
  refine Leads.add (Leads.add (Leads.add (Leads.add ?compared ?liked) ?null) ?listed) ?between
  case compared =>
    exact column.mul leads_gap |>.mul leads_operator |>.mul leads_gap_ready |>.mul value
  case liked =>
    exact column.mul (word (by decide)) |>.mul leads_negation
      |>.mul (word (by decide)).fromReady |>.mul value
  case null =>
    exact column.mul (word (by decide)) |>.mul leads_negation
      |>.mul (leads_letters (by decide)).fromReady
  case listed =>
    exact column.mul (word (by decide)) |>.mul leads_negation
      |>.mul (leads_callName (by decide)) |>.mul leads_gap_calling |>.mul leads_opening
      |>.mul leads_gap_ready |>.mul (leads_commaList value) |>.mul leads_gap
      |>.mul leads_closing |>.toFormed
  case between =>
    exact column.mul (word (by decide)) |>.mul leads_negation
      |>.mul (word (by decide)).fromReady |>.mul value
      |>.mul (word (by decide)) |>.mul value

theorem leads_whereClause : Leads P (Formed false) (whereClause lex) (Formed false) := by
  have join : Leads P (Ready false) (letters "AND".toList + letters "OR".toList) (Formed false) :=
    ((leads_letters (by decide)).add (leads_letters (by decide))).fromReady
  have further : Leads P (Formed false) (letters " ".toList *
      (letters "AND".toList + letters "OR".toList) * letters " ".toList * condition lex)
      (Formed false) :=
    (leads_letters_ready (by decide)).mul join
      |>.mul (leads_letters_ready (by decide)) |>.mul (leads_condition forms)
  have first : Leads P (Formed false) (letters " WHERE ".toList * condition lex) (Formed false) :=
    (leads_letters_ready (by decide)).mul (leads_condition forms)
  exact (first.mul further.kstar).optional fun _ => id

theorem leads_sortKey : Leads P (Ready inside) (sortKey lex) (Formed inside) := by
  have direction : Leads P (Formed inside)
      (letters " ".toList * (letters "ASC".toList + letters "DESC".toList)) (Formed inside) :=
    (leads_letters (by decide)).mul ((leads_letters (by decide)).add (leads_letters (by decide)))
  exact (leads_column forms).mul (direction.optional fun _ => id)

theorem leads_orderClause : Leads P (Formed false) (orderClause lex) (Formed false) :=
  ((leads_letters_ready (by decide)).mul
    (leads_commaList (leads_sortKey forms))).optional fun _ => id

omit forms in
theorem leads_limitClause : Leads P (Formed false) limitClause (Formed false) := by
  have separator : Leads P (Formed false)
      (gap * letter ',' * gap + letters " OFFSET ".toList) (Formed false) :=
    (leads_gap.mul (leads_mark (by decide)) |>.mul leads_gap_ready).toFormed.add
      (leads_letters (by decide))
  exact ((leads_letters (by decide)).mul leads_digits
    |>.mul ((separator.mul leads_digits).optional fun _ => id)).optional fun _ => id

theorem leads_newName : Leads P (Formed false) (newName lex) (Formed false) :=
  ((leads_letters_ready (by decide)).mul forms.name).optional fun _ => id

theorem leads_columnsQuery : Leads P (Ready false) (columnsQuery lex) (Formed false) := by
  have distinct : Leads P (Ready false) (1 + letters "DISTINCT ".toList) (Ready false) :=
    (leads_letters_ready (by decide)).fromReady.optional fun _ => id
  have columns : Leads P (Ready false)
      (letter '*' + commaList (column lex * newName lex)) (Formed false) :=
    (leads_mark (by decide)).toFormed.fromReady.add
      (leads_commaList ((leads_column forms).mul (leads_newName forms)))
  exact (leads_letters_ready (by decide)).fromReady.mul distinct |>.mul columns
    |>.mul (leads_letters_ready (by decide)) |>.mul forms.name
    |>.mul (leads_whereClause forms) |>.mul (leads_orderClause forms) |>.mul leads_limitClause

theorem leads_countQuery : Leads P (Ready false) (countQuery lex) (Formed false) := by
  have counted : Leads P (Ready true) (letter '*' + column lex) (Formed true) :=
    (leads_mark (by decide)).toFormed.fromReady.add (leads_column forms)
  exact (leads_letters_ready (by decide)).fromReady.mul (leads_callName (by decide))
    |>.mul leads_gap_calling |>.mul leads_opening |>.mul leads_gap_ready |>.mul counted
    |>.mul leads_gap |>.mul leads_closing.toFormed |>.mul (leads_newName forms)
    |>.mul (leads_letters_ready (by decide)) |>.mul forms.name
    |>.mul (leads_whereClause forms)

/-- A query of one of the shapes is put together piece by piece. -/
theorem Lexicon.Forms.formed_of_mem_query (member : w ∈ query lex) (all : ∀ s ∈ w, P s) :
    Formed false w :=
  ((leads_columnsQuery forms).add (leads_countQuery forms)) [] ready_nil w member all

end Forms

end QueryGate.Pattern
