import QueryGate.Proofs.Pattern.Formation

/-!
# The documented lexicon and that of the patterns

Both lexicons put queries together without comments. That of the patterns does so as long as no
backtick is met as code; it is looser about names, and it does not look over a line feed after a
backslash. So the patterns match every documented query that stands on one line.

## Main definitions

* `Covers` — the texts of one language that stand on one line are texts of another

## Main results

* `forms_loose`, `forms_documented` — what the two lexicons guarantee
* `covers_query` — a documented query on one line is matched by the patterns
-/

namespace QueryGate.Pattern

open Sql Text Grammar
open scoped Computability

variable {P : Segment → Prop} {mark : QuoteMark} {t : List Char}

/-! ### What stands between quotes -/

/-- A character other than the quote and the backslash. -/
def isPlainInside (mark : QuoteMark) (c : Char) : Bool := c != mark.char && c != '\\'

theorem sameBackslash : (bare true).sameChar '\\' = (· == '\\') :=
  sameChar_of_mem_marks (by decide) true

/-- The pieces that the patterns allow between two quotes. -/
theorem language_inside (mark : QuoteMark) :
    (Shape.inside mark.char).language true =
      (single (isPlainInside mark) + single (· == '\\') * single (· != '\n') +
        single (· == mark.char) * single (· == mark.char))∗ := by
  have plain : (fun c => (bare true).inClass [.single mark.char, .single '\\'] c != true) =
      isPlainInside mark := by
    have other : onlyMember? [.single mark.char, .single '\\'] = none := by cases mark <;> decide
    have small : ¬ 0xFFFF < mark.char.toNat := by cases mark <;> decide
    funext c
    simp [Subject.inClass, other, Subject.hasItem, small, sameChar_mark, sameBackslash,
      isPlainInside, bne]
  rw [Shape.inside, Expression.language, repetition_zero]
  simp only [Shape.grouped, List.map, Shape.choice, Expression.seqAll, Expression.language, plain,
    sameBackslash, sameChar_mark, add_assoc]

/-- What the patterns allow between two quotes can stand there. -/
theorem encloses_of_mem_language (escapes : mark.escapes = true)
    (member : t ∈ (Shape.inside mark.char).language true) : mark.Encloses t := by
  rw [language_inside] at member
  obtain ⟨pieces, rfl, all⟩ := Language.mem_kstar.mp member
  clear member
  induction pieces with
  | nil => exact .nil
  | cons piece pieces ih =>
    obtain ⟨first, rest⟩ := List.forall_mem_cons.mp all
    rw [List.flatten_cons]
    -- A plain character, a backslash with what it protects, or a doubled mark.
    obtain (⟨c, plain, rfl⟩ | escaped) | doubled := first
    · obtain ⟨noMark, noBackslash⟩ : c ≠ mark.char ∧ c ≠ '\\' := by
        simpa [isPlainInside] using plain
      exact .other noMark (fun backslash => absurd backslash noBackslash) (ih rest)
    · obtain ⟨-, ⟨c, backslash, rfl⟩, -, ⟨d, -, rfl⟩, rfl⟩ := Language.mem_mul.mp escaped
      obtain rfl := beq_iff_eq.mp backslash
      exact .escaped escapes (ih rest)
    · obtain ⟨-, ⟨c, isMark, rfl⟩, -, ⟨d, isMark', rfl⟩, rfl⟩ := Language.mem_mul.mp doubled
      obtain rfl := beq_iff_eq.mp isMark
      obtain rfl := beq_iff_eq.mp isMark'
      exact .doubled (ih rest)

/-- On one line the patterns allow between two quotes whatever can stand there. -/
theorem mem_language_of_encloses (escapes : mark.escapes = true) (encloses : mark.Encloses t)
    (oneLine : '\n' ∉ t) : t ∈ (Shape.inside mark.char).language true := by
  rw [language_inside]
  induction encloses with
  | nil => exact Language.nil_mem_kstar _
  | @other c t noMark noEscape tail ih =>
    have tailInside := ih fun found => oneLine (.tail c found)
    have noBackslash : c ≠ '\\' := fun backslash => by simp [noEscape backslash] at escapes
    have piece : [c] ∈ single (isPlainInside mark) :=
      ⟨c, by simp [isPlainInside, noMark, noBackslash], rfl⟩
    exact append_mem_kstar (.inl (.inl piece)) tailInside
  | @escaped c t _ tail ih =>
    have tailInside := ih fun found => oneLine (.tail _ (.tail _ found))
    have noBreak : c ≠ '\n' := by
      rintro rfl
      exact oneLine (.tail _ List.mem_cons_self)
    have piece : ['\\'] ++ [c] ∈ single (· == '\\') * single (· != '\n') :=
      Language.append_mem_mul ⟨_, by simp, rfl⟩ ⟨c, by simpa using noBreak, rfl⟩
    exact append_mem_kstar (.inl (.inr piece)) tailInside
  | @doubled t tail ih =>
    have tailInside := ih fun found => oneLine (.tail _ (.tail _ found))
    have piece : [mark.char] ++ [mark.char] ∈ single (· == mark.char) * single (· == mark.char) :=
      Language.append_mem_mul ⟨_, by simp, rfl⟩ ⟨_, by simp, rfl⟩
    exact append_mem_kstar (.inr piece) tailInside

/-! ### What the lexicons guarantee -/

/-- A segment that is no backtick outside of quotes. -/
def NotBacktick (s : Segment) : Prop := s ≠ .code ['\x60']

/-- Where no backtick is met as code, the lexicon of the patterns has plain names only. -/
theorem forms_loose : Lexicon.loose.Forms NotBacktick where
  name {inside} := by
    have absent : Leads NotBacktick (Formed inside) (letter '\x60') (Formed inside) := by
      refine leads_codeSingle fun c same notBacktick => ?_
      obtain rfl := eq_of_sameLetter (by decide) same
      exact absurd rfl notBacktick
    have backtick := absent.optional fun _ => id
    exact backtick.fromReady.mul leads_plainName |>.mul backtick
  encloses mark escapes t member := encloses_of_mem_language escapes member

/-- The documented lexicon needs no condition. -/
theorem forms_documented : Lexicon.documented.Forms P where
  name := by
    refine leads_plainName.fromReady.add (leads_quotedText fun t member => ?_)
    -- A name has word characters only, and no mark is one of them.
    have words : ∀ c ∈ t, isWordChar c = true := by
      obtain ⟨-, ⟨c, starts, rfl⟩, rest, inRest, rfl⟩ := Language.mem_mul.mp member
      obtain ⟨parts, rfl, all⟩ := Language.mem_kstar.mp inRest
      refine List.forall_mem_cons.mpr ⟨(Bool.and_eq_true_iff.mp starts).1, fun d inside => ?_⟩
      obtain ⟨part, inParts, here⟩ := List.mem_flatten.mp inside
      obtain ⟨e, word, rfl⟩ := all part inParts
      obtain rfl := List.mem_singleton.mp here
      exact word
    clear member
    induction t with
    | nil => exact .nil
    | cons c t ih =>
      obtain ⟨word, rest⟩ := List.forall_mem_cons.mp words
      refine .other ?_ (fun _ => rfl) (ih rest)
      rintro rfl
      exact absurd word (by decide)
  encloses mark _ t encloses := encloses

/-! ### Documented queries on one line -/

/-- The texts of one language that stand on one line are texts of another. -/
def Covers (L M : Language Segment) : Prop :=
  ∀ w ∈ L, '\n' ∉ Segment.textOfAll w → Segment.textOfAll w ∈ texts M

namespace Covers

variable {L M L' M' : Language Segment}

theorem refl (L : Language Segment) : Covers L L :=
  fun w member _ => ⟨w, member, rfl⟩

theorem mul (first : Covers L L') (second : Covers M M') : Covers (L * M) (L' * M') := by
  intro w member oneLine
  obtain ⟨u, inL, v, inM, rfl⟩ := Language.mem_mul.mp member
  rw [textOfAll_append, List.mem_append, not_or] at oneLine
  rw [textOfAll_append, map_mul]
  exact Language.append_mem_mul (first u inL oneLine.1) (second v inM oneLine.2)

theorem add (left : Covers L L') (right : Covers M M') : Covers (L + M) (L' + M') := by
  intro w member oneLine
  rw [map_add]
  obtain inL | inM := (Language.mem_add L M w).mp member
  · exact .inl (left w inL oneLine)
  · exact .inr (right w inM oneLine)

theorem kstar (covers : Covers L L') : Covers L∗ L'∗ := by
  intro w member oneLine
  obtain ⟨parts, rfl, all⟩ := Language.mem_kstar.mp member
  rw [← repetition_zero, texts_repetition, repetition_zero]
  clear member
  induction parts with
  | nil => exact Language.nil_mem_kstar _
  | cons part parts ih =>
    obtain ⟨first, rest⟩ := List.forall_mem_cons.mp all
    rw [List.flatten_cons, textOfAll_append] at oneLine ⊢
    rw [List.mem_append, not_or] at oneLine
    exact append_mem_kstar (covers part first oneLine.1) (ih rest oneLine.2)

theorem optional (covers : Covers L L') : Covers (1 + L) (1 + L') := (refl 1).add covers

end Covers

/-- A text between quotes on one line is one that the patterns allow there. -/
theorem covers_quotedText (escapes : mark.escapes = true) :
    Covers (quotedText mark (Lexicon.documented.inside mark))
      (quotedText mark (Lexicon.loose.inside mark)) := by
  rintro - ⟨t, encloses, rfl⟩ oneLine
  have inside : '\n' ∉ t := fun found => oneLine (by simp [Segment.text, found])
  exact ⟨_, ⟨t, mem_language_of_encloses escapes encloses inside, rfl⟩, rfl⟩

/-- The texts of names without quotes. -/
theorem texts_plainName : texts plainName = single startsName * (single isWordChar)∗ := by
  rw [plainName, map_mul, ← repetition_zero, texts_repetition, repetition_zero, texts_codeSingle,
    texts_codeSingle]

theorem texts_loose_name :
    texts Lexicon.loose.name =
      (1 + single (· == '\x60')) * texts plainName * (1 + single (· == '\x60')) := by
  have backtick : texts (letter '\x60') = single (· == '\x60') := by
    rw [letter, texts_codeSingle]
    exact congrArg single (sameChar_mark .backtick true)
  rw [Lexicon.loose, map_mul, map_mul, map_add, map_one, backtick]

/-- A name between two backticks is one with a backtick on either side. -/
theorem covers_name : Covers Lexicon.documented.name Lexicon.loose.name := by
  intro w member _
  rw [texts_loose_name]
  obtain plain | quoted := (Language.mem_add _ _ w).mp member
  · have inTexts : Segment.textOfAll w ∈ texts plainName := ⟨w, plain, rfl⟩
    have empty : [] ∈ 1 + single (· == '\x60') := .inl Language.nil_mem_one
    have whole := Language.append_mem_mul (Language.append_mem_mul empty inTexts) empty
    rwa [List.nil_append, List.append_nil] at whole
  · have inTexts : Segment.textOfAll w ∈ texts (quotedText .backtick (texts plainName)) :=
      ⟨w, texts_plainName ▸ quoted, rfl⟩
    rw [texts_quotedText, ← mul_assoc] at inTexts
    obtain ⟨front, opened, last, closing, eq⟩ := Language.mem_mul.mp inTexts
    obtain ⟨first, opening, t, name, rfl⟩ := Language.mem_mul.mp opened
    rw [← eq]
    exact Language.append_mem_mul (Language.append_mem_mul (.inr opening) name) (.inr closing)

theorem covers_column : Covers (column .documented) (column .loose) :=
  covers_name.mul ((Covers.refl _).mul covers_name).optional

theorem covers_literal : Covers (literal .documented) (literal .loose) :=
  (covers_quotedText rfl).add (covers_quotedText rfl)

theorem covers_value : Covers (value .documented) (value .loose) :=
  (Covers.refl _).add covers_literal |>.add covers_column

theorem covers_commaList {L M : Language Segment} (element : Covers L M) :
    Covers (commaList L) (commaList M) :=
  element.mul ((Covers.refl _).mul element).kstar

theorem covers_condition : Covers (condition .documented) (condition .loose) := by
  have column := covers_column
  have value := covers_value
  have keep (L : Language Segment) : Covers L L := Covers.refl L
  refine Covers.add (Covers.add (Covers.add (Covers.add ?compared ?liked) ?null) ?listed) ?between
  case compared => exact column.mul (keep _) |>.mul (keep _) |>.mul (keep _) |>.mul value
  case liked => exact column.mul (keep _) |>.mul (keep _) |>.mul (keep _) |>.mul value
  case null => exact column.mul (keep _) |>.mul (keep _) |>.mul (keep _)
  case listed =>
    exact column.mul (keep _) |>.mul (keep _) |>.mul (keep _) |>.mul (keep _) |>.mul (keep _)
      |>.mul (keep _) |>.mul (covers_commaList value) |>.mul (keep _) |>.mul (keep _)
  case between =>
    exact column.mul (keep _) |>.mul (keep _) |>.mul (keep _) |>.mul value |>.mul (keep _)
      |>.mul value

theorem covers_whereClause : Covers (whereClause .documented) (whereClause .loose) :=
  ((Covers.refl _).mul covers_condition |>.mul
    ((Covers.refl _).mul covers_condition).kstar).optional

theorem covers_orderClause : Covers (orderClause .documented) (orderClause .loose) :=
  ((Covers.refl _).mul (covers_commaList (covers_column.mul (Covers.refl _)))).optional

theorem covers_newName : Covers (newName .documented) (newName .loose) :=
  ((Covers.refl _).mul covers_name).optional

theorem covers_columnsQuery : Covers (columnsQuery .documented) (columnsQuery .loose) := by
  have columns := (Covers.refl (letter '*')).add
    (covers_commaList (covers_column.mul covers_newName))
  exact (Covers.refl _).mul columns |>.mul (Covers.refl _) |>.mul covers_name
    |>.mul covers_whereClause |>.mul covers_orderClause |>.mul (Covers.refl _)

theorem covers_countQuery : Covers (countQuery .documented) (countQuery .loose) := by
  have counted := (Covers.refl (letter '*')).add covers_column
  exact (Covers.refl _).mul counted |>.mul (Covers.refl _) |>.mul (Covers.refl _)
    |>.mul covers_newName |>.mul (Covers.refl _) |>.mul covers_name |>.mul covers_whereClause

/-- A documented query on one line is one that the patterns match. -/
theorem covers_query : Covers (query .documented) (query .loose) :=
  covers_columnsQuery.add covers_countQuery

end QueryGate.Pattern
