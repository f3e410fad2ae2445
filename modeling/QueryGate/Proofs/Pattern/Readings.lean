import QueryGate.Proofs.Pattern.Language
import QueryGate.Proofs.Sql.Delimiters
import QueryGate.Proofs.Text.Letters

/-!
# The literals that an expression sees

An expression for queries says which stretches of the text are quoted: those that a part of it
matches which begins and ends with one quote. So each way in which the expression matches a text
cuts the text into segments, single characters of code and quoted texts, with nothing decided by a
lexer.

## Main definitions

* `texts` — the texts of the words over segments, as a homomorphism of languages
* `Expression.quotedPart?` — the inside of a part between two quotes
* `Expression.readings` — the cuts of the texts that an expression matches

## Main results

* `Expression.texts_readings` — an expression has cuts of exactly the texts that it matches
-/

namespace QueryGate.Pattern

open Sql Text
open scoped Computability

variable {ignoreCase : Bool} {e a b : Expression} {mark : QuoteMark}

/-- The texts of the words over segments. -/
def texts : Language Segment →+* Language Char where
  toFun := Set.image Segment.textOfAll
  map_zero' := Set.image_empty _
  map_one' := Set.image_singleton
  map_add' := Set.image_union _
  map_mul' _ _ := Set.image_image2_distrib textOfAll_append

theorem texts_repetition (L : Language Segment) (least : Nat) (most : Option Nat) :
    texts (repetition L least most) = repetition (texts L) least most := by
  ext t
  constructor
  · rintro ⟨w, ⟨n, atLeast, atMost, power⟩, rfl⟩
    refine ⟨n, atLeast, atMost, ?_⟩
    rw [← map_pow]
    exact ⟨w, power, rfl⟩
  · rintro ⟨n, atLeast, atMost, power⟩
    rw [← map_pow] at power
    obtain ⟨w, inside, rfl⟩ := power
    exact ⟨w, ⟨n, atLeast, atMost, inside⟩, rfl⟩

/-- One character of code that satisfies a condition. -/
def codeSingle (test : Char → Bool) : Language Segment :=
  {w | ∃ c, test c = true ∧ w = [.code [c]]}

/-- One closed text between quotes, with an inside from the given language. -/
def quotedText (mark : QuoteMark) (inside : Language Char) : Language Segment :=
  {w | ∃ t ∈ inside, w = [.quoted mark t true]}

theorem texts_codeSingle (test : Char → Bool) : texts (codeSingle test) = single test := by
  ext t
  constructor
  · rintro ⟨-, ⟨c, holds, rfl⟩, rfl⟩
    exact ⟨c, holds, by simp [Segment.text]⟩
  · rintro ⟨c, holds, rfl⟩
    exact ⟨_, ⟨c, holds, rfl⟩, by simp [Segment.text]⟩

theorem texts_quotedText (mark : QuoteMark) (inside : Language Char) :
    texts (quotedText mark inside) =
      single (· == mark.char) * (inside * single (· == mark.char)) := by
  have one {t : List Char} : t ∈ single (· == mark.char) ↔ t = [mark.char] := by
    simp [mem_single]
  ext t
  simp only [Language.mem_mul, one]
  constructor
  · rintro ⟨-, ⟨u, member, rfl⟩, rfl⟩
    exact ⟨_, rfl, _, ⟨u, member, _, rfl, rfl⟩, by simp [Segment.text]⟩
  · rintro ⟨-, rfl, -, ⟨u, member, -, rfl, rfl⟩, rfl⟩
    exact ⟨_, ⟨u, member, rfl⟩, by simp [Segment.text]⟩

/-- The inside of a part that begins and ends with one quote. -/
def Expression.quotedPart? : Expression → Option (QuoteMark × Expression)
  | .seq (.char first) (.seq inside (.char last)) =>
    if first = last then (QuoteMark.ofChar? first).map (·, inside) else none
  | _ => none

/-- The cuts of the texts that an expression matches: a part between quotes matches one quoted text,
and all other characters are code. -/
def Expression.readings (ignoreCase : Bool) : Expression → Language Segment
  | .empty => 1
  | .char c => codeSingle ((bare ignoreCase).sameChar c)
  | .anyChar => codeSingle (· != '\n')
  | .oneOf complement items =>
    codeSingle fun c => (bare ignoreCase).inClass items c != complement
  | .group _ inside => inside.readings ignoreCase
  | .seq first second =>
    match (Expression.seq first second).quotedPart? with
    | some (mark, inside) => quotedText mark (inside.language ignoreCase)
    | none => first.readings ignoreCase * second.readings ignoreCase
  | .alt left right => left.readings ignoreCase + right.readings ignoreCase
  | .repeated inside least most => repetition (inside.readings ignoreCase) least most
  | .textStart | .textEnd | .textLimit | .wordEdge _ | .lookahead .. => 0

theorem Expression.quotedPart?_eq_some (found : e.quotedPart? = some (mark, a)) :
    e = .seq (.char mark.char) (.seq a (.char mark.char)) := by
  unfold quotedPart? at found
  split at found
  · next first inside last =>
    split at found
    · next same =>
      obtain ⟨m, isMark, pair⟩ := Option.map_eq_some_iff.mp found
      obtain ⟨rfl, rfl⟩ := Prod.mk.inj pair
      rw [← same, QuoteMark.ofChar?_eq_some_iff.mp isMark]
    · cases found
  · cases found

theorem Expression.readings_seq (plain : (Expression.seq a b).quotedPart? = none) :
    (Expression.seq a b).readings ignoreCase = a.readings ignoreCase * b.readings ignoreCase := by
  rw [readings, plain]

/-- A mark has no variants, so it is the same with case and without. -/
theorem sameChar_of_mem_marks {c : Char} (member : c ∈ marks) (ignoreCase : Bool) :
    (bare ignoreCase).sameChar c = (· == c) := by
  funext d
  cases ignoreCase with
  | false => simp [Subject.sameChar, eq_comm]
  | true =>
    rw [Bool.eq_iff_iff, beq_iff_eq]
    exact sameLetter_mark_iff member

theorem sameChar_mark (mark : QuoteMark) (ignoreCase : Bool) :
    (bare ignoreCase).sameChar mark.char = (· == mark.char) :=
  sameChar_of_mem_marks (by cases mark <;> decide) ignoreCase

/-- An expression has cuts of exactly the texts that it matches. -/
theorem Expression.texts_readings (e : Expression) (ignoreCase : Bool) :
    texts (e.readings ignoreCase) = e.language ignoreCase := by
  induction e with
  | empty => exact map_one texts
  | char c => exact texts_codeSingle _
  | anyChar => exact texts_codeSingle _
  | oneOf complement items => exact texts_codeSingle _
  | group name inside ih => exact ih
  | seq first second ihFirst ihSecond =>
    -- A sequence that is a quoted part is read as one segment, not item by item.
    cases found : (Expression.seq first second).quotedPart? with
    | none => rw [readings_seq found, map_mul, ihFirst, ihSecond, language]
    | some part =>
      obtain ⟨mark, inside⟩ := part
      have here : (Expression.seq first second).readings ignoreCase =
          quotedText mark (inside.language ignoreCase) := by rw [readings, found]
      rw [here, quotedPart?_eq_some found, texts_quotedText]
      simp only [language, sameChar_mark]
  | alt left right ihLeft ihRight => rw [readings, map_add, ihLeft, ihRight, language]
  | repeated inside least most ih => rw [readings, texts_repetition, ih, language]
  | textStart | textEnd | textLimit | wordEdge | lookahead => exact map_zero texts

end QueryGate.Pattern
