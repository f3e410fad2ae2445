import QueryGate.Proofs.Gate.Approval
import QueryGate.Proofs.Text.Utf8

/-!
# Bytes as queries

A query can be submitted as text or as bytes. Bytes that encode a text are judged like the text, and
their length is that of the text. All other bytes are rejected before anything else is looked at,
with the only reading of them that has U+FFFD for what belongs to no character.

## Main results

* `verdict_bytes_encode` — the encoding of a text has the verdict of the text
* `query_of_textVerdict` — a rejected text is reported as it is
* `verdict_bytes` — the verdict on any bytes
-/

namespace QueryGate.Gate

open Text Utf8

variable {g : Gate} {text : List Char} {bytes : List UInt8}

theorem verdict_bytes_encode (g : Gate) (text : List Char) :
    g.verdict (.bytes (encode text)) = g.verdict (.text text) := by
  simp only [verdict, textOf, decode?_encode]

theorem query_ofViolation (query : List Char) (violation : Violation) :
    (Rejection.ofViolation query violation).query = query := by
  cases violation <;> rfl

/-- A rejected text is reported as it is, whatever is wrong with it. -/
theorem query_of_textVerdict {r : Rejection} (rejected : g.textVerdict text = .ok (.rejected r)) :
    r.query = text := by
  obtain ⟨violation, rfl, -⟩ := textVerdict_eq_rejected_iff.mp rejected
  exact query_ofViolation text violation

theorem verdict_of_undecodable (undecodable : decode? bytes = none) :
    g.verdict (.bytes bytes) =
      .ok (.rejected (.ofViolation (decodeLenient bytes) (.flawed .notUtf8))) := by
  simp only [verdict, textOf, undecodable]

/-- Bytes that encode a text have the verdict of the text: if it is rejected then as itself, for its
length only if it has too many characters, and else for what the checks find in it. Bytes that
encode no text are rejected by every gate, with the only text they can stand for, in which U+FFFD
is in the place of what belongs to no character. -/
theorem verdict_bytes (g : Gate) :
    (∀ text, g.verdict (.bytes (encode text)) = g.verdict (.text text) ∧
      (∀ r, g.verdict (.bytes (encode text)) = .ok (.rejected r) → r.query = text) ∧
      (g.limit.exceededBy? text.length = some true →
        (∀ shown, g.limit.shown? = some shown → g.verdict (.bytes (encode text)) =
          .ok (.rejected (.ofViolation text (.flawed (.tooLong shown))))) ∧
        (g.limit.shown? = none → g.verdict (.bytes (encode text)) = .error .numberTooLong)) ∧
      (g.limit.exceededBy? text.length = some false →
        g.verdict (.bytes (encode text)) = .ok (.ofViolation? text (g.violation? text)))) ∧
    ∀ bytes, (∀ text, bytes ≠ encode text) →
      ∃ shown, (∀ text, Decodes bytes text ↔ text = shown) ∧ '\uFFFD' ∈ shown ∧
        g.verdict (.bytes bytes) = .ok (.rejected ⟨shown,
          "Invalid query structure: Query is not valid UTF-8".toList, .invalidStructure⟩) := by
  constructor
  · intro text
    rw [verdict_bytes_encode]
    refine ⟨rfl, fun r => query_of_textVerdict, fun long => ⟨fun shown known => ?_, fun unknown => ?_⟩,
      fun short => ?_⟩
    · simp only [verdict, textOf, textVerdict, long, known]
    · simp only [verdict, textOf, textVerdict, long, unknown]
    · simp only [verdict, textOf, textVerdict, short]
  · intro bytes noText
    have undecodable : decode? bytes = none := decode?_eq_none_iff.mpr noText
    exact ⟨decodeLenient bytes, fun text => decodes_iff,
      replacement_mem_decodeLenient undecodable, verdict_of_undecodable undecodable⟩

/-- The limit of eight characters is kept by nine bytes, and does not matter to an encoded
surrogate. -/
theorem verdict_bytes_of_surrogate :
    let g : Gate := ⟨[], .bool false, [], .whole 8⟩
    let accented : List Char := "SELECT é".toList
    let surrogate : List UInt8 := [0x53, 0xED, 0xA0, 0x80]
    (encode accented).length = 9 ∧ g.verdict (.bytes (encode accented)) = .ok .approved ∧
    (∀ text, surrogate ≠ encode text) ∧
    ∃ shown, (∀ text, Decodes surrogate text ↔ text = shown) ∧ '\uFFFD' ∈ shown ∧
      g.verdict (.bytes surrogate) = .ok (.rejected ⟨shown,
        "Invalid query structure: Query is not valid UTF-8".toList, .invalidStructure⟩) := by
  intro g accented surrogate
  obtain ⟨encoded, others⟩ := verdict_bytes g
  have clean : g.violation? accented = none := by decide +kernel
  have undecodable : decode? surrogate = none := by
    simp [surrogate, decode?, units, nextUnit, lead?, continueUnit, characters?]
  have noText := decode?_eq_none_iff.mp undecodable
  refine ⟨by decide, ?_, noText, others surrogate noText⟩
  rw [(encoded accented).2.2.2 rfl, clean]
  rfl

end QueryGate.Gate
