import QueryGate.Proofs.Pattern.Readings
import QueryGate.Proofs.Pattern.Shape

/-!
# The grammar of the default shapes

The two shapes of a query as a grammar over segments. What counts as a name, and what may stand
between the quotes of a literal, is left to a lexicon: the default patterns have one that looks at
single characters, the documentation has a stricter one. With the lexicon of the patterns the
grammar has exactly the cuts that the patterns see.

## Main definitions

* `Lexicon` — the names and the insides of literals
* `Grammar.columnsQuery`, `Grammar.countQuery` — the two shapes
* `Lexicon.loose` — the lexicon of the default patterns
* `Lexicon.documented` — names plain or between backticks, and literals that are closed
* `spelled` — the cuts of the items of a sequence, one after the other

## Main results

* `readings_columnsQuery`, `readings_countQuery` — the cuts that the default patterns see
-/

namespace QueryGate.Pattern

open Sql Text Expression
open scoped Computability

/-- The names of a query, and what may stand between the quotes of its literals. -/
structure Lexicon where
  name : Language Segment
  inside : QuoteMark → Language Char

namespace Grammar

/-- A letter in either case, as code. -/
def letter (c : Char) : Language Segment := codeSingle (sameLetter c)

/-- Letters one after the other, each in either case. -/
def letters (t : List Char) : Language Segment := (t.map letter).prod

/-- A space that may be absent. -/
def gap : Language Segment := 1 + letter ' '

/-- One digit or more. -/
def digits : Language Segment := codeSingle isDecimalDigit * (codeSingle isDecimalDigit)∗

/-- A decimal number with an optional sign. -/
def number : Language Segment := (1 + letter '-') * digits * (1 + letter '.' * digits)

/-- A character with which a name can begin. -/
def startsName (c : Char) : Bool := isWordChar c && !isDecimalDigit c

/-- A name without quotes. -/
def plainName : Language Segment := codeSingle startsName * (codeSingle isWordChar)∗

def operator : Language Segment :=
  letters "=".toList + letters "!=".toList + letters "<>".toList + letters "<=".toList +
    letters ">=".toList + letters "<".toList + letters ">".toList

def negation : Language Segment := 1 + letters "NOT ".toList

/-- Elements with a comma between any two, and a space allowed on either side of it. -/
def commaList (element : Language Segment) : Language Segment :=
  element * (gap * letter ',' * gap * element)∗

section Lexicon

variable (lex : Lexicon)

/-- A column, with the name of its table or without. -/
def column : Language Segment := lex.name * (1 + letter '.' * lex.name)

/-- A text between single or double quotes. -/
def literal : Language Segment :=
  quotedText .single (lex.inside .single) + quotedText .double (lex.inside .double)

def value : Language Segment := number + literal lex + column lex

/-- A single condition on a column. -/
def condition : Language Segment :=
  column lex * gap * operator * gap * value lex +
  column lex * letters " ".toList * negation * letters "LIKE ".toList * value lex +
  column lex * letters " IS ".toList * negation * letters "NULL".toList +
  column lex * letters " ".toList * negation * letters "IN".toList * gap * letter '(' * gap *
    commaList (value lex) * gap * letter ')' +
  column lex * letters " ".toList * negation * letters "BETWEEN ".toList * value lex *
    letters " AND ".toList * value lex

/-- Conditions joined by `AND` and `OR`. -/
def whereClause : Language Segment :=
  1 + letters " WHERE ".toList * condition lex *
    (letters " ".toList * (letters "AND".toList + letters "OR".toList) * letters " ".toList *
      condition lex)∗

/-- A column to sort by, with an optional direction. -/
def sortKey : Language Segment :=
  column lex * (1 + letters " ".toList * (letters "ASC".toList + letters "DESC".toList))

def orderClause : Language Segment :=
  1 + letters " ORDER BY ".toList * commaList (sortKey lex)

/-- A number of rows, with an offset after it or before. -/
def limitClause : Language Segment :=
  1 + letters " LIMIT ".toList * digits *
    (1 + (gap * letter ',' * gap + letters " OFFSET ".toList) * digits)

/-- A new name for a column of the answer. -/
def newName : Language Segment := 1 + letters " AS ".toList * lex.name

/-- Columns from a single table. -/
def columnsQuery : Language Segment :=
  letters "SELECT ".toList * (1 + letters "DISTINCT ".toList) *
    (letter '*' + commaList (column lex * newName lex)) * letters " FROM ".toList * lex.name *
    whereClause lex * orderClause lex * limitClause

/-- The number of rows of a single table. -/
def countQuery : Language Segment :=
  letters "SELECT ".toList * letters "COUNT".toList * gap * letter '(' * gap *
    (letter '*' + column lex) * gap * letter ')' * newName lex * letters " FROM ".toList *
    lex.name * whereClause lex

/-- A query of either shape. -/
def query : Language Segment := columnsQuery lex + countQuery lex

end Lexicon

end Grammar

/-- The lexicon of the default patterns: an optional backtick on either side of a name, and no line
feed after a backslash. -/
def Lexicon.loose : Lexicon where
  name := (1 + Grammar.letter '\x60') * Grammar.plainName * (1 + Grammar.letter '\x60')
  inside mark := (Shape.inside mark.char).language true

/-- The lexicon of the documentation: a name is plain or stands between two backticks, and a literal
ends with the first quote that is neither doubled nor protected by a backslash. -/
def Lexicon.documented : Lexicon where
  name := Grammar.plainName +
    quotedText .backtick (single Grammar.startsName * (single isWordChar)∗)
  inside mark := {t | mark.Encloses t}

/-! ### The cuts that the patterns see -/

/-- The cuts of some items one after the other. -/
def spelled (items : List Expression) : Language Segment :=
  (items.map (·.readings true)).prod

theorem spelled_cons (e : Expression) (items : List Expression) :
    spelled (e :: items) = e.readings true * spelled items := List.prod_cons

theorem spelled_append (front back : List Expression) :
    spelled (front ++ back) = spelled front * spelled back := by
  rw [spelled, List.map_append, List.prod_append]
  rfl

@[simp] theorem spelled_nil : spelled [] = 1 := rfl

theorem spelled_phrase (t : List Char) : spelled (Shape.phrase t) = Grammar.letters t := by
  rw [spelled, Shape.phrase, List.map_map]
  rfl

/-- Whether an expression is a single quote character. -/
def Expression.isQuote : Expression → Bool
  | .char c => (QuoteMark.ofChar? c).isSome
  | _ => false

theorem quotedPart?_seq_of_not_isQuote {a b : Expression} (plain : a.isQuote = false) :
    (Expression.seq a b).quotedPart? = none := by
  cases found : (Expression.seq a b).quotedPart? with
  | none => rfl
  | some part =>
    obtain ⟨mark, inside⟩ := part
    obtain ⟨rfl, -⟩ := Expression.seq.inj (quotedPart?_eq_some found)
    simp [isQuote, QuoteMark.ofChar?_char] at plain

/-- A sequence without a bare quote is seen item by item. -/
theorem readings_seqAll {items : List Expression} (plain : items.all (!·.isQuote) = true) :
    (seqAll items).readings true = spelled items := by
  induction items with
  | nil => rfl
  | cons e rest ih =>
    rw [List.all_cons, Bool.and_eq_true, Bool.not_eq_true'] at plain
    cases rest with
    | nil => rw [seqAll, spelled_cons, spelled_nil, mul_one]
    | cons d more =>
      rw [seqAll, readings_seq (quotedPart?_seq_of_not_isQuote plain.1), ih plain.2, spelled_cons e]
      simp

theorem readings_maybe (e : Expression) :
    (Shape.maybe e).readings true = 1 + e.readings true :=
  repetition_optional _

/-- Alternatives without bare quotes are seen one by one. -/
theorem readings_grouped {choices : List (List Expression)}
    (plain : choices.all (·.all (!·.isQuote)) = true) (nonempty : choices.isEmpty = false) :
    (Shape.grouped choices).readings true = (choices.map spelled).sum := by
  rw [Shape.grouped, readings]
  induction choices with
  | nil => cases nonempty
  | cons items rest ih =>
    obtain ⟨first, others⟩ := Bool.and_eq_true_iff.mp plain
    cases rest with
    | nil =>
      rw [List.map_singleton, List.map_singleton, Shape.choice, readings_seqAll first,
        List.sum_singleton]
    | cons more rest =>
      have unfold : Shape.choice ((items :: more :: rest).map seqAll) =
          .alt (seqAll items) (Shape.choice ((more :: rest).map seqAll)) := rfl
      rw [unfold, readings, readings_seqAll first, ih others rfl]
      exact List.sum_cons.symm

theorem readings_grouped_pair {left right : List Expression}
    (plain : (left ++ right).all (!·.isQuote) = true) :
    (Shape.grouped [left, right]).readings true = spelled left + spelled right := by
  have each : [left, right].all (·.all (!·.isQuote)) = true := by simpa using plain
  rw [readings_grouped each rfl, List.map_cons, List.map_singleton, List.sum_cons,
    List.sum_singleton]

theorem readings_optional {items : List Expression} (plain : items.all (!·.isQuote) = true) :
    (Shape.optional items).readings true = 1 + spelled items := by
  rw [Shape.optional, readings_maybe, readings_grouped (by simpa using plain) rfl,
    List.map_singleton, List.sum_singleton]

theorem readings_anyNumber {items : List Expression} (plain : items.all (!·.isQuote) = true) :
    (Shape.anyNumber items).readings true = (spelled items)∗ := by
  rw [Shape.anyNumber, readings, repetition_zero, readings_grouped (by simpa using plain) rfl,
    List.map_singleton, List.sum_singleton]

/-! #### Names and numbers -/

theorem readings_char (c : Char) : (Expression.char c).readings true = Grammar.letter c := rfl

theorem readings_gap : Shape.gap.readings true = Grammar.gap := readings_maybe _

theorem readings_wordChar :
    (Expression.oneOf false [.category .word false]).readings true = codeSingle isWordChar := by
  simp [readings, Subject.inClass, onlyMember?, Subject.hasItem, Category.contains]

theorem readings_digit :
    (Expression.oneOf false [.category .digit false]).readings true =
      codeSingle isDecimalDigit := by
  simp [readings, Subject.inClass, onlyMember?, Subject.hasItem, Category.contains]

theorem readings_startsName :
    (Expression.oneOf true [.category .word true, .category .digit false]).readings true =
      codeSingle Grammar.startsName := by
  have same : (fun c => (bare true).inClass [.category .word true, .category .digit false] c !=
      true) = Grammar.startsName := by
    funext c
    simp [Subject.inClass, onlyMember?, Subject.hasItem, Category.contains, Grammar.startsName]
  rw [readings, same]

theorem readings_digits : Shape.digits.readings true = Grammar.digits := by
  rw [Shape.digits, readings, repetition_one, readings_digit, Grammar.digits]

theorem spelled_name : spelled Shape.name = Lexicon.loose.name := by
  simp only [Shape.name, spelled_cons, spelled_nil, readings_maybe, readings_char,
    readings_startsName, mul_one, Lexicon.loose, Grammar.plainName, mul_assoc]
  rw [readings, repetition_zero, readings_wordChar]

theorem spelled_number : spelled Shape.number = Grammar.number := by
  rw [Shape.number, spelled_cons, spelled_cons, spelled_cons, spelled_nil, readings_maybe,
    readings_char, readings_digits, readings_optional (by decide), spelled_cons, spelled_cons,
    spelled_nil, readings_char, readings_digits, mul_one, mul_one, Grammar.number, mul_assoc]

theorem spelled_column : spelled Shape.column = Grammar.column .loose := by
  rw [Shape.column, spelled_append, spelled_cons, spelled_nil, readings_optional (by decide),
    spelled_cons, spelled_name, readings_char, mul_one, Grammar.column]

/-! #### Values and conditions -/

theorem readings_literal (mark : QuoteMark) :
    (seqAll (Shape.literal mark.char)).readings true =
      quotedText mark (Lexicon.loose.inside mark) := by
  have whole : seqAll (Shape.literal mark.char) =
      .seq (.char mark.char) (.seq (Shape.inside mark.char) (.char mark.char)) := rfl
  have part : (seqAll (Shape.literal mark.char)).quotedPart? =
      some (mark, Shape.inside mark.char) := by
    rw [whole, quotedPart?, if_pos rfl, QuoteMark.ofChar?_char, Option.map_some]
  rw [whole] at part ⊢
  rw [readings, part]
  rfl

theorem readings_value : Shape.value.readings true = Grammar.value .loose := by
  have plainNumber : (seqAll Shape.number).readings true = Grammar.number := by
    rw [readings_seqAll (by decide), spelled_number]
  have plainColumn : (seqAll Shape.column).readings true = Grammar.column .loose := by
    rw [readings_seqAll (by decide), spelled_column]
  have single : (seqAll (Shape.literal '\x27')).readings true =
      quotedText .single (Lexicon.loose.inside .single) := readings_literal .single
  have double : (seqAll (Shape.literal '\x22')).readings true =
      quotedText .double (Lexicon.loose.inside .double) := readings_literal .double
  simp only [Shape.value, Shape.grouped, List.map, Shape.choice, readings, plainNumber, plainColumn,
    single, double, Grammar.value, Grammar.literal, add_assoc]

theorem readings_operator : Shape.operator.readings true = Grammar.operator := by
  rw [Shape.operator, readings_grouped (by decide) (by decide)]
  simp only [List.map, List.sum_cons, List.sum_nil, add_zero, spelled_phrase, Grammar.operator,
    add_assoc]

theorem readings_negation : Shape.negation.readings true = Grammar.negation := by
  rw [Shape.negation, readings_optional (by decide), spelled_phrase, Grammar.negation]

theorem spelled_commaList {element : List Expression} {L : Language Segment}
    (plain : element.all (!·.isQuote) = true) (same : spelled element = L) :
    spelled (Shape.commaList element) = Grammar.commaList L := by
  have plainAfter : ([Shape.gap, .char ',', Shape.gap] ++ element).all (!·.isQuote) = true := plain
  rw [Shape.commaList, spelled_append, spelled_cons, spelled_nil, readings_anyNumber plainAfter,
    mul_one, same]
  simp only [spelled_append, spelled_cons, spelled_nil, readings_gap, readings_char, same, mul_one,
    Grammar.commaList, mul_assoc]

theorem readings_condition : Shape.condition.readings true = Grammar.condition .loose := by
  have value : spelled [Shape.value] = Grammar.value .loose := by
    rw [spelled_cons, spelled_nil, mul_one, readings_value]
  rw [Shape.condition, readings_grouped (by decide) (by decide)]
  simp only [List.map, List.sum_cons, List.sum_nil, add_zero, spelled_append, spelled_cons,
    spelled_nil, spelled_phrase, spelled_column, readings_gap, readings_operator, readings_value,
    readings_negation, readings_char, spelled_commaList (by decide) value, Grammar.condition,
    mul_one, mul_assoc, add_assoc]

/-! #### Clauses and queries -/

theorem readings_whereClause : Shape.whereClause.readings true = Grammar.whereClause .loose := by
  have joins : (Shape.grouped [Shape.phrase "AND".toList, Shape.phrase "OR".toList]).readings true =
      Grammar.letters "AND".toList + Grammar.letters "OR".toList := by
    rw [readings_grouped_pair (by decide), spelled_phrase, spelled_phrase]
  rw [Shape.whereClause, readings_optional (by decide)]
  simp only [spelled_append, spelled_cons, spelled_nil, spelled_phrase, readings_condition]
  rw [readings_anyNumber (by decide)]
  simp only [spelled_append, spelled_cons, spelled_nil, spelled_phrase, readings_condition, joins,
    Grammar.whereClause, mul_one, mul_assoc]

theorem spelled_sortKey : spelled Shape.sortKey = Grammar.sortKey .loose := by
  have directions : (Shape.grouped [Shape.phrase "ASC".toList, Shape.phrase "DESC".toList]).readings
      true = Grammar.letters "ASC".toList + Grammar.letters "DESC".toList := by
    rw [readings_grouped_pair (by decide), spelled_phrase, spelled_phrase]
  rw [Shape.sortKey, spelled_append, spelled_column, spelled_cons, spelled_nil, mul_one,
    readings_optional (by decide), spelled_append, spelled_phrase, spelled_cons, spelled_nil,
    directions, mul_one, Grammar.sortKey]

theorem readings_orderClause : Shape.orderClause.readings true = Grammar.orderClause .loose := by
  rw [Shape.orderClause, readings_optional (by decide), spelled_append, spelled_phrase,
    spelled_commaList (by decide) spelled_sortKey, Grammar.orderClause]

theorem readings_limitClause : Shape.limitClause.readings true = Grammar.limitClause := by
  have separators : (Shape.grouped [[Shape.gap, .char ',', Shape.gap],
      Shape.phrase " OFFSET ".toList]).readings true =
      Grammar.gap * Grammar.letter ',' * Grammar.gap + Grammar.letters " OFFSET ".toList := by
    rw [readings_grouped_pair (by decide), spelled_phrase]
    simp only [spelled_cons, spelled_nil, readings_gap, readings_char, mul_one, mul_assoc]
  rw [Shape.limitClause, readings_optional (by decide), spelled_append, spelled_phrase,
    spelled_cons, spelled_cons, spelled_nil, readings_digits, readings_optional (by decide),
    spelled_cons, spelled_cons, spelled_nil, separators, readings_digits]
  simp only [Grammar.limitClause, mul_one, mul_assoc]

theorem readings_newName : Shape.newName.readings true = Grammar.newName .loose := by
  rw [Shape.newName, readings_optional (by decide), spelled_append, spelled_phrase, spelled_name,
    Grammar.newName]

/-- The cuts that the first default pattern sees. -/
theorem readings_columnsQuery :
    (seqAll Shape.columnsQuery).readings true = Grammar.columnsQuery .loose := by
  have answer : spelled (Shape.column ++ [Shape.newName]) =
      Grammar.column .loose * Grammar.newName .loose := by
    rw [spelled_append, spelled_column, spelled_cons, spelled_nil, readings_newName, mul_one]
  have columns :
      (Shape.grouped [[.char '*'], Shape.commaList (Shape.column ++ [Shape.newName])]).readings
        true = Grammar.letter '*' +
          Grammar.commaList (Grammar.column .loose * Grammar.newName .loose) := by
    rw [readings_grouped_pair (by decide), spelled_cons, spelled_nil, readings_char, mul_one,
      spelled_commaList (by decide) answer]
  have distinct : (Shape.optional (Shape.phrase "DISTINCT ".toList)).readings true =
      1 + Grammar.letters "DISTINCT ".toList := by
    rw [readings_optional (by decide), spelled_phrase]
  rw [readings_seqAll (by decide), Shape.columnsQuery]
  simp only [spelled_append, spelled_cons, spelled_nil, spelled_phrase, spelled_name, columns,
    distinct, readings_whereClause, readings_orderClause, readings_limitClause,
    Grammar.columnsQuery, mul_one, mul_assoc]

/-- The cuts that the second default pattern sees. -/
theorem readings_countQuery :
    (seqAll Shape.countQuery).readings true = Grammar.countQuery .loose := by
  have counted : (Shape.grouped [[.char '*'], Shape.column]).readings true =
      Grammar.letter '*' + Grammar.column .loose := by
    rw [readings_grouped_pair (by decide), spelled_cons, spelled_nil, readings_char, mul_one,
      spelled_column]
  rw [readings_seqAll (by decide), Shape.countQuery]
  simp only [spelled_append, spelled_cons, spelled_nil, spelled_phrase, spelled_name, counted,
    readings_gap, readings_char, readings_newName, readings_whereClause, Grammar.countQuery,
    mul_one, mul_assoc]

end QueryGate.Pattern
