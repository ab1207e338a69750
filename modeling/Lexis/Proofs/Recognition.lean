import Lexis.Source.LineReader
import Lexis.Proofs.Sessions

/-!
# Recognising operators and knowing their spellings

An operator is recognised by a look-up on its characters, and the kind of its token comes
from the table, which knows it by its spelling. The two are written down apart. They agree
on every text: a text is recognised as an operator exactly when it is spelled like it
(`Operator.map_ofChars?_eq_some_iff`).

That carries over to sessions because a text is looked at in one way only. A scan
dispatches on the first character, and no operator starts like a word or with a digit. So
a lexeme looks like an operator exactly when its text is recognised as that operator
(`Lexeme.Scanned.ofChars?_eq_some_iff`). In a table that sessions alone have filled
(`SymbolTable.Lexed`) the kind of every text is the one it has by itself, and the token
comes back as the operator that was recognised (`Session.operators_agree`).
-/

namespace Lexis

set_option autoImplicit false

namespace Operator

/-- **A text is recognised as an operator exactly when it is its spelling.** -/
theorem ofChars?_eq_some_iff {text : List Char} {mark : Operator} :
    ofChars? text = some mark ↔ String.ofList text = mark.spelling := by
  constructor
  · exact spelling_of_ofChars?
  · intro spelled
    rw [← ofChars?_spelling mark, ← spelled, String.toList_ofList]

/-- What is recognised is a kind of the list of operators, with the text as its spelling. -/
theorem map_ofChars?_eq_some_iff (text : String) (kind : Kind) :
    (ofChars? text.toList).map Kind.operator = some kind ↔
      kind ∈ Kind.operators ∧ kind.spelling? = some text := by
  rw [Option.map_eq_some_iff, Kind.operators, List.mem_map]
  constructor
  · rintro ⟨mark, recognised, rfl⟩
    refine ⟨⟨mark, mark.mem_all, rfl⟩, ?_⟩
    rw [Kind.spelling?, ← ofChars?_eq_some_iff.mp recognised, String.ofList_toList]
  · rintro ⟨⟨mark, _, rfl⟩, spelled⟩
    refine ⟨mark, ofChars?_eq_some_iff.mpr ?_, rfl⟩
    rw [String.ofList_toList]
    exact (Option.some.inj spelled).symm

/-- No operator starts like a word or with a digit. -/
theorem ofChars?_eq_none {text : List Char}
    (other : text.head?.any fun first => startsWord first || isDigit first) :
    ofChars? text = none := by
  cases recognised : ofChars? text with
  | none => rfl
  | some mark =>
    have spelled := congrArg String.toList (spelling_of_ofChars? recognised)
    rw [String.toList_ofList] at spelled
    have noWord := Kind.not_startsWord_operator mark
    have noDigit := Kind.not_isDigit_reserved _
      (Kind.mem_of_ofReserved? (Kind.ofReserved?_operator mark))
    rw [← spelled] at noWord noDigit
    cases text with
    | nil => cases other
    | cons first later =>
      rw [List.head?_cons, Option.any_some] at other noWord noDigit
      rw [noWord, noDigit] at other
      cases other

/-- No operator is spelled like a keyword. -/
theorem ofChars?_keyword (word : Keyword) : ofChars? word.spelling.toList = none := by
  cases word <;> rfl

end Operator

/-- Only a text that is spelled like an operator has its kind. -/
theorem Kind.ofText_eq_operator_iff {text : String} {mark : Operator} :
    ofText text = .operator mark ↔ text = mark.spelling := by
  constructor
  · intro kind
    unfold ofText at kind
    cases fixed : ofReserved? text with
    | none =>
      rw [fixed, Option.getD_none] at kind
      unfold shape ofDigits at kind
      repeat' split at kind
      all_goals cases kind
    | some found =>
      rw [fixed, Option.getD_some] at kind
      rcases eq_of_ofReserved? fixed with ⟨_, ends⟩ | ⟨_, _, word⟩ | ⟨other, spelled, same⟩
      · cases ends.symm.trans kind
      · cases word.symm.trans kind
      · cases same.symm.trans kind
        exact spelled
  · rintro rfl
    rw [ofText, ofReserved?_operator, Option.getD_some]

/-- **What scanning finds looks like an operator exactly when its text is recognised as
that operator.** -/
theorem Lexeme.Scanned.ofChars?_eq_some_iff {text : List Char} {looks : Kind}
    (scanned : Scanned text looks) (mark : Operator) :
    Operator.ofChars? text = some mark ↔ looks = .operator mark := by
  cases scanned with
  | word more starts =>
    rw [Operator.ofChars?_eq_none (by simp [starts])]
    exact ⟨nofun, nofun⟩
  | literal other digit shape =>
    rw [Operator.ofChars?_eq_none (by simp [digit])]
    refine ⟨nofun, ?_⟩
    rintro rfl
    rw [Kind.shape, if_neg (by simpa using other), Kind.ofDigits] at shape
    repeat' split at shape
    all_goals cases shape
  | operator recognised => rw [recognised, Option.some_inj, Kind.operator.injEq]

/-! ## What tables answer -/

/-- Tables that know the reserved texts and what sessions have registered, whatever these
read and in whatever order they were pulled from. -/
inductive SymbolTable.Lexed : SymbolTable → Prop
  | new (number : Nat) : Lexed (.new number)
  | next {σ : Type} [Source σ] {table : SymbolTable} (session : Session σ) :
      Lexed table → Lexed (session.next table).table

theorem SymbolTable.Lexed.spelled {table : SymbolTable} (lexed : table.Lexed) :
    table.Spelled := by
  induction lexed with
  | new number => exact spelled_new number
  | next session _ ih => exact session.spelled_next ih

namespace Session

/-- **Operators are recognised as what they are spelled like.** For every text and kind,
the text is recognised as an operator of that kind exactly when the kind is in the list of
operators and has the text as its spelling. What is spelled like a keyword, or starts like
a word or with a digit, is not recognised.

Now take any session with a table that sessions alone have filled, and a call in which it
finds a lexeme. The scan takes the text for an operator exactly when it is recognised as
such, so no text of a word or of a literal is. The token has the text, and the table
answers the kind of an operator exactly when the scan took the text for it. -/
theorem operators_agree :
    (∀ (text : String) (kind : Kind),
      (Operator.ofChars? text.toList).map Kind.operator = some kind ↔
        kind ∈ Kind.operators ∧ kind.spelling? = some text) ∧
    (∀ word : Keyword, Operator.ofChars? word.spelling.toList = none) ∧
    (∀ text : List Char, (text.head?.any fun first => startsWord first || isDigit first) →
      Operator.ofChars? text = none) ∧
    ∀ {σ : Type} [Source σ] (session : Session σ) {table : SymbolTable} {start : Position}
      {text : List Char} {looks : Kind} {input : Lookahead σ},
      table.Lexed → session.ending = none →
      session.input.scan session.policy = (.lexeme start text looks, input) →
        let token := (session.next table).token
        token.text = String.ofList text ∧ ∀ mark : Operator,
          (looks = .operator mark ↔ Operator.ofChars? text = some mark) ∧
            (token.kind = .operator mark ↔ looks = .operator mark) := by
  refine ⟨Operator.map_ofChars?_eq_some_iff, Operator.ofChars?_keyword,
    fun _ other => Operator.ofChars?_eq_none other, ?_⟩
  intro σ _ session table start text looks input lexed running found token
  have scanned : (session.input.outlook.scan session.policy).1 = .lexeme start text looks := by
    rw [← (session.input.scan_eq session.policy).1, found]
  have pulled : token = (table.issue ⟨start, text, looks⟩).1 := by
    simp only [token, next_of_lexeme running found]
  have kind : token.kind = Kind.ofText (String.ofList text) := by
    rw [pulled]
    exact SymbolTable.kind_issue lexed.spelled (spelled_of_scan found)
  refine ⟨by rw [pulled, SymbolTable.text_issue], fun mark => ?_⟩
  have recognised := (Outlook.scanned_of_scan scanned).ofChars?_eq_some_iff mark
  refine ⟨recognised.symm, ?_⟩
  rw [kind, Kind.ofText_eq_operator_iff, ← recognised, Operator.ofChars?_eq_some_iff]

/-- A pair of characters that is an operator, in a table that knows the word behind it
from another session. -/
theorem operators_agree_pair :
    let session := new (LineReader.ofText "<=rate") {}
    let table := ((new (LineReader.ofText "rate 1/2") {}).next (.new 0)).table
    let token := (session.next table).token
    table.size = 42 ∧ Operator.ofChars? ['<', '='] = some .lessEqual ∧ token.text = "<=" ∧
      token.kind = .operator .lessEqual := by
  intro session table token
  have lexed : table.Lexed := .next (new (LineReader.ofText "rate 1/2") {}) (.new 0)
  have first : (session.input.scan session.policy).1 =
      .lexeme ⟨1, 1⟩ ['<', '='] (.operator .lessEqual) := by decide +kernel
  obtain ⟨text, kinds⟩ := operators_agree.2.2.2 session lexed rfl (Prod.ext first rfl)
  obtain ⟨recognised, kind⟩ := kinds .lessEqual
  exact ⟨by decide +kernel, recognised.mp rfl, text, kind.mpr rfl⟩

end Session

end Lexis
