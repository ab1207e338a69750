import Lexis.Proofs.Scanning
import Mathlib.Data.List.TakeWhile

/-!
# The kind of a text

The text of a lexeme has its kind by itself, whatever the policy and wherever it
stands (`Kind.ofText`): a reserved text has its fixed kind, a text that starts
like a word is a word, and the digits of a literal are followed by nothing, by a
point, or by a separator. What scanning finds agrees with that
(`Outlook.spelled_of_scan`), because the spellings of words, literals and
operators do not overlap.
-/

namespace Lexis

set_option autoImplicit false

namespace Operator

theorem spelling_of_ofChar? {char : Char} {mark : Operator} (found : ofChar? char = some mark) :
    String.ofList [char] = mark.spelling := by
  unfold ofChar? at found
  split at found
  all_goals cases found
  all_goals rfl

theorem spelling_of_ofPair? {first second : Char} {mark : Operator}
    (found : ofPair? first second = some mark) :
    String.ofList [first, second] = mark.spelling := by
  unfold ofPair? at found
  split at found
  all_goals cases found
  all_goals rfl

/-- The characters of an operator are its spelling. -/
theorem spelling_of_ofChars? {text : List Char} {mark : Operator}
    (found : ofChars? text = some mark) : String.ofList text = mark.spelling := by
  unfold ofChars? at found
  split at found
  · exact spelling_of_ofChar? found
  · exact spelling_of_ofPair? found
  · cases found

theorem ofChars?_spelling (mark : Operator) : ofChars? mark.spelling.toList = some mark := by
  cases mark <;> rfl

theorem mem_all (mark : Operator) : mark ∈ all := by
  cases mark <;> decide

/-- The operator that is spelled so. -/
def spelled? (text : List Char) : Option Operator :=
  all.find? fun mark => mark.spelling.toList == text

/-- **Recognising an operator by its characters is looking its spelling up.** -/
theorem spelled?_eq (text : List Char) : spelled? text = ofChars? text := by
  cases found : spelled? text with
  | some mark =>
    have same : mark.spelling.toList = text := by simpa using List.find?_some found
    rw [← same, ofChars?_spelling]
  | none =>
    cases recognised : ofChars? text with
    | none => rfl
    | some mark =>
      have other := List.find?_eq_none.mp found mark (mem_all mark)
      rw [← spelling_of_ofChars? recognised, String.toList_ofList] at other
      exact absurd (beq_self_eq_true text) other

end Operator

theorem Keyword.mem_all (word : Keyword) : word ∈ all := by
  cases word <;> decide

namespace Kind

/-! ## Reserved texts -/

theorem ofReserved?_keyword (word : Keyword) :
    ofReserved? word.spelling = some (.keyword word) := by
  cases word <;> rfl

theorem ofReserved?_operator (mark : Operator) :
    ofReserved? mark.spelling = some (.operator mark) := by
  cases mark <;> rfl

theorem ofReserved?_of_mem : ∀ entry ∈ reserved, ofReserved? entry.1 = some entry.2 := by
  decide +kernel

/-- No text is reserved twice. -/
theorem nodup_reserved : (reserved.map Prod.fst).Nodup := by
  decide +kernel

theorem mem_of_ofReserved? {text : String} {kind : Kind} (found : ofReserved? text = some kind) :
    (text, kind) ∈ reserved := by
  obtain ⟨before, after, whole, _⟩ := List.lookup_eq_some_iff.mp found
  rw [whole]
  exact List.mem_append_right _ List.mem_cons_self

/-- A reserved text is empty, or a keyword, or an operator. -/
theorem eq_of_ofReserved? {text : String} {kind : Kind} (found : ofReserved? text = some kind) :
    (text = "" ∧ kind = .endOfInput) ∨
      (∃ word : Keyword, text = word.spelling ∧ kind = .keyword word) ∨
      ∃ mark : Operator, text = mark.spelling ∧ kind = .operator mark := by
  have member := mem_of_ofReserved? found
  simp only [reserved, List.cons_append, List.mem_cons, List.mem_append, List.mem_map,
    Prod.mk.injEq] at member
  rcases member with empty | ⟨word, _, text, kind⟩ | ⟨mark, _, text, kind⟩
  · exact .inl empty
  · exact .inr (.inl ⟨word, text.symm, kind.symm⟩)
  · exact .inr (.inr ⟨mark, text.symm, kind.symm⟩)

theorem not_startsWord_operator (mark : Operator) :
    mark.spelling.toList.head?.any startsWord = false := by
  cases mark <;> decide +kernel

theorem not_isDigit_reserved : ∀ entry ∈ reserved, entry.1.toList.head?.any isDigit = false := by
  decide +kernel

/-- A text that starts like a word is reserved only as a keyword. -/
theorem ofReserved?_of_startsWord {text : String} (starts : text.toList.head?.any startsWord) :
    ofReserved? text = (Keyword.all.find? (·.spelling == text)).map .keyword := by
  cases found : Keyword.all.find? (·.spelling == text) with
  | some word =>
    have same : word.spelling = text := by simpa using List.find?_some found
    rw [← same]
    exact ofReserved?_keyword word
  | none =>
    cases fixed : ofReserved? text with
    | none => rfl
    | some kind =>
      rcases eq_of_ofReserved? fixed with ⟨rfl, _⟩ | ⟨word, rfl, _⟩ | ⟨mark, rfl, _⟩
      · cases starts
      · have other := List.find?_eq_none.mp found word word.mem_all
        exact absurd (beq_self_eq_true _) other
      · rw [not_startsWord_operator] at starts
        cases starts

/-- A text that starts with a digit is not reserved. -/
theorem ofReserved?_of_isDigit {text : String} (digit : text.toList.head?.any isDigit) :
    ofReserved? text = none := by
  cases fixed : ofReserved? text with
  | none => rfl
  | some kind =>
    rw [not_isDigit_reserved _ (mem_of_ofReserved? fixed)] at digit
    cases digit

/-! ## Kinds by spelling -/

/-- The kind of a text that starts with digits, by what follows them. -/
def ofDigits (text : List Char) : Kind :=
  match text.dropWhile isDigit with
  | [] => .integer
  | mark :: _ => if mark = '.' then .decimal else .date

/-- The kind that a text looks like. -/
def shape (text : List Char) : Kind :=
  if text.head?.any startsWord then .identifier else ofDigits text

/-- The kind of a text, wherever it is scanned. -/
def ofText (text : String) : Kind :=
  (ofReserved? text).getD (shape text.toList)

theorem ofDigits_of_digits {digits : List Char} (all : ∀ char ∈ digits, isDigit char = true) :
    ofDigits digits = .integer := by
  rw [ofDigits, List.dropWhile_eq_nil_iff.mpr all]

theorem ofDigits_append_cons {digits : List Char} (all : ∀ char ∈ digits, isDigit char = true)
    {mark : Char} (other : isDigit mark = false) (later : List Char) :
    ofDigits (digits ++ mark :: later) = if mark = '.' then .decimal else .date := by
  rw [ofDigits, List.dropWhile_append_of_pos all, List.dropWhile_cons_of_neg (by simp [other])]

theorem shape_ne_endOfInput (text : List Char) : shape text ≠ .endOfInput := by
  unfold shape ofDigits
  repeat' split
  all_goals exact nofun

/-- Only the empty text marks the end of the program. -/
theorem ofText_eq_endOfInput_iff {text : String} : ofText text = .endOfInput ↔ text = "" := by
  constructor
  · intro marks
    unfold ofText at marks
    cases fixed : ofReserved? text with
    | none =>
      rw [fixed] at marks
      exact absurd marks (shape_ne_endOfInput _)
    | some kind =>
      rw [fixed] at marks
      obtain rfl : kind = .endOfInput := marks
      rcases eq_of_ofReserved? fixed with ⟨empty, _⟩ | ⟨_, _, other⟩ | ⟨_, _, other⟩
      · exact empty
      · cases other
      · cases other
  · rintro rfl
    rfl

end Kind

/-- What is accepted of a candidate: the leading digits as an integer, or more
than those as what the character after them announces. -/
theorem Literal.judge_accept_cases {policy : Policy} {text : List Char} {length : Nat}
    {kind : Kind} (accepted : judge policy text = .accept length kind) :
    (length = (text.takeWhile isDigit).length ∧ kind = .integer) ∨
      ∃ mark afterMark, text.dropWhile isDigit = mark :: afterMark ∧
        (text.takeWhile isDigit).length < length ∧
        kind = if mark = '.' then .decimal else .date := by
  have dangles {gathered : Nat} (accepted : dangling policy (text.takeWhile isDigit).length
      gathered = .accept length kind) :
      length = (text.takeWhile isDigit).length ∧ kind = .integer := by
    unfold dangling at accepted
    split at accepted <;> cases accepted
    exact ⟨rfl, rfl⟩
  unfold judge at accepted
  dsimp only at accepted
  split at accepted
  · cases accepted
    exact .inl ⟨rfl, rfl⟩
  · rename_i mark afterMark rest
    split at accepted
    · exact .inl (dangles accepted)
    · split at accepted
      · rename_i point
        cases accepted
        exact .inr ⟨mark, afterMark, rest, by omega, (if_pos point).symm⟩
      · rename_i separator
        split at accepted
        · exact .inl (dangles accepted)
        · split at accepted
          · exact .inl (dangles accepted)
          · split at accepted <;> cases accepted
            exact .inr ⟨mark, afterMark, rest, by omega, (if_neg separator).symm⟩

/-- A literal looks like what it was accepted as. -/
theorem Kind.ofDigits_of_accept {policy : Policy} {text : List Char} {length : Nat} {kind : Kind}
    (accepted : Literal.judge policy text = .accept length kind) :
    ofDigits (text.take length) = kind := by
  have whole := List.takeWhile_append_dropWhile (p := isDigit) (l := text)
  have all : ∀ char ∈ text.takeWhile isDigit, isDigit char = true := fun char member =>
    List.mem_takeWhile_imp member
  rcases Literal.judge_accept_cases accepted with
    ⟨rfl, rfl⟩ | ⟨mark, afterMark, rest, further, rfl⟩
  · conv => lhs; arg 1; arg 2; rw [← whole]
    rw [List.take_left]
    exact ofDigits_of_digits all
  · have other : isDigit mark = false := by
      simpa [rest] using List.head?_dropWhile_not isDigit text
    obtain ⟨more, rfl⟩ := Nat.exists_eq_add_of_lt further
    conv => lhs; arg 1; arg 2; rw [← whole]
    rw [rest, Nat.add_assoc, List.take_length_add_append, List.take_succ_cons]
    exact ofDigits_append_cons all other _

/-- What is accepted at the front of a text starts with its first digit and has
the shape of its kind. -/
theorem Kind.shape_of_accept {policy : Policy} {first : Char} {later : List Char} {length : Nat}
    {kind : Kind} (other : ¬startsWord first) (digit : isDigit first)
    (accepted : Literal.judge policy (Literal.candidate (first :: later)) = .accept length kind) :
    ∃ more, (Literal.candidate (first :: later)).take length = first :: more ∧
      shape (first :: more) = kind := by
  obtain ⟨more, candidate⟩ := Literal.candidate_cons digit later
  have looks := ofDigits_of_accept accepted
  obtain ⟨length, rfl⟩ := Nat.exists_eq_succ_of_ne_zero
    (Nat.ne_of_gt (Literal.length_pos_of_accept digit accepted))
  rw [candidate, List.take_succ_cons] at looks ⊢
  exact ⟨_, rfl, (if_neg (by simpa using other)).trans looks⟩

/-! ## The kinds that scanning finds -/

/-- A lexeme has a text, and the kind that a table gives to the text is the one
it has by itself. -/
structure Lexeme.Spelled (lexeme : Lexeme) : Prop where
  nonempty : lexeme.text ≠ []
  kind : (Kind.ofReserved? (String.ofList lexeme.text)).getD lexeme.kind =
    Kind.ofText (String.ofList lexeme.text)

theorem Lexeme.spelled_of_shape {lexeme : Lexeme} (nonempty : lexeme.text ≠ [])
    (shape : Kind.shape lexeme.text = lexeme.kind) : lexeme.Spelled where
  nonempty
  kind := by rw [Kind.ofText, String.toList_ofList, shape]

/-- What scanning finds: a text that starts like a word, a literal that starts with a digit,
or what is recognised as an operator. -/
inductive Lexeme.Scanned : List Char → Kind → Prop
  | word {first : Char} (more : List Char) : startsWord first →
      Scanned (first :: more) .identifier
  | literal {first : Char} {more : List Char} {kind : Kind} : ¬startsWord first →
      isDigit first → Kind.shape (first :: more) = kind → Scanned (first :: more) kind
  | operator {text : List Char} {mark : Operator} : Operator.ofChars? text = some mark →
      Scanned text (.operator mark)

/-- What scanning finds has the kind that its text has by itself. -/
theorem Lexeme.Scanned.spelled {text : List Char} {kind : Kind} (scanned : Scanned text kind)
    (start : Position) : Lexeme.Spelled ⟨start, text, kind⟩ := by
  cases scanned with
  | word more starts => exact spelled_of_shape (List.cons_ne_nil _ _) (if_pos starts)
  | literal _ _ shape => exact spelled_of_shape (List.cons_ne_nil _ _) shape
  | operator recognised =>
    have spelling := Operator.spelling_of_ofChars? recognised
    refine ⟨?_, ?_⟩
    · rintro rfl
      cases recognised
    · simp only [Kind.ofText, spelling, Kind.ofReserved?_operator, Option.getD_some]

namespace Outlook

variable {outlook next : Outlook} {policy : Policy} {start : Position} {text : List Char}
  {kind : Kind}

theorem scanned_of_word {first : Located} {later : List Located}
    (shown : outlook.characters = first :: later) (starts : startsWord first.char)
    (found : (outlook.word first).1 = .lexeme start text kind) : Lexeme.Scanned text kind := by
  have run : chars (outlook.characters.takeWhile fun next => continuesWord next.char) =
      first.char :: chars (later.takeWhile fun next => continuesWord next.char) := by
    simp [shown, chars, continuesWord_of_startsWord starts]
  rw [word, run] at found
  cases found
  exact .word _ starts

theorem scanned_of_literal {first : Located} {later : List Located}
    (shown : outlook.characters = first :: later) (other : ¬startsWord first.char)
    (digit : isDigit first.char)
    (found : (outlook.literal policy first).1 = .lexeme start text kind) :
    Lexeme.Scanned text kind := by
  unfold literal at found
  dsimp only at found
  rw [shown, show chars (first :: later) = first.char :: chars later from rfl] at found
  split at found <;> rename_i length _ accepted <;> cases found
  obtain ⟨more, begins, shape⟩ := Kind.shape_of_accept other digit accepted
  rw [begins]
  exact .literal other digit shape

theorem scanned_of_operator {first : Located}
    (found : (outlook.operator first).1 = some (.lexeme start text kind)) :
    Lexeme.Scanned text kind := by
  unfold operator at found
  dsimp only at found
  split at found
  · cases found
  · cases found
  · rename_i recognised
    cases found
    exact .operator recognised

theorem scanned_of_pass (found : outlook.pass policy = (some (.lexeme start text kind), next)) :
    Lexeme.Scanned text kind := by
  have found := congrArg Prod.fst found
  cases outlook.passCase policy with
  | nil _ passed =>
    rw [passed] at found
    cases found
  | word shown starts passed =>
    rw [passed] at found
    exact scanned_of_word shown starts (Option.some.inj found)
  | literal shown other digit passed =>
    rw [passed] at found
    exact scanned_of_literal shown other digit (Option.some.inj found)
  | operator _ _ _ passed =>
    rw [passed] at found
    exact scanned_of_operator found

theorem scanned_of_scan (found : (outlook.scan policy).1 = .lexeme start text kind) :
    Lexeme.Scanned text kind := by
  fun_induction scan outlook policy with
  | case1 outlook finding after passed =>
    cases found
    exact scanned_of_pass passed
  | case2 outlook after passed ih => exact ih found

/-- **What scanning finds has the kind that its text has by itself.** -/
theorem spelled_of_scan (found : (outlook.scan policy).1 = .lexeme start text kind) :
    Lexeme.Spelled ⟨start, text, kind⟩ :=
  (scanned_of_scan found).spelled start

theorem spelled_of_lexemes (outlook : Outlook) (policy : Policy) :
    ∀ lexeme ∈ (outlook.lexemes policy).1, lexeme.Spelled := by
  intro lexeme member
  rcases found : outlook.scan policy with ⟨⟨start, text, kind⟩ | ending, next⟩
  · have fewer := length_lt_of_scan found
    rw [lexemes_of_lexeme found, List.mem_cons] at member
    rcases member with rfl | later
    · exact spelled_of_scan (congrArg Prod.fst found)
    · exact spelled_of_lexemes next policy lexeme later
  · rw [lexemes_of_over found] at member
    cases member
termination_by outlook.characters.length

end Outlook

end Lexis
