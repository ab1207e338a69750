import Lexis.Proofs.Transcripts

/-!
# What stands at the front of a text

The tokenizer decides by the front of a text alone what to read next: a blank, a
token, a comment, or something that is no token (`front`).

A blank ends whatever stands before it: no word, no literal and no operator goes
on across it (`front_append_blank`). The texts of tokens are the words, the
literals and the marks (`IsToken`), and a token that has been read is a token by
itself (`IsToken.front_eq`): the part of a candidate that is accepted as a literal
is accepted when nothing follows it.
-/

namespace Lexis

set_option autoImplicit false

/-! ## Blanks -/

namespace Unicode

/-- A code point that is covered lies in one of the runs. -/
theorem exists_mem_of_coversAny {runs : List (Nat × Nat)} {code : Nat}
    (covered : coversAny runs code = true) : ∃ run ∈ runs, run.1 ≤ code ∧ code ≤ run.2 := by
  induction runs with
  | nil => cases covered
  | cons run later ih =>
    rw [coversAny] at covered
    split at covered
    · cases covered
    · rename_i notBefore
      split at covered
      · rename_i notAfter
        exact ⟨run, List.mem_cons_self, Nat.le_of_not_lt notBefore, notAfter⟩
      · obtain ⟨found, member, bounds⟩ := ih covered
        exact ⟨found, List.mem_cons_of_mem _ member, bounds⟩

/-- The characters with the property White_Space. -/
def whiteSpaceChars : List Char :=
  whiteSpace.runs.flatMap fun run => (List.range' run.1 (run.2 + 1 - run.1)).map Char.ofNat

theorem mem_whiteSpaceChars {char : Char} (white : isWhiteSpace char = true) :
    char ∈ whiteSpaceChars := by
  obtain ⟨run, member, first, last⟩ := exists_mem_of_coversAny white
  refine List.mem_flatMap.mpr ⟨run, member, List.mem_map.mpr ⟨char.toNat, ?_, ?_⟩⟩
  · rw [List.mem_range'_1]
    omega
  · exact Char.ofNat_toNat char

end Unicode

section Blanks

variable {blank : Char} (white : isBlank blank)

include white

theorem not_continuesWord_of_isBlank : continuesWord blank = false := by
  have checked : Unicode.whiteSpaceChars.all (fun char => !continuesWord char) = true := by
    decide +kernel
  have other := List.all_eq_true.mp checked blank (Unicode.mem_whiteSpaceChars white)
  simpa using other

/-- A blank belongs to no candidate of a literal. -/
theorem Literal.Phase.step_of_isBlank (phase : Phase) : phase.step blank = none := by
  have checked : Unicode.whiteSpaceChars.all (fun char =>
      !isDigit char && char != '.' && !isDateSeparator char) = true := by
    decide +kernel
  have other := List.all_eq_true.mp checked blank (Unicode.mem_whiteSpaceChars white)
  simp only [Bool.and_eq_true, Bool.not_eq_true', bne_iff_ne] at other
  obtain ⟨⟨digit, point⟩, separator⟩ := other
  cases phase <;> simp [step, digit, point, separator]

/-- A blank is the second character of no operator. -/
theorem Operator.ofPair?_of_isBlank (first : Char) : ofPair? first blank = none := by
  have checked : Unicode.whiteSpaceChars.all (fun char => char != '=' && char != '/') = true := by
    decide +kernel
  have other := List.all_eq_true.mp checked blank (Unicode.mem_whiteSpaceChars white)
  simp only [Bool.and_eq_true, bne_iff_ne] at other
  obtain ⟨equal, slash⟩ := other
  unfold ofPair?
  split <;> first | rfl | exact absurd rfl equal | exact absurd rfl slash

end Blanks

/-! ## Candidates and operators -/

namespace Literal

/-- A candidate is the beginning of its text. -/
theorem candidate_begins (text : List Char) : candidate text <+: text :=
  longest_begins Phase.step .whole text

/-- What is taken of a candidate is taken of its text. -/
theorem take_candidate {text : List Char} {length : Nat}
    (short : length ≤ (candidate text).length) :
    (candidate text).take length = text.take length := by
  obtain ⟨rest, whole⟩ := candidate_begins text
  conv => rhs; rw [← whole]
  exact (List.take_append_of_le_length short).symm

section Verdicts

variable {policy : Policy} {text : List Char} {length : Nat}

theorem take_of_accept {kind : Kind}
    (accepted : judge policy (candidate text) = .accept length kind) :
    (candidate text).take length = text.take length := by
  have short := length_judge_le policy (candidate text)
  rw [accepted] at short
  exact take_candidate short

theorem length_take_of_accept {kind : Kind}
    (accepted : judge policy (candidate text) = .accept length kind) :
    (text.take length).length = length := by
  have short := length_judge_le policy (candidate text)
  rw [accepted] at short
  exact List.length_take_of_le (Nat.le_trans short (candidate_begins text).length_le)

theorem take_of_reject (rejected : judge policy (candidate text) = .reject length) :
    (candidate text).take length = text.take length := by
  have short := length_judge_le policy (candidate text)
  rw [rejected] at short
  exact take_candidate short

end Verdicts

end Literal

namespace Operator

variable {first : Char} {later : List Char} {mark : Operator}

theorem longest?_eq (first : Char) (later : List Char) :
    longest? (first :: later) = ofChars? (munch first later.head?) := by
  rw [longest?, spelled?_eq, spelled?_eq]
  cases later with
  | nil => exact Option.or_self
  | cons second more =>
    show (ofPair? first second).or (ofChar? first) = ofChars? (ite _ _ _)
    cases pair : ofPair? first second with
    | none => rfl
    | some mark => exact pair.symm

/-- What is munched is the spelling of the longest operator. -/
theorem munch_of_some (found : longest? (first :: later) = some mark) :
    munch first later.head? = mark.spelling.toList := by
  rw [longest?_eq] at found
  rw [← spelling_of_ofChars? found, String.toList_ofList]

/-- A single character is munched where there is no operator. -/
theorem munch_of_none (found : longest? (first :: later) = none) :
    munch first later.head? = [first] := by
  rw [longest?_eq] at found
  cases later with
  | nil => rfl
  | cons second more =>
    change ofChars? (ite _ _ _) = none at found
    show ite _ _ _ = [first]
    cases pair : ofPair? first second with
    | none => rfl
    | some mark =>
      rw [pair, if_pos Option.isSome_some, ofChars?, pair] at found
      cases found

/-- What is munched is the beginning of the text. -/
theorem munch_begins (first : Char) (later : List Char) :
    munch first later.head? <+: first :: later := by
  unfold munch
  split
  · rename_i second shown
    obtain ⟨rest, rfl⟩ := List.head?_eq_some_iff.mp shown
    split
    · exact List.prefix_append [first, second] rest
    · exact List.prefix_append [first] (second :: rest)
  · exact List.prefix_append [first] later

/-- The spelling of the longest operator is the beginning of the text. -/
theorem take_of_longest? (found : longest? (first :: later) = some mark) :
    (first :: later).take mark.spelling.toList.length = mark.spelling.toList := by
  have begins := munch_begins first later
  rw [munch_of_some found] at begins
  exact (List.prefix_iff_eq_take.mp begins).symm

end Operator

/-! ## Literals by themselves -/

namespace Literal

section Digits

variable {digits : List Char} (all : ∀ char ∈ digits, isDigit char = true)

include all

theorem takeWhile_digits {mark : Char} (other : isDigit mark = false) (later : List Char) :
    (digits ++ mark :: later).takeWhile isDigit = digits := by
  rw [List.takeWhile_append_of_pos all, List.takeWhile_cons_of_neg (by simp [other]),
    List.append_nil]

theorem dropWhile_digits {mark : Char} (other : isDigit mark = false) (later : List Char) :
    (digits ++ mark :: later).dropWhile isDigit = mark :: later := by
  rw [List.dropWhile_append_of_pos all, List.dropWhile_cons_of_neg (by simp [other])]

end Digits

/-- The texts that are accepted as literals: digits, digits around a point, and
digits in three parts that form a date. -/
inductive Written (policy : Policy) : List Char → Kind → Prop
  | integer {digits : List Char} : (∀ char ∈ digits, isDigit char = true) →
      Written policy digits .integer
  | decimal {whole fraction : List Char} : (∀ char ∈ whole, isDigit char = true) →
      (∀ char ∈ fraction, isDigit char = true) → fraction ≠ [] →
      Written policy (whole ++ '.' :: fraction) .decimal
  | date {month day year : List Char} {mark next : Char} :
      (∀ char ∈ month, isDigit char = true) → (∀ char ∈ day, isDigit char = true) →
      (∀ char ∈ year, isDigit char = true) → isDigit mark = false → mark ≠ '.' →
      isDigit next = false → (!policy.uniformDates || mark == next) = true →
      isDate month.length day.length year.length = true →
      Written policy (month ++ mark :: (day ++ next :: year)) .date

variable {policy : Policy} {text : List Char} {length : Nat} {kind : Kind}

/-- The parts of a date are not empty. -/
theorem ne_nil_of_isDate {month day year : List Char}
    (date : isDate month.length day.length year.length = true) : day ≠ [] ∧ year ≠ [] := by
  constructor
  · rintro rfl
    simp [isDate] at date
  · rintro rfl
    simp [isDate] at date

/-- A text that is written like a literal is accepted as a whole. -/
theorem Written.judge_eq (written : Written policy text kind) :
    judge policy text = .accept text.length kind := by
  cases written with
  | integer all =>
    simp only [judge, List.takeWhile_eq_self_iff.mpr all, List.dropWhile_eq_nil_iff.mpr all]
  | decimal all allBehind nonempty =>
    have point : isDigit '.' = false := by decide
    simp only [judge, takeWhile_digits all point, dropWhile_digits all point,
      List.takeWhile_eq_self_iff.mpr allBehind, List.isEmpty_eq_false_iff.mpr nonempty, if_true,
      Bool.false_eq_true, if_false, List.length_append, List.length_cons]
    exact congrArg (Verdict.accept · .decimal) (by omega)
  | date month day year mark point next uniform date =>
    obtain ⟨someDay, someYear⟩ := ne_nil_of_isDate date
    simp only [judge, takeWhile_digits month mark, dropWhile_digits month mark,
      takeWhile_digits day next, dropWhile_digits day next,
      List.takeWhile_eq_self_iff.mpr year, List.isEmpty_eq_false_iff.mpr someDay,
      List.isEmpty_eq_false_iff.mpr someYear, if_neg point, uniform, date, Bool.and_self,
      Bool.false_eq_true, if_true, if_false, List.length_append, List.length_cons]
    exact congrArg (Verdict.accept · .date) (by omega)

theorem take_of_eq_append {front rest : List Char} (whole : text = front ++ rest)
    (size : front.length = length) : text.take length = front := by
  rw [whole, List.take_left' size]

/-- The leading digits of a text, and what stands behind them. -/
theorem digits_append (text : List Char) :
    (∀ char ∈ text.takeWhile isDigit, isDigit char = true) ∧
      text = text.takeWhile isDigit ++ text.dropWhile isDigit :=
  ⟨fun _ member => List.mem_takeWhile_imp member, List.takeWhile_append_dropWhile.symm⟩

theorem not_isDigit_of_dropWhile {later : List Char} {mark : Char}
    (rest : text.dropWhile isDigit = mark :: later) : isDigit mark = false := by
  simpa [rest] using List.head?_dropWhile_not isDigit text

/-- Digits before a dangling separator are accepted as they stand. -/
theorem written_of_dangling {gathered : Nat}
    (accepted : dangling policy (text.takeWhile isDigit).length gathered = .accept length kind) :
    Written policy (text.take length) kind := by
  unfold dangling at accepted
  split at accepted <;> cases accepted
  rw [take_of_eq_append (digits_append text).2 rfl]
  exact .integer (digits_append text).1

/-- Digits around a point are accepted as they stand. -/
theorem written_of_point {afterMark : List Char} (rest : text.dropWhile isDigit = '.' :: afterMark)
    (nonempty : afterMark.takeWhile isDigit ≠ [])
    (size : (text.takeWhile isDigit).length + 1 + (afterMark.takeWhile isDigit).length = length) :
    Written policy (text.take length) .decimal := by
  obtain ⟨first, whole⟩ := digits_append text
  obtain ⟨second, afterMark'⟩ := digits_append afterMark
  have splits : text = (text.takeWhile isDigit ++ '.' :: afterMark.takeWhile isDigit) ++
      afterMark.dropWhile isDigit := by
    rw [List.append_assoc, List.cons_append, ← afterMark', ← rest]
    exact whole
  rw [take_of_eq_append splits (by simp only [List.length_append, List.length_cons]; omega)]
  exact .decimal first second nonempty

/-- Digits in three parts are accepted as they stand if they form a date. -/
theorem written_of_date {mark next : Char} {afterMark afterNext : List Char}
    (rest : text.dropWhile isDigit = mark :: afterMark)
    (more : afterMark.dropWhile isDigit = next :: afterNext) (noPoint : mark ≠ '.')
    (uniform : (!policy.uniformDates || mark == next) = true)
    (date : isDate (text.takeWhile isDigit).length (afterMark.takeWhile isDigit).length
      (afterNext.takeWhile isDigit).length = true)
    (size : (text.takeWhile isDigit).length + 1 + (afterMark.takeWhile isDigit).length + 1 +
      (afterNext.takeWhile isDigit).length = length) :
    Written policy (text.take length) .date := by
  obtain ⟨first, whole⟩ := digits_append text
  obtain ⟨second, afterMark'⟩ := digits_append afterMark
  obtain ⟨third, afterNext'⟩ := digits_append afterNext
  have splits : text = (text.takeWhile isDigit ++ mark ::
      (afterMark.takeWhile isDigit ++ next :: afterNext.takeWhile isDigit)) ++
        afterNext.dropWhile isDigit := by
    rw [List.append_assoc, List.cons_append, List.append_assoc, List.cons_append, ← afterNext',
      ← more, ← afterMark', ← rest]
    exact whole
  rw [take_of_eq_append splits (by simp only [List.length_append, List.length_cons]; omega)]
  exact .date first second third (not_isDigit_of_dropWhile rest) noPoint
    (not_isDigit_of_dropWhile more) uniform date

/-- **What is accepted of a text is written like a literal.** -/
theorem written_of_accept (accepted : judge policy text = .accept length kind) :
    Written policy (text.take length) kind := by
  unfold judge at accepted
  dsimp only at accepted
  split at accepted
  · obtain ⟨first, whole⟩ := digits_append text
    obtain ⟨rfl, rfl⟩ := Verdict.accept.inj accepted
    rw [take_of_eq_append whole rfl]
    exact .integer first
  · rename_i mark afterMark rest
    split at accepted
    · exact written_of_dangling accepted
    · rename_i someDay
      split at accepted
      · rename_i point
        obtain ⟨size, rfl⟩ := Verdict.accept.inj accepted
        exact written_of_point (point ▸ rest) (mt List.isEmpty_iff.mpr someDay) size
      · rename_i noPoint
        split at accepted
        · exact written_of_dangling accepted
        · rename_i next afterNext more
          split at accepted
          · exact written_of_dangling accepted
          · split at accepted
            · rename_i date
              rw [Bool.and_eq_true] at date
              obtain ⟨size, rfl⟩ := Verdict.accept.inj accepted
              exact written_of_date rest more noPoint date.1 date.2 size
            · cases accepted

/-- What is rejected is not empty. -/
theorem length_pos_of_reject (rejected : judge policy text = .reject length) : 0 < length := by
  unfold judge dangling at rejected
  dsimp only at rejected
  repeat' split at rejected
  all_goals cases rejected
  all_goals omega

end Literal

/-! ## Runs and what ends them -/

section Runs

variable {state item : Type} {step : state → item → Option state}

/-- An item that is refused in every state ends a run. -/
theorem longest_append_cons {found : item} (refused : ∀ current, step current found = none)
    (start : state) (items later : List item) :
    longest step start (items ++ found :: later) = longest step start items := by
  induction items generalizing start with
  | nil => simp only [List.nil_append, longest, refused]
  | cons first items ih =>
    rw [List.cons_append, longest, longest]
    cases step start first with
    | none => rfl
    | some next => exact congrArg (first :: ·) (ih next)

/-- The beginning of a run is a run to its end. -/
theorem longest_of_begins {start : state} {items all : List item}
    (begins : items <+: longest step start all) : longest step start items = items := by
  induction items generalizing start all with
  | nil => rfl
  | cons first items ih =>
    cases all with
    | nil => exact absurd (List.prefix_nil.mp begins) (List.cons_ne_nil _ _)
    | cons other later =>
      rw [longest] at begins
      cases accepted : step start other with
      | none =>
        rw [accepted] at begins
        exact absurd (List.prefix_nil.mp begins) (List.cons_ne_nil _ _)
      | some next =>
        rw [accepted] at begins
        obtain ⟨rfl, rest⟩ := List.cons_prefix_cons.mp begins
        rw [longest, accepted]
        exact congrArg (first :: ·) (ih rest)

theorem takeWhile_append_cons {condition : item → Bool} {found : item}
    (fails : condition found = false) (items later : List item) :
    (items ++ found :: later).takeWhile condition = items.takeWhile condition := by
  induction items with
  | nil => exact List.takeWhile_cons_of_neg (by simp [fails])
  | cons first items ih =>
    rw [List.cons_append, List.takeWhile_cons, List.takeWhile_cons, ih]

end Runs

/-! ## The front of a text -/

/-- What stands at the front of a text. -/
inductive Front
  /-- Nothing: the text is used up. -/
  | ended
  | blank
  | token (text : List Char) (kind : Kind)
  | comment
  /-- A text that is no token, and why. -/
  | illegal (kind : Diagnostic.Kind) (text : List Char)
  deriving DecidableEq

/-- What stands at the front of a text. -/
def front (policy : Policy) : List Char → Front
  | [] => .ended
  | first :: later =>
      let text := first :: later
      if isBlank first then .blank
      else if startsWord first then
        let word := text.takeWhile continuesWord
        .token word (.ofWord word)
      else if isDigit first then
        match Literal.judge policy (Literal.candidate text) with
        | .accept length kind => .token (text.take length) kind
        | .reject length => .illegal .illegalLiteral (text.take length)
      else
        match Operator.longest? text with
        | none => .illegal .illegalCharacter [first]
        | some .comment => .comment
        | some mark => .token mark.spelling.toList (.operator mark)

section Front

variable {policy : Policy} {first : Char} {later : List Char}

theorem front_of_isBlank (blank : isBlank first) : front policy (first :: later) = .blank :=
  if_pos blank

variable (other : ¬isBlank first)

include other

theorem front_of_word (starts : startsWord first) :
    front policy (first :: later) =
      .token ((first :: later).takeWhile continuesWord)
        (.ofWord ((first :: later).takeWhile continuesWord)) := by
  simp only [front, if_neg other, if_pos starts]

variable (noWord : ¬startsWord first)

include noWord

theorem front_of_accept (digit : isDigit first) {length : Nat} {kind : Kind}
    (accepted : Literal.judge policy (Literal.candidate (first :: later)) = .accept length kind) :
    front policy (first :: later) = .token ((first :: later).take length) kind := by
  simp only [front, if_neg other, if_neg noWord, if_pos digit, accepted]

theorem front_of_reject (digit : isDigit first) {length : Nat}
    (rejected : Literal.judge policy (Literal.candidate (first :: later)) = .reject length) :
    front policy (first :: later) = .illegal .illegalLiteral ((first :: later).take length) := by
  simp only [front, if_neg other, if_neg noWord, if_pos digit, rejected]

variable (noDigit : ¬isDigit first)

include noDigit

theorem front_of_unknown (unknown : Operator.longest? (first :: later) = none) :
    front policy (first :: later) = .illegal .illegalCharacter [first] := by
  simp only [front, if_neg other, if_neg noWord, if_neg noDigit, unknown]

theorem front_of_comment (found : Operator.longest? (first :: later) = some .comment) :
    front policy (first :: later) = .comment := by
  simp only [front, if_neg other, if_neg noWord, if_neg noDigit, found]

theorem front_of_mark {mark : Operator} (lasts : mark ≠ .comment)
    (found : Operator.longest? (first :: later) = some mark) :
    front policy (first :: later) = .token mark.spelling.toList (.operator mark) := by
  simp only [front, if_neg other, if_neg noWord, if_neg noDigit, found]

end Front

/-- The ways in which a text can begin, each with what stands at the front. -/
inductive FrontCase (policy : Policy) : List Char → Front → Prop
  | ended : FrontCase policy [] .ended
  | blank {first : Char} {later : List Char} : isBlank first →
      FrontCase policy (first :: later) .blank
  | word {first : Char} {later : List Char} : ¬isBlank first → startsWord first →
      FrontCase policy (first :: later)
        (.token ((first :: later).takeWhile continuesWord)
          (.ofWord ((first :: later).takeWhile continuesWord)))
  | accept {first : Char} {later : List Char} {length : Nat} {kind : Kind} : ¬isBlank first →
      ¬startsWord first → isDigit first →
      Literal.judge policy (Literal.candidate (first :: later)) = .accept length kind →
      FrontCase policy (first :: later) (.token ((first :: later).take length) kind)
  | reject {first : Char} {later : List Char} {length : Nat} : ¬isBlank first →
      ¬startsWord first → isDigit first →
      Literal.judge policy (Literal.candidate (first :: later)) = .reject length →
      FrontCase policy (first :: later) (.illegal .illegalLiteral ((first :: later).take length))
  | unknown {first : Char} {later : List Char} : ¬isBlank first → ¬startsWord first →
      ¬isDigit first → Operator.longest? (first :: later) = none →
      FrontCase policy (first :: later) (.illegal .illegalCharacter [first])
  | comment {first : Char} {later : List Char} : ¬isBlank first → ¬startsWord first →
      ¬isDigit first → Operator.longest? (first :: later) = some .comment →
      FrontCase policy (first :: later) .comment
  | mark {first : Char} {later : List Char} {mark : Operator} : ¬isBlank first →
      ¬startsWord first → ¬isDigit first → mark ≠ .comment →
      Operator.longest? (first :: later) = some mark →
      FrontCase policy (first :: later) (.token mark.spelling.toList (.operator mark))

/-- **Every text begins in one of the ways.** -/
theorem frontCase (policy : Policy) (text : List Char) :
    FrontCase policy text (front policy text) := by
  cases text with
  | nil => exact .ended
  | cons first later =>
    by_cases blank : isBlank first
    · rw [front_of_isBlank blank]
      exact .blank blank
    by_cases starts : startsWord first
    · rw [front_of_word blank starts]
      exact .word blank starts
    by_cases digit : isDigit first
    · cases verdict : Literal.judge policy (Literal.candidate (first :: later)) with
      | accept length kind =>
        rw [front_of_accept blank starts digit verdict]
        exact .accept blank starts digit verdict
      | reject length =>
        rw [front_of_reject blank starts digit verdict]
        exact .reject blank starts digit verdict
    · cases found : Operator.longest? (first :: later) with
      | none =>
        rw [front_of_unknown blank starts digit found]
        exact .unknown blank starts digit found
      | some mark =>
        by_cases comments : mark = .comment
        · subst comments
          rw [front_of_comment blank starts digit found]
          exact .comment blank starts digit found
        · rw [front_of_mark blank starts digit comments found]
          exact .mark blank starts digit comments found

/-! ## Kinds of tokens -/

namespace Kind

/-- A word has the kind that the tokenizer gives it. -/
theorem ofText_of_startsWord {word : List Char} (starts : word.head?.any startsWord) :
    ofText (String.ofList word) = ofWord word := by
  rw [ofText, ofReserved?_of_startsWord (by rwa [String.toList_ofList]), String.toList_ofList,
    shape, if_pos starts, ofWord]

/-- A literal has the kind that it was accepted as. -/
theorem ofText_of_accept {policy : Policy} {first : Char} {later : List Char} {length : Nat}
    {kind : Kind} (noWord : ¬startsWord first) (digit : isDigit first)
    (accepted : Literal.judge policy (Literal.candidate (first :: later)) = .accept length kind) :
    ofText (String.ofList ((first :: later).take length)) = kind := by
  obtain ⟨more, begins, shape⟩ := shape_of_accept noWord digit accepted
  rw [← Literal.take_of_accept accepted, begins, ofText,
    ofReserved?_of_isDigit (by simpa using digit), Option.getD_none, String.toList_ofList, shape]

theorem ofText_operator (mark : Operator) :
    ofText (String.ofList mark.spelling.toList) = .operator mark := by
  rw [String.ofList_toList, ofText, ofReserved?_operator, Option.getD_some]

end Kind

/-! ## Tokens by themselves -/

/-- The texts of tokens: words, literals and marks. -/
inductive IsToken (policy : Policy) : List Char → Kind → Prop
  | word {first : Char} {later : List Char} : ¬isBlank first → startsWord first →
      (∀ char ∈ first :: later, continuesWord char = true) →
      IsToken policy (first :: later) (.ofWord (first :: later))
  | literal {first : Char} {later : List Char} {kind : Kind} : ¬startsWord first →
      isDigit first → Literal.candidate (first :: later) = first :: later →
      Literal.Written policy (first :: later) kind → IsToken policy (first :: later) kind
  | mark {mark : Operator} : mark ≠ .comment →
      IsToken policy mark.spelling.toList (.operator mark)

/-- The characters of a candidate are no blanks. -/
theorem Literal.not_isBlank_of_mem_candidate {text : List Char} {char : Char}
    (member : char ∈ candidate text) : isBlank char = false := by
  obtain ⟨phase, accepted⟩ := exists_isSome_of_mem_longest member
  apply Bool.eq_false_iff.mpr
  intro blank
  rw [Phase.step_of_isBlank blank] at accepted
  cases accepted

/-- What a mark is made of: no blank, and a first character that starts neither a
word nor a literal. -/
theorem Operator.spelling_cases (mark : Operator) :
    mark.spelling.toList.all (fun char => !isBlank char) = true ∧
      ∃ first later, mark.spelling.toList = first :: later ∧ startsWord first = false ∧
        isDigit first = false ∧ longest? (first :: later) = some mark := by
  cases mark <;> exact ⟨by decide +kernel, _, _, rfl, by decide +kernel, by decide, by decide⟩

namespace IsToken

variable {policy : Policy} {text : List Char} {kind : Kind}

theorem ne_nil (token : IsToken policy text kind) : text ≠ [] := by
  cases token with
  | word => exact List.cons_ne_nil _ _
  | literal => exact List.cons_ne_nil _ _
  | @mark mark => exact List.ne_nil_of_length_pos mark.length_spelling_pos

/-- **A token holds no blank.** -/
theorem not_isBlank (token : IsToken policy text kind) : ∀ char ∈ text, isBlank char = false := by
  intro char member
  cases token with
  | word _ _ continues =>
    apply Bool.eq_false_iff.mpr
    intro blank
    have stops := not_continuesWord_of_isBlank blank
    rw [continues char member] at stops
    cases stops
  | literal _ _ whole _ => exact Literal.not_isBlank_of_mem_candidate (whole ▸ member)
  | @mark mark => simpa using List.all_eq_true.mp mark.spelling_cases.1 char member

theorem lineFeed_not_mem (token : IsToken policy text kind) : '\n' ∉ text := by
  intro member
  exact absurd (token.not_isBlank '\n' member) (by decide)

/-- A token has the kind that its text has by itself. -/
theorem ofText_eq (token : IsToken policy text kind) :
    Kind.ofText (String.ofList text) = kind := by
  cases token with
  | word _ starts _ => exact Kind.ofText_of_startsWord starts
  | literal noWord digit whole written =>
    have accepted := written.judge_eq
    rw [← whole] at accepted
    have same := Kind.ofText_of_accept noWord digit accepted
    rwa [whole, List.take_length] at same
  | @mark mark => exact Kind.ofText_operator mark

/-- **A token is what stands at the front of its own text.** -/
theorem front_eq (token : IsToken policy text kind) : front policy text = .token text kind := by
  have noBlank := token.not_isBlank
  cases token with
  | word blank starts continues =>
    rw [front_of_word blank starts, List.takeWhile_eq_self_iff.mpr continues]
  | @literal first later _ noWord digit whole written =>
    have blank : ¬isBlank first := by simp [noBlank first List.mem_cons_self]
    have accepted := written.judge_eq
    rw [← whole] at accepted
    rw [front_of_accept blank noWord digit accepted, whole, List.take_length]
  | @mark mark lasts =>
    obtain ⟨first, later, spelling, noWord, noDigit, found⟩ := mark.spelling_cases.2
    have blank : ¬isBlank first := by simp [noBlank first (spelling ▸ List.mem_cons_self)]
    rw [spelling, front_of_mark blank (by simp [noWord]) (by simp [noDigit]) lasts found, spelling]

end IsToken

/-! ## What the front says about a text -/

section Facts

variable {policy : Policy} {text : List Char}

/-- What stands at the front of a text is there for one of the reasons. -/
theorem frontCase_of_eq {found : Front} (shown : front policy text = found) :
    FrontCase policy text found :=
  shown ▸ frontCase policy text

theorem front_eq_ended_iff : front policy text = .ended ↔ text = [] := by
  constructor
  · intro ended
    cases frontCase_of_eq ended
    rfl
  · rintro rfl
    rfl

theorem exists_cons_of_front_blank (found : front policy text = .blank) :
    ∃ first later, text = first :: later ∧ isBlank first := by
  cases frontCase_of_eq found with
  | blank blank => exact ⟨_, _, rfl, blank⟩

/-- **A token at the front of a text is a token, and the text begins with it.** -/
theorem isToken_of_front {word : List Char} {kind : Kind}
    (found : front policy text = .token word kind) : IsToken policy word kind ∧ word <+: text := by
  cases frontCase_of_eq found with
  | @word first later blank starts =>
    refine ⟨?_, List.takeWhile_prefix _⟩
    have continues : ∀ char ∈ (first :: later).takeWhile continuesWord,
        continuesWord char = true := fun char member => List.mem_takeWhile_imp member
    rw [List.takeWhile_cons_of_pos (continuesWord_of_startsWord starts)] at continues ⊢
    exact .word blank starts continues
  | @accept first later length kind blank starts digit verdict =>
    refine ⟨?_, List.take_prefix _ _⟩
    have written := Literal.written_of_accept verdict
    have begins := List.take_prefix length (Literal.candidate (first :: later))
    have positive := Literal.length_pos_of_accept digit verdict
    rw [Literal.take_of_accept verdict] at written begins
    obtain ⟨length, rfl⟩ := Nat.exists_eq_succ_of_ne_zero (Nat.ne_of_gt positive)
    exact .literal starts digit (longest_of_begins begins) written
  | mark blank starts digit lasts recognised =>
    refine ⟨.mark lasts, ?_⟩
    exact List.prefix_iff_eq_take.mpr (Operator.take_of_longest? recognised).symm

/-- A comment starts with its mark. -/
theorem slashes_of_front (found : front policy text = .comment) : ['/', '/'] <+: text := by
  cases frontCase_of_eq found with
  | @comment first later blank starts digit recognised =>
    have begins := Operator.munch_begins first later
    rwa [Operator.munch_of_some recognised] at begins

/-- **What is no token begins the text, is not empty and holds no blank.** -/
theorem illegal_of_front {kind : Diagnostic.Kind} {word : List Char}
    (found : front policy text = .illegal kind word) :
    kind ≠ .sourceFault ∧ word ≠ [] ∧ word <+: text ∧ ∀ char ∈ word, isBlank char = false := by
  cases frontCase_of_eq found with
  | @reject first later length blank starts digit verdict =>
    have positive := Literal.length_pos_of_reject verdict
    refine ⟨nofun, by simp [Nat.ne_of_gt positive], List.take_prefix _ _, ?_⟩
    intro char member
    rw [← Literal.take_of_reject verdict] at member
    exact Literal.not_isBlank_of_mem_candidate (List.mem_of_mem_take member)
  | @unknown first later blank starts digit recognised =>
    refine ⟨nofun, List.cons_ne_nil _ _, List.prefix_append [first] later, ?_⟩
    simpa using blank

/-- A blank ends the candidate of a literal. -/
theorem Literal.candidate_append_blank {blank : Char} (white : isBlank blank)
    (text later : List Char) : candidate (text ++ blank :: later) = candidate text :=
  longest_append_cons (Phase.step_of_isBlank white) _ _ _

/-- A blank is no part of the operator before it. -/
theorem Operator.longest?_append_blank {blank : Char} (white : isBlank blank) (first : Char)
    (text later : List Char) :
    longest? (first :: (text ++ blank :: later)) = longest? (first :: text) := by
  rw [longest?_eq, longest?_eq]
  cases text with
  | nil => simp [munch, ofPair?_of_isBlank white]
  | cons second more => rfl

/-- What stands at the front of a text does not change with what follows, if no
word, no candidate and no operator at the front does. -/
theorem front_append {later : List Char} (nonempty : text ≠ [])
    (word : (text ++ later).takeWhile continuesWord = text.takeWhile continuesWord)
    (literal : Literal.candidate (text ++ later) = Literal.candidate text)
    (operator : Operator.longest? (text ++ later) = Operator.longest? text) :
    front policy (text ++ later) = front policy text := by
  have shown := frontCase policy text
  generalize front policy text = found at shown ⊢
  cases shown with
  | ended => exact absurd rfl nonempty
  | blank blank => exact front_of_isBlank blank
  | word other starts => rw [List.cons_append, front_of_word other starts, ← List.cons_append, word]
  | accept other starts digit verdict =>
    have joined := verdict
    rw [← literal] at joined
    rw [← Literal.take_of_accept verdict, ← literal, Literal.take_of_accept joined]
    exact front_of_accept other starts digit joined
  | reject other starts digit verdict =>
    have joined := verdict
    rw [← literal] at joined
    rw [← Literal.take_of_reject verdict, ← literal, Literal.take_of_reject joined]
    exact front_of_reject other starts digit joined
  | unknown other starts digit recognised =>
    exact front_of_unknown other starts digit (operator.trans recognised)
  | comment other starts digit recognised =>
    exact front_of_comment other starts digit (operator.trans recognised)
  | mark other starts digit lasts recognised =>
    exact front_of_mark other starts digit lasts (operator.trans recognised)

/-- **A blank ends what stands before it:** the front of a text does not change
when a blank follows the text, whatever stands behind the blank. -/
theorem front_append_blank {blank : Char} (white : isBlank blank) (nonempty : text ≠ [])
    (later : List Char) : front policy (text ++ blank :: later) = front policy text := by
  refine front_append nonempty (takeWhile_append_cons (not_continuesWord_of_isBlank white) _ _)
    (Literal.candidate_append_blank white _ _) ?_
  obtain ⟨first, more, rfl⟩ := List.exists_cons_of_ne_nil nonempty
  exact Operator.longest?_append_blank white first more later

end Facts

end Lexis
