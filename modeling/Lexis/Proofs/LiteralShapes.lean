import Lexis.Proofs.Fronts
import Lexis.Proofs.Reading

/-!
# Shapes of literals

A text that starts with a digit begins in one of a few shapes (`Literal.Shape`): digits
around a point, digits in three parts with the separators of a date between them, digits
before a separator that nothing completes, or digits alone. Each group of digits in a
shape is as long as it can be: what stands behind it is no digit.

The candidate of a text is gathered in one pass and judged in another, and each of the
two finds the borders between the groups by its own means. They agree. The candidate is
what the shape covers (`Literal.Shape.exists_gathered`), and its verdict is the one that
the shape has under a policy (`Literal.judge_candidate`), whatever follows the shape.
-/

namespace Lexis

set_option autoImplicit false

namespace Literal

/-! ## Shapes -/

/-- Digits in front of a text, as many as there are. -/
structure Group (digits later : List Char) : Prop where
  nonempty : digits ≠ []
  all : ∀ char ∈ digits, isDigit char = true
  ends : later.head?.any isDigit = false

/-- What a text that starts with digits looks like, with the lengths of its groups of
digits. -/
inductive Form
  /-- Digits around a point. -/
  | decimal (whole fraction : Nat)
  /-- Digits in three parts, and the two separators between them. -/
  | parts (month day year : Nat) (first second : Char)
  /-- Digits before a separator that is not completed, and how many characters there are
  of the digits, the separator and what was to complete it. -/
  | dangling (digits reach : Nat)
  | integer (digits : Nat)
  deriving DecidableEq

/-- How many characters a form covers. -/
def Form.reach : Form → Nat
  | decimal whole fraction => whole + 1 + fraction
  | parts month day year _ _ => month + 1 + day + 1 + year
  | dangling _ reach => reach
  | integer digits => digits

/-- The verdict on a form. Three parts are a date if the first two have one or two digits
each and the last has one, two or four, and if the separators are the same where they
must be. -/
def Form.verdict (policy : Policy) : Form → Verdict
  | decimal whole fraction => .accept (whole + 1 + fraction) .decimal
  | parts month day year first second =>
      if (month = 1 ∨ month = 2) ∧ (day = 1 ∨ day = 2) ∧ (year = 1 ∨ year = 2 ∨ year = 4) ∧
          (policy.uniformDates = true → first = second) then
        .accept (month + 1 + day + 1 + year) .date
      else
        .reject (month + 1 + day + 1 + year)
  | dangling digits reach =>
      match policy.dangling with
      | .split => .accept digits .integer
      | .reject => .reject reach
  | integer digits => .accept digits .integer

/-- The form of a text, by the groups of digits that it starts with. -/
inductive Shape : List Char → Form → Prop
  | decimal {whole fraction later : List Char} :
      Group whole ('.' :: (fraction ++ later)) → Group fraction later →
      Shape (whole ++ '.' :: (fraction ++ later)) (.decimal whole.length fraction.length)
  | parts {month day year later : List Char} {first second : Char} :
      Group month (first :: (day ++ second :: (year ++ later))) → isDateSeparator first →
      Group day (second :: (year ++ later)) → isDateSeparator second → Group year later →
      Shape (month ++ first :: (day ++ second :: (year ++ later)))
        (.parts month.length day.length year.length first second)
  /-- Nothing completes a point. -/
  | openPoint {digits later : List Char} :
      Group digits ('.' :: later) → later.head?.any isDigit = false →
      Shape (digits ++ '.' :: later) (.dangling digits.length (digits.length + 1))
  /-- Nothing completes a first separator. -/
  | openFirst {digits later : List Char} {mark : Char} :
      Group digits (mark :: later) → isDateSeparator mark → later.head?.any isDigit = false →
      Shape (digits ++ mark :: later) (.dangling digits.length (digits.length + 1))
  /-- There is no second separator. -/
  | noSecond {digits day later : List Char} {mark : Char} :
      Group digits (mark :: (day ++ later)) → isDateSeparator mark → Group day later →
      later.head?.any isDateSeparator = false →
      Shape (digits ++ mark :: (day ++ later))
        (.dangling digits.length (digits.length + 1 + day.length))
  /-- Nothing completes a second separator. -/
  | openSecond {digits day later : List Char} {mark next : Char} :
      Group digits (mark :: (day ++ next :: later)) → isDateSeparator mark →
      Group day (next :: later) → isDateSeparator next → later.head?.any isDigit = false →
      Shape (digits ++ mark :: (day ++ next :: later))
        (.dangling digits.length (digits.length + 1 + day.length + 1))
  | integer {digits later : List Char} : Group digits later →
      later.head?.any (fun char => char == '.' || isDateSeparator char) = false →
      Shape (digits ++ later) (.integer digits.length)

/-! ## Every text has a shape -/

/-- A text goes on with digits, or with none. -/
theorem group_cases (text : List Char) :
    text.head?.any isDigit = false ∨
      ∃ digits later, text = digits ++ later ∧ Group digits later := by
  cases text with
  | nil => exact .inl rfl
  | cons first later =>
    by_cases digit : isDigit first = true
    · obtain ⟨all, whole⟩ := digits_append (first :: later)
      refine .inr ⟨_, _, whole, ?_, all, ?_⟩
      · rw [List.takeWhile_cons_of_pos digit]
        exact List.cons_ne_nil _ _
      · have stops := List.head?_dropWhile_not isDigit (first :: later)
        cases behind : (first :: later).dropWhile isDigit with
        | nil => rfl
        | cons mark more => simpa [behind] using stops
    · exact .inl (by simpa using digit)

/-- Behind digits and a separator of dates the text has a shape. -/
theorem exists_shape_of_separator {digits later : List Char} {mark : Char}
    (group : Group digits (mark :: later)) (separator : isDateSeparator mark) :
    ∃ form, Shape (digits ++ mark :: later) form := by
  rcases group_cases later with noDigit | ⟨day, more, rfl, dayGroup⟩
  · exact ⟨_, .openFirst group separator noDigit⟩
  cases more with
  | nil => exact ⟨_, .noSecond group separator dayGroup rfl⟩
  | cons next rest =>
    by_cases separator' : isDateSeparator next = true
    · rcases group_cases rest with noDigit | ⟨year, behind, rfl, yearGroup⟩
      · exact ⟨_, .openSecond group separator dayGroup separator' noDigit⟩
      · exact ⟨_, .parts group separator dayGroup separator' yearGroup⟩
    · exact ⟨_, .noSecond group separator dayGroup (by simpa using separator')⟩

/-- **Every text that starts with a digit has a shape.** -/
theorem exists_shape {first : Char} (digit : isDigit first) (later : List Char) :
    ∃ form, Shape (first :: later) form := by
  rcases group_cases (first :: later) with noDigit | ⟨digits, behind, whole, group⟩
  · simp [digit] at noDigit
  rw [whole]
  cases behind with
  | nil => exact ⟨_, .integer group rfl⟩
  | cons mark more =>
    by_cases separator : isDateSeparator mark = true
    · exact exists_shape_of_separator group separator
    by_cases point : mark = '.'
    · subst point
      rcases group_cases more with noDigit | ⟨fraction, rest, rfl, fractionGroup⟩
      · exact ⟨_, .openPoint group noDigit⟩
      · exact ⟨_, .decimal group fractionGroup⟩
    · exact ⟨_, .integer group (by simp [point, separator])⟩

/-! ## What is gathered -/

section Gathering

variable {phase : Phase} {digits later : List Char} {mark : Char}

/-- A digit does not change the phase, unless it is the first after a separator. -/
theorem Phase.step_digit (inside : phase ≠ .separator) {char : Char} (digit : isDigit char) :
    phase.step char = some phase := by
  cases phase <;> simp [step, digit] at inside ⊢

/-- Digits are gathered. -/
theorem longest_append_digits (inside : phase ≠ .separator)
    (all : ∀ char ∈ digits, isDigit char = true) (later : List Char) :
    longest Phase.step phase (digits ++ later) =
      digits ++ longest Phase.step phase later := by
  induction digits with
  | nil => rfl
  | cons first more ih =>
    have accepted := Phase.step_digit inside (all first List.mem_cons_self)
    rw [List.cons_append, longest, accepted]
    exact congrArg (first :: ·) (ih fun char member => all char (List.mem_cons_of_mem _ member))

/-- The digits after a separator are gathered. -/
theorem Group.longest_separator (group : Group digits later) :
    longest Phase.step .separator (digits ++ later) =
      digits ++ longest Phase.step .middle later := by
  obtain ⟨first, more, rfl⟩ := List.exists_cons_of_ne_nil group.nonempty
  have accepted : Phase.step .separator first = some .middle := by
    simp [Phase.step, group.all first List.mem_cons_self]
  have inside : Phase.middle ≠ .separator := by decide
  rw [List.cons_append, longest, accepted]
  apply congrArg (first :: ·)
  apply longest_append_digits inside
  intro char member
  exact group.all char (List.mem_cons_of_mem _ member)

/-- Where only digits are gathered, gathering stops in front of anything else. -/
theorem longest_eq_nil (final : phase = .fraction ∨ phase = .separator ∨ phase = .last)
    (noDigit : later.head?.any isDigit = false) : longest Phase.step phase later = [] := by
  cases later with
  | nil => rfl
  | cons next more =>
    have refused : phase.step next = none := by
      rcases final with rfl | rfl | rfl <;> simpa [Phase.step] using noDigit
    rw [longest, refused]

/-- Behind leading digits, gathering stops in front of what is no digit, no point and no
separator. -/
theorem longest_whole_eq_nil (noDigit : later.head?.any isDigit = false)
    (noMark : later.head?.any (fun char => char == '.' || isDateSeparator char) = false) :
    longest Phase.step .whole later = [] := by
  cases later with
  | nil => rfl
  | cons next more =>
    have refused : Phase.step .whole next = none := by simp_all [Phase.step]
    rw [longest, refused]

theorem longest_middle_eq_nil (noDigit : later.head?.any isDigit = false)
    (noMark : later.head?.any isDateSeparator = false) :
    longest Phase.step .middle later = [] := by
  cases later with
  | nil => rfl
  | cons next more =>
    have refused : Phase.step .middle next = none := by simp_all [Phase.step]
    rw [longest, refused]

/-- A group that nothing but digits may follow is gathered to its end. -/
theorem Group.longest_eq (group : Group digits later)
    (final : phase = .fraction ∨ phase = .last) :
    longest Phase.step phase (digits ++ later) = digits := by
  have inside : phase ≠ .separator := by
    rintro rfl
    simp at final
  rw [longest_append_digits inside group.all, longest_eq_nil (by tauto) group.ends,
    List.append_nil]

theorem longest_whole_point (later : List Char) :
    longest Phase.step .whole ('.' :: later) = '.' :: longest Phase.step .fraction later := by
  have accepted : Phase.step .whole '.' = some .fraction := by decide
  rw [longest, accepted]

section Separator

variable (separator : isDateSeparator mark)

include separator

theorem not_isDigit_of_isDateSeparator : isDigit mark = false := by
  rw [isDateSeparator, Bool.or_eq_true, beq_iff_eq, beq_iff_eq] at separator
  rcases separator with rfl | rfl <;> decide

theorem ne_point_of_isDateSeparator : mark ≠ '.' := by
  rintro rfl
  exact absurd separator (by decide)

theorem longest_whole_separator (later : List Char) :
    longest Phase.step .whole (mark :: later) =
      mark :: longest Phase.step .separator later := by
  have accepted : Phase.step .whole mark = some .separator := by
    simp [Phase.step, not_isDigit_of_isDateSeparator separator,
      ne_point_of_isDateSeparator separator, separator]
  rw [longest, accepted]

theorem longest_middle_separator (later : List Char) :
    longest Phase.step .middle (mark :: later) = mark :: longest Phase.step .last later := by
  have accepted : Phase.step .middle mark = some .last := by
    simp [Phase.step, not_isDigit_of_isDateSeparator separator, separator]
  rw [longest, accepted]

end Separator

end Gathering

/-! ## What is judged -/

theorem isDate_iff {month day year : Nat} :
    isDate month day year = true ↔
      (month = 1 ∨ month = 2) ∧ (day = 1 ∨ day = 2) ∧ (year = 1 ∨ year = 2 ∨ year = 4) := by
  simp [isDate, or_assoc, and_assoc]

section Judging

variable {digits day year : List Char} {mark next : Char} (policy : Policy)
  (all : ∀ char ∈ digits, isDigit char = true) (other : isDigit mark = false)

include all other

theorem judge_mark :
    judge policy (digits ++ [mark]) = dangling policy digits.length (digits.length + 1) := by
  simp only [judge, takeWhile_digits all other, dropWhile_digits all other, List.takeWhile_nil,
    List.isEmpty_nil, if_true, List.length_nil, Nat.add_zero]

variable (noPoint : mark ≠ '.') (someDay : day ≠ [])
  (allDay : ∀ char ∈ day, isDigit char = true)

include noPoint someDay allDay

theorem judge_day :
    judge policy (digits ++ mark :: day) =
      dangling policy digits.length (digits.length + 1 + day.length) := by
  simp only [judge, takeWhile_digits all other, dropWhile_digits all other,
    List.takeWhile_eq_self_iff.mpr allDay, List.dropWhile_eq_nil_iff.mpr allDay,
    List.isEmpty_eq_false_iff.mpr someDay, if_neg noPoint, Bool.false_eq_true, if_false]

variable (notDigit : isDigit next = false)

include notDigit

theorem judge_next :
    judge policy (digits ++ mark :: (day ++ [next])) =
      dangling policy digits.length (digits.length + 1 + day.length + 1) := by
  simp only [judge, takeWhile_digits all other, dropWhile_digits all other,
    takeWhile_digits allDay notDigit, dropWhile_digits allDay notDigit,
    List.isEmpty_eq_false_iff.mpr someDay, if_neg noPoint, Bool.false_eq_true, if_false,
    List.takeWhile_nil, List.isEmpty_nil, if_true, List.length_nil, Nat.add_zero]

/-- Three parts are a date, or rejected as a whole. -/
theorem judge_parts (someYear : year ≠ []) (allYear : ∀ char ∈ year, isDigit char = true) :
    judge policy (digits ++ mark :: (day ++ next :: year)) =
      (Form.parts digits.length day.length year.length mark next).verdict policy := by
  simp only [judge, takeWhile_digits all other, dropWhile_digits all other,
    takeWhile_digits allDay notDigit, dropWhile_digits allDay notDigit,
    List.takeWhile_eq_self_iff.mpr allYear, List.isEmpty_eq_false_iff.mpr someDay,
    List.isEmpty_eq_false_iff.mpr someYear, if_neg noPoint, Bool.false_eq_true, if_false,
    Form.verdict]
  refine if_congr ?_ rfl rfl
  have uniform : (!policy.uniformDates || mark == next) = true ↔
      (policy.uniformDates = true → mark = next) := by
    cases policy.uniformDates <;> simp
  rw [Bool.and_eq_true, uniform, isDate_iff, and_comm, and_assoc, and_assoc]

end Judging

/-! ## The candidate and its verdict -/

namespace Shape

variable {text : List Char} {form : Form}

/-- **The two passes agree on the groups of a shape.** What is gathered is the part of the
text that the shape covers, and it is judged as the shape is. -/
theorem exists_gathered (shape : Shape text form) :
    ∃ gathered later, text = gathered ++ later ∧ gathered.length = form.reach ∧
      candidate text = gathered ∧ ∀ policy, judge policy gathered = form.verdict policy := by
  cases shape with
  | @decimal whole fraction later group group' =>
    refine ⟨whole ++ '.' :: fraction, later, by simp, ?_, ?_, fun policy => ?_⟩
    · simp only [List.length_append, List.length_cons, Form.reach]
      omega
    · rw [candidate, longest_append_digits (by decide) group.all, longest_whole_point,
        group'.longest_eq (.inl rfl)]
    · rw [(Written.decimal group.all group'.all group'.nonempty).judge_eq, List.length_append,
        List.length_cons, Form.verdict, Nat.add_assoc, Nat.add_comm 1]
  | @parts month day year later first second group separator group' separator' group'' =>
    refine ⟨month ++ first :: (day ++ second :: year), later, by simp, ?_, ?_, fun policy => ?_⟩
    · simp only [List.length_append, List.length_cons, Form.reach]
      omega
    · rw [candidate, longest_append_digits (by decide) group.all,
        longest_whole_separator separator, group'.longest_separator,
        longest_middle_separator separator', group''.longest_eq (.inr rfl)]
    · exact judge_parts policy group.all (not_isDigit_of_isDateSeparator separator)
        (ne_point_of_isDateSeparator separator) group'.nonempty group'.all
        (not_isDigit_of_isDateSeparator separator') group''.nonempty group''.all
  | @openPoint digits later group noDigit =>
    refine ⟨digits ++ ['.'], later, by simp, by simp [Form.reach], ?_, fun policy => ?_⟩
    · rw [candidate, longest_append_digits (by decide) group.all, longest_whole_point,
        longest_eq_nil (.inl rfl) noDigit]
    · exact judge_mark policy group.all (by decide)
  | @openFirst digits later mark group separator noDigit =>
    refine ⟨digits ++ [mark], later, by simp, by simp [Form.reach], ?_, fun policy => ?_⟩
    · rw [candidate, longest_append_digits (by decide) group.all,
        longest_whole_separator separator, longest_eq_nil (.inr (.inl rfl)) noDigit]
    · exact judge_mark policy group.all (not_isDigit_of_isDateSeparator separator)
  | @noSecond digits day later mark group separator group' noDigit =>
    refine ⟨digits ++ mark :: day, later, by simp, ?_, ?_, fun policy => ?_⟩
    · simp only [List.length_append, List.length_cons, Form.reach]
      omega
    · rw [candidate, longest_append_digits (by decide) group.all,
        longest_whole_separator separator, group'.longest_separator,
        longest_middle_eq_nil group'.ends noDigit, List.append_nil]
    · exact judge_day policy group.all (not_isDigit_of_isDateSeparator separator)
        (ne_point_of_isDateSeparator separator) group'.nonempty group'.all
  | @openSecond digits day later mark next group separator group' separator' noDigit =>
    refine ⟨digits ++ mark :: (day ++ [next]), later, by simp, ?_, ?_, fun policy => ?_⟩
    · simp only [List.length_append, List.length_cons, List.length_nil, Form.reach]
      omega
    · rw [candidate, longest_append_digits (by decide) group.all,
        longest_whole_separator separator, group'.longest_separator,
        longest_middle_separator separator', longest_eq_nil (.inr (.inr rfl)) noDigit]
    · exact judge_next policy group.all (not_isDigit_of_isDateSeparator separator)
        (ne_point_of_isDateSeparator separator) group'.nonempty group'.all
        (not_isDigit_of_isDateSeparator separator')
  | @integer digits later group noDigit =>
    refine ⟨digits, later, rfl, rfl, ?_, fun policy => (Written.integer group.all).judge_eq⟩
    rw [candidate, longest_append_digits (by decide) group.all,
      longest_whole_eq_nil group.ends noDigit, List.append_nil]

end Shape

theorem utf8Size_of_isDigit {char : Char} (digit : isDigit char) : char.utf8Size = 1 := by
  rw [isDigit, Bool.and_eq_true, decide_eq_true_eq, decide_eq_true_eq, Char.le_def,
    Char.le_def] at digit
  have low : ('9' : Char).val ≤ 127 := by decide
  exact Char.utf8Size_eq_one_iff.mpr (UInt32.le_trans digit.2 low)

/-- A candidate is written with characters of one byte each, so its bytes are counted like
its characters. -/
theorem utf8Size_of_mem_candidate {text : List Char} {char : Char}
    (member : char ∈ candidate text) : char.utf8Size = 1 := by
  obtain ⟨phase, accepted⟩ := exists_isSome_of_mem_longest member
  by_cases digit : isDigit char = true
  · exact utf8Size_of_isDigit digit
  by_cases point : char = '.'
  · rw [point]
    decide
  by_cases separator : isDateSeparator char = true
  · rw [isDateSeparator, Bool.or_eq_true, beq_iff_eq, beq_iff_eq] at separator
    rcases separator with rfl | rfl <;> decide
  · cases phase <;> simp [Phase.step, digit, point, separator] at accepted

/-- A verdict on a candidate is about a beginning of it that is not empty. -/
theorem length_judge_pos {first : Char} (digit : isDigit first) (later : List Char)
    (policy : Policy) : 1 ≤ (judge policy (candidate (first :: later))).length := by
  cases verdict : judge policy (candidate (first :: later)) with
  | accept length kind => exact length_pos_of_accept digit verdict
  | reject length => exact length_pos_of_reject verdict

end Literal

/-! ## Consuming what was judged -/

namespace Lookahead

variable {σ : Type} [Source σ]

/-- So many characters are consumed if the window shows them, and none is drawn. -/
theorem advanceBy_of_shown {input : Lookahead σ} {count : Nat}
    (shown : count ≤ input.window.length) :
    input.advanceBy count = (count, input.consume count) := by
  cases count with
  | zero => rfl
  | succ count =>
    have seen : input.gather countdown count = input := by
      rw [gather, stateAfter?_countdown_eq_none_iff.mpr shown]
    rw [advanceBy, seen, Nat.min_eq_left shown]

/-- A literal is looked at as far as its candidate goes, and then as much is consumed as
was judged. -/
theorem literal_snd (input : Lookahead σ) (policy : Policy) (start : Located) :
    let looked := input.look (fun phase next => Literal.Phase.step phase next.char) .whole
    (input.literal policy start).2 =
      looked.2.consume (Literal.judge policy (chars looked.1)).length := by
  intro looked
  simp only [literal, looked]
  split <;> rename_i verdict <;> rw [verdict] <;> rfl

end Lookahead

namespace Literal

/-- **What becomes of a text that starts with a digit.** Such a text has a shape, and its
candidate is what the shape covers. Under every policy the verdict on the candidate is
that of the form, whatever follows the shape in the text. The verdict is about a beginning
of the candidate that is not empty, and each character of the candidate is one byte. An
input in whose view the text stands consumes exactly as many characters as the verdict is
about, and has the rest of the text in view. -/
theorem judge_candidate {σ : Type} [Source σ] {first : Char} (digit : isDigit first)
    (later : List Char) :
    let text := first :: later
    (∃ form, Shape text form) ∧ ∀ form, Shape text form →
      candidate text = text.take form.reach ∧ candidate text <+: text ∧
        (∀ char ∈ candidate text, char.utf8Size = 1) ∧
        ∀ policy, let verdict := judge policy (candidate text)
          verdict = form.verdict policy ∧ 1 ≤ verdict.length ∧
            verdict.length ≤ (candidate text).length ∧
            ∀ (input : Lookahead σ) (start : Located), chars input.outlook.characters = text →
              let seen := (input.look (fun phase next => Phase.step phase next.char) .whole).2
              let rest := (input.literal policy start).2
              seen.advanceBy verdict.length = (verdict.length, rest) ∧
                chars rest.outlook.characters = text.drop verdict.length := by
  intro text
  refine ⟨exists_shape digit later, fun form shape => ?_⟩
  obtain ⟨gathered, behind, whole, covers, isCandidate, judged⟩ := shape.exists_gathered
  have short (policy : Policy) := length_judge_le policy (candidate text)
  refine ⟨?_, candidate_begins text, fun char => utf8Size_of_mem_candidate, fun policy => ?_⟩
  · rw [isCandidate, whole, ← covers, List.take_left]
  refine ⟨by rw [isCandidate, judged], length_judge_pos digit later policy, short policy, ?_⟩
  intro input start inView seen rest
  obtain ⟨run, same, shown⟩ := input.look_eq (fun phase next => Phase.step phase next.char) .whole
  have looked : chars (input.look (fun phase next => Phase.step phase next.char)
      Phase.whole).1 = candidate text := by
    rw [run, ← inView]
    exact map_longest Located.char Phase.step .whole _
  have length := congrArg List.length looked
  rw [chars, List.length_map] at length
  have fits : (judge policy (candidate text)).length ≤ seen.window.length :=
    Nat.le_trans (short policy) (length ▸ shown)
  have consumed : rest = seen.consume (judge policy (candidate text)).length := by
    rw [← looked]
    exact input.literal_snd policy start
  rw [consumed]
  refine ⟨Lookahead.advanceBy_of_shown fits, ?_⟩
  rw [Lookahead.outlook_consume fits, same, ← inView]
  exact List.map_drop

/-- Two parts of a date and a point behind them: the point is not gathered, and rejecting
what is dangling takes both parts. -/
theorem judge_candidate_two_parts :
    let text := "12/3.5".toList
    let input := Lookahead.ofSource (LineReader.ofText "12/3.5")
    isDigit '1' ∧ Shape text (.dangling 2 4) ∧ candidate text = "12/3".toList ∧
      judge ⟨.split, false⟩ (candidate text) = .accept 2 .integer ∧
      judge ⟨.reject, false⟩ (candidate text) = .reject 4 ∧
      chars (input.literal ⟨.reject, false⟩ ⟨'1', ⟨1, 1⟩⟩).2.outlook.characters =
        ".5".toList := by
  intro text input
  have shape : Shape text (.dangling 2 4) :=
    @Shape.noSecond ['1', '2'] ['3'] ['.', '5'] '/'
      ⟨by decide, List.all_eq_true.mp (by decide), by decide⟩ (by decide)
      ⟨by decide, List.all_eq_true.mp (by decide), by decide⟩ (by decide)
  have law := (@judge_candidate LineReader _ '1' (by decide) "2/3.5".toList).2 _ shape
  have inView : chars input.outlook.characters = text := by
    rw [Lookahead.outlook_ofSource, LineReader.deliver_ofText]
    exact map_char_locate _ _
  have splits := law.2.2.2 ⟨.split, false⟩
  have reject' := law.2.2.2 ⟨.reject, false⟩
  have consumed := (reject'.2.2.2 input ⟨'1', ⟨1, 1⟩⟩ inView).2
  rw [reject'.1] at consumed
  exact ⟨by decide, shape, law.1, splits.1, reject'.1, consumed⟩

end Literal

end Lexis
