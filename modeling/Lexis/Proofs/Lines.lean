import Lexis.Text.Lines
import Mathlib.Data.List.Induction
import Mathlib.Data.List.TakeWhile

/-!
# Where the parts of a text come from

Cutting a text at a separator distributes over the separator
(`splitOn_append_cons`), and a text without the separator is its only part
(`splitOn_of_not_mem`). The characters after the last line feed of a text are
its open line. Every beginning of a text has its open line inside one of the
parts of the text (`exists_mem_splitOn_of_begins`), and the lines of a text are
counted by its line feeds and its open line (`length_lines`).

What a text reads like line by line is said by rules, one for each way in which a line
ends (`InLines`). The lines of a text are what they say (`inLines_iff`).
-/

namespace Lexis

set_option autoImplicit false

/-! ## Parts -/

@[simp]
theorem splitOn_nil (separator : Char) : splitOn separator [] = [[]] :=
  rfl

theorem splitOn_cons (separator char : Char) (text : List Char) :
    splitOn separator (char :: text) = addBefore separator char (splitOn separator text) :=
  rfl

theorem splitOn_ne_nil (separator : Char) (text : List Char) : splitOn separator text ≠ [] := by
  cases text with
  | nil => simp
  | cons char later =>
    rw [splitOn_cons]
    unfold addBefore
    split
    · simp
    · split <;> simp

/-- A character that is no separator joins the first of the parts. -/
theorem addBefore_append {separator char : Char} {parts : List (List Char)}
    (nonempty : parts ≠ []) (more : List (List Char)) :
    addBefore separator char (parts ++ more) = addBefore separator char parts ++ more := by
  obtain ⟨part, later, rfl⟩ := List.exists_cons_of_ne_nil nonempty
  unfold addBefore
  split <;> rfl

/-- The parts on the two sides of a separator are the parts of the whole. -/
theorem splitOn_append_cons (separator : Char) (before after : List Char) :
    splitOn separator (before ++ separator :: after) =
      splitOn separator before ++ splitOn separator after := by
  induction before with
  | nil => simp [splitOn_cons, addBefore]
  | cons char later ih =>
    rw [List.cons_append, splitOn_cons, ih, addBefore_append (splitOn_ne_nil _ _), splitOn_cons]

theorem splitOn_of_not_mem {separator : Char} {text : List Char} (absent : separator ∉ text) :
    splitOn separator text = [text] := by
  induction text with
  | nil => rfl
  | cons char later ih =>
    have different : char ≠ separator := fun same => absent (same ▸ List.mem_cons_self)
    rw [splitOn_cons, ih fun member => absent (List.mem_cons_of_mem _ member), addBefore,
      if_neg different]

/-- There is one part more than there are separators. -/
theorem length_splitOn (separator : Char) (text : List Char) :
    (splitOn separator text).length = text.count separator + 1 := by
  induction text with
  | nil => rfl
  | cons char later ih =>
    rw [splitOn_cons]
    unfold addBefore
    split
    · rename_i same
      subst same
      rw [List.length_cons, ih, List.count_cons_self]
    · rename_i different
      rw [List.count_cons_of_ne different]
      split <;> rename_i parts
      · rwa [parts, List.length_cons] at ih
      · exact absurd parts (splitOn_ne_nil _ _)

/-! ## The open line -/

/-- The characters after the last line feed. -/
def openLine (text : List Char) : List Char :=
  (text.reverse.takeWhile (· != '\n')).reverse

theorem openLine_of_not_mem {text : List Char} (absent : '\n' ∉ text) : openLine text = text := by
  rw [openLine, List.takeWhile_eq_self_iff.mpr, List.reverse_reverse]
  intro char member
  exact bne_iff_ne.mpr fun same => absent (same ▸ List.mem_reverse.mp member)

@[simp]
theorem openLine_append_lineFeed (text : List Char) : openLine (text ++ ['\n']) = [] := by
  simp [openLine]

theorem openLine_append_of_not_mem {line : List Char} (absent : '\n' ∉ line)
    (text : List Char) : openLine (text ++ line) = openLine text ++ line := by
  have all : ∀ char ∈ line.reverse, (char != '\n') = true := fun char member =>
    bne_iff_ne.mpr fun same => absent (same ▸ List.mem_reverse.mp member)
  rw [openLine, List.reverse_append, List.takeWhile_append_of_pos all, List.reverse_append,
    List.reverse_reverse, openLine]

/-- What stands before a line feed does not show in the open line. -/
theorem openLine_append_cons (before after : List Char) :
    openLine (before ++ '\n' :: after) = openLine after := by
  induction after using List.reverseRecOn with
  | nil => exact openLine_append_lineFeed before
  | append_singleton after char ih =>
    rw [← List.cons_append, ← List.append_assoc]
    by_cases isFeed : char = '\n'
    · rw [isFeed, openLine_append_lineFeed, openLine_append_lineFeed]
    · have absent : '\n' ∉ [char] := by simpa using Ne.symm isFeed
      rw [openLine_append_of_not_mem absent, openLine_append_of_not_mem absent, ih]

/-- A text is its open line, after nothing or after a line feed. -/
theorem eq_openLine_or_append (text : List Char) :
    '\n' ∉ openLine text ∧
      (text = openLine text ∨ ∃ before, text = before ++ '\n' :: openLine text) := by
  induction text using List.reverseRecOn with
  | nil => exact ⟨by simp [openLine], .inl rfl⟩
  | append_singleton text char ih =>
    by_cases isFeed : char = '\n'
    · subst isFeed
      rw [openLine_append_lineFeed]
      exact ⟨List.not_mem_nil, .inr ⟨text, rfl⟩⟩
    · have absent : '\n' ∉ [char] := by simpa using Ne.symm isFeed
      rw [openLine_append_of_not_mem absent]
      refine ⟨by simp [ih.1, Ne.symm isFeed], ?_⟩
      rcases ih.2 with whole | ⟨before, whole⟩
      · exact .inl (congrArg (· ++ [char]) whole)
      · refine .inr ⟨before, ?_⟩
        conv => lhs; rw [whole]
        simp

/-- The last part of a text is its open line. -/
theorem exists_splitOn_eq_append (text : List Char) :
    ∃ parts, splitOn '\n' text = parts ++ [openLine text] := by
  obtain ⟨absent, whole | ⟨before, whole⟩⟩ := eq_openLine_or_append text
  · refine ⟨[], ?_⟩
    conv => lhs; rw [whole]
    exact splitOn_of_not_mem absent
  · refine ⟨splitOn '\n' before, ?_⟩
    conv => lhs; rw [whole]
    rw [splitOn_append_cons, splitOn_of_not_mem absent]

theorem exists_prefix_mem_splitOn {line : List Char} (absent : '\n' ∉ line) (rest : List Char) :
    ∃ part ∈ splitOn '\n' (line ++ rest), line <+: part := by
  induction rest generalizing line with
  | nil => exact ⟨line, by simp [splitOn_of_not_mem absent], List.prefix_rfl⟩
  | cons char later ih =>
    by_cases isFeed : char = '\n'
    · subst isFeed
      exact ⟨line, by simp [splitOn_append_cons, splitOn_of_not_mem absent], List.prefix_rfl⟩
    · obtain ⟨part, member, begins⟩ := @ih (line ++ [char]) (by simp [absent, Ne.symm isFeed])
      refine ⟨part, by simpa using member, (List.prefix_append _ _).trans begins⟩

/-- **The open line of a beginning of a text begins a part of the text.** -/
theorem exists_mem_splitOn_of_begins {before text : List Char} (begins : before <+: text) :
    ∃ part ∈ splitOn '\n' text, openLine before <+: part := by
  obtain ⟨rest, rfl⟩ := begins
  obtain ⟨absent, whole | ⟨earlier, whole⟩⟩ := eq_openLine_or_append before
  · rw [whole, openLine_of_not_mem absent]
    exact exists_prefix_mem_splitOn absent rest
  · obtain ⟨part, member, extends'⟩ := exists_prefix_mem_splitOn absent rest
    refine ⟨part, ?_, extends'⟩
    conv => lhs; rw [whole]
    rw [List.append_assoc, List.cons_append, splitOn_append_cons]
    exact List.mem_append_right _ member

/-! ## Lines -/

/-- The lines are those that line feeds end, and the open line if it is not
empty. -/
theorem length_lines (text : List Char) :
    (lines text).length = text.count '\n' + if openLine text = [] then 0 else 1 := by
  have counted := length_splitOn '\n' text
  obtain ⟨parts, whole⟩ := exists_splitOn_eq_append text
  rw [whole, List.length_append, List.length_singleton, Nat.add_right_cancel_iff] at counted
  rw [lines, whole]
  simp only [List.dropLast_concat, List.length_append, List.length_map, counted,
    List.getLast?_concat]
  split <;> simp_all

/-- A character stands on one of the lines of its text. -/
theorem count_lt_length_lines (before : List Char) (char : Char) (later : List Char) :
    before.count '\n' < (lines (before ++ char :: later)).length := by
  rw [length_lines, List.count_append]
  by_cases feeds : '\n' ∈ char :: later
  · have positive := List.count_pos_iff.mpr feeds
    omega
  · rw [openLine_append_of_not_mem feeds, if_neg (by simp)]
    omega

/-- Whether a text is some lines, each ended by a line feed or by a carriage return and a
line feed. The last line may lack its end if it is not empty. -/
inductive InLines : List Char → List (List Char) → Prop
  | nil : InLines [] []
  | last {line : List Char} (nonempty : line ≠ []) (oneLine : '\n' ∉ line) : InLines line [line]
  | lineFeed {line later : List Char} {rows : List (List Char)} (oneLine : '\n' ∉ line)
      (noReturn : line.getLast? ≠ some '\r') (rest : InLines later rows) :
      InLines (line ++ '\n' :: later) (line :: rows)
  | returnFeed {line later : List Char} {rows : List (List Char)} (oneLine : '\n' ∉ line)
      (rest : InLines later rows) : InLines (line ++ '\r' :: '\n' :: later) (line :: rows)

section Lines

variable {line : List Char} (oneLine : '\n' ∉ line)

include oneLine

theorem lines_of_not_mem (nonempty : line ≠ []) : lines line = [line] := by
  rw [lines, splitOn_of_not_mem oneLine]
  simp [nonempty]

theorem lines_append_lineFeed (later : List Char) :
    lines (line ++ '\n' :: later) = dropReturn line :: lines later := by
  obtain ⟨part, parts, found⟩ := List.exists_cons_of_ne_nil (splitOn_ne_nil '\n' later)
  rw [lines, lines, splitOn_append_cons, splitOn_of_not_mem oneLine, found]
  rfl

end Lines

theorem inLines_lines (text : List Char) : InLines text (lines text) := by
  by_cases feeds : '\n' ∈ text
  · obtain ⟨line, later, rfl, oneLine⟩ := List.eq_append_cons_of_mem feeds
    have rest := inLines_lines later
    rw [lines_append_lineFeed oneLine, dropReturn]
    split
    next ends =>
      obtain ⟨front, rfl⟩ := List.getLast?_eq_some_iff.mp ends
      rw [List.mem_append, not_or] at oneLine
      rw [List.dropLast_concat, List.append_assoc]
      exact .returnFeed oneLine.1 rest
    next noReturn => exact .lineFeed oneLine noReturn rest
  · cases text with
    | nil => exact .nil
    | cons char later =>
      rw [lines_of_not_mem feeds (List.cons_ne_nil _ _)]
      exact .last (List.cons_ne_nil _ _) feeds
termination_by text.length
decreasing_by
  rw [‹text = _›, List.length_append, List.length_cons]
  omega

/-- **A text is in some lines exactly when these are its lines.** -/
theorem inLines_iff {text : List Char} {rows : List (List Char)} :
    InLines text rows ↔ lines text = rows := by
  constructor
  · intro inLines
    induction inLines with
    | nil => rfl
    | last nonempty oneLine => exact lines_of_not_mem oneLine nonempty
    | lineFeed oneLine noReturn _ ih =>
      rw [lines_append_lineFeed oneLine, ih, dropReturn, if_neg noReturn]
    | @returnFeed line later rows oneLine _ ih =>
      have oneLine' : '\n' ∉ line ++ ['\r'] := by simpa using oneLine
      have split : line ++ '\r' :: '\n' :: later = (line ++ ['\r']) ++ '\n' :: later := by
        rw [List.append_assoc, List.singleton_append]
      rw [split, lines_append_lineFeed oneLine', ih, dropReturn, if_pos List.getLast?_concat,
        List.dropLast_concat]
  · rintro rfl
    exact inLines_lines text

end Lexis
