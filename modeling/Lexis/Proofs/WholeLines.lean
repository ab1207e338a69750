import Lexis.Proofs.Placement

/-!
# The lines of a text and the places in them

Cut behind each line feed, a text is the sequence of its whole lines
(`flatten_wholeLines`). A place names a line and a column in it, and what the text
has from there to the end of the line is the rest of the line at that place. The
place after a beginning of the text finds what follows that beginning
(`restOfLine_after`): counting line feeds and the characters of the open line
leads to where one has come by reading. Without what ends them, whole lines are the
lines of the text (`lines_eq_map_wholeLines`).

Places are ordered as they are met in a text: by lines, and by columns on a
line. Reading on leads to later places (`Place.le_after`, `Place.lt_after`).
-/

namespace Lexis

set_option autoImplicit false

/-! ## Whole lines -/

/-- The lines of a text, each with the line feed that ends it. -/
def wholeLines : List Char → List (List Char)
  | [] => []
  | char :: later =>
      if char = '\n' then [char] :: wholeLines later
      else
        match wholeLines later with
        | [] => [[char]]
        | line :: more => (char :: line) :: more

/-- The first line of a text, or nothing if there is none. -/
def firstLine (text : List Char) : List Char :=
  (wholeLines text).head?.getD []

/-- What a line has from a place on. -/
def restOfLine (text : List Char) (place : Place) : List Char :=
  ((wholeLines text)[place.line - 1]?.getD []).drop (place.column - 1)

theorem wholeLines_lineFeed (later : List Char) :
    wholeLines ('\n' :: later) = ['\n'] :: wholeLines later :=
  if_pos rfl

/-- A character that is no line feed joins the first of the lines. -/
theorem wholeLines_of_ne {char : Char} (other : char ≠ '\n') (later : List Char) :
    wholeLines (char :: later) = (char :: firstLine later) :: (wholeLines later).tail := by
  rw [wholeLines, if_neg other, firstLine]
  cases wholeLines later with
  | nil => rfl
  | cons line more => rfl

/-- **The whole lines in a row are the text.** -/
theorem flatten_wholeLines (text : List Char) : (wholeLines text).flatten = text := by
  induction text with
  | nil => rfl
  | cons char later ih =>
    by_cases isFeed : char = '\n'
    · rw [isFeed, wholeLines_lineFeed, List.flatten_cons, ih]
      rfl
    · rw [wholeLines_of_ne isFeed, List.flatten_cons, List.cons_append]
      refine congrArg (char :: ·) (Eq.trans ?_ ih)
      rw [firstLine]
      cases wholeLines later with
      | nil => rfl
      | cons line more => rfl

theorem firstLine_append {line : List Char} (oneLine : '\n' ∉ line) (rest : List Char) :
    firstLine (line ++ rest) = line ++ firstLine rest := by
  induction line with
  | nil => rfl
  | cons char later ih =>
    rw [List.mem_cons, not_or] at oneLine
    rw [List.cons_append, firstLine, wholeLines_of_ne (Ne.symm oneLine.1), ih oneLine.2]
    rfl

theorem firstLine_ne_nil (char : Char) (later : List Char) : firstLine (char :: later) ≠ [] := by
  by_cases isFeed : char = '\n'
  · rw [isFeed, firstLine, wholeLines_lineFeed]
    exact List.cons_ne_nil _ _
  · rw [firstLine, wholeLines_of_ne isFeed]
    exact List.cons_ne_nil _ _

/-- The lines behind a line feed are the lines of what stands behind it. -/
theorem drop_wholeLines (before rest : List Char) :
    (wholeLines (before ++ '\n' :: rest)).drop (before.count '\n' + 1) = wholeLines rest := by
  induction before with
  | nil => rw [List.nil_append, wholeLines_lineFeed, List.count_nil, List.drop_one, List.tail_cons]
  | cons char later ih =>
    by_cases isFeed : char = '\n'
    · rw [isFeed, List.cons_append, wholeLines_lineFeed, List.count_cons_self,
        List.drop_succ_cons, ih]
    · rw [List.cons_append, wholeLines_of_ne isFeed, List.count_cons_of_ne isFeed,
        List.drop_succ_cons, ← ih, ← List.drop_one, List.drop_drop, Nat.add_comm]

/-- The line after so many line feeds starts with the line that they leave open. -/
theorem getElem?_wholeLines (before rest : List Char) :
    (wholeLines (before ++ rest))[before.count '\n']? =
      (wholeLines (openLine before ++ rest)).head? := by
  rw [← List.head?_drop]
  obtain ⟨oneLine, whole | ⟨earlier, whole⟩⟩ := eq_openLine_or_append before
  · rw [whole, List.count_eq_zero.mpr oneLine, openLine_of_not_mem oneLine, List.drop_zero]
  · conv =>
      lhs
      rw [whole]
    rw [List.count_append, List.count_cons_self, List.count_eq_zero.mpr oneLine,
      List.append_assoc, List.cons_append, drop_wholeLines]

theorem line_after_start (before : List Char) :
    (Place.start.after before).line - 1 = before.count '\n' := by
  rw [Place.line_after]
  exact Nat.add_sub_cancel_left 1 _

/-- **The place after the beginning of a text finds what follows it.** -/
theorem restOfLine_after (before rest : List Char) :
    restOfLine (before ++ rest) (Place.start.after before) = firstLine rest := by
  have column : (Place.start.after before).column - 1 = (openLine before).length := by
    rw [Place.column_after, Nat.add_sub_cancel_left]
  have found : (wholeLines (before ++ rest))[before.count '\n']?.getD [] =
      firstLine (openLine before ++ rest) := by
    rw [getElem?_wholeLines, firstLine]
  rw [restOfLine, line_after_start, column, found,
    firstLine_append (eq_openLine_or_append before).1, List.drop_left]

/-- The line of the place after the beginning of a text is what that leaves open,
and what follows on the line. -/
theorem getElem?_wholeLines_after (before : List Char) {rest : List Char} (nonempty : rest ≠ []) :
    (wholeLines (before ++ rest))[(Place.start.after before).line - 1]? =
      some (openLine before ++ firstLine rest) := by
  obtain ⟨char, later, whole⟩ :=
    List.exists_cons_of_ne_nil (List.append_ne_nil_of_right_ne_nil (openLine before) nonempty)
  have shown := firstLine_ne_nil char later
  rw [line_after_start, getElem?_wholeLines, ← firstLine_append (eq_openLine_or_append before).1,
    whole]
  rw [firstLine] at shown ⊢
  cases found : (wholeLines (char :: later)).head? with
  | none =>
    rw [found] at shown
    exact absurd rfl shown
  | some line => rfl

/-- What begins on a line and stays there begins the rest of the line. -/
theorem begins_restOfLine {text before line rest : List Char} (whole : text = before ++ rest)
    (begins : line <+: rest) (oneLine : '\n' ∉ line) :
    line <+: restOfLine text (Place.start.after before) := by
  obtain ⟨more, rfl⟩ := begins
  rw [whole, restOfLine_after, firstLine_append oneLine]
  exact List.prefix_append _ _

/-! ## Lines without what ends them -/

/-- A whole line without what ends it: a line feed, and a carriage return before
that. -/
def withoutEnd (line : List Char) : List Char :=
  if line.getLast? = some '\n' then dropReturn line.dropLast else line

/-- Whole lines are the parts between line feeds, each with the line feed behind it,
and the last part if it is not empty. -/
theorem wholeLines_eq (text : List Char) :
    wholeLines text = (splitOn '\n' text).dropLast.map (· ++ ['\n']) ++
      (splitOn '\n' text).getLast?.toList.filter (!·.isEmpty) := by
  induction text with
  | nil => rfl
  | cons char later ih =>
    rw [splitOn_cons]
    obtain ⟨part, parts, found⟩ := List.exists_cons_of_ne_nil (splitOn_ne_nil '\n' later)
    rw [found] at ih
    rw [found, addBefore]
    by_cases isFeed : char = '\n'
    · subst isFeed
      rw [if_pos rfl, wholeLines_lineFeed, ih]
      rfl
    · rw [if_neg isFeed, wholeLines_of_ne isFeed, firstLine, ih]
      cases parts with
      | nil => cases part <;> rfl
      | cons next more => rfl

/-- **The lines of a text are its whole lines without what ends them.** -/
theorem lines_eq_map_wholeLines (text : List Char) :
    lines text = (wholeLines text).map withoutEnd := by
  obtain ⟨parts, whole⟩ := exists_splitOn_eq_append text
  have ended (part : List Char) : withoutEnd (part ++ ['\n']) = dropReturn part := by
    simp [withoutEnd]
  have unfed : ((openLine text).getLast? = some '\n') = False :=
    eq_false fun feeds => (eq_openLine_or_append text).1 (List.mem_of_getLast? feeds)
  have last : [openLine text].filter (!·.isEmpty) =
      ([openLine text].filter (!·.isEmpty)).map withoutEnd := by
    cases shown : openLine text with
    | nil => rfl
    | cons char later =>
      rw [shown] at unfed
      simp [withoutEnd, unfed]
  rw [wholeLines_eq, lines, whole, List.dropLast_concat, List.getLast?_concat, Option.toList_some,
    List.map_append, List.map_map, ← last]
  exact congrArg (· ++ _) (List.map_congr_left fun part _ => (ended part).symm)

/-- What begins a whole line and does not end with what ends a line begins the line
without it. -/
theorem begins_withoutEnd {front line : List Char} (begins : front <+: line)
    (feed : front.getLast? ≠ some '\n') (carriage : front.getLast? ≠ some '\r') :
    front <+: withoutEnd line := by
  -- A last character that is not the last of the front can be taken off the line.
  have dropLast' {line : List Char} {char : Char} (begins : front <+: line)
      (last : line.getLast? = some char) (other : front.getLast? ≠ some char) :
      front <+: line.dropLast := by
    obtain ⟨earlier, rfl⟩ := List.getLast?_eq_some_iff.mp last
    rw [List.dropLast_concat]
    refine (List.prefix_concat_iff.mp begins).resolve_left ?_
    rintro rfl
    exact other List.getLast?_concat
  unfold withoutEnd
  split
  · rename_i ended
    have inner := dropLast' begins ended feed
    unfold dropReturn
    split
    · rename_i returned
      exact dropLast' inner returned carriage
    · exact inner
  · exact begins

/-! ## The order of places -/

namespace Place

instance : LT Place :=
  ⟨fun first second =>
    first.line < second.line ∨ first.line = second.line ∧ first.column < second.column⟩

instance : LE Place :=
  ⟨fun first second =>
    first.line < second.line ∨ first.line = second.line ∧ first.column ≤ second.column⟩

theorem lt_def {first second : Place} :
    first < second ↔
      first.line < second.line ∨ first.line = second.line ∧ first.column < second.column :=
  Iff.rfl

theorem le_def {first second : Place} :
    first ≤ second ↔
      first.line < second.line ∨ first.line = second.line ∧ first.column ≤ second.column :=
  Iff.rfl

variable {first second third : Place}

theorem le_refl (place : Place) : place ≤ place :=
  .inr ⟨rfl, Nat.le_refl _⟩

theorem le_trans (before : first ≤ second) (after : second ≤ third) : first ≤ third := by
  rw [le_def] at *
  omega

theorem le_of_lt (before : first < second) : first ≤ second := by
  rw [lt_def] at before
  rw [le_def]
  omega

theorem lt_of_lt_of_le (before : first < second) (after : second ≤ third) : first < third := by
  rw [lt_def] at *
  rw [le_def] at after
  omega

theorem lt_of_le_of_lt (before : first ≤ second) (after : second < third) : first < third := by
  rw [lt_def] at *
  rw [le_def] at before
  omega

theorem not_lt_of_le (before : first ≤ second) : ¬second < first := by
  rw [le_def] at before
  rw [lt_def]
  omega

theorem lt_next (place : Place) (char : Char) : place < place.next char := by
  by_cases isFeed : char = '\n'
  · subst isFeed
    exact .inl (Nat.lt_succ_self _)
  · rw [next_of_ne isFeed]
    exact .inr ⟨rfl, Nat.lt_succ_self _⟩

/-- **Reading on leads to no earlier place.** -/
theorem le_after (place : Place) (text : List Char) : place ≤ place.after text := by
  induction text generalizing place with
  | nil => exact le_refl place
  | cons char later ih => exact le_trans (le_of_lt (lt_next place char)) (ih _)

/-- The places of a text are counted from one. -/
theorem one_le_after_start (text : List Char) :
    1 ≤ (start.after text).line ∧ 1 ≤ (start.after text).column := by
  rw [line_after, column_after]
  exact ⟨Nat.le_add_right 1 _, Nat.le_add_right 1 _⟩

/-- A longer beginning of a text ends at a later place. -/
theorem after_le_after (place : Place) {before longer : List Char} (begins : before <+: longer) :
    place.after before ≤ place.after longer := by
  obtain ⟨more, rfl⟩ := begins
  rw [after_append]
  exact le_after _ more

end Place

/-! ## Lines that are short enough -/

/-- **The places of a text whose whole lines are few and short fit in 32 bits,**
with a column to spare behind each character. -/
theorem place_fits_wholeLines {text : List Char} (fewLines : (wholeLines text).length < 2 ^ 32)
    (shortLines : ∀ line ∈ wholeLines text, line.length < 2 ^ 32 - 1)
    {before later : List Char} {char : Char} (whole : text = before ++ char :: later) :
    (Place.start.after before).line < 2 ^ 32 ∧ (Place.start.after before).column + 1 < 2 ^ 32 := by
  have shown : restOfLine text (Place.start.after before) ≠ [] := by
    rw [whole, restOfLine_after]
    exact firstLine_ne_nil char later
  rw [restOfLine] at shown
  cases found : (wholeLines text)[(Place.start.after before).line - 1]? with
  | none =>
    rw [found] at shown
    exact absurd List.drop_nil shown
  | some line =>
    rw [found, Option.getD_some, Ne, List.drop_eq_nil_iff] at shown
    have short := shortLines line (List.mem_of_getElem? found)
    have few := (List.getElem?_eq_some_iff.mp found).1
    constructor
    · omega
    · omega

end Lexis
