import Lexis.CharacterClass
import Lexis.Listing
import Lexis.Proofs.WholeLines
import Mathlib.Data.List.Basic

/-!
# What a listing shows

A listing has one row for each line of its text, behind the number of the line. A
text without a blank that stands on a line of the listed text stands on the row of
that number, in the columns that its place and its length say (`shows_listing`).
Carriage returns and line feeds at the end of a line are not listed, but these are
blanks, so what is cut off lies behind.

The numbers of such places stay below those of the rows and their lengths
(`place_fits_lines`).
-/

namespace Lexis

set_option autoImplicit false

/-- Whether a line has a text from a column through another, counted from one. -/
def Spans (line : List Char) (left right : Nat) (text : List Char) : Prop :=
  ∃ front behind, line = front ++ (text ++ behind) ∧ left = front.length + 1 ∧
    right = front.length + text.length

/-- Whether the row with a number shows a text from a column through another,
counted behind the number. -/
def Shows (printed : List String) (number left right : Nat) (text : List Char) : Prop :=
  1 ≤ number ∧ ∃ line, printed[number - 1]? = some (listingLine number line) ∧
    Spans line left right text

section Words

variable {before word : List Char} (nonempty : word ≠ [])
  (noBlank : ∀ char ∈ word, isBlank char = false)

include nonempty noBlank

/-- **Text without a blank stands on the line that its place says,** behind what is
open of the line before it. -/
theorem exists_lines_after (later : List Char) :
    ∃ line, (lines (before ++ (word ++ later)))[(Place.start.after before).line - 1]? =
        some line ∧ openLine before ++ word <+: line := by
  have feedless : '\n' ∉ word := by
    intro member
    exact absurd (noBlank '\n' member) (by decide)
  have last {char : Char} (blank : isBlank char = true) :
      (openLine before ++ word).getLast? ≠ some char := by
    rw [List.getLast?_append_of_ne_nil _ nonempty]
    intro ends
    rw [noBlank char (List.mem_of_getLast? ends)] at blank
    cases blank
  have begins : openLine before ++ word <+:
      openLine before ++ firstLine (word ++ later) := by
    rw [firstLine_append feedless, ← List.append_assoc]
    exact List.prefix_append _ _
  have found := getElem?_wholeLines_after before (List.append_ne_nil_of_left_ne_nil nonempty later)
  refine ⟨withoutEnd (openLine before ++ firstLine (word ++ later)), ?_,
    begins_withoutEnd begins (last (by decide)) (last (by decide))⟩
  rw [lines_eq_map_wholeLines, List.getElem?_map, found]
  rfl

/-- **A listing shows each text without a blank at its place.** -/
theorem shows_listing (later : List Char) :
    let place := Place.start.after before
    Shows (listing (before ++ (word ++ later))) place.line place.column
      (place.column + word.length - 1) word := by
  intro place
  obtain ⟨line, found, behind, whole⟩ := exists_lines_after nonempty noBlank later
  have positive := (Place.one_le_after_start before).1
  have column : place.column = 1 + (openLine before).length := Place.column_after before
  refine ⟨positive, line, ?_, openLine before, behind, ?_, by omega, by omega⟩
  · rw [listing, List.getElem?_mapIdx, found, Nat.sub_add_cancel positive]
    rfl
  · rw [← whole, List.append_assoc]

/-- Places of text without a blank fit in 32 bits, if the lines do. -/
theorem place_fits_lines {text later : List Char} (whole : text = before ++ (word ++ later))
    (fewLines : (lines text).length < 2 ^ 32)
    (shortLines : ∀ line ∈ lines text, line.length < 2 ^ 32 - 1) :
    (Place.start.after before).line < 2 ^ 32 ∧
      (Place.start.after before).column + word.length < 2 ^ 32 := by
  obtain ⟨line, found, begins⟩ := exists_lines_after nonempty noBlank later
  rw [← whole] at found
  have few := (List.getElem?_eq_some_iff.mp found).1
  have short := shortLines line (List.mem_of_getElem? found)
  have bound := begins.length_le
  have column := Place.column_after before
  rw [List.length_append] at bound
  omega

end Words

/-- The last character of a text stands on its last line. -/
theorem length_listing_append_singleton (before : List Char) (char : Char) :
    (listing (before ++ [char])).length = (Place.start.after before).line := by
  rw [listing, List.length_mapIdx, length_lines, Place.line_after]
  show _ = 1 + _
  by_cases isFeed : char = '\n'
  · rw [isFeed, openLine_append_lineFeed, if_pos rfl, List.count_append, List.count_singleton_self]
    omega
  · have absent : '\n' ∉ [char] := by simpa using Ne.symm isFeed
    rw [openLine_append_of_not_mem absent, if_neg (by simp), List.count_append,
      List.count_eq_zero.mpr absent]
    omega

end Lexis
