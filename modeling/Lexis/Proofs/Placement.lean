import Lexis.Position
import Lexis.Proofs.Lines
import Mathlib.Algebra.Group.Nat.Defs

/-!
# Places in a text

A place is a line and a column counted from one without a bound. The place after
a text moves to the next line at each line feed, so its line counts the line
feeds before it (`Place.line_after`) and its column the characters of the open
line (`Place.column_after`). Text that is placed carries for each character the
position that its place has in 32 bits (`locate`).

A text with fewer than `2 ^ 32` lines, each shorter than `2 ^ 32 - 1`, has its
characters at places that 32 bits can hold (`place_fits`), with a column to
spare behind each character that is no line feed.
-/

namespace Lexis

set_option autoImplicit false

theorem toNat_ofNatClamp (number : Nat) :
    (UInt32.ofNatClamp number).toNat = min number (2 ^ 32 - 1) := by
  by_cases fits : number < 2 ^ 32
  · rw [UInt32.toNat_ofNatClamp_of_lt fits]
    omega
  · rw [UInt32.toNat_ofNatClamp_of_le (Nat.le_of_not_lt fits)]
    show 2 ^ 32 - 1 = _
    omega

theorem toNat_add_one {number : UInt32} (below : number.toNat + 1 < 2 ^ 32) :
    (number + 1).toNat = number.toNat + 1 :=
  (UInt32.toNat_add number 1).trans (Nat.mod_eq_of_lt below)

theorem toNat_nextColumn {column : UInt32} (below : column.toNat + 1 < 2 ^ 32) :
    (nextColumn column).toNat = column.toNat + 1 :=
  toNat_add_one below

/-- A line and a column without a bound. -/
structure Place where
  line : Nat
  column : Nat
  deriving DecidableEq

namespace Place

/-- Where a text starts. -/
def start : Place :=
  ⟨1, 1⟩

/-- The place after a character: a line feed ends its line. -/
def next (place : Place) (char : Char) : Place :=
  if char = '\n' then ⟨place.line + 1, 1⟩ else ⟨place.line, place.column + 1⟩

/-- The place after a text. -/
def after (place : Place) (text : List Char) : Place :=
  text.foldl next place

/-- A place in 32 bits, where columns stay at the last one and lines, without a check, wrap. -/
def position (place : Place) : Position :=
  ⟨.ofNat place.line, .ofNatClamp place.column⟩

@[simp]
theorem after_nil (place : Place) : place.after [] = place :=
  rfl

@[simp]
theorem after_cons (place : Place) (char : Char) (later : List Char) :
    place.after (char :: later) = (place.next char).after later :=
  rfl

@[simp]
theorem after_append (place : Place) (first second : List Char) :
    place.after (first ++ second) = (place.after first).after second :=
  List.foldl_append

@[simp]
theorem next_lineFeed (place : Place) : place.next '\n' = ⟨place.line + 1, 1⟩ :=
  rfl

theorem next_of_ne {char : Char} (different : char ≠ '\n') (place : Place) :
    place.next char = ⟨place.line, place.column + 1⟩ :=
  if_neg different

/-- Text without a line feed stays on its line. -/
theorem after_of_not_mem {text : List Char} (absent : '\n' ∉ text) (place : Place) :
    place.after text = ⟨place.line, place.column + text.length⟩ := by
  induction text generalizing place with
  | nil => rfl
  | cons char later ih =>
    have different : char ≠ '\n' := fun same => absent (same ▸ List.mem_cons_self)
    rw [after_cons, next_of_ne different, ih fun member => absent (List.mem_cons_of_mem _ member),
      List.length_cons]
    simp only [mk.injEq, true_and]
    omega

theorem line_after (place : Place) (text : List Char) :
    (place.after text).line = place.line + text.count '\n' := by
  induction text generalizing place with
  | nil => rfl
  | cons char later ih =>
    rw [after_cons, ih]
    by_cases isFeed : char = '\n'
    · subst isFeed
      rw [next_lineFeed, List.count_cons_self, Nat.add_right_comm, Nat.add_assoc]
    · rw [next_of_ne isFeed, List.count_cons_of_ne isFeed]

theorem column_after (text : List Char) :
    (start.after text).column = 1 + (openLine text).length := by
  obtain ⟨absent, whole | ⟨before, whole⟩⟩ := eq_openLine_or_append text
  · conv => lhs; rw [whole]
    rw [after_of_not_mem absent]
    rfl
  · conv => lhs; rw [whole]
    rw [after_append, after_cons, next_lineFeed, after_of_not_mem absent]

theorem toNat_line_position {place : Place} (fits : place.line < 2 ^ 32) :
    place.position.line.toNat = place.line :=
  UInt32.toNat_ofNat_of_lt' fits

theorem toNat_column_position {place : Place} (fits : place.column < 2 ^ 32) :
    place.position.column.toNat = place.column :=
  UInt32.toNat_ofNatClamp_of_lt fits

end Place

/-! ## Placed text -/

/-- The characters of a text, each at its place in 32 bits. -/
def locate (place : Place) : List Char → List Located
  | [] => []
  | char :: later => ⟨char, place.position⟩ :: locate (place.next char) later

theorem locate_append (place : Place) (first second : List Char) :
    locate place (first ++ second) = locate place first ++ locate (place.after first) second := by
  induction first generalizing place with
  | nil => rfl
  | cons char later ih => simp [locate, ih]

@[simp]
theorem map_char_locate (place : Place) (text : List Char) :
    (locate place text).map Located.char = text := by
  induction text generalizing place with
  | nil => rfl
  | cons char later ih => simp [locate, ih]

@[simp]
theorem length_locate (place : Place) (text : List Char) :
    (locate place text).length = text.length := by
  rw [← List.length_map Located.char, map_char_locate]

theorem drop_locate (place : Place) (text : List Char) (count : Nat) :
    (locate place text).drop count = locate (place.after (text.take count)) (text.drop count) := by
  induction text generalizing place count with
  | nil => simp [locate]
  | cons char later ih =>
    cases count with
    | zero => rfl
    | succ count => exact ih (place.next char) count

/-! ## Places that 32 bits can hold -/

section Range

variable {text : List Char}

/-- **The places of a text that is not too long fit in 32 bits.** -/
theorem place_fits (fewLines : (lines text).length < 2 ^ 32)
    (shortLines : ∀ line ∈ splitOn '\n' text, line.length < 2 ^ 32 - 1)
    {before later : List Char} {char : Char} (whole : text = before ++ char :: later) :
    (Place.start.after before).line < 2 ^ 32 ∧ (Place.start.after before).column < 2 ^ 32 ∧
      (char ≠ '\n' → (Place.start.after before).column + 1 < 2 ^ 32) := by
  have counted := count_lt_length_lines before char later
  rw [← whole] at counted
  obtain ⟨line, member, begins⟩ := exists_mem_splitOn_of_begins ⟨char :: later, whole.symm⟩
  have short := shortLines line member
  have bound := begins.length_le
  rw [Place.line_after, Place.column_after]
  refine ⟨?_, by omega, fun different => ?_⟩
  · show 1 + _ < _
    omega
  · have extended : before ++ [char] <+: text := ⟨later, by rw [whole]; simp⟩
    obtain ⟨line, member, begins⟩ := exists_mem_splitOn_of_begins extended
    have short := shortLines line member
    have bound := begins.length_le
    rw [openLine_append_of_not_mem (by simpa using Ne.symm different), List.length_append,
      List.length_singleton] at bound
    omega

/-- The place after a text fits if there is a line to spare. -/
theorem place_after_fits (fewLines : (lines text).length < 2 ^ 32 - 1)
    (shortLines : ∀ line ∈ splitOn '\n' text, line.length < 2 ^ 32 - 1) :
    (Place.start.after text).line < 2 ^ 32 ∧ (Place.start.after text).column < 2 ^ 32 := by
  obtain ⟨line, member, begins⟩ := exists_mem_splitOn_of_begins (List.prefix_rfl (l := text))
  have short := shortLines line member
  have bound := begins.length_le
  rw [length_lines] at fewLines
  rw [Place.line_after, Place.column_after]
  constructor
  · show 1 + _ < _
    omega
  · omega

end Range

end Lexis
