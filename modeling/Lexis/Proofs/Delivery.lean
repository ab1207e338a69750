import Lexis.Source.Basic

/-!
# What a source delivers

Reading a source again and again delivers characters, each with the position
that the source states right after it, until the source ends or fails
(`Source.deliver`). The reads one by one give that delivery back: so many reads
deliver its characters in order (`Source.read_after_of_lt`), and the next one
answers how it ended (`Source.read_after_length`).
-/

namespace Lexis

set_option autoImplicit false

/-- The characters that a source delivers, and the fault that ended them if the
source did not just end. -/
structure Delivery where
  characters : List Located
  fault : Option Fault
  deriving DecidableEq

namespace Delivery

/-- What the read after the last character answers. -/
def ending (delivery : Delivery) : Reading :=
  match delivery.fault with
  | none => .ended
  | some fault => .failed fault

theorem ending_ne_char (delivery : Delivery) (char : Char) : delivery.ending ≠ .char char := by
  unfold ending
  split <;> exact nofun

/-- A delivery with more characters in front. -/
def after (characters : List Located) (delivery : Delivery) : Delivery :=
  { delivery with characters := characters ++ delivery.characters }

@[simp]
theorem after_nil (delivery : Delivery) : after [] delivery = delivery :=
  rfl

@[simp]
theorem after_after (first second : List Located) (delivery : Delivery) :
    after first (after second delivery) = after (first ++ second) delivery := by
  simp [after]

end Delivery

namespace Source

variable {σ : Type} [Source σ]

/-- Reads a source up to its end or its first fault. -/
def deliver (source : σ) : Delivery :=
  match _answer : read source with
  | (.char char, next) => .after [⟨char, position next⟩] (deliver next)
  | (.ended, _) => ⟨[], none⟩
  | (.failed fault, _) => ⟨[], some fault⟩
termination_by remaining source
decreasing_by exact remaining_lt _answer

theorem deliver_of_char {source next : σ} {char : Char}
    (answer : read source = (.char char, next)) :
    deliver source = .after [⟨char, position next⟩] (deliver next) := by
  rw [deliver]
  split <;> simp_all

theorem deliver_of_ended {source next : σ} (answer : read source = (.ended, next)) :
    deliver source = ⟨[], none⟩ := by
  rw [deliver]
  split <;> simp_all

theorem deliver_of_failed {source next : σ} {fault : Fault}
    (answer : read source = (.failed fault, next)) : deliver source = ⟨[], some fault⟩ := by
  rw [deliver]
  split <;> simp_all

/-- What a source delivers is decided by what the next read answers. -/
theorem deliver_congr {first second : σ} (same : read first = read second) :
    deliver first = deliver second := by
  rcases answer : read second with ⟨char | _ | fault, next⟩
  · rw [deliver_of_char answer, deliver_of_char (same.trans answer)]
  · rw [deliver_of_ended answer, deliver_of_ended (same.trans answer)]
  · rw [deliver_of_failed answer, deliver_of_failed (same.trans answer)]

/-! ## One read after the other -/

/-- The source after so many reads. -/
def after (source : σ) : Nat → σ
  | 0 => source
  | count + 1 => after (read source).2 count

theorem after_succ (source : σ) (count : Nat) :
    after source (count + 1) = (read (after source count)).2 := by
  induction count generalizing source with
  | zero => rfl
  | succ count ih => exact ih (read source).2

/-- **As long as there are characters to deliver, each read answers the next of
them, and the source then states its position.** -/
theorem read_after_of_lt {source : σ} {count : Nat} {located : Located}
    (delivered : (deliver source).characters[count]? = some located) :
    (read (after source count)).1 = .char located.char ∧
      position (after source (count + 1)) = located.position := by
  induction count generalizing source with
  | zero =>
    rcases answer : read source with ⟨char | _ | fault, next⟩
    · rw [deliver_of_char answer] at delivered
      cases delivered
      simp [after, answer]
    · rw [deliver_of_ended answer] at delivered
      cases delivered
    · rw [deliver_of_failed answer] at delivered
      cases delivered
  | succ count ih =>
    rcases answer : read source with ⟨char | _ | fault, next⟩
    · rw [deliver_of_char answer] at delivered
      simpa [after, answer] using ih delivered
    · rw [deliver_of_ended answer] at delivered
      cases delivered
    · rw [deliver_of_failed answer] at delivered
      cases delivered

/-- **The read after the last character answers how the delivery ended.** -/
theorem read_after_length (source : σ) :
    (read (after source (deliver source).characters.length)).1 = (deliver source).ending := by
  rcases answer : read source with ⟨char | _ | fault, next⟩
  · have fewer := remaining_lt answer
    rw [deliver_of_char answer]
    simpa [Delivery.after, Delivery.ending, after, answer] using read_after_length next
  · simp [deliver_of_ended answer, Delivery.ending, after, answer]
  · simp [deliver_of_failed answer, Delivery.ending, after, answer]
termination_by remaining source

end Source

end Lexis
