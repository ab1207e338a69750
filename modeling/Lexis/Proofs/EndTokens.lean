import Lexis.Proofs.Overflows
import Lexis.Proofs.Requests
import Lexis.Source.Script

/-!
# Where the token that marks the end stands

The token that marks the end stands past the character that was drawn last. A source with a
record of its calls tells which one that is: the characters drawn are those that its reads
answered, and they are the first that the source delivers (`Lookahead.HasDrawn`). Every
draw adds the next of them, and neither scanning nor closing does anything else to them, so
this holds after any calls for tokens.

Right, line and left of the token follow from the position of that character. The column
past it is found by adding one, and unlike the column past a lexeme it does not stay at the
highest number. Behind the highest column the addition overflows, so there the program makes no
such token and stops, and nowhere else (`Session.endToken_pull`).
-/

namespace Lexis

set_option autoImplicit false

/-! ## The token past a position -/

/-- A line is counted from one. -/
theorem one_le_max_one (line : UInt32) : 1 ≤ max line 1 := by
  show 1 ≤ if line ≤ 1 then 1 else line
  split
  · exact UInt32.le_refl 1
  · exact UInt32.le_of_lt (UInt32.not_le.mp ‹_›)

/-- Whether a token marks the end behind a character at a position, which is the origin if
there is no character. The left column is one further, and no column is further than the
highest one. -/
structure Token.MarksEndBehind (token : Token) (last : Position) : Prop where
  isEnd : token.isEnd
  right : token.right = last.column
  line : token.line = max last.line 1
  one_le_line : 1 ≤ token.line
  left : token.left.toNat = last.column.toNat + 1
  left_eq_min : token.left.toNat = min (last.column.toNat + 1) (2 ^ 32 - 1)
  lt_left : last.column < token.left

theorem Session.marksEndBehind_endToken {σ : Type} (session : Session σ) (table : SymbolTable)
    (below : session.input.last.column.toNat + 1 < 2 ^ 32) :
    (session.endToken table).MarksEndBehind session.input.last := by
  have left : (session.endToken table).left.toNat = session.input.last.column.toNat + 1 :=
    toNat_nextColumn below
  refine ⟨session.isEnd_endToken table, rfl, rfl, one_le_max_one _, left, ?_, ?_⟩
  · rw [left]
    exact (Nat.min_eq_left (Nat.le_sub_one_of_lt below)).symm
  · rw [UInt32.lt_iff_toNat_lt, left]
    exact Nat.lt_succ_self _

/-! ## Characters drawn -/

namespace Lookahead

variable {σ : Type} [Source σ]

/-- An input that has drawn the first of some characters, those on the record of its source,
and has the others still to draw where it is not drained. -/
def HasDrawn (whole : List Located) (input : Lookahead (Watched σ)) : Prop :=
  ∃ drawn later, whole = drawn ++ later ∧ chars drawn = input.source.drawn ∧
    input.last = lastPosition .origin drawn ∧
    (input.drained = false → input.toDraw.characters = later)

theorem hasDrawn_ofSource (source : σ) :
    (ofSource (Watched.new source)).HasDrawn (Source.deliver source).characters := by
  refine ⟨[], _, rfl, rfl, rfl, fun _ => ?_⟩
  have delivered := Watched.deliver_eq (Watched.new source)
  exact congrArg Delivery.characters delivered

section Kept

variable {whole : List Located} {input : Lookahead (Watched σ)}

/-- **Each draw is of the next character.** -/
theorem HasDrawn.draw (hasDrawn : input.HasDrawn whole) : input.draw.2.HasDrawn whole := by
  cases drained : input.drained with
  | true => rwa [draw_of_drained drained]
  | false =>
    obtain ⟨drawn, later, splits, record, last, rest⟩ := hasDrawn
    have shown := rest drained
    rcases read : Source.read input.source with ⟨char | _ | fault, next⟩
    · have draws := draws_of_draw (draw_of_char drained read)
      have characters := draws.characters
      rw [shown] at characters
      rw [draw_of_char drained read]
      refine ⟨drawn ++ [⟨char, Source.position next⟩], _, ?_, ?_, ?_, fun _ => rfl⟩
      · rw [splits, characters, List.append_assoc]
      · rw [Watched.drawn_of_read read, ← record]
        exact List.map_append
      · rw [lastPosition_append]
        rfl
    · rw [draw_of_ended drained read]
      refine ⟨drawn, later, splits, ?_, last, nofun⟩
      rw [Watched.drawn_of_read read, ← record]
      exact (List.append_nil _).symm
    · rw [draw_of_failed drained read]
      refine ⟨drawn, later, splits, ?_, last, nofun⟩
      rw [Watched.drawn_of_read read, ← record]
      exact (List.append_nil _).symm

theorem invariant_hasDrawn (whole : List Located) :
    Invariant (HasDrawn whole : Lookahead (Watched σ) → Prop) where
  draw hasDrawn := hasDrawn.draw
  window hasDrawn _ := hasDrawn
  fault hasDrawn := hasDrawn

/-- Closing an input reads nothing from its source. -/
theorem HasDrawn.close (hasDrawn : input.HasDrawn whole) : input.close.HasDrawn whole := by
  obtain ⟨drawn, later, splits, record, last, _⟩ := hasDrawn
  refine ⟨drawn, later, splits, ?_, last, nofun⟩
  unfold Lookahead.close
  cases input.closed with
  | true => exact record
  | false =>
    have calls : (Source.close input.source).drawn = input.source.drawn ++ [] :=
      List.filterMap_append
    exact record.trans (calls.trans (List.append_nil _)).symm

/-- The record of the source says how many characters were drawn. -/
theorem HasDrawn.take_eq (hasDrawn : input.HasDrawn whole) :
    let first := whole.take input.source.drawn.length
    chars first = input.source.drawn ∧ input.last = lastPosition .origin first := by
  obtain ⟨drawn, later, splits, record, last, _⟩ := hasDrawn
  have same : whole.take input.source.drawn.length = drawn := by
    rw [← record, chars, List.length_map, splits]
    exact List.take_left
  rw [same]
  exact ⟨record, last⟩

end Kept

end Lookahead

/-! ## Calls for tokens -/

namespace Session

variable {σ : Type} [Source σ]

/-- **The token that marks the end.** Take any source, any calls for tokens, each with any
table and with checks, and a call at which the session is over, however it ended. The record of
the source shows the first characters that it delivers, and changes nothing otherwise. Unless
lines have overflowed in a read, the program stops in that call just where the last of these
characters stands in the highest column, and elsewhere the token marks the end behind it, or
behind the origin if there is no character. -/
theorem endToken_pull (source : σ) (policy : Policy) (tables : List SymbolTable)
    (table : SymbolTable) :
    let session := new (Watched.new source) policy
    let called := (session.afterChecked tables).bind (·.pull table)
    let pulled := (session.after tables).next table
    let drawn := pulled.session.input.source.drawn
    let first := (Source.deliver source).characters.take drawn.length
    let last := lastPosition .origin first
    let counts := Source.overflowed pulled.session.input.source = false
    pulled.session.termination?.isSome →
      pulled.map Watched.source = ((new source policy).after tables).next table ∧
        chars first = drawn ∧
        (called = .error .column ↔ counts ∧ last.column.toNat + 1 = 2 ^ 32) ∧
        (called = .ok pulled ↔ counts ∧ last.column.toNat + 1 < 2 ^ 32) ∧
        (last.column.toNat + 1 < 2 ^ 32 → pulled.token.MarksEndBehind last) := by
  intro session called pulled drawn first last counts ended
  have forgets : (session.after tables).map Watched.source = (new source policy).after tables :=
    (after_map Watched.hom_source session tables id).symm
  have mapped : ((session.after tables).map Watched.source).next table =
      pulled.map Watched.source := next_map Watched.hom_source id
  have before : (session.after tables).input.HasDrawn (Source.deliver source).characters :=
    after_of_invariant (Lookahead.invariant_hasDrawn _) Lookahead.HasDrawn.close
      (Lookahead.hasDrawn_ofSource source) tables
  have hasDrawn : pulled.session.input.HasDrawn (Source.deliver source).characters :=
    next_of_invariant (Lookahead.invariant_hasDrawn _) Lookahead.HasDrawn.close before table
  obtain ⟨record, reached⟩ := hasDrawn.take_eq
  have checks : called = pulled.session.checked pulled :=
    session.afterChecked_bind_pull tables table
  have column : (pulled.session.overflow? = some .column) ↔ _ := overflow?_eq_column_iff
  have none : (pulled.session.overflow? = none) ↔ _ := overflow?_eq_none_iff
  rw [reached] at column none
  refine ⟨by rw [← mapped, forgets], record, ?_, ?_, fun below => ?_⟩
  · rw [checks, checked_eq_error_iff, column]
    exact and_congr_right fun _ => and_iff_right ended
  · rw [checks, checked_eq_ok_iff, none]
    exact and_congr_right fun _ => forall_prop_of_true ended
  · rw [token_of_ended ended, ← show pulled.session.input.last = last from reached]
    exact pulled.session.marksEndBehind_endToken table (reached ▸ below)

/-- A session that stops at an unknown character, with the one behind it drawn already. -/
theorem endToken_pull_behind_window :
    let source := Script.ofCharacters [⟨'?', 1, 7⟩, ⟨'n', 1, 4294967294⟩] none
    let pulled := (new (Watched.new source) {}).next (.new 0)
    pulled.session.termination?.isSome ∧ pulled.session.input.source.drawn = ['?', 'n'] ∧
      (new (Watched.new source) {}).pull (.new 0) = .ok pulled ∧
      pulled.token.MarksEndBehind ⟨1, 4294967294⟩ ∧ pulled.token.left = 4294967295 := by
  intro source pulled
  have ended : pulled.session.termination?.isSome := by decide +kernel
  have drawn : pulled.session.input.source.drawn = ['?', 'n'] := by decide +kernel
  have last : lastPosition .origin ((Source.deliver source).characters.take
      pulled.session.input.source.drawn.length) = ⟨1, 4294967294⟩ := by decide +kernel
  have below : (lastPosition .origin ((Source.deliver source).characters.take
      pulled.session.input.source.drawn.length)).column.toNat + 1 < 2 ^ 32 := by
    rw [last]
    decide
  obtain ⟨_, _, _, goesOn, marks⟩ := endToken_pull source {} [] (.new 0) ended
  exact ⟨ended, drawn, goesOn.mpr ⟨rfl, below⟩, last ▸ marks below, by decide +kernel⟩

/-- Behind a blank at the highest column, the program stops. -/
theorem endToken_pull_at_limit :
    ¬∀ (script : Script) (policy : Policy) (table : SymbolTable),
      let session := new (Watched.new script) policy
      let ended := (session.next table).session
      let last := lastPosition .origin
        ((Source.deliver script).characters.take ended.input.source.drawn.length)
      ended.termination?.isSome →
        ∃ pulled, session.pull table = .ok pulled ∧
          pulled.token.left.toNat = min (last.column.toNat + 1) (2 ^ 32 - 1) := by
  intro claimed
  obtain ⟨pulled, answers, _⟩ :=
    claimed (.ofCharacters [⟨' ', 1, 4294967295⟩] none) {} (.new 0) (by decide +kernel)
  have stops : ((new (Watched.new (.ofCharacters [⟨' ', 1, 4294967295⟩] none : Script)) {}).pull
      (.new 0)).toOption.isNone = true := by decide +kernel
  rw [answers] at stops
  cases stops

end Session

end Lexis
