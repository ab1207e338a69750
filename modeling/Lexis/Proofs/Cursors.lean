import Lexis.Proofs.Drawing
import Lexis.Proofs.Outlook

/-!
# Lookaheads as cursors

A cursor stands somewhere in what a source delivers. It can tell the characters in front
of it, move over them, and hand over the fault behind the last one once somebody has asked
for more than there is. How many characters have been asked for is known too, and nothing
else is (`Cursor`).

A lookahead draws characters when they are asked for and keeps those that are not consumed.
So its state is a function of a cursor: the source has been read as often as characters
have been asked for, and once more at most; the window is what has been read and not been
passed (`Cursor.input`). One draw is one character seen (`Cursor.draw_input`), a look sees
as many as it asks for (`Cursor.gather_input`), and so every request is answered as the
cursor answers it (`Cursor.respond_input`).
-/

namespace Lexis

set_option autoImplicit false

/-! ## Requests -/

/-- What is asked of a lookahead. -/
inductive Request
  | current
  | peek (count : Nat)
  | advance
  | advanceBy (count : Nat)
  | handOverFault
  | close
  deriving DecidableEq

/-- What a request is answered with. -/
inductive Answer
  | character (found : Option Located)
  | count (consumed : Nat)
  | fault (found : Option Fault)
  | done
  deriving DecidableEq

namespace Request

/-- How many characters have to be seen for an answer, from the next one on. -/
def needs : Request → Nat
  | current | advance => 1
  | peek count => count + 1
  | advanceBy count => count
  | handOverFault | close => 0

/-- How many characters are consumed, if there are so many. -/
def consumes : Request → Nat
  | advance => 1
  | advanceBy count => count
  | current | peek _ | handOverFault | close => 0

/-- Whether a request looks without consuming. -/
def looks : Request → Bool
  | current | peek _ => true
  | advance | advanceBy _ | handOverFault | close => false

/-- What is consumed has to be seen. -/
theorem consumes_le_needs (request : Request) : request.consumes ≤ request.needs := by
  cases request with
  | advance | advanceBy => exact Nat.le_refl _
  | current | peek | handOverFault | close => exact Nat.zero_le _

end Request

namespace Lookahead

variable {σ : Type} [Source σ]

/-- Does what is asked. -/
def respond (input : Lookahead σ) : Request → Answer × Lookahead σ
  | .current => let (found, next) := input.current; (.character found, next)
  | .peek count => let (found, next) := input.peek count; (.character found, next)
  | .advance => let (found, next) := input.advance; (.character found, next)
  | .advanceBy count => let (consumed, next) := input.advanceBy count; (.count consumed, next)
  | .handOverFault => let (found, next) := input.handOverFault; (.fault found, next)
  | .close => (.done, input.close)

/-- An input after some requests. -/
def after (input : Lookahead σ) (requests : List Request) : Lookahead σ :=
  requests.foldl (fun input request => (input.respond request).2) input

end Lookahead

/-! ## Cursors -/

/-- A place in what a source delivers, and what has become of it. -/
structure Cursor where
  /-- How many characters have been passed. -/
  place : Nat
  /-- How many of the first characters had to be seen so far. -/
  seen : Nat
  /-- The fault has been handed over. -/
  taken : Bool
  closed : Bool
  deriving DecidableEq

namespace Cursor

/-- A cursor before the first character. -/
def start : Cursor :=
  ⟨0, 0, false, false⟩

variable (cursor : Cursor) (delivery : Delivery)

/-- The characters in front of a cursor: none once it is closed. -/
def ahead : List Located :=
  if cursor.closed then [] else delivery.characters.drop cursor.place

/-- Whether a character behind the last one had to be seen. -/
def ranOut : Bool :=
  delivery.characters.length < cursor.seen

/-- The fault that can be handed over. -/
def fault? : Option Fault :=
  if cursor.ranOut delivery && !cursor.taken then delivery.fault else none

/-- The position of the last character that had to be seen. -/
def last : Position :=
  lastPosition .origin (delivery.characters.take cursor.seen)

/-- How a cursor answers. -/
def answer : Request → Answer
  | .current | .advance => .character (cursor.ahead delivery)[0]?
  | .peek count => .character (cursor.ahead delivery)[count]?
  | .advanceBy count => .count (min count (cursor.ahead delivery).length)
  | .handOverFault => .fault (cursor.fault? delivery)
  | .close => .done

/-- A cursor that had to see so many characters in front of it. A closed one sees none. -/
def see (count : Nat) : Cursor :=
  { cursor with
    seen := if cursor.closed then cursor.seen else max cursor.seen (cursor.place + count) }

/-- A cursor that passed so many characters, or all if there are fewer. -/
def pass (count : Nat) : Cursor :=
  { cursor with place := cursor.place + min count (cursor.ahead delivery).length }

/-- A cursor that handed over its fault, if it had reached it. -/
def takeFault : Cursor :=
  { cursor with taken := cursor.taken || cursor.ranOut delivery }

/-- A cursor after a request. -/
def next : Request → Cursor
  | .handOverFault => cursor.takeFault delivery
  | .close => { cursor with closed := true }
  | request => (cursor.see request.needs).pass delivery request.consumes

/-- A cursor after some requests. -/
def after (requests : List Request) : Cursor :=
  requests.foldl (·.next delivery ·) cursor

/-- Whether a cursor can stand in a delivery: it has seen what it passed, and a fault was
handed over only behind the last character. -/
structure Fits : Prop where
  place_le_seen : cursor.place ≤ cursor.seen
  ranOut : cursor.taken = true → cursor.ranOut delivery = true

variable {cursor} {delivery}

theorem fits_start : start.Fits delivery :=
  ⟨Nat.le_refl 0, nofun⟩

theorem ranOut_eq_true : cursor.ranOut delivery = true ↔ delivery.characters.length < cursor.seen :=
  decide_eq_true_iff

theorem ranOut_eq_false :
    cursor.ranOut delivery = false ↔ cursor.seen ≤ delivery.characters.length := by
  rw [ranOut, decide_eq_false_iff_not, Nat.not_lt]

theorem ahead_of_closed (closed : cursor.closed = true) : cursor.ahead delivery = [] :=
  if_pos closed

theorem ahead_of_open (isOpen : cursor.closed = false) :
    cursor.ahead delivery = delivery.characters.drop cursor.place :=
  if_neg (by rw [isOpen]; exact Bool.false_ne_true)

theorem see_of_closed (closed : cursor.closed = true) (count : Nat) :
    cursor.see count = cursor := by
  rw [see, if_pos closed]

theorem see_of_open (isOpen : cursor.closed = false) (count : Nat) :
    cursor.see count = { cursor with seen := max cursor.seen (cursor.place + count) } := by
  rw [see, if_neg (by rw [isOpen]; exact Bool.false_ne_true)]

/-- What was seen stays seen. -/
theorem seen_le_see (cursor : Cursor) (count : Nat) : cursor.seen ≤ (cursor.see count).seen := by
  cases isOpen : cursor.closed with
  | true => exact Nat.le_of_eq (congrArg seen (see_of_closed isOpen count)).symm
  | false =>
    rw [see_of_open isOpen]
    exact Nat.le_max_left _ _

theorem Fits.see_zero (fits : cursor.Fits delivery) : cursor.see 0 = cursor := by
  cases isOpen : cursor.closed with
  | true => exact see_of_closed isOpen 0
  | false => rw [see_of_open isOpen, Nat.add_zero, Nat.max_eq_left fits.place_le_seen]

theorem pass_zero (cursor : Cursor) (delivery : Delivery) : cursor.pass delivery 0 = cursor := by
  rw [pass, Nat.zero_min, Nat.add_zero]

/-- A fault is handed over once. -/
theorem fault?_takeFault (cursor : Cursor) (delivery : Delivery) :
    (cursor.takeFault delivery).fault? delivery = none := by
  have ranOut : (cursor.takeFault delivery).ranOut delivery = cursor.ranOut delivery := rfl
  rw [fault?, ranOut, takeFault]
  cases cursor.ranOut delivery with
  | true => rw [Bool.or_true]; rfl
  | false => rfl

/-- Passing characters takes them off what is ahead. -/
theorem ahead_pass (cursor : Cursor) (delivery : Delivery) (count : Nat) :
    (cursor.pass delivery count).ahead delivery = (cursor.ahead delivery).drop count := by
  cases isOpen : cursor.closed with
  | true => rw [ahead_of_closed isOpen, ahead_of_closed (by exact isOpen), List.drop_nil]
  | false =>
    rw [ahead_of_open isOpen, ahead_of_open (by exact isOpen), List.drop_drop, pass,
      ahead_of_open isOpen, List.length_drop]
    dsimp only
    rcases Nat.le_total count (delivery.characters.length - cursor.place) with fewer | all
    · rw [Nat.min_eq_left fewer]
    · rw [Nat.min_eq_right all, List.drop_eq_nil_of_le (by omega),
        List.drop_eq_nil_of_le (by omega)]

theorem Fits.further (fits : cursor.Fits delivery) {further : Nat} (more : cursor.seen ≤ further) :
    { cursor with seen := further }.Fits delivery where
  place_le_seen := Nat.le_trans fits.place_le_seen more
  ranOut taken :=
    ranOut_eq_true.mpr (Nat.lt_of_lt_of_le (ranOut_eq_true.mp (fits.ranOut taken)) more)

/-- Seeing characters shows those that are then passed. -/
theorem Fits.see_pass (fits : cursor.Fits delivery) {needs consumes : Nat}
    (shown : consumes ≤ needs) : ((cursor.see needs).pass delivery consumes).Fits delivery := by
  refine ⟨?_, (fits.further (seen_le_see cursor needs)).ranOut⟩
  have before := fits.place_le_seen
  cases isOpen : cursor.closed with
  | true =>
    rw [see_of_closed isOpen]
    simpa [pass, ahead_of_closed isOpen] using before
  | false =>
    rw [see_of_open isOpen]
    simp only [pass]
    omega

/-- **A request keeps a cursor in its delivery.** -/
theorem Fits.next (fits : cursor.Fits delivery) (request : Request) :
    (cursor.next delivery request).Fits delivery := by
  cases request with
  | handOverFault =>
    refine ⟨fits.place_le_seen, fun taken => ?_⟩
    rcases Bool.or_eq_true_iff.mp taken with taken | ranOut
    · exact fits.ranOut taken
    · exact ranOut
  | close => exact ⟨fits.place_le_seen, fits.ranOut⟩
  | current | peek | advance | advanceBy => exact fits.see_pass (Request.consumes_le_needs _)

/-! ## The lookahead of a cursor -/

section Inputs

variable {σ : Type} [Source σ]

/-- The lookahead that stands where a cursor stands. Its source has been read once for each
character that had to be seen, and once more if there was none left. -/
def input (cursor : Cursor) (source : σ) : Lookahead σ :=
  let delivery := Source.deliver source
  let reached := Source.after source (min cursor.seen (delivery.characters.length + 1))
  { source := if cursor.closed then Source.close reached else reached
    closed := cursor.closed
    window := (cursor.ahead delivery).take (cursor.seen - cursor.place)
    drained := cursor.closed || cursor.ranOut delivery
    fault := cursor.fault? delivery
    last := cursor.last delivery }

theorem input_start (source : σ) : start.input source = .ofSource source := by
  simp [input, start, ahead, ranOut, fault?, last, lastPosition, Source.after, Lookahead.ofSource]

/-- Behind the last character it makes no difference how much further it was looked. -/
theorem input_of_ranOut {cursor : Cursor} {source : σ} {further : Nat}
    (ranOut : cursor.ranOut (Source.deliver source) = true) (more : cursor.seen ≤ further) :
    { cursor with seen := further }.input source = cursor.input source := by
  have past := ranOut_eq_true.mp ranOut
  have ranOut' : { cursor with seen := further }.ranOut (Source.deliver source) = true :=
    ranOut_eq_true.mpr (Nat.lt_of_lt_of_le past more)
  have ahead : ({ cursor with seen := further } : Cursor).ahead (Source.deliver source) =
    cursor.ahead (Source.deliver source) := rfl
  have few : (cursor.ahead (Source.deliver source)).length ≤ cursor.seen - cursor.place := by
    have bound := Nat.sub_le_sub_right (Nat.le_of_lt past) cursor.place
    cases isOpen : cursor.closed with
    | true => simp [ahead_of_closed isOpen]
    | false => simpa [ahead_of_open isOpen] using bound
  simp only [input, fault?, last, ahead, ranOut, ranOut']
  rw [Nat.min_eq_right past, Nat.min_eq_right (Nat.lt_of_lt_of_le past more),
    List.take_of_length_le few, List.take_of_length_le (Nat.le_of_lt past),
    List.take_of_length_le (Nat.le_trans few (Nat.sub_le_sub_right more _)),
    List.take_of_length_le (Nat.le_trans (Nat.le_of_lt past) more)]

/-- A cursor on an open source that has not run out. -/
theorem input_of_open {cursor : Cursor} {source : σ} (isOpen : cursor.closed = false)
    (bound : cursor.seen ≤ (Source.deliver source).characters.length) :
    cursor.input source =
      { source := Source.after source cursor.seen
        closed := false
        window := ((Source.deliver source).characters.drop cursor.place).take
          (cursor.seen - cursor.place)
        drained := false
        fault := none
        last := lastPosition .origin ((Source.deliver source).characters.take cursor.seen) } := by
  have ranOut := ranOut_eq_false.mpr bound
  simp [input, isOpen, ranOut, fault?, last, ahead_of_open isOpen,
    Nat.min_eq_left (Nat.le_succ_of_le bound)]

/-- A cursor on an open source that has just run out. -/
theorem input_of_justOut {cursor : Cursor} {source : σ} (isOpen : cursor.closed = false)
    (kept : cursor.taken = false)
    (out : cursor.seen = (Source.deliver source).characters.length + 1) :
    cursor.input source =
      { source := Source.after source cursor.seen
        closed := false
        window := ((Source.deliver source).characters.drop cursor.place).take
          (cursor.seen - cursor.place)
        drained := true
        fault := (Source.deliver source).fault
        last := lastPosition .origin (Source.deliver source).characters } := by
  have past : (Source.deliver source).characters.length < cursor.seen :=
    Nat.lt_of_lt_of_eq (Nat.lt_succ_self _) out.symm
  have ranOut := ranOut_eq_true.mpr past
  have all := List.take_of_length_le (Nat.le_of_lt past)
  simp [input, isOpen, ranOut, kept, fault?, last, all, ahead_of_open isOpen, ← out]

/-- **Drawing is seeing one character more.** -/
theorem draw_input {cursor : Cursor} {source : σ} (fits : cursor.Fits (Source.deliver source))
    (isOpen : cursor.closed = false) (window : List Located) :
    { cursor.input source with window }.draw =
      ((Source.deliver source).characters[cursor.seen]?,
        { { cursor with seen := cursor.seen + 1 }.input source with window }) := by
  have opened : ({ cursor with seen := cursor.seen + 1 } : Cursor).closed = false := isOpen
  have read {answer : Reading}
      (given : (Source.read (Source.after source cursor.seen)).1 = answer) :
      Source.read (Source.after source cursor.seen) =
        (answer, Source.after source (cursor.seen + 1)) :=
    Prod.ext given (Source.after_succ source cursor.seen).symm
  -- The next character is there, or the source is met at its end, or it was met there before.
  rcases Nat.lt_trichotomy cursor.seen (Source.deliver source).characters.length with
    more | out | past
  · have found := List.getElem?_eq_getElem more
    obtain ⟨char, position⟩ := Source.read_after_of_lt found
    have last : lastPosition .origin ((Source.deliver source).characters.take (cursor.seen + 1)) =
        (Source.deliver source).characters[cursor.seen].position := by
      rw [List.take_add_one, found, lastPosition_append]
      rfl
    rw [input_of_open isOpen (Nat.le_of_lt more), input_of_open opened more, found, last,
      Lookahead.draw_of_char rfl (read char), position]
  · have kept : cursor.taken = false := by
      refine Bool.eq_false_iff.mpr fun taken => ?_
      exact absurd (ranOut_eq_true.mp (fits.ranOut taken)) (out ▸ Nat.lt_irrefl _)
    have ending := out ▸ Source.read_after_length source
    have all := List.take_of_length_le (Nat.le_of_eq out.symm)
    rw [input_of_open isOpen (Nat.le_of_eq out), input_of_justOut opened kept (by rw [out]), all,
      List.getElem?_eq_none (Nat.le_of_eq out.symm)]
    cases fault : (Source.deliver source).fault with
    | none =>
      rw [Delivery.ending, fault] at ending
      exact Lookahead.draw_of_ended rfl (read ending)
    | some failure =>
      rw [Delivery.ending, fault] at ending
      exact Lookahead.draw_of_failed rfl (read ending)
  · have ranOut := ranOut_eq_true.mpr past
    rw [input_of_ranOut ranOut (Nat.le_succ _), List.getElem?_eq_none (Nat.le_of_lt past)]
    exact Lookahead.draw_of_drained (by simp [input, ranOut])

/-- Drawing so many characters and one more is seeing as many. -/
theorem drawRun_input {cursor : Cursor} {source : σ} (fits : cursor.Fits (Source.deliver source))
    (isOpen : cursor.closed = false) (count : Nat) (drawn window : List Located) :
    Lookahead.drawRun countdown count drawn { cursor.input source with window } =
      ((((Source.deliver source).characters.drop cursor.seen).take (count + 1)).reverse ++ drawn,
        { { cursor with seen := cursor.seen + (count + 1) }.input source with window }) := by
  induction count generalizing cursor drawn with
  | zero =>
    have answer := draw_input fits isOpen window
    cases shown : (Source.deliver source).characters[cursor.seen]? with
    | none =>
      rw [shown] at answer
      rw [Lookahead.drawRun_of_none answer,
        List.drop_eq_nil_of_le (List.getElem?_eq_none_iff.mp shown)]
      rfl
    | some char =>
      rw [shown] at answer
      rw [Lookahead.drawRun_of_refused answer rfl, List.take_one, List.head?_drop, shown]
      rfl
  | succ count ih =>
    have answer := draw_input fits isOpen window
    have further := fits.further (Nat.le_add_right cursor.seen 1)
    cases shown : (Source.deliver source).characters[cursor.seen]? with
    | none =>
      have pastEnd := List.getElem?_eq_none_iff.mp shown
      have ranOut : { cursor with seen := cursor.seen + 1 }.ranOut (Source.deliver source) = true :=
        ranOut_eq_true.mpr (Nat.lt_succ_of_le pastEnd)
      have more : cursor.seen + 1 ≤ cursor.seen + (count + 1 + 1) := by omega
      have same := input_of_ranOut ranOut more
      rw [shown] at answer
      rw [Lookahead.drawRun_of_none answer, List.drop_eq_nil_of_le pastEnd, ← same]
      rfl
    | some char =>
      rw [shown] at answer
      rw [Lookahead.drawRun_of_accepted answer rfl, ih further isOpen]
      obtain ⟨more, rfl⟩ := List.getElem?_eq_some_iff.mp shown
      have sum : cursor.seen + 1 + (count + 1) = cursor.seen + (count + 1 + 1) := by omega
      simp only [List.drop_eq_getElem_cons more, List.take_succ_cons, List.reverse_cons,
        List.append_assoc, List.singleton_append, sum]

/-- What is drawn behind a window lengthens it. -/
theorem window_append {cursor : Cursor} {source : σ} (place : cursor.place ≤ cursor.seen)
    (isOpen : cursor.closed = false) (more : Nat) :
    (cursor.input source).window ++
        ((Source.deliver source).characters.drop cursor.seen).take more =
      ({ cursor with seen := cursor.seen + more }.input source).window := by
  have opened : ({ cursor with seen := cursor.seen + more } : Cursor).closed = false := isOpen
  simp only [input, ahead_of_open isOpen, ahead_of_open opened]
  rw [Nat.sub_add_comm place, List.take_add, List.drop_drop, Nat.add_sub_cancel' place]

/-- **Looking at so many characters is seeing them.** -/
theorem gather_input {cursor : Cursor} {source : σ} (fits : cursor.Fits (Source.deliver source))
    (count : Nat) :
    (cursor.input source).gather countdown count = (cursor.see (count + 1)).input source := by
  cases isOpen : cursor.closed with
  | true =>
    have drained : (cursor.input source).drained = true := by rw [input, isOpen]; rfl
    have window : (cursor.input source).window = [] := by
      rw [input, ahead_of_closed isOpen]
      exact List.take_nil
    rw [see_of_closed isOpen, Lookahead.gather, window]
    dsimp only [stateAfter?]
    rw [Lookahead.drawRun_of_none (Lookahead.draw_of_drained drained)]
    exact congrArg (fun window => { cursor.input source with window }) window.symm
  | false =>
    have place := fits.place_le_seen
    have length : (cursor.input source).window.length = min (cursor.seen - cursor.place)
        ((Source.deliver source).characters.length - cursor.place) := by
      rw [input, ahead_of_open isOpen, List.length_take, List.length_drop]
    rw [see_of_open isOpen, Lookahead.gather]
    rcases Nat.lt_or_ge count (cursor.input source).window.length with shown | enough
    · rw [stateAfter?_countdown_eq_none_iff.mpr shown, Nat.max_eq_left (by omega)]
    · have drawn := drawRun_input fits isOpen (count - (cursor.input source).window.length) []
        (cursor.input source).window
      rw [stateAfter?_countdown enough]
      dsimp only at drawn ⊢
      rw [drawn, List.append_nil, List.reverse_reverse, window_append place isOpen]
      -- Either the window shows all that was seen, or more was seen than there is.
      rcases Nat.lt_or_ge (Source.deliver source).characters.length cursor.seen with past | within
      · have ranOut := ranOut_eq_true.mpr past
        exact (input_of_ranOut ranOut (Nat.le_add_right _ _)).trans
          (input_of_ranOut ranOut (Nat.le_max_left _ _)).symm
      · have sum : cursor.seen + (count - (cursor.input source).window.length + 1) =
            max cursor.seen (cursor.place + (count + 1)) := by omega
        rw [sum]

/-- After looking at so many characters, the window begins with them. -/
theorem window_see (cursor : Cursor) (source : σ) (count : Nat) :
    ((cursor.see count).input source).window.take count =
      (cursor.ahead (Source.deliver source)).take count := by
  have window : ((cursor.see count).input source).window =
    (cursor.ahead (Source.deliver source)).take ((cursor.see count).seen - cursor.place) := rfl
  rw [window, List.take_take]
  cases isOpen : cursor.closed with
  | true => rw [ahead_of_closed isOpen, List.take_nil, List.take_nil]
  | false =>
    have enough : count ≤ (cursor.see count).seen - cursor.place := by
      rw [see_of_open isOpen]
      exact Nat.le_sub_of_add_le' (Nat.le_max_right _ _)
    rw [Nat.min_eq_left enough]

/-- **Peeking is seeing the characters up to the one asked for.** -/
theorem peek_input {cursor : Cursor} {source : σ} (fits : cursor.Fits (Source.deliver source))
    (count : Nat) :
    (cursor.input source).peek count =
      ((cursor.ahead (Source.deliver source))[count]?,
        (cursor.see (count + 1)).input source) := by
  have shown := congrArg (·[count]?) (window_see cursor source (count + 1))
  simp only [List.getElem?_take_of_succ] at shown
  rw [Lookahead.peek, gather_input fits, ← shown]

/-- Consuming is passing. -/
theorem consume_input (cursor : Cursor) (source : σ) (count : Nat) :
    (cursor.input source).consume count =
      (cursor.pass (Source.deliver source) count).input source := by
  have shown :
      ((cursor.ahead (Source.deliver source)).take (cursor.seen - cursor.place)).drop count =
      ((cursor.ahead (Source.deliver source)).drop count).take
        (cursor.seen - (cursor.pass (Source.deliver source) count).place) := by
    rw [List.drop_take, Nat.sub_sub, pass]
    rcases Nat.le_total count (cursor.ahead (Source.deliver source)).length with fewer | all
    · rw [Nat.min_eq_left fewer]
    · rw [List.drop_eq_nil_of_le all, List.take_nil, List.take_nil]
  rw [Lookahead.consume, input, input, ahead_pass]
  exact congrArg (fun window => { cursor.input source with window }) shown

theorem handOverFault_input (cursor : Cursor) (source : σ) :
    (cursor.input source).handOverFault.2 =
      (cursor.takeFault (Source.deliver source)).input source :=
  congrArg (fun fault => { cursor.input source with fault }) (fault?_takeFault cursor _).symm

theorem close_input (cursor : Cursor) (source : σ) :
    (cursor.input source).close = { cursor with closed := true }.input source := by
  have window : ({ cursor with closed := true }.input source).window = [] := List.take_nil
  rw [Lookahead.close, ← window]
  cases isOpen : cursor.closed with
  | true => simp only [input, isOpen]; rfl
  | false => simp only [input, isOpen]; rfl

/-- **A request is answered as a cursor answers it,** and keeps the lookahead where the
cursor stands. -/
theorem respond_input {cursor : Cursor} {source : σ} (fits : cursor.Fits (Source.deliver source))
    (request : Request) :
    (cursor.input source).respond request =
      (cursor.answer (Source.deliver source) request,
        (cursor.next (Source.deliver source) request).input source) := by
  have unmoved (count : Nat) :
      (cursor.see count).pass (Source.deliver source) 0 = cursor.see count := pass_zero _ _
  cases request with
  | current =>
    rw [Lookahead.respond, Lookahead.current, peek_input fits]
    exact congrArg (fun cursor => (_, cursor.input source)) (unmoved 1).symm
  | peek count =>
    rw [Lookahead.respond, peek_input fits]
    exact congrArg (fun cursor => (_, cursor.input source)) (unmoved (count + 1)).symm
  | advance =>
    rw [Lookahead.respond, Lookahead.advance, Lookahead.current, peek_input fits]
    exact congrArg (Prod.mk _) (consume_input (cursor.see 1) source 1)
  | advanceBy count =>
    cases count with
    | zero =>
      have stays : cursor.next (Source.deliver source) (.advanceBy 0) = cursor :=
        (unmoved 0).trans fits.see_zero
      rw [stays, answer, Nat.zero_min]
      rfl
    | succ count =>
      have shown := congrArg List.length (window_see cursor source (count + 1))
      rw [List.length_take, List.length_take] at shown
      rw [Lookahead.respond, Lookahead.advanceBy]
      dsimp only
      rw [gather_input fits, consume_input, shown]
      rfl
  | handOverFault => exact congrArg (Prod.mk _) (handOverFault_input cursor source)
  | close => exact congrArg (Prod.mk _) (close_input cursor source)

/-- **A lookahead stays where its cursor stands,** whatever is asked of it. -/
theorem after_input {cursor : Cursor} {source : σ} (fits : cursor.Fits (Source.deliver source))
    (requests : List Request) :
    (cursor.input source).after requests =
      (cursor.after (Source.deliver source) requests).input source := by
  induction requests generalizing cursor with
  | nil => rfl
  | cons request later ih =>
    show ((cursor.input source).respond request).2.after later = _
    rw [respond_input fits]
    exact ih (fits.next request)

end Inputs

/-! ## What cursors tell -/

theorem Fits.after (fits : cursor.Fits delivery) (requests : List Request) :
    (cursor.after delivery requests).Fits delivery := by
  induction requests generalizing cursor with
  | nil => exact fits
  | cons request later ih => exact ih (fits.next request)

theorem closed_next (cursor : Cursor) (delivery : Delivery) (request : Request) :
    (cursor.next delivery request).closed = (cursor.closed || request == .close) := by
  cases request with
  | close => exact (Bool.or_true _).symm
  | current | peek | advance | advanceBy | handOverFault => exact (Bool.or_false _).symm

/-- A cursor is closed from the first close on. -/
theorem closed_after (cursor : Cursor) (delivery : Delivery) (requests : List Request) :
    (cursor.after delivery requests).closed = (cursor.closed || requests.contains .close) := by
  induction requests generalizing cursor with
  | nil => exact (Bool.or_false _).symm
  | cons request later ih =>
    show ((cursor.next delivery request).after delivery later).closed = _
    rw [ih, closed_next, List.contains_cons, Bool.or_assoc, BEq.comm]

/-- A fault that was handed over stays so. -/
theorem taken_after (taken : cursor.taken = true) (requests : List Request) :
    (cursor.after delivery requests).taken = true := by
  induction requests generalizing cursor with
  | nil => exact taken
  | cons request later ih =>
    refine ih ?_
    cases request with
    | handOverFault => exact Bool.or_eq_true_iff.mpr (.inl taken)
    | current | peek | advance | advanceBy | close => exact taken

/-- A fault that can be handed over is that of the delivery, behind its last character. -/
theorem fault?_eq_some {fault : Fault} (found : cursor.fault? delivery = some fault) :
    cursor.ranOut delivery = true ∧ delivery.fault = some fault := by
  rw [fault?] at found
  split at found
  · rename_i reached
    exact ⟨(Bool.and_eq_true_iff.mp reached).1, found⟩
  · cases found

theorem fault?_of_taken (taken : cursor.taken = true) : cursor.fault? delivery = none := by
  rw [fault?, taken, Bool.not_true, Bool.and_false]
  rfl

/-- Two cursors that stand at the same place, whatever was seen from there. -/
structure Alike (first second : Cursor) : Prop where
  place : first.place = second.place
  closed : first.closed = second.closed

variable {first second : Cursor}

theorem Alike.ahead (alike : Alike first second) (delivery : Delivery) :
    first.ahead delivery = second.ahead delivery := by
  rw [Cursor.ahead, Cursor.ahead, alike.place, alike.closed]

/-- Only the fault depends on what was seen. -/
theorem Alike.answer (alike : Alike first second) {request : Request}
    (other : request ≠ .handOverFault) :
    first.answer delivery request = second.answer delivery request := by
  have ahead := alike.ahead delivery
  cases request with
  | handOverFault => exact absurd rfl other
  | close => rfl
  | current | peek | advance | advanceBy => simp only [Cursor.answer, ahead]

theorem Alike.next (alike : Alike first second) (request : Request) :
    Alike (first.next delivery request) (second.next delivery request) := by
  have ahead (count : Nat) : (first.see count).ahead delivery = (second.see count).ahead delivery :=
    alike.ahead delivery
  cases request with
  | handOverFault => exact ⟨alike.place, alike.closed⟩
  | close => exact ⟨alike.place, rfl⟩
  | current | peek | advance | advanceBy =>
    refine ⟨?_, alike.closed⟩
    simp only [Cursor.next, pass, ahead]
    exact congrArg (· + _) alike.place

/-- A look leaves a cursor at its place. -/
theorem alike_next_of_looks {request : Request} (looks : request.looks = true) :
    Alike (cursor.next delivery request) cursor := by
  cases request with
  | current | peek => exact ⟨by simp only [next, Request.consumes, pass_zero, see], rfl⟩
  | advance | advanceBy | handOverFault | close => cases looks

theorem Alike.trans {third : Cursor} (before : Alike first second) (after : Alike second third) :
    Alike first third :=
  ⟨before.place.trans after.place, before.closed.trans after.closed⟩

/-- **Where a cursor stands does not depend on where it looked.** -/
theorem Alike.after (alike : Alike first second) (requests : List Request) :
    Alike (first.after delivery requests)
      (second.after delivery (requests.filter (!·.looks))) := by
  induction requests generalizing first second with
  | nil => exact alike
  | cons request later ih =>
    cases looks : request.looks with
    | true =>
      rw [List.filter_cons_of_neg (by simp [looks])]
      exact ih ((alike_next_of_looks looks).trans alike)
    | false =>
      rw [List.filter_cons_of_pos (by simp [looks])]
      exact ih (alike.next request)

end Cursor

end Lexis
