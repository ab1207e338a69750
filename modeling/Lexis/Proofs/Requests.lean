import Lexis.Proofs.Cursors
import Lexis.Proofs.Lifecycle

/-!
# Requests to a lookahead

Whatever is asked of a lookahead, it answers as a cursor over what its source delivers
(`Lookahead.respond_ofSource`). The calls made to the source meanwhile are those of the
cursor: a read for each character that had to be seen, one that meets the end if more was
asked for, and a close (`Cursor.calls_input`).

A source without end delivers as much as any limit lets it. Requests ask for finitely many
characters, and below a limit that they do not reach they are answered the same, however
high it is (`Lookahead.respond_raise`). All of this together is what can be asked of a
lookahead (`Lookahead.respond_after`).
-/

namespace Lexis

set_option autoImplicit false

/-! ## The record of a source -/

/-- The character that a call read. -/
def Call.char? : Call → Option Char
  | .read (.char char) => some char
  | .read .ended | .read (.failed _) | .close => none

theorem Call.char?_ending (delivery : Delivery) : (read delivery.ending).char? = none := by
  rw [Delivery.ending]
  cases delivery.fault <;> rfl

namespace Watched

/-- The characters that were read from a source, as its record shows. -/
def drawn {σ : Type} (watched : Watched σ) : List Char :=
  watched.calls.filterMap Call.char?

variable {σ : Type} [Source σ]

/-- A read adds the character that it answers, if it answers one. -/
theorem drawn_of_read {watched next : Watched σ} {answer : Reading}
    (read : Source.read watched = (answer, next)) :
    next.drawn = watched.drawn ++ (Call.read answer).char?.toList := by
  rw [drawn, drawn, calls_of_read read, List.filterMap_append]
  rcases answer with char | _ | fault <;> rfl

/-- A record does not change what is delivered. -/
theorem deliver_eq (watched : Watched σ) :
    Source.deliver watched = Source.deliver watched.source := by
  have read : Source.read watched = ((Source.read watched.source).1,
      ⟨(Source.read watched.source).2,
        watched.calls ++ [.read (Source.read watched.source).1]⟩) := rfl
  rcases answer : Source.read watched.source with ⟨char | _ | fault, next⟩
  · have fewer := Source.remaining_lt answer
    rw [answer] at read
    rw [Source.deliver_of_char answer, Source.deliver_of_char read, deliver_eq]
    rfl
  · rw [answer] at read
    rw [Source.deliver_of_ended answer, Source.deliver_of_ended read]
  · rw [answer] at read
    rw [Source.deliver_of_failed answer, Source.deliver_of_failed read]
termination_by Source.remaining watched.source

theorem source_after (watched : Watched σ) (count : Nat) :
    (Source.after watched count).source = Source.after watched.source count := by
  induction count generalizing watched with
  | zero => rfl
  | succ count ih => exact ih _

/-- One read more is one entry more. -/
theorem calls_after_succ (watched : Watched σ) (count : Nat) :
    (Source.after watched (count + 1)).calls = (Source.after watched count).calls ++
      [.read (Source.read (Source.after watched.source count)).1] := by
  rw [Source.after_succ, ← source_after]
  rfl

theorem drawn_after_succ (watched : Watched σ) (count : Nat) :
    (Source.after watched (count + 1)).drawn = (Source.after watched count).drawn ++
      (Call.read (Source.read (Source.after watched.source count)).1).char?.toList := by
  rw [drawn, calls_after_succ, List.filterMap_append]
  rcases (Source.read (Source.after watched.source count)).1 with char | _ | fault <;> rfl

/-- The entries for reading characters. -/
def readings (characters : List Located) : List Call :=
  characters.map fun located => .read (.char located.char)

/-- **The record of so many reads** shows the characters delivered. -/
theorem calls_after (source : σ) {count : Nat}
    (within : count ≤ (Source.deliver source).characters.length) :
    (Source.after (new source) count).calls =
      readings ((Source.deliver source).characters.take count) := by
  induction count with
  | zero => rfl
  | succ count ih =>
    have found := List.getElem?_eq_getElem within
    have char := (Source.read_after_of_lt found).1
    rw [calls_after_succ, ih (Nat.le_of_succ_le within), List.take_add_one, found, readings,
      readings, List.map_append]
    exact congrArg (fun answer => _ ++ [Call.read answer]) char

end Watched

/-- The calls that a cursor makes to its source: a read for each character that had to be
seen, one more if there was none left, and a close if it was closed. -/
def Cursor.calls (cursor : Cursor) (delivery : Delivery) : List Call :=
  Watched.readings (delivery.characters.take cursor.seen) ++
    (if cursor.ranOut delivery then [.read delivery.ending] else []) ++
    (if cursor.closed then [.close] else [])

/-- **The record of a lookahead's source** shows the calls of its cursor. -/
theorem Cursor.calls_input {σ : Type} [Source σ] (cursor : Cursor) (source : σ) :
    (cursor.input (Watched.new source)).source.calls =
      cursor.calls (Source.deliver source) := by
  have delivered : Source.deliver (Watched.new source) = Source.deliver source :=
    Watched.deliver_eq _
  have reads :
      (Source.after (Watched.new source)
        (min cursor.seen ((Source.deliver source).characters.length + 1))).calls =
      Watched.readings ((Source.deliver source).characters.take cursor.seen) ++
        (if cursor.ranOut (Source.deliver source) then [.read (Source.deliver source).ending]
          else []) := by
    cases out : cursor.ranOut (Source.deliver source) with
    | true =>
      have past := ranOut_eq_true.mp out
      rw [Nat.min_eq_right past, Watched.calls_after_succ,
        Watched.calls_after source (Nat.le_refl _), List.take_length,
        List.take_of_length_le (Nat.le_of_lt past)]
      exact congrArg (fun answer => _ ++ [Call.read answer]) (Source.read_after_length source)
    | false =>
      have within := ranOut_eq_false.mp out
      rw [Nat.min_eq_left (Nat.le_succ_of_le within), Watched.calls_after source within]
      exact (List.append_nil _).symm
  rw [Cursor.input, Cursor.calls, delivered, ← reads]
  cases cursor.closed with
  | true => rfl
  | false => exact (List.append_nil _).symm

/-- Without its record, the lookahead is that of the source alone. -/
theorem Cursor.map_input {σ : Type} [Source σ] (cursor : Cursor) (source : σ) :
    (cursor.input (Watched.new source)).map Watched.source = cursor.input source := by
  have delivered : Source.deliver (Watched.new source) = Source.deliver source :=
    Watched.deliver_eq _
  have reached := Watched.source_after (Watched.new source)
    (min cursor.seen ((Source.deliver source).characters.length + 1))
  rw [Cursor.input, Cursor.input, delivered]
  cases cursor.closed with
  | true => exact congrArg (Lookahead.mk · _ _ _ _ _) (congrArg Source.close reached)
  | false => exact congrArg (Lookahead.mk · _ _ _ _ _) reached

/-! ## Requests to a lookahead -/

namespace Lookahead

variable {σ : Type} [Source σ]

/-- Closing again changes nothing. -/
theorem close_close (input : Lookahead σ) : input.close.close = input.close :=
  rfl

theorem after_ofSource (source : σ) (requests : List Request) :
    (ofSource source).after requests =
      (Cursor.start.after (Source.deliver source) requests).input source := by
  rw [← Cursor.input_start]
  exact Cursor.after_input Cursor.fits_start requests

/-- A lookahead on a source answers the next request as the cursor does. -/
theorem respond_ofSource (source : σ) (requests : List Request) (request : Request) :
    (((ofSource source).after requests).respond request).1 =
      (Cursor.start.after (Source.deliver source) requests).answer (Source.deliver source)
        request := by
  rw [after_ofSource, Cursor.respond_input (Cursor.fits_start.after requests)]

end Lookahead

/-! ## Sources without end -/

namespace Source.Hom

open Lookahead

variable {σ τ : Type} [Source σ] [Source τ] {beyond : σ → Prop} {map : σ → τ}
  (hom : Hom beyond map)

include hom

theorem beyond_respond {input : Lookahead σ} (now : beyond input.source) (request : Request) :
    beyond (input.respond request).2.source := by
  have kept := hom.invariant_beyond
  cases request with
  | current => exact kept.gather now countdown 0
  | peek count => exact kept.gather now countdown count
  | advance => exact kept.consume (kept.gather now countdown 0) 1
  | advanceBy count =>
    cases count with
    | zero => exact now
    | succ count => exact kept.consume (kept.gather now countdown count) (count + 1)
  | handOverFault => exact now
  | close => exact hom.beyond_close_input now

theorem beyond_requests {input : Lookahead σ} (now : beyond input.source)
    (requests : List Request) : beyond (input.after requests).source := by
  induction requests generalizing input with
  | nil => exact now
  | cons request later ih => exact ih (hom.beyond_respond now request)

theorem peek {input : Lookahead σ} {count : Nat} (still : ¬beyond (input.peek count).2.source) :
    (input.map map).peek count = ((input.peek count).1, (input.peek count).2.map map) := by
  rw [Lookahead.peek, hom.gather countdown count still]
  rfl

/-- **Sources that answer alike are looked at alike.** -/
theorem respond {input : Lookahead σ} {request : Request}
    (still : ¬beyond (input.respond request).2.source) :
    (input.map map).respond request =
      ((input.respond request).1, (input.respond request).2.map map) := by
  cases request with
  | current =>
    rw [Lookahead.respond, Lookahead.current, hom.peek still]
    rfl
  | peek count =>
    rw [Lookahead.respond, hom.peek still]
    rfl
  | advance =>
    rw [Lookahead.respond, Lookahead.advance, Lookahead.current, hom.peek still]
    rfl
  | advanceBy count =>
    cases count with
    | zero => rfl
    | succ count =>
      rw [Lookahead.respond, Lookahead.advanceBy, hom.gather countdown count still]
      rfl
  | handOverFault => rfl
  | close => exact congrArg (Prod.mk _) (hom.map_close input)

theorem requests (input : Lookahead σ) (requests : List Request)
    (still : ¬beyond (input.after requests).source) :
    (input.map map).after requests = (input.after requests).map map := by
  induction requests generalizing input with
  | nil => rfl
  | cons request later ih =>
    have before : ¬beyond (input.respond request).2.source :=
      mt (hom.beyond_requests · later) still
    show ((input.map map).respond request).2.after later = _
    rw [hom.respond before]
    exact ih _ still

end Source.Hom

/-- How many characters the requests can ask for. -/
def Request.reach : List Request → Nat
  | [] => 0
  | request :: later => request.needs + reach later

namespace Cursor

variable {cursor : Cursor} {delivery : Delivery}

theorem Fits.seen_next_le (fits : cursor.Fits delivery) (request : Request) :
    (cursor.next delivery request).seen ≤ cursor.seen + request.needs := by
  have place := fits.place_le_seen
  have seen (count : Nat) : (cursor.see count).seen ≤ cursor.seen + count := by
    cases isOpen : cursor.closed with
    | true => rw [see_of_closed isOpen]; exact Nat.le_add_right _ _
    | false =>
      rw [see_of_open isOpen]
      exact Nat.max_le.mpr ⟨Nat.le_add_right _ _, Nat.add_le_add_right place _⟩
  cases request with
  | handOverFault | close => exact Nat.le_refl _
  | current | peek | advance | advanceBy => exact seen _

theorem Fits.seen_after_le (fits : cursor.Fits delivery) (requests : List Request) :
    (cursor.after delivery requests).seen ≤ cursor.seen + Request.reach requests := by
  induction requests generalizing cursor with
  | nil => exact Nat.le_refl _
  | cons request later ih =>
    calc ((cursor.next delivery request).after delivery later).seen
      _ ≤ (cursor.next delivery request).seen + Request.reach later := ih (fits.next request)
      _ ≤ cursor.seen + request.needs + Request.reach later :=
        Nat.add_le_add_right (fits.seen_next_le request) _
      _ = cursor.seen + Request.reach (request :: later) := Nat.add_assoc _ _ _

end Cursor

namespace Limited

variable {σ : Type} {feed : Feed σ}

/-- A read comes closer to the limit by one at most. -/
theorem left_read (limited : Limited feed) : limited.left ≤ (Source.read limited).2.left + 1 := by
  obtain ⟨state, _ | left⟩ := limited
  · exact Nat.zero_le _
  · simp only [Source.read, read]
    rcases feed.read state with ⟨char | _ | fault, next⟩
    · exact Nat.le_refl _
    · exact Nat.le_succ _
    · exact Nat.le_succ _

theorem left_after (limited : Limited feed) (count : Nat) :
    limited.left ≤ (Source.after limited count).left + count := by
  induction count with
  | zero => exact Nat.le_refl _
  | succ count ih =>
    have one := left_read (Source.after limited count)
    rw [Source.after_succ]
    omega

/-- **Requests do not reach a limit beyond all that they can ask for.** -/
theorem left_requests (limited : Limited feed) (requests : List Request)
    (enough : Request.reach requests < limited.left) :
    ((Lookahead.ofSource limited).after requests).source.left ≠ 0 := by
  have fits : Cursor.start.Fits (Source.deliver limited) := Cursor.fits_start
  have seen := fits.seen_after_le requests
  rw [Lookahead.after_ofSource]
  generalize Cursor.start.after (Source.deliver limited) requests = cursor at seen
  have left := limited.left_after (min cursor.seen ((Source.deliver limited).characters.length + 1))
  have same : (cursor.input limited).source.left = (Source.after limited
      (min cursor.seen ((Source.deliver limited).characters.length + 1))).left := by
    rw [Cursor.input]
    cases cursor.closed <;> rfl
  have start : Cursor.start.seen = 0 := rfl
  omega

end Limited

namespace Lookahead

/-- **A lookahead on a source without end** does the same below all limits that the requests
do not reach. -/
theorem respond_raise {τ : Type} {feed : Feed τ} (limited : Limited feed) (more : Nat)
    (requests : List Request) (request : Request)
    (enough : Request.reach (requests ++ [request]) < limited.left) :
    ((ofSource (limited.raise more)).after requests).respond request =
      ((((ofSource limited).after requests).respond request).1,
        (((ofSource limited).after requests).respond request).2.map (Limited.raise more)) := by
  have hom := Limited.hom_raise feed more
  have below := limited.left_requests (requests ++ [request]) enough
  have last : (ofSource limited).after (requests ++ [request]) =
    (((ofSource limited).after requests).respond request).2 := List.foldl_append
  rw [last] at below
  have before : ((ofSource limited).after requests).source.left ≠ 0 :=
    mt (hom.beyond_respond · request) below
  have mapped : (ofSource (limited.raise more)).after requests =
    ((ofSource limited).after requests).map (Limited.raise more) :=
    hom.requests (ofSource limited) requests before
  rw [mapped, hom.respond below]

/-! ## Requests and cursors -/

variable {σ : Type} [Source σ]

/-- **A lookahead is a cursor over what its source delivers.** Ask anything of a lookahead on
any source, as often as one likes. It answers as the cursor does that starts before the
first character, and its last position is that of the last character that had to be seen.
The cursor is closed once a close was asked for, and has nothing ahead then; closing again
changes nothing. Except for the fault, no answer depends on the looks before it. A fault is
handed over at most once, and only when more was asked for than there is. The source is read
once for each character that had to be seen, never again after its end or fault, and closed
at most once. What a source delivers without end is given by its limits: the answers are
the same below all of them that the requests do not reach. -/
theorem respond_after (source : σ) (requests : List Request) :
    let delivery := Source.deliver source
    let cursor := Cursor.start.after delivery requests
    let input := (ofSource source).after requests
    let watched := (ofSource (Watched.new source)).after requests
    (∀ request, (input.respond request).1 = cursor.answer delivery request) ∧
      input.last = cursor.last delivery ∧
      input.closed = requests.contains .close ∧
      cursor.ahead delivery =
        (if .close ∈ requests then [] else delivery.characters.drop cursor.place) ∧
      input.close.close = input.close ∧
      (∀ request, request ≠ .handOverFault →
        (((ofSource source).after (requests.filter (!·.looks))).respond request).1 =
          (input.respond request).1) ∧
      (∀ fault, (input.respond .handOverFault).1 = .fault (some fault) →
        delivery.fault = some fault ∧ delivery.characters.length < cursor.seen ∧
          ∀ later, (((input.respond .handOverFault).2.after later).respond .handOverFault).1 =
            .fault none) ∧
      watched.map Watched.source = input ∧ watched.source.calls = cursor.calls delivery ∧
      ∀ {τ : Type} {feed : Feed τ} (limited : Limited feed) (more : Nat) (request : Request),
        Request.reach (requests ++ [request]) < limited.left →
          ((ofSource (limited.raise more)).after requests).respond request =
            ((((ofSource limited).after requests).respond request).1,
              (((ofSource limited).after requests).respond request).2.map
                (Limited.raise more)) := by
  intro delivery cursor input watched
  have fits : cursor.Fits delivery := Cursor.fits_start.after requests
  have stands : input = cursor.input source := after_ofSource source requests
  have watches : watched = cursor.input (Watched.new source) := by
    simp only [watched, cursor, delivery, after_ofSource]
    rw [Watched.deliver_eq]
    rfl
  have closed : cursor.closed = requests.contains .close :=
    (Cursor.closed_after Cursor.start delivery requests).trans (Bool.false_or _)
  have answers (request : Request) : (input.respond request).1 = cursor.answer delivery request :=
    respond_ofSource source requests request
  refine ⟨answers, congrArg last stands, (congrArg Lookahead.closed stands).trans closed, ?_,
    close_close input, ?_, ?_, ?_, ?_, fun limited more request enough =>
      respond_raise limited more requests request enough⟩
  · simp only [Cursor.ahead, closed, List.contains_iff_mem]
  · intro request other
    have alike : Cursor.Alike cursor (Cursor.start.after delivery (requests.filter (!·.looks))) :=
      Cursor.Alike.after ⟨rfl, rfl⟩ requests
    rw [answers, respond_ofSource]
    exact (alike.answer other).symm
  · -- The fault has been handed over by the request that found it, and none is left.
    intro fault found
    obtain ⟨ranOut, held⟩ := Cursor.fault?_eq_some (Answer.fault.inj ((answers _).symm.trans found))
    refine ⟨held, Cursor.ranOut_eq_true.mp ranOut, fun later => ?_⟩
    have taken : (cursor.takeFault delivery).taken = true := Bool.or_eq_true_iff.mpr (.inr ranOut)
    have next : (cursor.takeFault delivery).Fits delivery := fits.next .handOverFault
    rw [stands, Cursor.respond_input fits, Cursor.next, Cursor.after_input next,
      Cursor.respond_input (next.after later)]
    exact congrArg Answer.fault (Cursor.fault?_of_taken (Cursor.taken_after taken later))
  · rw [watches, stands, Cursor.map_input]
  · rw [watches, Cursor.calls_input]

end Lookahead

end Lexis
