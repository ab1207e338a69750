import Lexis.Scan

/-!
# Scanning touches the source by drawing alone

A scan looks at characters, consumes some, and may take the fault that ended the
input. The source is reached in one place only, where a character is drawn. Two
things follow for every source.

What each draw keeps is kept by a scan (`Lookahead.Invariant.scan`), whatever the
scan finds and however far ahead it looks.

A map between sources that agrees with reading agrees with scanning
(`Source.Hom.scan`): sources that answer alike are scanned alike, and what else
they may hold does not show in what is found. It is enough that they answer alike
for as long as the scan reads them.
-/

namespace Lexis

set_option autoImplicit false

namespace Lookahead

variable {σ : Type} [Source σ]

/-! ## Single draws -/

section Draws

variable {input : Lookahead σ} {source : σ}

theorem draw_of_drained (drained : input.drained = true) : input.draw = (none, input) :=
  if_pos drained

theorem draw_of_char (undrained : input.drained = false) {char : Char}
    (read : Source.read input.source = (.char char, source)) :
    input.draw = (some ⟨char, Source.position source⟩,
      { input with source, last := Source.position source }) := by
  rw [draw, if_neg (by rw [undrained]; exact Bool.false_ne_true), read]

theorem draw_of_ended (undrained : input.drained = false)
    (read : Source.read input.source = (.ended, source)) :
    input.draw = (none, { input with source, drained := true }) := by
  rw [draw, if_neg (by rw [undrained]; exact Bool.false_ne_true), read]

theorem draw_of_failed (undrained : input.drained = false) {fault : Fault}
    (read : Source.read input.source = (.failed fault, source)) :
    input.draw = (none, { input with source, drained := true, fault := some fault }) := by
  rw [draw, if_neg (by rw [undrained]; exact Bool.false_ne_true), read]

end Draws

section Runs

variable {state : Type} {step : state → Located → Option state} {current : state}
  {drawn : List Located} {input next : Lookahead σ}

theorem drawRun_of_none (answer : input.draw = (none, next)) :
    drawRun step current drawn input = (drawn, next) := by
  rw [drawRun]
  split <;> simp_all

theorem drawRun_of_accepted {char : Located} (answer : input.draw = (some char, next))
    {later : state} (accepted : step current char = some later) :
    drawRun step current drawn input = drawRun step later (char :: drawn) next := by
  rw [drawRun]
  split <;> simp_all

theorem drawRun_of_refused {char : Located} (answer : input.draw = (some char, next))
    (refused : step current char = none) :
    drawRun step current drawn input = (char :: drawn, next) := by
  rw [drawRun]
  split <;> simp_all

theorem scan_of_some {policy : Policy} {finding : Finding}
    (answer : input.pass policy = (some finding, next)) :
    input.scan policy = (finding, next) := by
  rw [scan]
  split <;> simp_all

theorem scan_of_none {policy : Policy} (answer : input.pass policy = (none, next)) :
    input.scan policy = next.scan policy := by
  rw [scan]
  split <;> simp_all

end Runs

/-! ## Invariants -/

/-- What draws keep, and what does not depend on the window or on whether the
fault has been taken. -/
structure Invariant (holds : Lookahead σ → Prop) : Prop where
  draw : ∀ {input}, holds input → holds input.draw.2
  window : ∀ {input}, holds input → ∀ window, holds { input with window }
  fault : ∀ {input}, holds input → holds { input with fault := none }

namespace Invariant

variable {holds : Lookahead σ → Prop} (kept : Invariant holds) {state : Type}

include kept

theorem drawRun (step : state → Located → Option state) (current : state) (drawn : List Located)
    {input : Lookahead σ} (now : holds input) :
    holds (Lookahead.drawRun step current drawn input).2 := by
  fun_induction Lookahead.drawRun step current drawn input with
  | case1 current drawn input next answer =>
    have after := kept.draw now
    rwa [answer] at after
  | case2 current drawn input char next answer later accepted ih =>
    have after := kept.draw now
    rw [answer] at after
    exact ih after
  | case3 current drawn input char next answer refused =>
    have after := kept.draw now
    rwa [answer] at after

theorem gather {input : Lookahead σ} (now : holds input)
    (step : state → Located → Option state) (start : state) :
    holds (input.gather step start) := by
  unfold Lookahead.gather
  split
  · exact now
  · exact kept.window (kept.drawRun step _ [] now) _

theorem consume {input : Lookahead σ} (now : holds input) (count : Nat) :
    holds (input.consume count) :=
  kept.window now _

theorem skipWhile {input : Lookahead σ} (now : holds input) (condition : Located → Bool) :
    holds (input.skipWhile condition) :=
  kept.consume (kept.gather now _ _) _

theorem finish {input : Lookahead σ} (now : holds input) : holds input.finish.2 := by
  have after := kept.fault now
  unfold Lookahead.finish handOverFault
  cases input.fault with
  | none => exact after
  | some fault => exact after

theorem word {input : Lookahead σ} (now : holds input) (start : Located) :
    holds (input.word start).2 :=
  kept.consume (kept.gather now _ _) _

theorem literal_of_gather {input : Lookahead σ}
    (seen : holds (input.gather (fun phase next => Literal.Phase.step phase next.char) .whole))
    (policy : Policy) (start : Located) : holds (input.literal policy start).2 := by
  unfold Lookahead.literal look
  dsimp only
  split
  · exact kept.consume seen _
  · exact kept.consume seen _

theorem operator_of_gather {input : Lookahead σ} (seen : holds (input.gather countdown 1))
    (start : Located) : holds (input.operator start).2 := by
  unfold Lookahead.operator peek
  dsimp only
  split
  · exact kept.consume seen _
  · exact kept.skipWhile (kept.consume seen _) _
  · exact kept.consume seen _

theorem pass_of_skipWhile {input : Lookahead σ}
    (skipped : holds (input.skipWhile fun next => isBlank next.char)) (policy : Policy) :
    holds (input.pass policy).2 := by
  unfold Lookahead.pass
  dsimp only
  split
  · exact kept.finish skipped
  · rename_i start _ _
    split
    · exact kept.word skipped start
    · split
      · exact kept.literal_of_gather (kept.gather skipped _ _) policy start
      · exact kept.operator_of_gather (kept.gather skipped _ _) start

theorem pass {input : Lookahead σ} (now : holds input) (policy : Policy) :
    holds (input.pass policy).2 :=
  kept.pass_of_skipWhile (kept.skipWhile now _) policy

/-- **What draws keep is kept by scans.** -/
theorem scan {input : Lookahead σ} (now : holds input) (policy : Policy) :
    holds (input.scan policy).2 := by
  fun_induction Lookahead.scan input policy with
  | case1 input finding next answer =>
    have after := kept.pass now policy
    rwa [answer] at after
  | case2 input next answer ih =>
    have after := kept.pass now policy
    rw [answer] at after
    exact ih after

end Invariant

end Lookahead

/-! ## Sources that answer alike -/

/-- A map between sources that agrees with reading, with positions and with
closing. On sources that are `beyond` some bounds it need not agree, and those
stay there. -/
structure Source.Hom {σ τ : Type} [Source σ] [Source τ] (beyond : σ → Prop) (map : σ → τ) :
    Prop where
  beyond_read : ∀ {source}, beyond source → beyond (Source.read source).2
  beyond_close : ∀ {source}, beyond source → beyond (Source.close source)
  read : ∀ {source}, ¬beyond (Source.read source).2 →
    Source.read (map source) = ((Source.read source).1, map (Source.read source).2)
  position : ∀ source, Source.position (map source) = Source.position source
  close : ∀ source, Source.close (map source) = map (Source.close source)

/-- An input with its source mapped. -/
def Lookahead.map {σ τ : Type} (map : σ → τ) (input : Lookahead σ) : Lookahead τ :=
  { input with source := map input.source }

theorem Lookahead.finish_map {σ τ : Type} (map : σ → τ) (input : Lookahead σ) :
    (input.map map).finish = (input.finish.1, input.finish.2.map map) := by
  have fault : (input.map map).fault = input.fault := rfl
  unfold finish handOverFault
  rw [fault]
  cases input.fault with
  | none => rfl
  | some fault => rfl

namespace Source.Hom

open Lookahead

variable {σ τ : Type} [Source σ] [Source τ] {beyond : σ → Prop} {map : σ → τ}
  (hom : Hom beyond map) {state : Type}

include hom

/-- What is beyond the bounds before a scan is beyond them after it. So where the
bounds are kept at the end of a run, they are kept at every step. -/
theorem invariant_beyond : Lookahead.Invariant fun input : Lookahead σ => beyond input.source where
  draw := by
    intro input now
    cases drained : input.drained with
    | true => rwa [draw_of_drained drained]
    | false =>
      have after := hom.beyond_read now
      rcases read : Source.read input.source with ⟨char | _ | fault, next⟩
      · rw [read] at after
        rwa [draw_of_char drained read]
      · rw [read] at after
        rwa [draw_of_ended drained read]
      · rw [read] at after
        rwa [draw_of_failed drained read]
  window now _ := now
  fault now := now

theorem draw {input next : Lookahead σ} {drawn : Option Located}
    (answer : input.draw = (drawn, next)) (still : ¬beyond next.source) :
    (input.map map).draw = (drawn, next.map map) := by
  cases drained : input.drained with
  | true =>
    have drained' : (input.map map).drained = true := drained
    rw [draw_of_drained drained] at answer
    rw [draw_of_drained drained', ← (Prod.mk.inj answer).1, ← (Prod.mk.inj answer).2]
  | false =>
    have undrained : (input.map map).drained = false := drained
    have mapped : ¬beyond (Source.read input.source).2 →
        Source.read (input.map map).source = _ := hom.read
    rcases read : Source.read input.source with ⟨char | _ | fault, source⟩
    · rw [draw_of_char drained read] at answer
      obtain ⟨rfl, rfl⟩ := Prod.mk.inj answer
      rw [read] at mapped
      rw [draw_of_char undrained (mapped still), hom.position]
      rfl
    · rw [draw_of_ended drained read] at answer
      obtain ⟨rfl, rfl⟩ := Prod.mk.inj answer
      rw [read] at mapped
      rw [draw_of_ended undrained (mapped still)]
      rfl
    · rw [draw_of_failed drained read] at answer
      obtain ⟨rfl, rfl⟩ := Prod.mk.inj answer
      rw [read] at mapped
      rw [draw_of_failed undrained (mapped still)]
      rfl

theorem drawRun (step : state → Located → Option state) (current : state) (drawn : List Located)
    (input : Lookahead σ)
    (still : ¬beyond (Lookahead.drawRun step current drawn input).2.source) :
    Lookahead.drawRun step current drawn (input.map map) =
      ((Lookahead.drawRun step current drawn input).1,
        (Lookahead.drawRun step current drawn input).2.map map) := by
  fun_induction Lookahead.drawRun step current drawn input with
  | case1 current drawn input next answer => exact drawRun_of_none (hom.draw answer still)
  | case2 current drawn input char next answer later accepted ih =>
    have before : ¬beyond next.source :=
      mt (hom.invariant_beyond.drawRun step later (char :: drawn)) still
    rw [drawRun_of_accepted (hom.draw answer before) accepted, ih still]
  | case3 current drawn input char next answer refused =>
    exact drawRun_of_refused (hom.draw answer still) refused

theorem gather {input : Lookahead σ} (step : state → Located → Option state) (start : state)
    (still : ¬beyond (input.gather step start).source) :
    (input.map map).gather step start = (input.gather step start).map map := by
  have window : (input.map map).window = input.window := rfl
  unfold Lookahead.gather at still ⊢
  rw [window]
  cases reached : stateAfter? step start input.window with
  | none => rfl
  | some current =>
    rw [reached] at still
    dsimp only
    rw [hom.drawRun step current [] input still]
    rfl

theorem skipWhile {input : Lookahead σ} (condition : Located → Bool)
    (still : ¬beyond (input.skipWhile condition).source) :
    (input.map map).skipWhile condition = (input.skipWhile condition).map map := by
  unfold Lookahead.skipWhile look
  rw [hom.gather _ _ still]
  rfl

theorem word {input : Lookahead σ} (start : Located)
    (still : ¬beyond (input.word start).2.source) :
    (input.map map).word start = ((input.word start).1, (input.word start).2.map map) := by
  unfold Lookahead.word look
  rw [hom.gather _ _ still]
  rfl

theorem literal {input : Lookahead σ} (policy : Policy) (start : Located)
    (still : ¬beyond (input.literal policy start).2.source) :
    (input.map map).literal policy start =
      ((input.literal policy start).1, (input.literal policy start).2.map map) := by
  have before := mt (fun seen => hom.invariant_beyond.literal_of_gather seen policy start) still
  unfold Lookahead.literal look
  rw [hom.gather _ _ before]
  generalize input.gather _ _ = seen
  have window : (seen.map map).window = seen.window := rfl
  dsimp only
  rw [window]
  cases Literal.judge policy (chars (longest _ _ seen.window)) with
  | accept length kind => rfl
  | reject length => rfl

theorem operator {input : Lookahead σ} (start : Located)
    (still : ¬beyond (input.operator start).2.source) :
    (input.map map).operator start =
      ((input.operator start).1, (input.operator start).2.map map) := by
  have before := mt (fun seen => hom.invariant_beyond.operator_of_gather seen start) still
  unfold Lookahead.operator peek at still ⊢
  rw [hom.gather _ _ before]
  generalize input.gather countdown 1 = seen at still ⊢
  have window : (seen.map map).window = seen.window := rfl
  dsimp only at still ⊢
  rw [window]
  generalize Operator.munch start.char (seen.window[1]?.map Located.char) = text at still ⊢
  have consumed : (seen.map map).consume text.length = (seen.consume text.length).map map := rfl
  rw [consumed]
  cases found : Operator.ofChars? text with
  | none => rfl
  | some mark =>
    rw [found] at still
    cases mark with
    | comment => exact congrArg (Prod.mk none) (hom.skipWhile _ still)
    | _ => rfl

theorem pass {input : Lookahead σ} (policy : Policy)
    (still : ¬beyond (input.pass policy).2.source) :
    (input.map map).pass policy = ((input.pass policy).1, (input.pass policy).2.map map) := by
  have before := mt (fun skipped => hom.invariant_beyond.pass_of_skipWhile skipped policy) still
  unfold Lookahead.pass at still ⊢
  rw [hom.skipWhile _ before]
  generalize input.skipWhile _ = input at still ⊢
  have window : (input.map map).window = input.window := rfl
  dsimp only at still ⊢
  rw [window]
  cases shown : input.window with
  | nil =>
    dsimp only
    rw [finish_map]
  | cons start later =>
    rw [shown] at still
    dsimp only at still ⊢
    cases word : startsWord start.char with
    | true =>
      rw [word] at still
      exact congrArg (Prod.map some id) (hom.word start still)
    | false =>
      rw [word] at still
      cases digit : isDigit start.char with
      | true =>
        rw [digit] at still
        exact congrArg (Prod.map some id) (hom.literal policy start still)
      | false =>
        rw [digit] at still
        exact hom.operator start still

/-- **Sources that answer alike are scanned alike.** -/
theorem scan (input : Lookahead σ) (policy : Policy)
    (still : ¬beyond (input.scan policy).2.source) :
    (input.map map).scan policy = ((input.scan policy).1, (input.scan policy).2.map map) := by
  fun_induction Lookahead.scan input policy with
  | case1 input finding next answer =>
    have mapped := hom.pass policy (by rwa [answer])
    rw [answer] at mapped
    exact scan_of_some mapped
  | case2 input next answer ih =>
    have before : ¬beyond next.source :=
      mt (fun now => hom.invariant_beyond.scan now policy) still
    have mapped := hom.pass policy (by rwa [answer])
    rw [answer] at mapped
    rw [scan_of_none mapped, ih still]

theorem beyond_close_input {input : Lookahead σ} (now : beyond input.source) :
    beyond input.close.source := by
  unfold Lookahead.close
  cases input.closed with
  | true => exact now
  | false => exact hom.beyond_close now

theorem map_close (input : Lookahead σ) : (input.map map).close = input.close.map map := by
  have closed : (input.map map).closed = input.closed := rfl
  unfold Lookahead.close
  rw [closed]
  cases input.closed with
  | true => rfl
  | false => exact congrArg (Lookahead.mk · true [] true _ _) (hom.close _)

end Source.Hom

end Lexis
