import Lexis.Proofs.Faults
import Lexis.Proofs.Lifecycle
import Lexis.Proofs.Loops
import Lexis.Source.Script

/-!
# Where reports stand

A session that stops reports where it stopped. That is where the text starts that is no token,
or it is the position that a fault states, or, if the fault states none, that of the character
drawn last (`Outlook.Ends`). A pass takes characters off the front of what is in view and does
not change how they end (`Outlook.LeftOf`). So however many tokens were pulled, the session
ends in one of the ways that what the source delivers allows (`Session.ends_of_after`).

All three kinds of position are counted from one if the source counts so, but for the last
where no character was drawn: the position before the first character is the origin. So reports
of a source are counted from one unless it fails at once with a fault that states no position,
and then the report stands at the origin (`Session.diagnostics_after_fromOne`).
-/

namespace Lexis

set_option autoImplicit false

/-! ## Counting from one -/

/-- The line and the column are counted from one. -/
structure Position.FromOne (position : Position) : Prop where
  line : 1 ≤ position.line
  column : 1 ≤ position.column

instance : DecidablePred Position.FromOne := fun position =>
  decidable_of_iff (1 ≤ position.line ∧ 1 ≤ position.column)
    ⟨fun ⟨line, column⟩ => ⟨line, column⟩, fun fromOne => ⟨fromOne.line, fromOne.column⟩⟩

theorem Position.not_fromOne_origin : ¬origin.FromOne := by
  decide

/-- The last of some characters is one of them. -/
theorem exists_lastPosition_eq {characters : List Located} (nonempty : characters ≠ [])
    (before : Position) :
    ∃ located ∈ characters, lastPosition before characters = located.position := by
  obtain ⟨first, last, rfl⟩ := (List.eq_nil_or_concat' characters).resolve_left nonempty
  exact ⟨last, by simp, by rw [lastPosition_append]; rfl⟩

namespace Delivery

/-- The characters of a delivery are placed from one, and so is its fault if it states a
position. -/
structure FromOne (delivery : Delivery) : Prop where
  characters : ∀ located ∈ delivery.characters, located.position.FromOne
  fault : ∀ fault position, delivery.fault = some fault → fault.position? = some position →
    position.FromOne

/-- Nothing is delivered but a fault that states no position. -/
def FailsUnplaced (delivery : Delivery) : Prop :=
  delivery.characters = [] ∧ ∃ fault, delivery.fault = some fault ∧ fault.position? = none

/-- What a lookahead has in view of a delivery before it draws any of it. -/
def outlook (delivery : Delivery) : Outlook :=
  ⟨delivery.characters, delivery.fault, lastPosition .origin delivery.characters⟩

end Delivery

/-- A script delivers what it was made of. -/
theorem Script.deliver_ofCharacters (characters : List Located) (fault : Option Fault) :
    Source.deliver (ofCharacters characters fault) = ⟨characters, fault⟩ := by
  have played (position : Position) :
      Source.deliver (⟨characters, fault, position⟩ : Script) = ⟨characters, fault⟩ := by
    induction characters generalizing position with
    | nil =>
      cases fault with
      | none => exact Source.deliver_of_ended rfl
      | some fault => exact Source.deliver_of_failed rfl
    | cons first later ih =>
      rw [Source.deliver_of_char rfl, ih]
      rfl
  exact played .origin

/-! ## How sessions can end -/

namespace Outlook

/-- How a session can end that has some characters in view. -/
inductive Ends (outlook : Outlook) (ending : Ending) : Prop
  /-- The characters are used up. -/
  | used (same : ending = outlook.ending)
  /-- One of the characters starts a text that is no token. -/
  | illegal (kind : Diagnostic.Kind) (text : String) {start : Located}
      (inView : start ∈ outlook.characters) (stops : ending = .stopped ⟨kind, text, start.position⟩)

/-- What passes leave in view: characters from some place on, which end as before. -/
structure LeftOf (next outlook : Outlook) : Prop where
  characters : next.characters <:+ outlook.characters
  ending : next.ending = outlook.ending

theorem LeftOf.refl (outlook : Outlook) : outlook.LeftOf outlook :=
  ⟨List.suffix_rfl, rfl⟩

theorem LeftOf.trans {first second third : Outlook} (later : third.LeftOf second)
    (before : second.LeftOf first) : third.LeftOf first :=
  ⟨later.characters.trans before.characters, later.ending.trans before.ending⟩

/-- What is left in view allows no other end. -/
theorem Ends.of_leftOf {next outlook : Outlook} {ending : Ending} (ends : next.Ends ending)
    (left : next.LeftOf outlook) : outlook.Ends ending := by
  cases ends with
  | used same => exact .used (same.trans left.ending)
  | illegal kind text inView stops =>
    exact .illegal kind text (left.characters.subset inView) stops

section Passes

variable {outlook next : Outlook} {policy : Policy} {ending : Ending}

theorem ends_of_pass (answer : outlook.pass policy = (some (.over ending), next)) :
    outlook.Ends ending := by
  have inView {start : Located} {later : List Located}
      (shown : (outlook.dropWhile fun next => isBlank next.char).characters = start :: later) :
      start ∈ outlook.characters := by
    have inRest : start ∈ (outlook.dropWhile fun next => isBlank next.char).characters := by
      rw [shown]
      exact List.mem_cons_self
    exact (List.dropWhile_suffix _).subset inRest
  cases outlook.passCase policy with
  | nil _ passed =>
    cases passed.symm.trans answer
    exact .used rfl
  | word _ _ passed => cases passed.symm.trans answer
  | literal shown _ _ passed =>
    rw [passed] at answer
    unfold literal at answer
    dsimp only at answer
    split at answer <;> cases answer
    exact .illegal _ _ (inView shown) rfl
  | operator shown _ _ passed =>
    rw [passed] at answer
    unfold operator at answer
    dsimp only at answer
    split at answer <;> cases answer
    exact .illegal _ _ (inView shown) rfl

theorem leftOf_of_pass {finding : Option Finding} (answer : outlook.pass policy = (finding, next))
    (goesOn : ∀ ending, finding ≠ some (.over ending)) : next.LeftOf outlook := by
  refine ⟨suffix_of_pass answer, ?_⟩
  rcases outlook.pass_withEnd outlook.fault outlook.last policy with ⟨used, _⟩ | ⟨_, kept, _⟩
  · rw [answer] at used
    exact absurd used (goesOn _)
  · rwa [answer] at kept

/-- **A scan that finds the end finds one that is in view.** -/
theorem ends_of_scan (answer : outlook.scan policy = (.over ending, next)) :
    outlook.Ends ending := by
  fun_induction scan outlook policy with
  | case1 outlook finding after passed =>
    cases answer
    exact ends_of_pass passed
  | case2 outlook after passed ih =>
    exact (ih answer).of_leftOf (leftOf_of_pass passed (by simp))

/-- A scan that finds a lexeme leaves how the characters end. -/
theorem leftOf_of_scan {start : Position} {text : List Char} {kind : Kind}
    (answer : outlook.scan policy = (.lexeme start text kind, next)) : next.LeftOf outlook := by
  fun_induction scan outlook policy with
  | case1 outlook finding after passed =>
    cases answer
    exact leftOf_of_pass passed (by simp)
  | case2 outlook after passed ih =>
    exact (ih answer).trans (leftOf_of_pass passed (by simp))

end Passes

/-- What is reported when the characters are used up is their fault. -/
theorem exists_fault_of_ending {outlook : Outlook} {diagnostic : Diagnostic}
    (stops : .stopped diagnostic = outlook.ending) :
    ∃ fault, outlook.fault = some fault ∧
      diagnostic = .ofFault fault (fault.position?.getD outlook.last) := by
  unfold ending at stops
  split at stops
  · cases stops
  · rename_i fault failed
    cases stops
    exact ⟨fault, failed, rfl⟩

/-- **What is reported of a delivery from one is placed from one,** unless it fails at once
and does not say where. -/
theorem Ends.fromOne_or {delivery : Delivery} {diagnostic : Diagnostic}
    (ends : delivery.outlook.Ends (.stopped diagnostic)) (fromOne : delivery.FromOne) :
    diagnostic.position.FromOne ∨
      diagnostic.position = .origin ∧ delivery.FailsUnplaced := by
  cases ends with
  | illegal kind text inView stops =>
    cases stops
    exact .inl (fromOne.characters _ inView)
  | used same =>
    obtain ⟨fault, failed, rfl⟩ := exists_fault_of_ending same
    dsimp only [Diagnostic.ofFault]
    cases stated : fault.position? with
    | some position => exact .inl (fromOne.fault fault position failed stated)
    | none =>
      by_cases empty : delivery.characters = []
      · refine .inr ⟨?_, empty, fault, failed, stated⟩
        rw [Option.getD_none, Delivery.outlook, empty]
        rfl
      · obtain ⟨located, member, last⟩ := exists_lastPosition_eq empty .origin
        refine .inl ?_
        rw [Option.getD_none, Delivery.outlook, last]
        exact fromOne.characters located member

end Outlook

/-! ## Calls for tokens -/

namespace Session

variable {σ : Type} [Source σ]

/-- A session that had some characters in view: an open one has some of them left, and one
that is over ended in a way that they allow. -/
def StopsIn (whole : Outlook) (session : Session σ) : Prop :=
  match session.ending with
  | none => session.input.outlook.LeftOf whole
  | some ending => whole.Ends ending

variable {whole : Outlook} {session : Session σ}

/-- **A call for a token leaves the ways to end.** -/
theorem StopsIn.next (stopsIn : session.StopsIn whole) (table : SymbolTable) :
    (session.next table).session.StopsIn whole := by
  cases ended : session.ending with
  | some ending => rwa [next_of_ended ended]
  | none =>
    have left : session.input.outlook.LeftOf whole := by
      rwa [StopsIn, ended] at stopsIn
    obtain ⟨same, rest⟩ := session.input.scan_eq session.policy
    rcases found : session.input.scan session.policy with ⟨⟨start, text, kind⟩ | ending, input⟩
    · rw [found] at same rest
      have fewer := Outlook.leftOf_of_scan (Prod.ext same.symm rest.symm)
      rw [next_of_lexeme ended found]
      show StopsIn whole { session with input }
      rw [StopsIn, ended]
      exact fewer.trans left
    · rw [found] at same rest
      have ends := Outlook.ends_of_scan (Prod.ext same.symm rest.symm)
      rw [next_of_over ended found]
      exact ends.of_leftOf left

theorem StopsIn.after (stopsIn : session.StopsIn whole) (tables : List SymbolTable) :
    (session.after tables).StopsIn whole := by
  induction tables generalizing session with
  | nil => exact stopsIn
  | cons table later ih => exact ih (stopsIn.next table)

/-- **However many tokens are pulled, a session ends in a way that its source allows.** -/
theorem ends_of_after (source : σ) (policy : Policy) (tables : List SymbolTable) {ending : Ending}
    (ended : ((new source policy).after tables).ending = some ending) :
    (Source.deliver source).outlook.Ends ending := by
  have started : (new source policy).StopsIn (Source.deliver source).outlook := by
    show Outlook.LeftOf (Lookahead.ofSource source).outlook _
    rw [Lookahead.outlook_ofSource]
    exact .refl _
  have stopsIn := started.after tables
  rwa [StopsIn, ended] at stopsIn

omit [Source σ] in
theorem ending_of_mem_diagnostics {diagnostic : Diagnostic}
    (reported : diagnostic ∈ session.diagnostics) :
    session.ending = some (.stopped diagnostic) := by
  obtain ⟨input, policy, _ | _ | only⟩ := session
  · cases reported
  · cases reported
  · rw [List.mem_singleton.mp reported]

/-- A source that fails at once and does not say where is reported at the origin, by the first
call for a token. -/
theorem origin_of_failsUnplaced {source : σ} (fails : (Source.deliver source).FailsUnplaced)
    (policy : Policy) (table : SymbolTable) :
    ∃ diagnostic ∈ ((new source policy).after [table]).diagnostics,
      diagnostic.position = .origin := by
  obtain ⟨empty, fault, failed, unplaced⟩ := fails
  have shown : (Lookahead.ofSource source).outlook = ⟨[], some fault, .origin⟩ := by
    rw [Lookahead.outlook_ofSource, empty, failed]
    rfl
  have ending : Outlook.ending ⟨[], some fault, .origin⟩ = .stopped (.ofFault fault .origin) := by
    dsimp only [Outlook.ending]
    rw [unplaced]
    rfl
  obtain ⟨same, _⟩ := (Lookahead.ofSource source).scan_eq policy
  rw [shown, Outlook.scan_of_some (Outlook.pass_of_nil policy rfl), ending] at same
  have running : (new source policy).ending = none := rfl
  have pulled := next_of_over running (Prod.ext same rfl) table
  have ended : ((new source policy).after [table]).ending =
      some (.stopped (.ofFault fault .origin)) := congrArg (Session.ending ∘ Pulled.session) pulled
  refine ⟨.ofFault fault .origin, ?_, rfl⟩
  rw [diagnostics, ended]
  exact List.mem_singleton_self _

/-- **Reports are placed from one.** Take a source whose characters are placed from one, and
whose fault is if it states a position, and any calls for tokens. What the session has reported
is placed from one, unless the source failed before its first character with a fault that
states no position. Then the report stands at the origin. -/
theorem diagnostics_after_fromOne (source : σ) (policy : Policy)
    (fromOne : (Source.deliver source).FromOne) :
    (∀ tables, ∀ diagnostic ∈ ((new source policy).after tables).diagnostics,
      diagnostic.position.FromOne ∨
        diagnostic.position = .origin ∧ (Source.deliver source).FailsUnplaced) ∧
    ((∀ tables, ∀ diagnostic ∈ ((new source policy).after tables).diagnostics,
      diagnostic.position.FromOne) ↔ ¬(Source.deliver source).FailsUnplaced) := by
  have places (tables : List SymbolTable) : ∀ diagnostic ∈
      ((new source policy).after tables).diagnostics, diagnostic.position.FromOne ∨
        diagnostic.position = .origin ∧ (Source.deliver source).FailsUnplaced := by
    intro diagnostic reported
    exact (ends_of_after source policy tables (ending_of_mem_diagnostics reported)).fromOne_or
      fromOne
  refine ⟨places, fun always fails => ?_, fun placed tables diagnostic reported => ?_⟩
  · obtain ⟨diagnostic, reported, position⟩ := origin_of_failsUnplaced fails policy (.new 0)
    exact Position.not_fromOne_origin (position ▸ always [.new 0] diagnostic reported)
  · exact (places tables diagnostic reported).resolve_right fun ⟨_, fails⟩ => placed fails

/-- A source that fails behind two characters and does not say where. -/
theorem diagnostics_after_fromOne_unplaced :
    let fault := Fault.opening "gone.x" .noSuchFile
    let script := Script.ofCharacters [⟨'a', 1, 1⟩, ⟨' ', 1, 2⟩] (some fault)
    (Source.deliver script).FromOne ∧
      (∀ tables, ∀ diagnostic ∈ ((new script {}).after tables).diagnostics,
        diagnostic.position.FromOne) ∧
      ((new script {}).after [.new 0, .new 0]).diagnostics = [.ofFault fault ⟨1, 2⟩] := by
  intro fault script
  have delivered : Source.deliver script = ⟨[⟨'a', 1, 1⟩, ⟨' ', 1, 2⟩], some fault⟩ :=
    Script.deliver_ofCharacters _ _
  have fromOne : (Source.deliver script).FromOne := by
    rw [delivered]
    exact ⟨by decide, by rintro _ _ ⟨⟩ ⟨⟩⟩
  refine ⟨fromOne, (diagnostics_after_fromOne script {} fromOne).2.mpr ?_, by decide +kernel⟩
  rw [delivered]
  rintro ⟨⟨⟩, _⟩

/-- Where no character comes before such a fault, the report stands at the origin. -/
theorem not_diagnostics_after_fromOne :
    ¬∀ (script : Script) (policy : Policy) (tables : List SymbolTable),
      (Source.deliver script).FromOne →
        ∀ diagnostic ∈ ((new script policy).after tables).diagnostics,
          diagnostic.position.FromOne := by
  intro claimed
  let fault := Fault.opening "gone.x" .noSuchFile
  let script := Script.ofCharacters [] (some fault)
  have fromOne : (Source.deliver script).FromOne := by
    rw [Script.deliver_ofCharacters]
    exact ⟨nofun, by rintro _ _ ⟨⟩ ⟨⟩⟩
  have reported : ((new script {}).after [.new 0]).diagnostics = [.ofFault fault .origin] := by
    decide +kernel
  have placed := claimed script {} [.new 0] fromOne (.ofFault fault .origin)
    (by rw [reported]; exact List.mem_singleton_self _)
  exact Position.not_fromOne_origin placed

end Session

end Lexis
