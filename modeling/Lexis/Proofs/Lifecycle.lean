import Lexis.Proofs.Drawing
import Lexis.Proofs.Sessions
import Lexis.Source.Limited

/-!
# The life of a session

A session scans until it ends, and then it stays as it is. What its accessors say
agrees at every moment in between (`Session.lifecycle`): there are no diagnostics
before the end or where the input is used up, there is one of the matching kind
where the session stopped, and the session is finished from the call on in which
it ended.

What the session does to its source is told by a source that keeps a record of
the calls made to it (`Watched`). Reading and closing it is reading and closing
the source inside, so a session runs the same with the record and without. The
record shows that a source is read only as long as it answers with characters,
and that it is closed once, by the call in which the session ends.

Nothing is assumed about how a source would go on after its end, after a fault,
or when closed, and it need not come to an end either. A feed without end is a
source below each limit, and a call that stays below the limit yields the same
below every higher one (`Session.next_raise`).
-/

namespace Lexis

set_option autoImplicit false

/-! ## Sources with a record of their calls -/

/-- A call made to a source, and what a read answered. -/
inductive Call
  | read (answer : Reading)
  | close
  deriving DecidableEq

/-- A source and the calls made to it, the first one in front. -/
structure Watched (σ : Type) where
  source : σ
  calls : List Call

namespace Watched

/-- A source that has not been called. -/
def new {σ : Type} (source : σ) : Watched σ :=
  ⟨source, []⟩

instance {σ : Type} [Source σ] : Source (Watched σ) where
  read watched :=
    let (answer, source) := Source.read watched.source
    (answer, ⟨source, watched.calls ++ [.read answer]⟩)
  position watched := Source.position watched.source
  close watched := ⟨Source.close watched.source, watched.calls ++ [.close]⟩
  remaining watched := Source.remaining watched.source
  remaining_lt := by
    intro watched next char answer
    obtain ⟨answered, rfl⟩ := Prod.mk.inj answer
    exact Source.remaining_lt (Prod.ext answered rfl)
  overflowed watched := Source.overflowed watched.source
  overflowed_read := Source.overflowed_read
  overflowed_close watched := Source.overflowed_close watched.source

variable {σ : Type} [Source σ]

/-- A read is put on record with its answer. -/
theorem calls_of_read {watched next : Watched σ} {answer : Reading}
    (read : Source.read watched = (answer, next)) :
    next.calls = watched.calls ++ [.read answer] := by
  obtain ⟨rfl, rfl⟩ := Prod.mk.inj read
  rfl

/-- The record does not change what the source inside does. -/
theorem hom_source : Source.Hom (fun _ => False) (source : Watched σ → σ) where
  beyond_read := id
  beyond_close := id
  read _ := rfl
  position _ := rfl
  close _ := rfl

end Watched

/-! ## Sources with a limit -/

/-- A higher limit changes nothing as long as the limit is not reached. -/
theorem Limited.hom_raise {σ : Type} (feed : Feed σ) (more : Nat) :
    Source.Hom (fun limited : Limited feed => limited.left = 0) (raise more) where
  beyond_read := by
    rintro ⟨state, left⟩ rfl
    rfl
  beyond_close := id
  read := by
    rintro ⟨state, _ | left⟩ below
    · exact absurd rfl below
    · have raised : left + 1 + more = left + more + 1 := Nat.add_right_comm left 1 more
      simp only [Source.read, read, raise, raised]
      rcases feed.read state with ⟨char | _ | fault, next⟩
      · rfl
      · simp only [raised]
      · simp only [raised]
  position _ := rfl
  close _ := rfl

/-! ## Orderly calls -/

/-- A source is read only after characters, never after an end, a fault or a
close. -/
def ReadsInOrder (calls : List Call) : Prop :=
  calls.Pairwise fun earlier later =>
    ∀ answer, later = .read answer → ∃ char, earlier = .read (.char char)

/-- A call after reads that all answered with characters. -/
theorem ReadsInOrder.append {calls : List Call} (inOrder : ReadsInOrder calls)
    (chars : ∀ call ∈ calls, ∃ char, call = .read (.char char)) (last : Call) :
    ReadsInOrder (calls ++ [last]) := by
  refine List.pairwise_append.mpr ⟨inOrder, List.pairwise_singleton _ _, ?_⟩
  intro earlier member later _ answer _
  exact chars earlier member

/-- A close may follow any calls. -/
theorem ReadsInOrder.append_close {calls : List Call} (inOrder : ReadsInOrder calls) :
    ReadsInOrder (calls ++ [.close]) := by
  refine List.pairwise_append.mpr ⟨inOrder, List.pairwise_singleton _ _, ?_⟩
  intro earlier _ later isLast answer isRead
  rw [List.mem_singleton.mp isLast] at isRead
  cases isRead

namespace Lookahead

variable {σ : Type} [Source σ]

/-- An input whose source is in use: it has not been closed, and where reading
may go on it has answered with characters so far. -/
structure InUse (input : Lookahead (Watched σ)) : Prop where
  closed : input.closed = false
  inOrder : ReadsInOrder input.source.calls
  noClose : .close ∉ input.source.calls
  chars : input.drained = false →
    ∀ call ∈ input.source.calls, ∃ char, call = .read (.char char)

/-- An input whose source was closed, once and after all reads. -/
structure Released (input : Lookahead (Watched σ)) : Prop where
  closed : input.closed = true
  inOrder : ReadsInOrder input.source.calls
  closes : input.source.calls.count .close = 1

omit [Source σ] in
theorem inUse_ofSource (source : σ) : (ofSource (Watched.new source)).InUse where
  closed := rfl
  inOrder := List.Pairwise.nil
  noClose := List.not_mem_nil
  chars _ _ member := absurd member List.not_mem_nil

/-- **Drawing reads a source only where it may be read.** -/
theorem InUse.draw {input : Lookahead (Watched σ)} (inUse : input.InUse) :
    input.draw.2.InUse := by
  cases drained : input.drained with
  | true => rwa [draw_of_drained drained]
  | false =>
    have chars := inUse.chars drained
    have inOrder := inUse.inOrder.append chars
    have noClose (answer : Reading) : .close ∉ input.source.calls ++ [.read answer] := by
      simp [inUse.noClose]
    -- Any other answer than a character drains the input, and then nothing is read.
    rcases read : Source.read input.source with ⟨char | _ | fault, next⟩
    · have calls := Watched.calls_of_read read
      rw [draw_of_char drained read]
      refine ⟨inUse.closed, calls ▸ inOrder _, calls ▸ noClose _, ?_⟩
      intro _ call member
      rw [calls] at member
      rcases List.mem_append.mp member with member | member
      · exact chars call member
      · exact ⟨char, List.mem_singleton.mp member⟩
    · have calls := Watched.calls_of_read read
      rw [draw_of_ended drained read]
      exact ⟨inUse.closed, calls ▸ inOrder _, calls ▸ noClose _, nofun⟩
    · have calls := Watched.calls_of_read read
      rw [draw_of_failed drained read]
      exact ⟨inUse.closed, calls ▸ inOrder _, calls ▸ noClose _, nofun⟩

theorem invariant_inUse : Invariant (InUse : Lookahead (Watched σ) → Prop) where
  draw inUse := inUse.draw
  window inUse _ := ⟨inUse.closed, inUse.inOrder, inUse.noClose, inUse.chars⟩
  fault inUse := ⟨inUse.closed, inUse.inOrder, inUse.noClose, inUse.chars⟩

/-- Closing an input whose source is in use closes the source. -/
theorem InUse.close {input : Lookahead (Watched σ)} (inUse : input.InUse) :
    input.close.Released := by
  have source : input.close.source = Source.close input.source := by
    rw [Lookahead.close, inUse.closed]
    rfl
  have calls : input.close.source.calls = input.source.calls ++ [.close] := by
    rw [source]
    rfl
  refine ⟨rfl, calls ▸ inUse.inOrder.append_close, ?_⟩
  rw [calls, List.count_append, List.count_eq_zero.mpr inUse.noClose]
  rfl

end Lookahead

/-! ## Calls to a session -/

/-- A session with its source mapped. -/
def Session.map {σ τ : Type} (map : σ → τ) (session : Session σ) : Session τ :=
  { session with input := session.input.map map }

/-- What a call yields, with the source mapped. -/
def Pulled.map {σ τ : Type} (map : σ → τ) (pulled : Pulled σ) : Pulled τ :=
  { pulled with session := pulled.session.map map }

namespace Session

variable {σ : Type}

/-- A session after calls for tokens, each with a table. -/
def after [Source σ] (session : Session σ) (tables : List SymbolTable) : Session σ :=
  tables.foldl (fun session table => (session.next table).session) session

/-- What the accessors say fits together. -/
structure Consistent (session : Session σ) : Prop where
  /-- There is nothing to report before the end, or where the input is used up. -/
  quiet : session.termination? = none ∨ session.termination? = some .exhausted →
    session.diagnostics = []
  /-- Where the session stopped, there is one report of the kind that stopped it. -/
  reported : ∀ kind : Diagnostic.Kind, session.termination? = some kind.termination →
    ∃ diagnostic, session.diagnostics = [diagnostic] ∧ diagnostic.kind = kind
  finished : session.isFinished = session.termination?.isSome

/-- The calls that a session has made to its source. -/
structure Orderly (session : Session (Watched σ)) : Prop where
  reads : ReadsInOrder session.input.source.calls
  closes : session.input.source.calls.count .close = if session.termination?.isSome then 1 else 0

/-- A session whose source is in use before the end and released after it. -/
def Sound [Source σ] (session : Session (Watched σ)) : Prop :=
  match session.ending with
  | none => session.input.InUse
  | some _ => session.input.Released

variable [Source σ]

theorem sound_new (source : σ) (policy : Policy) : (new (Watched.new source) policy).Sound :=
  Lookahead.inUse_ofSource source

/-- **A call for a token keeps a session sound.** -/
theorem Sound.next {session : Session (Watched σ)} (sound : session.Sound)
    (table : SymbolTable) : (session.next table).session.Sound := by
  cases ended : session.ending with
  | some ending => rwa [next_of_ended ended]
  | none =>
    have inUse : session.input.InUse := by
      rwa [Sound, ended] at sound
    have scanned := Lookahead.invariant_inUse.scan inUse session.policy
    rcases found : session.input.scan session.policy with ⟨⟨start, text, kind⟩ | ending, input⟩
    · rw [found] at scanned
      rw [next_of_lexeme ended found]
      show Sound { session with input }
      rw [Sound, ended]
      exact scanned
    · rw [found] at scanned
      rw [next_of_over ended found]
      exact scanned.close

theorem Sound.after {session : Session (Watched σ)} (sound : session.Sound)
    (tables : List SymbolTable) : (session.after tables).Sound := by
  induction tables generalizing session with
  | nil => exact sound
  | cons table later ih => exact ih (sound.next table)

/-- The reports of a session are those of its ending, and a session is finished
when its source is released. -/
theorem Sound.consistent {session : Session (Watched σ)} (sound : session.Sound) :
    session.Consistent := by
  obtain ⟨input, policy, _ | _ | diagnostic⟩ := session
  · exact ⟨fun _ => rfl, nofun, rfl⟩
  · refine ⟨fun _ => rfl, ?_, sound.closed⟩
    intro kind ends
    exact absurd (Option.some.inj ends).symm kind.termination_ne_exhausted
  · refine ⟨?_, ?_, sound.closed⟩
    · rintro (ends | ends)
      · cases ends
      · exact absurd (Option.some.inj ends) diagnostic.kind.termination_ne_exhausted
    · intro kind ends
      exact ⟨diagnostic, rfl, Diagnostic.Kind.termination_inj.mp (Option.some.inj ends)⟩

theorem Sound.orderly {session : Session (Watched σ)} (sound : session.Sound) :
    session.Orderly := by
  obtain ⟨input, policy, ending⟩ := session
  cases ending with
  | none => exact ⟨sound.inOrder, List.count_eq_zero.mpr sound.noClose⟩
  | some ending => exact ⟨sound.inOrder, sound.closes⟩

/-! ## What calls for tokens keep -/

section Kept

variable {holds : Lookahead σ → Prop} (kept : Lookahead.Invariant holds)
  (closes : ∀ {input}, holds input → holds input.close) {session : Session σ}
  (now : holds session.input)

include kept closes now

/-- **What draws keep, and closing too, is kept by calls for tokens.** -/
theorem next_of_invariant (table : SymbolTable) : holds (session.next table).session.input := by
  cases ended : session.ending with
  | some ending => rwa [next_of_ended ended]
  | none =>
    have scanned := kept.scan now session.policy
    rcases found : session.input.scan session.policy with ⟨⟨start, text, kind⟩ | ending, input⟩
    · rw [found] at scanned
      rwa [next_of_lexeme ended found]
    · rw [found] at scanned
      rw [next_of_over ended found]
      exact closes scanned

theorem after_of_invariant (tables : List SymbolTable) :
    holds (session.after tables).input := by
  induction tables generalizing session with
  | nil => exact now
  | cons table later ih => exact ih (next_of_invariant kept closes now table)

end Kept

/-! ## Sessions on sources that answer alike -/

section Hom

variable {τ : Type} [Source τ] {beyond : σ → Prop} {map : σ → τ} (hom : Source.Hom beyond map)

include hom

theorem beyond_next {session : Session σ} (now : beyond session.input.source)
    (table : SymbolTable) : beyond (session.next table).session.input.source :=
  next_of_invariant hom.invariant_beyond hom.beyond_close_input now table

theorem beyond_after {session : Session σ} (now : beyond session.input.source)
    (tables : List SymbolTable) : beyond (session.after tables).input.source :=
  after_of_invariant hom.invariant_beyond hom.beyond_close_input now tables

/-- A call for a token does the same to sources that answer alike. -/
theorem next_map {session : Session σ} {table : SymbolTable}
    (still : ¬beyond (session.next table).session.input.source) :
    (session.map map).next table = (session.next table).map map := by
  have same : (session.map map).ending = session.ending := rfl
  cases ended : session.ending with
  | some ending =>
    rw [next_of_ended ended, next_of_ended (same.trans ended)]
    rfl
  | none =>
    rcases found : session.input.scan session.policy with ⟨⟨start, text, kind⟩ | ending, input⟩
    · rw [next_of_lexeme ended found] at still ⊢
      have mapped : (session.map map).input.scan (session.map map).policy = _ :=
        hom.scan session.input session.policy (by rwa [found])
      rw [found] at mapped
      rw [next_of_lexeme (same.trans ended) mapped]
      simp only [Pulled.map, Session.map]
    · rw [next_of_over ended found] at still ⊢
      have before : ¬beyond input.source := mt hom.beyond_close_input still
      have mapped : (session.map map).input.scan (session.map map).policy = _ :=
        hom.scan session.input session.policy (by rwa [found])
      rw [found] at mapped
      rw [next_of_over (same.trans ended) mapped, hom.map_close]
      rfl

theorem after_map (session : Session σ) (tables : List SymbolTable)
    (still : ¬beyond (session.after tables).input.source) :
    (session.map map).after tables = (session.after tables).map map := by
  induction tables generalizing session with
  | nil => rfl
  | cons table later ih =>
    have before : ¬beyond (session.next table).session.input.source :=
      mt (fun now => beyond_after hom now later) still
    show ((session.map map).next table).session.after later = _
    rw [next_map hom before]
    exact ih _ still

end Hom

/-- **A call that stays below a limit does not depend on it.** What it yields is
what it yields below any higher limit. -/
theorem next_raise {τ : Type} {feed : Feed τ} (session : Session (Limited feed)) (more : Nat)
    (tables : List SymbolTable) {table : SymbolTable}
    (below : ((session.after tables).next table).session.input.source.left ≠ 0) :
    ((session.map (Limited.raise more)).after tables).next table =
      ((session.after tables).next table).map (Limited.raise more) := by
  have hom := Limited.hom_raise feed more
  have before : (session.after tables).input.source.left ≠ 0 :=
    mt (fun reached => beyond_next hom reached table) below
  rw [after_map hom session tables before, next_map hom below]

/-! ## After the end -/

variable {session : Session σ}

/-- The call that finds the end, and each one after it, answers the token that
marks the end. -/
theorem token_of_ended {table : SymbolTable}
    (ended : (session.next table).session.termination?.isSome) :
    (session.next table).token = (session.next table).session.endToken table := by
  cases found : session.ending with
  | some ending => rw [next_of_ended found]
  | none =>
    rcases scanned : session.input.scan session.policy with ⟨⟨start, text, kind⟩ | ending, input⟩
    · rw [next_of_lexeme found scanned] at ended
      simp [termination?, found] at ended
    · rw [next_of_over found scanned]

theorem next_of_isSome (ended : session.termination?.isSome) (table : SymbolTable) :
    session.next table = ⟨session.endToken table, session, table, []⟩ := by
  cases found : session.ending with
  | some ending => exact next_of_ended found table
  | none => simp [termination?, found] at ended

/-- **An ended session stays as it is.** -/
theorem after_of_isSome (ended : session.termination?.isSome) (tables : List SymbolTable) :
    session.after tables = session := by
  induction tables with
  | nil => rfl
  | cons table later ih =>
    show (session.next table).session.after later = _
    rw [next_of_isSome ended]
    exact ih

/-- **The life of a session,** on any source and after any calls for tokens, each
with any table. What its accessors say fits together; its source is read and
closed in order, as a record of the calls shows that changes nothing else; and
once a call has answered that the session is over, all later ones change nothing
and answer the same. What a source delivers without end is given by its limits: a
call yields the same below all of them that it stays below. -/
theorem lifecycle (source : σ) (policy : Policy) (tables : List SymbolTable) :
    let session := (new source policy).after tables
    let watched := (new (Watched.new source) policy).after tables
    session.Consistent ∧ watched.map Watched.source = session ∧ watched.Orderly ∧
      (∀ table, let pulled := session.next table
        pulled.session.termination?.isSome →
          pulled.token.isEnd ∧ ∀ later again,
            let repeated := (pulled.session.after later).next again
            repeated.session = pulled.session ∧ repeated.table = again ∧
              (again.number = table.number → repeated.token = pulled.token)) ∧
      ∀ {τ : Type} {feed : Feed τ} (limited : Limited feed) (more : Nat) (table : SymbolTable),
        let pulled := ((new limited policy).after tables).next table
        pulled.session.input.source.left ≠ 0 →
          ((new (limited.raise more) policy).after tables).next table =
            pulled.map (Limited.raise more) := by
  intro session watched
  have sound : watched.Sound := (sound_new source policy).after tables
  have forgets : watched.map Watched.source = session :=
    (after_map Watched.hom_source (new (Watched.new source) policy) tables id).symm
  have consistent := sound.consistent
  refine ⟨?_, forgets, sound.orderly, ?_,
    fun limited more table => next_raise (new limited policy) more tables⟩
  · rw [← forgets]
    exact ⟨consistent.quiet, consistent.reported, consistent.finished⟩
  · intro table pulled ended
    have token : pulled.token = pulled.session.endToken table := token_of_ended ended
    refine ⟨token ▸ pulled.session.isEnd_endToken table, ?_⟩
    intro later again repeated
    have same : repeated = ⟨pulled.session.endToken again, pulled.session, again, []⟩ := by
      simp only [repeated, after_of_isSome ended, next_of_isSome ended]
    rw [same]
    refine ⟨rfl, rfl, ?_⟩
    intro number
    rw [token]
    simp only [endToken, SymbolTable.endOfInput, number]

/-- A session on a feed without end. It stops at its second call, with a character
already drawn behind the one at fault, and stays below the limit. -/
theorem lifecycle_unknown_character :
    let feed : Feed Nat :=
      ⟨fun count => (.char (if count = 1 then '?' else 'n'), count + 1),
        fun count => ⟨1, .ofNat count⟩, id⟩
    let source : Limited feed := ⟨0, 9⟩
    let pulled := ((new source {}).after [.new 0]).next (.new 0)
    pulled.session.termination?.isSome ∧ pulled.token = ⟨4, 3, 1, ⟨0, 0, "", .endOfInput⟩⟩ ∧
      pulled.session.input.source.left = 6 ∧
      ((new (Watched.new source) {}).after [.new 0, .new 0]).input.source.calls =
        [.read (.char 'n'), .read (.char '?'), .read (.char 'n'), .close] ∧
      (∀ later, ((pulled.session.after later).next (.new 0)).token = pulled.token) ∧
      ∀ more, ((new (source.raise more) {}).after [.new 0]).next (.new 0) =
        pulled.map (Limited.raise more) := by
  intro feed source pulled
  have ended : pulled.session.termination?.isSome := by decide +kernel
  obtain ⟨_, _, _, ends, below⟩ := lifecycle source {} [.new 0]
  refine ⟨ended, by decide +kernel, by decide +kernel, by decide +kernel, fun later => ?_,
    fun more => below source more (.new 0) (by decide +kernel)⟩
  exact ((ends (.new 0) ended).2 later (.new 0)).2.2 rfl

end Session

end Lexis
