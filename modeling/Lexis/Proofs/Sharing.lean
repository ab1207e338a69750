import Lexis.Source.LineReader
import Lexis.Workspace
import Lexis.Proofs.Registrations

/-!
# Sessions that share a table

Sessions over one table are pulled from in any order (`Workspace.run`). The
table grows with every lexeme that is new to it, but it stays sound and spelled,
and that is all a session needs to answer what it would answer alone
(`Workspace.run_eq`). What a run does to the table is to register the texts of the
tokens that it hands out (`Workspace.run_eq_internAll`). So these all refer to symbols
of the table at the end of the run (`Workspace.run_symbols`), where sameness of symbols
is equality of texts.

Both come together in `Workspace.sharing_undisturbed`: whatever the order, each
session answers as it would with a table of its own, and two tokens have the same
symbol exactly when they have the same text.
-/

namespace Lexis

set_option autoImplicit false

/-- So many tokens pulled from a session with a table, and the session left
over. -/
def Session.pulls {σ : Type} [Source σ] (session : Session σ) (table : SymbolTable) :
    Nat → List Token × Session σ
  | 0 => ([], session)
  | count + 1 =>
      let pulled := session.next table
      let rest := pulled.session.pulls pulled.table count
      (pulled.token :: rest.1, rest.2)

namespace Workspace

variable {σ : Type}

/-- A workspace with one table, which sessions over the sources given share. -/
def sharing (sources : List (σ × Policy)) : Workspace σ :=
  sources.foldl (fun workspace entry => (workspace.addSession entry.1 entry.2 0).2)
    (addTable empty).2

/-- A workspace in which all sessions use the one table. -/
structure Shares (workspace : Workspace σ) (table : SymbolTable) : Prop where
  tables : workspace.tables = [table]
  sessions : ∀ entry ∈ workspace.sessions, entry.2 = 0

theorem sharing_eq (sources : List (σ × Policy)) :
    sharing sources = ⟨[.new 0], sources.map fun entry => (.new entry.1 entry.2, 0)⟩ := by
  have added (workspace : Workspace σ) :
      sources.foldl (fun workspace entry => (workspace.addSession entry.1 entry.2 0).2) workspace =
        ⟨workspace.tables,
          workspace.sessions ++ sources.map fun entry => (.new entry.1 entry.2, 0)⟩ := by
    induction sources generalizing workspace with
    | nil => simp
    | cons first later ih =>
      rw [List.foldl_cons, ih]
      simp [addSession]
  exact added _

theorem shares_sharing (sources : List (σ × Policy)) : Shares (sharing sources) (.new 0) := by
  rw [sharing_eq]
  refine ⟨rfl, ?_⟩
  intro entry member
  obtain ⟨_, _, rfl⟩ := List.mem_map.mp member
  rfl

theorem getElem?_sharing (sources : List (σ × Policy)) (number : Nat) :
    (sharing sources).sessions[number]? =
      sources[number]?.map fun entry => (.new entry.1 entry.2, 0) := by
  rw [sharing_eq]
  exact List.getElem?_map

section Entries

variable {workspace : Workspace σ} {table : SymbolTable} (shares : Shares workspace table)

include shares

theorem exists_session (number : Nat) :
    workspace.sessions[number]? = none ∨
      ∃ session, workspace.sessions[number]? = some (session, 0) := by
  cases found : workspace.sessions[number]? with
  | none => exact .inl rfl
  | some entry =>
    have zero := shares.sessions entry (List.mem_of_getElem? found)
    exact .inr ⟨entry.1, by rw [← zero]⟩

theorem shares_set (number : Nat) (session : Session σ) (after : SymbolTable) :
    Shares ⟨[after], workspace.sessions.set number (session, 0)⟩ after := by
  refine ⟨rfl, fun entry member => ?_⟩
  rcases List.mem_or_eq_of_mem_set member with old | rfl
  · exact shares.sessions entry old
  · rfl

end Entries

variable [Source σ]

/-- Pulls tokens from the sessions named, in that order, and answers them each
with the number of its session. Numbers that name no session are passed over. -/
def run (workspace : Workspace σ) : List Nat → List (Nat × Token) × Workspace σ
  | [] => ([], workspace)
  | number :: later =>
      match workspace.pull? number with
      | none => run workspace later
      | some (token, after) => ((number, token) :: (run after later).1, (run after later).2)

/-! ## One pull -/

section Pull

variable {workspace : Workspace σ} {table : SymbolTable} {number : Nat} {session : Session σ}

theorem run_of_none (absent : workspace.sessions[number]? = none) (later : List Nat) :
    workspace.run (number :: later) = workspace.run later := by
  simp [run, pull?, withSession?, absent]

/-- In a workspace with one table, a pull replaces the session and the table. -/
theorem run_of_some (shares : Shares workspace table)
    (found : workspace.sessions[number]? = some (session, 0)) (later : List Nat) :
    workspace.run (number :: later) =
      let pulled := session.next table
      let rest := run ⟨[pulled.table], workspace.sessions.set number (pulled.session, 0)⟩ later
      ((number, pulled.token) :: rest.1, rest.2) := by
  simp [run, pull?, withSession?, found, shares.tables]

end Pull

/-! ## A whole run -/

section Run

variable {workspace : Workspace σ} {table : SymbolTable}

/-- **In a run over one spelled table, every session answers what it would
answer alone, whatever is pulled in between.** -/
theorem run_eq (shares : Shares workspace table) (spelled : table.Spelled) {number : Nat}
    {session : Session σ} (found : workspace.sessions[number]? = some (session, 0))
    {alone : SymbolTable} (spelled' : alone.Spelled) (schedule : List Nat) :
    ((workspace.run schedule).1.filter (·.1 == number)).map (·.2.occurrence) =
        (session.pulls alone (schedule.count number)).1.map Token.occurrence ∧
      (workspace.run schedule).2.sessions[number]? =
        some ((session.pulls alone (schedule.count number)).2, 0) := by
  induction schedule generalizing workspace table session alone with
  | nil => exact ⟨rfl, found⟩
  | cons next later ih =>
    by_cases same : next = number
    · subst same
      have there : (workspace.sessions.set next ((session.next table).session, 0))[next]? =
          some ((session.next alone).session, 0) := by
        rw [session.next_session alone table]
        exact List.getElem?_set_self (List.getElem?_eq_some_iff.mp found).1
      obtain ⟨tokens, left⟩ := ih (shares_set shares next _ _) (session.spelled_next spelled) there
        (session.spelled_next spelled')
      rw [run_of_some shares found, List.count_cons_self, Session.pulls]
      refine ⟨?_, left⟩
      dsimp only
      rw [List.filter_cons, if_pos (beq_self_eq_true next), List.map_cons, List.map_cons, tokens,
        session.next_occurrence spelled spelled']
    · rw [List.count_cons_of_ne same]
      rcases exists_session shares next with absent | ⟨other, there⟩
      · rw [run_of_none absent]
        exact ih shares spelled found spelled'
      · have kept : (workspace.sessions.set next ((other.next table).session, 0))[number]? =
            some (session, 0) := by
          rw [List.getElem?_set_ne same, found]
        obtain ⟨tokens, left⟩ := ih (shares_set shares next _ _) (other.spelled_next spelled) kept
          spelled'
        rw [run_of_some shares there]
        refine ⟨?_, left⟩
        dsimp only
        rw [List.filter_cons, if_neg (mt beq_iff_eq.mp same), tokens]

/-- **A run makes a registration for each token that it hands out,** and no others. -/
theorem run_eq_internAll (shares : Shares workspace table) (schedule : List Nat) :
    ∃ last registrations, Shares (workspace.run schedule).2 last ∧
      table.internAll registrations = ((workspace.run schedule).1.map (·.2.symbol), last) := by
  induction schedule generalizing workspace table with
  | nil => exact ⟨table, [], shares, rfl⟩
  | cons next later ih =>
    rcases exists_session shares next with absent | ⟨session, there⟩
    · rw [run_of_none absent]
      exact ih shares
    · obtain ⟨last, registrations, shares', made⟩ := ih (shares_set shares next _ _)
      rw [run_of_some shares there]
      refine ⟨last, session.request :: registrations, shares', ?_⟩
      rw [SymbolTable.internAll, session.next_eq_intern, made]
      rfl

/-- The tokens of a run refer to symbols of one sound table, the one that the
run leaves. -/
theorem run_symbols (shares : Shares workspace table) (sound : table.Sound)
    (schedule : List Nat) :
    ∃ last : SymbolTable, last.Sound ∧ table.symbols <+: last.symbols ∧
      ∀ pulled ∈ (workspace.run schedule).1, pulled.2.symbol ∈ last.symbols := by
  obtain ⟨last, registrations, _, made⟩ := run_eq_internAll shares schedule
  have sound' := sound.internAll registrations
  have begins := table.symbols_begins_internAll registrations
  have refers := table.mem_symbols_internAll registrations
  rw [made] at sound' begins refers
  exact ⟨last, sound', begins, fun pulled member => refers _ (List.mem_map_of_mem member)⟩

/-- Tokens are handed out by the sessions that the schedule names. -/
theorem mem_schedule_of_run (schedule : List Nat) (workspace : Workspace σ) :
    ∀ pulled ∈ (workspace.run schedule).1, pulled.1 ∈ schedule := by
  induction schedule generalizing workspace with
  | nil => exact nofun
  | cons next later ih =>
    intro pulled member
    unfold run at member
    split at member
    · exact List.mem_cons_of_mem _ (ih _ pulled member)
    · rcases List.mem_cons.mp member with rfl | member
      · exact List.mem_cons_self
      · exact List.mem_cons_of_mem _ (ih _ pulled member)

end Run

/-! ## Sharing -/

/-- A session that is pulled from alone hands out its own tokens. -/
theorem run_lone (source : σ) (policy : Policy) (count : Nat) :
    let alone := (addLoneSession empty source policy).2.run (List.replicate count 0)
    let pulls := (Session.new source policy).pulls (.new 0) count
    alone.1.map (·.2.occurrence) = pulls.1.map Token.occurrence ∧
      alone.2.sessions[0]? = some (pulls.2, 0) := by
  intro alone pulls
  have shares : Shares (addLoneSession empty source policy).2 (.new 0) :=
    shares_sharing [(source, policy)]
  have spelled := SymbolTable.spelled_new 0
  have found : (addLoneSession empty source policy).2.sessions[0]? =
      some (Session.new source policy, 0) := rfl
  obtain ⟨tokens, left⟩ := run_eq shares spelled found spelled (List.replicate count 0)
  rw [List.count_replicate_self] at tokens left
  refine ⟨?_, left⟩
  rw [List.filter_eq_self.mpr] at tokens
  · exact tokens
  · intro pulled member
    have zero := List.eq_of_mem_replicate (mem_schedule_of_run _ _ pulled member)
    exact beq_iff_eq.mpr zero

/-- **Sessions that share a new table do not disturb each other.** Whatever the
order in which tokens are pulled from them, each session hands out tokens that
say what its tokens would say if it were pulled from alone, over a new table of
its own, and it is left in the same state, with its diagnostics and its
termination. Two of the tokens refer to the same symbol exactly when their texts
are equal. -/
theorem sharing_undisturbed (sources : List (σ × Policy)) (schedule : List Nat) :
    let shared := (sharing sources).run schedule
    (∀ number : Fin sources.length,
      let alone := (empty.addLoneSession sources[number].1 sources[number].2).2.run
        (List.replicate (schedule.count number.val) 0)
      (shared.1.filter (·.1 == number.val)).map (·.2.occurrence) =
          alone.1.map (·.2.occurrence) ∧
        ∃ session session', shared.2.sessions[number.val]? = some (session, 0) ∧
          alone.2.sessions[0]? = some (session', 0) ∧
          session.diagnostics = session'.diagnostics ∧
          session.termination? = session'.termination?) ∧
    ∀ first ∈ shared.1, ∀ second ∈ shared.1,
      first.2.symbol.same second.2.symbol = true ↔ first.2.text = second.2.text := by
  intro shared
  constructor
  · intro number alone
    have spelled := SymbolTable.spelled_new 0
    have found : (sharing sources).sessions[number.val]? =
        some (.new sources[number].1 sources[number].2, 0) := by
      rw [getElem?_sharing, List.getElem?_eq_getElem number.isLt]
      rfl
    obtain ⟨tokens, left⟩ := run_eq (shares_sharing sources) spelled found spelled schedule
    obtain ⟨tokens', left'⟩ := run_lone sources[number].1 sources[number].2
      (schedule.count number.val)
    exact ⟨tokens.trans tokens'.symm, _, _, left, left', rfl, rfl⟩
  · intro first firstIn second secondIn
    obtain ⟨last, sound, _, refers⟩ :=
      run_symbols (shares_sharing sources) (SymbolTable.sound_new 0) schedule
    exact sound.same_iff (refers first firstIn) (refers second secondIn)

/-- Two sessions with different policies that meet each other's words. -/
theorem sharing_undisturbed_words :
    let sources := [(LineReader.ofText "a+if", {}), (LineReader.ofText "if a", ⟨.reject, true⟩)]
    let shared := (sharing sources).run [0, 1, 1, 0, 0, 1]
    shared.1.map (fun pulled => (pulled.1, pulled.2.text)) =
        [(0, "a"), (1, "if"), (1, "a"), (0, "+"), (0, "if"), (1, "")] ∧
      ∀ first ∈ shared.1, ∀ second ∈ shared.1,
        first.2.symbol.same second.2.symbol = true ↔ first.2.text = second.2.text :=
  ⟨by decide +kernel, (sharing_undisturbed _ _).2⟩

end Workspace

end Lexis
