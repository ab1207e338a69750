import Lexis.Source.LineReader
import Lexis.Workspace
import Lexis.Proofs.Registrations

/-!
# Histories of a workspace

Callers make tables and sessions, register texts, look texts up and pull tokens, in any
order (`Workspace.Operation`). A history is a sequence of such operations. It hands out
symbols and leaves a workspace (`Workspace.performAll`), and in each table it has made
some registrations (`Workspace.registrations`): those of the reserved texts when the
table was made, those that callers asked for, and one for each token that a session
pulled.

One operation leaves the tables as they are, adds a new one, or makes registrations in
one of them (`Workspace.Step`). So each table is the result of the registrations that
the history made in it (`Workspace.recorded_performAll`), its symbols are never taken
back (`Workspace.grows_performAll`), and each symbol handed out stays at its place
(`Workspace.held_performAll`). `Workspace.registered_once` says what callers see of
that: a text has one symbol in a table, with the kind of its first registration there,
and gets it again at every later time.
-/

namespace Lexis.Workspace

set_option autoImplicit false

/-! ## Operations -/

/-- What can be asked of a workspace. -/
inductive Operation (σ : Type)
  | addTable
  | addSession (source : σ) (policy : Policy) (table : Nat)
  | addLoneSession (source : σ) (policy : Policy)
  | intern (table : Nat) (text : String) (kind : Kind)
  | lookup (table : Nat) (text : String)
  | endOfInput (table : Nat)
  | pull (session : Nat)
  | pullToken (session : Nat)
  | drain (session : Nat)
  | lexWith (table : Nat) (source : σ) (policy : Policy)

variable {σ : Type}

/-- The symbols in an answer, and the workspace after it. Without an answer there are
none, and nothing is done. -/
def answered {α : Type} (workspace : Workspace σ) (symbols : α → List Symbol) :
    Option (α × Workspace σ) → List Symbol × Workspace σ
  | some (answer, after) => (symbols answer, after)
  | none => ([], workspace)

/-- The registrations of an operation on a table, if there is one of the number. -/
def inTable (workspace : Workspace σ) (number : Nat)
    (registrations : SymbolTable → List Registration) : Option (Nat × List Registration) :=
  workspace.tables[number]?.map fun table => (number, registrations table)

/-- The registrations of an operation on a session, if there is one of the number. -/
def bySession (workspace : Workspace σ) (number : Nat)
    (registrations : Session σ → SymbolTable → List Registration) :
    Option (Nat × List Registration) :=
  workspace.sessions[number]?.bind fun entry => workspace.inTable entry.2 (registrations entry.1)

/-- What of some registrations is for a table. -/
def madeIn (number : Nat) : Option (Nat × List Registration) → List Registration
  | some (table, registrations) => if table = number then registrations else []
  | none => []

variable [Source σ]

/-- Does what is asked, and answers the symbols handed out. Asking something of a table
or a session that is not there does nothing. -/
def perform (workspace : Workspace σ) : Operation σ → List Symbol × Workspace σ
  | .addTable => ([], workspace.addTable.2)
  | .addSession source policy table => ([], (workspace.addSession source policy table).2)
  | .addLoneSession source policy => ([], (workspace.addLoneSession source policy).2)
  | .intern table text kind => workspace.answered ([·]) (workspace.intern? table text kind)
  | .lookup table text => (workspace.tables[table]?.bind (·.lookup text) |>.toList, workspace)
  | .endOfInput table => (workspace.tables[table]?.map (·.endOfInput) |>.toList, workspace)
  | .pull session => workspace.answered ([·.symbol]) (workspace.pull? session)
  | .pullToken session =>
      workspace.answered (·.toList.map Token.symbol) (workspace.pullToken? session)
  | .drain session => workspace.answered (·.map Token.symbol) (workspace.drain? session)
  | .lexWith table source policy =>
      workspace.answered (·.tokens.map Token.symbol) (workspace.lexWith? table source policy)

/-- The registrations that an operation makes, with the table in which it makes them. -/
def asks (workspace : Workspace σ) : Operation σ → Option (Nat × List Registration)
  | .addTable | .addLoneSession .. => some (workspace.tables.length, Kind.reserved)
  | .addSession .. | .lookup .. | .endOfInput .. => none
  | .intern table text kind => workspace.inTable table fun _ => [(text, kind)]
  | .pull session | .pullToken session =>
      workspace.bySession session fun session _ => [session.request]
  | .drain session => workspace.bySession session Session.drainRequests
  | .lexWith table source policy =>
      workspace.inTable table (Session.new source policy).drainRequests

/-- Does one thing after the other, and answers all symbols handed out. -/
def performAll (workspace : Workspace σ) : List (Operation σ) → List Symbol × Workspace σ
  | [] => ([], workspace)
  | operation :: later =>
      let performed := workspace.perform operation
      let rest := performed.2.performAll later
      (performed.1 ++ rest.1, rest.2)

/-- The registrations that a history makes in a table. -/
def registrations (number : Nat) (workspace : Workspace σ) :
    List (Operation σ) → List Registration
  | [] => []
  | operation :: later =>
      madeIn number (workspace.asks operation) ++
        registrations number (workspace.perform operation).2 later

/-! ## One operation -/

/-- How an operation that hands out some symbols and makes some registrations changes
the tables: not at all, by a new table, or by registering in one of them. -/
inductive Step (before : List SymbolTable) :
    List SymbolTable → List Symbol → Option (Nat × List Registration) → Prop
  | idle {symbols : List Symbol}
      (known : ∀ symbol ∈ symbols, ∃ (number : Nat) (table : SymbolTable),
        before[number]? = some table ∧ symbol ∈ table.symbols) :
      Step before before symbols none
  | created : Step before (before ++ [.new before.length]) [] (some (before.length, Kind.reserved))
  | registered {number : Nat} {table : SymbolTable} {registrations : List Registration}
      {symbols : List Symbol} (found : before[number]? = some table)
      (issued : symbols ⊆ (table.internAll registrations).1) :
      Step before (before.set number (table.internAll registrations).2) symbols
        (some (number, registrations))

/-- Whether acting on a table is making some registrations there. -/
def Registers {α : Type} (act : SymbolTable → α × SymbolTable) (symbols : α → List Symbol)
    (registrations : SymbolTable → List Registration) : Prop :=
  ∀ table, (act table).2 = (table.internAll (registrations table)).2 ∧
    symbols (act table).1 ⊆ (table.internAll (registrations table)).1

omit [Source σ] in
/-- Acting on a table by registrations is a step. -/
theorem step_withTable {α : Type} {act : SymbolTable → α × SymbolTable}
    {symbols : α → List Symbol} {registrations : SymbolTable → List Registration}
    (registers : Registers act symbols registrations) (workspace : Workspace σ) (number : Nat) :
    Step workspace.tables (workspace.answered symbols (workspace.withTable? number act)).2.tables
      (workspace.answered symbols (workspace.withTable? number act)).1
      (workspace.inTable number registrations) := by
  cases found : workspace.tables[number]? with
  | none =>
    simp only [withTable?, inTable, found, answered]
    exact .idle nofun
  | some table =>
    obtain ⟨after, issued⟩ := registers table
    simp only [withTable?, inTable, found, bind, pure, Option.bind_some, Option.map_some, answered]
    rw [after]
    exact .registered found issued

omit [Source σ] in
/-- Acting on the table of a session by registrations is a step. -/
theorem step_withSession {α : Type}
    {act : Session σ → SymbolTable → α × Session σ × SymbolTable}
    {symbols : α → List Symbol} {registrations : Session σ → SymbolTable → List Registration}
    (registers : ∀ session,
      Registers (fun table => ((act session table).1, (act session table).2.2)) symbols
        (registrations session)) (workspace : Workspace σ) (number : Nat) :
    Step workspace.tables (workspace.answered symbols (workspace.withSession? number act)).2.tables
      (workspace.answered symbols (workspace.withSession? number act)).1
      (workspace.bySession number registrations) := by
  cases there : workspace.sessions[number]? with
  | none =>
    simp only [withSession?, bySession, there, answered]
    exact .idle nofun
  | some entry =>
    cases found : workspace.tables[entry.2]? with
    | none =>
      simp only [withSession?, bySession, inTable, there, found, bind, Option.bind_some,
        Option.bind_none, Option.map_none, answered]
      exact .idle nofun
    | some table =>
      obtain ⟨after, issued⟩ := registers entry.1 table
      dsimp only at after issued
      simp only [withSession?, bySession, inTable, there, found, bind, pure, Option.bind_some,
        Option.map_some, answered]
      rw [after]
      exact .registered found issued

/-- **An operation changes the tables by the registrations that it makes.** -/
theorem step_perform (workspace : Workspace σ) (operation : Operation σ) :
    Step workspace.tables (workspace.perform operation).2.tables
      (workspace.perform operation).1 (workspace.asks operation) := by
  cases operation with
  | addTable => exact .created
  | addSession source policy table => exact .idle nofun
  | addLoneSession source policy => exact .created
  | intern table text kind =>
    refine step_withTable (fun table => ?_) workspace table
    simp only [SymbolTable.internAll]
    exact ⟨trivial, List.Subset.refl _⟩
  | lookup number text =>
    refine .idle fun symbol member => ?_
    obtain ⟨table, found, there⟩ := Option.bind_eq_some_iff.mp (Option.mem_toList.mp member)
    exact ⟨number, table, found, (SymbolTable.mem_of_lookup there).1⟩
  | endOfInput number =>
    refine .idle fun symbol member => ?_
    obtain ⟨table, found, same⟩ := Option.map_eq_some_iff.mp (Option.mem_toList.mp member)
    rw [← same]
    exact ⟨number, table, found, (SymbolTable.mem_of_lookup table.lookup_empty).1⟩
  | pull number =>
    rw [asks]
    refine step_withSession (fun session table => ?_) workspace number
    simp only [SymbolTable.internAll, session.next_eq_intern]
    exact ⟨trivial, List.Subset.refl _⟩
  | pullToken number =>
    rw [asks]
    refine step_withSession (fun session table => ?_) workspace number
    simp only [Session.next?, SymbolTable.internAll, session.next_eq_intern]
    refine ⟨trivial, fun symbol member => ?_⟩
    split at member
    · cases member
    · exact member
  | drain number =>
    refine step_withSession (fun session table => ?_) workspace number
    rw [session.drain_eq_internAll, List.map_append]
    exact ⟨rfl, List.subset_append_left _ _⟩
  | lexWith number source policy =>
    refine step_withTable (fun table => ?_) workspace number
    rw [Session.drain_eq_internAll, List.map_append]
    exact ⟨rfl, List.subset_append_left _ _⟩

/-! ## What a step preserves -/

/-- Whether tables are numbered by their places and are each the result of the
registrations given for it. -/
structure Recorded (tables : List SymbolTable) (asked : Nat → List Registration) : Prop where
  numbered : ∀ {number : Nat} {table : SymbolTable}, tables[number]? = some table →
    table.number = number
  records : ∀ {number : Nat} {table : SymbolTable}, tables[number]? = some table →
    table.Records (asked number)
  /-- The reserved texts are the first ones registered. -/
  seeded : ∀ {number : Nat} {table : SymbolTable}, tables[number]? = some table →
    Kind.reserved <+: asked number
  /-- Nothing is asked of a table before it is made. -/
  absent : ∀ {number : Nat}, tables[number]? = none → asked number = []

/-- Whether tables are there afterwards, with the symbols of before in front. -/
def Grows (before after : List SymbolTable) : Prop :=
  ∀ (number : Nat) (table : SymbolTable), before[number]? = some table →
    ∃ later : SymbolTable, after[number]? = some later ∧ table.symbols <+: later.symbols

/-- Whether a symbol is at the place that it names. -/
def Held (tables : List SymbolTable) (symbol : Symbol) : Prop :=
  ∃ table : SymbolTable, tables[symbol.table]? = some table ∧
    table.symbols[symbol.index]? = some symbol

theorem recorded_nil : Recorded [] fun _ => [] where
  numbered := nofun
  records := nofun
  seeded := nofun
  absent := fun _ => rfl

theorem Grows.refl (tables : List SymbolTable) : Grows tables tables :=
  fun _ table found => ⟨table, found, List.prefix_rfl⟩

theorem Grows.trans {first second third : List SymbolTable} (grows : Grows first second)
    (grows' : Grows second third) : Grows first third := by
  intro number table found
  obtain ⟨middle, found', begins⟩ := grows number table found
  obtain ⟨last, found'', begins'⟩ := grows' number middle found'
  exact ⟨last, found'', begins.trans begins'⟩

theorem Held.grows {before after : List SymbolTable} {symbol : Symbol} (held : Held before symbol)
    (grows : Grows before after) : Held after symbol := by
  obtain ⟨table, found, place⟩ := held
  obtain ⟨later, found', added, symbols⟩ := grows symbol.table table found
  obtain ⟨bound, _⟩ := List.getElem?_eq_some_iff.mp place
  exact ⟨later, found', by rw [← symbols, List.getElem?_append_left bound, place]⟩

section Recorded

variable {tables : List SymbolTable} {asked : Nat → List Registration}
  (recorded : Recorded tables asked)

include recorded

theorem Recorded.held {number : Nat} {table : SymbolTable} {symbol : Symbol}
    (found : tables[number]? = some table) (member : symbol ∈ table.symbols) :
    Held tables symbol := by
  obtain ⟨index, place⟩ := List.mem_iff_getElem?.mp member
  obtain ⟨numbered, placed⟩ := (recorded.records found).sound.issued place
  rw [recorded.numbered found] at numbered
  exact ⟨table, by rw [numbered, found], by rw [placed, place]⟩

/-- Symbols are the same exactly when they have the same text in the same table. -/
theorem Recorded.same_iff {first second : Symbol} (held : Held tables first)
    (held' : Held tables second) :
    first.same second = true ↔ first.table = second.table ∧ first.text = second.text := by
  obtain ⟨table, found, place⟩ := held
  obtain ⟨table', found', place'⟩ := held'
  by_cases tableSame : first.table = second.table
  · rw [tableSame, found'] at found
    obtain rfl := Option.some.inj found
    rw [(recorded.records found').sound.same_iff (List.mem_of_getElem? place)
      (List.mem_of_getElem? place')]
    exact ⟨fun text => ⟨tableSame, text⟩, And.right⟩
  · simp [Symbol.same, tableSame]

end Recorded

section Step

variable {before after : List SymbolTable} {symbols : List Symbol}
  {made : Option (Nat × List Registration)} (step : Step before after symbols made)

include step

theorem Step.grows : Grows before after := by
  cases step with
  | idle known => exact .refl before
  | created =>
    intro number table found
    exact ⟨table, by rw [List.getElem?_append_left (List.getElem?_eq_some_iff.mp found).1, found],
      List.prefix_rfl⟩
  | @registered changed old registrations symbols found issued =>
    intro number table there
    by_cases same : changed = number
    · subst same
      rw [found] at there
      obtain rfl := Option.some.inj there
      exact ⟨_, List.getElem?_set_self (List.getElem?_eq_some_iff.mp found).1,
        old.symbols_begins_internAll registrations⟩
    · exact ⟨table, by rw [List.getElem?_set_ne same, there], List.prefix_rfl⟩

/-- **A step adds its registrations to those of its table,** and to no others. -/
theorem Step.recorded {asked : Nat → List Registration} (recorded : Recorded before asked) :
    Recorded after fun number => asked number ++ madeIn number made := by
  cases step with
  | idle known => simpa [madeIn] using recorded
  | created =>
    -- A table is one of before, of which nothing is asked, or it is the new one.
    have there {number : Nat} {table : SymbolTable}
        (found : (before ++ [SymbolTable.new before.length])[number]? = some table) :
        before[number]? = some table ∧ before.length ≠ number ∨
          before.length = number ∧ table = .new number := by
      rcases Nat.lt_trichotomy number before.length with old | rfl | beyond
      · rw [List.getElem?_append_left old] at found
        exact .inl ⟨found, by omega⟩
      · rw [List.getElem?_concat_length] at found
        exact .inr ⟨rfl, (Option.some.inj found).symm⟩
      · have bound := (List.getElem?_eq_some_iff.mp found).1
        rw [List.length_append, List.length_singleton] at bound
        omega
    constructor
    · intro number table found
      rcases there found with ⟨old, _⟩ | ⟨_, rfl⟩
      · exact recorded.numbered old
      · rfl
    · intro number table found
      rcases there found with ⟨old, other⟩ | ⟨rfl, rfl⟩
      · rw [madeIn, if_neg other, List.append_nil]
        exact recorded.records old
      · rw [madeIn, if_pos rfl, recorded.absent (List.getElem?_eq_none (Nat.le_refl _))]
        exact SymbolTable.records_new _
    · intro number table found
      rcases there found with ⟨old, _⟩ | ⟨rfl, _⟩
      · exact (recorded.seeded old).trans (List.prefix_append _ _)
      · rw [madeIn, if_pos rfl, recorded.absent (List.getElem?_eq_none (Nat.le_refl _))]
        exact List.prefix_rfl
    · intro number missing
      have beyond : before.length + 1 ≤ number := by simpa using missing
      rw [madeIn, if_neg (by omega), List.append_nil]
      exact recorded.absent (List.getElem?_eq_none (by omega))
  | @registered changed old registrations symbols found issued =>
    have bound := (List.getElem?_eq_some_iff.mp found).1
    have numbered := (old.number_internAll registrations).trans (recorded.numbered found)
    have records := (recorded.records found).internAll registrations
    generalize (old.internAll registrations).2 = grown at numbered records
    constructor
    · intro number table there
      by_cases same : changed = number
      · subst same
        rw [List.getElem?_set_self bound] at there
        rwa [← Option.some.inj there]
      · rw [List.getElem?_set_ne same] at there
        exact recorded.numbered there
    · intro number table there
      by_cases same : changed = number
      · subst same
        rw [List.getElem?_set_self bound] at there
        rwa [madeIn, if_pos rfl, ← Option.some.inj there]
      · rw [List.getElem?_set_ne same] at there
        rw [madeIn, if_neg same, List.append_nil]
        exact recorded.records there
    · intro number table there
      have bound' := (List.getElem?_eq_some_iff.mp there).1
      rw [List.length_set] at bound'
      exact (recorded.seeded (List.getElem?_eq_getElem bound')).trans (List.prefix_append _ _)
    · intro number missing
      have beyond : before.length ≤ number := by simpa using missing
      rw [madeIn, if_neg (by omega), List.append_nil]
      exact recorded.absent (List.getElem?_eq_none beyond)

/-- The symbols that an operation hands out are at their places after it. -/
theorem Step.held {asked : Nat → List Registration} (recorded : Recorded before asked) :
    ∀ symbol ∈ symbols, Held after symbol := by
  have recorded' := step.recorded recorded
  intro symbol member
  cases step with
  | idle known =>
    obtain ⟨number, table, found, there⟩ := known symbol member
    exact recorded.held found there
  | created => cases member
  | registered found issued =>
    exact recorded'.held (List.getElem?_set_self (List.getElem?_eq_some_iff.mp found).1)
      (SymbolTable.mem_symbols_internAll _ _ symbol (issued member))

end Step

/-- The symbols that an operation hands out are those of its registrations. -/
theorem Step.handed {before after : List SymbolTable} {symbols : List Symbol} {number : Nat}
    {registrations : List Registration}
    (step : Step before after symbols (some (number, registrations)))
    {asked : Nat → List Registration} (recorded : Recorded before asked) :
    ∀ symbol ∈ symbols, symbol.table = number ∧ symbol.text ∈ registrations.map Prod.fst := by
  intro symbol member
  cases step with
  | created => cases member
  | @registered _ table _ _ found issued =>
    have known := table.mem_symbols_internAll registrations symbol (issued member)
    have sound := ((recorded.records found).internAll registrations).sound
    refine ⟨?_, ?_⟩
    · rw [sound.table_of_mem known, table.number_internAll, recorded.numbered found]
    · rw [← table.map_text_internAll]
      exact List.mem_map_of_mem (issued member)

/-! ## A whole history -/

/-- **No history takes back a table or a symbol.** -/
theorem grows_performAll (workspace : Workspace σ) (history : List (Operation σ)) :
    Grows workspace.tables (workspace.performAll history).2.tables := by
  induction history generalizing workspace with
  | nil => exact .refl _
  | cons operation later ih => exact (step_perform workspace operation).grows.trans (ih _)

section Recorded

variable {workspace : Workspace σ} {asked : Nat → List Registration}
  (recorded : Recorded workspace.tables asked)

include recorded

/-- **Each table is the result of the registrations that the history made in it.** -/
theorem recorded_performAll (history : List (Operation σ)) :
    Recorded (workspace.performAll history).2.tables
      fun number => asked number ++ registrations number workspace history := by
  induction history generalizing workspace asked with
  | nil => simpa only [performAll, registrations, List.append_nil] using recorded
  | cons operation later ih =>
    have rest := ih ((step_perform workspace operation).recorded recorded)
    simpa only [performAll, registrations, List.append_assoc] using rest

/-- **Each symbol that a history hands out is at its place in the end.** -/
theorem held_performAll (history : List (Operation σ)) :
    ∀ symbol ∈ (workspace.performAll history).1,
      Held (workspace.performAll history).2.tables symbol := by
  induction history generalizing workspace asked with
  | nil => exact nofun
  | cons operation later ih =>
    intro symbol member
    have step := step_perform workspace operation
    rcases List.mem_append.mp member with now | later'
    · exact (step.held recorded symbol now).grows (grows_performAll _ later)
    · exact ih (step.recorded recorded) symbol later'

end Recorded

/-! ## What callers see -/

section Answers

variable {workspace : Workspace σ} {number : Nat} {table : SymbolTable}
  (found : workspace.tables[number]? = some table)

include found

theorem perform_intern (text : String) (kind : Kind) :
    workspace.perform (.intern number text kind) =
      ([(table.intern text kind).1],
        { workspace with tables := workspace.tables.set number (table.intern text kind).2 }) := by
  simp only [perform, intern?, withTable?, found, bind, pure, Option.bind_some, answered]

theorem perform_lookup (text : String) :
    workspace.perform (.lookup number text) = ((table.lookup text).toList, workspace) := by
  simp only [perform, found, Option.bind_some]

/-- A text that is registered gets its symbol, and nothing changes. -/
theorem perform_intern_of_lookup {text : String} {symbol : Symbol}
    (known : table.lookup text = some symbol) (kind : Kind) :
    workspace.perform (.intern number text kind) = ([symbol], workspace) := by
  obtain ⟨bound, same⟩ := List.getElem?_eq_some_iff.mp found
  rw [perform_intern found, SymbolTable.intern_of_lookup known, ← same, List.set_getElem_self]

end Answers

/-- **A symbol at its place is what its text is answered by,** whatever kind is asked
for. -/
theorem Recorded.answers {workspace : Workspace σ} {asked : Nat → List Registration}
    (recorded : Recorded workspace.tables asked) {symbol : Symbol}
    (held : Held workspace.tables symbol) (kind : Kind) :
    workspace.perform (.intern symbol.table symbol.text kind) = ([symbol], workspace) ∧
      workspace.perform (.lookup symbol.table symbol.text) = ([symbol], workspace) := by
  obtain ⟨table, found, place⟩ := held
  have known := (recorded.records found).sound.lookup_of_mem (List.mem_of_getElem? place)
  refine ⟨perform_intern_of_lookup found known kind, ?_⟩
  rw [perform_lookup found, known, Option.toList_some]

/-- **What registering a text answers, and that it is answered ever after.** -/
theorem Recorded.intern {workspace : Workspace σ} {asked : Nat → List Registration}
    (recorded : Recorded workspace.tables asked) {number : Nat} {table : SymbolTable}
    (found : workspace.tables[number]? = some table) (text : String) (kind : Kind) :
    ∃ symbol after, workspace.perform (.intern number text kind) = ([symbol], after) ∧
      symbol.table = number ∧ symbol.text = text ∧
      (asked number ++ [(text, kind)]).lookup text = some symbol.kind ∧
      workspace.perform (.lookup number text) =
        (if text ∈ (asked number).map Prod.fst then [symbol] else [], workspace) ∧
      ∀ later other, let last := (after.performAll later).2
        last.perform (.intern number text other) = ([symbol], last) ∧
        last.perform (.lookup number text) = ([symbol], last) := by
  have records := recorded.records found
  have step := step_perform workspace (.intern number text kind)
  have performed := perform_intern found text kind
  have text' := table.text_intern text kind
  have table' : (table.intern text kind).1.table = number := by
    rw [(records.sound.intern text kind).table_of_mem (table.mem_symbols_intern text kind),
      table.number_intern, recorded.numbered found]
  have kind' := records.lookup_append_singleton text kind
  have held := step.held recorded (table.intern text kind).1
    (by rw [performed]; exact List.mem_singleton_self _)
  refine ⟨(table.intern text kind).1, (workspace.perform (.intern number text kind)).2,
    by rw [performed], table', text', kind', ?_, ?_⟩
  · rw [perform_lookup found]
    split
    next known =>
      obtain ⟨symbol, there⟩ :=
        Option.ne_none_iff_exists'.mp fun absent => records.lookup_eq_none_iff.mp absent known
      rw [there, SymbolTable.intern_of_lookup there, Option.toList_some]
    next unknown => rw [records.lookup_eq_none_iff.mpr unknown, Option.toList_none]
  · intro later other last
    have answers := (recorded_performAll (step.recorded recorded) later).answers
      (held.grows (grows_performAll _ later)) other
    rwa [table', text'] at answers

/-- **Every text is registered once in a table, whatever is done with it.** Take any
history of operations on tables and sessions, and a table that is there after it. The
first registrations in the table were those of the reserved texts. It has one symbol for
each text registered in it, it is as large as there are different such texts, and it
never gets smaller. Registering a text answers a symbol of that text and table, with the
kind of the first registration of the text in the table; so a reserved text keeps its
kind. Looking the text up answers the same symbol if the text is registered, and
registers nothing. Ever after, both answer that symbol and change nothing.

The symbols handed out by an operation are of the table that it registers in, and of the
texts that it registers. Two symbols handed out are the same exactly when they have the
same text and the same table, and each stays in its table with its text and its kind. -/
theorem registered_once (history : List (Operation σ)) :
    let reached := empty.performAll history
    (∀ number table, reached.2.tables[number]? = some table →
      let asked := registrations number empty history
      Kind.reserved <+: asked ∧
      (table.symbols.map Symbol.text).Nodup ∧
      (∀ text, text ∈ table.symbols.map Symbol.text ↔ text ∈ asked.map Prod.fst) ∧
      table.size = (asked.map Prod.fst).dedup.length ∧
      (∀ later, ∃ grown, (reached.2.performAll later).2.tables[number]? = some grown ∧
        table.symbols <+: grown.symbols ∧ table.size ≤ grown.size) ∧
      ∀ text kind, ∃ symbol after,
        reached.2.perform (.intern number text kind) = ([symbol], after) ∧
        symbol.table = number ∧ symbol.text = text ∧
        (asked ++ [(text, kind)]).lookup text = some symbol.kind ∧
        (∀ fixed, Kind.ofReserved? text = some fixed → symbol.kind = fixed) ∧
        reached.2.perform (.lookup number text) =
          (if text ∈ asked.map Prod.fst then [symbol] else [], reached.2) ∧
        ∀ later other, let last := (after.performAll later).2
          last.perform (.intern number text other) = ([symbol], last) ∧
          last.perform (.lookup number text) = ([symbol], last)) ∧
    (∀ operation number made, reached.2.asks operation = some (number, made) →
      ∀ symbol ∈ (reached.2.perform operation).1,
        symbol.table = number ∧ symbol.text ∈ made.map Prod.fst) ∧
    (∀ first ∈ reached.1, ∀ second ∈ reached.1,
      first.same second = true ↔ first.table = second.table ∧ first.text = second.text) ∧
    ∀ symbol ∈ reached.1, ∀ later, Held (reached.2.performAll later).2.tables symbol := by
  intro reached
  have start : Recorded (empty : Workspace σ).tables fun _ => [] := recorded_nil
  have recorded := recorded_performAll start history
  have held := held_performAll start history
  refine ⟨?_, ?_, ?_, ?_⟩
  · intro number table found asked
    have records := recorded.records found
    refine ⟨recorded.seeded found, records.sound.distinct, fun text => records.mem_texts_iff,
      records.size_eq, ?_, ?_⟩
    · intro later
      obtain ⟨grown, found', begins⟩ := grows_performAll reached.2 later number table found
      refine ⟨grown, found', begins, ?_⟩
      rw [← table.length_symbols, ← grown.length_symbols]
      exact begins.length_le
    · intro text kind
      obtain ⟨symbol, after, performed, table', text', kind', looked, ever⟩ :=
        recorded.intern found text kind
      refine ⟨symbol, after, performed, table', text', kind', ?_, looked, ever⟩
      intro fixed reserved
      obtain ⟨behind, split⟩ := recorded.seeded found
      rw [← split, List.append_assoc, List.lookup_append, ← Kind.ofReserved?, reserved] at kind'
      exact (Option.some.inj kind').symm
  · intro operation number made asks
    have step := step_perform reached.2 operation
    rw [asks] at step
    exact step.handed recorded
  · intro first firstIn second secondIn
    exact recorded.same_iff (held first firstIn) (held second secondIn)
  · intro symbol member later
    exact (held symbol member).grows (grows_performAll _ later)

/-- Two tables that learn a word in different ways, one of them from a session. -/
theorem registered_once_two_tables :
    let history := [.addTable, .lookup 0 "x", .addSession (LineReader.ofText "x if") {} 0, .pull 0,
      .intern 0 "x" .endOfInput, .addTable, .intern 1 "x" .endOfInput, .drain 0,
      .intern 1 "if" .identifier]
    let reached := empty.performAll history
    let word : Symbol := ⟨0, 41, "x", .identifier⟩
    let other : Symbol := ⟨1, 41, "x", .endOfInput⟩
    reached.1 =
        [word, word, other, ⟨0, 7, "if", .keyword .ifWord⟩, ⟨1, 7, "if", .keyword .ifWord⟩] ∧
      registrations 0 empty history = Kind.reserved ++ [("x", .identifier), ("x", .endOfInput),
        ("if", .identifier), ("", .endOfInput)] ∧
      (∃ table, reached.2.tables[1]? = some table ∧
        table.size = ((registrations 1 empty history).map Prod.fst).dedup.length ∧
        ∃ symbol after, reached.2.perform (.intern 1 "x" .identifier) = ([symbol], after) ∧
          symbol.text = "x") ∧
      (reached.2.asks (.lexWith 1 (LineReader.ofText "y") {}) =
          some (1, [("y", .identifier), ("", .endOfInput)]) ∧
        ∀ symbol ∈ (reached.2.perform (.lexWith 1 (LineReader.ofText "y") {})).1,
          symbol.table = 1 ∧ symbol.text ∈ ["y", ""]) ∧
      (word.same other = true ↔ word.table = other.table ∧ word.text = other.text) ∧
      Held (reached.2.performAll [.addTable, .intern 0 "y" .date]).2.tables word := by
  intro history reached word other
  have handed : reached.1 = [word, word, other, ⟨0, 7, "if", .keyword .ifWord⟩,
      ⟨1, 7, "if", .keyword .ifWord⟩] := by decide +kernel
  have wordIn : word ∈ reached.1 := by
    rw [handed]
    exact List.mem_cons_self
  have otherIn : other ∈ reached.1 := by
    rw [handed]
    exact List.mem_cons_of_mem _ (List.mem_cons_of_mem _ List.mem_cons_self)
  have asks : reached.2.asks (.lexWith 1 (LineReader.ofText "y") {}) =
      some (1, [("y", .identifier), ("", .endOfInput)]) := by decide +kernel
  obtain ⟨tables, symbols, same, held⟩ := registered_once history
  refine ⟨handed, by decide +kernel, ?_, ⟨asks, symbols _ _ _ asks⟩, same word wordIn other otherIn,
    held word wordIn _⟩
  obtain ⟨table, found⟩ : ∃ table, reached.2.tables[1]? = some table :=
    Option.isSome_iff_exists.mp (by decide +kernel)
  obtain ⟨_, _, _, size, _, interned⟩ := tables 1 table found
  obtain ⟨symbol, after, performed, _, text, _⟩ := interned "x" .identifier
  exact ⟨table, found, size, symbol, after, performed, text⟩

end Lexis.Workspace
