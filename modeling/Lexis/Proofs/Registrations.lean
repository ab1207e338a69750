import Lexis.Proofs.Sessions
import Mathlib.Data.List.Dedup

/-!
# Registrations

A registration asks a table for the symbol of a text, and says which kind the text is
to have if it is new. A table is the result of the registrations made in it: it has one
symbol for each text registered, with the kind of the first registration of the text
(`SymbolTable.Records`). A new table is the result of registering the reserved texts
(`SymbolTable.records_new`), and each registration adds itself to those of before
(`SymbolTable.Records.intern`). So the size of a table is the number of different texts
registered (`SymbolTable.Records.size_eq`).

A session uses its table in no other way. Each token pulled is one registration, of the
text that the token has (`Session.next_eq_intern`): the text of the lexeme found, or the
empty text at the end. Draining a session is as many registrations as it pulls tokens
(`Session.drain_eq_internAll`).
-/

namespace Lexis

set_option autoImplicit false

/-- A text to be registered, and the kind that it gets if it is new. -/
abbrev Registration := String × Kind

theorem isSome_lookup_iff_mem {asked : List Registration} {text : String} :
    (asked.lookup text).isSome ↔ text ∈ asked.map Prod.fst := by
  simp only [List.lookup_isSome_iff, beq_iff_eq, List.mem_map, eq_comm (a := text)]

/-! ## Tables -/

namespace SymbolTable

/-- Makes registrations in turn and answers their symbols. -/
def internAll (table : SymbolTable) : List Registration → List Symbol × SymbolTable
  | [] => ([], table)
  | registration :: later =>
      let interned := table.intern registration.1 registration.2
      let rest := interned.2.internAll later
      (interned.1 :: rest.1, rest.2)

/-- Whether a table is the result of some registrations: it is sound, and the kind of
each text is that of its first registration, if there is one. -/
structure Records (table : SymbolTable) (asked : List Registration) : Prop where
  sound : table.Sound
  kind_lookup : ∀ text, (table.lookup text).map Symbol.kind = asked.lookup text

variable {table : SymbolTable} {asked : List Registration}

theorem records_new (number : Nat) : Records (new number) Kind.reserved where
  sound := sound_new number
  kind_lookup := by
    intro text
    show _ = Kind.ofReserved? text
    cases found : (new number).lookup text with
    | none =>
      cases fixed : Kind.ofReserved? text with
      | none => rfl
      | some kind => exact absurd found (lookup_ne_none_of_reserved fixed)
    | some symbol =>
      obtain ⟨known, rfl⟩ := mem_of_lookup found
      rw [symbols_new] at known
      obtain ⟨index, bound, rfl⟩ := List.mem_mapIdx.mp known
      exact (Kind.ofReserved?_of_mem _ (List.getElem_mem bound)).symm

/-- **Each registration is added to those of before.** -/
theorem Records.intern (records : Records table asked) (text : String) (kind : Kind) :
    Records (table.intern text kind).2 (asked ++ [(text, kind)]) where
  sound := records.sound.intern text kind
  kind_lookup := by
    intro other
    have before := records.kind_lookup other
    rw [List.lookup_append, ← before]
    by_cases same : other = text
    · subst same
      rw [lookup_intern_self, List.lookup_cons_self]
      rcases table.intern_cases other kind with ⟨symbol, found, answer⟩ | ⟨absent, answer, _⟩
      · rw [answer, found]
        rfl
      · rw [answer, absent]
        rfl
    · have unasked : List.lookup other [(text, kind)] = none := by
        simpa [List.lookup_eq_none_iff] using same
      rw [lookup_intern_of_ne table text kind same, unasked, Option.or_none]

/-- Registering a text answers the kind of its first registration. -/
theorem Records.lookup_append_singleton (records : Records table asked) (text : String)
    (kind : Kind) :
    (asked ++ [(text, kind)]).lookup text = some (table.intern text kind).1.kind := by
  rw [← (records.intern text kind).kind_lookup, lookup_intern_self, Option.map_some]

theorem Sound.internAll (sound : Sound table) (registrations : List Registration) :
    Sound (table.internAll registrations).2 := by
  induction registrations generalizing table with
  | nil => exact sound
  | cons first later ih =>
    rw [SymbolTable.internAll]
    exact ih (sound.intern first.1 first.2)

theorem Records.internAll (records : Records table asked) (registrations : List Registration) :
    Records (table.internAll registrations).2 (asked ++ registrations) := by
  induction registrations generalizing table asked with
  | nil =>
    rw [List.append_nil]
    exact records
  | cons first later ih =>
    have rest := ih (records.intern first.1 first.2)
    rw [List.append_assoc] at rest
    rw [SymbolTable.internAll]
    exact rest

/-- A table knows the texts registered. -/
theorem Records.isSome_lookup_iff (records : Records table asked) {text : String} :
    (table.lookup text).isSome ↔ text ∈ asked.map Prod.fst := by
  rw [← Option.isSome_map (f := Symbol.kind), records.kind_lookup, isSome_lookup_iff_mem]

theorem Records.lookup_eq_none_iff (records : Records table asked) {text : String} :
    table.lookup text = none ↔ text ∉ asked.map Prod.fst := by
  rw [← records.isSome_lookup_iff, Option.not_isSome_iff_eq_none]

/-- **The texts of the symbols are the texts registered.** -/
theorem Records.mem_texts_iff (records : Records table asked) {text : String} :
    text ∈ table.symbols.map Symbol.text ↔ text ∈ asked.map Prod.fst := by
  rw [← not_iff_not, ← records.lookup_eq_none_iff, SymbolTable.lookup_eq_none_iff]
  simp only [List.mem_map, not_exists, not_and]

/-- **The size of a table is the number of different texts registered.** -/
theorem Records.size_eq (records : Records table asked) :
    table.size = (asked.map Prod.fst).dedup.length := by
  have texts : (table.symbols.map Symbol.text).Perm (asked.map Prod.fst).dedup :=
    (List.perm_ext_iff_of_nodup records.sound.distinct (List.nodup_dedup _)).mpr fun text => by
      rw [records.mem_texts_iff, List.mem_dedup]
  rw [← length_symbols, ← List.length_map Symbol.text]
  exact texts.length_eq

theorem number_internAll (table : SymbolTable) (registrations : List Registration) :
    (table.internAll registrations).2.number = table.number := by
  induction registrations generalizing table with
  | nil => rfl
  | cons first later ih =>
    rw [internAll]
    exact (ih _).trans (table.number_intern first.1 first.2)

/-- The symbols of before come first. -/
theorem symbols_begins_internAll (table : SymbolTable) (registrations : List Registration) :
    table.symbols <+: (table.internAll registrations).2.symbols := by
  induction registrations generalizing table with
  | nil => exact List.prefix_rfl
  | cons first later ih =>
    rw [internAll]
    exact (table.symbols_begins_intern first.1 first.2).trans (ih _)

/-- The texts registered are those of the symbols answered. -/
theorem map_text_internAll (table : SymbolTable) (registrations : List Registration) :
    (table.internAll registrations).1.map Symbol.text = registrations.map Prod.fst := by
  induction registrations generalizing table with
  | nil => rfl
  | cons first later ih => simp only [internAll, List.map_cons, text_intern, ih]

/-- The symbols answered are symbols of the table. -/
theorem mem_symbols_internAll (table : SymbolTable) (registrations : List Registration) :
    ∀ symbol ∈ (table.internAll registrations).1,
      symbol ∈ (table.internAll registrations).2.symbols := by
  induction registrations generalizing table with
  | nil => exact nofun
  | cons first later ih =>
    intro symbol member
    simp only [internAll, List.mem_cons] at member ⊢
    rcases member with same | member
    · rw [same]
      exact (symbols_begins_internAll _ later).subset (table.mem_symbols_intern first.1 first.2)
    · exact ih _ symbol member

end SymbolTable

/-! ## Sessions -/

namespace Session

variable {σ : Type} [Source σ]

/-- The registration that pulling a token makes: that of the lexeme found, or that of
the empty text where the session is over. -/
def request (session : Session σ) : Registration :=
  match session.ending with
  | some _ => ("", .endOfInput)
  | none =>
      match (session.input.scan session.policy).1 with
      | .lexeme _ text kind => (String.ofList text, kind)
      | .over _ => ("", .endOfInput)

/-- The registrations of so many pulls. -/
def requests (session : Session σ) (table : SymbolTable) : Nat → List Registration
  | 0 => []
  | count + 1 =>
      let pulled := session.next table
      session.request :: pulled.session.requests pulled.table count

/-- The registrations of draining a session: one for each token, and one for the token
that marks the end. -/
def drainRequests (session : Session σ) (table : SymbolTable) : List Registration :=
  session.requests table ((session.drain table).tokens.length + 1)

/-- **Pulling a token is making one registration,** and the token has its symbol. -/
theorem next_eq_intern (session : Session σ) (table : SymbolTable) :
    table.intern session.request.1 session.request.2 =
      ((session.next table).token.symbol, (session.next table).table) := by
  have atEnd : table.intern "" .endOfInput = (table.endOfInput, table) :=
    SymbolTable.intern_of_lookup table.lookup_empty _
  cases ended : session.ending with
  | some ending =>
    rw [next_of_ended ended]
    simp only [request, ended]
    exact atEnd
  | none =>
    rcases found : session.input.scan session.policy with ⟨⟨start, text, kind⟩ | ending, input⟩
    · rw [next_of_lexeme ended found]
      simp only [request, ended, found, SymbolTable.issue]
    · rw [next_of_over ended found]
      simp only [request, ended, found]
      exact atEnd

/-- **Draining a session is making its registrations.** The symbols are those of the
tokens, with the token that marks the end behind them. -/
theorem drain_eq_internAll (session : Session σ) (table : SymbolTable) :
    let drained := session.drain table
    table.internAll (session.drainRequests table) =
      ((drained.tokens ++ [drained.last]).map Token.symbol, drained.table) := by
  have pulled := session.next_eq_intern table
  cases ended : (session.next table).token.isEnd with
  | true =>
    rw [drainRequests, drain_of_isEnd ended]
    simp only [List.length_nil, requests, SymbolTable.internAll, pulled]
    rfl
  | false =>
    have smaller := size_lt_of_next ended
    have rest := drain_eq_internAll (session.next table).session (session.next table).table
    rw [drainRequests, drain_of_goesOn ended]
    simp only [Drained.after, List.cons_append, List.nil_append, List.length_cons, List.map_cons]
    rw [requests, SymbolTable.internAll, pulled]
    dsimp only [drainRequests] at rest ⊢
    rw [rest]
termination_by session.input.size
decreasing_by exact smaller

end Session

end Lexis
