import Lexis.SymbolTable
import Lexis.Proofs.Kinds
import Mathlib.Data.List.Infix
import Mathlib.Data.List.Nodup

/-!
# What a symbol table issues

A table is sound if its symbols carry its number and their own places, and no
text is registered twice (`SymbolTable.Sound`). A new table is sound, and
registering keeps it so and only adds behind the symbols there are. So among the
symbols of a sound table, being the same symbol is having the same text
(`SymbolTable.Sound.same_iff`).

A table is spelled if the kind of every symbol is the one that its text has by
itself (`SymbolTable.Spelled`). Registering what scanning finds keeps a table
spelled, and a spelled table answers a kind that does not depend on what else
was registered (`SymbolTable.kind_intern`).

A caller may register any text with any kind, the kind of an end of input
included. What texts are registered so is told by `SymbolTable.marksEnd`, and
registering anything else leaves it as it is (`SymbolTable.marksEnd_intern`).
-/

namespace Lexis.SymbolTable

set_option autoImplicit false

variable {table : SymbolTable}

/-- The symbols know their table and their place in it, and no two have the same
text. -/
structure Sound (table : SymbolTable) : Prop where
  issued : ∀ {index : Nat} {symbol : Symbol}, table.symbols[index]? = some symbol →
    symbol.table = table.number ∧ symbol.index = index
  distinct : (table.symbols.map Symbol.text).Nodup

theorem symbols_new (number : Nat) : (new number).symbols = (new number).reserved :=
  List.append_nil _

theorem map_text_reserved (table : SymbolTable) :
    table.reserved.map Symbol.text = Kind.reserved.map Prod.fst := by
  apply List.ext_getElem?
  intro index
  simp only [reserved, List.getElem?_map, List.getElem?_mapIdx, Option.map_map]
  rfl

theorem sound_new (number : Nat) : Sound (new number) where
  issued := by
    intro index symbol found
    rw [symbols_new, reserved, List.getElem?_mapIdx, Option.map_eq_some_iff] at found
    obtain ⟨entry, _, rfl⟩ := found
    exact ⟨rfl, rfl⟩
  distinct := by
    rw [symbols_new, map_text_reserved]
    exact Kind.nodup_reserved

/-! ## Looking up -/

theorem lookup_eq_none_iff {text : String} :
    table.lookup text = none ↔ ∀ symbol ∈ table.symbols, symbol.text ≠ text := by
  simp only [lookup, symbols, Option.orElse_eq_orElse, Option.orElse_eq_or, Option.or_eq_none_iff,
    List.find?_eq_none, List.mem_append, List.mem_reverse, beq_iff_eq]
  constructor
  · rintro ⟨fixed, learned⟩ symbol (member | member)
    · exact fixed symbol member
    · exact learned symbol member
  · intro absent
    exact ⟨fun symbol member => absent symbol (.inl member),
      fun symbol member => absent symbol (.inr member)⟩

/-- Looking up finds a symbol of the table with the text. -/
theorem mem_of_lookup {text : String} {symbol : Symbol} (found : table.lookup text = some symbol) :
    symbol ∈ table.symbols ∧ symbol.text = text := by
  simp only [lookup, Option.orElse_eq_orElse, Option.orElse_eq_or, Option.or_eq_some_iff] at found
  rcases found with fixed | ⟨_, learned⟩
  · exact ⟨List.mem_append_left _ (List.mem_of_find?_eq_some fixed),
      by simpa using List.find?_some fixed⟩
  · exact ⟨List.mem_append_right _ (List.mem_reverse.mpr (List.mem_of_find?_eq_some learned)),
      by simpa using List.find?_some learned⟩

/-! ## Registering -/

section Registering

variable (table) (text : String) (kind : Kind)

/-- Registering answers a symbol that is there, or adds one behind all others. -/
theorem intern_cases :
    (∃ symbol, table.lookup text = some symbol ∧ table.intern text kind = (symbol, table)) ∨
      (table.lookup text = none ∧
        (table.intern text kind).1 = ⟨table.number, table.size, text, kind⟩ ∧
        (table.intern text kind).2.symbols =
          table.symbols ++ [⟨table.number, table.size, text, kind⟩] ∧
        (table.intern text kind).2.number = table.number) := by
  unfold intern
  cases found : table.lookup text with
  | some symbol => exact .inl ⟨symbol, rfl, rfl⟩
  | none =>
    refine .inr ⟨rfl, rfl, ?_, rfl⟩
    simp [symbols, reserved]

theorem text_intern : (table.intern text kind).1.text = text := by
  rcases table.intern_cases text kind with ⟨symbol, found, answer⟩ | ⟨_, answer, _⟩
  · rw [answer]
    exact (mem_of_lookup found).2
  · rw [answer]

/-- The symbols of before come first. -/
theorem symbols_begins_intern : table.symbols <+: (table.intern text kind).2.symbols := by
  rcases table.intern_cases text kind with ⟨symbol, _, answer⟩ | ⟨_, _, symbols, _⟩
  · rw [answer]
  · rw [symbols]
    exact List.prefix_append _ _

theorem mem_symbols_intern :
    (table.intern text kind).1 ∈ (table.intern text kind).2.symbols := by
  rcases table.intern_cases text kind with ⟨symbol, found, answer⟩ | ⟨_, answer, symbols, _⟩
  · rw [answer]
    exact (mem_of_lookup found).1
  · rw [answer, symbols]
    exact List.mem_append_right _ (List.mem_singleton_self _)

theorem number_intern : (table.intern text kind).2.number = table.number := by
  rcases table.intern_cases text kind with ⟨symbol, _, answer⟩ | ⟨_, _, _, number⟩
  · rw [answer]
  · exact number

/-- A text that is registered is found. -/
theorem lookup_intern_self :
    (table.intern text kind).2.lookup text = some (table.intern text kind).1 := by
  unfold intern
  cases found : table.lookup text with
  | some symbol => exact found
  | none =>
    have unreserved : table.reserved.find? (·.text == text) = none :=
      List.find?_eq_none.mpr fun symbol member =>
        by simpa using lookup_eq_none_iff.mp found symbol (List.mem_append_left _ member)
    simp only [lookup, reserved] at unreserved ⊢
    simp [unreserved]

/-- Registering a text changes nothing about the others. -/
theorem lookup_intern_of_ne {other : String} (different : other ≠ text) :
    (table.intern text kind).2.lookup other = table.lookup other := by
  unfold intern
  cases table.lookup text with
  | some symbol => rfl
  | none => simp [lookup, reserved, different.symm]

end Registering

/-- Registering a text that is there answers its symbol and changes nothing. -/
theorem intern_of_lookup {text : String} {symbol : Symbol}
    (found : table.lookup text = some symbol) (kind : Kind) :
    table.intern text kind = (symbol, table) := by
  rw [intern, found]

/-- **Registering keeps a table sound.** -/
theorem Sound.intern (sound : Sound table) (text : String) (kind : Kind) :
    Sound (table.intern text kind).2 := by
  rcases table.intern_cases text kind with ⟨symbol, _, answer⟩ | ⟨absent, _, symbols, number⟩
  · rw [answer]
    exact sound
  · constructor
    · intro index symbol found
      rw [number]
      rw [symbols, List.getElem?_append] at found
      split at found
      · exact sound.issued found
      · rename_i past
        obtain ⟨same, rfl⟩ := List.getElem?_eq_some_iff.mp found
        rw [List.length_singleton] at same
        refine ⟨by simp, ?_⟩
        rw [← length_symbols] at *
        simp only [List.getElem_singleton]
        omega
    · rw [symbols, List.map_append, List.nodup_append]
      refine ⟨sound.distinct, by simp, ?_⟩
      intro first member second added same
      obtain ⟨symbol, known, rfl⟩ := List.mem_map.mp member
      have isNew : second = text := by simpa using added
      exact lookup_eq_none_iff.mp absent symbol known (same.trans isNew)

theorem Sound.table_of_mem (sound : Sound table) {symbol : Symbol}
    (member : symbol ∈ table.symbols) : symbol.table = table.number := by
  obtain ⟨index, place⟩ := List.mem_iff_getElem?.mp member
  exact (sound.issued place).1

/-- Looking up the text of a symbol finds the symbol. -/
theorem Sound.lookup_of_mem (sound : Sound table) {symbol : Symbol}
    (member : symbol ∈ table.symbols) : table.lookup symbol.text = some symbol := by
  cases found : table.lookup symbol.text with
  | none => exact absurd rfl (lookup_eq_none_iff.mp found symbol member)
  | some other =>
    obtain ⟨known, same⟩ := mem_of_lookup found
    exact congrArg some (List.inj_on_of_nodup_map sound.distinct known member same)

/-- **Two symbols of a table are the same exactly when their texts are equal.** -/
theorem Sound.same_iff (sound : Sound table) {first second : Symbol}
    (firstIn : first ∈ table.symbols) (secondIn : second ∈ table.symbols) :
    first.same second = true ↔ first.text = second.text := by
  obtain ⟨i, found⟩ := List.mem_iff_getElem?.mp firstIn
  obtain ⟨j, found'⟩ := List.mem_iff_getElem?.mp secondIn
  obtain ⟨number, index⟩ := sound.issued found
  obtain ⟨number', index'⟩ := sound.issued found'
  simp only [Symbol.same, number, number', index, index', beq_self_eq_true, Bool.true_and,
    beq_iff_eq]
  constructor
  · rintro rfl
    rw [found] at found'
    exact congrArg Symbol.text (Option.some.inj found')
  · intro texts
    have bound : i < (table.symbols.map Symbol.text).length := by
      rw [List.length_map]
      exact (List.getElem?_eq_some_iff.mp found).1
    refine (List.getElem?_inj bound sound.distinct).mp ?_
    rw [List.getElem?_map, List.getElem?_map, found, found']
    exact congrArg some texts

/-! ## Kinds -/

/-- The kind of every symbol is the one that its text has by itself. -/
def Spelled (table : SymbolTable) : Prop :=
  ∀ symbol ∈ table.symbols, symbol.kind = Kind.ofText symbol.text

theorem spelled_new (number : Nat) : Spelled (new number) := by
  intro symbol member
  rw [symbols_new] at member
  obtain ⟨index, bound, rfl⟩ := List.mem_mapIdx.mp member
  have fixed := Kind.ofReserved?_of_mem _ (List.getElem_mem bound)
  rw [Kind.ofText, fixed]
  rfl

/-- A reserved text is registered in every table. -/
theorem lookup_ne_none_of_reserved {text : String} {kind : Kind}
    (fixed : Kind.ofReserved? text = some kind) : table.lookup text ≠ none := by
  intro absent
  have member : text ∈ table.reserved.map Symbol.text := by
    rw [map_text_reserved]
    exact List.mem_map_of_mem (f := Prod.fst) (Kind.mem_of_ofReserved? fixed)
  obtain ⟨symbol, known, same⟩ := List.mem_map.mp member
  exact lookup_eq_none_iff.mp absent symbol (List.mem_append_left _ known) same

/-- A kind matters for a text that is not reserved alone. -/
theorem intern_congr (table : SymbolTable) {text : String} {kind other : Kind}
    (same : (Kind.ofReserved? text).getD kind = (Kind.ofReserved? text).getD other) :
    table.intern text kind = table.intern text other := by
  unfold intern
  cases found : table.lookup text with
  | some symbol => rfl
  | none =>
    cases fixed : Kind.ofReserved? text with
    | some fixedKind => exact absurd found (lookup_ne_none_of_reserved fixed)
    | none =>
      rw [fixed] at same
      rw [show kind = other from same]

section Registering

variable {text : String} {kind : Kind}
  (looks : (Kind.ofReserved? text).getD kind = Kind.ofText text)

include looks

/-- **In a spelled table, a text that is registered with the kind it looks like
gets the kind it has by itself.** -/
theorem kind_intern (spelled : Spelled table) :
    (table.intern text kind).1.kind = Kind.ofText text := by
  rcases table.intern_cases text kind with ⟨symbol, found, answer⟩ | ⟨absent, answer, _⟩
  · obtain ⟨known, same⟩ := mem_of_lookup found
    rw [answer, spelled symbol known, same]
  · cases fixed : Kind.ofReserved? text with
    | some fixedKind => exact absurd absent (lookup_ne_none_of_reserved fixed)
    | none =>
      rw [fixed] at looks
      rw [answer]
      exact looks

theorem Spelled.intern (spelled : Spelled table) : Spelled (table.intern text kind).2 := by
  intro symbol member
  have agrees := kind_intern looks spelled
  rcases table.intern_cases text kind with ⟨found, _, answer⟩ | ⟨_, answer, symbols, _⟩
  · rw [answer] at member
    exact spelled symbol member
  · rw [symbols, List.mem_append, List.mem_singleton] at member
    rcases member with known | added
    · exact spelled symbol known
    · rw [added, ← answer, agrees, text_intern]

end Registering

/-! ## Texts registered as an end of input -/

/-- Whether a text is registered as an end of input. -/
def marksEnd (table : SymbolTable) (text : String) : Bool :=
  (table.lookup text).any (·.kind == .endOfInput)

/-- The empty text is the only one that is registered as an end of input. -/
def EndsPlainly (table : SymbolTable) : Prop :=
  ∀ symbol ∈ table.symbols, symbol.kind = .endOfInput → symbol.text = ""

theorem EndsPlainly.marksEnd_eq_false (plain : EndsPlainly table) {text : String}
    (nonempty : text ≠ "") : table.marksEnd text = false := by
  unfold marksEnd
  cases found : table.lookup text with
  | none => rfl
  | some symbol =>
    obtain ⟨known, same⟩ := mem_of_lookup found
    rw [Option.any_some, beq_eq_false_iff_ne]
    intro ends
    exact nonempty (same.symm.trans (plain symbol known ends))

theorem Spelled.endsPlainly (spelled : Spelled table) : EndsPlainly table := by
  intro symbol known ends
  rw [spelled symbol known] at ends
  exact Kind.ofText_eq_endOfInput_iff.mp ends

/-- A text that is registered as something else ends no input, and what other texts
mark stays as it is. -/
theorem marksEnd_intern (table : SymbolTable) {text : String} {kind : Kind}
    (other : table.lookup text = none → kind ≠ .endOfInput) (found : String) :
    (table.intern text kind).2.marksEnd found = table.marksEnd found := by
  unfold marksEnd
  by_cases same : found = text
  · subst same
    rw [lookup_intern_self]
    rcases table.intern_cases found kind with ⟨symbol, known, answer⟩ | ⟨absent, answer, _⟩
    · rw [answer, known]
    · rw [answer, absent, Option.any_some, Option.any_none, beq_eq_false_iff_ne]
      exact other absent
  · rw [lookup_intern_of_ne table text kind same]

end Lexis.SymbolTable
