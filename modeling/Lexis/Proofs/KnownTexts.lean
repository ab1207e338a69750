import Lexis.Proofs.Sharing

/-!
# The texts that a table knows

Sessions register nothing but the texts of the tokens that they hand out. While a
session looks for its next token it puts together other texts: two characters that turn
out to be two operators, digits behind which a literal could go on, comments, and what
is no token at all. None of them reaches the table. So a table that sessions alone use
knows the reserved texts and the texts of the tokens handed out, and no others
(`Workspace.sharing_known_texts`). Its size counts the reserved texts and the different
texts handed out that are not reserved.
-/

namespace Lexis

set_option autoImplicit false

theorem Kind.isSome_ofReserved?_iff_mem {text : String} :
    (ofReserved? text).isSome ↔ text ∈ reserved.map Prod.fst :=
  isSome_lookup_iff_mem

/-- The reserved texts are the empty text, the keywords and the operators. -/
theorem Kind.isSome_ofReserved?_iff {text : String} :
    (ofReserved? text).isSome ↔
      text = "" ∨ (∃ word : Keyword, text = word.spelling) ∨
        ∃ mark : Operator, text = mark.spelling := by
  constructor
  · intro reserved
    obtain ⟨kind, fixed⟩ := Option.isSome_iff_exists.mp reserved
    rcases eq_of_ofReserved? fixed with ⟨empty, _⟩ | ⟨word, same, _⟩ | ⟨mark, same, _⟩
    · exact .inl empty
    · exact .inr (.inl ⟨word, same⟩)
    · exact .inr (.inr ⟨mark, same⟩)
  · rintro (rfl | ⟨word, rfl⟩ | ⟨mark, rfl⟩)
    · rfl
    · rw [ofReserved?_keyword]
      rfl
    · rw [ofReserved?_operator]
      rfl

namespace SymbolTable

variable {table : SymbolTable} {later : List Registration}
  (records : Records table (Kind.reserved ++ later))

include records

/-- A table knows the reserved texts and what was registered later. -/
theorem Records.isSome_lookup_iff_or {text : String} :
    (table.lookup text).isSome ↔
      (Kind.ofReserved? text).isSome ∨ text ∈ later.map Prod.fst := by
  rw [records.isSome_lookup_iff, List.map_append, List.mem_append,
    Kind.isSome_ofReserved?_iff_mem]

/-- The size of a table counts the reserved texts, and the different texts registered
later that are not reserved. -/
theorem Records.size_eq_add :
    table.size = Kind.reserved.length +
      ((later.map Prod.fst).filter fun text => (Kind.ofReserved? text).isNone).dedup.length := by
  let unreserved := ((later.map Prod.fst).filter fun text => (Kind.ofReserved? text).isNone).dedup
  have apart : List.Disjoint (Kind.reserved.map Prod.fst) unreserved := by
    intro text reserved member
    have free := List.of_mem_filter (List.mem_dedup.mp member)
    rw [← Kind.isSome_ofReserved?_iff_mem, Option.isSome_iff_ne_none] at reserved
    exact reserved (Option.isNone_iff_eq_none.mp free)
  have texts : (table.symbols.map Symbol.text).Perm (Kind.reserved.map Prod.fst ++ unreserved) := by
    refine (List.perm_ext_iff_of_nodup records.sound.distinct
      (Kind.nodup_reserved.append (List.nodup_dedup _) apart)).mpr fun text => ?_
    rw [records.mem_texts_iff, List.map_append, List.mem_append, List.mem_append, List.mem_dedup,
      List.mem_filter, ← Kind.isSome_ofReserved?_iff_mem]
    cases Kind.ofReserved? text <;> simp
  calc
    table.size = (table.symbols.map Symbol.text).length := by
      rw [List.length_map, length_symbols]
    _ = (Kind.reserved.map Prod.fst ++ unreserved).length := texts.length_eq
    _ = Kind.reserved.length + unreserved.length := by
      rw [List.length_append, List.length_map]

end SymbolTable

namespace Workspace

variable {σ : Type} [Source σ]

/-- **A table that sessions alone use knows the reserved texts and the texts of the
tokens handed out, and no others,** whatever the sources and the policies of the sessions
and the order in which tokens are pulled from them. Its size is 41, the number of
reserved texts, and the number of different texts handed out that are not reserved. -/
theorem sharing_known_texts (sources : List (σ × Policy)) (schedule : List Nat) :
    let shared := (sharing sources).run schedule
    let handed := shared.1.map (·.2.text)
    ∃ table, shared.2.tables = [table] ∧
      (∀ text, (table.lookup text).isSome ↔
        text = "" ∨ (∃ word : Keyword, text = word.spelling) ∨
          (∃ mark : Operator, text = mark.spelling) ∨ text ∈ handed) ∧
      table.size =
        41 + (handed.filter fun text => (Kind.ofReserved? text).isNone).dedup.length := by
  intro shared handed
  obtain ⟨table, later, shares, made⟩ := run_eq_internAll (shares_sharing sources) schedule
  have records := (SymbolTable.records_new 0).internAll later
  have texts : later.map Prod.fst = handed := by
    rw [← (SymbolTable.new 0).map_text_internAll later, made, List.map_map]
    rfl
  rw [made] at records
  refine ⟨table, shares.tables, fun text => ?_, ?_⟩
  · rw [records.isSome_lookup_iff_or, Kind.isSome_ofReserved?_iff, texts, or_assoc, or_assoc]
  · rw [records.size_eq_add, texts]
    rfl

/-- What is put together and given up is not registered: pairs of characters that are no
operator, a comment, and the digits of an illegal literal. -/
example :
    let sources := [(LineReader.ofText "a =1<+ // note\n2/x", ⟨.reject, false⟩)]
    let shared := (sharing sources).run (List.replicate 7 0)
    shared.1.map (·.2.text) = ["a", "=", "1", "<", "+", "", ""] ∧
      shared.2.tables.map (fun table =>
        (table.size, ["=1", "<+", "// note", "note", "2", "2/"].map (table.lookup · |>.isSome))) =
          [(43, [false, false, false, false, false, false])] := by
  decide +kernel

end Workspace

end Lexis
