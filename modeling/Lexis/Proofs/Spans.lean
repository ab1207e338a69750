import Lexis.Proofs.Tokenizer
import Lexis.Source.Script

/-!
# The columns a token spans

The right column of a token is found in two steps, neither of which leaves the 32 bits: the
column past its last character is computed first and stays at the highest number if it is
out of range, and then one is taken off (`lastColumn`). So the column of the last character
is right as long as the column past it is in range. From there on it stays one below the
highest column, where it should stay at the highest one. A token that starts at the highest
column ends before it starts, like the token that marks the end.
-/

namespace Lexis

set_option autoImplicit false

/-- The column of the last character is what the first column and the length say, just as
long as the column past it is in range. -/
theorem toNat_lastColumn_eq_iff {first : UInt32} {length : Nat} (positive : 0 < length) :
    (lastColumn first length).toNat = min (first.toNat + length - 1) (2 ^ 32 - 1) ↔
      first.toNat + length < 2 ^ 32 := by
  rw [toNat_lastColumn]
  omega

/-- The last column is not before the first, unless that is the highest one. -/
theorem le_lastColumn_iff {first : UInt32} {length : Nat} (positive : 0 < length) :
    first ≤ lastColumn first length ↔ first.toNat ≠ 2 ^ 32 - 1 := by
  have bound := first.toNat_lt
  rw [UInt32.le_iff_toNat_le, toNat_lastColumn]
  omega

namespace Session

variable {σ : Type} [Source σ]

/-- **The columns of a token.** Take any call that answers a token which does not mark the
end, of any session and with any table, whatever columns the source states. The text has a
character. The right column is one before the column past the text, which does not exceed
the highest number; it is that of the last character if the column past it is in range, and
only then. The span is not empty, unless it starts at the highest column. -/
theorem span_next (session : Session σ) (table : SymbolTable)
    (goesOn : (session.next table).token.isEnd = false) :
    let token := (session.next table).token
    let past := token.left.toNat + token.text.length
    0 < token.text.length ∧
      token.right.toNat = min past (2 ^ 32 - 1) - 1 ∧
      (token.right.toNat = min (past - 1) (2 ^ 32 - 1) ↔ past < 2 ^ 32) ∧
      (token.left ≤ token.right ↔ token.left.toNat ≠ 2 ^ 32 - 1) := by
  intro token past
  rcases session.next_cases table with ⟨marks, _⟩ | ⟨lexeme, looks, issued, _⟩
  · rw [Token.isEnd, Token.kind, marks] at goesOn
    cases goesOn
  · have length : token.text.length = lexeme.text.length := by
      simp only [token, issued, SymbolTable.text_issue, String.length_ofList]
    have positive : 0 < token.text.length := by
      rw [length]
      exact List.length_pos_iff.mpr looks.nonempty
    have right : token.right = lastColumn token.left token.text.length := by
      rw [length]
      simp only [token, issued, SymbolTable.issue]
    refine ⟨positive, ?_, ?_, ?_⟩
    · rw [right]
      exact toNat_lastColumn _ _
    · rw [right]
      exact toNat_lastColumn_eq_iff positive
    · rw [right]
      exact le_lastColumn_iff positive

/-- A token of two characters before the highest column. -/
theorem span_next_in_range :
    let session := new (Script.ofCharacters [⟨'a', 1, 4294967293⟩, ⟨'b', 1, 4294967294⟩] none) {}
    let token := (session.next (.new 0)).token
    token.isEnd = false ∧ token.left.toNat + token.text.length = 4294967295 ∧
      token.right.toNat = 4294967294 ∧ token.left ≤ token.right := by
  intro session token
  have goesOn : token.isEnd = false := by decide +kernel
  have past : token.left.toNat + token.text.length = 4294967295 := by decide +kernel
  have left : token.left.toNat ≠ 2 ^ 32 - 1 := by decide +kernel
  obtain ⟨_, right, _, span⟩ := span_next session (.new 0) goesOn
  refine ⟨goesOn, past, right.trans ?_, span.mpr left⟩
  rw [show (session.next (.new 0)).token.left.toNat + _ = _ from past]
  rfl

/-- A token that starts at the highest column ends before that, and so does one that reaches
it. -/
theorem span_next_at_limit :
    ¬∀ (script : Script) (policy : Policy) (table : SymbolTable),
      let token := ((new script policy).next table).token
      token.isEnd = false →
        token.right.toNat = min (token.left.toNat + token.text.length - 1) (2 ^ 32 - 1) ∧
          token.left ≤ token.right := by
  intro claimed
  have single := claimed (.ofCharacters [⟨'a', 1, 4294967295⟩] none) {} (.new 0)
  exact absurd (single (by decide +kernel)).2 (by decide +kernel)

end Session

end Lexis
