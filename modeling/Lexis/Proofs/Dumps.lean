import Lexis.Proofs.FileRuns
import Lexis.Proofs.Respelling

/-!
# Reading a dump back

A dump has a row for each token, and a row has the text of the token, its columns, its
line and the name of its kind. Nothing is quoted, so a dump can be read back only because
of what the lexer makes tokens of: no token is empty, and none holds a blank
(`IsToken.isField`). Padding widens the space behind a field and never closes it
(`spaced_fillRight`), so a row is its fields with spaces between them
(`Token.spaced_dumpLine`), and cutting it at its spaces gives the fields back
(`Spaced.fieldsOf_eq`).

The fields of a token say all there is to say about it (`Occurrence.fields_injective`).
So the rows of a dump are what its tokens are (`readRows_dump`).
-/

namespace Lexis

set_option autoImplicit false

/-! ## Fields -/

/-- Whether a text can be a field of a row: it is not empty, and it holds no blank. -/
structure IsField (text : List Char) : Prop where
  ne_nil : text ≠ []
  noBlank : ∀ char ∈ text, isBlank char = false

/-- The fields of a line: what stands between its runs of spaces. -/
def fieldsOf (line : List Char) : List (List Char) :=
  (splitOn ' ' line).filter (!·.isEmpty)

/-- Whether a line is some fields with one or more spaces between any two of them. -/
inductive Spaced : List Char → List (List Char) → Prop
  | last {field : List Char} : IsField field → Spaced field [field]
  | cons {field later : List Char} {fields : List (List Char)} (more : Nat) : IsField field →
      Spaced later fields →
      Spaced (field ++ (List.replicate more ' ' ++ ' ' :: later)) (field :: fields)

namespace IsField

variable {field : List Char} (isField : IsField field)

include isField

theorem space_not_mem : ' ' ∉ field := by
  intro member
  exact absurd (isField.noBlank ' ' member) (by decide)

theorem lineFeed_not_mem : '\n' ∉ field := by
  intro member
  exact absurd (isField.noBlank '\n' member) (by decide)

theorem filter_eq : [field].filter (!·.isEmpty) = [field] := by
  obtain ⟨char, later, rfl⟩ := List.exists_cons_of_ne_nil isField.ne_nil
  rfl

end IsField

@[simp]
theorem fieldsOf_cons_space (later : List Char) : fieldsOf (' ' :: later) = fieldsOf later := by
  have cut := splitOn_append_cons ' ' [] later
  rw [List.nil_append] at cut
  rw [fieldsOf, cut]
  rfl

theorem fieldsOf_replicate_append (more : Nat) (later : List Char) :
    fieldsOf (List.replicate more ' ' ++ later) = fieldsOf later := by
  induction more with
  | zero => rfl
  | succ more ih => rw [List.replicate_succ, List.cons_append, fieldsOf_cons_space, ih]

theorem fieldsOf_append_space {field : List Char} (isField : IsField field)
    (later : List Char) : fieldsOf (field ++ ' ' :: later) = field :: fieldsOf later := by
  rw [fieldsOf, splitOn_append_cons, splitOn_of_not_mem isField.space_not_mem,
    List.filter_append, isField.filter_eq]
  rfl

namespace Spaced

variable {line : List Char} {fields : List (List Char)}

/-- **Fields with spaces between them are read back,** however many spaces there are. -/
theorem fieldsOf_eq (spaced : Spaced line fields) : fieldsOf line = fields := by
  induction spaced with
  | last isField => rw [fieldsOf, splitOn_of_not_mem isField.space_not_mem, isField.filter_eq]
  | @cons field later fields more isField _ ih =>
    cases more with
    | zero => rw [List.replicate_zero, List.nil_append, fieldsOf_append_space isField, ih]
    | succ more =>
      rw [List.replicate_succ, List.cons_append, fieldsOf_append_space isField,
        fieldsOf_replicate_append, fieldsOf_cons_space, ih]

/-- Fields with spaces between them stand on one line. -/
theorem lineFeed_not_mem (spaced : Spaced line fields) : '\n' ∉ line := by
  induction spaced with
  | last isField => exact isField.lineFeed_not_mem
  | cons more isField _ ih => simp [isField.lineFeed_not_mem, ih]

end Spaced

/-- Padding a field only adds to the space behind it. -/
theorem spaced_fillRight {text : String} (isField : IsField text.toList) (width : Nat)
    {later : List Char} {fields : List (List Char)} (spaced : Spaced later fields) :
    Spaced ((fillRight width text).toList ++ ' ' :: later) (text.toList :: fields) := by
  rw [fillRight, padding, String.toList_append, String.toList_ofList, List.append_assoc]
  exact .cons _ isField spaced

/-! ## What the fields of a token are -/

theorem IsToken.isField {policy : Policy} {text : List Char} {kind : Kind}
    (token : IsToken policy text kind) : IsField text :=
  ⟨token.ne_nil, token.not_isBlank⟩

/-- A letter, a digit or a colon is no blank. -/
theorem not_isBlank_of_plain {char : Char} (plain : char.isAlphanum || char == ':') :
    isBlank char = false := by
  apply Bool.eq_false_iff.mpr
  intro blank
  have checked : Unicode.whiteSpaceChars.all
      (fun char => !(char.isAlphanum || char == ':')) = true := by decide +kernel
  have other := List.all_eq_true.mp checked char (Unicode.mem_whiteSpaceChars blank)
  rw [plain] at other
  cases other

theorem isField_of_plain {text : List Char} (nonempty : text ≠ [])
    (plain : text.all fun char => char.isAlphanum || char == ':') : IsField text :=
  ⟨nonempty, fun char member => not_isBlank_of_plain (List.all_eq_true.mp plain char member)⟩

theorem isField_decimal (number : Nat) : IsField (toString number).toList := by
  rw [Nat.toString_eq_ofList_toDigits, String.toList_ofList]
  refine isField_of_plain Nat.toDigits_ne_nil (List.all_eq_true.mpr fun char member => ?_)
  have digit := Nat.isDigit_of_mem_toDigits (by decide) (by decide) member
  rw [Char.isAlphanum, digit, Bool.or_true, Bool.true_or]

theorem decimal_injective : Function.Injective (toString : Nat → String) := by
  intro number other same
  rw [Nat.toString_eq_ofList_toDigits, Nat.toString_eq_ofList_toDigits] at same
  have read := congrArg (Nat.ofDigitChars 10 · 0) (String.ofList_injective same)
  simpa only [Nat.ofDigitChars_ten_toDigits] using read

namespace Kind

/-- Every kind is in one of the lists. -/
theorem mem_lists (kind : Kind) : kind ∈ unspelled ++ keywords ++ operators := by
  cases kind with
  | keyword word => simp [keywords, word.mem_all]
  | operator mark => simp [operators, mark.mem_all]
  | _ => simp [unspelled]

/-- A kind is known by its name. -/
theorem ofName?_name (kind : Kind) : ofName? kind.name = some kind := by
  have known : (unspelled ++ keywords ++ operators).all
      (fun kind => ofName? kind.name == some kind) = true := by decide +kernel
  exact eq_of_beq (List.all_eq_true.mp known kind kind.mem_lists)

theorem name_injective : Function.Injective name := by
  intro kind other same
  have found := kind.ofName?_name
  rw [same, ofName?_name] at found
  exact (Option.some.inj found).symm

theorem isField_name (kind : Kind) : IsField kind.name.toList := by
  have plain : (unspelled ++ keywords ++ operators).all (fun kind => kind.name.toList ≠ [] &&
      kind.name.toList.all fun char => char.isAlphanum || char == ':') = true := by
    decide +kernel
  have found := List.all_eq_true.mp plain kind kind.mem_lists
  rw [Bool.and_eq_true, decide_eq_true_eq] at found
  exact isField_of_plain found.1 found.2

end Kind

/-- What a row says about a token. -/
def Occurrence.fields (occurrence : Occurrence) : List String :=
  [occurrence.text, "left:", toString occurrence.left, "right:", toString occurrence.right,
    "line:", toString occurrence.line, occurrence.kind.name]

/-- **The fields of a token say all there is to say about it.** -/
theorem Occurrence.fields_injective : Function.Injective fields := by
  rintro ⟨text, kind, line, left, right⟩ ⟨text', kind', line', left', right'⟩ same
  simp only [fields, List.cons.injEq, and_true, true_and] at same
  obtain ⟨rfl, lefts, rights, lines, kinds⟩ := same
  rw [decimal_injective lefts, decimal_injective rights, decimal_injective lines,
    Kind.name_injective kinds]

/-- The row of a token whose text is a field is its fields with spaces between them. -/
theorem Token.spaced_dumpLine {token : Token} (isField : IsField token.text.toList) :
    Spaced token.dumpLine.toList (token.occurrence.fields.map String.toList) := by
  have row : token.dumpLine.toList =
      (fillRight 11 token.text).toList ++ ' ' :: ("left:".toList ++ ' ' ::
        ((fillRight 8 (toString token.left)).toList ++ ' ' :: ("right:".toList ++ ' ' ::
          ((fillRight 8 (toString token.right)).toList ++ ' ' :: ("line:".toList ++ ' ' ::
            ((fillRight 8 (toString token.line)).toList ++ ' ' ::
              token.kind.name.toList)))))) := by
    simp only [dumpLine, String.toList_append, List.append_assoc]
    rfl
  have label {name : List Char} (plain : IsField name) {later : List Char}
      {fields : List (List Char)} (spaced : Spaced later fields) :
      Spaced (name ++ ' ' :: later) (name :: fields) := .cons 0 plain spaced
  rw [row]
  refine spaced_fillRight isField 11 (label (isField_of_plain (by decide) (by decide)) ?_)
  refine spaced_fillRight (isField_decimal _) 8
    (label (isField_of_plain (by decide) (by decide)) ?_)
  refine spaced_fillRight (isField_decimal _) 8
    (label (isField_of_plain (by decide) (by decide)) ?_)
  exact spaced_fillRight (isField_decimal _) 8 (.last token.kind.isField_name)

/-! ## Dumps -/

/-- The rows of the tokens, in order. -/
def Output.dump (output : Output) : String :=
  String.join (output.tokens.map Session.row)

/-- What a dump reads like: the fields of each line that a line feed ends. -/
def readRows (dump : String) : List (List String) :=
  (splitOn '\n' dump.toList).dropLast.map fun line => (fieldsOf line).map String.ofList

theorem readRows_append {row : String} {fields : List String}
    (spaced : Spaced row.toList (fields.map String.toList)) (later : String) :
    readRows (row ++ "\n" ++ later) = fields :: readRows later := by
  have whole : (row ++ "\n" ++ later).toList = row.toList ++ '\n' :: later.toList := by
    rw [String.toList_append, String.toList_append, List.append_assoc]
    rfl
  have read : (fields.map String.toList).map String.ofList = fields := by simp
  rw [readRows, whole, splitOn_append_cons, splitOn_of_not_mem spaced.lineFeed_not_mem,
    List.singleton_append, List.dropLast_cons_of_ne_nil (splitOn_ne_nil _ _), List.map_cons,
    spaced.fieldsOf_eq, read, readRows]

/-- The rows of tokens whose texts are fields are read back one by one. -/
theorem readRows_join {tokens : List Token}
    (isField : ∀ token ∈ tokens, IsField token.text.toList) :
    readRows (String.join (tokens.map Session.row)) =
      tokens.map fun token => token.occurrence.fields := by
  induction tokens with
  | nil => rfl
  | cons token later ih =>
    have spaced := token.spaced_dumpLine (isField token List.mem_cons_self)
    have rest := ih fun token member => isField token (List.mem_cons_of_mem _ member)
    rw [List.map_cons, String.join_cons, Session.row, readRows_append spaced, rest, List.map_cons]

/-- The row of a token shows nothing but what the token is. -/
theorem Session.row_factorsThrough : row.FactorsThrough Token.occurrence := by
  intro token token' same
  simp only [Token.occurrence, Occurrence.mk.injEq, UInt32.toNat_inj] at same
  obtain ⟨text, kind, line, left, right⟩ := same
  rw [row, row, Token.dumpLine, Token.dumpLine, text, kind, line, left, right]

theorem isField_of_mem_lex {text : String} {policy : Policy} {token : Token}
    (member : token ∈ (lex text policy).tokens) : IsField token.text.toList :=
  (isToken_of_mem_lex (List.mem_map_of_mem member)).isField

/-- **A dump can be read back:** cut at its line feeds and at its runs of spaces, it is the
fields of each token, in order. So two dumps are equal exactly when their tokens have
the same texts, kinds and places. -/
theorem readRows_dump (text text' : String) (policy policy' : Policy) :
    let output := lex text policy
    let output' := lex text' policy'
    readRows output.dump = output.tokens.map (fun token => token.occurrence.fields) ∧
      (output.dump = output'.dump ↔
        output.tokens.map Token.occurrence = output'.tokens.map Token.occurrence) := by
  intro output output'
  have read : readRows output.dump = output.tokens.map fun token => token.occurrence.fields :=
    readRows_join fun _ member => isField_of_mem_lex member
  have read' : readRows output'.dump = output'.tokens.map fun token => token.occurrence.fields :=
    readRows_join fun _ member => isField_of_mem_lex member
  refine ⟨read, fun same => ?_, fun same => ?_⟩
  · rw [same, read'] at read
    apply Occurrence.fields_injective.list_map
    rw [List.map_map, List.map_map]
    exact read.symm
  · obtain ⟨shown, rows⟩ := (Function.factorsThrough_iff _).mp Session.row_factorsThrough
    rw [Output.dump, Output.dump, rows, ← List.map_map, ← List.map_map, same]

/-- Two rows, read back. -/
example :
    readRows (lex "n\n10" {}).dump =
      [["n", "left:", "1", "right:", "1", "line:", "1", "Identifier"],
        ["10", "left:", "1", "right:", "2", "line:", "2", "Integer"]] := by
  decide +kernel

/-! ## Dumps of files -/

theorem encode_toList_join (texts : List String) :
    Utf8.encode (String.join texts).toList = bytesOf texts := by
  rw [String.toList_join, Utf8.encode, List.flatMap_assoc]
  rfl

/-- **What a run over a file writes begins with the dump of its tokens,** where the device
takes everything. -/
theorem dump_begins_lexFile {files : Files} {path : String} {content : List UInt8} {sink : Sink}
    (found : files path = .ok (.file content)) (unfailing : sink.Unfailing) (options : Options) :
    let output := lexWith (LineReader.ofStream [.bytes content]) (.new 0) options.policy
    sink.contents ++ Utf8.encode output.dump.toList <+:
      (lexFile files path options sink).sink.contents := by
  intro output
  obtain ⟨_, contents, _⟩ := lexFile_of_file found unfailing options
  rw [contents, Session.Drained.report, List.append_assoc, bytesOf_append, ← List.append_assoc,
    Output.dump, encode_toList_join]
  exact List.prefix_append _ _

end Lexis
