import Lexis.Proofs.Tokenizer

/-!
# What a comment says does not matter

Two slashes in a row are either passed over by a comment that is already open, or
they open one, or the session is over before it gets there. In no case does the
tokenizer read on into what follows them on their line. That takes two facts
about the front of a text in which two slashes stand. What is found at the front
is found without what follows the slashes, because no word, no candidate of a
literal and no operator goes on past both of them (`front_append_slashes`). And a
token at the front, if anything stands before the slashes, ends before the first
of them (`begins_of_front_slashes`): a literal may take a slash for a separator of
a date, but only with a digit behind it.

So two texts that differ in the body of a comment have the same transcript
(`tokenize_comment_body`). And since a transcript determines the output, lexing
them yields the same (`lex_comment_body`).
-/

namespace Lexis

set_option autoImplicit false

/-! ## Two slashes end what stands before them -/

/-- No candidate of a literal holds two slashes in a row. -/
theorem Literal.Phase.stateAfter?_slashes (phase : Phase) (text : List Char) :
    stateAfter? step phase (text ++ ['/', '/']) = none := by
  rw [stateAfter?_append]
  cases stateAfter? step phase text with
  | none => rfl
  | some reached => cases reached <;> rfl

theorem Literal.candidate_append_slashes (text later : List Char) :
    candidate (text ++ '/' :: '/' :: later) = candidate (text ++ ['/', '/']) := by
  have refused := longest_append_of_refused (Phase.stateAfter?_slashes .whole text) later
  rwa [List.append_assoc] at refused

/-- An operator at the front of a text is told by its first two characters. -/
theorem Operator.longest?_append_pair (text : List Char) (first second : Char)
    (later : List Char) :
    longest? (text ++ first :: second :: later) = longest? (text ++ [first, second]) := by
  rcases text with _ | ⟨one, _ | ⟨two, more⟩⟩ <;> rfl

theorem not_continuesWord_slash : continuesWord '/' = false := by
  decide +kernel

variable {policy : Policy}

/-- **What stands at the front of a text does not depend on what follows two
slashes.** -/
theorem front_append_slashes (text later : List Char) :
    front policy (text ++ '/' :: '/' :: later) = front policy (text ++ ['/', '/']) := by
  have whole : text ++ '/' :: '/' :: later = (text ++ ['/', '/']) ++ later := by simp
  rw [whole]
  refine front_append (by simp) ?_ ?_ ?_
  · rw [← whole, takeWhile_append_cons not_continuesWord_slash,
      takeWhile_append_cons not_continuesWord_slash]
  · rw [← whole, Literal.candidate_append_slashes]
  · rw [← whole, Operator.longest?_append_pair]

/-! ## A token ends before two slashes -/

/-- What begins a text either ends before a character of it or holds it. -/
theorem begins_or_eq_append_cons {item : Type} {word text later : List item} {next : item}
    (begins : word <+: text ++ next :: later) :
    word <+: text ∨ ∃ more, word = text ++ next :: more ∧ more <+: later := by
  rcases List.prefix_or_prefix_of_prefix begins (List.prefix_append text _) with
    within | ⟨rest, rfl⟩
  · exact .inl within
  · have begins' := (List.prefix_append_right_inj text).mp begins
    cases rest with
    | nil => exact .inl (by rw [List.append_nil])
    | cons first more =>
      obtain ⟨rfl, behind⟩ := List.cons_prefix_cons.mp begins'
      exact .inr ⟨more, rfl, behind⟩

/-- A run that is accepted as a whole leaves its recogniser in a state. -/
theorem stateAfter?_ne_none_of_longest_eq {state item : Type}
    {step : state → item → Option state} {start : state} {items : List item}
    (whole : longest step start items = items) : stateAfter? step start items ≠ none := by
  intro refused
  have shorter := length_longest_lt refused
  rw [whole] at shorter
  exact Nat.lt_irrefl _ shorter

/-- A literal ends with a digit. -/
theorem Literal.Written.isDigit_of_append_singleton {text : List Char} {kind : Kind} {last : Char}
    (written : Written policy (text ++ [last]) kind) : isDigit last = true := by
  have ends (first : List Char) (mark : Char) {digits : List Char} (nonempty : digits ≠ [])
      (all : ∀ char ∈ digits, isDigit char = true)
      (whole : text ++ [last] = first ++ mark :: digits) : isDigit last = true := by
    obtain ⟨more, found, rfl⟩ := (List.eq_nil_or_concat' digits).resolve_left nonempty
    rw [← List.cons_append, ← List.append_assoc] at whole
    obtain ⟨_, same⟩ := List.append_inj' whole rfl
    rw [List.singleton_inj.mp same]
    exact all found (List.mem_append_right _ (List.mem_singleton_self _))
  generalize whole : text ++ [last] = literal at written
  cases written with
  | integer all => exact all last (whole ▸ List.mem_append_right _ (List.mem_singleton_self _))
  | decimal _ all nonempty => exact ends _ _ nonempty all whole
  | @date month day year mark next _ _ all _ _ _ _ date =>
    refine ends (month ++ mark :: day) next (ne_nil_of_isDate date).2 all ?_
    rw [whole, List.append_assoc, List.cons_append]

/-- The one token that holds a slash by itself is the slash. -/
theorem Operator.spelling_eq_slash (mark : Operator) (lasts : mark ≠ .comment) :
    '/' ∉ mark.spelling.toList ∨ mark.spelling.toList = ['/'] := by
  cases mark <;> first | exact .inl (by decide) | exact .inr rfl | exact absurd rfl lasts

/-- Behind a slash a token goes on with a character that is no slash, unless the
slash is the token. -/
theorem IsToken.exists_of_slash {text more : List Char} {kind : Kind}
    (token : IsToken policy (text ++ '/' :: more) kind) (nonempty : text ≠ []) :
    ∃ next rest, more = next :: rest ∧ next ≠ '/' := by
  have member : '/' ∈ text ++ '/' :: more := by simp
  generalize whole : text ++ '/' :: more = word at token member
  cases token with
  | word _ _ continues =>
    have goesOn := continues '/' member
    rw [not_continuesWord_slash] at goesOn
    cases goesOn
  | literal _ _ accepted written =>
    rw [← whole] at accepted written
    cases more with
    | nil => exact absurd written.isDigit_of_append_singleton (by decide)
    | cons next rest =>
      refine ⟨next, rest, rfl, ?_⟩
      rintro rfl
      have cut : text ++ '/' :: '/' :: rest = (text ++ ['/', '/']) ++ rest := by simp
      refine stateAfter?_ne_none_of_longest_eq accepted ?_
      rw [cut, stateAfter?_append, Literal.Phase.stateAfter?_slashes]
      rfl
  | @mark mark lasts =>
    rcases mark.spelling_eq_slash lasts with absent | slash
    · exact absurd member absent
    · have length := congrArg List.length (whole.trans slash)
      have positive := List.length_pos_iff.mpr nonempty
      simp only [List.length_append, List.length_cons, List.length_nil] at length
      omega

/-- **A token before two slashes ends before the first of them,** if anything stands
there. -/
theorem begins_of_front_slashes {text word later : List Char} {kind : Kind} (nonempty : text ≠ [])
    (found : front policy (text ++ '/' :: '/' :: later) = .token word kind) : word <+: text := by
  obtain ⟨token, begins⟩ := isToken_of_front found
  refine (begins_or_eq_append_cons begins).resolve_right ?_
  rintro ⟨more, rfl, behind⟩
  obtain ⟨next, rest, rfl, other⟩ := token.exists_of_slash nonempty
  exact other (List.cons_prefix_cons.mp behind).1

/-! ## The body of a comment -/

/-- Two slashes open a comment. -/
theorem front_slashes (later : List Char) : front policy ('/' :: '/' :: later) = .comment :=
  front_of_comment (by decide) (by decide +kernel) (by decide) rfl

section Body

variable {body later : List Char} (oneLine : '\n' ∉ body)
  (ends : later = [] ∨ ∃ more, later = '\n' :: more)

include oneLine ends

/-- A comment that is open where two slashes stand on its line goes on to the end of
it, whatever is behind the slashes. -/
theorem dropWhile_slashes {line : List Char} (oneLine' : '\n' ∉ line) :
    (line ++ '/' :: '/' :: (body ++ later)).dropWhile (· != '\n') = later := by
  have whole : line ++ '/' :: '/' :: (body ++ later) =
      (line ++ '/' :: '/' :: body) ++ later := by simp
  rw [whole]
  exact dropWhile_line_append (by simp [oneLine, oneLine']) ends

/-- **The body of a comment has no part in the transcript.** -/
theorem tokenize_comment_body (place : Place) (before : List Char) :
    tokenize policy place (before ++ '/' :: '/' :: (body ++ later)) =
      tokenize policy place (before ++ '/' :: '/' :: later) := by
  have same : front policy (before ++ '/' :: '/' :: (body ++ later)) =
      front policy (before ++ '/' :: '/' :: later) :=
    (front_append_slashes before _).trans (front_append_slashes before later).symm
  cases found : front policy (before ++ '/' :: '/' :: later) with
  | ended => exact absurd (front_eq_ended_iff.mp found) (by simp)
  | blank =>
    obtain ⟨first, rest, whole, blank⟩ := exists_cons_of_front_blank found
    cases before with
    | nil =>
      cases whole
      exact absurd blank (by decide)
    | cons first before =>
      cases whole
      have shorter : before.length < (first :: before).length := Nat.lt_succ_self _
      rw [List.cons_append, List.cons_append, tokenize_of_isBlank _ blank,
        tokenize_of_isBlank _ blank]
      exact tokenize_comment_body _ before
  | token word kind =>
    have nonempty : before ≠ [] := by
      rintro rfl
      rw [List.nil_append, front_slashes] at found
      cases found
    obtain ⟨rest, whole⟩ := begins_of_front_slashes nonempty found
    have shorter : rest.length < before.length := by
      have positive := List.length_pos_iff.mpr (isToken_of_front found).1.ne_nil
      rw [← whole, List.length_append]
      omega
    rw [← whole] at same found ⊢
    rw [tokenize_of_token _ (same.trans found), tokenize_of_token _ found, List.append_assoc,
      List.drop_left, List.append_assoc, List.drop_left, tokenize_comment_body _ rest]
  | comment =>
    rw [tokenize_of_comment _ (same.trans found), tokenize_of_comment _ found]
    by_cases feeds : '\n' ∈ before
    · -- The comment is over before the slashes.
      obtain ⟨line, rest, whole, oneLine'⟩ := List.eq_append_cons_of_mem feeds
      have shorter : rest.length < before.length := by
        rw [whole, List.length_append, List.length_cons]
        omega
      have goesOn (text : List Char) : (line ++ '\n' :: text).dropWhile (· != '\n') =
          '\n' :: text := dropWhile_line_append oneLine' (.inr ⟨text, rfl⟩)
      rw [whole, List.append_assoc, List.append_assoc, List.cons_append, List.cons_append, goesOn,
        goesOn]
      exact tokenize_comment_body _ rest
    · have bare := @dropWhile_slashes [] later List.not_mem_nil ends before feeds
      rw [List.nil_append] at bare
      rw [dropWhile_slashes oneLine ends feeds, bare]
  | illegal kind word =>
    rw [tokenize_of_illegal _ (same.trans found), tokenize_of_illegal _ found]
termination_by before.length
decreasing_by all_goals exact shorter

end Body

/-- **What a comment says does not matter.** Two texts that differ in the body of a
comment, up to the end of its line, are lexed alike. -/
theorem lex_comment_body {body other later : String} (before : String) (policy : Policy)
    (oneLine : '\n' ∉ body.toList) (oneLine' : '\n' ∉ other.toList)
    (ends : later.toList = [] ∨ later.toList.head? = some '\n') :
    lex (before ++ "//" ++ body ++ later) policy =
      lex (before ++ "//" ++ other ++ later) policy := by
  have ends' : later.toList = [] ∨ ∃ more, later.toList = '\n' :: more :=
    ends.imp_right List.head?_eq_some_iff.mp
  refine lexWith_eq_of_transcript ?_
  have shown (body : String) : (before ++ "//" ++ body ++ later).toList =
      before.toList ++ '/' :: '/' :: (body.toList ++ later.toList) := by
    simp
  change (lex _ _).transcript = (lex _ _).transcript
  rw [transcript_lex_eq_bounded, transcript_lex_eq_bounded, shown, shown,
    tokenize_comment_body oneLine ends', tokenize_comment_body oneLine' ends']

/-- A slash behind a date that a separator dangles from, and a literal in the body. -/
theorem lex_comment_body_date :
    '\n' ∉ " 3-".toList ∧ '\n' ∉ "4/ *".toList ∧ "\nm".toList.head? = some '\n' ∧
      lex ("n 1/2/" ++ "//" ++ " 3-" ++ "\nm") ⟨.split, true⟩ =
        lex ("n 1/2/" ++ "//" ++ "4/ *" ++ "\nm") ⟨.split, true⟩ ∧
      (lex ("n 1/2/" ++ "//" ++ " 3-" ++ "\nm") ⟨.split, true⟩).tokens.map Token.text =
        ["n", "1", "/", "2", "m"] :=
  ⟨by decide, by decide, rfl,
    lex_comment_body "n 1/2/" ⟨.split, true⟩ (by decide) (by decide) (.inr rfl),
    by decide +kernel⟩

end Lexis
