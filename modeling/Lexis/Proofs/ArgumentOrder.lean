import Lexis.Command.Arguments
import Mathlib.Logic.Relation

/-!
# The order of arguments

An argument of the lexing command is a flag, an unknown option, or a path
(`Arguments.role_cases`). Reading a list of arguments asks three things of it: its first
unknown option, its first path, and which flags occur in it (`Arguments.parseFrom_eq`).
So the result says what these are, and a list with the same paths, the same unknown options,
each in the same order, and the same flags has the same result
(`Arguments.Alike.parse_eq`). Moving flags about is such a change, and so is repeating them.

Options are told apart by the flags that set them (`Options.ext_isSet`). Applying a flag sets
its own option and no other, in whatever order flags are applied and however often.
-/

namespace Lexis

set_option autoImplicit false

namespace Flag

/-- Whether the option of a flag is set. -/
def isSet (options : Options) : Flag → Bool
  | rejectDangling => options.policy.dangling == .reject
  | uniformDates => options.policy.uniformDates
  | noListing => !options.listing

/-- A flag sets its own option and leaves the others. -/
theorem isSet_apply (options : Options) (flag other : Flag) :
    other.isSet (flag.apply options) = true ↔ other.isSet options = true ∨ other = flag := by
  cases flag <;> cases other <;> simp [apply, isSet]

/-- **After some flags, an option is set if it was set before or its flag is among them.** -/
theorem isSet_foldl_apply (options : Options) (flags : List Flag) (flag : Flag) :
    flag.isSet (flags.foldl apply options) = true ↔
      flag.isSet options = true ∨ flag ∈ flags := by
  induction flags generalizing options with
  | nil => simp
  | cons first later ih => rw [List.foldl_cons, ih, isSet_apply, List.mem_cons, or_assoc]

/-- No option is set by default. -/
theorem isSet_default (flag : Flag) : flag.isSet {} = false := by
  cases flag <;> rfl

theorem mem_all (flag : Flag) : flag ∈ all := by
  cases flag <;> decide

theorem ofArgument?_spelling (flag : Flag) : ofArgument? flag.spelling = some flag := by
  cases flag <;> rfl

/-- An argument is read as the flag that it spells. -/
theorem ofArgument?_eq_some_iff {argument : String} {flag : Flag} :
    ofArgument? argument = some flag ↔ flag.spelling = argument := by
  constructor
  · intro found
    simpa using List.find?_some found
  · rintro rfl
    exact ofArgument?_spelling flag

theorem startsWithDash_spelling (flag : Flag) : startsWithDash flag.spelling = true := by
  cases flag <;> decide

end Flag

/-- Options that agree about every flag are the same. -/
theorem Options.ext_isSet {first second : Options}
    (same : ∀ flag : Flag, flag.isSet first = flag.isSet second) : first = second := by
  obtain ⟨⟨dangling, uniform⟩, listing⟩ := first
  obtain ⟨⟨dangling', uniform'⟩, listing'⟩ := second
  have reject := same .rejectDangling
  obtain rfl : uniform = uniform' := same .uniformDates
  obtain rfl : listing = listing' := Bool.not_inj (same .noListing)
  cases dangling <;> cases dangling' <;> first | rfl | cases reject

namespace Arguments

/-! ## What an argument is taken for -/

/-- An argument that starts with a dash and spells no flag. -/
def isUnknownOption (argument : String) : Bool :=
  startsWithDash argument && !(Flag.all.map Flag.spelling).contains argument

/-- An argument that does not start with a dash. -/
def isPath (argument : String) : Bool :=
  !startsWithDash argument

theorem mem_spellings_iff {argument : String} :
    argument ∈ Flag.all.map Flag.spelling ↔ ∃ flag : Flag, flag.spelling = argument := by
  rw [List.mem_map]
  exact ⟨fun ⟨flag, _, spells⟩ => ⟨flag, spells⟩,
    fun ⟨flag, spells⟩ => ⟨flag, flag.mem_all, spells⟩⟩

theorem isUnknownOption_iff {argument : String} :
    isUnknownOption argument = true ↔
      startsWithDash argument = true ∧ ∀ flag : Flag, flag.spelling ≠ argument := by
  rw [isUnknownOption, Bool.and_eq_true, Bool.not_eq_true', ← Bool.not_eq_true,
    List.contains_iff_mem, mem_spellings_iff, not_exists]

theorem not_isUnknownOption_spelling (flag : Flag) : isUnknownOption flag.spelling = false := by
  rw [← Bool.not_eq_true, isUnknownOption_iff]
  exact fun ⟨_, other⟩ => other flag rfl

theorem not_isPath_spelling (flag : Flag) : isPath flag.spelling = false := by
  rw [isPath, flag.startsWithDash_spelling]
  rfl

theorem not_isUnknownOption_of_isPath {argument : String} (path : isPath argument = true) :
    isUnknownOption argument = false := by
  rw [isPath, Bool.not_eq_true'] at path
  rw [isUnknownOption, path]
  rfl

/-- An argument is a flag, an unknown option or a path. -/
theorem role_cases (argument : String) :
    (∃ flag : Flag, flag.spelling = argument) ∨ isUnknownOption argument = true ∨
      isPath argument = true := by
  by_cases spells : ∃ flag : Flag, flag.spelling = argument
  · exact .inl spells
  · right
    rw [not_exists] at spells
    cases dash : startsWithDash argument with
    | true => exact .inl (isUnknownOption_iff.mpr ⟨dash, spells⟩)
    | false => exact .inr (by rw [isPath, dash]; rfl)

/-! ## Reading one argument -/

section Steps

variable (options : Options) (path : Option String) {argument : String} (later : List String)

theorem parseFrom_flag (flag : Flag) :
    parseFrom options path (flag.spelling :: later) =
      parseFrom (flag.apply options) path later := by
  rw [parseFrom, flag.ofArgument?_spelling]

/-- What spells no flag is read by its first character. -/
theorem parseFrom_of_forall_ne (other : ∀ flag : Flag, flag.spelling ≠ argument) :
    parseFrom options path (argument :: later) =
      if startsWithDash argument then .error (.unknownOption argument)
      else parseFrom options (path <|> some argument) later := by
  have noFlag : Flag.ofArgument? argument = none := by
    rw [Option.eq_none_iff_forall_ne_some]
    exact fun flag found => other flag (Flag.ofArgument?_eq_some_iff.mp found)
  rw [parseFrom, noFlag]

theorem parseFrom_unknownOption (unknown : isUnknownOption argument = true) :
    parseFrom options path (argument :: later) = .error (.unknownOption argument) := by
  obtain ⟨dash, other⟩ := isUnknownOption_iff.mp unknown
  rw [parseFrom_of_forall_ne options path later other, if_pos dash]

theorem parseFrom_path (plain : isPath argument = true) :
    parseFrom options path (argument :: later) =
      parseFrom options (path <|> some argument) later := by
  have noDash : ¬startsWithDash argument = true := by
    rwa [isPath, Bool.not_eq_true', ← Bool.not_eq_true] at plain
  have other (flag : Flag) : flag.spelling ≠ argument := by
    rintro rfl
    exact noDash flag.startsWithDash_spelling
  rw [parseFrom_of_forall_ne options path later other, if_neg noDash]

end Steps

/-! ## Reading all arguments -/

/-- The options after the flags among some arguments. -/
def setAll (options : Options) (arguments : List String) : Options :=
  (arguments.filterMap Flag.ofArgument?).foldl Flag.apply options

theorem setAll_flag (options : Options) (flag : Flag) (later : List String) :
    setAll options (flag.spelling :: later) = setAll (flag.apply options) later := by
  rw [setAll, List.filterMap_cons_some flag.ofArgument?_spelling]
  rfl

theorem setAll_of_isPath (options : Options) {argument : String} (path : isPath argument = true)
    (later : List String) : setAll options (argument :: later) = setAll options later := by
  have noFlag : Flag.ofArgument? argument = none := by
    rw [Option.eq_none_iff_forall_ne_some]
    intro flag found
    rw [← Flag.ofArgument?_eq_some_iff.mp found, not_isPath_spelling] at path
    cases path
  rw [setAll, List.filterMap_cons_none noFlag]
  rfl

/-- An option is set if it was set before or its flag occurs. -/
theorem isSet_setAll (options : Options) (arguments : List String) (flag : Flag) :
    flag.isSet (setAll options arguments) = true ↔
      flag.isSet options = true ∨ flag.spelling ∈ arguments := by
  rw [setAll, Flag.isSet_foldl_apply, List.mem_filterMap]
  refine or_congr_right ⟨?_, fun member => ⟨_, member, flag.ofArgument?_spelling⟩⟩
  rintro ⟨argument, member, found⟩
  rwa [Flag.ofArgument?_eq_some_iff.mp found]

/-- **Reading arguments comes to their first unknown option, their first path and their
flags.** An unknown option wins over a path that is missing. -/
theorem parseFrom_eq (options : Options) (path : Option String) (arguments : List String) :
    parseFrom options path arguments =
      match arguments.find? isUnknownOption, path <|> arguments.find? isPath with
      | some option, _ => .error (.unknownOption option)
      | none, none => .error .missingPath
      | none, some path => .ok ⟨path, setAll options arguments⟩ := by
  induction arguments generalizing options path with
  | nil => cases path <;> rfl
  | cons argument later ih =>
    rcases role_cases argument with ⟨flag, rfl⟩ | unknown | plain
    · rw [parseFrom_flag, ih, setAll_flag,
        List.find?_cons_of_neg (by simp [not_isUnknownOption_spelling]),
        List.find?_cons_of_neg (by simp [not_isPath_spelling])]
    · rw [parseFrom_unknownOption options path later unknown, List.find?_cons_of_pos unknown]
    · have known := not_isUnknownOption_of_isPath plain
      rw [parseFrom_path options path later plain, ih, setAll_of_isPath options plain,
        List.find?_cons_of_neg (by simp [known]), List.find?_cons_of_pos plain]
      -- A path that was found before stays, and then no later one counts.
      cases path <;> rfl

theorem parse_eq (arguments : List String) :
    parse arguments =
      match arguments.find? isUnknownOption, arguments.find? isPath with
      | some option, _ => .error (.unknownOption option)
      | none, none => .error .missingPath
      | none, some path => .ok ⟨path, setAll {} arguments⟩ :=
  parseFrom_eq {} none arguments

/-! ## Results -/

section Results

variable {arguments : List String}

theorem parse_eq_unknownOption_iff {option : String} :
    parse arguments = .error (.unknownOption option) ↔
      arguments.find? isUnknownOption = some option := by
  rw [parse_eq]
  cases arguments.find? isUnknownOption with
  | some first => simp
  | none => cases arguments.find? isPath <;> simp

theorem parse_eq_missingPath_iff :
    parse arguments = .error .missingPath ↔
      arguments.find? isUnknownOption = none ∧ arguments.find? isPath = none := by
  rw [parse_eq]
  cases arguments.find? isUnknownOption with
  | some first => simp
  | none => cases arguments.find? isPath <;> simp

/-- The options of a result are told by the flags among the arguments. -/
theorem parse_eq_ok_iff {parsed : Arguments} :
    parse arguments = .ok parsed ↔
      arguments.find? isUnknownOption = none ∧ arguments.find? isPath = some parsed.path ∧
        ∀ flag : Flag, flag.isSet parsed.options = true ↔ flag.spelling ∈ arguments := by
  have set (flag : Flag) :
      flag.isSet (setAll {} arguments) = true ↔ flag.spelling ∈ arguments := by
    rw [isSet_setAll, flag.isSet_default]
    exact or_iff_right Bool.false_ne_true
  obtain ⟨path, options⟩ := parsed
  have same : setAll {} arguments = options ↔
      ∀ flag : Flag, flag.isSet options = true ↔ flag.spelling ∈ arguments := by
    constructor
    · rintro rfl
      exact set
    · intro agree
      exact Options.ext_isSet fun flag => Bool.eq_iff_iff.mpr ((set flag).trans (agree flag).symm)
  rw [parse_eq, ← same]
  cases arguments.find? isUnknownOption with
  | some first => simp
  | none => cases arguments.find? isPath <;> simp

end Results

/-! ## Lists with the same result -/

/-- Two lists of arguments with the same paths and the same unknown options, each in the same
order, and with the same flags. -/
structure Alike (first second : List String) : Prop where
  paths : first.filter isPath = second.filter isPath
  unknownOptions : first.filter isUnknownOption = second.filter isUnknownOption
  flags : ∀ flag : Flag, flag.spelling ∈ first ↔ flag.spelling ∈ second

/-- **Lists that ask for the same have the same result.** -/
theorem Alike.parse_eq {first second : List String} (alike : Alike first second) :
    parse first = parse second := by
  have options : setAll {} first = setAll {} second := by
    refine Options.ext_isSet fun flag => Bool.eq_iff_iff.mpr ?_
    rw [isSet_setAll, isSet_setAll, alike.flags]
  rw [Arguments.parse_eq, Arguments.parse_eq, options, ← List.head?_filter, ← List.head?_filter,
    ← List.head?_filter, ← List.head?_filter, alike.paths, alike.unknownOptions]

/-- A list of arguments in another order, in which paths and unknown options have kept theirs. -/
theorem alike_of_perm {first second : List String} (perm : first.Perm second)
    (paths : first.filter isPath = second.filter isPath)
    (unknownOptions : first.filter isUnknownOption = second.filter isUnknownOption) :
    Alike first second :=
  ⟨paths, unknownOptions, fun _ => perm.mem_iff⟩

/-- A list of arguments, and the list with one of its flags repeated at some place. -/
inductive RepeatsFlag : List String → List String → Prop
  | insert {before after : List String} {flag : Flag} : flag.spelling ∈ before ++ after →
      RepeatsFlag (before ++ after) (before ++ flag.spelling :: after)

theorem RepeatsFlag.alike {first second : List String} (repeats : RepeatsFlag first second) :
    Alike first second := by
  cases repeats with
  | @insert before after flag occurs =>
    refine ⟨?_, ?_, fun other => ?_⟩
    · rw [List.filter_append, List.filter_append,
        List.filter_cons_of_neg (by simp [not_isPath_spelling])]
    · rw [List.filter_append, List.filter_append,
        List.filter_cons_of_neg (by simp [not_isUnknownOption_spelling])]
    · rw [List.mem_append, List.mem_append, List.mem_cons, or_left_comm]
      refine ⟨.inr, ?_⟩
      rintro (same | member)
      · rwa [same, ← List.mem_append]
      · exact member

/-- Flags may be repeated one after the other. -/
theorem parse_eq_of_repeats {first second : List String}
    (repeats : Relation.ReflTransGen RepeatsFlag first second) : parse first = parse second := by
  induction repeats with
  | refl => rfl
  | tail _ last ih => exact ih.trans last.alike.parse_eq

/-- **Flags commute with the path.** Reading a list of arguments fails with an unknown option
exactly when some argument starts with a dash and is none of the flags, and it names the first
of these, whether or not there is a path. Otherwise a path is missing exactly when every
argument starts with a dash. Otherwise the path is the first argument that does not, and an
option is set exactly when its flag occurs anywhere in the list. So another order of the
arguments has the same result, if the paths and the unknown options keep theirs, and so has a
list in which flags that it has are repeated. -/
theorem parse_any_order (arguments : List String) :
    (∀ option, parse arguments = .error (.unknownOption option) ↔
      arguments.find? isUnknownOption = some option) ∧
    (parse arguments = .error .missingPath ↔
      (∀ argument ∈ arguments, ¬isUnknownOption argument) ∧
        ∀ argument ∈ arguments, ¬isPath argument) ∧
    (∀ parsed, parse arguments = .ok parsed ↔
      (∀ argument ∈ arguments, ¬isUnknownOption argument) ∧
        arguments.find? isPath = some parsed.path ∧
        ∀ flag : Flag, flag.isSet parsed.options ↔ flag.spelling ∈ arguments) ∧
    (∀ other : List String, arguments.Perm other →
      arguments.filter isPath = other.filter isPath →
      arguments.filter isUnknownOption = other.filter isUnknownOption →
        parse arguments = parse other) ∧
    ∀ other, Relation.ReflTransGen RepeatsFlag arguments other →
      parse arguments = parse other := by
  refine ⟨fun option => parse_eq_unknownOption_iff, ?_, fun parsed => ?_, ?_, ?_⟩
  · rw [parse_eq_missingPath_iff, List.find?_eq_none, List.find?_eq_none]
  · rw [parse_eq_ok_iff, List.find?_eq_none]
  · intro other perm paths unknownOptions
    exact (alike_of_perm perm paths unknownOptions).parse_eq
  · intro other repeats
    exact parse_eq_of_repeats repeats

/-- Flags in front of the path, behind it, and repeated, with a second path that does not
count. -/
theorem parse_any_order_repeated :
    let arguments := ["--no-listing", "a.x", "b.x", "--uniform-dates"]
    let moved := ["a.x", "--uniform-dates", "b.x", "--no-listing"]
    let repeated := ["--no-listing", "a.x", "--no-listing", "b.x", "--uniform-dates"]
    arguments.Perm moved ∧ arguments.filter isPath = moved.filter isPath ∧
      arguments.filter isUnknownOption = moved.filter isUnknownOption ∧
      RepeatsFlag arguments repeated ∧
      parse arguments = .ok ⟨"a.x", ⟨⟨.split, true⟩, false⟩⟩ ∧
      parse arguments = parse moved ∧ parse arguments = parse repeated := by
  intro arguments moved repeated
  have perm : arguments.Perm moved := by decide
  have paths : arguments.filter isPath = moved.filter isPath := by decide
  have unknown : arguments.filter isUnknownOption = moved.filter isUnknownOption := by decide
  have repeats : RepeatsFlag arguments repeated :=
    @RepeatsFlag.insert ["--no-listing", "a.x"] ["b.x", "--uniform-dates"] .noListing (by decide)
  obtain ⟨_, _, reads, reordered, again⟩ := parse_any_order arguments
  refine ⟨perm, paths, unknown, repeats, (reads _).mpr ⟨by decide, by decide, ?_⟩,
    reordered moved perm paths unknown, again repeated (.single repeats)⟩
  rintro ⟨⟩ <;> decide

end Arguments

end Lexis
