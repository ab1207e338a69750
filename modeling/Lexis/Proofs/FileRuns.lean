import Lexis.Command.LexFile
import Lexis.Proofs.Utf8

/-!
# Runs over files

A run over a file pulls its tokens one by one and writes the row of each before it
pulls the next. What it dumps are the rows of the tokens that draining the session
yields, written up to the first write that fails (`Session.dump_eq`). The banners of the
diagnostics follow, and behind them the rows of the listing if that is asked for.

So a run carries out a plan that does not depend on the device (`lexFile_eq_plan`): some
texts to write, and what it comes to if all of them are written. A device that takes
everything gets them all (`lexFile_of_opened`). On any device, two runs that lex alike
and list alike write the same (`lexFile_congr`).

Once the source is open, such a run can fail in one way: the listing reads the path a
second time, and then whole. What can be opened and not be read whole is a directory.
-/

namespace Lexis

set_option autoImplicit false

/-- The bytes of some texts in a row. -/
def bytesOf (texts : List String) : List UInt8 :=
  texts.flatMap fun text => Utf8.encode text.toList

@[simp]
theorem bytesOf_append (first second : List String) :
    bytesOf (first ++ second) = bytesOf first ++ bytesOf second :=
  List.flatMap_append

/-! ## Devices -/

namespace Sink

/-- Whether a device takes everything, so that nothing done with it fails. -/
structure Unfailing (sink : Sink) : Prop where
  room : sink.room = none
  flush : sink.flushFails = false

variable {sink : Sink}

theorem writeAll_of_some {text : String} {failure : Failure}
    (failed : (sink.write text).2 = some failure) (later : List String) :
    sink.writeAll (text :: later) = sink.write text := by
  rw [writeAll]
  split <;> rename_i written
  · rw [written] at failed
    cases failed
  · exact written.symm

theorem writeAll_of_none {text : String} (done : (sink.write text).2 = none)
    (later : List String) : sink.writeAll (text :: later) = (sink.write text).1.writeAll later := by
  rw [writeAll]
  split <;> rename_i written
  · rw [written]
  · rw [written] at done
    cases done

/-- Texts behind others are written where the others are written without a failure. -/
theorem writeAll_append (sink : Sink) (first second : List String) :
    sink.writeAll (first ++ second) =
      match sink.writeAll first with
      | (after, none) => after.writeAll second
      | (after, some failure) => (after, some failure) := by
  induction first generalizing sink with
  | nil => rfl
  | cons text later ih =>
    rw [List.cons_append, writeAll, writeAll]
    rcases sink.write text with ⟨after, _ | failure⟩
    · exact ih after
    · rfl

/-- **A device that takes everything has the bytes of all texts behind its own,** and
goes on taking everything. -/
theorem Unfailing.writeAll (unfailing : sink.Unfailing) (texts : List String) :
    (sink.writeAll texts).2 = none ∧ (sink.writeAll texts).1.Unfailing ∧
      (sink.writeAll texts).1.contents = sink.contents ++ bytesOf texts := by
  induction texts generalizing sink with
  | nil => exact ⟨rfl, unfailing, (List.append_nil _).symm⟩
  | cons text later ih =>
    have written : sink.write text =
        ({ sink with pieces := Utf8.encode text.toList :: sink.pieces }, none) := by
      simp only [write, unfailing.room]
    have after : Unfailing { sink with pieces := Utf8.encode text.toList :: sink.pieces } :=
      ⟨unfailing.room, unfailing.flush⟩
    obtain ⟨done, still, contents⟩ := ih after
    rw [writeAll_of_none (congrArg Prod.snd written), written]
    refine ⟨done, still, contents.trans ?_⟩
    simp [Sink.contents, bytesOf]

end Sink

/-! ## Dumps -/

namespace Session

variable {σ : Type} [Source σ]

/-- The row of a token in a dump, with its line feed. -/
def row (token : Token) : String :=
  token.dumpLine ++ "\n"

section Steps

variable {tokens : Nat} {events : List Event} {session : Session σ} {table : SymbolTable}
  {sink : Sink}

theorem dumpOnto_of_isEnd (ended : (session.next table).token.isEnd = true) :
    dumpOnto tokens events session table sink =
      ⟨tokens, (session.next table).session, sink, none,
        events.reverse ++ (session.next table).events⟩ := by
  rw [dumpOnto]
  simp [ended]

section GoesOn

variable (goesOn : (session.next table).token.isEnd = false)

include goesOn

theorem dumpOnto_of_failed {failure : Failure}
    (failed : (sink.write (row (session.next table).token)).2 = some failure) :
    dumpOnto tokens events session table sink =
      ⟨tokens, (session.next table).session, (sink.write (row (session.next table).token)).1,
        some failure, events.reverse ++ (session.next table).events⟩ := by
  rw [row] at failed ⊢
  rw [dumpOnto]
  simp only [goesOn, Bool.false_eq_true, dite_false]
  split <;> rename_i written <;> rw [written] at failed ⊢
  · cases failed
    simp
  · cases failed

theorem dumpOnto_of_written (written : (sink.write (row (session.next table).token)).2 = none) :
    dumpOnto tokens events session table sink =
      dumpOnto (tokens + 1) ((session.next table).events.reverse ++ events)
        (session.next table).session (session.next table).table
        (sink.write (row (session.next table).token)).1 := by
  rw [row] at written ⊢
  conv => lhs; rw [dumpOnto]
  simp only [goesOn, Bool.false_eq_true, dite_false]
  split <;> rename_i wrote <;> rw [wrote] at written ⊢
  cases written

end GoesOn

end Steps

/-- What was dumped before counts, and the events from before stay in front. -/
theorem dumpOnto_eq (tokens : Nat) (events : List Event) (session : Session σ)
    (table : SymbolTable) (sink : Sink) :
    let drained := session.drain table
    let written := sink.writeAll (drained.tokens.map row)
    let dumped := dumpOnto tokens events session table sink
    dumped.sink = written.1 ∧ dumped.failure = written.2 ∧
      dumped.events <+: events.reverse ++ drained.events ∧
      (written.2 = none → dumped.tokens = tokens + drained.tokens.length ∧
        dumped.session = drained.session ∧ dumped.events = events.reverse ++ drained.events) := by
  cases ended : (session.next table).token.isEnd with
  | true =>
    rw [dumpOnto_of_isEnd ended, drain_of_isEnd ended]
    exact ⟨rfl, rfl, List.prefix_rfl, fun _ => ⟨rfl, rfl, rfl⟩⟩
  | false =>
    have smaller := size_lt_of_next ended
    rw [drain_of_goesOn ended]
    dsimp only [Drained.after]
    rw [List.map_append, List.map_singleton, List.singleton_append, ← List.append_assoc]
    cases wrote : (sink.write (row (session.next table).token)).2 with
    | none =>
      have rest := dumpOnto_eq (tokens + 1) ((session.next table).events.reverse ++ events)
        (session.next table).session (session.next table).table
        (sink.write (row (session.next table).token)).1
      rw [List.reverse_append, List.reverse_reverse] at rest
      rw [dumpOnto_of_written ended wrote, Sink.writeAll_of_none wrote]
      refine ⟨rest.1, rest.2.1, rest.2.2.1, fun done => ?_⟩
      obtain ⟨count, left, told⟩ := rest.2.2.2 done
      refine ⟨count.trans ?_, left, told⟩
      simp only [List.length_append, List.length_singleton]
      omega
    | some failure =>
      rw [dumpOnto_of_failed ended wrote, Sink.writeAll_of_some wrote, wrote]
      exact ⟨rfl, rfl, List.prefix_append _ _, nofun⟩
termination_by session.input.size
decreasing_by exact smaller

/-- **A dump writes the rows of the tokens that draining the session yields,** up to
the first that fails, and tells of no more than draining tells. If none fails, it has
pulled what draining pulls. -/
theorem dump_eq (session : Session σ) (table : SymbolTable) (sink : Sink) :
    let drained := session.drain table
    let written := sink.writeAll (drained.tokens.map row)
    let dumped := session.dump table sink
    dumped.sink = written.1 ∧ dumped.failure = written.2 ∧ dumped.events <+: drained.events ∧
      (written.2 = none → dumped.tokens = drained.tokens.length ∧
        dumped.session = drained.session ∧ dumped.events = drained.events) := by
  have whole := dumpOnto_eq 0 [] session table sink
  simp only [Nat.zero_add, List.reverse_nil, List.nil_append] at whole
  exact whole

/-- What a run reports on a session that was drained: the rows of its tokens, and the
banners of its diagnostics. -/
def Drained.report (drained : Drained σ) : List String :=
  drained.tokens.map row ++
    drained.session.diagnostics.map fun diagnostic => diagnostic.banner ++ "\n"

/-- The summary of a session that was drained. -/
def Drained.summary (drained : Drained σ) : Summary where
  tokens := drained.tokens.length
  termination := drained.session.termination?.getD .exhausted
  diagnostics := drained.session.diagnostics

end Session

/-! ## Whole runs -/

/-- The rows that a run lists after its report: none if no listing is asked for. -/
def Files.listed (files : Files) (path : String) (options : Options) :
    Except CommandError (List String) :=
  if options.listing then (files.shownText path).map listing else .ok []

/-- What can be opened is a file or a directory, read from its start. -/
theorem Files.openSource_eq_ok_iff {files : Files} {path : String} {source : LineReader} :
    files.openSource path = .ok source ↔
      ∃ entry, files path = .ok entry ∧ LineReader.ofStream entry.stream = source := by
  unfold openSource
  cases files path <;> simp

theorem Files.listed_of_file {files : Files} {path : String} {content : List UInt8}
    (found : files path = .ok (.file content)) (options : Options) :
    files.listed path options =
      .ok (if options.listing then listing (Utf8.decodeLossy content) else []) := by
  unfold listed shownText
  rw [found]
  split <;> rfl

/-- A directory is not listed. -/
theorem Files.listed_of_directory {files : Files} {path : String}
    (found : files path = .ok .directory) (options : Options) :
    files.listed path options =
      if options.listing then .error (.reading path .directoryRead) else .ok [] := by
  unfold listed shownText
  rw [found]
  split <;> rfl

/-- What follows a dump is written up to the first failure: banners, and the rows that are
listed. Where they are all written, it fails if the listing does. -/
theorem lexFileTail_eq (files : Files) (path : String) (options : Options)
    (diagnostics : List Diagnostic) (sink : Sink) :
    let banners := diagnostics.map fun diagnostic => diagnostic.banner ++ "\n"
    let listed := files.listed path options
    let written := sink.writeAll (banners ++ listed.toOption.getD [])
    lexFileTail files path options diagnostics sink =
      (written.1, match written.2, listed with
        | some failure, _ => some (.writing failure)
        | none, .error error => some error
        | none, .ok _ => none) := by
  intro banners listed written
  simp only [written, Sink.writeAll_append]
  unfold lexFileTail
  rcases sink.writeAll banners with ⟨after, _ | failure⟩
  · dsimp only
    simp only [listed]
    cases asked : options.listing with
    | false =>
      rw [Files.listed, asked]
      rfl
    | true =>
      rw [Files.listed, asked, if_pos rfl, if_pos rfl]
      cases files.shownText path with
      | error error => rfl
      | ok text =>
        show (_, _) = (_, _)
        simp only [Sink.writeListing, Except.map, Except.toOption, Option.getD_some]
        cases (after.writeAll (listing text)).2 <;> rfl
  · rfl

/-- What a run over a file does on a device that takes everything. -/
structure FilePlan where
  /-- The texts that are written, in order. -/
  texts : List String
  result : Except CommandError Summary
  events : List Event

/-- The plan of a run: the report on the session, and the rows that are listed. Where the
source cannot be opened, there is nothing to write. -/
def Files.plan (files : Files) (path : String) (options : Options) : FilePlan :=
  match files.openSource path with
  | .error fault => ⟨[], .error (.ofFault path fault), []⟩
  | .ok source =>
      let drained := (Session.new source options.policy).drain (.new 0)
      let listed := files.listed path options
      ⟨drained.report ++ listed.toOption.getD [], listed.map fun _ => drained.summary,
        .opened path options :: drained.events⟩

/-- What a run comes to on a device: an error of the device where a write fails; else what
its plan comes to, unless it succeeds and then flushing fails. -/
def FilePlan.resultOn (plan : FilePlan) (sink : Sink) : Except CommandError Summary :=
  let written := sink.writeAll plan.texts
  match written.2 with
  | some failure => .error (.writing failure)
  | none =>
      plan.result.bind fun summary =>
        match written.1.flush with
        | some failure => .error (.writing failure)
        | none => .ok summary

/-- **A run over a file carries out its plan on the device.** It writes the texts of the
plan up to the first that fails, and comes to what the plan comes to on the device. -/
theorem lexFile_eq_plan (files : Files) (path : String) (options : Options) (sink : Sink) :
    let plan := files.plan path options
    let written := sink.writeAll plan.texts
    let run := lexFile files path options sink
    run.sink = written.1 ∧ run.result = plan.resultOn sink ∧ run.events <+: plan.events ∧
      (written.2 = none → run.events = plan.events) := by
  intro plan written run
  simp only [run, written, plan, FilePlan.resultOn, lexFile, Files.plan]
  cases files.openSource path with
  | error fault => exact ⟨rfl, rfl, List.prefix_rfl, fun _ => rfl⟩
  | ok source =>
    obtain ⟨dumps, fails, tells, pulls⟩ :=
      Session.dump_eq (Session.new source options.policy) (.new 0) sink
    dsimp only [FileRun.ofDumped]
    generalize (Session.new source options.policy).dump (.new 0) sink = dumped
      at dumps fails tells pulls ⊢
    generalize (Session.new source options.policy).drain (.new 0) = drained
      at dumps fails tells pulls ⊢
    rw [Session.Drained.report, List.append_assoc, Sink.writeAll_append, dumps, fails]
    rcases wrote : sink.writeAll _ with ⟨after, _ | failure⟩
    · rw [wrote] at pulls
      obtain ⟨count, left, told⟩ := pulls rfl
      have summary : dumped.summary = drained.summary := by
        rw [Dumped.summary, Session.Drained.summary, count, left]
      dsimp only
      rw [summary, told, left, lexFileTail_eq]
      rcases after.writeAll _ with ⟨last, _ | failure⟩
      · cases files.listed path options with
        | error error => exact ⟨rfl, rfl, List.prefix_rfl, fun _ => rfl⟩
        | ok rows =>
          simp only [Except.map, Except.bind]
          cases last.flush <;> exact ⟨rfl, rfl, List.prefix_rfl, fun _ => rfl⟩
      · exact ⟨rfl, rfl, List.prefix_rfl, fun all => absurd all (Option.some_ne_none _)⟩
    · exact ⟨rfl, rfl, List.cons_prefix_cons.mpr ⟨rfl, tells⟩,
        fun all => absurd all (Option.some_ne_none _)⟩

/-- The plan of a run over a source that can be opened. -/
theorem Files.plan_of_opened {files : Files} {path : String} {source : LineReader}
    (opened : files.openSource path = .ok source) (options : Options) :
    let drained := (Session.new source options.policy).drain (.new 0)
    let listed := files.listed path options
    files.plan path options =
      ⟨drained.report ++ listed.toOption.getD [], listed.map fun _ => drained.summary,
        .opened path options :: drained.events⟩ := by
  rw [plan, opened]

/-- A device that takes everything does not change what a run comes to. -/
theorem FilePlan.resultOn_of_unfailing {sink : Sink} (unfailing : sink.Unfailing)
    (plan : FilePlan) : plan.resultOn sink = plan.result := by
  obtain ⟨done, after, _⟩ := unfailing.writeAll plan.texts
  have flushed : (sink.writeAll plan.texts).1.flush = none := by
    rw [Sink.flush, after.flush]
    rfl
  rw [resultOn]
  simp only [done, flushed]
  cases plan.result <;> rfl

/-- **A run over a source that can be opened writes the report on its session and then
the listing,** if that is asked for, where the device takes everything. It succeeds
unless the listing fails. -/
theorem lexFile_of_opened {files : Files} {path : String} {source : LineReader} {sink : Sink}
    (opened : files.openSource path = .ok source) (unfailing : sink.Unfailing)
    (options : Options) :
    let drained := (Session.new source options.policy).drain (.new 0)
    let listed := files.listed path options
    let run := lexFile files path options sink
    run.result = listed.map (fun _ => drained.summary) ∧
      run.sink.contents =
        sink.contents ++ bytesOf (drained.report ++ listed.toOption.getD []) ∧
      run.events = .opened path options :: drained.events := by
  intro drained listed run
  obtain ⟨written, result, _, told⟩ := lexFile_eq_plan files path options sink
  have plan := Files.plan_of_opened opened options
  obtain ⟨done, _, contents⟩ := unfailing.writeAll (files.plan path options).texts
  rw [FilePlan.resultOn_of_unfailing unfailing] at result
  rw [← written] at contents
  rw [plan] at result contents told done
  exact ⟨result, contents, told done⟩

/-- **A run over a file succeeds** where the device takes everything. -/
theorem lexFile_of_file {files : Files} {path : String} {content : List UInt8} {sink : Sink}
    (found : files path = .ok (.file content)) (unfailing : sink.Unfailing) (options : Options) :
    let session := Session.new (LineReader.ofStream [.bytes content]) options.policy
    let drained := session.drain (.new 0)
    let listed := if options.listing then listing (Utf8.decodeLossy content) else []
    let run := lexFile files path options sink
    run.result = .ok drained.summary ∧
      run.sink.contents = sink.contents ++ bytesOf (drained.report ++ listed) ∧
      run.events = .opened path options :: drained.events := by
  have opened : files.openSource path = .ok (LineReader.ofStream [.bytes content]) :=
    Files.openSource_eq_ok_iff.mpr ⟨.file content, found, rfl⟩
  have run := lexFile_of_opened opened unfailing options
  rw [Files.listed_of_file found] at run
  exact run

/-- **Two runs write the same and come to the same** where lexing their sources does
and they list the same rows, however much the device takes. -/
theorem lexFile_congr {files files' : Files} {path path' : String} {source source' : LineReader}
    {options : Options} (opened : files.openSource path = .ok source)
    (opened' : files'.openSource path' = .ok source')
    (same : lexWith source (.new 0) options.policy = lexWith source' (.new 0) options.policy)
    (listed : files.listed path options = files'.listed path' options) (sink : Sink) :
    let run := lexFile files path options sink
    let run' := lexFile files' path' options sink
    run.result = run'.result ∧ run.sink = run'.sink := by
  intro run run'
  have tokens := congrArg Output.tokens same
  have diagnostics := congrArg Output.diagnostics same
  have termination := congrArg Output.termination same
  dsimp only [lexWith, Session.Drained.output] at tokens diagnostics termination
  have report : ((Session.new source options.policy).drain (.new 0)).report =
      ((Session.new source' options.policy).drain (.new 0)).report := by
    rw [Session.Drained.report, Session.Drained.report, tokens, diagnostics]
  have summary : ((Session.new source options.policy).drain (.new 0)).summary =
      ((Session.new source' options.policy).drain (.new 0)).summary := by
    rw [Session.Drained.summary, Session.Drained.summary, tokens, diagnostics, termination]
  obtain ⟨written, result, _⟩ := lexFile_eq_plan files path options sink
  obtain ⟨written', result', _⟩ := lexFile_eq_plan files' path' options sink
  simp only [run, run', written, written', result, result', FilePlan.resultOn,
    Files.plan_of_opened opened, Files.plan_of_opened opened', listed, report, summary, and_self]

end Lexis
