import Lexis.Files.Tree
import Lexis.Lex
import Lexis.Proofs.FileRuns
import Lexis.Proofs.Lines
import Lexis.Proofs.Faults

/-!
# What a run over a file reports

A run over a file lexes it while it writes, and reads the file a second time for the
listing. Lexing a text in memory does neither. Both come to the same: a run over the
encoding of a text reports what lexing the text yields, and lists the lines of the text
if a listing is asked for (`lexFile_of_text`). How a stream cuts the encoding into
pieces does not matter (`lexWith_ofStream_of_encode`).

The listing alone can fail once the source is open. A file is always shown, with
replacement characters where its bytes are no text. A directory can be opened, and the
session over it ends with a fault at the first read; without a listing, that is a
summary like others (`lexFile_listing_extends`). With one, reading the directory again
is an error of the whole run (`lexFile_listing_directory`).
-/

namespace Lexis

set_option autoImplicit false

/-! ## Texts -/

/-- A stream that encodes a text and does not fail delivers what the text does. -/
theorem LineReader.deliver_ofStream_of_encode {stream : ByteStream} {text : String}
    (readable : stream.readable = Utf8.encode text.toList) (unfailing : stream.failure? = none) :
    Source.deliver (ofStream stream) = Source.deliver (ofText text) := by
  have ends : stream.cause? = none := by
    rw [ByteStream.cause?_eq_none_iff, readable, Utf8.remainder_eq_nil_iff]
    exact ⟨(Utf8.decode_encode _).2, unfailing⟩
  rw [deliver_ofStream, deliver_ofText, ends, readable, (Utf8.decode_encode _).1]
  rfl

/-- **Lexing a stream that encodes a text is lexing the text,** however the stream cuts
it into pieces. -/
theorem lexWith_ofStream_of_encode {stream : ByteStream} {text : String}
    (readable : stream.readable = Utf8.encode text.toList) (unfailing : stream.failure? = none)
    (policy : Policy) : lexWith (LineReader.ofStream stream) (.new 0) policy = lex text policy := by
  rw [lex, lexWith_eq_mk, lexWith_eq_mk, Lookahead.outlook_ofSource, Lookahead.outlook_ofSource,
    LineReader.deliver_ofStream_of_encode readable unfailing]

/-- **A run over a file reports what lexing its text yields.** Let the bytes of the file
be the encoding of a text, and let the device take everything. The run succeeds with the
number of tokens, the termination and the diagnostics that lexing the text yields. It
writes a row for each of the tokens, a banner for each of the diagnostics and, if a
listing is asked for, a row for each line of the text behind its number. Any stream that
hands out these bytes and does not fail is lexed to the same. -/
theorem lexFile_of_text {files : Files} {path text : String} {sink : Sink}
    (found : files path = .ok (.file (Utf8.encode text.toList))) (unfailing : sink.Unfailing)
    (options : Options) :
    let output := lex text options.policy
    let run := lexFile files path options sink
    run.result = .ok ⟨output.tokens.length, output.termination, output.diagnostics⟩ ∧
      (∃ rows, InLines text.toList rows ∧
        run.sink.contents = sink.contents ++ bytesOf
          (output.tokens.map (fun token => token.dumpLine ++ "\n") ++
            output.diagnostics.map (fun diagnostic => diagnostic.banner ++ "\n") ++
            if options.listing then
              rows.mapIdx fun index line =>
                fillLeft 3 (toString (index + 1)) ++ ": " ++ String.ofList line ++ "\n"
            else [])) ∧
      ∀ stream : ByteStream, stream.readable = Utf8.encode text.toList →
        stream.failure? = none →
          lexWith (LineReader.ofStream stream) (.new 0) options.policy = output := by
  intro output run
  obtain ⟨result, contents, _⟩ := lexFile_of_file found unfailing options
  rw [Utf8.decodeLossy_encode] at contents
  exact ⟨result, ⟨lines text.toList, inLines_lines _, contents⟩,
    fun stream readable unfailing' => lexWith_ofStream_of_encode readable unfailing' _⟩

/-- A text with both ends of lines that stops at an unknown character, and its bytes in
two pieces, the first of which ends inside a character. -/
theorem lexFile_of_text_unknown_character :
    let text := "\u00E9 = 1\r\n\rif @\r"
    let output := lex text {}
    let run := lexFile (fun _ => .ok (.file (Utf8.encode text.toList))) "program" {} .unbounded
    let pieces : ByteStream := [.bytes [0xC3], .interrupted,
      .bytes ((Utf8.encode text.toList).drop 1)]
    output.tokens.map Token.text = ["\u00E9", "=", "1", "if"] ∧
      run.result = .ok ⟨4, .illegalCharacter, output.diagnostics⟩ ∧
      run.sink.contents = bytesOf (output.tokens.map (fun token => token.dumpLine ++ "\n") ++
        ["******** illegal character: @\n", "  1: \u00E9 = 1\n", "  2: \rif @\r\n"]) ∧
      lexWith (LineReader.ofStream pieces) (.new 0) {} = output := by
  intro text output run pieces
  obtain ⟨result, ⟨rows, inLines, contents⟩, streams⟩ :=
    @lexFile_of_text (fun _ => .ok (.file (Utf8.encode text.toList))) "program" text .unbounded
      rfl ⟨rfl, rfl⟩ {}
  have tokens : output.tokens.map Token.text = ["\u00E9", "=", "1", "if"] := by decide +kernel
  have count : output.tokens.length = 4 := by decide +kernel
  have stopped : output.termination = .illegalCharacter := by decide +kernel
  have banners : output.diagnostics.map (fun diagnostic => diagnostic.banner ++ "\n") =
      ["******** illegal character: @\n"] := by decide +kernel
  have lines' : rows = ["\u00E9 = 1".toList, "\rif @\r".toList] := by
    rw [← inLines_iff.mp inLines]
    decide +kernel
  have fresh : Sink.unbounded.contents = [] := rfl
  rw [show (lex text ({} : Options).policy) = output from rfl, count, stopped] at result
  rw [fresh, List.nil_append, banners, lines', if_pos rfl, List.append_assoc] at contents
  exact ⟨tokens, result, contents, streams pieces (by decide +kernel) rfl⟩

/-! ## Listings -/

/-- A session over a directory hands out no token and ends with a fault. -/
theorem summary_directory (policy : Policy) :
    let session := Session.new (LineReader.ofStream Entry.directory.stream) policy
    (session.drain (.new 0)).summary.tokens = 0 ∧
      (session.drain (.new 0)).summary.termination = .sourceFault := by
  obtain ⟨dangling, uniformDates⟩ := policy
  cases dangling <;> cases uniformDates <;> decide +kernel

/-- **Asking for a listing adds to what a run writes, and changes its result for a
directory alone.** Where the source can be opened and the device takes everything, the
run without a listing succeeds. With a listing it writes the same and then some rows. If
the path leads to a file, it succeeds with the same summary, and the rows are those of
the file as it is shown. If it leads to a directory, no rows follow the banner of the
fault, and that the directory cannot be read is an error of the run. -/
theorem lexFile_listing_extends {files : Files} {path : String} {source : LineReader}
    {sink : Sink} (opened : files.openSource path = .ok source) (unfailing : sink.Unfailing)
    (policy : Policy) :
    let silent := lexFile files path ⟨policy, false⟩ sink
    let listed := lexFile files path ⟨policy, true⟩ sink
    ∃ summary rows, silent.result = .ok summary ∧
      listed.sink.contents = silent.sink.contents ++ bytesOf rows ∧
      ((∃ content, files path = .ok (.file content) ∧ listed.result = .ok summary ∧
          rows = listing (Utf8.decodeLossy content)) ∨
        files path = .ok .directory ∧ summary.tokens = 0 ∧
          summary.termination = .sourceFault ∧
          listed.result = .error (.reading path .directoryRead) ∧ rows = []) := by
  intro silent listed
  obtain ⟨result, contents, _⟩ := lexFile_of_opened opened unfailing ⟨policy, false⟩
  obtain ⟨result', contents', _⟩ := lexFile_of_opened opened unfailing ⟨policy, true⟩
  have quiet : files.listed path ⟨policy, false⟩ = .ok [] := rfl
  rw [quiet] at result contents
  -- The listing comes behind all that the run without it writes.
  have extends' : listed.sink.contents = silent.sink.contents ++
      bytesOf ((files.listed path ⟨policy, true⟩).toOption.getD []) := by
    rw [contents', bytesOf_append, ← List.append_assoc]
    refine congrArg (· ++ _) (contents.trans ?_).symm
    rw [Except.toOption, Option.getD_some, List.append_nil]
  refine ⟨_, _, result, extends', ?_⟩
  obtain ⟨entry, found, rfl⟩ := Files.openSource_eq_ok_iff.mp opened
  cases entry with
  | file content =>
    rw [Files.listed_of_file found, if_pos rfl] at result' ⊢
    exact .inl ⟨content, found, result', rfl⟩
  | directory =>
    rw [Files.listed_of_directory found, if_pos rfl] at result' ⊢
    obtain ⟨nothing, ended⟩ := summary_directory policy
    exact .inr ⟨found, nothing, ended, result', rfl⟩

/-- A file in a directory that stops at a byte which is no character, and is listed. -/
theorem lexFile_listing_extends_broken :
    let files := FileTree.files (.directory [("d", .directory [("f", .file [0x61, 0xFF])])])
    let silent := lexFile files "d/f" ⟨{}, false⟩ .unbounded
    let listed := lexFile files "d/f" ⟨{}, true⟩ .unbounded
    files.openSource "d/f" = .ok (LineReader.ofStream [.bytes [0x61, 0xFF]]) ∧
      Sink.unbounded.Unfailing ∧
      (∃ summary, silent.result = .ok summary ∧ listed.result = .ok summary ∧
        summary.termination = .sourceFault) ∧
      listed.sink.contents = silent.sink.contents ++ bytesOf ["  1: a\uFFFD\n"] := by
  intro files silent listed
  have found : files "d/f" = .ok (.file [0x61, 0xFF]) := by decide +kernel
  have opened : files.openSource "d/f" = .ok (LineReader.ofStream [.bytes [0x61, 0xFF]]) :=
    Files.openSource_eq_ok_iff.mpr ⟨_, found, rfl⟩
  have told : silent.result.map Summary.termination = .ok .sourceFault := by decide +kernel
  have shown : listing (Utf8.decodeLossy [0x61, 0xFF]) = ["  1: a\uFFFD\n"] := by decide +kernel
  have unfailing : Sink.unbounded.Unfailing := ⟨rfl, rfl⟩
  obtain ⟨summary, rows, result, contents, ⟨content, same, result', rows'⟩ | ⟨other, _⟩⟩ :=
    lexFile_listing_extends opened unfailing {}
  · rw [found] at same
    obtain rfl := Entry.file.inj (Except.ok.inj same)
    rw [rows', shown] at contents
    rw [result] at told
    exact ⟨opened, unfailing, ⟨summary, result, result', Except.ok.inj told⟩, contents⟩
  · rw [found] at other
    cases other

/-- **A directory is lexed to a summary, and listed to an error.** -/
theorem lexFile_listing_directory :
    let files := FileTree.files (.directory [("d", .directory [])])
    let silent := lexFile files "d" ⟨{}, false⟩ .unbounded
    let listed := lexFile files "d" ⟨{}, true⟩ .unbounded
    (∃ source, files.openSource "d" = .ok source) ∧ Sink.unbounded.Unfailing ∧
      silent.result = .ok ⟨0, .sourceFault, [⟨.sourceFault,
        "read failed at line 1, column 1: Is a directory (os error 21)", ⟨1, 1⟩⟩]⟩ ∧
      listed.result = .error (.reading "d" .directoryRead) ∧
      listed.sink.contents = silent.sink.contents := by
  intro files silent listed
  have found : files "d" = .ok .directory := by decide +kernel
  exact ⟨⟨_, Files.openSource_eq_ok_iff.mpr ⟨_, found, rfl⟩⟩, ⟨rfl, rfl⟩, by decide +kernel,
    by decide +kernel, by decide +kernel⟩

end Lexis
