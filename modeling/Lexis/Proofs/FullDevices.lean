import Lexis.Proofs.FileRuns

/-!
# Output devices that run full

A device with room for so many bytes keeps that many of what is written to it, in order,
and fails if there are more (`Sink.writeAll_of_room`). It does not matter how the bytes
are divided into texts, nor within which text the room ends.

A run over a file carries out a plan on its device. So a full device cuts the output of
the run and makes an error of its result, and a device that cannot be flushed makes an
error of a success and does nothing else (`lexFile_truncated`). The same cut is made in a
listing that is written by itself.
-/

namespace Lexis

set_option autoImplicit false

namespace Sink

variable {sink : Sink}

/-! ## A bounded room -/

/-- A write takes as much of its room as there is, and fails if that is too little. -/
theorem write_of_room {room : Nat} (bounded : sink.room = some room) (text : String) :
    let bytes := Utf8.encode text.toList
    (sink.write text).1.room = some (room - bytes.length) ∧
      (sink.write text).1.contents = sink.contents ++ bytes.take room ∧
      (sink.write text).2 = if bytes.length ≤ room then none else some full := by
  intro bytes
  by_cases fits : bytes.length ≤ room
  · simp only [write, bounded, if_pos fits, bytes, List.take_of_length_le fits]
    simp [contents]
  · have empty : room - bytes.length = 0 := Nat.sub_eq_zero_of_le (Nat.le_of_not_le fits)
    simp only [write, bounded, if_neg fits, empty, bytes]
    simp [contents]

/-- **A device with room for so many bytes keeps that many,** and fails if there are
more. -/
theorem writeAll_of_room {room : Nat} (bounded : sink.room = some room) (texts : List String) :
    (sink.writeAll texts).1.contents = sink.contents ++ (bytesOf texts).take room ∧
      (sink.writeAll texts).2 = if (bytesOf texts).length ≤ room then none else some full := by
  induction texts generalizing sink room with
  | nil => simp [writeAll, bytesOf]
  | cons text later ih =>
    obtain ⟨left, contents, failure⟩ := write_of_room bounded text
    have whole : bytesOf (text :: later) = Utf8.encode text.toList ++ bytesOf later :=
      List.flatMap_cons
    rw [whole, List.take_append, List.length_append]
    by_cases fits : (Utf8.encode text.toList).length ≤ room
    · rw [if_pos fits] at failure
      obtain ⟨more, last⟩ := ih left
      have rest : (Utf8.encode text.toList).length + (bytesOf later).length ≤ room ↔
          (bytesOf later).length ≤ room - (Utf8.encode text.toList).length := by
        omega
      rw [writeAll_of_none failure, more, contents, List.append_assoc, last]
      exact ⟨rfl, by simp only [rest]⟩
    · -- The room ends within this text, so nothing of the later ones is kept.
      rw [if_neg fits] at failure
      have noRoom : room - (Utf8.encode text.toList).length = 0 := by omega
      rw [writeAll_of_some failure, contents, failure, noRoom, List.take_zero, List.append_nil,
        if_neg (by omega)]
      exact ⟨rfl, rfl⟩

/-! ## Flushing -/

/-- Whether a device can be flushed has no effect on a write. -/
theorem write_flushFails (sink : Sink) (fails : Bool) (text : String) :
    { sink with flushFails := fails }.write text =
      ({ (sink.write text).1 with flushFails := fails }, (sink.write text).2) := by
  unfold write
  cases sink.room with
  | none => rfl
  | some room =>
    dsimp only
    split <;> rfl

theorem writeAll_flushFails (sink : Sink) (fails : Bool) (texts : List String) :
    { sink with flushFails := fails }.writeAll texts =
      ({ (sink.writeAll texts).1 with flushFails := fails }, (sink.writeAll texts).2) := by
  induction texts generalizing sink with
  | nil => rfl
  | cons text later ih =>
    rw [writeAll, writeAll, write_flushFails]
    rcases sink.write text with ⟨after, _ | failure⟩
    · exact ih after
    · rfl

/-- A device that cannot be flushed takes what one that can be takes. -/
theorem writeAll_empty (room : Option Nat) (fails : Bool) (texts : List String) :
    (empty room fails).writeAll texts =
      ({ ((empty room false).writeAll texts).1 with flushFails := fails },
        ((empty room false).writeAll texts).2) :=
  writeAll_flushFails (empty room false) fails texts

/-- What was written does not make flushing fail. -/
theorem flush_writeAll (room : Option Nat) (texts : List String) :
    ((empty room false).writeAll texts).1.flush = none := by
  rw [writeAll_empty]
  rfl

end Sink

/-! ## Runs over files -/

namespace FilePlan

/-- On a device that can be flushed a plan comes to its result, if it has the room. -/
theorem resultOn_of_room (plan : FilePlan) (room : Nat) :
    plan.resultOn (.empty (some room) false) =
      if (bytesOf plan.texts).length ≤ room then plan.result
      else .error (.writing Sink.full) := by
  have bounded : (Sink.empty (some room) false).room = some room := rfl
  have failure := (Sink.writeAll_of_room bounded plan.texts).2
  rw [resultOn]
  by_cases fits : (bytesOf plan.texts).length ≤ room
  · rw [if_pos fits] at failure ⊢
    simp only [failure, Sink.flush_writeAll]
    cases plan.result <;> rfl
  · rw [if_neg fits] at failure ⊢
    simp only [failure]

/-- Where flushing fails, a plan comes to the error of that instead of a success. -/
theorem resultOn_of_flushFails (plan : FilePlan) (room : Option Nat) :
    plan.resultOn (.empty room true) =
      (plan.resultOn (.empty room false)).bind fun _ => .error (.writing Sink.flushFailure) := by
  rw [resultOn, resultOn, Sink.writeAll_empty room true]
  simp only [Sink.flush_writeAll]
  cases ((Sink.empty room false).writeAll plan.texts).2 with
  | some failure => rfl
  | none => cases plan.result <;> rfl

end FilePlan

/-- **A full device cuts what a run over a file writes, and nothing else.** Let a run write
some output where there is no limit. With room for so many bytes it writes as many of these,
the first ones; it comes to the same if they are all of them, and else to the error of the
device; and it tells of the beginning of what it would tell of. Failing to flush turns a
success into an error, whatever the room, and leaves the output as it is. A listing that is
written by itself is cut in the same way. -/
theorem lexFile_truncated (files : Files) (path : String) (options : Options) :
    let whole := lexFile files path options (.empty none false)
    let output := whole.sink.contents
    (∀ room, let run := lexFile files path options (.empty (some room) false)
      run.sink.contents = output.take room ∧
        run.result =
          (if output.length ≤ room then whole.result else .error (.writing Sink.full)) ∧
        run.events <+: whole.events) ∧
      (∀ room, let run := lexFile files path options (.empty room false)
        let unflushed := lexFile files path options (.empty room true)
        unflushed.sink.contents = run.sink.contents ∧
          unflushed.result = run.result.bind fun _ => .error (.writing Sink.flushFailure)) ∧
      ∀ (text : List Char) (flushFails : Bool) (room : Nat),
        let whole := (Sink.empty none flushFails).writeListing text
        let cut := (Sink.empty (some room) flushFails).writeListing text
        whole.2 = none ∧ cut.1.contents = whole.1.contents.take room ∧
          cut.2 = if whole.1.contents.length ≤ room then none else some Sink.full := by
  intro whole output
  have unfailing : (Sink.empty none false).Unfailing := ⟨rfl, rfl⟩
  obtain ⟨written, result, _, told⟩ := lexFile_eq_plan files path options (.empty none false)
  obtain ⟨done, _, contents⟩ := unfailing.writeAll (files.plan path options).texts
  rw [FilePlan.resultOn_of_unfailing unfailing] at result
  have kept : output = bytesOf (files.plan path options).texts :=
    (congrArg Sink.contents written).trans contents
  refine ⟨fun room => ?_, fun room => ?_, fun text flushFails room => ?_⟩
  · obtain ⟨stored, comes, tells, _⟩ :=
      lexFile_eq_plan files path options (.empty (some room) false)
    refine ⟨?_, ?_, ?_⟩
    · rw [stored, kept]
      exact (Sink.writeAll_of_room rfl _).1
    · rw [comes, kept, show whole.result = _ from result, FilePlan.resultOn_of_room]
    · rw [told done]
      exact tells
  · obtain ⟨stored, comes, _⟩ := lexFile_eq_plan files path options (.empty room false)
    obtain ⟨stored', comes', _⟩ := lexFile_eq_plan files path options (.empty room true)
    refine ⟨?_, ?_⟩
    · rw [stored, stored', Sink.writeAll_empty room true]
      rfl
    · rw [comes, comes', FilePlan.resultOn_of_flushFails]
  · intro whole cut
    have wrote : whole = _ := Sink.writeAll_empty none flushFails (listing text)
    obtain ⟨done, _, contents⟩ := unfailing.writeAll (listing text)
    have shown : whole.1.contents = bytesOf (listing text) :=
      (congrArg (·.1.contents) wrote).trans contents
    have bounded : (Sink.empty (some room) flushFails).room = some room := rfl
    obtain ⟨stored, failure⟩ := Sink.writeAll_of_room bounded (listing text)
    rw [shown]
    exact ⟨(congrArg Prod.snd wrote).trans done, stored, failure⟩

/-- A device with room for the row of one token and the text of another. The run ends with the
second token told, and the comment behind it is not reached. -/
example :
    let files : Files := fun _ => .ok (.file (Utf8.encode "n m // rest".toList))
    let whole := lexFile files "a.x" {} (.empty none false)
    let run := lexFile files "a.x" {} (.empty (some 71) false)
    whole.sink.contents.length = 155 ∧
      run.sink.contents = Utf8.encode
        "n           left: 1        right: 1        line: 1        Identifier\nm ".toList ∧
      run.result.toOption = none ∧ run.events = whole.events.take 3 := by
  decide +kernel

end Lexis
