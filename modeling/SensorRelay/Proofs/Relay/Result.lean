import SensorRelay.Proofs.Reading.Record
import SensorRelay.Proofs.Relay.Conclusion
import SensorRelay.Proofs.Relay.Course
import Mathlib.Data.List.Permutation

/-! # The result of a relay

A relay from one file into another one writes every reading of its input once, whatever the order in
which its threads take their steps. Each consumer writes its share in the order of the input, and
the shares are interleaved.
-/

namespace SensorRelay.Relay

/-- The readings of some bytes that are to be written. -/
def keptOf (content : List UInt8) : List Reading :=
  (Record.readings content).filter fun r => r.id != 0

/-- Every whole record is kept, or it carries the id of the marker. -/
theorem length_keptOf_add (content : List UInt8) :
    (keptOf content).length + (Record.readings content).countP Reading.isEndOfStream =
      content.length / Record.size := by
  have kept : (keptOf content).length =
      (Record.readings content).countP fun r => ¬r.isEndOfStream := by
    rw [keptOf, ← List.countP_eq_length_filter]
    refine List.countP_congr fun r _ => ?_
    simp [Reading.isEndOfStream, Reading.endOfStreamId]
  have whole :=
    List.length_eq_countP_add_countP Reading.isEndOfStream (l := Record.readings content)
  rw [kept, ← Record.length_readings, whole, Nat.add_comm]

/-- What a relay of `content` comes to: its report, the share of each consumer, and what was written
in the end. The readings that this is about are those whose records are the whole blocks of eighteen
bytes in `content`. -/
structure Relayed (settings : Settings) (content : List UInt8) (report : RelayReport)
    (shares : List (List Reading)) (written : List Reading) : Prop where
  restored : (Record.readings content).flatMap Record.encode =
    content.take (18 * (content.length / 18))
  inserted : report.producer.inserted = (keptOf content).length
  dropped : report.producer.dropped = (Record.readings content).countP fun r => r.id == 0
  records : report.producer.inserted + report.producer.dropped = content.length / Record.size
  sourceErrors :
    report.producer.sourceErrors = if content.length % Record.size = 0 then 0 else 1
  markers : report.producer.markers = settings.markers
  leftover : report.leftover = report.producer.markers
  count : shares.length = settings.consumers
  delivered : report.consumers.map ConsumerReport.delivered = shares.map List.length
  total : report.delivered = report.producer.inserted
  smooth : ∀ consumer ∈ report.consumers, consumer.sinkFailures = 0 ∧ consumer.removeFailures = 0
  divided : Interleaves shares (keptOf content)
  interleaved : Interleaves shares written
  ordered : ∀ share ∈ shares, share.Sublist (keptOf content) ∧ share.Sublist written
  once : written.Perm (keptOf content)
  alone : settings.consumers = 1 → written = keptOf content

variable {settings : Settings} {files : Files.System} {channel : Option Log.Channel}
  {place target : Files.Place} {content old base : List UInt8}

/-- A run whose files are open starts on its course. -/
private theorem onCourse_start (input output : Files.Handle)
    (found : files.find? input.place = some (.file content)) (begins : input.offset = 0)
    (atEnd : output.AtEnd files base)
    (logged : channel.bind (·.place? files) ≠ some input.place ∧
      channel.bind (·.place? files) ≠ some output.place) :
    (Run.start settings files input output channel).OnCourse settings input.place output.place
      content base := by
  obtain ⟨ledger, flow⟩ := Flow.start settings (elementsOf content)
  refine ⟨elementsOf content, ledger, {
    follows := {
      input := rfl
      output := rfl
      intact := found
      bound := Nat.zero_le _
      atEnd := ?atEnd
      logged }
    reads := ⟨fun _ => ⟨[], Device.Source.holds_empty, rfl, ?ahead⟩, nofun⟩
    flow := { flow with } }⟩
  case atEnd =>
    change output.AtEnd files (base ++ [])
    rwa [List.append_nil]
  case ahead =>
    change elementsOf content = (Record.stream 0 (content.drop input.offset)).map drawn
    rw [begins, List.drop_zero, elementsOf]

/-- A run from a file that is there into one that can be written starts, and it is on its course. -/
private theorem onCourse_of_start?
    (located : files.locate settings.input = .ok (place, .file content))
    (claimed : files.claim settings.output = .ok (target, old)) (apart : place ≠ target)
    (logged : channel.bind (·.place? files) ≠ some place ∧
      channel.bind (·.place? files) ≠ some target) :
    ∃ first, start? settings files channel = .ok first ∧
      first.OnCourse settings place target content (if settings.append then old else []) := by
  let output : Files.Handle := { place := target, appends := settings.append }
  let opened := files.put target (.file (if settings.append then old else []))
  have elsewhere := Files.System.find?_of_claim claimed
  have starts : start? settings files channel =
      .ok (.start settings opened { place } output channel) := by
    simp only [start?, Files.System.openInput, Files.System.openOutput, located, claimed,
      Except.ok_map, opened, output]
  have found : opened.find? place = some (.file content) :=
    (Files.System.find?_put_of_ne apart _).trans (Files.System.find?_of_locate located)
  have log : channel.bind (·.place? opened) = channel.bind (·.place? files) :=
    Option.bind_congr fun c _ => Log.Channel.place?_of_sameDirectories (.put elsewhere _) c
  rw [← log] at logged
  exact ⟨_, starts, onCourse_start { place } output found rfl (.opened elsewhere _ _) logged⟩

/-- The report of a relay that has done all that it had to, and what its consumers have written. -/
private theorem relayed_of_complete {ahead : List (Drawn Reading)} {ledger : Ledger}
    {w : World LineSink Reading} (flow : Flow settings (elementsOf content) ahead ledger w)
    (complete : Complete settings (elementsOf content) ledger w) :
    Relayed settings content
      ⟨.unrefused settings (elementsOf content), ledger.consumers.map Consumer.report,
        settings.markers⟩
      (shares settings.consumers ledger.written) (ledger.written.map Prod.snd) := by
  have kept : (elementsOf content).filterMap Drawn.kept? = keptOf content :=
    filterMap_kept?_elementsOf content
  have inserted : (ProducerReport.unrefused settings (elementsOf content)).inserted =
      (keptOf content).length := congrArg List.length kept
  have dropped : (ProducerReport.unrefused settings (elementsOf content)).dropped =
      (Record.readings content).countP Reading.isEndOfStream :=
    countP_isReserved_elementsOf content
  have bounded : ∀ entry ∈ ledger.taken ++ ledger.written, entry.1 < settings.consumers :=
    flow.count ▸ flow.downstream.bounded
  have divided : Interleaves (shares settings.consumers ledger.written) (keptOf content) := by
    rw [← kept, ← complete.taken, ← complete.moved]
    exact interleaves_shares fun entry listed => bounded entry (List.mem_append_left _ listed)
  have interleaved :
      Interleaves (shares settings.consumers ledger.written) (ledger.written.map Prod.snd) :=
    interleaves_shares fun entry listed => bounded entry (List.mem_append_right _ listed)
  have delivered : (ledger.consumers.map Consumer.report).map ConsumerReport.delivered =
      (shares settings.consumers ledger.written).map List.length := by
    rw [← complete.delivered, List.map_map]
    rfl
  refine {
    restored := Record.flatMap_encode_readings content
    inserted
    dropped
    records := ?records
    sourceErrors := countP_isFailure_elementsOf content
    markers := rfl
    leftover := rfl
    count := length_shares _ _
    delivered
    total := ?total
    smooth := ?smooth
    divided
    interleaved
    ordered := fun share listed => ⟨divided.sublist listed, interleaved.sublist listed⟩
    once := interleaved.perm.trans divided.perm.symm
    alone := fun alone => interleaved.eq_of_length divided ((length_shares _ _).trans alone) }
  case records => rw [inserted, dropped, length_keptOf_add]
  case total =>
    rw [RelayReport.delivered, delivered, ← List.length_flatten, ← divided.perm.length_eq, inserted]
  case smooth =>
    intro consumer listed
    obtain ⟨c, here, rfl⟩ := List.mem_map.mp listed
    exact (complete.consumers c here).2

/-- What a run on its course comes to when it ends. -/
private theorem relayed_of_onCourse {first last : Run} {result : Except RelayFault RelayReport}
    (apart : place ≠ target) (someone : 1 ≤ settings.consumers)
    (onCourse : first.OnCourse settings place target content base)
    (ends : first.Ends result last) :
    ∃ report shares written, result = .ok report ∧
      Relayed settings content report shares written ∧
      last.files.find? place = some (.file content) ∧
      last.files.find? target = some (.file (base ++ written.flatMap Reading.line)) := by
  obtain ⟨middle, final, before, waited, after, done, rfl, rfl⟩ := ends
  obtain ⟨_, _, begun⟩ := onCourse.turns apart someone before
  -- The producer was joined in the middle of the run, but its report is that of the end.
  have joined := concludeProducer_of_flow begun.flow waited
  rw [joined] at after ⊢
  obtain ⟨ahead, ledger, course⟩ := (onCourse.turns apart someone before).turns apart someone after
  have ended : ∀ task ∈ final.world.tasks, task.hasEnded := by
    intro task listed
    obtain ⟨thread, here, rfl⟩ := List.mem_map.mp listed
    exact (Bool.and_eq_true_iff.mp (done thread here)).1
  have complete := course.flow.complete someone ended
  obtain ⟨report, sink⟩ := concludeRun_of_complete course.flow complete
    (.unrefused settings (elementsOf content))
  let world := (concludeRun (.ok (.unrefused settings (elementsOf content))) final.world).2
  have same : Run.accepted { final with world } = final.accepted := by
    rw [Run.accepted, Run.accepted, sink]
  have accepted : Run.accepted { final with world } =
      (ledger.written.map Prod.snd).flatMap Reading.line := by
    rw [same, course.accepted, List.flatMap_map]
  have follows : Run.Follows place target content base { final with world } :=
    course.follows.of_prefix (same ▸ List.prefix_rfl) final.times
  refine ⟨_, _, _, report, relayed_of_complete course.flow complete,
    (follows.follow apart).intact, ?_⟩
  rw [← accepted]
  exact follows.output_follow apart

/-- A relay from one file into another one, which the log does not go to, always comes to the same
result, whatever the order in which its threads take their steps: all readings of the input are
written once, and each consumer writes its share in order. -/
theorem relayed_of_ends (located : files.locate settings.input = .ok (place, .file content))
    (claimed : files.claim settings.output = .ok (target, old)) (apart : place ≠ target)
    (logged : channel.bind (·.place? files) ≠ some place ∧
      channel.bind (·.place? files) ≠ some target)
    (someone : 1 ≤ settings.consumers) :
    ∃ first, start? settings files channel = .ok first ∧
      ∀ result last, first.Ends result last →
        ∃ report shares written, result = .ok report ∧
          Relayed settings content report shares written ∧
          last.files.find? place = some (.file content) ∧
          last.files.find? target = some (.file
            ((if settings.append then old else []) ++ written.flatMap Reading.line)) := by
  obtain ⟨first, starts, onCourse⟩ := onCourse_of_start? located claimed apart logged
  exact ⟨first, starts, fun _ _ ends => relayed_of_onCourse apart someone onCourse ends⟩

/-- The records of two readings around one that carries the id of the marker, and one byte more. -/
private def sampleContent : List UInt8 :=
  [7, 0, 0, 0, 0, 0, 0, 0, 0xf0, 0x3f, 5, 0, 0, 0, 0, 0, 0, 0,
    0, 0, 0, 0, 0, 0, 0, 0, 0, 0, 6, 0, 0, 0, 0, 0, 0, 0,
    8, 0, 0, 0, 0, 0, 0, 0, 0, 0x40, 7, 0, 0, 0, 0, 0, 0, 0,
    1]

private def sampleFiles : Files.System :=
  { nodes := [(["in"], .file sampleContent), (["out"], .file [65])] }

private def sampleSettings : Settings where
  input := "in"
  output := "out"
  append := true
  consumers := 2
  termination := .sentinel
  produceDelay := .ofMilliseconds 0
  consumeDelay := .ofMilliseconds 0
  retry := .standard
  logLimit := .upTo .info
  logFormat := .text
  logFile := none
  color := none

/-- Two consumers write the two readings that are kept of the sample after what the output holds, in
one order or the other. -/
theorem relayed_of_ends_sample :
    ∃ first, start? sampleSettings sampleFiles none = .ok first ∧
      (∃ result last, first.Ends result last) ∧
      ∀ result last, first.Ends result last →
        (∃ report, result = .ok report ∧ report.producer = ⟨2, 1, 1, 2⟩ ∧ report.delivered = 2 ∧
          report.leftover = 2) ∧
        last.files.find? ["in"] = some (.file sampleContent) ∧
        (last.files.find? ["out"] = some (.file "A7,1.00,5\n8,2.00,7\n".toUTF8.data.toList) ∨
          last.files.find? ["out"] = some (.file "A8,2.00,7\n7,1.00,5\n".toUTF8.data.toList)) := by
  let input : Files.Handle := { place := ["in"] }
  let output : Files.Handle := { place := ["out"], appends := true }
  let opened := sampleFiles.put ["out"] (.file [65])
  let begun : Run := .start sampleSettings opened input output none
  have located : sampleFiles.locate sampleSettings.input = .ok (["in"], .file sampleContent) := by
    decide +kernel
  have claimed : sampleFiles.claim sampleSettings.output = .ok (["out"], [65]) := by
    decide +kernel
  have logged : (none : Option Log.Channel).bind (·.place? sampleFiles) ≠ some ["in"] ∧
      (none : Option Log.Channel).bind (·.place? sampleFiles) ≠ some ["out"] := ⟨nofun, nofun⟩
  obtain ⟨first, starts, all⟩ := relayed_of_ends located claimed (by decide) logged (by decide)
  have same : start? sampleSettings sampleFiles none = .ok begun := by rfl
  obtain rfl : begun = first := Except.ok.inj (same.symm.trans starts)
  have ends : begun.Ends (begun.finish 3).1 (begun.finish 3).2 :=
    Run.ends_of_finish rfl rfl (by decide +kernel) (by decide +kernel)
  have kept : keptOf sampleContent =
      [⟨7, ⟨0x3ff0000000000000⟩, 5⟩, ⟨8, ⟨0x4000000000000000⟩, 7⟩] := by decide +kernel
  have reserved : ((Record.readings sampleContent).countP fun r => r.id == 0) = 1 := by
    decide +kernel
  refine ⟨begun, starts, ⟨_, _, ends⟩, fun result last ends => ?_⟩
  obtain ⟨report, shares, written, rfl, relayed, inputAfter, outputAfter⟩ := all result last ends
  have inserted : report.producer.inserted = 2 := by rw [relayed.inserted, kept]; rfl
  have markers : report.producer.markers = 2 := relayed.markers
  refine ⟨⟨report, rfl, ?_, relayed.total.trans inserted, relayed.leftover.trans markers⟩,
    inputAfter, ?_⟩
  · have dropped := relayed.dropped.trans reserved
    have failed : report.producer.sourceErrors = 1 := relayed.sourceErrors
    obtain ⟨⟨_, _, _, _⟩, _, _⟩ := report
    simp only at inserted dropped failed markers
    rw [inserted, dropped, failed, markers]
  · rw [outputAfter]
    have orders := relayed.once
    rw [kept] at orders
    obtain rfl | rfl := List.perm_pair.mp orders
    · exact .inl (by decide +kernel)
    · exact .inr (by decide +kernel)

end SensorRelay.Relay
