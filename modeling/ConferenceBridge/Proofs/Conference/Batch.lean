import ConferenceBridge.Proofs.Conference.Run
import Mathlib.Data.List.Basic

/-!
# Where a batch of bundles ends

Endpoints are asked for their bundles one after the other until one fails. The first failure cuts
the batch: the endpoints before it have been asked once and their bundles are kept, and those after
it are not asked. Endpoints that were not selected are not asked either, so it makes no difference
whether they would fail.
-/

namespace ConferenceBridge

/-- A batch gets to the end if all endpoints answer. Otherwise it gets to the first one that fails,
which is the last one that is asked, and keeps the bundles of those before it. -/
theorem BundleBatch.collect_cases (ask : Endpoint → Except Failure Description.Bundle)
    (endpoints : List Endpoint) :
    (∃ bundles, endpoints.map ask = bundles.map .ok ∧
      collect ask endpoints = { bundles, asked := endpoints, failed := none }) ∨
    ∃ before endpoint later failure bundles, endpoints = before ++ endpoint :: later ∧
      before.map ask = bundles.map .ok ∧ ask endpoint = .error failure ∧
      collect ask endpoints =
        { bundles, asked := before ++ [endpoint], failed := some (endpoint, failure) } := by
  induction endpoints with
  | nil => exact Or.inl ⟨[], rfl, rfl⟩
  | cons first rest ih =>
    cases hfirst : ask first with
    | error failure =>
      refine Or.inr ⟨[], first, rest, failure, [], rfl, rfl, hfirst, ?_⟩
      simp [collect, hfirst]
    | ok bundle =>
      rcases ih with ⟨bundles, hrest, hcollect⟩ |
        ⟨before, endpoint, later, failure, bundles, rfl, hbefore, hfailure, hcollect⟩
      · refine Or.inl ⟨bundle :: bundles, ?_, ?_⟩
        · rw [List.map_cons, List.map_cons, hfirst, hrest]
        · simp [collect, hfirst, hcollect]
      · refine Or.inr ⟨first :: before, endpoint, later, failure, bundle :: bundles, rfl, ?_,
          hfailure, ?_⟩
        · rw [List.map_cons, List.map_cons, hfirst, hbefore]
        · simp [collect, hfirst, hcollect]

namespace Conference

/-- Selected are the endpoints that take part and have one of the ids. -/
theorem selected_eq (conference : Conference) (ids : List String) :
    conference.selected ids =
      (conference.present.map Prod.snd).filter fun endpoint => endpoint.id ∈ ids := by
  simp only [selected, List.contains_eq_mem]

/-- A batch depends on the selected endpoints and on the channels alone. -/
theorem bundles_congr {conference other : Conference} {ids : List String}
    (hchannels : other.channels = conference.channels)
    (hselected : other.selected ids = conference.selected ids) :
    other.bundles ids = conference.bundles ids := by
  have hask : other.bundle = conference.bundle := by
    funext endpoint
    rw [bundle, bundle, hchannels]
  rw [bundles, bundles, hselected, hask]

end Conference

namespace Bridge

variable {bridge : Bridge} {number : Nat} {record : Description.Conference} {ids : List String}

/-- If no endpoint fails, the record gets all bundles and is the answer. -/
theorem describeBundles_of_answers (hrecord : bridge.records[number]? = some record)
    (hnone : (bridge.conference.bundles ids).failed = none) :
    bridge.describeBundles number ids =
      bridge.replyRecord number
        { record with
          bundles := record.bundles ++ (bridge.conference.bundles ids).bundles } := by
  have hread : bridge.record number = record := by rw [Bridge.record, hrecord, Option.getD_some]
  simp only [describeBundles, hnone, hread]

/-- If an endpoint fails, the record gets the bundles before it, and the failure is the answer. -/
theorem describeBundles_of_failure (hrecord : bridge.records[number]? = some record)
    {endpoint : Endpoint} {failure : Failure}
    (hfailed : (bridge.conference.bundles ids).failed = some (endpoint, failure)) :
    bridge.describeBundles number ids =
      { bridge := bridge.withRecord number
          { record with bundles := record.bundles ++ (bridge.conference.bundles ids).bundles }
        answer := .error failure.toError
        notices := failure.notices endpoint } := by
  have hread : bridge.record number = record := by rw [Bridge.record, hrecord, Option.getD_some]
  simp only [describeBundles, hfailed, hread]

/-- What describing bundles answers, reports and records depends on the batch and the records
alone. -/
theorem describeBundles_congr {other : Bridge} (hrecords : other.records = bridge.records)
    (hbatch : other.conference.bundles ids = bridge.conference.bundles ids) :
    (other.describeBundles number ids).answer = (bridge.describeBundles number ids).answer ∧
      (other.describeBundles number ids).notices = (bridge.describeBundles number ids).notices ∧
      (other.describeBundles number ids).bridge.records =
        (bridge.describeBundles number ids).bridge.records := by
  have hread : other.record number = bridge.record number := by rw [record, record, hrecords]
  simp only [describeBundles, hbatch, hread, replyRecord, reply, withRecord, hrecords]
  cases (bridge.conference.bundles ids).failed <;> exact ⟨rfl, rfl, rfl⟩

end Bridge

/-- Describing the bundles of several ids asks the endpoints that take part under them in order, and
stops at the first one that fails. Each endpoint up to that one is asked once and no other is asked.
The record gets the bundles of the endpoints before it, all bundles if none fails, and nothing else
changes. A failure of a transport becomes an internal error with the failure's text and the failure
as its cause, and is reported once, as a warning. Any other failure is passed on as it is and is not
reported. Endpoints that do not have one of the ids make no difference, whether they fail or not. -/
theorem bundles_up_to_first_failure (bridge : Bridge) {number : Nat}
    {record : Description.Conference} (hrecord : bridge.records[number]? = some record)
    (ids : List String) :
    let selected (conference : Conference) :=
      (conference.present.map Prod.snd).filter fun endpoint => endpoint.id ∈ ids
    let asked (conference : Conference) := (conference.bundles ids).asked
    let reply := bridge.run (.describeBundles number ids)
    (∃ bundles,
      reply.bridge = { bridge with
        records := bridge.records.set number
          { record with bundles := record.bundles ++ bundles } } ∧
      ((selected bridge.conference).map bridge.conference.bundle = bundles.map .ok ∧
          asked bridge.conference = selected bridge.conference ∧
          reply.answer = .ok (.record { record with bundles := record.bundles ++ bundles }) ∧
          reply.notices = [] ∨
        ∃ before endpoint later failure,
          selected bridge.conference = before ++ endpoint :: later ∧
          before.map bridge.conference.bundle = bundles.map .ok ∧
          bridge.conference.bundle endpoint = .error failure ∧
          asked bridge.conference = before ++ [endpoint] ∧
          (∀ fault text, failure = .transport fault text →
            reply.answer = .error
              (.processing ⟨.internalServerError, some text⟩ (some failure)) ∧
            reply.notices = [.descriptionFailed endpoint.id text] ∧
            (reply.notices.map fun notice => Logging.levelName notice.level) = ["WARNING"]) ∧
          ((∀ fault text, failure ≠ .transport fault text) →
            reply.answer = .error (.endpoint failure) ∧ reply.notices = []))) ∧
    ∀ other : Bridge, other.records = bridge.records →
      other.conference.channels = bridge.conference.channels →
      selected other.conference = selected bridge.conference →
      asked other.conference = asked bridge.conference ∧
        (other.run (.describeBundles number ids)).answer = reply.answer ∧
        (other.run (.describeBundles number ids)).notices = reply.notices ∧
        (other.run (.describeBundles number ids)).bridge.records = reply.bridge.records := by
  intro selected asked reply
  have hselected (conference : Conference) : conference.selected ids = selected conference :=
    conference.selected_eq ids
  have hreply : reply = bridge.describeBundles number ids := rfl
  refine ⟨?_, fun other hrecords hchannels hsame => ?_⟩
  · rw [← hselected, hreply]
    rcases BundleBatch.collect_cases bridge.conference.bundle (bridge.conference.selected ids) with
      ⟨bundles, hanswers, hbatch⟩ |
      ⟨before, endpoint, later, failure, bundles, hsplit, hbefore, hfailure, hbatch⟩
    · rw [← Conference.bundles] at hbatch
      have hnone : (bridge.conference.bundles ids).failed = none := by rw [hbatch]
      rw [Bridge.describeBundles_of_answers hrecord hnone, hbatch]
      exact ⟨bundles, rfl, Or.inl ⟨hanswers, congrArg BundleBatch.asked hbatch, rfl, rfl⟩⟩
    · rw [← Conference.bundles] at hbatch
      have hfailed : (bridge.conference.bundles ids).failed = some (endpoint, failure) := by
        rw [hbatch]
      rw [Bridge.describeBundles_of_failure hrecord hfailed, hbatch]
      refine ⟨bundles, rfl, Or.inr ⟨before, endpoint, later, failure, hsplit, hbefore, hfailure,
        congrArg BundleBatch.asked hbatch, ?_, fun hother => ?_⟩⟩
      · rintro fault text rfl
        exact ⟨rfl, rfl, rfl⟩
      · cases failure with
        | transport fault text => exact absurd rfl (hother fault text)
        | uncountable | unexpected => exact ⟨rfl, rfl⟩
  · rw [← hselected, ← hselected] at hsame
    have hbatch := Conference.bundles_congr hchannels hsame
    exact ⟨congrArg BundleBatch.asked hbatch, Bridge.describeBundles_congr hrecords hbatch⟩

/-- The second of three selected endpoints fails without a text. An endpoint that was not selected
would fail before it, and it makes no difference if that one is not there. -/
theorem bundles_up_to_first_failure_without_text :
    let relay : Command :=
      .addIndependent "relay" none none none none (some (.transport .connectionReset ""))
    let intruder : Command :=
      .addIndependent "intruder" none none none none (some (.unexpected "ValueError" "closed"))
    let others : List Command :=
      [.createChannel ⟨0, .audio⟩ "c1" { endpoint := some "alice" }, relay,
        .addIndependent "late" none none none none (some (.unexpected "RuntimeError" "late"))]
    let start : List Command := [.addRecord .empty, .addParticipant "alice" none none]
    let bridge := (Bridge.fresh "meeting" none true).after (start ++ intruder :: others)
    let other := (Bridge.fresh "meeting" none true).after (start ++ others)
    let command : Command := .describeBundles 0 ["late", "relay", "alice"]
    bridge.records[0]? = some .empty ∧ other.records = bridge.records ∧
      other.conference.channels = bridge.conference.channels ∧
      (other.run command).answer = (bridge.run command).answer ∧
      (bridge.run command).answer = .error (.processing ⟨.internalServerError, some ""⟩
        (some (.transport .connectionReset ""))) ∧
      (bridge.run command).bridge.records =
        [{ Description.Conference.empty with bundles := [⟨"alice", ["c1"]⟩] }] := by
  intro relay intruder others start bridge other command
  have hrecord : bridge.records[0]? = some .empty := by decide +kernel
  have hrecords : other.records = bridge.records := by decide +kernel
  have hviews : other.conference.views = bridge.conference.views := by decide +kernel
  have hchannels : other.conference.channels = bridge.conference.channels := by
    funext ref
    rw [Conference.channels, Conference.channels, Conference.content, Conference.content, hviews]
  obtain ⟨_, hothers⟩ :=
    bundles_up_to_first_failure bridge hrecord ["late", "relay", "alice"]
  have hsame := hothers other hrecords hchannels (by decide +kernel)
  exact ⟨hrecord, hrecords, hchannels, hsame.2.1, by decide +kernel, by decide +kernel⟩

end ConferenceBridge
