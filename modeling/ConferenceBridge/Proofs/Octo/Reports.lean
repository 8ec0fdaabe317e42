import ConferenceBridge.Proofs.Declaration.Summary
import ConferenceBridge.Proofs.Json.Lines
import ConferenceBridge.Proofs.Octo.Sequence
import ConferenceBridge.Proofs.RecordKind.Stability

/-!
# Reports of a reconciliation

What a reconciliation reports under its own name: that the relay is torn down, or the relays that
are set and then each declaration that is not usable. Relays and declarations hold texts from
outside. Each report stays on one line all the same, and the line about the relays tells exactly
which relays the two channels list together.
-/

namespace ConferenceBridge

/-- Whether a line is a wording of a notice: its message, or the one that lists the parameters of a
declaration in another order, as a map has none. -/
def Notice.WordedAs (notice : Notice) (line : String) : Prop :=
  line = notice.message ∨
    ∃ declaration parameters, notice = .unrecognized declaration ∧
      parameters.Perm declaration.parameters.entries ∧
      line = "Unrecognized payload type " ++ (declaration.summaryListing parameters).write

/-- Both channels are validated just if each of them is. -/
theorem OctoChannel.validateBoth_eq_ok_iff {audioJson videoJson : Json}
    {audio video : OctoChannel} :
    validateBoth audioJson videoJson = .ok (audio, video) ↔
      schema.check audioJson = .valid audio ∧ schema.check videoJson = .valid video := by
  have hread : ∀ {json : Json} {channel : OctoChannel},
      RecordKind.octoChannel.validate json = .ok channel ↔ schema.check json = .valid channel :=
    RecordKind.validate_eq_ok_iff
  rw [← hread, ← hread, validateBoth]
  constructor
  · intro h
    cases haudio : RecordKind.octoChannel.validate audioJson with
    | error => simp [haudio, bind, Except.bind] at h
    | ok =>
      cases hvideo : RecordKind.octoChannel.validate videoJson with
      | error => simp [haudio, hvideo, bind, Except.bind] at h
      | ok =>
        rw [haudio, hvideo] at h
        cases h
        exact ⟨rfl, rfl⟩
  · rintro ⟨haudio, hvideo⟩
    rw [haudio, hvideo]
    rfl

/-- The line about relays lists them. -/
theorem Notice.message_settingRelays (relays : RelaySet) :
    (Notice.settingRelays relays).message =
      "Setting octo relays: " ++ Text.quotedList relays.toList := rfl

namespace Octo

open Text

/-- The relays that a channel lists as it was written, in their order and with repetitions. -/
def listedRelays (channel : Json) : List String :=
  (((channel.member? "relays").bind Json.items?).getD []).filterMap Json.text?

/-- The lines about relays that are set. -/
def relayLines (notices : List Notice) : List String :=
  notices.filterMap fun
    | .settingRelays relays => some (Notice.settingRelays relays).message
    | _ => none

/-! ### Reports on one line -/

/-- A report of a declaration stays on one line, whatever is written for the declaration. -/
theorem isLine_unrecognized (summary : Json) :
    IsLine ("Unrecognized payload type " ++ summary.write).toList := by
  have hstart : IsLine "Unrecognized payload type ".toList := by decide +kernel
  rw [String.toList_append]
  exact List.forall_mem_append.2 ⟨hstart, Json.isLine_write summary⟩

/-- A report of relays stays on one line, whatever their names are. -/
theorem isLine_settingRelays (relays : RelaySet) :
    IsLine (Notice.settingRelays relays).message.toList := by
  have hstart : IsLine "Setting octo relays: ".toList := by decide +kernel
  rw [Notice.message_settingRelays, String.toList_append]
  exact List.forall_mem_append.2 ⟨hstart, (prints_quotedList relays.toList).isLine⟩

/-- What is reported under the name of the reconciliation stays on one line. -/
theorem isLine_of_source {notice : Notice} (hsource : notice.source = "videobridge.services.octo")
    {line : String} (hline : notice.WordedAs line) : IsLine line.toList := by
  obtain rfl | ⟨declaration, parameters, rfl, _, rfl⟩ := hline
  · -- The other notices are reported by the tentacle and by the conference.
    cases notice with
    | tearingDown =>
      have htext : IsLine "Octo channels expired, tearing down relay".toList := by decide +kernel
      exact htext
    | settingRelays relays => exact isLine_settingRelays relays
    | unrecognized declaration => exact isLine_unrecognized declaration.summary
    | tentacleExpired | descriptionFailed | unknownEndpoint => simp [Notice.source] at hsource
  · exact isLine_unrecognized (declaration.summaryListing parameters)

/-! ### Listed relays -/

/-- Texts are read as they are. -/
theorem filterMap_text?_of_checkItems {items : List Json} {index : Nat} {texts : List String}
    (h : Schema.checkItems Schema.text index items = .valid texts) :
    items.filterMap Json.text? = texts := by
  induction items generalizing index texts with
  | nil =>
    cases h
    rfl
  | cons item items ih =>
    obtain ⟨⟨text, others⟩, hparts, rfl⟩ := Checked.map_eq_valid_iff.1 h
    obtain ⟨htext, hothers⟩ := Checked.both_eq_valid_iff.1 hparts
    cases item with
    | string value =>
      cases htext
      rw [List.filterMap_cons, ih hothers]
      rfl
    | _ => cases htext

/-- A channel has the relays that it lists. -/
theorem relays_eq_ofList_listedRelays {json : Json} {channel : OctoChannel}
    (h : OctoChannel.schema.check json = .valid channel) :
    channel.relays = .ofList (listedRelays json) := by
  have hchecked : RecordKind.octoChannel.schema.check json = .valid channel := h
  obtain ⟨members, rfl, hfields⟩ := RecordKind.exists_members_of_valid hchecked
  obtain ⟨⟨id, expire, relays, others⟩, hparts, rfl⟩ := Checked.map_eq_valid_iff.1 hfields
  obtain ⟨_, hparts⟩ := Checked.both_eq_valid_iff.1 hparts
  obtain ⟨_, hparts⟩ := Checked.both_eq_valid_iff.1 hparts
  obtain ⟨hrelays, _⟩ := Checked.both_eq_valid_iff.1 hparts
  have hread : (Field.withDefault "relays" .relays RelaySet.empty).check
      (Json.memberOf? members "relays") = .valid relays := Checked.under_eq_valid_iff.1 hrelays
  have hlisted : listedRelays (.object members) =
      (((Json.memberOf? members "relays").bind Json.items?).getD []).filterMap Json.text? := rfl
  cases hmember : Json.memberOf? members "relays" with
  | none =>
    rw [hmember] at hread hlisted
    cases hread
    rw [hlisted]
    rfl
  | some value =>
    rw [hmember] at hread hlisted
    cases value with
    | array items =>
      obtain ⟨texts, htexts, hset⟩ := Checked.map_eq_valid_iff.1 hread
      have hitems : listedRelays (.object members) = texts :=
        hlisted.trans (filterMap_text?_of_checkItems htexts)
      rw [hitems]
      exact hset.symm
    | _ => cases hread

/-- The relays that are set are those that the channels list together. -/
theorem mem_mergedRelays {audioJson videoJson : Json} {audio video : OctoChannel}
    (h : OctoChannel.validateBoth audioJson videoJson = .ok (audio, video)) (relay : String) :
    relay ∈ (mergedRelays audio video).toList ↔
      relay ∈ listedRelays audioJson ++ listedRelays videoJson := by
  obtain ⟨haudio, hvideo⟩ := OctoChannel.validateBoth_eq_ok_iff.1 h
  rw [mergedRelays, RelaySet.mem_toList_union, relays_eq_ofList_listedRelays haudio,
    relays_eq_ofList_listedRelays hvideo, RelaySet.mem_toList_ofList, RelaySet.mem_toList_ofList,
    List.mem_append]

/-! ### The line about relays -/

/-- A reconciliation that tears the relay down sets no relays. -/
theorem relayLines_of_tearsDown (conference : String) (tentacle : Tentacle)
    {audio video : OctoChannel} (hdown : tearsDown audio video = true) :
    relayLines (reconcile conference tentacle audio video).notices = [] := by
  have hnotices : (reconcile conference tentacle audio video).notices =
      .tearingDown :: tentacle.noticesOf conference .expire := by
    rw [reconcile, events, if_pos hdown]
    rfl
  rw [hnotices, Tentacle.noticesOf]
  split <;> rfl

/-- Any other reconciliation tells once which relays are set. -/
theorem relayLines_of_lasting (conference : String) (tentacle : Tentacle)
    {audio video : OctoChannel} (hlasting : tearsDown audio video = false) :
    relayLines (reconcile conference tentacle audio video).notices =
      ["Setting octo relays: " ++ quotedList (mergedRelays audio video).toList] := by
  have hwarnings : relayLines ((unusableDeclarations audio video).map .unrecognized) = [] := by
    rw [relayLines, List.filterMap_map]
    exact List.filterMap_eq_nil_iff.2 fun _ _ => rfl
  rw [reconcile_notices_eq_picked conference tentacle hlasting,
    ← Notice.message_settingRelays]
  exact congrArg (List.cons _) hwarnings

/-- Lines about relays are the same just if the sets are. -/
theorem relayLine_inj {left right : RelaySet}
    (h : "Setting octo relays: " ++ quotedList left.toList =
      "Setting octo relays: " ++ quotedList right.toList) : left = right := by
  have hchars := congrArg String.toList h
  rw [String.toList_append, String.toList_append] at hchars
  have hlists := quotedList_inj (String.toList_inj.1 (List.append_cancel_left hchars))
  exact RelaySet.ext_mem fun relay => by rw [hlists]

/-- What a reconciliation of two validated channels reports under its own name stays on one line,
whatever texts the channels hold, and also if a declaration lists its parameters in another order.
Unless the relay is torn down there is one line about relays, and it lists in ascending order what
the channels list together. Two reconciliations agree on this line just if the same relays are
listed, in whatever order, however often, and by whichever of the two channels. -/
theorem reconcile_reports (conference : String) (tentacle : Tentacle) {audioJson videoJson : Json}
    {audio video : OctoChannel}
    (hvalid : OctoChannel.validateBoth audioJson videoJson = .ok (audio, video)) :
    (∀ notice ∈ (reconcile conference tentacle audio video).notices,
      notice.source = "videobridge.services.octo" →
      ∀ line, notice.WordedAs line → ∀ c ∈ line.toList, 0x20 ≤ c.toNat) ∧
    (tearsDown audio video = true →
      relayLines (reconcile conference tentacle audio video).notices = []) ∧
    (tearsDown audio video = false → ∃ relays : List String, relays.Pairwise (· < ·) ∧
      (∀ relay, relay ∈ relays ↔ relay ∈ listedRelays audioJson ++ listedRelays videoJson) ∧
      relayLines (reconcile conference tentacle audio video).notices =
        ["Setting octo relays: " ++ quotedList relays]) ∧
    ∀ otherConference otherTentacle otherAudioJson otherVideoJson otherAudio otherVideo,
      OctoChannel.validateBoth otherAudioJson otherVideoJson = .ok (otherAudio, otherVideo) →
      tearsDown audio video = false → tearsDown otherAudio otherVideo = false →
      (relayLines (reconcile conference tentacle audio video).notices =
          relayLines (reconcile otherConference otherTentacle otherAudio otherVideo).notices ↔
        ∀ relay, relay ∈ listedRelays audioJson ++ listedRelays videoJson ↔
          relay ∈ listedRelays otherAudioJson ++ listedRelays otherVideoJson) := by
  refine ⟨fun notice _ hsource line hline => isLine_of_source hsource hline,
    relayLines_of_tearsDown conference tentacle, fun hlasting => ?_,
    fun otherConference otherTentacle otherAudioJson otherVideoJson otherAudio otherVideo hother
      hlasting hotherLasting => ?_⟩
  · exact ⟨(mergedRelays audio video).toList, (mergedRelays audio video).ascending_toList,
      mem_mergedRelays hvalid, relayLines_of_lasting conference tentacle hlasting⟩
  · rw [relayLines_of_lasting conference tentacle hlasting,
      relayLines_of_lasting otherConference otherTentacle hotherLasting]
    constructor
    · intro hlines relay
      have hsame := relayLine_inj (List.cons.inj hlines).1
      rw [← mem_mergedRelays hvalid, hsame, mem_mergedRelays hother]
    · intro hlisted
      have hsame : mergedRelays audio video = mergedRelays otherAudio otherVideo :=
        RelaySet.ext_mem fun relay =>
          (mem_mergedRelays hvalid relay).trans
            ((hlisted relay).trans (mem_mergedRelays hother relay).symm)
      rw [hsame]

/-- Line ends and other controls in the name of a relay and all over a declaration, and the same
relays divided and repeated in another way. -/
theorem reconcile_reports_with_line_ends :
    let audioJson : Json := .object [
      ("expire", .integer 60),
      ("relays", .array [.string "b\nINFO", .string "a'", .string "b\nINFO"]),
      ("payload_types", .array [.object [("id", .integer 96), ("name", .string "x\r\n\x00"),
        ("parameters", .object [("a\n", .string "\x1b"), ("z", .string "\n")]),
        ("rtcp_feedback", .array [.object [("type", .string "na\nck")]])]])]
    let videoJson : Json := .object [
      ("expire", .integer 30), ("relays", .array [.string "c\x7f"])]
    let barren : Json := .object [("expire", .integer 5)]
    let crowded : Json := .object [
      ("expire", .integer 1),
      ("relays", .array [.string "c\x7f", .string "a'", .string "b\nINFO", .string "a'"])]
    let declaration : PayloadDeclaration :=
      { number := 96, name := "x\r\n\x00", clockRate := 0, channels := 1
        parameters := .ofList [("a\n", "\x1b"), ("z", "\n")], feedback := [⟨"na\nck", none⟩] }
    let audio : OctoChannel :=
      { id := none, expire := 60, relays := .ofList ["a'", "b\nINFO"], extensions := [],
        payloadTypes := [declaration], sources := [], groups := [] }
    let video : OctoChannel :=
      { audio with expire := 30, relays := .ofList ["c\x7f"], payloadTypes := [] }
    let silent : OctoChannel := { video with expire := 5, relays := .empty }
    let loud : OctoChannel :=
      { video with expire := 1, relays := .ofList ["a'", "b\nINFO", "c\x7f"] }
    let reported := (reconcile "meeting" .fresh audio video).notices
    OctoChannel.validateBoth audioJson videoJson = .ok (audio, video) ∧
      OctoChannel.validateBoth barren crowded = .ok (silent, loud) ∧
      .unrecognized declaration ∈ reported ∧
      (∀ c ∈ (Notice.unrecognized declaration).message.toList, 0x20 ≤ c.toNat) ∧
      relayLines reported = ["Setting octo relays: [\"a'\", 'b\\nINFO', 'c\\x7f']"] ∧
      relayLines reported = relayLines (reconcile "other" .fresh silent loud).notices := by
  have hnames : ∀ relay, relay ∈ ["b\nINFO", "a'", "b\nINFO", "c\x7f"] ↔
      relay ∈ ["c\x7f", "a'", "b\nINFO", "a'"] := by
    intro relay
    simp only [List.mem_cons, List.not_mem_nil, or_false]
    tauto
  intro audioJson videoJson barren crowded declaration audio video silent loud reported
  have hvalid : OctoChannel.validateBoth audioJson videoJson = .ok (audio, video) := rfl
  have hother : OctoChannel.validateBoth barren crowded = .ok (silent, loud) := rfl
  have hreported : .unrecognized declaration ∈ reported := by decide +kernel
  obtain ⟨hlines, _, _, hsame⟩ := reconcile_reports "meeting" .fresh hvalid
  exact ⟨hvalid, hother, hreported,
    hlines _ hreported rfl _ (Or.inl rfl), by decide +kernel,
    (hsame "other" .fresh barren crowded silent loud hother rfl rfl).2 hnames⟩

end Octo

end ConferenceBridge
