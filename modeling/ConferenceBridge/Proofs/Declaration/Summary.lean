import ConferenceBridge.Declaration.Summary
import ConferenceBridge.Proofs.Declaration
import ConferenceBridge.Proofs.Json.Grammar
import ConferenceBridge.Proofs.Json.Reading
import ConferenceBridge.Proofs.Schema.Reading

/-!
# Reading back summaries

A declaration in short loses nothing: its text is JSON, and the schema reads the declaration back
from it, because what is left out has its default. The parameters may be listed in any order, as a
map has none.
-/

namespace ConferenceBridge

/-- Feedback is read back from its summary. -/
theorem RtcpFeedback.check_summary (feedback : RtcpFeedback) :
    schema.check feedback.summary = .valid feedback := by
  obtain ⟨type, subtype⟩ := feedback
  cases subtype <;> rfl

namespace PayloadDeclaration

/-- Parameters as an object, in the order in which they are listed. -/
def parameterObject (parameters : List (String × String)) : Json :=
  .object (parameters.map fun entry => (entry.1, .string entry.2))

/-- A declaration in short that lists its parameters in some order. -/
def summaryListing (declaration : PayloadDeclaration) (parameters : List (String × String)) :
    Json :=
  .object <| declaration.summaryMembers.map fun member =>
    (member.1, if member.1 = "parameters" then parameterObject parameters else member.2)

/-- The summary lists the parameters in order of their names. -/
theorem summary_eq_listing (declaration : PayloadDeclaration) :
    declaration.summary = declaration.summaryListing declaration.parameters.entries := by
  unfold summary summaryListing summaryMembers
  split_ifs <;> rfl

/-- What a summary holds under a name, apart from the order of the parameters. -/
@[simp] theorem member?_summaryListing (declaration : PayloadDeclaration)
    (parameters : List (String × String)) (name : String) :
    (declaration.summaryListing parameters).member? name =
      (Json.memberOf? declaration.summaryMembers name).map fun json =>
        if name = "parameters" then parameterObject parameters else json :=
  Json.memberOf?_map (fun name json =>
    if name = "parameters" then parameterObject parameters else json) _ name

/-- The schema reads a declaration within its bounds back from its summary, in whatever order the
parameters are listed. -/
theorem check_summaryListing {declaration : PayloadDeclaration} (h : declaration.InBounds)
    {parameters : List (String × String)} (hperm : parameters.Perm declaration.parameters.entries) :
    schema.check (declaration.summaryListing parameters) = .valid declaration := by
  let members := (declaration.summaryListing parameters).member?
  have hnumber : members "id" = some (.integer declaration.number) := by
    simp [members, summaryMembers]
  have hname : members "name" = some (.string declaration.name) := by
    simp [members, summaryMembers]
  have hclockRate : members "clockrate" =
      if declaration.clockRate = 0 then none else some (.integer declaration.clockRate) := by
    simp [members, summaryMembers]
  have hchannels : members "channels" =
      if declaration.channels = 1 then none else some (.integer declaration.channels) := by
    simp [members, summaryMembers]
  have hparameters : members "parameters" =
      if declaration.parameters.isEmpty then none else some (parameterObject parameters) := by
    cases hempty : declaration.parameters.isEmpty <;> simp [members, summaryMembers, hempty]
  have hfeedback : members "rtcp_feedback" =
      if declaration.feedback.isEmpty then none
      else some (.array (declaration.feedback.map RtcpFeedback.summary)) := by
    simp [members, summaryMembers]
  refine Checked.map_eq_valid_iff.2 ⟨_, Fields.check_cons ?number <| Fields.check_cons ?name <|
    Fields.check_cons ?clockRate <| Fields.check_cons ?channels <| Fields.check_cons ?parameters <|
    Fields.check_one ?feedback, rfl⟩
  case number =>
    have hread := Schema.check_integerBetween h.number.1 h.number.2
    exact (congrArg _ hnumber).trans hread
  case name => exact congrArg _ hname
  case clockRate =>
    have hread := Schema.check_integerFrom h.clockRate
    exact (congrArg _ hclockRate).trans (Field.check_withDefault id fun _ => hread)
  case channels =>
    have hread := Schema.check_integerFrom h.channels
    exact (congrArg _ hchannels).trans (Field.check_withDefault id fun _ => hread)
  case parameters =>
    have hread := Schema.check_textTable hperm
    refine (congrArg _ hparameters).trans
      (Field.check_withDefault (fun hempty => ?_) fun _ => hread)
    exact Table.ext (List.isEmpty_iff.1 hempty)
  case feedback =>
    have hread : Schema.checkItems RtcpFeedback.schema 0
        (declaration.feedback.map RtcpFeedback.summary) = .valid declaration.feedback :=
      Schema.checkItems_map (fun feedback _ => feedback.check_summary) 0
    exact (congrArg _ hfeedback).trans
      (Field.check_withDefault List.isEmpty_iff.1 fun _ => hread)

/-- Texts under names hold no numbers. -/
theorem isFinite_parameterObject (parameters : List (String × String)) :
    (parameterObject parameters).isFinite = true := by
  refine Json.membersFinite_iff.2 fun member hmember => ?_
  obtain ⟨entry, _, rfl⟩ := List.mem_map.1 hmember
  rfl

/-- The numbers in a summary are finite. -/
theorem isFinite_summaryListing (declaration : PayloadDeclaration)
    (parameters : List (String × String)) :
    (declaration.summaryListing parameters).isFinite = true := by
  have hfeedback :
      (Json.array (declaration.feedback.map RtcpFeedback.summary)).isFinite = true := by
    refine Json.itemsFinite_iff.2 fun item hitem => ?_
    obtain ⟨⟨type, subtype⟩, _, rfl⟩ := List.mem_map.1 hitem
    cases subtype <;> rfl
  have hunless : ∀ (omitted : Prop) [Decidable omitted] (name : String) {json : Json},
      json.isFinite = true → ∀ member ∈ (if omitted then [] else [(name, json)]),
        member.2.isFinite = true := by
    intro omitted _ name json hjson member hmember
    split at hmember
    · cases hmember
    · obtain rfl := List.mem_singleton.1 hmember
      exact hjson
  have hmembers : ∀ member ∈ declaration.summaryMembers, member.2.isFinite = true := by
    simp only [summaryMembers, List.forall_mem_append]
    refine ⟨⟨⟨⟨?_, hunless _ _ rfl⟩, hunless _ _ rfl⟩, hunless _ _ ?_⟩, hunless _ _ hfeedback⟩
    · exact List.forall_mem_cons.2 ⟨rfl, List.forall_mem_singleton.2 rfl⟩
    · exact isFinite_parameterObject declaration.parameters.entries
  refine Json.membersFinite_iff.2 fun member hmember => ?_
  obtain ⟨written, hwritten, rfl⟩ := List.mem_map.1 hmember
  dsimp only
  split
  · exact isFinite_parameterObject parameters
  · exact hmembers written hwritten

end PayloadDeclaration

/-- The text of an accepted declaration in short loses nothing, in whatever order it lists the
parameters: it is JSON, from which the schema reads the declaration back, so no other accepted
declaration has the same text. -/
theorem summary_determines_declaration {declaration : PayloadDeclaration}
    (haccepted : PayloadDeclaration.schema.Accepts declaration) :
    declaration.summaryText = (declaration.summaryListing declaration.parameters.entries).write ∧
    ∀ parameters, parameters.Perm declaration.parameters.entries →
      let text := (declaration.summaryListing parameters).write
      Json.IsJson text ∧
      (∃ json, Json.read? text = some json ∧
        PayloadDeclaration.schema.check json = .valid declaration) ∧
      ∀ other listed, PayloadDeclaration.schema.Accepts other →
        listed.Perm other.parameters.entries → (other.summaryListing listed).write = text →
        other = declaration := by
  have hread : ∀ {declaration : PayloadDeclaration} {parameters : List (String × String)},
      PayloadDeclaration.schema.Accepts declaration →
      parameters.Perm declaration.parameters.entries →
      (Json.read? (declaration.summaryListing parameters).write).map
        PayloadDeclaration.schema.check = some (.valid declaration) := by
    intro declaration parameters haccepted hperm
    have hbounds := PayloadDeclaration.schema_ensures.of_accepts haccepted
    rw [Json.read?_write, Option.map_some, PayloadDeclaration.check_summaryListing hbounds hperm]
  refine ⟨congrArg Json.write declaration.summary_eq_listing, fun parameters hperm => ?_⟩
  intro text
  refine ⟨Json.isJson_write (declaration.isFinite_summaryListing parameters),
    Option.map_eq_some_iff.1 (hread haccepted hperm), fun other listed hother hlisted hsame => ?_⟩
  have hvalid := hread hother hlisted
  rw [hsame, hread haccepted hperm] at hvalid
  cases hvalid
  rfl

/-- A retransmission with a name to be escaped and an absent subtype, which lists its parameters
against the order of their names. -/
theorem summary_determines_declaration_escaped :
    let declaration : PayloadDeclaration :=
      { number := 96, name := "r\"t\\x\n\x01", clockRate := 0
        channels := 340282366920938463463374607431768211456
        parameters := .ofList [("apt", "111"), ("rtx-time", "200")]
        feedback := [⟨"nack", none⟩, ⟨"nack", some "pli"⟩] }
    let parameters := [("rtx-time", "200"), ("apt", "111")]
    PayloadDeclaration.schema.Accepts declaration ∧
      parameters.Perm declaration.parameters.entries ∧
      ∃ json, Json.read? (declaration.summaryListing parameters).write = some json ∧
        PayloadDeclaration.schema.check json = .valid declaration := by
  intro declaration parameters
  have haccepted : PayloadDeclaration.schema.Accepts declaration := by
    refine ⟨.object [("id", .integer 96), ("name", .string "r\"t\\x\n\x01"),
      ("channels", .integer 340282366920938463463374607431768211456),
      ("parameters", .object [("apt", .string "111"), ("rtx-time", .string "200")]),
      ("rtcp_feedback", .array [.object [("type", .string "nack"), ("subtype", .null)],
        .object [("type", .string "nack"), ("subtype", .string "pli")]])], rfl⟩
  have hperm : parameters.Perm declaration.parameters.entries := by decide +kernel
  obtain ⟨_, hall⟩ := summary_determines_declaration haccepted
  exact ⟨haccepted, hperm, (hall parameters hperm).2.1⟩

end ConferenceBridge
