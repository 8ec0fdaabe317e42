import ConferenceBridge.Proofs.RecordKind.Place
import ConferenceBridge.Proofs.Schema.Reading

/-!
# Faults of parts

The faults of a list, a set or a map are those of its items or entries, one after the other, each
seen from one step further outside. If the parts are reached by different steps and have their
faults at different places, then so has the whole.
-/

namespace ConferenceBridge

namespace Schema

variable {α : Type}

/-- The faults of items are those of one item after the other, each under the index of its item. -/
theorem faults_checkItems (schema : Schema α) (index : Nat) (items : List Json) :
    (checkItems schema index items).faults =
      (items.zipIdx index).flatMap fun item =>
        (schema.check item.1).faults.map (Fault.under (.index item.2)) := by
  induction items generalizing index with
  | nil => rfl
  | cons item rest ih =>
    rw [checkItems, Checked.faults_map, Checked.faults_both, Checked.faults_under, ih,
      List.zipIdx_cons, List.flatMap_cons]

/-- The faults of entries are those of one entry after the other, each under the key of its
entry. -/
theorem faults_checkEntries (schema : Schema α) (entries : List (String × Json)) :
    (checkEntries schema entries).faults =
      entries.flatMap fun entry =>
        (schema.check entry.2).faults.map (Fault.under (.key entry.1)) := by
  induction entries with
  | nil => rfl
  | cons entry rest ih =>
    rw [checkEntries, Checked.faults_map, Checked.faults_both, Checked.faults_under, ih,
      List.flatMap_cons]

/-- The faults of a list are those of its items in order. -/
theorem faults_list (schema : Schema α) (items : List Json) :
    (schema.list.check (.array items)).faults =
      items.zipIdx.flatMap fun item =>
        (schema.check item.1).faults.map (Fault.under (.index item.2)) :=
  faults_checkItems schema 0 items

/-- The faults of a set of relays are those of the listed relays in order. -/
theorem faults_relays (items : List Json) :
    (relays.check (.array items)).faults =
      items.zipIdx.flatMap fun item =>
        (text.check item.1).faults.map (Fault.under (.index item.2)) :=
  (Checked.faults_map _ _).trans (faults_checkItems text 0 items)

/-- The faults of a map are those of its entries in order of their keys. -/
theorem faults_textTable (members : List (String × Json)) :
    (textTable.check (.object members)).faults =
      (Table.ofList members).entries.flatMap fun entry =>
        (text.check entry.2).faults.map (Fault.under (.key entry.1)) :=
  (Checked.faults_map _ _).trans (faults_checkEntries text _)

end Schema

/-! ### Where faults are found -/

/-- A fault is found at a place. Either the place is a part of the value, or a field is missing, and
then the place of its record is an object without the field. -/
structure Fault.Addresses (fault : Fault) (json : Json) (requires : Place → String → Prop) :
    Prop where
  /-- What is not missing is a part of the value. -/
  found : fault.cause ≠ .missing → ∃ part, json.at? fault.place = some part
  /-- What is missing is required of an object that lacks it. -/
  lacking : fault.cause = .missing → ∃ record name members, fault.place = record ++ [.name name] ∧
    json.at? record = some (.object members) ∧ Json.memberOf? members name = none ∧
    requires record name

/-- The faults of a value are found at different places, each of them as it should be. -/
structure Addressed (json : Json) (requires : Place → String → Prop) (faults : List Fault) :
    Prop where
  /-- No two faults are reported at one place. -/
  distinct : (faults.map Fault.place).Nodup
  /-- Each fault is found where it is reported. -/
  addresses : ∀ fault ∈ faults, fault.Addresses json requires

/-- A fault of a part is one of the whole. -/
theorem Fault.Addresses.under {fault : Fault} {json part : Json} {requires : Place → String → Prop}
    {step : Step} (h : fault.Addresses part fun record => requires (step.mark :: record))
    (hpart : json.into? step.mark = some part) : (fault.under step).Addresses json requires where
  found hcause := by
    obtain ⟨inside, hinside⟩ := h.found hcause
    exact ⟨inside, by rw [place_under, Json.at?_cons, hpart, Option.bind_some, hinside]⟩
  lacking hcause := by
    obtain ⟨record, name, members, hplace, hrecord, hmember, hrequires⟩ := h.lacking hcause
    refine ⟨step.mark :: record, name, members, ?_, ?_, hmember, hrequires⟩
    · rw [place_under, hplace, List.cons_append]
    · rw [Json.at?_cons, hpart, Option.bind_some, hrecord]

/-- A fault may be told of more fields that are required. -/
theorem Fault.Addresses.mono {fault : Fault} {json : Json}
    {requires demands : Place → String → Prop} (h : fault.Addresses json requires)
    (hrequires : ∀ record name, requires record name → demands record name) :
    fault.Addresses json demands where
  found := h.found
  lacking hcause := by
    obtain ⟨record, name, members, hplace, hrecord, hmember, hrequired⟩ := h.lacking hcause
    exact ⟨record, name, members, hplace, hrecord, hmember, hrequires record name hrequired⟩

namespace Addressed

variable {json : Json} {requires : Place → String → Prop}

/-- Where there are no faults, none has to be found. -/
theorem nil : Addressed json requires [] where
  distinct := List.nodup_nil
  addresses := nofun

/-- A single fault of the whole value. -/
theorem root {cause : Cause} (h : cause ≠ .missing) : Addressed json requires [⟨[], cause⟩] where
  distinct := List.nodup_singleton _
  addresses fault hfault := by
    obtain rfl := List.mem_singleton.1 hfault
    exact ⟨fun _ => ⟨json, rfl⟩, fun hcause => absurd hcause h⟩

/-- A single field that is missing. -/
theorem missing {name : String} {members : List (String × Json)}
    (habsent : Json.memberOf? members name = none) (hrequired : requires [] name) :
    Addressed (.object members) requires [⟨[.field name], .missing⟩] where
  distinct := List.nodup_singleton _
  addresses fault hfault := by
    obtain rfl := List.mem_singleton.1 hfault
    exact ⟨fun hcause => absurd rfl hcause,
      fun _ => ⟨[], name, members, rfl, rfl, habsent, hrequired⟩⟩

/-- Faults may be told of more fields that are required. -/
theorem mono {demands : Place → String → Prop} {faults : List Fault}
    (h : Addressed json requires faults)
    (hrequires : ∀ record name, requires record name → demands record name) :
    Addressed json demands faults where
  distinct := h.distinct
  addresses fault hfault := (h.addresses fault hfault).mono hrequires

/-- The faults of a part are faults of the whole, seen from one step further outside. -/
theorem under {part : Json} {step : Step} {faults : List Fault}
    (h : Addressed part (fun record => requires (step.mark :: record)) faults)
    (hpart : json.into? step.mark = some part) :
    Addressed json requires (faults.map (Fault.under step)) where
  distinct := by
    have hmarked : (faults.map (Fault.under step)).map Fault.place =
        (faults.map Fault.place).map (step.mark :: ·) := by
      rw [List.map_map, List.map_map]
      rfl
    rw [hmarked]
    exact h.distinct.map (List.cons_injective)
  addresses fault hfault := by
    obtain ⟨inner, hinner, rfl⟩ := List.mem_map.1 hfault
    exact (h.addresses inner hinner).under hpart

/-- Parts that are reached by different steps have their faults at different places. -/
theorem flatMap {β : Type} {parts : List β} {step : β → Step} {faults : β → List Fault}
    (hsteps : (parts.map fun part => (step part).mark).Nodup)
    (hparts : ∀ part ∈ parts,
      Addressed json requires ((faults part).map (Fault.under (step part)))) :
    Addressed json requires
      (parts.flatMap fun part => (faults part).map (Fault.under (step part))) := by
  induction parts with
  | nil => exact nil
  | cons part rest ih =>
    rw [List.map_cons, List.nodup_cons] at hsteps
    obtain ⟨hpart, hrest⟩ := List.forall_mem_cons.1 hparts
    have hlater := ih hsteps.2 hrest
    rw [List.flatMap_cons]
    constructor
    · rw [List.map_append, List.nodup_append]
      refine ⟨hpart.distinct, hlater.distinct, ?_⟩
      -- The two places begin with the marks of different parts.
      intro place hplace other hother hsame
      simp only [List.mem_map, List.mem_flatMap] at hplace hother
      obtain ⟨_, ⟨fault, _, rfl⟩, rfl⟩ := hplace
      obtain ⟨_, ⟨next, hnext, fault', _, rfl⟩, rfl⟩ := hother
      have hmark : (step part).mark = (step next).mark := (List.cons.inj hsame).1
      exact hsteps.1 (List.mem_map.2 ⟨next, hnext, hmark.symm⟩)
    · intro fault hfault
      exact (List.mem_append.1 hfault).elim (hpart.addresses fault) (hlater.addresses fault)

end Addressed

end ConferenceBridge
