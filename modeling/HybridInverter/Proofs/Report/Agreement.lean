import HybridInverter.Json
import HybridInverter.Proofs.Response.Written
import HybridInverter.Response.Basic
import Mathlib.Data.List.Nodup

/-!
What is shown does not depend on the way it is shown. Putting entries with distinct keys into an
object loses none and moves none; so the text of a reply in JSON is that of its value, which has an
entry for each item of the record, and several replies at once are shown each as it is shown by
itself.
-/
namespace HybridInverter

namespace Json

theorem put_of_not_mem {key : String} (value : Json) {entries : List (String × Json)}
    (h : key ∉ entries.map Prod.fst) : put key value entries = entries ++ [(key, value)] := by
  induction entries with
  | nil => rfl
  | cons entry entries ih =>
    have hkeys : key ≠ entry.1 ∧ key ∉ entries.map Prod.fst := by simpa using h
    simp [put, Ne.symm hkeys.1, ih hkeys.2]

theorem foldl_put (before : List (String × Json)) {entries : List (String × Json)}
    (h : ((before ++ entries).map Prod.fst).Nodup) :
    entries.foldl (fun o e => put e.1 e.2 o) before = before ++ entries := by
  induction entries generalizing before with
  | nil => simp
  | cons entry entries ih =>
    -- the first entry joins those in front of the rest
    have hsplit : before ++ entry :: entries = before ++ [entry] ++ entries := by simp
    have hnew : entry.1 ∉ before.map Prod.fst := by
      rw [List.map_append, List.nodup_append'] at h
      exact fun hmem => h.2.2 hmem (by simp)
    rw [hsplit] at h ⊢
    rw [List.foldl_cons, put_of_not_mem entry.2 hnew, ih _ h]

/-- No entry is lost when no key is repeated. -/
theorem ofEntries_of_nodup {entries : List (String × Json)} (h : (entries.map Prod.fst).Nodup) :
    ofEntries entries = .object entries := by
  have hput := foldl_put [] h
  rw [ofEntries, hput, List.nil_append]

def printEntry (entry : String × Json) : List Char :=
  string entry.1.toList ++ ':' :: print entry.2

theorem printEntries_eq (entries : List (String × Json)) :
    printEntries entries = [','].intercalate (entries.map printEntry) := by
  induction entries with
  | nil => rfl
  | cons entry entries ih =>
    cases entries with
    | nil => simp [printEntries, printEntry]
    | cons next rest => simp [printEntries, printEntry, ih]

theorem toList_render_object (entries : List (String × Json)) :
    (render (.object entries)).toList =
      '\x7b' :: [','].intercalate (entries.map printEntry) ++ ['\x7d'] := by
  rw [render, String.toList_ofList, print, printEntries_eq]

end Json

namespace Query

theorem mem_all (q : Query) : q ∈ all := by
  cases q <;> decide

theorem name_injective : Function.Injective name := by
  intro q q' h
  have hnodup : (all.map name).Nodup := by decide +kernel
  exact List.inj_on_of_nodup_map hnodup (mem_all q) (mem_all q') h

theorem string_name (q : Query) : Json.string q.name.toList = '"' :: q.name.toList ++ ['"'] := by
  have hall : ∀ q ∈ all, Json.string q.name.toList = '"' :: q.name.toList ++ ['"'] := by
    decide +kernel
  exact hall q (mem_all q)

end Query

namespace Report

theorem Item.toJson_false (i : Item) : i.toJson false = i.value.toJson := by
  cases hunit : i.unit <;> simp [Item.toJson, hunit]

theorem Item.toJson_true (i : Item) : i.toJson true = i.unit.elim i.value.toJson
    fun u => .array [i.value.toJson, .text (String.ofList u.symbol)] := by
  cases hunit : i.unit <;> simp [Item.toJson, hunit]

theorem itemsToJson_of_nodup {items : List Item} (h : (items.map Item.key).Nodup)
    (withUnits : Bool) : itemsToJson withUnits items =
      .object (items.map fun i => (i.key, i.toJson withUnits)) := by
  apply Json.ofEntries_of_nodup
  have hkeys : (items.map fun i => (i.key, i.toJson withUnits)).map Prod.fst =
      items.map Item.key := by simp
  rwa [hkeys]

theorem renderItems_of_isJson {f : Format} (h : f.isJson) (items : List Item) :
    renderItems f items = (itemsToJson (f == .jsonWithUnits) items).render := by
  cases f with
  | json | jsonWithUnits => rfl
  | table | parsableTable => simp [Format.isJson] at h

end Report

namespace Response

open Report

theorem bareNumbers?_of_query {r : Response} (h : r.query ≠ .maxChargingCurrents)
    (h' : r.query ≠ .maxAcChargingCurrents) : r.bareNumbers? = none := by
  cases r with
  | maxChargingCurrents => exact absurd rfl h
  | maxAcChargingCurrents => exact absurd rfl h'
  | _ => rfl

/-- The keys of a record are those of any other of its kind. -/
theorem keys_eq {r : Response} (h : r.bareNumbers? = none) :
    r.items.map Item.key = (decode r.query []).items.map Item.key := by
  cases r with
  | maxChargingCurrents | maxAcChargingCurrents => simp [bareNumbers?] at h
  | _ => rfl

theorem nodup_keys {r : Response} (h : r.bareNumbers? = none) : (r.items.map Item.key).Nodup := by
  have hall : ∀ q ∈ Query.all, ((decode q []).items.map Item.key).Nodup := by decide +kernel
  -- what has been received has no part in the keys, so that an empty payload stands for any
  rw [keys_eq h]
  exact hall _ (Query.mem_all _)

theorem toJson_eq_object {r : Response} (h : r.bareNumbers? = none) (withUnits : Bool) :
    r.toJson withUnits = .object (r.items.map fun i => (i.key, i.toJson withUnits)) := by
  rw [toJson, h, ← itemsToJson_of_nodup (nodup_keys h)]

theorem render_of_isJson {f : Format} (h : f.isJson) (r : Response) :
    r.render f = (r.toJson (f == .jsonWithUnits)).render := by
  cases hbare : r.bareNumbers? with
  | some ns => simp [render, toJson, hbare, h]
  | none => simp [render, toJson, hbare, renderItems_of_isJson h]

/-- A reply under its name, as it stands in the text of an object. -/
def named (f : Format) (result : Query × Response) : List Char :=
  '"' :: result.1.name.toList ++ '"' :: ':' :: (result.2.render f).toList

theorem printEntry_result {f : Format} (h : f.isJson) (result : Query × Response) :
    Json.printEntry (result.1.name, result.2.toJson (f == .jsonWithUnits)) = named f result := by
  rw [Json.printEntry, named, Query.string_name, render_of_isJson h, Json.render,
    String.toList_ofList]
  simp

theorem renderAll_of_isJson {f : Format} (h : f.isJson) {results : List (Query × Response)}
    (hdistinct : (results.map Prod.fst).Nodup) :
    renderAll f results = (Json.object
      (results.map fun r => (r.1.name, r.2.toJson (f == .jsonWithUnits)))).render := by
  have hkeys : (results.map fun r => (r.1.name, r.2.toJson (f == .jsonWithUnits))).map Prod.fst =
      (results.map Prod.fst).map Query.name := by simp
  rw [renderAll, if_pos h, Json.ofEntries_of_nodup]
  rw [hkeys]
  exact hdistinct.map Query.name_injective

theorem toList_renderAll {f : Format} (h : f.isJson) {results : List (Query × Response)}
    (hdistinct : (results.map Prod.fst).Nodup) : (renderAll f results).toList =
      '\x7b' :: [','].intercalate (results.map (named f)) ++ ['\x7d'] := by
  have hentries : named f = fun r : Query × Response =>
      Json.printEntry (r.1.name, r.2.toJson (f == .jsonWithUnits)) := by
    funext r
    rw [printEntry_result h]
  rw [renderAll_of_isJson h hdistinct, Json.toList_render_object, List.map_map, hentries]
  rfl

/-- A reply in JSON is the text of its value; that of a record has one entry for each item, in
their order, and units only turn the value of an item that has one into a pair. Several replies to
distinct queries are an object with just these texts under the names of the queries; in a table each
stands as it does alone behind a heading with the name, and an empty line divides them. -/
theorem outputs_show_the_same :
    (∀ (r : Response) (f : Format), f.isJson →
      r.render f = (r.toJson (f == .jsonWithUnits)).render) ∧
    (∀ r : Response, r.query ≠ .maxChargingCurrents → r.query ≠ .maxAcChargingCurrents →
      (r.items.map Item.key).Nodup ∧
      r.toJson false = .object (r.items.map fun i => (i.key, i.value.toJson)) ∧
      r.toJson true = .object (r.items.map fun i => (i.key, i.unit.elim i.value.toJson
        fun u => .array [i.value.toJson, .text (String.ofList u.symbol)]))) ∧
    ∀ results : List (Query × Response), (results.map Prod.fst).Nodup →
      (∀ f : Format, f.isJson →
        renderAll f results = (Json.object
          (results.map fun r => (r.1.name, r.2.toJson (f == .jsonWithUnits)))).render ∧
        (renderAll f results).toList =
          '\x7b' :: [','].intercalate (results.map (named f)) ++ ['\x7d']) ∧
      ∀ f : Format, f.isJson = false → renderAll f results =
        "\n\n".intercalate (results.map fun r => "[" ++ r.1.name ++ "]\n" ++ r.2.render f) := by
  refine ⟨fun r f h => render_of_isJson h r, fun r h h' => ?_,
    fun results h => ⟨fun f hf => ⟨renderAll_of_isJson hf h, toList_renderAll hf h⟩, ?_⟩⟩
  · have hbare := bareNumbers?_of_query h h'
    simp only [toJson_eq_object hbare, Item.toJson_false, Item.toJson_true]
    exact ⟨nodup_keys hbare, trivial, trivial⟩
  · intro f hf
    simp only [renderAll, hf, Bool.false_eq_true, if_false]
    rfl

def parallelUnit : Response :=
  .parallelRatedInformation ⟨⟨1⟩, 2, "AB", ⟨0⟩, 60, 30, ⟨0⟩⟩

/-- Two currents of the unit are shown in amperes, and two replies stand together. -/
theorem outputs_show_the_same_unit :
    let results := [(Query.protocolId, protocolId 18), (.dayGenerated, dayGenerated 4500)]
    Format.jsonWithUnits.isJson ∧ Format.table.isJson = false ∧
      parallelUnit.query ≠ .maxChargingCurrents ∧ parallelUnit.query ≠ .maxAcChargingCurrents ∧
      (results.map Prod.fst).Nodup ∧
      parallelUnit.render .jsonWithUnits = (parallelUnit.toJson true).render ∧
      parallelUnit.toJson true = .object [("parallel_id_connection_status", .text "Existent"),
        ("serial_number", .text "AB"), ("charger_source_priority", .text "Solar-First"),
        ("max_charging_current", .array [.int 60, .text "A"]),
        ("max_ac_charging_current", .array [.int 30, .text "A"]),
        ("output_model_setting", .text "Single module")] ∧
      (renderAll .jsonWithUnits results).toList =
        "\x7b\"protocol_id\":\x7b\"id\":18\x7d,\"day_generated\":\x7b\"wh\":4500\x7d\x7d".toList ∧
      renderAll .table results = "[protocol_id]\nProtocol ID: 18\n\n[day_generated]\nWh: 4500" := by
  have hdistinct : ([(Query.protocolId, protocolId 18),
      (.dayGenerated, dayGenerated 4500)].map Prod.fst).Nodup := by decide
  have hquery : parallelUnit.query ≠ .maxChargingCurrents := by decide
  have hquery' : parallelUnit.query ≠ .maxAcChargingCurrents := by decide
  obtain ⟨htext, hentries, hall⟩ := outputs_show_the_same
  obtain ⟨hjson, htable⟩ := hall _ hdistinct
  refine ⟨rfl, rfl, hquery, hquery', hdistinct, htext parallelUnit .jsonWithUnits rfl,
    (hentries parallelUnit hquery hquery').2.2.trans rfl, (hjson .jsonWithUnits rfl).2.trans ?_,
    (htable .table rfl).trans ?_⟩
  · decide +kernel
  · decide +kernel

end Response

end HybridInverter
