import RouteSync.Proofs.Json.Number
import RouteSync.Proofs.Json.Object
import RouteSync.Route.Wire

/-! A mapping reads back from what is written for it, and from every other form of the same: with
its members in another order, with null for what is absent, or without what has its default. -/
namespace RouteSync

open Json

/-- What is left out needs not be read. -/
theorem Json.getD_ite_some {α : Type} {p : Prop} [Decidable p] {a b : α} (h : a ≠ b → p) :
    (if p then some a else none).getD b = a := by
  by_cases hp : p
  · simp [hp]
  · have hab : a = b := by
      by_contra hne
      exact hp (h hne)
    simp [hp, hab]

theorem Json.join_ite_some {α : Type} {p : Prop} [Decidable p] {a : Option α}
    (h : a.isSome → p) : (if p then some a else none).join = a := by
  by_cases hp : p
  · simp [hp]
  · have ha : a = none := by
      by_contra hne
      exact hp (h (Option.isSome_iff_ne_none.2 hne))
    simp [hp, ha]

namespace Tag

def parts (t : Tag) : List Part :=
  [.value "guid" (quote t.guid) (t.guid ≠ ""),
    .value "index" (toString t.index.toNat) (t.index ≠ 0)]

/-- The compact objects that stand for the tag. -/
def Written (t : Tag) (s : String) : Prop := ∃ ms, Spells t.parts ms ∧ s = objectText ms

/-- The tag where the fields of these names have been read. -/
def draft (t : Tag) (names : List String) : TagDraft where
  guid := if "guid" ∈ names then some t.guid else none
  index := if "index" ∈ names then some t.index else none

theorem holds (t : Tag) : shape.Holds t.parts t.draft where
  start := by simp [draft, shape]
  once := by simp [parts]
  fits := by
    unfold shape parts
    dsimp only
    refine .cons (Field.fits_of rfl (takes_quote t.guid) (fun _ => rfl) ?_ ?_) <|
      .cons (Field.fits_of rfl (takes_uint32 t.index) (fun _ => rfl) ?_ ?_) .nil
    all_goals simp [draft]

theorem tag_draft (t : Tag) {names : List String}
    (h : ∀ part ∈ t.parts, part.needed → part.name ∈ names) : (t.draft names).tag = t := by
  simp only [parts, List.forall_mem_cons, Part.name_value, Part.needed_value,
    decide_eq_true_eq] at h
  obtain ⟨hguid, hindex, -⟩ := h
  simp only [draft, TagDraft.tag, getD_ite_some hguid, getD_ite_some hindex]

theorem Written.takes {t : Tag} {s : String} (h : t.Written s) {steps : Nat} (hsteps : 2 ≤ steps) :
    Takes (read steps) s.toList t := by
  obtain ⟨ms, hms, rfl⟩ := h
  have hle : (given ms).length ≤ 2 := hms.length_given_le
  obtain ⟨names, hnames, htakes⟩ := t.holds.takes_objectText hms (Nat.le_trans hle hsteps)
  have htag := htakes.map TagDraft.tag
  rwa [t.tag_draft hnames] at htag

theorem written_json (t : Tag) : t.Written t.json :=
  ⟨_, spells_members (by simp [parts]), rfl⟩

end Tag

namespace Mapping

/-- What an object for the mapping holds, with this text for the tag. -/
def parts (m : Mapping) (tag : String) : List Part := [
  .value "router_group_guid" (quote m.routerGroup) (m.routerGroup ≠ ""),
  .value "port" (toString m.port.toNat) true,
  .value "backend_ip" (quote m.address) true,
  .value "backend_port" (toString m.serverPort.toNat) true,
  .optional "host_tls_port" (m.tlsPort.map fun p => toString p.toInt),
  .optional "instance_id" (m.instanceName.map quote),
  .optional "sni_hostname" (m.host.map quote),
  .value "modification_tag" tag (m.tag ≠ Tag.initial),
  .optional "ttl" (m.ttl.map fun t => toString t.toNat)]

/-- The compact objects that stand for the mapping. -/
def Written (m : Mapping) (s : String) : Prop :=
  ∃ tag ms, m.tag.Written tag ∧ Spells (m.parts tag) ms ∧ s = objectText ms

/-- The mapping where the fields of these names have been read. -/
def draft (m : Mapping) (names : List String) : MappingDraft where
  routerGroup := if "router_group_guid" ∈ names then some m.routerGroup else none
  port := if "port" ∈ names then some m.port else none
  address := if "backend_ip" ∈ names then some m.address else none
  serverPort := if "backend_port" ∈ names then some m.serverPort else none
  tlsPort := if "host_tls_port" ∈ names then some m.tlsPort else none
  instanceName := if "instance_id" ∈ names then some m.instanceName else none
  host := if "sni_hostname" ∈ names then some m.host else none
  tag := if "modification_tag" ∈ names then some m.tag else none
  ttl := if "ttl" ∈ names then some m.ttl else none

theorem holds (m : Mapping) {tag : String} {steps : Nat}
    (htag : Takes (Tag.read steps) tag.toList m.tag) :
    (shape steps).Holds (m.parts tag) m.draft where
  start := by simp [draft, shape]
  once := by simp [parts]
  fits := by
    have htls := takes_getD_null (fun p => (takes_int32 p).optional_toString) m.tlsPort
    have hinstance := takes_getD_null takes_optional_quote m.instanceName
    have hhost := takes_getD_null takes_optional_quote m.host
    have httl := takes_getD_null (fun t => (takes_uint64 t).optional_toString_nat) m.ttl
    unfold shape parts
    dsimp only
    refine .cons (Field.fits_of rfl (takes_quote m.routerGroup) (fun _ => rfl) ?_ ?_) <|
      .cons (Field.fits_of rfl (takes_uint32 m.port) (fun _ => rfl) ?_ ?_) <|
      .cons (Field.fits_of rfl (takes_quote m.address) (fun _ => rfl) ?_ ?_) <|
      .cons (Field.fits_of rfl (takes_uint32 m.serverPort) (fun _ => rfl) ?_ ?_) <|
      .cons (Field.fits_of rfl htls (fun _ => rfl) ?_ ?_) <|
      .cons (Field.fits_of rfl hinstance (fun _ => rfl) ?_ ?_) <|
      .cons (Field.fits_of rfl hhost (fun _ => rfl) ?_ ?_) <|
      .cons (Field.fits_of rfl htag (fun _ => rfl) ?_ ?_) <|
      .cons (Field.fits_of rfl httl (fun _ => rfl) ?_ ?_) .nil
    all_goals simp [draft]

theorem mapping_draft (m : Mapping) {tag : String} {names : List String}
    (h : ∀ part ∈ m.parts tag, part.needed → part.name ∈ names) : (m.draft names).mapping = m := by
  simp only [parts, List.forall_mem_cons, Part.name_value, Part.needed_value, Part.name_optional,
    Part.needed_optional, decide_eq_true_eq, Option.isSome_map] at h
  obtain ⟨hgroup, hport, haddress, hserver, htls, hinstance, hhost, htag, httl, -⟩ := h
  have hgiven : "port" ∈ names ∧ "backend_ip" ∈ names ∧ "backend_port" ∈ names :=
    ⟨hport trivial, haddress trivial, hserver trivial⟩
  simp [draft, MappingDraft.mapping, hgiven, getD_ite_some hgroup, join_ite_some htls,
    join_ite_some hinstance, join_ite_some hhost, getD_ite_some htag, join_ite_some httl]

theorem Written.ofJson?_eq {m : Mapping} {s : String} (h : m.Written s) : ofJson? s = .ok m := by
  obtain ⟨tag, ms, htag, hms, rfl⟩ := h
  have hlength : (signs (objectText ms)).length = (objectText ms).toList.length :=
    List.length_map _
  have hlt := length_given_lt ms
  have hgiven : (given ms).length ≤ (signs (objectText ms)).length := by omega
  have htwo : 2 ≤ (signs (objectText ms)).length := by omega
  obtain ⟨names, hnames, htakes⟩ := (m.holds (htag.takes htwo)).takes_objectText hms hgiven
  have hmapping := htakes.map MappingDraft.mapping
  rw [m.mapping_draft hnames] at hmapping
  exact hmapping.document_eq

theorem written_json (m : Mapping) : m.Written m.json :=
  ⟨m.tag.json, _, m.tag.written_json, spells_members (by simp [parts]), rfl⟩

theorem ofJson?_json (m : Mapping) : ofJson? m.json = .ok m := m.written_json.ofJson?_eq

/-- A text of a mapping, written anew. -/
def rewritten? (s : String) : Option String := (ofJson? s).toOption.map json

theorem rewritten?_eq {m : Mapping} {s : String} (h : ofJson? s = .ok m) :
    rewritten? s = some m.json := by
  rw [rewritten?, h]
  rfl

/-- Every mapping has one text, which reads back as the mapping. All texts of the mapping are
rewritten to it, and only they are; among them are those with other members for the same. -/
theorem json_round_trip (m : Mapping) :
    ofJson? m.json = .ok m ∧ rewritten? m.json = some m.json ∧
      (∀ s, ofJson? s = .ok m ↔ rewritten? s = some m.json) ∧
      ∀ s, m.Written s → ofJson? s = .ok m := by
  have hread := m.ofJson?_json
  refine ⟨hread, rewritten?_eq hread, fun s => ⟨rewritten?_eq, fun hs => ?_⟩,
    fun s => Written.ofJson?_eq⟩
  obtain ⟨m', hm', hjson⟩ := Option.map_eq_some_iff.1 hs
  have hs' : ofJson? s = .ok m' := by
    cases h : ofJson? s with
    | error fault =>
      rw [h] at hm'
      cases hm'
    | ok found =>
      rw [h] at hm'
      rw [Option.some.inj hm']
  have hread' := m'.ofJson?_json
  rw [hjson, hread] at hread'
  rw [hs', Except.ok.inj hread']

example :
    rewritten? "\x7b \"backend_port\":2, \"port\":1, \"ttl\":null, \"backend_ip\":\"a\" \x7d" =
      some ("\x7b\"router_group_guid\":\"\",\"port\":1,\"backend_ip\":\"a\",\"backend_port\":2," ++
        "\"modification_tag\":\x7b\"guid\":\"\",\"index\":0\x7d\x7d") := by decide +kernel

/-- Numbers at their limits, and characters that need escapes. -/
def extreme : Mapping where
  routerGroup := ""
  port := 4294967295
  address := "a\"\\\x01"
  serverPort := 0
  tlsPort := some (-2147483648)
  instanceName := none
  host := some "é\n"
  tag := ⟨"", 7⟩
  ttl := some 18446744073709551615

/-- The members in another order, null for a name that is absent, and neither a group nor the first
half of the tag. -/
theorem extreme_read_back :
    ∃ s, extreme.Written s ∧ ofJson? s = .ok extreme ∧ s ≠ extreme.json := by
  let tag : List Member := [member "index" "7"]
  let ms : List Member := [
    member "ttl" "18446744073709551615",
    member "sni_hostname" (quote "é\n"),
    member "modification_tag" (objectText tag),
    member "instance_id" "null",
    member "host_tls_port" "-2147483648",
    member "backend_port" "0",
    member "backend_ip" (quote "a\"\\\x01"),
    member "port" "4294967295"]
  have htag : extreme.tag.Written (objectText tag) :=
    ⟨tag, ⟨by decide, by decide +kernel, by decide +kernel⟩, rfl⟩
  have hwritten : extreme.Written (objectText ms) :=
    ⟨objectText tag, ms, htag, ⟨by decide, by decide +kernel, by decide +kernel⟩, rfl⟩
  exact ⟨objectText ms, hwritten, extreme.json_round_trip.2.2.2 _ hwritten, by decide⟩

end Mapping
end RouteSync
