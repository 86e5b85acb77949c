import Mathlib.Data.List.Nodup
import SchemaDecl.Proofs.Definition.Keys
import SchemaDecl.Proofs.Document.Names
import SchemaDecl.Proofs.Json.RoundTrip
import SchemaDecl.Proofs.Json.Writing

/-! Documents that were read from JSON: every name is a text and stands once, as does every key of a
property, and all examples are data as JSON holds it. -/

namespace SchemaDecl

namespace Value

theorem IsJson.fieldOf {entries : List (Value × Value)} (h : IsJson (.map entries)) {key : String}
    {v : Value} (hv : Value.fieldOf key entries = some v) : v.IsJson := by
  have hall := (isJson_map_iff.1 h).2
  clear h
  induction entries with
  | nil => cases hv
  | cons e entries ih =>
    obtain ⟨k, w⟩ := e
    obtain ⟨⟨⟨s, hs⟩, hw⟩, hrest⟩ := List.forall_mem_cons.1 hall
    obtain rfl : k = .text s := hs
    rw [Value.fieldOf] at hv
    split at hv
    · cases hv
      exact hw
    · exact ih hv hrest

end Value

namespace Document

/-- The names of a document tell its definitions apart, and the definitions are plain. -/
structure Plain (d : Document) : Prop where
  textual : d.Textual
  nodup : d.names.Nodup
  definitions : ∀ e ∈ d.entries, e.2.Plain

theorem Plain.of_sublist {d d' : Document} (h : d'.Plain) (hs : d.entries.Sublist d'.entries) :
    d.Plain where
  textual e he := h.textual e (hs.subset he)
  nodup := h.nodup.sublist (hs.map Prod.fst)
  definitions e he := h.definitions e (hs.subset he)

/-- The document stands in some text in JSON. -/
def FromJson (d : Document) : Prop :=
  ∃ text v, Json.read text = .ok v ∧ ofValue v = .ok d

/-- What is made of texts alone stands in the text that is written of it. -/
theorem fromJson_of_ofTexts {v : Value} (hv : v.OfTexts) {d : Document} (h : ofValue v = .ok d) :
    d.FromJson := by
  obtain ⟨t, ht, -⟩ := Json.exists_writeAt_spells Json.legible_record hv 0
  have hgap : Json.Gap "".toList := by simp [Json.Gap]
  exact ⟨_, v, (Json.read_of_write Json.legible_record hv ht hgap).1, h⟩

theorem isJson_orEmpty {v : Option Value} (h : ∀ w, v = some w → w.IsJson) : (orEmpty v).IsJson := by
  have hempty : (Value.map []).IsJson := .map (by simp) .nil (by simp)
  unfold orEmpty
  split
  · split
    · exact h _ rfl
    · exact hempty
  · exact hempty

theorem isJson_section? {v w : Value} (hv : v.IsJson) (hw : section? v = .ok w) : w.IsJson := by
  obtain ⟨wrapped, -, h⟩ := bind_eq_ok hw
  cases wrapped with
  | false =>
    cases h
    exact hv
  | true =>
    cases hv with
    | @map entries hk hn hj =>
      have hc : (orEmpty (Value.fieldOf "components" entries)).IsJson :=
        isJson_orEmpty fun w hw => (Value.IsJson.map hk hn hj).fieldOf hw
      rw [if_pos rfl] at h
      dsimp only at h
      split at h
      next inner hi =>
        rw [hi] at hc
        cases h
        exact isJson_orEmpty fun w hw => hc.fieldOf hw
      next => cases h
    | _ => cases h

/-- Data without circles is left as it is. -/
theorem unrolledDocument_eq {v : Value} (h : v.IsJson) : Definition.unrolledDocument v = v := by
  unfold Definition.unrolledDocument
  rw [h.isCircular_eq_false]
  rfl

/-- The entries of a document are those of a mapping, decoded one by one. -/
theorem decodeEntries_eq_ok {entries : List (Value × Value)} {es : List (Name × Definition)}
    (h : decodeEntries entries = .ok es) :
    es.map Prod.fst = (entries.map Prod.fst).map Name.ofValue ∧
      ∀ e ∈ es, ∃ x ∈ entries, Definition.decode x.2 = .ok e.2 := by
  induction entries generalizing es with
  | nil =>
    cases h
    exact ⟨rfl, by simp⟩
  | cons x entries ih =>
    obtain ⟨k, v⟩ := x
    rw [decodeEntries] at h
    split at h
    next => cases h
    next y hy =>
      obtain ⟨es', hes, rfl⟩ := map_eq_ok h
      obtain ⟨hn, hd⟩ := ih hes
      refine ⟨by rw [List.map_cons, List.map_cons, List.map_cons, hn], ?_⟩
      rw [List.forall_mem_cons]
      refine ⟨⟨(k, v), List.mem_cons_self, hy⟩, fun e he => ?_⟩
      obtain ⟨x, hx, hxd⟩ := hd e he
      exact ⟨x, List.mem_cons_of_mem _ hx, hxd⟩

theorem plain_of_decodeEntries {entries : List (Value × Value)} (hv : (Value.map entries).IsJson)
    {es : List (Name × Definition)} (h : decodeEntries entries = .ok es) : Plain ⟨es⟩ := by
  obtain ⟨hn, hd⟩ := decodeEntries_eq_ok h
  obtain ⟨hk, hall⟩ := Value.isJson_map_iff.1 hv
  refine ⟨fun e he => ?_, ?_, fun e he => ?_⟩
  · have hm : e.1 ∈ (entries.map Prod.fst).map Name.ofValue := hn ▸ List.mem_map_of_mem he
    obtain ⟨k, hkm, hke⟩ := List.mem_map.1 hm
    obtain ⟨x, hx, rfl⟩ := List.mem_map.1 hkm
    obtain ⟨⟨s, hs⟩, -⟩ := hall x hx
    exact ⟨s, by rw [← hke, hs]; rfl⟩
  · rw [names, hn]
    refine List.Nodup.map_on (fun a ha b hb hab => ?_) hk
    obtain ⟨x, hx, rfl⟩ := List.mem_map.1 ha
    obtain ⟨y, hy, rfl⟩ := List.mem_map.1 hb
    obtain ⟨⟨s, hs⟩, -⟩ := hall x hx
    obtain ⟨⟨t, ht⟩, -⟩ := hall y hy
    rw [hs, ht] at hab ⊢
    cases hab
    rfl
  · obtain ⟨x, hx, hxd⟩ := hd e he
    exact Definition.plain_decode (hall x hx).2 hxd

/-- A document is decoded from the entries of the part that holds the definitions. -/
theorem exists_decodeEntries_of_ofValue {v : Value} {d : Document} (h : ofValue v = .ok d) :
    ∃ entries, section? (Definition.unrolledDocument v) = .ok (.map entries) ∧
      decodeEntries entries = .ok d.entries := by
  obtain ⟨w, hw, h⟩ := bind_eq_ok h
  split at h
  next entries =>
    obtain ⟨es, hes, h⟩ := bind_eq_ok h
    cases h
    exact ⟨entries, hw, hes⟩
  next => cases h

theorem FromJson.plain {d : Document} (h : d.FromJson) : d.Plain := by
  obtain ⟨text, v, hv, hd⟩ := h
  have hj := Json.isJson_read hv
  obtain ⟨entries, hw, hes⟩ := exists_decodeEntries_of_ofValue hd
  rw [unrolledDocument_eq hj] at hw
  exact plain_of_decodeEntries (isJson_section? hj hw) hes

theorem FromJson.keyed {d : Document} (h : d.FromJson) : ∀ e ∈ d.entries, e.2.Keyed := by
  obtain ⟨text, v, -, hd⟩ := h
  obtain ⟨entries, -, hes⟩ := exists_decodeEntries_of_ofValue hd
  intro e he
  obtain ⟨x, -, hx⟩ := (decodeEntries_eq_ok hes).2 e he
  exact Definition.keyed_of_decode hx

end Document

end SchemaDecl
