import Mathlib.Data.List.Permutation
import SchemaDecl.Generation
import SchemaDecl.Proofs.Definition.Pruning
import SchemaDecl.Proofs.Document.Sections

/-! Documents without the keys that definitions are not described with. Such keys are passed over when a
document is read, with two exceptions: two parts of a definition can be named in a second way, and
what is left out under these names counts where the key of the part is missing. -/

namespace SchemaDecl

/-- A mapping whose value under a key is another one. -/
def Value.modifyField (key : String) (f : Value → Value) : Value → Value
  | .map entries =>
    .map (entries.map fun e => (e.1, if e.1.asText? == some key then f e.2 else e.2))
  | v => v

namespace Document

open Definition (prunedProperties prunedValues)
open List (Forall₂)

/-- The data of a document whose definitions keep the supported keys alone. -/
def prunedDocument (v : Value) : Value :=
  match isWrapped v with
  | .ok true => v.modifyField "components" (Value.modifyField "schemas" prunedProperties)
  | _ => prunedProperties v

/-- In no definition of the document does a name stand in for the key of a part. -/
def Unaliased (v : Value) : Prop :=
  ∀ entries, section? v = .ok (.map entries) → ∀ e ∈ entries, Definition.Unaliased e.2

/-! ### Sections -/

theorem isTruthy_prunedProperties (v : Value) : (prunedProperties v).isTruthy = v.isTruthy := by
  cases v with
  | map entries =>
    rw [prunedProperties, Definition.prunedValues_eq_map, Value.isTruthy, Value.isTruthy,
      List.isEmpty_map]
  | _ => rfl

theorem isTruthy_modifyField (key : String) (f : Value → Value) (v : Value) :
    (v.modifyField key f).isTruthy = v.isTruthy := by
  cases v with
  | map entries => rw [Value.modifyField, Value.isTruthy, Value.isTruthy, List.isEmpty_map]
  | _ => rfl

theorem orEmpty_map {f : Value → Value} (hf : ∀ v, (f v).isTruthy = v.isTruthy)
    (hempty : f (.map []) = .map []) (v : Option Value) : orEmpty (v.map f) = f (orEmpty v) := by
  cases v with
  | none => exact hempty.symm
  | some v =>
    rw [Option.map_some, orEmpty, orEmpty, hf]
    split
    · rfl
    · exact hempty.symm

theorem fieldOf_modifyField (key : String) (f : Value → Value) (entries : List (Value × Value)) :
    Value.fieldOf key
        (entries.map fun e => (e.1, if e.1.asText? == some key then f e.2 else e.2)) =
      (Value.fieldOf key entries).map f := by
  rw [Value.fieldOf_map (f := fun k v => if k.asText? == some key then f v else v)]
  simp [Value.asText?]

theorem isWrapped_prunedProperties (v : Value) : isWrapped (prunedProperties v) = isWrapped v := by
  cases v with
  | map entries =>
    rw [prunedProperties, Definition.prunedValues_eq_map]
    exact isWrapped_of_keys (by simp)
  | _ => rfl

theorem isWrapped_modifyField (key : String) (f : Value → Value) (v : Value) :
    isWrapped (v.modifyField key f) = isWrapped v := by
  cases v with
  | map entries => exact isWrapped_of_keys (by simp)
  | _ => rfl

/-- The definitions stand where they stood. -/
theorem section?_prunedDocument {v w : Value} (h : section? v = .ok w) :
    Document.section? (prunedDocument v) = .ok (prunedProperties w) := by
  obtain ⟨wrapped, hw, -⟩ := bind_eq_ok h
  cases wrapped with
  | false =>
    have hbare : prunedDocument v = prunedProperties v := by rw [prunedDocument, hw]
    rw [section?_of_bare hw] at h
    rw [hbare, section?_of_bare ((isWrapped_prunedProperties v).trans hw), Except.ok.inj h]
  | true =>
    have hwrapped : prunedDocument v =
        v.modifyField "components" (Value.modifyField "schemas" prunedProperties) := by
      rw [prunedDocument, hw]
    obtain ⟨entries, inner, rfl, hi, rfl⟩ := exists_of_section?_wrapped hw h
    rw [hwrapped, Value.modifyField]
    rw [← isWrapped_modifyField "components" (Value.modifyField "schemas" prunedProperties),
      Value.modifyField] at hw
    have hinner : orEmpty (Value.fieldOf "components" (entries.map fun e =>
        (e.1, if e.1.asText? == some "components" then e.2.modifyField "schemas" prunedProperties
          else e.2))) =
        .map (inner.map fun e =>
          (e.1, if e.1.asText? == some "schemas" then prunedProperties e.2 else e.2)) := by
      rw [fieldOf_modifyField, orEmpty_map (isTruthy_modifyField _ _) rfl, hi]
      rfl
    rw [section?_of_wrapped hw hinner, fieldOf_modifyField,
      orEmpty_map isTruthy_prunedProperties rfl]

/-! ### Reading -/

theorem isJson_modifyField {key : String} {f : Value → Value} (hf : ∀ v : Value, v.IsJson → (f v).IsJson)
    {v : Value} (h : v.IsJson) : (v.modifyField key f).IsJson := by
  cases h with
  | @map entries hk hn hv =>
    refine .map (List.forall_mem_map.2 hk) ?_ (List.forall_mem_map.2 fun e he => ?_)
    · rwa [List.map_map]
    · dsimp only
      split
      · exact hf _ (hv e he)
      · exact hv e he
  | null => exact .null
  | bool b => exact .bool b
  | int h => exact .int h
  | float x => exact .float x
  | text s => exact .text s
  | list hv => exact .list hv

theorem isJson_prunedDocument {v : Value} (h : v.IsJson) : (prunedDocument v).IsJson := by
  have hproperties : ∀ w : Value, w.IsJson → (prunedProperties w).IsJson :=
    fun w hw => (Definition.isJson_pruned hw).2.2
  unfold prunedDocument
  split
  · exact isJson_modifyField (fun w hw => isJson_modifyField hproperties hw) h
  · exact hproperties v h

theorem exists_decodeEntries_pruned {entries : List (Value × Value)}
    (hj : ∀ e ∈ entries, e.2.IsJson) {xs : List (Name × Definition)}
    (h : decodeEntries entries = .ok xs) :
    ∃ xs', decodeEntries (prunedValues entries) = .ok xs' ∧
      (xs' = xs ↔ ∀ e ∈ entries, Definition.Unaliased e.2) := by
  have hes : Forall₂ (fun e e' => e'.1 = e.1 ∧
      Check.Follows (fun d d' => d' = d ↔ Definition.Unaliased e.2) (Definition.decode e.2)
        (Definition.decode e'.2)) entries (entries.map fun e => (e.1, Definition.pruned e.2)) :=
    List.forall₂_map_right_iff.2 (List.forall₂_same.2 fun e he =>
      ⟨rfl, (Definition.pruning_of_isJson (hj e he)).definition⟩)
  rw [Definition.prunedValues_eq_map]
  refine exists_decodeEntries (R := fun v d d' => d' = d ↔ Definition.Unaliased v)
    (T := fun es xs xs' => xs' = xs ↔ ∀ e ∈ es, Definition.Unaliased e.2) hes (by simp) ?_ h
  intro e es d d' xs xs' hd hxs
  rw [List.cons.injEq, Prod.mk.injEq, hd, hxs, List.forall_mem_cons, and_iff_right rfl]

/-- A document in JSON is accepted without the keys that definitions are not described with, too, and it
is the same document exactly if in none of its definitions a name stands in for the key of a part;
then every run comes to the same. -/
theorem pruned_accepted_same_iff (text : String) (v : Value) (hv : Json.read text = .ok v)
    (d : Document) (hd : ofValue v = .ok d) :
    ∃ d', ofValue (prunedDocument v) = .ok d' ∧ (d' = d ↔ Unaliased v) ∧
      (Unaliased v → ∀ settings previous,
        Generation.run d' settings previous = Generation.run d settings previous) := by
  have hj := Json.isJson_read hv
  obtain ⟨entries, hw, hes⟩ := exists_decodeEntries_of_ofValue hd
  rw [unrolledDocument_eq hj] at hw
  have hentries := (Value.isJson_map_iff.1 (isJson_section? hj hw)).2
  obtain ⟨xs', hxs', hiff⟩ := exists_decodeEntries_pruned (fun e he => (hentries e he).2) hes
  have hsame : (⟨xs'⟩ : Document) = d ↔ Unaliased v := by
    have hsection : Unaliased v ↔ ∀ e ∈ entries, Definition.Unaliased e.2 := by
      constructor
      · exact fun h => h entries hw
      · intro h es hes
        rw [hw] at hes
        cases hes
        exact h
    rw [hsection, ← hiff]
    cases d
    exact ⟨Document.mk.inj, congrArg Document.mk⟩
  refine ⟨⟨xs'⟩, ?_, hsame, fun h settings previous => by rw [hsame.2 h]⟩
  have hpruned : Document.section? (Definition.unrolledDocument (prunedDocument v)) =
      .ok (.map (prunedValues entries)) := by
    rw [unrolledDocument_eq (isJson_prunedDocument hj), section?_prunedDocument hw, prunedProperties]
  exact ofValue_of_decodeEntries hpruned hxs'

/-- A reference with a title beside it, and a list of texts of one pattern. -/
def titled : Value :=
  .object [("A", .object [("$ref", .text "B"), ("ref", .text "C"), ("title", .text "a")]),
    ("B", .object [("type", .text "array"), ("items",
      .object [("type", .text "string"), ("pattern", .text "p"), ("one_of", .null)])])]

theorem pruned_accepted_same_iff_titled :
    ∃ d d', ofValue titled = .ok d ∧ ofValue (prunedDocument titled) = .ok d' ∧ d' = d ∧
      prunedDocument titled = .object [("A", .object [("$ref", .text "B")]),
        ("B", .object [("type", .text "array"), ("items", .object [("type", .text "string")])])] ∧
      ∀ settings previous,
        Generation.run d' settings previous = Generation.run d settings previous := by
  have hread : Json.read
      ("\x7b\"A\":\x7b\"$ref\":\"B\",\"ref\":\"C\",\"title\":\"a\"\x7d," ++
        "\"B\":\x7b\"type\":\"array\",\"items\":" ++
        "\x7b\"type\":\"string\",\"pattern\":\"p\",\"one_of\":null\x7d\x7d\x7d") = .ok titled := by
    cbv
  obtain ⟨d, hd⟩ : ∃ d, ofValue titled = .ok d := ⟨_, rfl⟩
  have hu : Unaliased titled := by
    intro entries h
    cases h
    simp [Definition.unaliased_map_iff, Definition.Silent, Value.fieldOf, Value.object]
  obtain ⟨d', hd', hiff, hrun⟩ := pruned_accepted_same_iff _ titled hread d hd
  exact ⟨d, d', hd, hd', hiff.2 hu, rfl, hrun hu⟩

/-- A reference whose key is missing. -/
def nicknamed : Value :=
  .object [("A", .object [("ref", .text "B")]), ("B", .object [("type", .text "string")])]

/-- What stands there in the place of the key counts: without it the definition has no type. -/
theorem pruned_fails_nicknamed :
    ∃ d d' g g', Json.read "\x7b\"A\":\x7b\"ref\":\"B\"\x7d,\"B\":\x7b\"type\":\"string\"\x7d\x7d" =
        .ok nicknamed ∧
      ofValue nicknamed = .ok d ∧ ofValue (prunedDocument nicknamed) = .ok d' ∧
      (Generation.run d { keepGoing := true } []).result = .ok g ∧ g.failures = [] ∧
      (Generation.run d' { keepGoing := true } []).result = .ok g' ∧
      g'.failures = [(.text "A", .unsupported none (some (.text "A")))] := by
  refine ⟨_, _, _, _, ?_, rfl, rfl, rfl, rfl, rfl, rfl⟩
  cbv

end Document

end SchemaDecl
