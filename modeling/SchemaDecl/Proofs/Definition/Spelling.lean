import Mathlib.Data.List.Infix
import SchemaDecl.Document
import SchemaDecl.Proofs.Definition.References
import SchemaDecl.Proofs.Definition.Slots

/-! The spellings of a reference. The name of a definition can stand in a reference alone or behind one of
two beginnings. Data in which a reference is spelled in another way, however deep it lies, decodes to
the same definition with this reference spelled in another way. -/

namespace SchemaDecl.Definition

open Check (Follows)
open List (Forall₂)

/-! ### Spellings of a name -/

/-- A reference spells a name. -/
inductive Spells (name : String) : String → Prop
  | bare : Spells name name
  | component : Spells name ("#/components/schemas/" ++ name)
  | definition : Spells name ("#/definitions/" ++ name)

/-- A name that does not begin as references do. -/
def IsBare (name : String) : Prop :=
  ∀ start ∈ Document.refStarts, ¬start.toList <+: name.toList

theorem dropStart?_append (start name : String) :
    Document.dropStart? start (start ++ name) = some name := by
  rw [Document.dropStart?, String.toList_append, if_pos (by simp), ← String.length_toList,
    List.drop_left, String.ofList_toList]

theorem dropStart?_eq_none {start s : String} (h : ¬start.toList <+: s.toList) :
    Document.dropStart? start s = none := by
  rw [Document.dropStart?, if_neg (by simpa using h)]

theorem refTarget_definition (name : String) :
    Document.refTarget ("#/definitions/" ++ name) = name := by
  have hother : Document.dropStart? "#/components/schemas/" ("#/definitions/" ++ name) = none := by
    refine dropStart?_eq_none fun h => ?_
    rw [String.toList_append] at h
    have hchar := h.getElem (i := 2) (by decide)
    simp at hchar
  rw [Document.refTarget, Document.refStarts, List.findSome?_cons, hother, List.findSome?_cons,
    dropStart?_append]
  rfl

/-- The target of a reference is the name that it spells. -/
theorem Spells.refTarget {name ref : String} (h : Spells name ref) (hn : IsBare name) :
    Document.refTarget ref = name := by
  cases h with
  | bare =>
    have hnone : Document.refStarts.findSome? (fun start => Document.dropStart? start name) = none :=
      List.findSome?_eq_none_iff.2 fun start hs => dropStart?_eq_none (hn start hs)
    rw [Document.refTarget, hnone, Option.getD_none]
  | component =>
    rw [Document.refTarget, Document.refStarts, List.findSome?_cons, dropStart?_append]
    rfl
  | definition => exact refTarget_definition name

/-! ### Definitions that differ in spelling -/

/-- Two references spell the same name. -/
def SameTarget (ref ref' : String) : Prop :=
  ∃ name, IsBare name ∧ Spells name ref ∧ Spells name ref'

/-- A reference in one spelling for all of its target. -/
def inFull (ref : String) : String :=
  "#/definitions/" ++ Document.refTarget ref

theorem refTarget_inFull (ref : String) : Document.refTarget (inFull ref) = Document.refTarget ref :=
  refTarget_definition _

theorem SameTarget.inFull_eq {ref ref' : String} (h : SameTarget ref ref') :
    inFull ref' = inFull ref := by
  obtain ⟨name, hn, h, h'⟩ := h
  rw [inFull, inFull, h.refTarget hn, h'.refTarget hn]

/-- The definitions are equal once their references are spelled in one way. -/
def SameTargets (d d' : Definition) : Prop :=
  d'.mapRefs inFull = d.mapRefs inFull

theorem sameTargets_refl (d : Definition) : SameTargets d d := rfl

/-- Values that look the same through a function. -/
def Seen {α β : Type} (view : α → β) (x x' : α) : Prop :=
  view x' = view x

theorem Seen.refl {α β : Type} {view : α → β} (x : α) : Seen view x x := rfl

/-- The parts of two definitions that differ in the spelling of references. -/
abbrev Parts : Definition → Definition → Prop :=
  Beside (Seen (Option.map inFull)) (Seen (Option.map (List.map (mapRefs inFull))))
    (Seen (Option.map (mapRefs inFull))) (Seen (Option.map (List.map (propertyMapRefs inFull))))

/-- The values under a key that differ so. -/
abbrev Respells : String → Value → Value → Prop :=
  Changes (Seen (Option.map inFull)) (Seen (Option.map (List.map (mapRefs inFull))))
    (Seen (Option.map (mapRefs inFull))) (Seen (Option.map (List.map (propertyMapRefs inFull))))

theorem sameTargets_of_parts {d d' : Definition} (h : Parts d d') : SameTargets d d' := by
  rw [SameTargets, mapRefs_eq, mapRefs_eq, h.ref, h.oneOf, h.items, h.properties, ← h.rest]

/-! ### Data that differs in spelling -/

/-- In the data of a definition one reference, at any depth, is spelled in another way. -/
inductive Respelled : Value → Value → Prop
  | reference {pre post : List (Value × Value)} {key ref ref' : String} {v v' : Value}
      (hkey : key = "$ref" ∨ key = "ref") (hv : Check.text v = .ok ref) (hv' : Check.text v' = .ok ref')
      (h : SameTarget ref ref') :
      Respelled (.map (pre ++ (.text key, v) :: post)) (.map (pre ++ (.text key, v') :: post))
  | items {pre post : List (Value × Value)} {v v' : Value} (h : Respelled v v') :
      Respelled (.map (pre ++ (.text "items", v) :: post)) (.map (pre ++ (.text "items", v') :: post))
  | branch {pre post : List (Value × Value)} {key : String} {before after : List Value} {v v' : Value}
      (hkey : key = "oneOf" ∨ key = "one_of") (h : Respelled v v') :
      Respelled (.map (pre ++ (.text key, .list (before ++ v :: after)) :: post))
        (.map (pre ++ (.text key, .list (before ++ v' :: after)) :: post))
  | property {pre post before after : List (Value × Value)} {name v v' : Value} (h : Respelled v v') :
      Respelled (.map (pre ++ (.text "properties", .map (before ++ (name, v) :: after)) :: post))
        (.map (pre ++ (.text "properties", .map (before ++ (name, v') :: after)) :: post))

/-- A change of one member changes a list in one place. -/
theorem forall₂_of_middle {α : Type} {R : α → α → Prop} (hrefl : ∀ x, R x x) {x x' : α} (h : R x x')
    (pre post : List α) : Forall₂ R (pre ++ x :: post) (pre ++ x' :: post) :=
  List.rel_append (List.forall₂_same.2 fun x _ => hrefl x)
    (.cons h (List.forall₂_same.2 fun x _ => hrefl x))

theorem Respelled.exists_map {v v' : Value} (h : Respelled v v') :
    ∃ entries entries', v = .map entries ∧ v' = .map entries' := by
  cases h <;> exact ⟨_, _, rfl, rfl⟩

theorem follows_optional_text {v v' : Value} {ref ref' : String} (hv : Check.text v = .ok ref)
    (hv' : Check.text v' = .ok ref') (h : SameTarget ref ref') :
    Follows (Seen (Option.map inFull)) (Check.optional Check.text v) (Check.optional Check.text v') := by
  have hoptional : ∀ {w : Value} {s : String}, Check.text w = .ok s →
      Check.optional Check.text w = .ok (some s) := by
    intro w s hw
    have hne : w ≠ .null := by
      rintro rfl
      cases hw
    rw [Check.optional_of_ne_null hne, hw]
    rfl
  rw [hoptional hv, hoptional hv']
  intro x hx
  cases hx
  exact ⟨_, rfl, congrArg some h.inFull_eq⟩

theorem follows_decodeItem {v v' : Value} (h : Respelled v v')
    (hd : Follows SameTargets (decode v) (decode v')) :
    Follows (Seen (Option.map (mapRefs inFull))) (decodeItem v) (decodeItem v') := by
  have hitem : ∀ es : List (Value × Value),
      decodeItem (.map es) = (decode (.map es)).map some := fun es => by
    rw [decodeItem_eq, Check.optional_of_ne_null (by simp)]
  obtain ⟨entries, entries', rfl, rfl⟩ := h.exists_map
  rw [hitem, hitem]
  exact hd.map fun d d' hd => congrArg some hd

theorem follows_decodeBranches {pre post : List Value} {v v' : Value}
    (h : Follows SameTargets (decode v) (decode v')) :
    Follows (Seen (Option.map (List.map (mapRefs inFull)))) (decodeBranches (.list (pre ++ v :: post)))
      (decodeBranches (.list (pre ++ v' :: post))) := by
  have hall : Follows (Seen (List.map (mapRefs inFull))) (decodeList 0 (pre ++ v :: post))
      (decodeList 0 (pre ++ v' :: post)) :=
    follows_decodeList (R := fun _ => SameTargets) (T := fun _ => Seen (List.map (mapRefs inFull)))
      (forall₂_of_middle (R := fun v v' => Follows SameTargets (decode v) (decode v'))
        (fun v => .refl sameTargets_refl _) h pre post) rfl
      (fun _ _ d d' ds ds' hd hds => congrArg₂ List.cons hd hds) 0
  rw [decodeBranches, decodeBranches]
  exact hall.map fun ds ds' hds => congrArg some hds

theorem follows_decodeProperties {pre post : List (Value × Value)} {name v v' : Value}
    (h : Follows SameTargets (decode v) (decode v')) :
    Follows (Seen (Option.map (List.map (propertyMapRefs inFull))))
      (decodeProperties (.map (pre ++ (name, v) :: post)))
      (decodeProperties (.map (pre ++ (name, v') :: post))) := by
  have hall : Follows (Seen (List.map (propertyMapRefs inFull)))
      (decodeEntries (pre ++ (name, v) :: post)) (decodeEntries (pre ++ (name, v') :: post)) := by
    refine follows_decodeEntries (R := fun _ => SameTargets)
      (T := fun _ => Seen (List.map (propertyMapRefs inFull)))
      (forall₂_of_middle (fun e => ⟨rfl, .refl sameTargets_refl _⟩) ⟨rfl, h⟩ pre post) rfl ?_
    intro _ _ key d d' ps ps' _ hd hps
    exact congrArg₂ (fun d ps => (key, d) :: ps) hd hps
  rw [decodeProperties, decodeProperties]
  refine hall.map fun ps ps' hps => ?_
  rw [Seen, Option.map_some, Option.map_some, ← distinct_map, hps, distinct_map]

theorem follows_decode_of_changes {pre post : List (Value × Value)} {key : String} {v v' : Value}
    (h : Respells key v v') :
    Follows SameTargets (decode (.map (pre ++ (.text key, v) :: post)))
      (decode (.map (pre ++ (.text key, v') :: post))) := by
  have hentry : ∀ key', Value.text key = .text key' → Respells key' v v' := by
    rintro key' ⟨⟩
    exact h
  have hentries : Forall₂ (fun e e' => e'.1 = e.1 ∧ ∀ key, e.1 = .text key → Respells key e.2 e'.2)
      (pre ++ (.text key, v) :: post) (pre ++ (.text key, v') :: post) :=
    forall₂_of_middle
      (fun e => ⟨rfl, fun key _ => .refl Seen.refl Seen.refl Seen.refl Seen.refl key e.2⟩)
      ⟨rfl, hentry⟩ pre post
  have hparts : Follows Parts _ _ :=
    follows_decode_map (Seen.refl none) (Seen.refl none) (Seen.refl none) (Seen.refl none) hentries
  exact hparts.mono fun d d' hd => sameTargets_of_parts hd

/-- Respelled data decodes to a definition that differs in the spelling of references alone. -/
theorem Respelled.follows {v v' : Value} (h : Respelled v v') :
    Follows SameTargets (decode v) (decode v') := by
  induction h with
  | reference hkey hv hv' h =>
    exact follows_decode_of_changes (.of_ref hkey (follows_optional_text hv hv' h))
  | items h ih => exact follows_decode_of_changes (.of_items (follows_decodeItem h ih))
  | branch hkey _ ih => exact follows_decode_of_changes (.of_oneOf hkey (follows_decodeBranches ih))
  | property _ ih => exact follows_decode_of_changes (.of_properties (follows_decodeProperties ih))

end SchemaDecl.Definition
