import Mathlib.Logic.Relation
import SchemaDecl.Proofs.Definition.Spelling
import SchemaDecl.Proofs.Document.Wrapping

/-! Documents in which references are spelled in another way. Where one is accepted so is the other, with
the same names and with definitions that differ in the spelling of references alone. -/

namespace SchemaDecl.Document

open Definition (SameTargets mapRefs unrolledDocument)
open List (Forall₂)
open Relation (ReflTransGen)

/-- In a mapping of definitions one reference, at any depth, is spelled in another way. -/
inductive RespelledOnce : Value → Value → Prop
  | definition {pre post : List (Value × Value)} {name v v' : Value} (h : Definition.Respelled v v') :
      RespelledOnce (.map (pre ++ (name, v) :: post)) (.map (pre ++ (name, v') :: post))

/-- In a mapping of definitions any number of references are spelled in another way. Data that lies
inside itself is compared as it is written out. -/
def Respelled (v v' : Value) : Prop :=
  ReflTransGen RespelledOnce (unrolledDocument v) (unrolledDocument v')

/-- The document with its references spelled in one way. -/
def inFull (d : Document) : Document :=
  ⟨d.entries.map fun e => (e.1, e.2.mapRefs Definition.inFull)⟩

/-- The value is a mapping with the keys of the entries, and its definitions differ from `xs` in the
spelling of references alone. -/
def Keeps (entries : List (Value × Value)) (xs : List (Name × Definition)) (v : Value) : Prop :=
  ∃ entries', v = .map entries' ∧ entries'.map Prod.fst = entries.map Prod.fst ∧
    ∃ xs', decodeEntries entries' = .ok xs' ∧ inFull ⟨xs'⟩ = inFull ⟨xs⟩

theorem inFull_cons {name : Name} {d d' : Definition} {xs xs' : List (Name × Definition)}
    (hd : SameTargets d d') (hxs : inFull ⟨xs'⟩ = inFull ⟨xs⟩) :
    inFull ⟨(name, d') :: xs'⟩ = inFull ⟨(name, d) :: xs⟩ := by
  have hrest := Document.mk.inj hxs
  rw [inFull, inFull, List.map_cons, List.map_cons, hrest]
  dsimp only
  rw [hd]

theorem keeps_of_respelledOnce {entries : List (Value × Value)} {xs : List (Name × Definition)}
    (hxs : decodeEntries entries = .ok xs) {v : Value} (h : RespelledOnce (.map entries) v) :
    Keeps entries xs v := by
  cases h with
  | @definition pre post name v v' h =>
    have hentries : Forall₂ (fun e e' => e'.1 = e.1 ∧ Check.Follows SameTargets
        (Definition.decode e.2) (Definition.decode e'.2)) (pre ++ (name, v) :: post)
        (pre ++ (name, v') :: post) :=
      Definition.forall₂_of_middle
        (fun e => ⟨rfl, .refl Definition.sameTargets_refl _⟩) ⟨rfl, h.follows⟩ pre post
    obtain ⟨xs', hxs', hsame⟩ := exists_decodeEntries (R := fun _ => SameTargets)
      (T := fun _ xs xs' => inFull ⟨xs'⟩ = inFull ⟨xs⟩) hentries rfl
      (fun e es d d' xs xs' hd hxs => inFull_cons hd hxs) hxs
    exact ⟨_, rfl, by simp, xs', hxs', hsame⟩

theorem keeps_of_respelled {entries : List (Value × Value)} {xs : List (Name × Definition)}
    (hxs : decodeEntries entries = .ok xs) {v : Value}
    (h : ReflTransGen RespelledOnce (.map entries) v) : Keeps entries xs v := by
  induction h with
  | refl => exact ⟨entries, rfl, rfl, xs, hxs, rfl⟩
  | tail _ hstep ih =>
    obtain ⟨entries', rfl, hkeys, xs', hxs', hsame⟩ := ih
    obtain ⟨entries'', rfl, hkeys', xs'', hxs'', hsame'⟩ := keeps_of_respelledOnce hxs' hstep
    exact ⟨entries'', rfl, hkeys'.trans hkeys, xs'', hxs'', hsame'.trans hsame⟩

/-! ### Reading -/

/-- Writing out a document leaves its keys. -/
theorem exists_unrolledDocument (entries : List (Value × Value)) :
    ∃ es, unrolledDocument (.map entries) = .map es ∧ es.map Prod.fst = entries.map Prod.fst := by
  cases h : (Value.map entries).isCircular with
  | false => exact ⟨entries, unrolledDocument_of_acyclic h, rfl⟩
  | true =>
    rw [unrolledDocument, h, if_neg (by decide)]
    refine ⟨_, rfl, List.ext_getElem (by simp) fun i hi hi' => ?_⟩
    simp only [List.getElem_map, List.getElem_mapIdx]
    split <;> rfl

theorem exists_of_unrolledDocument {v : Value} {es : List (Value × Value)}
    (h : unrolledDocument v = .map es) :
    ∃ entries, v = .map entries ∧ es.map Prod.fst = entries.map Prod.fst := by
  cases v with
  | map entries =>
    obtain ⟨es', hes', hkeys⟩ := exists_unrolledDocument entries
    cases h.symm.trans hes'
    exact ⟨entries, rfl, hkeys⟩
  | _ =>
    unfold unrolledDocument at h
    split at h <;> cases h

/-- A mapping of definitions is accepted when references in it are spelled in another way, by itself and
in a description of an interface, and its definitions differ in these spellings alone. -/
theorem exists_ofValue_of_respelled {entries : List (Value × Value)} {v : Value} {d : Document}
    (hc : Value.fieldOf "components" entries = none) (ho : Value.fieldOf "openapi" entries = none)
    (hd : ofValue (.map entries) = .ok d) (h : Respelled (.map entries) v) (hg : v.isGrounded 0) :
    ∃ d', ofValue v = .ok d' ∧ ofValue (wrapped v) = .ok d' ∧ d'.inFull = d.inFull := by
  obtain ⟨es, hes, hkeys⟩ := exists_unrolledDocument entries
  have hbare : isWrapped (.map es) = .ok false :=
    (isWrapped_of_keys hkeys).trans (isWrapped_of_bare hc ho)
  obtain ⟨_, hw, hxs⟩ := exists_decodeEntries_of_ofValue hd
  rw [hes, section?_of_bare hbare] at hw
  cases hw
  rw [Respelled, hes] at h
  obtain ⟨es', hes', hkeys', xs', hxs', hsame⟩ := keeps_of_respelled hxs h
  obtain ⟨entries', rfl, hkeys''⟩ := exists_of_unrolledDocument hes'
  have hbare' : isWrapped (.map es') = .ok false :=
    (isWrapped_of_keys hkeys').trans hbare
  have hd' : ofValue (.map entries') = .ok ⟨xs'⟩ :=
    ofValue_of_decodeEntries (by rw [hes', section?_of_bare hbare']) hxs'
  have hnone : ∀ {key : String}, Value.fieldOf key entries = none →
      Value.fieldOf key entries' = none := by
    intro key hkey
    have hsome := Value.isSome_fieldOf_of_keys (hkeys''.symm.trans (hkeys'.trans hkeys)) key
    rw [hkey] at hsome
    exact Option.not_isSome_iff_eq_none.1 (by simp [hsome])
  exact ⟨⟨xs'⟩, hd', ofValue_wrapped (hnone hc) (hnone ho) hg hd', hsame⟩

end SchemaDecl.Document
