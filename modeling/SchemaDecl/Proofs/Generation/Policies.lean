import Mathlib.Data.List.Forall2
import Mathlib.Data.List.Nodup
import SchemaDecl.Proofs.Generation.Imports

/-! The two ways to treat errors. A run that keeps going parts the definitions into those with a module
and those with an error, both in the order of the document. A run that ends with the first error does
the same work up to there: it returns what the other one returns when that has recorded no error, and
otherwise fails with the first error that it has recorded. -/

namespace SchemaDecl

open List (Forall₂)

/-- The third list is made of the other two, each in its order. -/
inductive Interleaving {α : Type} : List α → List α → List α → Prop
  | nil : Interleaving [] [] []
  | left {x : α} {xs ys zs : List α} (h : Interleaving xs ys zs) : Interleaving (x :: xs) ys (x :: zs)
  | right {y : α} {xs ys zs : List α} (h : Interleaving xs ys zs) : Interleaving xs (y :: ys) (y :: zs)

namespace Interleaving

variable {α β : Type} {xs ys zs : List α}

theorem perm (h : Interleaving xs ys zs) : zs.Perm (xs ++ ys) := by
  induction h with
  | nil => exact .nil
  | left _ ih => exact ih.cons _
  | right _ ih => exact (ih.cons _).trans List.perm_middle.symm

theorem map (f : α → β) (h : Interleaving xs ys zs) :
    Interleaving (xs.map f) (ys.map f) (zs.map f) := by
  induction h with
  | nil => exact .nil
  | left _ ih => exact ih.left
  | right _ ih => exact ih.right

/-- What stands once in the whole stands in one of the parts alone. -/
theorem disjoint (h : Interleaving xs ys zs) (hn : zs.Nodup) : xs.Disjoint ys :=
  (h.perm.nodup_iff.1 hn).disjoint

end Interleaving

namespace Generation

open Registry (Entry)
open Identifier (ofName)

variable {doc : Document} {registry : Registry} {e : Emitter} {keepGoing : Bool}

namespace Outcomes

variable {entries : List (Name × Definition)} {ms : List Module} {fs : List (Name × SchemaError)}

/-- Without keeping going, the same definitions give the same modules or the first of the errors. -/
theorem first_error : Outcomes doc registry e keepGoing entries ms fs →
    (declareAll doc registry e false entries).result =
      match fs with
      | [] => .ok (ms, [])
      | (_, err) :: _ => .error (.failure (.schema err)) := by
  intro h
  induction h with
  | nil => rfl
  | @module _ _ m _ ms fs h _ ih =>
    rw [declareAll_cons, h, ih]
    cases fs <;> rfl
  | failure _ h _ _ =>
    rw [declareAll_cons, h]
    rfl

/-- Definitions with modules and definitions with errors make up the whole list. -/
theorem exists_interleaving (h : Outcomes doc registry e keepGoing entries ms fs) :
    ∃ sound faulty, Interleaving sound faulty entries ∧
      Forall₂ (fun x m => declare doc registry e x.1 x.2 = .ok (.ok m)) sound ms ∧
      Forall₂ (fun x f => x.1 = f.1 ∧ declare doc registry e x.1 x.2 = .ok (.error f.2)) faulty fs := by
  induction h with
  | nil => exact ⟨[], [], .nil, .nil, .nil⟩
  | module h _ ih =>
    obtain ⟨sound, faulty, hi, hs, hf⟩ := ih
    exact ⟨_ :: sound, faulty, hi.left, .cons h hs, hf⟩
  | failure _ h _ ih =>
    obtain ⟨sound, faulty, hi, hs, hf⟩ := ih
    exact ⟨sound, _ :: faulty, hi.right, hs, .cons ⟨rfl, h⟩ hf⟩

end Outcomes

/-! ### Runs -/

/-- A run that keeps going has a module for some of the definitions and an error for the others, in
their order. Without keeping going, the run returns the same result if no error was recorded, and
fails with the first error if one was. -/
theorem interleaving_and_first_error (doc : Document) (hn : doc.names.Nodup) (settings : Settings)
    (previous : List Entry) (g : Generation)
    (hg : (run doc { settings with keepGoing := true } previous).result = .ok g) :
    (∃ sound faulty : List (Name × Definition), Interleaving sound faulty doc.entries ∧
      (sound.map Prod.fst).Disjoint (faulty.map Prod.fst) ∧
      Forall₂ (fun x m => ∃ name, x.1 = .text name ∧ m.name = ofName name ∧
        declare doc g.registry (emitterOf settings) x.1 x.2 = .ok (.ok m)) sound g.declarations ∧
      Forall₂ (fun x f => x.1 = f.1 ∧
        declare doc g.registry (emitterOf settings) x.1 x.2 = .ok (.error f.2)) faulty g.failures) ∧
    (run doc { settings with keepGoing := false } previous).result =
      match g.failures with
      | [] => .ok g
      | (_, err) :: _ => .error (.failure (.schema err)) := by
  have ho : Outcomes doc g.registry (emitterOf settings) true doc.entries g.declarations g.failures :=
    outcomes_of_run hg
  constructor
  · obtain ⟨sound, faulty, hi, hs, hf⟩ := ho.exists_interleaving
    refine ⟨sound, faulty, hi, (hi.map Prod.fst).disjoint hn, hs.imp fun x m hm => ?_, hf⟩
    obtain ⟨name, s, hname, -, hdeclares⟩ := exists_declares_of_declare hm
    exact ⟨name, hname, hdeclares.name_eq, hm⟩
  · obtain ⟨hr, hg⟩ := run_eq_ok hg
    obtain ⟨out, -, hassembled⟩ := map_eq_ok hg
    have hself : assembled settings g.registry (g.declarations, g.failures) = g := by
      rw [← hassembled]
      rfl
    have hfirst : ofRegistry doc { settings with keepGoing := false } g.registry = Except.map
        (assembled settings g.registry)
        (declareAll doc g.registry (emitterOf settings) false doc.entries).result := rfl
    rw [run_result, hr, Except.bind, hfirst, ho.first_error]
    cases hf : g.failures with
    | nil =>
      rw [hf] at hself
      exact congrArg Except.ok hself
    | cons f fs => rfl

/-- Two texts, each before a definition that has an error. -/
def patchy : Document :=
  ⟨[(.text "A", { Definition.blank with type := some "string" }),
    (.text "B", .blank),
    (.text "C-d", { Definition.blank with type := some "string" }),
    (.text "E", { Definition.blank with type := some "array" })]⟩

theorem interleaving_and_first_error_patchy :
    ∃ g, (run patchy { keepGoing := true } []).result = .ok g ∧
      (∃ sound faulty : List (Name × Definition), Interleaving sound faulty patchy.entries ∧
        sound.length = 2 ∧ faulty.map Prod.fst = [.text "B", .text "E"]) ∧
      (run patchy { keepGoing := false } []).result =
        .error (.failure (.schema (.unsupported none (some (.text "B"))))) := by
  obtain ⟨g, hg⟩ : ∃ g, (run patchy { keepGoing := true } []).result = .ok g := ⟨_, rfl⟩
  have hn : patchy.names.Nodup := by simp [patchy, Document.names]
  obtain ⟨⟨sound, faulty, hi, -, hs, hf⟩, hfirst⟩ :=
    interleaving_and_first_error patchy hn {} [] g hg
  have hms : g.declarations.length = 2 := by
    cases hg
    rfl
  have hfs : g.failures.map Prod.fst = [.text "B", .text "E"] := by
    cases hg
    rfl
  have hnames : Forall₂ Eq (faulty.map Prod.fst) (g.failures.map Prod.fst) :=
    List.forall₂_map_left_iff.2 (List.forall₂_map_right_iff.2 (hf.imp fun _ _ h => h.1))
  rw [List.forall₂_eq_eq_eq, hfs] at hnames
  refine ⟨g, hg, ⟨sound, faulty, hi, hs.length_eq.trans hms, hnames⟩, ?_⟩
  cases hg
  exact hfirst

end Generation

end SchemaDecl
