import Mathlib.Data.List.Nodup
import SchemaDecl.Emission
import SchemaDecl.Proofs.Python.Enumeration
import SchemaDecl.Proofs.Registry.Build
import SchemaDecl.Proofs.Text.Cutting

/-! The registry as an enumeration in Python. The lines of its module bind each identifier to its
discriminant, and all of them become members unless one is a name that enumerations treat in a manner of
their own. Such an identifier comes of a name that begins with no letter, or of the name of a method. -/

namespace SchemaDecl

open Identifier (isLetterOrDigit ofName Suffixed WellFormed)
open Python (Assignment)

/-! ### Lines that bind names -/

namespace Emitter

/-- The lines of the registry in front of its entries. -/
def registryHead (header : String) (r : Registry) : List String :=
  [banner header, "", "from __future__ import annotations", "", "import enum", "", "",
    "class " ++ Registry.symbol ++ "(str, enum.Enum):",
    "    \"\"\"Discriminant (\x60\x60_object\x60\x60) value of every tagged API type.\"\"\""] ++
    if r.entries.isEmpty then [] else [""]

/-- The line of an entry. -/
def entryLine (x : Registry.Entry) : String :=
  "    " ++ (x.identifier ++ " = " ++ literal x.discriminant)

theorem source_registry {e : Emitter} (he : e.target = .python) (r : Registry) :
    (e.registry r).source = unlines (registryHead e.header r ++ r.entries.map entryLine) := by
  have hline : ∀ x : Registry.Entry,
      "    " ++ (x.identifier ++ " = " ++ literal x.discriminant ++ "") = entryLine x := by
    intro x
    rw [entryLine, String.append_empty]
  simp only [registry, he, hline]
  rfl

end Emitter

namespace Python

/-- The assignment that a line of a class is. -/
def assignment? (line : String) : Option Assignment :=
  match line.toList with
  | ' ' :: ' ' :: ' ' :: ' ' :: cs =>
    match cs.dropWhile isLetterOrDigit with
    | ' ' :: '=' :: ' ' :: rest =>
      match Target.python.readLiteral rest with
      | some (value, []) => some ⟨cs.takeWhile isLetterOrDigit, value⟩
      | _ => none
    | _ => none
  | _ => none

/-- What an entry of a registry is bound as. -/
def assignmentOf (x : Registry.Entry) : Assignment :=
  ⟨x.identifier.toList, Target.python.denotation x.discriminant⟩

theorem assignment?_line {x : Registry.Entry} (h : WellFormed x.identifier) :
    assignment? (Emitter.entryLine x) = some (assignmentOf x) := by
  have hline : (Emitter.entryLine x).toList =
      ' ' :: ' ' :: ' ' :: ' ' ::
        (x.identifier.toList ++ ' ' :: '=' :: ' ' :: (literal x.discriminant).toList) := by
    simp [Emitter.entryLine]
  have hstop : ∀ c ∈ (' ' :: '=' :: ' ' :: (literal x.discriminant).toList).head?,
      isLetterOrDigit c = false := by
    rintro c ⟨⟩
    decide
  have hread := (Target.denotes_literal .python x.discriminant).reads [] nofun
  rw [List.append_nil] at hread
  rw [assignment?, hline]
  simp only [Text.takeWhile_word h.chars hstop, Text.dropWhile_word h.chars hstop, hread]
  rfl

end Python


namespace Registry

open Python (assignment? assignmentOf)
open Python.Enumeration (Special Hooks Distinct members isMangled members_sublist members_eq_self_iff)

/-- The name of the enumeration. -/
def className : List Char :=
  symbol.toList

theorem bareClass_className : Python.bareClass className = className := by
  decide

/-- No two entries have the same identifier or the same discriminant. -/
theorem distinct_assignments (r : Registry) : Distinct (r.entries.map assignmentOf) where
  names := by
    have hnames := List.Nodup.map (fun _ _ h => String.toList_inj.1 h) r.identifiers_nodup
    rwa [List.map_map] at hnames ⊢
  values := by
    have hvalues := List.Nodup.map (fun _ _ h => Target.denotation_inj (t := .python) h)
      r.discriminants_nodup
    rwa [List.map_map] at hvalues ⊢

/-- An identifier that is special comes of a name without a letter in front, or of that of the method. -/
theorem of_special_identifier {s identifier : String} (h : Suffixed (ofName s) identifier)
    (hs : Special className identifier.toList) :
    s = "mro" ∧ identifier = "mro" ∨ ∀ c ∈ s.toList.head?, ¬c.isAlpha := by
  have hne : (ofName s).toList ≠ [] := (Identifier.ofName_wellFormed s).nonempty
  rcases Python.Enumeration.head?_of_special bareClass_className hs with hname | hhead
  · left
    have hid : identifier = "mro" := String.toList_inj.1 hname
    subst hid
    rcases h.eq_or_numbered with heq | ⟨hmem, -⟩
    · refine ⟨?_, rfl⟩
      rw [heq]
      refine (Identifier.ofName_eq_self ?_).symm
      rw [← heq]
      decide
    · exact absurd hmem (by decide)
  · right
    refine Identifier.not_isAlpha_of_head?_ofName ?_
    rw [← (h.head? hne).2, hhead]

/-- A numbered identifier that is special is so for what it begins with. -/
theorem of_special_numbered {s identifier : String} (h : Suffixed (ofName s) identifier)
    (hs : Special className identifier.toList) (hne : identifier ≠ ofName s) :
    Python.isPrivate className identifier.toList = true ∨ isMangled className identifier.toList = true := by
  obtain ⟨hmem, hlast⟩ := h.eq_or_numbered.resolve_left hne
  refine Python.Enumeration.of_special bareClass_className hs hlast ?_
  intro hname
  rw [hname] at hmem
  exact absurd hmem (by decide)

/-- The lines of a registry bind its identifiers to its discriminants. Whatever hooks of the class do, no
identifier that is special becomes a member, and all of them do exactly if none is. Special are the
identifier `mro` of the name `mro`, and otherwise identifiers of names that begin with no letter alone. -/
theorem members_of_registry (d : Document) (hn : d.Textual) (e : Emitter) (he : e.target = .python) :
    ∃ r, (build d []).result = .ok r ∧
      (∃ lines, (e.registry r).source = Emitter.unlines (Emitter.registryHead e.header r ++ lines) ∧
        lines.map assignment? = r.entries.map fun x => some (assignmentOf x)) ∧
      (∀ x ∈ r.entries, ∃ s, Document.declarerIn d.entries x.discriminant = some (.text s) ∧
        Suffixed (ofName s) x.identifier ∧
        (Special className x.identifier.toList →
          (s = "mro" ∧ x.identifier = "mro" ∨ ∀ c ∈ s.toList.head?, ¬c.isAlpha) ∧
          (x.identifier ≠ ofName s → Python.isPrivate className x.identifier.toList = true ∨
            isMangled className x.identifier.toList = true))) ∧
      ∀ k : Hooks className,
        (∀ ms, members k (r.entries.map assignmentOf) = some ms →
          ms.Sublist ((r.entries.filter fun x => ¬Special className x.identifier.toList).map
            assignmentOf)) ∧
        (members k (r.entries.map assignmentOf) = some (r.entries.map assignmentOf) ↔
          ∀ x ∈ r.entries, ¬Special className x.identifier.toList) := by
  obtain ⟨r, hr⟩ : ∃ r, (build d []).result = .ok r := exists_build hn List.nodup_nil List.nodup_nil
  obtain ⟨added, ha, hentries⟩ := entries_of_build hn hr
  have hsuffixed : ∀ x ∈ r.entries, ∃ s,
      Document.declarerIn d.entries x.discriminant = some (.text s) ∧
        Suffixed (ofName s) x.identifier := by
    intro x hx
    rw [hentries] at hx
    exact ha.suffixed x hx
  refine ⟨r, hr, ⟨r.entries.map Emitter.entryLine, Emitter.source_registry he r, ?_⟩, ?_,
    fun k => ⟨?_, ?_⟩⟩
  · rw [List.map_map]
    refine List.map_congr_left fun x hx => ?_
    obtain ⟨s, -, hsuf⟩ := hsuffixed x hx
    exact Python.assignment?_line (hsuf.wellFormed (Identifier.ofName_wellFormed s))
  · intro x hx
    obtain ⟨s, hs, hsuf⟩ := hsuffixed x hx
    exact ⟨s, hs, hsuf, fun hspecial =>
      ⟨of_special_identifier hsuf hspecial, of_special_numbered hsuf hspecial⟩⟩
  · intro ms hms
    have hsub := members_sublist bareClass_className hms
    rw [List.filter_map] at hsub
    exact hsub
  · rw [members_eq_self_iff bareClass_className (distinct_assignments r), List.forall_mem_map]
    rfl

/-- One object that is told by a discriminant. -/
def sole (name : String) : Document :=
  ⟨[(.text name, .tagged "/m")]⟩

theorem members_of_registry_parcel :
    ∃ r, (build (sole "Parcel") []).result = .ok r ∧
      ∀ k : Hooks className,
        members k (r.entries.map assignmentOf) = some (r.entries.map assignmentOf) := by
  obtain ⟨r, hr, -, hentries, hmembers⟩ :=
    members_of_registry (sole "Parcel") (by simp [sole]) ⟨.python, [], ""⟩ rfl
  refine ⟨r, hr, fun k => (hmembers k).2.2 fun x hx hspecial => ?_⟩
  obtain ⟨s, hs, -, hx⟩ := hentries x hx
  obtain rfl : s = "Parcel" := by
    rw [Document.declarerIn, Option.map_eq_some_iff] at hs
    obtain ⟨p, hp, hps⟩ := hs
    rw [List.mem_singleton.1 (List.mem_of_find?_eq_some hp)] at hps
    exact (Name.text.inj hps).symm
  rcases (hx hspecial).1 with ⟨hmro, -⟩ | halpha
  · exact absurd hmro (by decide)
  · exact halpha 'P' (by decide) (by decide)

/-- There is no class with the discriminant of an object named `mro`. -/
theorem no_members_mro :
    ∃ r, (build (sole "mro") []).result = .ok r ∧ r.entries = [⟨"mro", "/m"⟩] ∧
      ∀ k : Hooks className, members k (r.entries.map assignmentOf) = none := by
  refine ⟨⟨[⟨"mro", "/m"⟩], by decide, by decide⟩, rfl, rfl, fun k => ?_⟩
  have hbound : (Python.Enumeration.bound className [assignmentOf ⟨"mro", "/m"⟩]).filter
      (fun a => Python.Enumeration.role className a.name ≠ .attribute) = [assignmentOf ⟨"mro", "/m"⟩] := by
    decide
  have hkeep : k.keep [assignmentOf ⟨"mro", "/m"⟩] = some [assignmentOf ⟨"mro", "/m"⟩] :=
    k.eq_self ⟨by decide, by decide⟩ (List.forall_mem_singleton.2 (by decide))
  simp only [members, List.map_cons, List.map_nil, hbound, hkeep]
  decide

end Registry

end SchemaDecl
