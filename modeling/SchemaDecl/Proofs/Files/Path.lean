import Mathlib.Data.List.Nodup
import SchemaDecl.Files.Path
import SchemaDecl.Proofs.Files.Tree
import SchemaDecl.Proofs.Identifier.Shape
import SchemaDecl.Proofs.Text.Lines
import SchemaDecl.Target

/-! Names that name an entry of a directory and nothing else: they hold no slash, and stand neither for
the directory itself nor for the one above. -/

namespace SchemaDecl

open Identifier (IsWord isLetterOrDigit)

/-- A name of an entry. -/
structure Path.Plain (name : String) : Prop where
  noSlash : '/' ∉ name.toList
  nonempty : name ≠ ""
  notHere : name ≠ "."
  notAbove : name ≠ ".."

namespace Path

variable {name : String}

theorem ofText_plain (h : Plain name) : ofText name = ⟨false, [name]⟩ := by
  have hstart : name.startsWith "/" = false := by
    rw [Bool.eq_false_iff, Ne, String.startsWith_string_iff]
    intro hp
    exact h.noSlash (hp.subset (by decide))
  rw [ofText, hstart, List.splitOn_eq_singleton h.noSlash, List.map_singleton, String.ofList_toList,
    List.filter_cons_of_pos (by simp [h.nonempty, h.notHere])]
  rfl

theorem entry_plain (h : Plain name) (d : Path) : d.entry name = ⟨d.absolute, d.names ++ [name]⟩ := by
  rw [entry, ofText_plain h]
  rfl

/-- No name of a path holds the slash that ends names. -/
theorem noSlash_ofText (s : String) : '/' ∉ (ofText s).name.toList := by
  rw [Path.name]
  cases hn : (ofText s).names.getLast? with
  | none => simp
  | some n =>
    have hmem : n ∈ (ofText s).names := List.mem_of_getLast? hn
    obtain ⟨part, hpart, rfl⟩ := List.mem_map.1 (List.mem_filter.1 hmem).1
    rw [Option.getD_some, String.toList_ofList]
    exact notMem_of_mem_splitOn hpart

theorem parent_entry (h : Plain name) (d : Path) : (d.entry name).parent = d := by
  rw [entry_plain h, parent, List.dropLast_concat]

theorem name_entry (h : Plain name) (d : Path) : (d.entry name).name = name := by
  rw [entry_plain h, Path.name, List.getLast?_concat]
  rfl

/-- An entry lies in a directory however that is reached. -/
theorem join_entry (h : Plain name) (p d : Path) : p.join (d.entry name) = (p.join d).entry name := by
  rw [entry_plain h, entry_plain h, join, join]
  split
  · rfl
  · rw [List.append_assoc]

end Path

/-! ### The names of generated files -/

open SchemaDecl.Path (Plain)

/-- Names that begin with a point are no words with an ending. -/
theorem plain_of_head {name : String} {c : Char} (hs : '/' ∉ name.toList)
    (hc : name.toList.head? = some c) (hp : c ≠ '.') : Plain name := by
  have hother : ∀ s ∈ ["", ".", ".."], name ≠ s := by
    rintro s hs rfl
    simp only [List.mem_cons, List.not_mem_nil, or_false] at hs
    rcases hs with rfl | rfl | rfl
    · cases hc
    · cases hc
      exact hp rfl
    · cases hc
      exact hp rfl
  exact ⟨hs, hother _ (by decide), hother _ (by decide), hother _ (by decide)⟩

/-- A name of a file that is no hidden one. -/
structure Path.Visible (name : String) : Prop extends Plain name where
  head : name.toList.head? ≠ some '.'

theorem Target.filename_visible (t : Target) {symbol : String} (h : IsWord symbol.toList) :
    Path.Visible (t.filename symbol) := by
  obtain ⟨c, cs, hs⟩ := List.exists_cons_of_ne_nil h.nonempty
  have hhead : (t.filename symbol).toList.head? = some c := by
    rw [filename, String.toList_append, hs]
    rfl
  have hword : ∀ x ∈ symbol.toList, x ≠ '/' ∧ x ≠ '.' := by
    intro x hx
    have hl := h.chars x hx
    constructor <;> rintro rfl <;> revert hl <;> decide
  have hslash : '/' ∉ (t.filename symbol).toList := by
    rw [filename, String.toList_append, List.mem_append, not_or]
    exact ⟨fun hx => (hword _ hx).1 rfl, by cases t <;> decide⟩
  have hpoint : c ≠ '.' := (hword c (hs ▸ List.mem_cons_self)).2
  exact ⟨plain_of_head hslash hhead hpoint, by rw [hhead]; simpa using hpoint⟩

namespace Files

theorem plain_temporaryName {name : String} (h : '/' ∉ name.toList) (n : Nat) :
    Plain (temporaryName name n) := by
  have hn : '/' ∉ (toString n).toList := by
    intro hm
    exact absurd (Identifier.isLetterOrDigit_of_mem_toString _ hm) (by decide)
  have hlong : 2 < (temporaryName name n).length := by
    have htmp : ".tmp".length = 4 := by decide
    simp only [temporaryName, String.length_append, htmp]
    omega
  have hother : ∀ s : String, s.length ≤ 2 → temporaryName name n ≠ s := by
    rintro s hs rfl
    omega
  refine ⟨?_, hother "" (by decide), hother "." (by decide), hother ".." (by decide)⟩
  simp only [temporaryName, String.toList_append, List.mem_append, not_or]
  exact ⟨⟨⟨⟨by decide, h⟩, by decide⟩, hn⟩, by decide⟩

/-- Whatever names are taken, the name of a temporary file is one of its kind. -/
theorem exists_freeName_eq (fs : Files) (place : List String) (name : String) (left n : Nat) :
    ∃ k, fs.freeName place name left n = temporaryName name k := by
  induction left generalizing n with
  | zero => exact ⟨n, rfl⟩
  | succ left ih =>
    rw [freeName]
    split
    · exact ⟨n, rfl⟩
    · exact ih (n + 1)

theorem temporaryName_inj {name : String} {m n : Nat} :
    temporaryName name m = temporaryName name n ↔ m = n := by
  refine ⟨fun h => ?_, fun h => h ▸ rfl⟩
  have hnumber := (String.append_right_inj _).1 ((String.append_left_inj _).1 h)
  exact Identifier.toString_inj.1 hnumber

/-- Names that the search passed over are taken. -/
theorem freeName_free_or_taken (fs : Files) (place : List String) (name : String) (left n : Nat) :
    fs.get? (place ++ [fs.freeName place name left n]) = none ∨
      ∀ k ∈ List.range' n (left + 1), fs.get? (place ++ [temporaryName name k]) ≠ none := by
  induction left generalizing n with
  | zero =>
    by_cases h : fs.get? (place ++ [temporaryName name n]) = none
    · exact Or.inl h
    · exact Or.inr fun k hk => List.mem_singleton.1 hk ▸ h
  | succ left ih =>
    rw [freeName]
    split
    next h => exact Or.inl (Option.isNone_iff_eq_none.1 h)
    next h =>
      refine (ih (n + 1)).imp_right fun hall k hk => ?_
      rw [List.range'_succ, List.mem_cons] at hk
      rcases hk with rfl | hk
      · exact fun hnone => h (Option.isNone_iff_eq_none.2 hnone)
      · exact hall k hk

/-- There are fewer files than names to try, so that one is found that is free. -/
theorem get?_freeName (fs : Files) (place : List String) (name : String) (n : Nat) :
    fs.get? (place ++ [fs.freeName place name fs.nodes.length n]) = none := by
  refine (fs.freeName_free_or_taken place name fs.nodes.length n).resolve_right fun htaken => ?_
  let places := (List.range' n (fs.nodes.length + 1)).map fun k => place ++ [temporaryName name k]
  have hnodup : places.Nodup := by
    refine (List.nodup_range' 1).map fun j k hjk => ?_
    exact temporaryName_inj.1 (List.singleton_inj.1 (List.append_cancel_left hjk))
  have hsubset : places ⊆ fs.nodes.map Prod.fst := by
    intro p hp
    obtain ⟨k, hk, rfl⟩ := List.mem_map.1 hp
    by_contra hnot
    refine htaken k hk ?_
    rw [get?_eq_lookup (by simp), List.lookup_eq_none_iff]
    intro e he
    have hne : place ++ [temporaryName name k] ≠ e.1 := fun heq => hnot (heq ▸ List.mem_map_of_mem he)
    simpa using hne
  have hlength := hnodup.length_le_of_subset hsubset
  rw [List.length_map, List.length_map, List.length_range'] at hlength
  omega

/-- A temporary file is new in its directory. -/
theorem createTemporary_eq_ok {fs fs' : Files} {d temporary : Path} {name : String}
    (hn : '/' ∉ name.toList) (h : fs.createTemporary d name = .ok (temporary, fs')) :
    ∃ place k, fs.locate d = .ok place ∧ fs.get? place = some .directory ∧
      temporary = d.entry (temporaryName name k) ∧
      fs.locate temporary = .ok (place ++ [temporaryName name k]) ∧
      fs.get? (place ++ [temporaryName name k]) = none ∧
      fs' = fs.set (place ++ [temporaryName name k]) (.file []) := by
  obtain ⟨place, hd, h⟩ := bind_eq_ok h
  obtain ⟨k, hk⟩ := fs.exists_freeName_eq place name fs.nodes.length 10000000
  have hplain := plain_temporaryName hn k
  have hfree := fs.get?_freeName place name 10000000
  rw [hk] at h hfree
  obtain ⟨fs'', hwrite, h⟩ := bind_eq_ok h
  cases h
  obtain ⟨goal, hgoal, -, rfl⟩ := write_eq_ok hwrite
  obtain ⟨place', hd', hdir, rfl⟩ := locate_entry hplain.notAbove (Path.entry_plain hplain d ▸ hgoal)
  rw [hd] at hd'
  cases hd'
  exact ⟨place, k, hd, hdir, rfl, hgoal, hfree, rfl⟩

end Files

end SchemaDecl
