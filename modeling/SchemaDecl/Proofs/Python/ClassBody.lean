import Mathlib.Data.List.Infix

/-! Names in the body of a class. A private one, which begins with two underscores and does not end with
two, gets the name of the class in front and so no longer begins with two of them. -/

namespace SchemaDecl.Python

/-- Two underscores. -/
def dunder : List Char :=
  ['_', '_']

/-- The name of a class as it stands in the names of its private attributes. -/
def bareClass (cls : List Char) : List Char :=
  cls.dropWhile (· == '_')

/-- Whether a name is private to the class `cls`. A class of underscores alone has no private names. -/
def isPrivate (cls name : List Char) : Bool :=
  dunder.isPrefixOf name && !dunder.isSuffixOf name && !(bareClass cls).isEmpty

/-- What a name in the body of the class `cls` is bound to. -/
def mangled (cls name : List Char) : List Char :=
  if isPrivate cls name then '_' :: (bareClass cls ++ name) else name

section

variable {cls name : List Char}

theorem mangled_of_isPrivate (h : isPrivate cls name = true) :
    mangled cls name = '_' :: (bareClass cls ++ name) :=
  if_pos h

theorem mangled_of_not_isPrivate (h : isPrivate cls name = false) : mangled cls name = name := by
  rw [mangled, h]
  exact if_neg Bool.false_ne_true

theorem isPrivate_eq_true_iff : isPrivate cls name = true ↔
    dunder <+: name ∧ ¬dunder <:+ name ∧ bareClass cls ≠ [] := by
  simp [isPrivate, List.isPrefixOf_iff_prefix, List.isSuffixOf_iff_suffix, Bool.eq_false_iff, and_assoc]

/-- The name of a class begins with no underscore where it is put in front. -/
theorem head?_bareClass (cls : List Char) : (bareClass cls).head? ≠ some '_' := by
  intro h
  have hnot := List.head?_dropWhile_not (fun c => c == '_') cls
  rw [show List.dropWhile (fun c => c == '_') cls = bareClass cls from rfl, h] at hnot
  simp at hnot

/-- A name that has been mangled is no longer private. -/
theorem isPrivate_mangled (cls name : List Char) : isPrivate cls (mangled cls name) = false := by
  cases h : isPrivate cls name with
  | false => rw [mangled_of_not_isPrivate h, h]
  | true =>
    obtain ⟨-, -, hne⟩ := isPrivate_eq_true_iff.1 h
    obtain ⟨c, rest, hc⟩ := List.exists_cons_of_ne_nil hne
    have hhead := head?_bareClass cls
    rw [hc] at hhead
    rw [Bool.eq_false_iff, mangled_of_isPrivate h, hc]
    intro hp
    obtain ⟨hopens, -, -⟩ := isPrivate_eq_true_iff.1 hp
    rw [dunder, List.cons_append, List.cons_prefix_cons, List.cons_prefix_cons] at hopens
    exact hhead (congrArg some hopens.2.1.symm)

theorem mangled_eq_self_iff : mangled cls name = name ↔ isPrivate cls name = false := by
  refine ⟨fun h => ?_, mangled_of_not_isPrivate⟩
  rw [← h]
  exact isPrivate_mangled cls name

end

end SchemaDecl.Python
