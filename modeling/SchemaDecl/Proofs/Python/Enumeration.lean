import SchemaDecl.Proofs.Python.ClassBody
import SchemaDecl.Proofs.Target.Literal

/-! The body of an enumeration in Python. It binds names to texts, and the names that it does not treat
in a manner of its own become members. Private names are attributes of the class alone, names between two
underscores on either side are special methods, those between one are kept for the class, and no member is
named `mro`. -/

namespace SchemaDecl.Python

/-- A name that a body binds, and its value. -/
structure Assignment where
  name : List Char
  value : List Nat
  deriving DecidableEq

namespace Enumeration

/-! ### Names -/

/-- A name as private ones are bound: behind an underscore and the name of the class. -/
def isMangled (cls key : List Char) : Bool :=
  let front := '_' :: (cls ++ dunder)
  front.length < key.length && front.isPrefixOf key && !dunder.isSuffixOf key

/-- A name between single underscores. -/
def isSunder (key : List Char) : Bool :=
  2 < key.length && key.head? == some '_' && key.getLast? == some '_' && key[1]? != some '_' &&
    key.reverse[1]? != some '_'

/-- A name between double underscores. -/
def isDunder (key : List Char) : Bool :=
  4 < key.length && dunder.isPrefixOf key && dunder.isSuffixOf key && key[2]? != some '_' &&
    key.reverse[2]? != some '_'

/-- The names between single underscores that a class knows. -/
def hookNames : List String :=
  ["_order_", "_generate_next_value_", "_numeric_repr_", "_missing_", "_ignore_", "_iter_member_",
    "_iter_member_by_value_", "_iter_member_by_def_"]

/-- The name of a method that classes have and members may not. -/
def resolution : List Char :=
  "mro".toList

inductive Role where
  | member
  /-- An attribute of the class. -/
  | attribute
  /-- A special method or a name that directs how the class is made. -/
  | hook
  | refused
  deriving DecidableEq

/-- How a body takes what is bound to a name. -/
def role (cls key : List Char) : Role :=
  if isMangled cls key then .attribute
  else if isSunder key then (if hookNames.contains (String.ofList key) then .hook else .refused)
  else if isDunder key then .hook
  else .member

/-- A name that the body of an enumeration treats in a manner of its own. -/
def Special (cls name : List Char) : Prop :=
  role cls (mangled cls name) ≠ .member ∨ name = resolution

instance (cls name : List Char) : Decidable (Special cls name) :=
  inferInstanceAs (Decidable (_ ∨ _))

section

variable {cls name : List Char}

/-- A private name has the class in front of it where it is bound. -/
theorem isMangled_mangled (hcls : bareClass cls = cls) (h : isPrivate cls name = true) :
    isMangled cls (mangled cls name) = true := by
  obtain ⟨hopens, hsuffix, -⟩ := isPrivate_eq_true_iff.1 h
  obtain ⟨rest, rfl⟩ := hopens
  have hrest : rest ≠ [] := by
    rintro rfl
    exact hsuffix (List.suffix_refl _)
  have hfront : mangled cls (dunder ++ rest) = '_' :: (cls ++ dunder) ++ rest := by
    rw [mangled_of_isPrivate h, hcls, List.cons_append, List.append_assoc]
  have hlast : ¬dunder <:+ '_' :: (cls ++ dunder) ++ rest := by
    intro hs
    refine hsuffix ?_
    rw [List.cons_append, List.append_assoc, ← List.cons_append] at hs
    exact List.suffix_of_suffix_length_le hs (List.suffix_append _ _) (by simp)
  rw [hfront]
  simp only [isMangled, Bool.and_eq_true, Bool.not_eq_true', decide_eq_true_eq]
  refine ⟨⟨?_, List.isPrefixOf_iff_prefix.2 (List.prefix_append _ _)⟩, ?_⟩
  · rw [List.length_append]
    have := List.length_pos_iff.2 hrest
    omega
  · rw [Bool.eq_false_iff, Ne, List.isSuffixOf_iff_suffix]
    exact hlast

theorem special_iff (hcls : bareClass cls = cls) : Special cls name ↔
    isPrivate cls name = true ∨ isMangled cls name = true ∨ isSunder name = true ∨
      isDunder name = true ∨ name = resolution := by
  have hrole : ∀ key, role cls key ≠ .member ↔
      isMangled cls key = true ∨ isSunder key = true ∨ isDunder key = true := by
    intro key
    unfold role
    split_ifs <;> simp_all
  rw [Special, hrole]
  cases hp : isPrivate cls name with
  | true => simp [isMangled_mangled hcls hp]
  | false => simp [mangled_of_not_isPrivate hp, or_assoc]

example : (∀ name ∈ ["_x_", "__x__", "__x", "_Kind__x", "mro"], Special "Kind".toList name.toList) ∧
    ∀ name ∈ ["_", "__", "___x__", "_x", "x_", "_Kind__", "Mro"], ¬Special "Kind".toList name.toList := by
  decide

/-- Special names but that of the method begin with an underscore. -/
theorem head?_of_special (hcls : bareClass cls = cls) (h : Special cls name) :
    name = resolution ∨ name.head? = some '_' := by
  have hdunder : ∀ {front : List Char}, '_' :: front <+: name → name.head? = some '_' := by
    rintro front ⟨rest, rfl⟩
    rfl
  rcases (special_iff hcls).1 h with hp | hm | hs | hd | rfl
  · exact Or.inr (hdunder (isPrivate_eq_true_iff.1 hp).1)
  · simp only [isMangled, Bool.and_eq_true, List.isPrefixOf_iff_prefix] at hm
    exact Or.inr (hdunder hm.1.2)
  · simp only [isSunder, Bool.and_eq_true, beq_iff_eq] at hs
    exact Or.inr hs.1.1.1.2
  · simp only [isDunder, Bool.and_eq_true, List.isPrefixOf_iff_prefix] at hd
    exact Or.inr (hdunder hd.1.1.1.2)
  · exact Or.inl rfl

/-- What ends with no underscore is special for what it begins with alone. -/
theorem of_special (hcls : bareClass cls = cls) (h : Special cls name)
    (hlast : name.getLast? ≠ some '_') (hname : name ≠ resolution) :
    isPrivate cls name = true ∨ isMangled cls name = true := by
  rcases (special_iff hcls).1 h with hp | hm | hs | hd | hmro
  · exact Or.inl hp
  · exact Or.inr hm
  · simp only [isSunder, Bool.and_eq_true, beq_iff_eq] at hs
    exact absurd hs.1.1.2 hlast
  · simp only [isDunder, Bool.and_eq_true, List.isSuffixOf_iff_suffix] at hd
    obtain ⟨front, rfl⟩ := hd.1.1.2
    exact absurd (by simp [dunder]) hlast
  · exact absurd hmro hname

end

/-! ### Bodies -/

/-- The names of a body as they are bound. -/
def bound (cls : List Char) (body : List Assignment) : List Assignment :=
  body.map fun a => { a with name := mangled cls a.name }

/-- What may become a member. -/
def candidates (cls : List Char) (body : List Assignment) : List Assignment :=
  body.filter fun a => role cls a.name = .member

/-- Whether no two names or values of a body are the same. -/
structure Distinct (body : List Assignment) : Prop where
  names : (body.map Assignment.name).Nodup
  values : (body.map Assignment.value).Nodup

/-- What special methods and the names that direct how a class is made do to it: they may leave members
out, and there may be no class with them. Without them all that may be a member is one. -/
structure Hooks (cls : List Char) where
  keep : List Assignment → Option (List Assignment)
  sublist {body kept : List Assignment} (h : keep body = some kept) : kept.Sublist (candidates cls body)
  eq_self {body : List Assignment} (hb : Distinct body) (h : ∀ a ∈ body, role cls a.name = .member) :
    keep body = some body

/-- The members of an enumeration with this body, if there is such a class. -/
def members {cls : List Char} (k : Hooks cls) (body : List Assignment) : Option (List Assignment) :=
  let body := (bound cls body).filter fun a => role cls a.name ≠ .attribute
  if body.any fun a => role cls a.name = .refused then none
  else (k.keep body).bind fun kept => if kept.any fun a => a.name = resolution then none else some kept

/-- A class is made if nothing directs how. -/
def strict (cls : List Char) : Hooks cls where
  keep body := if body.all fun a => role cls a.name = .member then some body else none
  sublist {body kept} h := by
    split at h
    next hall =>
      cases h
      rw [candidates, List.filter_eq_self.2 (List.all_eq_true.1 hall)]
    next => cases h
  eq_self {body} _ h := if_pos (List.all_eq_true.2 fun a ha => decide_eq_true (h a ha))

instance (cls : List Char) : Inhabited (Hooks cls) :=
  ⟨strict cls⟩

section

variable {cls : List Char}

/-- A name that is not special is bound as it is, and may become a member. -/
theorem mangled_of_not_special (hcls : bareClass cls = cls) {name : List Char} (h : ¬Special cls name) :
    mangled cls name = name := by
  rw [mangled_eq_self_iff, Bool.eq_false_iff]
  intro hp
  refine h (Or.inl ?_)
  rw [role, if_pos (isMangled_mangled hcls hp)]
  exact Role.noConfusion

/-- What is bound and may be a member is what has no special name. -/
theorem filter_bound (hcls : bareClass cls = cls) (body : List Assignment) :
    (bound cls body).filter (fun a => role cls a.name = .member ∧ a.name ≠ resolution) =
      body.filter fun a => ¬Special cls a.name := by
  have hkeep : ∀ a : Assignment,
      (role cls (mangled cls a.name) = .member ∧ mangled cls a.name ≠ resolution) ↔
        ¬Special cls a.name := by
    intro a
    constructor
    · rintro ⟨hrole, hname⟩ (hs | hs)
      · exact hs hrole
      · refine hname (?_ : mangled cls a.name = resolution)
        rw [hs, mangled_of_not_isPrivate (by rfl)]
    · intro hs
      rw [mangled_of_not_special hcls hs]
      have hrole : role cls (mangled cls a.name) = .member := by
        by_contra hrole
        exact hs (Or.inl hrole)
      rw [mangled_of_not_special hcls hs] at hrole
      exact ⟨hrole, fun hname => hs (Or.inr hname)⟩
  have hself : (body.filter fun a => ¬Special cls a.name).map
      (fun a => { a with name := mangled cls a.name }) = body.filter fun a => ¬Special cls a.name := by
    refine (List.map_congr_left fun a ha => ?_).trans (List.map_id _)
    have hs : ¬Special cls a.name := by simpa using (List.mem_filter.1 ha).2
    rw [mangled_of_not_special hcls hs]
    rfl
  rw [bound, List.filter_map]
  refine (congrArg _ (List.filter_congr fun a _ => ?_)).trans hself
  exact decide_eq_decide.2 (hkeep a)

/-- No special name becomes a member, whatever hooks do. -/
theorem members_sublist (hcls : bareClass cls = cls) {k : Hooks cls} {body ms : List Assignment}
    (h : members k body = some ms) : ms.Sublist (body.filter fun a => ¬Special cls a.name) := by
  simp only [members, Option.ite_none_left_eq_some, Option.bind_eq_some_iff, Option.some.injEq,
    List.any_eq_true, decide_eq_true_eq, not_exists, not_and] at h
  obtain ⟨-, kept, hkeep, hnames, rfl⟩ := h
  have hkept : kept = kept.filter fun a => a.name ≠ resolution :=
    (List.filter_eq_self.2 fun a ha => by simpa using hnames a ha).symm
  have hbound : ((bound cls body).filter fun a => role cls a.name = .member).filter
      (fun a => a.name ≠ resolution) =
        (bound cls body).filter fun a => role cls a.name = .member ∧ a.name ≠ resolution := by
    rw [List.filter_filter]
    exact List.filter_congr fun a _ => by simp [and_comm]
  rw [← filter_bound hcls, ← hbound, hkept]
  exact ((k.sublist hkeep).trans (List.filter_sublist.filter _)).filter _

/-- Exactly if no name is special, all that a body binds becomes members. -/
theorem members_eq_self_iff (hcls : bareClass cls = cls) {k : Hooks cls} {body : List Assignment}
    (hb : Distinct body) :
    members k body = some body ↔ ∀ a ∈ body, ¬Special cls a.name := by
  constructor
  · intro h a ha
    simpa using (List.mem_filter.1 ((members_sublist hcls h).subset ha)).2
  · intro h
    have hrole : ∀ a ∈ body, role cls a.name = .member := by
      intro a ha
      by_contra hrole
      refine h a ha (Or.inl ?_)
      rwa [mangled_of_not_special hcls (h a ha)]
    have hbound : bound cls body = body := by
      refine (List.map_congr_left fun a ha => ?_).trans (List.map_id body)
      rw [mangled_of_not_special hcls (h a ha)]
      rfl
    have hbody : body.filter (fun a => role cls a.name ≠ .attribute) = body :=
      List.filter_eq_self.2 fun a ha => by simp [hrole a ha]
    have hrefused : (body.any fun a => role cls a.name = .refused) = false :=
      List.any_eq_false.2 fun a ha => by simp [hrole a ha]
    have hnames : (body.any fun a => a.name = resolution) = false :=
      List.any_eq_false.2 fun a ha => by simpa using fun hname => h a ha (Or.inr hname)
    dsimp only [members]
    rw [hbound, hbody, hrefused, k.eq_self hb hrole, Option.bind_some, hnames]
    rfl

end

end Enumeration

end SchemaDecl.Python
