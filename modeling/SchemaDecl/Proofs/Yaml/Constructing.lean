import SchemaDecl.Proofs.Outcomes
import SchemaDecl.Yaml.Reader

/-! Why the value of a document cannot be made. While contents are made the nodes keep their texts, and of
their tags only that for a default value may turn into that for a text; so whatever a scalar is refused for
is found in the document itself. -/

namespace SchemaDecl.Yaml

/-! ### Nodes by their numbers -/

/-- The node that a number stands for, an empty scalar when it stands for none. -/
def nodeAt (nodes : Array Node) (id : Nat) : Node :=
  nodes[id]?.getD default

def Graph.node (g : Graph) (id : Nat) : Node :=
  nodeAt g.nodes id

theorem nodeAt_setIfInBounds (nodes : Array Node) (id j : Nat) (n : Node) :
    nodeAt (nodes.setIfInBounds id n) j = n ∧ j = id ∨
      nodeAt (nodes.setIfInBounds id n) j = nodeAt nodes j := by
  unfold nodeAt
  rw [Array.getElem?_setIfInBounds]
  split
  next heq =>
    subst heq
    split
    · exact .inl ⟨rfl, rfl⟩
    next hsize => exact .inr (by rw [Array.getElem?_eq_none (by omega)])
  · exact .inr rfl

/-- What a node may turn into while contents are made. -/
structure Node.Becomes (n n' : Node) : Prop where
  tag : n'.tag = n.tag ∨ n.tag = tagOf "value" ∧ n'.tag = tagOf "str"
  text : ∀ t s, n' = .scalar t s → ∃ t', n = .scalar t' s

namespace Node.Becomes

variable {n n' : Node}

theorem refl (n : Node) : n.Becomes n :=
  ⟨.inl rfl, fun t _ h => ⟨t, h⟩⟩

theorem tag_eq (h : n.Becomes n') (hne : n'.tag ≠ tagOf "str") : n.tag = n'.tag := by
  rcases h.tag with heq | ⟨-, hstr⟩
  · exact heq.symm
  · exact absurd hstr hne

/-- The entries of a mapping may be replaced. -/
theorem mapping (h : n.Becomes n') (entries : List (Nat × Nat)) :
    n.Becomes (.mapping n'.tag entries) :=
  ⟨h.tag, fun _ _ heq => Node.noConfusion heq⟩

theorem retag (h : n.Becomes n') (hvalue : n'.tag = tagOf "value") :
    n.Becomes (Make.retag (tagOf "str") n') := by
  have htag : n.tag = tagOf "value" := by rw [h.tag_eq (by rw [hvalue]; decide), hvalue]
  refine ⟨.inr ⟨htag, by cases n' <;> rfl⟩, fun t s heq => ?_⟩
  cases n' with
  | scalar t' s' =>
    cases heq
    exact h.text t' s rfl
  | sequence => cases heq
  | mapping => cases heq

end Node.Becomes

/-! ### Reasons -/

/-- What a document must hold for its value not to be made. -/
inductive Unmade (g : Graph) : Flaw → Prop
  | malformed : Unmade g .malformed
  /-- A scalar whose text is no value of its kind. -/
  | scalar {id : Nat} {tag text : String} {f : Flaw} (hnode : g.node id = .scalar tag text)
      (hvalue : scalarValue? tag text = some (.error f)) : Unmade g f
  /-- A mapping that stands for a scalar by its default value, whose text is no value of the kind. -/
  | byDefault {mark place id : Nat} {tag text : String} {f : Flaw}
      (hmark : (g.node mark).tag = tagOf "value") (htext : g.node place = .scalar tag text)
      (hvalue : scalarValue? (g.node id).tag text = some (.error f)) : Unmade g f
  | timeByDefault {mark id : Nat} (hmark : (g.node mark).tag = tagOf "value")
      (htime : (g.node id).tag = tagOf "timestamp") : Unmade g .timeNotText
  | cyclic {mark : Nat} (hmark : (g.node mark).tag = tagOf "value") : Unmade g .cyclic

namespace Make

variable {α β : Type} {g : Graph} {P : α → Prop}

/-- The nodes are still those of the document. -/
def Stands (g : Graph) (m : Making) : Prop :=
  ∀ id, (g.node id).Becomes (nodeAt m.nodes id)

/-- What is made is of one kind and leaves the nodes standing, or there is a reason in the document. -/
abbrev MakesTo (g : Graph) (P : α → Prop) (x : Make α) : Prop :=
  Keeps (Stands g) (Unmade g) P x

/-- The same where it does not matter what was made. -/
abbrev Makes (g : Graph) (x : Make α) : Prop :=
  MakesTo g (fun _ => True) x

theorem MakesTo.bind {Q : β → Prop} {x : Make α} {f : α → Make β} (h : MakesTo g P x)
    (hf : ∀ a, P a → MakesTo g Q (f a)) : MakesTo g Q (x >>= f) :=
  Keeps.bind h hf

theorem Makes.bind {Q : β → Prop} {x : Make α} {f : α → Make β} (h : Makes g x)
    (hf : ∀ a, MakesTo g Q (f a)) : MakesTo g Q (x >>= f) :=
  Keeps.bind h fun a _ => hf a

theorem MakesTo.ite {p : Prop} [Decidable p] {x y : Make α} (hx : MakesTo g P x) (hy : MakesTo g P y) :
    MakesTo g P (if p then x else y) := by
  split
  · exact hx
  · exact hy

theorem makes_pure (a : α) : Makes g (pure a) :=
  keeps_pure trivial

theorem makes_malformed : MakesTo g P (throw .malformed) :=
  keeps_throw .malformed

theorem makes_get : Makes g get :=
  keeps_get.imp fun _ _ => trivial

theorem makes_mapM {f : α → Make β} {xs : List α} (hf : ∀ a, Makes g (f a)) : Makes g (xs.mapM f) :=
  (keeps_mapM fun a _ => hf a).imp fun _ _ => trivial

theorem makesTo_nodeOf (id : Nat) : MakesTo g (g.node id).Becomes (nodeOf id) :=
  keeps_get.bind fun _ hm => keeps_pure (hm id)

theorem makes_setNode {id : Nat} {n : Node} (h : (g.node id).Becomes n) : Makes g (setNode id n) := by
  refine keeps_modify fun m hm j => ?_
  rcases nodeAt_setIfInBounds m.nodes id j n with ⟨heq, rfl⟩ | heq
  · rw [heq]
    exact h
  · rw [heq]
    exact hm j

theorem makes_setContent (id : Nat) (c : Content) : Makes g (setContent id c) :=
  keeps_modify fun _ hm => hm

theorem makes_meet (id : Nat) (c : Content) : Makes g (meet id c) :=
  (makes_setContent id c).bind fun _ => keeps_modify fun _ hm => hm

/-! ### Merging -/

theorem makes_nextMerge? (i : Nat) (entries : List (Nat × Nat)) : Makes g (nextMerge? i entries) := by
  induction entries generalizing i with
  | nil => exact makes_pure none
  | cons e rest ih =>
    obtain ⟨k, v⟩ := e
    rw [nextMerge?]
    refine (makesTo_nodeOf k).bind fun key hkey => .ite (makes_pure _) ?_
    extract_lets go
    have hgo : ∀ u, Makes g (go u) := fun _ => ih (i + 1)
    split
    next hvalue => exact (makes_setNode (hkey.retag (by simpa using hvalue))).bind hgo
    next => exact hgo ()

theorem makes_entriesOf (id : Nat) : Makes g (entriesOf id) := by
  unfold entriesOf
  refine (makesTo_nodeOf id).bind fun n _ => ?_
  split
  · exact makes_pure _
  · exact makes_malformed

theorem makes_mergeFrom (fuel id i : Nat) (merged : List (Nat × Nat)) :
    Makes g (mergeFrom fuel id i merged) := by
  induction fuel generalizing id i merged with
  | zero => exact makes_malformed
  | succ fuel ih =>
    rw [mergeFrom]
    refine (makes_entriesOf id).bind fun entries => (makes_nextMerge? i _).bind fun found => ?_
    split
    · refine MakesTo.ite ?_ (makes_pure ())
      exact (makesTo_nodeOf id).bind fun n hn => makes_setNode (hn.mapping _)
    · refine (makesTo_nodeOf id).bind fun n hn => (makes_setNode (hn.mapping _)).bind fun _ => ?_
      refine (makesTo_nodeOf _).bind fun source _ => ?_
      split
      · exact (ih _ _ _).bind fun _ => (makes_entriesOf _).bind fun _ => ih _ _ _
      · have hgroup : ∀ n, Makes g (do
            let _ ← entriesOf n
            mergeFrom fuel n 0 []
            entriesOf n) := fun n =>
          (makes_entriesOf n).bind fun _ => (ih n 0 []).bind fun _ => makes_entriesOf n
        exact (makes_mapM hgroup).bind fun _ => ih _ _ _
      · exact makes_malformed

theorem makes_merge (id : Nat) : Makes g (merge id) :=
  makes_get.bind fun _ => makes_mergeFrom _ id 0 []

/-! ### Contents -/

/-- A document with a mark for a default value. -/
def HasMark (g : Graph) : Prop :=
  ∃ mark, (g.node mark).tag = tagOf "value"

/-- The text of a node is its own, or the document has a mark for a default value and the text is that of
another node. -/
def TextOf (g : Graph) (id : Nat) (p : String × Bool) : Prop :=
  (p.2 = false → ∃ tag, g.node id = .scalar tag p.1) ∧
    (p.2 = true → HasMark g) ∧ ∃ place tag, g.node place = .scalar tag p.1

theorem makesTo_scalarText (fuel id : Nat) (h : fuel = 0 → HasMark g) :
    MakesTo g (TextOf g id) (scalarText fuel id) := by
  induction fuel generalizing id with
  | zero =>
    obtain ⟨mark, hmark⟩ := h rfl
    exact keeps_throw (.cyclic hmark)
  | succ fuel ih =>
    rw [scalarText]
    refine (makesTo_nodeOf id).bind fun n hn => ?_
    split
    next t s =>
      obtain ⟨t', ht'⟩ := hn.text t s rfl
      exact keeps_pure ⟨fun _ => ⟨t', ht'⟩, fun h => Bool.noConfusion h, id, t', ht'⟩
    next => exact makes_malformed
    next tag entries =>
      have hfind : ∀ e ∈ entries, MakesTo g (fun b => b = true → HasMark g) (do
          let n ← nodeOf e.1
          return n.tag == tagOf "value") := fun e _ =>
        (makesTo_nodeOf e.1).bind fun n hn => keeps_pure fun hvalue => by
          have htag : n.tag = tagOf "value" := by simpa using hvalue
          exact ⟨e.1, by rw [hn.tag_eq (by rw [htag]; decide), htag]⟩
      refine Keeps.bind (keeps_findM? hfind) fun found hfound => ?_
      split
      next v =>
        have hmark : HasMark g := hfound _ rfl
        exact (ih v fun _ => hmark).bind fun p hp =>
          keeps_pure ⟨fun h => Bool.noConfusion h, fun _ => hmark, hp.2.2⟩
      next => exact makes_malformed

/-- A text that is refused for the tag of a node. -/
theorem unmade_of_scalarValue? {id : Nat} {n : Node} {s : String} {indirect : Bool} {f : Flaw}
    (hn : (g.node id).Becomes n) (hs : TextOf g id (s, indirect))
    (hf : (scalarValue? n.tag s).getD (.error .malformed) = .error f) : Unmade g f := by
  by_cases hstr : n.tag = tagOf "str"
  · rw [hstr] at hf
    simp [scalarValue?] at hf
  · have htag := hn.tag_eq hstr
    cases hvalue : scalarValue? n.tag s with
    | none =>
      rw [hvalue] at hf
      cases hf
      exact .malformed
    | some r =>
      rw [hvalue] at hf
      obtain rfl : r = .error f := hf
      cases indirect with
      | false =>
        obtain ⟨tag, hnode⟩ := hs.1 rfl
        rw [hnode] at htag
        exact .scalar hnode (by rw [show tag = n.tag from htag, hvalue])
      | true =>
        obtain ⟨mark, hmark⟩ := hs.2.1 rfl
        obtain ⟨place, tag, htext⟩ := hs.2.2
        exact .byDefault hmark htext (by rw [htag, hvalue])

/-- The tag is read before the text, but neither changes in between. -/
theorem makes_make (id : Nat) : Makes g (make id) := by
  unfold make
  refine makes_get.bind fun m => ?_
  split
  · exact makes_pure ()
  · refine (makesTo_nodeOf id).bind fun n hn => ?_
    extract_lets tag
    refine MakesTo.ite (makes_meet id _) ?_
    refine MakesTo.ite (makes_meet id _) ?_
    refine MakesTo.ite (makes_meet id _) ?_
    refine MakesTo.ite (makes_meet id _) ?_
    refine MakesTo.ite makes_malformed ?_
    refine makes_get.bind fun m => ?_
    refine (makesTo_scalarText _ id fun h => absurd h (by omega)).bind fun p hp => ?_
    obtain ⟨s, indirect⟩ := p
    dsimp -zeta only
    extract_lets value
    have hvalue : ∀ u, Makes g (value u) := by
      intro u
      unfold value
      split
      · exact makes_setContent id _
      next f heq => exact keeps_throw (unmade_of_scalarValue? hn hp heq)
    split
    next htime =>
      obtain ⟨hindirect, htag⟩ : indirect = true ∧ n.tag = tagOf "timestamp" := by
        simpa [tag] using htime
      obtain ⟨mark, hmark⟩ := hp.2.1 hindirect
      have htag' := (hn.tag_eq (by rw [htag]; decide)).trans htag
      exact Makes.bind (keeps_throw (.timeByDefault hmark htag')) hvalue
    next => exact hvalue ()

theorem makes_makeKey (id : Nat) : Makes g (makeKey id) := by
  unfold makeKey
  refine (makes_make id).bind fun _ => makes_get.bind fun m => ?_
  split
  · exact makes_pure _
  · exact makes_malformed

theorem makes_isLone (id : Nat) (v : Value) : Makes g (isLone id v) := by
  unfold isLone
  split
  · refine makes_get.bind fun m => ?_
    exact (makesTo_scalarText _ id fun h => absurd h (by omega)).bind fun _ _ => makes_pure _
  · exact makes_pure false

theorem makes_fillEntries (id : Nat) : Makes g (fillEntries id) := by
  unfold fillEntries
  refine (makes_entriesOf id).bind fun _ => (makes_merge id).bind fun _ => ?_
  refine (makes_entriesOf id).bind fun entries => ?_
  refine (makes_mapM fun e => ?_).bind fun _ => makes_pure _
  exact (makes_makeKey e.1).bind fun _ => (makes_make e.2).bind fun _ =>
    (makes_isLone e.1 _).bind fun _ => makes_pure _

theorem makes_itemsOf (id : Nat) : Makes g (itemsOf id) := by
  unfold itemsOf
  refine (makesTo_nodeOf id).bind fun n _ => ?_
  split
  · exact makes_pure _
  · exact makes_malformed

theorem makes_fill (id : Nat) : Makes g (fill id) := by
  unfold fill
  refine makes_get.bind fun m => ?_
  split
  · refine (makes_itemsOf id).bind fun items => ?_
    exact Makes.bind (keeps_forM fun i _ => makes_make i) fun _ => makes_setContent id _
  · exact (makes_fillEntries id).bind fun _ => makes_setContent id _
  · exact (makes_fillEntries id).bind fun _ => makes_setContent id _
  · refine (makes_itemsOf id).bind fun items => ?_
    refine (makes_mapM fun item => ?_).bind fun _ => makes_setContent id _
    refine (makes_entriesOf item).bind fun entries => ?_
    split
    · exact (makes_make _).bind fun _ => (makes_make _).bind fun _ => makes_pure _
    · exact makes_malformed
  · exact makes_pure ()

theorem makes_fillFrom (fuel i : Nat) : Makes g (fillFrom fuel i) := by
  induction fuel generalizing i with
  | zero => exact makes_pure ()
  | succ fuel ih =>
    rw [fillFrom]
    refine makes_get.bind fun m => ?_
    split
    · exact (makes_fill _).bind fun _ => ih (i + 1)
    · exact makes_pure ()

end Make

theorem unmade_of_contents {g : Graph} {f : Flaw} (h : g.contents = .error f) : Unmade g f := by
  have hstart : Make.Stands g ⟨g.nodes, Array.replicate g.nodes.size none, #[]⟩ :=
    fun id => Node.Becomes.refl (g.node id)
  have hmake : Settles (Unmade g) (fun _ => True) g.contents :=
    ((Make.makes_make g.root).bind fun _ => Make.makes_fillFrom _ 0) _ hstart |>.bind
      fun _ _ => .ok trivial
  rw [h] at hmake
  exact hmake.of_error

/-- Where no value comes of a document for another reason than its grammar, the document holds the reason. -/
theorem unmade_of_value {g : Graph} {f : Flaw} (h : g.value = .error f) : Unmade g f := by
  cases hc : g.contents with
  | ok contents => simp [Graph.value, hc, bind, Except.bind, pure, Except.pure] at h
  | error f' =>
    obtain rfl : f' = f := by simpa [Graph.value, hc, bind, Except.bind] using h
    exact unmade_of_contents hc

theorem of_read_eq_error {text : String} {f : Flaw} (h : read text = .error f) :
    document? text.toList = .error f ∨ ∃ g, document? text.toList = .ok (some g) ∧ g.value = .error f := by
  unfold read at h
  cases hd : document? text.toList with
  | error f' =>
    obtain rfl : f' = f := by simpa [hd, bind, Except.bind] using h
    exact .inl rfl
  | ok g =>
    rw [hd] at h
    cases g with
    | none => cases h
    | some g => exact .inr ⟨g, rfl, h⟩

end SchemaDecl.Yaml
