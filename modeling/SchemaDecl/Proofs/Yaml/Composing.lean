import SchemaDecl.Proofs.Yaml.Tokens
import SchemaDecl.Yaml.Node

/-! Why the structure of a document cannot be read. Reading takes tokens from the front and looks at nothing
else of the text, so it fails either for the grammar or for the reason that the tokens broke off. -/

namespace SchemaDecl.Yaml

namespace Read

variable {α β : Type} {s : List Char} {fuel : Nat}

/-- Whatever the tokens left break off for stands in the text. -/
def Fed (s : List Char) (r : Reading) : Prop :=
  ∀ f, .broken f ∈ r.tokens → BreakOff s f

/-- What is read leaves only tokens that were there, or there is a reason in the text why it cannot be. -/
abbrev Reads (s : List Char) (x : Read α) : Prop :=
  Keeps (Fed s) (BreakOff s) (fun _ => True) x

theorem Reads.bind {x : Read α} {f : α → Read β} (h : Reads s x) (hf : ∀ a, Reads s (f a)) :
    Reads s (x >>= f) :=
  Keeps.bind h fun a _ => hf a

theorem reads_pure (a : α) : Reads s (pure a) :=
  keeps_pure trivial

theorem reads_malformed : Reads s (throw .malformed : Read α) :=
  keeps_throw .malformed

theorem reads_get : Reads s get :=
  keeps_get.imp fun _ _ => trivial

theorem Reads.ite {p : Prop} [Decidable p] {x y : Read α} (hx : Reads s x) (hy : Reads s y) :
    Reads s (if p then x else y) := by
  split
  · exact hx
  · exact hy

/-! ### Tokens -/

theorem reads_fail : Reads s (fail : Read α) := by
  intro r hr
  unfold fail
  split
  next f _ heq => exact .error (hr f (by rw [heq]; exact List.mem_cons_self))
  next => exact .error .malformed

theorem reads_peek : Reads s peek :=
  fun _ hr => .ok ⟨trivial, hr⟩

theorem reads_next : Reads s next :=
  fun _ hr => .ok ⟨trivial, fun f hf => hr f (List.mem_of_mem_tail hf)⟩

theorem reads_take (t : Token) : Reads s (take t) :=
  reads_peek.bind fun _ => .ite (reads_next.bind fun _ => reads_pure true) (reads_pure false)

theorem reads_sees (ts : List Token) : Reads s (sees ts) :=
  reads_peek.bind fun _ => reads_pure _

theorem reads_anchor? : Reads s anchor? := by
  refine reads_peek.bind fun t => ?_
  split
  · exact reads_next.bind fun _ => reads_pure _
  · exact reads_pure none

theorem reads_tag? : Reads s tag? := by
  refine reads_peek.bind fun t => ?_
  split
  · exact reads_next.bind fun _ => reads_pure _
  · exact reads_pure none

theorem reads_resolveTag (t : Option String × String) : Reads s (resolveTag t) := by
  unfold resolveTag
  split
  · exact reads_pure _
  · refine reads_get.bind fun r => ?_
    split
    · exact reads_pure _
    · exact reads_fail

/-! ### Nodes -/

/-- Noting something besides the tokens. -/
theorem reads_note {f : Reading → Reading} (h : ∀ r, (f r).tokens = r.tokens) :
    Reads s (modify f : Read PUnit) :=
  keeps_modify fun r hr f' hf' => hr f' (h r ▸ hf')

theorem reads_begin_ (a : Option String) (n : Node) : Reads s (begin_ a n) := by
  unfold begin_
  refine reads_get.bind fun r => ?_
  extract_lets push
  have hpush : ∀ u, Reads s (push u) := fun _ => (reads_note fun _ => by rfl).bind fun _ => reads_pure _
  split
  · exact hpush ()
  · extract_lets name
    have hname : ∀ u, Reads s (name u) := fun _ => (reads_note fun _ => by rfl).bind hpush
    exact .ite (reads_malformed.bind hname) (hname ())

theorem reads_complete (id : Nat) (n : Node) : Reads s (complete id n) :=
  (reads_note fun _ => by rfl).bind fun _ => reads_pure id

theorem reads_emptyNode : Reads s emptyNode :=
  reads_begin_ _ _

theorem reads_aliased (a : String) : Reads s (aliased a) := by
  refine reads_get.bind fun r => ?_
  split
  · exact reads_pure _
  · exact reads_malformed

theorem reads_emptyOr (fuel : Nat) (a t : Option String) : Reads s (emptyOr fuel a t) := by
  unfold emptyOr
  exact .ite (reads_begin_ _ _) reads_fail

/-- With some fuel everything that makes up nodes reads as it should. The functions call each other with
less fuel, so this is what the induction is on. -/
structure ReadsAt (s : List Char) (fuel : Nat) : Prop where
  node : ∀ block indentless, Reads s (node block indentless fuel)
  nodeUnless : ∀ stops block indentless, Reads s (nodeUnless stops block indentless fuel)
  blockItems : Reads s (blockItems fuel)
  indentlessItems : Reads s (indentlessItems fuel)
  blockEntries : Reads s (blockEntries fuel)
  flowPair : Reads s (flowPair fuel)
  flowItems : ∀ first, Reads s (flowItems first fuel)
  flowEntries : ∀ first, Reads s (flowEntries first fuel)

theorem readsAt_zero (s : List Char) : ReadsAt s 0 := by
  constructor <;> intros <;> exact reads_malformed

namespace ReadsAt

theorem node_succ (h : ReadsAt s fuel) (block indentless : Bool) :
    Reads s (Read.node block indentless (fuel + 1)) := by
  unfold Read.node
  refine reads_peek.bind fun t => ?_
  split
  · exact reads_next.bind fun _ => reads_aliased _
  · refine reads_anchor?.bind fun a => reads_tag?.bind fun t => ?_
    extract_lets withAnchor
    have hwithAnchor : ∀ a, Reads s (withAnchor a) := by
      intro a
      unfold withAnchor
      extract_lets withTag
      have hwithTag : ∀ t, Reads s (withTag t) := by
        intro t
        unfold withTag
        extract_lets seqTag sequence mapTag mapping
        have hsequence : ∀ items, Reads s items → Reads s (sequence items) := fun items hitems =>
          (reads_begin_ _ _).bind fun id => hitems.bind fun _ => reads_complete id _
        have hmapping : ∀ entries, Reads s entries → Reads s (mapping entries) := fun entries hentries =>
          (reads_begin_ _ _).bind fun id => hentries.bind fun _ => reads_complete id _
        refine reads_peek.bind fun t' => ?_
        split
        · exact .ite (hsequence _ h.indentlessItems) (reads_emptyOr _ _ _)
        · exact reads_next.bind fun _ => reads_begin_ _ _
        · exact reads_next.bind fun _ => hsequence _ (h.flowItems true)
        · exact reads_next.bind fun _ => hmapping _ (h.flowEntries true)
        · exact .ite (reads_next.bind fun _ => hsequence _ h.blockItems) (reads_emptyOr _ _ _)
        · exact .ite (reads_next.bind fun _ => hmapping _ h.blockEntries) (reads_emptyOr _ _ _)
        · exact reads_emptyOr _ _ _
      split
      · exact ((reads_resolveTag _).bind fun _ => reads_pure _).bind hwithTag
      · exact (reads_pure none).bind hwithTag
    exact .ite (reads_anchor?.bind hwithAnchor) ((reads_pure a).bind hwithAnchor)

theorem nodeUnless_succ (h : ReadsAt s fuel) (stops : List Token) (block indentless : Bool) :
    Reads s (Read.nodeUnless stops block indentless (fuel + 1)) := by
  unfold Read.nodeUnless
  exact (reads_sees stops).bind fun _ => .ite reads_emptyNode (h.node block indentless)

theorem blockItems_succ (h : ReadsAt s fuel) : Reads s (Read.blockItems (fuel + 1)) := by
  unfold Read.blockItems
  refine (reads_take _).bind fun _ => .ite ?_ ?_
  · exact (h.nodeUnless _ _ _).bind fun n => h.blockItems.bind fun ns => reads_pure (n :: ns)
  · exact (reads_take _).bind fun _ => .ite (reads_pure []) reads_fail

theorem indentlessItems_succ (h : ReadsAt s fuel) : Reads s (Read.indentlessItems (fuel + 1)) := by
  unfold Read.indentlessItems
  refine (reads_take _).bind fun _ => .ite ?_ (reads_pure [])
  exact (h.nodeUnless _ _ _).bind fun n => h.indentlessItems.bind fun ns => reads_pure (n :: ns)

theorem blockEntries_succ (h : ReadsAt s fuel) : Reads s (Read.blockEntries (fuel + 1)) := by
  unfold Read.blockEntries
  refine (reads_take _).bind fun _ => .ite ?_ ?_
  · refine (h.nodeUnless _ _ _).bind fun k => (reads_take _).bind fun _ => ?_
    extract_lets withValue
    have hwithValue : ∀ v, Reads s (withValue v) := fun _ => h.blockEntries.bind fun _ => reads_pure _
    exact .ite ((h.nodeUnless _ _ _).bind hwithValue) (reads_emptyNode.bind hwithValue)
  · exact (reads_take _).bind fun _ => .ite (reads_pure []) reads_fail

theorem flowPair_succ (h : ReadsAt s fuel) : Reads s (Read.flowPair (fuel + 1)) := by
  unfold Read.flowPair
  refine (h.nodeUnless _ _ _).bind fun k => (reads_take _).bind fun _ => ?_
  extract_lets withValue
  have hwithValue : ∀ v, Reads s (withValue v) := fun _ => reads_begin_ _ _
  exact .ite ((h.nodeUnless _ _ _).bind hwithValue) (reads_emptyNode.bind hwithValue)

theorem flowItems_succ (h : ReadsAt s fuel) (first : Bool) :
    Reads s (Read.flowItems first (fuel + 1)) := by
  unfold Read.flowItems
  refine (reads_take _).bind fun _ => .ite (reads_pure []) ?_
  extract_lets item
  have hitem : ∀ u, Reads s (item u) := by
    intro _
    refine (reads_take _).bind fun _ => .ite ?_ ?_
    · exact h.flowPair.bind fun n => (h.flowItems false).bind fun ns => reads_pure (n :: ns)
    · refine (reads_take _).bind fun _ => .ite (reads_pure []) ?_
      exact (h.node _ _).bind fun n => (h.flowItems false).bind fun ns => reads_pure (n :: ns)
  refine .ite ?_ (hitem ())
  exact (reads_take _).bind fun _ => .ite (reads_fail.bind hitem) (hitem ())

theorem flowEntries_succ (h : ReadsAt s fuel) (first : Bool) :
    Reads s (Read.flowEntries first (fuel + 1)) := by
  unfold Read.flowEntries
  refine (reads_take _).bind fun _ => .ite (reads_pure []) ?_
  extract_lets entry
  have hentry : ∀ u, Reads s (entry u) := by
    intro _
    refine (reads_take _).bind fun _ => .ite ?_ ?_
    · refine (h.nodeUnless _ _ _).bind fun k => (reads_take _).bind fun _ => ?_
      extract_lets withValue
      have hwithValue : ∀ v, Reads s (withValue v) := fun _ =>
        (h.flowEntries false).bind fun _ => reads_pure _
      exact .ite ((h.nodeUnless _ _ _).bind hwithValue) (reads_emptyNode.bind hwithValue)
    · refine (reads_take _).bind fun _ => .ite (reads_pure []) ?_
      exact (h.node _ _).bind fun k => reads_emptyNode.bind fun v =>
        (h.flowEntries false).bind fun es => reads_pure ((k, v) :: es)
  refine .ite ?_ (hentry ())
  exact (reads_take _).bind fun _ => .ite (reads_fail.bind hentry) (hentry ())

end ReadsAt

theorem readsAt (s : List Char) (fuel : Nat) : ReadsAt s fuel := by
  induction fuel with
  | zero => exact readsAt_zero s
  | succ fuel ih =>
    exact ⟨ih.node_succ, ih.nodeUnless_succ, ih.blockItems_succ, ih.indentlessItems_succ,
      ih.blockEntries_succ, ih.flowPair_succ, ih.flowItems_succ, ih.flowEntries_succ⟩

/-! ### Documents -/

theorem reads_directives (fuel : Nat) (versioned : Bool) (handles : List (String × String)) :
    Reads s (directives fuel versioned handles) := by
  induction fuel generalizing versioned handles with
  | zero => exact reads_malformed
  | succ fuel ih =>
    rw [directives]
    refine reads_peek.bind fun t => ?_
    split
    · refine reads_next.bind fun _ => ?_
      split
      · exact .ite (reads_malformed.bind fun _ => ih _ _) (ih _ _)
      · exact .ite (reads_malformed.bind fun _ => ih _ _) (ih _ _)
      · exact ih _ _
    · exact reads_pure handles

theorem reads_atDocumentEnd : Reads s atDocumentEnd := by
  refine reads_peek.bind fun t => ?_
  split
  all_goals exact reads_pure _

theorem reads_skipEnds (fuel : Nat) : Reads s (skipEnds fuel) := by
  induction fuel with
  | zero => exact reads_pure ()
  | succ fuel ih =>
    rw [skipEnds]
    exact (reads_take _).bind fun _ => .ite ih (reads_pure ())

theorem reads_finish (fuel n : Nat) : Reads s (document.finish fuel n) := by
  unfold document.finish
  exact (reads_skipEnds fuel).bind fun _ => reads_peek.bind fun _ => .ite (reads_pure _) reads_fail

theorem reads_document (fuel : Nat) : Reads s (document fuel) := by
  unfold document
  refine reads_peek.bind fun t => ?_
  have hnode : ∀ n, Reads s (document.finish fuel n) := reads_finish fuel
  split
  case h_1 => exact reads_pure none
  case h_4 => exact ((readsAt s fuel).node true false).bind hnode
  all_goals
    refine (reads_directives _ _ _).bind fun _ => (reads_take _).bind fun _ => ?_
    extract_lets atEnd content
    have hcontent : ∀ u, Reads s (content u) := fun _ =>
      (reads_note fun _ => by rfl).bind fun _ => reads_atDocumentEnd.bind fun _ =>
        .ite (reads_emptyNode.bind hnode) (((readsAt s fuel).node true false).bind hnode)
    exact .ite (reads_fail.bind hcontent) (hcontent ())

end Read

/-- Where a text is no document for another reason than its grammar, it holds the reason. -/
theorem breakOff_of_document? {s : List Char} {f : Flaw} (h : document? s = .error f) : BreakOff s f := by
  have hfed : Read.Fed s ⟨tokens s, Read.usualHandles, #[], []⟩ := fun _ => breakOff_of_mem_tokens
  have hread : Settles (BreakOff s) (fun _ => True) (document? s) :=
    (Read.reads_document _ _ hfed).bind fun _ _ => .ok trivial
  rw [h] at hread
  exact hread.of_error

end SchemaDecl.Yaml
