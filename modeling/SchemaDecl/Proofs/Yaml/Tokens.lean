import SchemaDecl.Proofs.Yaml.Scanning

/-! What the tokens of a text tell of the place where reading them broke off. Reading keeps to places of the
text and to tokens that are whole; where a step fails there is a reason for it in the text, and only that
reason becomes a token. -/

namespace SchemaDecl.Yaml

namespace Layout

variable {s : List Char} {l : Layout} {t : Token}

/-- What holds while reading goes on. -/
structure Sound (s : List Char) (l : Layout) : Prop where
  cursor : l.cursor.rest <:+ s
  tokens : ∀ t ∈ l.tokens, t.isWhole

/-- A step leads on, or there is a reason to break off. -/
abbrev Leads (s : List Char) (r : Except Flaw Layout) : Prop :=
  Settles (BreakOff s) (Sound s) r

theorem Sound.move (h : l.Sound s) {c : Cursor} (hc : l.cursor.Behind c) : (l.move c).Sound s :=
  ⟨List.IsSuffix.trans hc h.cursor, h.tokens⟩

theorem Sound.push (h : l.Sound s) (ht : t.isWhole) : (l.push t).Sound s :=
  ⟨h.cursor, List.forall_mem_cons.2 ⟨ht, h.tokens⟩⟩

theorem Sound.insertAt (h : l.Sound s) (ht : t.isWhole) (n : Nat) : (l.insertAt n t).Sound s := by
  refine ⟨h.cursor, fun u hu => ?_⟩
  rcases List.mem_append.1 hu with hu | hu
  · exact h.tokens u (List.mem_of_mem_take hu)
  · rcases List.mem_cons.1 hu with rfl | hu
    · exact ht
    · exact h.tokens u (List.mem_of_mem_drop hu)

/-! ### Possible keys -/

theorem leads_dropStale (h : l.Sound s) : Leads s l.dropStale := by
  unfold dropStale
  split
  · exact .error .malformed
  · exact .ok ⟨h.cursor, h.tokens⟩

theorem leads_dropKey (h : l.Sound s) : Leads s l.dropKey := by
  unfold dropKey
  split
  · split
    · exact .error .malformed
    · exact .ok ⟨h.cursor, h.tokens⟩
  · exact .ok h

theorem leads_saveKey (h : l.Sound s) : Leads s l.saveKey := by
  unfold saveKey
  split
  · exact (leads_dropKey h).bind fun m hm => .ok ⟨hm.cursor, hm.tokens⟩
  · exact .ok h

/-! ### Indentation -/

theorem sound_unwindFrom (column : Int) (indents : List Int) (h : l.Sound s) :
    (unwindFrom column indents l).Sound s := by
  induction indents generalizing l with
  | nil => exact ⟨h.cursor, h.tokens⟩
  | cons outer rest ih =>
    rw [unwindFrom]
    split
    · have hset : ({ l with indent := outer } : Layout).Sound s := ⟨h.cursor, h.tokens⟩
      exact ih (hset.push rfl)
    · exact ⟨h.cursor, h.tokens⟩

theorem sound_unwind (column : Int) (h : l.Sound s) : (l.unwind column).Sound s := by
  unfold unwind
  split
  · exact sound_unwindFrom column l.indents h
  · exact h

theorem sound_openBlock (column : Nat) (h : l.Sound s) : (l.openBlock column).Sound s :=
  ⟨h.cursor, h.tokens⟩

theorem leads_openFor (h : l.Sound s) (ht : t.isWhole) : Leads s (l.openFor t) := by
  unfold openFor
  split
  · exact .ok h
  · split
    · exact .error .malformed
    · split
      · exact .ok ((sound_openBlock _ h).push ht)
      · exact .ok h

/-! ### One token -/

theorem sound_skipToToken (fuel : Nat) (h : l.Sound s) : (skipToToken fuel l).Sound s := by
  induction fuel generalizing l with
  | zero => exact h
  | succ fuel ih =>
    rw [skipToToken]
    have hcomment := l.cursor.behind_skipComment
    split
    next heq =>
      exact ih ⟨(h.move (hcomment.trans (Cursor.behind_of_lineBreak heq))).cursor, h.tokens⟩
    next heq => exact h.move (hcomment.trans (Cursor.behind_of_lineBreak heq))

theorem leads_closeAll (h : l.Sound s) : Leads s l.closeAll := by
  unfold closeAll
  exact (leads_dropKey (sound_unwind (-1) h)).bind fun m hm => .ok ⟨hm.cursor, hm.tokens⟩

theorem leads_documentMark (h : l.Sound s) (ht : t.isWhole) : Leads s (l.documentMark t) := by
  unfold documentMark
  exact (leads_closeAll h).bind fun m hm => .ok ((hm.move (Cursor.behind_skip 3 _)).push ht)

/-- A token that was scanned at the place of the layout is put behind the others. -/
theorem leads_scanned {r : Except Flaw (Token × Cursor)} (h : l.Sound s)
    (hr : ScansTo (fun t => t.isWhole) l.cursor r) {f : Token × Cursor → Except Flaw Layout}
    (hf : ∀ t c, t.isWhole → (l.move c).Sound s → Leads s (f (t, c))) : Leads s (r >>= f) :=
  (hr.imp (BreakOff.mono h.cursor) fun _ hp => hp).bind fun p hp => hf p.1 p.2 hp.1 (h.move hp.2)

theorem leads_directive (h : l.Sound s) : Leads s l.directive := by
  unfold directive
  exact (leads_closeAll h).bind fun m hm =>
    leads_scanned hm (scans_scanDirective m.cursor) fun t c ht hc => .ok (hc.push ht)

theorem leads_openBracket (h : l.Sound s) (ht : t.isWhole) : Leads s (l.openBracket t) := by
  unfold openBracket
  refine (leads_saveKey h).bind fun m hm => .ok (Sound.push ⟨?_, hm.tokens⟩ ht)
  exact (hm.move m.cursor.behind_advance).cursor

theorem leads_closeBracket (h : l.Sound s) (ht : t.isWhole) : Leads s (l.closeBracket t) := by
  unfold closeBracket
  refine (leads_dropKey h).bind fun m hm => .ok (Sound.push ⟨?_, hm.tokens⟩ ht)
  exact (hm.move m.cursor.behind_advance).cursor

/-- Behind a character that is a token by itself. -/
theorem Sound.indicator (h : l.Sound s) (ht : t.isWhole) :
    ((l.move l.cursor.advance).push t).Sound s :=
  (h.move l.cursor.behind_advance).push ht

/-- Before such a character what began may have been a key, behind it another one may begin. -/
theorem leads_indicator (h : l.Sound s) (allowed : Bool) (ht : t.isWhole) : Leads s (do
    let m ← { l with keyAllowed := allowed }.dropKey
    .ok ((m.move m.cursor.advance).push t)) := by
  have hset : ({ l with keyAllowed := allowed } : Layout).Sound s := ⟨h.cursor, h.tokens⟩
  exact (leads_dropKey hset).bind fun m hm => .ok (hm.indicator ht)

theorem leads_flowEntry (h : l.Sound s) : Leads s l.flowEntry :=
  leads_indicator h true rfl

theorem leads_blockEntry (h : l.Sound s) : Leads s l.blockEntry :=
  (leads_openFor h rfl).bind fun _ hm => leads_indicator hm true rfl

theorem leads_keyMark (h : l.Sound s) : Leads s l.keyMark :=
  (leads_openFor h rfl).bind fun _ hm => leads_indicator hm _ rfl

theorem leads_valueMark (h : l.Sound s) : Leads s l.valueMark := by
  unfold valueMark
  split
  next k _ =>
    have hset : ({ l with keys := l.keys.filter fun e => e.1 != l.flow, keyAllowed := false } :
        Layout).Sound s := ⟨h.cursor, h.tokens⟩
    have hkey := hset.insertAt (t := .key) rfl k.before
    dsimp only
    split
    · have hblock := (sound_openBlock k.column hkey).insertAt (t := .blockMapping)
        rfl k.before
      exact .ok (hblock.indicator rfl)
    · exact .ok (hkey.indicator rfl)
  next => exact (leads_openFor h rfl).bind fun _ hm => leads_indicator hm _ rfl

theorem leads_simple {scan : Cursor → Except Flaw (Token × Cursor)} (h : l.Sound s)
    (hscan : ∀ c, ScansTo (fun t => t.isWhole) c (scan c)) : Leads s (l.simple scan) := by
  unfold simple
  exact (leads_saveKey h).bind fun m hm =>
    leads_scanned hm (hscan m.cursor) fun t c ht hc => .ok (Sound.push ⟨hc.cursor, hc.tokens⟩ ht)

theorem scans_name {make : String → Token} (hmake : ∀ a, (make a).isWhole) (c : Cursor) :
    ScansTo (fun t => t.isWhole) c (name make c) := by
  unfold name
  exact (scans_scanName c).bind fun a d _ => .ok ⟨hmake a, Cursor.Behind.refl d⟩

theorem leads_blockScalar (folded : Bool) (h : l.Sound s) : Leads s (l.blockScalar folded) := by
  unfold blockScalar
  have hset : ({ l with keyAllowed := true } : Layout).Sound s := ⟨h.cursor, h.tokens⟩
  exact (leads_dropKey hset).bind fun m hm =>
    leads_scanned hm (scans_scanBlockScalar folded m.indent m.cursor) fun t c ht hc => .ok (hc.push ht)

theorem leads_plain (h : l.Sound s) : Leads s l.plain := by
  unfold plain
  refine (leads_saveKey h).bind fun m hm => .ok (Sound.push ⟨?_, hm.tokens⟩ ?_)
  · exact (hm.move (behind_scanPlain (m.flow != 0) m.indent m.cursor)).cursor
  · rfl

theorem leads_token (h : l.Sound s) : Leads s l.token := by
  unfold token
  refine .ite (leads_directive h) ?_
  refine .ite (leads_documentMark h rfl) ?_
  refine .ite (leads_documentMark h rfl) ?_
  refine .ite (leads_openBracket h rfl) ?_
  refine .ite (leads_openBracket h rfl) ?_
  refine .ite (leads_closeBracket h rfl) ?_
  refine .ite (leads_closeBracket h rfl) ?_
  refine .ite (leads_flowEntry h) ?_
  refine .ite (leads_blockEntry h) ?_
  refine .ite (leads_keyMark h) ?_
  refine .ite (leads_valueMark h) ?_
  refine .ite (leads_simple h (scans_name fun _ => rfl)) ?_
  refine .ite (leads_simple h (scans_name fun _ => rfl)) ?_
  refine .ite (leads_simple h scans_scanTag) ?_
  refine .ite (leads_blockScalar false h) ?_
  refine .ite (leads_blockScalar true h) ?_
  refine .ite (leads_simple h (scans_scanQuoted false)) ?_
  refine .ite (leads_simple h (scans_scanQuoted true)) ?_
  refine .ite (leads_plain h) ?_
  exact .error .malformed

theorem leads_step (h : l.Sound s) :
    Settles (BreakOff s) (fun p => (∀ m ∈ p.1, m.Sound s) ∧ p.2.Sound s) l.step := by
  unfold step
  refine (leads_dropStale (sound_skipToToken _ h)).bind fun m hm => ?_
  have hn := sound_unwind m.cursor.column hm
  dsimp only
  generalize m.unwind m.cursor.column = n at hn ⊢
  split
  · exact (leads_dropKey (sound_unwind (-1) hn)).bind fun k hk => .ok ⟨by simp, hk⟩
  · exact (leads_token hn).bind fun k hk => .ok ⟨by simpa using hk, hn⟩

/-- What a token at the end that says that reading broke off says why. -/
theorem breakOff_of_mem_run {fuel : Nat} {f : Flaw} (h : l.Sound s)
    (hf : .broken f ∈ (run fuel l).tokens) : BreakOff s f := by
  induction fuel generalizing l with
  | zero =>
    rcases List.mem_cons.1 hf with heq | hmem
    · cases heq
      exact .malformed
    · exact Bool.noConfusion (h.tokens _ hmem)
  | succ fuel ih =>
    have hstep := leads_step h
    rw [run] at hf
    split at hf
    next f' heq =>
      -- besides the new token only tokens from before are left
      rw [heq] at hstep
      rcases List.mem_cons.1 hf with heq | hmem
      · cases heq
        exact hstep.of_error
      · exact Bool.noConfusion (h.tokens _ (List.mem_of_mem_drop hmem))
    next m heq =>
      rw [heq] at hstep
      rcases List.mem_cons.1 hf with heq | hmem
      · cases heq
      · exact Bool.noConfusion (hstep.of_ok.2.tokens _ hmem)
    next m _ heq =>
      rw [heq] at hstep
      exact ih (hstep.of_ok.1 m rfl) hf

end Layout

/-- Where the tokens of a text break off for another reason than its grammar, the text holds it. -/
theorem breakOff_of_mem_tokens {s : List Char} {f : Flaw} (hf : .broken f ∈ tokens s) : BreakOff s f := by
  unfold tokens at hf
  split at hf
  · have hstart : (Layout.start s).Sound s := ⟨List.suffix_rfl, by simp [Layout.start]⟩
    refine Layout.breakOff_of_mem_run ?_ (List.mem_reverse.1 hf)
    split
    · exact hstart.move (Cursor.behind_advance _)
    · exact hstart
  · obtain rfl : f = .malformed := by simpa using hf
    exact .malformed

end SchemaDecl.Yaml
