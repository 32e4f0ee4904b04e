import ModalEdit.Proofs.Outcomes

namespace ModalEdit

theorem Selection.exists_highlight {sel : Selection} {b : Buffer} (h : sel.Inside b) :
    ∃ start stop, sel.highlight b = .ok (start, stop) := by
  obtain ⟨anchor, cursor, shape⟩ := sel
  cases shape with
  | charwise => exact ⟨_, _, rfl⟩
  | linewise =>
    obtain ⟨i, _, rfl, hi, _⟩ := h.1.exists_natCast
    obtain ⟨j, _, rfl, hj, _⟩ := h.2.exists_natCast
    have hbottom : max (i : Int) (j : Int) = (max i j : Nat) := by omega
    have hlt : max i j < b.size := Nat.max_lt.2 ⟨hi, hj⟩
    simp only [highlight, bottom, hbottom, Buffer.lineAt_natCast hlt, bind, Except.bind]
    split
    · exact ⟨_, _, rfl⟩
    · exact ⟨_, _, rfl⟩

theorem Selection.Inside.span {sel : Selection} {b : Buffer} (h : sel.Inside b) :
    sel.span.Inside b := by
  obtain ⟨anchor, cursor, shape⟩ := sel
  cases shape with
  | charwise => exact fun _ => ⟨h.1.earlier h.2, h.1.later h.2⟩
  | linewise => exact Span.inside_linewise _ _ _

namespace Session

section Walk

variable {s s' : Session} {d : Document} {k : Key}

theorem cleared_clear (s : Session) : s.clear.Cleared :=
  ⟨rfl, rfl⟩

theorem isCell_cursor (d : Document) (hm : s.mode = .normal) : d.buffer.IsCell (s.cursor d) := by
  simp only [cursor, hm]
  exact d.buffer.isCell_clamp _

theorem showing_of_visual {sel : Selection} {start stop : Position} (hm : s.mode = .visual sel)
    (hh : sel.highlight d.buffer = .ok (start, stop)) :
    s.showing d = { session := s, request := .ok (.highlight start stop) } := by
  simp only [showing, hm, hh]
  rfl

theorem outcome_showing {sel : Selection} (hc : s'.Cleared) (hr : s'.register = s.register)
    (hm : s'.mode = .visual sel) (hsel : sel.Inside d.buffer) :
    s.Outcome d k (s'.showing d) := by
  obtain ⟨start, stop, hh⟩ := Selection.exists_highlight hsel
  rw [showing_of_visual hm hh]
  exact .shows hc hr hm hsel hh

theorem outcome_attempt {answer : Except Fault (Option Change)} (hc : s'.Cleared)
    (hm : s'.mode = .normal) (hr : s'.register = s.register) (h : s.Offers d.buffer k answer)
    (hnone : answer = .ok none → s.mode = .normal) : s.Outcome d k (s'.attempt answer) := by
  cases answer with
  | error f => exact .fails hc hm hr h
  | ok change =>
    cases change with
    | none => exact .rests hc (hm.trans (hnone rfl).symm) hr
    | some c => exact .changes hc hm hr h

theorem outcome_insertAt {p : Position} (hp : d.buffer.Contains p) :
    s.Outcome d k (s.insertAt p) :=
  .moves ⟨rfl, rfl⟩ rfl hp (.inl rfl)

theorem follow_session (s : Session) (b : Buffer) (pos : Position) (count : Option Int)
    (m : Option Motion) :
    ∃ col, (s.follow b pos count m).1 = { s with desiredCol := col } := by
  unfold follow
  split
  · exact ⟨_, rfl⟩
  · split
    · exact ⟨_, rfl⟩
    · exact ⟨_, rfl⟩

theorem followLead_session (s : Session) (b : Buffer) (pos : Position) (count : Option Int)
    (lead : Lead) (k : Key) :
    ∃ col search, (s.followLead b pos count lead k).1 =
      { s with desiredCol := col, lastSearch := search } := by
  cases lead with
  | find kind =>
    obtain ⟨col, h⟩ := follow_session { s with lastSearch := some (kind, k.text) } b pos count
      (some (.search kind k.text))
    exact ⟨col, some (kind, k.text), h⟩
  | mark exact =>
    obtain ⟨col, h⟩ := follow_session s b pos count (s.motionToMark exact k)
    exact ⟨col, s.lastSearch, h⟩
  | go =>
    simp only [followLead]
    split
    · obtain ⟨col, h⟩ := follow_session s b pos count (some .firstLine)
      exact ⟨col, s.lastSearch, h⟩
    · exact ⟨s.desiredCol, s.lastSearch, rfl⟩
  | replace => exact ⟨s.desiredCol, s.lastSearch, rfl⟩
  | setMark => exact ⟨s.desiredCol, s.lastSearch, rfl⟩
  | object outer => exact ⟨s.desiredCol, s.lastSearch, rfl⟩

theorem inside_of_follow {b : Buffer} {pos : Position} {count : Option Int} {m : Option Motion}
    {span : Span} (hpos : b.IsCell pos)
    (h : (s.follow b pos count m).2.bind (·.span) = some span) : span.Inside b := by
  obtain ⟨landing, hl, hspan⟩ := Option.bind_eq_some_iff.1 h
  unfold follow at hl
  split at hl
  · cases hl
  · rename_i m
    split at hl
    · rename_i hm
      exact Motion.inside_of_run (.inr hm) hl hspan
    · exact Motion.inside_of_run (.inl hpos) hl hspan

theorem inside_of_followLead {b : Buffer} {pos : Position} {count : Option Int} {lead : Lead}
    {span : Span} (hpos : b.IsCell pos)
    (h : (s.followLead b pos count lead k).2.bind (·.span) = some span) : span.Inside b := by
  cases lead with
  | find kind => exact inside_of_follow hpos h
  | mark exact => exact inside_of_follow hpos h
  | go =>
    simp only [followLead] at h
    split at h
    · exact inside_of_follow hpos h
    · cases h
  | replace => cases h
  | setMark => cases h
  | object outer => cases h

theorem contains_objectOn {b : Buffer} {pos : Position} {outer : Bool} {span : Span}
    (h : objectOn b pos outer k = some span) : b.Contains span.start ∧ b.Contains span.stop := by
  cases k with
  | char c =>
    obtain ⟨o, ho, hfind⟩ := Option.bind_eq_some_iff.1 h
    exact TextObject.contains_find (TextObject.ne_empty_quotation_of_ofKey? ho) hfind
  | escape => cases h
  | named name => cases h

/-- Landing from a session that differs from the present one only where motions may change it. -/
theorem outcome_land (hm : s'.mode = s.mode) (hr : s'.register = s.register)
    (hne : s.mode ≠ .insert) (hsel : ∀ sel, s.mode = .visual sel → sel.Inside d.buffer)
    (landing : Option Landing) : s.Outcome d k (s'.land d landing) := by
  cases landing with
  | none => exact .rests ⟨rfl, rfl⟩ hm hr
  | some landing =>
    cases hmode : s.mode with
    | normal =>
      have he : s'.land d (some landing) =
          ⟨s'.clear, .ok (.moveTo (d.buffer.clamp landing.position)), none, true⟩ := by
        simp only [land, hm, hmode]
      have hcell := d.buffer.isCell_clamp landing.position
      rw [he]
      exact .moves ⟨rfl, rfl⟩ hr hcell.contains (.inr ⟨hm.trans hmode, hcell⟩)
    | insert => exact absurd hmode hne
    | visual sel =>
      simp only [land, hm, hmode]
      have hmoved : (sel.movedTo (d.buffer.locate landing.position).position).Inside d.buffer :=
        ⟨(hsel sel hmode).1, d.buffer.contains_locate _⟩
      exact outcome_showing ⟨rfl, rfl⟩ hr rfl hmoved

theorem outcome_selectObject {span : Option Span} (hc : s'.Cleared) (hm : s'.mode = s.mode)
    (hr : s'.register = s.register)
    (hspan : ∀ sp, span = some sp → d.buffer.Contains sp.start ∧ d.buffer.Contains sp.stop) :
    s.Outcome d k (s'.selectObject d span) := by
  unfold selectObject
  split
  · rename_i sel sp _
    apply outcome_showing
    · exact hc
    · exact hr
    · rfl
    · exact hspan sp rfl
  · exact .rests hc hm hr

theorem outcome_operate {op : Operator} {span : Option Span} (hm : s'.mode = .normal)
    (hr : s'.register = s.register) (hn : s.mode = .normal)
    (hspan : ∀ sp, span = some sp → sp.Inside d.buffer) :
    s.Outcome d k (s'.operate d op span) := by
  cases span with
  | none => exact .rests ⟨rfl, rfl⟩ (hm.trans hn.symm) hr
  | some sp => exact outcome_attempt ⟨rfl, rfl⟩ hm hr (.operator op (hspan sp rfl)) fun _ => hn

theorem outcome_operateOn {sel : Selection} (op : Operator) (hsel : sel.Inside d.buffer) :
    s.Outcome d k (s.operateOn d op sel) := by
  have hoffer : s.Offers d.buffer k (op.run d.buffer sel.span) := .operator op hsel.span
  unfold operateOn
  simp only
  split
  · have hcell := d.buffer.isCell_clamp sel.span.start
    exact .moves ⟨rfl, rfl⟩ rfl hcell.contains (.inr ⟨rfl, hcell⟩)
  · rename_i hne
    exact outcome_attempt ⟨rfl, rfl⟩ rfl rfl hoffer fun he => absurd he hne

theorem outcome_escape (hm : s.mode ≠ .insert) : s.Outcome d k (s.escape d) := by
  cases hmode : s.mode with
  | normal =>
    have he : s.escape d = { session := s.reset } := by
      simp only [escape, hmode]
    rw [he]
    exact .rests ⟨rfl, rfl⟩ hmode.symm rfl
  | insert => exact absurd hmode hm
  | visual sel =>
    have hcell := d.buffer.isCell_clamp sel.cursor
    have he : s.escape d =
        ⟨s.reset, .ok (.moveTo (d.buffer.clamp sel.cursor)), none, true⟩ := by
      simp only [escape, hmode]
    rw [he]
    exact .moves ⟨rfl, rfl⟩ rfl hcell.contains (.inr ⟨rfl, hcell⟩)

theorem outcome_changeOrInsert {span : Span} (hc : s'.Cleared) (hm : s'.mode = .normal)
    (hr : s'.register = s.register) (hn : s.mode = .normal) (hspan : span.Inside d.buffer)
    (hstart : d.buffer.Contains span.start) :
    s.Outcome d k (s'.changeOrInsert d span) := by
  unfold changeOrInsert
  split
  · exact .moves ⟨rfl, rfl⟩ hr hstart (.inl rfl)
  · exact outcome_attempt hc hm hr (.operator .change hspan) fun _ => hn

theorem Consistent.mode_of_replace (hs : s.Consistent) (hp : s.pending = .lead .replace) :
    s.mode = .normal := by
  have hallows := hs.pending
  rw [hp] at hallows
  cases hmode : s.mode with
  | normal => rfl
  | insert =>
    rw [hmode] at hallows
    exact hallows.elim
  | visual sel =>
    have hno : Lead.replace.key ∉ Lead.visualKeys := by decide
    rw [hmode] at hallows
    exact absurd hallows hno

theorem outcome_finishLead {lead : Lead} (hs : s.Consistent) (hp : s.pending = .lead lead)
    (hsel : ∀ sel, s.mode = .visual sel → sel.Inside d.buffer) :
    s.Outcome d k (s.finishLead d lead k) := by
  have hallows := hs.pending
  rw [hp] at hallows
  have hne : s.mode ≠ .insert := by
    intro hm
    rw [hm] at hallows
    exact hallows
  have hland : s.Outcome d k ((s.followLead d.buffer (s.cursor d) s.motionCount lead k).1.land d
      (s.followLead d.buffer (s.cursor d) s.motionCount lead k).2) := by
    obtain ⟨col, search, he⟩ := followLead_session s d.buffer (s.cursor d) s.motionCount lead k
    rw [he]
    apply outcome_land
    · rfl
    · rfl
    · exact hne
    · exact hsel
  cases lead with
  | find kind => exact hland
  | mark exact => exact hland
  | go => exact hland
  | replace =>
    have hm := hs.mode_of_replace hp
    exact outcome_attempt ⟨rfl, rfl⟩ hm rfl (.replace (isCell_cursor d hm) hs.times_pos) fun _ => hm
  | setMark =>
    cases k with
    | char c =>
      simp only [finishLead]
      split
      · exact .rests ⟨rfl, rfl⟩ rfl rfl
      · exact .rests ⟨rfl, rfl⟩ rfl rfl
    | escape => exact .rests ⟨rfl, rfl⟩ rfl rfl
    | named name => exact .rests ⟨rfl, rfl⟩ rfl rfl
  | object outer =>
    exact outcome_selectObject ⟨rfl, rfl⟩ rfl rfl fun sp he => contains_objectOn he

theorem outcome_operatorKey {op : Operator} {count : Option Nat} (hm : s.mode = .normal)
    (hcount : ∀ n ∈ count, 0 < n) : s.Outcome d k (s.operatorKey d op count k) := by
  have hcell := isCell_cursor d hm
  have hdrop : s.Outcome d k (s.operate d op none) := .rests ⟨rfl, rfl⟩ rfl rfl
  cases k with
  | escape => exact hdrop
  | named name => exact hdrop
  | char c =>
    simp only [operatorKey]
    split
    · apply outcome_operate hm rfl hm
      intro _ he
      cases he
      exact Span.inside_linewise _ _ _
    · split
      · rename_i lead hlead
        exact .awaits (Pending.operatorLead_ne_idle _ _ _)
          ⟨hm, hcount, Lead.mem_operatorKeys hlead⟩ (.inl rfl)
      · split
        · split
          · apply outcome_operate hm rfl hm
            intro sp he
            obtain ⟨landing, hl, hspan⟩ := Option.bind_eq_some_iff.1 he
            exact Motion.inside_of_run (.inl hcell) hl hspan
          · obtain ⟨col, he⟩ := follow_session s d.buffer (s.cursor d) s.motionCount
              (s.motionOn d s.motionCount c)
            rw [he]
            exact outcome_operate hm rfl hm fun sp => inside_of_follow hcell
        · exact hdrop

theorem outcome_operatorLeadKey {op : Operator} {lead : Lead} (hm : s.mode = .normal) :
    s.Outcome d k (s.operatorLeadKey d op lead k) := by
  have hcell := isCell_cursor d hm
  have hfollow : s.Outcome d k ((s.followLead d.buffer (s.cursor d) s.motionCount lead k).1.operate
      d op ((s.followLead d.buffer (s.cursor d) s.motionCount lead k).2.bind (·.span))) := by
    obtain ⟨col, search, he⟩ := followLead_session s d.buffer (s.cursor d) s.motionCount lead k
    rw [he]
    exact outcome_operate hm rfl hm fun sp => inside_of_followLead hcell
  cases lead with
  | object outer => exact outcome_operate hm rfl hm fun sp he _ => contains_objectOn he
  | find kind => exact hfollow
  | mark exact => exact hfollow
  | go => exact hfollow
  | replace => exact hfollow
  | setMark => exact hfollow

theorem outcome_visualCommand {sel : Selection} {c : Char} (hm : s.mode = .visual sel)
    (hsel : sel.Inside d.buffer) : s.Outcome d k (s.visualCommand d sel c) := by
  have hturn (shape : Shape) : s.Outcome d k (if sel.shape = shape then s.escape d
      else { s.clear with mode := .visual { sel with shape } }.showing d) := by
    split
    · apply outcome_escape
      rw [hm]
      intro he
      cases he
    · exact outcome_showing ⟨rfl, rfl⟩ rfl rfl hsel
  unfold visualCommand
  split
  · exact hturn .charwise
  · exact hturn .linewise
  · exact outcome_showing ⟨rfl, rfl⟩ rfl rfl ⟨hsel.2, hsel.1⟩
  · exact .rests ⟨rfl, rfl⟩ rfl rfl

theorem outcome_normalCommand {c : Char} (hs : s.Consistent) (hm : s.mode = .normal)
    (hp : s.pending = .idle) : s.Outcome d (.char c) (s.normalCommand d c) := by
  have hcell := d.buffer.isCell_clamp d.cursor
  have hspot := d.buffer.in_locate (d.buffer.clamp d.cursor)
  have hcharacters := hspot.inside_cover hspot.col_le
    (Nat.min_le_right ((d.buffer.locate (d.buffer.clamp d.cursor)).col + s.takenCount.getD 1) _)
  have hlineEnd := hspot.inside_cover hspot.col_le (Nat.le_refl _)
  have hlines := Span.inside_linewise d.buffer (d.buffer.locate (d.buffer.clamp d.cursor)).position
  have hoffer {answer : Except Fault (Option Change)} (h : s.Offers d.buffer (.char c) answer) :
      s.Outcome d (.char c) (s.clear.attempt answer) :=
    outcome_attempt ⟨rfl, rfl⟩ hm rfl h fun _ => hm
  unfold normalCommand
  simp only
  split
  · exact outcome_insertAt hcell.contains
  · exact outcome_insertAt (hspot.contains_at (Nat.min_le_right _ _))
  · exact outcome_insertAt (hspot.contains_at (Nat.le_refl _))
  · exact outcome_insertAt (hspot.contains_at (firstNonBlank_le _))
  · exact hoffer (.openBelow hcell)
  · exact hoffer (.openAbove hcell)
  · exact hoffer (.operator .delete hcharacters)
  · exact outcome_changeOrInsert ⟨rfl, rfl⟩ hm rfl hm hcharacters hspot.contains_position
  · exact hoffer (.operator .change (hlines _))
  · exact hoffer (.operator .delete hlineEnd)
  · exact outcome_changeOrInsert ⟨rfl, rfl⟩ hm rfl hm hlineEnd hspot.contains_position
  · exact hoffer (.operator .yank (hlines _))
  · exact hoffer (.join _ hcell)
  · exact hoffer (.toggle _ hcell)
  · exact .undoes ⟨hm, hp, rfl⟩
  · split
    · rename_i r hr
      exact hoffer (.putAfter hcell hs.times_pos hr)
    · exact .rests ⟨rfl, rfl⟩ rfl rfl
  · split
    · rename_i r hr
      exact hoffer (.putBefore hcell hs.times_pos hr)
    · exact .rests ⟨rfl, rfl⟩ rfl rfl
  · exact outcome_showing ⟨rfl, rfl⟩ rfl rfl ⟨hcell.contains, hcell.contains⟩
  · exact outcome_showing ⟨rfl, rfl⟩ rfl rfl ⟨hcell.contains, hcell.contains⟩
  · exact .rests ⟨rfl, rfl⟩ rfl rfl

theorem outcome_freshKey {c : Char} (hs : s.Consistent) (hp : s.pending = .idle)
    (hne : s.mode ≠ .insert) (hsel : ∀ sel, s.mode = .visual sel → sel.Inside d.buffer) :
    s.Outcome d (.char c) (s.freshKey d c) := by
  have hland (count : Option Int) (m : Option Motion) :
      s.Outcome d (.char c) ((s.follow d.buffer (s.cursor d) count m).1.land d
        (s.follow d.buffer (s.cursor d) count m).2) := by
    obtain ⟨col, he⟩ := follow_session s d.buffer (s.cursor d) count m
    rw [he]
    apply outcome_land
    · rfl
    · rfl
    · exact hne
    · exact hsel
  have hawaits {lead : Lead} (h : s.mode.Allows (.lead lead)) :
      s.Outcome d (.char c) { session := { s with pending := .lead lead } } :=
    .awaits (Pending.lead_ne_idle lead) h (.inl rfl)
  cases hmode : s.mode with
  | insert => exact absurd hmode hne
  | normal =>
    rw [hmode] at hawaits
    simp only [freshKey, hmode]
    split
    · rename_i lead hlead
      exact hawaits (Lead.mem_normalKeys hlead)
    · split
      · exact hland _ _
      · cases hop : Operator.ofKey? c with
        | some op =>
          exact .awaits (Pending.operator_ne_idle _ _) ⟨hmode, hs.takenCount_pos⟩ (.inr rfl)
        | none => exact outcome_normalCommand hs hmode hp
  | visual sel =>
    have hinside := hsel sel hmode
    rw [hmode] at hawaits
    simp only [freshKey, hmode]
    split
    · rename_i lead hlead
      exact hawaits (Lead.mem_visualKeys hlead)
    · split
      · exact hland _ _
      · cases hop : Operator.ofKey? c with
        | some op => exact outcome_operateOn op hinside
        | none =>
          simp only
          split
          · exact outcome_operateOn _ hinside
          · exact outcome_visualCommand hmode hinside

theorem outcome_command (hs : s.Consistent) (hne : s.mode ≠ .insert)
    (hsel : ∀ sel, s.mode = .visual sel → sel.Inside d.buffer) :
    s.Outcome d k (s.command d k) := by
  cases hd : s.digit? k with
  | some s' =>
    simp only [command, hd]
    exact .digit hne hd
  | none =>
    have hallows := hs.pending
    cases hp : s.pending with
    | lead lead =>
      simp only [command, hd, hp]
      exact outcome_finishLead hs hp hsel
    | operator op count =>
      rw [hp] at hallows
      simp only [command, hd, hp]
      exact outcome_operatorKey hallows.1 hallows.2
    | operatorLead op count lead =>
      rw [hp] at hallows
      simp only [command, hd, hp]
      exact outcome_operatorLeadKey hallows.1
    | idle =>
      simp only [command, hd, hp]
      cases k with
      | char c => exact outcome_freshKey hs hp hne hsel
      | escape => exact .rests ⟨rfl, rfl⟩ rfl rfl
      | named name => exact .rests ⟨rfl, rfl⟩ rfl rfl

theorem react_of_insert (hm : s.mode = .insert) (hk : k ≠ .escape) :
    s.react d k = { session := s, consumed := false } := by
  cases k with
  | escape => contradiction
  | char c => simp only [react, hm]
  | named name => simp only [react, hm]

theorem react_of_ne_insert (hm : s.mode ≠ .insert) (hk : k ≠ .escape) :
    s.react d k = s.command d k := by
  cases hmode : s.mode with
  | insert => contradiction
  | normal =>
    cases k with
    | escape => contradiction
    | char c => simp only [react, hmode]
    | named name => simp only [react, hmode]
  | visual sel =>
    cases k with
    | escape => contradiction
    | char c => simp only [react, hmode]
    | named name => simp only [react, hmode]

/-- The reaction of a consistent session to any key is one of its outcomes. -/
theorem outcome_react (hs : s.Consistent)
    (hsel : ∀ sel, s.mode = .visual sel → sel.Inside d.buffer) :
    s.Outcome d k (s.react d k) := by
  by_cases hk : k = .escape
  · subst hk
    by_cases hm : s.mode = .insert
    · have he : s.react d .escape =
          ⟨s.reset, .ok (.moveTo ⟨d.cursor.line, max 0 (d.cursor.col - 1)⟩), none, true⟩ := by
        simp only [react, escape, hm]
      rw [he]
      exact .leaves hm
    · exact outcome_escape hm
  · by_cases hm : s.mode = .insert
    · rw [react_of_insert hm hk]
      exact .typed hm
    · rw [react_of_ne_insert hm hk]
      exact outcome_command hs hm hsel

end Walk

end Session

end ModalEdit
