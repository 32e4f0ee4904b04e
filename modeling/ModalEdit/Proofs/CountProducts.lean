import ModalEdit.Proofs.PendingInput
import ModalEdit.Proofs.TypedCounts

namespace ModalEdit

/-- Keys that complete an operator command: one that is no digit and no lead, or a lead and any key
after it. -/
inductive Completes : List Key → Prop
  | key {k : Key} (hd : k.digit? = none) (hl : ∀ c, k = .char c → Lead.afterOperator? c = none) :
    Completes [k]
  | lead {c : Char} {lead : Lead} (hl : Lead.afterOperator? c = some lead) (k : Key) :
    Completes [.char c, k]

theorem Lead.digit?_of_afterOperator? {c : Char} {lead : Lead} (h : afterOperator? c = some lead) :
    (Key.char c).digit? = none := by
  cases hd : (Key.char c).digit? with
  | none => rfl
  | some n =>
    obtain ⟨hn, htext⟩ := Key.text_of_digit? hd
    rw [naturalText, Nat.toDigits_of_lt_base hn] at htext
    cases htext
    have hno : ∀ n < 10, afterOperator? n.digitChar = none := by decide
    cases h.symm.trans (hno n hn)

theorem Operator.afterOperator?_key (op : Operator) : Lead.afterOperator? op.key = none := by
  cases op <;> rfl

namespace Session

variable {s s' : Session} {d : Document} {op : Operator} {count count' : Option Nat} {k : Key}

/-- The sessions differ at most in how the count in effect was typed. -/
structure SameCount (s s' : Session) : Prop where
  clear : s.clear = s'.clear
  takenCount : s.takenCount = s'.takenCount

theorem mode_eq_of_clear (h : s.clear = s'.clear) : s.mode = s'.mode :=
  (congrArg mode h :)

theorem cursor_congr (h : s.clear = s'.clear) (d : Document) : s.cursor d = s'.cursor d := by
  simp only [cursor, mode_eq_of_clear h]

theorem escape_congr (h : s.clear = s'.clear) (d : Document) : s.escape d = s'.escape d := by
  simp only [escape, reset, h, mode_eq_of_clear h]

theorem operate_congr (h : s.clear = s'.clear) (d : Document) (op : Operator)
    (span : Option Span) : s.operate d op span = s'.operate d op span := by
  cases span with
  | none => simp only [operate, h]
  | some span => simp only [operate, h]

theorem follow_congr (h : s.clear = s'.clear) (b : Buffer) (pos : Position) (count : Option Int)
    (m : Option Motion) :
    (s.follow b pos count m).1.clear = (s'.follow b pos count m).1.clear ∧
      (s.follow b pos count m).2 = (s'.follow b pos count m).2 := by
  have haim (col : Option Int) :
      { s with desiredCol := col }.clear = { s' with desiredCol := col }.clear :=
    congrArg (fun s => { s with desiredCol := col }) h
  have hcol : s.desiredCol = s'.desiredCol := (congrArg desiredCol h :)
  cases m with
  | none => exact ⟨haim none, rfl⟩
  | some m =>
    unfold follow
    simp only [hcol]
    split
    · exact ⟨haim _, rfl⟩
    · exact ⟨haim none, rfl⟩

theorem followLead_congr (h : s.clear = s'.clear) (b : Buffer) (pos : Position)
    (count : Option Int) (lead : Lead) (k : Key) :
    (s.followLead b pos count lead k).1.clear = (s'.followLead b pos count lead k).1.clear ∧
      (s.followLead b pos count lead k).2 = (s'.followLead b pos count lead k).2 := by
  cases lead with
  | find kind =>
    have hfind : { s with lastSearch := some (kind, k.text) }.clear =
        { s' with lastSearch := some (kind, k.text) }.clear :=
      congrArg (fun s => { s with lastSearch := some (kind, k.text) }) h
    exact follow_congr hfind b pos count _
  | mark exact =>
    have hmark : s.motionToMark exact k = s'.motionToMark exact k := by
      have hmarks : s.marks = s'.marks := (congrArg marks h :)
      unfold motionToMark
      rw [hmarks]
    simp only [followLead, hmark]
    exact follow_congr h b pos count _
  | go =>
    simp only [followLead]
    split
    · exact follow_congr h b pos count _
    · exact ⟨h, rfl⟩
  | replace => exact ⟨h, rfl⟩
  | setMark => exact ⟨h, rfl⟩
  | object outer => exact ⟨h, rfl⟩

theorem SameCount.motionCount (h : s.SameCount s') : s.motionCount = s'.motionCount := by
  rw [Session.motionCount, Session.motionCount, h.takenCount]

/-- A key that completes an operator command sees nothing of a count but what it is in effect. -/
theorem SameCount.operatorKey (h : s.SameCount s')
    (hl : ∀ c, k = .char c → Lead.afterOperator? c = none) :
    s.operatorKey d op count k = s'.operatorKey d op count' k := by
  have hoperate := operate_congr h.clear d op
  cases k with
  | escape => exact hoperate none
  | named name => exact hoperate none
  | char c =>
    have hmotion : s.motionOn d s'.motionCount c = s'.motionOn d s'.motionCount c := by
      have hsearch : s.lastSearch = s'.lastSearch := (congrArg lastSearch h.clear :)
      unfold motionOn
      rw [hsearch]
    obtain ⟨hclear, hlanding⟩ := follow_congr h.clear d.buffer (s'.cursor d) s'.motionCount
      (s'.motionOn d s'.motionCount c)
    simp only [Session.operatorKey, hl c rfl, cursor_congr h.clear d, h.motionCount, hmotion,
      hlanding, hoperate, operate_congr hclear]

theorem SameCount.operatorLeadKey (h : s.SameCount s') (lead : Lead) :
    s.operatorLeadKey d op lead k = s'.operatorLeadKey d op lead k := by
  have hfollow := followLead_congr h.clear d.buffer (s'.cursor d) s'.motionCount lead k
  cases lead with
  | object outer =>
    simp only [Session.operatorLeadKey, cursor_congr h.clear d, operate_congr h.clear d op]
  | _ =>
    simp only [Session.operatorLeadKey, cursor_congr h.clear d, h.motionCount, hfollow.2,
      operate_congr hfollow.1]

theorem SameCount.mode_ne_insert (h : s.SameCount s') (hm : s.mode ≠ .insert) :
    s'.mode ≠ .insert :=
  mode_eq_of_clear h.clear ▸ hm

theorem SameCount.react_operator (h : s.SameCount s') (hm : s.mode ≠ .insert)
    (hp : s.pending = .operator op count) (hp' : s'.pending = .operator op count')
    (hd : k.digit? = none) (hl : ∀ c, k = .char c → Lead.afterOperator? c = none) :
    s.react d k = s'.react d k := by
  by_cases hk : k = .escape
  · subst hk
    exact escape_congr h.clear d
  · rw [react_of_ne_insert hm hk, react_of_ne_insert (h.mode_ne_insert hm) hk]
    simp only [command, digit?_eq_none hd, hp, hp']
    exact h.operatorKey hl

theorem SameCount.react_operatorLead {lead : Lead} (h : s.SameCount s') (hm : s.mode ≠ .insert)
    (hp : s.pending = .operatorLead op count lead)
    (hp' : s'.pending = .operatorLead op count' lead) : s.react d k = s'.react d k := by
  by_cases hk : k = .escape
  · subst hk
    exact escape_congr h.clear d
  · have hl : s.pending.lead?.isSome := by rw [hp]; rfl
    have hl' : s'.pending.lead?.isSome := by rw [hp']; rfl
    rw [react_of_ne_insert hm hk, react_of_ne_insert (h.mode_ne_insert hm) hk]
    simp only [command, digit?_eq_none_of_lead hl, digit?_eq_none_of_lead hl', hp, hp']
    exact h.operatorLeadKey lead

theorem SameCount.awaiting (h : s.SameCount s') (hp : s.pending = .operator op count)
    (hp' : s'.pending = .operator op count') (lead : Lead) :
    SameCount { s with pending := .operatorLead op count lead }
      { s' with pending := .operatorLead op count' lead } := by
  have htaken := h.takenCount
  simp only [Session.takenCount, hp, hp'] at htaken
  exact ⟨h.clear, htaken⟩

theorem react_lead {c : Char} {lead : Lead} (hm : s.mode ≠ .insert)
    (hp : s.pending = .operator op count) (hl : Lead.afterOperator? c = some lead) :
    s.react d (.char c) = { session := { s with pending := .operatorLead op count lead } } := by
  have hne : c ≠ op.key := by
    rintro rfl
    cases hl.symm.trans op.afterOperator?_key
  have hd := digit?_eq_none (s := s) (Lead.digit?_of_afterOperator? hl)
  rw [react_of_ne_insert hm Key.noConfusion]
  simp only [command, hd, hp, Session.operatorKey, if_neg hne, hl]

theorem react_operatorKey (hm : s.mode = .normal) (hp : s.pending = .idle) :
    s.react d (.char op.key) =
      { session := { s.clear with pending := .operator op s.takenCount } } := by
  have hd : (Key.char op.key).digit? = none := by cases op <;> rfl
  have hl : Lead.normal? op.key = none := by cases op <;> rfl
  have hno : isMotionKey op.key = false := by cases op <;> rfl
  rw [react_of_ne_insert (mode_ne_insert hm) Key.noConfusion]
  simp only [command, digit?_eq_none hd, hp, freshKey, hm, hl, hno, Operator.ofKey?_key,
    Bool.false_eq_true, if_false]

end Session

namespace Editor

variable {limits : Limits} {clipboard : Clipboard} {e : Editor} {k : Key} {op : Operator}

theorem press_congr {s s' : Session} (h : s.react e.document k = s'.react e.document k) :
    ({ e with session := s } : Editor).press clipboard k =
      ({ e with session := s' } : Editor).press clipboard k := by
  simp only [press, h]

theorem pressWithin_operatorKey (hm : e.session.mode = .normal) (hp : e.session.pending = .idle)
    (hr : e.session.count.bind limits.number = none) :
    (e.pressWithin limits clipboard (.char op.key)).1 =
      { e with session := { e.session.clear with
          pending := .operator op e.session.takenCount } } := by
  apply pressWithin_of_react
  · apply Session.obstacle_eq_none hr
    unfold Session.putting?
    rw [hm, hp]
    cases op <;> rfl
  · exact Session.react_operatorKey hm hp

theorem pressWithin_lead {c : Char} {lead : Lead} {count : Option Nat}
    (hm : e.session.mode ≠ .insert) (hp : e.session.pending = .operator op count)
    (hr : e.session.count.bind limits.number = none) (hl : Lead.afterOperator? c = some lead) :
    (e.pressWithin limits clipboard (.char c)).1 =
      { e with session := { e.session with pending := .operatorLead op count lead } } := by
  apply pressWithin_of_react
  · apply Session.obstacle_eq_none hr
    apply Session.putting?_eq_none
    rw [hp]
    exact Pending.operator_ne_idle op count
  · exact Session.react_lead hm hp hl

theorem pressAll_completes {s s' : Session} {count count' : Option Nat} {T : List Key}
    (h : s.SameCount s') (hm : s.mode ≠ .insert) (hp : s.pending = .operator op count)
    (hp' : s'.pending = .operator op count') (hr : s.count.bind limits.number = none)
    (hr' : s'.count.bind limits.number = none) (hT : Completes T) :
    ({ e with session := s } : Editor).pressAll limits clipboard T =
      ({ e with session := s' } : Editor).pressAll limits clipboard T := by
  have hm' := h.mode_ne_insert hm
  have hlast {t t' : Session} {k : Key} (hreact : t.react e.document k = t'.react e.document k)
      (ho : t.obstacle limits k = none) (ho' : t'.obstacle limits k = none) :
      ({ e with session := t } : Editor).pressAll limits clipboard [k] =
        ({ e with session := t' } : Editor).pressAll limits clipboard [k] := by
    rw [pressAll_cons, pressAll_cons, pressWithin_of_none ho, pressWithin_of_none ho',
      press_congr hreact]
  have hfree {t : Session} {k : Key} (hread : t.count.bind limits.number = none)
      (hbusy : t.pending ≠ .idle) : t.obstacle limits k = none :=
    Session.obstacle_eq_none hread (Session.putting?_eq_none hbusy)
  cases hT with
  | key hd hl =>
    apply hlast (h.react_operator hm hp hp' hd hl)
    · exact hfree hr (hp ▸ Pending.operator_ne_idle op count)
    · exact hfree hr' (hp' ▸ Pending.operator_ne_idle op count')
  | @lead c lead hl k =>
    have hawait {t : Session} {count : Option Nat} (hm : t.mode ≠ .insert)
        (hp : t.pending = .operator op count) (hr : t.count.bind limits.number = none) :
        ({ e with session := t } : Editor).pressAll limits clipboard [.char c, k] =
          ({ e with session := { t with pending := .operatorLead op count lead } } :
            Editor).pressAll limits clipboard [k] := by
      rw [pressAll_cons, pressWithin_lead hm hp hr hl]
    rw [hawait hm hp hr, hawait hm' hp' hr']
    apply hlast ((h.awaiting hp hp' lead).react_operatorLead hm rfl rfl)
    · exact hfree hr (Pending.operatorLead_ne_idle op count lead)
    · exact hfree hr' (Pending.operatorLead_ne_idle op count' lead)

/-- The editor after an operator key and the counts before and after it. -/
def operatorTyped (e : Editor) (op : Operator) (before after : Option Nat) : Editor :=
  { e with session := { e.session with pending := .operator op before, count := after } }

theorem pressAll_before {n : Nat} {T : List Key} (hm : e.session.mode = .normal)
    (hc : e.session.Cleared) (hn : 0 < n) (hr : limits.number n = none) :
    e.pressAll limits clipboard (Key.digits n ++ .char op.key :: T) =
      (e.operatorTyped op (some n) none).pressAll limits clipboard T := by
  have hl := hc.lead?_eq_none
  have htaken : (e.withCount n).session.takenCount = some n := by
    simp only [Session.takenCount, withCount, hc.1, Pending.operatorCount]
  rw [pressAll_append, pressAll_digits hn (Session.mode_ne_insert hm) hl hc.2, pressAll_cons,
    pressWithin_operatorKey (e := e.withCount n) hm hc.1 hr, htaken]
  rfl

theorem pressAll_operatorKey {T : List Key} (hm : e.session.mode = .normal)
    (hc : e.session.Cleared) :
    e.pressAll limits clipboard (.char op.key :: T) =
      (e.operatorTyped op none none).pressAll limits clipboard T := by
  have hr := hc.number_eq_none limits
  have htaken : e.session.takenCount = none := by
    rw [Session.takenCount, hc.1]
    exact hc.2
  rw [pressAll_cons, pressWithin_operatorKey hm hc.1 hr, htaken]
  rfl

theorem pressAll_after {m : Nat} {T : List Key} {before : Option Nat}
    (hm : e.session.mode ≠ .insert) (hpos : 0 < m) :
    (e.operatorTyped op before none).pressAll limits clipboard (Key.digits m ++ T) =
      (e.operatorTyped op before (some m)).pressAll limits clipboard T := by
  have hdigits : (e.operatorTyped op before none).pressAll limits clipboard (Key.digits m) =
      e.operatorTyped op before (some m) :=
    pressAll_digits hpos hm rfl rfl
  rw [pressAll_append, hdigits]

/-- What completes the command sees only the product of the counts. -/
theorem pressAll_operatorTyped {T : List Key} {before before' after after' : Option Nat}
    (hm : e.session.mode ≠ .insert) (hr : ∀ n ∈ after, limits.number n = none)
    (hr' : ∀ n ∈ after', limits.number n = none)
    (hcount : (e.operatorTyped op before after).session.takenCount =
      (e.operatorTyped op before' after').session.takenCount) (hT : Completes T) :
    (e.operatorTyped op before after).pressAll limits clipboard T =
      (e.operatorTyped op before' after').pressAll limits clipboard T := by
  have hread {count : Option Nat} (h : ∀ n ∈ count, limits.number n = none) :
      count.bind limits.number = none :=
    Option.bind_eq_none_iff.2 h
  exact pressAll_completes (e := e) ⟨rfl, hcount⟩ hm rfl rfl (hread hr) (hread hr') hT

/-- Counts before and after an operator do what their product does in either place. Only where the
digits of an integer are bounded can the product be too long to be read; an operator typed after it
then fails and changes nothing. -/
theorem counts_multiply {n m : Nat} {T : List Key} (hmode : e.session.mode = .normal)
    (hc : e.session.Cleared) (hn : 0 < n) (hm : 0 < m) (hT : Completes T) :
    (limits.number (n * m) = none →
        e.pressAll limits clipboard (Key.digits n ++ .char op.key :: (Key.digits m ++ T)) =
            e.pressAll limits clipboard (Key.digits (n * m) ++ .char op.key :: T) ∧
          e.pressAll limits clipboard (Key.digits (n * m) ++ .char op.key :: T) =
            e.pressAll limits clipboard (.char op.key :: (Key.digits (n * m) ++ T))) ∧
      ∀ f, limits.number (n * m) = some f →
        let typed := e.pressAll limits clipboard (Key.digits (n * m))
        typed.pressWithin limits clipboard (.char op.key) = (typed, .error f) := by
  have hne := Session.mode_ne_insert hmode
  have hpos : 0 < n * m := Nat.mul_pos hn hm
  constructor
  · intro hr
    have hrn : limits.number n = none := Limits.number_of_le (Nat.le_mul_of_pos_right n hm) hr
    have hrm : limits.number m = none := Limits.number_of_le (Nat.le_mul_of_pos_left m hn) hr
    rw [pressAll_before hmode hc hn hrn, pressAll_after hne hm, pressAll_before hmode hc hpos hr,
      pressAll_operatorKey hmode hc, pressAll_after hne hpos]
    constructor
    · apply pressAll_operatorTyped hne _ _ _ hT
      · rintro _ ⟨⟩
        exact hrm
      · rintro _ ⟨⟩
      · simp [operatorTyped, Session.takenCount, Pending.operatorCount]
    · apply pressAll_operatorTyped hne _ _ _ hT
      · rintro _ ⟨⟩
      · rintro _ ⟨⟩
        exact hr
      · simp [operatorTyped, Session.takenCount, Pending.operatorCount]
  · intro f hf
    rw [pressAll_digits hpos hne hc.lead?_eq_none hc.2]
    apply pressWithin_of_obstacle
    apply Session.Unreadable.obstacle
    refine ⟨?_, ?_, n * m, rfl, hf⟩
    · simp only [withCount, Session.usesCount, hmode, hc.1]
      cases op <;> rfl
    · apply Session.digit?_eq_none
      cases op <;> rfl

theorem counts_multiply_words :
    let e : Editor := { document := { buffer := .ofText "a b c d e f g h".toList } }
    (e.pressAll .standard .working ("2d3w".toList.map .char)).document.buffer.text = "g h".toList ∧
      e.pressAll .standard .working ("2d3w".toList.map .char) =
        e.pressAll .standard .working ("6dw".toList.map .char) := by
  intro e
  have hT : Completes [.char 'w'] := .key rfl (by rintro _ ⟨⟩; rfl)
  have hwords : e.pressAll .standard .working
        (Key.digits 2 ++ .char Operator.delete.key :: (Key.digits 3 ++ [.char 'w'])) =
      e.pressAll .standard .working
        (Key.digits (2 * 3) ++ .char Operator.delete.key :: [.char 'w']) :=
    ((counts_multiply rfl ⟨rfl, rfl⟩ (by decide) (by decide) hT).1 rfl).1
  exact ⟨by decide +kernel, hwords⟩

end Editor

end ModalEdit
