import ModalEdit.Proofs.MotionKeys

namespace ModalEdit

/-- Where a vertical motion that aims at a column may put the cursor: on that column, or at the end
of a line that is too short for it. -/
def Buffer.AimedAt (b : Buffer) (p : Position) (col : Int) : Prop :=
  b.Contains p ∧
    (p.col = min col (b.line p.line.toNat).length ∨
      p.col = max 0 (min col ((b.line p.line.toNat).length - 1)))

namespace Buffer

variable {b : Buffer} {p : Position} {col : Int}

theorem aimedAt_natCast {i c : Nat} :
    b.AimedAt ⟨i, c⟩ col ↔ (i < b.size ∧ c ≤ (b.line i).length) ∧
      ((c : Int) = min col (b.line i).length ∨
        (c : Int) = max 0 (min col ((b.line i).length - 1))) := by
  rw [AimedAt, contains_natCast]
  rfl

theorem AimedAt.clamp (h : b.AimedAt p col) : b.AimedAt (b.clamp p) col := by
  obtain ⟨i, c, rfl, hi, hc⟩ := h.1.exists_natCast
  obtain ⟨_, h⟩ := aimedAt_natCast.1 h
  rw [clamp_natCast hi, aimedAt_natCast]
  omega

theorem Contains.aimedAt (h : b.Contains p) : b.AimedAt p p.col := by
  obtain ⟨i, c, rfl, hi, hc⟩ := h.exists_natCast
  refine aimedAt_natCast.2 ⟨⟨hi, hc⟩, .inl ?_⟩
  exact (Int.min_eq_left (Int.ofNat_le.2 hc)).symm

end Buffer

namespace Session

/-- Where the cursor is: with a selection, its moving end. -/
def place (s : Session) (d : Document) : Position :=
  match s.mode with
  | .visual sel => sel.cursor
  | _ => d.cursor

/-- Outside insert mode, the cursor is where the remembered column has put it. -/
def Aims (s : Session) (d : Document) : Prop :=
  s.mode ≠ .insert → ∀ col, s.desiredCol = some col → d.buffer.AimedAt (s.place d) col

/-- The key keeps the remembered column, or remembers the one of the cursor, while it leaves the
cursor at a place that has nothing to do with it. -/
inductive Carries (s : Session) (d : Document) : Key → Int → Buffer → Position → Prop
  | undo {k : Key} {col : Int} {saved : Buffer × Position} (h : s.Undoes k)
    (hs : d.history[min (s.takenCount.getD 1) d.history.length - 1]? = some saved)
    (hc : s.desiredCol = some col) : Carries s d k col saved.1 saved.2
  | swap {sel : Selection} {col : Int} (hm : s.mode = .visual sel) (hp : s.pending = .idle)
    (hc : s.desiredCol = some col) : Carries s d (.char 'o') col d.buffer sel.anchor
  | object {sel : Selection} {k : Key} {outer : Bool} {span : Span} {col : Int}
    (hm : s.mode = .visual sel) (hp : s.pending = .lead (.object outer))
    (hf : objectOn d.buffer sel.cursor outer k = some span) (hc : s.desiredCol = some col) :
    Carries s d k col d.buffer span.stop
  | stuck {c : Char} {m : Motion} (hm : s.mode = .normal) (hp : s.pending.lead? = none)
    (hk : Motion.ofKey? c = some m) (hv : m = .up ∨ m = .down) (hc : s.desiredCol = none)
    (hrun : m.run d.buffer (s.cursor d) s.motionCount = none) :
    Carries s d (.char c) (s.cursor d).col d.buffer d.cursor

/-- The key leaves a column remembered that the cursor is not at. -/
def Displaces (s : Session) (d : Document) (k : Key) : Prop :=
  ∃ col b p, s.Carries d k col b p ∧ ¬ b.AimedAt p col

end Session

/-- What a reaction leaves aims at the remembered column. -/
def Reaction.Aims (r : Reaction) (d : Document) : Prop :=
  r.session.Aims (d.granted r.request)

namespace Session

section Walk

variable {s s' : Session} {d : Document} {k : Key}

theorem aims_of_none (h : s.desiredCol = none) : s.Aims d := by
  intro _ col hcol
  cases h.symm.trans hcol

theorem aims_of_insert (h : s.mode = .insert) : s.Aims d :=
  fun hne => absurd h hne

theorem aimedAt_seat {b : Buffer} {i : Nat} (hi : i < b.size) (s : Session) (col : Int) :
    b.AimedAt (s.seat b ⟨i, min col (b.line i).length⟩) col := by
  unfold seat
  split
  · simp only [Buffer.locate, Buffer.clampLine_natCast hi, Spot.position, Spot.at,
      Buffer.aimedAt_natCast]
    omega
  · simp only [Buffer.clamp, Buffer.clampLine_natCast hi, clampCol, Buffer.aimedAt_natCast]
    omega

theorem aims_attempt (h : s'.Aims d) (answer : Except Fault (Option Change)) :
    (s'.attempt answer).Aims d := by
  cases answer with
  | error f => exact h
  | ok change =>
    cases change with
    | none => exact h
    | some c => exact aims_of_none rfl

/-- An operator drops the column, unless nothing was found for it. -/
theorem aims_operate {op : Operator} {span : Option Span} (h : span = none → s'.Aims d) :
    (s'.operate d op span).Aims d := by
  cases span with
  | none => exact h rfl
  | some span => exact aims_attempt (aims_of_none rfl) _

theorem desiredCol_land (s : Session) (d : Document) (landing : Option Landing) :
    (s.land d landing).session.desiredCol = s.desiredCol := by
  unfold land
  split
  · rfl
  · split
    · rfl
    · rfl

theorem aims_showing {sel : Selection} (hm : s'.mode = .visual sel)
    (h : ∀ col, s'.desiredCol = some col → d.buffer.AimedAt sel.cursor col) :
    (s'.showing d).Aims d := by
  intro _ col hcol
  have hplace : s'.place (d.granted (s'.showing d).request) = sel.cursor := by
    simp only [place, hm]
  rw [buffer_showing]
  show d.buffer.AimedAt (s'.place _) col
  rw [hplace]
  exact h col hcol

theorem aims_goTo {p : Position} {col : Int} (h : d.buffer.AimedAt p col) :
    (s'.goTo d p (some col)).Aims d := by
  have haimed (col' : Int) (he : some col = some col') : d.buffer.AimedAt p col' := by
    cases he
    exact h
  unfold goTo
  split
  · rename_i sel hm
    have hmode : (s'.takenTo p (some col)).mode = .visual (sel.movedTo p) := by
      simp only [takenTo, hm]
    exact aims_showing hmode haimed
  · rename_i hm
    intro _ col' he
    have hplace : (s'.takenTo p (some col)).place (d.moveTo p) = p := by
      cases hmode : s'.mode with
      | normal => simp only [place, takenTo, hmode, Document.moveTo]
      | insert => simp only [place, takenTo, hmode, Document.moveTo]
      | visual sel => exact absurd hmode (hm sel)
    show d.buffer.AimedAt ((s'.takenTo p (some col)).place (d.moveTo p)) col'
    rw [hplace]
    exact haimed col' he

theorem desiredCol_follow {b : Buffer} {pos : Position} {count : Option Int} {m : Option Motion}
    (h : ∀ m' ∈ m, ¬ (m' = .up ∨ m' = .down)) :
    (s.follow b pos count m).1.desiredCol = none := by
  cases m with
  | none => rfl
  | some m => simp only [follow, if_neg (h m rfl)]

theorem followLead_column (s : Session) (b : Buffer) (pos : Position) (count : Option Int)
    (lead : Lead) (k : Key) :
    (s.followLead b pos count lead k).1.desiredCol = none ∨
      s.followLead b pos count lead k = (s, none) := by
  cases lead with
  | find kind =>
    left
    apply desiredCol_follow
    rintro _ ⟨⟩ (h | h) <;> cases h
  | mark exact =>
    left
    apply desiredCol_follow
    intro m hm
    cases k with
    | char c =>
      obtain ⟨p, _, rfl⟩ := Option.map_eq_some_iff.1 hm
      split
      · rintro (h | h) <;> cases h
      · rintro (h | h) <;> cases h
    | escape => cases hm
    | named name => cases hm
  | go =>
    simp only [followLead]
    split
    · left
      apply desiredCol_follow
      rintro _ ⟨⟩ (h | h) <;> cases h
    · exact .inr rfl
  | replace => exact .inr rfl
  | setMark => exact .inr rfl
  | object outer => exact .inr rfl

theorem aims_land_of_none (h : s'.desiredCol = none) (landing : Option Landing) :
    (s'.land d landing).Aims d :=
  aims_of_none ((desiredCol_land s' d landing).trans h)

theorem Carries.aimedAt {col : Int} {b : Buffer} {p : Position} (h : s.Carries d k col b p)
    (hno : ¬ s.Displaces d k) : b.AimedAt p col := by
  apply Classical.byContradiction
  intro hb
  exact hno ⟨col, b, p, h, hb⟩

theorem contains_cursor
    (hsel : ∀ sel, s.mode = .visual sel → sel.Inside d.buffer) :
    d.buffer.Contains (s.cursor d) := by
  unfold cursor
  split
  · rename_i sel hm
    exact (hsel sel hm).2
  · exact d.buffer.contains_clamp d.cursor

theorem motionOn_cases (s : Session) (d : Document) (count : Option Int) (c : Char) :
    (∃ m, (m = .up ∨ m = .down) ∧ Motion.ofKey? c = some m ∧ s.motionOn d count c = some m) ∨
      ∀ m ∈ s.motionOn d count c, ¬ (m = .up ∨ m = .down) := by
  have hline {number : Int} {col : Option Int} :
      ∀ m ∈ some (Motion.line number col), ¬ (m = .up ∨ m = .down) := by
    rintro _ ⟨⟩ (h | h) <;> cases h
  unfold motionOn
  split
  · exact .inr hline
  · exact .inr hline
  · exact .inr hline
  · right
    intro m hm
    obtain ⟨⟨kind, target⟩, _, rfl⟩ := Option.map_eq_some_iff.1 hm
    rintro (h | h) <;> cases h
  · right
    intro m hm
    obtain ⟨⟨kind, target⟩, _, rfl⟩ := Option.map_eq_some_iff.1 hm
    rintro (h | h) <;> cases h
  · cases hkey : Motion.ofKey? c with
    | none =>
      right
      intro m hm
      cases hm
    | some m =>
      by_cases hv : m = .up ∨ m = .down
      · exact .inl ⟨m, hv, rfl, rfl⟩
      · right
        rintro _ ⟨⟩
        exact hv

/-- A vertical motion that leads nowhere stays where it aims, unless it displaces the column. -/
theorem aimedAt_stay {c : Char} {m : Motion} (ha : s.Aims d) (hne : s.mode ≠ .insert)
    (hsel : ∀ sel, s.mode = .visual sel → sel.Inside d.buffer) (hp : s.pending.lead? = none)
    (hno : ¬ s.Displaces d (.char c)) (hk : Motion.ofKey? c = some m) (hv : m = .up ∨ m = .down)
    (hrun : m.run d.buffer ⟨(s.cursor d).line, s.desiredCol.getD (s.cursor d).col⟩
      s.motionCount = none) :
    d.buffer.AimedAt (s.place d) (s.desiredCol.getD (s.cursor d).col) := by
  cases hcol : s.desiredCol with
  | some col => exact ha hne col hcol
  | none =>
    rw [hcol] at hrun
    cases hm : s.mode with
    | normal =>
      have haimed := (Carries.stuck hm hp hk hv hcol hrun).aimedAt hno
      simpa only [place, hm, Option.getD_none] using haimed
    | insert => exact absurd hm hne
    | visual sel =>
      simp only [place, cursor, hm, Option.getD_none]
      exact (hsel sel hm).2.aimedAt

/-- Landing where a motion key leads keeps the column aimed at. -/
theorem aims_land_motionKey {c : Char} (ha : s.Aims d) (hne : s.mode ≠ .insert)
    (hsel : ∀ sel, s.mode = .visual sel → sel.Inside d.buffer) (hp : s.pending.lead? = none)
    (hno : ¬ s.Displaces d (.char c)) :
    ((s.follow d.buffer (s.cursor d) s.motionCount (s.motionOn d s.motionCount c)).1.land d
      (s.follow d.buffer (s.cursor d) s.motionCount (s.motionOn d s.motionCount c)).2).Aims d := by
  rcases s.motionOn_cases d s.motionCount c with ⟨m, hv, hk, hm⟩ | hm
  · obtain ⟨i, _, hcur, hi, _⟩ := (contains_cursor hsel).exists_natCast
    have hstay := aimedAt_stay ha hne hsel hp hno hk hv
    simp only [hm, follow, if_pos hv]
    generalize s.desiredCol.getD (s.cursor d).col = col at *
    rw [hcur] at hstay ⊢
    have hrun := Motion.run_vertical hv hi col s.motionCount
    cases hland : m.run d.buffer ⟨i, col⟩ s.motionCount with
    | none =>
      rintro _ _ ⟨⟩
      exact hstay hland
    | some landing =>
      rw [hland, Option.map_some] at hrun
      simp only at hrun
      split at hrun
      · cases hrun
      · rw [land_some, Option.some.inj hrun]
        exact aims_goTo (aimedAt_seat (Motion.goalLine_lt hi _) s col)
  · exact aims_land_of_none (desiredCol_follow hm) _

theorem aims_operate_motionKey {c : Char} {op : Operator} (ha : s.Aims d) (hm : s.mode = .normal)
    (hp : s.pending.lead? = none) (hno : ¬ s.Displaces d (.char c)) :
    ((s.follow d.buffer (s.cursor d) s.motionCount (s.motionOn d s.motionCount c)).1.operate d op
      ((s.follow d.buffer (s.cursor d) s.motionCount (s.motionOn d s.motionCount c)).2.bind
        (·.span))).Aims d := by
  have hsel (sel : Selection) (hv : s.mode = .visual sel) : sel.Inside d.buffer := by
    cases hm.symm.trans hv
  apply aims_operate
  intro hspan
  rcases s.motionOn_cases d s.motionCount c with ⟨m, hv, hk, hmotion⟩ | hmotion
  · simp only [hmotion, follow, if_pos hv] at hspan ⊢
    rintro _ _ ⟨⟩
    apply aimedAt_stay ha (mode_ne_insert hm) hsel hp hno hk hv
    cases hrun : m.run d.buffer ⟨(s.cursor d).line, s.desiredCol.getD (s.cursor d).col⟩
        s.motionCount with
    | none => rfl
    | some landing =>
      rw [hrun] at hspan
      exact absurd hspan (Motion.span_of_vertical hv hrun)
  · exact aims_of_none (desiredCol_follow hmotion)

end Walk

end Session

end ModalEdit
