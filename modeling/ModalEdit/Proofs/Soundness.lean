import ModalEdit.Proofs.CommandChanges
import ModalEdit.Proofs.OperatorChanges
import ModalEdit.Proofs.Runs

namespace ModalEdit

/-- The key stands for some text, without line breaks. -/
def Key.IsPlain (k : Key) : Prop :=
  k.text ≠ [] ∧ NewlineFree k.text

theorem Key.isPlain_char {c : Char} (h : c ≠ '\n') : (Key.char c).IsPlain :=
  ⟨List.cons_ne_nil _ _, newlineFree_singleton h⟩

namespace Document

variable {d : Document}

/-- The lines are plain and the cursor is among them, now and in every state to go back to. -/
structure Sound (d : Document) : Prop where
  plain : d.buffer.Plain
  cursor : d.buffer.Contains d.cursor
  history : ∀ saved ∈ d.history, saved.1.Plain ∧ saved.1.Contains saved.2

theorem Sound.moveTo {p : Position} (h : d.Sound) (hp : d.buffer.Contains p) :
    (d.moveTo p).Sound :=
  ⟨h.plain, hp, h.history⟩

theorem Sound.undo (h : d.Sound) : d.undo.Sound := by
  unfold Document.undo
  split
  · exact h
  · rename_i buffer cursor earlier he
    have hsaved := h.history
    rw [he] at hsaved
    obtain ⟨hplain, hcursor⟩ := hsaved (buffer, cursor) List.mem_cons_self
    refine ⟨hplain, hcursor, ?_⟩
    intro saved hm
    exact hsaved saved (List.mem_cons_of_mem _ hm)

theorem Sound.undoTimes (h : d.Sound) (n : Nat) : (d.undoTimes n).Sound := by
  unfold Document.undoTimes
  generalize min n d.history.length = times
  induction times with
  | zero => exact h
  | succ times ih => exact ih.undo

theorem Sound.change {c : Change} (h : d.Sound) (hc : c.Fits d.buffer) :
    ∃ d', d.grant (.change c.edit c.cursor) = (d', none) ∧ d'.Sound := by
  obtain ⟨b, hr, hcursor, _⟩ := hc.result
  refine ⟨_, grant_change hr, ⟨h.plain.of_result hr, hcursor, ?_⟩⟩
  intro saved hm
  dsimp only at hm
  split at hm
  · rcases List.mem_cons.1 hm with rfl | hm
    · exact ⟨h.plain, h.cursor⟩
    · exact h.history saved hm
  · exact h.history saved hm

theorem Sound.type {text : List Char} (h : d.Sound) (ht : NewlineFree text) :
    ∃ d', d.type text = (d', none) ∧ d'.Sound := by
  obtain ⟨i, c, hpos, hi, hc⟩ := h.cursor.exists_natCast
  obtain ⟨b, hr, _, hi', hline⟩ := Buffer.replace_inline c c h.plain (Nat.le_refl i) hi ht
  have hmade : Change.Fits ⟨⟨i, (c + text.length : Nat)⟩, some (.insert ⟨i, c⟩ text), none, true⟩
      d.buffer := by
    refine ⟨⟨b, hr, Buffer.contains_natCast.2 ⟨hi', ?_⟩, ?_⟩, (Option.some_ne_none _).symm⟩
    · rw [hline]
      simp only [List.length_append, List.length_take, List.length_drop]
      omega
    · intro he
      cases he
  obtain ⟨d', hd, hsound⟩ := h.change hmade
  refine ⟨d', ?_, hsound⟩
  rw [← hd]
  simp only [Document.type, grant, hpos]
  rfl

end Document

namespace Session

variable {s : Session} {b : Buffer} {k : Key}

/-- Operators and commands on a plain buffer succeed, and the change they make fits the buffer. -/
theorem Offers.fits {answer : Except Fault (Option Change)} (h : s.Offers b k answer)
    (hb : b.Plain) (hk : k.IsPlain) (hr : s.register ≠ some (.chars [])) : b.Accepts answer := by
  cases h with
  | operator op hs => exact op.run_fits hb hs
  | openBelow hpos =>
    obtain ⟨i, c, rfl, hi, _⟩ := hpos.exists_natCast
    exact Buffer.openBelow_fits hb hi
  | openAbove hpos =>
    obtain ⟨i, c, rfl, hi, _⟩ := hpos.exists_natCast
    exact Buffer.openAbove_fits hb hi
  | join n hpos =>
    obtain ⟨i, c, rfl, hi, _⟩ := hpos.exists_natCast
    exact Buffer.joinFrom_fits n hb hi
  | toggle n hpos =>
    obtain ⟨i, c, rfl, hi, hc⟩ := hpos.exists_natCast
    exact Buffer.toggleCase_fits n hb hi (Nat.le_trans hc (Nat.sub_le _ _))
  | replace hpos hn =>
    obtain ⟨i, c, rfl, hi, _⟩ := hpos.exists_natCast
    exact Buffer.replaceChars_fits hb hi hn hk.1 hk.2
  | putAfter hpos hn hreg =>
    obtain ⟨i, c, rfl, hi, _⟩ := hpos.exists_natCast
    apply Buffer.putAfter_fits hb hi hn
    intro he
    exact hr (he ▸ hreg)
  | putBefore hpos hn hreg =>
    obtain ⟨i, c, rfl, hi, _⟩ := hpos.exists_natCast
    apply Buffer.putBefore_fits hb hi hn
    intro he
    exact hr (he ▸ hreg)

/-- What a reaction asks of a sound document is granted, and leaves a sound document. -/
theorem Outcome.granted {d : Document} {r : Reaction} (h : s.Outcome d k r) (hd : d.Sound)
    (hk : k.IsPlain) (hr : s.register ≠ some (.chars [])) :
    (∃ request d', r.request = .ok request ∧ d.grant request = (d', none) ∧ d'.Sound) ∧
      r.session.register ≠ some (.chars []) := by
  cases h with
  | typed hm => exact ⟨⟨_, d, rfl, rfl, hd⟩, hr⟩
  | digit hm hdigit =>
    obtain ⟨n, _, rfl, _⟩ := digit?_eq_some hdigit
    exact ⟨⟨_, d, rfl, rfl, hd⟩, hr⟩
  | awaits hp ha hc => exact ⟨⟨_, d, rfl, rfl, hd⟩, hr⟩
  | rests hc hm hreg => exact ⟨⟨_, d, rfl, rfl, hd⟩, hreg ▸ hr⟩
  | moves hc hreg hp hm => exact ⟨⟨_, _, rfl, rfl, hd.moveTo hp⟩, hreg ▸ hr⟩
  | leaves hm => exact ⟨⟨_, _, rfl, rfl, hd.moveTo hd.cursor.isCell_left.contains⟩, hr⟩
  | shows hc hreg hm hsel hh => exact ⟨⟨_, _, rfl, rfl, hd.plain, hd.cursor, hd.history⟩, hreg ▸ hr⟩
  | undoes hu => exact ⟨⟨_, _, rfl, rfl, hd.undoTimes _⟩, hr⟩
  | @changes s' c hc hm hreg ho =>
    have hfits := Buffer.accepts_some.1 (ho.fits hd.plain hk hr)
    obtain ⟨d', hd', hsound⟩ := hd.change hfits
    refine ⟨⟨_, d', rfl, hd', hsound⟩, ?_⟩
    intro he
    rcases Option.or_eq_some_iff.1 he with he | ⟨_, he⟩
    · exact hfits.register he
    · exact hr (hreg ▸ he)
  | fails hc hm hreg ho => exact absurd (ho.fits hd.plain hk hr) (Buffer.not_accepts_error _ _)

end Session

namespace Editor

variable {limits : Limits} {clipboard : Clipboard} {e : Editor} {k : Key}

/-- Plain keys, and in insert mode text without line breaks. -/
def Entered (e : Editor) : Step → Prop
  | .key k => k.IsPlain
  | .type text => e.session.mode = .insert ∧ NewlineFree text
  | _ => False

theorem Entered.keyed {s : Step} (h : e.Entered s) : e.Keyed s := by
  cases s with
  | key k => trivial
  | type text => exact h.1
  | _ => exact h

theorem reaches_pressAll_chars (cs : List Char) (h : NewlineFree cs) :
    Reaches limits clipboard Entered e (e.pressAll limits clipboard (cs.map .char)) := by
  apply Reaches.refl.pressAll
  intro k hk e
  obtain ⟨c, hc, rfl⟩ := List.mem_map.1 hk
  apply Key.isPlain_char
  rintro rfl
  exact h hc

/-- Session and document are in order, and the register holds no empty text. -/
structure Sound (e : Editor) : Prop where
  steady : e.Steady
  document : e.document.Sound
  register : e.session.register ≠ some (.chars [])

theorem Sound.press (h : e.Sound) (hk : k.IsPlain) :
    (∃ report, (e.press clipboard k).2 = .ok report) ∧ (e.press clipboard k).1.Sound := by
  obtain ⟨⟨request, d', hreq, hd', hsound⟩, hreg⟩ :=
    (h.steady.outcome k).granted h.document hk h.register
  refine ⟨?_, h.steady.press, ?_, ?_⟩
  · simp only [Editor.press, hreq, hd']
    exact ⟨_, rfl⟩
  · rw [press_document, hreq, Document.granted, hd']
    exact hsound
  · rw [press_session]
    exact hreg

theorem Sound.pressWithin (h : e.Sound) (hk : k.IsPlain) :
    (e.pressWithin limits clipboard k).1.Sound := by
  cases ho : e.session.obstacle limits k with
  | none =>
    rw [pressWithin_of_none ho]
    exact (h.press hk).2
  | some stopped =>
    obtain ⟨s', f⟩ := stopped
    have hsteady : (e.pressWithin limits clipboard k).1.Steady := h.steady.pressWithin
    rw [pressWithin_of_obstacle ho] at hsteady ⊢
    exact ⟨hsteady, h.document, (Session.mode_of_obstacle ho).2 ▸ h.register⟩

theorem Sound.type {text : List Char} (h : e.Sound) (hm : e.session.mode = .insert)
    (ht : NewlineFree text) :
    (e.stepWithin limits clipboard (.type text)).2 = .ok .done ∧
      (e.stepWithin limits clipboard (.type text)).1.Sound := by
  obtain ⟨d', hd', hsound⟩ := h.document.type ht
  have hsteady : (e.stepWithin limits clipboard (.type text)).1.Steady := h.steady.stepWithin hm
  simp only [Editor.stepWithin, step, hd', edited] at hsteady ⊢
  exact ⟨trivial, hsteady, hsound, h.register⟩

theorem Sound.stepWithin {s : Step} (h : e.Sound) (hs : e.Entered s) :
    (e.stepWithin limits clipboard s).1.Sound := by
  cases s with
  | key k => exact h.pressWithin hs
  | type text => exact (h.type hs.1 hs.2).2
  | _ => exact hs.elim

theorem Reaches.sound {e₀ : Editor} (h : Reaches limits clipboard Entered e₀ e)
    (h₀ : e₀.session = {}) (hd : e₀.document.Sound) : e.Sound := by
  induction h with
  | refl =>
    refine ⟨steady_of_fresh h₀, hd, ?_⟩
    rw [h₀]
    exact (Option.some_ne_none _).symm
  | step _ hs ih => exact ih.stepWithin hs

/-- What keeps a step from being carried out. -/
def Hinders (limits : Limits) (e : Editor) (f : Fault) : Step → Prop
  | .key k => e.session.Unreadable limits k f ∨ e.session.Overfull limits k f
  | _ => False

theorem Sound.fails_iff {s : Step} (h : e.Sound) (hs : e.Entered s) :
    (∃ f, (e.stepWithin limits clipboard s).2 = .error f) ↔ ∃ f, e.Hinders limits f s := by
  cases s with
  | key k =>
    cases ho : e.session.obstacle limits k with
    | none =>
      obtain ⟨report, hr⟩ : ∃ report, (e.press clipboard k).2 = .ok report := (h.press hs).1
      apply iff_of_false
      · rintro ⟨f, hf⟩
        simp only [Editor.stepWithin, pressWithin_of_none ho, hr] at hf
        cases hf
      · rintro ⟨f, hunread | hover⟩
        · cases ho.symm.trans hunread.obstacle
        · obtain ⟨_, hstop⟩ := hover.exists_obstacle
          cases ho.symm.trans hstop
    | some stopped =>
      obtain ⟨s', f⟩ := stopped
      refine iff_of_true ⟨f, ?_⟩ ⟨f, (Session.obstacle_eq_some ho).imp And.left And.left⟩
      simp only [Editor.stepWithin, pressWithin_of_obstacle ho]
      rfl
  | type text =>
    apply iff_of_false
    · rw [(h.type hs.1 hs.2).1]
      rintro ⟨f, hf⟩
      cases hf
    · rintro ⟨f, hf⟩
      exact hf
  | _ => exact hs.elim

/-- Whatever is entered from a sound document, the lines stay plain, and cursor and selection stay
in the buffer. A step fails if and only if it uses a count too long to be read, or puts more copies
than can be made. -/
theorem sound_up_to_limits {e₀ : Editor} (h₀ : e₀.session = {}) (hd : e₀.document.Sound)
    (h : Reaches limits clipboard Entered e₀ e) :
    (e.document.buffer.Plain ∧ e.document.buffer.Contains e.document.cursor ∧
        ∀ sel, e.session.mode = .visual sel → sel.Inside e.document.buffer) ∧
      ∀ s, e.Entered s →
        ((∃ f, (e.stepWithin limits clipboard s).2 = .error f) ↔ ∃ f, e.Hinders limits f s) := by
  have hs := h.sound h₀ hd
  exact ⟨⟨hs.document.plain, hs.document.cursor, hs.steady.selection⟩, fun s => hs.fails_iff⟩

theorem sound_up_to_limits_put :
    ∃ f, ((({} : Editor).pressAll .standard .working
        ("yy9223372036854775808".toList.map .char)).stepWithin .standard .working
          (.key (.char 'p'))).2 = .error f := by
  have hreach : Reaches .standard .working Entered {} (({} : Editor).pressAll .standard .working
      ("yy9223372036854775808".toList.map .char)) :=
    reaches_pressAll_chars _ (show '\n' ∉ "yy9223372036854775808".toList by decide)
  have hsound : ({} : Editor).document.Sound :=
    ⟨Buffer.plain_ofText [], by decide, fun _ hm => absurd hm List.not_mem_nil⟩
  obtain ⟨_, hfails⟩ := sound_up_to_limits rfl hsound hreach
  refine (hfails (.key (.char 'p')) (Key.isPlain_char (by decide))).2 ⟨.countTooLarge, .inr ?_⟩
  exact ⟨.lines [[]], 2 ^ 63, by decide +kernel, by decide⟩

end Editor

end ModalEdit
