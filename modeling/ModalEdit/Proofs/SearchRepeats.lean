import ModalEdit.Proofs.CharacterSearch
import ModalEdit.Proofs.Repetition

namespace ModalEdit

theorem Motion.run_search {b : Buffer} {kind : SearchKind} {target : List Char} {i p q : Nat}
    {count : Option Int} (hi : i < b.size) (hp : p ≤ (b.line i).length)
    (hq : kind.landing? (b.line i) p target (times count) = some q) :
    ∃ landing, (search kind target).run b (.ofNats (i, p)) count = some landing ∧
      landing.position = .ofNats (i, q) := by
  have hspot : b.locate (.ofNats (i, p)) = ⟨i, b.line i, p⟩ := Buffer.locate_natCast hi hp
  simp only [run, hspot, hq]
  exact ⟨_, rfl, rfl⟩

namespace Session

variable {s : Session} {kind : SearchKind} {target : List Char}

theorem motionOn_semicolon (h : s.lastSearch = some (kind, target)) (d : Document)
    (count : Option Int) : s.motionOn d count ';' = some (.search kind target) := by
  simp only [motionOn, h, Option.map_some]

theorem motionOn_comma (h : s.lastSearch = some (kind, target)) (d : Document)
    (count : Option Int) : s.motionOn d count ',' = some (.search kind.reverse target) := by
  simp only [motionOn, h, Option.map_some]

end Session

namespace Editor

variable {limits : Limits} {clipboard : Clipboard} {e : Editor} {kind : SearchKind} {c k : Char}
  {i p q n : Nat}

/-- The cursor is on a character that the last search was for, and no input is pending. -/
structure OnSearched (e : Editor) (kind : SearchKind) (c : Char) (i p : Nat) : Prop where
  mode : e.session.mode ≠ .insert
  cleared : e.session.Cleared
  search : e.session.lastSearch = some (kind, [c])
  cursor : e.session.cursor e.document = .ofNats (i, p)
  found : (e.document.buffer.line i)[p]? = some c

theorem isSeat_of_getElem? (hi : i < e.document.buffer.size)
    (hq : (e.document.buffer.line i)[q]? = some c) : e.IsSeat (.ofNats (i, q)) := by
  obtain ⟨hlt, _⟩ := List.getElem?_eq_some_iff.1 hq
  have hroom := e.session.room_le
  have hcol : q ≤ (e.document.buffer.line i).length - e.session.room := by omega
  exact (isSeat_ofNats hi).2 (Buffer.seat_eq_self_iff.2 hcol)

theorem OnSearched.line_lt (h : e.OnSearched kind c i p) (hs : e.Steady) :
    i < e.document.buffer.size := by
  obtain ⟨j, col, hcur, hj, _⟩ := (isSeat_cursor hs h.mode).contains.exists_natCast
  obtain rfl : i = j := Int.natCast_inj.1 (congrArg Position.line (h.cursor.symm.trans hcur))
  exact hj

theorem OnSearched.goTo (h : e.OnSearched kind c i p) (hi : i < e.document.buffer.size)
    (hq : (e.document.buffer.line i)[q]? = some c) :
    (e.goTo (.ofNats (i, q)) none).OnSearched kind c i q where
  mode := mode_goTo h.mode
  cleared := ⟨rfl, rfl⟩
  search := h.search
  cursor := cursor_goTo h.mode (isSeat_of_getElem? hi hq)
  found := by
    rw [buffer_goTo]
    exact hq

theorem pressWithin_searchKey {target : List Char} (hne : e.session.mode ≠ .insert)
    (hp : e.session.pending = .idle) (hr : e.session.count.bind limits.number = none)
    (hd : (Key.char k).digit? = none) (hkey : Session.isMotionKey k = true)
    (hmotion : e.session.motionOn e.document e.session.motionCount k = some (.search kind target))
    (hcur : e.session.cursor e.document = .ofNats (i, p)) (hi : i < e.document.buffer.size)
    (hcol : p ≤ (e.document.buffer.line i).length)
    (hq : kind.landing? (e.document.buffer.line i) p target (times e.session.motionCount) = some q)
    (hseat : e.IsSeat (.ofNats (i, q))) :
    (e.pressWithin limits clipboard (.char k)).1 = e.goTo (.ofNats (i, q)) none := by
  obtain ⟨landing, hrun, hland⟩ := Motion.run_search hi hcol hq
  have hreact := Session.react_motionOn hne hp hd hkey hmotion
  apply pressWithin_of_goTo (Session.obstacle_eq_none hr (Session.putting?_of_isMotionKey hkey))
  rw [hreact, hcur]
  have hno : ¬ (Motion.search kind target = .up ∨ Motion.search kind target = .down) := by simp
  simp only [Session.follow, if_neg hno, hrun, Session.land_some, hland]
  exact congrArg (e.session.goTo e.document · none) hseat

/-- A key that follows a search, with a count before it, goes to where the search lands. -/
theorem OnSearched.pressAll_searchKey {kind' : SearchKind} (h : e.OnSearched kind c i p)
    (hi : i < e.document.buffer.size) (hn : 0 < n) (hr : limits.number n = none)
    (hd : (Key.char k).digit? = none) (hkey : Session.isMotionKey k = true)
    (hmotion : ∀ d count, (e.withCount n).session.motionOn d count k = some (.search kind' [c]))
    (hq : kind'.landing? (e.document.buffer.line i) p [c] n = some q)
    (hfound : (e.document.buffer.line i)[q]? = some c) :
    e.pressAll limits clipboard (Key.digits n ++ [.char k]) = e.goTo (.ofNats (i, q)) none := by
  obtain ⟨hlt, _⟩ := List.getElem?_eq_some_iff.1 h.found
  rw [← times_withCount h.cleared hn] at hq
  have hpress : ((e.withCount n).pressWithin limits clipboard (.char k)).1 = _ :=
    pressWithin_searchKey (e := e.withCount n) h.mode h.cleared.1 hr hd hkey (hmotion _ _) h.cursor
      hi (Nat.le_of_lt hlt) hq (isSeat_of_getElem? hi hfound)
  rw [pressAll_append, pressAll_digits hn h.mode h.cleared.lead?_eq_none h.cleared.2]
  exact hpress

/-- There and back: the two keys with one count. -/
theorem OnSearched.pressAll_repeats (h : e.OnSearched kind c i p) (hs : e.Steady)
    (hkind : kind.LandsOn) (hn : 0 < n) (hr : limits.number n = none)
    (hq : kind.landing? (e.document.buffer.line i) p [c] n = some q) :
    let there := e.pressAll limits clipboard (Key.digits n ++ [.char ';'])
    there = e.goTo (.ofNats (i, q)) none ∧
      there.pressAll limits clipboard (Key.digits n ++ [.char ',']) =
        e.goTo (.ofNats (i, p)) none := by
  intro there
  have hi := h.line_lt hs
  have hfound := hkind.getElem? hn hq
  have hthere : there = e.goTo (.ofNats (i, q)) none :=
    h.pressAll_searchKey hi hn hr rfl rfl (Session.motionOn_semicolon h.search) hq hfound
  have h' := h.goTo hi hfound
  have hbuffer : (e.goTo (.ofNats (i, q)) none).document.buffer = e.document.buffer :=
    e.buffer_goTo _ _
  have hback :
      (e.goTo (.ofNats (i, q)) none).pressAll limits clipboard (Key.digits n ++ [.char ',']) =
        (e.goTo (.ofNats (i, q)) none).goTo (.ofNats (i, p)) none := by
    apply h'.pressAll_searchKey _ hn hr rfl rfl (Session.motionOn_comma h'.search)
    · rw [hbuffer]
      exact hkind.reverse hn h.found hq
    · rw [hbuffer]
      exact h.found
    · rw [hbuffer]
      exact hi
  refine ⟨hthere, ?_⟩
  rw [hthere, hback]
  exact goTo_goTo hs h.mode (isSeat_of_getElem? hi hfound) (isSeat_of_getElem? hi h.found)

/-- A search lands on the `n`-th column with the character ahead or behind, the other way round it
leads back, and so do the keys that repeat it. Only where the digits of an integer are bounded can a
count be too long to be read; the key then fails and changes nothing. -/
theorem search_finds_and_returns (c : Char) (hn : 0 < n) :
    (∀ text p,
        (SearchKind.find.landing? text p [c] n = (columnsAfter text c p)[n - 1]? ∧
          (SearchKind.find.landing? text p [c] n = none ↔ (columnsAfter text c p).length < n)) ∧
        (SearchKind.findBack.landing? text p [c] n = (columnsBefore text c p).reverse[n - 1]? ∧
          (SearchKind.findBack.landing? text p [c] n = none ↔
            (columnsBefore text c p).length < n)) ∧
        ∀ kind : SearchKind, kind.landingFrom? text p [c] n =
          .ok ((kind.landing? text p [c] n).map (Nat.cast ·))) ∧
    (∀ text p q, text[p]? = some c → text[q]? = some c →
        (SearchKind.find.landing? text p [c] n = some q ↔
          SearchKind.findBack.landing? text q [c] n = some p)) ∧
    ∀ limits clipboard e₀ e kind i p q, e₀.session = {} →
        Reaches limits clipboard Keyed e₀ e → kind.LandsOn → e.OnSearched kind c i p →
        kind.landing? (e.document.buffer.line i) p [c] n = some q →
      (limits.number n = none →
        let there := e.pressAll limits clipboard (Key.digits n ++ [.char ';'])
        let back := there.pressAll limits clipboard (Key.digits n ++ [.char ','])
        there.session.cursor there.document = ⟨i, q⟩ ∧
          back.session.cursor back.document = ⟨i, p⟩ ∧
          back.document.buffer = e.document.buffer) ∧
      ∀ f, limits.number n = some f →
        let typed := e.pressAll limits clipboard (Key.digits n)
        typed.pressWithin limits clipboard (.char ';') = (typed, .error f) := by
  refine ⟨?_, ?_, ?_⟩
  · intro text p
    have hfew (m : Nat) : m ≤ n - 1 ↔ m < n := by omega
    have hahead : SearchKind.find.landing? text p [c] n = (columnsAfter text c p)[n - 1]? :=
      findAhead_eq hn
    have hbehind : SearchKind.findBack.landing? text p [c] n =
        (columnsBefore text c p).reverse[n - 1]? := findBehind_eq hn
    refine ⟨⟨hahead, ?_⟩, ⟨hbehind, ?_⟩, fun kind => kind.landingFrom?_natCast text p [c] n⟩
    · rw [hahead, List.getElem?_eq_none_iff, hfew]
    · rw [hbehind, List.getElem?_eq_none_iff, List.length_reverse, hfew]
  · intro text p q hp hq
    exact findAhead_iff_findBehind hn hp hq
  · intro limits clipboard e₀ e kind i p q h₀ hreach hkind h hq
    have hs := hreach.steady h₀
    have hi := h.line_lt hs
    constructor
    · intro hr there back
      obtain ⟨hthere, hback⟩ : there = _ ∧ back = _ := h.pressAll_repeats hs hkind hn hr hq
      have hseat := isSeat_of_getElem? hi (hkind.getElem? hn hq)
      have hseat' := isSeat_of_getElem? hi h.found
      rw [hthere, hback]
      exact ⟨cursor_goTo h.mode hseat, cursor_goTo h.mode hseat', e.buffer_goTo _ _⟩
    · intro f hf
      rw [pressAll_digits hn h.mode h.cleared.lead?_eq_none h.cleared.2]
      apply pressWithin_of_obstacle
      apply Session.Unreadable.obstacle
      have huses : (e.withCount n).session.usesCount (.char ';') = true :=
        Session.usesCount_of_isMotionKey h.mode h.cleared.1 rfl
      exact ⟨huses, Session.digit?_eq_none rfl, n, rfl, hf⟩

theorem search_finds_and_returns_dashes :
    let fresh : Editor := { document := { buffer := .ofText "a-b-c-d".toList } }
    let e := fresh.pressAll .standard .working [.char 'f', .char '-']
    let there := e.pressAll .standard .working [.char '2', .char ';']
    let back := there.pressAll .standard .working [.char '2', .char ',']
    e.session.cursor e.document = ⟨0, 1⟩ ∧ there.session.cursor there.document = ⟨0, 5⟩ ∧
      back.session.cursor back.document = ⟨0, 1⟩ := by
  intro fresh e there back
  have hreach : Reaches .standard .working Keyed fresh e :=
    Reaches.refl.pressAll fun _ _ _ => trivial
  have hsearched : e.OnSearched .find '-' 0 1 :=
    ⟨by decide, ⟨rfl, rfl⟩, rfl, by decide, by decide⟩
  have hlands : SearchKind.find.landing? (e.document.buffer.line 0) 1 ['-'] 2 = some 5 := by decide
  obtain ⟨_, _, hkeys⟩ := search_finds_and_returns (n := 2) '-' (by decide)
  obtain ⟨hthere, hback, _⟩ :=
    (hkeys .standard .working fresh e .find 0 1 5 rfl hreach (.inl rfl) hsearched hlands).1 rfl
  exact ⟨hsearched.cursor, hthere, hback⟩

end Editor

end ModalEdit
