import ModalEdit.Command
import ModalEdit.Proofs.Replacement

namespace ModalEdit

theorem ofNat_ne_newline {n : Nat} (h : n ≠ 10) : Char.ofNat n ≠ '\n' := by
  intro he
  have hn : (Char.ofNat n).toNat = 10 := by
    rw [he]
    rfl
  by_cases hv : n.isValidChar
  · rw [Char.ofNat, dif_pos hv] at hn
    exact h hn
  · rw [Char.ofNat, dif_neg hv] at hn
    cases hn

theorem caseRuns_image_gt : ∀ run ∈ caseRuns, 10 < run.2.2.2 := by
  decide +kernel

theorem caseExpansions_codes : ∀ entry ∈ caseExpansions, entry.2 ≠ [] ∧ 10 ∉ entry.2 := by
  decide +kernel

theorem caseImage?_gt {n image : Nat} (h : caseImage? n = some image) : 10 < image := by
  obtain ⟨⟨first, last, step, start⟩, hrun, rfl⟩ := Option.map_eq_some_iff.1 h
  have hlt : 10 < start := caseRuns_image_gt _ (List.mem_of_find?_eq_some hrun)
  exact Nat.lt_of_lt_of_le hlt (Nat.le_add_right _ _)

theorem toggleChar_spec {c : Char} (h : c ≠ '\n') :
    0 < (toggleChar c).length ∧ NewlineFree (toggleChar c) := by
  unfold toggleChar
  split
  · rename_i codes hcodes
    obtain ⟨before, after, htable, _⟩ := List.lookup_eq_some_iff.1 hcodes
    have hmem : (c.toNat, codes) ∈ caseExpansions := by
      rw [htable]
      exact List.mem_append_right _ List.mem_cons_self
    obtain ⟨hne, hfree⟩ := caseExpansions_codes _ hmem
    constructor
    · rw [List.length_map]
      exact List.length_pos_iff.2 hne
    · intro hm
      obtain ⟨code, hcode, he⟩ := List.mem_map.1 hm
      apply ofNat_ne_newline _ he
      rintro rfl
      exact hfree hcode
  · split
    · rename_i image himage
      exact ⟨Nat.one_pos, newlineFree_singleton
        (ofNat_ne_newline (Nat.ne_of_gt (caseImage?_gt himage)))⟩
    · exact ⟨Nat.one_pos, newlineFree_singleton h⟩

theorem toggleCaseAfter_spec (before : List Char) {text : Line} (h : NewlineFree text) :
    text.length ≤ (toggleCaseAfter before text).length ∧
      NewlineFree (toggleCaseAfter before text) := by
  induction text generalizing before with
  | nil => exact ⟨Nat.le_refl _, h⟩
  | cons c rest ih =>
    obtain ⟨hc, hrest⟩ := newlineFree_cons.1 h
    obtain ⟨hlen, hfree⟩ := ih (c :: before) hrest
    have hother : ∀ other : Line, 0 < other.length ∧ NewlineFree other →
        (c :: rest).length ≤ (other ++ toggleCaseAfter (c :: before) rest).length ∧
          NewlineFree (other ++ toggleCaseAfter (c :: before) rest) := by
      rintro other ⟨hpos, hfree'⟩
      constructor
      · rw [List.length_append, List.length_cons]
        omega
      · exact hfree'.append hfree
    simp only [toggleCaseAfter]
    apply hother
    split
    · split
      · exact ⟨Nat.one_pos, newlineFree_singleton (by decide)⟩
      · exact ⟨Nat.one_pos, newlineFree_singleton (by decide)⟩
    · exact toggleChar_spec hc

theorem repeated_succ (n : Nat) (text : List α) :
    repeated (n + 1 : Nat) text = text ++ repeated n text := by
  simp only [repeated_eq_flatten, Int.toNat_natCast, List.replicate_succ, List.flatten_cons]

theorem repeated_ne_nil {n : Nat} {text : List α} (hn : 0 < n) (ht : text ≠ []) :
    repeated n text ≠ [] := by
  cases n with
  | zero => exact absurd hn (Nat.lt_irrefl 0)
  | succ n =>
    rw [repeated_succ]
    exact List.append_ne_nil_of_left_ne_nil ht _

theorem NewlineFree.repeated {text : Line} (h : NewlineFree text) (n : Nat) :
    NewlineFree (ModalEdit.repeated n text) := by
  induction n with
  | zero =>
    rw [repeated_eq_flatten]
    exact newlineFree_nil
  | succ n ih =>
    rw [repeated_succ]
    exact h.append ih

theorem le_length_repeated (n : Nat) {text : Line} (ht : text ≠ []) :
    n ≤ (repeated n text).length := by
  induction n with
  | zero => exact Nat.zero_le _
  | succ n ih =>
    have hpos := List.length_pos_iff.2 ht
    rw [repeated_succ, List.length_append]
    omega

/-- Joining a line keeps the text before the seam and adds no line break. -/
theorem foldl_joinLine {following : List Line} (head : Line)
    (h : ∀ line ∈ following, NewlineFree line) :
    ∃ text, NewlineFree text ∧ following.foldl joinLine head = head ++ text := by
  induction following generalizing head with
  | nil => exact ⟨[], newlineFree_nil, (List.append_nil head).symm⟩
  | cons next following ih =>
    obtain ⟨seam, hseam, hjoin⟩ : ∃ seam, NewlineFree seam ∧ joinLine head next = head ++ seam := by
      refine ⟨_, ?_, List.append_assoc _ _ _⟩
      have hnext : NewlineFree (trimStart next) := by
        intro hm
        exact h next List.mem_cons_self ((List.dropWhile_sublist _).subset hm)
      apply NewlineFree.append
      · split
        · exact newlineFree_singleton (by decide)
        · exact newlineFree_nil
      · exact hnext
    obtain ⟨text, htext, hfold⟩ := ih (head ++ seam)
      (fun line hm => h line (List.mem_cons_of_mem _ hm))
    refine ⟨seam ++ text, hseam.append htext, ?_⟩
    rw [List.foldl_cons, hjoin, hfold, List.append_assoc]

namespace Buffer

theorem fits_insert {b : Buffer} {i k : Nat} {text : List Char} (h : b.Plain) (hi : i < b.size)
    (hk : k ≤ (b.line i).length) (ht : text ≠ []) :
    Change.Fits ⟨⟨i, k⟩, some (.insert ⟨i, k⟩ text), none, false⟩ b := by
  obtain ⟨b', first, rest, hr, hsplit, _, hi', hline⟩ := replace_line k k text h
    (Nat.le_refl i) hi
  have hlen : (b'.line i).length = k + first.length := by
    rw [hline, List.length_append, List.length_take, Nat.min_eq_left hk]
  have hbreaks : (⟨⟨i, k⟩, some (.insert ⟨i, k⟩ text), none, false⟩ : Change).Breaks ↔
      0 < k ∧ first.length = 0 := by
    rw [List.length_eq_zero_iff, first_eq_nil_iff ht hsplit]
    exact and_congr Int.natCast_pos Iff.rfl
  refine ⟨⟨b', hr, contains_natCast.2 ⟨hi', ?_⟩, ?_⟩, (Option.some_ne_none _).symm⟩
  · omega
  · intro _
    rw [isCell_natCast, hbreaks]
    omega

theorem fits_insert_below {b : Buffer} {i : Nat} (text : List Char) (insert : Bool) (h : b.Plain)
    (hi : i < b.size) :
    Change.Fits ⟨⟨(i : Int) + 1, 0⟩, some (.insert ⟨i, (b.line i).length⟩ ('\n' :: text)), none,
      insert⟩ b := by
  obtain ⟨b', first, rest, hr, hsplit, hlines, _⟩ := replace_line (b.line i).length
    (b.line i).length ('\n' :: text) h (Nat.le_refl i) hi
  obtain ⟨first', rest', htext⟩ := exists_splitLines (text ++ (b.line i).drop (b.line i).length)
  rw [List.cons_append, splitLines_newline, htext] at hsplit
  cases hsplit
  have hsize : i + 1 < b'.size := by
    have hle : i < b.lines.length := hi
    rw [size, hlines]
    simp only [List.length_append, List.length_cons, List.length_take]
    omega
  have hcell : b'.IsCell ⟨(i + 1 : Nat), (0 : Nat)⟩ := isCell_natCast.2 ⟨hsize, Nat.zero_le _⟩
  exact .of_cell hr hcell (Change.not_breaks_of_col rfl) (Option.some_ne_none _).symm

theorem fits_insert_above {b : Buffer} {i : Nat} (text : List Char) (insert : Bool) (h : b.Plain)
    (hi : i < b.size) :
    Change.Fits ⟨⟨i, 0⟩, some (.insert ⟨i, 0⟩ text), none, insert⟩ b := by
  obtain ⟨b', _, _, hr, _, _, hi', _⟩ := replace_line 0 0 text h (Nat.le_refl i) hi
  have hcell : b'.IsCell ⟨i, (0 : Nat)⟩ := isCell_natCast.2 ⟨hi', Nat.zero_le _⟩
  exact .of_cell hr hcell (Change.not_breaks_of_col rfl) (Option.some_ne_none _).symm

theorem putAfter_fits {b : Buffer} {i c n : Nat} {r : Register} (h : b.Plain) (hi : i < b.size)
    (hn : 0 < n) (hr : r ≠ .chars []) :
    b.Accepts (some <$> b.putAfter ⟨i, c⟩ r n) := by
  cases r with
  | lines whole =>
    simp only [putAfter, lineAt_natCast hi, bind, Except.bind]
    exact accepts_some.2 (fits_insert_below (joinLines (repeated n whole)) false h hi)
  | chars taken =>
    have ht : repeated n taken ≠ [] := repeated_ne_nil hn fun e => hr (congrArg _ e)
    have hcol : min ((c : Int) + 1) (b.line i).length = (min (c + 1) (b.line i).length : Nat) := by
      omega
    simp only [putAfter, lineAt_natCast hi, bind, Except.bind, hcol]
    exact accepts_some.2 (fits_insert h hi (Nat.min_le_right (c + 1) _) ht)

theorem putBefore_fits {b : Buffer} {i c n : Nat} {r : Register} (h : b.Plain) (hi : i < b.size)
    (hn : 0 < n) (hr : r ≠ .chars []) :
    b.Accepts (some <$> b.putBefore ⟨i, c⟩ r n) := by
  cases r with
  | lines whole => exact accepts_some.2 (fits_insert_above _ false h hi)
  | chars taken =>
    have ht : repeated n taken ≠ [] := repeated_ne_nil hn fun e => hr (congrArg _ e)
    have hcol : min (c : Int) (b.line i).length = (min c (b.line i).length : Nat) := by
      omega
    simp only [putBefore, lineAt_natCast hi, bind, Except.bind, hcol]
    exact accepts_some.2 (fits_insert h hi (Nat.min_le_right c _) ht)

theorem openBelow_fits {b : Buffer} {i : Nat} (h : b.Plain) (hi : i < b.size) :
    b.Accepts (some <$> b.openBelow i) := by
  simp only [openBelow, lineAt_natCast hi, bind, Except.bind]
  exact accepts_some.2 (fits_insert_below [] true h hi)

theorem openAbove_fits {b : Buffer} {i : Nat} (h : b.Plain) (hi : i < b.size) :
    b.Accepts (.ok (some (openAbove i))) :=
  accepts_some.2 (fits_insert_above ['\n'] true h hi)

/-- Writing over part of a line a text that is no shorter keeps the columns of the line. -/
theorem fits_overwrite {b : Buffer} {i c c' col : Nat} {text : List Char} (h : b.Plain)
    (hi : i < b.size) (hc : c ≤ c') (hc' : c' ≤ (b.line i).length) (ht : NewlineFree text)
    (hlen : c' - c ≤ text.length) (hcol : col ≤ (b.line i).length - 1) :
    Change.Fits ⟨⟨i, col⟩, some ⟨⟨i, c⟩, ⟨i, c'⟩, text⟩, none, false⟩ b := by
  obtain ⟨b', hr, _, hi', hline⟩ := replace_inline c c' h (Nat.le_refl i) hi ht
  have hgrown : (b.line i).length ≤ (b'.line i).length := by
    rw [hline]
    simp only [List.length_append, List.length_take, List.length_drop]
    omega
  have hcell : b'.IsCell ⟨i, col⟩ := isCell_natCast.2 ⟨hi', by omega⟩
  exact .of_cell hr hcell (Change.not_breaks_of_newlineFree ht) (Option.some_ne_none _).symm

theorem toggleCase_fits {b : Buffer} {i c : Nat} (n : Nat) (h : b.Plain) (hi : i < b.size)
    (hc : c ≤ (b.line i).length) :
    b.Accepts (b.toggleCase ⟨i, c⟩ n) := by
  have hstop : min ((c : Int) + n) (b.line i).length = (min (c + n) (b.line i).length : Nat) := by
    omega
  simp only [toggleCase, lineAt_natCast hi, bind, Except.bind, hstop]
  split
  · exact b.accepts_none
  · have hstop' : min (c + n) (b.line i).length ≤ (b.line i).length := Nat.min_le_right _ _
    have htext : between (b.line i) (c : Int) (min (c + n) (b.line i).length : Nat) =
        ((b.line i).take (min (c + n) (b.line i).length)).drop c := by
      simp only [between, upTo_natCast, bound_natCast, Nat.min_eq_left hc]
    have hfree := ((h.newlineFree_line i).take (min (c + n) (b.line i).length)).drop c
    obtain ⟨hlen, htoggled⟩ := toggleCaseAfter_spec [] hfree
    rw [List.length_drop, List.length_take, Nat.min_eq_left hstop'] at hlen
    rw [htext]
    apply accepts_some.2
    exact fits_overwrite h hi (by omega) hstop' htoggled hlen (clampCol_le _ _)

theorem replaceChars_fits {b : Buffer} {i c n : Nat} {text : List Char} (h : b.Plain)
    (hi : i < b.size) (hn : 0 < n) (ht : text ≠ []) (hfree : NewlineFree text) :
    b.Accepts (b.replaceChars ⟨i, c⟩ text n) := by
  simp only [replaceChars, lineAt_natCast hi, bind, Except.bind]
  split
  · exact b.accepts_none
  · have hgoal : (c : Int) + n - 1 = (c + n - 1 : Nat) := by omega
    have hstop : (c : Int) + n = (c + n : Nat) := rfl
    have hlen := le_length_repeated n ht
    rw [hgoal, hstop]
    apply accepts_some.2
    exact fits_overwrite h hi (Nat.le_add_right c n) (by omega) (hfree.repeated n) (by omega)
      (by omega)

theorem joinFrom_fits {b : Buffer} {i : Nat} (n : Nat) (h : b.Plain) (hi : i < b.size) :
    b.Accepts (b.joinFrom i n) := by
  obtain ⟨last, hlast, hle, hlt⟩ : ∃ last : Nat,
      min ((i : Int) + max (n : Int) 2 - 1) b.lastLine = last ∧ i ≤ last ∧ last < b.size := by
    refine ⟨min (i + max n 2 - 1) b.lastLine, by omega, ?_, ?_⟩
    · simp only [lastLine]
      omega
    · exact Nat.lt_of_le_of_lt (Nat.min_le_right _ _) b.lastLine_lt_size
  simp only [joinFrom, hlast, lineAt_natCast hi, bind, Except.bind]
  split
  · exact b.accepts_none
  · have hplain : ∀ line ∈ (b.lines.drop ((i : Int) + 1).toNat).take ((last : Int) - i).toNat,
        NewlineFree line := by
      intro line hm
      exact h line (List.mem_of_mem_drop (List.mem_of_mem_take hm))
    obtain ⟨text, htext, hfold⟩ := foldl_joinLine (b.line i) hplain
    obtain ⟨b', hr, _, hi', hline⟩ := replace_inline (b.line i).length (b.line last).length h
      hle hlt htext
    rw [List.take_length, List.drop_length, List.append_nil] at hline
    rw [hfold, List.drop_left, Int.toNat_natCast]
    have hcell (seam : Int) : b'.IsCell ⟨i, clampCol (b.line i ++ text).length seam⟩ := by
      rw [isCell_natCast, hline]
      exact ⟨hi', clampCol_le _ _⟩
    apply accepts_some.2
    exact .of_cell hr (hcell _) (Change.not_breaks_of_newlineFree htext)
      (Option.some_ne_none _).symm

end Buffer

end ModalEdit
