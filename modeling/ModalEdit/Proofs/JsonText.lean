import ModalEdit.Json.Reader
import ModalEdit.Proofs.DecimalText
import ModalEdit.Proofs.JsonFields

namespace ModalEdit

theorem hexValue?_digitChar {n : Nat} (h : n < 16) : hexValue? n.digitChar = some n := by
  have hrange : ∀ m < 16, hexValue? m.digitChar = some m := by decide
  exact hrange n h

namespace Json
variable {units : Units} {text rest : List Char} {u : UInt16}

theorem unitOfHex?_digitChar {n : Nat} (h : n < 0x10000) :
    unitOfHex? (n / 16 / 16 / 16 % 16).digitChar (n / 16 / 16 % 16).digitChar
      (n / 16 % 16).digitChar (n % 16).digitChar = some n.toUInt16 := by
  have hdigit : ∀ n : Nat, hexValue? (n % 16).digitChar = some (n % 16) :=
    fun n => hexValue?_digitChar (Nat.mod_lt n (by decide))
  have hvalue : n / 16 / 16 / 16 % 16 * 0x1000 + n / 16 / 16 % 16 * 0x100 +
      n / 16 % 16 * 0x10 + n % 16 = n := by omega
  simp only [unitOfHex?, hdigit, Option.bind_eq_bind, Option.bind_some, hvalue]
  rfl

theorem scanString_hexDigits (h : scanString rest = some (units, text)) (u : UInt16) :
    scanString ('\\' :: 'u' :: hexDigits 4 u.toNat ++ rest) = some (u :: units, text) := by
  have hunit := unitOfHex?_digitChar u.toNat_lt
  rw [Nat.toUInt16_eq, UInt16.ofNat_toNat] at hunit
  simp [hexDigits, scanString, hunit, h]

theorem scanString_printable (h : scanString rest = some (units, text))
    (hlow : 0x20 ≤ u.toNat) (hhigh : u.toNat < 0x7F) (hq : u.toNat ≠ 0x22) (hb : u.toNat ≠ 0x5C) :
    scanString (Char.ofNat u.toNat :: rest) = some (u :: units, text) := by
  have hc : (Char.ofNat u.toNat).toNat = u.toNat := by
    rw [Char.ofNat, dif_pos (.inl (by omega))]
    rfl
  generalize Char.ofNat u.toNat = c at hc ⊢
  have hquote : c ≠ '\x22' := by
    intro he
    exact hq (hc ▸ he ▸ rfl)
  have hslash : c ≠ '\\' := by
    intro he
    exact hb (hc ▸ he ▸ rfl)
  have hunit : Units.ofChar c = [u] := by
    simp only [Units.ofChar, hc]
    rw [if_pos (by omega), Nat.toUInt16_eq, UInt16.ofNat_toNat]
  have hshown : 0x20 ≤ c.toNat := hc ▸ hlow
  unfold scanString
  simp [hslash, hshown, h, hunit]

theorem scanString_escaped {c : Char} (h : scanString rest = some (units, text))
    (hc : escaped? c = some u) (hu : c ≠ 'u') :
    scanString ('\\' :: c :: rest) = some (u :: units, text) := by
  unfold scanString
  simp [hu, hc, h]

theorem scanString_writeUnit (h : scanString rest = some (units, text)) (u : UInt16) :
    scanString (writeUnit u ++ rest) = some (u :: units, text) := by
  have hof : ∀ n, u.toNat = n → UInt16.ofNat n = u := by
    intro n hn
    rw [← hn]
    exact UInt16.ofNat_toNat
  unfold writeUnit
  split
  case h_8 hquote hslash _ _ _ _ _ =>
    split
    · rename_i hshown
      exact scanString_printable h hshown.1 hshown.2 hquote hslash
    · exact scanString_hexDigits h u
  all_goals
    rename_i hu
    exact scanString_escaped h (congrArg some (hof _ hu)) (by decide)

theorem scanToken_writeString (s : Units) (rest : List Char) :
    scanToken (writeString s ++ rest) = some (.scalar (.str s), rest) := by
  have hscan : scanString (s.flatMap writeUnit ++ '\x22' :: rest) = some (s, rest) := by
    induction s with
    | nil => rfl
    | cons u s ih =>
      rw [List.flatMap_cons, List.append_assoc]
      exact scanString_writeUnit ih u
  have htext : writeString s ++ rest = '\x22' :: (s.flatMap writeUnit ++ '\x22' :: rest) := by
    simp [writeString]
  simp [htext, scanToken, scanScalar, hscan]

variable {limits : Limits} {r r' : Reader} {t : Token} {depth : Nat} {v : Json}

theorem scanToken_of_isSpace {c : Char} (hc : isSpace c = true) (rest : List Char) :
    scanToken (c :: rest) = none := by
  simp only [isSpace, Bool.or_eq_true, beq_iff_eq] at hc
  obtain ((rfl | rfl) | rfl) | rfl := hc <;> rfl

theorem readFrom_token (hscan : scanToken text = some (t, rest))
    (hnone : r.obstacle limits t = none) (hstep : r.step t = some r') :
    readFrom limits r text = readFrom limits r' rest := by
  cases text with
  | nil => cases hscan
  | cons c tail =>
    have hc : ¬ isSpace c = true := by
      intro hc
      rw [scanToken_of_isSpace hc] at hscan
      cases hscan
    rw [readFrom, if_neg hc]
    split
    · rename_i h
      rw [hscan] at h
      cases h
    · rename_i h
      rw [hscan] at h
      cases h
      simp only [hnone, hstep]

theorem readFrom_spaces {spaces : List Char} (hs : ∀ c ∈ spaces, isSpace c = true)
    (r : Reader) (rest : List Char) :
    readFrom limits r (spaces ++ rest) = readFrom limits r rest := by
  induction spaces with
  | nil => rfl
  | cons c spaces ih =>
    rw [List.cons_append, readFrom, if_pos (hs c List.mem_cons_self)]
    exact ih fun d hd => hs d (List.mem_cons_of_mem c hd)

/-- A value may come next. -/
def Reader.Due (r : Reader) : Prop :=
  r.expect = .value ∨ r.expect = .firstItem

theorem Reader.Due.step (h : r.Due) (ht : t ≠ .closeSquare) :
    r.step t = beginValue r.frames t := by
  obtain ⟨expect, frames⟩ := r
  rcases h with h | h
  · cases h
    rfl
  · cases h
    unfold Reader.step
    split <;> simp_all

/-- The name of a field may come next. -/
def Reader.NameDue (r : Reader) : Prop :=
  r.expect = .name ∨ r.expect = .firstName

theorem Reader.NameDue.step (h : r.NameDue) (ht : t ≠ .closeCurly) :
    r.step t = beginField r.frames t := by
  obtain ⟨expect, frames⟩ := r
  rcases h with h | h
  · cases h
    rfl
  · cases h
    unfold Reader.step
    split <;> simp_all

theorem Reader.NameDue.obstacle (h : r.NameDue) : r.obstacle limits t = none := by
  unfold Reader.obstacle
  rcases h with h | h <;> rw [h]

/-- Where a value may come next, a text takes the reader past it. -/
def Delivers (limits : Limits) (depth : Nat) (text : List Char) (v : Json) : Prop :=
  ∀ (r : Reader) (rest : List Char), r.Due → r.frames.length = depth → EndsNumber rest →
    readFrom limits r (text ++ rest) = readFrom limits ⟨.after v, r.frames⟩ rest

theorem delivers_scalar
    (hscan : ∀ rest, EndsNumber rest → scanToken (text ++ rest) = some (.scalar v, rest))
    (hnone : ∀ n, v = .int n → limits.number n.natAbs = none) :
    Delivers limits depth text v := by
  intro r rest hdue _ hr
  apply readFrom_token (hscan rest hr)
  · unfold Reader.obstacle
    split
    · split <;> simp_all
    · split <;> simp_all
    · rfl
  · exact hdue.step (by simp)

theorem delivers_word {word : List Char} (h : (word, v) ∈ words) :
    Delivers limits depth word v := by
  apply delivers_scalar fun rest _ => scanToken_word h rest
  intro n hn
  subst hn
  simp [words] at h

theorem readFrom_openSquare (hdue : r.Due)
    (hopen : exceeds limits.nesting (r.frames.length + 1) = false) (rest : List Char) :
    readFrom limits r ('[' :: rest) = readFrom limits ⟨.firstItem, .items [] :: r.frames⟩ rest := by
  apply readFrom_token (t := .openSquare) rfl
  · unfold Reader.obstacle
    rcases hdue with h | h <;> simp [h, hopen]
  · exact hdue.step (by simp)

theorem readFrom_openCurly (hdue : r.Due)
    (hopen : exceeds limits.nesting (r.frames.length + 1) = false) (rest : List Char) :
    readFrom limits r ('\x7b' :: rest) =
      readFrom limits ⟨.firstName, .fields [] :: r.frames⟩ rest := by
  apply readFrom_token (t := .openCurly) rfl
  · unfold Reader.obstacle
    rcases hdue with h | h <;> simp [h, hopen]
  · exact hdue.step (by simp)

theorem endsNumber_cons {c : Char} (hd : isDigit c = false) (hp : c ≠ '.') (he : c ≠ 'e' ∧ c ≠ 'E')
    (rest : List Char) : EndsNumber (c :: rest) := by
  intro d hc
  cases hc
  exact ⟨hd, hp, he⟩

theorem endsNumber_spaces {spaces : List Char} (hs : ∀ c ∈ spaces, isSpace c = true)
    (hr : EndsNumber rest) : EndsNumber (spaces ++ rest) := by
  cases spaces with
  | nil => exact hr
  | cons c spaces =>
    have hc := hs c List.mem_cons_self
    simp only [isSpace, Bool.or_eq_true, beq_iff_eq] at hc
    obtain ((rfl | rfl) | rfl) | rfl := hc <;>
      exact endsNumber_cons rfl (by decide) (by decide) _

section Containers

variable {spaces closing : List Char} {write : Json → List Char} {frames : List Frame}

/-- Items are read one after the other, up to the bracket that closes the array. -/
theorem readFrom_items (hs : ∀ c ∈ spaces, isSpace c = true) (hc : ∀ c ∈ closing, isSpace c = true)
    (rest : List Char) (items : List Json) (v : Json) (done : List Json) {r : Reader} (hdue : r.Due)
    (hframes : r.frames = .items done :: frames)
    (hd : ∀ w ∈ v :: items, Delivers limits (frames.length + 1) (write w) w) :
    readFrom limits r
        (List.intercalate (',' :: spaces) ((v :: items).map write) ++ (closing ++ ']' :: rest)) =
      readFrom limits ⟨.after (.arr (done.reverse ++ v :: items)), frames⟩ rest := by
  induction items generalizing v done r with
  | nil =>
    have hends : EndsNumber (closing ++ ']' :: rest) :=
      endsNumber_spaces hc (endsNumber_cons rfl (by decide) (by decide) _)
    rw [List.map_singleton, List.intercalate_singleton,
      hd v List.mem_cons_self r _ hdue (by rw [hframes]; rfl) hends, hframes, readFrom_spaces hc]
    apply readFrom_token rfl rfl
    simp [Reader.step, Reader.afterValue]
  | cons w items ih =>
    have hnext : ∀ tail,
        readFrom limits ⟨.after v, .items done :: frames⟩ (',' :: (spaces ++ tail)) =
          readFrom limits ⟨.value, .items (v :: done) :: frames⟩ tail := by
      intro tail
      exact (readFrom_token (t := .comma) rfl rfl rfl).trans (readFrom_spaces hs _ tail)
    have htext : List.intercalate (',' :: spaces) ((v :: w :: items).map write) ++
        (closing ++ ']' :: rest) = write v ++ ',' :: (spaces ++
          (List.intercalate (',' :: spaces) ((w :: items).map write) ++
            (closing ++ ']' :: rest))) := by
      simp [List.intercalate_cons_cons]
    rw [htext, hd v List.mem_cons_self r _ hdue (by rw [hframes]; rfl)
      (endsNumber_cons rfl (by decide) (by decide) _), hframes, hnext,
      ih w (v :: done) (.inl rfl) rfl fun x hx => hd x (List.mem_cons_of_mem v hx),
      List.reverse_cons, List.append_assoc]
    rfl

/-- A field as it is written. -/
def fieldText (write : Json → List Char) (f : Units × Json) : List Char :=
  writeString f.1 ++ ':' :: ' ' :: write f.2

theorem readFrom_field {done : List (Units × Json)} {name : Units} {v : Json} {r : Reader}
    (hdue : r.NameDue) (hframes : r.frames = .fields done :: frames)
    (hd : Delivers limits (frames.length + 1) (write v) v) (hr : EndsNumber rest) :
    readFrom limits r (fieldText write (name, v) ++ rest) =
      readFrom limits ⟨.after v, .field done name :: frames⟩ rest := by
  have htext : fieldText write (name, v) ++ rest =
      writeString name ++ ':' :: ([' '] ++ (write v ++ rest)) := by
    simp [fieldText]
  have hname : readFrom limits r (writeString name ++ ':' :: ([' '] ++ (write v ++ rest))) =
      readFrom limits ⟨.colon, .field done name :: frames⟩
        (':' :: ([' '] ++ (write v ++ rest))) := by
    apply readFrom_token (scanToken_writeString name _)
    · exact hdue.obstacle
    · rw [hdue.step (by simp), hframes]
      rfl
  have hcolon : readFrom limits ⟨.colon, .field done name :: frames⟩
      (':' :: ([' '] ++ (write v ++ rest))) =
        readFrom limits ⟨.value, .field done name :: frames⟩ ([' '] ++ (write v ++ rest)) :=
    readFrom_token (t := .colon) rfl rfl rfl
  have hspace : ∀ c ∈ [' '], isSpace c = true := by
    intro c hc
    rw [List.mem_singleton.1 hc]
    rfl
  rw [htext, hname, hcolon, readFrom_spaces hspace]
  exact hd ⟨.value, .field done name :: frames⟩ rest (.inl rfl) rfl hr

theorem readFrom_fields (hs : ∀ c ∈ spaces, isSpace c = true)
    (hc : ∀ c ∈ closing, isSpace c = true) (rest : List Char) (fields : List (Units × Json))
    (f : Units × Json) (done : List (Units × Json)) {r : Reader} (hdue : r.NameDue)
    (hframes : r.frames = .fields done :: frames)
    (hnames : ((done ++ f :: fields).map (·.1)).Nodup)
    (hd : ∀ g ∈ f :: fields, Delivers limits (frames.length + 1) (write g.2) g.2) :
    readFrom limits r (List.intercalate (',' :: spaces) ((f :: fields).map (fieldText write)) ++
        (closing ++ '\x7d' :: rest)) =
      readFrom limits ⟨.after (.obj (done ++ f :: fields)), frames⟩ rest := by
  induction fields generalizing f done r with
  | nil =>
    have hset := setField_of_nodup hnames
    have hends : EndsNumber (closing ++ '\x7d' :: rest) :=
      endsNumber_spaces hc (endsNumber_cons rfl (by decide) (by decide) _)
    rw [List.map_singleton, List.intercalate_singleton,
      readFrom_field hdue hframes (hd f List.mem_cons_self) hends, readFrom_spaces hc, ← hset]
    exact readFrom_token (t := .closeCurly) rfl rfl rfl
  | cons g fields ih =>
    have hset := setField_of_nodup hnames
    have hnext : ∀ tail,
        readFrom limits ⟨.after f.2, .field done f.1 :: frames⟩ (',' :: (spaces ++ tail)) =
          readFrom limits ⟨.name, .fields (done ++ [f]) :: frames⟩ tail := by
      intro tail
      rw [← hset]
      exact (readFrom_token (t := .comma) rfl rfl rfl).trans (readFrom_spaces hs _ tail)
    have htext : List.intercalate (',' :: spaces) ((f :: g :: fields).map (fieldText write)) ++
        (closing ++ '\x7d' :: rest) = fieldText write f ++ ',' :: (spaces ++
          (List.intercalate (',' :: spaces) ((g :: fields).map (fieldText write)) ++
            (closing ++ '\x7d' :: rest))) := by
      simp [List.intercalate_cons_cons]
    have happend : done ++ [f] ++ g :: fields = done ++ f :: g :: fields := by simp
    rw [htext, readFrom_field hdue hframes (hd f List.mem_cons_self)
      (endsNumber_cons rfl (by decide) (by decide) _), hnext,
      ih g (done ++ [f]) (.inl rfl) rfl (by rwa [happend]) fun x hx =>
        hd x (List.mem_cons_of_mem f hx), happend]

end Containers

/-- What the reader can give where `depth` containers are open. -/
inductive Readable (limits : Limits) : Nat → Json → Prop where
  | null {depth : Nat} : Readable limits depth .null
  | bool {depth : Nat} (b : Bool) : Readable limits depth (.bool b)
  | int {depth : Nat} {n : Int} (h : limits.number n.natAbs = none) : Readable limits depth (.int n)
  | real {depth : Nat} {x : Binary64} (h : x.Canonical) : Readable limits depth (.real x)
  | str {depth : Nat} (s : Units) : Readable limits depth (.str s)
  | arr {depth : Nat} {items : List Json} (hopen : exceeds limits.nesting (depth + 1) = false)
    (h : ∀ v ∈ items, Readable limits (depth + 1) v) : Readable limits depth (.arr items)
  | obj {depth : Nat} {fields : List (Units × Json)}
    (hopen : exceeds limits.nesting (depth + 1) = false) (hnames : (fields.map (·.1)).Nodup)
    (h : ∀ f ∈ fields, Readable limits (depth + 1) f.2) : Readable limits depth (.obj fields)

theorem isSpace_lineBreak (style : Style) (level : Nat) :
    ∀ c ∈ style.lineBreak level, isSpace c = true := by
  intro c hc
  cases style with
  | oneLine => cases hc
  | indented =>
    rcases List.mem_cons.1 hc with rfl | hc
    · rfl
    · rw [List.eq_of_mem_replicate hc]
      rfl

theorem exists_separator (style : Style) (level : Nat) :
    ∃ spaces, style.separator level = ',' :: spaces ∧ ∀ c ∈ spaces, isSpace c = true := by
  cases style with
  | oneLine => exact ⟨[' '], rfl, by simp [isSpace]⟩
  | indented => exact ⟨_, rfl, isSpace_lineBreak .indented level⟩

theorem writeItems_eq_map (style : Style) (level : Nat) (items : List Json) :
    writeItems style level items = items.map (writeAt style level) := by
  induction items with
  | nil => rfl
  | cons v items ih => rw [writeItems, ih, List.map_cons]

theorem writeFields_eq_map (style : Style) (level : Nat) (fields : List (Units × Json)) :
    writeFields style level fields = fields.map (fieldText (writeAt style level)) := by
  induction fields with
  | nil => rfl
  | cons f fields ih => rw [writeFields, ih, List.map_cons, fieldText]

theorem delivers_items {items : List Json} (style : Style) (level : Nat)
    (hopen : exceeds limits.nesting (depth + 1) = false)
    (hd : ∀ v ∈ items, Delivers limits (depth + 1) (writeAt style (level + 1) v) v) :
    Delivers limits depth (writeAt style level (.arr items)) (.arr items) := by
  rintro r rest hdue rfl hr
  rw [writeAt, writeItems_eq_map, Style.enclose]
  cases items with
  | nil =>
    refine (readFrom_openSquare hdue hopen _).trans ?_
    exact readFrom_token (t := .closeSquare) rfl rfl rfl
  | cons v items =>
    obtain ⟨spaces, hsep, hs⟩ := exists_separator style (level + 1)
    have hitems := readFrom_items hs (isSpace_lineBreak style level) rest items v []
      (r := ⟨.firstItem, .items [] :: r.frames⟩) (.inr rfl) rfl hd
    rw [if_neg (by simp), List.cons_append, readFrom_openSquare hdue hopen, List.append_assoc,
      readFrom_spaces (isSpace_lineBreak style (level + 1)), hsep, List.append_assoc,
      List.append_assoc]
    exact hitems

theorem delivers_fields {fields : List (Units × Json)} (style : Style) (level : Nat)
    (hopen : exceeds limits.nesting (depth + 1) = false) (hnames : (fields.map (·.1)).Nodup)
    (hd : ∀ f ∈ fields, Delivers limits (depth + 1) (writeAt style (level + 1) f.2) f.2) :
    Delivers limits depth (writeAt style level (.obj fields)) (.obj fields) := by
  rintro r rest hdue rfl hr
  rw [writeAt, writeFields_eq_map, Style.enclose]
  cases fields with
  | nil =>
    refine (readFrom_openCurly hdue hopen _).trans ?_
    exact readFrom_token (t := .closeCurly) rfl rfl rfl
  | cons f fields =>
    obtain ⟨spaces, hsep, hs⟩ := exists_separator style (level + 1)
    have hfields := readFrom_fields hs (isSpace_lineBreak style level) rest fields f []
      (r := ⟨.firstName, .fields [] :: r.frames⟩) (.inr rfl) rfl hnames hd
    rw [if_neg (by simp), List.cons_append, readFrom_openCurly hdue hopen, List.append_assoc,
      readFrom_spaces (isSpace_lineBreak style (level + 1)), hsep, List.append_assoc,
      List.append_assoc]
    exact hfields

/-- Whatever the reader can give, it gives back when that has been written. -/
theorem Readable.delivers (h : Readable limits depth v) (style : Style) (level : Nat) :
    Delivers limits depth (writeAt style level v) v := by
  induction h generalizing level with
  | null =>
    rw [writeAt]
    exact delivers_word (by simp [words])
  | bool b =>
    cases b with
    | false =>
      rw [writeAt]
      exact delivers_word (by simp [words])
    | true =>
      rw [writeAt]
      exact delivers_word (by simp [words])
  | @int _ n hn =>
    rw [writeAt]
    apply delivers_scalar fun rest hr => scanToken_integerText n hr
    intro m hm
    cases hm
    exact hn
  | real hx =>
    rw [writeAt]
    exact delivers_scalar (fun rest hr => scanToken_writeReal hx hr) fun _ h => Json.noConfusion h
  | str s =>
    rw [writeAt]
    exact delivers_scalar (fun rest _ => scanToken_writeString s rest) fun _ h => Json.noConfusion h
  | arr hopen h ih => exact delivers_items style level hopen fun v hv => ih v hv (level + 1)
  | obj hopen hnames h ih =>
    exact delivers_fields style level hopen hnames fun f hf => ih f hf (level + 1)

theorem read_write (h : Readable limits 0 v) (style : Style) :
    read limits (write style v) = .ok (some v) := by
  have hd := h.delivers style 0 {} [] (.inl rfl) rfl nofun
  rw [List.append_nil] at hd
  rw [read, write, hd, readFrom]
  rfl

theorem ofBytes_toUTF8 (limits : Limits) (text : List Char) :
    ofBytes limits (String.ofList text).toUTF8 = read limits text := by
  have hback : String.fromUTF8? (String.ofList text).toUTF8 = some (String.ofList text) := by
    rw [String.fromUTF8?]
    exact dif_pos (String.ofList text).isValidUTF8
  simp only [ofBytes, hback, String.toList_ofList]

end Json

end ModalEdit
