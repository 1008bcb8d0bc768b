import RelyingParty.Proofs.Json.NumberText

/-!
# The texts of values

The grammar of values without what they stand for, and the proof that a value is passed over exactly
where the grammar has one. Passing over keeps a stack of the containers that are open. In one
direction the proof follows the stack and says what its containers still wait for; in the other it
follows the rules of the grammar, and the stack grows and shrinks with them.
-/

namespace RelyingParty.Json

open RelyingParty.Text

namespace Reader

/-- What stands in a text. -/
inductive Part where
  /-- A value. -/
  | value
  /-- A member of an object. -/
  | member
  /-- The rest of a container behind its opening byte. -/
  | opened (frame : Frame)
  /-- The rest of a container behind an item or a member. -/
  | more (frame : Frame)

/-- What a container holds. -/
def Frame.entry : Frame → Part
  | list => .value
  | object => .member

/-- The byte that begins a container. -/
def Frame.opening : Frame → UInt8
  | list => byte '['
  | object => byte '{'

/-- The byte that ends a container. -/
def Frame.closing : Frame → UInt8
  | list => byte ']'
  | object => byte '\x7d'

/-- The values that are words. -/
def words : List (List Char) :=
  [['n', 'u', 'l', 'l'], ['t', 'r', 'u', 'e'], ['f', 'a', 'l', 's', 'e']]

/-- The texts of values without items or members. -/
inductive Scalar : Bytes → Prop where
  /-- A word. -/
  | word {letters : List Char} (word : letters ∈ words) : Scalar (letters.map byte)
  /-- A number. -/
  | number {text : Bytes} (number : NumberText text) : Scalar text
  /-- A string. -/
  | string {text : Bytes} (quoted : QuotedText text) : Scalar (byte '"' :: text)

/-- The texts of each part. Blanks may stand in front of every part. -/
inductive Written : Part → Bytes → Prop where
  /-- A blank in front. -/
  | blank {part : Part} {b : UInt8} {text : Bytes} (blank : isBlankByte b = true)
      (rest : Written part text) : Written part (b :: text)
  /-- A value without items or members. -/
  | scalar {text : Bytes} (scalar : Scalar text) : Written .value text
  /-- An array or an object. -/
  | container (frame : Frame) {text : Bytes} (rest : Written (.opened frame) text) :
      Written .value (frame.opening :: text)
  /-- A member: its name, a colon and its value. -/
  | member {name gap text : Bytes} (quoted : QuotedText name) (blank : AllBlank gap)
      (value : Written .value text) :
      Written .member (byte '"' :: (name ++ (gap ++ byte ':' :: text)))
  /-- The end of an empty container. -/
  | empty (frame : Frame) : Written (.opened frame) [frame.closing]
  /-- The first item or member of a container. -/
  | first {frame : Frame} {text more : Bytes} (entry : Written frame.entry text)
      (rest : Written (.more frame) more) : Written (.opened frame) (text ++ more)
  /-- The end of a container. -/
  | last (frame : Frame) : Written (.more frame) [frame.closing]
  /-- A further item or member of a container. -/
  | next {frame : Frame} {text more : Bytes} (entry : Written frame.entry text)
      (rest : Written (.more frame) more) : Written (.more frame) (byte ',' :: (text ++ more))

theorem Written.blanks {part : Part} {gap text : Bytes} (hgap : AllBlank gap)
    (h : Written part text) : Written part (gap ++ text) := by
  induction gap with
  | nil => exact h
  | cons b gap ih =>
    obtain ⟨hb, hgap⟩ := allBlank_cons.mp hgap
    exact .blank hb (ih hgap)

/-- Passes over the beginning of a value: a scalar, or the opening of a container. Gives whether an
item is complete and the containers that are open. -/
def skipFront («open» : List Frame) : Reader (Bool × List Frame) := do
  match ← peekPastBlanks with
  | none => failAhead .endInValue
  | some b =>
    if b == byte 'n' then skip; literal ['u', 'l', 'l']; pure (true, «open»)
    else if b == byte 't' then skip; literal ['r', 'u', 'e']; pure (true, «open»)
    else if b == byte 'f' then skip; literal ['a', 'l', 's', 'e']; pure (true, «open»)
    else if b == byte '-' then skip; skipUnsigned; pure (true, «open»)
    else if (digit? b).isSome then skipUnsigned; pure (true, «open»)
    else if b == byte '"' then
      skip
      skipString ((← remaining) + 1)
      pure (true, «open»)
    else if b == byte '[' then skip; pure (false, .list :: «open»)
    else if b == byte '{' then skip; pure (false, .object :: «open»)
    else failAhead .noValue

/-- What the beginning of a value is, whether an item is complete after it, and the containers that
are open then. -/
inductive Front («open» : List Frame) : Bytes → Bool → List Frame → Prop where
  /-- A whole scalar. -/
  | scalar {text : Bytes} (scalar : Scalar text) : Front «open» text true «open»
  /-- The opening byte of a container. -/
  | container (frame : Frame) : Front «open» [frame.opening] false (frame :: «open»)

variable {«open» inner outer : List Frame} {cursor last : Cursor} {afterItem : Bool}

/-- Passes over a word behind the byte that begins it. -/
theorem scalar_of_literal {b : UInt8} {letters : List Char}
    (hword : b :: letters.map byte ∈ words.map (List.map byte))
    (hahead : cursor.rest.head? = some b)
    (h : (do skip; literal letters : Reader Unit) cursor = .ok () last) :
    ∃ text, Scalar text ∧ cursor.Passes text last := by
  rw [skip_bind] at h
  obtain ⟨word, hmem, hsame⟩ := List.mem_map.mp hword
  refine ⟨_, .word hmem, ?_⟩
  rw [hsame]
  exact Cursor.passes_cons.mpr ⟨hahead, literal_eq_ok.mp h⟩

theorem front_of_skipFront (h : skipFront «open» cursor = .ok (afterItem, inner) last) :
    ∃ gap text, AllBlank gap ∧ Front «open» text afterItem inner ∧
      cursor.Passes (gap ++ text) last := by
  obtain ⟨gap, b, reached, hgap, hblanks, hahead, -, hrest⟩ :=
    (peekPastBlanks_bind_eq_ok nofun).mp h
  have hscalar : ∀ pass : Reader Unit, (do pass; pure (true, «open»)) reached =
      .ok (afterItem, inner) last → (∀ final, pass reached = .ok () final →
        ∃ text, Scalar text ∧ reached.Passes text final) →
      ∃ gap text, AllBlank gap ∧ Front «open» text afterItem inner ∧
        cursor.Passes (gap ++ text) last := by
    intro pass hpass hsound
    obtain ⟨_, _, hvalue, hdone⟩ := bind_eq_ok.mp hpass
    obtain ⟨heq, rfl⟩ := pure_eq_ok.mp hdone
    cases heq
    obtain ⟨text, htext, hpasses⟩ := hsound _ hvalue
    exact ⟨gap, text, hgap, .scalar htext, hblanks.trans hpasses⟩
  simp only at hrest
  split at hrest
  · next hb =>
    obtain rfl := eq_of_beq hb
    exact hscalar (do skip; literal ['u', 'l', 'l']) hrest fun _ =>
      scalar_of_literal (by decide) hahead
  split at hrest
  · next hb =>
    obtain rfl := eq_of_beq hb
    exact hscalar (do skip; literal ['r', 'u', 'e']) hrest fun _ =>
      scalar_of_literal (by decide) hahead
  split at hrest
  · next hb =>
    obtain rfl := eq_of_beq hb
    exact hscalar (do skip; literal ['a', 'l', 's', 'e']) hrest fun _ =>
      scalar_of_literal (by decide) hahead
  split at hrest
  · next hb =>
    obtain rfl := eq_of_beq hb
    refine hscalar (do skip; skipUnsigned) hrest fun final hnumber => ?_
    obtain ⟨text, htext, hpasses⟩ := unsignedText_of_skipUnsigned hnumber
    exact ⟨_, .number (Or.inr ⟨text, htext, rfl⟩), Cursor.passes_cons.mpr ⟨hahead, hpasses⟩⟩
  split at hrest
  · refine hscalar skipUnsigned hrest fun final hnumber => ?_
    obtain ⟨text, htext, hpasses⟩ := unsignedText_of_skipUnsigned hnumber
    exact ⟨text, .number (Or.inl htext), hpasses⟩
  split at hrest
  · next hb =>
    obtain rfl := eq_of_beq hb
    refine hscalar (do skip; skipString ((← remaining) + 1)) hrest fun final hstring => ?_
    obtain ⟨text, htext, hpasses⟩ := quotedText_of_skipString hstring
    exact ⟨_, .string htext, Cursor.passes_cons.mpr ⟨hahead, hpasses⟩⟩
  split at hrest
  · next hb =>
    obtain rfl := eq_of_beq hb
    rw [skip_bind] at hrest
    obtain ⟨heq, rfl⟩ := pure_eq_ok.mp hrest
    cases heq
    exact ⟨gap, _, hgap, .container .list, hblanks.trans (Cursor.passes_advance hahead)⟩
  split at hrest
  · next hb =>
    obtain rfl := eq_of_beq hb
    rw [skip_bind] at hrest
    obtain ⟨heq, rfl⟩ := pure_eq_ok.mp hrest
    cases heq
    exact ⟨gap, _, hgap, .container .object, hblanks.trans (Cursor.passes_advance hahead)⟩
  · cases hrest

/-- A digit is no other byte. -/
theorem beq_of_digit {b : UInt8} (hdigit : (digit? b).isSome = true) (other : UInt8)
    (hother : digit? other = none) : (b == other) = false := by
  apply beq_eq_false_iff_ne.mpr
  rintro rfl
  simp [hother] at hdigit

theorem isBlankByte_of_digit {b : UInt8} (hdigit : (digit? b).isSome = true) :
    isBlankByte b = false := by
  have hother := beq_of_digit hdigit
  simp only [isBlankByte, hother 0x20 (by decide), hother 0x0A (by decide),
    hother 0x09 (by decide), hother 0x0D (by decide), Bool.or_self]

theorem peekPastBlanks_of_head? {b : UInt8} (hahead : cursor.rest.head? = some b)
    (hb : isBlankByte b = false) :
    peekPastBlanks cursor = .ok (some b) cursor :=
  peekPastBlanks_eq_ok.mpr
    ⟨[], allBlank_nil, Cursor.passes_nil.mpr rfl, hahead, by rintro _ ⟨⟩; exact hb⟩

theorem skipFront_of_front {text : Bytes} (h : Front «open» text afterItem inner)
    (hpasses : cursor.Passes text last) (ends : afterItem = true → Numeral.Ends last.rest) :
    skipFront «open» cursor = .ok (afterItem, inner) last := by
  cases h with
  | container frame =>
    obtain ⟨hahead, rfl⟩ := Cursor.passes_singleton.mp hpasses
    cases frame with
    | list => exact bind_eq_ok.mpr ⟨_, _, peekPastBlanks_of_head? hahead (by decide), rfl⟩
    | object => exact bind_eq_ok.mpr ⟨_, _, peekPastBlanks_of_head? hahead (by decide), rfl⟩
  | scalar scalar =>
    cases scalar with
    | word word =>
      simp only [words, List.mem_cons, List.not_mem_nil, or_false] at word
      rcases word with rfl | rfl | rfl
      all_goals
        obtain ⟨hahead, hlater⟩ := Cursor.passes_cons.mp hpasses
        refine bind_eq_ok.mpr ⟨_, _, peekPastBlanks_of_head? hahead (by decide), ?_⟩
        have hliteral := literal_eq_ok.mpr hlater
        exact bind_eq_ok.mpr ⟨(), _, rfl, bind_eq_ok.mpr ⟨(), last, hliteral, rfl⟩⟩
    | number number =>
      rcases number with hunsigned | ⟨unsigned, hunsigned, rfl⟩
      · have hnumber := skipUnsigned_of_unsignedText hunsigned hpasses (ends rfl)
        obtain ⟨_, _, _, ⟨b, more, rfl, hall, -⟩, -, -, rfl⟩ := hunsigned
        obtain ⟨hahead, -⟩ := Cursor.passes_cons.mp hpasses
        have hdigit := (allDigits_cons.mp hall).1
        have hother := beq_of_digit hdigit
        refine bind_eq_ok.mpr
          ⟨_, _, peekPastBlanks_of_head? hahead (isBlankByte_of_digit hdigit), ?_⟩
        simp only [hother (byte 'n') (by decide), hother (byte 't') (by decide),
          hother (byte 'f') (by decide), hother (byte '-') (by decide), hdigit, if_true,
          Bool.false_eq_true, if_false]
        exact bind_eq_ok.mpr ⟨(), last, hnumber, rfl⟩
      · obtain ⟨hahead, hlater⟩ := Cursor.passes_cons.mp hpasses
        refine bind_eq_ok.mpr ⟨_, _, peekPastBlanks_of_head? hahead (by decide), ?_⟩
        have hnumber := skipUnsigned_of_unsignedText hunsigned hlater (ends rfl)
        exact bind_eq_ok.mpr ⟨(), _, rfl, bind_eq_ok.mpr ⟨(), last, hnumber, rfl⟩⟩
    | @string text quoted =>
      obtain ⟨hahead, hlater⟩ := Cursor.passes_cons.mp hpasses
      refine bind_eq_ok.mpr ⟨_, _, peekPastBlanks_of_head? hahead (by decide), ?_⟩
      have henough : text.length ≤ cursor.advance.rest.length + 1 := by
        have := hlater.length
        omega
      have hstring := skipString_of_quotedText quoted henough hlater
      exact bind_eq_ok.mpr ⟨(), _, rfl,
        bind_eq_ok.mpr ⟨_, _, rfl, bind_eq_ok.mpr ⟨(), last, hstring, rfl⟩⟩⟩

/-- Goes on inside the containers that are open: with the next item or member, unless none is. -/
def resume (bound : Nat) : List Frame → Reader Unit
  | [] => pure ()
  | .list :: outer => skipInside bound (.list :: outer)
  | .object :: outer => do
    skipName
    skipInside bound (.object :: outer)

theorem skipInside_succ (bound : Nat) («open» : List Frame) :
    skipInside (bound + 1) «open» =
      skipFront «open» >>= fun found => skipEnds found.1 found.2 >>= resume bound := by
  rfl

/-- What the containers that are open still wait for behind an item. -/
def Closes : List Frame → Bytes → Prop
  | [], text => text = []
  | frame :: outer, text => ∃ more later, Written (.more frame) more ∧ Closes outer later ∧
      text = more ++ later

/-- What the containers that are open wait for next. -/
def Resumes : List Frame → Bytes → Prop
  | [], text => text = []
  | frame :: outer, text => ∃ entry later, Written frame.entry entry ∧
      Closes (frame :: outer) later ∧ text = entry ++ later

theorem passes_of_skipName (h : skipName cursor = .ok () last) :
    ∃ lead name gap, AllBlank lead ∧ QuotedText name ∧ AllBlank gap ∧
      cursor.Passes (lead ++ byte '"' :: (name ++ (gap ++ [byte ':']))) last := by
  obtain ⟨lead, b, reached, hlead, hblanks, hahead, -, hrest⟩ :=
    (peekPastBlanks_bind_eq_ok nofun).mp h
  simp only at hrest
  split at hrest
  · next hb =>
    obtain rfl := eq_of_beq hb
    rw [skip_bind] at hrest
    obtain ⟨_, _, hremaining, hquoted⟩ := bind_eq_ok.mp hrest
    cases hremaining
    obtain ⟨_, named, hname, hcolon⟩ := bind_eq_ok.mp hquoted
    obtain ⟨name, hname, hnamePasses⟩ := quotedText_of_skipString hname
    obtain ⟨gap, hgap, hgapPasses⟩ := colon_eq_ok.mp hcolon
    exact ⟨lead, name, gap, hlead, hname, hgap,
      hblanks.trans (Cursor.passes_cons.mpr ⟨hahead, hnamePasses.trans hgapPasses⟩)⟩
  · cases hrest

theorem isBlankByte_closing (frame : Frame) : isBlankByte frame.closing = false := by
  cases frame <;> decide

theorem closing_ne_comma (frame : Frame) : frame.closing ≠ byte ',' := by
  cases frame <;> decide

theorem closing_test (frame : Frame) (b : UInt8) :
    (frame == .list && b == byte ']' || frame == .object && b == byte '\x7d') = true ↔
      b = frame.closing := by
  cases frame <;> simp [Frame.closing]

/-- The ends of containers, a comma, or the next item lie ahead. -/
theorem skipEnds_cons_eq_ok {frame : Frame} {left : List Frame} :
    skipEnds afterItem (frame :: outer) cursor = .ok left last ↔
      ∃ gap b reached, AllBlank gap ∧ cursor.Passes gap reached ∧ reached.rest.head? = some b ∧
        isBlankByte b = false ∧
        ((afterItem = true ∧ b = byte ',' ∧ left = frame :: outer ∧ last = reached.advance) ∨
          (b = frame.closing ∧ skipEnds true outer reached.advance = .ok left last) ∨
          (afterItem = false ∧ b ≠ frame.closing ∧ left = frame :: outer ∧ last = reached)) := by
  rw [skipEnds.eq_def, peekPastBlanks_bind_eq_ok (by cases frame <;> nofun)]
  refine exists_congr fun gap => exists_congr fun b => exists_congr fun reached => ?_
  refine and_congr_right fun _ => and_congr_right fun _ => and_congr_right fun _ =>
    and_congr_right fun _ => ?_
  simp only
  by_cases hclose : b = frame.closing
  · have hcomma : b ≠ byte ',' := hclose ▸ closing_ne_comma frame
    rw [if_neg (by simp [hcomma]), if_pos ((closing_test frame b).mpr hclose), skip_bind]
    simp [hclose, closing_ne_comma]
  · have htest := mt (closing_test frame b).mp hclose
    cases afterItem with
    | true =>
      by_cases hcomma : b = byte ','
      · rw [if_pos (by simp [hcomma]), skip_bind, pure_eq_ok]
        simp [hcomma, eq_comm, (closing_ne_comma frame).symm]
      · rw [if_neg (by simp [hcomma]), if_neg htest]
        simp [hclose, hcomma, failAhead]
    | false =>
      rw [if_neg (by simp), if_neg htest, if_neg (by simp), pure_eq_ok]
      simp [hclose, eq_comm]

section Soundness

variable {bound : Nat}
  (inside : ∀ {«open» cursor last}, skipInside bound «open» cursor = .ok () last →
    ∃ value later, Written .value value ∧ Closes «open» later ∧ cursor.Passes (value ++ later) last)

include inside in
theorem resumes_of_resume («open» : List Frame) (h : resume bound «open» cursor = .ok () last) :
    ∃ text, Resumes «open» text ∧ cursor.Passes text last := by
  rcases «open» with _ | ⟨frame, outer⟩
  · obtain ⟨-, rfl⟩ := pure_eq_ok.mp h
    exact ⟨[], rfl, Cursor.passes_nil.mpr rfl⟩
  cases frame with
  | list =>
    obtain ⟨value, later, hvalue, hlater, hpasses⟩ := inside h
    exact ⟨_, ⟨value, later, hvalue, hlater, rfl⟩, hpasses⟩
  | object =>
    obtain ⟨_, reached, hname, hrest⟩ := bind_eq_ok.mp h
    obtain ⟨lead, name, gap, hlead, hquoted, hgap, hnamePasses⟩ := passes_of_skipName hname
    obtain ⟨value, later, hvalue, hlater, hpasses⟩ := inside hrest
    refine ⟨_, ⟨_, later, .blanks hlead (.member hquoted hgap hvalue), hlater, rfl⟩, ?_⟩
    simpa only [List.append_assoc, List.cons_append, List.nil_append] using
      hnamePasses.trans hpasses

include inside in
theorem closes_of_skipEnds (h : (skipEnds true «open» >>= resume bound) cursor = .ok () last) :
    ∃ text, Closes «open» text ∧ cursor.Passes text last := by
  induction «open» generalizing cursor with
  | nil => exact resumes_of_resume inside [] h
  | cons frame outer ih =>
    obtain ⟨left, middle, hends, hresume⟩ := bind_eq_ok.mp h
    obtain ⟨gap, b, reached, hgap, hblanks, hahead, -, hkind⟩ := skipEnds_cons_eq_ok.mp hends
    rcases hkind with ⟨-, rfl, rfl, rfl⟩ | ⟨rfl, hlater⟩ | ⟨hfirst, -⟩
    · obtain ⟨_, ⟨entry, _, hentry, ⟨more, later, hmore, hlater, rfl⟩, rfl⟩, hpasses⟩ :=
        resumes_of_resume inside _ hresume
      exact ⟨_, ⟨_, later, .blanks hgap (.next hentry hmore), hlater, by simp⟩,
        hblanks.trans (Cursor.passes_cons.mpr ⟨hahead, hpasses⟩)⟩
    · obtain ⟨text, htext, hpasses⟩ := ih (bind_eq_ok.mpr ⟨left, middle, hlater, hresume⟩)
      exact ⟨_, ⟨_, text, .blanks hgap (.last frame), htext, by simp⟩,
        hblanks.trans (Cursor.passes_cons.mpr ⟨hahead, hpasses⟩)⟩
    · cases hfirst

include inside in
theorem closes_of_skipEnds_opened {frame : Frame}
    (h : (skipEnds false (frame :: outer) >>= resume bound) cursor = .ok () last) :
    ∃ rest later, Written (.opened frame) rest ∧ Closes outer later ∧
      cursor.Passes (rest ++ later) last := by
  obtain ⟨left, middle, hends, hresume⟩ := bind_eq_ok.mp h
  obtain ⟨gap, b, reached, hgap, hblanks, hahead, -, hkind⟩ := skipEnds_cons_eq_ok.mp hends
  rcases hkind with ⟨hfirst, -⟩ | ⟨rfl, hlater⟩ | ⟨-, -, rfl, rfl⟩
  · cases hfirst
  · obtain ⟨text, htext, hpasses⟩ :=
      closes_of_skipEnds inside (bind_eq_ok.mpr ⟨left, middle, hlater, hresume⟩)
    refine ⟨_, text, .blanks hgap (.empty frame), htext, ?_⟩
    simpa using hblanks.trans (Cursor.passes_cons.mpr ⟨hahead, hpasses⟩)
  · obtain ⟨_, ⟨entry, _, hentry, ⟨more, later, hmore, hlater, rfl⟩, rfl⟩, hpasses⟩ :=
      resumes_of_resume inside _ hresume
    refine ⟨_, later, .blanks hgap (.first hentry hmore), hlater, ?_⟩
    simpa using hblanks.trans hpasses

end Soundness

/-- What is passed over inside open containers is a value, and then what the containers wait for. -/
theorem written_of_skipInside {bound : Nat}
    (h : skipInside bound «open» cursor = .ok () last) :
    ∃ value later, Written .value value ∧ Closes «open» later ∧
      cursor.Passes (value ++ later) last := by
  induction bound generalizing «open» cursor last with
  | zero => cases h
  | succ bound ih =>
    rw [skipInside_succ] at h
    obtain ⟨⟨afterItem, inner⟩, reached, hfront, hends⟩ := bind_eq_ok.mp h
    obtain ⟨gap, text, hgap, htext, hpasses⟩ := front_of_skipFront hfront
    cases htext with
    | scalar hscalar =>
      obtain ⟨later, hlater, hends⟩ := closes_of_skipEnds ih hends
      exact ⟨_, later, .blanks hgap (.scalar hscalar), hlater, hpasses.trans hends⟩
    | container frame =>
      obtain ⟨rest, later, hrest, hlater, hends⟩ := closes_of_skipEnds_opened ih hends
      refine ⟨_, later, .blanks hgap (.container frame hrest), hlater, ?_⟩
      simpa only [List.append_assoc, List.cons_append, List.nil_append] using hpasses.trans hends

/-- A value is passed over only where there is one. -/
theorem written_of_skipValue (h : skipValue cursor = .ok () last) :
    ∃ text, Written .value text ∧ cursor.Passes text last := by
  obtain ⟨_, _, hremaining, hinside⟩ := bind_eq_ok.mp h
  cases hremaining
  obtain ⟨text, later, htext, hlater, hpasses⟩ := written_of_skipInside hinside
  obtain rfl : later = [] := hlater
  rw [List.append_nil] at hpasses
  exact ⟨text, htext, hpasses⟩

/-- Passes over the rest of a part, and then over the ends of the containers around it. -/
def toRead (bound : Nat) («open» : List Frame) : Part → Reader Unit
  | .value => skipInside bound «open»
  | .member => skipName >>= fun _ => skipInside bound «open»
  | .opened frame => skipEnds false (frame :: «open») >>= resume bound
  | .more frame => skipEnds true (frame :: «open») >>= resume bound

theorem resume_cons (bound : Nat) (frame : Frame) (outer : List Frame) :
    resume bound (frame :: outer) = toRead bound (frame :: outer) frame.entry := by
  cases frame <;> rfl

/-- Every part begins with blanks, so it does not matter whether they have been passed over. -/
theorem toRead_congr {reached : Cursor} (h : peekPastBlanks cursor = peekPastBlanks reached)
    (bound : Nat) («open» : List Frame) (part : Part) :
    toRead (bound + 1) «open» part cursor = toRead (bound + 1) «open» part reached := by
  have hends : ∀ afterItem frame outer, skipEnds afterItem (frame :: outer) cursor =
      skipEnds afterItem (frame :: outer) reached := by
    intro afterItem frame outer
    rw [skipEnds.eq_def]
    exact bind_congr_of_eq h _
  cases part with
  | value => exact bind_congr_of_eq (bind_congr_of_eq h _) _
  | member => exact bind_congr_of_eq (bind_congr_of_eq h _) _
  | opened frame => exact bind_congr_of_eq (hends _ _ _) _
  | more frame => exact bind_congr_of_eq (hends _ _ _) _

theorem peekPastBlanks_of_blank {b : UInt8} (hahead : cursor.rest.head? = some b)
    (hb : isBlankByte b = true) : peekPastBlanks cursor = peekPastBlanks cursor.advance := by
  obtain ⟨bytes, place⟩ := cursor
  cases bytes with
  | nil => cases hahead
  | cons first rest =>
    obtain rfl := Option.some.inj hahead
    simp only [peekPastBlanks, afterBlanks, if_pos hb, Cursor.advance]

/-- The bytes that end containers; no value and no member begins with one. -/
def closings : List UInt8 := [Frame.list.closing, Frame.object.closing]

theorem Scalar.starts {text : Bytes} (h : Scalar text) :
    ∃ b more, text = b :: more ∧ isBlankByte b = false ∧ b ∉ closings := by
  cases h with
  | word word =>
    simp only [words, List.mem_cons, List.not_mem_nil, or_false] at word
    rcases word with rfl | rfl | rfl
    · exact ⟨byte 'n', _, rfl, by decide⟩
    · exact ⟨byte 't', _, rfl, by decide⟩
    · exact ⟨byte 'f', _, rfl, by decide⟩
  | number number =>
    rcases number with ⟨_, _, _, ⟨b, more, rfl, hall, -⟩, -, -, rfl⟩ | ⟨unsigned, -, rfl⟩
    · have hdigit := (allDigits_cons.mp hall).1
      have hlist := beq_of_digit hdigit Frame.list.closing (by decide)
      have hobject := beq_of_digit hdigit Frame.object.closing (by decide)
      refine ⟨b, _, rfl, isBlankByte_of_digit hdigit, ?_⟩
      simp only [closings, List.mem_cons, List.not_mem_nil, or_false, not_or]
      exact ⟨ne_of_beq_false hlist, ne_of_beq_false hobject⟩
    · exact ⟨byte '-', _, rfl, by decide⟩
  | string quoted => exact ⟨byte '"', _, rfl, by decide⟩

/-- Behind blanks a value or a member begins with a byte that ends no container. -/
theorem Written.starts {part : Part} {text : Bytes} (h : Written part text)
    (hpart : part = .value ∨ part = .member) :
    ∃ gap b more, AllBlank gap ∧ text = gap ++ b :: more ∧ isBlankByte b = false ∧
      b ∉ closings := by
  induction h with
  | blank hb _ ih =>
    obtain ⟨gap, b, more, hgap, rfl, hstart⟩ := ih hpart
    exact ⟨_ :: gap, b, more, allBlank_cons.mpr ⟨hb, hgap⟩, rfl, hstart⟩
  | scalar hscalar =>
    obtain ⟨b, more, rfl, hstart⟩ := hscalar.starts
    exact ⟨[], b, more, allBlank_nil, rfl, hstart⟩
  | container frame _ =>
    cases frame with
    | list => exact ⟨[], byte '[', _, allBlank_nil, rfl, by decide⟩
    | object => exact ⟨[], byte '{', _, allBlank_nil, rfl, by decide⟩
  | member _ _ _ => exact ⟨[], byte '"', _, allBlank_nil, rfl, by decide⟩
  | empty => simp at hpart
  | first => simp at hpart
  | last => simp at hpart
  | next => simp at hpart

/-- A byte that does not continue a number. -/
def Stops (b : UInt8) : Prop := digit? b = none ∧ b ∉ [byte '.', byte 'e', byte 'E']

instance : DecidablePred Stops := fun _ => inferInstanceAs (Decidable (_ ∧ _))

theorem stops_of_blank {b : UInt8} (h : isBlankByte b = true) : Stops b := by
  simp only [isBlankByte, Bool.or_eq_true, beq_iff_eq, or_assoc] at h
  rcases h with rfl | rfl | rfl | rfl <;> decide

theorem stops_closing (frame : Frame) : Stops frame.closing := by
  cases frame <;> decide

/-- What follows an item or a member does not continue a number. -/
theorem Written.ends {frame : Frame} {text : Bytes} (h : Written (.more frame) text)
    (tail : Bytes) : Numeral.Ends (text ++ tail) := by
  have hstops : ∀ b more, Stops b → Numeral.Ends (b :: more ++ tail) := by
    rintro b more hb _ ⟨⟩
    exact hb
  cases h with
  | blank hb _ => exact hstops _ _ (stops_of_blank hb)
  | last => exact hstops _ _ (stops_closing frame)
  | next => exact hstops _ _ (by decide)

theorem skipEnds_of_closing {frame : Frame} (hahead : cursor.rest.head? = some frame.closing) :
    skipEnds afterItem (frame :: outer) cursor = skipEnds true outer cursor.advance := by
  have hpeek := peekPastBlanks_of_head? hahead (isBlankByte_closing frame)
  rw [skipEnds.eq_def]
  refine (bind_of_ok hpeek _).trans ?_
  simp only
  rw [if_neg (by simp [closing_ne_comma]), if_pos ((closing_test frame _).mpr rfl), skip_bind]

theorem skipEnds_of_comma {frame : Frame} (hahead : cursor.rest.head? = some (byte ',')) :
    skipEnds true (frame :: outer) cursor = .ok (frame :: outer) cursor.advance :=
  skipEnds_cons_eq_ok.mpr ⟨[], byte ',', cursor, allBlank_nil, Cursor.passes_nil.mpr rfl,
    hahead, by decide, Or.inl ⟨rfl, rfl, rfl, rfl⟩⟩

/-- An item or a member begins where its container does not end. -/
theorem skipEnds_of_entry (outer : List Frame) {frame : Frame} {text : Bytes}
    (h : Written frame.entry text) (hpasses : cursor.Passes text last) :
    ∃ reached, skipEnds false (frame :: outer) cursor = .ok (frame :: outer) reached ∧
      peekPastBlanks reached = peekPastBlanks cursor := by
  have hpart : frame.entry = .value ∨ frame.entry = .member := by
    cases frame <;> simp [Frame.entry]
  obtain ⟨gap, b, more, hgap, rfl, hblank, hclosing⟩ := h.starts hpart
  obtain ⟨reached, hblanks, hlater⟩ := Cursor.passes_append.mp hpasses
  obtain ⟨hahead, -⟩ := Cursor.passes_cons.mp hlater
  have hpeek : peekPastBlanks cursor = .ok (some b) reached :=
    peekPastBlanks_eq_ok.mpr ⟨gap, hgap, hblanks, hahead, by rintro _ ⟨⟩; exact hblank⟩
  refine ⟨reached, skipEnds_cons_eq_ok.mpr ⟨gap, b, reached, hgap, hblanks, hahead, hblank,
    Or.inr (Or.inr ⟨rfl, ?_, rfl, rfl⟩)⟩, (peekPastBlanks_peekPastBlanks hpeek).trans hpeek.symm⟩
  rintro rfl
  cases frame <;> simp [closings] at hclosing

/-- A member's name is passed over with the colon behind it. -/
theorem skipName_of_passes {name gap : Bytes} (hname : QuotedText name) (hgap : AllBlank gap)
    (hpasses : cursor.Passes (byte '"' :: (name ++ (gap ++ [byte ':']))) last) :
    skipName cursor = .ok () last := by
  obtain ⟨hahead, hlater⟩ := Cursor.passes_cons.mp hpasses
  obtain ⟨named, hquoted, hcolon⟩ := Cursor.passes_append.mp hlater
  have henough : name.length ≤ cursor.advance.rest.length + 1 := by
    have := hquoted.length
    omega
  refine (bind_of_ok (peekPastBlanks_of_head? hahead (by decide)) _).trans ?_
  refine bind_eq_ok.mpr ⟨(), _, rfl, bind_eq_ok.mpr ⟨_, _, rfl, ?_⟩⟩
  exact bind_eq_ok.mpr ⟨(), named, skipString_of_quotedText hname henough hquoted,
    colon_eq_ok.mpr ⟨gap, hgap, hcolon⟩⟩

/-- Where a part is written its rest is passed over, with enough steps left for what follows. -/
theorem toRead_of_written {part : Part} {text : Bytes} (h : Written part text) (bound : Nat)
    («open» : List Frame) (hpasses : cursor.Passes text last)
    (ends : Numeral.Ends last.rest) (enough : cursor.rest.length < bound) :
    ∃ less, last.rest.length < less ∧
      toRead bound «open» part cursor = (skipEnds true «open» >>= resume less) last := by
  induction h generalizing bound «open» cursor last with
  | blank hb rest ih =>
    obtain ⟨hahead, hlater⟩ := Cursor.passes_cons.mp hpasses
    obtain ⟨bound, rfl⟩ := Nat.exists_eq_succ_of_ne_zero (Nat.ne_zero_of_lt enough)
    rw [toRead_congr (peekPastBlanks_of_blank hahead hb)]
    exact ih _ _ hlater ends ((length_advance_lt hahead).trans enough)
  | scalar hscalar =>
    obtain ⟨bound, rfl⟩ := Nat.exists_eq_succ_of_ne_zero (Nat.ne_zero_of_lt enough)
    obtain ⟨b, more, rfl, -⟩ := hscalar.starts
    have hlength := hpasses.length
    rw [List.length_cons] at hlength
    refine ⟨bound, by omega, ?_⟩
    rw [toRead, skipInside_succ]
    exact bind_of_ok (skipFront_of_front (.scalar hscalar) hpasses fun _ => ends) _
  | container frame rest ih =>
    obtain ⟨bound, rfl⟩ := Nat.exists_eq_succ_of_ne_zero (Nat.ne_zero_of_lt enough)
    obtain ⟨hahead, hlater⟩ := Cursor.passes_cons.mp hpasses
    have hshorter := length_advance_lt hahead
    obtain ⟨less, hless, hread⟩ := ih bound «open» hlater ends (by omega)
    have hopening : skipFront «open» cursor = .ok (false, frame :: «open») cursor.advance :=
      skipFront_of_front (.container frame) (Cursor.passes_advance hahead) nofun
    refine ⟨less, hless, ?_⟩
    rw [← hread, toRead, skipInside_succ]
    exact bind_of_ok hopening _
  | @member name gap text hname hgap hvalue ih =>
    have hsplit : byte '"' :: (name ++ (gap ++ byte ':' :: text)) =
        byte '"' :: (name ++ (gap ++ [byte ':'])) ++ text := by simp
    obtain ⟨middle, hhead, hlater⟩ := Cursor.passes_append.mp (hsplit ▸ hpasses)
    have hlength := hhead.length
    rw [List.length_cons] at hlength
    obtain ⟨less, hless, hread⟩ := ih bound «open» hlater ends (by omega)
    exact ⟨less, hless, (bind_of_ok (skipName_of_passes hname hgap hhead) _).trans hread⟩
  | empty frame =>
    obtain ⟨hahead, rfl⟩ := Cursor.passes_singleton.mp hpasses
    exact ⟨bound, (length_advance_lt hahead).trans enough,
      bind_congr_of_eq (skipEnds_of_closing hahead) _⟩
  | last frame =>
    obtain ⟨hahead, rfl⟩ := Cursor.passes_singleton.mp hpasses
    exact ⟨bound, (length_advance_lt hahead).trans enough,
      bind_congr_of_eq (skipEnds_of_closing hahead) _⟩
  | @first frame text more hentry hmore ihEntry ihMore =>
    obtain ⟨bound, rfl⟩ := Nat.exists_eq_succ_of_ne_zero (Nat.ne_zero_of_lt enough)
    obtain ⟨middle, hvalue, hlater⟩ := Cursor.passes_append.mp hpasses
    obtain ⟨reached, hstart, hpeek⟩ := skipEnds_of_entry «open» hentry hvalue
    obtain ⟨less, hless, hread⟩ := ihEntry _ (frame :: «open») hvalue
      (hlater.rest ▸ hmore.ends _) enough
    obtain ⟨least, hleast, hrest⟩ := ihMore _ «open» hlater ends hless
    refine ⟨least, hleast, ?_⟩
    calc toRead (bound + 1) «open» (.opened frame) cursor
        = resume (bound + 1) (frame :: «open») reached := bind_of_ok hstart _
      _ = toRead (bound + 1) (frame :: «open») frame.entry cursor := by
          rw [resume_cons, toRead_congr hpeek]
      _ = (skipEnds true «open» >>= resume least) last := hread.trans hrest
  | @next frame text more hentry hmore ihEntry ihMore =>
    obtain ⟨hahead, hboth⟩ := Cursor.passes_cons.mp hpasses
    obtain ⟨middle, hvalue, hlater⟩ := Cursor.passes_append.mp hboth
    obtain ⟨less, hless, hread⟩ := ihEntry _ (frame :: «open») hvalue
      (hlater.rest ▸ hmore.ends _) ((length_advance_lt hahead).trans enough)
    obtain ⟨least, hleast, hrest⟩ := ihMore _ «open» hlater ends hless
    refine ⟨least, hleast, ?_⟩
    calc toRead bound «open» (.more frame) cursor
        = resume bound (frame :: «open») cursor.advance := bind_of_ok (skipEnds_of_comma hahead) _
      _ = toRead bound (frame :: «open») frame.entry cursor.advance := by rw [resume_cons]
      _ = (skipEnds true «open» >>= resume least) last := hread.trans hrest

/-- A value is passed over where there is one that nothing continues. -/
theorem skipValue_of_written {text : Bytes} (h : Written .value text)
    (hpasses : cursor.Passes text last) (ends : Numeral.Ends last.rest) :
    skipValue cursor = .ok () last := by
  obtain ⟨less, -, hread⟩ := toRead_of_written h _ [] hpasses ends (Nat.lt_succ_self _)
  exact bind_eq_ok.mpr ⟨_, cursor, rfl, hread⟩

end Reader

end RelyingParty.Json
