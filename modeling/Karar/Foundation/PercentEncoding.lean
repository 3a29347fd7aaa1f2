import Mathlib.Data.List.Forall2

/-!
# Percent-encoded text

A raw text stands for a text that it spells character by character, each either as itself or as the
octets of its UTF-8 form, every octet a percent sign and two hexadecimal digits (`Spells`). `decode`
reads a raw text, and fails on one that is malformed; it reads exactly what is spelled
(`decode_eq_some_iff`). No escape reaches over a character that is neither a percent sign nor a
hexadecimal digit, so such a character cuts a raw text into parts that are read on their own
(`decode_append_cons`).
-/

namespace Karar.Foundation.PercentEncoding

/-! ### Escapes -/

/-- The value of a hexadecimal digit of either case. -/
def hexValue (c : Char) : Option ℕ :=
  if c.isDigit then some (c.toNat - '0'.toNat)
  else if 'a' ≤ c ∧ c ≤ 'f' then some (c.toNat - 'a'.toNat + 10)
  else if 'A' ≤ c ∧ c ≤ 'F' then some (c.toNat - 'A'.toNat + 10)
  else none

/-- What a raw text is read as first: its characters, and the octets of its escapes. -/
inductive Token
  | literal (c : Char)
  | octet (value : ℕ)
deriving DecidableEq

/-- The characters and escapes of a raw text. -/
def tokens : List Char → Option (List Token)
  | [] => some []
  | c :: rest =>
    if c ≠ '%' then (tokens rest).map (.literal c :: ·)
    else
      match rest with
      | high :: low :: others => do
        let high ← hexValue high
        let low ← hexValue low
        (tokens others).map (.octet (16 * high + low) :: ·)
      | _ => none

/-- A raw text and its tokens. -/
inductive Reads : List Char → List Token → Prop
  | nil : Reads [] []
  | literal {c : Char} {raw : List Char} {others : List Token} :
      c ≠ '%' → Reads raw others → Reads (c :: raw) (.literal c :: others)
  | escape {first second : Char} {high low : ℕ} {raw : List Char} {others : List Token} :
      hexValue first = some high → hexValue second = some low → Reads raw others →
        Reads ('%' :: first :: second :: raw) (.octet (16 * high + low) :: others)

theorem tokens_eq_some_iff {raw : List Char} {read : List Token} :
    tokens raw = some read ↔ Reads raw read := by
  constructor
  · intro hread
    fun_induction tokens raw generalizing read with
    | case1 =>
      obtain rfl := Option.some.inj hread
      exact .nil
    | case2 c rest hc ih =>
      obtain ⟨others, hothers, rfl⟩ := Option.map_eq_some_iff.mp hread
      exact .literal hc (ih hothers)
    | case3 c hc first second raw ih =>
      obtain rfl := not_not.mp hc
      simp only [Option.bind_eq_bind, Option.bind_eq_some_iff, Option.map_eq_some_iff] at hread
      obtain ⟨high, hhigh, low, hlow, others, hothers, rfl⟩ := hread
      exact .escape hhigh hlow (ih hothers)
    | case4 => simp at hread
  · intro hreads
    induction hreads with
    | nil => rfl
    | literal hc _ ih =>
      rw [tokens.eq_def]
      simp only [if_pos hc, ih, Option.map_some]
    | escape hhigh hlow _ ih => simp [tokens, hhigh, hlow, ih]

/-! ### Octets of a character -/

/-- The octets of a character in UTF-8. -/
def utf8Octets (c : Char) : List ℕ :=
  let value := c.toNat
  if value < 0x80 then [value]
  else if value < 0x800 then [0xC0 + value / 64, 0x80 + value % 64]
  else if value < 0x10000 then [0xE0 + value / 4096, 0x80 + value / 64 % 64, 0x80 + value % 64]
  else
    [0xF0 + value / 262144, 0x80 + value / 4096 % 64, 0x80 + value / 64 % 64, 0x80 + value % 64]

/-- An octet that continues a character. -/
def isTail (octet : ℕ) : Bool := decide (0x80 ≤ octet ∧ octet < 0xC0)

/-- The character of a value that needs as many octets as it was written with. -/
def charOf (least value : ℕ) : Option Char :=
  if least ≤ value ∧ value.isValidChar then some (Char.ofNat value) else none

/-- The text of a sequence of tokens, when its octets are UTF-8. -/
def textOf : List Token → Option (List Char)
  | [] => some []
  | .literal c :: rest => (textOf rest).map (c :: ·)
  | .octet first :: rest =>
    if first < 0x80 then (textOf rest).map (Char.ofNat first :: ·)
    else if 0xC0 ≤ first ∧ first < 0xE0 then
      match rest with
      | .octet second :: rest =>
        if isTail second then do
          let c ← charOf 0x80 (64 * (first - 0xC0) + (second - 0x80))
          (textOf rest).map (c :: ·)
        else none
      | _ => none
    else if 0xE0 ≤ first ∧ first < 0xF0 then
      match rest with
      | .octet second :: .octet third :: rest =>
        if isTail second && isTail third then do
          let c ← charOf 0x800 (4096 * (first - 0xE0) + 64 * (second - 0x80) + (third - 0x80))
          (textOf rest).map (c :: ·)
        else none
      | _ => none
    else if 0xF0 ≤ first ∧ first < 0xF8 then
      match rest with
      | .octet second :: .octet third :: .octet fourth :: rest =>
        if isTail second && isTail third && isTail fourth then do
          let c ← charOf 0x10000 (262144 * (first - 0xF0) + 4096 * (second - 0x80) +
            64 * (third - 0x80) + (fourth - 0x80))
          (textOf rest).map (c :: ·)
        else none
      | _ => none
    else none

/-- Tokens that spell a text, each character as itself or by its octets. -/
inductive Writes : List Token → List Char → Prop
  | nil : Writes [] []
  | literal {c : Char} {rest : List Token} {text : List Char} :
      Writes rest text → Writes (.literal c :: rest) (c :: text)
  | octets {c : Char} {rest : List Token} {text : List Char} :
      Writes rest text → Writes ((utf8Octets c).map .octet ++ rest) (c :: text)

theorem toNat_ofNat {value : ℕ} (hvalue : value.isValidChar) : (Char.ofNat value).toNat = value := by
  rw [Char.ofNat, dif_pos hvalue]
  rfl

theorem charOf_toNat {c : Char} {least : ℕ} (hleast : least ≤ c.toNat) :
    charOf least c.toNat = some c := by
  rw [charOf, if_pos ⟨hleast, c.valid⟩, Char.ofNat_toNat]

theorem textOf_octets (c : Char) (rest : List Token) :
    textOf ((utf8Octets c).map .octet ++ rest) = (textOf rest).map (c :: ·) := by
  have htop : c.toNat < 0x110000 := by
    rcases c.valid with hlow | hhigh
    · exact Nat.lt_trans hlow (by omega)
    · exact hhigh.2
  have htail (value : ℕ) : isTail (0x80 + value % 64) = true := by
    rw [isTail, decide_eq_true_eq]
    omega
  unfold utf8Octets
  dsimp only
  split_ifs with hone htwo hthree
  · rw [List.map_singleton, List.singleton_append, textOf.eq_def]
    simp only [if_pos hone, Char.ofNat_toNat]
  · have hvalue : 64 * (0xC0 + c.toNat / 64 - 0xC0) + (0x80 + c.toNat % 64 - 0x80) = c.toNat := by
      omega
    simp only [List.map_cons, List.map_nil, List.cons_append, List.nil_append, textOf]
    rw [if_neg (by omega), if_pos (by omega), if_pos (htail _), hvalue, charOf_toNat (by omega)]
    rfl
  · have hvalue : 4096 * (0xE0 + c.toNat / 4096 - 0xE0) + 64 * (0x80 + c.toNat / 64 % 64 - 0x80) +
        (0x80 + c.toNat % 64 - 0x80) = c.toNat := by omega
    simp only [List.map_cons, List.map_nil, List.cons_append, List.nil_append, textOf]
    rw [if_neg (by omega), if_neg (by omega), if_pos (by omega), htail, htail, if_pos (by rfl), hvalue,
      charOf_toNat (by omega)]
    rfl
  · have hvalue : 262144 * (0xF0 + c.toNat / 262144 - 0xF0) +
        4096 * (0x80 + c.toNat / 4096 % 64 - 0x80) + 64 * (0x80 + c.toNat / 64 % 64 - 0x80) +
        (0x80 + c.toNat % 64 - 0x80) = c.toNat := by omega
    simp only [List.map_cons, List.map_nil, List.cons_append, List.nil_append, textOf]
    rw [if_neg (by omega), if_neg (by omega), if_neg (by omega), if_pos (by omega), htail, htail,
      htail, if_pos (by rfl), hvalue, charOf_toNat (by omega)]
    rfl

/-- The octets that are read as a character are the octets of that character. -/
theorem utf8Octets_of_charOf {least value : ℕ} {c : Char} (hc : charOf least value = some c) :
    least ≤ value ∧ c.toNat = value := by
  unfold charOf at hc
  split_ifs at hc with hvalue
  obtain rfl := Option.some.inj hc
  exact ⟨hvalue.1, toNat_ofNat hvalue.2⟩

theorem Writes.of_octets {c : Char} {octets : List ℕ} {rest : List Token} {text : List Char}
    (hoctets : utf8Octets c = octets) (hrest : Writes rest text) :
    Writes (octets.map .octet ++ rest) (c :: text) := by
  rw [← hoctets]
  exact .octets hrest

theorem textOf_eq_some_iff {read : List Token} {text : List Char} :
    textOf read = some text ↔ Writes read text := by
  constructor
  · intro htext
    fun_induction textOf read generalizing text
    case case1 =>
      obtain rfl := Option.some.inj htext
      exact .nil
    case case2 c rest ih =>
      obtain ⟨others, hothers, rfl⟩ := Option.map_eq_some_iff.mp htext
      exact .literal (ih hothers)
    case case3 first rest hone ih =>
      obtain ⟨others, hothers, rfl⟩ := Option.map_eq_some_iff.mp htext
      have hvalue : (Char.ofNat first).toNat = first := toNat_ofNat (Or.inl (by omega))
      have hoctets : utf8Octets (Char.ofNat first) = [first] := by
        rw [utf8Octets, hvalue, if_pos hone]
      exact .of_octets hoctets (ih hothers)
    case case4 first hone htwo second rest htail ih =>
      simp only [Option.bind_eq_bind, Option.bind_eq_some_iff, Option.map_eq_some_iff] at htext
      obtain ⟨c, hc, others, hothers, rfl⟩ := htext
      obtain ⟨hleast, hvalue⟩ := utf8Octets_of_charOf hc
      simp only [isTail, decide_eq_true_eq] at htail
      have hoctets : utf8Octets c = [first, second] := by
        rw [utf8Octets, if_neg (by omega), if_pos (by omega)]
        simp only [List.cons.injEq, and_true]
        omega
      exact .of_octets hoctets (ih hothers)
    case case7 first hone htwo hthree second third rest htail ih =>
      simp only [Option.bind_eq_bind, Option.bind_eq_some_iff, Option.map_eq_some_iff] at htext
      obtain ⟨c, hc, others, hothers, rfl⟩ := htext
      obtain ⟨hleast, hvalue⟩ := utf8Octets_of_charOf hc
      simp only [isTail, Bool.and_eq_true, decide_eq_true_eq] at htail
      have hoctets : utf8Octets c = [first, second, third] := by
        rw [utf8Octets, if_neg (by omega), if_neg (by omega), if_pos (by omega)]
        simp only [List.cons.injEq, and_true]
        omega
      exact .of_octets hoctets (ih hothers)
    case case10 first hone htwo hthree hfour second third fourth rest htail ih =>
      simp only [Option.bind_eq_bind, Option.bind_eq_some_iff, Option.map_eq_some_iff] at htext
      obtain ⟨c, hc, others, hothers, rfl⟩ := htext
      obtain ⟨hleast, hvalue⟩ := utf8Octets_of_charOf hc
      simp only [isTail, Bool.and_eq_true, decide_eq_true_eq] at htail
      have hoctets : utf8Octets c = [first, second, third, fourth] := by
        rw [utf8Octets, if_neg (by omega), if_neg (by omega), if_neg (by omega)]
        simp only [List.cons.injEq, and_true]
        omega
      exact .of_octets hoctets (ih hothers)
    -- In every other case the octets are not UTF-8.
    all_goals simp at htext
  · intro hwrites
    induction hwrites with
    | nil => rfl
    | literal _ ih => rw [textOf, ih, Option.map_some]
    | octets _ ih => rw [textOf_octets, ih, Option.map_some]

/-! ### Texts and how they are spelled -/

/-- `decodeURIComponent`: the text that a raw text spells, unless the raw text is malformed. -/
def decode (raw : List Char) : Option (List Char) := (tokens raw).bind textOf

/-- A raw text spells a text: every character of it as itself or by its escaped octets. -/
def Spells (raw text : List Char) : Prop := ∃ read, Reads raw read ∧ Writes read text

theorem decode_eq_some_iff {raw text : List Char} : decode raw = some text ↔ Spells raw text := by
  simp only [decode, Option.bind_eq_some_iff, tokens_eq_some_iff, textOf_eq_some_iff, Spells]

/-- A character that no escape reaches over. -/
def isMark (c : Char) : Bool := c ≠ '%' && hexValue c == none

theorem Reads.append {before after : List Char} {front back : List Token} (hfront : Reads before front)
    (hback : Reads after back) : Reads (before ++ after) (front ++ back) := by
  induction hfront with
  | nil => exact hback
  | literal hc _ ih => exact .literal hc ih
  | escape hhigh hlow _ ih => exact .escape hhigh hlow ih

theorem Writes.append {front back : List Token} {x y : List Char} (hfront : Writes front x)
    (hback : Writes back y) : Writes (front ++ back) (x ++ y) := by
  induction hfront with
  | nil => exact hback
  | literal _ ih => exact .literal ih
  | octets _ ih =>
    rw [List.append_assoc]
    exact .octets ih

theorem Writes.nil_text {text : List Char} (hwrites : Writes [] text) : text = [] := by
  rw [← textOf_eq_some_iff] at hwrites
  exact (Option.some.inj hwrites).symm

theorem Spells.append {before after x y : List Char} (hbefore : Spells before x)
    (hafter : Spells after y) : Spells (before ++ after) (x ++ y) := by
  obtain ⟨front, hreads, hwrites⟩ := hbefore
  obtain ⟨back, hreads', hwrites'⟩ := hafter
  exact ⟨front ++ back, hreads.append hreads', hwrites.append hwrites'⟩

theorem spells_nil : Spells [] [] := ⟨[], .nil, .nil⟩

theorem spells_literal {c : Char} (hc : c ≠ '%') : Spells [c] [c] :=
  ⟨[.literal c], .literal hc .nil, .literal .nil⟩

theorem reads_append_cons {c : Char} (hmark : isMark c = true) {before after : List Char}
    {read : List Token} (hreads : Reads (before ++ c :: after) read) :
    ∃ front back, read = front ++ .literal c :: back ∧ Reads before front ∧ Reads after back := by
  have hplain : c ≠ '%' ∧ hexValue c = none := by simpa [isMark] using hmark
  generalize hraw : before ++ c :: after = raw at hreads
  induction hreads generalizing before with
  | nil => simp at hraw
  | @literal d raw others hd hrest ih =>
    cases before with
    | nil =>
      rw [List.nil_append, List.cons.injEq] at hraw
      obtain ⟨rfl, rfl⟩ := hraw
      exact ⟨[], others, rfl, .nil, hrest⟩
    | cons e rest =>
      rw [List.cons_append, List.cons.injEq] at hraw
      obtain ⟨rfl, hraw⟩ := hraw
      obtain ⟨front, back, rfl, hfront, hback⟩ := ih hraw
      exact ⟨.literal e :: front, back, rfl, .literal hd hfront, hback⟩
  | @escape first second high low raw others hhigh hlow hrest ih =>
    -- The mark is none of the three characters of the escape.
    match before, hraw with
    | [], hraw => simp [hplain.1] at hraw
    | [_], hraw =>
      simp only [List.cons_append, List.nil_append, List.cons.injEq] at hraw
      rw [← hraw.2.1, hplain.2] at hhigh
      simp at hhigh
    | [_, _], hraw =>
      simp only [List.cons_append, List.nil_append, List.cons.injEq] at hraw
      rw [← hraw.2.2.1, hplain.2] at hlow
      simp at hlow
    | _ :: _ :: _ :: rest, hraw =>
      simp only [List.cons_append, List.cons.injEq] at hraw
      obtain ⟨rfl, rfl, rfl, hothers⟩ := hraw
      obtain ⟨front, back, rfl, hfront, hback⟩ := ih hothers
      exact ⟨.octet (16 * high + low) :: front, back, rfl, .escape hhigh hlow hfront, hback⟩

theorem writes_append_cons {c : Char} {front back : List Token} {text : List Char}
    (hwrites : Writes (front ++ .literal c :: back) text) :
    ∃ x y, text = x ++ c :: y ∧ Writes front x ∧ Writes back y := by
  generalize hread : front ++ .literal c :: back = read at hwrites
  induction hwrites generalizing front with
  | nil => simp at hread
  | @literal d rest text hrest ih =>
    cases front with
    | nil =>
      simp only [List.nil_append, List.cons.injEq, Token.literal.injEq] at hread
      obtain ⟨rfl, rfl⟩ := hread
      exact ⟨[], text, rfl, .nil, hrest⟩
    | cons e front =>
      rw [List.cons_append, List.cons.injEq] at hread
      obtain ⟨rfl, hread⟩ := hread
      obtain ⟨x, y, rfl, hfront, hback⟩ := ih hread
      exact ⟨d :: x, y, rfl, .literal hfront, hback⟩
  | @octets d rest text hrest ih =>
    rcases List.append_eq_append_iff.mp hread with ⟨more, hoctets, hcons⟩ | ⟨more, rfl, hcons⟩
    · cases more with
      | nil =>
        rw [List.append_nil] at hoctets
        rw [← List.nil_append (_ :: _)] at hcons
        obtain ⟨x, y, rfl, hfront, hback⟩ := ih hcons
        obtain rfl := hfront.nil_text
        refine ⟨d :: [], y, rfl, ?_, hback⟩
        rw [← hoctets, ← List.append_nil (List.map _ _)]
        exact .octets .nil
      | cons token more =>
        rw [List.cons_append, List.cons.injEq] at hcons
        have htoken : token ∈ (utf8Octets d).map Token.octet := by simp [hoctets]
        rw [← hcons.1] at htoken
        simp at htoken
    · obtain ⟨x, y, rfl, hfront, hback⟩ := ih hcons.symm
      exact ⟨d :: x, y, rfl, .octets hfront, hback⟩

/-- A mark cuts what is spelled in two. -/
theorem spells_append_cons {c : Char} (hmark : isMark c = true) {before after text : List Char} :
    Spells (before ++ c :: after) text ↔
      ∃ x y, text = x ++ c :: y ∧ Spells before x ∧ Spells after y := by
  constructor
  · rintro ⟨read, hreads, hwrites⟩
    obtain ⟨front, back, rfl, hfront, hback⟩ := reads_append_cons hmark hreads
    obtain ⟨x, y, rfl, hx, hy⟩ := writes_append_cons hwrites
    exact ⟨x, y, rfl, ⟨front, hfront, hx⟩, back, hback, hy⟩
  · rintro ⟨x, y, rfl, hx, hy⟩
    have hplain : c ≠ '%' ∧ hexValue c = none := by simpa [isMark] using hmark
    exact hx.append ((spells_literal hplain.1).append hy)

theorem Spells.unique {raw text text' : List Char} (hspells : Spells raw text)
    (hspells' : Spells raw text') : text = text' := by
  rw [← decode_eq_some_iff] at hspells hspells'
  exact Option.some.inj (hspells.symm.trans hspells')

theorem spells_cons {c : Char} (hmark : isMark c = true) {after text : List Char} :
    Spells (c :: after) text ↔ ∃ back, text = c :: back ∧ Spells after back := by
  rw [← List.nil_append (c :: after), spells_append_cons hmark]
  constructor
  · rintro ⟨front, back, rfl, hfront, hback⟩
    rw [hfront.unique spells_nil]
    exact ⟨back, rfl, hback⟩
  · rintro ⟨back, rfl, hback⟩
    exact ⟨[], back, rfl, spells_nil, hback⟩

theorem lt_of_hexValue {c : Char} {value : ℕ} (hvalue : hexValue c = some value) : c.toNat < 128 := by
  have hle {low high : Char} (hle : low ≤ high) : low.toNat ≤ high.toNat := hle
  unfold hexValue at hvalue
  split_ifs at hvalue with hdigit hsmall hcapital
  · simp only [Char.isDigit, Bool.and_eq_true, decide_eq_true_eq] at hdigit
    have hnine : c.toNat ≤ '9'.toNat := hdigit.2
    exact Nat.lt_of_le_of_lt hnine (by decide)
  · exact Nat.lt_of_le_of_lt (hle hsmall.2) (by decide)
  · exact Nat.lt_of_le_of_lt (hle hcapital.2) (by decide)

/-! ### Every text is spelled -/

/-- A text with its percent signs, question marks and number signs escaped. -/
def escapeMarks (text : List Char) : List Char :=
  text.flatMap fun c ↦
    if c = '%' then ['%', '2', '5']
    else if c = '?' then ['%', '3', 'F']
    else if c = '#' then ['%', '2', '3']
    else [c]

theorem escapeMarks_append (front back : List Char) :
    escapeMarks (front ++ back) = escapeMarks front ++ escapeMarks back := by
  rw [escapeMarks, List.flatMap_append, escapeMarks, escapeMarks]

theorem escapeMarks_singleton {c : Char} (hpercent : c ≠ '%') (hquestion : c ≠ '?') (hnumber : c ≠ '#') :
    escapeMarks [c] = [c] := by
  simp [escapeMarks, hpercent, hquestion, hnumber]

theorem spells_escape {c first second : Char} {high low : ℕ} (hhigh : hexValue first = some high)
    (hlow : hexValue second = some low) (hoctets : utf8Octets c = [16 * high + low]) :
    Spells ['%', first, second] [c] := by
  have hreads : Reads ['%', first, second] [.octet (16 * high + low)] := .escape hhigh hlow .nil
  exact ⟨_, hreads, .of_octets hoctets .nil⟩

theorem spells_escapeMarks (text : List Char) : Spells (escapeMarks text) text := by
  have hexTwo : hexValue '2' = some 2 := rfl
  have hexThree : hexValue '3' = some 3 := rfl
  have hexFive : hexValue '5' = some 5 := rfl
  have hexFifteen : hexValue 'F' = some 15 := rfl
  induction text with
  | nil => exact spells_nil
  | cons c rest ih =>
    rw [escapeMarks, List.flatMap_cons]
    split_ifs with hpercent hquestion hnumber
    · exact Spells.append (spells_escape hexTwo hexFive (by rw [hpercent]; rfl)) ih
    · exact Spells.append (spells_escape hexThree hexFifteen (by rw [hquestion]; rfl)) ih
    · exact Spells.append (spells_escape hexTwo hexThree (by rw [hnumber]; rfl)) ih
    · exact (spells_literal hpercent).append ih

theorem not_mem_escapeMarks (text : List Char) : '?' ∉ escapeMarks text ∧ '#' ∉ escapeMarks text := by
  induction text with
  | nil => simp [escapeMarks]
  | cons c rest ih =>
    rw [escapeMarks, List.flatMap_cons, List.mem_append, List.mem_append, not_or, not_or]
    refine ⟨⟨?_, ih.1⟩, ?_, ih.2⟩
    · split_ifs with hpercent hquestion hnumber <;> simp_all [eq_comm]
    · split_ifs with hpercent hquestion hnumber <;> simp_all [eq_comm]

/-! ### Replacing characters one by one -/

section Replacement

variable {Same : Char → Char → Prop}

/-- Two tokens with related characters, or with one octet. -/
inductive Token.Related (Same : Char → Char → Prop) : Token → Token → Prop
  | literal {c d : Char} : Same c d → Related Same (.literal c) (.literal d)
  | octet (value : ℕ) : Related Same (.octet value) (.octet value)

theorem Reads.replaced (hsame : ∀ c d, Same c d → hexValue c = hexValue d ∧ (c = '%' ↔ d = '%'))
    {raw raw' : List Char} {read : List Token} (hreads : Reads raw read)
    (hraw : List.Forall₂ Same raw raw') :
    ∃ read', Reads raw' read' ∧ List.Forall₂ (Token.Related Same) read read' := by
  induction hreads generalizing raw' with
  | nil =>
    cases hraw
    exact ⟨[], .nil, .nil⟩
  | literal hc _ ih =>
    obtain ⟨d, rest, hd, hrest, rfl⟩ := List.forall₂_cons_left_iff.mp hraw
    obtain ⟨others, hothers, hrelated⟩ := ih hrest
    exact ⟨_, .literal (mt (hsame _ _ hd).2.mpr hc) hothers, .cons (.literal hd) hrelated⟩
  | escape hhigh hlow _ ih =>
    obtain ⟨percent, _, hpercent, htail, rfl⟩ := List.forall₂_cons_left_iff.mp hraw
    obtain ⟨first, _, hfirst, htail', rfl⟩ := List.forall₂_cons_left_iff.mp htail
    obtain ⟨second, _, hsecond, hrest, rfl⟩ := List.forall₂_cons_left_iff.mp htail'
    obtain ⟨others, hothers, hrelated⟩ := ih hrest
    obtain rfl := (hsame _ _ hpercent).2.mp rfl
    rw [(hsame _ _ hfirst).1] at hhigh
    rw [(hsame _ _ hsecond).1] at hlow
    exact ⟨_, .escape hhigh hlow hothers, .cons (.octet _) hrelated⟩

theorem exists_of_related_octets {octets : List ℕ} {rest read : List Token}
    (hrelated : List.Forall₂ (Token.Related Same) (octets.map .octet ++ rest) read) :
    ∃ back, read = octets.map .octet ++ back ∧ List.Forall₂ (Token.Related Same) rest back := by
  induction octets generalizing read with
  | nil => exact ⟨read, rfl, hrelated⟩
  | cons octet octets ih =>
    obtain ⟨token, others, htoken, hothers, rfl⟩ := List.forall₂_cons_left_iff.mp hrelated
    obtain ⟨back, rfl, hback⟩ := ih hothers
    cases htoken
    exact ⟨back, rfl, hback⟩

theorem Writes.replaced (hrefl : ∀ c, Same c c) {read read' : List Token} {text : List Char}
    (hwrites : Writes read text) (hread : List.Forall₂ (Token.Related Same) read read') :
    ∃ text', Writes read' text' ∧ List.Forall₂ Same text text' := by
  induction hwrites generalizing read' with
  | nil =>
    cases hread
    exact ⟨[], .nil, .nil⟩
  | literal _ ih =>
    obtain ⟨token, rest, htoken, hrest, rfl⟩ := List.forall₂_cons_left_iff.mp hread
    obtain ⟨others, hothers, hrelated⟩ := ih hrest
    cases htoken with
    | literal hd => exact ⟨_, .literal hothers, .cons hd hrelated⟩
  | octets _ ih =>
    obtain ⟨back, rfl, hback⟩ := exists_of_related_octets hread
    obtain ⟨others, hothers, hrelated⟩ := ih hback
    exact ⟨_, .octets hothers, .cons (hrefl _) hrelated⟩

/-- A raw text whose characters are replaced by others that mean the same in an escape spells the
text with its characters replaced. -/
theorem Spells.replaced (hrefl : ∀ c, Same c c)
    (hsame : ∀ c d, Same c d → hexValue c = hexValue d ∧ (c = '%' ↔ d = '%'))
    {raw raw' text : List Char} (hspells : Spells raw text) (hraw : List.Forall₂ Same raw raw') :
    ∃ text', Spells raw' text' ∧ List.Forall₂ Same text text' := by
  obtain ⟨read, hreads, hwrites⟩ := hspells
  obtain ⟨read', hreads', hread⟩ := hreads.replaced hsame hraw
  obtain ⟨text', hwrites', htext⟩ := hwrites.replaced hrefl hread
  exact ⟨text', ⟨read', hreads', hwrites'⟩, htext⟩

end Replacement

end Karar.Foundation.PercentEncoding
