import Wayfinder.Proofs.RoundTrip

namespace Wayfinder.Json

section Blanks

variable {bs cs rest : List Char}

def Blanks (bs : List Char) : Prop := ∀ c ∈ bs, isBlank c

theorem skipBlank_append_of_blanks (blank : Blanks bs) : skipBlank (bs ++ cs) = skipBlank cs :=
  List.dropWhile_append_of_pos blank

theorem length_skipBlank_le (cs : List Char) : (skipBlank cs).length ≤ cs.length :=
  (List.dropWhile_suffix isBlank).length_le

theorem Blanks.stops (blank : Blanks bs) (stops : Stops rest) : Stops (bs ++ rest) := by
  cases bs with
  | nil => exact stops
  | cons b bs =>
    apply stops_cons
    have some := blank b (.head _)
    simp only [isBlank, Bool.or_eq_true, decide_eq_true_eq] at some
    obtain ((rfl | rfl) | rfl) | rfl := some
    all_goals rfl

end Blanks

section Digits

structure IsDigits (ds : List Char) : Prop where
  some : ds ≠ []
  all : ∀ c ∈ ds, c.isDigit

namespace IsDigits

variable {ds rest : List Char}

theorem of_all {c : Char} {cs : List Char} (all : (c :: cs).all Char.isDigit) :
    IsDigits (c :: cs) :=
  ⟨List.cons_ne_nil c cs, List.all_eq_true.1 all⟩

theorem exists_cons (digits : IsDigits ds) : ∃ c cs, ds = c :: cs ∧ c.isDigit := by
  obtain ⟨c, cs, rfl⟩ := List.exists_cons_of_ne_nil digits.some
  exact ⟨c, cs, rfl, digits.all c (.head _)⟩

theorem takeWhile_append (digits : IsDigits ds) (ends : ∀ c ∈ rest.head?, c.isDigit = false) :
    (ds ++ rest).takeWhile Char.isDigit = ds := by
  rw [List.takeWhile_append_of_pos digits.all]
  cases rest with
  | nil => rw [List.takeWhile_nil, List.append_nil]
  | cons c rest => rw [List.takeWhile_cons_of_neg (by simp [ends c rfl]), List.append_nil]

theorem dropWhile_append (digits : IsDigits ds) (ends : ∀ c ∈ rest.head?, c.isDigit = false) :
    (ds ++ rest).dropWhile Char.isDigit = rest := by
  rw [List.dropWhile_append_of_pos digits.all]
  cases rest with
  | nil => rfl
  | cons c rest => rw [List.dropWhile_cons_of_neg (by simp [ends c rfl])]

theorem isEmpty_eq_false (digits : IsDigits ds) : ds.isEmpty = false := by
  rw [List.isEmpty_eq_false_iff]
  exact digits.some

end IsDigits

end Digits

section Numerals

structure Exponent where
  mark : Char
  sign : List Char
  digits : List Char
  isMark : mark = 'e' ∨ mark = 'E'
  isSign : sign = [] ∨ sign = ['+'] ∨ sign = ['-']
  isDigits : IsDigits digits

namespace Exponent

def text (e : Exponent) : List Char := e.mark :: (e.sign ++ e.digits)

def isDown (e : Exponent) : Bool := e.sign = ['-']

/-- After the mark there is a sign, or the digits come at once. -/
theorem exists_text_append (e : Exponent) (rest : List Char) :
    ∃ d cs, e.text ++ rest = e.mark :: d :: cs ∧ isMarked (e.mark :: d :: cs) ∧
      ((d = '-' ∨ d = '+') ∧ e.isDown = decide (d = '-') ∧ cs = e.digits ++ rest ∨
        ¬ (d = '-' ∨ d = '+') ∧ e.isDown = false ∧ d :: cs = e.digits ++ rest) := by
  have mark (cs : List Char) : isMarked (e.mark :: cs) := by
    obtain mark | mark := e.isMark <;> simp [isMarked, mark]
  obtain sign | sign | sign := e.isSign
  · obtain ⟨d, ds, digits, digit⟩ := e.isDigits.exists_cons
    have other : ¬ (d = '-' ∨ d = '+') := by rintro (rfl | rfl) <;> cases digit
    exact ⟨d, ds ++ rest, by simp [text, sign, digits], mark _,
      .inr ⟨other, by simp [isDown, sign], by simp [digits]⟩⟩
  · exact ⟨'+', e.digits ++ rest, by simp [text, sign], mark _,
      .inl ⟨.inr rfl, by simp [isDown, sign], rfl⟩⟩
  · exact ⟨'-', e.digits ++ rest, by simp [text, sign], mark _,
      .inl ⟨.inl rfl, by simp [isDown, sign], rfl⟩⟩

end Exponent

def exponentText (e? : Option Exponent) : List Char := e?.elim [] Exponent.text

def scaleBy? (e? : Option Exponent) (significand : Nat) (power : Int) : Option Float :=
  match e? with
  | none => scale? significand power
  | some e =>
    match gather exponentLimit 0 e.digits with
    | (n, []) => scale? significand (if e.isDown then power - n else power + n)
    | (_, _ :: _) => if significand = 0 || e.isDown then some 0 else none

structure Numeral where
  negative : Bool
  whole : List Char
  /-- What stands after a point. -/
  places? : Option (List Char)
  exponent? : Option Exponent
  isWhole : IsDigits whole
  noLeadingZero : whole.head? = some '0' → whole = ['0']
  isPlaces : ∀ places ∈ places?, IsDigits places

namespace Numeral

def fractionText (places? : Option (List Char)) : List Char := places?.elim [] ('.' :: ·)

def size (n : Numeral) : List Char :=
  n.whole ++ (fractionText n.places? ++ exponentText n.exponent?)

def text (n : Numeral) : List Char := if n.negative then '-' :: n.size else n.size

/-- The number that stands for the numeral, unless it is out of range. As many digits are gathered
as fit in 64 bits; those left over before the point still count for the power of ten. -/
def value? (n : Numeral) : Option Float :=
  let (first, surplus) := gather significandLimit 0 n.whole
  let places := n.places?.getD []
  let (significand, unused) := gather significandLimit first places
  if n.places?.isNone && n.exponent?.isNone && surplus.isEmpty then
    some (wholeNumber n.negative first).toFloat
  else
    (scaleBy? n.exponent? significand (surplus.length - (places.length - unused.length : Nat))).map
      (signed n.negative)

end Numeral

variable {negative : Bool} {significand : Nat} {power : Int} {e? : Option Exponent}
  {rest : List Char} {x : Float}

theorem Stops.ends (stops : Stops rest) : ∀ c ∈ rest.head?, c.isDigit = false := by
  intro c head
  cases rest with
  | nil => cases head
  | cons d rest =>
    cases head
    exact stops.isDigit

/-- Neither a mark of an exponent nor what may follow a number is a digit. -/
theorem ends_exponentText (e? : Option Exponent) (stops : Stops rest) :
    ∀ c ∈ (exponentText e? ++ rest).head?, c.isDigit = false := by
  cases e? with
  | none => exact stops.ends
  | some e =>
    intro c head
    obtain rfl : e.mark = c := Option.some.inj head
    obtain mark | mark := e.isMark
    all_goals
      rw [mark]
      rfl

theorem exponentDigits_digits {ds : List Char} {down : Bool} (digits : IsDigits ds)
    (stops : Stops rest) (value : (match gather exponentLimit 0 ds with
      | (n, []) => scale? significand (if down then power - n else power + n)
      | (_, _ :: _) => if significand = 0 || down then some 0 else none) = some x) :
    exponentDigits negative significand power down (ds ++ rest) =
      .ok (.float (signed negative x), rest) := by
  have ends := stops.ends
  have some : (ds ++ rest).isEmpty = false := by simp [digits.some]
  simp only [exponentDigits, digits.takeWhile_append ends, digits.dropWhile_append ends, some,
    digits.isEmpty_eq_false, Bool.false_eq_true, if_false]
  rcases gathered : gather exponentLimit 0 ds with ⟨e, _ | ⟨c, extra⟩⟩
  · rw [gathered] at value
    simp only [scaled, value]
  · rw [gathered] at value
    simp only at value ⊢
    split at value
    · rename_i zero
      cases value
      rw [if_pos zero]
    · cases value

theorem exponentPart_exponentText (stops : Stops rest)
    (value : scaleBy? e? significand power = some x) :
    exponentPart negative significand power (exponentText e? ++ rest) =
      .ok (.float (signed negative x), rest) := by
  cases e? with
  | none =>
    have other : isMarked ([] ++ rest) = false := isMarked_append stops
    rw [List.nil_append] at other
    change exponentPart negative significand power rest = _
    rw [exponentPart_of_not_isMarked other, scaled,
      show scale? significand power = some x from value]
  | some e =>
    have read : exponentDigits negative significand power e.isDown (e.digits ++ rest) = _ :=
      exponentDigits_digits e.isDigits stops value
    obtain ⟨d, cs, text, mark, ⟨sign, down, rfl⟩ | ⟨other, down, digits⟩⟩ :=
      e.exists_text_append rest
    · rw [exponentText, Option.elim_some, text, exponentPart_mark mark, if_pos sign, ← read, down]
    · rw [exponentText, Option.elim_some, text, exponentPart_mark mark, if_neg other, ← read,
        down, digits]

theorem isMarked_exponentText (e? : Option Exponent) (stops : Stops rest) :
    isMarked (exponentText e? ++ rest) = e?.isSome := by
  rw [isMarked_append stops]
  cases e? with
  | none => rfl
  | some e => obtain mark | mark := e.isMark <;> simp [exponentText, Exponent.text, isMarked, mark]

theorem head?_exponentText (e? : Option Exponent) (stops : Stops rest) :
    (exponentText e? ++ rest).head? ≠ some '.' := by
  cases e? with
  | none =>
    cases rest with
    | nil => simp [exponentText]
    | cons c rest => simpa [exponentText] using stops.not_mark.1
  | some e => obtain mark | mark := e.isMark <;> simp [exponentText, Exponent.text, mark]

namespace Numeral

variable {n : Numeral}

/-- The text that follows the digits in front. -/
theorem ends_fractionText (n : Numeral) (stops : Stops rest) :
    ∀ c ∈ (fractionText n.places? ++ (exponentText n.exponent? ++ rest)).head?,
      c.isDigit = false := by
  cases n.places? with
  | none => exact ends_exponentText _ stops
  | some places =>
    intro c head
    obtain rfl : '.' = c := Option.some.inj head
    rfl

theorem size_append (n : Numeral) (rest : List Char) :
    n.size ++ rest = n.whole ++ (fractionText n.places? ++ (exponentText n.exponent? ++ rest)) := by
  simp [size]

theorem leadingZero_eq_false {c : Char} {cs : List Char} (whole : n.whole = c :: cs) :
    (decide (c = '0') && decide (1 < n.whole.length)) = false := by
  have zero := n.noLeadingZero
  rw [whole] at zero ⊢
  by_cases first : c = '0'
  · obtain rfl : cs = [] := (List.cons.inj (zero (by rw [first, List.head?_cons]))).2
    simp
  · simp [first]

theorem number_size_append (n : Numeral) (stops : Stops rest) :
    number negative (n.size ++ rest) =
      afterDigits negative (gather significandLimit 0 n.whole)
        (fractionText n.places? ++ (exponentText n.exponent? ++ rest)) := by
  have ends := n.ends_fractionText stops
  obtain ⟨c, cs, whole, -⟩ := n.isWhole.exists_cons
  have taken := n.isWhole.takeWhile_append ends
  have left := n.isWhole.dropWhile_append ends
  have zero := leadingZero_eq_false whole
  rw [whole, List.cons_append] at taken left
  rw [size_append, whole, List.cons_append, number_cons, taken, left, ← whole]
  simp only [n.isWhole.isEmpty_eq_false, zero, Bool.false_eq_true, if_false]

theorem exists_number (stops : Stops rest) (value : n.value? = some x) :
    ∃ m, number n.negative (n.size ++ rest) = .ok (m, rest) ∧ m.toFloat = x := by
  rw [number_size_append n stops]
  unfold value? at value
  generalize gather significandLimit 0 n.whole = gathered at value ⊢
  obtain ⟨first, surplus⟩ := gathered
  cases point : n.places? with
  | none =>
    have plain : (surplus.isEmpty && !n.exponent?.isSome) =
        (n.exponent?.isNone && surplus.isEmpty) := by
      cases n.exponent? <;> simp
    simp only [point, Option.isNone_none, Option.getD_none, gather, List.length_nil, Nat.sub_self,
      Bool.true_and] at value
    change ∃ m, afterDigits n.negative (first, surplus) (exponentText n.exponent? ++ rest) =
      .ok (m, rest) ∧ _
    rw [afterDigits_of_not_point (head?_exponentText _ stops), isMarked_exponentText _ stops, plain]
    split at value
    · rename_i whole
      rw [if_pos whole]
      cases value
      rw [Bool.and_eq_true, Option.isNone_iff_eq_none] at whole
      rw [whole.1]
      exact ⟨_, rfl, rfl⟩
    · rename_i scaled
      rw [if_neg scaled]
      obtain ⟨y, inRange, rfl⟩ := Option.map_eq_some_iff.1 value
      rw [Int.ofNat_zero, Int.sub_zero] at inRange
      exact ⟨_, exponentPart_exponentText stops inRange, rfl⟩
  | some places =>
    simp only [point, Option.isNone_some, Option.getD_some, Bool.false_and, Bool.false_eq_true,
      if_false] at value
    have digits := n.isPlaces places point
    have ends := ends_exponentText n.exponent? stops
    change ∃ m, fractionPart n.negative first surplus.length
      (places ++ (exponentText n.exponent? ++ rest)) = .ok (m, rest) ∧ _
    simp only [fractionPart, digits.takeWhile_append ends, digits.dropWhile_append ends,
      digits.isEmpty_eq_false, Bool.false_eq_true, if_false]
    obtain ⟨y, inRange, rfl⟩ := Option.map_eq_some_iff.1 value
    exact ⟨_, exponentPart_exponentText stops inRange, rfl⟩

theorem exists_size (n : Numeral) : ∃ c cs, n.size = c :: cs ∧ c.isDigit := by
  obtain ⟨c, cs, whole, digit⟩ := n.isWhole.exists_cons
  exact ⟨c, _, by rw [size, whole, List.cons_append], digit⟩

theorem isBlank_of_isDigit {c : Char} (digit : c.isDigit) : isBlank c = false := by
  rw [Bool.eq_false_iff]
  intro blank
  simp only [isBlank, Bool.or_eq_true, decide_eq_true_eq] at blank
  obtain ((rfl | rfl) | rfl) | rfl := blank
  all_goals cases digit

/-- A numeral in range is read as the number it stands for. -/
theorem reads_text {bs : List Char} (blank : Blanks bs) (value : n.value? = some x) :
    Reads readFloat (bs ++ n.text) x := by
  intro rest stops
  obtain ⟨m, read, rfl⟩ := exists_number stops value
  rw [readFloat, List.append_assoc, skipBlank_append_of_blanks blank, text]
  by_cases sign : n.negative = true
  · rw [sign] at read
    rw [if_pos sign, List.cons_append, skipBlank_cons rfl]
    simp only [read]
    rfl
  · obtain ⟨c, cs, size, digit⟩ := n.exists_size
    rw [Bool.not_eq_true] at sign
    rw [sign, size] at read
    rw [sign, if_neg Bool.false_ne_true, size, List.cons_append,
      skipBlank_cons (isBlank_of_isDigit digit)]
    split
    · rename_i same
      cases same
      cases digit
    · rename_i same
      cases same
      rw [if_pos digit]
      simp only [← List.cons_append, read]
      rfl
    · contradiction

theorem skipDigits_append {ds : List Char} (digits : IsDigits ds) (stops : Stops rest) :
    skipNumber.skipDigits (ds ++ rest) = .ok rest := by
  rw [skipNumber.skipDigits, digits.takeWhile_append stops.ends, digits.dropWhile_append stops.ends,
    digits.isEmpty_eq_false]
  rfl

theorem skipExponent_mark {c d : Char} {cs : List Char} (mark : isMarked (c :: d :: cs)) :
    skipNumber.skipExponent (c :: d :: cs) =
      skipNumber.skipDigits (if d = '-' ∨ d = '+' then cs else d :: cs) := by
  obtain rfl | rfl : c = 'e' ∨ c = 'E' := by simpa [isMarked] using mark
  all_goals
    simp only [skipNumber.skipExponent]
    split <;> simp_all

theorem skipExponent_exponentText (e? : Option Exponent) (stops : Stops rest) :
    skipNumber.skipExponent (exponentText e? ++ rest) = .ok rest := by
  cases e? with
  | none =>
    change skipNumber.skipExponent rest = .ok rest
    cases rest with
    | nil => rfl
    | cons c rest =>
      have other := stops.not_mark
      unfold skipNumber.skipExponent
      split <;> simp_all
  | some e =>
    have skips := skipDigits_append e.isDigits stops
    obtain ⟨d, cs, text, mark, ⟨sign, -, rfl⟩ | ⟨other, -, digits⟩⟩ := e.exists_text_append rest
    · rw [exponentText, Option.elim_some, text, skipExponent_mark mark, if_pos sign, skips]
    · rw [exponentText, Option.elim_some, text, skipExponent_mark mark, if_neg other, digits, skips]

/-- Out of range or not, a numeral is passed over. -/
theorem skipNumber_size (n : Numeral) (stops : Stops rest) :
    skipNumber (n.size ++ rest) = .ok rest := by
  have ends := n.ends_fractionText stops
  obtain ⟨c, cs, whole, -⟩ := n.isWhole.exists_cons
  have taken := n.isWhole.takeWhile_append ends
  have left := n.isWhole.dropWhile_append ends
  have zero := leadingZero_eq_false whole
  have skips := skipExponent_exponentText n.exponent? stops
  rw [whole, List.cons_append] at taken left
  rw [size_append, whole, List.cons_append, skipNumber, taken, left, ← whole]
  simp only [n.isWhole.isEmpty_eq_false, zero, Bool.false_eq_true, if_false]
  cases point : n.places? with
  | none =>
    have plain : fractionText none ++ (exponentText n.exponent? ++ rest) =
        exponentText n.exponent? ++ rest := rfl
    rw [← skips, plain]
    split
    · rename_i same
      exact absurd (by rw [same]; rfl) (head?_exponentText n.exponent? stops)
    · rfl
  | some places =>
    have digits := n.isPlaces places point
    have ends := ends_exponentText n.exponent? stops
    change (if ((places ++ (exponentText n.exponent? ++ rest)).takeWhile Char.isDigit).isEmpty then
        _
      else skipNumber.skipExponent
        ((places ++ (exponentText n.exponent? ++ rest)).dropWhile Char.isDigit)) = _
    rw [digits.takeWhile_append ends, digits.dropWhile_append ends, digits.isEmpty_eq_false, skips]
    rfl

end Numeral

end Numerals

section Texts

inductive IsCode : List Char → Nat → Prop
  | mk {a b c d : Char} {i j k l : Nat} (first : hexValue? a = some i)
      (second : hexValue? b = some j) (third : hexValue? c = some k)
      (fourth : hexValue? d = some l) :
      IsCode [a, b, c, d] (((i * 16 + j) * 16 + k) * 16 + l)

/-- How one character may be written between quotes if nobody reads it. Surrogates need no
partner. -/
inductive IsQuoted : List Char → Prop
  | plain {c : Char} (quote : c ≠ '"') (backslash : c ≠ '\\') (visible : ¬ c.toNat < 0x20) :
      IsQuoted [c]
  | short {c : Char} (known : (shortEscape? c).isSome) : IsQuoted ['\\', c]
  | code {ds : List Char} {n : Nat} (code : IsCode ds n) : IsQuoted ('\\' :: 'u' :: ds)

/-- How a character may be written between quotes. -/
inductive SpellsChar : List Char → Char → Prop
  | plain {c : Char} (quote : c ≠ '"') (backslash : c ≠ '\\') (visible : ¬ c.toNat < 0x20) :
      SpellsChar [c] c
  | short {c d : Char} (known : shortEscape? c = some d) : SpellsChar ['\\', c] d
  | code {ds : List Char} {n : Nat} (code : IsCode ds n) (low : isLowSurrogate n = false)
      (high : isHighSurrogate n = false) : SpellsChar ('\\' :: 'u' :: ds) (Char.ofNat n)
  | pair {ds es : List Char} {m n : Nat} (first : IsCode ds m) (high : isHighSurrogate m)
      (second : IsCode es n) (low : isLowSurrogate n) :
      SpellsChar ('\\' :: 'u' :: (ds ++ '\\' :: 'u' :: es))
        (Char.ofNat (0x10000 + (m - 0xd800) * 0x400 + (n - 0xdc00)))

inductive Spells : List Char → List Char → Prop
  | nil : Spells [] []
  | cons {p cs s : List Char} {c : Char} (head : SpellsChar p c) (tail : Spells cs s) :
      Spells (p ++ cs) (c :: s)

inductive Quotable : List Char → Prop
  | nil : Quotable []
  | cons {p cs : List Char} (head : IsQuoted p) (tail : Quotable cs) : Quotable (p ++ cs)

variable {cs ds p rest s before : List Char} {c : Char} {n : Nat}

theorem hexCode_append (code : IsCode ds n) (rest : List Char) :
    hexCode (ds ++ rest) = .ok (n, rest) := by
  obtain @⟨a, b, c, d, i, j, k, l, first, second, third, fourth⟩ := code
  have long : ¬ byteSize (a :: b :: c :: d :: rest) < 4 := by
    have sizes :=
      And.intro a.utf8Size_pos (And.intro b.utf8Size_pos (And.intro c.utf8Size_pos d.utf8Size_pos))
    simp only [byteSize]
    omega
  change hexCode (a :: b :: c :: d :: rest) = _
  rw [hexCode, if_neg long]
  simp only [first, second, third, fourth]

theorem SpellsChar.nonempty (spells : SpellsChar p c) : p ≠ [] := by
  cases spells <;> exact List.cons_ne_nil _ _

theorem SpellsChar.textRound_append (spells : SpellsChar p c) (before rest : List Char) :
    textRound before (p ++ rest) = .ok (.again (c :: before) rest) := by
  have escaped {es : List Char} (read : escape es = .ok (c, rest)) :
      textRound before ('\\' :: es) = .ok (.again (c :: before) rest) := by
    simp only [textRound, read]
    rfl
  cases spells with
  | plain quote backslash visible =>
    simp only [List.cons_append, List.nil_append, textRound, if_neg quote, if_neg backslash,
      if_neg visible]
  | @short d _ known =>
    have other : d ≠ 'u' := by
      rintro rfl
      cases known
    rw [List.cons_append, List.cons_append, List.nil_append]
    apply escaped
    simp only [escape, if_neg other, known]
  | code code low high =>
    rw [List.cons_append, List.cons_append]
    apply escaped
    simp only [escape, if_true, hexEscape, hexCode_append code, bind, Except.bind, low, high,
      Bool.false_eq_true, if_false]
    rfl
  | @pair ds es m n first high second low =>
    have other : isLowSurrogate m = false := by
      simp only [isHighSurrogate, isLowSurrogate, Bool.and_eq_true, decide_eq_true_eq,
        Bool.and_eq_false_iff, decide_eq_false_iff_not] at high ⊢
      omega
    rw [List.cons_append, List.cons_append, List.append_assoc]
    apply escaped
    simp only [List.cons_append, escape, if_true, hexEscape, hexCode_append first, bind,
      Except.bind, other, high, Bool.false_eq_true, if_false, pairMark, hexCode_append second, low]
    rfl

theorem Spells.loop_textRound (spells : Spells cs s) (before rest : List Char) :
    loop textRound before (cs ++ '"' :: rest) =
      .ok (String.ofList (before.reverse ++ s), rest) := by
  induction spells generalizing before with
  | nil =>
    rw [List.append_nil]
    exact loop_done rfl
  | cons head tail ih =>
    rw [List.append_assoc, loop_again (head.textRound_append before _), ih]
    · simp
    · have some := List.length_pos_iff.2 head.nonempty
      simp only [List.length_append]
      omega

theorem Spells.quotedText (spells : Spells cs s) (rest : List Char) :
    quotedText (cs ++ '"' :: rest) = .ok (String.ofList s, rest) := by
  rw [Json.quotedText, spells.loop_textRound, List.reverse_nil, List.nil_append]

/-- A text in quotes is read as the one it stands for. -/
theorem Spells.reads {bs : List Char} (spells : Spells cs s) (blank : Blanks bs) :
    Reads readText (bs ++ '"' :: (cs ++ ['"'])) (String.ofList s) := by
  intro rest _
  have text : bs ++ '"' :: (cs ++ ['"']) ++ rest = bs ++ '"' :: (cs ++ '"' :: rest) := by simp
  rw [text, readText, skipBlank_append_of_blanks blank, skipBlank_cons rfl]
  exact spells.quotedText rest

theorem IsQuoted.nonempty (quoted : IsQuoted p) : p ≠ [] := by
  cases quoted <;> exact List.cons_ne_nil _ _

theorem IsQuoted.skipTextRound_append (quoted : IsQuoted p) (rest : List Char) :
    skipTextRound () (p ++ rest) = .ok (.again () rest) := by
  cases quoted with
  | plain quote backslash visible =>
    simp only [List.cons_append, List.nil_append, skipTextRound, if_neg quote, if_neg backslash,
      if_neg visible]
  | @short d known =>
    have other : d ≠ 'u' := by
      rintro rfl
      cases known
    change (skipEscape (d :: rest)).map _ = _
    rw [skipEscape, if_neg other, if_pos known]
    rfl
  | @code ds n code =>
    change (skipEscape ('u' :: (ds ++ rest))).map _ = _
    rw [skipEscape, if_pos rfl, hexCode_append code]
    rfl

theorem Quotable.skipText (quotable : Quotable cs) (rest : List Char) :
    skipText (cs ++ '"' :: rest) = .ok rest := by
  have skips : loop skipTextRound () (cs ++ '"' :: rest) = .ok ((), rest) := by
    induction quotable with
    | nil => exact loop_done rfl
    | cons head tail ih =>
      rw [List.append_assoc, loop_again (head.skipTextRound_append _), ih]
      have some := List.length_pos_iff.2 head.nonempty
      simp only [List.length_append]
      omega
  rw [Json.skipText, skips]
  rfl

end Texts

section Values

def Bracket.opening : Bracket → Char
  | square => '['
  | curly => '{'

inductive Kind where
  | value
  /-- One of the things that stand between brackets. -/
  | element (bracket : Bracket)
  /-- All that stands between brackets. -/
  | contents (bracket : Bracket)

def words : List (List Char) :=
  [['n', 'u', 'l', 'l'], ['t', 'r', 'u', 'e'], ['f', 'a', 'l', 's', 'e']]

inductive Written : Kind → List Char → Prop
  | word {cs : List Char} (known : cs ∈ words) : Written .value cs
  | number (n : Numeral) : Written .value n.text
  | text {cs : List Char} (quotable : Quotable cs) : Written .value ('"' :: (cs ++ ['"']))
  | empty {b : Bracket} {bs : List Char} (blank : Blanks bs) :
      Written .value (b.opening :: (bs ++ [b.closing]))
  | nested {b : Bracket} {cs : List Char} (inner : Written (.contents b) cs) :
      Written .value (b.opening :: (cs ++ [b.closing]))
  | item {cs : List Char} (value : Written .value cs) : Written (.element .square) cs
  | member {ns bs bs' cs : List Char} (name : Quotable ns) (blank : Blanks bs) (blank' : Blanks bs')
      (value : Written .value cs) : Written (.element .curly)
      ('"' :: (ns ++ '"' :: (bs ++ ':' :: (bs' ++ cs))))
  | last {b : Bracket} {bs cs bs' : List Char} (blank : Blanks bs)
      (element : Written (.element b) cs) (blank' : Blanks bs') : Written (.contents b)
      (bs ++ (cs ++ bs'))
  | more {b : Bracket} {bs cs bs' ds : List Char} (blank : Blanks bs)
      (element : Written (.element b) cs) (blank' : Blanks bs') (tail : Written (.contents b) ds) :
      Written (.contents b) (bs ++ (cs ++ (bs' ++ ',' :: ds)))

variable {α σ : Type}

def Round.rest : Round σ α → List Char
  | again _ rest | done _ rest => rest

def Round.follow (round : σ → List Char → Except Fault (Round σ α)) :
    Round σ α → Except Fault (α × List Char)
  | again state rest => loop round state rest
  | done value rest => .ok (value, rest)

theorem loop_eq_follow {round : σ → List Char → Except Fault (Round σ α)} {state : σ}
    {cs : List Char} {r : Round σ α} (goes : round state cs = .ok r)
    (shorter : r.rest.length < cs.length) : loop round state cs = r.follow round := by
  cases r with
  | again => exact loop_again goes shorter
  | done => exact loop_done goes

theorem rest_passed (enclosing : List Bracket) (rest : List Char) :
    (passed enclosing rest).rest = rest := by
  cases enclosing <;> rfl

variable {b : Bracket} {c : Char} {bs cs ds rest : List Char} {enclosing : List Bracket}

theorem Bracket.isNumeric_closing (b : Bracket) : isNumeric b.closing = false := by cases b <;> rfl

theorem Bracket.isBlank_closing (b : Bracket) : isBlank b.closing = false := by cases b <;> rfl

/-- No value begins with a blank or with a bracket that closes. -/
theorem Written.exists_value (written : Written .value cs) :
    ∃ c ds, cs = c :: ds ∧ isBlank c = false ∧ c ≠ ']' := by
  cases written with
  | word known =>
    simp only [words, List.mem_cons, List.not_mem_nil, or_false] at known
    obtain rfl | rfl | rfl := known
    all_goals exact ⟨_, _, rfl, rfl, by decide⟩
  | text => exact ⟨_, _, rfl, rfl, by decide⟩
  | @empty b | @nested b => cases b <;> exact ⟨_, _, rfl, rfl, by decide⟩
  | number n =>
    obtain ⟨c, cs, size, digit⟩ := n.exists_size
    rw [Numeral.text]
    split
    · exact ⟨_, _, rfl, rfl, by decide⟩
    · refine ⟨c, cs, size, Numeral.isBlank_of_isDigit digit, ?_⟩
      rintro rfl
      cases digit

theorem Written.exists_element (written : Written (.element b) cs) :
    ∃ c ds, cs = c :: ds ∧ isBlank c = false ∧ c ≠ b.closing := by
  cases written with
  | item value => exact value.exists_value
  | member => exact ⟨_, _, rfl, rfl, by decide⟩

theorem Written.exists_contents (written : Written (.contents b) cs) (rest : List Char) :
    ∃ c ds, skipBlank (cs ++ rest) = c :: ds ∧ isBlank c = false ∧ c ≠ b.closing := by
  have first {bs cs : List Char} (rest : List Char) (blank : Blanks bs)
      (element : Written (.element b) cs) :
      ∃ c ds, skipBlank (bs ++ (cs ++ rest)) = c :: ds ∧ isBlank c = false ∧ c ≠ b.closing := by
    obtain ⟨c, ds, rfl, visible, other⟩ := element.exists_element
    exact ⟨c, _, by rw [skipBlank_append_of_blanks blank, List.cons_append, skipBlank_cons visible],
      visible, other⟩
  cases written with
  | @last _ bs cs bs' blank element =>
    rw [List.append_assoc, List.append_assoc]
    exact first _ blank element
  | @more _ bs cs bs' ds blank element =>
    rw [List.append_assoc, List.append_assoc]
    exact first _ blank element

theorem skipBlank_element (element : Written (.element b) cs) (rest : List Char) :
    skipBlank (cs ++ rest) = cs ++ rest := by
  obtain ⟨c, ds, rfl, visible, -⟩ := element.exists_element
  exact skipBlank_cons visible

theorem colon_append (blank : Blanks bs) (cs : List Char) : colon (bs ++ ':' :: cs) = .ok cs := by
  rw [colon, skipBlank_append_of_blanks blank, skipBlank_cons rfl]
  rfl

/-- What a text of each kind does to the loop that passes over a value. -/
def Kind.Skipped : Kind → List Char → Prop
  | value, cs => ∀ ds enclosing rest, Stops rest → skipBlank ds = cs ++ rest →
      loop skipRound (.value enclosing) ds = (passed enclosing rest).follow skipRound
  | element b, cs => ∀ ds enclosing rest, Stops rest → skipBlank ds = cs ++ rest →
      ∃ left, nextItem b enclosing ds = .ok (.again (.value (b :: enclosing)) left) ∧
        left.length ≤ ds.length ∧
        loop skipRound (.value (b :: enclosing)) left = loop skipRound (.after b enclosing) rest
  | contents b, cs => ∀ ds enclosing rest, skipBlank ds = skipBlank (cs ++ b.closing :: rest) →
      ∃ left, nextItem b enclosing ds = .ok (.again (.value (b :: enclosing)) left) ∧
        left.length ≤ ds.length ∧
        loop skipRound (.value (b :: enclosing)) left = (passed enclosing rest).follow skipRound

section Rounds

variable (enclosing)

theorem skipRound_scalar (front : skipBlank ds = c :: cs) (square : c ≠ '[') (curly : c ≠ '{')
    (skips : skipScalar c cs = .ok rest) :
    skipRound (.value enclosing) ds = .ok (passed enclosing rest) := by
  have round : skipRound (.value enclosing) ds = (skipScalar c cs).map (passed enclosing) := by
    simp only [skipRound, front]
  rw [round, skips]
  rfl

theorem skipRound_opening (front : skipBlank ds = b.opening :: cs) :
    skipRound (.value enclosing) ds = openBracket b enclosing cs := by
  cases b <;> simp [skipRound, front, Bracket.opening]

theorem skipRound_comma (front : skipBlank ds = ',' :: cs) :
    skipRound (.after b enclosing) ds = nextItem b enclosing cs := by
  simp only [skipRound, front, if_true]

theorem skipRound_closing (front : skipBlank ds = b.closing :: rest) :
    skipRound (.after b enclosing) ds = .ok (passed enclosing rest) := by
  have other : b.closing ≠ ',' := by cases b <;> decide
  simp only [skipRound, front, if_neg other, if_true]

theorem openBracket_closing (front : skipBlank ds = b.closing :: rest) :
    openBracket b enclosing ds = .ok (passed enclosing rest) := by
  simp only [openBracket, front, if_true]

theorem openBracket_other (front : skipBlank ds = c :: cs) (other : c ≠ b.closing) :
    openBracket b enclosing ds = nextItem b enclosing (c :: cs) := by
  simp only [openBracket, front, if_neg other]

end Rounds

/-- A value that a single round passes over. -/
theorem skipped_of_round (nonempty : cs ≠ [])
    (round : ∀ ds enclosing rest, Stops rest → skipBlank ds = cs ++ rest →
    skipRound (.value enclosing) ds = .ok (passed enclosing rest)) : Kind.value.Skipped cs := by
  intro ds enclosing rest stops front
  apply loop_eq_follow (round ds enclosing rest stops front)
  have shorter := length_skipBlank_le ds
  have some := List.length_pos_iff.2 nonempty
  rw [front, List.length_append] at shorter
  rw [rest_passed]
  omega

theorem skipped_word (known : cs ∈ words) : Kind.value.Skipped cs := by
  simp only [words, List.mem_cons, List.not_mem_nil, or_false] at known
  obtain rfl | rfl | rfl := known
  all_goals
    refine skipped_of_round (List.cons_ne_nil _ _) fun ds enclosing rest stops front ↦ ?_
    exact skipRound_scalar enclosing front (by decide) (by decide) rfl

theorem skipped_number (n : Numeral) : Kind.value.Skipped n.text := by
  have negative : Kind.value.Skipped ('-' :: n.size) := by
    refine skipped_of_round (List.cons_ne_nil _ _) fun ds enclosing rest stops front ↦ ?_
    exact skipRound_scalar enclosing front (by decide) (by decide) (n.skipNumber_size stops)
  have positive : Kind.value.Skipped n.size := by
    obtain ⟨c, cs, size, digit⟩ := n.exists_size
    have ne {d : Char} (other : d.isDigit = false) : c ≠ d := by
      rintro rfl
      rw [digit] at other
      cases other
    have scalar (rest : List Char) : skipScalar c rest = skipNumber (c :: rest) := by
      unfold skipScalar
      split
      case h_6 => rw [if_pos digit]
      all_goals cases digit
    have some : n.size ≠ [] := by simp [size]
    refine skipped_of_round some fun ds enclosing rest stops front ↦ ?_
    rw [size, List.cons_append] at front
    refine skipRound_scalar enclosing front (ne rfl) (ne rfl) ?_
    rw [scalar, ← List.cons_append, ← size, n.skipNumber_size stops]
  rw [Numeral.text]
  split
  · exact negative
  · exact positive

theorem skipped_text (quotable : Quotable cs) : Kind.value.Skipped ('"' :: (cs ++ ['"'])) := by
  refine skipped_of_round (List.cons_ne_nil _ _) fun ds enclosing rest stops front ↦ ?_
  rw [List.cons_append, List.append_assoc, List.singleton_append] at front
  exact skipRound_scalar enclosing front (by decide) (by decide) (quotable.skipText rest)

theorem skipped_empty (blank : Blanks bs) :
    Kind.value.Skipped (b.opening :: (bs ++ [b.closing])) := by
  refine skipped_of_round (List.cons_ne_nil _ _) fun ds enclosing rest stops front ↦ ?_
  rw [List.cons_append, List.append_assoc, List.singleton_append] at front
  rw [skipRound_opening enclosing front]
  apply openBracket_closing
  rw [skipBlank_append_of_blanks blank, skipBlank_cons b.isBlank_closing]

theorem skipped_nested (inner : Written (.contents b) cs) (skipped : (Kind.contents b).Skipped cs) :
    Kind.value.Skipped (b.opening :: (cs ++ [b.closing])) := by
  intro ds enclosing rest stops front
  rw [List.cons_append, List.append_assoc, List.singleton_append] at front
  obtain ⟨c, es, start, visible, other⟩ := inner.exists_contents (b.closing :: rest)
  have again : skipBlank (c :: es) = skipBlank (cs ++ b.closing :: rest) := by
    rw [start, skipBlank_cons visible]
  obtain ⟨left, next, shorter, loops⟩ := skipped _ enclosing rest again
  rw [← openBracket_other enclosing start other, ← skipRound_opening enclosing front] at next
  rw [loop_again next, loops]
  have longer := length_skipBlank_le ds
  have longer' := length_skipBlank_le (cs ++ b.closing :: rest)
  rw [front, List.length_cons] at longer
  rw [start] at longer'
  omega

theorem skipped_member {ns bs' : List Char} (name : Quotable ns) (blank : Blanks bs)
    (blank' : Blanks bs') (value : Written .value cs) (skipped : Kind.value.Skipped cs) :
    (Kind.element .curly).Skipped ('"' :: (ns ++ '"' :: (bs ++ ':' :: (bs' ++ cs)))) := by
  intro ds enclosing rest stops front
  have text : '"' :: (ns ++ '"' :: (bs ++ ':' :: (bs' ++ cs))) ++ rest =
      '"' :: (ns ++ '"' :: (bs ++ ':' :: (bs' ++ (cs ++ rest)))) := by simp
  rw [text] at front
  have named : skipName ds = .ok (bs' ++ (cs ++ rest)) := by
    simp only [skipName, front, if_true, name.skipText, bind, Except.bind, colon_append blank]
  have longer := length_skipBlank_le ds
  refine ⟨bs' ++ (cs ++ rest), by rw [nextItem, named]; rfl, ?_, ?_⟩
  · rw [front] at longer
    simp only [List.length_append, List.length_cons] at longer ⊢
    omega
  · exact skipped _ _ _ stops
      (by rw [skipBlank_append_of_blanks blank', skipBlank_element (.item value)])

/-- However deeply it is nested, a value is passed over. The induction is on the text; what is
between brackets is passed over with them still open. -/
theorem Written.skipped {k : Kind} (written : Written k cs) : k.Skipped cs := by
  induction written with
  | word known => exact skipped_word known
  | number n => exact skipped_number n
  | text quotable => exact skipped_text quotable
  | empty blank => exact skipped_empty blank
  | nested inner ih => exact skipped_nested inner ih
  | item value ih =>
    intro ds enclosing rest stops front
    exact ⟨ds, rfl, Nat.le_refl _, ih ds _ rest stops front⟩
  | member name blank blank' value ih => exact skipped_member name blank blank' value ih
  | @last b bs cs bs' blank element blank' ih =>
    intro ds enclosing rest front
    rw [List.append_assoc, List.append_assoc, skipBlank_append_of_blanks blank,
      skipBlank_element element] at front
    obtain ⟨left, next, shorter, loops⟩ :=
      ih ds enclosing _ (blank'.stops (stops_cons b.isNumeric_closing)) front
    refine ⟨left, next, shorter, loops.trans (loop_eq_follow (skipRound_closing enclosing ?_) ?_)⟩
    · rw [skipBlank_append_of_blanks blank', skipBlank_cons b.isBlank_closing]
    · simp only [rest_passed, List.length_append, List.length_cons]
      omega
  | @more b bs cs bs' ds blank element blank' tail ih ih' =>
    intro es enclosing rest front
    rw [List.append_assoc, List.append_assoc, List.append_assoc, List.cons_append,
      skipBlank_append_of_blanks blank, skipBlank_element element] at front
    obtain ⟨left, next, shorter, loops⟩ := ih es enclosing _ (blank'.stops (stops_cons rfl)) front
    obtain ⟨left', next', shorter', loops'⟩ := ih' (ds ++ b.closing :: rest) enclosing rest rfl
    refine ⟨left, next, shorter, loops.trans ?_⟩
    have after : skipBlank (bs' ++ ',' :: (ds ++ b.closing :: rest)) =
        ',' :: (ds ++ b.closing :: rest) := by
      rw [skipBlank_append_of_blanks blank', skipBlank_cons rfl]
    rw [← skipRound_comma enclosing after] at next'
    rw [loop_again next', loops']
    simp only [List.length_append, List.length_cons] at shorter' ⊢
    omega

theorem Written.skipValue (written : Written .value cs) (blank : Blanks bs) (stops : Stops rest) :
    skipValue (bs ++ (cs ++ rest)) = .ok rest := by
  have visible : skipBlank (bs ++ (cs ++ rest)) = cs ++ rest := by
    rw [skipBlank_append_of_blanks blank, skipBlank_element (.item written)]
  rw [Json.skipValue, written.skipped _ [] rest stops visible]
  rfl

end Values

end Wayfinder.Json
