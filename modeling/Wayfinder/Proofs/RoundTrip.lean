import Wayfinder.Json.Codec

namespace Wayfinder

namespace Json

variable {α β σ : Type}

section Following

def isNumeric (c : Char) : Bool := c.isDigit || c = '.' || c = 'e' || c = 'E'

def Stops (rest : List Char) : Prop := ∀ c ∈ rest.head?, isNumeric c = false

/-- The value is read off the front, and what follows is left. -/
def Reads (reader : Reader α) (text : List Char) (a : α) : Prop :=
  ∀ rest, Stops rest → reader (text ++ rest) = .ok (a, rest)

variable {c : Char} {text rest : List Char} {reader : Reader α} {a : α}

theorem stops_nil : Stops [] := by simp [Stops]

theorem stops_cons (other : isNumeric c = false) : Stops (c :: rest) := by simpa [Stops] using other

theorem Stops.isDigit (stops : Stops (c :: rest)) : c.isDigit = false := by
  have other := stops c rfl
  simp only [isNumeric, Bool.or_eq_false_iff] at other
  exact other.1.1.1

theorem Stops.not_mark (stops : Stops (c :: rest)) : c ≠ '.' ∧ c ≠ 'e' ∧ c ≠ 'E' := by
  have other := stops c rfl
  simp only [isNumeric, Bool.or_eq_false_iff, decide_eq_false_iff_not] at other
  exact ⟨other.1.1.2, other.1.2, other.2⟩

theorem Reads.map (f : α → β) (reads : Reads reader text a) :
    Reads (fun cs ↦ do let (a, rest) ← reader cs; return (f a, rest)) text (f a) := by
  intro rest stops
  simp only [reads rest stops]
  rfl

theorem skipBlank_cons (seen : isBlank c = false) : skipBlank (c :: rest) = c :: rest := by
  rw [skipBlank, List.dropWhile_cons_of_neg (by simp [seen])]

theorem read_of_reads (reads : Reads reader text a) : read reader (String.ofList text) = .ok a := by
  have whole := reads [] stops_nil
  rw [List.append_nil] at whole
  simp only [read, String.toList_ofList, whole]
  rfl

end Following

section Loops

variable {round : σ → List Char → Except Fault (Round σ α)} {state next : σ}
  {cs rest : List Char} {a : α}

theorem loop_again (goes : round state cs = .ok (.again next rest))
    (shorter : rest.length < cs.length) :
    loop round state cs = loop round next rest := by
  rw [loop, goes]
  simp only [shorter, if_true]

theorem loop_done (goes : round state cs = .ok (.done a rest)) :
    loop round state cs = .ok (a, rest) := by
  rw [loop, goes]

end Loops

section Texts

theorem hexValue?_hexDigit (n : Nat) : hexValue? (hexDigit n) = some (n % 16) := by
  have all : ∀ d < 16, hexValue? (Nat.digitChar d) = some d := by decide
  exact all (n % 16) (Nat.mod_lt n (by decide))

theorem utf8Size_hexDigit (n : Nat) : (hexDigit n).utf8Size = 1 := by
  have all : ∀ d < 16, (Nat.digitChar d).utf8Size = 1 := by decide
  exact all (n % 16) (Nat.mod_lt n (by decide))

/-- A control character is written by its code, in four digits. -/
theorem hexEscape_control {c : Char} (control : c.toNat < 0x20) (rest : List Char) :
    hexEscape ('0' :: '0' :: hexDigit (c.toNat / 16) :: hexDigit c.toNat :: rest) =
      .ok (c, rest) := by
  have code : hexCode ('0' :: '0' :: hexDigit (c.toNat / 16) :: hexDigit c.toNat :: rest) =
      .ok (c.toNat, rest) := by
    have zero : hexValue? '0' = some 0 := rfl
    have size : ¬ byteSize ('0' :: '0' :: hexDigit (c.toNat / 16) :: hexDigit c.toNat :: rest) <
        4 := by
      have one : '0'.utf8Size = 1 := rfl
      simp only [byteSize, utf8Size_hexDigit, one]
      omega
    have value : ((0 * 16 + 0) * 16 + c.toNat / 16 % 16) * 16 + c.toNat % 16 = c.toNat := by omega
    rw [hexCode, if_neg size]
    simp only [zero, hexValue?_hexDigit, value]
  have low : isLowSurrogate c.toNat = false := by simp [isLowSurrogate]; omega
  have high : isHighSurrogate c.toNat = false := by simp [isHighSurrogate]; omega
  simp only [hexEscape, code, bind, Except.bind, low, high, Char.ofNat_toNat]
  rfl

/-- Every character is read as one, in whatever way it is written. -/
theorem textRound_writeChar (c : Char) (before rest : List Char) :
    textRound before (writeChar c ++ rest) = .ok (.again (c :: before) rest) := by
  unfold writeChar
  split
  case h_8 _ quote backslash _ _ _ _ _ =>
    split
    · rename_i control
      have escaped :
          escape ('u' :: '0' :: '0' :: hexDigit (c.toNat / 16) :: hexDigit c.toNat :: rest) =
            .ok (c, rest) :=
        hexEscape_control control rest
      simp only [List.cons_append, List.nil_append, textRound, escaped]
      rfl
    · rename_i visible
      simp only [List.cons_append, List.nil_append, textRound, if_neg quote, if_neg backslash,
        if_neg visible]
  all_goals rfl

theorem writeChar_ne_nil (c : Char) : writeChar c ≠ [] := by
  unfold writeChar
  split
  case h_8 => split <;> simp
  all_goals simp

theorem loop_textRound (cs before rest : List Char) :
    loop textRound before (cs.flatMap writeChar ++ '"' :: rest) =
      .ok (String.ofList (before.reverse ++ cs), rest) := by
  induction cs generalizing before with
  | nil =>
    rw [List.flatMap_nil, List.nil_append, List.append_nil]
    exact loop_done rfl
  | cons c cs ih =>
    rw [List.flatMap_cons, List.append_assoc, loop_again (textRound_writeChar c before _), ih]
    · simp
    · have some := List.length_pos_iff.2 (writeChar_ne_nil c)
      simp only [List.length_append]
      omega

theorem quotedText_written (s : String) (rest : List Char) :
    quotedText (s.toList.flatMap writeChar ++ '"' :: rest) = .ok (s, rest) := by
  rw [quotedText, loop_textRound, List.reverse_nil, List.nil_append, String.ofList_toList]

theorem writeText_append (s : String) (rest : List Char) :
    writeText s ++ rest = '"' :: (s.toList.flatMap writeChar ++ '"' :: rest) := by
  simp [writeText]

theorem reads_writeText (s : String) : Reads readText (writeText s) s := by
  intro rest _
  rw [writeText_append, readText, skipBlank_cons rfl]
  exact quotedText_written s rest

end Texts

section Numbers

variable {cs left rest : List Char} {negative : Bool} {n : Number}

theorem takeWhile_isDigit_append (stops : Stops rest) :
    (cs ++ rest).takeWhile Char.isDigit = cs.takeWhile Char.isDigit := by
  induction cs with
  | nil =>
    cases rest with
    | nil => rfl
    | cons c rest =>
      rw [List.nil_append, List.takeWhile_cons_of_neg (by simp [stops.isDigit]), List.takeWhile_nil]
  | cons c cs ih => rw [List.cons_append, List.takeWhile_cons, List.takeWhile_cons, ih]

theorem dropWhile_isDigit_append (stops : Stops rest) :
    (cs ++ rest).dropWhile Char.isDigit = cs.dropWhile Char.isDigit ++ rest := by
  induction cs with
  | nil =>
    cases rest with
    | nil => rfl
    | cons c rest =>
      rw [List.nil_append, List.dropWhile_cons_of_neg (by simp [stops.isDigit]), List.dropWhile_nil,
        List.nil_append]
  | cons c cs ih =>
    rw [List.cons_append, List.dropWhile_cons, List.dropWhile_cons, ih]
    split <;> rfl

theorem scaled_append {significand : Nat} {exponent : Int}
    (whole : scaled negative significand exponent cs = .ok (n, left)) :
    scaled negative significand exponent (cs ++ rest) = .ok (n, left ++ rest) := by
  unfold scaled at whole ⊢
  split at whole
  · cases whole
    rfl
  · cases whole

theorem exponentDigits_append {significand : Nat} {exponent : Int} {down : Bool}
    (stops : Stops rest)
    (whole : exponentDigits negative significand exponent down cs = .ok (n, left)) :
    exponentDigits negative significand exponent down (cs ++ rest) = .ok (n, left ++ rest) := by
  cases cs with
  | nil => cases whole
  | cons c cs =>
    have some : (c :: cs ++ rest).isEmpty = false := rfl
    simp only [exponentDigits, takeWhile_isDigit_append stops, dropWhile_isDigit_append stops, some,
      List.isEmpty_cons, Bool.false_eq_true, if_false] at whole ⊢
    split at whole
    · cases whole
    · rename_i digits
      rw [if_neg digits]
      split at whole
      · exact scaled_append whole
      · split at whole
        · rename_i zero
          cases whole
          rw [if_pos zero]
        · cases whole

def isMarked (cs : List Char) : Bool := cs.head?.any fun c ↦ c = 'e' || c = 'E'

theorem isMarked_append (stops : Stops rest) : isMarked (cs ++ rest) = isMarked cs := by
  cases cs with
  | cons c cs => rfl
  | nil =>
    cases rest with
    | nil => rfl
    | cons c rest => simp [isMarked, stops.not_mark]

theorem exponentPart_of_not_isMarked {significand : Nat} {exponent : Int}
    (other : isMarked cs = false) :
    exponentPart negative significand exponent cs = scaled negative significand exponent cs := by
  unfold exponentPart
  split <;> simp_all [isMarked]

/-- The exponent after its mark: a sign, or digits at once. -/
theorem exponentPart_mark {significand : Nat} {exponent : Int} {c d : Char}
    (mark : isMarked (c :: d :: cs)) :
    exponentPart negative significand exponent (c :: d :: cs) =
      if d = '-' ∨ d = '+' then exponentDigits negative significand exponent (d = '-') cs
      else exponentDigits negative significand exponent false (d :: cs) := by
  obtain rfl | rfl : c = 'e' ∨ c = 'E' := by simpa [isMarked] using mark
  all_goals
    simp only [exponentPart]
    split <;> simp_all

theorem exponentPart_append {significand : Nat} {exponent : Int} (stops : Stops rest)
    (whole : exponentPart negative significand exponent cs = .ok (n, left)) :
    exponentPart negative significand exponent (cs ++ rest) = .ok (n, left ++ rest) := by
  by_cases mark : isMarked cs
  · obtain _ | ⟨c, _ | ⟨d, cs⟩⟩ := cs
    · cases mark
    · obtain rfl | rfl : c = 'e' ∨ c = 'E' := by simpa [isMarked] using mark
      · cases whole
      · cases whole
    · have mark' : isMarked (c :: d :: (cs ++ rest)) := mark
      rw [exponentPart_mark mark] at whole
      rw [List.cons_append, List.cons_append, exponentPart_mark mark']
      by_cases sign : d = '-' ∨ d = '+'
      · rw [if_pos sign] at whole ⊢
        exact exponentDigits_append stops whole
      · rw [if_neg sign] at whole ⊢
        exact exponentDigits_append stops whole
  · rw [Bool.not_eq_true] at mark
    rw [exponentPart_of_not_isMarked mark] at whole
    rw [exponentPart_of_not_isMarked (by rw [isMarked_append stops, mark])]
    exact scaled_append whole

theorem fractionPart_append {significand exponent : Nat} (stops : Stops rest)
    (whole : fractionPart negative significand exponent cs = .ok (n, left)) :
    fractionPart negative significand exponent (cs ++ rest) = .ok (n, left ++ rest) := by
  simp only [fractionPart, takeWhile_isDigit_append stops,
    dropWhile_isDigit_append stops] at whole ⊢
  split at whole
  · cases whole
  · rename_i digits
    rw [if_neg digits]
    exact exponentPart_append stops whole

def afterDigits (negative : Bool) : Nat × List Char → List Char → Except Fault (Number × List Char)
  | (n, extra), '.' :: rest => fractionPart negative n extra.length rest
  | (n, extra), rest =>
    if extra.isEmpty && !isMarked rest then .ok (wholeNumber negative n, rest)
    else exponentPart negative n extra.length rest

theorem number_cons (c : Char) (cs : List Char) :
    number negative (c :: cs) =
      let digits := (c :: cs).takeWhile Char.isDigit
      if digits.isEmpty then failPast .invalidNumber (c :: cs)
      else if c = '0' && 1 < digits.length then failPast .invalidNumber cs
      else afterDigits negative (gather significandLimit 0 digits)
        ((c :: cs).dropWhile Char.isDigit) := by
  unfold number
  dsimp only
  congr 1
  congr 1
  generalize gather significandLimit 0 _ = g
  generalize List.dropWhile _ _ = rest
  obtain ⟨n, extra⟩ := g
  unfold afterDigits
  cases extra <;> cases rest <;> split <;> simp_all [isMarked]

theorem afterDigits_of_not_point {k : Nat} {extra : List Char} (other : cs.head? ≠ some '.') :
    afterDigits negative (k, extra) cs =
      if extra.isEmpty && !isMarked cs then .ok (wholeNumber negative k, cs)
      else exponentPart negative k extra.length cs := by
  unfold afterDigits
  split <;> simp_all

theorem afterDigits_append {gathered : Nat × List Char} (stops : Stops rest)
    (whole : afterDigits negative gathered cs = .ok (n, left)) :
    afterDigits negative gathered (cs ++ rest) = .ok (n, left ++ rest) := by
  obtain ⟨k, extra⟩ := gathered
  by_cases point : cs.head? = some '.'
  · obtain _ | ⟨c, cs⟩ := cs
    · cases point
    · cases point
      exact fractionPart_append stops whole
  · have point' : (cs ++ rest).head? ≠ some '.' := by
      cases cs with
      | cons => exact point
      | nil =>
        cases rest with
        | nil => exact point
        | cons c rest => simpa using stops.not_mark.1
    rw [afterDigits_of_not_point point] at whole
    rw [afterDigits_of_not_point point', isMarked_append stops]
    split at whole
    · rename_i fits
      cases whole
      rw [if_pos fits]
    · rename_i long
      rw [if_neg long]
      exact exponentPart_append stops whole

theorem number_append (stops : Stops rest) (whole : number negative cs = .ok (n, left)) :
    number negative (cs ++ rest) = .ok (n, left ++ rest) := by
  cases cs with
  | nil => cases whole
  | cons c cs =>
    rw [number_cons] at whole
    rw [List.cons_append, number_cons, ← List.cons_append]
    simp only [takeWhile_isDigit_append stops, dropWhile_isDigit_append stops] at whole ⊢
    split at whole
    · cases whole
    · rename_i digits
      rw [if_neg digits]
      split at whole
      · cases whole
      · rename_i zero
        rw [if_neg zero]
        exact afterDigits_append stops whole

theorem bind_fail_ne_ok {x : Except Fault β} {cause : β → Cause} {rest : β → List Char} {a : α} :
    (x >>= fun b ↦ fail (cause b) (rest b)) ≠ .ok a := by
  cases x <;> simp [bind, Except.bind, fail]

/-- A value of another kind is never taken for the one that was wanted. -/
theorem mismatch_ne_ok {expected : String} {a : α} : mismatch expected cs ≠ .ok a := by
  unfold mismatch
  dsimp only
  split
  case h_6 => simp [fail]
  case h_7 => simp [fail]
  case h_8 =>
    split
    · exact bind_fail_ne_ok
    · simp [failPast]
  case h_9 => simp [failPast]
  all_goals exact bind_fail_ne_ok

theorem skipBlank_append (some : skipBlank cs ≠ []) :
    skipBlank (cs ++ rest) = skipBlank cs ++ rest := by
  rw [skipBlank, List.dropWhile_append, if_neg (by simpa [skipBlank] using some), skipBlank]

theorem toFloat_number_append {x : Float} (stops : Stops rest)
    (whole : (do let (n, rest) ← number negative cs; return (n.toFloat, rest)) =
      Except.ok (x, left)) :
    (do let (n, rest) ← number negative (cs ++ rest); return (n.toFloat, rest) : Except Fault
      (Float × List Char)) =
      .ok (x, left ++ rest) := by
  cases result : number negative cs with
  | error =>
    rw [result] at whole
    cases whole
  | ok =>
    rw [result] at whole
    cases whole
    rw [number_append stops result]
    rfl

theorem readFloat_append {x : Float} (stops : Stops rest) (whole : readFloat cs = .ok (x, left)) :
    readFloat (cs ++ rest) = .ok (x, left ++ rest) := by
  have some : skipBlank cs ≠ [] := by
    intro none
    simp [readFloat, none, failPast] at whole
  rw [readFloat, skipBlank_append some]
  rw [readFloat] at whole
  generalize skipBlank cs = ds at whole
  split at whole
  · exact toFloat_number_append stops whole
  · rename_i c ds sign
    split at whole
    · rename_i digit
      rw [List.cons_append]
      split
      · rename_i same
        exact absurd (List.cons.inj same).1 sign
      · rename_i same
        cases same
        rw [if_pos digit]
        exact toFloat_number_append stops whole
      · contradiction
    · exact absurd whole mismatch_ne_ok
  · cases whole

/-- The text of the number is read as this number. Not every number has this: its digits are
gathered in 64 bits and scaled by a power of ten, which can end beside it. -/
def readsBack (x : Float) : Bool := (readFloat (writeNumber x)).toOption = some (x, [])

theorem reads_writeNumber {x : Float} (back : readsBack x) : Reads readFloat (writeNumber x) x := by
  intro rest stops
  have option : (readFloat (writeNumber x)).toOption = some (x, []) := of_decide_eq_true back
  cases whole : readFloat (writeNumber x) with
  | error => simp [whole, Except.toOption] at option
  | ok result =>
    obtain rfl : result = (x, []) := by simpa [whole, Except.toOption] using option
    exact readFloat_append stops whole

example : readsBack 80.25 ∧ readsBack 5e-324 ∧ readsBack (-0.0) ∧
    ¬ readsBack 100.00000000000001 := by decide +kernel

end Numbers

section Parts

theorem commaSeparated_cons (part : List Char) (parts : List (List Char)) :
    commaSeparated (part :: parts) = part ++ parts.flatMap (',' :: ·) := by
  induction parts generalizing part with
  | nil => simp [commaSeparated]
  | cons next parts ih => rw [commaSeparated, ih next, List.flatMap_cons, List.cons_append]; simp

/-- One round of a loop takes a part off the front, and the comma before it unless it is the
first. -/
structure Takes (round : Bool × σ → List Char → Except Fault (Round (Bool × σ) α)) (state : σ)
    (part : List Char) (next : σ) : Prop where
  nonempty : part ≠ []
  first : ∀ rest, Stops rest → round (true, state) (part ++ rest) = .ok (.again (false, next) rest)
  later : ∀ rest, Stops rest → round (false, state) (',' :: (part ++ rest)) =
    .ok (.again (false, next) rest)

inductive TakesAll (round : Bool × σ → List Char → Except Fault (Round (Bool × σ) α)) :
    σ → List (List Char) → σ → Prop
  | nil (state : σ) : TakesAll round state [] state
  | cons {state next last : σ} {part : List Char} {parts : List (List Char)}
      (head : Takes round state part next) (tail : TakesAll round next parts last) :
      TakesAll round state (part :: parts) last

variable {round : Bool × σ → List Char → Except Fault (Round (Bool × σ) α)} {state last : σ}
  {parts : List (List Char)} {close : Char}

theorem stops_parts (closes : isNumeric close = false) (parts : List (List Char))
    (rest : List Char) :
    Stops (parts.flatMap (',' :: ·) ++ close :: rest) := by
  cases parts with
  | nil => exact stops_cons closes
  | cons part parts => exact stops_cons rfl

theorem TakesAll.loop_later (takes : TakesAll round state parts last)
    (closes : isNumeric close = false) (rest : List Char) :
    loop round (false, state) (parts.flatMap (',' :: ·) ++ close :: rest) = loop round (false, last)
    (close :: rest) := by
  induction takes with
  | nil => rfl
  | @cons state next last part parts head tail ih =>
    rw [List.flatMap_cons, List.append_assoc, List.cons_append,
      loop_again (head.later _ (stops_parts closes parts rest)), ih]
    simp only [List.length_cons, List.length_append]
    omega

theorem TakesAll.loop_commaSeparated (takes : TakesAll round state parts last)
    (closes : isNumeric close = false) (rest : List Char) :
    loop round (true, state) (commaSeparated parts ++ close :: rest) =
      loop round (parts.isEmpty, last) (close :: rest) := by
  cases takes with
  | nil => rfl
  | @cons _ next _ part parts head tail =>
    rw [commaSeparated_cons, List.append_assoc,
      loop_again (head.first _ (stops_parts closes parts rest)), tail.loop_later closes]
    · rfl
    · have some := List.length_pos_iff.2 head.nonempty
      simp only [List.length_append]
      omega

end Parts

section Lists

variable {item : Reader α} {part rest : List Char} {a : α} {acc : List α}

def Opens (text : List Char) : Prop := ∃ c ∈ text.head?, isBlank c = false ∧ c ≠ ']'

theorem takes_item (reads : Reads item part a) (opens : Opens part) :
    Takes (itemsRound item) acc part (a :: acc) := by
  obtain ⟨c, head, visible, other⟩ := opens
  obtain ⟨text, rfl⟩ : ∃ text, part = c :: text := by
    cases part with
    | nil => cases head
    | cons => cases head; exact ⟨_, rfl⟩
  refine ⟨List.cons_ne_nil _ _, fun rest stops ↦ ?_, fun rest stops ↦ ?_⟩
  · have ahead : itemAhead true (c :: text ++ rest) = .ok (true, c :: text ++ rest) := by
      simp only [itemAhead, List.cons_append, skipBlank_cons visible, if_neg other, if_true]
    simp only [itemsRound, ahead, bind, Except.bind, if_true, reads rest stops]
    rfl
  · have ahead : itemAhead false (',' :: (c :: text ++ rest)) = .ok (true, c :: text ++ rest) := by
      have comma : skipBlank (',' :: (c :: (text ++ rest))) = ',' :: (c :: (text ++ rest)) :=
        skipBlank_cons rfl
      simp [itemAhead, comma, skipBlank_cons visible, other]
    simp only [itemsRound, ahead, bind, Except.bind, if_true, reads rest stops]
    rfl

theorem reads_writeArray {write : α → List Char} (reads : ∀ a, Reads item (write a) a)
    (opens : ∀ a, Opens (write a)) (l : List α) :
    Reads (readList item) (writeArray (l.map write)) l := by
  have takes (acc : List α) : TakesAll (itemsRound item) acc (l.map write) (l.reverse ++ acc) := by
    induction l generalizing acc with
    | nil => exact .nil acc
    | cons a l ih =>
      rw [List.reverse_cons, List.append_assoc]
      exact .cons (takes_item (reads a) (opens a)) (ih (a :: acc))
  intro rest _
  have text : writeArray (l.map write) ++ rest =
      '[' :: (commaSeparated (l.map write) ++ ']' :: rest) := by
    simp [writeArray]
  have close (first : Bool) : itemsRound item (first, l.reverse ++ []) (']' :: rest) =
      .ok (.done l rest) := by
    have ends : skipBlank (']' :: rest) = ']' :: rest := skipBlank_cons rfl
    simp only [itemsRound, itemAhead, listEnd, ends, if_true, bind, Except.bind,
      Bool.false_eq_true, if_false, List.append_nil, List.reverse_reverse]
    rfl
  have closes : isNumeric ']' = false := rfl
  rw [text, readList, skipBlank_cons rfl]
  exact ((takes []).loop_commaSeparated closes rest).trans (loop_done (close _))

end Lists

section Records

variable {fields : List (Field σ)} {field : Field σ} {draft next : σ} {name : String}
  {text : List Char}

theorem colon_cons (cs : List Char) : colon (':' :: cs) = .ok cs := by
  rw [colon, skipBlank_cons rfl]
  rfl

theorem takes_member (found : fields.find? (·.name = name) = some field)
    (unset : field.isSet draft = false) (reads : Reads (field.read draft) text next) :
    Takes (membersRound fields) draft (writeMember name text) next := by
  have member (rest : List Char) (stops : Stops rest) :
      readMember fields draft name (':' :: text ++ rest) = .ok (next, rest) := by
    rw [readMember, found]
    simp only [unset, Bool.false_eq_true, if_false, List.cons_append, colon_cons, bind, Except.bind]
    exact reads rest stops
  have quoted (rest : List Char) : writeMember name text ++ rest =
      '"' :: (name.toList.flatMap writeChar ++ '"' :: (':' :: text ++ rest)) := by
    simp [writeMember, writeText]
  have called (rest : List Char) :
      nameAhead.name (writeMember name text ++ rest) = .ok (some name, ':' :: text ++ rest) := by
    rw [quoted, nameAhead.name, quotedText_written]
    rfl
  refine ⟨by simp [writeMember, writeText], fun rest stops ↦ ?_, fun rest stops ↦ ?_⟩
  · have ahead :
        nameAhead true (writeMember name text ++ rest) = .ok (some name, ':' :: text ++ rest) := by
      rw [← called, quoted, nameAhead, skipBlank_cons rfl]
      rfl
    simp only [membersRound, ahead, bind, Except.bind, member rest stops]
    rfl
  · have ahead : nameAhead false (',' :: (writeMember name text ++ rest)) =
        .ok (some name, ':' :: text ++ rest) := by
      have comma : skipBlank (',' :: (writeMember name text ++ rest)) =
          ',' :: (writeMember name text ++ rest) :=
        skipBlank_cons rfl
      have start : skipBlank (writeMember name text ++ rest) = writeMember name text ++ rest := by
        rw [quoted, skipBlank_cons rfl]
      rw [← called, nameAhead, comma]
      simp only [start]
      rw [quoted]
      rfl
    simp only [membersRound, ahead, bind, Except.bind, member rest stops]
    rfl

theorem membersRound_end {cs rest : List Char} (front : skipBlank cs = '}' :: rest) (first : Bool) :
    membersRound fields (first, draft) cs = .ok (.done draft ('}' :: rest)) := by
  simp only [membersRound, nameAhead, front, if_true, bind, Except.bind]
  rfl

theorem Record.ofObject_of_loop {r : Record σ α} {cs rest : List Char} {a : α}
    (all : loop (membersRound r.fields) (true, r.draft) cs = .ok (draft, '}' :: rest))
    (complete : r.complete draft = .ok a) : r.ofObject cs = .ok (a, rest) := by
  have ends : skipBlank ('}' :: rest) = '}' :: rest := skipBlank_cons rfl
  simp only [ofObject, all, bind, Except.bind, complete, ends]
  rfl

theorem Record.reads_writeObject {r : Record σ α} {members : List (List Char)} {a : α}
    (takes : TakesAll (membersRound r.fields) r.draft members draft)
    (complete : r.complete draft = .ok a) :
    Reads r.reader (writeObject members) a := by
  intro rest _
  have text : writeObject members ++ rest = '{' :: (commaSeparated members ++ '}' :: rest) := by
    simp [writeObject]
  have all : loop (membersRound r.fields) (true, r.draft) (commaSeparated members ++ '}' :: rest) =
      .ok (draft, '}' :: rest) := by
    have closes : isNumeric '}' = false := rfl
    exact (takes.loop_commaSeparated closes rest).trans
      (loop_done (membersRound_end (skipBlank_cons rfl) _))
  rw [text, reader, skipBlank_cons rfl]
  exact ofObject_of_loop all complete

end Records

end Json

open Json

theorem Theme.reads_toJson (t : Theme) : Reads Theme.reader t.toJson t := by
  intro rest _
  rw [toJson, writeText_append, reader, skipBlank_cons rfl]
  simp only [quotedText_written, bind, Except.bind, ofVariant, ofName?_name]

theorem Section.reads_toJson (s : Section) : Reads Section.reader s.toJson s := by
  have id : Takes (membersRound record.fields) {} (writeMember "id" (writeText s.id))
      ⟨some s.id, none⟩ :=
    takes_member rfl rfl ((reads_writeText s.id).map fun id ↦ Draft.mk (some id) none)
  have label : Takes (membersRound record.fields) ⟨some s.id, none⟩
      (writeMember "label" (writeText s.label))
      ⟨some s.id, some s.label⟩ :=
    takes_member rfl rfl
      ((reads_writeText s.label).map fun label ↦ Draft.mk (some s.id) (some label))
  exact Record.reads_writeObject (.cons id (.cons label (.nil _))) rfl

theorem Section.reads_listToJson (l : List Section) :
    Reads Section.listReader (Section.listToJson l) l :=
  reads_writeArray reads_toJson (fun s ↦ ⟨'{', rfl, rfl, by decide⟩) l

namespace Band

def numbers (b : Band) : List Float := [b.topInset, b.bottomInset]

theorem reads_toJson {b : Band} (back : ∀ x ∈ b.numbers, readsBack x) :
    Reads Band.reader b.toJson b := by
  obtain ⟨top, bottom⟩ : readsBack b.topInset ∧ readsBack b.bottomInset := by
    simpa [numbers] using back
  have top :
      Takes (membersRound record.fields) {} (writeMember "top_inset_pct" (writeNumber b.topInset))
      ⟨some b.topInset, none⟩ :=
    takes_member rfl rfl ((reads_writeNumber top).map fun x ↦ Draft.mk (some x) none)
  have bottom : Takes (membersRound record.fields) ⟨some b.topInset, none⟩
      (writeMember "bottom_inset_pct" (writeNumber b.bottomInset)) ⟨some b.topInset,
        some b.bottomInset⟩ :=
    takes_member rfl rfl
      ((reads_writeNumber bottom).map fun x ↦ Draft.mk (some b.topInset) (some x))
  exact Record.reads_writeObject (.cons top (.cons bottom (.nil _))) rfl

end Band

namespace Config

def numbers (c : Config) : List Float := c.headerOffset :: c.band.numbers

theorem reads_toJson {c : Config} (back : ∀ x ∈ c.numbers, readsBack x) :
    Reads Config.reader c.toJson c := by
  obtain ⟨offset, band⟩ := List.forall_mem_cons.1 back
  have offset : Takes (membersRound record.fields) {}
      (writeMember "header_offset_px" (writeNumber c.headerOffset))
      ⟨some c.headerOffset, none, none⟩ :=
    takes_member rfl rfl ((reads_writeNumber offset).map fun x ↦ Draft.mk (some x) none none)
  have band : Takes (membersRound record.fields) ⟨some c.headerOffset, none, none⟩
      (writeMember "band" c.band.toJson)
      ⟨some c.headerOffset, some c.band, none⟩ :=
    takes_member rfl rfl
      ((Band.reads_toJson band).map fun b ↦ Draft.mk (some c.headerOffset) (some b) none)
  have key : Takes (membersRound record.fields) ⟨some c.headerOffset, some c.band, none⟩
      (writeMember "storage_key" (writeText c.storageKey))
      ⟨some c.headerOffset, some c.band, some c.storageKey⟩ :=
    takes_member rfl rfl
      ((reads_writeText c.storageKey).map fun key ↦
        Draft.mk (some c.headerOffset) (some c.band) (some key))
  exact Record.reads_writeObject (.cons offset (.cons band (.cons key (.nil _)))) rfl

theorem isFinite_of_isPercentage {x : Float} (h : isPercentage x) : x.isFinite := by
  simp only [isPercentage, Bool.and_eq_true] at h
  exact h.1.1

/-- An accepted configuration holds no number that cannot be written. -/
theorem isFinite_of_accepted {c : Config} (accepted : c.invalid? = none) :
    ∀ x ∈ c.numbers, x.isFinite := by
  unfold invalid? at accepted
  split at accepted
  · cases accepted
  · rename_i offset
    split at accepted
    · cases accepted
    · rename_i insets
      simp only [Bool.or_eq_true, not_or, Bool.not_eq_true, Bool.not_eq_false',
        decide_eq_true_eq] at offset insets
      simp [numbers, Band.numbers, offset.1, isFinite_of_isPercentage insets.1,
        isFinite_of_isPercentage insets.2]

theorem ofJson_of_read {c : Config} {text : String} (read : Json.read reader text = .ok c) :
    ofJson text = c.validate.mapError .invalid := by
  simp only [ofJson, read, validate]
  cases c.invalid? <;> rfl

theorem invalid?_of_validate {c : Config} (accepted : c.validate = .ok c) : c.invalid? = none := by
  unfold validate at accepted
  split at accepted
  · cases accepted
  · assumption

end Config

/-- Reading undoes writing for themes, sections and lists of sections, whatever characters they
hold, and for bands and configurations of finite numbers. The numbers at hand are those of which it
is assumed that their text is read as the number it was written for. A configuration that is
accepted is accepted again, as the same one. -/
theorem read_toJson :
    (∀ t : Theme, read Theme.reader (String.ofList t.toJson) = .ok t) ∧
    (∀ s : Section, read Section.reader (String.ofList s.toJson) = .ok s) ∧
    (∀ l : List Section, read Section.listReader (String.ofList (Section.listToJson l)) = .ok l) ∧
    (∀ b : Band, (∀ x ∈ b.numbers, x.isFinite) → (∀ x ∈ b.numbers, x.isFinite → readsBack x) →
      read Band.reader (String.ofList b.toJson) = .ok b) ∧
    (∀ c : Config, (∀ x ∈ c.numbers, x.isFinite) → (∀ x ∈ c.numbers, x.isFinite → readsBack x) →
      read Config.reader (String.ofList c.toJson) = .ok c) ∧
    ∀ c : Config, c.validate = .ok c → (∀ x ∈ c.numbers, x.isFinite → readsBack x) →
      Config.ofJson (String.ofList c.toJson) = .ok c := by
  have configs (c : Config) (finite : ∀ x ∈ c.numbers, x.isFinite)
      (back : ∀ x ∈ c.numbers, x.isFinite → readsBack x) : read Config.reader
        (String.ofList c.toJson) = .ok c :=
    read_of_reads (Config.reads_toJson fun x member ↦ back x member (finite x member))
  refine ⟨fun t ↦ read_of_reads t.reads_toJson, fun s ↦ read_of_reads s.reads_toJson,
    fun l ↦ read_of_reads (Section.reads_listToJson l), fun b finite back ↦ ?_, configs,
      fun c accepted back ↦ ?_⟩
  · exact read_of_reads (Band.reads_toJson fun x member ↦ back x member (finite x member))
  · have valid := Config.invalid?_of_validate accepted
    rw [Config.ofJson, configs c (Config.isFinite_of_accepted valid) back]
    simp only [valid]

def awkwardSections : List Section :=
  [⟨"a\"b\\c/d", "\x00\x08\t\n\x0b\x0c\r\x1f\x7f"⟩, ⟨"", "\u00e9\ud7ff\ue000\u2028😀"⟩,
    ⟨"\\u0022", "\x7d],"⟩]

def awkwardConfig : Config := ⟨1.5e-7, ⟨33.3, 66.7⟩, " \"\\key\x07😀"⟩

theorem read_toJson_awkward :
    read Section.listReader (String.ofList (Section.listToJson awkwardSections)) =
      .ok awkwardSections ∧
      awkwardConfig.validate = .ok awkwardConfig ∧
      (∀ x ∈ awkwardConfig.numbers, x.isFinite ∧ readsBack x) ∧
      read Band.reader (String.ofList awkwardConfig.band.toJson) = .ok awkwardConfig.band ∧
      read Config.reader (String.ofList awkwardConfig.toJson) = .ok awkwardConfig ∧
      Config.ofJson (String.ofList awkwardConfig.toJson) = .ok awkwardConfig := by
  have numbers : ∀ x ∈ awkwardConfig.numbers, x.isFinite ∧ readsBack x := by decide +kernel
  have insets : ∀ x ∈ awkwardConfig.band.numbers, x.isFinite ∧ readsBack x :=
    fun x h ↦ numbers x (.tail _ h)
  have valid : awkwardConfig.invalid? = none := by decide +kernel
  have accepted : awkwardConfig.validate = .ok awkwardConfig := by rw [Config.validate, valid]
  obtain ⟨-, -, sections, bands, configs, validated⟩ := read_toJson
  exact ⟨sections _, accepted, numbers,
    bands _ (fun x h ↦ (insets x h).1) fun x h _ ↦ (insets x h).2,
      configs _ (fun x h ↦ (numbers x h).1) fun x h _ ↦ (numbers x h).2,
    validated _ accepted fun x h _ ↦ (numbers x h).2⟩

end Wayfinder
