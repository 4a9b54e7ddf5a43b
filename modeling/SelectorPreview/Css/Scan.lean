import SelectorPreview.Css.Token
import SelectorPreview.Text.Ascii
/-!
# From characters to tokens

Each reader takes a token, or a part of one, from the front of a text and gives what is left.
Whatever is left is an end of the text (`suffix` lemmas), which is why reading all tokens of a text
comes to an end.

Main definition: `tokens`, the tokens of a text.
-/

namespace SelectorPreview.Css.Scan

open Text

/-! ## Classes of characters -/

/-- The characters that break a line. -/
def isNewline (c : Char) : Bool := c == '\n' || c == '\r' || c == '\x0c'

/-- The characters that separate tokens. -/
def isSpace (c : Char) : Bool := isNewline c || c == ' ' || c == '\t'

/-- The characters that begin a name. -/
def isNameStart (c : Char) : Bool :=
  c.isAlpha || c == '_' || c == '\x00' || 0x80 ≤ c.toNat

/-- The characters of a name. -/
def isNameChar (c : Char) : Bool := isNameStart c || c.isDigit || c == '-'

/-- The control characters that cannot stand in an address. -/
def isNonPrintable (c : Char) : Bool :=
  let n := c.toNat
  (0x01 ≤ n && n ≤ 0x08) || n == 0x0B || (0x0E ≤ n && n ≤ 0x1F) || n == 0x7F

/-- The character that stands for one that a text cannot hold. -/
def replacement : Char := '\ufffd'

/-- The character itself, or the replacement for NUL. -/
def visible (c : Char) : Char := if c == '\x00' then replacement else c

/-- Whether a text begins with a line break. -/
def startsNewline : List Char → Bool
  | [] => false
  | c :: _ => isNewline c

/-- Whether a text begins with a digit. -/
def startsDigit : List Char → Bool
  | [] => false
  | c :: _ => c.isDigit

/-- Whether a text begins with an identifier. -/
def startsIdent : List Char → Bool
  | [] => false
  | '\\' :: rest => ! startsNewline rest
  | '-' :: rest =>
    match rest with
    | [] => false
    | c :: _ => isNameStart c || c == '-' || c == '\\'
  | c :: _ => isNameStart c

/-- Whether a text begins with a number, after a sign if it has one. -/
def startsUnsigned : List Char → Bool
  | '.' :: rest => startsDigit rest
  | s => startsDigit s

/-! ## Escapes -/

/-- The value of a digit in base 16. -/
def hexValue? (c : Char) : Option Nat :=
  if c.isDigit then some (c.toNat - '0'.toNat)
  else if 'a' ≤ c && c ≤ 'f' then some (c.toNat - 'a'.toNat + 10)
  else if 'A' ≤ c && c ≤ 'F' then some (c.toNat - 'A'.toNat + 10)
  else none

/-- Reads at most `limit` more digits in base 16. -/
def hexDigits (limit value : Nat) : List Char → Nat × List Char
  | [] => (value, [])
  | c :: rest =>
    match limit, hexValue? c with
    | limit + 1, some digit => hexDigits limit (16 * value + digit) rest
    | _, _ => (value, c :: rest)

/-- The character with a number; the replacement for NUL and for numbers of no character. -/
def charOfNumber (n : Nat) : Char :=
  if n == 0 || 0x10FFFF < n || (0xD800 ≤ n && n ≤ 0xDFFF) then replacement else Char.ofNat n

/-- Drops the space that may end an escape by number. -/
def dropSpace : List Char → List Char
  | '\r' :: '\n' :: rest => rest
  | c :: rest => if isSpace c then rest else c :: rest
  | [] => []

/-- Reads an escape after its backslash. -/
def escape : List Char → Char × List Char
  | [] => (replacement, [])
  | c :: rest =>
    match hexValue? c with
    | none => (visible c, rest)
    | some digit =>
      let (n, after) := hexDigits 5 digit rest
      (charOfNumber n, dropSpace after)

theorem hexDigits_suffix (limit value : Nat) (s : List Char) :
    (hexDigits limit value s).2 <:+ s := by
  induction s generalizing limit value with
  | nil => simp [hexDigits]
  | cons c rest ih =>
    unfold hexDigits
    split
    · exact (ih _ _).trans (List.suffix_cons c rest)
    · exact List.suffix_rfl

theorem dropSpace_suffix (s : List Char) : dropSpace s <:+ s := by
  unfold dropSpace
  split
  · exact (List.suffix_cons _ _).trans (List.suffix_cons _ _)
  · split
    · exact List.suffix_cons _ _
    · exact List.suffix_rfl
  · exact List.suffix_rfl

/-- What is left after an escape is an end of the text. -/
theorem escape_suffix (s : List Char) : (escape s).2 <:+ s := by
  unfold escape
  split
  · exact List.suffix_rfl
  · split
    · exact List.suffix_cons _ _
    · exact (dropSpace_suffix _).trans ((hexDigits_suffix _ _ _).trans (List.suffix_cons _ _))

/-! ## Names -/

/-- Reads the characters of a name. -/
def name (s : List Char) : List Char × List Char :=
  match s with
  | [] => ([], [])
  | c :: rest =>
    if c == '\\' then
      if startsNewline rest then ([], s)
      else
        have : (escape rest).2.length < (c :: rest).length :=
          Nat.lt_succ_of_le (escape_suffix rest).length_le
        let (more, after) := name (escape rest).2
        ((escape rest).1 :: more, after)
    else if isNameChar c then
      let (more, after) := name rest
      (visible c :: more, after)
    else ([], s)
termination_by s.length
decreasing_by all_goals (simp only [List.length_cons] at *; omega)

/-- What is left after a name is an end of the text. -/
theorem name_suffix (s : List Char) : (name s).2 <:+ s := by
  fun_induction name s with
  | case1 => exact List.suffix_rfl
  | case2 => exact List.suffix_rfl
  | case3 c rest _ _ _ more after h ih =>
    rw [h] at ih
    exact ih.trans ((escape_suffix rest).trans (List.suffix_cons _ _))
  | case4 c rest _ _ more after h ih =>
    rw [h] at ih
    exact ih.trans (List.suffix_cons _ _)
  | case5 => exact List.suffix_rfl

/-- A text that begins with an identifier gives up at least its first character. -/
theorem name_suffix_of_startsIdent {c : Char} {rest : List Char}
    (h : startsIdent (c :: rest) = true) : (name (c :: rest)).2 <:+ rest := by
  by_cases slash : c = '\\'
  · subst slash
    have free : startsNewline rest = false := by simpa [startsIdent] using h
    rw [name]
    simpa [free] using (name_suffix (escape rest).2).trans (escape_suffix rest)
  · have inName : isNameChar c = true := by
      unfold startsIdent at h
      split at h <;> simp_all [isNameChar]
    rw [name]
    simpa [slash, inName] using name_suffix rest

/-! ## Strings and addresses -/

/-- Reads a string after its first quote: its characters, whether it ends well, and the rest. -/
def quotedText (quote : Char) (s : List Char) : List Char × Bool × List Char :=
  match s with
  | [] => ([], true, [])
  | c :: rest =>
    if c == quote then ([], true, rest)
    else if isNewline c then ([], false, s)
    else if c == '\\' then
      match rest with
      | [] => ([], true, [])
      | '\r' :: '\n' :: after => quotedText quote after
      | d :: after =>
        if isNewline d then quotedText quote after
        else
          have : (escape (d :: after)).2.length < (c :: d :: after).length :=
            Nat.lt_succ_of_le (escape_suffix (d :: after)).length_le
          let (more, ends, final) := quotedText quote (escape (d :: after)).2
          ((escape (d :: after)).1 :: more, ends, final)
    else
      let (more, ends, final) := quotedText quote rest
      (visible c :: more, ends, final)
termination_by s.length
decreasing_by all_goals (simp only [List.length_cons] at *; omega)

/-- Drops what is left of an address that cannot be one. -/
def dropBadUrl : List Char → List Char
  | [] => []
  | ')' :: rest => rest
  | '\\' :: ')' :: rest => dropBadUrl rest
  | '\\' :: '\\' :: rest => dropBadUrl rest
  | _ :: rest => dropBadUrl rest

/-- Reads an address after its first character, up to the bracket that closes it; none if it holds
something that it cannot hold. -/
def urlText (s : List Char) : Option (List Char) × List Char :=
  match s with
  | [] => (some [], [])
  | c :: rest =>
    if c == ')' then (some [], rest)
    else if isSpace c then
      match rest.dropWhile isSpace with
      | [] => (some [], [])
      | ')' :: after => (some [], after)
      | _ :: after => (none, dropBadUrl after)
    else if isNonPrintable c || c == '"' || c == '\'' || c == '(' then (none, dropBadUrl rest)
    else if c == '\\' then
      if startsNewline rest then (none, dropBadUrl rest)
      else
        have : (escape rest).2.length < (c :: rest).length :=
          Nat.lt_succ_of_le (escape_suffix rest).length_le
        let (more, final) := urlText (escape rest).2
        (more.map ((escape rest).1 :: ·), final)
    else
      let (more, final) := urlText rest
      (more.map (visible c :: ·), final)
termination_by s.length
decreasing_by all_goals (simp only [List.length_cons] at *; omega)

/-- Reads what follows `url(`: an address, or a function if a quote stands first. -/
def urlOrFunction (functionName : List Char) (s : List Char) : Token × List Char :=
  match s.dropWhile isSpace with
  | [] => (.url "", [])
  | ')' :: rest => (.url "", rest)
  | c :: rest =>
    if c == '"' || c == '\'' then (.function (String.ofList functionName), s)
    else
      match urlText (c :: rest) with
      | (some text, after) => (.url (String.ofList text), after)
      | (none, after) => (.badUrl, after)

theorem quotedText_suffix (quote : Char) (s : List Char) : (quotedText quote s).2.2 <:+ s := by
  fun_induction quotedText quote s with
  | case1 => exact List.suffix_rfl
  | case2 => exact List.suffix_cons _ _
  | case3 => exact List.suffix_rfl
  | case4 => exact List.nil_suffix
  | case5 c after _ _ _ ih =>
    exact ih.trans ((List.suffix_cons _ _).trans ((List.suffix_cons _ _).trans
      (List.suffix_cons _ _)))
  | case6 c _ _ _ d after _ _ ih =>
    exact ih.trans ((List.suffix_cons _ _).trans (List.suffix_cons _ _))
  | case7 c _ _ _ d after _ _ _ more ends final h ih =>
    rw [h] at ih
    exact ih.trans ((escape_suffix (d :: after)).trans (List.suffix_cons _ _))
  | case8 c rest _ _ _ more ends final h ih =>
    rw [h] at ih
    exact ih.trans (List.suffix_cons _ _)

theorem dropBadUrl_suffix (s : List Char) : dropBadUrl s <:+ s := by
  fun_induction dropBadUrl s with
  | case1 => exact List.suffix_rfl
  | case2 => exact List.suffix_cons _ _
  | case3 _ ih => exact ih.trans ((List.suffix_cons _ _).trans (List.suffix_cons _ _))
  | case4 _ ih => exact ih.trans ((List.suffix_cons _ _).trans (List.suffix_cons _ _))
  | case5 _ _ _ _ _ ih => exact ih.trans (List.suffix_cons _ _)

theorem urlText_suffix (s : List Char) : (urlText s).2 <:+ s := by
  fun_induction urlText s with
  | case1 => exact List.suffix_rfl
  | case2 => exact List.suffix_cons _ _
  | case3 => exact List.nil_suffix
  | case4 c rest _ _ after h =>
    have := List.dropWhile_suffix (l := rest) isSpace
    rw [h] at this
    exact (List.suffix_cons _ _).trans (this.trans (List.suffix_cons _ _))
  | case5 c rest _ _ d after _ h =>
    have := List.dropWhile_suffix (l := rest) isSpace
    rw [h] at this
    exact (dropBadUrl_suffix _).trans ((List.suffix_cons _ _).trans
      (this.trans (List.suffix_cons _ _)))
  | case6 => exact (dropBadUrl_suffix _).trans (List.suffix_cons _ _)
  | case7 => exact (dropBadUrl_suffix _).trans (List.suffix_cons _ _)
  | case8 c rest _ _ _ _ _ _ more final h ih =>
    rw [h] at ih
    exact ih.trans ((escape_suffix rest).trans (List.suffix_cons _ _))
  | case9 c rest _ _ _ _ more final h ih =>
    rw [h] at ih
    exact ih.trans (List.suffix_cons _ _)

theorem urlOrFunction_suffix (functionName s : List Char) :
    (urlOrFunction functionName s).2 <:+ s := by
  have dropped := List.dropWhile_suffix (l := s) isSpace
  unfold urlOrFunction
  split
  · exact List.nil_suffix
  · rename_i rest h
    rw [h] at dropped
    exact (List.suffix_cons _ _).trans dropped
  · rename_i c rest _ h
    rw [h] at dropped
    split
    · exact List.suffix_rfl
    · split
      all_goals
        rename_i after read
        have := urlText_suffix (c :: rest)
        rw [read] at this
        exact this.trans dropped

/-! ## Numbers -/

/-- Reads a sign: whether there is one, and whether it is a minus. -/
def sign : List Char → Bool × Bool × List Char
  | '+' :: rest => (true, false, rest)
  | '-' :: rest => (true, true, rest)
  | s => (false, false, s)

/-- The number that digits stand for. -/
def digitsValue (digits : List Char) : Nat :=
  digits.foldl (fun n c => 10 * n + (c.toNat - '0'.toNat)) 0

/-- Reads the digits after a point; none without a digit there. -/
def fraction : List Char → Option (List Char) × List Char
  | '.' :: rest =>
    if startsDigit rest then (some (rest.takeWhile Char.isDigit), rest.dropWhile Char.isDigit)
    else (none, '.' :: rest)
  | s => (none, s)

/-- Reads an exponent; none without a digit in it. -/
def exponent : List Char → Option Int × List Char
  | [] => (none, [])
  | c :: rest =>
    let (_, negative, digits) := sign rest
    if (c == 'e' || c == 'E') && startsDigit digits then
      let n : Int := digitsValue (digits.takeWhile Char.isDigit)
      (some (if negative then -n else n), digits.dropWhile Char.isDigit)
    else (none, c :: rest)

/-- Reads a number from a text that begins with one. -/
def number (s : List Char) : Number × List Char :=
  let (signed, negative, afterSign) := sign s
  let whole := afterSign.takeWhile Char.isDigit
  let (places, afterFraction) := fraction (afterSign.dropWhile Char.isDigit)
  let (power, after) := exponent afterFraction
  let places' := places.getD []
  ({
    negative := negative
    mantissa := digitsValue (whole ++ places')
    exponent := power.getD 0 - places'.length
    signed := signed
    integral := places.isNone && power.isNone }, after)

/-- Reads a number with its unit, from a text that begins with a number. -/
def numeric (s : List Char) : Token × List Char :=
  let (value, after) := number s
  match after with
  | '%' :: rest => (.percentage value, rest)
  | _ =>
    if startsIdent after then (.dimension value (String.ofList (name after).1), (name after).2)
    else (.number value, after)

/-! ## All tokens -/

/-- The text of a comment up to its end mark, and the rest. -/
def comment : List Char → List Char × List Char
  | [] => ([], [])
  | '*' :: '/' :: rest => ([], rest)
  | c :: rest =>
    let (more, after) := comment rest
    (c :: more, after)

/-- Reads a name and finds out whether it is an identifier, a function or an address. -/
def identLike (s : List Char) : Token × List Char :=
  match name s with
  | (letters, '(' :: rest) =>
    if lower letters == "url".toList then urlOrFunction letters rest
    else (.function (String.ofList letters), rest)
  | (letters, rest) => (.ident (String.ofList letters), rest)

/-- Reads a string after its first quote. -/
def quotedToken (quote : Char) (s : List Char) : Token × List Char :=
  match quotedText quote s with
  | (text, true, rest) => (.string (String.ofList text), rest)
  | (_, false, rest) => (.badString, rest)

/-- Reads what follows `#`. -/
def hashToken (s : List Char) : Token × List Char :=
  if startsIdent s then (.idHash (String.ofList (name s).1), (name s).2)
  else
    match s with
    | c :: _ =>
      if c.isDigit || c == '-' then (.hash (String.ofList (name s).1), (name s).2)
      else (.delim '#', s)
    | [] => (.delim '#', [])

/-- Reads the token whose first character is `c`. -/
def token (c : Char) (rest : List Char) : Token × List Char :=
  match c, rest with
  | '"', _ => quotedToken '"' rest
  | '\'', _ => quotedToken '\'' rest
  | '#', _ => hashToken rest
  | '(', _ => (.opening .round, rest)
  | ')', _ => (.closing .round, rest)
  | '[', _ => (.opening .square, rest)
  | ']', _ => (.closing .square, rest)
  | '\x7b', _ => (.opening .curly, rest)
  | '\x7d', _ => (.closing .curly, rest)
  | ',', _ => (.comma, rest)
  | ':', _ => (.colon, rest)
  | ';', _ => (.semicolon, rest)
  | '$', '=' :: after => (.endMatch, after)
  | '*', '=' :: after => (.substringMatch, after)
  | '^', '=' :: after => (.startMatch, after)
  | '|', '=' :: after => (.dashMatch, after)
  | '~', '=' :: after => (.includeMatch, after)
  | '/', '*' :: after =>
    (.comment (String.ofList (comment after).1), (comment after).2)
  | '<', '!' :: '-' :: '-' :: after => (.markupOpen, after)
  | '@', _ =>
    if startsIdent rest then (.atKeyword (String.ofList (name rest).1), (name rest).2)
    else (.delim '@', rest)
  | '+', _ => if startsUnsigned rest then numeric ('+' :: rest) else (.delim '+', rest)
  | '.', _ => if startsDigit rest then numeric ('.' :: rest) else (.delim '.', rest)
  | '-', '-' :: '>' :: after => (.markupClose, after)
  | '-', _ =>
    if startsUnsigned rest then numeric ('-' :: rest)
    else if startsIdent ('-' :: rest) then identLike ('-' :: rest)
    else (.delim '-', rest)
  | c, _ =>
    if isSpace c then
      (.whitespace (String.ofList (c :: rest.takeWhile isSpace)), rest.dropWhile isSpace)
    else if c.isDigit then numeric (c :: rest)
    else if startsIdent (c :: rest) then identLike (c :: rest)
    else (.delim c, rest)

/-! ## What is left after a token -/

theorem comment_suffix (s : List Char) : (comment s).2 <:+ s := by
  fun_induction comment s with
  | case1 => exact List.suffix_rfl
  | case2 => exact (List.suffix_cons _ _).trans (List.suffix_cons _ _)
  | case3 c rest _ more after h ih =>
    rw [h] at ih
    exact ih.trans (List.suffix_cons _ _)

theorem quotedToken_suffix (quote : Char) (s : List Char) : (quotedToken quote s).2 <:+ s := by
  have := quotedText_suffix quote s
  unfold quotedToken
  split
  all_goals
    rename_i read
    rw [read] at this
    exact this

theorem hashToken_suffix (s : List Char) : (hashToken s).2 <:+ s := by
  unfold hashToken
  split
  · exact name_suffix s
  · split
    · split
      · exact name_suffix _
      · exact List.suffix_rfl
    · exact List.suffix_rfl

theorem identLike_suffix {c : Char} {rest : List Char} (h : startsIdent (c :: rest) = true) :
    (identLike (c :: rest)).2 <:+ rest := by
  have left := name_suffix_of_startsIdent h
  unfold identLike
  split
  · rename_i letters after read
    rw [read] at left
    have inner : after <:+ rest := (List.suffix_cons _ _).trans left
    split
    · exact (urlOrFunction_suffix _ _).trans inner
    · exact inner
  · rename_i read
    rw [read] at left
    exact left

theorem fraction_suffix (s : List Char) : (fraction s).2 <:+ s := by
  unfold fraction
  split
  · split
    · exact (List.dropWhile_suffix _).trans (List.suffix_cons _ _)
    · exact List.suffix_rfl
  · exact List.suffix_rfl

theorem sign_suffix (s : List Char) : (sign s).2.2 <:+ s := by
  unfold sign
  split
  · exact List.suffix_cons _ _
  · exact List.suffix_cons _ _
  · exact List.suffix_rfl

theorem exponent_suffix (s : List Char) : (exponent s).2 <:+ s := by
  unfold exponent
  split
  · exact List.suffix_rfl
  · dsimp only
    split
    · exact (List.dropWhile_suffix _).trans ((sign_suffix _).trans (List.suffix_cons _ _))
    · exact List.suffix_rfl

/-- A sign, a digit, or a point before a digit is given up by the number that it begins. -/
theorem number_suffix {c : Char} {rest : List Char}
    (h : c = '+' ∨ c = '-' ∨ c.isDigit = true ∨ (c = '.' ∧ startsDigit rest = true)) :
    (number (c :: rest)).2 <:+ rest := by
  refine (exponent_suffix _).trans ?_
  rcases h with rfl | rfl | digit | ⟨rfl, digit⟩
  · exact (fraction_suffix _).trans (List.dropWhile_suffix _)
  · exact (fraction_suffix _).trans (List.dropWhile_suffix _)
  · have plain : sign (c :: rest) = (false, false, c :: rest) := by
      unfold sign
      split <;> simp_all
    refine (fraction_suffix _).trans ?_
    show List.dropWhile Char.isDigit (sign (c :: rest)).2.2 <:+ rest
    rw [plain]
    simpa [List.dropWhile_cons, digit] using List.dropWhile_suffix Char.isDigit
  · have read : fraction ('.' :: rest) =
        (some (rest.takeWhile Char.isDigit), rest.dropWhile Char.isDigit) := by
      simp [fraction, digit]
    have stays : List.dropWhile Char.isDigit (sign ('.' :: rest)).2.2 = '.' :: rest := rfl
    show (fraction (List.dropWhile Char.isDigit (sign ('.' :: rest)).2.2)).2 <:+ rest
    rw [stays, read]
    exact List.dropWhile_suffix _

theorem numeric_suffix {c : Char} {rest : List Char}
    (h : c = '+' ∨ c = '-' ∨ c.isDigit = true ∨ (c = '.' ∧ startsDigit rest = true)) :
    (numeric (c :: rest)).2 <:+ rest := by
  have left := number_suffix h
  unfold numeric
  dsimp only
  split
  · rename_i after read
    rw [read] at left
    exact (List.suffix_cons _ _).trans left
  · split
    · exact (name_suffix _).trans left
    · exact left

/-- What is left after a token is an end of what follows its first character. -/
theorem token_suffix (c : Char) (rest : List Char) : (token c rest).2 <:+ rest := by
  unfold token
  split
  all_goals first
    | exact List.suffix_rfl
    | exact quotedToken_suffix _ _
    | exact hashToken_suffix _
    | exact List.suffix_cons _ _
    | exact (comment_suffix _).trans (List.suffix_cons _ _)
    | exact (List.suffix_cons _ _).trans ((List.suffix_cons _ _).trans (List.suffix_cons _ _))
    | exact (List.suffix_cons _ _).trans (List.suffix_cons _ _)
    | skip
  · split
    · exact name_suffix _
    · exact List.suffix_rfl
  · split
    · exact numeric_suffix (.inl rfl)
    · exact List.suffix_rfl
  · split
    · rename_i digit
      exact numeric_suffix (.inr (.inr (.inr ⟨rfl, digit⟩)))
    · exact List.suffix_rfl
  · split
    · exact numeric_suffix (.inr (.inl rfl))
    · split
      · rename_i ident
        exact identLike_suffix ident
      · exact List.suffix_rfl
  · split
    · exact List.dropWhile_suffix _
    · split
      · rename_i digit
        exact numeric_suffix (.inr (.inr (.inl digit)))
      · split
        · rename_i ident
          exact identLike_suffix ident
        · exact List.suffix_rfl

/-- The tokens of a text. -/
def tokens (s : List Char) : List Token :=
  match s with
  | [] => []
  | c :: rest =>
    have : (token c rest).2.length < (c :: rest).length :=
      Nat.lt_succ_of_le (token_suffix c rest).length_le
    (token c rest).1 :: tokens (token c rest).2
termination_by s.length
decreasing_by all_goals (simp only [List.length_cons] at *; omega)

end SelectorPreview.Css.Scan
