import Mathlib.Data.Nat.Digits
import ZenFS.Device

set_option autoImplicit false

/- `Zone::EncodeJson`, `ZonedBlockDevice::EncodeJsonZone` and `ZonedBlockDevice::EncodeJson`,
which write the zones to a `std::ostream` as JSON text, and a reader of the JSON grammar that
takes the text back. The stream is the list of characters written to it; `operator<<` writes a
`uint64_t`, a `uint32_t` and an unscoped enumeration in decimal. -/
namespace ZenFS

/-! ### Writing -/

/-- `json_stream << n` for an unsigned integer or an unscoped enumeration: its decimal
digits. -/
def decimal (n : Nat) : List Char := (toString n).toList

/-- `Zone::EncodeJson`. -/
def Zone.encodeJson (z : Zone) : List Char :=
  "\x7b".toList ++
  "\"start\":".toList ++ decimal z.start ++ ",".toList ++
  "\"capacity\":".toList ++ decimal z.capacity ++ ",".toList ++
  "\"max_capacity\":".toList ++ decimal z.maxCapacity ++ ",".toList ++
  "\"wp\":".toList ++ decimal z.wp ++ ",".toList ++
  "\"lifetime\":".toList ++ decimal z.lifetime.toNat ++ ",".toList ++
  "\"used_capacity\":".toList ++ decimal z.usedCapacity ++ ",".toList ++
  "\"reset_count\":".toList ++ decimal z.resetCount ++
  "\x7d".toList

example : Zone.encodeJson ⟨2 ^ 30, 2 ^ 26, 2 ^ 30 + 2 ^ 26, 0, 1000, .wlthMedium, 12, true⟩ =
    ("\x7b\"start\":1073741824,\"capacity\":0,\"max_capacity\":67108864,\"wp\":1140850688," ++
      "\"lifetime\":3,\"used_capacity\":1000,\"reset_count\":12\x7d").toList := by
  rfl

/-- The loop of `EncodeJsonZone`: every zone but the first after a `,`. -/
def encodeJsonZoneLoop : Bool → List Zone → List Char
  | _, [] => []
  | firstElement, z :: zones =>
    (if firstElement then [] else ",".toList) ++ z.encodeJson ++ encodeJsonZoneLoop false zones

/-- `ZonedBlockDevice::EncodeJsonZone`. -/
def encodeJsonZone (zones : List Zone) : List Char :=
  "[".toList ++ encodeJsonZoneLoop true zones ++ "]".toList

/-- `ZonedBlockDevice::EncodeJson`. -/
def Device.encodeJson (d : Device) : List Char :=
  "\x7b".toList ++ "\"meta\":".toList ++ encodeJsonZone d.metaZones ++ ",\"io\":".toList ++
    encodeJsonZone d.ioZones ++ "\x7d".toList

/-! ### Reading: the JSON grammar -/

/-- A JSON number as the grammar reads it, `[ minus ] int [ frac ] [ exp ]`: the sign, the
value of the integer part, the digits of the fraction, and the exponent, 0 when there is
none. -/
structure JsonNumber where
  negative : Bool
  integer : Nat
  fraction : List Nat
  exponent : Int
  deriving DecidableEq, Repr

/-- The unsigned integer `n`, with no fraction and no exponent. -/
def JsonNumber.ofNat (n : Nat) : JsonNumber := ⟨false, n, [], 0⟩

/-- A JSON value. A string keeps its characters as written between the quotes: the grammar
checks its escapes but they are not decoded. -/
inductive Json where
  | null
  | bool (b : Bool)
  | number (n : JsonNumber)
  | string (s : String)
  | array (elements : List Json)
  | object (members : List (String × Json))
  deriving Repr

/-- `ws = *( %x20 / %x09 / %x0A / %x0D )`: what follows the whitespace. -/
def skipWs : List Char → List Char
  | [] => []
  | c :: cs => if c = ' ' ∨ c = '\t' ∨ c = '\n' ∨ c = '\r' then skipWs cs else c :: cs

/-- `*DIGIT`: the longest run of digits, and what follows it. -/
def takeDigits : List Char → List Char × List Char
  | [] => ([], [])
  | c :: cs =>
    if c.isDigit then
      match takeDigits cs with
      | (ds, rest) => (c :: ds, rest)
    else ([], c :: cs)

/-- The value of one decimal digit. -/
def digitValue (c : Char) : Nat := c.toNat - '0'.toNat

/-- The value of a run of decimal digits. -/
def digitsValue (ds : List Char) : Nat := ds.foldl (fun v c => 10 * v + digitValue c) 0

/-- `[ minus ]`. -/
def parseMinus : List Char → Bool × List Char
  | [] => (false, [])
  | c :: cs => if c = '-' then (true, cs) else (false, c :: cs)

/-- `int = zero / ( digit1-9 *DIGIT )`. -/
def parseInt : List Char → Option (Nat × List Char)
  | [] => none
  | c :: cs =>
    if c = '0' then some (0, cs)
    else if c.isDigit then some (digitsValue (c :: (takeDigits cs).1), (takeDigits cs).2)
    else none

/-- `[ frac ]`, with `frac = decimal-point 1*DIGIT`: the digits of the fraction. -/
def parseFrac : List Char → Option (List Nat × List Char)
  | [] => some ([], [])
  | c :: cs =>
    if c = '.' then
      match takeDigits cs with
      | ([], _) => none
      | (ds, rest) => some (ds.map digitValue, rest)
    else some ([], c :: cs)

/-- `[ exp ]`, with `exp = e [ minus / plus ] 1*DIGIT`: the exponent, 0 when there is none. -/
def parseExp : List Char → Option (Int × List Char)
  | [] => some (0, [])
  | c :: cs =>
    if c = 'e' ∨ c = 'E' then
      let (negative, cs) : Bool × List Char :=
        match cs with
        | '-' :: r => (true, r)
        | '+' :: r => (false, r)
        | r => (false, r)
      match takeDigits cs with
      | ([], _) => none
      | (ds, rest) =>
        some (if negative then -(digitsValue ds : Int) else (digitsValue ds : Int), rest)
    else some (0, c :: cs)

/-- `number = [ minus ] int [ frac ] [ exp ]`. -/
def parseNumber (cs : List Char) : Option (JsonNumber × List Char) :=
  match parseMinus cs with
  | (negative, cs) =>
    (parseInt cs).bind fun (integer, cs) =>
      (parseFrac cs).bind fun (fraction, cs) =>
        (parseExp cs).map fun (exponent, cs) => (⟨negative, integer, fraction, exponent⟩, cs)

/-- `HEXDIG`. -/
def isHexDigit (c : Char) : Bool :=
  c.isDigit || ('a' ≤ c && c ≤ 'f') || ('A' ≤ c && c ≤ 'F')

/-- The characters of a string up to its closing `quotation-mark`: `unescaped` (no control
character, `"` or `\`), or `escape` followed by `"`, `\`, `/`, `b`, `f`, `n`, `r`, `t`, or `u`
and four `HEXDIG`. They come back as written. -/
def parseChars : List Char → Option (List Char × List Char)
  | [] => none
  | c :: cs =>
    if c = '"' then some ([], cs)
    else if c = '\\' then
      match cs with
      | 'u' :: h₁ :: h₂ :: h₃ :: h₄ :: rest =>
        if [h₁, h₂, h₃, h₄].all isHexDigit then
          (parseChars rest).map fun (s, r) => ('\\' :: 'u' :: h₁ :: h₂ :: h₃ :: h₄ :: s, r)
        else none
      | e :: rest =>
        if e ∈ ['"', '\\', '/', 'b', 'f', 'n', 'r', 't'] then
          (parseChars rest).map fun (s, r) => ('\\' :: e :: s, r)
        else none
      | [] => none
    else if c.toNat < 0x20 then none
    else (parseChars cs).map fun (s, r) => (c :: s, r)

/-- `false`, `null` or `true`, after its first letter. -/
def parseWord (rest : List Char) (value : Json) (cs : List Char) : Option (Json × List Char) :=
  if rest.isPrefixOf cs then some (value, cs.drop rest.length) else none

/-- `*( value-separator item ) end`, after the first element of an array or the first member
of an object: the items, each after a `,`, up to the closing character. `n` bounds their
number. -/
def parseTail {α : Type} (item : List Char → Option (α × List Char)) (close : Char) :
    Nat → List Char → Option (List α × List Char)
  | 0, _ => none
  | n + 1, cs =>
    match skipWs cs with
    | [] => none
    | c :: r =>
      if c = ',' then
        match item (skipWs r) with
        | none => none
        | some (a, r') => (parseTail item close n r').map fun (as, r'') => (a :: as, r'')
      else if c = close then some ([], r)
      else none

/-- `[ item *( value-separator item ) ] end`, after the opening character. -/
def parseSequence {α : Type} (item : List Char → Option (α × List Char)) (close : Char)
    (n : Nat) (cs : List Char) : Option (List α × List Char) :=
  match skipWs cs with
  | [] => none
  | c :: r =>
    if c = close then some ([], r)
    else
      match item (c :: r) with
      | none => none
      | some (a, r') => (parseTail item close n r').map fun (as, r'') => (a :: as, r'')

/-- `member = string name-separator value`. -/
def parseMember (value : List Char → Option (Json × List Char)) :
    List Char → Option ((String × Json) × List Char)
  | [] => none
  | c :: cs =>
    if c = '"' then
      match parseChars cs with
      | none => none
      | some (key, r) =>
        match skipWs r with
        | c' :: r' =>
          if c' = ':' then (value (skipWs r')).map fun (v, rest) => ((⟨key⟩, v), rest) else none
        | [] => none
    else none

/-- `value = false / null / true / object / array / number / string`, from its first
character. `fuel` bounds the nesting, and the number of items of each array and object. -/
def parseValue : Nat → List Char → Option (Json × List Char)
  | 0, _ => none
  | _ + 1, [] => none
  | fuel + 1, c :: cs =>
    if c = '\x7b' then
      (parseSequence (parseMember (parseValue fuel)) '\x7d' fuel cs).map fun (ms, r) =>
        (.object ms, r)
    else if c = '[' then
      (parseSequence (parseValue fuel) ']' fuel cs).map fun (vs, r) => (.array vs, r)
    else if c = '"' then (parseChars cs).map fun (s, r) => (.string ⟨s⟩, r)
    else if c = 't' then parseWord "rue".toList (.bool true) cs
    else if c = 'f' then parseWord "alse".toList (.bool false) cs
    else if c = 'n' then parseWord "ull".toList .null cs
    else (parseNumber (c :: cs)).map fun (n, r) => (.number n, r)

/-- `JSON-text = ws value ws`, read with as much fuel as the text has characters. -/
def parseJson (text : List Char) : Option Json :=
  match parseValue text.length (skipWs text) with
  | some (v, rest) => if skipWs rest = [] then some v else none
  | none => none

/-! ### Numbers read back -/

theorem digitChar_facts : ∀ m, m < 10 → (Nat.digitChar m).isDigit = true ∧
    digitValue (Nat.digitChar m) = m ∧ (Nat.digitChar m = '0' → m = 0) := by
  decide

theorem digitsValue_append_singleton (ds : List Char) (c : Char) :
    digitsValue (ds ++ [c]) = 10 * digitsValue ds + digitValue c := by
  simp [digitsValue, List.foldl_append]

/-- `Nat.toDigits` in base 10 writes a run of digits with no leading zero whose value is the
number. -/
theorem toDigitsCore_ten : ∀ (fuel n : Nat) (acc : List Char), n < fuel →
    ∃ d ds, Nat.toDigitsCore 10 fuel n acc = d :: ds ++ acc ∧
      (∀ c ∈ d :: ds, c.isDigit = true) ∧ digitsValue (d :: ds) = n ∧ (d = '0' → n = 0 ∧ ds = [])
  | 0, _, _, below => absurd below (Nat.not_lt_zero _)
  | fuel + 1, n, acc, below => by
    obtain ⟨isDigit, value, zero⟩ := digitChar_facts (n % 10) (Nat.mod_lt _ (by decide))
    rw [Nat.toDigitsCore]
    split
    · rename_i small
      have last : n % 10 = n := Nat.mod_eq_of_lt (by omega)
      refine ⟨_, [], rfl, by simpa using isDigit, ?_, fun h => ⟨last ▸ zero h, rfl⟩⟩
      simp only [digitsValue, List.foldl_cons, List.foldl_nil, Nat.mul_zero, Nat.zero_add]
      exact value.trans last
    · rename_i big
      obtain ⟨d, ds, eq, digits, val, lead⟩ := toDigitsCore_ten fuel (n / 10) _ (by omega)
      refine ⟨d, ds ++ [Nat.digitChar (n % 10)], by rw [eq]; simp, ?_, ?_,
        fun h => absurd (lead h).1 big⟩
      · intro c mem
        rw [← List.cons_append, List.mem_append, List.mem_singleton] at mem
        rcases mem with mem | rfl
        exacts [digits c mem, isDigit]
      · rw [← List.cons_append, digitsValue_append_singleton, val, value]
        omega

theorem decimal_digits (n : Nat) :
    ∃ d ds, decimal n = d :: ds ∧ (∀ c ∈ d :: ds, c.isDigit = true) ∧
      digitsValue (d :: ds) = n ∧ (d = '0' → n = 0 ∧ ds = []) := by
  obtain ⟨d, ds, eq, rest⟩ := toDigitsCore_ten (n + 1) n [] (Nat.lt_succ_self n)
  exact ⟨d, ds, by rw [List.append_nil] at eq; exact eq, rest⟩

theorem takeDigits_append {ds : List Char} (digits : ∀ c ∈ ds, c.isDigit = true) {c : Char}
    (stop : c.isDigit = false) (r : List Char) : takeDigits (ds ++ c :: r) = (ds, c :: r) := by
  induction ds with
  | nil => simp [takeDigits, stop]
  | cons d ds ih =>
    simp [takeDigits, digits d (List.mem_cons_self _ _),
      ih fun c mem => digits c (List.mem_cons_of_mem _ mem)]

/-- What may follow a number for it to end there: not a digit, `.`, `e` or `E`. -/
def EndsNumber (c : Char) : Prop := c.isDigit = false ∧ c ≠ '.' ∧ c ≠ 'e' ∧ c ≠ 'E'

instance : DecidablePred EndsNumber := fun _ => inferInstanceAs (Decidable (_ ∧ _ ∧ _ ∧ _))

/-- A number `operator<<` writes reads back as the same integer. -/
theorem parseNumber_decimal (n : Nat) {c : Char} (stop : EndsNumber c) (r : List Char) :
    parseNumber (decimal n ++ c :: r) = some (.ofNat n, c :: r) := by
  obtain ⟨d, ds, eq, digits, value, lead⟩ := decimal_digits n
  obtain ⟨notDigit, notDot, notE, notE'⟩ := stop
  have first := digits d (List.mem_cons_self _ _)
  have notMinus : d ≠ '-' := by rintro rfl; exact absurd first (by decide)
  have int : parseInt (d :: (ds ++ c :: r)) = some (n, c :: r) := by
    by_cases zero : d = '0'
    · obtain ⟨rfl, rfl⟩ := lead zero
      subst zero
      rfl
    · simp only [parseInt, zero, if_false, first, if_true]
      rw [takeDigits_append (fun x mem => digits x (List.mem_cons_of_mem _ mem)) notDigit, value]
  rw [eq, List.cons_append, parseNumber, parseMinus, if_neg notMinus]
  simp [int, parseFrac, notDot, parseExp, notE, notE', JsonNumber.ofNat]

theorem skipWs_cons {c : Char} (solid : ¬ (c = ' ' ∨ c = '\t' ∨ c = '\n' ∨ c = '\r'))
    (r : List Char) : skipWs (c :: r) = c :: r := by
  rw [skipWs, if_neg solid]

theorem skipWs_decimal (n : Nat) (r : List Char) : skipWs (decimal n ++ r) = decimal n ++ r := by
  obtain ⟨d, ds, eq, digits, -⟩ := decimal_digits n
  have first := digits d (List.mem_cons_self _ _)
  rw [eq, List.cons_append, skipWs_cons]
  rintro (rfl | rfl | rfl | rfl) <;> exact absurd first (by decide)

/-- A number `operator<<` writes is read as a value: its first character is a digit, which
starts no other kind of value. -/
theorem parseValue_decimal (fuel n : Nat) {c : Char} (stop : EndsNumber c) (r : List Char) :
    parseValue (fuel + 1) (decimal n ++ c :: r) = some (.number (.ofNat n), c :: r) := by
  obtain ⟨d, ds, eq, digits, -⟩ := decimal_digits n
  have first := digits d (List.mem_cons_self _ _)
  have number := parseNumber_decimal n stop r
  rw [eq, List.cons_append] at number ⊢
  obtain ⟨brace, bracket, quote, t, f, n⟩ :
      d ≠ '\x7b' ∧ d ≠ '[' ∧ d ≠ '"' ∧ d ≠ 't' ∧ d ≠ 'f' ∧ d ≠ 'n' := by
    refine ⟨?_, ?_, ?_, ?_, ?_, ?_⟩ <;> rintro rfl <;> exact absurd first (by decide)
  rw [parseValue, if_neg brace, if_neg bracket, if_neg quote, if_neg t, if_neg f, if_neg n, number]
  rfl

/-! ### Strings, members and sequences read back -/

/-- A character that may stand unescaped in a string: not `"`, `\` or a control character. -/
def Unescaped (c : Char) : Prop := c ≠ '"' ∧ c ≠ '\\' ∧ 0x20 ≤ c.toNat

instance : DecidablePred Unescaped := fun _ => inferInstanceAs (Decidable (_ ∧ _ ∧ _))

/-- `parseChars` on a character that starts no escape, whatever follows it. -/
theorem parseChars_cons {c : Char} (notEscape : c ≠ '\\') (cs : List Char) :
    parseChars (c :: cs) = if c = '"' then some ([], cs) else if c.toNat < 0x20 then none
      else (parseChars cs).map fun (s, r) => (c :: s, r) := by
  rw [parseChars.eq_def]
  simp only [if_neg notEscape]

theorem parseChars_unescaped {cs : List Char} (plain : ∀ c ∈ cs, Unescaped c) (r : List Char) :
    parseChars (cs ++ '"' :: r) = some (cs, r) := by
  induction cs with
  | nil => rw [List.nil_append, parseChars_cons (by decide), if_pos rfl]
  | cons c cs ih =>
    obtain ⟨quote, backslash, printable⟩ := plain c (List.mem_cons_self _ _)
    rw [List.cons_append, parseChars_cons backslash, if_neg quote, if_neg (by omega),
      ih fun x mem => plain x (List.mem_cons_of_mem _ mem)]
    rfl

/-- A member whose name needs no escape reads as that name and the value after the `:`. -/
theorem parseMember_plain (value : List Char → Option (Json × List Char)) {key : String}
    (plain : ∀ c ∈ key.toList, Unescaped c) {text : List Char} (solid : skipWs text = text) :
    parseMember value ('"' :: (key.toList ++ '"' :: ':' :: text)) =
      (value text).map fun (v, r) => ((key, v), r) := by
  rw [parseMember, if_pos rfl, parseChars_unescaped plain]
  simp only [skipWs_cons (c := ':') (by decide), if_pos, solid]
  rfl

section Sequence

variable {α β : Type} (text : β → List Char)

/-- The items after the first, each after a `,`. -/
def afterCommas : List β → List Char
  | [] => []
  | x :: xs => ',' :: (text x ++ afterCommas xs)

variable {text} {item : List Char → Option (α × List Char)} {close : Char} {value : β → α}

theorem afterCommas_append_close (xs : List β) (r : List Char) :
    ∃ c r', afterCommas text xs ++ close :: r = c :: r' ∧ (c = ',' ∨ c = close) :=
  match xs with
  | [] => ⟨close, r, rfl, .inr rfl⟩
  | _ :: _ => ⟨',', _, rfl, .inl rfl⟩

/-- Items each read back by the item reader when a `,` or the closing character follows them,
written after commas, read back as the list of their values. -/
theorem parseTail_afterCommas (closeSolid : ∀ r, skipWs (close :: r) = close :: r)
    (closeComma : close ≠ ',') (solid : ∀ x r, skipWs (text x ++ r) = text x ++ r) :
    ∀ (xs : List β) (n : Nat) (r : List Char), xs.length < n →
      (∀ x ∈ xs, ∀ c r, (c = ',' ∨ c = close) → item (text x ++ c :: r) = some (value x, c :: r)) →
      parseTail item close n (afterCommas text xs ++ close :: r) = some (xs.map value, r)
  | _, 0, _, short, _ => absurd short (Nat.not_lt_zero _)
  | [], n + 1, r, _, _ => by simp [afterCommas, parseTail, closeSolid, closeComma]
  | x :: xs, n + 1, r, short, parsed => by
    obtain ⟨c, r', eq, sep⟩ := @afterCommas_append_close _ text close xs r
    have first := parsed x (List.mem_cons_self _ _) c r' sep
    rw [← eq] at first
    have rest := parseTail_afterCommas closeSolid closeComma solid xs n r
      (Nat.lt_of_succ_lt_succ short) fun y mem => parsed y (List.mem_cons_of_mem _ mem)
    simp [afterCommas, parseTail, skipWs_cons (c := ',') (by decide), solid, first, rest]

theorem parseSequence_close (closeSolid : ∀ r, skipWs (close :: r) = close :: r) (n : Nat)
    (r : List Char) : parseSequence item close n (close :: r) = some ([], r) := by
  simp [parseSequence, closeSolid]

/-- A first item and the items after commas, up to the closing character, read back as the list
of their values. -/
theorem parseSequence_afterCommas (closeSolid : ∀ r, skipWs (close :: r) = close :: r)
    (closeComma : close ≠ ',') (solid : ∀ x r, skipWs (text x ++ r) = text x ++ r)
    (x : β) (starts : ∃ c cs, text x = c :: cs ∧ c ≠ close) (xs : List β) (n : Nat)
    (short : xs.length < n)
    (parsed : ∀ y ∈ x :: xs, ∀ c r, (c = ',' ∨ c = close) →
      item (text y ++ c :: r) = some (value y, c :: r)) (r : List Char) :
    parseSequence item close n (text x ++ (afterCommas text xs ++ close :: r)) =
      some ((x :: xs).map value, r) := by
  obtain ⟨c, cs, eq, notClose⟩ := starts
  obtain ⟨c', r', after, sep⟩ := @afterCommas_append_close _ text close xs r
  have first := parsed x (List.mem_cons_self _ _) c' r' sep
  rw [← after, eq, List.cons_append] at first
  have rest := parseTail_afterCommas closeSolid closeComma solid xs n r short
    fun y mem => parsed y (List.mem_cons_of_mem _ mem)
  rw [parseSequence, solid, eq]
  simp [notClose, first, rest]

end Sequence

/-! ### Zones read back -/

/-- `"name":value`, as `Zone::EncodeJson` writes each field. -/
def memberText (m : String × Nat) : List Char := '"' :: (m.1.toList ++ '"' :: ':' :: decimal m.2)

/-- The fields `Zone::EncodeJson` writes, with their names, in its order. -/
def Zone.members (z : Zone) : List (String × Nat) :=
  [("start", z.start), ("capacity", z.capacity), ("max_capacity", z.maxCapacity), ("wp", z.wp),
    ("lifetime", z.lifetime.toNat), ("used_capacity", z.usedCapacity),
    ("reset_count", z.resetCount)]

theorem Zone.encodeJson_append (z : Zone) (r : List Char) :
    z.encodeJson ++ r = '\x7b' :: (memberText ("start", z.start) ++
      (afterCommas memberText z.members.tail ++ '\x7d' :: r)) := by
  simp only [Zone.encodeJson, memberText, afterCommas, Zone.members, List.append_assoc,
    List.tail_cons, List.cons_append, List.nil_append]
  rfl

theorem Zone.members_plain (z : Zone) : ∀ m ∈ z.members, ∀ c ∈ m.1.toList, Unescaped c := by
  have names : ∀ k ∈ z.members.map Prod.fst, ∀ c ∈ k.toList, Unescaped c := by
    show ∀ k ∈ ["start", "capacity", "max_capacity", "wp", "lifetime", "used_capacity",
      "reset_count"], ∀ c ∈ k.toList, Unescaped c
    decide
  exact fun m mem => names m.1 (List.mem_map_of_mem _ mem)

/-- A field reads back as its name and its integer when a `,` or the closing `}` follows. -/
theorem parseMember_memberText (fuel : Nat) {m : String × Nat}
    (plain : ∀ c ∈ m.1.toList, Unescaped c) {c : Char} (sep : c = ',' ∨ c = '\x7d')
    (r : List Char) :
    parseMember (parseValue (fuel + 1)) (memberText m ++ c :: r) =
      some ((m.1, .number (.ofNat m.2)), c :: r) := by
  have stop : EndsNumber c := by rcases sep with rfl | rfl <;> decide
  rw [memberText, List.cons_append, List.append_assoc, List.cons_append, List.cons_append,
    parseMember_plain _ plain (skipWs_decimal _ _), parseValue_decimal fuel m.2 stop r]
  rfl

/-- Modelled from the spec: a zone as a JSON object with exactly the keys `start`, `capacity`,
`max_capacity`, `wp`, `lifetime`, `used_capacity` and `reset_count`, in that order, whose integer
values are the zone's fields. -/
def Zone.toJson (z : Zone) : Json :=
  .object [("start", .number (.ofNat z.start)), ("capacity", .number (.ofNat z.capacity)),
    ("max_capacity", .number (.ofNat z.maxCapacity)), ("wp", .number (.ofNat z.wp)),
    ("lifetime", .number (.ofNat z.lifetime.toNat)),
    ("used_capacity", .number (.ofNat z.usedCapacity)),
    ("reset_count", .number (.ofNat z.resetCount))]

/-- What `Zone::EncodeJson` writes reads back as the zone's object, whatever follows it. -/
theorem parseValue_zone (fuel : Nat) (enough : 6 ≤ fuel) (z : Zone) (r : List Char) :
    parseValue (fuel + 2) (z.encodeJson ++ r) = some (z.toJson, r) := by
  rw [Zone.encodeJson_append, parseValue, if_pos rfl,
    parseSequence_afterCommas (skipWs_cons (by decide)) (by decide) (fun _ _ => rfl)
      ("start", z.start) ⟨_, _, rfl, by decide⟩ z.members.tail (fuel + 1)
      (by simp [Zone.members]; omega)
      (fun m mem _ _ sep => parseMember_memberText fuel (z.members_plain m mem) sep _) r]
  rfl

theorem Zone.encodeJson_cons (z : Zone) : ∃ cs, z.encodeJson = '\x7b' :: cs :=
  ⟨_, by simpa using z.encodeJson_append []⟩

theorem skipWs_encodeJson (z : Zone) (r : List Char) :
    skipWs (z.encodeJson ++ r) = z.encodeJson ++ r := by
  obtain ⟨cs, eq⟩ := z.encodeJson_cons
  rw [eq, List.cons_append, skipWs_cons (by decide)]

/-! ### Arrays of zones and the device read back -/

theorem encodeJsonZoneLoop_false (zones : List Zone) :
    encodeJsonZoneLoop false zones = afterCommas Zone.encodeJson zones := by
  induction zones with
  | nil => rfl
  | cons z zones ih => simp [encodeJsonZoneLoop, afterCommas, ih]

/-- What `EncodeJsonZone` writes reads back as the array of the zones' objects, in order. -/
theorem parseValue_encodeJsonZone (fuel : Nat) (enough : 6 ≤ fuel) (zones : List Zone)
    (short : zones.length ≤ fuel + 2) (r : List Char) :
    parseValue (fuel + 3) (encodeJsonZone zones ++ r) = some (.array (zones.map Zone.toJson), r) := by
  have closeSolid : ∀ r, skipWs (']' :: r) = ']' :: r := skipWs_cons (by decide)
  cases zones with
  | nil =>
    have text : encodeJsonZone [] ++ r = '[' :: ']' :: r := by
      simp [encodeJsonZone, encodeJsonZoneLoop]
    rw [text, parseValue, if_neg (by decide), if_pos rfl, parseSequence_close closeSolid]
    rfl
  | cons z zones =>
    obtain ⟨cs, eq⟩ := z.encodeJson_cons
    have text : encodeJsonZone (z :: zones) ++ r =
        '[' :: (z.encodeJson ++ (afterCommas Zone.encodeJson zones ++ ']' :: r)) := by
      simp [encodeJsonZone, encodeJsonZoneLoop, encodeJsonZoneLoop_false]
    rw [text, parseValue, if_neg (by decide), if_pos rfl,
      parseSequence_afterCommas closeSolid (by decide) skipWs_encodeJson z
        ⟨_, _, eq, by decide⟩ zones (fuel + 2) (by simp at short; omega)
        (fun y _ _ _ _ => parseValue_zone fuel enough y _) r]
    rfl

theorem length_le_encodeJsonZoneLoop (first : Bool) (zones : List Zone) :
    zones.length ≤ (encodeJsonZoneLoop first zones).length := by
  induction zones generalizing first with
  | nil => exact Nat.le_refl _
  | cons z zones ih =>
    obtain ⟨cs, eq⟩ := z.encodeJson_cons
    have rest := ih false
    simp only [encodeJsonZoneLoop, List.length_append, eq, List.length_cons, List.length]
    omega

theorem skipWs_encodeJsonZone (zones : List Zone) (r : List Char) :
    skipWs (encodeJsonZone zones ++ r) = encodeJsonZone zones ++ r := by
  have text : encodeJsonZone zones ++ r = '[' :: (encodeJsonZoneLoop true zones ++ ']' :: r) := by
    simp [encodeJsonZone]
  rw [text, skipWs_cons (by decide)]

/-- `"name":` and an array of zones, as `EncodeJson` writes each of its two members. -/
def zonesMemberText (m : String × List Zone) : List Char :=
  '"' :: (m.1.toList ++ '"' :: ':' :: encodeJsonZone m.2)

theorem Device.encodeJson_eq (d : Device) :
    d.encodeJson = '\x7b' :: (zonesMemberText ("meta", d.metaZones) ++
      (afterCommas zonesMemberText [("io", d.ioZones)] ++ ['\x7d'])) := by
  simp [Device.encodeJson, zonesMemberText, afterCommas]

theorem Device.length_encodeJson (d : Device) :
    d.encodeJson.length =
      19 + (encodeJsonZoneLoop true d.metaZones).length + (encodeJsonZoneLoop true d.ioZones).length := by
  simp [Device.encodeJson, encodeJsonZone]
  omega

theorem parseMember_zonesMemberText (fuel : Nat) (enough : 6 ≤ fuel) {m : String × List Zone}
    (plain : ∀ c ∈ m.1.toList, Unescaped c) (short : m.2.length ≤ fuel + 2) (r : List Char) :
    parseMember (parseValue (fuel + 3)) (zonesMemberText m ++ r) =
      some ((m.1, .array (m.2.map Zone.toJson)), r) := by
  rw [zonesMemberText, List.cons_append, List.append_assoc, List.cons_append, List.cons_append,
    parseMember_plain _ plain (skipWs_encodeJsonZone _ _), parseValue_encodeJsonZone fuel enough _ short r]
  rfl

/-- Modelled from the spec: the device as a JSON object with exactly the keys `meta` and `io`,
whose values are arrays of the objects of the meta and the io zones, in the order of
`meta_zones` and `io_zones`. -/
def Device.toJson (d : Device) : Json :=
  .object [("meta", .array (d.metaZones.map Zone.toJson)), ("io", .array (d.ioZones.map Zone.toJson))]

theorem parseValue_encodeJson (fuel : Nat) (enough : 6 ≤ fuel) (d : Device)
    (metaShort : d.metaZones.length ≤ fuel + 2) (ioShort : d.ioZones.length ≤ fuel + 2) :
    parseValue (fuel + 4) d.encodeJson = some (d.toJson, []) := by
  have names : ∀ k ∈ ["meta", "io"], ∀ c ∈ k.toList, Unescaped c := by decide
  have parsed : ∀ y ∈ [("meta", d.metaZones), ("io", d.ioZones)], ∀ c r, (c = ',' ∨ c = '\x7d') →
      parseMember (parseValue (fuel + 3)) (zonesMemberText y ++ c :: r) =
        some ((y.1, .array (y.2.map Zone.toJson)), c :: r) := by
    intro y mem c r _
    simp only [List.mem_cons, List.mem_singleton, List.not_mem_nil, or_false] at mem
    rcases mem with rfl | rfl
    exacts [parseMember_zonesMemberText fuel enough (names _ (by simp)) metaShort _,
      parseMember_zonesMemberText fuel enough (names _ (by simp)) ioShort _]
  rw [Device.encodeJson_eq, parseValue, if_pos rfl,
    parseSequence_afterCommas (skipWs_cons (by decide)) (by decide) (fun _ _ => rfl)
      ("meta", d.metaZones) ⟨_, _, rfl, by decide⟩ [("io", d.ioZones)] (fuel + 3)
      (by simp only [List.length_singleton]; omega) parsed []]
  rfl

theorem parseJson_encodeJson (d : Device) : parseJson d.encodeJson = some d.toJson := by
  have length := d.length_encodeJson
  have metaLong := length_le_encodeJsonZoneLoop true d.metaZones
  have ioLong := length_le_encodeJsonZoneLoop true d.ioZones
  obtain ⟨fuel, long⟩ : ∃ fuel, d.encodeJson.length = fuel + 4 := ⟨d.encodeJson.length - 4, by omega⟩
  have solid : skipWs d.encodeJson = d.encodeJson := by
    rw [Device.encodeJson_eq, skipWs_cons (by decide)]
  rw [parseJson, solid, long, parseValue_encodeJson fuel (by omega) d (by omega) (by omega)]
  rfl

/-! ### Decoding the fields -/

/-- Modelled from the spec: the seven scalar fields of a zone that `EncodeJson` writes. -/
structure ZoneFields where
  start : Nat
  capacity : Nat
  maxCapacity : Nat
  wp : Nat
  lifetime : WriteLifeTimeHint
  usedCapacity : Nat
  resetCount : Nat
  deriving DecidableEq, Repr

/-- Modelled from the spec: a zone's seven scalar fields. -/
def Zone.fields (z : Zone) : ZoneFields :=
  ⟨z.start, z.capacity, z.maxCapacity, z.wp, z.lifetime, z.usedCapacity, z.resetCount⟩

/-- Modelled from the spec: the value of an object's member, by its name. -/
def Json.field? : Json → String → Option Json
  | .object members, name => members.lookup name
  | _, _ => none

/-- Modelled from the spec: a number with no sign, fraction or exponent, as a natural number. -/
def Json.nat? : Json → Option Nat
  | .number n =>
    if n.negative = false ∧ n.fraction = [] ∧ n.exponent = 0 then some n.integer else none
  | _ => none

/-- Modelled from the spec: the hint an unscoped enumeration's value stands for. -/
def WriteLifeTimeHint.ofNat? : Nat → Option WriteLifeTimeHint
  | 0 => some .wlthNotSet
  | 1 => some .wlthNone
  | 2 => some .wlthShort
  | 3 => some .wlthMedium
  | 4 => some .wlthLong
  | 5 => some .wlthExtreme
  | _ => none

/-- Modelled from the spec: the seven fields read back from a zone's object. -/
def decodeZone (j : Json) : Option ZoneFields := do
  let field (name : String) : Option Nat := (j.field? name).bind Json.nat?
  let lifetime ← (field "lifetime").bind WriteLifeTimeHint.ofNat?
  return ⟨← field "start", ← field "capacity", ← field "max_capacity", ← field "wp", lifetime,
    ← field "used_capacity", ← field "reset_count"⟩

/-- Modelled from the spec: the fields of the meta and of the io zones read back from the
device's object. -/
def decodeDevice (j : Json) : Option (List ZoneFields × List ZoneFields) :=
  match j.field? "meta", j.field? "io" with
  | some (.array metaZones), some (.array ioZones) =>
    (metaZones.mapM decodeZone).bind fun m => (ioZones.mapM decodeZone).map fun i => (m, i)
  | _, _ => none

theorem decodeZone_toJson (z : Zone) : decodeZone z.toJson = some z.fields := by
  cases z with
  | mk start maxCapacity wp capacity usedCapacity lifetime resetCount busy =>
    cases lifetime <;> rfl

theorem mapM_decodeZone (zones : List Zone) :
    (zones.map Zone.toJson).mapM decodeZone = some (zones.map Zone.fields) := by
  induction zones with
  | nil => rfl
  | cons z zones ih => rw [List.map_cons, List.mapM_cons, decodeZone_toJson, ih]; rfl

theorem decodeDevice_toJson (d : Device) :
    decodeDevice d.toJson = some (d.metaZones.map Zone.fields, d.ioZones.map Zone.fields) := by
  show ((d.metaZones.map Zone.toJson).mapM decodeZone).bind
    (fun m => ((d.ioZones.map Zone.toJson).mapM decodeZone).map fun i => (m, i)) = _
  rw [mapM_decodeZone, mapM_decodeZone]
  rfl

/-- The text `EncodeJson` writes is JSON: an object with exactly the keys `meta` and `io`, whose
arrays hold, in order, one object per zone with exactly its seven fields as integers; so decoding
it gives back every field of every zone. -/
theorem encodeJson_round_trip (d : Device) :
    parseJson d.encodeJson = some d.toJson ∧
      (parseJson d.encodeJson).bind decodeDevice =
        some (d.metaZones.map Zone.fields, d.ioZones.map Zone.fields) := by
  have parsed := parseJson_encodeJson d
  exact ⟨parsed, by rw [parsed]; exact decodeDevice_toJson d⟩

end ZenFS
