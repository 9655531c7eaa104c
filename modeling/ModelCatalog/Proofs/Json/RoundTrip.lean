import ModelCatalog.Json.Decode
import ModelCatalog.Proofs.Decimal.Digits
import ModelCatalog.Proofs.Text.Words

/-!
Written JSON text reads back as the value that was written. Numbers with a fraction are left out;
whole numbers have to be within the range of signed or unsigned words.
-/

namespace ModelCatalog

namespace Json

def Ends (rest : List Char) : Prop := ∀ c ∈ rest.head?, c = ',' ∨ c = ']' ∨ c = '}'

theorem ends_nil : Ends [] := by simp [Ends]

theorem Ends.takeWhile {digits rest : List Char} (ends : Ends rest)
    (all : ∀ c ∈ digits, c.isDigit = true) :
    (digits ++ rest).takeWhile Char.isDigit = digits ∧
      (digits ++ rest).dropWhile Char.isDigit = rest := by
  have stops : rest.takeWhile Char.isDigit = [] ∧ rest.dropWhile Char.isDigit = rest := by
    cases rest with
    | nil => exact ⟨rfl, rfl⟩
    | cons c tail =>
      have other : c.isDigit = false := by
        rcases ends c rfl with rfl | rfl | rfl <;> decide
      simp [other]
  rw [List.takeWhile_append_of_pos all, List.dropWhile_append_of_pos all, stops.1, stops.2]
  simp

/-! Numbers. -/

theorem readWhole_digits (n : Nat) {rest : List Char} (ends : Ends rest) :
    readWhole (Decimal.digits n ++ rest) = some (Decimal.digits n, rest) := by
  by_cases zero : n = 0
  · subst zero
    rfl
  · obtain ⟨first, last, split, nonzero⟩ := Decimal.digits_pos (Nat.pos_of_ne_zero zero)
    obtain ⟨taken, dropped⟩ := ends.takeWhile (fun c => Decimal.digits_isDigit (n := n) (c := c))
    rw [split] at taken dropped ⊢
    rw [List.cons_append] at taken dropped ⊢
    unfold readWhole
    split
    next same => exact absurd (List.cons.inj same).1 nonzero
    next => simp [taken, dropped]

theorem readFraction_end {rest : List Char} (ends : Ends rest) :
    readFraction rest = some (none, rest) := by
  cases rest with
  | nil => rfl
  | cons c tail => rcases ends c rfl with rfl | rfl | rfl <;> rfl

theorem readExponent_end {rest : List Char} (ends : Ends rest) :
    readExponent rest = some (none, rest) := by
  cases rest with
  | nil => rfl
  | cons c tail => rcases ends c rfl with rfl | rfl | rfl <;> rfl

def FitsWord (n : Int) : Prop := Int64.minValue.toInt ≤ n ∧ n < UInt64.size

theorem numberOf_whole (strict negative : Bool) (n : Nat) {value : Int}
    (signed : (if negative then -(n : Int) else n) = value) (fits : FitsWord value)
    (nonzero : negative = true → value ≠ 0) :
    numberOf strict negative (Decimal.digits n) none none = some (.int value) := by
  have exact : (!(negative && value == 0)) = true := by
    cases negative with
    | false => rfl
    | true => simpa using nonzero rfl
  have inRange : decide (Int64.minValue.toInt ≤ value ∧ value < UInt64.size) = true :=
    decide_eq_true fits
  rw [numberOf, Decimal.ofDigits_digits, signed]
  simp only [inRange, exact, Option.isNone_none, Bool.and_self, if_true]

theorem readNumber_negative (strict : Bool) {text whole rest : List Char}
    (read : readWhole text = some (whole, rest)) (ends : Ends rest) :
    readNumber strict ('-' :: text) =
      (numberOf strict true whole none none).map fun value => (value, rest) := by
  unfold readNumber
  simp only [read, readFraction_end ends, readExponent_end ends, Option.bind_eq_bind,
    Option.bind_some]
  cases numberOf strict true whole none none <;> rfl

theorem readNumber_unsigned (strict : Bool) {text whole rest : List Char}
    (unsigned : ∀ tail, text ≠ '-' :: tail) (read : readWhole text = some (whole, rest))
    (ends : Ends rest) : readNumber strict text =
      (numberOf strict false whole none none).map fun value => (value, rest) := by
  unfold readNumber
  split
  next negative unread heq =>
    split at heq
    next tail => exact absurd rfl (unsigned tail)
    next =>
      obtain ⟨rfl, rfl⟩ := Prod.mk.inj heq
      simp only [read, Option.bind_eq_bind]
      rw [Option.bind_some]
      simp only [readFraction_end ends]
      rw [Option.bind_some]
      simp only [readExponent_end ends]
      rw [Option.bind_some]
      cases numberOf strict false whole none none <;> rfl

theorem digits_unsigned (n : Nat) (rest tail : List Char) :
    Decimal.digits n ++ rest ≠ '-' :: tail := by
  obtain ⟨first, last, split⟩ := List.exists_cons_of_ne_nil (Decimal.digits_ne_nil n)
  have isDigit : first.isDigit = true := Decimal.digits_isDigit (n := n) (by simp [split])
  rw [split, List.cons_append]
  intro same
  rw [(List.cons.inj same).1] at isDigit
  exact absurd isDigit (by decide)

theorem readNumber_signedDigits (strict : Bool) {n : Int} (fits : FitsWord n) {rest : List Char}
    (ends : Ends rest) :
    readNumber strict (Decimal.signedDigits n ++ rest) = some (.int n, rest) := by
  by_cases negative : n < 0
  · have number := readNumber_negative strict (readWhole_digits n.natAbs ends) ends
    have value : (if true then -((n.natAbs : Nat) : Int) else n.natAbs) = n := by
      rw [if_pos rfl]
      omega
    rw [numberOf_whole strict true n.natAbs value fits (fun _ => Int.ne_of_lt negative)] at number
    rw [Decimal.signedDigits, if_pos negative]
    exact number
  · have number := readNumber_unsigned strict (digits_unsigned n.natAbs rest)
      (readWhole_digits n.natAbs ends) ends
    have value : (if false then -((n.natAbs : Nat) : Int) else n.natAbs) = n := by
      rw [if_neg Bool.false_ne_true]
      omega
    rw [numberOf_whole strict false n.natAbs value fits nofun] at number
    rw [Decimal.signedDigits, if_neg negative]
    exact number

/-! Texts. -/

theorem hexValue_hexDigit {n : Nat} (small : n < 16) : Text.hexValue? (hexDigit n) = some n :=
  (show ∀ n < 16, Text.hexValue? (hexDigit n) = some n by decide) n small

theorem unit_control {n : Nat} (control : n < 32) :
    unit? '0' '0' (hexDigit (n / 16)) (hexDigit (n % 16)) = some n := by
  have zero : Text.hexValue? '0' = some 0 := by decide
  have high : Text.hexValue? (hexDigit (n / 16)) = some (n / 16) := hexValue_hexDigit (by omega)
  have low : Text.hexValue? (hexDigit (n % 16)) = some (n % 16) := hexValue_hexDigit (by omega)
  have whole : ((0 * 16 + 0) * 16 + n / 16) * 16 + n % 16 = n := by omega
  simp only [unit?, zero, high, low, Option.bind_eq_bind, Option.bind_some, whole]
  rfl

theorem readUnits_letter {letter : Char} {unit : Nat} (escaped : escape? letter = some unit)
    (text : List Char) : readUnits ('\\' :: letter :: text) =
      (readUnits text).map fun read => (unit :: read.1, read.2) := by
  have differ : letter ≠ 'u' := by
    intro same
    subst same
    cases escaped
  rw [readUnits]
  · rw [escaped]
    cases readUnits text <;> rfl
  · intro a b c d rest same
    exact absurd same differ

theorem readUnits_plain {c : Char} (visible : 32 ≤ c.toNat) (notQuote : c ≠ '"')
    (notSlash : c ≠ '\\') (text : List Char) : readUnits (c :: text) =
      (readUnits text).map fun read => (c.toNat :: read.1, read.2) := by
  have kept : (decide (c.toNat < 32) || c == '\\') = false := by
    simp [notSlash, visible]
  rw [readUnits]
  · rw [kept]
    cases readUnits text <;> rfl
  · exact notQuote
  · intro a b c d rest same
    exact absurd same notSlash
  · intro rest c same
    exact absurd same notSlash

theorem escapeChar_cases (c : Char) :
    (∃ letter, escape? letter = some c.toNat ∧ escapeChar c = ['\\', letter]) ∨
      (c.toNat < 32 ∧ escapeChar c =
        ['\\', 'u', '0', '0', hexDigit (c.toNat / 16), hexDigit (c.toNat % 16)]) ∨
      (32 ≤ c.toNat ∧ c ≠ '"' ∧ c ≠ '\\' ∧ escapeChar c = [c]) := by
  unfold escapeChar
  split
  next same => exact Or.inl ⟨'"', by rw [same]; rfl, rfl⟩
  split
  next same => exact Or.inl ⟨'\\', by rw [same]; rfl, rfl⟩
  split
  next code => exact Or.inl ⟨'b', by rw [code]; rfl, rfl⟩
  split
  next code => exact Or.inl ⟨'t', by rw [code]; rfl, rfl⟩
  split
  next code => exact Or.inl ⟨'n', by rw [code]; rfl, rfl⟩
  split
  next code => exact Or.inl ⟨'f', by rw [code]; rfl, rfl⟩
  split
  next code => exact Or.inl ⟨'r', by rw [code]; rfl, rfl⟩
  split
  next control => exact Or.inr (Or.inl ⟨control, rfl⟩)
  next notQuote notSlash _ _ _ _ _ visible =>
    exact Or.inr (Or.inr ⟨Nat.le_of_not_lt visible, notQuote, notSlash, rfl⟩)

theorem readUnits_escapeChar (c : Char) (text : List Char) :
    readUnits (escapeChar c ++ text) =
      (readUnits text).map fun read => (c.toNat :: read.1, read.2) := by
  rcases escapeChar_cases c with ⟨letter, escaped, same⟩ | ⟨control, same⟩ |
    ⟨visible, notQuote, notSlash, same⟩
  · rw [same]
    exact readUnits_letter escaped text
  · rw [same]
    simp only [List.cons_append, List.nil_append, readUnits, unit_control control,
      Option.bind_eq_bind, Option.bind_some]
    cases readUnits text <;> rfl
  · rw [same]
    exact readUnits_plain visible notQuote notSlash text

theorem readUnits_escaped (text rest : List Char) :
    readUnits (text.flatMap escapeChar ++ '"' :: rest) = some (text.map Char.toNat, rest) := by
  induction text with
  | nil => rfl
  | cons c text ih =>
    rw [List.flatMap_cons, List.append_assoc, readUnits_escapeChar, ih]
    rfl

theorem toNat_not_surrogate (c : Char) :
    isHighSurrogate c.toNat = false ∧ isLowSurrogate c.toNat = false := by
  have valid := c.valid
  simp only [UInt32.isValidChar, Nat.isValidChar] at valid
  have same : c.toNat = c.val.toNat := rfl
  simp only [isHighSurrogate, isLowSurrogate, decide_eq_false_iff_not]
  omega

theorem joinUnits_toNat (strict : Bool) (text : List Char) :
    joinUnits strict (text.map Char.toNat) = some text := by
  induction text with
  | nil => rfl
  | cons c text ih =>
    obtain ⟨high, low⟩ := toNat_not_surrogate c
    cases text with
    | nil => simp [joinUnits, high, low]
    | cons d text =>
      simp only [List.map_cons] at ih ⊢
      rw [joinUnits, ih]
      simp [high, low]

theorem readText_writeText (strict : Bool) (text : String) (rest : List Char) :
    readText strict (text.toList.flatMap escapeChar ++ '"' :: rest) = some (text, rest) := by
  rw [readText, readUnits_escaped]
  simp only [Option.bind_eq_bind, Option.bind_some, joinUnits_toNat, String.ofList_toList]
  rfl

/-! Values. -/

/-- A value without fractions, all of whose numbers fit into words. -/
inductive Plain : Json → Prop
  | null : Plain .null
  | bool (value : Bool) : Plain (.bool value)
  | int {n : Int} (fits : FitsWord n) : Plain (.int n)
  | string (text : String) : Plain (.string text)
  | list {items : List Json} (plain : ∀ item ∈ items, Plain item) : Plain (.list items)
  | object {members : List (String × Json)} (plain : ∀ member ∈ members, Plain member.2) :
      Plain (.object members)

def Begins (c : Char) : Prop := isSpace c = false ∧ c ≠ ']' ∧ c ≠ '}'

instance (c : Char) : Decidable (Begins c) := inferInstanceAs (Decidable (_ ∧ _ ∧ _))

theorem signedDigits_head (n : Int) : ∃ c rest, Decimal.signedDigits n = c :: rest ∧
    (c = '-' ∨ c.isDigit = true) := by
  unfold Decimal.signedDigits
  split
  · exact ⟨'-', _, rfl, Or.inl rfl⟩
  · obtain ⟨first, last, split⟩ := List.exists_cons_of_ne_nil (Decimal.digits_ne_nil n.natAbs)
    have isDigit : first.isDigit = true := Decimal.digits_isDigit (n := n.natAbs) (by simp [split])
    exact ⟨first, last, split, Or.inr isDigit⟩

theorem numeral_ne {c d : Char} (numeral : c = '-' ∨ c.isDigit = true) (notMinus : d ≠ '-')
    (notDigit : d.isDigit = false) : c ≠ d := by
  intro equal
  subst equal
  rcases numeral with same | isDigit
  · exact notMinus same
  · rw [notDigit] at isDigit
    cases isDigit

theorem begins_numeral {c : Char} (numeral : c = '-' ∨ c.isDigit = true) : Begins c := by
  have other (d : Char) (notMinus : d ≠ '-') (notDigit : d.isDigit = false) : c ≠ d :=
    numeral_ne numeral notMinus notDigit
  refine ⟨?_, other ']' (by decide) (by decide), other '}' (by decide) (by decide)⟩
  simp [isSpace, other ' ' (by decide) (by decide), other '\t' (by decide) (by decide),
    other '\n' (by decide) (by decide), other '\r' (by decide) (by decide)]

theorem write_begins {value : Json} (plain : value.Plain) :
    ∃ c rest, value.write = c :: rest ∧ Begins c := by
  cases plain with
  | null => exact ⟨'n', _, rfl, by decide⟩
  | bool value =>
    cases value with
    | false => exact ⟨'f', _, rfl, by decide⟩
    | true => exact ⟨'t', _, rfl, by decide⟩
  | @int n fits =>
    obtain ⟨c, rest, head, numeral⟩ := signedDigits_head n
    exact ⟨c, rest, by rw [← head]; rfl, begins_numeral numeral⟩
  | string text => exact ⟨'"', _, rfl, by decide⟩
  | list _ => exact ⟨'[', _, rfl, by decide⟩
  | object _ => exact ⟨'{', _, rfl, by decide⟩

theorem skipSpace_cons {c : Char} (visible : isSpace c = false) (rest : List Char) :
    skipSpace (c :: rest) = c :: rest := by
  simp [skipSpace, visible]

theorem readValue_int (strict : Bool) (fuel : Nat) {n : Int} (fits : FitsWord n) {rest : List Char}
    (ends : Ends rest) : readValue strict (fuel + 1) (Decimal.signedDigits n ++ rest) =
      some (.int n, rest) := by
  have number := readNumber_signedDigits strict fits ends
  obtain ⟨c, tail, head, numeral⟩ := signedDigits_head n
  have visible := (begins_numeral numeral).1
  rw [head, List.cons_append] at number ⊢
  rw [readValue, skipSpace_cons visible]
  have other (d : Char) (notMinus : d ≠ '-') (notDigit : d.isDigit = false) : c ≠ d :=
    numeral_ne numeral notMinus notDigit
  split
  next same => exact absurd (List.cons.inj same).1 (other _ (by decide) (by decide))
  next same => exact absurd (List.cons.inj same).1 (other _ (by decide) (by decide))
  next same => exact absurd (List.cons.inj same).1 (other _ (by decide) (by decide))
  next same => exact absurd (List.cons.inj same).1 (other _ (by decide) (by decide))
  next same => exact absurd (List.cons.inj same).1 (other _ (by decide) (by decide))
  next same => exact absurd (List.cons.inj same).1 (other _ (by decide) (by decide))
  next => exact number

theorem writeItems_cons (item next : Json) (items : List Json) :
    writeItems (item :: next :: items) = item.write ++ ',' :: writeItems (next :: items) := rfl

theorem writeMembers_cons (key : String) (value : Json) (next : String × Json)
    (members : List (String × Json)) : writeMembers ((key, value) :: next :: members) =
      writeText key ++ ':' :: value.write ++ ',' :: writeMembers (next :: members) := rfl

theorem writeText_append (text : String) (rest : List Char) :
    writeText text ++ rest = '"' :: (text.toList.flatMap escapeChar ++ '"' :: rest) := by
  rw [writeText, List.cons_append, List.cons_append, List.append_assoc, List.singleton_append]

theorem writeItems_begins {item : Json} {items : List Json}
    (plain : ∀ value ∈ item :: items, value.Plain) :
    ∃ c rest, writeItems (item :: items) = c :: rest ∧ Begins c := by
  obtain ⟨c, rest, head, begins⟩ := write_begins (plain item (by simp))
  cases items with
  | nil => exact ⟨c, rest, head, begins⟩
  | cons next items =>
    exact ⟨c, rest ++ ',' :: writeItems (next :: items), by rw [writeItems_cons, head]; rfl, begins⟩

theorem writeMembers_begins (member : String × Json) (members : List (String × Json)) :
    ∃ rest, writeMembers (member :: members) = '"' :: rest := by
  cases members <;> exact ⟨_, rfl⟩

mutual

/-- A written value reads back, whatever ends it. -/
theorem readValue_write (strict : Bool) : (value : Json) → value.Plain → (fuel : Nat) →
    value.write.length ≤ fuel → (rest : List Char) → Ends rest →
    readValue strict fuel (value.write ++ rest) = some (value, rest)
  | value, plain, 0, enough, rest, _ => by
    obtain ⟨c, tail, head, _⟩ := write_begins plain
    rw [head] at enough
    cases enough
  | .null, _, fuel + 1, _, rest, _ => rfl
  | .bool true, _, fuel + 1, _, rest, _ => rfl
  | .bool false, _, fuel + 1, _, rest, _ => rfl
  | .int n, .int fits, fuel + 1, _, rest, ends => readValue_int strict fuel fits ends
  | .string text, _, fuel + 1, _, rest, _ => by
    have read := readText_writeText strict text rest
    rw [show write (.string text) = writeText text from rfl, writeText_append, readValue,
      skipSpace_cons (by decide)]
    simp only [read, Option.bind_eq_bind, Option.bind_some]
    rfl
  | .list [], _, fuel + 1, _, rest, _ => rfl
  | .list (item :: items), .list plain, fuel + 1, enough, rest, _ => by
    obtain ⟨c, tail, head, visible, notClosing, _⟩ := writeItems_begins plain
    have length : (writeItems (item :: items)).length + 1 ≤ fuel := by
      simp only [write, List.length_append, List.length_cons, List.length_nil] at enough
      omega
    have read := readItems_write strict (item :: items) plain (by simp) fuel length rest
    rw [write, List.cons_append, List.cons_append, List.append_assoc, List.singleton_append,
      readValue, skipSpace_cons (by decide)]
    simp only
    rw [head, List.cons_append] at read ⊢
    rw [skipSpace_cons visible]
    split
    next same => exact absurd (List.cons.inj same).1 notClosing
    next =>
      rw [read]
      rfl
  | .object [], _, fuel + 1, _, rest, _ => rfl
  | .object (member :: members), .object plain, fuel + 1, enough, rest, _ => by
    obtain ⟨tail, head⟩ := writeMembers_begins member members
    have length : (writeMembers (member :: members)).length + 1 ≤ fuel := by
      simp only [write, List.length_append, List.length_cons, List.length_nil] at enough
      omega
    have read := readMembers_write (fun _ => strict) strict (member :: members) plain (by simp)
      fuel length rest
    rw [write, List.cons_append, List.cons_append, List.append_assoc, List.singleton_append,
      readValue, skipSpace_cons (by decide)]
    simp only
    rw [head, List.cons_append] at read ⊢
    rw [skipSpace_cons (by decide)]
    split
    next same => exact absurd (List.cons.inj same).1 (by decide)
    next =>
      rw [read]
      rfl

theorem readItems_write (strict : Bool) : (items : List Json) → (∀ item ∈ items, item.Plain) →
    items ≠ [] → (fuel : Nat) → (writeItems items).length + 1 ≤ fuel → (rest : List Char) →
    readItems strict fuel (writeItems items ++ ']' :: rest) = some (items, rest)
  | [item], plain, _, fuel + 1, enough, rest => by
    have read := readValue_write strict item (plain item (by simp)) fuel (by
      simp only [writeItems] at enough
      omega) (']' :: rest) (by simp [Ends])
    rw [writeItems, readItems, read]
    rfl
  | item :: next :: items, plain, _, fuel + 1, enough, rest => by
    simp only [writeItems_cons, List.length_append, List.length_cons] at enough
    have read := readValue_write strict item (plain item (by simp)) fuel (by omega)
      (',' :: (writeItems (next :: items) ++ ']' :: rest)) (by simp [Ends])
    have readNext := readItems_write strict (next :: items)
      (fun item member => plain item (List.mem_cons_of_mem _ member)) (by simp) fuel (by omega) rest
    rw [writeItems_cons, List.append_assoc, List.cons_append, readItems, read]
    simp only [Option.bind_eq_bind, Option.bind_some, skipSpace_cons (show isSpace ',' = false by decide),
      readNext]
    rfl

theorem readMembers_write (matters : String → Bool) (strict : Bool) :
    (members : List (String × Json)) → (∀ member ∈ members, member.2.Plain) → members ≠ [] →
    (fuel : Nat) → (writeMembers members).length + 1 ≤ fuel → (rest : List Char) →
    readMembersFrom matters strict fuel (writeMembers members ++ '}' :: rest) =
      some (members, rest)
  | [(key, value)], plain, _, fuel + 1, enough, rest => by
    simp only [writeMembers, List.length_append, List.length_cons] at enough
    have keyRead := readText_writeText strict key (':' :: (value.write ++ '}' :: rest))
    have read := readValue_write (matters key) value (plain (key, value) (by simp)) fuel (by omega)
      ('}' :: rest) (by simp [Ends])
    rw [writeMembers, List.append_assoc, List.cons_append, writeText_append, readMembersFrom,
      skipSpace_cons (by decide)]
    simp only [keyRead, Option.bind_eq_bind, Option.bind_some, read,
      skipSpace_cons (show isSpace ':' = false by decide)]
    rfl
  | (key, value) :: next :: members, plain, _, fuel + 1, enough, rest => by
    simp only [writeMembers_cons, List.length_append, List.length_cons] at enough
    have keyRead := readText_writeText strict key
      (':' :: (value.write ++ ',' :: (writeMembers (next :: members) ++ '}' :: rest)))
    have read := readValue_write (matters key) value (plain (key, value) (by simp)) fuel (by omega)
      (',' :: (writeMembers (next :: members) ++ '}' :: rest)) (by simp [Ends])
    have readNext := readMembers_write matters strict (next :: members)
      (fun member inRest => plain member (List.mem_cons_of_mem _ inRest)) (by simp) fuel (by omega)
      rest
    rw [writeMembers_cons, List.append_assoc, List.append_assoc, List.cons_append,
      List.cons_append, writeText_append, readMembersFrom, skipSpace_cons (by decide)]
    simp only [keyRead, Option.bind_eq_bind, Option.bind_some, read, readNext,
      skipSpace_cons (show isSpace ':' = false by decide),
      skipSpace_cons (show isSpace ',' = false by decide)]
    rfl

end

theorem read_compact {value : Json} (plain : value.Plain) : read value.compact = some value := by
  have enough : value.write.length ≤ fuelFor value.write := by
    rw [fuelFor]
    omega
  have whole := readValue_write true value plain (fuelFor value.write) enough [] ends_nil
  rw [List.append_nil] at whole
  rw [read, compact, String.toList_ofList, whole]
  rfl

theorem readMembers_compact (matters : String → Bool) {members : List (String × Json)}
    (plain : ∀ member ∈ members, member.2.Plain) :
    readMembers matters (object members).write = some members := by
  cases members with
  | nil => rfl
  | cons member members =>
    obtain ⟨tail, head⟩ := writeMembers_begins member members
    have text : (object (member :: members)).write =
        '{' :: (writeMembers (member :: members) ++ ['}']) := rfl
    have enough : (writeMembers (member :: members)).length + 1 ≤
        fuelFor (writeMembers (member :: members) ++ ['}']) := by
      simp only [fuelFor, List.length_append, List.length_singleton]
      omega
    have whole := readMembers_write matters true (member :: members) plain (by simp) _ enough []
    rw [text, readMembers, skipSpace_cons (by decide)]
    rw [head, List.cons_append] at whole ⊢
    simp only [skipSpace_cons (show isSpace '"' = false by decide)]
    split
    next same => exact absurd (List.cons.inj same).1 (by decide)
    next =>
      rw [whole]
      rfl

/-- An object that was written reads back field by field, whatever fields are asked for. -/
theorem readFields_compact (names : List String) {members : List (String × Json)}
    (plain : ∀ member ∈ members, member.2.Plain) :
    readFields names (object members).compact = some members := by
  have read := readMembers_compact names.contains plain
  have text : (object members).write = '{' :: (writeMembers members ++ ['}']) := rfl
  rw [readFields, compact, String.toList_ofList]
  rw [text] at read ⊢
  rw [skipSpace_cons (by decide)]
  exact read

theorem trim_object (members : List (String × Json)) :
    Text.trim (object members).write = (object members).write := by
  have text : (object members).write = '{' :: (writeMembers members ++ ['}']) := rfl
  apply Text.trim_eq_self
  · intro c first
    obtain rfl : '{' = c := Option.some.inj first
    decide
  · intro c final
    rw [text, ← List.cons_append, List.getLast?_concat] at final
    obtain rfl : '}' = c := Option.some.inj final
    decide

theorem write_object_ne_nil (members : List (String × Json)) : (object members).write ≠ [] := by
  simp [write]

/-! A text has no line feeds: they are escaped. -/

theorem newline_not_mem_hex {n : Nat} (small : n < 16) : hexDigit n ≠ '\n' :=
  (show ∀ n < 16, hexDigit n ≠ '\n' by decide) n small

theorem newline_not_mem_escapeChar (c : Char) : '\n' ∉ escapeChar c := by
  rcases escapeChar_cases c with ⟨letter, escaped, same⟩ | ⟨control, same⟩ | ⟨visible, _, _, same⟩
  · have differ : '\n' ≠ letter := by
      intro newline
      subst newline
      cases escaped
    simp [same, differ]
  · have high := newline_not_mem_hex (n := c.toNat / 16) (by omega)
    have low := newline_not_mem_hex (n := c.toNat % 16) (by omega)
    simp [same, Ne.symm high, Ne.symm low]
  · rw [same, List.mem_singleton]
    intro newline
    subst newline
    exact absurd visible (by decide)

theorem newline_not_mem_writeText (text : String) : '\n' ∉ writeText text := by
  intro inText
  rw [writeText, List.cons_append, List.mem_cons, List.mem_append, List.mem_flatMap] at inText
  rcases inText with quote | ⟨c, _, escaped⟩ | quote
  · exact absurd quote (by decide)
  · exact newline_not_mem_escapeChar c escaped
  · exact absurd quote (by decide)

theorem newline_not_mem_signedDigits (n : Int) : '\n' ∉ Decimal.signedDigits n := by
  have digits (n : Nat) : '\n' ∉ Decimal.digits n := fun inDigits =>
    absurd (Decimal.digits_isDigit inDigits) (by decide)
  unfold Decimal.signedDigits
  split
  · rw [List.mem_cons]
    intro member
    rcases member with minus | inDigits
    · exact absurd minus (by decide)
    · exact digits _ inDigits
  · exact digits _

theorem newline_not_mem_writeItems : (items : List Json) → (∀ item ∈ items, '\n' ∉ item.write) →
    '\n' ∉ writeItems items
  | [], _ => by simp [writeItems]
  | [item], free => free item (by simp)
  | item :: next :: items, free => by
    have rest := newline_not_mem_writeItems (next :: items)
      fun found member => free found (List.mem_cons_of_mem _ member)
    simp [writeItems_cons, free item, rest]

theorem newline_not_mem_writeMembers : (members : List (String × Json)) →
    (∀ member ∈ members, '\n' ∉ member.2.write) → '\n' ∉ writeMembers members
  | [], _ => by simp [writeMembers]
  | [(key, value)], free => by
    simp [writeMembers, newline_not_mem_writeText, free (key, value)]
  | (key, value) :: next :: members, free => by
    have rest := newline_not_mem_writeMembers (next :: members)
      fun found member => free found (List.mem_cons_of_mem _ member)
    simp [writeMembers_cons, newline_not_mem_writeText, free (key, value), rest]

theorem newline_not_mem_write {value : Json} (plain : value.Plain) : '\n' ∉ value.write := by
  induction plain with
  | null => decide
  | bool value => cases value <;> decide
  | int fits => exact newline_not_mem_signedDigits _
  | string text => exact newline_not_mem_writeText text
  | list plain ih => simp [write, newline_not_mem_writeItems _ ih]
  | object plain ih => simp [write, newline_not_mem_writeMembers _ ih]

end Json

end ModelCatalog
