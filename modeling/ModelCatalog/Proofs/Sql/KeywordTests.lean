import ModelCatalog.Store.Search

/-!
The conditions on tags as they stand in a statement: tests of the keywords, with the functions of SQL
on texts and its three truth values. What the store makes of these conditions is what the tests say.
-/

namespace ModelCatalog.Sql

/-! Functions on texts. -/

/-- Puts `new` for each `old`, from the left; `skip` more characters belong to the last `old`. -/
def replaceFrom (old new : List Char) : (skip : Nat) → List Char → List Char
  | _, [] => []
  | skip + 1, _ :: rest => replaceFrom old new skip rest
  | 0, c :: rest =>
    if old.isPrefixOf (c :: rest) then new ++ replaceFrom old new (old.length - 1) rest
    else c :: replaceFrom old new 0 rest

def replaceAll (text old new : List Char) : List Char :=
  if old.isEmpty then text else replaceFrom old new 0 text

/-- Where a text first stands in another, counted from one; zero where it does not stand. -/
def position (sought : List Char) : (text : List Char) → Nat
  | [] => if sought.isEmpty then 1 else 0
  | c :: rest =>
    if sought.isPrefixOf (c :: rest) then 1
    else if position sought rest = 0 then 0 else position sought rest + 1

theorem replaceAll_character (c : Char) (text : List Char) :
    replaceAll text [c] [] = text.filter (· != c) := by
  rw [replaceAll]
  induction text with
  | nil => rfl
  | cons d rest ih =>
    have next : replaceFrom [c] [] 0 rest = rest.filter (· != c) := ih
    by_cases same : d = c
    · simp [replaceFrom, same, next]
    · have other : ¬c = d := fun equal => same equal.symm
      simp [replaceFrom, same, other, next]

theorem position_pos_iff (sought text : List Char) :
    0 < position sought text ↔ occursIn sought text = true := by
  induction text with
  | nil =>
    rw [position, occursIn]
    split <;> simp_all
  | cons c rest ih =>
    rw [position, occursIn, Bool.or_eq_true, ← ih]
    split
    next here => simp [here]
    next notHere =>
      simp only [notHere, false_or, Bool.false_eq_true]
      split <;> omega

/-! Tests of the keywords. -/

/-- A text, over the keywords of a row and the tag that is the parameter. -/
inductive KeywordTerm where
  | keywords
  | parameter
  | literal (text : String)
  | character (code : Nat)
  | coalesce (first second : KeywordTerm)
  | lower (text : KeywordTerm)
  | replace (text old new : KeywordTerm)
  | concat (first second : KeywordTerm)
  | group (text : KeywordTerm)

namespace KeywordTerm

def sql : KeywordTerm → String
  | keywords => Column.metadataKeywords.sql
  | parameter => "?"
  | literal text => "'" ++ text ++ "'"
  | character code => "char(" ++ toString code ++ ")"
  | coalesce first second => "COALESCE(" ++ first.sql ++ ", " ++ second.sql ++ ")"
  | lower text => "LOWER(" ++ text.sql ++ ")"
  | replace text old new => "REPLACE(" ++ text.sql ++ ", " ++ old.sql ++ ", " ++ new.sql ++ ")"
  | concat first second => first.sql ++ " || " ++ second.sql
  | group text => "(" ++ text.sql ++ ")"

def value (present : Option (List Char)) (sought : List Char) : KeywordTerm → Option (List Char)
  | keywords => present
  | parameter => some sought
  | literal text => some text.toList
  | character code => some [Char.ofNat code]
  | coalesce first second => (first.value present sought).or (second.value present sought)
  | lower text => (text.value present sought).map Text.asciiLower
  | replace text old new => do
    return replaceAll (← text.value present sought) (← old.value present sought)
      (← new.value present sought)
  | concat first second => do
    return (← first.value present sought) ++ (← second.value present sought)
  | group text => text.value present sought

def without (text old : KeywordTerm) : KeywordTerm := replace text old (literal "")

def canonical : KeywordTerm :=
  group (concat (concat (literal ",") (without (without (without
    (lower (coalesce keywords (literal ""))) (literal " ")) (character 9)) (character 10)))
    (literal ","))

end KeywordTerm

abbrev Truth := Option Bool

namespace Truth

def and : Truth → Truth → Truth
  | some true, b => b
  | some false, _ => some false
  | none, some false => some false
  | none, _ => none

def or : Truth → Truth → Truth
  | some false, b => b
  | some true, _ => some true
  | none, some true => some true
  | none, _ => none

end Truth

inductive KeywordTest where
  | isNull (text : KeywordTerm)
  | isNotNull (text : KeywordTerm)
  | found (text sought : KeywordTerm)
  | missing (text sought : KeywordTerm)
  | and (first second : KeywordTest)
  | either (first second : KeywordTest)

namespace KeywordTest

def sql : KeywordTest → String
  | isNull text => text.sql ++ " IS NULL"
  | isNotNull text => text.sql ++ " IS NOT NULL"
  | found text sought => "instr(" ++ text.sql ++ ", " ++ sought.sql ++ ") > 0"
  | missing text sought => "instr(" ++ text.sql ++ ", " ++ sought.sql ++ ") = 0"
  | and first second => first.sql ++ " AND " ++ second.sql
  | either first second => "(" ++ first.sql ++ " OR " ++ second.sql ++ ")"

def truth (present : Option (List Char)) (needle : List Char) : KeywordTest → Truth
  | isNull text => some (text.value present needle).isNone
  | isNotNull text => some (text.value present needle).isSome
  | found text sought => do
    let place := position (← sought.value present needle) (← text.value present needle)
    return decide (0 < place)
  | missing text sought => do
    let place := position (← sought.value present needle) (← text.value present needle)
    return decide (place = 0)
  | and first second => (first.truth present needle).and (second.truth present needle)
  | either first second => (first.truth present needle).or (second.truth present needle)

def includes : KeywordTest :=
  and (isNotNull .keywords) (found .canonical .parameter)

def excludes : KeywordTest :=
  either (isNull .keywords) (missing .canonical .parameter)

end KeywordTest

end ModelCatalog.Sql

namespace ModelCatalog

open Sql (KeywordTerm KeywordTest)

/-- The statements that are sent hold these tests. -/
theorem Condition.fragment_tagged (needle : String) :
    (tagged needle).fragment = ⟨KeywordTest.includes.sql, [.text needle]⟩ := by
  have sql : (tagged "").fragment.sql = KeywordTest.includes.sql := by decide +kernel
  exact congrArg (Sql.Fragment.mk · [.text needle]) sql

theorem Condition.fragment_untagged (needle : String) :
    (untagged needle).fragment = ⟨KeywordTest.excludes.sql, [.text needle]⟩ := by
  have sql : (untagged "").fragment.sql = KeywordTest.excludes.sql := by decide +kernel
  exact congrArg (Sql.Fragment.mk · [.text needle]) sql

def CatalogRow.keywords? (row : CatalogRow) : Option (List Char) :=
  (row.text? .metadataKeywords).map String.toList

theorem value_canonical (keywords : Option String) (needle : List Char) :
    KeywordTerm.canonical.value (keywords.map String.toList) needle =
      some (Condition.canonicalKeywords (keywords.getD "")) := by
  have present : (keywords.map String.toList).or (some "".toList) =
      some (keywords.getD "").toList := by
    cases keywords <;> rfl
  have kept (text : List Char) :
      ((text.filter (· != ' ')).filter (· != Char.ofNat 9)).filter (· != Char.ofNat 10) =
        text.filter fun c => c != ' ' && c != '\t' && c != '\n' := by
    simp only [List.filter_filter]
    apply List.filter_congr
    intro c _
    rw [Bool.and_comm, Bool.and_comm (c != _)]
  have blank : " ".toList = [' '] := rfl
  simp only [KeywordTerm.canonical, KeywordTerm.without, KeywordTerm.value, present]
  simp only [Option.map_some, Option.bind_eq_bind, Option.bind_some, Option.pure_def, blank,
    String.toList_empty, Sql.replaceAll_character, kept]
  rfl

section Truth

variable (needle : String) (present : Time.Instant) (row : CatalogRow)

theorem truth_includes : KeywordTest.includes.truth row.keywords? needle.toList =
    some ((Condition.tagged needle).holds present row) := by
  have canonical := value_canonical (row.text? .metadataKeywords) needle.toList
  rw [Condition.holds, KeywordTest.includes, CatalogRow.keywords?]
  simp only [KeywordTest.truth, canonical, KeywordTerm.value]
  cases row.text? .metadataKeywords with
  | none => rfl
  | some keywords => simp [Sql.Truth.and, Sql.position_pos_iff]

theorem truth_excludes : KeywordTest.excludes.truth row.keywords? needle.toList =
    some ((Condition.untagged needle).holds present row) := by
  have canonical := value_canonical (row.text? .metadataKeywords) needle.toList
  rw [Condition.holds, KeywordTest.excludes, CatalogRow.keywords?]
  simp only [KeywordTest.truth, canonical, KeywordTerm.value]
  cases row.text? .metadataKeywords with
  | none => rfl
  | some keywords =>
    have nowhere : Sql.position needle.toList (Condition.canonicalKeywords keywords) = 0 ↔
        occursIn needle.toList (Condition.canonicalKeywords keywords) = false := by
      rw [← Bool.not_eq_true, ← Sql.position_pos_iff]
      omega
    simp [Sql.Truth.or, nowhere]

end Truth

end ModelCatalog
