import ModelCatalog.Query.Connector
import ModelCatalog.Text.Character

/-!
The lexemes of a match expression: strings and barewords, connectors, and parentheses. The expression
ends before its first NUL character.
-/

namespace ModelCatalog.TextMatch

inductive Lexeme where
  /-- A string or bareword; if it is a prefix, its last token may go on. -/
  | phrase (text : List Char) (isPrefix : Bool)
  /-- The bareword NEAR, a phrase like others unless a group opens after it. -/
  | near
  | connector (connector : Connector)
  | opening
  | closing
  deriving DecidableEq, Repr

inductive ExpressionError where
  | unterminatedString
  | malformed
  /-- Too much of the expression waits for its end. -/
  | overflow
  /-- Connectors are nested too deeply. -/
  | tooLarge
  deriving DecidableEq, Repr

def ExpressionError.message : ExpressionError → String
  | unterminatedString => "unterminated string"
  | malformed => "fts5: syntax error"
  | overflow => "fts5: parser stack overflow"
  | tooLarge => "fts5 expression tree is too large (maximum depth 256)"

def isExpressionSpace (c : Char) : Bool := c == ' ' || c == '\t' || c == '\n' || c == '\r'

/-- A character of a bareword: an ASCII letter or digit, an underscore, or any other character
outside ASCII. -/
def isExpressionWordChar (c : Char) : Bool :=
  c.isAlphanum || c == '_' || !decide (c.toNat < 128)

def nearText : List Char := ['N', 'E', 'A', 'R']

def wordLexeme (word : List Char) : Lexeme :=
  if word = Connector.and.text then .connector .and
  else if word = Connector.or.text then .connector .or
  else if word = Connector.not.text then .connector .not
  else if word = nearText then .near
  else .phrase word false

/-- A star after a string or bareword, blanks between them or not, makes it a prefix. -/
def starred : List Lexeme → Option (List Lexeme)
  | .phrase text false :: rest => some (.phrase text true :: rest)
  | .near :: rest => some (.phrase nearText true :: rest)
  | _ => none

inductive Reading where
  | between
  | word (buffer : List Char)
  | string (buffer : List Char)
  /-- A quote inside a string, which ends it unless another quote follows. -/
  | quote (buffer : List Char)
  deriving DecidableEq, Repr

def Reading.close (read : List Lexeme) : Reading → List Lexeme
  | between => read
  | word buffer => wordLexeme buffer.reverse :: read
  | string _ => read
  | quote buffer => .phrase buffer.reverse false :: read

def lexOutside (read : List Lexeme) (c : Char) :
    Except ExpressionError (List Lexeme × Reading) :=
  if isExpressionSpace c then .ok (read, .between)
  else if c = '"' then .ok (read, .string [])
  else if c = '(' then .ok (.opening :: read, .between)
  else if c = ')' then .ok (.closing :: read, .between)
  else if c = '*' then
    match starred read with
    | some read => .ok (read, .between)
    | none => .error .malformed
  else if isExpressionWordChar c then .ok (read, .word [c])
  else .error .malformed

structure Scan where
  lexemes : List Lexeme
  error? : Option ExpressionError
  deriving DecidableEq, Repr

def scanFrom (read : List Lexeme) : Reading → List Char → Scan
  | .string _, [] => ⟨read.reverse, some .unterminatedString⟩
  | reading, [] => ⟨(reading.close read).reverse, none⟩
  | .string buffer, c :: rest =>
    if c = '"' then scanFrom read (.quote buffer) rest
    else scanFrom read (.string (c :: buffer)) rest
  | .quote buffer, c :: rest =>
    if c = '"' then scanFrom read (.string (c :: buffer)) rest
    else
      let read := Reading.close read (.quote buffer)
      match lexOutside read c with
      | .ok (read, reading) => scanFrom read reading rest
      | .error error => ⟨read.reverse, some error⟩
  | .word buffer, c :: rest =>
    if isExpressionWordChar c then scanFrom read (.word (c :: buffer)) rest
    else
      let read := Reading.close read (.word buffer)
      match lexOutside read c with
      | .ok (read, reading) => scanFrom read reading rest
      | .error error => ⟨read.reverse, some error⟩
  | .between, c :: rest =>
    match lexOutside read c with
    | .ok (read, reading) => scanFrom read reading rest
    | .error error => ⟨read.reverse, some error⟩

def scan (text : List Char) : Scan := scanFrom [] .between (Text.untilNul text)

def lex (text : List Char) : Except ExpressionError (List Lexeme) :=
  match scan text with
  | ⟨lexemes, none⟩ => .ok lexemes
  | ⟨_, some error⟩ => .error error

end ModelCatalog.TextMatch
