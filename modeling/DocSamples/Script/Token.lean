import DocSamples.Script

namespace DocSamples.Script

/-! # Tokens of scripts

A script is read as words, operators and redirections, each with its line.
Where no token can be read a fault stands, and nothing after it.
-/

inductive SyntaxFault where
  | unterminated
  | unterminatedOutput
  | missing (closing : String)
  | badLoopName
  | badFunctionName
  | unexpected (token : String) (wanted : Option String)
deriving DecidableEq, Repr

/-- Whether a fault is found only at the end of the script. -/
def SyntaxFault.isAtEnd : SyntaxFault → Bool
  | .unterminated | .unterminatedOutput | .missing _ => true
  | .unexpected token _ => token = "end of file"
  | _ => false

def SyntaxFault.message : SyntaxFault → String
  | .unterminated => "Syntax error: Unterminated quoted string"
  | .unterminatedOutput => "Syntax error: EOF in backquote substitution"
  | .missing closing => "Syntax error: Missing '" ++ closing ++ "'"
  | .badLoopName => "Syntax error: Bad for loop variable"
  | .badFunctionName => "Syntax error: Bad function name"
  | .unexpected token none => "Syntax error: " ++ token ++ " unexpected"
  | .unexpected token (some wanted) =>
      "Syntax error: " ++ token ++ " unexpected (expecting " ++ wanted ++ ")"

/-- How a keyword or a sign is called. -/
def signTitle (text : String) : String :=
  "\x22" ++ text ++ "\x22"

inductive Operator where
  | semicolon
  | newline
  | both
  | either
  | pipe
  | opening
  | closing
  | caseEnd
  | background
deriving DecidableEq, Repr

/-- The operators that are written with characters, longer ones first. -/
def Operator.spellings : List (String × Operator) :=
  [("&&", .both), ("||", .either), (";;", .caseEnd), ("\n", .newline), (";", .semicolon),
    ("|", .pipe), ("(", .opening), (")", .closing), ("&", .background)]

inductive Token where
  | word (word : Word)
  | operator (operator : Operator)
  | redirection (redirection : Redirection)
  | fault (fault : SyntaxFault)
deriving DecidableEq, Repr

structure PlacedToken where
  line : Nat
  token : Token
deriving DecidableEq, Repr

def isNameStart (c : Char) : Bool :=
  c.isAlpha || c = '_'

def isNameChar (c : Char) : Bool :=
  c.isAlphanum || c = '_'

def isName (text : String) : Bool :=
  text.toList.head?.any isNameStart && text.toList.all isNameChar

def isSpace (c : Char) : Bool :=
  c = ' ' || c = '\t'

/-- The characters that end a bare word. -/
def endsWord (c : Char) : Bool :=
  " \t\n;&|<>()".toList.contains c

/-! ## Brackets -/

/-- How the inside of brackets is read: a dollar sign may belong to the opening
bracket, single quotes may be characters like others, and a script may stand there. -/
structure Brackets where
  opening : Char
  closing : Char
  opensAfterDollar : Bool := false
  hasSingleQuotes : Bool := true
  holdsScript : Bool := false

/-- The brackets around a sum. -/
def Brackets.round : Brackets :=
  { opening := '(', closing := ')' }

/-- The brackets around a script. -/
def Brackets.ofScript : Brackets :=
  { Brackets.round with holdsScript := true }

/-- The braces around a parameter. -/
def Brackets.curly (isQuoted : Bool) : Brackets :=
  { opening := '\x7b', closing := '\x7d', opensAfterDollar := true,
    hasSingleQuotes := !isQuoted }

/-- What has been opened inside of brackets: other brackets, or a selection, in which
a bracket that closes nothing is the end of a pattern. -/
inductive Opened where
  | bracket
  | selection
deriving DecidableEq, Repr

namespace Brackets

/-- Whether a command may begin behind some characters, the last one first. -/
def endsCommand (before : List Char) : Bool :=
  let start := before.dropWhile isSpace
  let word := String.ofList (start.takeWhile (!endsWord ·)).reverse
  word = "" || ["\x7b", "!", "if", "then", "else", "elif", "while", "until", "do"].contains word

/-- What is open where a word begins. -/
def openAt (brackets : Brackets) (opened : List Opened) (before chars : List Char) :
    List Opened :=
  let word := String.ofList (chars.takeWhile (!endsWord ·))
  let behindIn := (before.dropWhile isSpace).take 2 = ['n', 'i']
  if !brackets.holdsScript || before.head?.any (!endsWord ·) then opened
  else if word = "case" && endsCommand before then .selection :: opened
  else if word = "esac" && opened.head? = some .selection && (endsCommand before || behindIn) then
    opened.tail
  else opened

/-- The text up to the bracket that closes an open one, and what follows it.
Brackets between quotes do not count, and a comment is a quote up to its line's end.
Without an end the fault is the quote that is open. -/
def close (brackets : Brackets) (opened : List Opened) (quote : Option Char)
    (before : List Char) (chars : List Char) : Except (Option Char) (List Char × List Char) :=
  match chars with
  | [] => .error quote
  | c :: rest =>
      let isRaw := quote = some '\x27' || quote = some '\n'
      let opens := c = brackets.opening &&
        (!brackets.opensAfterDollar || before.head? = some '$')
      if isRaw then
        brackets.close opened (if quote = some c then none else quote) (c :: before) rest
      else if c = '\x5c' then
        match rest with
        | [] => .error quote
        | d :: more => brackets.close opened quote (d :: c :: before) more
      else if quote = some '\x22' then
        brackets.close opened (if c = '\x22' then none else quote) (c :: before) rest
      else if c = '\x22' || (c = '\x27' && brackets.hasSingleQuotes) then
        brackets.close opened (some c) (c :: before) rest
      else if c = '#' && brackets.holdsScript && before.head?.all endsWord then
        brackets.close opened (some '\n') (c :: before) rest
      else if opens then brackets.close (.bracket :: opened) none (c :: before) rest
      else if c = brackets.closing then
        match opened with
        | [] => .ok (before.reverse, rest)
        | .bracket :: outer => brackets.close outer none (c :: before) rest
        | .selection :: _ => brackets.close opened none (c :: before) rest
      else brackets.close (brackets.openAt opened before chars) none (c :: before) rest

end Brackets

/-! ## Parameters -/

def specialParameter? (c : Char) : Option Parameter :=
  if c = '@' then some (.allArguments false)
  else if c = '*' then some (.allArguments true)
  else if c = '#' then some .argumentCount
  else if c = '?' then some .lastStatus
  else if c = '$' then some .processId
  else if c = '!' then some .lastJob
  else if c = '-' then some .modes
  else if c.isDigit then some (.positional (c.toNat - '0'.toNat))
  else none

/-- The parameter at the beginning of what stands between braces. -/
def leadingParameter? (chars : List Char) : Option (Parameter × List Char) :=
  match chars with
  | [] => none
  | c :: rest =>
      if isNameStart c then
        some (.named (String.ofList (chars.takeWhile isNameChar)), chars.dropWhile isNameChar)
      else if c.isDigit then
        (String.ofList (chars.takeWhile Char.isDigit)).toNat?.map fun index =>
          (.positional index, chars.dropWhile Char.isDigit)
      else (specialParameter? c).map fun parameter => (parameter, rest)

def valueForm? : List Char → Option ValueForm
  | [] => some .whole
  | ':' :: '-' :: text => some (.fallback text true)
  | '-' :: text => some (.fallback text false)
  | ':' :: '=' :: text => some (.assigned text true)
  | '=' :: text => some (.assigned text false)
  | ':' :: '?' :: text => some (.demanded text true)
  | '?' :: text => some (.demanded text false)
  | ':' :: '+' :: text => some (.alternative text true)
  | '+' :: text => some (.alternative text false)
  | '#' :: '#' :: pattern => some (.withoutFront pattern true)
  | '#' :: pattern => some (.withoutFront pattern false)
  | '%' :: '%' :: pattern => some (.withoutBack pattern true)
  | '%' :: pattern => some (.withoutBack pattern false)
  | _ => none

/-- What stands between braces after a dollar sign. -/
def braced? (chars : List Char) : Option (Parameter × ValueForm) :=
  let ofLength : Option (Parameter × ValueForm) := match chars with
    | '#' :: c :: rest =>
        match leadingParameter? (c :: rest) with
        | some (parameter, []) => some (parameter, .length)
        | _ => none
    | _ => none
  ofLength.or do
    let (parameter, after) ← leadingParameter? chars
    return (parameter, ← valueForm? after)

/-- What stands after a dollar sign. -/
def dollar (isQuoted : Bool) (chars : List Char) : Except SyntaxFault (WordPart × List Char) :=
  match chars with
  | '(' :: '(' :: rest =>
      match Brackets.round.close [] none [] rest with
      | .ok (expression, ')' :: after) => .ok (.sum expression isQuoted, after)
      | _ => .error (.missing "))")
  | '(' :: rest =>
      match Brackets.ofScript.close [] none [] rest with
      | .ok (script, after) => .ok (.output script isQuoted, after)
      | .error (some '\x22') | .error (some '\x27') => .error .unterminated
      | .error _ => .error (.unexpected "end of file" (some (signTitle ")")))
  | '\x7b' :: rest =>
      match (Brackets.curly isQuoted).close [] none [] rest with
      | .error quote =>
          .error (if isQuoted || quote.isSome then .unterminated else .missing "\x7d")
      | .ok (inner, after) =>
          match braced? inner with
          | some (parameter, form) => .ok (.parameter parameter form isQuoted, after)
          | none => .ok (.noParameter, after)
  | c :: rest =>
      if isNameStart c then
        .ok (.parameter (.named (String.ofList (chars.takeWhile isNameChar))) .whole isQuoted,
          chars.dropWhile isNameChar)
      else
        match specialParameter? c with
        | some parameter => .ok (.parameter parameter .whole isQuoted, rest)
        | none => .ok (.literal '$' isQuoted, chars)
  | [] => .ok (.literal '$' isQuoted, [])

/-! ## Words -/

def backQuote : Char := '\x60'

/-- The script between back quotes, and what follows them.  Inside of double quotes a
double quote loses its backslash too. -/
def splitBackQuote? (isQuoted : Bool) : List Char → Option (List Char × List Char)
  | [] => none
  | '\x5c' :: c :: rest =>
      let isBare := c = '\x5c' || c = '$' || c = backQuote || (isQuoted && c = '\x22')
      (splitBackQuote? isQuoted rest).map fun (script, after) =>
        (if isBare then (c :: script, after) else ('\x5c' :: c :: script, after))
  | c :: rest =>
      if c = backQuote then some ([], rest)
      else (splitBackQuote? isQuoted rest).map fun (script, after) => (c :: script, after)

/-- Where a word stands: bare, between quotes, or as a text in which quotes are
characters like others. -/
inductive WordPlace where
  | bare
  | quoted
  | document
deriving DecidableEq, Repr

def WordPlace.isQuoted (place : WordPlace) : Bool :=
  place != .bare

/-- The place after a double quote. -/
def WordPlace.other (place : WordPlace) : WordPlace :=
  if place = .bare then .quoted else .bare

/-- The characters that a backslash takes their meaning from. -/
def WordPlace.escapes (place : WordPlace) : List Char :=
  match place with
  | .document => ['\x5c', '$', backQuote, '\n']
  | _ => ['\x22', '\x5c', '$', backQuote, '\n']

/-- The parts of a word and what follows it.  A word that stands alone goes up to the
end of its text, any other ends at a blank or an operator.  `fuel` bounds the
characters read. -/
def readWord (fuel : Nat) (isAlone : Bool) (place : WordPlace) (chars : List Char) :
    Except SyntaxFault (Word × List Char) :=
  match fuel with
  | 0 => .error .unterminated
  | fuel + 1 =>
      match chars with
      | [] => if place = .quoted && !isAlone then .error .unterminated else .ok ([], [])
      | c :: rest =>
          if c = '\x22' && place != .document then do
            let (parts, after) ← readWord fuel isAlone place.other rest
            return (.quotes :: parts, after)
          else if c = '$' then do
            let (part, rest) ← dollar place.isQuoted rest
            let (parts, after) ← readWord fuel isAlone place rest
            return (part :: parts, after)
          else if c = backQuote then
            match splitBackQuote? (place = .quoted) rest with
            | none => .error .unterminatedOutput
            | some (script, more) => do
                let (parts, after) ← readWord fuel isAlone place more
                return (.output script place.isQuoted :: parts, after)
          else if c = '\x27' && place = .bare then
            match rest.dropWhile (· != '\x27') with
            | [] => .error .unterminated
            | _ :: more => do
                let text := (rest.takeWhile (· != '\x27')).map (WordPart.literal · true)
                let (parts, after) ← readWord fuel isAlone .bare more
                return (.quotes :: text ++ parts, after)
          else if c = '\x5c' then
            match rest with
            | [] => .ok ([.literal c true], [])
            | d :: more => do
                let (parts, after) ← readWord fuel isAlone place more
                if d = '\n' then return (parts, after)
                else if place.isQuoted && !place.escapes.contains d then
                  return (.literal c true :: .literal d true :: parts, after)
                else return (.literal d true :: parts, after)
          else if place = .bare && endsWord c && !isAlone then .ok ([], chars)
          else do
            let (parts, after) ← readWord fuel isAlone place rest
            return (.literal c place.isQuoted :: parts, after)

/-- The word that a text stands for as a whole. -/
def wholeWord (place : WordPlace) (chars : List Char) : Except SyntaxFault Word :=
  (readWord (chars.length + 1) true place chars).map Prod.fst

/-! ## Redirections -/

/-- The signs of a redirection, which become one with a word. -/
inductive Direction where
  | same (descriptor : Nat)
  | read (descriptor : Nat)
  | write (descriptor : Nat) (mode : WriteMode)
  /-- What is read follows the line up to a line that is the word. -/
  | document (descriptor : Nat) (stripsTabs : Bool)

/-- Reads the signs of a redirection. -/
def direction? (chars : List Char) : Option (Direction × List Char) :=
  let (descriptor, signs) := match chars with
    | c :: rest =>
        if c.isDigit && (rest.head? = some '>' || rest.head? = some '<') then
          (some (c.toNat - '0'.toNat), rest)
        else (none, chars)
    | [] => (none, chars)
  match signs with
  | '>' :: '&' :: rest => some (.same (descriptor.getD 1), rest)
  | '<' :: '&' :: rest => some (.same (descriptor.getD 0), rest)
  | '>' :: '>' :: rest => some (.write (descriptor.getD 1) .appending, rest)
  | '>' :: '|' :: rest => some (.write (descriptor.getD 1) .forced, rest)
  | '>' :: rest => some (.write (descriptor.getD 1) .fresh, rest)
  | '<' :: '>' :: rest => some (.write (descriptor.getD 0) .both, rest)
  | '<' :: '<' :: '-' :: rest => some (.document (descriptor.getD 0) true, rest)
  | '<' :: '<' :: rest => some (.document (descriptor.getD 0) false, rest)
  | '<' :: rest => some (.read (descriptor.getD 0), rest)
  | _ => none

def breaksIn (chars : List Char) : Nat :=
  (chars.filter (· == '\n')).length

/-! ## Documents -/

/-- A document that a line has asked for and that follows it. -/
structure DocumentRequest where
  /-- The line after the document. -/
  lastLine : List Char
  stripsTabs : Bool
  /-- Whether the document is taken as it stands. -/
  isLiteral : Bool
deriving DecidableEq, Repr

/-- The request for a document by the word that ends it.  With quotes in that word
nothing in the document is replaced. -/
def DocumentRequest.ofWord (stripsTabs : Bool) (word : Word) : DocumentRequest :=
  let char? : WordPart → Option Char
    | .literal c _ => some c
    | _ => none
  let isMark : WordPart → Bool
    | .quotes => true
    | .literal _ isQuoted => isQuoted
    | _ => false
  { lastLine := word.filterMap char?, stripsTabs, isLiteral := word.any isMark }

namespace DocumentRequest

/-- The text of a document, and what follows it.  Without its last line a document
goes up to the end.  `fuel` bounds the lines. -/
def split (request : DocumentRequest) : Nat → List Char → List Char × List Char
  | 0, chars => ([], chars)
  | _, [] => ([], [])
  | fuel + 1, chars =>
      let whole := chars.takeWhile (· != '\n')
      let line := if request.stripsTabs then whole.dropWhile (· == '\t') else whole
      let rest := chars.drop whole.length
      if line = request.lastLine then ([], rest.tail)
      else
        let (text, after) := request.split fuel rest.tail
        (line ++ rest.take 1 ++ text, after)

/-- The document as a word. -/
def word (request : DocumentRequest) (text : List Char) : Except SyntaxFault Word :=
  if request.isLiteral then .ok (text.map (WordPart.literal · true))
  else wholeWord .document text

/-- The words of documents that follow each other, and what follows them all. -/
def splitAll : List DocumentRequest → List Char → List (Except SyntaxFault Word) × List Char
  | [], chars => ([], chars)
  | request :: more, chars =>
      let (text, after) := request.split (breaksIn chars + 1) chars
      let (words, rest) := splitAll more after
      (request.word text :: words, rest)

end DocumentRequest

/-! ## Scripts -/

/-- The redirection to a document; one that is not there is empty. -/
def documentToken (descriptor : Nat) (found : Option (Except SyntaxFault Word)) : Token :=
  match found with
  | some (.ok word) => .redirection (.document descriptor word)
  | some (.error fault) => .fault fault
  | none => .redirection (.document descriptor [])

/-- The operator that a text begins with, and how it is written. -/
def leadingOperator? (chars : List Char) : Option (String × Operator) :=
  Operator.spellings.find? fun (text, _) => text.toList.isPrefixOf chars

/-- How the token is called that stands where a redirection needs a word. -/
def titleAfterDirection (chars : List Char) : String :=
  match leadingOperator? chars with
  | some (text, _) => signTitle text
  | none => if chars.isEmpty then "end of file" else "redirection"

/-- The tokens of a script from a line on, with the documents that earlier tokens of
the line have asked for.  `fuel` bounds the tokens. -/
def readTokens (fuel line : Nat) (requests : List DocumentRequest) (chars : List Char) :
    List PlacedToken × List (Except SyntaxFault Word) :=
  match fuel with
  | 0 => ([], [])
  | fuel + 1 =>
      let stop (fault : SyntaxFault) :=
        let place := if fault.isAtEnd then line + breaksIn chars else line
        ([(⟨place, .fault fault⟩ : PlacedToken)], [])
      let next (token : Token) (line' : Nat) (rest : List Char) :=
        let (tokens, documents) := readTokens fuel line' requests rest
        ((⟨line, token⟩ : PlacedToken) :: tokens, documents)
      let blanks := chars.dropWhile isSpace
      match blanks with
      | [] => ([], [])
      | c :: rest =>
          if c = '#' then readTokens fuel line requests (rest.dropWhile (· != '\n'))
          else if c = '\x5c' && rest.head? = some '\n' then
            readTokens fuel (line + 1) requests rest.tail
          else
            match direction? blanks with
            | some (direction, after) =>
                let start := after.dropWhile isSpace
                match readWord (start.length + 1) false .bare start with
                | .error fault => stop fault
                | .ok ([], '\n' :: _) => ([⟨line + 1, .fault (.unexpected "newline" none)⟩], [])
                | .ok ([], found) => stop (.unexpected (titleAfterDirection found) none)
                | .ok (word, more) =>
                    match direction with
                    | .write descriptor mode =>
                        next (.redirection (.write descriptor mode word)) line more
                    | .same descriptor => next (.redirection (.same descriptor word)) line more
                    | .read descriptor => next (.redirection (.read descriptor word)) line more
                    | .document descriptor stripsTabs =>
                        let request := DocumentRequest.ofWord stripsTabs word
                        let (tokens, documents) :=
                          readTokens fuel line (requests ++ [request]) more
                        (⟨line, documentToken descriptor documents[requests.length]?⟩ :: tokens,
                          documents.take requests.length)
            | none =>
                match leadingOperator? blanks with
                | some (_, .newline) =>
                    let (documents, after) := DocumentRequest.splitAll requests rest
                    let passed := rest.take (rest.length - after.length)
                    let (tokens, _) := readTokens fuel (line + 1 + breaksIn passed) [] after
                    (⟨line, .operator .newline⟩ :: tokens, documents)
                | some (text, operator) =>
                    next (.operator operator) line (blanks.drop text.length)
                | none =>
                    match readWord (blanks.length + 1) false .bare blanks with
                    | .error fault => stop fault
                    | .ok (word, more) =>
                        let passed := blanks.take (blanks.length - more.length)
                        next (.word word) (line + breaksIn passed) more

/-- The tokens of a script whose first line has a number. -/
def tokens (line : Nat) (chars : List Char) : List PlacedToken :=
  (readTokens (chars.length + 1) line [] chars).1

/-- A word that is written without quotes. -/
def plainText? (word : Word) : Option String :=
  let texts := word.mapM fun part =>
    match part with
    | .literal c false => some c
    | _ => none
  texts.map String.ofList

/-- How a token is called where it is not expected. -/
def Token.title (keywords : List String) : Token → String
  | .word given =>
      match plainText? given with
      | some text => if keywords.contains text then signTitle text else "word"
      | none => "word"
  | .operator .newline => "newline"
  | .operator given =>
      match Operator.spellings.find? (·.2 == given) with
      | some (text, _) => signTitle text
      | none => "word"
  | .redirection _ => "redirection"
  | .fault _ => "end of file"

end DocSamples.Script
