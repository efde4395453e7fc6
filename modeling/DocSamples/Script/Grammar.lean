import DocSamples.Script.Token

namespace DocSamples.Script

/-! # The grammar of scripts

Commands are joined to pipes, pipes to chains that depend on success, and chains
to lists.  A list ends at a word or sign that closes what it stands in.
-/

/-- The words that have a meaning of their own where a command begins. -/
def keywords : List String :=
  ["if", "then", "else", "elif", "fi", "do", "done", "case", "esac", "while", "until", "for",
    "in", "\x7b", "\x7d", "!"]

/-- The words that close a list. -/
def closers : List String :=
  ["then", "else", "elif", "fi", "do", "done", "esac", "\x7d"]

abbrev Tokens := List PlacedToken

/-- A fault with its line; without one it is at the end of the script. -/
structure PlacedFault where
  line : Option Nat
  fault : SyntaxFault
deriving DecidableEq, Repr

/-- A fault that is at the end whatever it is about. -/
def PlacedFault.atEnd (fault : SyntaxFault) : PlacedFault :=
  ⟨none, fault⟩

def faultHere (tokens : Tokens) (fault : SyntaxFault) : PlacedFault :=
  match tokens with
  | [] => .atEnd fault
  | ⟨line, .operator .newline⟩ :: _ => ⟨some (line + 1), fault⟩
  | ⟨line, .fault found⟩ :: _ => ⟨some line, found⟩
  | ⟨line, _⟩ :: _ => ⟨some line, fault⟩

def unexpectedHere (tokens : Tokens) (wanted : Option String) : PlacedFault :=
  let title := match tokens with
    | [] => "end of file"
    | ⟨_, token⟩ :: _ => token.title keywords
  faultHere tokens (.unexpected title wanted)

def skipNewlines : Tokens → Tokens
  | ⟨_, .operator .newline⟩ :: rest => skipNewlines rest
  | tokens => tokens

/-- The word with which some tokens begin, if it is written without quotes. -/
def plainHead? : Tokens → Option String
  | ⟨_, .word word⟩ :: _ => plainText? word
  | _ => none

/-- Passes over a keyword. -/
def expect (keyword : String) (tokens : Tokens) : Except PlacedFault Tokens :=
  if plainHead? tokens = some keyword then .ok tokens.tail
  else .error (unexpectedHere tokens (some (signTitle keyword)))

/-- Passes over a keyword with line ends and a semicolon before it. -/
def expectAfterEnd (keyword : String) (tokens : Tokens) : Except PlacedFault Tokens :=
  match tokens with
  | ⟨_, .operator .semicolon⟩ :: rest => expect keyword (skipNewlines rest)
  | _ => expect keyword (skipNewlines tokens)

/-- The name and value of a word that sets a variable. -/
def setting? (word : Word) : Option (String × Word) :=
  let isNamePart : WordPart → Bool
    | .literal c false => isNameChar c
    | _ => false
  match word.dropWhile isNamePart with
  | .literal '=' false :: value => do
      let name ← plainText? (word.takeWhile isNamePart)
      if name.toList.head?.any isNameStart then some (name, value) else none
  | _ => none

/-- The words and redirections of a simple command. -/
def readSimple (command : SimpleCommand) : Tokens → SimpleCommand × Tokens
  | ⟨line, .word word⟩ :: rest =>
      match setting? word with
      | some setting =>
          if command.words.isEmpty then
            readSimple { command with settings := command.settings ++ [setting] } rest
          else readSimple { command with words := command.words ++ [word] } rest
      | none =>
          let line := if command.words.isEmpty then line else command.line
          readSimple { command with line, words := command.words ++ [word] } rest
  | ⟨_, .redirection redirection⟩ :: rest =>
      readSimple { command with redirections := command.redirections ++ [redirection] } rest
  | rest => (command, rest)

def readRedirections : Tokens → List Redirection × Tokens
  | ⟨_, .redirection redirection⟩ :: rest =>
      let (more, rest) := readRedirections rest
      (redirection :: more, rest)
  | rest => ([], rest)

def readWords : Tokens → List Word × Tokens
  | ⟨_, .word word⟩ :: rest =>
      let (words, rest) := readWords rest
      (word :: words, rest)
  | rest => ([], rest)

/-- The patterns before the bracket of a case. -/
def readPatterns : Tokens → Except PlacedFault (List Word × Tokens)
  | ⟨_, .word word⟩ :: ⟨_, .operator .closing⟩ :: rest => .ok ([word], rest)
  | ⟨_, .word word⟩ :: ⟨_, .operator .pipe⟩ :: rest => do
      let (words, rest) ← readPatterns rest
      return (word :: words, rest)
  | ⟨_, .word _⟩ :: rest => .error (unexpectedHere rest (some (signTitle ")")))
  | tokens => .error (unexpectedHere tokens.tail (some (signTitle ")")))

/-- The name and the words of a loop. -/
def readLoopHead (tokens : Tokens) :
    Except PlacedFault ((String × Option (List Word)) × Tokens) :=
  match plainHead? tokens with
  | none => .error (faultHere tokens .badLoopName)
  | some name =>
      let rest := tokens.tail
      if !isName name then .error (faultHere tokens .badLoopName)
      else if plainHead? (skipNewlines rest) = some "in" then
        let (words, after) := readWords (skipNewlines rest).tail
        match after with
        | ⟨_, .operator .newline⟩ :: _ | ⟨_, .operator .semicolon⟩ :: _ =>
            .ok ((name, some words), after)
        | _ => .error (unexpectedHere after none)
      else .ok ((name, none), rest)

/-- Reads the brackets behind the name of a function.  What is behind them is its
body. -/
def readNameEnd (name : Option String) (tokens : Tokens) : Except PlacedFault (String × Tokens) :=
  match name, tokens with
  | some name, ⟨_, .operator .closing⟩ :: rest =>
      if isName name then .ok (name, skipNewlines rest)
      else .error (faultHere rest .badFunctionName)
  | none, ⟨_, .operator .closing⟩ :: rest => .error (faultHere rest .badFunctionName)
  | _, _ => .error (unexpectedHere tokens (some (signTitle ")")))

mutual

/-- Reads one command with all that is in it. -/
def readCommand (fuel : Nat) (tokens : Tokens) : Except PlacedFault (Script × Tokens) :=
  match fuel with
  | 0 => .error (.atEnd .unterminated)
  | fuel + 1 =>
      match tokens with
      | ⟨line, .operator .opening⟩ :: after => do
          let (body, rest) ← readList fuel after
          match rest with
          | ⟨_, .operator .closing⟩ :: rest => readEnd line (.subshell body) rest
          | _ => .error (unexpectedHere rest (some (signTitle ")")))
      | ⟨line, .redirection _⟩ :: _ =>
          let (simple, rest) := readSimple { line } tokens
          .ok (.command simple, rest)
      | ⟨line, .word word⟩ :: after =>
          match plainText? word with
          | some "for" => do
              let ((name, words), rest) ← readLoopHead after
              let rest ← expectAfterEnd "do" rest
              let (body, rest) ← readList fuel rest
              readEnd line (.loop name words body) (← expect "done" rest)
          | some "while" => readTurns fuel line false after
          | some "until" => readTurns fuel line true after
          | some "if" => do
              let (script, rest) ← readChoice fuel after
              readEnd line script rest
          | some "case" =>
              match after with
              | ⟨_, .word subject⟩ :: rest => do
                  let rest ← expect "in" (skipNewlines rest)
                  let (cases, rest) ← readCases fuel (skipNewlines rest)
                  readEnd line (.selection subject cases) rest
              | _ => .error (unexpectedHere after (some "word"))
          | some "\x7b" => do
              let (body, rest) ← readList fuel after
              readEnd line body (← expect "\x7d" rest)
          | text =>
              if text = some "in" || text = some "!" || text.any closers.contains then
                .error (unexpectedHere tokens none)
              else
                match setting? word, after with
                | none, ⟨_, .operator .opening⟩ :: rest => do
                    let (name, rest) ← readNameEnd text rest
                    let (body, rest) ← readCommand fuel rest
                    return (.definition name body, rest)
                | _, _ =>
                    let (simple, rest) := readSimple { line } tokens
                    .ok (.command simple, rest)
      | _ => .error (unexpectedHere tokens none)

/-- The redirections after a command that is not simple. -/
def readEnd (line : Nat) (script : Script) (tokens : Tokens) :
    Except PlacedFault (Script × Tokens) :=
  match readRedirections tokens with
  | ([], rest) => .ok (script, rest)
  | (redirections, rest) => .ok (.redirected line script redirections, rest)

def readTurns (fuel line : Nat) (untilTrue : Bool) (tokens : Tokens) :
    Except PlacedFault (Script × Tokens) :=
  match fuel with
  | 0 => .error (.atEnd .unterminated)
  | fuel + 1 => do
      let (condition, rest) ← readList fuel tokens
      let (body, rest) ← readList fuel (← expect "do" rest)
      readEnd line (.turns condition untilTrue body) (← expect "done" rest)

def readChoice (fuel : Nat) (tokens : Tokens) : Except PlacedFault (Script × Tokens) :=
  match fuel with
  | 0 => .error (.atEnd .unterminated)
  | fuel + 1 => do
      let (condition, rest) ← readList fuel tokens
      let (whenTrue, rest) ← readList fuel (← expect "then" rest)
      match plainHead? rest with
      | some "elif" =>
          let (whenFalse, rest) ← readChoice fuel rest.tail
          return (.choice condition whenTrue whenFalse, rest)
      | some "else" =>
          let (whenFalse, rest) ← readList fuel rest.tail
          return (.choice condition whenTrue whenFalse, ← expect "fi" rest)
      | _ => return (.choice condition whenTrue .nothing, ← expect "fi" rest)

/-- The cases of a selection.  The last one needs no sign of its end. -/
def readCases (fuel : Nat) (tokens : Tokens) :
    Except PlacedFault (List (List Word × Script) × Tokens) :=
  match fuel with
  | 0 => .error (.atEnd .unterminated)
  | fuel + 1 =>
      if plainHead? tokens = some "esac" then .ok ([], tokens.tail)
      else do
        let start := match tokens with
          | ⟨_, .operator .opening⟩ :: rest => rest
          | _ => tokens
        let (patterns, rest) ← readPatterns start
        let (body, rest) ← readCaseBody fuel (skipNewlines rest)
        match rest with
        | ⟨_, .operator .caseEnd⟩ :: rest =>
            let (cases, rest) ← readCases fuel (skipNewlines rest)
            return ((patterns, body) :: cases, rest)
        | _ =>
            if plainHead? rest = some "esac" then return ([(patterns, body)], rest.tail)
            else throw (unexpectedHere rest (some (signTitle ";;")))

/-- Reads the script of a case, which may be empty. -/
def readCaseBody (fuel : Nat) (tokens : Tokens) : Except PlacedFault (Script × Tokens) :=
  match fuel with
  | 0 => .error (.atEnd .unterminated)
  | fuel + 1 => if endsLine tokens then .ok (.nothing, tokens) else readList fuel tokens

/-- Reads commands that are joined to a pipe. -/
def readJoined (fuel : Nat) (tokens : Tokens) : Except PlacedFault (Script × Tokens) :=
  match fuel with
  | 0 => .error (.atEnd .unterminated)
  | fuel + 1 => do
      let (first, rest) ← readCommand fuel tokens
      match rest with
      | ⟨_, .operator .pipe⟩ :: rest =>
          let (second, rest) ← readJoined fuel (skipNewlines rest)
          return (.pipe first second, rest)
      | _ => return (first, rest)

/-- Reads a pipe, which may be negated. -/
def readPipe (fuel : Nat) (tokens : Tokens) : Except PlacedFault (Script × Tokens) :=
  match fuel with
  | 0 => .error (.atEnd .unterminated)
  | fuel + 1 =>
      if plainHead? tokens = some "!" then do
        let (script, rest) ← readJoined fuel tokens.tail
        return (.negation script, rest)
      else readJoined fuel tokens

/-- Reads pipes that depend on the success of what is before them. -/
def readChain (fuel : Nat) (first : Script) (tokens : Tokens) :
    Except PlacedFault (Script × Tokens) :=
  match fuel with
  | 0 => .error (.atEnd .unterminated)
  | fuel + 1 =>
      match tokens with
      | ⟨_, .operator .both⟩ :: rest => do
          let (second, rest) ← readPipe fuel (skipNewlines rest)
          readChain fuel (.both first second) rest
      | ⟨_, .operator .either⟩ :: rest => do
          let (second, rest) ← readPipe fuel (skipNewlines rest)
          readChain fuel (.either first second) rest
      | _ => .ok (first, tokens)

/-- Reads the commands of one line. -/
def readLine (fuel : Nat) (tokens : Tokens) : Except PlacedFault (Script × Tokens) :=
  match fuel with
  | 0 => .error (.atEnd .unterminated)
  | fuel + 1 => do
      let (first, rest) ← readPipe fuel tokens
      let (chain, rest) ← readChain fuel first rest
      let (chain, rest, goesOn) := match rest with
        | ⟨_, .operator .semicolon⟩ :: rest => (chain, rest, true)
        | ⟨_, .operator .background⟩ :: rest => (.background chain, rest, true)
        | _ => (chain, rest, false)
      if goesOn && !endsLine rest then
        let (more, rest) ← readLine fuel rest
        return (.sequence chain more, rest)
      else return (chain, rest)

/-- Whether no command follows on the same line. -/
def endsLine (tokens : Tokens) : Bool :=
  match tokens with
  | [] => true
  | ⟨_, .operator operator⟩ :: _ => operator != .opening
  | _ => (plainHead? tokens).any closers.contains

/-- Reads lines up to what closes them. -/
def readList (fuel : Nat) (tokens : Tokens) : Except PlacedFault (Script × Tokens) :=
  match fuel with
  | 0 => .error (.atEnd .unterminated)
  | fuel + 1 => do
      match skipNewlines tokens with
      | [] => return (.nothing, [])
      | start =>
          let (first, rest) ← readLine fuel start
          match rest with
          | ⟨_, .operator .newline⟩ :: _ =>
              let next := skipNewlines rest
              if endsLine next then return (first, next)
              else
                let (more, rest) ← readList fuel next
                return (.sequence first more, rest)
          | _ => return (first, rest)

end

/-- Reads the commands of the first line that has any. -/
def readFirst (tokens : Tokens) : Except PlacedFault (Option (Script × Tokens)) :=
  match skipNewlines tokens with
  | [] => .ok none
  | start => do
      let (script, rest) ← readLine (6 * start.length + 6) start
      match rest with
      | [] => return some (script, [])
      | ⟨_, .operator .newline⟩ :: rest => return some (script, rest)
      | _ => .error (unexpectedHere rest none)

end DocSamples.Script
