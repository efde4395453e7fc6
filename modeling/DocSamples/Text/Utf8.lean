namespace DocSamples.Text.Utf8

/-! # UTF-8

Bytes are read one character at a time.  Where no character begins, the longest
start of one is a defect; a strict reader stops there and names it, a lenient
reader puts the replacement character in its place.
-/

abbrev Bytes := List UInt8

inductive Reason where
  | invalidStart
  | invalidContinuation
  | unexpectedEnd
deriving DecidableEq, Repr

def Reason.message : Reason → String
  | .invalidStart => "invalid start byte"
  | .invalidContinuation => "invalid continuation byte"
  | .unexpectedEnd => "unexpected end of data"

/-- Bytes that are not a character: the first of them, their place and number. -/
structure Defect where
  reason : Reason
  byte : UInt8
  position : Nat
  width : Nat
deriving DecidableEq, Repr

/-- What stands at the beginning of some bytes; `more` counts the bytes after the
first that belong to it. -/
inductive Piece where
  | char (c : Char) (more : Nat)
  | defect (reason : Reason) (more : Nat)
deriving DecidableEq, Repr

def isContinuation (byte : UInt8) : Bool :=
  decide (0x80 ≤ byte) && decide (byte < 0xc0)

/-- The bounds that the second byte keeps after a given first byte: they rule out
overlong forms, surrogates and code points beyond the last. -/
def secondAllowed (first second : UInt8) : Bool :=
  isContinuation second &&
    (if first = 0xe0 then decide (0xa0 ≤ second)
     else if first = 0xed then decide (second < 0xa0)
     else if first = 0xf0 then decide (0x90 ≤ second)
     else if first = 0xf4 then decide (second < 0x90)
     else true)

private def low6 (byte : UInt8) : Nat :=
  byte.toNat % 64

/-- The piece at the beginning of a first byte and the bytes after it. -/
def piece (first : UInt8) (rest : Bytes) : Piece :=
  if first < 0x80 then .char (Char.ofNat first.toNat) 0
  else if first < 0xc2 then .defect .invalidStart 0
  else if first < 0xe0 then
    match rest with
    | [] => .defect .unexpectedEnd 0
    | b :: _ =>
        if isContinuation b then .char (Char.ofNat (first.toNat % 32 * 64 + low6 b)) 1
        else .defect .invalidContinuation 0
  else if first < 0xf0 then
    match rest with
    | [] => .defect .unexpectedEnd 0
    | b :: more =>
        if !secondAllowed first b then .defect .invalidContinuation 0
        else match more with
          | [] => .defect .unexpectedEnd 1
          | c :: _ =>
              if isContinuation c then
                .char (Char.ofNat ((first.toNat % 16 * 64 + low6 b) * 64 + low6 c)) 2
              else .defect .invalidContinuation 1
  else if first < 0xf5 then
    match rest with
    | [] => .defect .unexpectedEnd 0
    | b :: more =>
        if !secondAllowed first b then .defect .invalidContinuation 0
        else match more with
          | [] => .defect .unexpectedEnd 1
          | c :: more =>
              if !isContinuation c then .defect .invalidContinuation 1
              else match more with
                | [] => .defect .unexpectedEnd 2
                | d :: _ =>
                    if isContinuation d then
                      .char (Char.ofNat
                        (((first.toNat % 8 * 64 + low6 b) * 64 + low6 c) * 64 + low6 d)) 3
                    else .defect .invalidContinuation 2
  else .defect .invalidStart 0

/-- The characters of the bytes that begin at `position`, or the first defect. -/
def decodeFrom (position : Nat) (bytes : Bytes) : Except Defect (List Char) :=
  match bytes with
  | [] => .ok []
  | first :: rest =>
      match piece first rest with
      | .char c more =>
          match decodeFrom (position + more + 1) (rest.drop more) with
          | .ok chars => .ok (c :: chars)
          | .error defect => .error defect
      | .defect reason more => .error ⟨reason, first, position, more + 1⟩
termination_by bytes.length
decreasing_by simp only [List.length_drop, List.length_cons]; omega

def decode (bytes : Bytes) : Except Defect (List Char) :=
  decodeFrom 0 bytes

/-- The characters of the bytes, with `U+FFFD` for each defect. -/
def decodeLenient (bytes : Bytes) : List Char :=
  match bytes with
  | [] => []
  | first :: rest =>
      match piece first rest with
      | .char c more => c :: decodeLenient (rest.drop more)
      | .defect _ more => '\uFFFD' :: decodeLenient (rest.drop more)
termination_by bytes.length
decreasing_by all_goals simp only [List.length_drop, List.length_cons]; omega

def encode (chars : List Char) : Bytes :=
  chars.flatMap String.utf8EncodeChar

def encodeText (text : String) : Bytes :=
  encode text.toList

private def hexByte (byte : UInt8) : String :=
  let digits := Nat.toDigits 16 byte.toNat
  String.ofList (List.replicate (2 - digits.length) '0' ++ digits)

def Defect.message (defect : Defect) : String :=
  let place :=
    if defect.width = 1 then
      "byte 0x" ++ hexByte defect.byte ++ " in position " ++ toString defect.position
    else
      "bytes in position " ++ toString defect.position ++ "-" ++
        toString (defect.position + defect.width - 1)
  "'utf-8' codec can't decode " ++ place ++ ": " ++ defect.reason.message

end DocSamples.Text.Utf8
