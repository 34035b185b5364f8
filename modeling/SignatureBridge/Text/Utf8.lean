import SignatureBridge.Text.Quoted

/-!
# UTF-8

`encode` writes a text as bytes and refuses it if it holds a surrogate; `decode` reads bytes and
refuses the first ill-formed sequence. Both are strict. A refusal tells the half-open range of
positions that it is about: for `encode`, the first run of surrogates in the text; for `decode`, the
bytes of the ill-formed sequence up to the one that breaks it, or up to the end if the sequence is
cut off.
-/

namespace SignatureBridge.Utf8

/-- The first run of surrogates in a text that was to be encoded. -/
structure EncodeError where
  start : Nat
  stop : Nat
  first : CodePoint
  deriving DecidableEq

/-- The wording of a refusal to encode. -/
def EncodeError.message (e : EncodeError) : Text :=
  if e.stop = e.start + 1 then
    "'utf-8' codec can't encode character '" ++ Text.numberEscape e.first ++ "' in position " ++
      Text.ofNat e.start ++ ": surrogates not allowed"
  else
    "'utf-8' codec can't encode characters in position " ++ Text.ofNat e.start ++ "-" ++
      Text.ofNat (e.stop - 1) ++ ": surrogates not allowed"

/-- What is wrong with a sequence of bytes. -/
inductive Fault where
  | badStart
  | badContinuation
  | cutOff
  deriving DecidableEq

/-- The wording of a fault. -/
def Fault.message : Fault → Text
  | badStart => "invalid start byte"
  | badContinuation => "invalid continuation byte"
  | cutOff => "unexpected end of data"

/-- The first ill-formed sequence in bytes that were to be decoded. -/
structure DecodeError where
  start : Nat
  stop : Nat
  first : UInt8
  fault : Fault
  deriving DecidableEq

/-- The wording of a refusal to decode. -/
def DecodeError.message (e : DecodeError) : Text :=
  if e.stop = e.start + 1 then
    "'utf-8' codec can't decode byte 0x" ++ Text.hex 2 e.first.toNat ++ " in position " ++
      Text.ofNat e.start ++ ": " ++ e.fault.message
  else
    "'utf-8' codec can't decode bytes in position " ++ Text.ofNat e.start ++ "-" ++
      Text.ofNat (e.stop - 1) ++ ": " ++ e.fault.message

/-! ### Writing -/

/-- The byte sequence of a code point. -/
def encodePoint (c : CodePoint) : List UInt8 :=
  let n := c.val
  let continuation (shift : Nat) : UInt8 := UInt8.ofNat (0x80 + n / shift % 0x40)
  if n < 0x80 then [UInt8.ofNat n]
  else if n < 0x800 then [UInt8.ofNat (0xC0 + n / 0x40), continuation 1]
  else if n < 0x10000 then [UInt8.ofNat (0xE0 + n / 0x1000), continuation 0x40, continuation 1]
  else [UInt8.ofNat (0xF0 + n / 0x40000), continuation 0x1000, continuation 0x40, continuation 1]

/-- The first run of surrogates of a text. -/
def surrogates? (t : Text) : Option EncodeError :=
  match t.dropWhile (!·.isSurrogate) with
  | [] => none
  | c :: rest =>
    let start := (t.takeWhile (!·.isSurrogate)).length
    some { start, stop := start + 1 + (rest.takeWhile CodePoint.isSurrogate).length, first := c }

/-- The bytes of a text. -/
def encode (t : Text) : Except EncodeError (List UInt8) :=
  match surrogates? t with
  | some e => .error e
  | none => .ok (t.flatMap encodePoint)

/-! ### Reading -/

/-- A byte that continues a sequence. -/
def isContinuation (b : UInt8) : Bool := 0x80 ≤ b && b ≤ 0xBF

/-- How many bytes a sequence has after its first byte; a byte that starts none has no answer. -/
def followers? (b : UInt8) : Option Nat :=
  if b < 0x80 then some 0
  else if b < 0xC2 then none
  else if b < 0xE0 then some 1
  else if b < 0xF0 then some 2
  else if b < 0xF5 then some 3
  else none

/-- Whether a byte may be the second one of a sequence. Some first bytes leave out values that have
a shorter sequence, are surrogates, or lie beyond the last code point. -/
def isSecond (first b : UInt8) : Bool :=
  isContinuation b &&
    (if first = 0xE0 then 0xA0 ≤ b
      else if first = 0xED then b < 0xA0
      else if first = 0xF0 then 0x90 ≤ b
      else if first = 0xF4 then b < 0x90
      else true)

/-- How many of the bytes that have to follow a first byte do so properly. -/
def goodFollowers (first : UInt8) (count : Nat) (rest : List UInt8) : Nat :=
  match rest.take count with
  | [] => 0
  | b :: more => if isSecond first b then 1 + (more.takeWhile isContinuation).length else 0

/-- The code point of a whole sequence. -/
def join (first : UInt8) (followers : List UInt8) : CodePoint :=
  let lead : Nat :=
    if first < 0x80 then first.toNat
    else if first < 0xE0 then first.toNat - 0xC0
    else if first < 0xF0 then first.toNat - 0xE0
    else first.toNat - 0xF0
  Fin.ofNat _ (followers.foldl (fun value b ↦ value * 0x40 + (b.toNat - 0x80)) lead)

/-- The text of bytes from a position on, after what was read before, in reverse. -/
def decodeFrom (position : Nat) (before : Text) (bytes : List UInt8) : Except DecodeError Text :=
  match bytes with
  | [] => .ok before.reverse
  | b :: rest =>
    match followers? b with
    | none => .error { start := position, stop := position + 1, first := b, fault := .badStart }
    | some count =>
      let good := goodFollowers b count rest
      if good = count then
        decodeFrom (position + 1 + count) (join b (rest.take count) :: before) (rest.drop count)
      else
        let fault := if good = rest.length then Fault.cutOff else .badContinuation
        .error { start := position, stop := position + 1 + good, first := b, fault }
  termination_by bytes.length
  decreasing_by simp only [List.length_cons, List.length_drop]; omega

/-- The text of bytes. -/
def decode (bytes : List UInt8) : Except DecodeError Text := decodeFrom 0 [] bytes

/-! ### Line ends -/

/-- A text with every line end, of whichever kind, as a line feed. -/
def unifyLineEnds : Text → Text
  | [] => []
  | [c] => if c = 13 then [10] else [c]
  | c :: d :: rest =>
    if c = 13 then
      if d = 10 then 10 :: unifyLineEnds rest else 10 :: unifyLineEnds (d :: rest)
    else c :: unifyLineEnds (d :: rest)

end SignatureBridge.Utf8
