import HttpFetch.Charset.Chinese

/-!
# Chinese characters between tildes

A tilde and a brace begin and end runs of characters of GB 2312, which have two octets in the lower
half each. Outside of runs a tilde is written twice, and one before the end of a line joins it to
the next line.
-/

namespace HttpFetch.Hz

def tilde : UInt8 := 0x7e
def opening : UInt8 := 0x7b
def closing : UInt8 := 0x7d
def newline : UInt8 := 0x0a

/-- The text of octets, inside or outside of a run. -/
def decodeFrom (inRun : Bool) (data : Bytes) : Text :=
  match data with
  | [] => []
  | [b] =>
    if b = tilde then [Utf8.replacement]
    else if 0x80 ≤ b || inRun then [Utf8.replacement]
    else [Char.ofNat b.toNat]
  | b :: c :: rest =>
    if b = tilde then
      if inRun then
        if c = closing then decodeFrom false rest
        else Utf8.replacement :: decodeFrom true (c :: rest)
      else if c = tilde then '~' :: decodeFrom false rest
      else if c = opening then decodeFrom true rest
      else if c = newline then decodeFrom false rest
      else Utf8.replacement :: decodeFrom false (c :: rest)
    else if 0x80 ≤ b then Utf8.replacement :: decodeFrom inRun (c :: rest)
    else if inRun then
      match Chinese.standardHanzi.char? [b, c] with
      | some char => char :: decodeFrom true rest
      | none => Utf8.replacement :: decodeFrom true (c :: rest)
    else Char.ofNat b.toNat :: decodeFrom false (c :: rest)
termination_by data.length
decreasing_by all_goals simp only [List.length_cons]; omega

def decode (data : Bytes) : Text := decodeFrom false data

def covers (c : Char) : Bool := c.toNat < 0x80 || (Chinese.standardHanzi.code? c).isSome

/-- The octets of a text, inside or outside of a run. -/
def encodeFrom? (inRun : Bool) : Text → Option Bytes
  | [] => some (if inRun then [tilde, closing] else [])
  | c :: rest =>
    if c.toNat < 0x80 then do
      let others ← encodeFrom? false rest
      let b := UInt8.ofNat c.toNat
      some ((if inRun then [tilde, closing] else []) ++ (if b = tilde then [b, b] else [b])
        ++ others)
    else do
      let code ← Chinese.standardHanzi.code? c
      let others ← encodeFrom? true rest
      some ((if inRun then [] else [tilde, opening]) ++ code ++ others)

/-- The octets of a text, if GB 2312 has all its characters apart from ASCII. -/
def encode? (s : Text) : Option Bytes := encodeFrom? false s

end HttpFetch.Hz
