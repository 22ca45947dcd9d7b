import OAuthEndpoint.Text.Pieces

/-! Punycode: a label with characters beyond ASCII as a label of ASCII alone.  The ASCII characters
come first, then a hyphen, then numbers that say which characters are missing and where, each in
digits of base 36 whose weights adapt to the numbers before. -/

namespace OAuthEndpoint.Idna.Punycode

/-- The digits are the letters from `a` and then `0` to `9`. -/
def digit (n : Nat) : Char := if n < 26 then Char.ofNat (97 + n) else Char.ofNat (22 + n)

def digitValue? (c : Char) : Option Nat :=
  if 'a' ≤ c ∧ c ≤ 'z' then some (c.toNat - 97)
  else if '0' ≤ c ∧ c ≤ '9' then some (c.toNat - 22)
  else none

/-- The bound between the digits that end a number and those that go on, at a place that counts in
steps of 36. -/
def threshold (place bias : Nat) : Nat :=
  if place ≤ bias then 1 else if bias + 26 ≤ place then 26 else place - bias

/-- The bias that a scaled number leads to. -/
def biasOf (delta place : Nat) : Nat :=
  if delta > 455 then biasOf (delta / 35) (place + 36) else place + 36 * delta / (delta + 38)
termination_by delta

/-- The bias after a number: `first` says that it was the first, and `count` how many characters
there are now. -/
def adapt (first : Bool) (delta count : Nat) : Nat :=
  let delta := if first then delta / 700 else delta / 2
  biasOf (delta + delta / count) 0

/-- The digits of a number from a place on. -/
def digits (bias place n : Nat) : List Char :=
  if h : n < threshold place bias then [digit n]
  else
    let t := threshold place bias
    digit (t + (n - t) % (36 - t)) :: digits bias (place + 36) ((n - t) / (36 - t))
termination_by n
decreasing_by
  have pos : 1 ≤ threshold place bias := by unfold threshold; split <;> (try split) <;> omega
  have le : threshold place bias ≤ 26 := by unfold threshold; split <;> (try split) <;> omega
  have := Nat.div_le_self (n - threshold place bias) (36 - threshold place bias)
  omega

/-- Where an encoding stands: the distance since the last number, the bias, and how many characters
are written. -/
structure Encoding where
  delta : Nat
  bias : Nat
  count : Nat
  first : Bool
  /-- The digits so far, in pieces in reverse. -/
  written : List (List Char)

/-- Passes a character of the label while the character `next` is being written. -/
def Encoding.pass (next : Char) (state : Encoding) (c : Char) : Encoding :=
  if c < next then { state with delta := state.delta + 1 }
  else if c = next then
    { delta := 0
      bias := adapt state.first state.delta (state.count + 1)
      count := state.count + 1
      first := false
      written := digits state.bias 36 state.delta :: state.written }
  else state

/-- Writes the places of the characters in ascending order; `reached` is the code point up to which
all is written. -/
def encodeFrom (label : List Char) (reached : Nat) (state : Encoding) : List Char → Encoding
  | [] => state
  | next :: rest =>
    let skipped := (next.toNat - reached) * (state.count + 1)
    let state := label.foldl (Encoding.pass next) { state with delta := state.delta + skipped }
    encodeFrom label (next.toNat + 1) { state with delta := state.delta + 1 } rest

def isBasic (c : Char) : Bool := c < '\u0080'

/-- The ASCII form of a label, without what marks it as one. -/
def encode (label : List Char) : List Char :=
  let basic := label.filter isBasic
  let others := ((label.filter fun c => !isBasic c).eraseDups).mergeSort fun a b => a ≤ b
  let start : Encoding := ⟨0, 72, basic.length, true, []⟩
  (if basic.isEmpty then [] else basic ++ ['-']) ++
    (encodeFrom label 128 start others).written.reverse.flatten

/-- Where a decoding stands: the code point reached, the position reached, the bias, the label so
far, and the number that is being read with its place and weight. -/
structure Decoding where
  code : Nat
  position : Nat
  bias : Nat
  label : List Char
  number : Nat
  place : Nat
  weight : Nat

/-- Puts in the character that a finished number stands for, unless its code point is none. -/
def Decoding.finish? (state : Decoding) : Option Decoding :=
  let count := state.label.length + 1
  let position := state.position + state.number
  let code := state.code + position / count
  if code < 0xD800 || (0xE000 ≤ code && code < 0x110000) then
    some {
      code
      position := position % count + 1
      bias := adapt (state.position = 0 && state.code = 128) state.number count
      label := state.label.insertIdx (position % count) (Char.ofNat code)
      number := 0, place := 36, weight := 1 }
  else none

/-- Reads a digit. -/
def Decoding.step? (state : Decoding) (c : Char) : Option Decoding := do
  let d ← digitValue? c
  let t := threshold state.place state.bias
  let state := { state with number := state.number + d * state.weight }
  if d < t then state.finish?
  else return { state with place := state.place + 36, weight := state.weight * (36 - t) }

/-- The ASCII characters and the digits after the last hyphen, which may not stand first. -/
def parts (text : List Char) : List Char × List Char :=
  match Text.cut (· == '-') text.reverse with
  | (_, none) => ([], text)
  | (_, some []) => ([], text)
  | (after, some before) => (before.reverse, after.reverse)

/-- The label of an ASCII form. -/
def decode? (text : List Char) : Option (List Char) := do
  let (basic, digits) := parts text
  let state ← digits.foldlM Decoding.step? ⟨128, 0, 72, basic, 0, 36, 1⟩
  if state.place = 36 then some state.label else none

end OAuthEndpoint.Idna.Punycode
