/-!
# Reading octets as text

`decodeLossy` reads octets as UTF-8 and never fails: every octet, or longest run of octets that
begins a character, which cannot be continued to a character is read as one replacement character.
-/

namespace SqlBuilder.Text.Utf8

inductive State where
  /-- Between characters. -/
  | start
  /-- Inside a character: `owed` more octets, the next one from `low` to `high`, and the bits read
  so far. -/
  | inside (owed low high bits : Nat)

/-- Stands for octets that are no character. -/
def replacement : Char := '\uFFFD'

/-- The effect of the first octet of a character. -/
def first (b : Nat) : List Char × State :=
  if b < 0x80 then ([Char.ofNat b], .start)
  else if b < 0xC2 then ([replacement], .start)
  else if b < 0xE0 then ([], .inside 1 0x80 0xBF (b - 0xC0))
  else if b = 0xE0 then ([], .inside 2 0xA0 0xBF 0)
  else if b = 0xED then ([], .inside 2 0x80 0x9F 0xD)
  else if b < 0xF0 then ([], .inside 2 0x80 0xBF (b - 0xE0))
  else if b = 0xF0 then ([], .inside 3 0x90 0xBF 0)
  else if b < 0xF4 then ([], .inside 3 0x80 0xBF (b - 0xF0))
  else if b = 0xF4 then ([], .inside 3 0x80 0x8F 4)
  else ([replacement], .start)

/-- The effect of an octet: the characters it completes or spoils, and the state after it. -/
def step : State → Nat → List Char × State
  | .start, b => first b
  | .inside owed low high bits, b =>
    if low ≤ b && b ≤ high then
      let bits := bits * 64 + (b - 0x80)
      if owed ≤ 1 then ([Char.ofNat bits], .start)
      else ([], .inside (owed - 1) 0x80 0xBF bits)
    else
      let (done, state) := first b
      (replacement :: done, state)

/-- The characters of the octets that remain, read from a state. -/
def decodeFrom : State → List UInt8 → List Char
  | .start, [] => []
  | .inside .., [] => [replacement]
  | state, b :: rest =>
    let (done, state) := step state b.toNat
    done ++ decodeFrom state rest

/-- Octets read as text, with replacement characters for what is not UTF-8. -/
def decodeLossy (bytes : List UInt8) : String :=
  String.ofList (decodeFrom .start bytes)

example : decodeLossy [0x61, 0xC3, 0xA9, 0xFF, 0xE2, 0x82, 0x62] = "aé\uFFFD\uFFFDb" := by decide

end SqlBuilder.Text.Utf8
